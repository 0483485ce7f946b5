import Cantilune.Base.Runs
import Cantilune.Observability.Index

/-!
# What an observation reads and projects

The checks of a cut say that its changes lead from the reference asked for to the head. The bundle of an
accepted window has one event for every change, and a visible change has the slice between its snapshots in
all four views.
-/

namespace Cantilune

/-! ## Chains of references -/

def Rewrites (ref : SnapshotRef) (change : CoordinationChange) (next : SnapshotRef) : Prop :=
  change.beforeRef = ref ∧ change.afterRef = next

def Contiguous (changes : List CoordinationChange) : Prop :=
  changes.IsChain fun previous current => current.beforeRef = previous.afterRef

theorem forall_neighbours_iff {P : CoordinationChange → CoordinationChange → Prop}
    {changes : List CoordinationChange} {start : Nat} :
    (∀ e ∈ (changes.zip changes.tail).zipIdx start, P e.1.1 e.1.2) ↔ changes.IsChain P := by
  induction changes generalizing start with
  | nil => simp
  | cons first rest ih =>
      cases rest with
      | nil => simp
      | cons second rest =>
          have hrest := @ih (start + 1)
          simp only [List.tail_cons] at hrest
          simp only [List.tail_cons, List.zip_cons_cons, List.zipIdx_cons, List.forall_mem_cons,
            List.isChain_cons_cons, hrest]

theorem validateBeforeRefChainResult_eq_none {changes : List CoordinationChange} :
    validateBeforeRefChainResult changes = none ↔ Contiguous changes := by
  rw [Contiguous, ← @forall_neighbours_iff _ _ 1]
  simp [validateBeforeRefChainResult, neighbours]

theorem validateEpochConsistentResult_eq_none {changes : List CoordinationChange} :
    validateEpochConsistentResult changes = none ↔
      ∀ first ∈ changes.head?, ∀ change ∈ changes, change.epochId = first.epochId := by
  unfold validateEpochConsistentResult
  cases changes with
  | nil => simp
  | cons first rest => simp

theorem validateChangeChainContinuity_eq_ok {changes : List CoordinationChange} :
    validateChangeChainContinuity changes = .ok () ↔ Contiguous changes := by
  rw [Contiguous, ← @forall_neighbours_iff _ _ 1]
  unfold validateChangeChainContinuity neighbours
  cases hfind : ((changes.zip changes.tail).zipIdx 1).find? fun e => decide (e.1.2.beforeRef ≠ e.1.1.afterRef) with
  | none =>
      have hnone := List.find?_eq_none.1 hfind
      simpa using hnone
  | some e =>
      have hmem := List.mem_of_find?_eq_some hfind
      have he := List.find?_some hfind
      simp only [ne_eq, decide_not, Bool.not_eq_true', decide_eq_false_iff_not] at he
      simp only [reduceCtorEq, false_iff, not_forall]
      exact ⟨e, hmem, he⟩

theorem validateChangeEpochs_eq_ok {snapshot : CollaborationSnapshot} {changes : List CoordinationChange} :
    validateChangeEpochs snapshot changes = .ok () ↔ ∀ change ∈ changes, change.epochId = snapshot.epochId := by
  unfold validateChangeEpochs
  cases hfind : changes.find? fun change => decide (change.epochId ≠ snapshot.epochId) with
  | none => simpa using hfind
  | some change =>
      have hmem := List.mem_of_find?_eq_some hfind
      have hne := List.find?_some hfind
      simp only [ne_eq, decide_not, Bool.not_eq_true', decide_eq_false_iff_not] at hne
      simp only [reduceCtorEq, false_iff, not_forall]
      exact ⟨change, hmem, hne⟩

theorem run_rewrites_iff {sinceRef headRef : SnapshotRef} {changes : List CoordinationChange} :
    Run Rewrites sinceRef changes headRef ↔
      (changes = [] → sinceRef = headRef) ∧ (∀ first ∈ changes.head?, first.beforeRef = sinceRef) ∧
        (∀ last ∈ changes.getLast?, last.afterRef = headRef) ∧ Contiguous changes := by
  induction changes generalizing sinceRef with
  | nil => simp [Run.nil_iff, Contiguous]
  | cons first rest ih =>
      rw [Run.cons_iff]
      cases rest with
      | nil => simp [Rewrites, Contiguous, Run.nil_iff]
      | cons second rest =>
          simp only [ih, Rewrites, Contiguous, List.isChain_cons_cons, List.head?_cons, Option.mem_some_iff,
            forall_eq', List.getLast?_cons_cons, reduceCtorEq, false_implies, true_and]
          constructor
          · rintro ⟨ref, ⟨rfl, rfl⟩, hsecond, hlast, hchain⟩
            exact ⟨rfl, hlast, hsecond, hchain⟩
          · rintro ⟨rfl, hlast, hsecond, hchain⟩
            exact ⟨first.afterRef, ⟨rfl, rfl⟩, hsecond, hlast, hchain⟩

/-- A window that leads from the reference asked for to the head, in the epoch of the head. -/
structure ClosedCut (input : ObservationInput) : Prop where
  head : input.snapshot.snapshotRef = input.headRef
  leads : Run Rewrites input.sinceRef input.changes input.headRef
  unique : (input.changes.map (·.changeId)).Nodup
  epochs : ∀ change ∈ input.changes, change.epochId = input.snapshot.epochId

theorem validateChangeChainBounds_eq_ok {sinceRef headRef : SnapshotRef} {changes : List CoordinationChange} :
    validateChangeChainBounds sinceRef headRef changes = .ok () ↔
      (∀ first ∈ changes.head?, first.beforeRef = sinceRef) ∧
        ∀ last ∈ changes.getLast?, last.afterRef = headRef := by
  unfold validateChangeChainBounds
  cases changes with
  | nil => simp
  | cons first rest =>
      rw [List.head?_cons, List.getLast?_cons]
      simp [Outcome.bind_eq_ok]

theorem validateObservationCut_eq_ok {input : ObservationInput} :
    validateObservationCut input = .ok () ↔ ClosedCut input := by
  obtain ⟨headRef, sinceRef, snapshot, changes, history⟩ := input
  cases changes with
  | nil =>
      simp only [validateObservationCut, validateHeadAlignment, List.length_nil, Outcome.bind_eq_ok,
        throwUnless_eq_ok]
      constructor
      · rintro ⟨_, ⟨_, hhead, hempty⟩, -⟩
        have hrefs : sinceRef = headRef := by simpa using hempty
        exact ⟨hhead, Run.nil_iff.2 hrefs, List.nodup_nil, by simp⟩
      · intro h
        exact ⟨(), ⟨(), h.head, by simpa using Run.nil_iff.1 h.leads⟩, rfl⟩
  | cons first rest =>
      have hbody : validateObservationCut ⟨headRef, sinceRef, snapshot, first :: rest, history⟩ = .ok () ↔
          snapshot.snapshotRef = headRef ∧ ((first :: rest).map (·.changeId)).Nodup ∧
            ((∀ c ∈ (first :: rest).head?, c.beforeRef = sinceRef) ∧
              ∀ c ∈ (first :: rest).getLast?, c.afterRef = headRef) ∧ Contiguous (first :: rest) ∧
            (∀ f ∈ (first :: rest).head?, ∀ c ∈ first :: rest, c.epochId = f.epochId) ∧
            ∀ c ∈ first :: rest, c.epochId = snapshot.epochId := by
        rw [← validateChangeChainBounds_eq_ok, ← validateChangeEpochs_eq_ok,
          ← validateEpochConsistentResult_eq_none]
        have hlength : ¬ (first :: rest).length = 0 := by simp
        simp only [validateObservationCut, validateHeadAlignment, hlength, if_false, Outcome.seq_eq_ok,
          throwUnless_eq_ok, throwCore_eq_ok, validateChangeChainContinuity_eq_ok,
          validateBeforeRefChainResult_eq_none, uniqueChangeIds, decide_eq_true_eq, false_and,
          not_false_eq_true, and_true, and_self_left]
      rw [hbody]
      constructor
      · rintro ⟨hhead, hunique, ⟨hfirst, hlast⟩, hchain, -, hepochs⟩
        exact ⟨hhead, run_rewrites_iff.2 ⟨by simp, hfirst, hlast, hchain⟩, hunique, hepochs⟩
      · rintro ⟨hhead, hleads, hunique, hepochs⟩
        obtain ⟨-, hfirst, hlast, hchain⟩ := run_rewrites_iff.1 hleads
        have hsame : ∀ f ∈ (first :: rest).head?, ∀ c ∈ first :: rest, c.epochId = f.epochId := by
          intro f hf c hc
          exact (hepochs c hc).trans (hepochs f (List.mem_of_mem_head? hf)).symm
        exact ⟨hhead, hunique, ⟨hfirst, hlast⟩, hchain, hsame, hepochs⟩

theorem assertHistoryMatchesWindow_eq_ok {validated : ValidatedRunHistory} {changes : List CoordinationChange} :
    assertHistoryMatchesWindow validated changes = .ok () ↔
      (rewriteSegments validated.segments).map (·.changeId) = changes.map (·.changeId) := by
  have hzip : ∀ (xs ys : List CoordinationChange) (start : Nat), ys.length = xs.length →
      (((xs.zip ys).zipIdx start).find? (fun e => e.1.1.changeId ≠ e.1.2.changeId) = none ↔
        ys.map (·.changeId) = xs.map (·.changeId)) := by
    intro xs
    induction xs with
    | nil =>
        intro ys start hlength
        rw [List.length_nil, List.length_eq_zero_iff] at hlength
        simp [hlength]
    | cons x xs ih =>
        rintro (_ | ⟨y, ys⟩) start hlength
        · simp at hlength
        · have hrest := ih ys (start + 1) (by simpa using hlength)
          rw [List.find?_eq_none] at hrest ⊢
          rw [List.zip_cons_cons, List.zipIdx_cons, List.forall_mem_cons, hrest, List.map_cons, List.map_cons,
            List.cons.injEq, eq_comm (a := y.changeId)]
          simp
  unfold assertHistoryMatchesWindow
  rw [Outcome.seq_eq_ok, throwUnless_eq_ok]
  by_cases hlength : (rewriteSegments validated.segments).length = changes.length
  · rw [← hzip changes _ 0 hlength]
    cases hfind : ((changes.zip (rewriteSegments validated.segments)).zipIdx).find? fun e =>
        decide (e.1.1.changeId ≠ e.1.2.changeId) with
    | none => exact iff_of_true ⟨hlength, rfl⟩ rfl
    | some e => exact iff_of_false (fun h => nomatch h.2) fun h => nomatch h
  · refine iff_of_false (fun h => hlength h.1) fun h => hlength ?_
    simpa using congrArg List.length h

theorem readObservationCut_constant {ports : ObservationReadPorts} {sinceRef headRef : SnapshotRef}
    {snapshot : CollaborationSnapshot} {input : ObservationInput} (hhead : ports.head = some headRef)
    (hsnapshot : ports.getSnapshot headRef = some snapshot) :
    readObservationCutFromPorts (fun _ => ports) sinceRef = .ok input ↔
      ∃ validated, resolveValidatedHistory ports.runHistory (ports.changesSince sinceRef) = .ok validated ∧
        input = { headRef, sinceRef, snapshot, changes := ports.changesSince sinceRef, validatedHistory := validated } ∧
        ClosedCut input := by
  have hsample : readStableCutSample (fun _ => ports) sinceRef =
      .ok (some { headRef, snapshot, changes := ports.changesSince sinceRef }) := by
    simp [readStableCutSample, hhead, hsnapshot]
  have hread : readObservationCutFromPorts (fun _ => ports) sinceRef =
      (resolveValidatedHistory ports.runHistory (ports.changesSince sinceRef) >>= fun validated =>
        validateObservationCut ⟨headRef, sinceRef, snapshot, ports.changesSince sinceRef, validated⟩ >>= fun _ =>
          .ok ⟨headRef, sinceRef, snapshot, ports.changesSince sinceRef, validated⟩) := by
    rw [readObservationCutFromPorts, defaultCutAttempts, readObservationCutAttempts, hsample]
    rfl
  rw [hread, Outcome.bind_eq_ok]
  refine exists_congr fun validated => and_congr_right fun _ => ?_
  rw [Outcome.seq_eq_ok, validateObservationCut_eq_ok]
  constructor
  · rintro ⟨hcut, hinput⟩
    cases hinput
    exact ⟨rfl, hcut⟩
  · rintro ⟨rfl, hcut⟩
    exact ⟨hcut, rfl⟩

section Indices
variable {T : Type} {entries : List (EventTag × T)} {index : EventTagIndex T}

def EventTagIndex.ofEntries (entries : List (EventTag × T)) : EventTagIndex T :=
  { byKey := .keyedBy (fun entry => eventTagKey entry.1) entries }

theorem createEventTagIndex_eq_ok : createEventTagIndex entries = .ok index ↔
    (entries.map fun entry => eventTagKey entry.1).Nodup ∧ index = .ofEntries entries := by
  simp only [createEventTagIndex, Outcome.bind_eq_ok, OrdMap.addAll_empty_eq_ok]
  constructor
  · rintro ⟨_, ⟨hnodup, rfl⟩, hindex⟩
    cases hindex
    exact ⟨hnodup, rfl⟩
  · rintro ⟨hnodup, rfl⟩
    exact ⟨_, ⟨hnodup, rfl⟩, rfl⟩

end Indices

/-- Every entry is stored under its own id. -/
structure EntriesKeyed (s : CollaborationSnapshot) : Prop where
  links : ∀ k l, s.links.get? k = some l → l.linkId = k
  capabilities : ∀ k c, s.capabilities.get? k = some c → c.capabilityId = k
  sessions : ∀ k c, s.sessions.get? k = some c → c.sessionId = k

theorem Integrity.entriesKeyed {s : CollaborationSnapshot} (h : Integrity s) : EntriesKeyed s :=
  ⟨fun k l hl => (h.links k l hl).1.symm, fun k c hc => (h.capabilities k c hc).1.symm,
    fun k c hc => (h.sessions k c hc).1.symm⟩

/-! ## Windows of committed steps -/

/-- A change with the snapshots it went from and to. -/
structure CommittedStep where
  change : CoordinationChange
  before : CollaborationSnapshot
  after : CollaborationSnapshot

def CommittedStep.event (step : CommittedStep) : SourceEvent := sourceEventFromChange step.change

def CommittedStep.slice (step : CommittedStep) : ProjectionSlice := sliceBetween step.event step.before step.after

def CommittedStep.visible (step : CommittedStep) : Bool := includeInReadAngles step.change

def Window (resolver : SnapshotReader) : List CoordinationChange → List CommittedStep → Prop :=
  List.Forall₂ fun change step => step.change = change ∧ resolver change.beforeRef = some step.before ∧
    resolver change.afterRef = some step.after

theorem Window.changes {resolver : SnapshotReader} {changes : List CoordinationChange} {steps : List CommittedStep}
    (h : Window resolver changes steps) : changes = steps.map (·.change) := by
  induction h with
  | nil => rfl
  | cons head _ ih => rw [List.map_cons, head.1, ih]

theorem Window.unique {resolver : SnapshotReader} {changes : List CoordinationChange}
    {steps steps' : List CommittedStep} (h : Window resolver changes steps) (h' : Window resolver changes steps') :
    steps = steps' := by
  induction h generalizing steps' with
  | nil => exact (List.forall₂_nil_left_iff.1 h').symm
  | @cons change step changes steps head _ ih =>
      obtain ⟨step', rest', hhead', hrest', rfl⟩ := List.forall₂_cons_left_iff.1 h'
      obtain ⟨rfl, hbefore, hafter⟩ := head
      obtain ⟨hchange, hbefore', hafter'⟩ := hhead'
      rw [ih hrest']
      cases step
      cases step'
      simp_all

theorem resolveSnapshotStrict_eq_ok {resolver : SnapshotReader} {ref : SnapshotRef} {path : String}
    {snapshot : CollaborationSnapshot} : resolveSnapshotStrict resolver ref path = .ok snapshot ↔
      resolver ref = some snapshot ∧ snapshot.snapshotRef = ref := by
  unfold resolveSnapshotStrict
  cases resolver ref with
  | none => simp
  | some found =>
      by_cases hfound : found.snapshotRef = ref
      · simp only [ne_eq, hfound, not_true_eq_false, if_false, Except.ok.injEq, Option.some.injEq]
        exact ⟨fun h => ⟨h, h ▸ hfound⟩, fun h => h.1⟩
      · simp only [ne_eq, hfound, not_false_eq_true, if_true, reduceCtorEq, Option.some.injEq, false_iff]
        exact fun h => hfound (h.1 ▸ h.2)

def Honest (resolver : SnapshotReader) (changes : List CoordinationChange) : Prop :=
  ∀ change ∈ changes, (∀ s ∈ resolver change.beforeRef, s.snapshotRef = change.beforeRef) ∧
    ∀ s ∈ resolver change.afterRef, s.snapshotRef = change.afterRef

theorem deriveEventSlice_eq_ok {resolver : SnapshotReader} {change : CoordinationChange} {slice : ProjectionSlice} :
    deriveEventSlice resolver (sourceEventFromChange change) = .ok slice ↔
      ∃ before after, resolver change.beforeRef = some before ∧ before.snapshotRef = change.beforeRef ∧
        resolver change.afterRef = some after ∧ after.snapshotRef = change.afterRef ∧
        slice = CommittedStep.slice { change, before, after } := by
  simp only [deriveEventSlice, Outcome.bind_eq_ok, resolveSnapshotStrict_eq_ok]
  constructor
  · rintro ⟨before, ⟨hbefore, hbeforeRef⟩, after, ⟨hafter, hafterRef⟩, hslice⟩
    cases hslice
    exact ⟨before, after, hbefore, hbeforeRef, hafter, hafterRef, rfl⟩
  · rintro ⟨before, after, hbefore, hbeforeRef, hafter, hafterRef, rfl⟩
    exact ⟨before, ⟨hbefore, hbeforeRef⟩, after, ⟨hafter, hafterRef⟩, rfl⟩

theorem deriveAllEventSlices_eq_ok {resolver : SnapshotReader} {changes : List CoordinationChange}
    {slices : List ProjectionSlice} : deriveAllEventSlices resolver (buildEventSpine changes) = .ok slices ↔
      ∃ steps, Window resolver changes steps ∧ Honest resolver changes ∧ slices = steps.map (·.slice) := by
  rw [deriveAllEventSlices, Outcome.mapM_eq_ok, buildEventSpine, List.forall₂_map_left_iff]
  induction changes generalizing slices with
  | nil =>
      rw [List.forall₂_nil_left_iff]
      constructor
      · rintro rfl
        exact ⟨[], .nil, by simp [Honest], rfl⟩
      · rintro ⟨steps, hsteps, -, rfl⟩
        rw [List.forall₂_nil_left_iff.1 hsteps]
        rfl
  | cons change changes ih =>
      rw [List.forall₂_cons_left_iff]
      constructor
      · rintro ⟨slice, rest, hslice, hrest, rfl⟩
        obtain ⟨before, after, hbefore, hbeforeRef, hafter, hafterRef, rfl⟩ := deriveEventSlice_eq_ok.1 hslice
        obtain ⟨steps, hsteps, hhonest, rfl⟩ := ih.1 hrest
        refine ⟨⟨change, before, after⟩ :: steps, .cons ⟨rfl, hbefore, hafter⟩ hsteps, ?_, rfl⟩
        rintro other hother
        rcases List.mem_cons.1 hother with rfl | hother
        · exact ⟨fun s hs => by cases hbefore.symm.trans hs; exact hbeforeRef,
            fun s hs => by cases hafter.symm.trans hs; exact hafterRef⟩
        · exact hhonest other hother
      · rintro ⟨steps, hsteps, hhonest, rfl⟩
        obtain ⟨⟨_, before, after⟩, rest, ⟨rfl, hbefore, hafter⟩, hrest, rfl⟩ := List.forall₂_cons_left_iff.1 hsteps
        have hhead := hhonest _ List.mem_cons_self
        refine ⟨_, rest.map (·.slice), deriveEventSlice_eq_ok.2 ⟨before, after, hbefore, hhead.1 _ hbefore, hafter,
          hhead.2 _ hafter, rfl⟩, ih.2 ⟨rest, hrest, fun other hother => ?_, rfl⟩, rfl⟩
        exact hhonest other (List.mem_cons_of_mem _ hother)

/-! ## The bundle of a window -/

section Bundles
variable {localeCompare : LocaleCompare} {world : ObservationWorld} {steps : List CommittedStep}
  {step : CommittedStep} {T : Type} {f : ProjectionSlice → T}

def visibleEntries (f : ProjectionSlice → T) (steps : List CommittedStep) : List (EventTag × T) :=
  (steps.filter (·.visible)).map fun step => (step.event.eventTag, f step.slice)

def visibleIndex (f : ProjectionSlice → T) (steps : List CommittedStep) : EventTagIndex T :=
  .ofEntries (visibleEntries f steps)

theorem nodup_visibleEntries (h : (steps.map (·.change.changeId)).Nodup) :
    ((visibleEntries f steps).map fun entry => eventTagKey entry.1).Nodup := by
  rw [visibleEntries, List.map_map]
  exact h.sublist (List.filter_sublist.map _)

theorem get?_visibleIndex (h : (steps.map (·.change.changeId)).Nodup) (hmem : step ∈ steps) :
    (visibleIndex f steps).byKey.get? step.change.changeId =
      if step.visible then some (step.event.eventTag, f step.slice) else none := by
  have hfound : ∀ entry, (visibleIndex f steps).byKey.get? step.change.changeId = some entry ↔
      entry ∈ visibleEntries f steps ∧ entry.1.changeId = step.change.changeId := fun entry =>
    OrdMap.get?_keyedBy (nodup_visibleEntries h)
  have hsame : ∀ other ∈ steps, other.change.changeId = step.change.changeId → other = step := fun other hother heq =>
    List.inj_on_of_nodup_map h hother hmem heq
  by_cases hvisible : step.visible = true
  · rw [if_pos hvisible, hfound]
    exact ⟨List.mem_map.2 ⟨step, List.mem_filter.2 ⟨hmem, hvisible⟩, rfl⟩, rfl⟩
  · rw [if_neg hvisible, Option.eq_none_iff_forall_ne_some]
    intro entry hentry
    obtain ⟨hentry, hid⟩ := (hfound entry).1 hentry
    obtain ⟨other, hother, rfl⟩ := List.mem_map.1 hentry
    obtain ⟨hother, hothers⟩ := List.mem_filter.1 hother
    rw [hsame other hother hid] at hothers
    exact hvisible hothers

theorem get_visibleIndex (h : (steps.map (·.change.changeId)).Nodup) (hmem : step ∈ steps) :
    (visibleIndex f steps).get step.event.eventTag = .ok (if step.visible then some (f step.slice) else none) := by
  have hkey : eventTagKey step.event.eventTag = step.change.changeId := rfl
  unfold EventTagIndex.get
  rw [hkey, get?_visibleIndex h hmem]
  by_cases hvisible : step.visible = true
  · simp [hvisible]
  · simp [hvisible]

theorem getByChangeId_visibleIndex (h : (steps.map (·.change.changeId)).Nodup) (hmem : step ∈ steps) :
    (visibleIndex f steps).getByChangeId step.change.changeId =
      if step.visible then some (f step.slice) else none := by
  rw [EventTagIndex.getByChangeId, get?_visibleIndex h hmem]
  split <;> rfl

def bundleOf (localeCompare : LocaleCompare) (snapshot : CollaborationSnapshot) (steps : List CommittedStep) :
    FourViewBundle where
  spine := steps.map (·.event)
  dependency :=
    { links := filterLinksByKind localeCompare snapshot.links isDependencyLinkKind
      byEvent := visibleIndex ProjectionSlice.dependency steps }
  resource :=
    { capabilities := sortById localeCompare ScopedCapability.capabilityId snapshot.capabilities.values
      byEvent := visibleIndex ProjectionSlice.resource steps }
  communication :=
    { sessions := sortById localeCompare CommunicationSession.sessionId snapshot.sessions.values
      byEvent := visibleIndex ProjectionSlice.communication steps }
  «structure» :=
    { composition := foldStructureComposition localeCompare
        ((steps.filter (·.visible)).map fun step => step.slice.structure.step)
        (cloneSnapshotForObservation snapshot)
      structuralLinks := filterLinksByKind localeCompare snapshot.links isStructuralLinkKind
      byEvent := visibleIndex ProjectionSlice.structure steps }

theorem filter_isVisibleSlice (hindex : world.changeIndex = .keyedBy CoordinationChange.changeId
      (steps.map (·.change))) (h : (steps.map (·.change.changeId)).Nodup) :
    (steps.map (·.slice)).filter (isVisibleSlice world) = (steps.filter (·.visible)).map (·.slice) := by
  have hkeys : ((steps.map (·.change)).map CoordinationChange.changeId).Nodup := by rwa [List.map_map]
  rw [List.filter_map]
  congr 1
  refine List.filter_congr fun step hstep => ?_
  have hfound : world.changeIndex.get? step.change.changeId = some step.change := by
    rw [hindex]
    exact (OrdMap.get?_keyedBy hkeys).2 ⟨List.mem_map_of_mem hstep, rfl⟩
  have hslice : step.slice.eventTag.changeId = step.change.changeId := rfl
  simp only [Function.comp_apply, isVisibleSlice, hslice, hfound, Option.any_some]
  rfl

theorem foldFourViews_eq_ok (hindex : world.changeIndex = .keyedBy CoordinationChange.changeId
      (steps.map (·.change))) (h : (steps.map (·.change.changeId)).Nodup) :
    foldFourViews localeCompare world (steps.map (·.slice)) = .ok
      { dependency := (bundleOf localeCompare world.snapshot steps).dependency
        resource := (bundleOf localeCompare world.snapshot steps).resource
        communication := (bundleOf localeCompare world.snapshot steps).communication
        «structure» := (bundleOf localeCompare world.snapshot steps).structure } := by
  have hindexOf : ∀ {T : Type} (f : ProjectionSlice → T),
      createEventTagIndex (((steps.filter (·.visible)).map (·.slice)).map fun slice => (slice.eventTag, f slice)) =
        .ok (visibleIndex f steps) := by
    intro T f
    rw [List.map_map]
    exact createEventTagIndex_eq_ok.2 ⟨nodup_visibleEntries h, rfl⟩
  unfold foldFourViews
  simp only [filter_isVisibleSlice hindex h, hindexOf]
  simp only [List.map_map]
  rfl

/-! ## Acceptance -/

@[simp] theorem violationUnless_eq_nil {c : Prop} [Decidable c] {violation : ReadOnlyViolation} :
    violationUnless c violation = [] ↔ c := by
  unfold violationUnless
  split <;> simp_all

def TerminalViewsMatch (localeCompare : LocaleCompare) (snapshot : CollaborationSnapshot) : Prop :=
  sortStrings localeCompare
      ((sortById localeCompare CommunicationSession.sessionId snapshot.sessions.values).map (·.sessionId)) =
    sortStrings localeCompare snapshot.sessions.keys ∧
  capabilitiesMatchSnapshot snapshot.capabilities
    (sortById localeCompare ScopedCapability.capabilityId snapshot.capabilities.values) = true

theorem spineEventViolations_bundleOf {snapshot : CollaborationSnapshot}
    (h : (steps.map (·.change.changeId)).Nodup) (hmem : step ∈ steps) :
    spineEventViolations (bundleOf localeCompare snapshot steps) step.event =
      .ok (if step.visible then
        violationUnless (sliceHasProjectionActivity step.slice = true)
          (crossViewMismatch ("event " ++ step.change.changeId ++ " has empty projection activity")
            "E1_event_coverage")
      else
        [crossViewMismatch ("missing projection slice for event " ++ step.change.changeId)
          "E1_event_coverage"]) := by
  unfold spineEventViolations
  simp only [bundleOf, get_visibleIndex h hmem]
  by_cases hvisible : step.visible = true
  · simp only [hvisible, if_true]
    rfl
  · simp only [hvisible, if_false, Bool.false_eq_true]
    rfl

theorem structureStepViolations_bundleOf {snapshot : CollaborationSnapshot}
    (h : (steps.map (·.change.changeId)).Nodup) (hmem : step ∈ steps) :
    structureStepViolations (bundleOf localeCompare snapshot steps) step.event = .ok [] := by
  unfold structureStepViolations
  simp only [bundleOf, get_visibleIndex h hmem]
  by_cases hvisible : step.visible = true
  · simp only [hvisible, if_true]
    have hsame : (diagnosticStepFromChange step.event.change).toJson = step.slice.structure.step.toJson := rfl
    simp only [bind, Except.bind, hsame, violationUnless, if_true]
    rfl
  · simp only [hvisible, if_false, Bool.false_eq_true]
    rfl

theorem mapM_spine_eq {β : Type} {g : SourceEvent → Observed β} {r : CommittedStep → β}
    (h : ∀ step ∈ steps, g step.event = .ok (r step)) : (steps.map (·.event)).mapM g = .ok (steps.map r) := by
  rw [Outcome.mapM_eq_ok, List.forall₂_map_left_iff, List.forall₂_map_right_iff, List.forall₂_same]
  exact h

theorem tags_visibleIndex (h : (steps.map (·.change.changeId)).Nodup) :
    (visibleIndex f steps).tags = (steps.filter (·.visible)).map (·.event.eventTag) := by
  have hkeys := nodup_visibleEntries (f := f) h
  have hentries : (visibleIndex f steps).byKey.entries =
      (visibleEntries f steps).map fun entry => (eventTagKey entry.1, entry) :=
    OrdMap.entries_ofList (by rwa [List.map_map])
  rw [EventTagIndex.tags, OrdMap.values, hentries, visibleEntries]
  simp

theorem validateCrossViewInvariants_eq_ok (h : (steps.map (·.change.changeId)).Nodup) :
    validateCrossViewInvariants localeCompare (bundleOf localeCompare world.snapshot steps) world = .ok [] ↔
      (∀ step ∈ steps, step.visible = true ∧ sliceHasProjectionActivity step.slice = true) ∧
        TerminalViewsMatch localeCompare world.snapshot := by
  have hevents := mapM_spine_eq (g := spineEventViolations (bundleOf localeCompare world.snapshot steps))
    fun step hstep => spineEventViolations_bundleOf h hstep
  have hsteps := mapM_spine_eq (g := structureStepViolations (bundleOf localeCompare world.snapshot steps))
    fun step hstep => structureStepViolations_bundleOf h hstep
  have hspine : (bundleOf localeCompare world.snapshot steps).spine = steps.map (·.event) := rfl
  have htags : (∀ step ∈ steps, step.visible = true) →
      spineTagKeys localeCompare (bundleOf localeCompare world.snapshot steps) =
        indexTagKeys localeCompare (bundleOf localeCompare world.snapshot steps) := by
    intro hvisible
    have htags := tags_visibleIndex (f := ProjectionSlice.dependency) h
    rw [List.filter_eq_self.2 hvisible] at htags
    rw [spineTagKeys, indexTagKeys, hspine]
    simp only [bundleOf, htags, List.map_map]
    rfl
  unfold validateCrossViewInvariants
  rw [hspine, hevents, hsteps]
  simp only [bind, Except.bind, pure, Except.pure, Except.ok.injEq, List.append_eq_nil_iff,
    violationUnless_eq_nil, List.flatten_eq_nil_iff, List.forall_mem_map, implies_true, and_true]
  constructor
  · rintro ⟨⟨⟨⟨⟨-, hevents⟩, hsessions⟩, hcapabilities⟩, -⟩, -⟩
    refine ⟨fun step hstep => ?_, hsessions, hcapabilities⟩
    have hstep := hevents step hstep
    by_cases hvisible : step.visible = true
    · exact ⟨hvisible, by simpa [hvisible] using hstep⟩
    · simp [hvisible] at hstep
  · rintro ⟨hactive, hsessions, hcapabilities⟩
    refine ⟨⟨⟨⟨⟨htags fun step hstep => (hactive step hstep).1, fun step hstep => ?_⟩, hsessions⟩, hcapabilities⟩,
      rfl⟩, rfl⟩
    simp [(hactive step hstep).1, (hactive step hstep).2]

theorem throwOnViolations_eq_ok {options : ObservationIndexOptions} (h : (steps.map (·.change.changeId)).Nodup) :
    throwOnViolations localeCompare (bundleOf localeCompare world.snapshot steps) world options = .ok () ↔
      (options.validateInvariants = true →
        (∀ step ∈ steps, step.visible = true ∧ sliceHasProjectionActivity step.slice = true) ∧
          TerminalViewsMatch localeCompare world.snapshot) := by
  rw [← validateCrossViewInvariants_eq_ok h]
  unfold throwOnViolations
  by_cases hvalidate : options.validateInvariants = true
  · rw [if_pos hvalidate]
    simp only [Outcome.bind_eq_ok, throwUnless_eq_ok, hvalidate, forall_const]
    constructor
    · rintro ⟨_, hok, rfl⟩
      exact hok
    · intro hok
      exact ⟨[], hok, rfl⟩
  · rw [if_neg hvalidate]
    simp [hvalidate]

theorem projectWorld_eq_ok {changes : List CoordinationChange} {options : ObservationIndexOptions}
    {reader : Option SnapshotReader} {bundle : FourViewBundle} (hchanges : world.orderedChanges = changes)
    (hindex : world.changeIndex = .keyedBy CoordinationChange.changeId changes)
    (h : (changes.map (·.changeId)).Nodup) :
    projectWorld localeCompare world options reader = .ok bundle ↔
      ∃ steps, Window (createSnapshotResolver world.snapshot reader) changes steps ∧
        Honest (createSnapshotResolver world.snapshot reader) changes ∧
        bundle = bundleOf localeCompare world.snapshot steps ∧
        (options.validateInvariants = true →
          (∀ step ∈ steps, step.visible = true ∧ sliceHasProjectionActivity step.slice = true) ∧
            TerminalViewsMatch localeCompare world.snapshot) := by
  have hids : ∀ steps, Window (createSnapshotResolver world.snapshot reader) changes steps →
      (steps.map (·.change.changeId)).Nodup := by
    intro steps hwindow
    rw [hwindow.changes, List.map_map] at h
    exact h
  have hprojected : ∀ steps, Window (createSnapshotResolver world.snapshot reader) changes steps →
      Honest (createSnapshotResolver world.snapshot reader) changes →
      projectWorld localeCompare world options reader =
        (throwOnViolations localeCompare (bundleOf localeCompare world.snapshot steps) world options >>=
          fun _ => .ok (bundleOf localeCompare world.snapshot steps)) := by
    intro steps hwindow hhonest
    have hslices := deriveAllEventSlices_eq_ok.2 ⟨steps, hwindow, hhonest, rfl⟩
    have hspine : buildEventSpine changes = steps.map (·.event) := by
      rw [hwindow.changes, buildEventSpine, List.map_map]
      rfl
    have hfold : foldFourViews localeCompare world (steps.map (·.slice)) = _ := foldFourViews_eq_ok
      (by rw [hindex, hwindow.changes]) (hids steps hwindow)
    unfold projectWorld
    rw [hchanges]
    dsimp only
    rw [hslices]
    simp only [bind, Except.bind, hfold]
    rw [hspine]
    rfl
  constructor
  · intro hok
    obtain ⟨slices, hslices⟩ : ∃ slices, deriveAllEventSlices
        (createSnapshotResolver world.snapshot reader) (buildEventSpine changes) = .ok slices := by
      simp only [projectWorld, hchanges, Outcome.bind_eq_ok] at hok
      obtain ⟨slices, hslices, -⟩ := hok
      exact ⟨slices, hslices⟩
    obtain ⟨steps, hwindow, hhonest, -⟩ := deriveAllEventSlices_eq_ok.1 hslices
    rw [hprojected steps hwindow hhonest, Outcome.seq_eq_ok, throwOnViolations_eq_ok (hids steps hwindow)] at hok
    obtain ⟨hvalid, hbundle⟩ := hok
    cases hbundle
    exact ⟨steps, hwindow, hhonest, rfl, hvalid⟩
  · rintro ⟨steps, hwindow, hhonest, rfl, hvalid⟩
    rw [hprojected steps hwindow hhonest, Outcome.seq_eq_ok, throwOnViolations_eq_ok (hids steps hwindow)]
    exact ⟨hvalid, rfl⟩

theorem observeCommitted_eq_ok {ports : Nat → ObservationReadPorts} {sinceRef : SnapshotRef}
    {options : ObservationIndexOptions} {bundle : FourViewBundle} :
    observeCommitted localeCompare ports sinceRef options = .ok bundle ↔
      ∃ input steps, readObservationCutFromPorts ports sinceRef = .ok input ∧ ClosedCut input ∧
        Window (createSnapshotResolver input.snapshot (some (resolveSnapshotReader ports options)))
          input.changes steps ∧
        Honest (createSnapshotResolver input.snapshot (some (resolveSnapshotReader ports options))) input.changes ∧
        bundle = bundleOf localeCompare (cloneSnapshotForObservation input.snapshot) steps ∧
        (options.validateInvariants = true →
          (∀ step ∈ steps, step.visible = true ∧ sliceHasProjectionActivity step.slice = true) ∧
            TerminalViewsMatch localeCompare input.snapshot) := by
  have hassemble : ∀ input world, ClosedCut input →
      (assembleObservationWorld input (some (resolveSnapshotReader ports options)) = .ok world ↔
        world = { snapshotRef := input.headRef
                  snapshot := cloneSnapshotForObservation input.snapshot
                  validatedHistory := input.validatedHistory
                  orderedChanges := input.changes
                  changeIndex := .keyedBy CoordinationChange.changeId input.changes
                  sinceRef := input.sinceRef }) := by
    intro input world hcut
    rw [assembleObservationWorld, Outcome.seq_eq_ok, validateObservationCut_eq_ok, Outcome.seq_eq_ok,
      throwUnless_eq_ok, Outcome.bind_eq_ok]
    simp only [indexChanges, OrdMap.addAll_empty_eq_ok]
    constructor
    · rintro ⟨-, -, _, ⟨-, rfl⟩, hworld⟩
      cases hworld
      rfl
    · rintro rfl
      exact ⟨hcut, by simp, _, ⟨hcut.unique, rfl⟩, rfl⟩
  have hclosed : ∀ input world,
      assembleObservationWorld input (some (resolveSnapshotReader ports options)) = .ok world → ClosedCut input := by
    intro input world hworld
    rw [assembleObservationWorld, Outcome.seq_eq_ok, validateObservationCut_eq_ok] at hworld
    exact hworld.1
  simp only [observeCommitted, Outcome.bind_eq_ok]
  constructor
  · rintro ⟨input, hread, world, hworld, hbundle⟩
    have hcut := hclosed input world hworld
    cases (hassemble input world hcut).1 hworld
    obtain ⟨steps, hsteps⟩ := (projectWorld_eq_ok rfl rfl hcut.unique).1 hbundle
    exact ⟨input, steps, hread, hcut, hsteps⟩
  · rintro ⟨input, steps, hread, hcut, hsteps⟩
    exact ⟨input, hread, _, (hassemble input _ hcut).2 rfl,
      (projectWorld_eq_ok rfl rfl hcut.unique).2 ⟨steps, hsteps⟩⟩

end Bundles

/-- A collation that orders: of two strings one comes first or neither, and the order is transitive. -/
structure Collates (localeCompare : LocaleCompare) : Prop where
  total : ∀ a b, localeCompare a b ≤ 0 ∨ localeCompare b a ≤ 0
  trans : ∀ a b c, localeCompare a b ≤ 0 → localeCompare b c ≤ 0 → localeCompare a c ≤ 0

theorem sortStrings_sortStrings {localeCompare : LocaleCompare} (h : Collates localeCompare) (xs : List String) :
    sortStrings localeCompare (sortStrings localeCompare xs) = sortStrings localeCompare xs := by
  have : Std.Total fun a b : String => localeCompare a b ≤ 0 := ⟨h.total⟩
  have : IsTrans String fun a b => localeCompare a b ≤ 0 := ⟨h.trans⟩
  exact List.Pairwise.insertionSort_eq (List.pairwise_insertionSort _ xs)

theorem map_sortById {α : Type} (localeCompare : LocaleCompare) (key : α → String) (items : List α) :
    (sortById localeCompare key items).map key = sortStrings localeCompare (items.map key) :=
  List.map_insertionSort _ _ _ _ fun _ _ _ _ => Iff.rfl

theorem values_map_eq_keys {V : Type} {m : OrdMap String V} {key : V → String}
    (h : ∀ k v, m.get? k = some v → key v = k) : m.values.map key = m.keys := by
  rw [OrdMap.values, OrdMap.keys, List.map_map]
  exact List.map_congr_left fun e he => h e.1 e.2 (OrdMap.mem_entries.1 he)

theorem terminalViewsMatch_of_keyed {localeCompare : LocaleCompare} (hcollates : Collates localeCompare)
    {snapshot : CollaborationSnapshot} (h : EntriesKeyed snapshot) : TerminalViewsMatch localeCompare snapshot := by
  constructor
  · rw [map_sortById, sortStrings_sortStrings hcollates, values_map_eq_keys h.sessions]
  · simp only [capabilitiesMatchSnapshot, sortById, List.length_insertionSort, Bool.and_eq_true, decide_eq_true_eq,
      List.all_eq_true, List.mem_insertionSort]
    refine ⟨by simp [OrdMap.size, OrdMap.values], fun capability hmem => ?_⟩
    obtain ⟨id, hid⟩ := OrdMap.mem_values.1 hmem
    rwa [h.capabilities id capability hid]

end Cantilune
