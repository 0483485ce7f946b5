import Cantilune.Lemmas.Lenses
import Cantilune.Lemmas.RecordedRuns
import Mathlib.Data.List.Chain

/-!
# Which runs can be observed

The coordinator accepts commits across observations, the checks of an observation do not: the window from a
head of a run is observed exactly if no observation lies in it or between two commits, all commits of the run
are in it, and each of them is visible and shows something.
-/

namespace Cantilune

section Chains
variable {localeCompare : LocaleCompare} {epochId : EpochId} {run run' : RecordedRun} {request : RunRequest}
  {requests : List RunRequest}

/-! ## References along a run -/

theorem committedChanges_append (requests more : List RunRequest) :
    committedChanges (requests ++ more) = committedChanges requests ++ committedChanges more := List.filterMap_append

theorem logged_of_run (hbooks : RunBooks epochId run) (r : Run (RunStep localeCompare epochId) run requests run') :
    run'.durable.changelog.changes = run.durable.changelog.changes ++ committedChanges requests := by
  induction r with
  | nil => exact (List.append_nil _).symm
  | @cons run mid run' request requests head _ ih =>
      obtain ⟨_, hadvance⟩ := exists_advance hbooks head
      rw [ih (hbooks.step head), hadvance.logged, List.append_assoc]
      congr 1
      cases hchange : request.change? <;> simp [committedChanges, hchange]

theorem head_ne_of_run (hbooks : RunBooks epochId run) (r : Run (RunStep localeCompare epochId) run requests run')
    (hrequests : requests ≠ []) {ref : SnapshotRef} (h : run.durable.store.snapshots.has ref = true) :
    run'.durable.store.headRef ≠ some ref := by
  induction r with
  | nil => exact absurd rfl hrequests
  | @cons run mid run' request requests head tail ih =>
      obtain ⟨_, hadvance⟩ := exists_advance hbooks head
      cases requests with
      | nil =>
          cases Run.nil_iff.1 tail
          exact hadvance.head_ne h
      | cons => exact ih (hbooks.step head) (List.cons_ne_nil _ _) (hadvance.has h)

theorem get_of_run (hbooks : RunBooks epochId run) (r : Run (RunStep localeCompare epochId) run requests run')
    {ref : SnapshotRef} {s : CollaborationSnapshot} (h : run.durable.store.get ref = some s) :
    run'.durable.store.get ref = some s := by
  induction r with
  | nil => exact h
  | cons head _ ih =>
      obtain ⟨next, hadvance⟩ := exists_advance hbooks head
      refine ih (hbooks.step head) ?_
      have hne : ref ≠ next.snapshotRef := by
        rintro rfl
        exact absurd (OrdMap.has_of_get? h) (by simp [hadvance.fresh])
      rw [hadvance.get, if_neg hne, h]

theorem commit_rewrites {input : DurableCommitInput} (hbooks : RunBooks epochId run)
    (h : RunStep localeCompare epochId run (.commit input) run') :
    run.durable.store.headRef = some input.change.beforeRef ∧
      run'.durable.store.headRef = some input.change.afterRef := by
  obtain ⟨next, hadvance⟩ := exists_advance hbooks h
  obtain ⟨hhead, rfl, -⟩ := hadvance.commit input rfl
  obtain ⟨hbefore, hafter, -⟩ := h.1
  exact ⟨by rw [hbefore, hhead], by rw [hafter, hadvance.head]⟩

theorem change_of_run (hbooks : RunBooks epochId run) (r : Run (RunStep localeCompare epochId) run requests run')
    {change : CoordinationChange} (hmem : change ∈ committedChanges requests) :
    ∃ pre input post mid, requests = pre ++ .commit input :: post ∧ input.change = change ∧
      Run (RunStep localeCompare epochId) run pre mid ∧ mid.durable.store.headRef = some change.beforeRef ∧
      mid.durable.store.snapshots.has change.afterRef = false := by
  obtain ⟨request, hrequest, hchange⟩ := List.mem_filterMap.1 hmem
  cases request with
  | observe => cases hchange
  | commit input =>
      cases hchange
      obtain ⟨pre, post, rfl⟩ := List.append_of_mem hrequest
      obtain ⟨mid, hpre, hpost⟩ := Run.append_iff.1 r
      obtain ⟨next, hstep, -⟩ := Run.cons_iff.1 hpost
      have hmid := hbooks.of_run hpre
      obtain ⟨world, hadvance⟩ := exists_advance hmid hstep
      obtain ⟨-, rfl, -⟩ := hadvance.commit input rfl
      have hfresh := hadvance.fresh
      rw [← hstep.1.2.1] at hfresh
      exact ⟨pre, input, post, mid, rfl, rfl, hpre, (commit_rewrites hmid hstep).1, hfresh⟩

/-! ## Windows without a gap -/

theorem rewrites_iff_commits (hbooks : RunBooks epochId run)
    (r : Run (RunStep localeCompare epochId) run requests run') {sinceRef headRef : SnapshotRef}
    (hsince : run.durable.store.headRef = some sinceRef) (hhead : run'.durable.store.headRef = some headRef) :
    Run Rewrites sinceRef (committedChanges requests) headRef ↔ ∀ request ∈ requests, request.change?.isSome = true := by
  induction r generalizing sinceRef with
  | nil =>
      cases hsince.symm.trans hhead
      simp [committedChanges, Run.nil_iff]
  | @cons run mid run' request requests head tail ih =>
      cases request with
      | commit input =>
          obtain ⟨hbefore, hafter⟩ := commit_rewrites hbooks head
          cases hsince.symm.trans hbefore
          have hrest := ih (hbooks.step head) hafter hhead
          have hchanges : committedChanges (.commit input :: requests) = input.change :: committedChanges requests := rfl
          rw [hchanges, Run.cons_iff, List.forall_mem_cons, ← hrest]
          simp [Rewrites, RunRequest.change?]
      | observe source payloadRef receivedAt nextRef =>
          obtain ⟨current, hcurrent, hstored, -⟩ := hbooks.head
          cases hcurrent.symm.trans hsince
          have hhas : run.durable.store.snapshots.has current.snapshotRef = true := OrdMap.has_of_get? hstored
          have hchanges : committedChanges (.observe source payloadRef receivedAt nextRef :: requests) =
              committedChanges requests := rfl
          have hrun := Run.cons head tail
          refine ⟨fun hleads => ?_, fun hall => (Bool.false_ne_true (hall _ List.mem_cons_self)).elim⟩
          -- the reference at the start is no head any more, and no later change starts there
          rw [hchanges] at hleads
          cases hempty : committedChanges requests with
          | nil =>
              rw [hempty, Run.nil_iff] at hleads
              exact absurd (hhead.trans (by rw [hleads])) (head_ne_of_run hbooks hrun (List.cons_ne_nil _ _) hhas)
          | cons change changes =>
              rw [hempty] at hleads
              obtain ⟨_, ⟨hbefore, -⟩, -⟩ := Run.cons_iff.1 hleads
              obtain ⟨pre, input, post, found, rfl, rfl, hpre, hfound, -⟩ :=
                change_of_run (hbooks.step head) tail (hempty ▸ List.mem_cons_self)
              rw [hbefore] at hfound
              exact absurd hfound (head_ne_of_run hbooks (.cons head hpre) (List.cons_ne_nil _ _) hhas)

/-- No observation lies between two commits. -/
def GapFree (requests : List RunRequest) : Prop :=
  ∀ pre request post, requests = pre ++ request :: post → request.change? = none →
    committedChanges pre = [] ∨ committedChanges post = []

theorem GapFree.tail (h : GapFree (request :: requests)) : GapFree requests := by
  rintro pre observation post rfl hobserve
  rcases h (request :: pre) observation post rfl hobserve with hpre | hpost
  · rw [show request :: pre = [request] ++ pre from rfl, committedChanges_append, List.append_eq_nil_iff] at hpre
    exact .inl hpre.2
  · exact .inr hpost

theorem gapFree_of_contiguous (hbooks : RunBooks epochId run)
    (r : Run (RunStep localeCompare epochId) run requests run') (h : Contiguous (committedChanges requests)) :
    GapFree requests := by
  rintro pre observation post rfl hobserve
  by_contra hboth
  obtain ⟨hpre, hpost⟩ := not_or.1 hboth
  obtain ⟨mid, rpre, rrest⟩ := Run.append_iff.1 r
  obtain ⟨next, hstep, rpost⟩ := Run.cons_iff.1 rrest
  have hmid := hbooks.of_run rpre
  have hchanges : committedChanges (pre ++ observation :: post) = committedChanges pre ++ committedChanges post := by
    rw [show pre ++ observation :: post = pre ++ [observation] ++ post by simp, committedChanges_append,
      committedChanges_append]
    simp [committedChanges, hobserve]
  obtain ⟨init, last, hlast⟩ := (List.eq_nil_or_concat (committedChanges pre)).resolve_left hpre
  obtain ⟨first, rest, hfirst⟩ := List.exists_cons_of_ne_nil hpost
  -- the first change after the observation would have to start where the last one before it ended
  have hmeet : first.beforeRef = last.afterRef := by
    rw [hchanges, hlast, hfirst, Contiguous, List.isChain_append] at h
    exact h.2.2 last (by simp) first (by simp)
  have hstored : mid.durable.store.snapshots.has last.afterRef = true := by
    refine (hmid.changes last ?_).2.2.1
    rw [logged_of_run hbooks rpre, hlast]
    simp
  obtain ⟨before, input, after, found, rfl, rfl, rbefore, hfound, -⟩ :=
    change_of_run (hmid.step hstep) rpost (hfirst ▸ List.mem_cons_self)
  rw [hmeet] at hfound
  exact head_ne_of_run hmid (.cons hstep rbefore) (List.cons_ne_nil _ _) hstored hfound

theorem contiguous_of_gapFree (hbooks : RunBooks epochId run)
    (r : Run (RunStep localeCompare epochId) run requests run') (h : GapFree requests) :
    Contiguous (committedChanges requests) := by
  induction r with
  | nil => exact .nil
  | @cons run mid run' request requests head tail ih =>
      have hrest := ih (hbooks.step head) h.tail
      cases request with
      | observe => exact hrest
      | commit input =>
          have hchanges : committedChanges (.commit input :: requests) = input.change :: committedChanges requests := rfl
          rw [hchanges, Contiguous, List.isChain_cons]
          refine ⟨fun first hfirst => ?_, hrest⟩
          cases tail with
          | nil => cases hfirst
          | @cons _ _ _ next requests hnext _ =>
              cases next with
              | observe source payloadRef receivedAt nextRef =>
                  rcases h [.commit input] (.observe source payloadRef receivedAt nextRef) requests rfl rfl with
                    hcommit | hnone
                  · cases hcommit
                  · rw [show committedChanges (.observe source payloadRef receivedAt nextRef :: requests) =
                      committedChanges requests from rfl, hnone] at hfirst
                    cases hfirst
              | commit input' =>
                  cases hfirst
                  have hafter := (commit_rewrites hbooks head).2
                  have hbefore := (commit_rewrites (hbooks.step head) hnext).1
                  exact Option.some.inj (hbefore.symm.trans hafter)

/-! ## What the coordinator and the tracker give -/

theorem validateRunHistory_eq_ok (hbooks : RunBooks epochId run) {validated : ValidatedRunHistory} :
    validateRunHistory run.history = .ok validated ↔
      Contiguous run.durable.changelog.changes ∧ validated = { segments := run.history } := by
  have hnumbered : validateObservationSequence run.history = none := by
    obtain ⟨current, -, hcurrent, haudit⟩ := hbooks.head
    obtain ⟨-, hintact, -⟩ := hbooks.stored _ _ hcurrent
    unfold validateObservationSequence
    rw [List.findSome?_eq_none_iff]
    rintro ⟨entry, n⟩ hmem
    rw [haudit, List.mk_mem_zipIdx_iff_le_and_getElem?_sub] at hmem
    obtain ⟨hn, hentry⟩ := hmem
    have hentry : (entry, n - 1) ∈ current.auditTail.zipIdx := List.mem_zipIdx_iff_getElem?.2 hentry
    rw [failUnless_eq_none, (hintact.auditTail entry (n - 1) hentry).1]
    omega
  have hepochs : validateEpochConsistentResult run.durable.changelog.changes = none := by
    rw [validateEpochConsistentResult_eq_none]
    intro first hfirst change hmem
    rw [(hbooks.changes change hmem).1, (hbooks.changes first (List.mem_of_mem_head? hfirst)).1]
  simp only [validateRunHistory, Outcome.seq_eq_ok, throwCore_eq_ok, hnumbered, true_and, hbooks.logged]
  cases hempty : run.durable.changelog.changes with
  | nil =>
      simp only [List.length_nil, gt_iff_lt, Nat.lt_irrefl, if_false]
      constructor
      · intro h
        cases h
        exact ⟨.nil, rfl⟩
      · rintro ⟨-, rfl⟩
        rfl
  | cons first rest =>
      rw [hempty] at hepochs
      simp only [List.length_cons, gt_iff_lt, Nat.zero_lt_succ, if_true, Outcome.seq_eq_ok, throwCore_eq_ok,
        validateBeforeRefChainResult_eq_none, hepochs, true_and]
      constructor
      · rintro ⟨hchain, h⟩
        cases h
        exact ⟨hchain, rfl⟩
      · rintro ⟨hchain, rfl⟩
        exact ⟨hchain, rfl⟩

theorem not_advance_of_older {s t : CollaborationSnapshot} (hlength : t.auditTail.length ≤ s.auditTail.length)
    (hepoch : s.epochId = t.epochId) : isVerifiableUnloggedAdvance localeCompare s t = false := by
  rw [isVerifiableUnloggedAdvance, isObservationOnlyAdvance, isEpochOnlyAdvance, isObservationAndEpochOnlyAdvance,
    if_pos hlength, if_pos (.inr hepoch), if_pos (.inr (.inl hepoch))]
  rfl

theorem since_head (hbooks : RunBooks epochId run) {headRef : SnapshotRef}
    (hhead : run.durable.store.headRef = some headRef) : run.durable.since localeCompare headRef = [] := by
  obtain ⟨current, hcurrent, hstored, haudit⟩ := hbooks.head
  cases hcurrent.symm.trans hhead
  have hdirect : (run.durable.changelog.changes.dropWhile
      fun change => decide (change.beforeRef ≠ current.snapshotRef)) = [] := by
    refine List.dropWhile_eq_nil_iff.2 fun change hmem => ?_
    have hne := (hbooks.changes change hmem).2.2.2
    rw [hhead] at hne
    exact decide_eq_true fun heq => hne (by rw [heq])
  -- the world before a change has no observation that the head lacks, and the same epoch
  have hnotAdvanced : ∀ change ∈ run.durable.changelog.changes,
      ((run.durable.store.get change.beforeRef).any fun before =>
        isVerifiableUnloggedAdvance localeCompare current before) = false := by
    intro change hmem
    cases hbefore : run.durable.store.get change.beforeRef with
    | none => rfl
    | some before =>
        obtain ⟨-, -, hepoch, hlength⟩ := hbooks.stored _ _ hbefore
        obtain ⟨-, -, hcurrentEpoch, -⟩ := hbooks.stored _ _ hstored
        rw [haudit] at hlength
        exact not_advance_of_older hlength (hcurrentEpoch.trans hepoch.symm)
  rw [MemoryDurableCoordinator.since_eq, changesSince]
  rw [hdirect, if_neg (by simp), hstored]
  refine List.dropWhile_eq_nil_iff.2 fun change hmem => ?_
  rw [hnotAdvanced change (List.mem_of_mem_drop hmem)]
  rfl

theorem since_start {first : CoordinationChange} {rest : List CoordinationChange}
    (h : run.durable.changelog.changes = first :: rest) :
    run.durable.since localeCompare first.beforeRef = first :: rest := by
  rw [MemoryDurableCoordinator.since_eq, changesSince, h]
  simp

theorem mem_of_mem_since {d : MemoryDurableCoordinator} {fromRef : SnapshotRef} {change : CoordinationChange}
    (h : change ∈ d.since localeCompare fromRef) : change ∈ d.changelog.changes := by
  rw [MemoryDurableCoordinator.since_eq, changesSince] at h
  split at h
  · exact (List.dropWhile_sublist _).subset h
  · split at h
    · cases h
    · exact List.mem_of_mem_drop ((List.dropWhile_sublist _).subset h)

/-! ## Observing a run -/

theorem entriesKeyed_clone {s : CollaborationSnapshot} (h : EntriesKeyed s) :
    EntriesKeyed (cloneSnapshotForObservation s) := ⟨h.links, h.capabilities, h.sessions⟩

def clonedStep (change : CoordinationChange) (before after : CollaborationSnapshot) : CommittedStep :=
  { change, before := cloneSnapshotForObservation before, after := cloneSnapshotForObservation after }

theorem visible_clonedStep {change : CoordinationChange} {before after : CollaborationSnapshot} :
    (clonedStep change before after).visible = true ↔ change.visibility ≠ .administrative := decide_eq_true_iff

def ShownIn (run : RecordedRun) (change : CoordinationChange) : Prop :=
  change.visibility ≠ .administrative ∧ ∀ before after, run.durable.store.get change.beforeRef = some before →
    run.durable.store.get change.afterRef = some after → ShowsSomething { change, before, after }

theorem resolver_run {current : CollaborationSnapshot}
    (hcurrent : run.durable.store.get current.snapshotRef = some current) (ref : SnapshotRef) :
    createSnapshotResolver current (some (resolveSnapshotReader (fun _ => run.ports localeCompare) {})) ref =
      (run.durable.store.get ref).map cloneSnapshotForObservation := by
  unfold createSnapshotResolver
  by_cases href : current.snapshotRef = ref
  · subst href
    simp [cloneSnapshotForObservation, hcurrent]
  · have hne : (cloneSnapshotForObservation current).snapshotRef ≠ ref := href
    simp only [hne, if_false]
    rfl

theorem exists_window {resolver : SnapshotReader} {changes : List CoordinationChange}
    (h : ∀ change ∈ changes, (resolver change.beforeRef).isSome = true ∧ (resolver change.afterRef).isSome = true) :
    ∃ steps, Window resolver changes steps := by
  induction changes with
  | nil => exact ⟨[], .nil⟩
  | cons change changes ih =>
      obtain ⟨steps, hsteps⟩ := ih fun other hother => h other (List.mem_cons_of_mem _ hother)
      obtain ⟨hbefore, hafter⟩ := h change List.mem_cons_self
      obtain ⟨before, hbefore⟩ := Option.isSome_iff_exists.1 hbefore
      obtain ⟨after, hafter⟩ := Option.isSome_iff_exists.1 hafter
      exact ⟨{ change, before, after } :: steps, .cons ⟨rfl, hbefore, hafter⟩ hsteps⟩

theorem Window.exists_step {resolver : SnapshotReader} {changes : List CoordinationChange}
    {steps : List CommittedStep} (h : Window resolver changes steps) {change : CoordinationChange}
    (hmem : change ∈ changes) : ∃ before after, resolver change.beforeRef = some before ∧
      resolver change.afterRef = some after ∧ { change, before, after } ∈ steps := by
  induction h with
  | nil => cases hmem
  | @cons other step changes steps head _ ih =>
      rcases List.mem_cons.1 hmem with rfl | hmem
      · obtain ⟨rfl, hbefore, hafter⟩ := head
        exact ⟨step.before, step.after, hbefore, hafter, List.mem_cons_self⟩
      · obtain ⟨before, after, hbefore, hafter, hstep⟩ := ih hmem
        exact ⟨before, after, hbefore, hafter, List.mem_cons_of_mem _ hstep⟩

theorem Window.exists_change {resolver : SnapshotReader} {changes : List CoordinationChange}
    {steps : List CommittedStep} (h : Window resolver changes steps) {step : CommittedStep} (hmem : step ∈ steps) :
    ∃ change ∈ changes, step.change = change ∧ resolver change.beforeRef = some step.before ∧
      resolver change.afterRef = some step.after := by
  induction h with
  | nil => cases hmem
  | cons head _ ih =>
      rcases List.mem_cons.1 hmem with rfl | hmem
      · exact ⟨_, List.mem_cons_self, head⟩
      · obtain ⟨change, hchange, hstep⟩ := ih hmem
        exact ⟨change, List.mem_cons_of_mem _ hchange, hstep⟩

theorem resolveValidatedHistory_run (hbooks : RunBooks epochId run) {changes : List CoordinationChange}
    {validated : ValidatedRunHistory} : resolveValidatedHistory (some run.history) changes = .ok validated ↔
      Contiguous run.durable.changelog.changes ∧
        (changes ≠ [] → run.durable.changelog.changes.map (·.changeId) = changes.map (·.changeId)) ∧
        validated = { segments := run.history } := by
  unfold resolveValidatedHistory
  cases changes with
  | nil => simp [validateRunHistory_eq_ok hbooks]
  | cons first rest =>
      simp only [List.length_cons, gt_iff_lt, Nat.zero_lt_succ, if_true, Outcome.bind_eq_ok,
        validateRunHistory_eq_ok hbooks, ne_eq, reduceCtorEq, not_false_eq_true, forall_const]
      constructor
      · rintro ⟨_, ⟨hchain, rfl⟩, _, hmatches, hvalidated⟩
        rw [assertHistoryMatchesWindow_eq_ok, hbooks.logged] at hmatches
        cases hvalidated
        exact ⟨hchain, hmatches, rfl⟩
      · rintro ⟨hchain, hmatches, rfl⟩
        refine ⟨_, ⟨hchain, rfl⟩, (), ?_, rfl⟩
        rwa [assertHistoryMatchesWindow_eq_ok, hbooks.logged]

theorem observe_run_iff (hcollates : Collates localeCompare) (hbooks : RunBooks epochId run)
    {sinceRef : SnapshotRef} {changes : List CoordinationChange} :
    (∃ bundle, observeCommitted localeCompare (fun _ => run.ports localeCompare) sinceRef = .ok bundle ∧
        bundle.spine.map (·.change) = changes) ↔
      run.durable.since localeCompare sinceRef = changes ∧ Contiguous run.durable.changelog.changes ∧
        (changes ≠ [] → run.durable.changelog.changes.map (·.changeId) = changes.map (·.changeId)) ∧
        (∃ headRef, run.durable.store.headRef = some headRef ∧ Run Rewrites sinceRef changes headRef) ∧
        ∀ change ∈ changes, ShownIn run change := by
  obtain ⟨current, hhead, hcurrent, -⟩ := hbooks.head
  have hresolver : ∀ ref, createSnapshotResolver current
      (some (resolveSnapshotReader (fun _ => run.ports localeCompare) {})) ref =
        (run.durable.store.get ref).map cloneSnapshotForObservation := resolver_run hcurrent
  have hkeyed : ∀ ref s, run.durable.store.get ref = some s → EntriesKeyed s := fun ref s hs =>
    (hbooks.stored ref s hs).2.1.entriesKeyed
  -- a step of the window is visible and active exactly if its change is shown
  have hshown : ∀ change before after, run.durable.store.get change.beforeRef = some before →
      run.durable.store.get change.afterRef = some after →
      ((clonedStep change before after).visible = true ∧
        sliceHasProjectionActivity (clonedStep change before after).slice = true ↔ ShownIn run change) := by
    intro change before after hbefore hafter
    have hbeforeKeyed : EntriesKeyed (clonedStep change before after).before :=
      entriesKeyed_clone (hkeyed _ _ hbefore)
    have hafterKeyed : EntriesKeyed (clonedStep change before after).after := entriesKeyed_clone (hkeyed _ _ hafter)
    rw [sliceHasProjectionActivity_iff hbeforeKeyed hafterKeyed]
    constructor
    · rintro ⟨hvisible, hshows⟩
      refine ⟨visible_clonedStep.1 hvisible, fun before' after' hb ha => ?_⟩
      cases hb.symm.trans hbefore
      cases ha.symm.trans hafter
      exact hshows
    · rintro ⟨hvisible, hshows⟩
      exact ⟨visible_clonedStep.2 hvisible, hshows before after hbefore hafter⟩
  simp only [observeCommitted_eq_ok]
  constructor
  · rintro ⟨_, ⟨input, steps, hread, hcut, hwindow, -, rfl, hvalid⟩, hspine⟩
    obtain ⟨validated, hvalidated, rfl, -⟩ := (readObservationCut_constant hhead hcurrent).1 hread
    have hchanges : run.durable.since localeCompare sinceRef = changes := by
      rw [← hspine]
      refine hwindow.changes.trans ?_
      rw [bundleOf, List.map_map]
      rfl
    have hsame : (run.ports localeCompare).changesSince sinceRef = changes := hchanges
    rw [hsame] at hvalidated hcut hwindow
    obtain ⟨hchain, hmatches, -⟩ := (resolveValidatedHistory_run hbooks).1 hvalidated
    refine ⟨hchanges, hchain, hmatches, ⟨_, hhead, hcut.leads⟩, fun change hmem => ?_⟩
    obtain ⟨_, _, hresolved, hresolved', hstep⟩ := hwindow.exists_step hmem
    rw [hresolver] at hresolved hresolved'
    obtain ⟨before, hbefore, rfl⟩ := Option.map_eq_some_iff.1 hresolved
    obtain ⟨after, hafter, rfl⟩ := Option.map_eq_some_iff.1 hresolved'
    exact (hshown change before after hbefore hafter).1 ((hvalid trivial).1 _ hstep)
  · rintro ⟨hchanges, hchain, hmatches, ⟨headRef, hheadRef, hleads⟩, hall⟩
    cases hhead.symm.trans hheadRef
    have hsame : (run.ports localeCompare).changesSince sinceRef = changes := hchanges
    have hlogged : ∀ change ∈ changes, change ∈ run.durable.changelog.changes := fun change hmem =>
      mem_of_mem_since (hchanges ▸ hmem)
    have hstored : ∀ change ∈ changes, ∃ before after, run.durable.store.get change.beforeRef = some before ∧
        run.durable.store.get change.afterRef = some after := by
      intro change hmem
      obtain ⟨-, hbefore, hafter, -⟩ := hbooks.changes change (hlogged change hmem)
      obtain ⟨before, hbefore⟩ := OrdMap.has_iff.1 hbefore
      obtain ⟨after, hafter⟩ := OrdMap.has_iff.1 hafter
      exact ⟨before, after, hbefore, hafter⟩
    let input : ObservationInput :=
      { headRef := current.snapshotRef, sinceRef, snapshot := current, changes
        validatedHistory := { segments := run.history } }
    have hunique : (changes.map (·.changeId)).Nodup := by
      by_cases hempty : changes = []
      · rw [hempty]
        exact List.nodup_nil
      · rw [← hmatches hempty]
        exact hbooks.unique
    have hcut : ClosedCut input :=
      ⟨rfl, hleads, hunique, fun change hmem => (hbooks.changes change (hlogged change hmem)).1.trans
        (hbooks.stored _ _ hcurrent).2.2.1.symm⟩
    have hread : readObservationCutFromPorts (fun _ => run.ports localeCompare) sinceRef = .ok input := by
      refine (readObservationCut_constant hhead hcurrent).2 ⟨{ segments := run.history }, ?_, ?_, hcut⟩
      · rw [hsame]
        exact (resolveValidatedHistory_run hbooks).2 ⟨hchain, hmatches, rfl⟩
      · rw [hsame]
    obtain ⟨steps, hwindow⟩ : ∃ steps, Window (createSnapshotResolver current
        (some (resolveSnapshotReader (fun _ => run.ports localeCompare) {}))) changes steps := by
      refine exists_window fun change hmem => ?_
      obtain ⟨before, after, hbefore, hafter⟩ := hstored change hmem
      simp [hresolver, hbefore, hafter]
    have hhonest : ∀ ref, ∀ s ∈ createSnapshotResolver current
        (some (resolveSnapshotReader (fun _ => run.ports localeCompare) {})) ref, s.snapshotRef = ref := by
      intro ref s hs
      rw [hresolver] at hs
      obtain ⟨found, hfound, rfl⟩ := Option.map_eq_some_iff.1 hs
      exact (hbooks.stored ref found hfound).1
    refine ⟨_, ⟨input, steps, hread, hcut, hwindow, fun change _ => ⟨hhonest _, hhonest _⟩, rfl, fun _ =>
      ⟨fun step hstep => ?_, terminalViewsMatch_of_keyed hcollates (hkeyed _ _ hcurrent)⟩⟩, ?_⟩
    · obtain ⟨change, hmem, rfl, hbefore, hafter⟩ := hwindow.exists_change hstep
      rw [hresolver] at hbefore hafter
      obtain ⟨before, hb, hbefore⟩ := Option.map_eq_some_iff.1 hbefore
      obtain ⟨after, ha, hafter⟩ := Option.map_eq_some_iff.1 hafter
      have hcloned : step = clonedStep step.change before after := by
        rw [clonedStep, hbefore, hafter]
      rw [hcloned]
      exact (hshown step.change before after hb ha).2 (hall _ hmem)
    · refine Eq.trans ?_ hwindow.changes.symm
      rw [bundleOf, List.map_map]
      rfl

theorem get_of_commit {input : DurableCommitInput} (hbooks : RunBooks epochId run)
    (r : Run (RunStep localeCompare epochId) run requests run') (hmem : .commit input ∈ requests) :
    run'.durable.store.get input.change.afterRef = some input.after := by
  obtain ⟨pre, post, rfl⟩ := List.append_of_mem hmem
  obtain ⟨mid, rpre, rrest⟩ := Run.append_iff.1 r
  obtain ⟨next, hstep, rpost⟩ := Run.cons_iff.1 rrest
  have hmid := hbooks.of_run rpre
  obtain ⟨world, hadvance⟩ := exists_advance hmid hstep
  obtain ⟨-, rfl, -⟩ := hadvance.commit input rfl
  refine get_of_run (hmid.step hstep) rpost ?_
  rw [hadvance.get, if_pos hstep.1.2.1]

theorem mem_committedChanges {change : CoordinationChange} :
    change ∈ committedChanges requests ↔ ∃ input, .commit input ∈ requests ∧ input.change = change := by
  rw [committedChanges, List.mem_filterMap]
  constructor
  · rintro ⟨request, hmem, hchange⟩
    cases request with
    | observe => cases hchange
    | commit input =>
        cases hchange
        exact ⟨input, hmem, rfl⟩
  · rintro ⟨input, hmem, rfl⟩
    exact ⟨_, hmem, rfl⟩

theorem committedChanges_ne_nil (h : ∀ request ∈ requests, request.change?.isSome = true) (hne : requests ≠ []) :
    committedChanges requests ≠ [] := by
  obtain ⟨request, rest, rfl⟩ := List.exists_cons_of_ne_nil hne
  obtain ⟨change, hchange⟩ := Option.isSome_iff_exists.1 (h request List.mem_cons_self)
  exact List.ne_nil_of_mem (List.mem_filterMap.2 ⟨request, List.mem_cons_self, hchange⟩)

end Chains

/-! ## Observable windows -/

def ObservedFrom (localeCompare : LocaleCompare) (run : RecordedRun) (sinceRef : SnapshotRef)
    (changes : List CoordinationChange) : Prop :=
  ∃ bundle, observeCommitted localeCompare (fun _ => run.ports localeCompare) sinceRef = .ok bundle ∧
    bundle.spine.map (·.change) = changes

/-- The requests before a head and those after it: no observation between two commits; nothing after the head,
or nothing but commits and all of the run's; and every commit after the head is visible and shows something. -/
structure ClearWindow (run : RecordedRun) (earlier later : List RunRequest) : Prop where
  gapFree : GapFree earlier
  window : later = [] ∨ committedChanges earlier = [] ∧ ∀ request ∈ later, request.change?.isSome = true
  shown : ∀ input, .commit input ∈ later → input.change.visibility ≠ .administrative ∧
    ∀ before, run.durable.store.get input.change.beforeRef = some before →
      ShowsSomething { change := input.change, before, after := input.after }

/-- From a head of a run the changes after it are observed exactly if the window is clear. -/
theorem run_observable_iff (localeCompare : LocaleCompare) (hcollates : Collates localeCompare)
    {initial : CollaborationSnapshot} (hintact : Integrity initial) {earlier later : List RunRequest}
    {run run' : RecordedRun} {sinceRef : SnapshotRef}
    (hearlier : Run (RunStep localeCompare initial.epochId) (.start initial) earlier run)
    (hlater : Run (RunStep localeCompare initial.epochId) run later run')
    (hsince : run.durable.store.headRef = some sinceRef) :
    ObservedFrom localeCompare run' sinceRef (committedChanges later) ↔ ClearWindow run' earlier later := by
  have hstart := runBooks_start hintact
  have hbooks := hstart.of_run hearlier
  have hbooks' := hbooks.of_run hlater
  obtain ⟨current, hhead, hcurrent, -⟩ := hbooks'.head
  have hlogged : run.durable.changelog.changes = committedChanges earlier := logged_of_run hstart hearlier
  have hlogged' : run'.durable.changelog.changes = committedChanges earlier ++ committedChanges later := by
    rw [logged_of_run hbooks hlater, hlogged]
  have hcommits := rewrites_iff_commits hbooks hlater hsince hhead
  have hshown : (∀ change ∈ committedChanges later, ShownIn run' change) ↔
      ∀ input, .commit input ∈ later → input.change.visibility ≠ .administrative ∧
        ∀ before, run'.durable.store.get input.change.beforeRef = some before →
          ShowsSomething { change := input.change, before, after := input.after } := by
    constructor
    · intro h input hmem
      obtain ⟨hvisible, hshows⟩ := h input.change (mem_committedChanges.2 ⟨input, hmem, rfl⟩)
      exact ⟨hvisible, fun before hbefore => hshows before _ hbefore (get_of_commit hbooks hlater hmem)⟩
    · intro h change hmem
      obtain ⟨input, hinput, rfl⟩ := mem_committedChanges.1 hmem
      obtain ⟨hvisible, hshows⟩ := h input hinput
      refine ⟨hvisible, fun before after hbefore hafter => ?_⟩
      cases hafter.symm.trans (get_of_commit hbooks hlater hinput)
      exact hshows before hbefore
  rw [ObservedFrom, observe_run_iff hcollates hbooks', hshown]
  constructor
  · rintro ⟨-, hchain, hmatches, ⟨headRef, hheadRef, hleads⟩, hall⟩
    cases hhead.symm.trans hheadRef
    have honly := hcommits.1 hleads
    refine ⟨gapFree_of_contiguous hstart hearlier ?_, ?_, hall⟩
    · rw [hlogged'] at hchain
      exact hchain.left_of_append
    · by_cases hempty : later = []
      · exact .inl hempty
      · have hlength := congrArg List.length (hmatches (committedChanges_ne_nil honly hempty))
        rw [hlogged'] at hlength
        exact .inr ⟨by simpa using hlength, honly⟩
  · rintro ⟨hgapFree, hwindow, hall⟩
    by_cases hempty : later = []
    · subst hempty
      cases Run.nil_iff.1 hlater
      refine ⟨since_head hbooks hsince, ?_, fun hne => absurd rfl hne, ⟨sinceRef, hsince, .nil _⟩, hall⟩
      rw [hlogged]
      exact contiguous_of_gapFree hstart hearlier hgapFree
    · obtain ⟨hnone, honly⟩ := hwindow.resolve_left hempty
      have hleads := hcommits.2 honly
      rw [hnone, List.nil_append] at hlogged'
      obtain ⟨first, rest, hchanges⟩ := List.exists_cons_of_ne_nil (committedChanges_ne_nil honly hempty)
      obtain ⟨-, hfirst, -, hchain⟩ := run_rewrites_iff.1 hleads
      have hbeforeRef : first.beforeRef = sinceRef := hfirst first (by rw [hchanges]; rfl)
      refine ⟨?_, hlogged' ▸ hchain, fun _ => by rw [hlogged'], ⟨_, hhead, hleads⟩, hall⟩
      rw [hchanges] at hlogged' ⊢
      rw [← hbeforeRef]
      exact since_start hlogged'

/-! ## One commit, and one commit that is followed by an observation -/

def unitCollation : LocaleCompare := fun a b => if JsString.lt a b then -1 else if JsString.lt b a then 1 else 0

theorem unitCollation_le {a b : String} : unitCollation a b ≤ 0 ↔ JsString.lt b a = false := by
  unfold unitCollation
  by_cases hab : JsString.lt a b = true
  · simp [hab, JsString.lt_asymm hab]
  · by_cases hba : JsString.lt b a = true
    · simp [hab, hba]
    · simp [hab, hba]

theorem collates_unitCollation : Collates unitCollation := by
  constructor
  · intro a b
    rw [unitCollation_le, unitCollation_le]
    by_cases hba : JsString.lt b a = true
    · exact .inr (JsString.lt_asymm hba)
    · exact .inl (by simpa using hba)
  · intro a b c hab hbc
    rw [unitCollation_le] at hab hbc ⊢
    exact JsString.not_lt_trans hab hbc

def waitWorld (ref : SnapshotRef) (waiting : Bool) : CollaborationSnapshot :=
  let snapshot := withParticipant (emptySnapshot ref "e1") (participant "alice" .agent)
  let snapshot := withParticipant snapshot (participant "bob" .agent)
  if waiting then withLink snapshot (collaborationLink "l1" .waitsFor (.participant "alice") (.participant "bob"))
  else snapshot

def waitCommit : DurableCommitInput where
  expectedHead := "s0"
  after := waitWorld "s1" true
  change :=
    { changeId := "ch1", recordedAt := "t1", epochId := "e1", operationTypeId := "declare_wait", templateRef := none
      beforeRef := "s0", afterRef := "s1", matchBindings := [⟨.participant, "alice"⟩]
      targets := [⟨.participant, "alice"⟩], initiator := ⟨"alice", .agent⟩, involved := [], authorization := []
      external := [], createdSessionRefs := [], visibility := .internal }
  recipe := replayRecipe "e1" "declare_wait" none [⟨.participant, "alice"⟩] .internal

def waitRun : RecordedRun :=
  ((RecordedRun.start (waitWorld "s0" false)).commit unitCollation waitCommit).getD (.start (waitWorld "s0" false))

def waitRunObserved : RecordedRun := (waitRun.observe ⟨"alice", .agent⟩ "p" "t2" "s2").getD waitRun

theorem waitRun_committed : Run (RunStep unitCollation "e1") (.start (waitWorld "s0" false)) [.commit waitCommit] waitRun :=
  .single ⟨by decide +kernel, by decide +kernel⟩

theorem waitRunObserved_ingested : Run (RunStep unitCollation "e1") (.start (waitWorld "s0" false))
    [.commit waitCommit, .observe ⟨"alice", .agent⟩ "p" "t2" "s2"] waitRunObserved :=
  Run.cons_iff.2 ⟨waitRun, ⟨by decide +kernel, by decide +kernel⟩, .single ⟨by decide +kernel, by decide +kernel⟩⟩

/-- A commit that an observation follows: from the head before the commit nothing can be observed any more. -/
theorem followed_commit_unobservable :
    ¬ ∀ localeCompare, Collates localeCompare → ∀ (initial : CollaborationSnapshot), Integrity initial →
      ∀ (earlier later : List RunRequest) (run run' : RecordedRun) (sinceRef : SnapshotRef),
        Run (RunStep localeCompare initial.epochId) (.start initial) earlier run →
        Run (RunStep localeCompare initial.epochId) run later run' → run.durable.store.headRef = some sinceRef →
        ObservedFrom localeCompare run' sinceRef (committedChanges later) := by
  intro hall
  obtain ⟨bundle, hbundle, -⟩ := hall unitCollation collates_unitCollation (waitWorld "s0" false) (by decide +kernel) [] _
    _ _ "s0" (.nil _) waitRunObserved_ingested rfl
  have hrefused : (observeCommitted unitCollation (fun _ => waitRunObserved.ports unitCollation) "s0").map (fun _ => ()) =
      .error (.readOnly (invalidInput "last change afterRef s1 !== headRef s2" "headRef")) := by decide +kernel
  rw [hbundle] at hrefused
  cases hrefused

/-- One visible commit from the start is observed from there. -/
theorem wait_observed : ObservedFrom unitCollation waitRun "s0" [waitCommit.change] := by
  refine (run_observable_iff unitCollation collates_unitCollation 
    (by decide +kernel : Integrity (waitWorld "s0" false)) (.nil _) waitRun_committed rfl).2 ⟨?_, .inr ⟨rfl, ?_⟩, ?_⟩
  · intro pre request post h
    cases pre <;> cases h
  · intro request hmem
    rw [List.mem_singleton.1 hmem]
    rfl
  · intro input hmem
    cases List.mem_singleton.1 hmem
    refine ⟨by decide, fun before hbefore => ?_⟩
    have hstored : waitRun.durable.store.get "s0" = some (waitWorld "s0" false) := by decide +kernel
    cases hstored.symm.trans hbefore
    exact .inr (.inr (.inr (.inr (.inr ⟨⟨.participant, "alice"⟩, List.mem_singleton_self _, .inl rfl⟩))))

end Cantilune
