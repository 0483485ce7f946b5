import Cantilune.Base.Rebuild
import Cantilune.Lemmas.Lenses

/-!
# Deltas are complete

A reader who has the world before the first change of a window and takes over the deltas of the views, event
by event, has the links, sessions and capabilities of the head as far as the lenses show what changed. The
resource lens does not show that the scope of a capability names another transcript, and no lens shows what
a hidden change did.
-/

namespace Cantilune

/-! ## Taking over deltas -/

/-- The entries that the deltas are about. -/
structure Entities where
  links : OrdMap LinkId CollaborationLink
  capabilities : OrdMap CapabilityId ScopedCapability
  sessions : OrdMap SessionId CommunicationSession
  deriving DecidableEq

def entitiesOf (snapshot : CollaborationSnapshot) : Entities :=
  { links := snapshot.links, capabilities := snapshot.capabilities, sessions := snapshot.sessions }

/-- The same entries; the order of a map does not count. -/
structure Entities.Same (a b : Entities) : Prop where
  links : a.links.Equiv b.links
  capabilities : a.capabilities.Equiv b.capabilities
  sessions : a.sessions.Equiv b.sessions

def DependencyDelta.applyTo (links : OrdMap LinkId CollaborationLink) (delta : DependencyDelta) :
    OrdMap LinkId CollaborationLink :=
  links.applyDelta CollaborationLink.linkId (delta.addedLinks ++ delta.updatedLinks) delta.removedLinkIds

def StructureDelta.applyTo (links : OrdMap LinkId CollaborationLink) (delta : StructureDelta) :
    OrdMap LinkId CollaborationLink :=
  links.applyDelta CollaborationLink.linkId (delta.structuralLinks ++ delta.updatedStructuralLinks)
    delta.removedStructuralLinkIds

def ResourceDelta.applyTo (capabilities : OrdMap CapabilityId ScopedCapability) (delta : ResourceDelta) :
    OrdMap CapabilityId ScopedCapability :=
  capabilities.applyDelta ScopedCapability.capabilityId delta.updatedCapabilities delta.removedCapabilityIds

def CommunicationDelta.applyTo (sessions : OrdMap SessionId CommunicationSession) (delta : CommunicationDelta) :
    OrdMap SessionId CommunicationSession :=
  sessions.applyDelta CommunicationSession.sessionId (delta.openedSessions ++ delta.updatedSessions)
    delta.closedSessionIds

def FourViewBundle.applyEvent (bundle : FourViewBundle) (entities : Entities) (event : SourceEvent) : Entities :=
  let id := event.change.changeId
  let links := (bundle.dependency.byEvent.getByChangeId id).elim entities.links
    (DependencyDelta.applyTo entities.links)
  { links := (bundle.structure.byEvent.getByChangeId id).elim links (StructureDelta.applyTo links)
    capabilities := (bundle.resource.byEvent.getByChangeId id).elim entities.capabilities
      (ResourceDelta.applyTo entities.capabilities)
    sessions := (bundle.communication.byEvent.getByChangeId id).elim entities.sessions
      (CommunicationDelta.applyTo entities.sessions) }

/-- The events of the spine, taken over in their order. -/
def FourViewBundle.replay (bundle : FourViewBundle) (start : Entities) : Entities :=
  bundle.spine.foldl bundle.applyEvent start

def CommittedStep.linkStep (step : CommittedStep) : MapStep LinkId CollaborationLink where
  before := step.before.links.get?
  after := step.after.links.get?
  shows id := step.visible && step.before.links.get? id ≠ step.after.links.get? id

def CommittedStep.capabilityStep (step : CommittedStep) : MapStep CapabilityId ScopedCapability where
  before := step.before.capabilities.get?
  after := step.after.capabilities.get?
  shows id := step.visible &&
    (step.before.capabilities.get? id).map (·.seen) ≠ (step.after.capabilities.get? id).map (·.seen)

/-- A visible step shows every session that it changed, and those that a `create_session` says it created. -/
def CommittedStep.sessionStep (step : CommittedStep) : MapStep SessionId CommunicationSession where
  before := step.before.sessions.get?
  after := step.after.sessions.get?
  shows id := step.visible &&
    (step.before.sessions.get? id ≠ step.after.sessions.get? id ||
      step.change.operationTypeId = "create_session" && step.change.createdSessionRefs.contains id &&
        step.after.sessions.has id)

structure UnseenChangesCancel (start last : CollaborationSnapshot) (steps : List CommittedStep) : Prop where
  links : ∀ id, MapStep.Settles start.links.get? last.links.get? (steps.map (·.linkStep)) id
  capabilities : ∀ id,
    MapStep.Settles start.capabilities.get? last.capabilities.get? (steps.map (·.capabilityStep)) id
  sessions : ∀ id, MapStep.Settles start.sessions.get? last.sessions.get? (steps.map (·.sessionStep)) id

section Links
variable {before after : OrdMap LinkId CollaborationLink} {kindFilter : LinkKind → Bool} {id : LinkId}

theorem get?_linkDelta (hafter : ∀ k l, after.get? k = some l → l.linkId = k)
    (links : OrdMap LinkId CollaborationLink) :
    (links.applyDelta CollaborationLink.linkId
        (addedLinks before after kindFilter ++ updatedLinks before after kindFilter)
        (removedLinkIds before after kindFilter)).get? id =
      if before.get? id ≠ after.get? id ∧ ((∃ link, after.get? id = some link ∧ kindFilter link.kind = true) ∨
        after.get? id = none ∧ ∃ link, before.get? id = some link ∧ kindFilter link.kind = true)
      then after.get? id else links.get? id := by
  have hremoved : ∀ id ∈ removedLinkIds before after kindFilter, after.get? id = none := by
    intro id hid
    obtain ⟨_, -, hnone, -⟩ := mem_removedLinkIds.1 hid
    exact hnone
  rw [OrdMap.get?_applyDelta (links_held hafter) hremoved]
  exact if_congr (links_shown_iff hafter) rfl rfl

theorem get?_applyTo_links (step : CommittedStep) (hkeyed : EntriesKeyed step.after)
    (links : OrdMap LinkId CollaborationLink) (id : LinkId) :
    (StructureDelta.applyTo (DependencyDelta.applyTo links step.slice.dependency) step.slice.structure).get? id =
      if step.before.links.get? id ≠ step.after.links.get? id then step.after.links.get? id
      else links.get? id := by
  have hdependency : (DependencyDelta.applyTo links step.slice.dependency).get? id = _ :=
    get?_linkDelta hkeyed.links links
  refine (get?_linkDelta hkeyed.links (DependencyDelta.applyTo links step.slice.dependency)).trans ?_
  rw [hdependency]
  by_cases hsame : step.before.links.get? id = step.after.links.get? id
  · simp [hsame]
  · simp only [ne_eq, hsame, not_false_eq_true, true_and, if_true]
    -- a link that changed is of a dependency kind or of a structural one
    have hkind : ∀ link : CollaborationLink,
        isDependencyLinkKind link.kind = true ∨ isStructuralLinkKind link.kind = true := fun link =>
      link_kind_covered link.kind
    cases hafter : step.after.links.get? id with
    | some link => rcases hkind link with h | h <;> simp [h]
    | none =>
        cases hbefore : step.before.links.get? id with
        | none => exact absurd (hbefore.trans hafter.symm) hsame
        | some link => rcases hkind link with h | h <;> simp [h]

end Links

/-- The resource lens takes over every capability of which it sees a change. -/
theorem get?_applyTo_capabilities (step : CommittedStep) (hbefore : EntriesKeyed step.before)
    (hafter : EntriesKeyed step.after) (capabilities : OrdMap CapabilityId ScopedCapability) (id : CapabilityId) :
    (ResourceDelta.applyTo capabilities step.slice.resource).get? id =
      if (step.before.capabilities.get? id).map (·.seen) ≠ (step.after.capabilities.get? id).map (·.seen)
      then step.after.capabilities.get? id else capabilities.get? id := by
  rw [ResourceDelta.applyTo, OrdMap.get?_applyDelta (updatedCapabilities_held hafter)
    fun id hid => (mem_removedCapabilityIds.1 hid).2]
  exact if_congr (capabilities_shown_iff hbefore hafter) rfl rfl

theorem get?_applyTo_sessions (step : CommittedStep) (hbefore : EntriesKeyed step.before)
    (hafter : EntriesKeyed step.after) (sessions : OrdMap SessionId CommunicationSession) (id : SessionId) :
    (CommunicationDelta.applyTo sessions step.slice.communication).get? id =
      if step.before.sessions.get? id ≠ step.after.sessions.get? id ∨
          (step.change.operationTypeId = "create_session" ∧ id ∈ step.change.createdSessionRefs) ∧
            step.after.sessions.has id = true
      then step.after.sessions.get? id else sessions.get? id := by
  rw [CommunicationDelta.applyTo, OrdMap.get?_applyDelta (openedSessions_held hafter)
    fun id hid => (mem_closedSessionIds.1 hid).2]
  exact if_congr (sessions_shown_iff hbefore hafter) rfl rfl

/-! ## The whole window -/

section Windows
variable {localeCompare : LocaleCompare} {snapshot : CollaborationSnapshot} {steps : List CommittedStep}
  {step : CommittedStep} {entities : Entities}

theorem applyEvent_bundleOf (h : (steps.map (·.change.changeId)).Nodup) (hmem : step ∈ steps) :
    (bundleOf localeCompare snapshot steps).applyEvent entities step.event =
      if step.visible then
        { links := StructureDelta.applyTo (DependencyDelta.applyTo entities.links step.slice.dependency)
            step.slice.structure
          capabilities := ResourceDelta.applyTo entities.capabilities step.slice.resource
          sessions := CommunicationDelta.applyTo entities.sessions step.slice.communication }
      else entities := by
  have hid : step.event.change.changeId = step.change.changeId := rfl
  unfold FourViewBundle.applyEvent
  simp only [bundleOf, hid, getByChangeId_visibleIndex h hmem]
  by_cases hvisible : step.visible = true
  · simp [hvisible]
  · simp [hvisible]

theorem replay_bundleOf (localeCompare : LocaleCompare)
    (snapshot : CollaborationSnapshot) (h : (steps.map (·.change.changeId)).Nodup)
    (hkeyed : ∀ step ∈ steps, EntriesKeyed step.before ∧ EntriesKeyed step.after) (start : Entities) :
    ((bundleOf localeCompare snapshot steps).replay start).links.get? =
        MapStep.rebuild start.links.get? (steps.map (·.linkStep)) ∧
      ((bundleOf localeCompare snapshot steps).replay start).capabilities.get? =
        MapStep.rebuild start.capabilities.get? (steps.map (·.capabilityStep)) ∧
      ((bundleOf localeCompare snapshot steps).replay start).sessions.get? =
        MapStep.rebuild start.sessions.get? (steps.map (·.sessionStep)) := by
  have hreplay : (bundleOf localeCompare snapshot steps).replay start = steps.foldl
      (fun entities step => (bundleOf localeCompare snapshot steps).applyEvent entities step.event) start :=
    List.foldl_map
  rw [hreplay]
  refine ⟨?_, ?_, ?_⟩
  · refine MapStep.read_foldl (fun entities => entities.links.get?) (fun step hstep entities id => ?_) start
    rw [applyEvent_bundleOf h hstep]
    by_cases hvisible : step.visible = true
    · simp [hvisible, CommittedStep.linkStep, get?_applyTo_links step (hkeyed step hstep).2]
    · simp [hvisible, CommittedStep.linkStep]
  · refine MapStep.read_foldl (fun entities => entities.capabilities.get?) (fun step hstep entities id => ?_) start
    rw [applyEvent_bundleOf h hstep]
    by_cases hvisible : step.visible = true
    · simp [hvisible, CommittedStep.capabilityStep,
        get?_applyTo_capabilities step (hkeyed step hstep).1 (hkeyed step hstep).2]
    · simp [hvisible, CommittedStep.capabilityStep]
  · refine MapStep.read_foldl (fun entities => entities.sessions.get?) (fun step hstep entities id => ?_) start
    rw [applyEvent_bundleOf h hstep]
    by_cases hvisible : step.visible = true
    · simp [hvisible, CommittedStep.sessionStep,
        get?_applyTo_sessions step (hkeyed step hstep).1 (hkeyed step hstep).2]
    · simp [hvisible, CommittedStep.sessionStep]

end Windows

/-- The deltas of an accepted window rebuild the links, capabilities and sessions of the head exactly if,
under every id, the changes that the views do not show were changed back after the last one they do show. -/
theorem deltas_complete_iff (localeCompare : LocaleCompare) (ports : Nat → ObservationReadPorts)
    (sinceRef : SnapshotRef) (options : ObservationIndexOptions) {input : ObservationInput} {bundle : FourViewBundle}
    {first : CommittedStep} {rest : List CommittedStep}
    (hread : readObservationCutFromPorts ports sinceRef = .ok input)
    (hbundle : observeCommitted localeCompare ports sinceRef options = .ok bundle)
    (hwindow : Window (createSnapshotResolver input.snapshot (some (resolveSnapshotReader ports options)))
      input.changes (first :: rest))
    (hkeyed : ∀ step ∈ first :: rest, EntriesKeyed step.before ∧ EntriesKeyed step.after) :
    (bundle.replay (entitiesOf first.before)).Same (entitiesOf input.snapshot) ↔
      UnseenChangesCancel first.before input.snapshot (first :: rest) := by
  obtain ⟨input', steps, hread', hcut, hwindow', -, rfl, -⟩ := observeCommitted_eq_ok.1 hbundle
  cases hread.symm.trans hread'
  obtain rfl := hwindow'.unique hwindow
  have hids : ((first :: rest).map (·.change.changeId)).Nodup := by
    have hunique := hcut.unique
    rw [hwindow.changes, List.map_map] at hunique
    exact hunique
  obtain ⟨hlinks, hcapabilities, hsessions⟩ := replay_bundleOf localeCompare
    (cloneSnapshotForObservation input.snapshot) hids hkeyed (entitiesOf first.before)
  constructor
  · intro h
    refine ⟨fun id => MapStep.rebuild_eq_iff.1 ?_, fun id => MapStep.rebuild_eq_iff.1 ?_,
      fun id => MapStep.rebuild_eq_iff.1 ?_⟩
    · exact (congrFun hlinks id).symm.trans (h.links id)
    · exact (congrFun hcapabilities id).symm.trans (h.capabilities id)
    · exact (congrFun hsessions id).symm.trans (h.sessions id)
  · intro h
    refine ⟨fun id => ?_, fun id => ?_, fun id => ?_⟩
    · exact (congrFun hlinks id).trans (MapStep.rebuild_eq_iff.2 (h.links id))
    · exact (congrFun hcapabilities id).trans (MapStep.rebuild_eq_iff.2 (h.capabilities id))
    · exact (congrFun hsessions id).trans (MapStep.rebuild_eq_iff.2 (h.sessions id))

/-! ## What every accepted window rebuilds -/

def CommittedStep.Between (s : CollaborationSnapshot) (step : CommittedStep) (t : CollaborationSnapshot) : Prop :=
  step.before = s ∧ step.after = t

section Shown
variable {start last : CollaborationSnapshot} {steps : List CommittedStep}

theorem run_moves {V : Type} (read : CollaborationSnapshot → String → Option V)
    (toStep : CommittedStep → MapStep String V) (r : Run CommittedStep.Between start steps last)
    (h : ∀ step, (toStep step).before = read step.before ∧ (toStep step).after = read step.after) :
    Run MapStep.Moves (read start) (steps.map toStep) (read last) := by
  refine r.map (f := read) (g := toStep) fun s step t hstep => ?_
  obtain ⟨rfl, rfl⟩ := hstep
  exact h step

theorem settles_links (r : Run CommittedStep.Between start steps last) (hvisible : ∀ step ∈ steps, step.visible = true)
    (id : LinkId) : MapStep.Settles start.links.get? last.links.get? (steps.map (·.linkStep)) id := by
  have hrun := run_moves (fun s => s.links.get?) (fun step => step.linkStep) r fun _ => ⟨rfl, rfl⟩
  refine MapStep.settles_of_shown hrun fun s hs hunshown => ?_
  obtain ⟨step, hstep, rfl⟩ := List.mem_map.1 hs
  have hsame : step.before.links.get? id = step.after.links.get? id := by
    simpa [CommittedStep.linkStep, hvisible step hstep] using hunshown
  exact hsame.symm

theorem settles_sessions (r : Run CommittedStep.Between start steps last)
    (hvisible : ∀ step ∈ steps, step.visible = true) (id : SessionId) :
    MapStep.Settles start.sessions.get? last.sessions.get? (steps.map (·.sessionStep)) id := by
  have hrun := run_moves (fun s => s.sessions.get?) (fun step => step.sessionStep) r fun _ => ⟨rfl, rfl⟩
  refine MapStep.settles_of_shown hrun fun s hs hunshown => ?_
  obtain ⟨step, hstep, rfl⟩ := List.mem_map.1 hs
  have hunshown : step.sessionStep.shows id = false := hunshown
  simp only [CommittedStep.sessionStep, hvisible step hstep, Bool.true_and, Bool.or_eq_false_iff,
    decide_eq_false_iff_not, ne_eq, not_not] at hunshown
  exact hunshown.1.symm

theorem settles_capabilities (r : Run CommittedStep.Between start steps last)
    (hvisible : ∀ step ∈ steps, step.visible = true) {id : CapabilityId}
    (hscopes : ∀ step ∈ steps, (step.before.capabilities.get? id).map (·.seen) =
      (step.after.capabilities.get? id).map (·.seen) →
        step.before.capabilities.get? id = step.after.capabilities.get? id) :
    MapStep.Settles start.capabilities.get? last.capabilities.get? (steps.map (·.capabilityStep)) id := by
  have hrun := run_moves (fun s => s.capabilities.get?) (fun step => step.capabilityStep) r fun _ => ⟨rfl, rfl⟩
  refine MapStep.settles_of_shown hrun fun s hs hunshown => ?_
  obtain ⟨step, hstep, rfl⟩ := List.mem_map.1 hs
  have hseen : (step.before.capabilities.get? id).map (·.seen) = (step.after.capabilities.get? id).map (·.seen) := by
    simpa [CommittedStep.capabilityStep, hvisible step hstep] using hunshown
  exact (hscopes step hstep hseen).symm

end Shown

/-! ## Two windows of one change -/

def grantWorld (ref : SnapshotRef) (subject : ActorId) (dependsOnBob : Bool) : CollaborationSnapshot :=
  let snapshot := emptySnapshot ref "e1"
  let snapshot := withParticipant snapshot (participant "alice" .agent)
  let snapshot := withParticipant snapshot (participant "bob" .agent)
  let snapshot := withParticipant snapshot (participant "carol" .agent)
  let snapshot := withCapability snapshot
    { capabilityId := "c1", kind := .transcriptRead, holder := "alice",
      scope := .transcript subject defaultNamespaceId }
  if dependsOnBob then withLink snapshot (collaborationLink "l1" .dependsOn (.participant "alice") (.participant "bob"))
  else snapshot

def grantChange : CoordinationChange :=
  { changeId := "ch1", recordedAt := "t1", epochId := "e1", operationTypeId := "update_grant", templateRef := none
    beforeRef := "s0", afterRef := "s1", matchBindings := [⟨.participant, "alice"⟩]
    targets := [⟨.participant, "alice"⟩], initiator := ⟨"alice", .agent⟩, involved := [], authorization := []
    external := [], createdSessionRefs := [], visibility := .internal }

def grantPorts (before after : CollaborationSnapshot) : ObservationReadPorts where
  head := some "s1"
  getSnapshot ref := if ref = "s0" then some before else if ref = "s1" then some after else none
  changesSince ref := if ref = "s0" then [grantChange] else []
  runHistory := some [.rewrite grantChange]

def grantInput (after : CollaborationSnapshot) : ObservationInput :=
  { headRef := "s1", sinceRef := "s0", snapshot := after, changes := [grantChange]
    validatedHistory := { segments := [.rewrite grantChange] } }

def grantStep (before after : CollaborationSnapshot) : CommittedStep :=
  { change := grantChange, before := cloneSnapshotForObservation before, after := cloneSnapshotForObservation after }

/-- A grant whose transcript is exchanged under its id: the window is accepted, and the reader keeps the grant
for the transcript before. -/
theorem exchanged_transcript_unseen :
    ¬ ∀ (localeCompare : LocaleCompare) (ports : Nat → ObservationReadPorts) (sinceRef : SnapshotRef)
      (input : ObservationInput) (bundle : FourViewBundle) (first : CommittedStep) (rest : List CommittedStep),
      readObservationCutFromPorts ports sinceRef = .ok input →
      observeCommitted localeCompare ports sinceRef = .ok bundle →
      Window (createSnapshotResolver input.snapshot (some (resolveSnapshotReader ports {}))) input.changes
        (first :: rest) →
      (∀ step ∈ first :: rest, EntriesKeyed step.before ∧ EntriesKeyed step.after) →
      (bundle.replay (entitiesOf first.before)).Same (entitiesOf input.snapshot) := by
  intro hall
  let before := grantWorld "s0" "bob" false
  let after := grantWorld "s1" "carol" false
  have hcapability : (observeCommitted (fun _ _ => 0) (fun _ => grantPorts before after) "s0").map
      (fun bundle => ((bundle.replay (entitiesOf before)).capabilities.get? "c1").map (·.scope)) =
        .ok (some (.transcript "bob" defaultNamespaceId)) := by decide +kernel
  obtain ⟨bundle, hbundle, hscope⟩ := Outcome.map_eq_ok.1 hcapability
  have hkeyed : ∀ step ∈ [grantStep before after], EntriesKeyed step.before ∧ EntriesKeyed step.after := by
    intro step hstep
    rw [List.mem_singleton.1 hstep]
    have hbefore : Integrity (grantStep before after).before := by decide +kernel
    have hafter : Integrity (grantStep before after).after := by decide +kernel
    exact ⟨hbefore.entriesKeyed, hafter.entriesKeyed⟩
  have hsame := hall (fun _ _ => 0) (fun _ => grantPorts before after) "s0" (grantInput after) bundle
    (grantStep before after) [] (by decide +kernel) hbundle
    (.cons ⟨rfl, by decide +kernel, by decide +kernel⟩ .nil) hkeyed
  have hseen := hsame.capabilities "c1"
  have hlast : ((entitiesOf (grantInput after).snapshot).capabilities.get? "c1").map (·.scope) =
      some (.transcript "carol" defaultNamespaceId) := by decide +kernel
  have hstart : entitiesOf (grantStep before after).before = entitiesOf before := rfl
  rw [hstart] at hseen
  rw [hseen, hlast] at hscope
  revert hscope
  decide

/-- A link that is added reaches the reader. -/
theorem added_link_replayed : ∃ bundle,
    observeCommitted (fun _ _ => 0) (fun _ => grantPorts (grantWorld "s0" "bob" false) (grantWorld "s1" "bob" true))
      "s0" = .ok bundle ∧
    (bundle.replay (entitiesOf (grantWorld "s0" "bob" false))).Same (entitiesOf (grantWorld "s1" "bob" true)) := by
  let before := grantWorld "s0" "bob" false
  let after := grantWorld "s1" "bob" true
  obtain ⟨bundle, hbundle⟩ : ∃ bundle,
      observeCommitted (fun _ _ => 0) (fun _ => grantPorts before after) "s0" = .ok bundle := by
    have hok : (observeCommitted (fun _ _ => 0) (fun _ => grantPorts before after) "s0").map (fun _ => ()) = .ok () := by
      decide +kernel
    obtain ⟨bundle, hbundle, -⟩ := Outcome.map_eq_ok.1 hok
    exact ⟨bundle, hbundle⟩
  have hkeyed : ∀ step ∈ [grantStep before after], EntriesKeyed step.before ∧ EntriesKeyed step.after := by
    intro step hstep
    rw [List.mem_singleton.1 hstep]
    have hbefore : Integrity (grantStep before after).before := by decide +kernel
    have hafter : Integrity (grantStep before after).after := by decide +kernel
    exact ⟨hbefore.entriesKeyed, hafter.entriesKeyed⟩
  have hrun : Run CommittedStep.Between (grantStep before after).before [grantStep before after]
      (cloneSnapshotForObservation after) := .single ⟨rfl, rfl⟩
  have hvisible : ∀ step ∈ [grantStep before after], step.visible = true := by decide
  refine ⟨bundle, hbundle, (deltas_complete_iff (fun _ _ => 0) (fun _ => grantPorts before after) "s0" {}
    (by decide +kernel : readObservationCutFromPorts _ "s0" = .ok (grantInput after)) hbundle
    (.cons ⟨rfl, by decide +kernel, by decide +kernel⟩ .nil : Window _ [grantChange] [grantStep before after])
    hkeyed).2 ⟨fun id => ?_, fun id => ?_, fun id => ?_⟩⟩
  · exact settles_links hrun hvisible id
  · refine settles_capabilities hrun hvisible fun step hstep _ => ?_
    rw [List.mem_singleton.1 hstep]
    rfl
  · exact settles_sessions hrun hvisible id

end Cantilune
