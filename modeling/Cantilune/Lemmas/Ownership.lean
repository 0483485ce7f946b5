import Cantilune.Lemmas.Effects
import Cantilune.Runtime.Admission

/-!
# Artifacts and capabilities under an operation

What an operation that succeeds does to the artifacts and the capabilities of the world, with the facts
its admission established.
-/

namespace Cantilune

variable {before after : CollaborationSnapshot} {o : Operation}

theorem Operation.effect_of_applies (h : Operation.Applies before o after) :
    ∃ result, after = withSnapshotRef result o.afterRef ∧ Effect before o.recipe o.kind result := by
  unfold Operation.Applies Operation.apply at h
  split at h
  · rename_i result hok
    cases h
    exact ⟨_, rfl, handler_effect hok⟩
  · cases h

theorem Operation.perform_eq_some (h : o.perform before = some after) :
    o.Admitted before ∧ Integrity before ∧ Integrity after ∧
      ∃ result, after = withSnapshotRef result o.afterRef ∧ Effect before o.recipe o.kind result := by
  unfold Operation.perform at h
  split at h
  · rename_i hadm
    obtain ⟨happly, hafter⟩ := Option.filter_eq_some_iff.1 h
    simp only [decide_eq_true_eq] at hafter
    exact ⟨hadm, validateSnapshotIntegrityResult_eq_none.1 hadm.integrity,
      validateSnapshotIntegrityResult_eq_none.1 hafter.1, Operation.effect_of_applies happly⟩
  · cases h

def Operation.writeLockId (o : Operation) (taskId : ArtifactId) : CapabilityId :=
  (findRole o.bindings .capability).getD (defaultWriteLockId taskId)

def Operation.Introduces (o : Operation) (taskId : ArtifactId) : Prop :=
  (o.kind = .introduceArtifact ∨ o.kind = .forkBranch) ∧ findRole o.bindings .task = some taskId

def Operation.Delegates (o : Operation) (capabilityId : CapabilityId) (delegator : ActorId) : Prop :=
  o.kind = .delegate ∧ findRole o.bindings .capability = some capabilityId ∧
    findRole o.bindings .from = some delegator

theorem requires_of_admitted (h : o.Admitted before) {c : TemplateCondition}
    (hc : c ∈ o.kind.template.requires) : evaluateCondition before o.bindings c = true :=
  evaluateRequires_eq_none.1 h.requires c hc

/-- What `delegator.holds` says of an operation that names a capability. -/
theorem capabilityHeldBy_holds {s : CollaborationSnapshot} {bs : List MatchBinding} {role : MatchBindingRole}
    {taskId : ArtifactId} {actorId : ActorId} {capabilityId : CapabilityId} {lock : ScopedCapability}
    (hrole : role.targetKind = .participant) (htask : findRole bs .task = some taskId)
    (hactor : findRole bs role = some actorId) (hcap : findRole bs .capability = some capabilityId)
    (hlock : s.capabilities.get? capabilityId = some lock) :
    evaluateCondition s bs (capabilityHeldBy role) = true ↔
      lock.holder = actorId ∧ lock.scope = .artifact taskId := by
  have htask' : idFromRole bs .artifact ((capabilityHeldBy role).role "task" .task) = some taskId := htask
  have hcap' : idFromRole bs .capability ((capabilityHeldBy role).role "capability" .capability)
      = some capabilityId := hcap
  have hactor' : idFromRole bs .participant ((capabilityHeldBy role).role "from" .from) = some actorId := by
    change idFromRole bs .participant role = some actorId
    rw [idFromRole, if_pos hrole, hactor]
  change evaluateDelegatorHolds s bs (capabilityHeldBy role) = true ↔ _
  simp [evaluateDelegatorHolds, htask', hactor', hcap', hlock]

theorem delegate_admitted {b : DelegateBindings} {lock : ScopedCapability} (h : o.Admitted before)
    (hkind : o.kind = .delegate) (hb : delegateBindings o.recipe = some b)
    (hlock : before.capabilities.get? b.capabilityId = some lock) :
    lock.holder = b.fromId ∧ lock.scope = .artifact b.taskId := by
  obtain ⟨ht, hf, _, hc⟩ := delegateBindings_eq_some.1 hb
  have hholds := requires_of_admitted h (c := capabilityHeldBy .from) (by rw [hkind]; decide)
  exact (capabilityHeldBy_holds rfl ht hf hc hlock).1 hholds

/-! ## Effects on artifacts and capabilities -/

theorem linkReviewer_artifacts (s : CollaborationSnapshot) (recipe : ReplayRecipe) (fromId toId : ActorId) :
    (linkReviewer s recipe fromId toId).artifacts = s.artifacts := by
  unfold linkReviewer
  split
  · simp only
    split <;> rfl
  · rfl

theorem linkReviewer_capabilities (s : CollaborationSnapshot) (recipe : ReplayRecipe) (fromId toId : ActorId) :
    (linkReviewer s recipe fromId toId).capabilities = s.capabilities := by
  unfold linkReviewer
  split
  · simp only
    split <;> rfl
  · rfl

/-- The four things an operation can do to artifacts and capabilities. -/
inductive OwnershipStep (s : CollaborationSnapshot) (o : Operation) (t : CollaborationSnapshot) : Prop where
  | frame (hArtifacts : t.artifacts = s.artifacts) (hCapabilities : t.capabilities = s.capabilities)
      (hIntroduces : ∀ taskId, ¬ o.Introduces taskId) (hKind : o.kind ≠ .delegate)
  | publish {artifactId artifact} (hArtifact : s.artifacts.get? artifactId = some artifact)
      (hArtifacts : t.artifacts = s.artifacts.set artifactId (withArtifactLifecycle artifact .published))
      (hCapabilities : t.capabilities = s.capabilities) (hKind : o.kind = .publishArtifact)
  | introduce {taskId content owner} (hIntroduces : o.Introduces taskId)
      (hNew : s.artifacts.has taskId = false)
      (hArtifacts : t.artifacts = s.artifacts.set taskId
        { artifactId := taskId, kind := "Task", contentRef := content, owner, lifecycle := .active })
      (hCapabilities : t.capabilities = s.capabilities.set (o.writeLockId taskId)
        { capabilityId := o.writeLockId taskId, kind := .writeLock, holder := owner.actorId,
          scope := .artifact taskId })
  | delegate {taskId fromId capabilityId task lock} (owner : ActorRef) (hKind : o.kind = .delegate)
      (hTaskId : findRole o.bindings .task = some taskId) (hFrom : findRole o.bindings .from = some fromId)
      (hTo : findRole o.bindings .to = some owner.actorId)
      (hCapability : findRole o.bindings .capability = some capabilityId)
      (hTask : s.artifacts.get? taskId = some task) (hLock : s.capabilities.get? capabilityId = some lock)
      (hHolder : lock.holder = fromId) (hScope : lock.scope = .artifact taskId)
      (hArtifacts : t.artifacts = s.artifacts.set taskId (withArtifactOwner task owner))
      (hCapabilities : t.capabilities =
        s.capabilities.set capabilityId (withCapabilityHolder lock owner.actorId))

theorem ownershipStep (h : Operation.Performs before o after) : OwnershipStep before o after := by
  obtain ⟨hadm, hin, _, result, rfl, heff⟩ := o.perform_eq_some h
  obtain ⟨kind, recipe, afterRef⟩ := o
  cases heff with
  | introduceArtifact hTask _ hNew _ _ => exact .introduce ⟨.inl rfl, hTask⟩ hNew rfl rfl
  | forkBranchTask _ hTask hNew _ _ _ => exact .introduce ⟨.inr rfl, hTask⟩ hNew rfl rfl
  | forkBranch _ hTask _ _ _ =>
      refine .frame rfl rfl (fun taskId hi => ?_) (by simp)
      exact absurd (hTask.symm.trans hi.2) (by simp)
  | publishArtifact hTask hArtifact _ =>
      refine .publish hArtifact ?_ rfl rfl
      rw [(hin.artifacts _ _ hArtifact).1]
      rfl
  | @delegate b task lock p _ hBindings hTask hLock _ _ _ =>
      obtain ⟨ht, hf, hto, hc⟩ := delegateBindings_eq_some.1 hBindings
      obtain ⟨hHolder, hScope⟩ := delegate_admitted hadm rfl hBindings hLock
      refine .delegate ⟨b.toId, p.kind⟩ rfl ht hf hto hc hTask hLock hHolder hScope ?_ ?_
      · rw [(hin.artifacts _ _ hTask).1]
        exact linkReviewer_artifacts ..
      · rw [(hin.capabilities _ _ hLock).1]
        exact linkReviewer_capabilities ..
  | createSession => exact .frame rfl rfl (fun _ hi => by simpa using hi.1) (by simp)
  | transferSession => exact .frame rfl rfl (fun _ hi => by simpa using hi.1) (by simp)
  | registerParticipant => exact .frame rfl rfl (fun _ hi => by simpa using hi.1) (by simp)
  | activateParticipant => exact .frame rfl rfl (fun _ hi => by simpa using hi.1) (by simp)
  | signalDone => exact .frame rfl rfl (fun _ hi => by simpa using hi.1) (by simp)
  | retireParticipant => exact .frame rfl rfl (fun _ hi => by simpa using hi.1) (by simp)
  | emitHeartbeat => exact .frame rfl rfl (fun _ hi => by simpa using hi.1) (by simp)
  | commitTranscript => exact .frame rfl rfl (fun _ hi => by simpa using hi.1) (by simp)

end Cantilune
