import Cantilune.ControlPlane.Worker

/-!
# What the calls of the control plane touch

The parts of the store that a request may write, and for each call the parts that its requests write.
-/

namespace Cantilune

/-! ## Parts of the store -/

inductive StorePart where
  | revisions | policies | activeBindings | admissions | preparedAdmissions | commitDecisions | commitReceipts
  | idempotency | events
  deriving DecidableEq

def ControlPlaneRequest.writes : ControlPlaneRequest → List StorePart
  | .registerRevision _ => [.revisions]
  | .registerPolicy _ => [.policies]
  | .casActiveBinding _ _ _ => [.activeBindings]
  | .putAdmission _ => [.admissions]
  | .putPrepared _ => [.preparedAdmissions]
  | .consumePrepared _ => [.preparedAdmissions]
  | .putCommitDecision _ => [.commitDecisions]
  | .putCommitReceipt _ => [.commitReceipts]
  | .finalizeAdmissionCommit _ => [.activeBindings, .admissions, .commitDecisions, .commitReceipts, .events]
  | .appendEvent _ => [.events]
  | .claimIdempotency _ _ => [.idempotency]
  | .releaseIdempotency _ => [.idempotency]
  | _ => []

def StorePart.Same (s t : ControlPlaneStore) : StorePart → Prop
  | revisions => t.revisions = s.revisions
  | policies => t.policies = s.policies
  | activeBindings => t.activeBindings = s.activeBindings
  | admissions => t.admissions = s.admissions
  | preparedAdmissions => t.preparedAdmissions = s.preparedAdmissions
  | commitDecisions => t.commitDecisions = s.commitDecisions
  | commitReceipts => t.commitReceipts = s.commitReceipts
  | idempotency => t.idempotency = s.idempotency
  | events => t.events = s.events

theorem StorePart.Same.refl (s : ControlPlaneStore) (part : StorePart) : part.Same s s := by
  cases part <;> rfl

theorem StorePart.Same.trans {s t u : ControlPlaneStore} {part : StorePart} (h : part.Same s t)
    (h' : part.Same t u) : part.Same s u := by
  cases part <;> exact Eq.trans h' h

namespace ControlPlaneStore

variable {hashes : ContentHashes} {store after : ControlPlaneStore}

theorem registerRevision_frame {revision : SchemaRevision} (h : store.registerRevision hashes revision = .ok after)
    {part : StorePart} (hpart : part ≠ .revisions) : part.Same store after := by
  unfold registerRevision at h
  split at h
  · cases h
  split at h
  · split at h
    · cases h
      exact .refl _ _
    · cases h
  · cases h
    cases part <;> first | exact absurd rfl hpart | rfl

theorem registerPolicy_frame {revision : PolicyRevision} (h : store.registerPolicy hashes revision = .ok after)
    {part : StorePart} (hpart : part ≠ .policies) : part.Same store after := by
  unfold registerPolicy at h
  split at h
  · cases h
  · cases h
    cases part <;> first | exact absurd rfl hpart | rfl

theorem appendEvent_frame {envelope : ControlPlaneEventEnvelope} (h : store.appendEvent envelope = .ok after)
    {part : StorePart} (hpart : part ≠ .events) : part.Same store after := by
  unfold appendEvent at h
  split at h
  · cases h
  split at h
  · cases h
  · cases h
    cases part <;> first | exact absurd rfl hpart | rfl

theorem casActiveBinding_frame {domainId : ActivationDomainId} {generation : Nat} {next : SchemaEpochBinding}
    {part : StorePart} (hpart : part ≠ .activeBindings) :
    part.Same store (store.casActiveBinding domainId generation next).2 := by
  unfold casActiveBinding
  split
  · cases part <;> first | exact absurd rfl hpart | rfl
  · exact .refl _ _

theorem consumePrepared_frame {preparedId : PreparedAdmissionId} {part : StorePart}
    (hpart : part ≠ .preparedAdmissions) : part.Same store (store.consumePrepared preparedId).2 := by
  unfold consumePrepared
  split
  · exact .refl _ _
  split
  · exact .refl _ _
  · cases part <;> first | exact absurd rfl hpart | rfl

theorem claimIdempotency_frame {key : IdempotencyKey} {digest : AdmissionDigest} {part : StorePart}
    (hpart : part ≠ .idempotency) : part.Same store (store.claimIdempotency key digest).2 := by
  unfold claimIdempotency
  split
  · cases part <;> first | exact absurd rfl hpart | rfl
  split
  · exact .refl _ _
  · exact .refl _ _

theorem finalizeAdmissionCommit_frame {input : FinalizeAdmissionCommitInput} {part : StorePart}
    (hpart : part ∉ [StorePart.activeBindings, .admissions, .commitDecisions, .commitReceipts, .events]) :
    part.Same store (store.finalizeAdmissionCommit input).2 := by
  unfold finalizeAdmissionCommit
  split
  · have hwritten : part.Same store ((({ store with
        activeBindings := store.activeBindings.set input.domainId input.nextBinding }.putAdmission
        input.admission).putCommitDecision input.commitDecision).putCommitReceipt input.receipt) := by
      cases part <;> first | rfl | exact absurd (by decide) hpart
    dsimp only
    split
    · exact hwritten
    · rename_i after hafter
      refine hwritten.trans (appendEvent_frame hafter ?_)
      rintro rfl
      exact hpart (by decide)
  · exact .refl _ _

end ControlPlaneStore

/-! ## Requests -/

variable {R : Type} {host : ControlPlaneHost} {port : RuntimePort R} {w w' : ControlPlaneWorld R}

theorem ControlPlaneWorld.answered_eq {α : Type} {a : α} {answer : α × ControlPlaneStore}
    (h : (a, w') = w.answered answer) : a = answer.1 ∧ w' = { w with store := answer.2 } :=
  ⟨congrArg Prod.fst h, congrArg Prod.snd h⟩

theorem written_frame {α : Type} {store : ControlPlaneStore} {result : Except α ControlPlaneStore} {part : StorePart}
    (h : ∀ after, result = .ok after → part.Same store after) : part.Same store (written store result).2 := by
  cases result with
  | error e => exact .refl _ _
  | ok after => exact h after rfl

theorem ControlPlaneRequest.answers_frame {r : ControlPlaneRequest} {resp : r.Response} {part : StorePart}
    (h : r.Answers host port w resp w') (hpart : part ∉ r.writes) : part.Same w.store w'.store := by
  cases r with
  | isFrozen => exact h.2 ▸ .refl _ _
  | setFrozen frozen =>
      cases h
      cases part <;> rfl
  | getRevision ref => exact h.2 ▸ .refl _ _
  | registerRevision revision =>
      obtain ⟨-, rfl⟩ := ControlPlaneWorld.answered_eq h
      exact written_frame fun after hafter =>
        ControlPlaneStore.registerRevision_frame hafter fun heq => hpart (heq ▸ List.mem_singleton_self _)
  | registerPolicy revision =>
      obtain ⟨-, rfl⟩ := ControlPlaneWorld.answered_eq h
      exact written_frame fun after hafter =>
        ControlPlaneStore.registerPolicy_frame hafter fun heq => hpart (heq ▸ List.mem_singleton_self _)
  | getActiveBinding domainId => exact h.2 ▸ .refl _ _
  | firstActiveBinding => exact h.2 ▸ .refl _ _
  | casActiveBinding domainId generation next =>
      obtain ⟨-, rfl⟩ := ControlPlaneWorld.answered_eq h
      exact ControlPlaneStore.casActiveBinding_frame fun heq => hpart (heq ▸ List.mem_singleton_self _)
  | getAdmission id => exact h.2 ▸ .refl _ _
  | putAdmission record =>
      cases h
      cases part <;> first | rfl | exact absurd (List.mem_singleton_self _) hpart
  | putPrepared record =>
      cases h
      cases part <;> first | rfl | exact absurd (List.mem_singleton_self _) hpart
  | consumePrepared id =>
      obtain ⟨-, rfl⟩ := ControlPlaneWorld.answered_eq h
      exact ControlPlaneStore.consumePrepared_frame fun heq => hpart (heq ▸ List.mem_singleton_self _)
  | getCommitDecision id => exact h.2 ▸ .refl _ _
  | putCommitDecision record =>
      cases h
      cases part <;> first | rfl | exact absurd (List.mem_singleton_self _) hpart
  | getCommitReceipt id => exact h.2 ▸ .refl _ _
  | putCommitReceipt receipt =>
      cases h
      cases part <;> first | rfl | exact absurd (List.mem_singleton_self _) hpart
  | finalizeAdmissionCommit input =>
      obtain ⟨-, rfl⟩ := ControlPlaneWorld.answered_eq h
      exact ControlPlaneStore.finalizeAdmissionCommit_frame hpart
  | nextEvent kind actor payload key =>
      obtain ⟨eventId, time, -, h⟩ := h
      obtain ⟨-, rfl⟩ := ControlPlaneWorld.answered_eq h
      cases part <;> rfl
  | appendEvent envelope =>
      obtain ⟨-, rfl⟩ := ControlPlaneWorld.answered_eq h
      exact written_frame fun after hafter =>
        ControlPlaneStore.appendEvent_frame hafter fun heq => hpart (heq ▸ List.mem_singleton_self _)
  | lastSequence => exact h.2 ▸ .refl _ _
  | claimIdempotency key digest =>
      obtain ⟨-, rfl⟩ := ControlPlaneWorld.answered_eq h
      exact ControlPlaneStore.claimIdempotency_frame fun heq => hpart (heq ▸ List.mem_singleton_self _)
  | releaseIdempotency key =>
      cases h
      cases part <;> first | rfl | exact absurd (List.mem_singleton_self _) hpart
  | now => exact h ▸ .refl _ _
  | randomUUID => exact h.2 ▸ .refl _ _
  | validateSealedAdmissionPrepare subject => exact h ▸ .refl _ _
  | prepareEpochTransition request =>
      obtain ⟨runtime, -, rfl⟩ := h
      exact .refl _ _
  | commitEpochTransition token =>
      obtain ⟨runtime, -, rfl⟩ := h
      exact .refl _ _
  | recoverEpochTransition id =>
      obtain ⟨runtime, -, rfl⟩ := h
      exact .refl _ _
  | updateBinding binding =>
      cases h
      exact .refl _ _
  | enqueue event =>
      cases h
      exact .refl _ _

def ControlPlaneRequest.keepsStore : ControlPlaneRequest → Bool
  | .isFrozen | .getRevision _ | .getActiveBinding _ | .firstActiveBinding | .getAdmission _ | .getCommitDecision _
  | .getCommitReceipt _ | .lastSequence | .now | .randomUUID | .validateSealedAdmissionPrepare _
  | .prepareEpochTransition _ | .commitEpochTransition _ | .recoverEpochTransition _ | .updateBinding _
  | .enqueue _ => true
  | _ => false

theorem ControlPlaneRequest.answers_keepsStore {r : ControlPlaneRequest} {resp : r.Response}
    (h : r.Answers host port w resp w') (hkeeps : r.keepsStore = true) : w'.store = w.store := by
  cases r with
  | isFrozen | getRevision | getActiveBinding | firstActiveBinding | getAdmission | getCommitDecision
  | getCommitReceipt | lastSequence | randomUUID => rw [h.2]
  | now | validateSealedAdmissionPrepare => rw [show w' = w from h]
  | prepareEpochTransition | commitEpochTransition | recoverEpochTransition =>
      obtain ⟨runtime, -, rfl⟩ := h
      rfl
  | updateBinding | enqueue =>
      cases h
      rfl
  | _ => cases hkeeps

/-! ## Calls -/

def WritesOnly (parts : List StorePart) (r : ControlPlaneRequest) : Prop := r.writes ⊆ parts

attribute [local simp] WritesOnly ControlPlaneRequest.writes

namespace ControlPlaneProgram

variable {P : ControlPlaneRequest → Prop} {α : Type}

theorem asks_ask {r : ControlPlaneRequest} (h : P r) : (ask r).Asks P := Program.asks_request h

theorem asks_checked {x : Except ControlPlaneViolation α} : (checked x).Asks P := by
  cases x <;> trivial

theorem asks_orThrow {x : Except String α} : (orThrow x).Asks P := by
  cases x <;> trivial

theorem asks_orRefuse {x : Option α} {violation : ControlPlaneViolation} : (orRefuse x violation).Asks P := by
  cases x <;> trivial

theorem asks_ensureNotFrozen {phase : ControlPlanePhase} (h : P .isFrozen) : (ensureNotFrozen phase).Asks P :=
  .bind (asks_ask h) fun _ => asks_checked

theorem asks_timestamp {host : ControlPlaneHost} (h : P .now) : (timestamp host).Asks P :=
  .bind (asks_ask h) fun _ => trivial

theorem asks_logEvent {kind : ControlPlaneEventKind} {actor : String} {payload : ControlPlaneEventPayload}
    {key : Option IdempotencyKey} (hnext : P (.nextEvent kind actor payload key))
    (happend : ∀ envelope, P (.appendEvent envelope)) : (logEvent kind actor payload key).Asks P :=
  .bind (asks_ask hnext) fun envelope => .bind (asks_ask (happend envelope)) fun _ => .bind asks_orThrow fun _ => trivial

end ControlPlaneProgram

open ControlPlaneProgram

theorem registerSchemaRevision_writes {command : RegisterSchemaRevisionCommand} :
    (registerSchemaRevision host command).Asks (WritesOnly [.revisions, .events]) := by
  unfold registerSchemaRevision
  refine .bind (asks_ensureNotFrozen (by simp)) fun _ => .bind (asks_ask (by simp)) fun _ => ?_
  refine .bind asks_orThrow fun _ => .bind asks_checked fun _ => .bind (asks_ask (by simp)) fun _ => ?_
  exact .bind asks_orThrow fun _ => .bind (asks_logEvent (by simp) (by simp)) fun _ => trivial

theorem validateSubmission_writes {command : SubmitSchemaAdmissionCommand} :
    (validateSubmission command).Asks (WritesOnly []) := by
  unfold validateSubmission
  refine .bind (asks_ensureNotFrozen (by simp)) fun _ => .bind (asks_ask (by simp)) fun _ => ?_
  refine .bind asks_checked fun _ => .bind (asks_ask (by simp)) fun _ => .bind asks_orThrow fun _ => ?_
  refine .bind asks_orRefuse fun _ => .bind (asks_ask (by simp)) fun _ => .bind asks_orThrow fun _ => ?_
  exact .bind asks_orRefuse fun _ => .bind asks_checked fun _ => trivial

theorem claimOrReplayAdmission_writes {record : SchemaAdmissionRecord} :
    (claimOrReplayAdmission record).Asks (WritesOnly [.idempotency]) := by
  unfold claimOrReplayAdmission
  refine .bind (asks_ask (by simp)) fun claim => ?_
  cases claim with
  | claimed => trivial
  | replay => exact asks_ask (by simp)
  | conflict => trivial

theorem admitSubmission_writes {command : SubmitSchemaAdmissionCommand} {active : SchemaEpochBinding}
    {candidate : SchemaRevision} {plan : SchemaExtensionPlan} :
    (admitSubmission host command active candidate plan).Asks
      (WritesOnly [.admissions, .idempotency, .events]) := by
  unfold admitSubmission storeSubmission
  refine .bind (.handle ?_ fun _ => .bind (asks_ask (by simp)) fun _ => trivial) fun _ => ?_
  · exact .bind asks_checked fun _ => .bind (asks_timestamp (by simp)) fun _ => trivial
  refine .bind (claimOrReplayAdmission_writes.mono fun _ h => List.Subset.trans h (by simp)) fun existing => ?_
  cases existing with
  | some existing => trivial
  | none =>
      refine .bind (asks_ask (by simp)) fun _ => .bind (asks_logEvent (by simp) (by simp)) fun _ => ?_
      exact .bind (asks_logEvent (by simp) (by simp)) fun _ => trivial

theorem submitSchemaAdmission_writes {command : SubmitSchemaAdmissionCommand} :
    (submitSchemaAdmission host command).Asks (WritesOnly [.admissions, .idempotency, .events]) := by
  unfold submitSchemaAdmission
  exact .bind (validateSubmission_writes.mono fun _ h => List.Subset.trans h (by simp)) fun _ => admitSubmission_writes

theorem approveSchemaAdmission_writes {command : ApproveSchemaAdmissionCommand} :
    (approveSchemaAdmission host command).Asks (WritesOnly [.admissions, .events]) := by
  unfold approveSchemaAdmission
  refine .bind (asks_ensureNotFrozen (by simp)) fun _ => .bind (asks_ask (by simp)) fun _ => ?_
  refine .bind asks_orRefuse fun _ => .bind asks_checked fun _ => .bind (asks_ask (by simp)) fun _ => ?_
  refine .bind asks_orRefuse fun _ => .bind asks_orRefuse fun _ => .bind asks_orRefuse fun _ => .bind ?_ fun _ => ?_
  · refine .bind asks_checked fun _ => .bind asks_checked fun _ => .bind asks_checked fun _ => ?_
    exact .bind (asks_ask (by simp)) fun _ => trivial
  refine .bind (asks_timestamp (by simp)) fun _ => .bind (asks_ask (by simp)) fun _ => ?_
  exact .bind (asks_logEvent (by simp) (by simp)) fun _ => trivial

theorem prepareSchemaAdmission_writes {command : PrepareSchemaAdmissionCommand} :
    (prepareSchemaAdmission host command).Asks (WritesOnly [.admissions, .preparedAdmissions, .events]) := by
  unfold prepareSchemaAdmission
  refine .bind (asks_ensureNotFrozen (by simp)) fun _ => .bind (asks_ask (by simp)) fun _ => ?_
  refine .bind asks_orRefuse fun _ => .bind (asks_ask (by simp)) fun _ => .bind asks_orRefuse fun _ => ?_
  refine .bind asks_orRefuse fun _ => .bind asks_orRefuse fun _ => .bind asks_orRefuse fun _ => ?_
  refine .bind asks_orRefuse fun _ => .bind asks_orRefuse fun _ => .bind (asks_ask (by simp)) fun _ => ?_
  refine .bind asks_checked fun _ => .bind (asks_ask (by simp)) fun _ => .bind asks_orThrow fun _ => ?_
  refine .bind asks_orRefuse fun _ => .bind asks_checked fun _ => .bind asks_orRefuse fun _ => ?_
  refine .bind (asks_ask (by simp)) fun _ => .bind asks_checked fun _ => .bind (asks_ask (by simp)) fun _ => ?_
  refine .bind (asks_ask (by simp)) fun _ => .bind (asks_timestamp (by simp)) fun _ => ?_
  exact .bind (asks_ask (by simp)) fun _ => .bind (asks_logEvent (by simp) (by simp)) fun _ => trivial

def commitParts : List StorePart :=
  [.activeBindings, .admissions, .preparedAdmissions, .commitDecisions, .commitReceipts, .events]

attribute [local simp] commitParts

theorem buildReceipt_writes {record : SchemaAdmissionRecord} {active toBinding : SchemaEpochBinding}
    {runtimeReceipt : RuntimeEpochReceipt} {planDigest : PlanDigest} {operator : String} :
    (buildReceipt host record active toBinding runtimeReceipt planDigest operator).Asks (WritesOnly commitParts) :=
  .bind (asks_timestamp (by simp)) fun _ => .bind (asks_ask (by simp)) fun _ => trivial

theorem resolveRuntimeReceipt_writes {input : CommitAdmissionTransactionInput} {decision : CommitDecisionRecord}
    {toBinding : SchemaEpochBinding} :
    (resolveRuntimeReceipt host input decision toBinding).Asks (WritesOnly commitParts) := by
  unfold resolveRuntimeReceipt
  split
  · exact .bind (asks_ask (by simp)) fun _ => .bind asks_checked fun _ => trivial
  split
  · refine .bind ?_ fun applied => ?_
    · refine .bind (asks_ask (by simp)) fun result => ?_
      cases result with
      | ok receipt => trivial
      | error e =>
          refine .bind (asks_ask (by simp)) fun recovered => ?_
          cases recovered <;> trivial
    · cases applied with
      | error violation => exact .bind (asks_timestamp (by simp)) fun _ => .bind (asks_ask (by simp)) fun _ => trivial
      | ok receipt =>
          refine .bind asks_checked fun _ => .bind asks_checked fun _ => .bind (asks_timestamp (by simp)) fun _ => ?_
          exact .bind (asks_ask (by simp)) fun _ => trivial
  · trivial

theorem finalizeTransaction_writes {input : CommitAdmissionTransactionInput} {decision : CommitDecisionRecord}
    {toBinding : SchemaEpochBinding} {runtimeReceipt : RuntimeEpochReceipt} :
    (finalizeTransaction host input decision toBinding runtimeReceipt).Asks (WritesOnly commitParts) := by
  unfold finalizeTransaction
  refine .bind buildReceipt_writes fun _ => .bind (asks_ask (by simp)) fun _ => .bind (asks_ask (by simp)) fun _ => ?_
  refine .bind asks_orThrow fun result => ?_
  cases result with
  | finalized => exact .bind (asks_ask (by simp)) fun _ => .bind (asks_ask (by simp)) fun _ => trivial
  | casConflict =>
      unfold handleFinalizeCasConflict
      refine .bind (asks_ask (by simp)) fun _ => ?_
      split
      · refine .bind (asks_ask (by simp)) fun _ => .bind (asks_ask (by simp)) fun _ => ?_
        exact .bind (asks_ask (by simp)) fun _ => trivial
      · exact .bind (asks_timestamp (by simp)) fun _ => .bind (asks_ask (by simp)) fun _ => trivial

theorem executeCommitAdmissionTransaction_writes {input : CommitAdmissionTransactionInput} :
    (executeCommitAdmissionTransaction host input).Asks (WritesOnly commitParts) := by
  unfold executeCommitAdmissionTransaction
  refine .bind (asks_ask (by simp)) fun _ => .bind (asks_ask (by simp)) fun _ => ?_
  split
  · trivial
  refine .bind (asks_timestamp (by simp)) fun _ => .bind asks_orThrow fun _ => .bind (asks_timestamp (by simp)) fun _ => ?_
  have hrest : ∀ toBinding decision, ((do
      let resolved ← resolveRuntimeReceipt host input decision toBinding
      finalizeTransaction host input resolved.2 toBinding resolved.1) :
        ControlPlaneProgram SchemaAdmissionReceipt).Asks (WritesOnly commitParts) :=
    fun _ _ => .bind resolveRuntimeReceipt_writes fun _ => finalizeTransaction_writes
  dsimp only
  split
  · exact .bind (asks_ask (by simp)) fun _ => hrest _ _
  · exact hrest _ _

theorem recoverForwardCommit_writes {admissionId : SchemaAdmissionId} :
    (recoverForwardCommit host admissionId).Asks (WritesOnly commitParts) := by
  unfold recoverForwardCommit
  refine .bind (asks_ask (by simp)) fun _ => .bind asks_orRefuse fun _ => .bind asks_orRefuse fun _ => .bind ?_ fun _ => ?_
  · unfold finishedReceipt
    split
    · exact asks_ask (by simp)
    · trivial
  split
  · trivial
  refine .bind asks_checked fun _ => .bind (asks_ask (by simp)) fun _ => .bind asks_orRefuse fun _ => ?_
  refine .bind (asks_ask (by simp)) fun _ => .bind asks_orRefuse fun _ => .bind (asks_ask (by simp)) fun _ => ?_
  refine .bind asks_checked fun _ => .bind (asks_ask (by simp)) fun _ => ?_
  split
  · trivial
  refine .bind asks_orRefuse fun _ => .bind asks_orRefuse fun _ => .bind asks_orRefuse fun _ => ?_
  unfold finalizeRecovery
  refine .bind (asks_timestamp (by simp)) fun _ => .bind (asks_timestamp (by simp)) fun _ => ?_
  refine .bind (asks_ask (by simp)) fun _ => .bind buildReceipt_writes fun _ => .bind (asks_ask (by simp)) fun _ => ?_
  refine .bind asks_orThrow fun result => ?_
  cases result with
  | finalized => exact .bind (asks_ask (by simp)) fun _ => .bind (asks_ask (by simp)) fun _ => trivial
  | casConflict => trivial

theorem commitSchemaAdmission_writes {command : CommitSchemaAdmissionCommand} :
    (commitSchemaAdmission host command).Asks (WritesOnly commitParts) := by
  unfold commitSchemaAdmission
  refine .bind (asks_ensureNotFrozen (by simp)) fun _ => .bind (asks_ask (by simp)) fun _ => ?_
  split
  · unfold commitPrepared
    refine .bind asks_orRefuse fun _ => .bind asks_orRefuse fun _ => .bind (asks_ask (by simp)) fun _ => ?_
    refine .bind asks_orRefuse fun _ => .bind asks_orRefuse fun _ => .bind (asks_ask (by simp)) fun _ => ?_
    refine .bind asks_checked fun _ => .bind (asks_ask (by simp)) fun _ => ?_
    split
    · refine .bind (asks_ask (by simp)) fun _ => ?_
      split
      · exact recoverForwardCommit_writes
      · trivial
    · refine .bind asks_checked fun _ => .bind (asks_ask (by simp)) fun _ => .bind asks_checked fun _ => ?_
      exact .bind asks_checked fun _ => executeCommitAdmissionTransaction_writes
  · refine .handle recoverForwardCommit_writes fun e => ?_
    cases e <;> trivial

theorem activatePolicyRevision_writes {command : ActivatePolicyRevisionCommand} :
    (activatePolicyRevision host command).Asks (WritesOnly [.policies, .activeBindings, .events]) := by
  unfold activatePolicyRevision
  refine .bind (asks_ensureNotFrozen (by simp)) fun _ => .bind asks_checked fun _ => .bind asks_orRefuse fun _ => ?_
  refine .bind asks_checked fun _ => .bind (asks_ask (by simp)) fun _ => .bind asks_orRefuse fun _ => ?_
  refine .bind asks_checked fun _ => .bind asks_checked fun _ => .bind (asks_ask (by simp)) fun _ => ?_
  refine .bind asks_orThrow fun _ => .bind (asks_ask (by simp)) fun _ => .bind asks_checked fun _ => ?_
  refine .bind (asks_ask (by simp)) fun _ => .bind (asks_ask (by simp)) fun _ => ?_
  exact .bind (asks_logEvent (by simp) (by simp)) fun _ => .bind (asks_ask (by simp)) fun _ => trivial

theorem commitToolSurfaceEpoch_writes {operator : String} {currentEpoch : Option String} :
    (commitToolSurfaceEpoch host operator currentEpoch).Asks
      (WritesOnly [.activeBindings, .commitReceipts, .events]) := by
  unfold commitToolSurfaceEpoch
  refine .bind (asks_ensureNotFrozen (by simp)) fun _ => .bind (asks_ask (by simp)) fun _ => ?_
  refine .bind asks_orRefuse fun _ => .bind (asks_ask (by simp)) fun _ => .bind (asks_timestamp (by simp)) fun _ => ?_
  refine .bind asks_orThrow fun _ => .bind (asks_ask (by simp)) fun _ => .bind asks_checked fun _ => ?_
  refine .bind (asks_ask (by simp)) fun _ => .bind (asks_ask (by simp)) fun _ => ?_
  exact .bind (asks_logEvent (by simp) (by simp)) fun _ => trivial

def ControlPlaneCall.parts : ControlPlaneCall → List StorePart
  | .registerSchemaRevision _ => [.revisions, .events]
  | .submitSchemaAdmission _ => [.admissions, .idempotency, .events]
  | .approveSchemaAdmission _ => [.admissions, .events]
  | .prepareSchemaAdmission _ => [.admissions, .preparedAdmissions, .events]
  | .commitSchemaAdmission _ => commitParts
  | .recoverSchemaAdmissionCommit _ => commitParts
  | .activatePolicyRevision _ => [.policies, .activeBindings, .events]
  | .commitToolSurfaceEpoch _ _ => [.activeBindings, .commitReceipts, .events]
  | .setFleetRollout _ _ _ _ => [.events]
  | .acknowledgeRuntimeInstance _ _ _ => [.events]
  | .setFrozen _ => []

theorem ControlPlaneCall.program_writes (call : ControlPlaneCall) :
    (call.program host).Asks (WritesOnly call.parts) := by
  cases call with
  | registerSchemaRevision command => exact .bind registerSchemaRevision_writes fun _ => trivial
  | submitSchemaAdmission command => exact .bind submitSchemaAdmission_writes fun _ => trivial
  | approveSchemaAdmission command => exact .bind approveSchemaAdmission_writes fun _ => trivial
  | prepareSchemaAdmission command => exact .bind prepareSchemaAdmission_writes fun _ => trivial
  | commitSchemaAdmission command => exact .bind commitSchemaAdmission_writes fun _ => trivial
  | recoverSchemaAdmissionCommit admissionId => exact .bind recoverForwardCommit_writes fun _ => trivial
  | activatePolicyRevision command => exact .bind activatePolicyRevision_writes fun _ => trivial
  | commitToolSurfaceEpoch operator currentEpoch => exact .bind commitToolSurfaceEpoch_writes fun _ => trivial
  | setFleetRollout context domainId targetBinding runtimeInstanceIds =>
      refine .bind (asks_ensureNotFrozen (by simp)) fun _ => ?_
      exact .bind (asks_logEvent (by simp [parts]) (by simp [parts])) fun _ => trivial
  | acknowledgeRuntimeInstance context runtimeInstanceId observedBinding =>
      refine .bind (asks_ensureNotFrozen (by simp)) fun _ => ?_
      exact .bind (asks_logEvent (by simp [parts]) (by simp [parts])) fun _ => trivial
  | setFrozen frozen => exact asks_ask (by simp)

/-! ## The parts of a call -/

namespace ControlPlaneProgram

variable {S α β : Type} {act : S → (r : ControlPlaneRequest) → r.Response → S → Prop} {s t : S}
  {out : Except ControlPlaneError β}

theorem exec_bind_ask {r : ControlPlaneRequest} {f : r.Response → ControlPlaneProgram β} :
    Program.Exec act (ask r >>= f) s out t ↔ ∃ resp m, act s r resp m ∧ Program.Exec act (f resp) m out t :=
  Program.exec_ask

theorem exec_bind_checked {x : Except ControlPlaneViolation α} {f : α → ControlPlaneProgram β} :
    Program.Exec act (checked x >>= f) s out t ↔
      (∃ a, x = .ok a ∧ Program.Exec act (f a) s out t) ∨
        ∃ violation, x = .error violation ∧ out = .error (.violation violation) ∧ t = s := by
  cases x with
  | ok a => simp [checked, Program.bind_eq, Program.bind]
  | error violation => simp [checked, refuse, Program.bind_eq, Program.bind, Program.exec_fail]

theorem exec_bind_orThrow {x : Except String α} {f : α → ControlPlaneProgram β} :
    Program.Exec act (orThrow x >>= f) s out t ↔
      (∃ a, x = .ok a ∧ Program.Exec act (f a) s out t) ∨
        ∃ message, x = .error message ∧ out = .error (.thrown message) ∧ t = s := by
  cases x with
  | ok a => simp [orThrow, Program.bind_eq, Program.bind]
  | error message => simp [orThrow, Program.bind_eq, Program.bind, Program.exec_fail]

theorem exec_bind_orRefuse {x : Option α} {violation : ControlPlaneViolation} {f : α → ControlPlaneProgram β} :
    Program.Exec act (orRefuse x violation >>= f) s out t ↔
      (∃ a, x = some a ∧ Program.Exec act (f a) s out t) ∨
        x = none ∧ out = .error (.violation violation) ∧ t = s := by
  cases x with
  | some a => simp [orRefuse, Program.bind_eq, Program.bind]
  | none => simp [orRefuse, refuse, Program.bind_eq, Program.bind, Program.exec_fail]

theorem exec_bind_deny {refused : Prop} [Decidable refused] {violation : ControlPlaneViolation}
    {f : Unit → ControlPlaneProgram β} :
    Program.Exec act (checked (denyIf refused violation) >>= f) s out t ↔
      (¬ refused ∧ Program.Exec act (f ()) s out t) ∨ refused ∧ out = .error (.violation violation) ∧ t = s := by
  rw [exec_bind_checked]
  by_cases hrefused : refused
  · simp [denyIf, hrefused]
  · simp only [denyIf, hrefused, if_false, reduceCtorEq, false_and, exists_false, or_false, true_and, not_false_eq_true]
    exact ⟨fun ⟨_, h⟩ => h, fun h => ⟨(), h⟩⟩

theorem stops_bind_ask {r : ControlPlaneRequest} {f : r.Response → ControlPlaneProgram β}
    (h : Program.Stops act (ask r >>= f) s t) :
    t = s ∨ ∃ resp m, act s r resp m ∧ Program.Stops act (f resp) m t :=
  Program.stops_bind_request h

theorem stops_bind_orThrow {x : Except String α} {f : α → ControlPlaneProgram β}
    (h : Program.Stops act (orThrow x >>= f) s t) : t = s ∨ ∃ a, x = .ok a ∧ Program.Stops act (f a) s t := by
  cases x with
  | ok a => exact .inr ⟨a, rfl, h⟩
  | error message =>
      cases h with
      | here => exact .inl rfl

theorem exec_of_dropped {p : ControlPlaneProgram α} {out : Except ControlPlaneError Unit}
    (h : Program.Exec act (p >>= fun _ => .done ()) s out t) : ∃ out, Program.Exec act p s out t := by
  rcases Program.exec_bind.1 h with ⟨a, m, hhead, htail⟩ | ⟨e, hhead, -⟩
  · obtain ⟨-, rfl⟩ := Program.exec_done.1 htail
    exact ⟨_, hhead⟩
  · exact ⟨_, hhead⟩

end ControlPlaneProgram

theorem exec_bind_ensureNotFrozen {β : Type} {phase : ControlPlanePhase} {f : Unit → ControlPlaneProgram β}
    {out : Except ControlPlaneError β} :
    Program.Exec (ControlPlaneRequest.Answers host port) (ensureNotFrozen phase >>= f) w
        out w' ↔
      (w.store.frozen = false ∧
        Program.Exec (ControlPlaneRequest.Answers host port) (f ()) w out w') ∨
      (w.store.frozen = true ∧ out = .error (.violation (controlPlaneViolation .controlPlaneFrozen phase
        "control plane is frozen")) ∧ w' = w) := by
  show Program.Exec _ (ask .isFrozen >>= fun frozen => checked (denyIf frozen _) >>= f) w out w' ↔ _
  rw [exec_bind_ask]
  constructor
  · rintro ⟨frozen, m, ⟨rfl, rfl⟩, h⟩
    rcases exec_bind_deny.1 h with ⟨hfrozen, h⟩ | ⟨hfrozen, rfl, rfl⟩
    · exact .inl ⟨Bool.eq_false_iff.2 hfrozen, h⟩
    · exact .inr ⟨hfrozen, rfl, rfl⟩
  · rintro (⟨hfrozen, h⟩ | ⟨hfrozen, rfl, rfl⟩)
    · exact ⟨_, w, ⟨rfl, rfl⟩, exec_bind_deny.2 (.inl ⟨Bool.eq_false_iff.1 hfrozen, h⟩)⟩
    · exact ⟨_, w', ⟨rfl, rfl⟩, exec_bind_deny.2 (.inr ⟨hfrozen, rfl, rfl⟩)⟩

def ControlPlaneCall.Step (host : ControlPlaneHost) (port : RuntimePort R) (w : ControlPlaneWorld R)
    (call : ControlPlaneCall) (w' : ControlPlaneWorld R) : Prop :=
  ∃ out, Program.Exec (fun w r resp w' => r.Answers host port w resp w') (call.program host) w out w'

theorem ControlPlaneCall.step_frame {call : ControlPlaneCall} (h : call.Step host port w w') {part : StorePart}
    (hpart : part ∉ call.parts) : part.Same w.store w'.store := by
  obtain ⟨out, hexec⟩ := h
  refine hexec.invariant (I := fun m => part.Same w.store m.store) call.program_writes ?_ (.refl _ _)
  intro s r resp t hwrites hanswer hs
  exact hs.trans (r.answers_frame hanswer fun hmem => hpart (hwrites hmem))

/-! ## Runs that can be computed -/

/-- A runtime that answers by functions, under a clock that stands still. -/
structure ScriptedRuntime (R : Type) where
  now : Nat
  fourView : VerifiedFourViewEvidence
  prepareEpochTransition : R → EpochTransitionRequest → Except RuntimeViolation PreparedEpochTransition × R
  commitEpochTransition : R → PreparedEpochTransition → Except RuntimeViolation RuntimeEpochReceipt × R
  recoverEpochTransition : R → SchemaAdmissionId → Except RuntimeViolation RuntimeEpochReceipt × R

namespace ScriptedRuntime

variable (script : ScriptedRuntime R)

def toPort : RuntimePort R where
  prepareEpochTransition r request answer r' := (answer, r') = script.prepareEpochTransition r request
  commitEpochTransition r token answer r' := (answer, r') = script.commitEpochTransition r token
  recoverEpochTransition r id answer r' := (answer, r') = script.recoverEpochTransition r id

def answer? (host : ControlPlaneHost) (w : ControlPlaneWorld R) :
    (r : ControlPlaneRequest) → Option (r.Response × ControlPlaneWorld R)
  | .isFrozen => some (w.store.frozen, w)
  | .setFrozen frozen => some ((), { w with store := { w.store with frozen } })
  | .getRevision ref => some (w.store.getRevision host.toContentHashes ref, w)
  | .registerRevision revision =>
      some (w.answered (written w.store (w.store.registerRevision host.toContentHashes revision)))
  | .registerPolicy revision =>
      some (w.answered (written w.store (w.store.registerPolicy host.toContentHashes revision)))
  | .getActiveBinding domainId => some (w.store.activeBindings.get? domainId, w)
  | .firstActiveBinding => some (w.store.firstActiveBinding, w)
  | .casActiveBinding domainId generation next => some (w.answered (w.store.casActiveBinding domainId generation next))
  | .getAdmission id => some (w.store.admissions.get? id, w)
  | .putAdmission record => some ((), { w with store := w.store.putAdmission record })
  | .putPrepared record => some ((), { w with store := w.store.putPrepared record })
  | .consumePrepared id => some (w.answered (w.store.consumePrepared id))
  | .getCommitDecision id => some (w.store.commitDecisions.get? id, w)
  | .putCommitDecision record => some ((), { w with store := w.store.putCommitDecision record })
  | .getCommitReceipt id => some (w.store.commitReceipts.get? id, w)
  | .putCommitReceipt receipt => some ((), { w with store := w.store.putCommitReceipt receipt })
  | .finalizeAdmissionCommit input => some (w.answered (w.store.finalizeAdmissionCommit input))
  | .nextEvent kind actor payload key =>
      let eventId := s!"evt-{w.store.sequence + 1}"
      if w.store.events.all fun event => event.eventId ≠ eventId then
        some (w.answered (w.store.nextEvent kind actor payload key eventId (host.toISOString script.now)))
      else none
  | .appendEvent envelope => some (w.answered (written w.store (w.store.appendEvent envelope)))
  | .lastSequence => some (w.store.sequence, w)
  | .claimIdempotency key digest => some (w.answered (w.store.claimIdempotency key digest))
  | .releaseIdempotency key => some ((), { w with store := w.store.releaseIdempotency key })
  | .now => some (script.now, w)
  | .randomUUID =>
      let uuid := toString w.store.sequence
      if w.store.preparedAdmissions.has s!"prep-{uuid}" then none else some (uuid, w)
  | .validateSealedAdmissionPrepare _ => some (.ok script.fourView, w)
  | .prepareEpochTransition request =>
      let answer := script.prepareEpochTransition w.runtime request
      some (answer.1, { w with runtime := answer.2 })
  | .commitEpochTransition token =>
      let answer := script.commitEpochTransition w.runtime token
      some (answer.1, { w with runtime := answer.2 })
  | .recoverEpochTransition id =>
      let answer := script.recoverEpochTransition w.runtime id
      some (answer.1, { w with runtime := answer.2 })
  | .updateBinding binding => some ((), { w with activated := w.activated ++ [binding] })
  | .enqueue event => some ((), { w with outbox := w.outbox ++ [event] })

theorem answers_of_answer? {r : ControlPlaneRequest} {answered : r.Response × ControlPlaneWorld R}
    (h : script.answer? host w r = some answered) : r.Answers host script.toPort w answered.1 answered.2 := by
  cases r with
  | nextEvent kind actor payload key =>
      simp only [answer?, Option.ite_none_right_eq_some, List.all_eq_true, decide_eq_true_eq] at h
      obtain ⟨hnew, h⟩ := h
      cases h
      exact ⟨_, script.now, hnew, rfl⟩
  | randomUUID =>
      simp only [answer?, Option.ite_none_left_eq_some] at h
      obtain ⟨hnew, h⟩ := h
      cases h
      exact ⟨Bool.eq_false_iff.2 hnew, rfl⟩
  | prepareEpochTransition request =>
      cases h
      exact ⟨_, rfl, rfl⟩
  | commitEpochTransition token =>
      cases h
      exact ⟨_, rfl, rfl⟩
  | recoverEpochTransition id =>
      cases h
      exact ⟨_, rfl, rfl⟩
  | now =>
      cases h
      rfl
  | validateSealedAdmissionPrepare subject =>
      cases h
      rfl
  | _ =>
      cases h
      first | rfl | exact ⟨rfl, rfl⟩

theorem exec_of_eval? {α : Type} {p : ControlPlaneProgram α} {out : Except ControlPlaneError α}
    (h : p.eval? (script.answer? host) w = some (out, w')) :
    Program.Exec (fun w r resp w' => ControlPlaneRequest.Answers host script.toPort w r resp w') p w out w' :=
  Program.exec_of_eval? (fun _ _ _ => script.answers_of_answer?) h

def call? (host : ControlPlaneHost) (w : ControlPlaneWorld R) (call : ControlPlaneCall) :
    Option (ControlPlaneWorld R) :=
  ((call.program host).eval? (script.answer? host) w).map Prod.snd

theorem step_of_call? {call : ControlPlaneCall} (h : script.call? host w call = some w') :
    call.Step host script.toPort w w' := by
  obtain ⟨⟨out, w'⟩, heval, rfl⟩ := Option.map_eq_some_iff.1 h
  exact ⟨out, script.exec_of_eval? heval⟩

def calls? (host : ControlPlaneHost) (w : ControlPlaneWorld R) (calls : List ControlPlaneCall) :
    Option (ControlPlaneWorld R) :=
  calls.foldlM (script.call? host) w

theorem run_of_calls? {calls : List ControlPlaneCall} (h : script.calls? host w calls = some w') :
    Run (fun w call w' => ControlPlaneCall.Step host script.toPort w call w') w calls w' :=
  (Run.of_foldlM h).mono fun _ _ _ => script.step_of_call?

end ScriptedRuntime

def sampleHost : ControlPlaneHost where
  schemaContentDigest schema := schema.schemaId
  digestOfCanonical json :=
    match json with
    | .obj members => match members.lookup "rules" with
      | some (.arr rules) => toString rules.length
      | _ => ""
    | _ => ""
  toISOString time := toString time
  dateParse text := text.toNat?

def idleRuntime : ScriptedRuntime Unit where
  now := 0
  fourView := { evidenceDigest := "" }
  prepareEpochTransition _ _ := (.error { code := .admissionRejected, message := "idle" }, ())
  commitEpochTransition _ _ := (.error { code := .admissionRejected, message := "idle" }, ())
  recoverEpochTransition _ _ := (.error { code := .admissionRejected, message := "idle" }, ())

def sampleAdministrator (actorId : String) : AdministrationContext :=
  { principal :=
      { actorRef := { actorId, kind := .human }
        roles := ["policy-admin", "schema-qualifier", "schema-authorizer"] }
    issuedAt := "0"
    sessionId := "session" }

def sampleBinding : SchemaEpochBinding :=
  { activationDomainId := "domain"
    bindingGeneration := 0
    epochId := "epoch"
    epochOrdinal := 0
    schemaRef := { schemaId := "schema", revisionId := "1", digest := "schema" }
    policyRef := { policyId := "genesis", revisionId := "1", digest := "0" }
    handlerManifestRef := { manifestId := "manifest", digest := "manifest" }
    runtimeHead := "head"
    admissionId := "genesis"
    previousBindingGeneration := none
    activatedBy := "ada"
    activatedAt := "0" }

def sampleWorld {R : Type} (runtime : R) : ControlPlaneWorld R :=
  { store := { ControlPlaneStore.empty with activeBindings := .ofList [("domain", sampleBinding)] }
    outbox := []
    activated := []
    runtime }

end Cantilune
