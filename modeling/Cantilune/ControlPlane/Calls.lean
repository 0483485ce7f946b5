import Cantilune.Base.Program
import Cantilune.ControlPlane.Store
import Cantilune.Runtime.Recipe

/-!
# What a control-plane operation asks for

An operation is a program that asks its store, the clock, the evidence gate and the runtime it administers.
The store answers as it is; clock and gate may answer anything; the runtime is a port, whose own state the
world carries along.
-/

namespace Cantilune

structure EpochTransitionRequest where
  admissionId : SchemaAdmissionId
  domainId : ActivationDomainId
  expectedBindingGeneration : Nat
  expectedHead : SnapshotRef
  expectedEpochId : EpochId
  expectedEpochOrdinal : Nat
  targetSchemaRef : SchemaRef
  targetEpochId : EpochId
  targetEpochOrdinal : Nat
  planDigest : PlanDigest
  deriving DecidableEq

structure PreparedEpochTransition where
  preparedId : String
  planDigest : PlanDigest
  issuedAt : Timestamp
  expiresAt : Timestamp
  deriving DecidableEq

structure RuntimeEpochReceipt where
  admissionId : SchemaAdmissionId
  beforeSnapshotRef : SnapshotRef
  afterSnapshotRef : SnapshotRef
  fromBinding : SchemaEpochBinding
  toBinding : SchemaEpochBinding
  deriving DecidableEq

/-- A runtime with states `R`: how it may answer, and what becomes of it. -/
structure RuntimePort (R : Type) where
  prepareEpochTransition : R → EpochTransitionRequest → Except RuntimeViolation PreparedEpochTransition → R → Prop
  commitEpochTransition : R → PreparedEpochTransition → Except RuntimeViolation RuntimeEpochReceipt → R → Prop
  recoverEpochTransition : R → SchemaAdmissionId → Except RuntimeViolation RuntimeEpochReceipt → R → Prop

/-! ## Requests -/

inductive ControlPlaneRequest where
  | isFrozen
  | setFrozen (frozen : Bool)
  | getRevision (ref : SchemaRef)
  | registerRevision (revision : SchemaRevision)
  | registerPolicy (revision : PolicyRevision)
  | getActiveBinding (domainId : ActivationDomainId)
  | firstActiveBinding
  | casActiveBinding (domainId : ActivationDomainId) (expectedGeneration : Nat) (nextBinding : SchemaEpochBinding)
  | getAdmission (admissionId : SchemaAdmissionId)
  | putAdmission (record : SchemaAdmissionRecord)
  | putPrepared (record : PreparedAdmissionRecord)
  | consumePrepared (preparedId : PreparedAdmissionId)
  | getCommitDecision (admissionId : SchemaAdmissionId)
  | putCommitDecision (record : CommitDecisionRecord)
  | getCommitReceipt (admissionId : SchemaAdmissionId)
  | putCommitReceipt (receipt : SchemaAdmissionReceipt)
  | finalizeAdmissionCommit (input : FinalizeAdmissionCommitInput)
  | nextEvent (kind : ControlPlaneEventKind) (actor : String) (payload : ControlPlaneEventPayload)
      (idempotencyKey : Option IdempotencyKey)
  | appendEvent (envelope : ControlPlaneEventEnvelope)
  | lastSequence
  | claimIdempotency (key : IdempotencyKey) (digest : AdmissionDigest)
  | releaseIdempotency (key : IdempotencyKey)
  | now
  | randomUUID
  | validateSealedAdmissionPrepare (subject : AdmissionEvidenceSubject)
  | prepareEpochTransition (request : EpochTransitionRequest)
  | commitEpochTransition (token : PreparedEpochTransition)
  | recoverEpochTransition (admissionId : SchemaAdmissionId)
  | updateBinding (binding : SchemaEpochBinding)
  | enqueue (event : ControlPlaneEventEnvelope)

namespace ControlPlaneRequest

abbrev Response : ControlPlaneRequest → Type
  | isFrozen => Bool
  | setFrozen _ => Unit
  | getRevision _ => Except String (Option SchemaRevision)
  | registerRevision _ => Except String Unit
  | registerPolicy _ => Except String Unit
  | getActiveBinding _ => Option SchemaEpochBinding
  | firstActiveBinding => Option SchemaEpochBinding
  | casActiveBinding _ _ _ => Bool
  | getAdmission _ => Option SchemaAdmissionRecord
  | putAdmission _ => Unit
  | putPrepared _ => Unit
  | consumePrepared _ => Option PreparedAdmissionRecord
  | getCommitDecision _ => Option CommitDecisionRecord
  | putCommitDecision _ => Unit
  | getCommitReceipt _ => Option SchemaAdmissionReceipt
  | putCommitReceipt _ => Unit
  | finalizeAdmissionCommit _ => Except String FinalizeAdmissionCommitResult
  | nextEvent _ _ _ _ => ControlPlaneEventEnvelope
  | appendEvent _ => Except String Unit
  | lastSequence => Nat
  | claimIdempotency _ _ => IdempotencyClaim
  | releaseIdempotency _ => Unit
  | now => Nat
  | randomUUID => String
  | validateSealedAdmissionPrepare _ => Except (List String) VerifiedFourViewEvidence
  | prepareEpochTransition _ => Except RuntimeViolation PreparedEpochTransition
  | commitEpochTransition _ => Except RuntimeViolation RuntimeEpochReceipt
  | recoverEpochTransition _ => Except RuntimeViolation RuntimeEpochReceipt
  | updateBinding _ => Unit
  | enqueue _ => Unit

end ControlPlaneRequest

/-! ## Worlds -/

/-- The store, what was handed to the outbox and to the binding callback, and the runtime. -/
structure ControlPlaneWorld (R : Type) where
  store : ControlPlaneStore
  outbox : List ControlPlaneEventEnvelope
  activated : List SchemaEpochBinding
  runtime : R

structure ControlPlaneHost extends ContentHashes where
  toISOString : Nat → Timestamp
  dateParse : Timestamp → Option Nat

/-- What a write that may throw leaves, with its answer. -/
def written {α : Type} (store : ControlPlaneStore) :
    Except α ControlPlaneStore → Except α Unit × ControlPlaneStore
  | .error e => (.error e, store)
  | .ok store => (.ok (), store)

def ControlPlaneWorld.answered {R α : Type} (w : ControlPlaneWorld R) (answer : α × ControlPlaneStore) :
    α × ControlPlaneWorld R :=
  (answer.1, { w with store := answer.2 })

namespace ControlPlaneRequest

variable {R : Type} (host : ControlPlaneHost) (port : RuntimePort R)

/-- How a request may be answered. A UUID is new to the event log and to the prepared admissions. -/
def Answers (w : ControlPlaneWorld R) : (r : ControlPlaneRequest) → r.Response → ControlPlaneWorld R → Prop
  | isFrozen, frozen, w' => frozen = w.store.frozen ∧ w' = w
  | setFrozen frozen, _, w' => w' = { w with store := { w.store with frozen } }
  | getRevision ref, revision, w' => revision = w.store.getRevision host.toContentHashes ref ∧ w' = w
  | registerRevision revision, done, w' =>
      (done, w') = w.answered (written w.store (w.store.registerRevision host.toContentHashes revision))
  | registerPolicy revision, done, w' =>
      (done, w') = w.answered (written w.store (w.store.registerPolicy host.toContentHashes revision))
  | getActiveBinding domainId, binding, w' => binding = w.store.activeBindings.get? domainId ∧ w' = w
  | firstActiveBinding, binding, w' => binding = w.store.firstActiveBinding ∧ w' = w
  | casActiveBinding domainId generation next, swapped, w' =>
      (swapped, w') = w.answered (w.store.casActiveBinding domainId generation next)
  | getAdmission id, record, w' => record = w.store.admissions.get? id ∧ w' = w
  | putAdmission record, _, w' => w' = { w with store := w.store.putAdmission record }
  | putPrepared record, _, w' => w' = { w with store := w.store.putPrepared record }
  | consumePrepared id, record, w' => (record, w') = w.answered (w.store.consumePrepared id)
  | getCommitDecision id, record, w' => record = w.store.commitDecisions.get? id ∧ w' = w
  | putCommitDecision record, _, w' => w' = { w with store := w.store.putCommitDecision record }
  | getCommitReceipt id, receipt, w' => receipt = w.store.commitReceipts.get? id ∧ w' = w
  | putCommitReceipt receipt, _, w' => w' = { w with store := w.store.putCommitReceipt receipt }
  | finalizeAdmissionCommit input, result, w' =>
      (result, w') = w.answered (w.store.finalizeAdmissionCommit input)
  | nextEvent kind actor payload key, envelope, w' => ∃ eventId time,
      (∀ event ∈ w.store.events, event.eventId ≠ eventId) ∧
        (envelope, w') = w.answered
          (w.store.nextEvent kind actor payload key eventId (host.toISOString time))
  | appendEvent envelope, done, w' => (done, w') = w.answered (written w.store (w.store.appendEvent envelope))
  | lastSequence, sequence, w' => sequence = w.store.sequence ∧ w' = w
  | claimIdempotency key digest, claim, w' => (claim, w') = w.answered (w.store.claimIdempotency key digest)
  | releaseIdempotency key, _, w' => w' = { w with store := w.store.releaseIdempotency key }
  | now, _, w' => w' = w
  | randomUUID, uuid, w' => w.store.preparedAdmissions.has s!"prep-{uuid}" = false ∧ w' = w
  | validateSealedAdmissionPrepare _, _, w' => w' = w
  | prepareEpochTransition request, prepared, w' => ∃ runtime,
      port.prepareEpochTransition w.runtime request prepared runtime ∧ w' = { w with runtime }
  | commitEpochTransition token, receipt, w' => ∃ runtime,
      port.commitEpochTransition w.runtime token receipt runtime ∧ w' = { w with runtime }
  | recoverEpochTransition id, receipt, w' => ∃ runtime,
      port.recoverEpochTransition w.runtime id receipt runtime ∧ w' = { w with runtime }
  | updateBinding binding, _, w' => w' = { w with activated := w.activated ++ [binding] }
  | enqueue event, _, w' => w' = { w with outbox := w.outbox ++ [event] }

end ControlPlaneRequest

/-! ## Programs -/

/-- A call ends with a value, with a violation that it returns, or with an error that it throws. -/
inductive ControlPlaneError where
  | violation (violation : ControlPlaneViolation)
  | thrown (message : String)
  deriving DecidableEq

abbrev ControlPlaneProgram (α : Type) : Type :=
  Program ControlPlaneRequest ControlPlaneRequest.Response ControlPlaneError α

namespace ControlPlaneProgram

def ask (r : ControlPlaneRequest) : ControlPlaneProgram r.Response := Program.request r

def refuse {α : Type} (violation : ControlPlaneViolation) : ControlPlaneProgram α := .fail (.violation violation)

def checked {α : Type} : Except ControlPlaneViolation α → ControlPlaneProgram α
  | .ok a => .done a
  | .error violation => refuse violation

def orThrow {α : Type} : Except String α → ControlPlaneProgram α
  | .ok a => .done a
  | .error message => .fail (.thrown message)

def orRefuse {α : Type} (value : Option α) (violation : ControlPlaneViolation) : ControlPlaneProgram α :=
  match value with
  | some a => .done a
  | none => refuse violation

def ensureNotFrozen (phase : ControlPlanePhase) : ControlPlaneProgram Unit := do
  let frozen ← ask .isFrozen
  checked (denyIf frozen (controlPlaneViolation .controlPlaneFrozen phase "control plane is frozen"))

/-- `new Date().toISOString()`. -/
def timestamp (host : ControlPlaneHost) : ControlPlaneProgram Timestamp := do
  let time ← ask .now
  .done (host.toISOString time)

/-- `store.appendEvent(store.nextEvent(…))`. -/
def logEvent (kind : ControlPlaneEventKind) (actor : String) (payload : ControlPlaneEventPayload)
    (idempotencyKey : Option IdempotencyKey := none) : ControlPlaneProgram ControlPlaneEventEnvelope := do
  let envelope ← ask (.nextEvent kind actor payload idempotencyKey)
  let appended ← ask (.appendEvent envelope)
  orThrow appended
  .done envelope

end ControlPlaneProgram

end Cantilune
