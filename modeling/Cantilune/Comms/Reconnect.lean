import Cantilune.Base.Tasks
import Cantilune.Comms.Saga

/-!
# The reconnect coordinator

A plan moves a session to a new endpoint: it is proposed, authorized and accepted by the peer, each time as a record
that the caller hands back, and then committed. The commit switches the binding of the session first and asks the
runtime afterwards; the recovery commits a stored record again.
-/

namespace Cantilune

open CommsM

/-- What the digest of a plan is the text of. -/
structure ReconnectPlanContent where
  admissionId : String
  admissionReceiptDigest : String
  sessionId : SessionId
  operationTemplateRef : OperationTemplateRef
  fromBindingGeneration : Nat
  toBindingGeneration : Nat
  toEpochId : EpochId
  oldEndpointRef : DescriptorRef
  newEndpointRef : DescriptorRef
  expectedChannelGeneration : Nat
  expectedRuntimeHead : SnapshotRef
  authorizationRef : String
  expiresAt : Timestamp
  deriving DecidableEq

def AdmissionReconnectPlan.content (plan : AdmissionReconnectPlan) : ReconnectPlanContent :=
  { admissionId := plan.admissionReceipt.admissionId, admissionReceiptDigest := plan.admissionReceiptDigest
    sessionId := plan.sessionId, operationTemplateRef := plan.operationTemplateRef
    fromBindingGeneration := plan.fromBinding.bindingGeneration
    toBindingGeneration := plan.toBinding.bindingGeneration, toEpochId := plan.toBinding.epochId
    oldEndpointRef := plan.oldEndpointRef, newEndpointRef := plan.newEndpointRef
    expectedChannelGeneration := plan.expectedChannelGeneration, expectedRuntimeHead := plan.expectedRuntimeHead
    authorizationRef := plan.authorizationRef, expiresAt := plan.expiresAt }

/-- The services with the text of a plan's content. -/
structure ReconnectHost extends CommsHost where
  stringify : ReconnectPlanContent → String

def buildAdmissionReconnectPlanDigest (host : ReconnectHost) (plan : AdmissionReconnectPlan) : String :=
  host.stringify plan.content

/-! ## The coordinator -/

abbrev RecordResult := Except CommsViolation ReconnectCoordinatorRecord

abbrev CommitResult := Except CommsViolation AdmissionReconnectReceipt

/-- A commit that waits for the runtime: its record, and the binding that it has switched. -/
structure CommitWait where
  record : ReconnectCoordinatorRecord
  binding : SessionTransportBinding
  deriving DecidableEq

namespace ReconnectCoordinator

variable (host : ReconnectHost)

/-- The time at which something expires has come. -/
def isExpired (host : CommsHost) (now expiresAt : Timestamp) : Bool :=
  match host.dateParse now, host.dateParse expiresAt with
  | some now, some expires => expires ≤ now
  | _, _ => false

def putReconnect (record : ReconnectCoordinatorRecord) : CommsM Unit :=
  onStore fun store => ((), store.putReconnect record)

/-- The checks of a proposal after the emergency stop. `active` is the binding that is active in the domain of the
plan's target. -/
def validatePlan (plan : AdmissionReconnectPlan) (active : Option SchemaEpochBinding) (now : Timestamp) :
    Except CommsViolation Unit :=
  if isExpired host.toCommsHost now plan.expiresAt then
    .error (commsViolation .wireExpired .reconnect "reconnect plan expired")
  else if plan.planDigest ≠ buildAdmissionReconnectPlanDigest host plan then
    .error (commsViolation .admissionReceiptInvalid .reconnect "plan digest mismatch")
  else
    match active with
    | none => .error (commsViolation .staleBinding .reconnect "target binding no longer active")
    | some active =>
        if active.bindingGeneration ≠ plan.toBinding.bindingGeneration then
          .error (commsViolation .staleBinding .reconnect "target binding no longer active")
        else if active.epochId ≠ plan.toBinding.epochId then
          .error (commsViolation .admissionReceiptInvalid .reconnect "epoch mismatch")
        else .ok ()

def proposed (plan : AdmissionReconnectPlan) : Except CommsViolation Unit → CommsM RecordResult
  | .error violation => return .error violation
  | .ok () => do
      let record : ReconnectCoordinatorRecord :=
        { plan, state := .proposed, peerAckDigest := none, runtimeReceiptRef := none
          updatedAt := ← now host.toCommsHost }
      putReconnect record
      return .ok record

def propose (plan : AdmissionReconnectPlan) (active : Option SchemaEpochBinding) : CommsM RecordResult := do
  if ← isFrozen then
    return .error (commsViolation .commsFrozen .reconnect "comms E-Stop active")
  else
    proposed host plan (validatePlan host plan active (← now host.toCommsHost))

def authorizable (record : ReconnectCoordinatorRecord) : Except CommsViolation Unit :=
  if record.state ≠ .proposed ∧ record.state ≠ .validated then
    .error (commsViolation .reconnectConflict .reconnect "invalid state for authorize")
  else if record.plan.authorizationRef = "" then
    .error (commsViolation .sessionNotAuthorized .reconnect "authorization evidence missing")
  else .ok ()

def authorize (record : ReconnectCoordinatorRecord) : CommsM RecordResult :=
  match authorizable record with
  | .error violation => return .error violation
  | .ok () => do
      let next := { record with state := .authorized, updatedAt := ← now host.toCommsHost }
      putReconnect next
      return .ok next

def acceptable (record : ReconnectCoordinatorRecord) (peerAckDigest : String) : Except CommsViolation Unit :=
  if record.state ≠ .authorized ∧ record.state ≠ .prepared then
    .error (commsViolation .reconnectConflict .reconnect "invalid state for peer accept")
  else if peerAckDigest ≠ record.plan.planDigest then
    .error (commsViolation .reconnectConflict .reconnect "peer ack digest mismatch")
  else .ok ()

def peerAccept (record : ReconnectCoordinatorRecord) (peerAckDigest : String) : CommsM RecordResult :=
  match acceptable record peerAckDigest with
  | .error violation => return .error violation
  | .ok () => do
      let next :=
        { record with
          state := .peerAccepted, peerAckDigest := some peerAckDigest, updatedAt := ← now host.toCommsHost }
      putReconnect next
      return .ok next

/-! ### The commit -/

def committable (store : CommsStore) (record : ReconnectCoordinatorRecord) :
    Except CommsViolation SessionTransportBinding :=
  if record.state ≠ .peerAccepted ∧ record.state ≠ .recoveryRequired then
    .error (commsViolation .reconnectConflict .reconnect "invalid state for runtime commit")
  else
    match store.getSessionBinding record.plan.sessionId with
    | none => .error (commsViolation .sessionNotAuthorized .reconnect "session binding missing")
    | some binding =>
        if binding.channelGeneration ≠ record.plan.expectedChannelGeneration then
          .error (commsViolation .staleBinding .reconnect "unexpected channel generation")
        else .ok binding

def switched (record : ReconnectCoordinatorRecord) (binding : SessionTransportBinding) (updatedAt : Timestamp) :
    SessionTransportBinding :=
  { binding with
    endpointRef := some record.plan.newEndpointRef, channelGeneration := binding.channelGeneration + 1
    status := .active, updatedAt }

def recoveryRequired (record : ReconnectCoordinatorRecord) (violation : CommsViolation) :
    CommsM (CommitWait ⊕ Settled CommitResult) := do
  putReconnect { record with state := .recoveryRequired, updatedAt := ← now host.toCommsHost }
  finish (.error violation)

def afterSwitch (record : ReconnectCoordinatorRecord) (binding : SessionTransportBinding) :
    Bool → CommsM (CommitWait ⊕ Settled CommitResult)
  | false =>
      recoveryRequired host record (commsViolation .reconnectConflict .reconnect "session binding CAS failed")
  | true => await (.commitReconnect record.plan.planDigest record.plan.admissionReceipt.admissionId) { record, binding }

def runtimeCommit (record : ReconnectCoordinatorRecord) : CommsM (CommitWait ⊕ Settled CommitResult) := do
  match committable (← store) record with
  | .error violation => finish (.error violation)
  | .ok binding =>
      let next := switched record binding (← now host.toCommsHost)
      afterSwitch host record binding (← onStore fun store =>
        store.casSessionBinding record.plan.sessionId binding.channelGeneration next)

def committedEvent (plan : AdmissionReconnectPlan) (receipt : AdmissionReconnectReceipt) : CommsEventEnvelope :=
  { eventId := "evt-reconnect-" ++ plan.planId, storeSequence := receipt.storeSequence, kind := .reconnectCommitted
    occurredAt := receipt.committedAt, correlationId := some plan.metadata.correlationId
    occurrenceId := some plan.metadata.occurrenceId
    payload := [("planDigest", plan.planDigest), ("admissionId", plan.admissionReceipt.admissionId)] }

def committedOccurrence (plan : AdmissionReconnectPlan) (binding : SessionTransportBinding) (receiptRef : String)
    (recordedAt : Timestamp) : CommunicationOccurrenceRecord :=
  { operation := resolveOperationBinding .reconnect plan.operationTemplateRef "comms/wire-v1"
      plan.toBinding.handlerManifestRef "comms/1"
    phase := .reconnected, lifecycle := .complete, disposition := .successful
    nativeAction := boundOutputAction plan.newEndpointRef binding.channelId plan.oldEndpointRef
    metadata := plan.metadata, beforeSnapshotRef := plan.admissionReceipt.beforeSnapshotRef
    afterSnapshotRef := some plan.admissionReceipt.afterSnapshotRef, effectiveFootprint := emptyFootprint
    endpointEvidenceRef := none, replayEvidenceRef := some receiptRef, transportAttemptRefs := [], recordedAt }

/-- The commit after the store was to keep it. -/
def finalized (receipt : AdmissionReconnectReceipt) (event : CommsEventEnvelope) :
    PersistResult → CommsM (CommitWait ⊕ Settled CommitResult)
  | .conflict => finish (.error (commsViolation .reconnectConflict .reconnect "reconnect finalize conflict"))
  | .committed | .idempotentReplay => do
      emit event
      finish (.ok receipt)

def runtimeCommitted (wait : CommitWait) : PortResult → CommsM (CommitWait ⊕ Settled CommitResult)
  | .error violation => recoveryRequired host wait.record violation
  | .ok receiptRef => do
      let plan := wait.record.plan
      let storeSequence ← nextSequence
      let committedAt ← now host.toCommsHost
      let receipt : AdmissionReconnectReceipt :=
        { planId := plan.planId, planDigest := plan.planDigest, runtimeReceiptRef := some receiptRef, storeSequence
          newChannelGeneration := wait.binding.channelGeneration + 1, committedAt }
      let record :=
        { wait.record with state := .completed, runtimeReceiptRef := some receiptRef, updatedAt := committedAt }
      let event := committedEvent plan receipt
      let occurrence := committedOccurrence plan wait.binding receiptRef committedAt
      finalized receipt event (← onStore fun store => store.finalizeReconnect { record, receipt, event, occurrence })

def resume (wait : CommitWait) (response : Settled PortResult) : CommsM (CommitWait ⊕ Settled CommitResult) :=
  answered (.commitReconnect wait.record.plan.planDigest wait.record.plan.admissionReceipt.admissionId) response
    (runtimeCommitted host wait)

def completedReceipt (record : ReconnectCoordinatorRecord) (storeSequence : Nat) : AdmissionReconnectReceipt :=
  { planId := record.plan.planId, planDigest := record.plan.planDigest, runtimeReceiptRef := record.runtimeReceiptRef
    storeSequence, newChannelGeneration := record.plan.expectedChannelGeneration + 1
    committedAt := record.updatedAt }

def recover (planId : ReconnectRecordId) : CommsM (CommitWait ⊕ Settled CommitResult) := do
  match (← store).getReconnect planId with
  | none => finish (.error (commsViolation .invalidInput .recover "reconnect record missing"))
  | some record =>
      if record.state = .completed then
        let storeSequence ← nextSequence
        finish (.ok (completedReceipt record storeSequence))
      else runtimeCommit host record

end ReconnectCoordinator

/-! ## The recovery of all plans -/

structure ReconnectRecoveryReport where
  recovered : List ReconnectRecordId
  stillPending : List ReconnectRecordId
  failed : List ReconnectRecordId
  deriving DecidableEq

abbrev RecoveryResult := Except CommsViolation ReconnectRecoveryReport

/-- The stored records that are left to a recovery, and what became of those before them. -/
structure RecoveryFrame where
  rest : List (ReconnectRecordId × ReconnectCoordinatorRecord)
  report : ReconnectRecoveryReport
  deriving DecidableEq

inductive RecoveryWait where
  /-- In the recovery of this plan, for the runtime. -/
  | recovering (frame : RecoveryFrame) (planId : ReconnectRecordId) (wait : CommitWait)
  /-- For the recovery of this plan, which has ended so. -/
  | returned (frame : RecoveryFrame) (planId : ReconnectRecordId) (result : CommitResult)
  deriving DecidableEq

def RecoveryWait.Resp : RecoveryWait → Type
  | .recovering .. => Settled PortResult
  | .returned .. => Unit

namespace ReconnectRecovery

variable (host : ReconnectHost)

def afterRecover (frame : RecoveryFrame) (planId : ReconnectRecordId) :
    CommitWait ⊕ Settled CommitResult → RecoveryWait ⊕ Settled RecoveryResult
  | .inl wait => .inl (.recovering frame planId wait)
  | .inr (.rejected reason) => .inr (.rejected reason)
  | .inr (.resolved result) => .inl (.returned frame planId result)

def recovering (frame : RecoveryFrame) (planId : ReconnectRecordId) (recover : CommsM (CommitWait ⊕ Settled CommitResult)) :
    CommsM (RecoveryWait ⊕ Settled RecoveryResult) := do
  return afterRecover frame planId (← recover)

/-- The loop over the stored records. -/
def reconcileRest (report : ReconnectRecoveryReport) :
    List (ReconnectRecordId × ReconnectCoordinatorRecord) → CommsM (RecoveryWait ⊕ Settled RecoveryResult)
  | [] => finish (.ok report)
  | (planId, record) :: rest =>
      match record.state with
      | .completed | .failed => reconcileRest report rest
      | .peerAccepted | .recoveryRequired | .runtimeCommitted =>
          recovering { rest, report } planId (ReconnectCoordinator.recover host planId)
      | _ => reconcileRest { report with stillPending := report.stillPending ++ [planId] } rest

def reconcile : CommsM (RecoveryWait ⊕ Settled RecoveryResult) := do
  if ← isFrozen then
    finish (.error (commsViolation .commsFrozen .recover "comms E-Stop active"))
  else
    reconcileRest host { recovered := [], stillPending := [], failed := [] } (← store).reconnects.entries

def emitRecovered (receipt : AdmissionReconnectReceipt) : CommsM Unit := do
  emit
    { eventId := "evt-reconnect-recovered-" ++ receipt.planId, storeSequence := receipt.storeSequence
      kind := .reconnectRecovered, occurredAt := ← now host.toCommsHost, correlationId := none, occurrenceId := none
      payload := [("planDigest", receipt.planDigest)] }

def returned (frame : RecoveryFrame) (planId : ReconnectRecordId) :
    CommitResult → CommsM (RecoveryWait ⊕ Settled RecoveryResult)
  | .error _ => reconcileRest host { frame.report with failed := frame.report.failed ++ [planId] } frame.rest
  | .ok receipt => do
      emitRecovered host receipt
      reconcileRest host { frame.report with recovered := frame.report.recovered ++ [planId] } frame.rest

def resume : (wait : RecoveryWait) → wait.Resp → CommsM (RecoveryWait ⊕ Settled RecoveryResult)
  | .recovering frame planId wait, response =>
      recovering frame planId (ReconnectCoordinator.resume host wait response)
  | .returned frame planId result, () => returned host frame planId result

end ReconnectRecovery

/-! ## The services -/

inductive ReconnectCall where
  | propose (plan : AdmissionReconnectPlan) (active : Option SchemaEpochBinding)
  | authorize (record : ReconnectCoordinatorRecord)
  | peerAccept (record : ReconnectCoordinatorRecord) (peerAckDigest : String)
  | runtimeCommit (record : ReconnectCoordinatorRecord)
  | recover (planId : ReconnectRecordId)
  | reconcile

namespace ReconnectCall

def Wait : ReconnectCall → Type
  | .runtimeCommit _ | .recover _ => CommitWait
  | .reconcile => RecoveryWait
  | .propose .. | .authorize _ | .peerAccept .. => Empty

def Resp : (call : ReconnectCall) → call.Wait → Type
  | .runtimeCommit _, _ | .recover _, _ => Settled PortResult
  | .reconcile, wait => RecoveryWait.Resp wait
  | .propose .., wait | .authorize _, wait | .peerAccept .., wait => wait.elim

def Out : ReconnectCall → Type
  | .runtimeCommit _ | .recover _ => Settled CommitResult
  | .reconcile => Settled RecoveryResult
  | .propose .. | .authorize _ | .peerAccept .. => RecordResult

end ReconnectCall

/-- A call without a wait. -/
def atOnce {W α : Type} (m : CommsM α) : CommsM (W ⊕ α) := do
  return .inr (← m)

def reconnectServices (host : ReconnectHost) : Sections CommsWorld ReconnectCall where
  Wait := ReconnectCall.Wait
  Resp := ReconnectCall.Resp
  Out := ReconnectCall.Out
  start
    | .propose plan active => atOnce (ReconnectCoordinator.propose host plan active)
    | .authorize record => atOnce (ReconnectCoordinator.authorize host record)
    | .peerAccept record peerAckDigest => atOnce (ReconnectCoordinator.peerAccept host record peerAckDigest)
    | .runtimeCommit record => ReconnectCoordinator.runtimeCommit host record
    | .recover planId => ReconnectCoordinator.recover host planId
    | .reconcile => ReconnectRecovery.reconcile host
  resume
    | .runtimeCommit _, wait, response => ReconnectCoordinator.resume host wait response
    | .recover _, wait, response => ReconnectCoordinator.resume host wait response
    | .reconcile, wait, response => ReconnectRecovery.resume host wait response
    | .propose .., wait, _ | .authorize _, wait, _ | .peerAccept .., wait, _ => wait.elim

end Cantilune
