import Cantilune.Comms.Reconnect
import Cantilune.Comms.Service

/-!
# The close coordinator

A close is proposed with a plan and completed with one: the plan says which deliveries are pending, and two probes
say whether the runtime is quiescent. A session that has no binding accepts one.
-/

namespace Cantilune

open CommsM

inductive CloseWait where
  | resourcesClear
  | sessionsQuiescent (resourcesClear : Bool)
  deriving DecidableEq

abbrev CloseResult := Except CommsViolation QuiescentCloseReceipt

namespace CloseCoordinator

variable (host : CommsHost) (plan : QuiescentClosePlan)

def checkExpiry (now : Timestamp) : Except CommsViolation Unit :=
  if ReconnectCoordinator.isExpired host now plan.expiresAt then
    .error (commsViolation .wireExpired .close "close plan expired")
  else .ok ()

def proposed : Except CommsViolation Unit → CommsM (Except CommsViolation QuiescentClosePlan)
  | .error violation => return .error violation
  | .ok () => do
      onStore fun store => ((), store.putClosePlan plan)
      return .ok plan

def propose : CommsM (Except CommsViolation QuiescentClosePlan) := do
  if ← isFrozen then
    return .error (commsViolation .commsFrozen .close "comms E-Stop active")
  else
    proposed plan (checkExpiry host plan (← now host))

/-- The checks of a completion before the probes. -/
def completable (now : Timestamp) : Except CommsViolation Unit :=
  match checkExpiry host plan now with
  | .error violation => .error violation
  | .ok () =>
      if !plan.sendBarrierApplied then
        .error (commsViolation .quiescenceBlocked .close "send barrier not applied")
      else if 0 < plan.pendingOutbox ∨ 0 < plan.pendingInbox ∨ 0 < plan.pendingInflight then
        .error (commsViolation .quiescenceBlocked .close "pending deliveries remain")
      else if plan.peerShutdownAckRef = none ∨ plan.peerShutdownAckRef = some "" then
        .error (commsViolation .quiescenceBlocked .close "peer shutdown ack missing")
      else if plan.authorizationRef = "" then
        .error (commsViolation .sessionNotAuthorized .close "authorization evidence missing")
      else .ok ()

def checked : Except CommsViolation Unit → CommsM (CloseWait ⊕ Settled CloseResult)
  | .error violation => finish (.error violation)
  | .ok () => return .inl .resourcesClear

def complete : CommsM (CloseWait ⊕ Settled CloseResult) := do
  checked (completable host plan (← now host))

def blocked : CommsM (CloseWait ⊕ Settled CloseResult) := do
  let storeSequence ← nextSequence
  emit
    { eventId := "evt-quies-block-" ++ plan.planId, storeSequence, kind := .quiescenceBlocked
      occurredAt := ← now host, correlationId := none, occurrenceId := none
      payload := [("sessionId", plan.sessionId)] }
  finish (.error (commsViolation .quiescenceBlocked .close "runtime not quiescent"))

def closed : CommsM (CloseWait ⊕ Settled CloseResult) := do
  let storeSequence ← nextSequence
  let receipt : QuiescentCloseReceipt :=
    { planId := plan.planId, tombstoneRef := "tombstone://" ++ plan.sessionId, storeSequence, closedAt := ← now host }
  let event : CommsEventEnvelope :=
    { eventId := "evt-close-" ++ plan.planId, storeSequence, kind := .sessionClosed, occurredAt := receipt.closedAt
      correlationId := none, occurrenceId := none, payload := [("sessionId", plan.sessionId)] }
  let _ ← onStore fun store => store.finalizeClose { plan, receipt, event }
  emit event
  finish (.ok receipt)

/-- The section of a completion after a probe. -/
def resume : CloseWait → Settled Bool → CommsM (CloseWait ⊕ Settled CloseResult)
  | _, .rejected reason => return .inr (.rejected reason)
  | .resourcesClear, .resolved resourcesClear => return .inl (.sessionsQuiescent resourcesClear)
  | .sessionsQuiescent resourcesClear, .resolved sessionsQuiescent =>
      if !resourcesClear || !sessionsQuiescent then blocked host plan else closed host plan

end CloseCoordinator

namespace CommsSessionService

def acceptSession (binding : SessionTransportBinding) : CommsM (Except CommsViolation SessionTransportBinding) := do
  match (← store).getSessionBinding binding.sessionId with
  | some _ => return .error (commsViolation .sessionNotAuthorized .session "session binding already exists")
  | none =>
      let _ ← onStore fun store => store.casSessionBinding binding.sessionId 0 binding
      return .ok binding

end CommsSessionService

/-! ## The services -/

inductive CloseCall where
  | propose (plan : QuiescentClosePlan)
  | complete (plan : QuiescentClosePlan)

namespace CloseCall

def Wait : CloseCall → Type
  | .complete _ => CloseWait
  | .propose _ => Empty

def Resp : (call : CloseCall) → call.Wait → Type
  | .complete _, _ => Settled Bool
  | .propose _, wait => wait.elim

def Out : CloseCall → Type
  | .complete _ => Settled CloseResult
  | .propose _ => Except CommsViolation QuiescentClosePlan

end CloseCall

def closeServices (host : CommsHost) : Sections CommsWorld CloseCall where
  Wait := CloseCall.Wait
  Resp := CloseCall.Resp
  Out := CloseCall.Out
  start
    | .propose plan => atOnce (CloseCoordinator.propose host plan)
    | .complete plan => CloseCoordinator.complete host plan
  resume
    | .complete plan, wait, response => CloseCoordinator.resume host plan wait response
    | .propose _, wait, _ => wait.elim

/-- A call accepts the binding. -/
def sessionServices : Sections CommsWorld SessionTransportBinding where
  Wait := fun _ => Empty
  Resp := fun _ wait => wait.elim
  Out := fun _ => Except CommsViolation SessionTransportBinding
  start := fun binding => atOnce (CommsSessionService.acceptSession binding)
  resume := fun _ wait => wait.elim

def runtimeServices (host : ReconnectHost) : Sections CommsWorld ((CommsCall ⊕ ReconnectCall) ⊕ CloseCall) :=
  ((commsServices host.toCommsHost).sum (reconnectServices host)).sum (closeServices host.toCommsHost)

end Cantilune
