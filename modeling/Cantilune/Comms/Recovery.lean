import Cantilune.Comms.Saga

/-!
# The outbox dispatcher and the recovery of deliveries

The dispatcher takes a copy of the outbox and hands the queued deliveries of this copy to the transport, one after
the other; the recovery runs the dispatcher and puts what failed into the dead letters. Each waits for an
asynchronous call of its own between two deliveries, and other calls may run there.
-/

namespace Cantilune

open CommsM

/-! ## The outbox dispatcher -/

inductive DispatchOutcome where
  | dispatched (deliveryId : DeliveryAttemptId)
  | skipped (deliveryId : DeliveryAttemptId)
  | failed (deliveryId : DeliveryAttemptId) (reason : String)
  deriving DecidableEq

structure OutboxDispatchResult where
  dispatched : List DeliveryAttemptId
  skipped : List DeliveryAttemptId
  failed : List (DeliveryAttemptId × String)
  deriving DecidableEq

def OutboxDispatchResult.empty : OutboxDispatchResult := { dispatched := [], skipped := [], failed := [] }

def OutboxDispatchResult.push (result : OutboxDispatchResult) : DispatchOutcome → OutboxDispatchResult
  | .dispatched deliveryId => { result with dispatched := result.dispatched ++ [deliveryId] }
  | .skipped deliveryId => { result with skipped := result.skipped ++ [deliveryId] }
  | .failed deliveryId reason => { result with failed := result.failed ++ [(deliveryId, reason)] }

/-- The deliveries that are left to a drain, and what became of those before them. -/
structure DrainFrame where
  rest : List DeliveryRecord
  result : OutboxDispatchResult
  deriving DecidableEq

inductive DrainWait where
  /-- In the call for this delivery, for the transport. -/
  | transport (frame : DrainFrame) (delivery : DeliveryRecord) (verified : VerifiedEnvelope)
  /-- For the call for a delivery, which has ended so. -/
  | returned (frame : DrainFrame) (outcome : DispatchOutcome)
  deriving DecidableEq

abbrev DrainResult := Except CommsViolation OutboxDispatchResult

def DrainWait.Resp : DrainWait → Type
  | .transport .. => Settled PortResult
  | .returned .. => Unit

namespace OutboxDispatcher

variable (host : CommsHost)

/-- What a delivery needs to be handed to the transport. -/
def isDue (delivery : DeliveryRecord) : Bool :=
  (delivery.state = .queued || delivery.state = .retryWait) && delivery.attempt < CommsLimits.maxRetryAttempts

def dispatchOne (frame : DrainFrame) (delivery : DeliveryRecord) : CommsM (DrainWait ⊕ Settled DrainResult) := do
  if delivery.state ≠ .queued ∧ delivery.state ≠ .retryWait then
    return .inl (.returned frame (.skipped delivery.deliveryId))
  else if CommsLimits.maxRetryAttempts ≤ delivery.attempt then
    return .inl (.returned frame (.failed delivery.deliveryId "retry budget exhausted"))
  else
    match (← store).getEnvelope delivery.envelopeRef with
    | none => return .inl (.returned frame (.failed delivery.deliveryId "envelope missing"))
    | some envelope =>
        let verified := sealVerifiedEnvelope envelope (← now host)
        match assertVerifiedEnvelope verified with
        | .error violation => return .inl (.returned frame (.failed delivery.deliveryId violation.message))
        | .ok () => await (.dispatch verified) (.transport frame delivery verified)

/-- Whether the delivery is dead. -/
def markRetry (delivery : DeliveryRecord) (reason : String) : CommsM Bool := do
  let nextAttempt := delivery.attempt + 1
  if CommsLimits.maxRetryAttempts ≤ nextAttempt then
    let _ ← updateDelivery delivery.envelopeRef
      { delivery with
        state := .deadLettered, attempt := nextAttempt, lastSafeError := some reason
        terminalAt := some (← now host) }
    return true
  else
    let _ ← updateDelivery delivery.envelopeRef
      { delivery with
        state := .retryWait, attempt := nextAttempt, lastSafeError := some reason
        nextAttemptAt := some (← now host) }
    return false

/-- The section of `dispatchOne` after the transport. -/
def dispatchedOne (frame : DrainFrame) (delivery : DeliveryRecord) :
    PortResult → CommsM (DrainWait ⊕ Settled DrainResult)
  | .error violation => do
      if ← markRetry host delivery violation.message then
        return .inl (.returned frame (.failed delivery.deliveryId violation.message))
      else
        return .inl (.returned frame (.skipped delivery.deliveryId))
  | .ok _ => do
      let _ ← updateDelivery delivery.envelopeRef
        { delivery with
          state := .dispatched, attempt := delivery.attempt + 1, dispatchedAt := some (← now host) }
      return .inl (.returned frame (.dispatched delivery.deliveryId))

/-- The loop over the deliveries that are left. -/
def dispatchRest (frame : DrainFrame) : CommsM (DrainWait ⊕ Settled DrainResult) :=
  match frame.rest with
  | [] => finish (.ok frame.result)
  | delivery :: rest => dispatchOne host { frame with rest } delivery

def dispatchPending : CommsM (DrainWait ⊕ Settled DrainResult) := do
  if ← isFrozen then
    finish (.error (commsViolation .commsFrozen .send "comms E-Stop active"))
  else
    dispatchRest host { rest := (← store).outbox, result := .empty }

def resume : (wait : DrainWait) → wait.Resp → CommsM (DrainWait ⊕ Settled DrainResult)
  | .transport frame delivery verified, response =>
      answered (.dispatch verified) response (dispatchedOne host frame delivery)
  | .returned frame outcome, () => dispatchRest host { frame with result := frame.result.push outcome }

end OutboxDispatcher

/-! ## The recovery of deliveries -/

structure DeliveryRecoveryReport where
  redispatched : Nat
  deadLettered : Nat
  unchanged : Nat
  deriving DecidableEq

inductive ReconcileWait where
  | draining (unchanged : Nat) (wait : DrainWait)
  /-- For the dispatcher, which has ended so. -/
  | drained (unchanged : Nat) (result : DrainResult)
  deriving DecidableEq

abbrev ReconcileResult := Except CommsViolation DeliveryRecoveryReport

def ReconcileWait.Resp : ReconcileWait → Type
  | .draining _ wait => wait.Resp
  | .drained .. => Unit

namespace DeliveryRecovery

variable (host : CommsHost)

def isUnchanged (delivery : DeliveryRecord) : Bool :=
  delivery.state = .acknowledged || delivery.state = .deadLettered
    || (delivery.state = .dispatched && delivery.ackAt.isSome)

def markDeadLettered (deliveryId : DeliveryAttemptId) (reason : String) : CommsM Unit := do
  match (← store).outbox.find? fun d => d.deliveryId = deliveryId with
  | none => return ()
  | some delivery =>
      let _ ← updateDelivery delivery.envelopeRef
        { delivery with
          state := .deadLettered, terminalAt := some (← now host), lastSafeError := some reason }

def deadLetter (failure : DeliveryAttemptId × String) : CommsM Unit := do
  let (deliveryId, reason) := failure
  markDeadLettered host deliveryId reason
  let quarantinedAt ← now host
  onStore fun store => ((), store.putDeadLetter { deliveryId, envelopeRef := deliveryId, reason, quarantinedAt })
  let storeSequence ← nextSequence
  emit
    { eventId := "evt-dlq-" ++ deliveryId, storeSequence, kind := .messageDeadLettered, occurredAt := ← now host
      correlationId := none, occurrenceId := none
      payload := [("deliveryId", deliveryId), ("reason", reason)] }

/-- Where the recovery is when the dispatcher is there. -/
def afterDrain (unchanged : Nat) : DrainWait ⊕ Settled DrainResult → ReconcileWait ⊕ Settled ReconcileResult
  | .inl wait => .inl (.draining unchanged wait)
  | .inr (.rejected reason) => .inr (.rejected reason)
  | .inr (.resolved result) => .inl (.drained unchanged result)

def draining (unchanged : Nat) (drain : CommsM (DrainWait ⊕ Settled DrainResult)) :
    CommsM (ReconcileWait ⊕ Settled ReconcileResult) := do
  return afterDrain unchanged (← drain)

def reconcile : CommsM (ReconcileWait ⊕ Settled ReconcileResult) := do
  if ← isFrozen then
    finish (.error (commsViolation .commsFrozen .recover "comms E-Stop active"))
  else
    draining ((← store).outbox.countP isUnchanged) (OutboxDispatcher.dispatchPending host)

def drained (unchanged : Nat) : DrainResult → CommsM (ReconcileWait ⊕ Settled ReconcileResult)
  | .error violation => finish (.error violation)
  | .ok result => do
      result.failed.forM (deadLetter host)
      finish (.ok
        { redispatched := result.dispatched.length, deadLettered := result.failed.length, unchanged })

def resume : (wait : ReconcileWait) → wait.Resp → CommsM (ReconcileWait ⊕ Settled ReconcileResult)
  | .draining unchanged wait, response => draining unchanged (OutboxDispatcher.resume host wait response)
  | .drained unchanged result, () => drained host unchanged result

end DeliveryRecovery

end Cantilune
