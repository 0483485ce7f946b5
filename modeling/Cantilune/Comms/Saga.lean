import Cantilune.Comms.Store

/-!
# The messaging saga

A send is queued in the outbox, observed by the runtime, committed by it and only then handed to the transport.
The three ports are awaited one after the other; what comes before, between and after these waits are the sections
of the send.
-/

namespace Cantilune

inductive PortCall where
  | observe (source : ActorRef) (payloadRef : ContentRef) (principal : ActorRef)
  | commitMessage (messageId : MessageId) (envelopeDigest : IntegrityDigest) (snapshotRef : SnapshotRef)
  | dispatch (envelope : VerifiedEnvelope)
  | commitReconnect (planDigest : String) (admissionId : String)
  deriving DecidableEq

/-- The reference that a port answers with (a snapshot, a receipt, an attempt), or why it refuses. -/
abbrev PortResult := Except CommsViolation String

/-- What a promise comes to. -/
inductive Settled (α : Type) where
  | resolved (value : α)
  | rejected (reason : String)
  deriving DecidableEq

inductive PortEvent where
  | called (call : PortCall)
  | answered (call : PortCall) (response : Settled PortResult)
  deriving DecidableEq

/-! ## The world of the services -/

inductive MessagingSagaPhase where
  | persisted | observed | committed | dispatched | acknowledged | failed
  deriving DecidableEq, Repr

structure MessagingSagaRecord where
  messageId : MessageId
  phase : MessagingSagaPhase
  runtimeSnapshotRef : Option SnapshotRef
  runtimeReceiptRef : Option String
  attemptRef : Option String
  updatedAt : Timestamp
  deriving DecidableEq

/-- The store, the records of the saga, the event sink, the emergency stop, the number of readings of the clock,
and what was exchanged with the ports, the oldest first. -/
structure CommsWorld where
  store : CommsStore
  records : OrdMap MessageId MessagingSagaRecord
  emitted : List CommsEventEnvelope
  frozen : Bool
  readings : Nat
  log : List PortEvent

def CommsWorld.empty : CommsWorld :=
  { store := .empty, records := .empty, emitted := [], frozen := false, readings := 0, log := [] }

/-- What the services take from outside: the readings of the clock, the parsing of times, and the digest of an
envelope. -/
structure CommsHost where
  clock : Nat → Timestamp
  dateParse : Timestamp → Option Int
  computeEnvelopeIntegrityDigest : EnvelopeFrame → IntegrityDigest

abbrev CommsM := StateM CommsWorld

namespace CommsM

variable (host : CommsHost)

def isFrozen : CommsM Bool := fun w => (w.frozen, w)

def now : CommsM Timestamp := fun w => (host.clock w.readings, { w with readings := w.readings + 1 })

def store : CommsM CommsStore := fun w => (w.store, w)

theorem store_bind {α : Type} (f : CommsStore → CommsM α) (w : CommsWorld) : (store >>= f) w = f w.store w := rfl

def onStore {α : Type} (f : CommsStore → α × CommsStore) : CommsM α := fun w =>
  ((f w.store).1, { w with store := (f w.store).2 })

def nextSequence : CommsM Nat := onStore CommsStore.nextSequence

def updateDelivery (messageId : MessageId) (next : DeliveryRecord) : CommsM Bool :=
  onStore fun store => store.updateDelivery messageId next

def getRecord (messageId : MessageId) : CommsM (Option MessagingSagaRecord) := fun w => (w.records.get? messageId, w)

def setRecord (record : MessagingSagaRecord) : CommsM Unit := fun w =>
  ((), { w with records := w.records.set record.messageId record })

def emit (event : CommsEventEnvelope) : CommsM Unit := fun w => ((), { w with emitted := w.emitted ++ [event] })

def note (event : PortEvent) : CommsM Unit := fun w => ((), { w with log := w.log ++ [event] })

def await {W Out : Type} (call : PortCall) (wait : W) : CommsM (W ⊕ Out) := do
  note (.called call)
  return .inl wait

/-- The answer of a port is there. The calls do not catch a rejected promise. -/
def answered {W α : Type} (call : PortCall) (response : Settled PortResult) (k : PortResult → CommsM (W ⊕ Settled α)) :
    CommsM (W ⊕ Settled α) := do
  note (.answered call response)
  match response with
  | .rejected reason => return .inr (.rejected reason)
  | .resolved result => k result

/-- The call ends. -/
def finish {W α : Type} (result : α) : CommsM (W ⊕ Settled α) := return .inr (.resolved result)

end CommsM

open CommsM

/-! ## Executing a send -/

structure ExecuteSendInput where
  context : AuthenticatedCommsContext
  envelope : CommunicationEnvelope
  idempotencyKey : String
  deriving DecidableEq

/-- The variables of a send that live on over its waits. -/
structure SendFrame where
  delivery : DeliveryRecord
  enqueuedEvent : CommsEventEnvelope
  record : MessagingSagaRecord
  deriving DecidableEq

inductive SendWait where
  | observing (frame : SendFrame)
  | committing (frame : SendFrame) (snapshotRef : SnapshotRef)
  | dispatching (frame : SendFrame) (verifiedAt : Timestamp)
  deriving DecidableEq

abbrev SendResult := Except CommsViolation MessagingSagaRecord

namespace MessagingSaga

variable (host : CommsHost) (input : ExecuteSendInput)

def portCall : SendWait → PortCall
  | .observing _ => .observe input.envelope.sender input.envelope.payload.contentRef input.context.principal
  | .committing _ snapshotRef => .commitMessage input.envelope.messageId input.envelope.integrityDigest snapshotRef
  | .dispatching _ verifiedAt => .dispatch (sealVerifiedEnvelope input.envelope verifiedAt)

def waitFor (wait : SendWait) : CommsM (SendWait ⊕ Settled SendResult) := await (portCall input wait) wait

/-- The answer to a send whose key is claimed for the same digest. -/
def replayed : CommsM SendResult := do
  match ← getRecord input.envelope.messageId with
  | some existing => return .ok existing
  | none =>
      let storedDelivery := (← store).getDelivery input.envelope.messageId
      return .ok
        { messageId := input.envelope.messageId
          phase := if storedDelivery.map (·.state) = some .dispatched then .dispatched else .persisted
          runtimeSnapshotRef := none, runtimeReceiptRef := none, attemptRef := none, updatedAt := ← now host }

def failed (frame : SendFrame) (violation : CommsViolation) : CommsM (SendWait ⊕ Settled SendResult) := do
  setRecord { frame.record with phase := .failed, updatedAt := ← now host }
  finish (.error violation)

/-- The send after the outbox has answered. -/
def persisted (delivery : DeliveryRecord) (enqueuedEvent : CommsEventEnvelope) :
    PersistResult → CommsM (SendWait ⊕ Settled SendResult)
  | .conflict => finish (.error (commsViolation .invalidInput .send "idempotency conflict"))
  | .idempotentReplay => do finish (← replayed host input)
  | .committed => do
      let record : MessagingSagaRecord :=
        { messageId := input.envelope.messageId, phase := .persisted, runtimeSnapshotRef := none
          runtimeReceiptRef := none, attemptRef := none, updatedAt := ← now host }
      setRecord record
      waitFor input (.observing { delivery, enqueuedEvent, record })

def executeSend : CommsM (SendWait ⊕ Settled SendResult) := do
  if ← isFrozen then
    finish (.error (commsViolation .commsFrozen .send "comms E-Stop active"))
  else
    let delivery := queuedDelivery input.envelope (← now host)
    let storeSequence ← nextSequence
    let event := messageEvent "evt-enq-" .messageEnqueued input.envelope storeSequence (← now host)
    persisted host input delivery event (← onStore fun store =>
      store.appendOutbox { envelope := input.envelope, idempotencyKey := input.idempotencyKey, delivery, event })

def observed (frame : SendFrame) : PortResult → CommsM (SendWait ⊕ Settled SendResult)
  | .error violation => failed host frame violation
  | .ok snapshotRef => do
      let record :=
        { frame.record with phase := .observed, runtimeSnapshotRef := some snapshotRef, updatedAt := ← now host }
      setRecord record
      waitFor input (.committing { frame with record } snapshotRef)

def committed (frame : SendFrame) : PortResult → CommsM (SendWait ⊕ Settled SendResult)
  | .error violation => failed host frame violation
  | .ok receiptRef => do
      let record :=
        { frame.record with phase := .committed, runtimeReceiptRef := some receiptRef, updatedAt := ← now host }
      setRecord record
      waitFor input (.dispatching { frame with record } (← now host))

def dispatched (frame : SendFrame) : PortResult → CommsM (SendWait ⊕ Settled SendResult)
  | .error violation => failed host frame violation
  | .ok attemptRef => do
      let _ ← updateDelivery input.envelope.messageId
        { frame.delivery with state := .dispatched, attempt := 1, dispatchedAt := some (← now host) }
      let record :=
        { frame.record with phase := .dispatched, attemptRef := some attemptRef, updatedAt := ← now host }
      setRecord record
      emit frame.enqueuedEvent
      let storeSequence ← nextSequence
      emit (messageEvent "evt-disp-" .messageDispatched input.envelope storeSequence (← now host))
      finish (.ok record)

def resume (wait : SendWait) (response : Settled PortResult) : CommsM (SendWait ⊕ Settled SendResult) :=
  answered (portCall input wait) response <|
    match wait with
    | .observing frame => observed host input frame
    | .committing frame _ => committed host input frame
    | .dispatching frame _ => dispatched host input frame

end MessagingSaga

end Cantilune
