import Cantilune.Base.OrdMap
import Cantilune.Comms.Records

/-!
# The memory store of the comms

The outbox and the inbox with the deliveries and envelopes of their messages, the claimed idempotency keys, the
bindings of the sessions with the plans for them, and the operations on these.
-/

namespace Cantilune

structure CommsStore where
  frozen : Bool
  sequence : Nat
  peers : OrdMap DescriptorRef PeerDescriptor
  sessions : OrdMap SessionId SessionTransportBinding
  outbox : List DeliveryRecord
  inbox : List DeliveryRecord
  deliveries : OrdMap MessageId DeliveryRecord
  envelopes : OrdMap MessageId CommunicationEnvelope
  acks : List DeliveryAcknowledgement
  reconnects : OrdMap ReconnectRecordId ReconnectCoordinatorRecord
  closePlans : OrdMap CloseRecordId QuiescentClosePlan
  closeReceipts : OrdMap CloseRecordId QuiescentCloseReceipt
  forceCloses : OrdMap CloseRecordId ForceCloseRecord
  occurrences : List CommunicationOccurrenceRecord
  events : List CommsEventEnvelope
  idempotency : OrdMap String IntegrityDigest
  deadLetters : List DeadLetterRecord
  delegations : OrdMap String EndpointDelegationPlan
  delegationReceipts : OrdMap String EndpointDelegationReceipt
  handshakes : OrdMap SessionId SessionHandshake

inductive KeyClaim where
  | claimed | replay | conflict
  deriving DecidableEq, Repr

inductive PersistResult where
  | committed | idempotentReplay | conflict
  deriving DecidableEq, Repr

structure OutboxAppendInput where
  envelope : CommunicationEnvelope
  idempotencyKey : String
  delivery : DeliveryRecord
  event : CommsEventEnvelope

structure InboxAcceptInput where
  envelope : CommunicationEnvelope
  idempotencyKey : String
  delivery : DeliveryRecord
  event : CommsEventEnvelope

structure ReconnectPersistInput where
  record : ReconnectCoordinatorRecord
  receipt : AdmissionReconnectReceipt
  event : CommsEventEnvelope
  occurrence : CommunicationOccurrenceRecord

structure ClosePersistInput where
  plan : QuiescentClosePlan
  receipt : QuiescentCloseReceipt
  event : CommsEventEnvelope

namespace CommsStore

def empty : CommsStore :=
  { frozen := false, sequence := 0, peers := .empty, sessions := .empty, outbox := [], inbox := []
    deliveries := .empty, envelopes := .empty, acks := [], reconnects := .empty, closePlans := .empty
    closeReceipts := .empty, forceCloses := .empty, occurrences := [], events := [], idempotency := .empty
    deadLetters := [], delegations := .empty, delegationReceipts := .empty, handshakes := .empty }

variable (store : CommsStore)

def nextSequence : Nat × CommsStore := (store.sequence + 1, { store with sequence := store.sequence + 1 })

def getSessionBinding (sessionId : SessionId) : Option SessionTransportBinding := store.sessions.get? sessionId

/-- A binding whose generation has moved on is not replaced. -/
def casSessionBinding (sessionId : SessionId) (expectedGeneration : Nat)
    (next : SessionTransportBinding) : Bool × CommsStore :=
  match store.sessions.get? sessionId with
  | some current =>
      if current.channelGeneration ≠ expectedGeneration then (false, store)
      else (true, { store with sessions := store.sessions.set sessionId next })
  | none => (true, { store with sessions := store.sessions.set sessionId next })

def getDelivery (messageId : MessageId) : Option DeliveryRecord := store.deliveries.get? messageId

def getEnvelope (messageId : MessageId) : Option CommunicationEnvelope := store.envelopes.get? messageId

def claimIdempotency (key : String) (digest : IntegrityDigest) : KeyClaim × CommsStore :=
  match store.idempotency.get? key with
  | none => (.claimed, { store with idempotency := store.idempotency.set key digest })
  | some existing => if existing = digest then (.replay, store) else (.conflict, store)

def appendOutbox (input : OutboxAppendInput) : PersistResult × CommsStore :=
  match store.claimIdempotency input.idempotencyKey input.envelope.integrityDigest with
  | (.conflict, store) => (.conflict, store)
  | (.replay, store) => (.idempotentReplay, store)
  | (.claimed, store) =>
      (.committed,
        { store with
          outbox := store.outbox ++ [input.delivery]
          deliveries := store.deliveries.set input.envelope.messageId input.delivery
          envelopes := store.envelopes.set input.envelope.messageId input.envelope
          events := store.events ++ [input.event] })

/-- Unlike the outbox, the inbox takes a message id once only. -/
def appendInbox (input : InboxAcceptInput) : PersistResult × CommsStore :=
  match store.claimIdempotency input.idempotencyKey input.envelope.integrityDigest with
  | (.conflict, store) => (.conflict, store)
  | (.replay, store) => (.idempotentReplay, store)
  | (.claimed, store) =>
      if (store.deliveries.get? input.envelope.messageId).isSome then (.idempotentReplay, store)
      else
        (.committed,
          { store with
            inbox := store.inbox ++ [input.delivery]
            deliveries := store.deliveries.set input.envelope.messageId input.delivery
            envelopes := store.envelopes.set input.envelope.messageId input.envelope
            events := store.events ++ [input.event] })

def replaceDelivery (deliveries : List DeliveryRecord) (messageId : MessageId) (next : DeliveryRecord) :
    List DeliveryRecord :=
  match deliveries.findIdx? fun d => d.envelopeRef = messageId with
  | some i => deliveries.set i next
  | none => deliveries

def updateDelivery (messageId : MessageId) (next : DeliveryRecord) : Bool × CommsStore :=
  match store.deliveries.get? messageId with
  | none => (false, store)
  | some _ =>
      (true,
        { store with
          deliveries := store.deliveries.set messageId next
          outbox := replaceDelivery store.outbox messageId next
          inbox := replaceDelivery store.inbox messageId next })

def putDeadLetter (record : DeadLetterRecord) : CommsStore :=
  { store with deadLetters := store.deadLetters ++ [record] }

def putReconnect (record : ReconnectCoordinatorRecord) : CommsStore :=
  { store with reconnects := store.reconnects.set record.plan.planId record }

def getReconnect (planId : ReconnectRecordId) : Option ReconnectCoordinatorRecord := store.reconnects.get? planId

def finalizeReconnect (input : ReconnectPersistInput) : PersistResult × CommsStore :=
  if (store.reconnects.get? input.record.plan.planId).map (·.state) = some .completed then (.idempotentReplay, store)
  else
    (.committed,
      { store with
        reconnects := store.reconnects.set input.record.plan.planId input.record
        occurrences := store.occurrences ++ [input.occurrence]
        events := store.events ++ [input.event] })

def putClosePlan (plan : QuiescentClosePlan) : CommsStore :=
  { store with closePlans := store.closePlans.set plan.planId plan }

def finalizeClose (input : ClosePersistInput) : PersistResult × CommsStore :=
  (.committed,
    { store with
      closeReceipts := store.closeReceipts.set input.receipt.planId input.receipt
      events := store.events ++ [input.event] })

variable {store}

theorem appendOutbox_replay_iff {input : OutboxAppendInput} :
    (store.appendOutbox input).1 = .idempotentReplay ↔
      store.idempotency.get? input.idempotencyKey = some input.envelope.integrityDigest := by
  unfold appendOutbox claimIdempotency
  cases hkey : store.idempotency.get? input.idempotencyKey with
  | none => simp
  | some digest => by_cases hdigest : digest = input.envelope.integrityDigest <;> simp [hdigest]

theorem appendOutbox_eq_of_ne_committed {input : OutboxAppendInput}
    (h : (store.appendOutbox input).1 ≠ .committed) : (store.appendOutbox input).2 = store := by
  unfold appendOutbox claimIdempotency at h ⊢
  cases hkey : store.idempotency.get? input.idempotencyKey with
  | none => simp [hkey] at h
  | some digest => by_cases hdigest : digest = input.envelope.integrityDigest <;> simp [hdigest]

/-- A plan that is completed is not completed again. -/
theorem finalizeReconnect_of_completed {input : ReconnectPersistInput}
    (h : (store.getReconnect input.record.plan.planId).map (·.state) = some .completed) :
    store.finalizeReconnect input = (.idempotentReplay, store) := if_pos h

theorem finalizeReconnect_of_open {input : ReconnectPersistInput}
    (h : (store.getReconnect input.record.plan.planId).map (·.state) ≠ some .completed) :
    store.finalizeReconnect input = (.committed, { store with
      reconnects := store.reconnects.set input.record.plan.planId input.record
      occurrences := store.occurrences ++ [input.occurrence]
      events := store.events ++ [input.event] }) := if_neg h

end CommsStore

end Cantilune
