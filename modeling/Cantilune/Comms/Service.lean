import Cantilune.Base.Tasks
import Cantilune.Comms.Recovery
import Cantilune.Base.JsString

/-!
# The messaging service

A service sends an envelope that its policy admits: over the saga, where it is configured with one, and else from
the outbox straight to the transport. The services of a runtime are the calls of the service, of the saga, of the
dispatcher and of the recovery, over one store.
-/

namespace Cantilune

open CommsM

/-! ## The policy for outbound envelopes -/

/-- The session authority and the active binding of the default domain, as a send finds them. -/
structure SessionAuthority where
  isMember : SessionId → ActorRef → Bool
  activeBinding : Option SchemaEpochBinding

structure SendInput extends ExecuteSendInput where
  authority : SessionAuthority

namespace EnvelopePolicy

variable (host : CommsHost) (input : SendInput)

def validateOutboundSender : Except CommsViolation Unit :=
  if input.envelope.sender.actorId ≠ input.context.principal.actorId ∨
      input.envelope.sender.kind ≠ input.context.principal.kind then
    .error (commsViolation .identityUnverified .send "envelope sender must match authenticated principal")
  else .ok ()

def validateOutboundSessionMembership : Except CommsViolation Unit :=
  if !input.authority.isMember input.envelope.metadata.sessionId input.envelope.recipient then
    .error (commsViolation .sessionNotAuthorized .send "recipient is not a session participant")
  else if !input.authority.isMember input.envelope.metadata.sessionId input.context.principal then
    .error (commsViolation .sessionNotAuthorized .send "sender not session member")
  else .ok ()

def validateActiveBinding : Except CommsViolation Unit :=
  match input.authority.activeBinding with
  | none => .ok ()
  | some binding =>
      if binding.epochId ≠ input.envelope.metadata.epochId then
        .error (commsViolation .staleBinding .send "envelope epochId stale")
      else if binding.epochOrdinal ≠ input.envelope.metadata.epochOrdinal then
        .error (commsViolation .staleBinding .send "envelope epochOrdinal stale")
      else .ok ()

def validateSessionBinding (store : CommsStore) : Except CommsViolation Unit :=
  match store.getSessionBinding input.envelope.metadata.sessionId with
  | none => .ok ()
  | some sessionBinding =>
      if sessionBinding.channelId ≠ input.envelope.channelId then
        .error (commsViolation .sessionNotAuthorized .send "channelId mismatch")
      else if sessionBinding.channelGeneration ≠ input.envelope.channelGeneration then
        .error (commsViolation .staleBinding .send "channel generation stale")
      else .ok ()

def validateOutboundBinding (store : CommsStore) : Except CommsViolation Unit := do
  validateActiveBinding input
  validateSessionBinding input store

def validateOutboundEnvelopeTtl (now : Timestamp) : Except CommsViolation Unit :=
  match host.dateParse input.envelope.issuedAt, host.dateParse input.envelope.expiresAt with
  | some issued, some expires =>
      if expires ≤ issued then .error (commsViolation .wireExpired .send "invalid envelope TTL window")
      else
        match host.dateParse now with
        | some now => if expires ≤ now then .error (commsViolation .wireExpired .send "envelope expired") else .ok ()
        | none => .ok ()
  | _, _ => .error (commsViolation .wireExpired .send "invalid envelope TTL window")

def verifyEnvelopeIntegrityDigest : Except CommsViolation Unit :=
  if input.envelope.integrityDigest ≠ host.computeEnvelopeIntegrityDigest input.envelope.toEnvelopeFrame then
    .error (commsViolation .codecInvalid .ingress "integrityDigest mismatch")
  else .ok ()

/-- The checks before the clock is read, and those after it. -/
def validateBeforeTtl (store : CommsStore) : Except CommsViolation Unit := do
  assertAuthenticatedCommsContext input.context
  validateOutboundSender input
  validateOutboundSessionMembership input
  validateOutboundBinding input store

def validateFromTtl (now : Timestamp) : Except CommsViolation Unit := do
  validateOutboundEnvelopeTtl host input now
  verifyEnvelopeIntegrityDigest host input
  if input.envelope.sequence < 1 then
    .error (commsViolation .invalidInput .send "sequence must be positive")

def validateOutboundEnvelope : CommsM (Except CommsViolation Unit) := do
  match validateBeforeTtl input (← store) with
  | .error violation => return .error violation
  | .ok () => return validateFromTtl host input (← now host)

end EnvelopePolicy

/-! ## Sending -/

structure SendReceipt where
  deliveryId : DeliveryAttemptId
  sagaPhase : Option MessagingSagaPhase
  runtimeReceiptRef : Option String
  deriving DecidableEq

inductive ServiceWait where
  | saga (wait : SendWait)
  /-- For the transport, where there is no saga. -/
  | transport (delivery : DeliveryRecord) (event : CommsEventEnvelope) (verifiedAt : Timestamp)
  deriving DecidableEq

abbrev ServiceResult := Except CommsViolation SendReceipt

namespace MessagingService

variable (host : CommsHost) (input : SendInput)

def sagaReturned : SendResult → ServiceResult
  | .error violation => .error violation
  | .ok record => .ok
      { deliveryId := "del-" ++ input.envelope.messageId, sagaPhase := some record.phase
        runtimeReceiptRef := record.runtimeReceiptRef }

def afterSaga : SendWait ⊕ Settled SendResult → ServiceWait ⊕ Settled ServiceResult
  | .inl wait => .inl (.saga wait)
  | .inr (.rejected reason) => .inr (.rejected reason)
  | .inr (.resolved result) => .inr (.resolved (sagaReturned input result))

def inSaga (saga : CommsM (SendWait ⊕ Settled SendResult)) : CommsM (ServiceWait ⊕ Settled ServiceResult) := do
  return afterSaga input (← saga)

/-- A send without a saga. -/
def sendDirect : CommsM (ServiceWait ⊕ Settled ServiceResult) := do
  if CommsLimits.maxInboxBacklog ≤ (← store).outbox.length then
    let storeSequence ← nextSequence
    emit
      { eventId := "evt-bp-" ++ input.envelope.messageId, storeSequence, kind := .backpressureApplied
        occurredAt := ← now host, correlationId := none, occurrenceId := none
        payload := [("messageId", input.envelope.messageId)] }
    finish (.error (commsViolation .backpressure .send "outbox backlog exceeded" true))
  else
    let delivery := queuedDelivery input.envelope (← now host)
    let storeSequence ← nextSequence
    let event := messageEvent "evt-enq-" .messageEnqueued input.envelope storeSequence (← now host)
    match ← onStore fun store => store.appendOutbox
        { envelope := input.envelope, idempotencyKey := input.idempotencyKey, delivery, event } with
    | .conflict => finish (.error (commsViolation .invalidInput .send "idempotency conflict"))
    | .idempotentReplay =>
        finish (.ok { deliveryId := delivery.deliveryId, sagaPhase := none, runtimeReceiptRef := none })
    | .committed =>
        let verifiedAt ← now host
        await (.dispatch (sealVerifiedEnvelope input.envelope verifiedAt)) (.transport delivery event verifiedAt)

def transportAnswered (delivery : DeliveryRecord) (event : CommsEventEnvelope) :
    PortResult → CommsM (ServiceWait ⊕ Settled ServiceResult)
  | .error violation => finish (.error violation)
  | .ok _ => do
      emit event
      finish (.ok { deliveryId := delivery.deliveryId, sagaPhase := none, runtimeReceiptRef := none })

/-- The send after the policy. `saga` says whether the service is configured with one. -/
def admitted (saga : Bool) : Except CommsViolation Unit → CommsM (ServiceWait ⊕ Settled ServiceResult)
  | .error violation => finish (.error violation)
  | .ok () => if saga then inSaga input (MessagingSaga.executeSend host input.toExecuteSendInput) else sendDirect host input

def send (saga : Bool) : CommsM (ServiceWait ⊕ Settled ServiceResult) := do
  if ← isFrozen then
    finish (.error (commsViolation .commsFrozen .send "comms E-Stop active"))
  else
    match assertAuthenticatedCommsContext input.context with
    | .error violation => finish (.error violation)
    | .ok () => admitted host input saga (← EnvelopePolicy.validateOutboundEnvelope host input)

def resume (response : Settled PortResult) : ServiceWait → CommsM (ServiceWait ⊕ Settled ServiceResult)
  | .saga wait => inSaga input (MessagingSaga.resume host input.toExecuteSendInput wait response)
  | .transport delivery event verifiedAt =>
      answered (.dispatch (sealVerifiedEnvelope input.envelope verifiedAt)) response
        (transportAnswered delivery event)

end MessagingService

/-! ## The services of a runtime -/

inductive CommsCall where
  | executeSend (input : ExecuteSendInput)
  | send (input : SendInput)
  | dispatchPending
  | reconcile
  | setFrozen (frozen : Bool)

namespace CommsCall

def Wait : CommsCall → Type
  | .executeSend _ => SendWait
  | .send _ => ServiceWait
  | .dispatchPending => DrainWait
  | .reconcile => ReconcileWait
  | .setFrozen _ => Empty

def Resp : (call : CommsCall) → call.Wait → Type
  | .executeSend _, _ => Settled PortResult
  | .send _, _ => Settled PortResult
  | .dispatchPending, wait => DrainWait.Resp wait
  | .reconcile, wait => ReconcileWait.Resp wait
  | .setFrozen _, wait => wait.elim

def Out : CommsCall → Type
  | .executeSend _ => Settled SendResult
  | .send _ => Settled ServiceResult
  | .dispatchPending => Settled DrainResult
  | .reconcile => Settled ReconcileResult
  | .setFrozen _ => Unit

end CommsCall

/-- The services as they are created: the messaging service sends over the saga. -/
def commsServices (host : CommsHost) : Sections CommsWorld CommsCall where
  Wait := CommsCall.Wait
  Resp := CommsCall.Resp
  Out := CommsCall.Out
  start
    | .executeSend input => MessagingSaga.executeSend host input
    | .send input => MessagingService.send host input true
    | .dispatchPending => OutboxDispatcher.dispatchPending host
    | .reconcile => DeliveryRecovery.reconcile host
    | .setFrozen frozen => fun w => (.inr (), { w with frozen })
  resume
    | .executeSend input, wait, response => MessagingSaga.resume host input wait response
    | .send input, wait, response => MessagingService.resume host input response wait
    | .dispatchPending, wait, response => OutboxDispatcher.resume host wait response
    | .reconcile, wait, response => DeliveryRecovery.resume host wait response
    | .setFrozen _, wait, _ => wait.elim

end Cantilune

/-!
## The replay of dead letters

An operator opens a dead delivery again. The call asks for an authorization that says who and why, and for a dead
letter of the delivery that the store has for the message.
-/

namespace Cantilune

structure DlqReplayAuthorization where
  authorizationReceipt : String
  operatorPrincipal : String
  reason : String
  deriving DecidableEq

structure DlqReplayInput where
  messageId : MessageId
  deadLetter : DeadLetterRecord
  auth : DlqReplayAuthorization
  deriving DecidableEq

structure DlqReplayResult where
  messageId : MessageId
  deliveryId : DeliveryAttemptId
  redispatched : Bool
  deriving DecidableEq

namespace DeadLetterReplay

def assertAuthorized (auth : DlqReplayAuthorization) : Except CommsViolation Unit :=
  if JsString.trim auth.authorizationReceipt = "" then
    .error (commsViolation .authorizationDenied .session "DLQ replay requires a non-empty authorizationReceipt")
  else if JsString.trim auth.operatorPrincipal = "" then
    .error (commsViolation .authorizationDenied .session "DLQ replay requires operatorPrincipal")
  else if JsString.trim auth.reason = "" then
    .error (commsViolation .authorizationDenied .session "DLQ replay requires a reason")
  else .ok ()

def reopenable (store : CommsStore) (input : DlqReplayInput) : Except CommsViolation DeliveryRecord := do
  assertAuthorized input.auth
  match store.getDelivery input.messageId with
  | none => .error (commsViolation .invalidInput .session s!"delivery not found for message {input.messageId}")
  | some delivery =>
      if delivery.state ≠ .deadLettered then
        .error (commsViolation .invalidInput .session s!"delivery state is {delivery.state.name}, expected deadLettered")
      else if delivery.deliveryId ≠ input.deadLetter.deliveryId then
        .error (commsViolation .invalidInput .session "deadLetter.deliveryId does not match store delivery")
      else .ok delivery

/-- The delivery as it is opened again: it keeps its attempts. -/
def reopened (delivery : DeliveryRecord) (auth : DlqReplayAuthorization) : DeliveryRecord :=
  { delivery with state := .queued, lastSafeError := some s!"dlq-replay:{auth.operatorPrincipal}:{auth.reason}" }

def replayDeadLetter (input : DlqReplayInput) (store : CommsStore) :
    Except CommsViolation DlqReplayResult × CommsStore :=
  match reopenable store input with
  | .error violation => (.error violation, store)
  | .ok delivery =>
      match store.updateDelivery input.messageId (reopened delivery input.auth) with
      | (false, store) =>
          (.error (commsViolation .staleBinding .session "failed to update delivery for DLQ replay" true), store)
      | (true, store) =>
          (.ok { messageId := input.messageId, deliveryId := input.deadLetter.deliveryId, redispatched := true }, store)

end DeadLetterReplay

def deadLetterReplay : Sections CommsWorld DlqReplayInput where
  Wait := fun _ => Empty
  Resp := fun _ wait => wait.elim
  Out := fun _ => Except CommsViolation DlqReplayResult
  start := fun input w =>
    (.inr (DeadLetterReplay.replayDeadLetter input w.store).1,
      { w with store := (DeadLetterReplay.replayDeadLetter input w.store).2 })
  resume := fun _ wait => wait.elim

def operatedServices (host : CommsHost) : Sections CommsWorld (CommsCall ⊕ DlqReplayInput) :=
  (commsServices host).sum deadLetterReplay

end Cantilune
