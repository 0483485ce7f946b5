import Cantilune.Base.Tasks
import Cantilune.Comms.EnvelopeWire
import Cantilune.Comms.Saga

/-!
# Frames that come in

A frame is decoded, its peer identified, and the envelope checked for expiry, replay, authorization and sender
before it enters the inbox; the consumer of the runtime takes the envelopes that are new there, and the frame is
acknowledged. The verification of the peer and the consumer are awaited.
-/

namespace Cantilune

/-! ## The world of the ingress -/

/-- What is exchanged with the consumer, and the acknowledgements. -/
inductive InboundEvent where
  | offered (envelope : CommunicationEnvelope)
  | consumed (envelope : CommunicationEnvelope) (response : Settled (Except CommsViolation Unit))
  | acknowledged (envelope : CommunicationEnvelope)
  deriving DecidableEq

/-- The services, with the digests that the replay protector has seen and what was exchanged with the consumer, the
oldest first. -/
structure IngressWorld where
  comms : CommsWorld
  seen : List IntegrityDigest
  inbound : List InboundEvent

/-- What an identity verifier returns. -/
structure AuthenticatedPeerContext where
  runtimeInstanceId : String
  principal : ActorRef
  deriving DecidableEq

structure AuthorizeInput where
  action : String
  peer : AuthenticatedPeerContext
  roles : List String
  resource : String
  deriving DecidableEq

/-- What the ingress is built with, besides the clock: the hash, the time in the id of a refusal, the decisions of
the authorizer, and whether there is a consumer. Times and decisions may depend on the number of readings of the
clock so far. -/
structure IngressHost extends CommsHost where
  sha256 : Json → IntegrityDigest
  dateNow : Nat → String
  authorize : Nat → AuthorizeInput → Except CommsViolation Unit
  runtimeConsumer : Bool

/-- The transport binding of a frame, as far as the transport gives it. -/
structure TransportContext where
  peerDescriptor : Option String
  credentialRef : Option String
  channelBindingMaterial : Option String
  tlsVerified : Option Bool
  deriving DecidableEq

abbrev IngressM := StateM IngressWorld

namespace IngressM

/-- A step of the services below the ingress. -/
def comms {α : Type} (m : CommsM α) : IngressM α := fun w => ((m w.comms).1, { w with comms := (m w.comms).2 })

def checkReplay (digest : IntegrityDigest) : IngressM (Except CommsViolation Unit) := fun w =>
  (if digest ∈ w.seen then .error (commsViolation .replayDetected .ingress "duplicate frame digest") else .ok (), w)

def recordSeen (digest : IntegrityDigest) : IngressM Unit := fun w => ((), { w with seen := w.seen ++ [digest] })

def note (event : InboundEvent) : IngressM Unit := fun w => ((), { w with inbound := w.inbound ++ [event] })

/-- The decision of the authorizer. -/
def decide (host : IngressHost) (input : AuthorizeInput) : IngressM (Except CommsViolation Unit) := fun w =>
  (host.authorize w.comms.readings input, w)

def finish {W α : Type} (result : α) : IngressM (W ⊕ Settled α) := return .inr (.resolved result)

end IngressM

open IngressM

/-! ## Accepting a frame -/

structure AcceptedFrame where
  frameDigest : IntegrityDigest
  messageId : MessageId
  inboxResult : PersistResult
  deriving DecidableEq

abbrev IngressResult := Except CommsViolation AcceptedFrame

/-- An envelope that has entered the inbox. -/
structure InboxFrame where
  object : EnvelopeObject
  peer : AuthenticatedPeerContext
  digest : IntegrityDigest

inductive IngressWait where
  | verifying (object : EnvelopeObject)
  | consuming (frame : InboxFrame)
  /-- Without a consumer there is nothing to wait for; the frame goes on in a later turn. -/
  | unconsumed (frame : InboxFrame)

def IngressWait.Resp : IngressWait → Type
  | .verifying _ => Settled (Except CommsViolation AuthenticatedPeerContext)
  | .consuming _ => Settled (Except CommsViolation Unit)
  | .unconsumed _ => Unit

namespace CommsIngress

variable (host : IngressHost)

def validateInboundContext (bytes : Option WireFrame) (context : TransportContext) : Except CommsViolation WireFrame :=
  match bytes with
  | none => .error (commsViolation .codecInvalid .ingress "expected Uint8Array frame")
  | some rawBytes =>
      if context.peerDescriptor = none ∨ context.credentialRef = none ∨ context.channelBindingMaterial = none then
        .error (commsViolation .identityUnverified .ingress "transport binding context required")
      else if context.tlsVerified = some false then
        .error (commsViolation .identityUnverified .ingress "TLS not verified")
      else .ok rawBytes

def emitSecurityRejected (reason : CommsViolationCode) : IngressM Unit := comms do
  let eventId := "evt-sec-" ++ host.dateNow (← fun w => (w.readings, w))
  let storeSequence ← CommsM.nextSequence
  CommsM.emit
    { eventId, storeSequence, kind := .securityRejected, occurredAt := ← CommsM.now host.toCommsHost
      correlationId := none, occurrenceId := none, payload := [("reason", reason.name)] }

def refuse (violation : CommsViolation) : IngressM (IngressWait ⊕ Settled IngressResult) := do
  emitSecurityRejected host violation.code
  finish (.error violation)

def envelopeExpired (envelope : CommunicationEnvelope) (now : Timestamp) : Bool :=
  match host.dateParse now, host.dateParse envelope.expiresAt with
  | some now, some expires => decide (expires ≤ now)
  | _, _ => false

def acknowledge (frame : InboxFrame) (inboxResult : PersistResult) : IngressM (IngressWait ⊕ Settled IngressResult) := do
  let envelope := frame.object.envelope
  let storeSequence ← comms CommsM.nextSequence
  comms (CommsM.emit
    { eventId := "evt-ack-" ++ envelope.messageId, storeSequence, kind := .messageAcknowledged
      occurredAt := ← comms (CommsM.now host.toCommsHost), correlationId := some envelope.metadata.correlationId
      occurrenceId := some envelope.metadata.occurrenceId
      payload := [("messageId", envelope.messageId), ("digest", frame.digest),
        ("principal", frame.peer.principal.actorId)] })
  note (.acknowledged envelope)
  let _ ← comms (CommsM.now host.toCommsHost)
  if CommsLimits.maxInboxBacklog < (← comms CommsM.store).inbox.length then
    finish (.error (commsViolation .backpressure .ingress "inbox backlog exceeded" true))
  else finish (.ok { frameDigest := frame.digest, messageId := envelope.messageId, inboxResult })

def inboxAnswered (frame : InboxFrame) : PersistResult → IngressM (IngressWait ⊕ Settled IngressResult)
  | .conflict => finish (.error (commsViolation .invalidInput .ingress "inbox idempotency conflict"))
  | .idempotentReplay => acknowledge host frame .idempotentReplay
  | .committed =>
      if host.runtimeConsumer then do
        note (.offered frame.object.envelope)
        return .inl (.consuming frame)
      else return .inl (.unconsumed frame)

/-- The frame once it has passed its checks. -/
def received (frame : InboxFrame) : IngressM (IngressWait ⊕ Settled IngressResult) := do
  let envelope := frame.object.envelope
  recordSeen frame.digest
  let delivery : DeliveryRecord :=
    { deliveryId := "in-" ++ envelope.messageId, envelopeRef := envelope.messageId
      envelopeDigest := envelope.integrityDigest, state := .received, attempt := 0, nextAttemptAt := none
      lastSafeError := none, createdAt := ← comms (CommsM.now host.toCommsHost), dispatchedAt := none, ackAt := none
      terminalAt := none }
  let storeSequence ← comms CommsM.nextSequence
  let event := messageEvent "evt-in-" .messageReceived envelope storeSequence
    (← comms (CommsM.now host.toCommsHost))
  inboxAnswered host frame (← comms (CommsM.onStore fun store => store.appendInbox
    { envelope, delivery, event
      idempotencyKey := envelope.metadata.idempotencyKey.getD envelope.metadata.correlationId }))

/-- The frame after the replay protector has let it through. -/
def unreplayed (frame : InboxFrame) : IngressM (IngressWait ⊕ Settled IngressResult) := do
  match ← IngressM.decide host
      { action := "ingress.receive", peer := frame.peer, roles := ["session-member"]
        resource := frame.object.envelope.metadata.sessionId } with
  | .error violation => refuse host violation
  | .ok () =>
      if frame.object.envelope.sender.actorId ≠ frame.peer.principal.actorId then
        refuse host
          (commsViolation .identityUnverified .ingress "wire sender does not match authenticated principal")
      else received host frame

/-- The frame after the clock was read for its expiry. -/
def timed (frame : InboxFrame) (now : Timestamp) : IngressM (IngressWait ⊕ Settled IngressResult) := do
  if envelopeExpired host frame.object.envelope now then
    refuse host (commsViolation .wireExpired .ingress "envelope expired")
  else
    match ← checkReplay frame.digest with
    | .error violation => refuse host violation
    | .ok () => unreplayed host frame

/-- The frame after the verification of its peer. -/
def identified (object : EnvelopeObject) :
    Except CommsViolation AuthenticatedPeerContext → IngressM (IngressWait ⊕ Settled IngressResult)
  | .error violation => refuse host violation
  | .ok peer => do
      timed host
        { object, peer, digest := StrictWireCodec.computeEnvelopeIntegrityDigest host.sha256 object }
        (← comms (CommsM.now host.toCommsHost))

def consumed (frame : InboxFrame) : Except CommsViolation Unit → IngressM (IngressWait ⊕ Settled IngressResult)
  | .error violation => finish (.error violation)
  | .ok () => acknowledge host frame .committed

def decoded : Except CommsViolation EnvelopeObject → IngressM (IngressWait ⊕ Settled IngressResult)
  | .error violation => refuse host violation
  | .ok object => return .inl (.verifying object)

def acceptInboundFrame (bytes : Option WireFrame) (context : TransportContext) :
    IngressM (IngressWait ⊕ Settled IngressResult) := do
  if ← comms CommsM.isFrozen then
    finish (.error (commsViolation .commsFrozen .ingress "comms E-Stop active"))
  else
    match validateInboundContext bytes context with
    | .error violation => finish (.error violation)
    | .ok rawBytes => decoded host (StrictWireCodec.parseCommunicationWireFrame host.sha256 rawBytes)

/-- A promise is there; a rejected one is not caught. -/
def settled {α : Type} (response : Settled α) (k : α → IngressM (IngressWait ⊕ Settled IngressResult)) :
    IngressM (IngressWait ⊕ Settled IngressResult) :=
  match response with
  | .rejected reason => return .inr (.rejected reason)
  | .resolved result => k result

def resume : (wait : IngressWait) → wait.Resp → IngressM (IngressWait ⊕ Settled IngressResult)
  | .verifying object, response => settled response (identified host object)
  | .consuming frame, response => do
      note (.consumed frame.object.envelope response)
      settled response (consumed host frame)
  | .unconsumed frame, _ => consumed host frame (.ok ())

end CommsIngress

inductive IngressCall where
  | acceptInboundFrame (bytes : Option WireFrame) (context : TransportContext)
  | setFrozen (frozen : Bool)

def IngressCall.Wait : IngressCall → Type
  | .acceptInboundFrame .. => IngressWait
  | .setFrozen _ => Empty

def IngressCall.Resp : (call : IngressCall) → call.Wait → Type
  | .acceptInboundFrame .., wait => IngressWait.Resp wait
  | .setFrozen _, wait => wait.elim

def IngressCall.Out : IngressCall → Type
  | .acceptInboundFrame .. => Settled IngressResult
  | .setFrozen _ => Unit

def ingressServices (host : IngressHost) : Sections IngressWorld IngressCall where
  Wait := IngressCall.Wait
  Resp := IngressCall.Resp
  Out := IngressCall.Out
  start
    | .acceptInboundFrame bytes context => CommsIngress.acceptInboundFrame host bytes context
    | .setFrozen frozen => fun w => (.inr (), { w with comms := { w.comms with frozen } })
  resume
    | .acceptInboundFrame .., wait, response => CommsIngress.resume host wait response
    | .setFrozen _, wait, _ => wait.elim

end Cantilune
