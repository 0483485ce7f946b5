import Cantilune.Comms.OperationRegistry
import Cantilune.Base.Framing

/-!
# Envelopes and deliveries

What the comms of a runtime send and record: an envelope, its delivery, the events about it, and the violation
that a refused call returns.
-/

namespace Cantilune

abbrev MessageId := String
abbrev DeliveryAttemptId := String
abbrev ChannelId := String
abbrev IntegrityDigest := String

/-! ## Violations -/

inductive CommsViolationCode where
  | codecInvalid | wireUnsupported | wireExpired | wireOversized | digestMismatch | signatureInvalid
  | identityUnverified | authorizationDenied | replayDetected | endpointPolicyViolation | protocolIncompatible
  | sessionNotFound | sessionNotAuthorized | staleChannelGeneration | staleBinding | admissionReceiptInvalid
  | reconnectPlanInvalid | reconnectConflict | recoveryRequired | quiescenceBlocked | deliveryExpired
  | deliveryRejected | backpressure | rateLimited | commsFrozen | transportFailed | runtimeCommitFailed
  | invalidInput
  deriving DecidableEq, Repr

def CommsViolationCode.name : CommsViolationCode → String
  | .codecInvalid => "codec_invalid"
  | .wireUnsupported => "wire_unsupported"
  | .wireExpired => "wire_expired"
  | .wireOversized => "wire_oversized"
  | .digestMismatch => "digest_mismatch"
  | .signatureInvalid => "signature_invalid"
  | .identityUnverified => "identity_unverified"
  | .authorizationDenied => "authorization_denied"
  | .replayDetected => "replay_detected"
  | .endpointPolicyViolation => "endpoint_policy_violation"
  | .protocolIncompatible => "protocol_incompatible"
  | .sessionNotFound => "session_not_found"
  | .sessionNotAuthorized => "session_not_authorized"
  | .staleChannelGeneration => "stale_channel_generation"
  | .staleBinding => "stale_binding"
  | .admissionReceiptInvalid => "admission_receipt_invalid"
  | .reconnectPlanInvalid => "reconnect_plan_invalid"
  | .reconnectConflict => "reconnect_conflict"
  | .recoveryRequired => "recovery_required"
  | .quiescenceBlocked => "quiescence_blocked"
  | .deliveryExpired => "delivery_expired"
  | .deliveryRejected => "delivery_rejected"
  | .backpressure => "backpressure"
  | .rateLimited => "rate_limited"
  | .commsFrozen => "comms_frozen"
  | .transportFailed => "transport_failed"
  | .runtimeCommitFailed => "runtime_commit_failed"
  | .invalidInput => "invalid_input"

inductive CommsPhase where
  | ingress | authenticate | authorize | negotiate | session | send | receive | ack | delegate | reconnect | close
  | recover | query
  deriving DecidableEq, Repr

structure CommsViolation where
  code : CommsViolationCode
  phase : CommsPhase
  message : String
  path : Option String
  retryable : Bool
  deriving DecidableEq, Repr

def commsViolation (code : CommsViolationCode) (phase : CommsPhase) (message : String) (retryable : Bool := false)
    (path : Option String := none) : CommsViolation :=
  { code, phase, message, path, retryable }

/-! ## Envelopes

The numbers of an envelope are the finite numbers of the host. -/

inductive AckMode where
  | transportReceived | durablyAccepted | runtimeObserved | businessCommitted
  deriving DecidableEq, Repr

inductive PayloadClassification where
  | «public» | internal | restricted | credential
  deriving DecidableEq, Repr

structure PayloadDescriptor where
  contentRef : ContentRef
  contentDigest : String
  mediaType : String
  byteLength : ℚ
  classification : PayloadClassification
  encryptionMetadataRef : Option String
  deriving DecidableEq

structure StableCommunicationMetadata where
  epochId : EpochId
  epochOrdinal : ℚ
  bindingGeneration : Option ℚ
  bindingRef : Option SchemaEpochBinding
  operationTemplateRef : OperationTemplateRef
  sessionId : SessionId
  correlationId : String
  occurrenceId : String
  causationId : Option String
  idempotencyKey : Option String
  deriving DecidableEq

/-- What the integrity digest of an envelope is taken of. -/
structure EnvelopeFrame where
  wireVersion : ℚ
  registryVersion : ℚ
  messageId : MessageId
  operationCode : CommunicationOperationCode
  metadata : StableCommunicationMetadata
  sender : ActorRef
  recipient : ActorRef
  channelId : ChannelId
  channelGeneration : ℚ
  sequence : ℚ
  replyToMessageId : Option MessageId
  payload : PayloadDescriptor
  ackMode : AckMode
  issuedAt : Timestamp
  expiresAt : Timestamp
  deriving DecidableEq

structure CommunicationEnvelope extends EnvelopeFrame where
  integrityDigest : IntegrityDigest
  deriving DecidableEq

/-- An envelope with the seal that the package puts on it. -/
structure VerifiedEnvelope where
  envelope : CommunicationEnvelope
  verifiedAt : Timestamp
  sealed : Bool
  deriving DecidableEq

def sealVerifiedEnvelope (envelope : CommunicationEnvelope) (verifiedAt : Timestamp) : VerifiedEnvelope :=
  { envelope, verifiedAt, sealed := true }

def assertVerifiedEnvelope (envelope : VerifiedEnvelope) : Except CommsViolation Unit :=
  if envelope.sealed then .ok ()
  else .error (commsViolation .identityUnverified .ingress "unsealed verified envelope")

/-- The peer that a call of the services acts for. -/
structure AuthenticatedCommsContext where
  principal : ActorRef
  sealed : Bool
  deriving DecidableEq

def assertAuthenticatedCommsContext (context : AuthenticatedCommsContext) : Except CommsViolation Unit :=
  if context.sealed then .ok ()
  else .error (commsViolation .identityUnverified .authenticate "unsealed auth context")

/-! ## Deliveries -/

inductive TransportDeliveryState where
  | created | queued | dispatched | retryWait | received | durablyAccepted | acknowledged | rejected | expired
  | deadLettered | cancelled
  deriving DecidableEq, Repr

def TransportDeliveryState.name : TransportDeliveryState → String
  | .created => "created"
  | .queued => "queued"
  | .dispatched => "dispatched"
  | .retryWait => "retryWait"
  | .received => "received"
  | .durablyAccepted => "durablyAccepted"
  | .acknowledged => "acknowledged"
  | .rejected => "rejected"
  | .expired => "expired"
  | .deadLettered => "deadLettered"
  | .cancelled => "cancelled"

structure DeliveryRecord where
  deliveryId : DeliveryAttemptId
  envelopeRef : MessageId
  envelopeDigest : IntegrityDigest
  state : TransportDeliveryState
  attempt : Nat
  nextAttemptAt : Option Timestamp
  lastSafeError : Option String
  createdAt : Timestamp
  dispatchedAt : Option Timestamp
  ackAt : Option Timestamp
  terminalAt : Option Timestamp
  deriving DecidableEq

structure DeadLetterRecord where
  deliveryId : DeliveryAttemptId
  envelopeRef : MessageId
  reason : String
  quarantinedAt : Timestamp
  deriving DecidableEq

inductive CommsEventKind where
  | peerAuthenticated | peerRejected | sessionRequested | sessionEstablished | sessionRejected | messageEnqueued
  | messageDispatched | messageReceived | messageAcknowledged | messageRejected | messageExpired
  | messageDeadLettered | backpressureApplied | endpointDelegated | reconnectPrepared | reconnectCommitted
  | reconnectRecovered | quiescenceStarted | quiescenceBlocked | sessionClosed | protocolMismatch | securityRejected
  deriving DecidableEq, Repr

structure CommsEventEnvelope where
  eventId : String
  storeSequence : Nat
  kind : CommsEventKind
  occurredAt : Timestamp
  correlationId : Option String
  occurrenceId : Option String
  payload : List (String × String)
  deriving DecidableEq

namespace CommsLimits

def maxFrameBytes : Nat := 1048576

def maxRetryAttempts : Nat := 16

def maxInboxBacklog : Nat := 50000

end CommsLimits

def queuedDelivery (envelope : CommunicationEnvelope) (createdAt : Timestamp) : DeliveryRecord :=
  { deliveryId := "del-" ++ envelope.messageId, envelopeRef := envelope.messageId
    envelopeDigest := envelope.integrityDigest, state := .queued, attempt := 0, nextAttemptAt := none
    lastSafeError := none, createdAt, dispatchedAt := none, ackAt := none, terminalAt := none }

def messageEvent (idTag : String) (kind : CommsEventKind) (envelope : CommunicationEnvelope) (storeSequence : Nat)
    (occurredAt : Timestamp) : CommsEventEnvelope :=
  { eventId := idTag ++ envelope.messageId, storeSequence, kind, occurredAt
    correlationId := some envelope.metadata.correlationId, occurrenceId := some envelope.metadata.occurrenceId
    payload := [("messageId", envelope.messageId)] }

end Cantilune

/-!
## Net frames

A frame on the wire is a byte for its type, the length of the payload in four bytes, and the payload. The parser is
fed what comes in and keeps what is not a whole frame yet.
-/

namespace Cantilune.Comms

open Framing

inductive NetFrameType where
  | envelope | handshake
  deriving DecidableEq, Repr

def NetFrameType.byte : NetFrameType → UInt8
  | .envelope => 0x01
  | .handshake => 0x02

def netFrameHeaderBytes : Nat := 5

structure NetFrame where
  type : NetFrameType
  payload : List UInt8
  deriving DecidableEq, Repr

structure NetFrameParseState where
  buffer : List UInt8
  deriving DecidableEq, Repr

/-- The type that a byte stands for, if any. -/
def netFrameType? (value : UInt8) : Option NetFrameType :=
  if value = NetFrameType.envelope.byte then some .envelope
  else if value = NetFrameType.handshake.byte then some .handshake
  else none

def readU32Be (bytes : List UInt8) (offset : Nat) : Nat :=
  let b0 := (bytes.getD offset 0).toNat
  let b1 := (bytes.getD (offset + 1) 0).toNat
  let b2 := (bytes.getD (offset + 2) 0).toNat
  let b3 := (bytes.getD (offset + 3) 0).toNat
  (b0 <<< 24 ||| b1 <<< 16 ||| b2 <<< 8 ||| b3) % 2 ^ 32

/-- A byte of a length; the shift is one of 32 bits. -/
def lengthByte (length shift : Nat) : UInt8 := UInt8.ofNat ((length % 2 ^ 32) >>> shift &&& 0xff)

def encodeNetFrame (frame : NetFrame) : List UInt8 :=
  let length := frame.payload.length
  frame.type.byte :: lengthByte length 24 :: lengthByte length 16 :: lengthByte length 8 :: lengthByte length 0 ::
    frame.payload

/-- One turn of the parser's loop. -/
def takeNetFrame (maxFrameBytes : Nat) (buffer : List UInt8) : Next NetFrame CommsViolation UInt8 :=
  if buffer.length < netFrameHeaderBytes then .more
  else
    match netFrameType? (buffer.getD 0 0) with
    | none => .bad (commsViolation .codecInvalid .ingress "unknown net frame type")
    | some type =>
        let length := readU32Be buffer 1
        if length > maxFrameBytes then .bad (commsViolation .wireOversized .ingress "net frame exceeds maxFrameBytes")
        else
          let total := netFrameHeaderBytes + length
          if buffer.length < total then .more
          else .frame { type, payload := (buffer.take total).drop netFrameHeaderBytes } (buffer.drop total)

/-- Each frame that is taken is at least a header long, so that the length of the buffer bounds the turns. -/
def pushNetBytes (state : NetFrameParseState) (chunk : List UInt8) (maxFrameBytes : Nat) :
    Except CommsViolation (List NetFrame) × NetFrameParseState :=
  let (result, buffer) := push (takeNetFrame maxFrameBytes) state.buffer chunk
  (result, { buffer })

/-- The chunks one by one, up to the first that is refused. -/
def pushChunks (maxFrameBytes : Nat) : NetFrameParseState → List (List UInt8) →
    Except CommsViolation (List NetFrame) × NetFrameParseState
  | state, [] => (.ok [], state)
  | state, chunk :: chunks =>
      match pushNetBytes state chunk maxFrameBytes with
      | (.error violation, state) => (.error violation, state)
      | (.ok frames, state) =>
          let (more, state) := pushChunks maxFrameBytes state chunks
          (more.map (frames ++ ·), state)

end Cantilune.Comms
