import Cantilune.Codec.StorageWire
import Cantilune.Comms.Delivery

/-!
# Frames on the wire

The encoder, the strict parser and the integrity digest of an envelope. A frame is kept as the JSON value that its
bytes spell, if they spell one, with the number of the bytes. An envelope in memory lists the members of its nested
objects in the order in which they were inserted; the digest and the encoder follow that order, the parser has one
of its own.
-/

namespace Cantilune

/-! ## Objects in memory -/

def PayloadClassification.name : PayloadClassification → String
  | .public => "public"
  | .internal => "internal"
  | .restricted => "restricted"
  | .credential => "credential"

def AckMode.name : AckMode → String
  | .transportReceived => "transportReceived"
  | .durablyAccepted => "durablyAccepted"
  | .runtimeObserved => "runtimeObserved"
  | .businessCommitted => "businessCommitted"

def PayloadDescriptor.toJson (payload : PayloadDescriptor) : Json :=
  .record
    [("contentRef", some (.str payload.contentRef)), ("contentDigest", some (.str payload.contentDigest)),
      ("mediaType", some (.str payload.mediaType)), ("byteLength", some (.num payload.byteLength)),
      ("classification", some (.str payload.classification.name)),
      ("encryptionMetadataRef", payload.encryptionMetadataRef.map .str)]

def StableCommunicationMetadata.toJson (metadata : StableCommunicationMetadata) : Json :=
  .record
    [("epochId", some (.str metadata.epochId)), ("epochOrdinal", some (.num metadata.epochOrdinal)),
      ("bindingGeneration", metadata.bindingGeneration.map .num),
      ("bindingRef", metadata.bindingRef.map serializeSchemaBindingWire),
      ("operationTemplateRef", some metadata.operationTemplateRef.toJson),
      ("sessionId", some (.str metadata.sessionId)), ("correlationId", some (.str metadata.correlationId)),
      ("occurrenceId", some (.str metadata.occurrenceId)), ("causationId", metadata.causationId.map .str),
      ("idempotencyKey", metadata.idempotencyKey.map .str)]

/-- An envelope in memory, with the members of its nested objects in the order of their insertion. -/
structure EnvelopeObject where
  envelope : CommunicationEnvelope
  metadata : Json
  sender : Json
  recipient : Json
  payload : Json
  metadata_canon : metadata.canon = envelope.metadata.toJson.canon
  sender_canon : sender.canon = envelope.sender.toJson.canon
  recipient_canon : recipient.canon = envelope.recipient.toJson.canon
  payload_canon : payload.canon = envelope.payload.toJson.canon

/-- The object whose members come in the order in which the parser writes them. -/
def EnvelopeObject.literal (envelope : CommunicationEnvelope) : EnvelopeObject :=
  { envelope, metadata := envelope.metadata.toJson, sender := envelope.sender.toJson
    recipient := envelope.recipient.toJson, payload := envelope.payload.toJson
    metadata_canon := rfl, sender_canon := rfl, recipient_canon := rfl, payload_canon := rfl }

/-- The bytes of a frame: how many they are, and the value they spell if they are UTF-8 JSON. -/
structure WireFrame where
  byteLength : Nat
  content : Option Json

namespace StrictWireCodec

/-! ## Encoding

`sha256` is the digest of the text of a value, in hexadecimal, and `utf8Length` the length of that text. -/

variable (sha256 : Json → IntegrityDigest) (utf8Length : Json → Nat)

def digested (object : EnvelopeObject) : Json :=
  .record
    [("wireVersion", some (.num object.envelope.wireVersion)),
      ("registryVersion", some (.num object.envelope.registryVersion)),
      ("messageId", some (.str object.envelope.messageId)),
      ("operationCode", some (.str object.envelope.operationCode.name)), ("metadata", some object.metadata),
      ("sender", some object.sender), ("recipient", some object.recipient),
      ("channelId", some (.str object.envelope.channelId)),
      ("channelGeneration", some (.num object.envelope.channelGeneration)),
      ("sequence", some (.num object.envelope.sequence)), ("payload", some object.payload),
      ("ackMode", some (.str object.envelope.ackMode.name)), ("issuedAt", some (.str object.envelope.issuedAt)),
      ("expiresAt", some (.str object.envelope.expiresAt))]

def computeEnvelopeIntegrityDigest (object : EnvelopeObject) : IntegrityDigest := sha256 (digested object)

def body (object : EnvelopeObject) : Json :=
  .record
    [("wireVersion", some (.num object.envelope.wireVersion)),
      ("registryVersion", some (.num object.envelope.registryVersion)),
      ("messageId", some (.str object.envelope.messageId)),
      ("operationCode", some (.str object.envelope.operationCode.name)), ("metadata", some object.metadata),
      ("sender", some object.sender), ("recipient", some object.recipient),
      ("channelId", some (.str object.envelope.channelId)),
      ("channelGeneration", some (.num object.envelope.channelGeneration)),
      ("sequence", some (.num object.envelope.sequence)),
      ("replyToMessageId", object.envelope.replyToMessageId.map .str), ("payload", some object.payload),
      ("ackMode", some (.str object.envelope.ackMode.name)), ("issuedAt", some (.str object.envelope.issuedAt)),
      ("expiresAt", some (.str object.envelope.expiresAt)),
      ("integrityDigest", some (.str object.envelope.integrityDigest))]

def encodeCommunicationWireFrame (object : EnvelopeObject) : WireFrame :=
  { byteLength := utf8Length (body object), content := some (body object) }

/-! ## Readers -/

def invalid {α : Type} (message : String) (path : Option String := none) : Except CommsViolation α :=
  .error (commsViolation .codecInvalid .ingress message false path)

def rejectUnknownKeys (members : List (String × Json)) (allowed : List String) (path : String) :
    Except CommsViolation Unit :=
  match members.find? fun member => member.1 ∉ allowed with
  | some (key, _) => invalid s!"unknown field {key}" (some s!"{path}.{key}")
  | none => .ok ()

/-- The object that a value is, with no members but the allowed ones. -/
def requireObject (value : Option Json) (allowed : List String) (path message : String) :
    Except CommsViolation Json :=
  match value with
  | some (.obj members) => do
      rejectUnknownKeys members allowed path
      .ok (.obj members)
  | _ => invalid message

def requireString (value : Option Json) (path : String) : Except CommsViolation String :=
  match value with
  | some (.str s) => if s = "" then invalid s!"expected non-empty string at {path}" else .ok s
  | _ => invalid s!"expected non-empty string at {path}"

def requireNumber (value : Option Json) (path : String) : Except CommsViolation ℚ :=
  match value with
  | some (.num q) => .ok q
  | _ => invalid s!"expected number at {path}"

def requireName {α : Type} (values : List α) (name : α → String) (text message : String) :
    Except CommsViolation α :=
  match values.find? fun a => name a = text with
  | some a => .ok a
  | none => invalid message

/-! ## Parsing -/

def allowedFrameKeys : List String :=
  ["wireVersion", "registryVersion", "messageId", "operationCode", "metadata", "sender", "recipient", "channelId",
    "channelGeneration", "sequence", "replyToMessageId", "payload", "ackMode", "issuedAt", "expiresAt",
    "integrityDigest"]

def allowedMetadataKeys : List String :=
  ["epochId", "epochOrdinal", "bindingGeneration", "operationTemplateRef", "sessionId", "correlationId",
    "occurrenceId", "causationId", "idempotencyKey"]

def allowedTemplateKeys : List String := ["operationTypeId", "revision"]

def allowedPayloadKeys : List String :=
  ["contentRef", "contentDigest", "mediaType", "byteLength", "classification"]

def allowedActorKeys : List String := ["actorId", "kind"]

def allowedAckModes : List AckMode := [.transportReceived, .durablyAccepted, .runtimeObserved, .businessCommitted]

def allowedClassifications : List PayloadClassification := [.public, .internal, .restricted]

def parseActorRef (value : Option Json) (path : String) : Except CommsViolation ActorRef := do
  let record ← requireObject value allowedActorKeys path s!"expected actor object at {path}"
  let actorId ← requireString (record.get? "actorId") s!"{path}.actorId"
  let kindName ← requireString (record.get? "kind") s!"{path}.kind"
  let kind ← requireName ActorKind.all ActorKind.name kindName s!"invalid actor kind at {path}.kind"
  .ok { actorId, kind }

def parseTemplateRef (value : Option Json) : Except CommsViolation OperationTemplateRef := do
  let record ← requireObject value allowedTemplateKeys "metadata.operationTemplateRef"
    "metadata.operationTemplateRef must be object"
  let operationTypeId ← requireString (record.get? "operationTypeId") "metadata.operationTemplateRef.operationTypeId"
  let revision ← requireString (record.get? "revision") "metadata.operationTemplateRef.revision"
  .ok { operationTypeId, revision }

def parseMetadata (value : Option Json) : Except CommsViolation StableCommunicationMetadata := do
  let record ← requireObject value allowedMetadataKeys "metadata" "metadata must be object"
  let epochId ← requireString (record.get? "epochId") "metadata.epochId"
  let epochOrdinal ← requireNumber (record.get? "epochOrdinal") "metadata.epochOrdinal"
  let operationTemplateRef ← parseTemplateRef (record.get? "operationTemplateRef")
  let sessionId ← requireString (record.get? "sessionId") "metadata.sessionId"
  let correlationId ← requireString (record.get? "correlationId") "metadata.correlationId"
  let occurrenceId ← requireString (record.get? "occurrenceId") "metadata.occurrenceId"
  .ok
    { epochId, epochOrdinal, bindingGeneration := none, bindingRef := none, operationTemplateRef, sessionId
      correlationId, occurrenceId, causationId := (record.get? "causationId").bind Json.str?
      idempotencyKey := (record.get? "idempotencyKey").bind Json.str? }

def parsePayload (value : Option Json) : Except CommsViolation PayloadDescriptor := do
  let record ← requireObject value allowedPayloadKeys "payload" "payload must be object"
  let contentRef ← requireString (record.get? "contentRef") "payload.contentRef"
  let contentDigest ← requireString (record.get? "contentDigest") "payload.contentDigest"
  let mediaType ← requireString (record.get? "mediaType") "payload.mediaType"
  let byteLength ← requireNumber (record.get? "byteLength") "payload.byteLength"
  let classificationName ← requireString (record.get? "classification") "payload.classification"
  let classification ← requireName allowedClassifications PayloadClassification.name classificationName
    "invalid payload classification"
  .ok { contentRef, contentDigest, mediaType, byteLength, classification, encryptionMetadataRef := none }

structure FrameHeader where
  messageId : MessageId
  operationCode : CommunicationOperationCode

def parseFrameHeader (parsed : Json) : Except CommsViolation FrameHeader :=
  if parsed.get? "wireVersion" ≠ some (.num 1) then
    .error (commsViolation .wireUnsupported .ingress "unsupported wireVersion")
  else if parsed.get? "registryVersion" ≠ some (.num 1) then invalid "unsupported registryVersion"
  else do
    let messageId ← requireString (parsed.get? "messageId") "messageId"
    let operationName ← requireString (parsed.get? "operationCode") "operationCode"
    let operationCode ← requireName CommunicationOperationCode.all CommunicationOperationCode.name operationName
      "unknown operationCode"
    .ok { messageId, operationCode }

structure FrameParticipants where
  metadata : StableCommunicationMetadata
  sender : ActorRef
  recipient : ActorRef
  channelId : ChannelId
  channelGeneration : ℚ
  sequence : ℚ

def parseFrameParticipants (parsed : Json) : Except CommsViolation FrameParticipants := do
  let metadata ← parseMetadata (parsed.get? "metadata")
  let sender ← parseActorRef (parsed.get? "sender") "sender"
  let recipient ← parseActorRef (parsed.get? "recipient") "recipient"
  let channelId ← requireString (parsed.get? "channelId") "channelId"
  let channelGeneration ← requireNumber (parsed.get? "channelGeneration") "channelGeneration"
  let sequence ← requireNumber (parsed.get? "sequence") "sequence"
  if sequence < 1 then invalid "sequence must be >= 1"
  else .ok { metadata, sender, recipient, channelId, channelGeneration, sequence }

structure FrameBody where
  payload : PayloadDescriptor
  ackMode : AckMode
  issuedAt : Timestamp
  expiresAt : Timestamp
  integrityDigest : IntegrityDigest

def parseFrameBody (parsed : Json) : Except CommsViolation FrameBody := do
  let payload ← parsePayload (parsed.get? "payload")
  let ackModeName ← requireString (parsed.get? "ackMode") "ackMode"
  let ackMode ← requireName allowedAckModes AckMode.name ackModeName "invalid ackMode"
  let issuedAt ← requireString (parsed.get? "issuedAt") "issuedAt"
  let expiresAt ← requireString (parsed.get? "expiresAt") "expiresAt"
  let integrityDigest ← requireString (parsed.get? "integrityDigest") "integrityDigest"
  .ok { payload, ackMode, issuedAt, expiresAt, integrityDigest }

def verifyEnvelopeIntegrityDigest (object : EnvelopeObject) : Except CommsViolation Unit :=
  if object.envelope.integrityDigest ≠ computeEnvelopeIntegrityDigest sha256 object then
    invalid "integrityDigest mismatch"
  else .ok ()

/-- The envelope of the parts that were read. -/
def assemble (header : FrameHeader) (participants : FrameParticipants) (body : FrameBody) : CommunicationEnvelope :=
  { wireVersion := 1, registryVersion := 1, messageId := header.messageId, operationCode := header.operationCode
    metadata := participants.metadata, sender := participants.sender, recipient := participants.recipient
    channelId := participants.channelId, channelGeneration := participants.channelGeneration
    sequence := participants.sequence, replyToMessageId := none, payload := body.payload, ackMode := body.ackMode
    issuedAt := body.issuedAt, expiresAt := body.expiresAt, integrityDigest := body.integrityDigest }

def parseCommunicationWireFrame (frame : WireFrame) : Except CommsViolation EnvelopeObject :=
  if CommsLimits.maxFrameBytes < frame.byteLength then
    .error (commsViolation .wireOversized .ingress "frame exceeds maxFrameBytes")
  else
    match frame.content with
    | none => invalid "invalid UTF-8 JSON frame"
    | some value => do
        let parsed ← requireObject (some value) allowedFrameKeys "frame" "expected object frame"
        let header ← parseFrameHeader parsed
        let participants ← parseFrameParticipants parsed
        let body ← parseFrameBody parsed
        let object := EnvelopeObject.literal (assemble header participants body)
        verifyEnvelopeIntegrityDigest sha256 object
        .ok object

end StrictWireCodec

end Cantilune
