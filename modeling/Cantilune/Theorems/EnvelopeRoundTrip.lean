import Cantilune.Comms.EnvelopeWire
import Cantilune.Comms.Service

/-!
# Which envelopes survive the wire

A frame is read back as the envelope that was encoded exactly when the envelope has none of the fields that the
parser drops and lists the members of its nested objects as the parser does. The digest covers every field of an
envelope but the reference to the message that it replies to.
-/

namespace Cantilune

namespace StrictWireCodec

/-! ## Readers -/

section Readers
variable {α : Type} {value : Option Json} {path message : String}

@[simp] theorem invalid_ne_ok {path : Option String} {a : α} : invalid message path ≠ .ok a := by simp [invalid]

theorem requireString_some {s : String} (hs : s ≠ "") (hvalue : value = some (.str s)) :
    requireString value path = .ok s := by
  rw [hvalue, requireString, if_neg hs]

theorem requireNumber_some {q : ℚ} (hvalue : value = some (.num q)) : requireNumber value path = .ok q := by
  rw [hvalue, requireNumber]

theorem rejectUnknownKeys_of_allowed {members : List (String × Json)} {allowed : List String}
    (h : ∀ k, (Json.obj members).get? k ≠ none → k ∈ allowed) : rejectUnknownKeys members allowed path = .ok () := by
  unfold rejectUnknownKeys
  split
  · rename_i key v hfind
    have hmem := List.mem_of_find?_eq_some hfind
    have hout := List.find?_some hfind
    have hin : key ∈ allowed := by
      apply h
      rw [Json.get?, Ne, List.lookup_eq_none_iff]
      intro hne
      simpa using hne _ hmem
    simp [hin] at hout
  · rfl

theorem requireObject_of_canon {x : Json} {allowed : List String} {members : List (String × Option Json)}
    (hn : (members.map Prod.fst).Nodup) (h : x.canon = (Json.record members).canon)
    (hallowed : ∀ k, (Json.record members).get? k ≠ none → k ∈ allowed) :
    requireObject (some x) allowed path message = .ok x := by
  obtain ⟨⟨ms, rfl⟩, hget⟩ := Json.get?_of_canon_record hn h
  have hkeys : rejectUnknownKeys ms allowed path = .ok () := by
    apply rejectUnknownKeys_of_allowed
    intro k hk
    apply hallowed
    intro hnone
    have hk' := hget k
    rw [hnone, Option.map_none, Option.map_eq_none_iff] at hk'
    exact hk hk'
  rw [requireObject, hkeys]
  rfl

theorem requireName_name {values : List α} {name : α → String} {a : α} (ha : a ∈ values)
    (hinj : ∀ b, name b = name a → b = a) : requireName values name (name a) message = .ok a := by
  unfold requireName
  split
  · rename_i b hb
    have hname := List.find?_some hb
    rw [hinj b (of_decide_eq_true hname)]
  · rename_i hnone
    have hnot := List.find?_eq_none.1 hnone a ha
    simp at hnot

end Readers

theorem parseActorRef_of_canon {ref : ActorRef} {x : Json} {path : String} (hid : ref.actorId ≠ "")
    (h : x.canon = ref.toJson.canon) : parseActorRef (some x) path = .ok ref := by
  have hrecord : ref.toJson = Json.record
      [("actorId", some (.str ref.actorId)), ("kind", some (.str ref.kind.name))] := rfl
  rw [hrecord] at h
  have hactorId : x.get? "actorId" = some (.str ref.actorId) := Json.get?_str_of_canon_record (by simp) h (by simp)
  have hkind : x.get? "kind" = some (.str ref.kind.name) := Json.get?_str_of_canon_record (by simp) h (by simp)
  have hobject : requireObject (some x) allowedActorKeys path s!"expected actor object at {path}" = .ok x :=
    requireObject_of_canon (by simp) h (by simp [allowedActorKeys]; grind)
  have hname : ref.kind.name ≠ "" := by cases ref.kind <;> decide
  have hall : ref.kind ∈ ActorKind.all := by cases ref.kind <;> decide
  unfold parseActorRef
  rw [hobject]
  simp only [Except.bind, bind, requireString_some hid hactorId, requireString_some hname hkind]
  rw [requireName_name hall (by intro b; cases b <;> cases ref.kind <;> decide)]

theorem parseTemplateRef_of_canon {ref : OperationTemplateRef} {x : Json} (htype : ref.operationTypeId ≠ "")
    (hrevision : ref.revision ≠ "") (h : x.canon = ref.toJson.canon) : parseTemplateRef (some x) = .ok ref := by
  have hrecord : ref.toJson = Json.record
      [("operationTypeId", some (.str ref.operationTypeId)), ("revision", some (.str ref.revision))] := rfl
  rw [hrecord] at h
  have htypeId : x.get? "operationTypeId" = some (.str ref.operationTypeId) :=
    Json.get?_str_of_canon_record (by simp) h (by simp)
  have hrev : x.get? "revision" = some (.str ref.revision) :=
    Json.get?_str_of_canon_record (by simp) h (by simp)
  have hobject : requireObject (some x) allowedTemplateKeys "metadata.operationTemplateRef"
      "metadata.operationTemplateRef must be object" = .ok x :=
    requireObject_of_canon (by simp) h (by simp [allowedTemplateKeys]; grind)
  unfold parseTemplateRef
  rw [hobject]
  simp only [Except.bind, bind, requireString_some htype htypeId, requireString_some hrevision hrev]

end StrictWireCodec

/-- The texts of the metadata that the wire requires are there. -/
structure StableCommunicationMetadata.Wirable (metadata : StableCommunicationMetadata) : Prop where
  epochId : metadata.epochId ≠ ""
  operationTypeId : metadata.operationTemplateRef.operationTypeId ≠ ""
  revision : metadata.operationTemplateRef.revision ≠ ""
  sessionId : metadata.sessionId ≠ ""
  correlationId : metadata.correlationId ≠ ""
  occurrenceId : metadata.occurrenceId ≠ ""

structure PayloadDescriptor.Wirable (payload : PayloadDescriptor) : Prop where
  contentRef : payload.contentRef ≠ ""
  contentDigest : payload.contentDigest ≠ ""
  mediaType : payload.mediaType ≠ ""
  classification : payload.classification ≠ .credential

/-- The fields that a frame must have are of the types that the wire grammar allows. -/
structure CommunicationEnvelope.Wirable (envelope : CommunicationEnvelope) : Prop where
  wireVersion : envelope.wireVersion = 1
  registryVersion : envelope.registryVersion = 1
  messageId : envelope.messageId ≠ ""
  metadata : envelope.metadata.Wirable
  sender : envelope.sender.actorId ≠ ""
  recipient : envelope.recipient.actorId ≠ ""
  channelId : envelope.channelId ≠ ""
  payload : envelope.payload.Wirable
  issuedAt : envelope.issuedAt ≠ ""
  expiresAt : envelope.expiresAt ≠ ""
  integrityDigest : envelope.integrityDigest ≠ ""

/-- The envelope has none of the fields that the parser drops or refuses. -/
structure CommunicationEnvelope.Kept (envelope : CommunicationEnvelope) : Prop where
  replyToMessageId : envelope.replyToMessageId = none
  bindingGeneration : envelope.metadata.bindingGeneration = none
  bindingRef : envelope.metadata.bindingRef = none
  encryptionMetadataRef : envelope.payload.encryptionMetadataRef = none

namespace StrictWireCodec

/-! ## Envelopes that are kept -/

theorem optional_text {x : Json} {k : String} {o : Option String} (h : x.get? k = o.map .str) :
    (x.get? k).bind Json.str? = o := by
  rw [h]
  cases o <;> rfl

theorem parseMetadata_of_canon {metadata : StableCommunicationMetadata} {x : Json} (hw : metadata.Wirable)
    (hgeneration : metadata.bindingGeneration = none) (hbinding : metadata.bindingRef = none)
    (h : x.canon = metadata.toJson.canon) : parseMetadata (some x) = .ok metadata := by
  have hread : ∀ k, (∀ j ∈ metadata.toJson.get? k, j.Rigid) → x.get? k = metadata.toJson.get? k :=
    fun k hk => Json.get?_rigid_of_canon_record (by simp) h hk
  have hepochId : x.get? "epochId" = some (.str metadata.epochId) := by
    rw [hread "epochId"] <;> simp [StableCommunicationMetadata.toJson, Json.rigid_str]
  have hepochOrdinal : x.get? "epochOrdinal" = some (.num metadata.epochOrdinal) := by
    rw [hread "epochOrdinal"] <;> simp [StableCommunicationMetadata.toJson, Json.rigid_num]
  have hsessionId : x.get? "sessionId" = some (.str metadata.sessionId) := by
    rw [hread "sessionId"] <;> simp [StableCommunicationMetadata.toJson, Json.rigid_str]
  have hcorrelationId : x.get? "correlationId" = some (.str metadata.correlationId) := by
    rw [hread "correlationId"] <;> simp [StableCommunicationMetadata.toJson, Json.rigid_str]
  have hoccurrenceId : x.get? "occurrenceId" = some (.str metadata.occurrenceId) := by
    rw [hread "occurrenceId"] <;> simp [StableCommunicationMetadata.toJson, Json.rigid_str]
  have hcausationId : x.get? "causationId" = metadata.causationId.map .str := by
    rw [hread "causationId"] <;> simp [StableCommunicationMetadata.toJson, Json.rigid_str]
  have hidempotencyKey : x.get? "idempotencyKey" = metadata.idempotencyKey.map .str := by
    rw [hread "idempotencyKey"] <;> simp [StableCommunicationMetadata.toJson, Json.rigid_str]
  obtain ⟨template, htemplate, hcanon⟩ : ∃ y, x.get? "operationTemplateRef" = some y ∧
      y.canon = metadata.operationTemplateRef.toJson.canon := by
    have hget := (Json.get?_of_canon_record (by simp) h).2 "operationTemplateRef"
    simp only [Json.get?_record_cons, String.reduceEq, if_true, if_false, Option.some_or, Option.map_some] at hget
    exact Option.map_eq_some_iff.1 hget
  have hobject : requireObject (some x) allowedMetadataKeys "metadata" "metadata must be object" = .ok x := by
    apply requireObject_of_canon (by simp) h
    simp [allowedMetadataKeys, hgeneration, hbinding]
    grind
  unfold parseMetadata
  rw [hobject]
  simp only [Except.bind, bind, requireString_some hw.epochId hepochId, requireNumber_some hepochOrdinal, htemplate,
    parseTemplateRef_of_canon hw.operationTypeId hw.revision hcanon, requireString_some hw.sessionId hsessionId,
    requireString_some hw.correlationId hcorrelationId, requireString_some hw.occurrenceId hoccurrenceId,
    optional_text hcausationId, optional_text hidempotencyKey]
  rw [← hgeneration, ← hbinding]

theorem parsePayload_of_canon {payload : PayloadDescriptor} {x : Json} (hw : payload.Wirable)
    (hencryption : payload.encryptionMetadataRef = none) (h : x.canon = payload.toJson.canon) :
    parsePayload (some x) = .ok payload := by
  have hread : ∀ k, (∀ j ∈ payload.toJson.get? k, j.Rigid) → x.get? k = payload.toJson.get? k :=
    fun k hk => Json.get?_rigid_of_canon_record (by simp) h hk
  have hcontentRef : x.get? "contentRef" = some (.str payload.contentRef) := by
    rw [hread "contentRef"] <;> simp [PayloadDescriptor.toJson, Json.rigid_str]
  have hcontentDigest : x.get? "contentDigest" = some (.str payload.contentDigest) := by
    rw [hread "contentDigest"] <;> simp [PayloadDescriptor.toJson, Json.rigid_str]
  have hmediaType : x.get? "mediaType" = some (.str payload.mediaType) := by
    rw [hread "mediaType"] <;> simp [PayloadDescriptor.toJson, Json.rigid_str]
  have hbyteLength : x.get? "byteLength" = some (.num payload.byteLength) := by
    rw [hread "byteLength"] <;> simp [PayloadDescriptor.toJson, Json.rigid_num]
  have hclassification : x.get? "classification" = some (.str payload.classification.name) := by
    rw [hread "classification"] <;> simp [PayloadDescriptor.toJson, Json.rigid_str]
  have hobject : requireObject (some x) allowedPayloadKeys "payload" "payload must be object" = .ok x := by
    apply requireObject_of_canon (by simp) h
    simp [allowedPayloadKeys, hencryption]
    grind
  have hname : payload.classification.name ≠ "" := by cases payload.classification <;> decide
  have hall : payload.classification ∈ allowedClassifications := by
    have hne := hw.classification
    revert hne
    cases payload.classification <;> decide
  unfold parsePayload
  rw [hobject]
  simp only [Except.bind, bind, requireString_some hw.contentRef hcontentRef,
    requireString_some hw.contentDigest hcontentDigest, requireString_some hw.mediaType hmediaType,
    requireNumber_some hbyteLength, requireString_some hname hclassification]
  rw [requireName_name hall (by intro b; cases b <;> cases payload.classification <;> decide)]
  rw [← hencryption]

/-! ## Frames -/

section Frames
variable {sha256 : Json → IntegrityDigest} {utf8Length : Json → Nat} {object : EnvelopeObject}

theorem parseFrameHeader_body (hw : object.envelope.Wirable) : parseFrameHeader (body object) =
    .ok { messageId := object.envelope.messageId, operationCode := object.envelope.operationCode } := by
  have hname : object.envelope.operationCode.name ≠ "" := by cases object.envelope.operationCode <;> decide
  have hcode : requireName CommunicationOperationCode.all CommunicationOperationCode.name
      object.envelope.operationCode.name "unknown operationCode" = .ok object.envelope.operationCode := by
    have hfind := CommunicationOperationCode.ofName?_name object.envelope.operationCode
    unfold CommunicationOperationCode.ofName? at hfind
    rw [requireName, hfind]
  have hwire : (body object).get? "wireVersion" = some (.num 1) := by simp [body, hw.wireVersion]
  have hregistry : (body object).get? "registryVersion" = some (.num 1) := by simp [body, hw.registryVersion]
  have hmessageId : (body object).get? "messageId" = some (.str object.envelope.messageId) := by simp [body]
  have hoperation : (body object).get? "operationCode" = some (.str object.envelope.operationCode.name) := by
    simp [body]
  unfold parseFrameHeader
  rw [hwire, hregistry, if_neg (by simp), if_neg (by simp)]
  simp only [Except.bind, bind, requireString_some hw.messageId hmessageId, requireString_some hname hoperation,
    hcode]

theorem parseFrameParticipants_body (hw : object.envelope.Wirable) (hk : object.envelope.Kept)
    (hsequence : ¬ object.envelope.sequence < 1) : parseFrameParticipants (body object) =
    .ok
      { metadata := object.envelope.metadata, sender := object.envelope.sender
        recipient := object.envelope.recipient, channelId := object.envelope.channelId
        channelGeneration := object.envelope.channelGeneration, sequence := object.envelope.sequence } := by
  have hmetadata : (body object).get? "metadata" = some object.metadata := by simp [body]
  have hsender : (body object).get? "sender" = some object.sender := by simp [body]
  have hrecipient : (body object).get? "recipient" = some object.recipient := by simp [body]
  have hchannelId : (body object).get? "channelId" = some (.str object.envelope.channelId) := by simp [body]
  have hgeneration : (body object).get? "channelGeneration" = some (.num object.envelope.channelGeneration) := by
    simp [body]
  have hseq : (body object).get? "sequence" = some (.num object.envelope.sequence) := by simp [body]
  unfold parseFrameParticipants
  rw [hmetadata, hsender, hrecipient]
  simp only [Except.bind, bind,
    parseMetadata_of_canon hw.metadata hk.bindingGeneration hk.bindingRef object.metadata_canon,
    parseActorRef_of_canon hw.sender object.sender_canon, parseActorRef_of_canon hw.recipient object.recipient_canon,
    requireString_some hw.channelId hchannelId, requireNumber_some hgeneration, requireNumber_some hseq]
  rw [if_neg hsequence]

theorem parseFrameBody_body (hw : object.envelope.Wirable) (hk : object.envelope.Kept) :
    parseFrameBody (body object) =
    .ok
      { payload := object.envelope.payload, ackMode := object.envelope.ackMode, issuedAt := object.envelope.issuedAt
        expiresAt := object.envelope.expiresAt, integrityDigest := object.envelope.integrityDigest } := by
  have hpayload : (body object).get? "payload" = some object.payload := by simp [body]
  have hackMode : (body object).get? "ackMode" = some (.str object.envelope.ackMode.name) := by simp [body]
  have hissuedAt : (body object).get? "issuedAt" = some (.str object.envelope.issuedAt) := by simp [body]
  have hexpiresAt : (body object).get? "expiresAt" = some (.str object.envelope.expiresAt) := by simp [body]
  have hdigest : (body object).get? "integrityDigest" = some (.str object.envelope.integrityDigest) := by
    simp [body]
  have hname : object.envelope.ackMode.name ≠ "" := by cases object.envelope.ackMode <;> decide
  have hall : object.envelope.ackMode ∈ allowedAckModes := by cases object.envelope.ackMode <;> decide
  unfold parseFrameBody
  rw [hpayload]
  simp only [Except.bind, bind,
    parsePayload_of_canon hw.payload hk.encryptionMetadataRef object.payload_canon,
    requireString_some hname hackMode, requireString_some hw.issuedAt hissuedAt,
    requireString_some hw.expiresAt hexpiresAt, requireString_some hw.integrityDigest hdigest]
  rw [requireName_name hall (by intro b; cases b <;> cases object.envelope.ackMode <;> decide)]

theorem assemble_kept {envelope : CommunicationEnvelope} (hw : envelope.Wirable) (hk : envelope.Kept) :
    assemble
      { messageId := envelope.messageId, operationCode := envelope.operationCode }
      { metadata := envelope.metadata, sender := envelope.sender, recipient := envelope.recipient
        channelId := envelope.channelId, channelGeneration := envelope.channelGeneration
        sequence := envelope.sequence }
      { payload := envelope.payload, ackMode := envelope.ackMode, issuedAt := envelope.issuedAt
        expiresAt := envelope.expiresAt, integrityDigest := envelope.integrityDigest } = envelope := by
  unfold assemble
  rw [← hw.wireVersion, ← hk.replyToMessageId]
  nth_rewrite 2 [hw.wireVersion]
  rw [← hw.registryVersion]

theorem parseCommunicationWireFrame_kept (hw : object.envelope.Wirable) (hk : object.envelope.Kept)
    (hsequence : ¬ object.envelope.sequence < 1)
    (hfits : (encodeCommunicationWireFrame utf8Length object).byteLength ≤ CommsLimits.maxFrameBytes) :
    parseCommunicationWireFrame sha256 (encodeCommunicationWireFrame utf8Length object) =
      (verifyEnvelopeIntegrityDigest sha256 (.literal object.envelope)).map
        fun _ => EnvelopeObject.literal object.envelope := by
  have hobject : requireObject (some (body object)) allowedFrameKeys "frame" "expected object frame" =
      .ok (body object) := by
    apply requireObject_of_canon (by simp) rfl
    simp [allowedFrameKeys]
    grind
  unfold parseCommunicationWireFrame
  rw [if_neg (by omega)]
  simp only [encodeCommunicationWireFrame, hobject, bind, Except.bind, parseFrameHeader_body hw,
    parseFrameParticipants_body hw hk hsequence, parseFrameBody_body hw hk, assemble_kept hw hk]
  rfl

end Frames

/-! ## What the parser returns -/

section Parsed
variable {sha256 : Json → IntegrityDigest} {frame : WireFrame} {object : EnvelopeObject}

theorem parseMetadata_keeps {value : Option Json} {metadata : StableCommunicationMetadata}
    (h : parseMetadata value = .ok metadata) : metadata.bindingGeneration = none ∧ metadata.bindingRef = none := by
  simp only [parseMetadata, Outcome.bind_eq_ok] at h
  obtain ⟨_, _, _, _, _, _, _, _, _, _, _, _, _, _, h⟩ := h
  cases h
  exact ⟨rfl, rfl⟩

theorem parsePayload_keeps {value : Option Json} {payload : PayloadDescriptor} (h : parsePayload value = .ok payload) :
    payload.encryptionMetadataRef = none := by
  simp only [parsePayload, Outcome.bind_eq_ok] at h
  obtain ⟨_, _, _, _, _, _, _, _, _, _, _, _, _, _, h⟩ := h
  cases h
  rfl

theorem parseFrameParticipants_keeps {parsed : Json} {participants : FrameParticipants}
    (h : parseFrameParticipants parsed = .ok participants) :
    participants.metadata.bindingGeneration = none ∧ participants.metadata.bindingRef = none := by
  simp only [parseFrameParticipants, Outcome.bind_eq_ok] at h
  obtain ⟨_, hmetadata, _, _, _, _, _, _, _, _, _, _, h⟩ := h
  split at h
  · exact absurd h invalid_ne_ok
  · cases h
    exact parseMetadata_keeps hmetadata

theorem parseFrameBody_keeps {parsed : Json} {body : FrameBody} (h : parseFrameBody parsed = .ok body) :
    body.payload.encryptionMetadataRef = none := by
  simp only [parseFrameBody, Outcome.bind_eq_ok] at h
  obtain ⟨_, hpayload, _, _, _, _, _, _, _, _, _, _, h⟩ := h
  cases h
  exact parsePayload_keeps hpayload

theorem parts_of_parsed (h : parseCommunicationWireFrame sha256 frame = .ok object) :
    ∃ parsed header participants body, parseFrameParticipants parsed = .ok participants ∧
      parseFrameBody parsed = .ok body ∧ object = .literal (assemble header participants body) ∧
      object.envelope.integrityDigest = computeEnvelopeIntegrityDigest sha256 object := by
  unfold parseCommunicationWireFrame at h
  split at h
  · cases h
  · split at h
    · exact absurd h invalid_ne_ok
    · simp only [Outcome.bind_eq_ok] at h
      obtain ⟨parsed, _, header, _, participants, hparticipants, body, hbody, _, hverify, h⟩ := h
      cases h
      refine ⟨parsed, header, participants, body, hparticipants, hbody, rfl, ?_⟩
      unfold verifyEnvelopeIntegrityDigest at hverify
      split at hverify
      · exact absurd hverify invalid_ne_ok
      · rename_i hdigest
        exact not_not.1 hdigest

theorem kept_of_parsed (h : parseCommunicationWireFrame sha256 frame = .ok object) :
    object.envelope.Kept ∧ object.envelope.integrityDigest =
      computeEnvelopeIntegrityDigest sha256 (.literal object.envelope) := by
  obtain ⟨parsed, header, participants, body, hparticipants, hbody, rfl, hdigest⟩ := parts_of_parsed h
  obtain ⟨hgeneration, hbinding⟩ := parseFrameParticipants_keeps hparticipants
  exact ⟨⟨rfl, hgeneration, hbinding, parseFrameBody_keeps hbody⟩, hdigest⟩

theorem digest_of_parsed (h : parseCommunicationWireFrame sha256 frame = .ok object) :
    computeEnvelopeIntegrityDigest sha256 object = object.envelope.integrityDigest := by
  obtain ⟨_, _, _, _, _, _, _, hdigest⟩ := parts_of_parsed h
  exact hdigest.symm

end Parsed

/-! ## Digests -/

def Collides {α β : Type} (digest : α → β) (a b : α) : Prop := a ≠ b ∧ digest a = digest b

section Digests
variable {sha256 : Json → IntegrityDigest} {utf8Length : Json → Nat} {a b object : EnvelopeObject}

theorem eq_of_not_collides {α β : Type} {digest : α → β} {x y : α} (h : ¬ Collides digest x y)
    (hdigest : digest x = digest y) : x = y := by
  by_contra hne
  exact h ⟨hne, hdigest⟩

theorem verifyEnvelopeIntegrityDigest_eq_ok : verifyEnvelopeIntegrityDigest sha256 object = .ok () ↔
    object.envelope.integrityDigest = computeEnvelopeIntegrityDigest sha256 object := by
  unfold verifyEnvelopeIntegrityDigest
  split
  · rename_i hne
    exact ⟨fun h => absurd h invalid_ne_ok, fun h => absurd h hne⟩
  · rename_i heq
    exact ⟨fun _ => not_not.1 heq, fun _ => rfl⟩

theorem get?_of_digested_eq (h : digested a = digested b) (k : String) :
    (digested a).get? k = (digested b).get? k := by rw [h]

theorem members_of_digested_eq (h : digested a = digested b) :
    a.metadata = b.metadata ∧ a.sender = b.sender ∧ a.recipient = b.recipient ∧ a.payload = b.payload := by
  have hget := get?_of_digested_eq h
  have hmetadata := hget "metadata"
  have hsender := hget "sender"
  have hrecipient := hget "recipient"
  have hpayload := hget "payload"
  simp only [digested, Json.get?_record_cons, String.reduceEq, if_true, if_false, Option.some_or,
    Option.some.injEq] at hmetadata hsender hrecipient hpayload
  exact ⟨hmetadata, hsender, hrecipient, hpayload⟩

theorem eq_literal_of_digested_eq (h : digested object = digested (.literal object.envelope)) :
    object = .literal object.envelope := by
  obtain ⟨hmetadata, hsender, hrecipient, hpayload⟩ := members_of_digested_eq h
  obtain ⟨envelope, metadata, sender, recipient, payload, _, _, _, _⟩ := object
  simp only [EnvelopeObject.literal] at hmetadata hsender hrecipient hpayload ⊢
  subst hmetadata hsender hrecipient hpayload
  rfl

end Digests

/-! ## The round trip -/

/-- The envelope passes the policy of a host that digests it as it lies in memory, its fields are of the types that
the wire allows, and its frame is not too long. -/
structure Sendable (sha256 : Json → IntegrityDigest) (utf8Length : Json → Nat) (host : CommsHost) (input : SendInput)
    (w : CommsWorld) (object : EnvelopeObject) : Prop where
  envelope : input.envelope = object.envelope
  digests : host.computeEnvelopeIntegrityDigest object.envelope.toEnvelopeFrame =
    computeEnvelopeIntegrityDigest sha256 object
  policy : (EnvelopePolicy.validateOutboundEnvelope host input w).1 = .ok ()
  wirable : object.envelope.Wirable
  fits : (encodeCommunicationWireFrame utf8Length object).byteLength ≤ CommsLimits.maxFrameBytes

def RoundTrips (sha256 : Json → IntegrityDigest) (utf8Length : Json → Nat) (object : EnvelopeObject) : Prop :=
  (parseCommunicationWireFrame sha256 (encodeCommunicationWireFrame utf8Length object)).map
    EnvelopeObject.envelope = .ok object.envelope

section RoundTrip
variable {sha256 : Json → IntegrityDigest} {utf8Length : Json → Nat} {host : CommsHost} {input : SendInput}
  {w : CommsWorld} {object : EnvelopeObject}

theorem validateFromTtl_eq_ok {now : Timestamp} (h : EnvelopePolicy.validateFromTtl host input now = .ok ()) :
    input.envelope.integrityDigest = host.computeEnvelopeIntegrityDigest input.envelope.toEnvelopeFrame ∧
      ¬ input.envelope.sequence < 1 := by
  simp only [EnvelopePolicy.validateFromTtl, Outcome.bind_eq_ok] at h
  obtain ⟨_, _, _, hdigest, h⟩ := h
  unfold EnvelopePolicy.verifyEnvelopeIntegrityDigest at hdigest
  split at hdigest
  · cases hdigest
  · rename_i heq
    refine ⟨not_not.1 heq, fun hlt => ?_⟩
    rw [if_pos hlt] at h
    cases h

theorem validateOutboundEnvelope_run : (EnvelopePolicy.validateOutboundEnvelope host input w).1 =
    match EnvelopePolicy.validateBeforeTtl input w.store with
    | .error violation => .error violation
    | .ok () => EnvelopePolicy.validateFromTtl host input (CommsM.now host w).1 := by
  unfold EnvelopePolicy.validateOutboundEnvelope
  simp only [bind, StateT.bind, CommsM.store]
  cases EnvelopePolicy.validateBeforeTtl input w.store <;> rfl

theorem validateOutboundEnvelope_eq_ok (h : (EnvelopePolicy.validateOutboundEnvelope host input w).1 = .ok ()) :
    input.envelope.integrityDigest = host.computeEnvelopeIntegrityDigest input.envelope.toEnvelopeFrame ∧
      ¬ input.envelope.sequence < 1 := by
  rw [validateOutboundEnvelope_run] at h
  cases hbefore : EnvelopePolicy.validateBeforeTtl input w.store with
  | error violation =>
      rw [hbefore] at h
      cases h
  | ok _ =>
      rw [hbefore] at h
      exact validateFromTtl_eq_ok h

theorem kept_of_roundTrips (h : RoundTrips sha256 utf8Length object) :
    object.envelope.Kept ∧ object.envelope.integrityDigest =
      computeEnvelopeIntegrityDigest sha256 (.literal object.envelope) := by
  unfold RoundTrips at h
  cases hparsed : parseCommunicationWireFrame sha256 (encodeCommunicationWireFrame utf8Length object) with
  | error violation =>
      rw [hparsed] at h
      cases h
  | ok parsed =>
      rw [hparsed] at h
      have henvelope : parsed.envelope = object.envelope := Except.ok.inj h
      rw [← henvelope]
      exact kept_of_parsed hparsed

/-- A sendable envelope comes back exactly when it is kept and lists its members as the parser does, or the digest
takes the two texts for one. -/
theorem roundTrips_iff (h : Sendable sha256 utf8Length host input w object) :
    RoundTrips sha256 utf8Length object ↔
      object.envelope.Kept ∧ (object = .literal object.envelope ∨
        Collides sha256 (digested object) (digested (.literal object.envelope))) := by
  obtain ⟨hdigest, hsequence⟩ := validateOutboundEnvelope_eq_ok h.policy
  rw [h.envelope, h.digests] at hdigest
  rw [h.envelope] at hsequence
  constructor
  · intro hround
    obtain ⟨hkept, hparsedDigest⟩ := kept_of_roundTrips hround
    refine ⟨hkept, ?_⟩
    by_cases htext : digested object = digested (.literal object.envelope)
    · exact .inl (eq_literal_of_digested_eq htext)
    · exact .inr ⟨htext, hdigest.symm.trans hparsedDigest⟩
  · rintro ⟨hkept, horder⟩
    have hsame : sha256 (digested object) = sha256 (digested (.literal object.envelope)) := by
      rcases horder with hliteral | hcollides
      · rw [← hliteral]
      · exact hcollides.2
    have hverify : verifyEnvelopeIntegrityDigest sha256 (.literal object.envelope) = .ok () :=
      verifyEnvelopeIntegrityDigest_eq_ok.2 (hdigest.trans hsame)
    unfold RoundTrips
    rw [parseCommunicationWireFrame_kept h.wirable hkept hsequence h.fits, hverify]
    rfl

end RoundTrip

/-! ## One envelope, with and without a reference -/

section Sample

def sampleReply (replies : Bool) : CommunicationEnvelope :=
  { wireVersion := 1, registryVersion := 1, messageId := "m1", operationCode := .send
    metadata :=
      { epochId := "epoch-1", epochOrdinal := 1, bindingGeneration := none, bindingRef := none
        operationTemplateRef := { operationTypeId := "send_message", revision := "1" }, sessionId := "session-1"
        correlationId := "corr-1", occurrenceId := "occ-1", causationId := none, idempotencyKey := none }
    sender := { actorId := "a", kind := .agent }, recipient := { actorId := "b", kind := .agent }, channelId := "ch"
    channelGeneration := 1, sequence := 1, replyToMessageId := if replies then some "m0" else none
    payload :=
      { contentRef := "content", contentDigest := "cd", mediaType := "text/plain", byteLength := 1
        classification := .internal, encryptionMetadataRef := none }
    ackMode := .durablyAccepted, issuedAt := "2026-01-01T00:00:00.000Z", expiresAt := "2026-01-01T00:01:00.000Z"
    integrityDigest := "22539c0f3ad6e56a9f9fb807d1c66111305b32c95b7fafc3bd54936960cdc4fd" }

def sampleSha256 : Json → IntegrityDigest :=
  fun _ => "22539c0f3ad6e56a9f9fb807d1c66111305b32c95b7fafc3bd54936960cdc4fd"

def sampleUtf8Length : Json → Nat := fun text => if text.get? "replyToMessageId" = none then 721 else 745

def sampleReplyHost : CommsHost :=
  { clock := fun _ => "2026-01-01T00:00:30.000Z"
    dateParse := fun t =>
      if t = "2026-01-01T00:00:00.000Z" then some 1767225600000
      else if t = "2026-01-01T00:00:30.000Z" then some 1767225630000
      else if t = "2026-01-01T00:01:00.000Z" then some 1767225660000
      else none
    computeEnvelopeIntegrityDigest := fun _ => sampleSha256 .null }

def sampleReplySend (replies : Bool) : SendInput :=
  { context := { principal := (sampleReply replies).sender, sealed := true }
    envelope := sampleReply replies, idempotencyKey := "k"
    authority := { isMember := fun _ _ => true, activeBinding := none } }

theorem sampleReply_sendable (replies : Bool) :
    Sendable sampleSha256 sampleUtf8Length sampleReplyHost (sampleReplySend replies) .empty
      (.literal (sampleReply replies)) where
  envelope := rfl
  digests := rfl
  policy := by cases replies <;> decide +kernel
  wirable :=
    { wireVersion := rfl, registryVersion := rfl, messageId := by simp [EnvelopeObject.literal, sampleReply]
      metadata := by constructor <;> simp [EnvelopeObject.literal, sampleReply]
      sender := by simp [EnvelopeObject.literal, sampleReply]
      recipient := by simp [EnvelopeObject.literal, sampleReply]
      channelId := by simp [EnvelopeObject.literal, sampleReply]
      payload := by constructor <;> simp [EnvelopeObject.literal, sampleReply]
      issuedAt := by simp [EnvelopeObject.literal, sampleReply]
      expiresAt := by simp [EnvelopeObject.literal, sampleReply]
      integrityDigest := by simp [EnvelopeObject.literal, sampleReply] }
  fits := by
    show sampleUtf8Length _ ≤ 1048576
    unfold sampleUtf8Length
    split <;> omega

/-- The reply is lost: its frame is accepted as an envelope that replies to nothing. -/
theorem not_roundTrips_reply :
    ¬ ∀ object host input w, Sendable sampleSha256 sampleUtf8Length host input w object →
      RoundTrips sampleSha256 sampleUtf8Length object := by
  intro h
  have hkept := kept_of_roundTrips (h _ _ _ _ (sampleReply_sendable true))
  cases hkept.1.replyToMessageId

theorem roundTrips_iff_sample :
    RoundTrips sampleSha256 sampleUtf8Length (.literal (sampleReply false)) ↔
      (sampleReply false).Kept ∧ (EnvelopeObject.literal (sampleReply false) = .literal (sampleReply false) ∨
        Collides sampleSha256 (digested (.literal (sampleReply false))) (digested (.literal (sampleReply false)))) :=
  roundTrips_iff (sampleReply_sendable false)

end Sample

end StrictWireCodec

end Cantilune
