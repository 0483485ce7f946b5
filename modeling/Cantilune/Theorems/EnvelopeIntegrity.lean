import Cantilune.Theorems.EnvelopeRoundTrip

/-!
# What the integrity digest covers

Two envelopes of one digest agree on every field but the reference to the message that they reply to.
-/

namespace Cantilune

/-! ## What the digest covers

A value is known by the canonical form of its image. -/

theorem eq_of_map_canon {β : Type} {image : β → Json} (hinj : ∀ x y, (image x).canon = (image y).canon → x = y)
    {o o' : Option β} (h : (o.map image).map Json.canon = (o'.map image).map Json.canon) : o = o' := by
  rw [Option.map_map, Option.map_map] at h
  exact Option.map_injective hinj h

theorem canon_str_injective (s t : String) (h : (Json.str s).canon = (Json.str t).canon) : s = t := by simpa using h

theorem canon_num_injective (q r : ℚ) (h : (Json.num q).canon = (Json.num r).canon) : q = r := by simpa using h

theorem ActorRef.eq_of_canon (a b : ActorRef) (h : a.toJson.canon = b.toJson.canon) : a = b := by
  have hget := (Json.get?_of_canon_eq (by simp) h).2
  have hactorId : a.actorId = b.actorId := by simpa [ActorRef.toJson, Json.get?, List.lookup_cons] using hget "actorId"
  have hname : a.kind.name = b.kind.name := by simpa [ActorRef.toJson, Json.get?, List.lookup_cons] using hget "kind"
  have hkind : a.kind = b.kind := by
    revert hname
    cases a.kind <;> cases b.kind <;> decide
  cases a
  cases b
  simp_all

theorem OperationTemplateRef.eq_of_canon (a b : OperationTemplateRef) (h : a.toJson.canon = b.toJson.canon) :
    a = b := by
  have hget := (Json.get?_of_canon_eq (by simp) h).2
  have htype : a.operationTypeId = b.operationTypeId := by
    simpa [OperationTemplateRef.toJson, Json.get?, List.lookup_cons] using hget "operationTypeId"
  have hrevision : a.revision = b.revision := by
    simpa [OperationTemplateRef.toJson, Json.get?, List.lookup_cons] using hget "revision"
  cases a
  cases b
  simp_all

theorem SchemaRef.eq_of_canon (a b : SchemaRef) (h : a.toJson.canon = b.toJson.canon) : a = b := by
  have hget := (Json.get?_of_canon_eq (by simp) h).2
  have hschemaId : a.schemaId = b.schemaId := by
    simpa [SchemaRef.toJson, Json.get?, List.lookup_cons] using hget "schemaId"
  have hrevisionId : a.revisionId = b.revisionId := by
    simpa [SchemaRef.toJson, Json.get?, List.lookup_cons] using hget "revisionId"
  have hdigest : a.digest = b.digest := by simpa [SchemaRef.toJson, Json.get?, List.lookup_cons] using hget "digest"
  cases a
  cases b
  simp_all

theorem PolicyRef.eq_of_canon (a b : PolicyRef) (h : a.toJson.canon = b.toJson.canon) : a = b := by
  have hget := (Json.get?_of_canon_eq (by simp) h).2
  have hpolicyId : a.policyId = b.policyId := by
    simpa [PolicyRef.toJson, Json.get?, List.lookup_cons] using hget "policyId"
  have hrevisionId : a.revisionId = b.revisionId := by
    simpa [PolicyRef.toJson, Json.get?, List.lookup_cons] using hget "revisionId"
  have hdigest : a.digest = b.digest := by simpa [PolicyRef.toJson, Json.get?, List.lookup_cons] using hget "digest"
  cases a
  cases b
  simp_all

theorem HandlerManifestRef.eq_of_canon (a b : HandlerManifestRef) (h : a.toJson.canon = b.toJson.canon) :
    a = b := by
  have hget := (Json.get?_of_canon_eq (by simp) h).2
  have hmanifestId : a.manifestId = b.manifestId := by
    simpa [HandlerManifestRef.toJson, Json.get?, List.lookup_cons] using hget "manifestId"
  have hdigest : a.digest = b.digest := by
    simpa [HandlerManifestRef.toJson, Json.get?, List.lookup_cons] using hget "digest"
  cases a
  cases b
  simp_all

theorem SchemaEpochBinding.eq_of_canon (a b : SchemaEpochBinding)
    (h : (serializeSchemaBindingWire a).canon = (serializeSchemaBindingWire b).canon) : a = b := by
  have hget := (Json.get?_of_canon_record (by simp) h).2
  have hdomain : a.activationDomainId = b.activationDomainId := by
    simpa [serializeSchemaBindingWire] using hget "activationDomainId"
  have hgeneration : a.bindingGeneration = b.bindingGeneration := by
    simpa [serializeSchemaBindingWire] using hget "bindingGeneration"
  have hepochId : a.epochId = b.epochId := by simpa [serializeSchemaBindingWire] using hget "epochId"
  have hordinal : a.epochOrdinal = b.epochOrdinal := by simpa [serializeSchemaBindingWire] using hget "epochOrdinal"
  have hschema : a.schemaRef = b.schemaRef :=
    SchemaRef.eq_of_canon _ _ (by simpa [serializeSchemaBindingWire] using hget "schemaRef")
  have hpolicy : a.policyRef = b.policyRef :=
    PolicyRef.eq_of_canon _ _ (by simpa [serializeSchemaBindingWire] using hget "policyRef")
  have hmanifest : a.handlerManifestRef = b.handlerManifestRef :=
    HandlerManifestRef.eq_of_canon _ _ (by simpa [serializeSchemaBindingWire] using hget "handlerManifestRef")
  have hhead : a.runtimeHead = b.runtimeHead := by simpa [serializeSchemaBindingWire] using hget "runtimeHead"
  have hadmission : a.admissionId = b.admissionId := by simpa [serializeSchemaBindingWire] using hget "admissionId"
  have hprevious : a.previousBindingGeneration = b.previousBindingGeneration := by
    have hmember := hget "previousBindingGeneration"
    simp only [serializeSchemaBindingWire, Json.get?_record_cons, Json.get?_record_nil, String.reduceEq, if_true,
      if_false, Option.or_none] at hmember
    revert hmember
    cases a.previousBindingGeneration <;> cases b.previousBindingGeneration <;> simp
  have hby : a.activatedBy = b.activatedBy := by simpa [serializeSchemaBindingWire] using hget "activatedBy"
  have hat : a.activatedAt = b.activatedAt := by simpa [serializeSchemaBindingWire] using hget "activatedAt"
  clear h hget
  cases a
  cases b
  simp only [SchemaEpochBinding.mk.injEq]
  exact ⟨hdomain, hgeneration, hepochId, hordinal, hschema, hpolicy, hmanifest, hhead, hadmission, hprevious, hby, hat⟩

theorem PayloadDescriptor.eq_of_canon (a b : PayloadDescriptor) (h : a.toJson.canon = b.toJson.canon) : a = b := by
  have hget := (Json.get?_of_canon_record (by simp) h).2
  have hcontentRef : a.contentRef = b.contentRef := by
    simpa [PayloadDescriptor.toJson] using hget "contentRef"
  have hcontentDigest : a.contentDigest = b.contentDigest := by
    simpa [PayloadDescriptor.toJson] using hget "contentDigest"
  have hmediaType : a.mediaType = b.mediaType := by simpa [PayloadDescriptor.toJson] using hget "mediaType"
  have hbyteLength : a.byteLength = b.byteLength := by simpa [PayloadDescriptor.toJson] using hget "byteLength"
  have hname : a.classification.name = b.classification.name := by
    simpa [PayloadDescriptor.toJson] using hget "classification"
  have hclassification : a.classification = b.classification := by
    revert hname
    cases a.classification <;> cases b.classification <;> decide
  have hencryption : a.encryptionMetadataRef = b.encryptionMetadataRef :=
    eq_of_map_canon canon_str_injective (by
      simpa only [PayloadDescriptor.toJson, Json.get?_record_cons, Json.get?_record_nil, String.reduceEq, if_true,
        if_false, Option.or_none] using hget "encryptionMetadataRef")
  clear h hget
  cases a
  cases b
  simp only [PayloadDescriptor.mk.injEq]
  exact ⟨hcontentRef, hcontentDigest, hmediaType, hbyteLength, hclassification, hencryption⟩

theorem StableCommunicationMetadata.eq_of_canon (a b : StableCommunicationMetadata)
    (h : a.toJson.canon = b.toJson.canon) : a = b := by
  have hget := (Json.get?_of_canon_record (by simp) h).2
  have hoptional : ∀ k, (a.toJson.get? k).map Json.canon = (b.toJson.get? k).map Json.canon := hget
  simp only [StableCommunicationMetadata.toJson, Json.get?_record_cons, Json.get?_record_nil] at hoptional
  have hepochId : a.epochId = b.epochId := by
    simpa [StableCommunicationMetadata.toJson] using hget "epochId"
  have hordinal : a.epochOrdinal = b.epochOrdinal := by
    simpa [StableCommunicationMetadata.toJson] using hget "epochOrdinal"
  have hgeneration : a.bindingGeneration = b.bindingGeneration :=
    eq_of_map_canon canon_num_injective (by
      simpa only [String.reduceEq, if_true, if_false, Option.or_none] using hoptional "bindingGeneration")
  have hbinding : a.bindingRef = b.bindingRef :=
    eq_of_map_canon SchemaEpochBinding.eq_of_canon (by
      simpa only [String.reduceEq, if_true, if_false, Option.or_none] using hoptional "bindingRef")
  have htemplate : a.operationTemplateRef = b.operationTemplateRef :=
    OperationTemplateRef.eq_of_canon _ _ (by
      simpa [StableCommunicationMetadata.toJson] using hget "operationTemplateRef")
  have hsessionId : a.sessionId = b.sessionId := by
    simpa [StableCommunicationMetadata.toJson] using hget "sessionId"
  have hcorrelationId : a.correlationId = b.correlationId := by
    simpa [StableCommunicationMetadata.toJson] using hget "correlationId"
  have hoccurrenceId : a.occurrenceId = b.occurrenceId := by
    simpa [StableCommunicationMetadata.toJson] using hget "occurrenceId"
  have hcausationId : a.causationId = b.causationId :=
    eq_of_map_canon canon_str_injective (by
      simpa only [String.reduceEq, if_true, if_false, Option.or_none] using hoptional "causationId")
  have hidempotencyKey : a.idempotencyKey = b.idempotencyKey :=
    eq_of_map_canon canon_str_injective (by
      simpa only [String.reduceEq, if_true, if_false, Option.or_none] using hoptional "idempotencyKey")
  clear h hget hoptional
  cases a
  cases b
  simp only [StableCommunicationMetadata.mk.injEq]
  exact ⟨hepochId, hordinal, hgeneration, hbinding, htemplate, hsessionId, hcorrelationId, hoccurrenceId, hcausationId,
    hidempotencyKey⟩

namespace StrictWireCodec

section Digest
variable {sha256 : Json → IntegrityDigest} {a b : EnvelopeObject}

theorem fields_of_digested_eq (h : digested a = digested b) :
    a.envelope.toEnvelopeFrame = { b.envelope.toEnvelopeFrame with
      replyToMessageId := a.envelope.replyToMessageId } := by
  obtain ⟨hmetadata, hsender, hrecipient, hpayload⟩ := members_of_digested_eq h
  have hget := get?_of_digested_eq h
  have hwire : a.envelope.wireVersion = b.envelope.wireVersion := by simpa [digested] using hget "wireVersion"
  have hregistry : a.envelope.registryVersion = b.envelope.registryVersion := by
    simpa [digested] using hget "registryVersion"
  have hmessageId : a.envelope.messageId = b.envelope.messageId := by simpa [digested] using hget "messageId"
  have hcode : a.envelope.operationCode = b.envelope.operationCode := by
    have hname : a.envelope.operationCode.name = b.envelope.operationCode.name := by
      simpa [digested] using hget "operationCode"
    have hfind := CommunicationOperationCode.ofName?_name a.envelope.operationCode
    rw [hname, CommunicationOperationCode.ofName?_name] at hfind
    exact (Option.some.inj hfind).symm
  have hchannelId : a.envelope.channelId = b.envelope.channelId := by simpa [digested] using hget "channelId"
  have hgeneration : a.envelope.channelGeneration = b.envelope.channelGeneration := by
    simpa [digested] using hget "channelGeneration"
  have hsequence : a.envelope.sequence = b.envelope.sequence := by simpa [digested] using hget "sequence"
  have hackMode : a.envelope.ackMode = b.envelope.ackMode := by
    have hname : a.envelope.ackMode.name = b.envelope.ackMode.name := by simpa [digested] using hget "ackMode"
    revert hname
    cases a.envelope.ackMode <;> cases b.envelope.ackMode <;> decide
  have hissuedAt : a.envelope.issuedAt = b.envelope.issuedAt := by simpa [digested] using hget "issuedAt"
  have hexpiresAt : a.envelope.expiresAt = b.envelope.expiresAt := by simpa [digested] using hget "expiresAt"
  have hmeta : a.envelope.metadata = b.envelope.metadata := by
    apply StableCommunicationMetadata.eq_of_canon
    rw [← a.metadata_canon, ← b.metadata_canon, hmetadata]
  have hfrom : a.envelope.sender = b.envelope.sender := by
    apply ActorRef.eq_of_canon
    rw [← a.sender_canon, ← b.sender_canon, hsender]
  have hto : a.envelope.recipient = b.envelope.recipient := by
    apply ActorRef.eq_of_canon
    rw [← a.recipient_canon, ← b.recipient_canon, hrecipient]
  have hcontent : a.envelope.payload = b.envelope.payload := by
    apply PayloadDescriptor.eq_of_canon
    rw [← a.payload_canon, ← b.payload_canon, hpayload]
  clear h hget
  obtain ⟨⟨⟨_, _, _, _, _, _, _, _, _, _, _, _, _, _, _⟩, _⟩, _, _, _, _, _, _, _, _⟩ := a
  simp only [EnvelopeFrame.mk.injEq]
  exact ⟨hwire, hregistry, hmessageId, hcode, hmeta, hfrom, hto, hchannelId, hgeneration, hsequence, trivial, hcontent,
    hackMode, hissuedAt, hexpiresAt⟩

/-- Two envelopes that pass with one digest are the same, down to the order of their members, if they reply to the
same message. The hash need only tell their two texts apart. -/
theorem eq_iff_of_integrityDigest_eq (hhash : ¬ Collides sha256 (digested a) (digested b))
    (ha : verifyEnvelopeIntegrityDigest sha256 a = .ok ()) (hb : verifyEnvelopeIntegrityDigest sha256 b = .ok ())
    (hdigest : a.envelope.integrityDigest = b.envelope.integrityDigest) :
    a = b ↔ a.envelope.replyToMessageId = b.envelope.replyToMessageId := by
  rw [verifyEnvelopeIntegrityDigest_eq_ok] at ha hb
  have htext : digested a = digested b := eq_of_not_collides hhash (ha.symm.trans (hdigest.trans hb))
  constructor
  · intro h
    rw [h]
  · intro hreply
    obtain ⟨hmetadata, hsender, hrecipient, hpayload⟩ := members_of_digested_eq htext
    have hframe := fields_of_digested_eq htext
    rw [hreply] at hframe
    have henvelope : a.envelope = b.envelope := by
      cases ha' : a.envelope
      cases hb' : b.envelope
      rw [ha', hb'] at hframe hdigest
      simp only [CommunicationEnvelope.mk.injEq]
      exact ⟨hframe, hdigest⟩
    cases a
    cases b
    simp only [EnvelopeObject.mk.injEq]
    exact ⟨henvelope, hmetadata, hsender, hrecipient, hpayload⟩

/-- An envelope and the same one without its reference pass with one digest. -/
theorem not_injective_integrityDigest :
    ¬ ∃ sha256 : Json → IntegrityDigest, ∀ a b : EnvelopeObject,
      verifyEnvelopeIntegrityDigest sha256 a = .ok () → verifyEnvelopeIntegrityDigest sha256 b = .ok () →
      a.envelope.integrityDigest = b.envelope.integrityDigest → a.envelope = b.envelope := by
  rintro ⟨sha256, h⟩
  let sealed (replies : Bool) : EnvelopeObject := .literal
    { sampleReply replies with integrityDigest := sha256 (digested (.literal (sampleReply replies))) }
  have hverified : ∀ replies, verifyEnvelopeIntegrityDigest sha256 (sealed replies) = .ok () :=
    fun replies => verifyEnvelopeIntegrityDigest_eq_ok.2 rfl
  have hreply := h (sealed true) (sealed false) (hverified true) (hverified false) rfl
  cases congrArg (fun e => e.replyToMessageId) hreply

theorem eq_iff_of_integrityDigest_eq_sample :
    EnvelopeObject.literal (sampleReply true) = .literal (sampleReply false) ↔
      (sampleReply true).replyToMessageId = (sampleReply false).replyToMessageId :=
  @eq_iff_of_integrityDigest_eq sampleSha256 (.literal (sampleReply true)) (.literal (sampleReply false))
    (fun h => h.1 rfl) (verifyEnvelopeIntegrityDigest_eq_ok.2 rfl) (verifyEnvelopeIntegrityDigest_eq_ok.2 rfl) rfl

end Digest

end StrictWireCodec

end Cantilune
