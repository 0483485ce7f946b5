import Cantilune.Core.Snapshot

/-!
# Snapshot integrity

The referential checks that admission makes on the world before an operation and the committer on the
world after it. Each check returns the first violation it finds, in the order of the source;
`Integrity` says what a snapshot without violations satisfies.
-/

namespace Cantilune

/-! ## Violations -/

inductive CoreViolationCode where
  | beforeRefChainBroken | epochMismatch | auditTailHistoryMismatch | observationSequenceInvalid
  | footprintUndercoversTargets | snapshotIntegrity | actorNotFound | actorKindMismatch
  | runHistoryInvalid | matchBindingsInvalid
  deriving DecidableEq, Repr

structure CoreViolation where
  code : CoreViolationCode
  message : String
  path : Option String := none
  expected : Option String := none
  actual : Option String := none
  deriving DecidableEq, Repr

def failUnless (c : Prop) [Decidable c] (v : CoreViolation) : Option CoreViolation :=
  if c then none else some v

@[simp] theorem failUnless_eq_none {c : Prop} [Decidable c] {v : CoreViolation} :
    failUnless c v = none ↔ c := by
  unfold failUnless
  split <;> simp_all

def integrityViolation (message path : String) : CoreViolation :=
  { code := .snapshotIntegrity, message, path := some path }

def requireRegisteredActor (actorId : ActorId) (participants : OrdMap ActorId Participant) (path : String) :
    Option CoreViolation :=
  failUnless (participants.has actorId)
    { code := .actorNotFound, message := s!"unregistered actor {actorId}", path := some path }

def validateActorRef (ref : ActorRef) (participants : OrdMap ActorId Participant) (path : String) :
    Option CoreViolation :=
  match resolveActorRef ref participants with
  | .ok _ => none
  | .error (.notFound _) =>
      some { code := .actorNotFound, message := "unregistered actor " ++ ref.actorId, path := some path }
  | .error (.kindMismatch _ _ actual) =>
      some
        { code := .actorKindMismatch
          message := "actor kind mismatch for " ++ ref.actorId ++ ": ref=" ++ ref.kind.name ++
            ", registered=" ++ actual.name
          path := some path, expected := some ref.kind.name, actual := some actual.name }

def validateLinkEndpoint (endpoint : LinkEndpoint) (snapshot : CollaborationSnapshot) (path : String) :
    Option CoreViolation :=
  match endpoint with
  | .participant actorId => requireRegisteredActor actorId snapshot.participants path
  | .artifact artifactId =>
      failUnless (snapshot.artifacts.has artifactId)
        (integrityViolation s!"link endpoint references missing artifact {artifactId}" path)

/-! ## The checks of one snapshot -/

def validateParticipants (snapshot : CollaborationSnapshot) : Option CoreViolation :=
  snapshot.participants.entries.findSome? fun (key, participant) =>
    (failUnless (key = participant.actorId)
      (integrityViolation "participant map key does not match actorId" s!"participants[{key}]")).or
    (failUnless (snapshot.namespaces.has participant.namespaceId)
      (integrityViolation "participant namespace is not registered" s!"participants[{key}].namespaceId"))

def validateArtifacts (snapshot : CollaborationSnapshot) : Option CoreViolation :=
  snapshot.artifacts.entries.findSome? fun (key, artifact) =>
    (failUnless (key = artifact.artifactId)
      (integrityViolation "artifact map key does not match artifactId" s!"artifacts[{key}]")).or
    (validateActorRef artifact.owner snapshot.participants ("artifacts[" ++ artifact.artifactId ++ "].owner"))

def validatePolicyContext (snapshot : CollaborationSnapshot) : Option CoreViolation :=
  match snapshot.policyContext.approvalState with
  | .awaitingReview reviewers =>
      reviewers.findSome? fun reviewerId =>
        failUnless (snapshot.participants.has reviewerId)
          (integrityViolation s!"policy reviewer {reviewerId} is not a registered participant"
            "policyContext.approvalState.reviewers")
  | _ => none

def validateAuditTail (snapshot : CollaborationSnapshot) : Option CoreViolation :=
  snapshot.auditTail.zipIdx.findSome? fun (entry, i) =>
    let expectedSeq := i + 1
    let sequenceNo := entry.sequenceNo
    (failUnless (sequenceNo = expectedSeq)
      { code := .observationSequenceInvalid
        message := s!"auditTail sequence gap at index {i}: expected {expectedSeq}, got {sequenceNo}"
        path := some s!"auditTail[{i}].sequenceNo"
        expected := some (toString expectedSeq), actual := some (toString sequenceNo) }).or
    (validateActorRef entry.source snapshot.participants s!"auditTail[{i}].source")

def validateCapabilities (snapshot : CollaborationSnapshot) : Option CoreViolation :=
  snapshot.capabilities.entries.findSome? fun (key, capability) =>
    let id := capability.capabilityId
    let scopePath := s!"capabilities[{id}].scope"
    ((failUnless (key = id)
      (integrityViolation "capability map key does not match capabilityId" s!"capabilities[{key}]")).or
    (requireRegisteredActor capability.holder snapshot.participants s!"capabilities[{id}].holder")).or
    (match capability.scope with
      | .artifact artifactId =>
          failUnless (snapshot.artifacts.has artifactId)
            (integrityViolation "capability scope references missing artifact" scopePath)
      | .session sessionId =>
          failUnless (snapshot.sessions.has sessionId)
            (integrityViolation "capability scope references missing session" scopePath)
      | .transcript actorId namespaceId =>
          (failUnless (snapshot.participants.has actorId)
            (integrityViolation "capability scope references missing transcript actor" scopePath)).or
          (failUnless (snapshot.namespaces.has namespaceId)
            (integrityViolation "capability scope references missing transcript namespace" scopePath)))

def validateSessions (snapshot : CollaborationSnapshot) : Option CoreViolation :=
  snapshot.sessions.entries.findSome? fun (key, session) =>
    let id := session.sessionId
    ((failUnless (key = id)
      (integrityViolation "session map key does not match sessionId" s!"sessions[{key}]")).or
    (requireRegisteredActor session.controller snapshot.participants s!"sessions[{id}].controller")).or
    (session.participants.findSome? fun member =>
      requireRegisteredActor member snapshot.participants s!"sessions[{id}].participants")

def validateLinks (snapshot : CollaborationSnapshot) : Option CoreViolation :=
  snapshot.links.entries.findSome? fun (key, link) =>
    let id := link.linkId
    ((failUnless (key = id)
      (integrityViolation "link map key does not match linkId" s!"links[{key}]")).or
    (validateLinkEndpoint link.from snapshot s!"links[{id}].from")).or
    (validateLinkEndpoint link.to snapshot s!"links[{id}].to")

def liveEntityExists (snapshot : CollaborationSnapshot) (entityId : String) : RetiredEntityKind → Bool
  | .participant => snapshot.participants.has entityId
  | .artifact => snapshot.artifacts.has entityId
  | .session => snapshot.sessions.has entityId
  | .capability => snapshot.capabilities.has entityId
  | .link => snapshot.links.has entityId

def validateRetiredEntities (snapshot : CollaborationSnapshot) : Option CoreViolation :=
  snapshot.retiredEntities.findSome? fun tombstone =>
    failUnless (liveEntityExists snapshot tombstone.entityId tombstone.entityKind = false)
      (integrityViolation ("live entity still present for tombstone " ++ tombstone.entityId) "retiredEntities")

def validateNamespaces (snapshot : CollaborationSnapshot) : Option CoreViolation :=
  snapshot.namespaces.entries.findSome? fun (key, ns) =>
    failUnless (key = ns.namespaceId)
      (integrityViolation "namespace map key does not match namespaceId" s!"namespaces[{key}]")

def validateTranscripts (snapshot : CollaborationSnapshot) : Option CoreViolation :=
  snapshot.transcripts.entries.findSome? fun (key, transcript) =>
    ((failUnless (key = transcript.actorId)
      (integrityViolation "transcript map key does not match actorId" s!"transcripts[{key}]")).or
    (requireRegisteredActor transcript.actorId snapshot.participants s!"transcripts[{key}].actorId")).or
    (failUnless (snapshot.namespaces.has transcript.namespaceId)
      (integrityViolation "transcript namespace is not registered" s!"transcripts[{key}].namespaceId"))

def validateTranscriptAccessRequests (snapshot : CollaborationSnapshot) : Option CoreViolation :=
  snapshot.transcriptAccessRequests.entries.findSome? fun (key, request) =>
    (((failUnless (key = request.requestId)
      (integrityViolation "transcript access request map key does not match requestId"
        s!"transcriptAccessRequests[{key}]")).or
    (validateActorRef request.requester snapshot.participants
      s!"transcriptAccessRequests[{key}].requester")).or
    (requireRegisteredActor request.subjectActorId snapshot.participants
      s!"transcriptAccessRequests[{key}].subjectActorId")).or
    (failUnless (snapshot.namespaces.has request.subjectNamespaceId)
      (integrityViolation "transcript access request namespace is not registered"
        s!"transcriptAccessRequests[{key}].subjectNamespaceId"))

/-- The checks in the order of the source. -/
def integrityChecks : List (CollaborationSnapshot → Option CoreViolation) :=
  [validateParticipants, validateArtifacts, validatePolicyContext, validateAuditTail, validateCapabilities,
    validateSessions, validateLinks, validateRetiredEntities, validateNamespaces, validateTranscripts,
    validateTranscriptAccessRequests]

/-- The first violation of a snapshot, or `none` where the source returns `ok`. -/
def validateSnapshotIntegrityResult (snapshot : CollaborationSnapshot) : Option CoreViolation :=
  integrityChecks.findSome? fun check => check snapshot

/-! ## What an intact snapshot satisfies -/

def ResolvesIn (participants : OrdMap ActorId Participant) (ref : ActorRef) : Prop :=
  ∃ p, participants.get? ref.actorId = some p ∧ p.kind = ref.kind

def EndpointLive (snapshot : CollaborationSnapshot) : LinkEndpoint → Prop
  | .participant actorId => snapshot.participants.has actorId = true
  | .artifact artifactId => snapshot.artifacts.has artifactId = true

def ScopeLive (snapshot : CollaborationSnapshot) : CapabilityScope → Prop
  | .artifact artifactId => snapshot.artifacts.has artifactId = true
  | .session sessionId => snapshot.sessions.has sessionId = true
  | .transcript actorId namespaceId =>
      snapshot.participants.has actorId = true ∧ snapshot.namespaces.has namespaceId = true

/-- Every map key is the id of its entry, and every reference points to a live entity. -/
structure Integrity (s : CollaborationSnapshot) : Prop where
  participants : ∀ k p, s.participants.get? k = some p → k = p.actorId ∧ s.namespaces.has p.namespaceId
  artifacts : ∀ k a, s.artifacts.get? k = some a → k = a.artifactId ∧ ResolvesIn s.participants a.owner
  policy : ∀ rs, s.policyContext.approvalState = .awaitingReview rs → ∀ r ∈ rs, s.participants.has r
  auditTail : ∀ e i, (e, i) ∈ s.auditTail.zipIdx → e.sequenceNo = i + 1 ∧ ResolvesIn s.participants e.source
  capabilities : ∀ k c, s.capabilities.get? k = some c →
    k = c.capabilityId ∧ s.participants.has c.holder ∧ ScopeLive s c.scope
  sessions : ∀ k c, s.sessions.get? k = some c →
    k = c.sessionId ∧ s.participants.has c.controller ∧ ∀ m ∈ c.participants, s.participants.has m
  links : ∀ k l, s.links.get? k = some l → k = l.linkId ∧ EndpointLive s l.from ∧ EndpointLive s l.to
  retired : ∀ t ∈ s.retiredEntities, liveEntityExists s t.entityId t.entityKind = false
  namespaces : ∀ k n, s.namespaces.get? k = some n → k = n.namespaceId
  transcripts : ∀ k t, s.transcripts.get? k = some t →
    k = t.actorId ∧ s.participants.has t.actorId ∧ s.namespaces.has t.namespaceId
  requests : ∀ k r, s.transcriptAccessRequests.get? k = some r →
    k = r.requestId ∧ ResolvesIn s.participants r.requester ∧ s.participants.has r.subjectActorId ∧
      s.namespaces.has r.subjectNamespaceId

theorem validateActorRef_eq_none {ref : ActorRef} {ps : OrdMap ActorId Participant} {path : String} :
    validateActorRef ref ps path = none ↔ ResolvesIn ps ref := by
  unfold validateActorRef resolveActorRef ResolvesIn
  cases hp : ps.get? ref.actorId with
  | none => simp
  | some p =>
      by_cases hk : p.kind = ref.kind
      · simp [hk]
      · simp [hk]

theorem validateLinkEndpoint_eq_none {e : LinkEndpoint} {s : CollaborationSnapshot} {path : String} :
    validateLinkEndpoint e s path = none ↔ EndpointLive s e := by
  cases e <;> simp [validateLinkEndpoint, requireRegisteredActor, EndpointLive]

theorem validatePolicyContext_eq_none {s : CollaborationSnapshot} : validatePolicyContext s = none ↔
    ∀ rs, s.policyContext.approvalState = .awaitingReview rs → ∀ r ∈ rs, s.participants.has r = true := by
  unfold validatePolicyContext
  cases h : s.policyContext.approvalState <;> simp

theorem validateCapabilities_eq_none {s : CollaborationSnapshot} : validateCapabilities s = none ↔
    ∀ k c, s.capabilities.get? k = some c →
      k = c.capabilityId ∧ s.participants.has c.holder = true ∧ ScopeLive s c.scope := by
  simp only [validateCapabilities, List.findSome?_eq_none_iff, Prod.forall, OrdMap.mem_entries]
  refine forall_congr' fun k => forall_congr' fun c => imp_congr_right fun _ => ?_
  obtain ⟨id, kind, holder, scope⟩ := c
  cases scope <;> simp [requireRegisteredActor, ScopeLive, and_assoc]

/-- The checks find no violation exactly on the intact snapshots. -/
theorem validateSnapshotIntegrityResult_eq_none {s : CollaborationSnapshot} :
    validateSnapshotIntegrityResult s = none ↔ Integrity s := by
  have hchecks : validateSnapshotIntegrityResult s = none ↔ ∀ check ∈ integrityChecks, check s = none := by
    unfold validateSnapshotIntegrityResult
    rw [List.findSome?_eq_none_iff]
  rw [hchecks]
  simp only [integrityChecks, List.mem_cons, List.not_mem_nil, or_false, forall_eq_or_imp, forall_eq,
    validatePolicyContext_eq_none, validateCapabilities_eq_none]
  simp only [validateParticipants, validateArtifacts, validateAuditTail, validateSessions, validateLinks,
    validateRetiredEntities, validateNamespaces, validateTranscripts, validateTranscriptAccessRequests,
    OrdMap.mem_entries, Option.or_eq_none_iff, failUnless_eq_none, requireRegisteredActor,
    validateActorRef_eq_none, validateLinkEndpoint_eq_none, List.findSome?_eq_none_iff, Prod.forall, and_assoc]
  constructor
  · rintro ⟨h₁, h₂, h₃, h₄, h₅, h₆, h₇, h₈, h₉, h₁₀, h₁₁⟩
    exact ⟨h₁, h₂, h₃, h₄, h₅, h₆, h₇, h₈, h₉, h₁₀, h₁₁⟩
  · rintro ⟨h₁, h₂, h₃, h₄, h₅, h₆, h₇, h₈, h₉, h₁₀, h₁₁⟩
    exact ⟨h₁, h₂, h₃, h₄, h₅, h₆, h₇, h₈, h₉, h₁₀, h₁₁⟩

instance (s : CollaborationSnapshot) : Decidable (Integrity s) :=
  decidable_of_iff _ validateSnapshotIntegrityResult_eq_none

end Cantilune
