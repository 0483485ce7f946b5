import Cantilune.Core.Nodes

/-!
# The collaboration snapshot

The complete world at one instant, the updates the operation handlers are written with, and the sense in
which two snapshots hold the same world. A snapshot of this type is a frozen one: every participant has
its namespace, and the default namespace is registered.
-/

namespace Cantilune

structure CollaborationSnapshot where
  snapshotRef : SnapshotRef
  epochId : EpochId
  participants : OrdMap ActorId Participant
  artifacts : OrdMap ArtifactId WorkArtifact
  links : OrdMap LinkId CollaborationLink
  sessions : OrdMap SessionId CommunicationSession
  capabilities : OrdMap CapabilityId ScopedCapability
  policyContext : PolicyContext
  auditTail : List ObservationEntry
  retiredEntities : List EntityTombstone
  heartbeatLog : List HeartbeatEntry
  namespaces : OrdMap NamespaceId CollaborationNamespace
  transcripts : OrdMap ActorId ParticipantTranscript
  transcriptAccessRequests : OrdMap TranscriptAccessRequestId TranscriptAccessRequest
  defaultRegistered : namespaces.has defaultNamespaceId = true
  deriving DecidableEq

def withDefaultNamespace (namespaces : OrdMap NamespaceId CollaborationNamespace) :
    OrdMap NamespaceId CollaborationNamespace :=
  if namespaces.has defaultNamespaceId then namespaces else namespaces.set defaultNamespaceId defaultNamespace

theorem withDefaultNamespace_has (namespaces : OrdMap NamespaceId CollaborationNamespace) :
    (withDefaultNamespace namespaces).has defaultNamespaceId = true := by
  unfold withDefaultNamespace
  split
  · assumption
  · simp [OrdMap.has]

theorem noNamespaces_has : (withDefaultNamespace .empty).has defaultNamespaceId = true :=
  withDefaultNamespace_has _

theorem withDefaultNamespace_of_has {namespaces : OrdMap NamespaceId CollaborationNamespace}
    (h : namespaces.has defaultNamespaceId = true) : withDefaultNamespace namespaces = namespaces := by
  simp [withDefaultNamespace, h]

/-- The world with nothing in it. -/
def emptySnapshot (snapshotRef : SnapshotRef) (epochId : EpochId) : CollaborationSnapshot where
  snapshotRef := snapshotRef
  epochId := epochId
  participants := .empty
  artifacts := .empty
  links := .empty
  sessions := .empty
  capabilities := .empty
  policyContext := emptyPolicyContext
  auditTail := []
  retiredEntities := []
  heartbeatLog := []
  namespaces := withDefaultNamespace .empty
  transcripts := .empty
  transcriptAccessRequests := .empty
  defaultRegistered := noNamespaces_has

/-! ## Updates -/

def withParticipant (snapshot : CollaborationSnapshot) (participant : Participant) : CollaborationSnapshot :=
  { snapshot with participants := snapshot.participants.set participant.actorId participant }

def withArtifact (snapshot : CollaborationSnapshot) (artifact : WorkArtifact) : CollaborationSnapshot :=
  { snapshot with artifacts := snapshot.artifacts.set artifact.artifactId artifact }

def withLink (snapshot : CollaborationSnapshot) (link : CollaborationLink) : CollaborationSnapshot :=
  { snapshot with links := snapshot.links.set link.linkId link }

def withSession (snapshot : CollaborationSnapshot) (session : CommunicationSession) : CollaborationSnapshot :=
  { snapshot with sessions := snapshot.sessions.set session.sessionId session }

def withCapability (snapshot : CollaborationSnapshot) (capability : ScopedCapability) :
    CollaborationSnapshot :=
  { snapshot with capabilities := snapshot.capabilities.set capability.capabilityId capability }

def withTranscript (snapshot : CollaborationSnapshot) (transcript : ParticipantTranscript) :
    CollaborationSnapshot :=
  { snapshot with transcripts := snapshot.transcripts.set transcript.actorId transcript }

def appendHeartbeat (snapshot : CollaborationSnapshot) (entry : HeartbeatEntry) : CollaborationSnapshot :=
  { snapshot with heartbeatLog := snapshot.heartbeatLog ++ [entry] }

def withSnapshotRef (snapshot : CollaborationSnapshot) (snapshotRef : SnapshotRef) : CollaborationSnapshot :=
  { snapshot with snapshotRef }

def nextSequenceNo (stream : List ObservationEntry) : Nat :=
  match stream.getLast? with
  | none => 1
  | some last => last.sequenceNo + 1

/-- Appends an observation; the entry gets the next number, so the append-only check always passes. -/
def appendObservation (snapshot : CollaborationSnapshot) (source : ActorRef) (payloadRef : ContentRef)
    (receivedAt : Timestamp) : CollaborationSnapshot :=
  { snapshot with
    auditTail := snapshot.auditTail ++
      [{ sequenceNo := nextSequenceNo snapshot.auditTail, source, payloadRef, receivedAt }] }

/-- The same world under a new reference, in the next epoch. -/
def snapshotWithAdvancedEpoch (before : CollaborationSnapshot) (afterRef : SnapshotRef)
    (targetEpochId : EpochId) : CollaborationSnapshot :=
  { before with
    snapshotRef := afterRef
    epochId := targetEpochId }

/-! ## The same world -/

/-- Equal in every field but the reference of the snapshot itself; maps count as maps. -/
structure SameWorld (s t : CollaborationSnapshot) : Prop where
  epochId : s.epochId = t.epochId
  participants : s.participants.Equiv t.participants
  artifacts : s.artifacts.Equiv t.artifacts
  links : s.links.Equiv t.links
  sessions : s.sessions.Equiv t.sessions
  capabilities : s.capabilities.Equiv t.capabilities
  policyContext : s.policyContext = t.policyContext
  auditTail : s.auditTail = t.auditTail
  retiredEntities : s.retiredEntities = t.retiredEntities
  heartbeatLog : s.heartbeatLog = t.heartbeatLog
  namespaces : s.namespaces.Equiv t.namespaces
  transcripts : s.transcripts.Equiv t.transcripts
  transcriptAccessRequests : s.transcriptAccessRequests.Equiv t.transcriptAccessRequests

theorem SameWorld.refl (s : CollaborationSnapshot) : SameWorld s s :=
  ⟨rfl, .refl _, .refl _, .refl _, .refl _, .refl _, rfl, rfl, rfl, rfl, .refl _, .refl _, .refl _⟩

end Cantilune

/-!
## Who sees which transcript

Peers of one namespace see a transcript in full; a reader of another namespace sees a summary unless a
grant for the pair is in the snapshot.
-/

namespace Cantilune

inductive TranscriptVisibility where
  | full (transcript : ParticipantTranscript)
  | summary (transcript : ParticipantTranscript)
  | absent
  deriving DecidableEq

def namespaceOf (snapshot : CollaborationSnapshot) (actorId : ActorId) : NamespaceId :=
  match snapshot.participants.get? actorId with
  | some p => p.namespaceId
  | none => defaultNamespaceId

def ScopedCapability.grantsRead (capability : ScopedCapability) (reader subject : ActorId) : Bool :=
  capability.kind = .transcriptRead && capability.holder = reader &&
    match capability.scope with
    | .transcript actorId _ => actorId = subject
    | _ => false

def TranscriptAccessRequest.grantsRead (request : TranscriptAccessRequest) (reader subject : ActorId) : Bool :=
  request.status = .approved && request.requester.actorId = reader && request.subjectActorId = subject

def hasApprovedTranscriptRead (snapshot : CollaborationSnapshot) (reader subject : ActorId) : Bool :=
  (snapshot.capabilities.values.any fun c => c.grantsRead reader subject) ||
    snapshot.transcriptAccessRequests.values.any fun r => r.grantsRead reader subject

def visibleTranscript (snapshot : CollaborationSnapshot) (reader subject : ActorId) : TranscriptVisibility :=
  match snapshot.transcripts.get? subject with
  | none => .absent
  | some transcript =>
      if reader = subject ∨ namespaceOf snapshot reader = namespaceOf snapshot subject then .full transcript
      else if hasApprovedTranscriptRead snapshot reader subject then .full transcript
      else .summary (summarizeTranscript transcript)

def TranscriptVisibility.isFull : TranscriptVisibility → Bool
  | .full _ => true
  | _ => false

theorem visibleTranscript_isFull {s : CollaborationSnapshot} {reader subject : ActorId} :
    (visibleTranscript s reader subject).isFull = true ↔
      s.transcripts.has subject = true ∧ (reader = subject ∨ namespaceOf s reader = namespaceOf s subject ∨
        hasApprovedTranscriptRead s reader subject = true) := by
  unfold visibleTranscript
  cases ht : s.transcripts.get? subject with
  | none => simp [TranscriptVisibility.isFull, OrdMap.has, ht]
  | some t =>
      have hhas : s.transcripts.has subject = true := OrdMap.has_of_get? ht
      simp only [hhas, true_and]
      split
      · simp_all [TranscriptVisibility.isFull, ← or_assoc]
      · split
        · simp_all [TranscriptVisibility.isFull]
        · simp_all [TranscriptVisibility.isFull]

end Cantilune
