import Cantilune.Base.Json

/-!
# Nodes of the collaboration world

Identifiers, references and the records that a snapshot holds. Identifiers are branded strings in the
source and plain strings here.
-/

namespace Cantilune

/-! ## Identifiers and references -/

abbrev ActorId := String
abbrev ChangeId := String
abbrev ArtifactId := String
abbrev LinkId := String
abbrev SessionId := String
abbrev CapabilityId := String
abbrev EpochId := String
abbrev OperationTypeId := String
abbrev EvidenceId := String
abbrev NamespaceId := String
abbrev TranscriptAccessRequestId := String
abbrev SnapshotRef := String
abbrev ContentRef := String
abbrev Timestamp := String

def defaultNamespaceId : NamespaceId := "default"

/-! ## Participants -/

inductive ActorKind where
  | human | agent | tool | reviewer | runtime | environment
  deriving DecidableEq, Repr

def ActorKind.name : ActorKind → String
  | .human => "human"
  | .agent => "agent"
  | .tool => "tool"
  | .reviewer => "reviewer"
  | .runtime => "runtime"
  | .environment => "environment"

def ActorKind.all : List ActorKind := [.human, .agent, .tool, .reviewer, .runtime, .environment]

inductive ParticipationStatus where
  | registered | active | waiting | blocked | done | retired
  deriving DecidableEq, Repr

def ParticipationStatus.name : ParticipationStatus → String
  | .registered => "registered"
  | .active => "active"
  | .waiting => "waiting"
  | .blocked => "blocked"
  | .done => "done"
  | .retired => "retired"

/-- A registered participant. A snapshot stores it with its namespace filled in. -/
structure Participant where
  actorId : ActorId
  kind : ActorKind
  status : ParticipationStatus
  namespaceId : NamespaceId
  manifestRef : Option ContentRef
  deriving DecidableEq

/-- The constructor of the source, with its defaults. -/
def participant (actorId : ActorId) (kind : ActorKind) (status : ParticipationStatus := .active)
    (manifestRef : Option ContentRef := none) (namespaceId : NamespaceId := defaultNamespaceId) :
    Participant :=
  { actorId, kind, status, namespaceId, manifestRef }

structure ActorRef where
  actorId : ActorId
  kind : ActorKind
  deriving DecidableEq

inductive ResolveActorRefError where
  | notFound (actorId : ActorId)
  | kindMismatch (actorId : ActorId) (expected actual : ActorKind)
  deriving DecidableEq

def resolveActorRef (ref : ActorRef) (participants : OrdMap ActorId Participant) :
    Except ResolveActorRefError Participant :=
  match participants.get? ref.actorId with
  | none => .error (.notFound ref.actorId)
  | some found =>
      if found.kind ≠ ref.kind then .error (.kindMismatch ref.actorId ref.kind found.kind) else .ok found

inductive ArtifactLifecycle where
  | proposed | active | reviewable | published | retired
  deriving DecidableEq, Repr

def ArtifactLifecycle.name : ArtifactLifecycle → String
  | .proposed => "proposed"
  | .active => "active"
  | .reviewable => "reviewable"
  | .published => "published"
  | .retired => "retired"

structure WorkArtifact where
  artifactId : ArtifactId
  kind : String
  contentRef : ContentRef
  owner : ActorRef
  lifecycle : ArtifactLifecycle
  deriving DecidableEq

def withArtifactLifecycle (artifact : WorkArtifact) (lifecycle : ArtifactLifecycle) : WorkArtifact :=
  { artifact with lifecycle }

def withArtifactOwner (artifact : WorkArtifact) (owner : ActorRef) : WorkArtifact :=
  { artifact with owner }

/-! ## Links -/

inductive LinkKind where
  | dependsOn | waitsFor | supplies | reviews | delegatesTo | parallelWith | nestedIn
  deriving DecidableEq, Repr

def LinkKind.name : LinkKind → String
  | .dependsOn => "depends_on"
  | .waitsFor => "waits_for"
  | .supplies => "supplies"
  | .reviews => "reviews"
  | .delegatesTo => "delegates_to"
  | .parallelWith => "parallel_with"
  | .nestedIn => "nested_in"

inductive LinkEndpoint where
  | participant (actorId : ActorId)
  | artifact (artifactId : ArtifactId)
  deriving DecidableEq

structure CollaborationLink where
  linkId : LinkId
  kind : LinkKind
  «from» : LinkEndpoint
  «to» : LinkEndpoint
  deriving DecidableEq

def collaborationLink (linkId : LinkId) (kind : LinkKind) («from» «to» : LinkEndpoint) : CollaborationLink :=
  { linkId, kind, «from», «to» }

inductive SessionVisibility where
  | «private» | shared
  deriving DecidableEq, Repr

def SessionVisibility.name : SessionVisibility → String
  | .private => "private"
  | .shared => "shared"

structure CommunicationSession where
  sessionId : SessionId
  controller : ActorId
  participants : List ActorId
  visibility : SessionVisibility
  deriving DecidableEq

def communicationSession (sessionId : SessionId) (controller : ActorId) (participants : List ActorId)
    (visibility : SessionVisibility := .private) : CommunicationSession :=
  { sessionId, controller, participants, visibility }

/-! ## Capabilities -/

inductive CapabilityKind where
  | writeLock | budgetSlot | approvalSlot | toolLease | transcriptRead
  deriving DecidableEq, Repr

def CapabilityKind.name : CapabilityKind → String
  | .writeLock => "write_lock"
  | .budgetSlot => "budget_slot"
  | .approvalSlot => "approval_slot"
  | .toolLease => "tool_lease"
  | .transcriptRead => "transcript_read"

inductive CapabilityScope where
  | artifact (artifactId : ArtifactId)
  | session (sessionId : SessionId)
  | transcript (actorId : ActorId) (namespaceId : NamespaceId)
  deriving DecidableEq

structure ScopedCapability where
  capabilityId : CapabilityId
  kind : CapabilityKind
  holder : ActorId
  scope : CapabilityScope
  deriving DecidableEq

def withCapabilityHolder (capability : ScopedCapability) (holder : ActorId) : ScopedCapability :=
  { capability with holder }

inductive ApprovalState where
  | none
  | awaitingReview (reviewers : List String)
  | approved (evidenceRef : String)
  | rejected (evidenceRef : String)
  deriving DecidableEq

inductive RetryState where
  | idle
  | awaitingFeedback (attempt : Nat)
  | exhausted
  deriving DecidableEq

structure PolicyContext where
  approvalState : ApprovalState
  retryState : RetryState
  deriving DecidableEq

def emptyPolicyContext : PolicyContext := { approvalState := .none, retryState := .idle }

/-! ## Logs -/

structure ObservationEntry where
  sequenceNo : Nat
  source : ActorRef
  payloadRef : ContentRef
  receivedAt : Timestamp
  deriving DecidableEq

inductive RetiredEntityKind where
  | participant | session | capability | link | artifact
  deriving DecidableEq, Repr

def RetiredEntityKind.name : RetiredEntityKind → String
  | .participant => "participant"
  | .session => "session"
  | .capability => "capability"
  | .link => "link"
  | .artifact => "artifact"

structure EntityTombstone where
  entityId : String
  entityKind : RetiredEntityKind
  retiredAt : Timestamp
  reasonRef : Option String
  deriving DecidableEq

structure HeartbeatEntry where
  agentId : ActorId
  sequenceNo : Nat
  emittedAt : Timestamp
  turnCount : Nat
  lastAction : String
  deriving DecidableEq

def nextHeartbeatSeq (log : List HeartbeatEntry) (agentId : ActorId) : Nat :=
  log.foldl (fun most entry =>
    if entry.agentId = agentId ∧ entry.sequenceNo > most then entry.sequenceNo else most) 0 + 1

/-! ## Namespaces and transcripts -/

structure CollaborationNamespace where
  namespaceId : NamespaceId
  displayName : String
  adminPrincipals : List ActorId
  deriving DecidableEq

def defaultNamespace : CollaborationNamespace :=
  { namespaceId := defaultNamespaceId, displayName := "default", adminPrincipals := [] }

/-- A transcript row as it was parsed: an object whose further members nobody looked at. -/
abbrev TranscriptMessage := Json

structure ParticipantTranscript where
  actorId : ActorId
  namespaceId : NamespaceId
  messages : List TranscriptMessage
  revision : Nat
  deriving DecidableEq

def participantTranscript (actorId : ActorId) (messages : List TranscriptMessage)
    (namespaceId : NamespaceId := defaultNamespaceId) (revision : Nat := 0) : ParticipantTranscript :=
  { actorId, namespaceId, messages, revision }

def utf16Length (s : String) : Nat :=
  s.toList.foldl (fun n c => n + (if c.toNat < 0x10000 then 1 else 2)) 0

def summarizeMessage (message : TranscriptMessage) : TranscriptMessage :=
  let role := ((message.get? "role").bind Json.str?).getD ""
  let content := ((message.get? "content").bind Json.str?).getD ""
  if role = "tool" then
    .obj ([("role", .str "tool")] ++ ((message.get? "toolCallId").map fun id => ("toolCallId", id)).toList
      ++ [("content", .str "[redacted]")])
  else
    .obj [("role", .str role), ("content", .str s!"[{role} {utf16Length content} chars]")]

def summarizeTranscript (transcript : ParticipantTranscript) : ParticipantTranscript :=
  { transcript with messages := transcript.messages.map summarizeMessage }

inductive TranscriptAccessStatus where
  | requested | approved | denied | revoked
  deriving DecidableEq, Repr

def TranscriptAccessStatus.name : TranscriptAccessStatus → String
  | .requested => "requested"
  | .approved => "approved"
  | .denied => "denied"
  | .revoked => "revoked"

structure TranscriptAccessRequest where
  requestId : TranscriptAccessRequestId
  requester : ActorRef
  subjectActorId : ActorId
  subjectNamespaceId : NamespaceId
  status : TranscriptAccessStatus
  decidedBy : Option ActorRef
  deriving DecidableEq

def transcriptAccessRequest (requestId : TranscriptAccessRequestId) (requester : ActorRef)
    (subjectActorId : ActorId) (subjectNamespaceId : NamespaceId)
    (status : TranscriptAccessStatus := .requested) (decidedBy : Option ActorRef := none) :
    TranscriptAccessRequest :=
  { requestId, requester, subjectActorId, subjectNamespaceId, status, decidedBy }

/-- The core's `decideTranscriptAccess`. -/
def TranscriptAccessRequest.decided (request : TranscriptAccessRequest) (decidedBy : ActorRef)
    (status : TranscriptAccessStatus) : TranscriptAccessRequest :=
  { request with status, decidedBy := some decidedBy }

def canDecideTranscriptAccess (request : TranscriptAccessRequest) (actorId : ActorId) : Bool :=
  request.subjectActorId = actorId

end Cantilune
