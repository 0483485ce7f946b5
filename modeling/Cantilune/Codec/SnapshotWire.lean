import Cantilune.Codec.Wire

/-!
# The snapshot codec

A snapshot is written as the lists of its entities. The strict parser reads them back item by item, and the
decoder keys every entity by its own id.
-/

namespace Cantilune

/-! ## Writing -/

def Participant.toJson (p : Participant) : Json :=
  .record [("actorId", some (.str p.actorId)), ("kind", some (.str p.kind.name)),
    ("status", some (.str p.status.name)), ("namespaceId", some (.str p.namespaceId)),
    ("manifestRef", p.manifestRef.map .str)]

def WorkArtifact.toJson (a : WorkArtifact) : Json :=
  .record [("artifactId", some (.str a.artifactId)), ("kind", some (.str a.kind)),
    ("contentRef", some (.str a.contentRef)), ("owner", some a.owner.toJson),
    ("lifecycle", some (.str a.lifecycle.name))]

def LinkEndpoint.toJson : LinkEndpoint → Json
  | .participant actorId => .record [("kind", some (.str "participant")), ("actorId", some (.str actorId))]
  | .artifact artifactId => .record [("kind", some (.str "artifact")), ("artifactId", some (.str artifactId))]

def CollaborationLink.toJson (l : CollaborationLink) : Json :=
  .record [("linkId", some (.str l.linkId)), ("kind", some (.str l.kind.name)), ("from", some l.from.toJson),
    ("to", some l.to.toJson)]

def CommunicationSession.toJson (s : CommunicationSession) : Json :=
  .record [("sessionId", some (.str s.sessionId)), ("controller", some (.str s.controller)),
    ("participants", some (.arr (s.participants.map .str))), ("visibility", some (.str s.visibility.name))]

def CapabilityScope.toJson : CapabilityScope → Json
  | .artifact artifactId => .record [("kind", some (.str "artifact")), ("artifactId", some (.str artifactId))]
  | .session sessionId => .record [("kind", some (.str "session")), ("sessionId", some (.str sessionId))]
  | .transcript actorId namespaceId =>
      .record [("kind", some (.str "transcript")), ("actorId", some (.str actorId)),
        ("namespaceId", some (.str namespaceId))]

def ScopedCapability.toJson (c : ScopedCapability) : Json :=
  .record [("capabilityId", some (.str c.capabilityId)), ("kind", some (.str c.kind.name)),
    ("holder", some (.str c.holder)), ("scope", some c.scope.toJson)]

def ApprovalState.toJson : ApprovalState → Json
  | .none => .record [("kind", some (.str "none"))]
  | .awaitingReview reviewers =>
      .record [("kind", some (.str "awaiting_review")), ("reviewers", some (.arr (reviewers.map .str)))]
  | .approved evidenceRef =>
      .record [("kind", some (.str "approved")), ("evidenceRef", some (.str evidenceRef))]
  | .rejected evidenceRef =>
      .record [("kind", some (.str "rejected")), ("evidenceRef", some (.str evidenceRef))]

def RetryState.toJson : RetryState → Json
  | .idle => .record [("kind", some (.str "idle"))]
  | .awaitingFeedback attempt =>
      .record [("kind", some (.str "awaiting_feedback")), ("attempt", some (.num attempt))]
  | .exhausted => .record [("kind", some (.str "exhausted"))]

def PolicyContext.toJson (c : PolicyContext) : Json :=
  .record [("approvalState", some c.approvalState.toJson), ("retryState", some c.retryState.toJson)]

def ObservationEntry.toJson (e : ObservationEntry) : Json :=
  .record [("sequenceNo", some (.num e.sequenceNo)), ("source", some e.source.toJson),
    ("payloadRef", some (.str e.payloadRef)), ("receivedAt", some (.str e.receivedAt))]

def EntityTombstone.toJson (t : EntityTombstone) : Json :=
  .record [("entityId", some (.str t.entityId)), ("entityKind", some (.str t.entityKind.name)),
    ("retiredAt", some (.str t.retiredAt)), ("reasonRef", t.reasonRef.map .str)]

def HeartbeatEntry.toJson (e : HeartbeatEntry) : Json :=
  .record [("agentId", some (.str e.agentId)), ("sequenceNo", some (.num e.sequenceNo)),
    ("emittedAt", some (.str e.emittedAt)), ("turnCount", some (.num e.turnCount)),
    ("lastAction", some (.str e.lastAction))]

def CollaborationNamespace.toJson (n : CollaborationNamespace) : Json :=
  .record [("namespaceId", some (.str n.namespaceId)), ("displayName", some (.str n.displayName)),
    ("adminPrincipals", some (.arr (n.adminPrincipals.map .str)))]

def ParticipantTranscript.toJson (t : ParticipantTranscript) : Json :=
  .record [("actorId", some (.str t.actorId)), ("namespaceId", some (.str t.namespaceId)),
    ("revision", some (.num t.revision)), ("messages", some (.arr t.messages))]

def TranscriptAccessRequest.toJson (r : TranscriptAccessRequest) : Json :=
  .record [("requestId", some (.str r.requestId)), ("requester", some r.requester.toJson),
    ("subjectActorId", some (.str r.subjectActorId)), ("subjectNamespaceId", some (.str r.subjectNamespaceId)),
    ("status", some (.str r.status.name)), ("decidedBy", r.decidedBy.map ActorRef.toJson)]

/-! ## Reading entities -/

def ParticipationStatus.all : List ParticipationStatus := [.registered, .active, .waiting, .blocked, .done, .retired]

def ArtifactLifecycle.all : List ArtifactLifecycle := [.proposed, .active, .reviewable, .published, .retired]

def LinkKind.all : List LinkKind :=
  [.dependsOn, .waitsFor, .supplies, .reviews, .delegatesTo, .parallelWith, .nestedIn]

def SessionVisibility.all : List SessionVisibility := [.private, .shared]

def CapabilityKind.all : List CapabilityKind := [.writeLock, .budgetSlot, .approvalSlot, .toolLease, .transcriptRead]

def RetiredEntityKind.all : List RetiredEntityKind := [.participant, .session, .capability, .link, .artifact]

def TranscriptAccessStatus.all : List TranscriptAccessStatus := [.requested, .approved, .denied, .revoked]

/-- A text that may be missing, and otherwise must not be empty. -/
def parseOptionalText (message : String) (value : Option Json) (path : String) : CodecParse (Option String) :=
  match value with
  | none => .ok none
  | some (.str s) => if s = "" then fail path message else .ok (some s)
  | some _ => fail path message

/-- A participant without a namespace gets the default one when the snapshot is built. -/
def parseParticipantWire (value : Option Json) (path : String) : CodecParse Participant := do
  let record ← requireRecord value path "expected participant object"
  let actorId ← requireString record "actorId" path
  let kind ← parseName ActorKind.all ActorKind.name (record.get? "kind") s!"{path}.kind" "invalid participant kind"
  let status ← parseName ParticipationStatus.all ParticipationStatus.name (record.get? "status") s!"{path}.status"
    "invalid participation status"
  let manifestRef ← parseOptionalText "invalid manifest reference" (record.get? "manifestRef") s!"{path}.manifestRef"
  let namespaceId ← parseOptionalText "invalid namespace id" (record.get? "namespaceId") s!"{path}.namespaceId"
  .ok { actorId, kind, status, namespaceId := namespaceId.getD defaultNamespaceId, manifestRef }

def parseWorkArtifactWire (value : Option Json) (path : String) : CodecParse WorkArtifact := do
  let record ← requireRecord value path "expected artifact object"
  let artifactId ← requireString record "artifactId" path
  let kind ← requireString record "kind" path
  let contentRef ← requireString record "contentRef" path
  let owner ← parseActorRef (record.get? "owner") s!"{path}.owner"
  let lifecycle ← parseName ArtifactLifecycle.all ArtifactLifecycle.name (record.get? "lifecycle")
    s!"{path}.lifecycle" "invalid artifact lifecycle"
  .ok { artifactId, kind, contentRef, owner, lifecycle }

def parseLinkEndpointWire (value : Option Json) (path : String) : CodecParse LinkEndpoint := do
  let record ← requireRecord value path "expected link endpoint object"
  match record.get? "kind" with
  | some (.str "participant") => do
      let actorId ← requireString record "actorId" path
      .ok (.participant actorId)
  | some (.str "artifact") => do
      let artifactId ← requireString record "artifactId" path
      .ok (.artifact artifactId)
  | _ => fail s!"{path}.kind" "invalid link endpoint kind"

def parseCollaborationLinkWire (value : Option Json) (path : String) : CodecParse CollaborationLink := do
  let record ← requireRecord value path "expected link object"
  let linkId ← requireString record "linkId" path
  let kind ← parseName LinkKind.all LinkKind.name (record.get? "kind") s!"{path}.kind" "invalid link kind"
  let source ← parseLinkEndpointWire (record.get? "from") s!"{path}.from"
  let target ← parseLinkEndpointWire (record.get? "to") s!"{path}.to"
  .ok { linkId, kind, «from» := source, «to» := target }

def parseCommunicationSessionWire (value : Option Json) (path : String) : CodecParse CommunicationSession := do
  let record ← requireRecord value path "expected session object"
  let sessionId ← requireString record "sessionId" path
  let controller ← requireString record "controller" path
  let participants ← parseStringArray (record.get? "participants") s!"{path}.participants"
  let visibility ← parseName SessionVisibility.all SessionVisibility.name (record.get? "visibility")
    s!"{path}.visibility" "invalid session visibility"
  .ok { sessionId, controller, participants, visibility }

def parseCapabilityScope (value : Option Json) (path : String) : CodecParse CapabilityScope := do
  let record ← requireRecord value path "expected capability scope object"
  match record.get? "kind" with
  | some (.str "artifact") => do
      let artifactId ← requireString record "artifactId" path
      .ok (.artifact artifactId)
  | some (.str "session") => do
      let sessionId ← requireString record "sessionId" path
      .ok (.session sessionId)
  | some (.str "transcript") => do
      let actorId ← requireString record "actorId" path
      let namespaceId ← requireString record "namespaceId" path
      .ok (.transcript actorId namespaceId)
  | _ => fail s!"{path}.kind" "invalid capability scope kind"

def parseScopedCapabilityWire (value : Option Json) (path : String) : CodecParse ScopedCapability := do
  let record ← requireRecord value path "expected capability object"
  let capabilityId ← requireString record "capabilityId" path
  let kind ← parseName CapabilityKind.all CapabilityKind.name (record.get? "kind") s!"{path}.kind"
    "invalid capability kind"
  let holder ← requireString record "holder" path
  let scope ← parseCapabilityScope (record.get? "scope") s!"{path}.scope"
  .ok { capabilityId, kind, holder, scope }

def parseObservationEntryWire (value : Option Json) (path : String) : CodecParse ObservationEntry := do
  let record ← requireRecord value path "expected observation entry object"
  let sequenceNo ← parseNat (record.get? "sequenceNo") s!"{path}.sequenceNo"
    "expected non-negative integer sequenceNo"
  let source ← parseActorRef (record.get? "source") s!"{path}.source"
  let payloadRef ← requireString record "payloadRef" path
  let receivedAt ← requireString record "receivedAt" path
  .ok { sequenceNo, source, payloadRef, receivedAt }

def parseHeartbeatEntryWire (value : Option Json) (path : String) : CodecParse HeartbeatEntry := do
  let record ← requireRecord value path "expected heartbeat entry object"
  let sequenceNo ← parseNat (record.get? "sequenceNo") s!"{path}.sequenceNo"
    "expected non-negative integer sequenceNo"
  let turnCount ← parseNat (record.get? "turnCount") s!"{path}.turnCount"
    "expected non-negative integer turnCount"
  let agentId ← requireString record "agentId" path
  let emittedAt ← requireString record "emittedAt" path
  let lastAction ← requireString record "lastAction" path
  .ok { agentId, sequenceNo, emittedAt, turnCount, lastAction }

/-- The kinds of both states are only asked to be texts; the value itself is passed on. -/
def parsePolicyContextWire (value : Option Json) (path : String) : CodecParse Json := do
  let record ← requireRecord value path "expected policyContext object"
  let approvalState ← requireRecord (record.get? "approvalState") s!"{path}.approvalState"
    "expected approvalState object"
  let retryState ← requireRecord (record.get? "retryState") s!"{path}.retryState" "expected retryState object"
  match approvalState.get? "kind", retryState.get? "kind" with
  | some (.str _), some (.str _) => .ok record
  | _, _ => fail path "invalid policyContext state kinds"

/-- Any text, the empty one included. -/
def parseText (message : String) (value : Option Json) (path : String) : CodecParse String :=
  match value with
  | some (.str s) => .ok s
  | _ => fail path message

def parseEntityTombstoneWire (value : Option Json) (path : String) : CodecParse EntityTombstone := do
  let record ← requireRecord value path "expected tombstone object"
  let entityId ← requireString record "entityId" path
  let entityKind ← parseName RetiredEntityKind.all RetiredEntityKind.name (record.get? "entityKind")
    s!"{path}.entityKind" "invalid retired entity kind"
  let retiredAt ← requireString record "retiredAt" path
  let reasonRef ← parseOptional (parseText "expected string reasonRef") (record.get? "reasonRef") s!"{path}.reasonRef"
  .ok { entityId, entityKind, retiredAt, reasonRef }

/-- `value ?? []`. -/
def orEmptyArray (value : Option Json) : Option Json :=
  match value with
  | none | some .null => some (.arr [])
  | some v => some v

def parseNamespaceWire (value : Option Json) (path : String) : CodecParse CollaborationNamespace := do
  let record ← requireRecord value path "expected namespace object"
  let namespaceId ← requireString record "namespaceId" path
  let displayName ← requireString record "displayName" path
  let adminPrincipals ← parseStringArray (orEmptyArray (record.get? "adminPrincipals")) s!"{path}.adminPrincipals"
  .ok { namespaceId, displayName, adminPrincipals }

def parseTranscriptAccessRequestWire (value : Option Json) (path : String) :
    CodecParse TranscriptAccessRequest := do
  let record ← requireRecord value path "expected transcript access request object"
  let requestId ← requireString record "requestId" path
  let requester ← parseActorRef (record.get? "requester") s!"{path}.requester"
  let subjectActorId ← requireString record "subjectActorId" path
  let subjectNamespaceId ← requireString record "subjectNamespaceId" path
  let status ← parseName TranscriptAccessStatus.all TranscriptAccessStatus.name (record.get? "status")
    s!"{path}.status" "invalid transcript access status"
  let decidedBy ← parseOptional parseActorRef (record.get? "decidedBy") s!"{path}.decidedBy"
  .ok { requestId, requester, subjectActorId, subjectNamespaceId, status, decidedBy }

/-! ## Reading transcripts -/

structure TranscriptToolCall where
  id : String
  name : String
  arguments : String
  deriving DecidableEq

/-- The rows that the parser builds; on a snapshot they are objects again. -/
inductive TranscriptRow where
  | system (content : String)
  | user (content : String)
  | assistant (content : String) (toolCalls : Option (List TranscriptToolCall))
  | tool (toolCallId content : String)
  deriving DecidableEq

def TranscriptToolCall.toJson (c : TranscriptToolCall) : Json :=
  .record [("id", some (.str c.id)), ("name", some (.str c.name)), ("arguments", some (.str c.arguments))]

def TranscriptRow.toJson : TranscriptRow → Json
  | .system content => .record [("role", some (.str "system")), ("content", some (.str content))]
  | .user content => .record [("role", some (.str "user")), ("content", some (.str content))]
  | .assistant content toolCalls =>
      .record [("role", some (.str "assistant")), ("content", some (.str content)),
        ("toolCalls", toolCalls.map fun calls => .arr (calls.map TranscriptToolCall.toJson))]
  | .tool toolCallId content =>
      .record [("role", some (.str "tool")), ("toolCallId", some (.str toolCallId)),
        ("content", some (.str content))]

def parseTranscriptToolCall (value : Option Json) (path : String) : CodecParse TranscriptToolCall := do
  let record ← requireRecord value path "expected tool call object"
  let id ← requireString record "id" path
  let name ← requireString record "name" path
  let arguments ← parseText "expected string at arguments" (record.get? "arguments") s!"{path}.arguments"
  .ok { id, name, arguments }

def parseTranscriptToolCalls (value : Option Json) (path : String) :
    CodecParse (Option (List TranscriptToolCall)) :=
  parseOptional (parseArrayOf "expected toolCalls array" parseTranscriptToolCall) value path

def parseTranscriptRow (value : Option Json) (path : String) : CodecParse TranscriptRow := do
  let record ← requireRecord value path "expected transcript message object"
  let role ← parseText "invalid transcript message role" (record.get? "role") s!"{path}.role"
  if role ∉ ["system", "user", "assistant", "tool"] then
    fail s!"{path}.role" "invalid transcript message role"
  else do
    let content ← parseText "expected string at content" (record.get? "content") s!"{path}.content"
    if role = "tool" then do
      let toolCallId ← requireString record "toolCallId" path
      .ok (.tool toolCallId content)
    else if role = "assistant" then do
      let toolCalls ← parseTranscriptToolCalls (record.get? "toolCalls") s!"{path}.toolCalls"
      .ok (.assistant content toolCalls)
    else if role = "system" then .ok (.system content)
    else .ok (.user content)

/-- Members that a row of its role does not have are dropped. -/
def parseTranscriptMessageWire (value : Option Json) (path : String) : CodecParse TranscriptMessage :=
  (parseTranscriptRow value path).map TranscriptRow.toJson

def parseTranscriptWire (value : Option Json) (path : String) : CodecParse ParticipantTranscript := do
  let record ← requireRecord value path "expected transcript object"
  let actorId ← requireString record "actorId" path
  let namespaceId ← requireString record "namespaceId" path
  let revision ← parseNat (record.get? "revision") s!"{path}.revision" "expected non-negative integer revision"
  let messages ← parseEntityArray (record.get? "messages") s!"{path}.messages" parseTranscriptMessageWire
  .ok { actorId, namespaceId, revision, messages }

/-! ## Whole snapshots -/

structure SnapshotWireDto where
  snapshotRef : String
  epochId : String
  participants : List Participant
  artifacts : List WorkArtifact
  links : List CollaborationLink
  sessions : List CommunicationSession
  capabilities : List ScopedCapability
  policyContext : Json
  auditTail : List ObservationEntry
  retiredEntities : List EntityTombstone
  heartbeatLog : List HeartbeatEntry
  namespaces : List CollaborationNamespace
  transcripts : List ParticipantTranscript
  transcriptAccessRequests : List TranscriptAccessRequest

def encodeSnapshot (snapshot : CollaborationSnapshot) : SnapshotWireDto where
  snapshotRef := snapshot.snapshotRef
  epochId := snapshot.epochId
  participants := snapshot.participants.values
  artifacts := snapshot.artifacts.values
  links := snapshot.links.values
  sessions := snapshot.sessions.values
  capabilities := snapshot.capabilities.values
  policyContext := snapshot.policyContext.toJson
  auditTail := snapshot.auditTail
  retiredEntities := snapshot.retiredEntities
  heartbeatLog := snapshot.heartbeatLog
  namespaces := snapshot.namespaces.values
  transcripts := snapshot.transcripts.values
  transcriptAccessRequests := snapshot.transcriptAccessRequests.values

def SnapshotWireDto.toJson (dto : SnapshotWireDto) : Json :=
  .record
    [("snapshotRef", some (.str dto.snapshotRef)), ("epochId", some (.str dto.epochId)),
      ("participants", some (.arr (dto.participants.map Participant.toJson))),
      ("artifacts", some (.arr (dto.artifacts.map WorkArtifact.toJson))),
      ("links", some (.arr (dto.links.map CollaborationLink.toJson))),
      ("sessions", some (.arr (dto.sessions.map CommunicationSession.toJson))),
      ("capabilities", some (.arr (dto.capabilities.map ScopedCapability.toJson))),
      ("policyContext", some dto.policyContext),
      ("auditTail", some (.arr (dto.auditTail.map ObservationEntry.toJson))),
      ("retiredEntities", some (.arr (dto.retiredEntities.map EntityTombstone.toJson))),
      ("heartbeatLog", some (.arr (dto.heartbeatLog.map HeartbeatEntry.toJson))),
      ("namespaces", some (.arr (dto.namespaces.map CollaborationNamespace.toJson))),
      ("transcripts", some (.arr (dto.transcripts.map ParticipantTranscript.toJson))),
      ("transcriptAccessRequests",
        some (.arr (dto.transcriptAccessRequests.map TranscriptAccessRequest.toJson)))]

def parseSnapshotWire (value : Json) : CodecParse SnapshotWireDto := do
  let input ← requireRecord (some value) "snapshot" "expected snapshot wire object"
  let snapshotRef ← requireString input "snapshotRef" "snapshot"
  let epochId ← requireString input "epochId" "snapshot"
  let participants ← parseEntityArray (input.get? "participants") "snapshot.participants" parseParticipantWire
  let artifacts ← parseEntityArray (input.get? "artifacts") "snapshot.artifacts" parseWorkArtifactWire
  let links ← parseEntityArray (input.get? "links") "snapshot.links" parseCollaborationLinkWire
  let sessions ← parseEntityArray (input.get? "sessions") "snapshot.sessions" parseCommunicationSessionWire
  let capabilities ← parseEntityArray (input.get? "capabilities") "snapshot.capabilities"
    parseScopedCapabilityWire
  let auditTail ← parseEntityArray (input.get? "auditTail") "snapshot.auditTail" parseObservationEntryWire
  let retiredEntities ← parseEntityArray (input.get? "retiredEntities") "snapshot.retiredEntities"
    parseEntityTombstoneWire
  let policyContext ← parsePolicyContextWire (input.get? "policyContext") "snapshot.policyContext"
  let heartbeatLog ← parseEntityArray (orEmptyArray (input.get? "heartbeatLog")) "snapshot.heartbeatLog"
    parseHeartbeatEntryWire
  let namespaces ← parseEntityArray (orEmptyArray (input.get? "namespaces")) "snapshot.namespaces"
    parseNamespaceWire
  let transcripts ← parseEntityArray (orEmptyArray (input.get? "transcripts")) "snapshot.transcripts"
    parseTranscriptWire
  let transcriptAccessRequests ← parseEntityArray (orEmptyArray (input.get? "transcriptAccessRequests"))
    "snapshot.transcriptAccessRequests" parseTranscriptAccessRequestWire
  .ok
    { snapshotRef, epochId, participants, artifacts, links, sessions, capabilities, policyContext, auditTail,
      retiredEntities, heartbeatLog, namespaces, transcripts, transcriptAccessRequests }

/-! ## Decoding -/

/-- The strings of an array of nothing else. -/
def stringsOf? : List Json → Option (List String)
  | [] => some []
  | .str s :: values => (stringsOf? values).map fun ss => s :: ss
  | _ :: _ => none

def approvalStateOf? (value : Json) : Option ApprovalState :=
  match value.get? "kind" with
  | some (.str "none") => some .none
  | some (.str "awaiting_review") =>
      match value.get? "reviewers" with
      | some (.arr reviewers) => (stringsOf? reviewers).map .awaitingReview
      | _ => Option.none
  | some (.str "approved") => ((value.get? "evidenceRef").bind Json.str?).map .approved
  | some (.str "rejected") => ((value.get? "evidenceRef").bind Json.str?).map .rejected
  | _ => Option.none

def retryStateOf? (value : Json) : Option RetryState :=
  match value.get? "kind" with
  | some (.str "idle") => some .idle
  | some (.str "awaiting_feedback") =>
      match value.get? "attempt" with
      | some (.num q) => if q.den = 1 ∧ 0 ≤ q.num then some (.awaitingFeedback q.num.toNat) else none
      | _ => none
  | some (.str "exhausted") => some .exhausted
  | _ => none

/-- The copy of a policy context; `none` stands for one that is none of the declared kinds. -/
def clonePolicyContext? (value : Json) : Option PolicyContext :=
  (value.get? "approvalState").bind fun approval =>
    (value.get? "retryState").bind fun retry =>
      (approvalStateOf? approval).bind fun approvalState =>
        (retryStateOf? retry).map fun retryState => { approvalState, retryState }

inductive SnapshotDecodeFailure where
  | violation (v : RuntimeViolation)
  | untypedPolicyContext
  deriving DecidableEq, Repr

def decodeSnapshot (dto : SnapshotWireDto) : Except SnapshotDecodeFailure CollaborationSnapshot :=
  match clonePolicyContext? dto.policyContext with
  | none => .error .untypedPolicyContext
  | some policyContext =>
      .ok
        { snapshotRef := dto.snapshotRef
          epochId := dto.epochId
          participants := .keyedBy (·.actorId) dto.participants
          artifacts := .keyedBy (·.artifactId) dto.artifacts
          links := .keyedBy (·.linkId) dto.links
          sessions := .keyedBy (·.sessionId) dto.sessions
          capabilities := .keyedBy (·.capabilityId) dto.capabilities
          policyContext
          auditTail := dto.auditTail
          retiredEntities := dto.retiredEntities
          heartbeatLog := dto.heartbeatLog
          namespaces := withDefaultNamespace (.keyedBy (·.namespaceId) dto.namespaces)
          transcripts := .keyedBy (·.actorId) dto.transcripts
          transcriptAccessRequests := .keyedBy (·.requestId) dto.transcriptAccessRequests
          defaultRegistered := withDefaultNamespace_has _ }

def decodeSnapshotFromUnknown (input : Json) : Except SnapshotDecodeFailure CollaborationSnapshot :=
  match parseSnapshotWire input with
  | .error v => .error (.violation v)
  | .ok dto => decodeSnapshot dto

end Cantilune
