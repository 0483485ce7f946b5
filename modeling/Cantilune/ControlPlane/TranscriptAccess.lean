import Cantilune.ControlPlane.NamespaceRegistry

/-!
# The transcript access workflow

An actor asks to read the transcript of another; the subject alone approves, denies or revokes. A decision
names the request by its id, or hands in a request record of the caller's own.
-/

namespace Cantilune

/-- A reference as a caller hands it in: the kind is any text. -/
structure CallerRef where
  actorId : ActorId
  kind : String
  deriving DecidableEq

/-- The reference, if its kind is one of the core's. -/
def CallerRef.actorRef? (caller : CallerRef) : Option ActorRef :=
  (ActorKind.all.find? fun kind => kind.name = caller.kind).map fun kind => { actorId := caller.actorId, kind }

def requireActorKind (caller : CallerRef) (field : String) (phase : ControlPlanePhase) :
    Except ControlPlaneViolation ActorRef :=
  match caller.actorRef? with
  | some ref => .ok ref
  | none =>
      .error (controlPlaneViolation .invalidInput phase s!"{field} kind is not a core ActorKind"
        (some s!"{field}.kind") none (some caller.kind))

structure RequestTranscriptAccessInput where
  requestId : TranscriptAccessRequestId
  requester : CallerRef
  subjectActorId : ActorId
  subjectNamespaceId : NamespaceId

structure DecideTranscriptAccessInput where
  decidedBy : CallerRef
  status : TranscriptAccessStatus
  requestId : Option TranscriptAccessRequestId
  request : Option TranscriptAccessRequest

/-- A capability to be admitted by the runtime, with the request that it answers. -/
structure TranscriptReadCapabilityDescription where
  capability : ScopedCapability
  request : TranscriptAccessRequest
  deriving DecidableEq

structure TranscriptAccessDecision where
  request : TranscriptAccessRequest
  capabilityDescription : Option TranscriptReadCapabilityDescription
  deriving DecidableEq

def canTransitionAccess («from» «to» : TranscriptAccessStatus) : Bool :=
  if «from» = «to» then true
  else if «from» = .requested then «to» = .approved || «to» = .denied || «to» = .revoked
  else «from» = .approved && «to» = .revoked

def emitTranscriptReadCapability (request : TranscriptAccessRequest) : TranscriptReadCapabilityDescription :=
  { request
    capability :=
      { capabilityId := s!"transcript-read:{request.requestId}", kind := .transcriptRead
        holder := request.requester.actorId
        scope := .transcript request.subjectActorId request.subjectNamespaceId } }

def requestTranscriptAccess (input : RequestTranscriptAccessInput) :
    Except ControlPlaneViolation TranscriptAccessRequest := do
  requireNonEmpty input.requestId "requestId" .validate
  requireNonEmpty input.requester.actorId "requester.actorId" .validate
  let requester ← requireActorKind input.requester "requester" .validate
  requireNonEmpty input.subjectActorId "subjectActorId" .validate
  requireNonEmpty input.subjectNamespaceId "subjectNamespaceId" .validate
  .ok (transcriptAccessRequest input.requestId requester input.subjectActorId input.subjectNamespaceId)

def decideTranscriptAccess (request : TranscriptAccessRequest) (decidedBy : CallerRef)
    (status : TranscriptAccessStatus) : Except ControlPlaneViolation TranscriptAccessDecision := do
  requireNonEmpty decidedBy.actorId "decidedBy.actorId" .authorize
  let decider ← requireActorKind decidedBy "decidedBy" .authorize
  if canDecideTranscriptAccess request decidedBy.actorId = false then
    .error (controlPlaneViolation .authorizationDenied .authorize
      "only the subject actor may decide transcript access" (some "decidedBy.actorId")
      (some request.subjectActorId) (some decidedBy.actorId))
  else if canTransitionAccess request.status status = false then
    .error (controlPlaneViolation .invalidInput .authorize
      s!"cannot {status.name} transcript access from {request.status.name}" (some "status")
      (some request.status.name) (some status.name))
  else
    let decided := request.decided decider status
    .ok { request := decided
          capabilityDescription := if status = .approved then some (emitTranscriptReadCapability decided) else none }

/-- The workflow: its request map, and the registry that it looks subject namespaces up in. -/
structure TranscriptAccessWorkflow where
  registry : Option NamespaceRegistry
  requests : OrdMap TranscriptAccessRequestId TranscriptAccessRequest

namespace TranscriptAccessWorkflow

/-- `createTranscriptAccessWorkflow`. -/
def create (registry : Option NamespaceRegistry) : TranscriptAccessWorkflow := { registry, requests := .empty }

def requestTranscriptAccess (workflow : TranscriptAccessWorkflow) (input : RequestTranscriptAccessInput) :
    Except ControlPlaneViolation TranscriptAccessRequest × TranscriptAccessWorkflow :=
  if workflow.requests.has input.requestId then
    (.error (controlPlaneViolation .idempotencyConflict .validate "transcript access request already exists"
      (some "requestId") none (some input.requestId)), workflow)
  else if workflow.registry.any fun registry => registry.has input.subjectNamespaceId = false then
    (.error (controlPlaneViolation .invalidInput .validate "subject namespace is not registered"
      (some "subjectNamespaceId") none (some input.subjectNamespaceId)), workflow)
  else
    match Cantilune.requestTranscriptAccess input with
    | .error violation => (.error violation, workflow)
    | .ok created => (.ok created, { workflow with requests := workflow.requests.set created.requestId created })

/-- The record that a decision is about: the caller's own, else the stored one of the id. -/
def current (workflow : TranscriptAccessWorkflow) (input : DecideTranscriptAccessInput) :
    Option TranscriptAccessRequest :=
  match input.request with
  | some request => some request
  | none => input.requestId.bind workflow.requests.get?

def decideTranscriptAccess (workflow : TranscriptAccessWorkflow) (input : DecideTranscriptAccessInput) :
    Except ControlPlaneViolation TranscriptAccessDecision × TranscriptAccessWorkflow :=
  match workflow.current input with
  | none =>
      (.error (controlPlaneViolation .invalidInput .authorize "transcript access request not found"
        (some "requestId")), workflow)
  | some current =>
      match Cantilune.decideTranscriptAccess current input.decidedBy input.status with
      | .error violation => (.error violation, workflow)
      | .ok decided =>
          (.ok decided,
            { workflow with requests := workflow.requests.set decided.request.requestId decided.request })

end TranscriptAccessWorkflow

/-- The calls on a workflow, those on the registry that it shares included. -/
inductive TranscriptAccessCall where
  | request (input : RequestTranscriptAccessInput)
  | decide (input : DecideTranscriptAccessInput)
  | «namespace» (call : NamespaceCall)

namespace TranscriptAccessCall

def run (localeCompare : LocaleCompare) (workflow : TranscriptAccessWorkflow) :
    TranscriptAccessCall → TranscriptAccessWorkflow
  | .request input => (workflow.requestTranscriptAccess input).2
  | .decide input => (workflow.decideTranscriptAccess input).2
  | .namespace call => { workflow with registry := workflow.registry.map fun s => (call.run localeCompare s).2 }

def Step (localeCompare : LocaleCompare) (s : TranscriptAccessWorkflow) (call : TranscriptAccessCall)
    (t : TranscriptAccessWorkflow) : Prop := t = call.run localeCompare s

end TranscriptAccessCall

end Cantilune
