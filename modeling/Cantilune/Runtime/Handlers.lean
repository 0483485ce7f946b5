import Cantilune.Base.Outcomes
import Cantilune.Runtime.Recipe
import Cantilune.Runtime.Schema

/-!
# The built-in operation handlers

Each handler recomputes the world after an operation from the world before it and the recipe. A handler
refuses with a reason, or throws when it has to name a participant that is not there.
-/

namespace Cantilune

/-! ## Results -/

inductive ApplyFailure where
  | refused (reason : String)
  | thrown (violation : RuntimeViolation)
  deriving DecidableEq, Repr

structure Applied where
  after : CollaborationSnapshot
  involved : List ActorRef
  createdSessionRefs : List SessionId
  deriving DecidableEq

abbrev ApplyResult := Except ApplyFailure Applied

structure ApplyContext where
  template : OperationTemplate

abbrev OperationHandler := CollaborationSnapshot → ReplayRecipe → ApplyContext → ApplyResult

def required {α : Type} (value : Option α) (reason : String) : Except ApplyFailure α :=
  match value with
  | some a => .ok a
  | none => .error (.refused reason)

def refuseIf (c : Prop) [Decidable c] (reason : String) : Except ApplyFailure Unit :=
  if c then .error (.refused reason) else .ok ()

@[simp] theorem required_eq_ok {α : Type} {value : Option α} {reason : String} {a : α} :
    required value reason = .ok a ↔ value = some a := by
  cases value <;> simp [required]

@[simp] theorem refuseIf_eq_ok {c : Prop} [Decidable c] {reason : String} {u : Unit} :
    refuseIf c reason = .ok u ↔ ¬ c := by
  unfold refuseIf
  split <;> simp_all

def actorRefFromSnapshot (snapshot : CollaborationSnapshot) (actorId : ActorId) :
    Except ApplyFailure ActorRef :=
  match snapshot.participants.get? actorId with
  | none =>
      .error (.thrown
        { code := .applyFailed
          message := "cannot build an actor ref for \"" ++ actorId ++ "\": no such participant in the snapshot"
          path := some "snapshot.participants" })
  | some participant => .ok { actorId, kind := participant.kind }

def actorRefsFromSnapshot (snapshot : CollaborationSnapshot) :
    List ActorId → Except ApplyFailure (List ActorRef)
  | [] => .ok []
  | id :: ids => do
      let ref ← actorRefFromSnapshot snapshot id
      let refs ← actorRefsFromSnapshot snapshot ids
      .ok (ref :: refs)

def lifecycleTransitions : List (ParticipationStatus × ParticipationStatus) :=
  [(.registered, .active), (.waiting, .active), (.active, .done), (.active, .retired),
    (.active, .waiting), (.active, .blocked), (.done, .retired), (.blocked, .active)]

def validateTransition («from» «to» : ParticipationStatus) : Bool :=
  lifecycleTransitions.contains («from», «to»)

def transitionReason («from» «to» : ParticipationStatus) : String :=
  "invalid lifecycle transition: " ++ ParticipationStatus.name «from» ++ " → " ++ ParticipationStatus.name «to»

def defaultWriteLockId (taskId : ArtifactId) : CapabilityId := s!"write-lock-{taskId}"

def introduceTask (before : CollaborationSnapshot) (recipe : ReplayRecipe) (taskId : ArtifactId)
    (content : ContentRef) (owner : ActorRef) : CollaborationSnapshot :=
  let capabilityId := (findRole recipe.matchBindings .capability).getD (defaultWriteLockId taskId)
  let task : WorkArtifact :=
    { artifactId := taskId, kind := "Task", contentRef := content, owner, lifecycle := .active }
  let writeLock : ScopedCapability :=
    { capabilityId, kind := .writeLock, holder := owner.actorId, scope := .artifact taskId }
  withCapability (withArtifact before task) writeLock

def introduceArtifactHandler : OperationHandler := fun before recipe _ => do
  let (taskId, fromId) ← required
    ((findRole recipe.matchBindings .task).bind fun t =>
      (findRole recipe.matchBindings .from).map fun f => (t, f))
    "introduce_artifact requires task and from bindings"
  refuseIf (before.artifacts.has taskId) s!"artifact already exists: {taskId}"
  let content ← required recipe.inputContentRefs[0]? "introduce_artifact requires an input contentRef"
  let owner ← actorRefFromSnapshot before fromId
  let involved ← actorRefsFromSnapshot before [fromId]
  .ok { after := introduceTask before recipe taskId content owner, involved, createdSessionRefs := [] }

def publishArtifactHandler : OperationHandler := fun before recipe _ => do
  let artifactId ← required
    ((findRole recipe.matchBindings .task).or (findRole recipe.matchBindings .artifact))
    "publish_artifact requires task binding"
  let artifact ← required (before.artifacts.get? artifactId) s!"artifact not found: {artifactId}"
  let involved ← actorRefsFromSnapshot before (findRole recipe.matchBindings .from).toList
  .ok
    { after := withArtifact before (withArtifactLifecycle artifact .published)
      involved, createdSessionRefs := [] }

def reviewerParticipantId (recipe : ReplayRecipe) (fromId toId : ActorId) : Option ActorId :=
  (boundIds recipe.matchBindings .participant).find? fun id => id ≠ fromId ∧ id ≠ toId

/-- The link by which a reviewer waits for the new owner; an unknown reviewer is registered on the way. -/
def linkReviewer (after : CollaborationSnapshot) (recipe : ReplayRecipe) (fromId toId : ActorId) :
    CollaborationSnapshot :=
  match reviewerParticipantId recipe fromId toId, recipe.freshLinkRefs[0]? with
  | some reviewerId, some linkRef =>
      let after :=
        if after.participants.has reviewerId then after
        else withParticipant after (participant reviewerId .reviewer)
      withLink after (collaborationLink linkRef .waitsFor (.participant reviewerId) (.participant toId))
  | _, _ => after

structure DelegateBindings where
  taskId : ArtifactId
  fromId : ActorId
  toId : ActorId
  capabilityId : CapabilityId

def delegateBindings (recipe : ReplayRecipe) : Option DelegateBindings :=
  (findRole recipe.matchBindings .task).bind fun taskId =>
    (findRole recipe.matchBindings .from).bind fun fromId =>
      (findRole recipe.matchBindings .to).bind fun toId =>
        (findRole recipe.matchBindings .capability).map fun capabilityId =>
          { taskId, fromId, toId, capabilityId }

def delegateHandler : OperationHandler := fun before recipe _ => do
  let b ← required (delegateBindings recipe) "delegate requires task/from/to/capability bindings"
  let (task, writeLock) ← required
    ((before.artifacts.get? b.taskId).bind fun task =>
      (before.capabilities.get? b.capabilityId).map fun lock => (task, lock))
    "missing task or capability before delegate"
  let toRef ← actorRefFromSnapshot before b.toId
  let after := withArtifact before (withArtifactOwner task toRef)
  let after := withCapability after (withCapabilityHolder writeLock b.toId)
  let sessionId ← required recipe.createdSessionRefs[0]? "delegate recipe missing createdSessionRefs[0]"
  let after := withSession after (communicationSession sessionId b.toId [b.toId, b.fromId])
  let after := linkReviewer after recipe b.fromId b.toId
  let involved ← actorRefsFromSnapshot before [b.fromId, b.toId]
  .ok { after, involved, createdSessionRefs := [sessionId] }

/-! ## Sessions and branches -/

/-- One link for each pair, under the fresh references in their order. -/
def linkPairs (kind : LinkKind) (reason : String) :
    CollaborationSnapshot → List (ActorId × ActorId) → List LinkId → Except ApplyFailure CollaborationSnapshot
  | after, [], _ => .ok after
  | _, _ :: _, [] => .error (.refused reason)
  | after, (left, right) :: pairs, linkRef :: linkRefs =>
      linkPairs kind reason
        (withLink after (collaborationLink linkRef kind (.participant left) (.participant right))) pairs linkRefs

def sessionParticipants (recipe : ReplayRecipe) (controllerId : ActorId) : List ActorId :=
  uniqueIds (controllerId :: boundIds recipe.matchBindings .participant)

def createSessionHandler : OperationHandler := fun before recipe _ => do
  let controllerId ← required (findRole recipe.matchBindings .from) "create_session requires from binding"
  let sessionId ← required (recipe.createdSessionRefs[0]?.or (findRole recipe.matchBindings .session))
    "create_session recipe missing session ref"
  refuseIf (before.sessions.has sessionId) s!"session already exists: {sessionId}"
  let participants := sessionParticipants recipe controllerId
  let after := withSession before (communicationSession sessionId controllerId participants)
  let members := (participants.filter fun m => m ≠ controllerId).map fun m => (controllerId, m)
  let after ← linkPairs .nestedIn "create_session recipe missing freshLinkRefs" after members recipe.freshLinkRefs
  let involved ← actorRefsFromSnapshot before participants
  .ok { after, involved, createdSessionRefs := [sessionId] }

/-- The pairs of a list, each element with all that follow it. -/
def pairwise : List ActorId → List (ActorId × ActorId)
  | [] => []
  | x :: xs => (xs.map fun y => (x, y)) ++ pairwise xs

/-- Creates the branch's task and its write lock, when the recipe binds one. -/
def applyTaskArtifact (before : CollaborationSnapshot) (recipe : ReplayRecipe) (controllerId : ActorId) :
    Except ApplyFailure CollaborationSnapshot :=
  match findRole recipe.matchBindings .task with
  | none => do
      refuseIf (recipe.inputContentRefs.length > 0) "fork_branch input contentRef requires a task binding"
      .ok before
  | some taskId => do
      refuseIf (before.artifacts.has taskId) s!"artifact already exists: {taskId}"
      let content ← required recipe.inputContentRefs[0]?
        "fork_branch with a task binding requires an input contentRef"
      let owner ← actorRefFromSnapshot before controllerId
      .ok (introduceTask before recipe taskId content owner)

def forkBranchHandler : OperationHandler := fun before recipe _ => do
  let controllerId ← required (findRole recipe.matchBindings .from) "fork_branch requires from binding"
  let withTask ← applyTaskArtifact before recipe controllerId
  let linked ← linkPairs .parallelWith "fork_branch recipe missing freshLinkRefs" withTask
    (pairwise (sessionParticipants recipe controllerId)) recipe.freshLinkRefs
  let involved ← actorRefsFromSnapshot before [controllerId]
  .ok { after := linked, involved, createdSessionRefs := [] }

def transferSessionHandler : OperationHandler := fun before recipe _ => do
  let fromId := findRole recipe.matchBindings .from
  let (sessionId, toId) ← required
    ((findRole recipe.matchBindings .session).bind fun s =>
      (findRole recipe.matchBindings .to).map fun t => (s, t))
    "transfer_session requires session and to bindings"
  let session ← required (before.sessions.get? sessionId) s!"session not found: {sessionId}"
  refuseIf (fromId.any fun f => session.controller ≠ f)
    "transfer_session requires from to be current controller"
  let participants :=
    if session.participants.contains toId then session.participants else session.participants ++ [toId]
  let involved ← actorRefsFromSnapshot before (fromId.toList ++ [toId])
  .ok
    { after := withSession before
        (communicationSession session.sessionId toId participants session.visibility)
      involved, createdSessionRefs := [] }

def registerParticipantHandler : OperationHandler := fun before recipe _ => do
  let fromId ← required (findRole recipe.matchBindings .from) "register_participant requires 'from' binding"
  let participantId ← required (findRole recipe.matchBindings .participant)
    "register_participant requires 'participant' binding"
  let fromParticipant ← required (before.participants.get? fromId) s!"initiator not found: {fromId}"
  refuseIf (fromParticipant.status ≠ .active)
    ("initiator must be active, got: " ++ fromParticipant.status.name)
  refuseIf (before.participants.has participantId) "participant already registered"
  let after := withParticipant before (participant participantId .agent .registered)
  let involved ← actorRefsFromSnapshot after [fromId, participantId]
  .ok { after, involved, createdSessionRefs := [] }

def activateParticipantHandler : OperationHandler := fun before recipe _ => do
  let fromId ← required (findRole recipe.matchBindings .from) "activate_participant requires 'from' binding"
  let participantId ← required (findRole recipe.matchBindings .participant)
    "activate_participant requires 'participant' binding"
  let fromParticipant ← required (before.participants.get? fromId) s!"initiator not found: {fromId}"
  refuseIf (fromParticipant.status ≠ .active)
    ("initiator must be active, got: " ++ fromParticipant.status.name)
  let target ← required (before.participants.get? participantId) s!"participant not found: {participantId}"
  refuseIf (validateTransition target.status .active = false) (transitionReason target.status .active)
  let manifestRef := recipe.inputContentRefs[0]?
  refuseIf (target.kind = .agent ∧ manifestRef = none)
    "activate_participant requires a manifest ref for agent participants"
  refuseIf (target.kind ≠ .agent ∧ manifestRef ≠ none)
    ("activate_participant does not accept a manifest ref for non-agent participants (kind: " ++
      target.kind.name ++ ")")
  let after := withParticipant before (participant participantId target.kind .active manifestRef)
  let involved ← actorRefsFromSnapshot after [fromId, participantId]
  .ok { after, involved, createdSessionRefs := [] }

def signalDoneHandler : OperationHandler := fun before recipe _ => do
  let fromId ← required (findRole recipe.matchBindings .from) "signal_done requires 'from' binding"
  let current ← required (before.participants.get? fromId) s!"participant not found: {fromId}"
  refuseIf (validateTransition current.status .done = false) (transitionReason current.status .done)
  let after := withParticipant before (participant fromId current.kind .done)
  let involved ← actorRefsFromSnapshot before [fromId]
  .ok { after, involved, createdSessionRefs := [] }

def retireParticipantHandler : OperationHandler := fun before recipe _ => do
  let fromId ← required (findRole recipe.matchBindings .from) "retire_participant requires 'from' binding"
  let targetId := (findRole recipe.matchBindings .participant).getD fromId
  let current ← required (before.participants.get? targetId) s!"participant not found: {targetId}"
  refuseIf (validateTransition current.status .retired = false) (transitionReason current.status .retired)
  let after := withParticipant before (participant targetId current.kind .retired)
  let involved ← actorRefsFromSnapshot before [fromId, targetId]
  .ok { after, involved, createdSessionRefs := [] }

/-! ## Heartbeats and transcripts -/

/-- The participant, unless there is none or it is retired. -/
def livingParticipant (snapshot : CollaborationSnapshot) (actorId : ActorId) : Option Participant :=
  (snapshot.participants.get? actorId).filter fun p => p.status ≠ .retired

def OperationScalarValue.string? : OperationScalarValue → Option String
  | .string s => some s
  | _ => none

def OperationScalarValue.safeNat? : OperationScalarValue → Option Nat
  | .number n => n.safeNat?
  | _ => none

def nonEmptyStringInput (inputs : OperationScalarInputs) (name : String) : Option String :=
  ((inputs.get? name).bind (·.string?)).filter fun s => s ≠ ""

def emitHeartbeatHandler : OperationHandler := fun before recipe _ => do
  let fromId ← required (findRole recipe.matchBindings .from) "emit_heartbeat requires 'from' binding"
  let _ ← required (livingParticipant before fromId) "cannot heartbeat from non-existent or retired participant"
  let emittedAt ← required recipe.emittedAt "emit_heartbeat recipe missing replay-authoritative emittedAt"
  refuseIf (recipe.scalarInputs.size ≠ 2 ∨ recipe.scalarInputs.has "turnCount" = false ∨
      recipe.scalarInputs.has "lastAction" = false)
    "emit_heartbeat requires exactly scalar inputs 'turnCount' and 'lastAction'"
  let turnCount ← required ((recipe.scalarInputs.get? "turnCount").bind (·.safeNat?))
    "emit_heartbeat scalar input 'turnCount' must be a non-negative safe integer"
  let lastAction ← required (nonEmptyStringInput recipe.scalarInputs "lastAction")
    "emit_heartbeat scalar input 'lastAction' must be a non-empty string"
  let sequenceNo := nextHeartbeatSeq before.heartbeatLog fromId
  let after := appendHeartbeat before { agentId := fromId, sequenceNo, emittedAt, turnCount, lastAction }
  let involved ← actorRefsFromSnapshot before [fromId]
  .ok { after, involved, createdSessionRefs := [] }

def isTranscriptMessage (value : Json) : Bool :=
  ((value.get? "content").bind Json.str?).isSome &&
    match (value.get? "role").bind Json.str? with
    | some "system" | some "user" | some "assistant" => true
    | some "tool" => ((value.get? "toolCallId").bind Json.str?).isSome
    | _ => false

def transcriptRows : Json → Option (List TranscriptMessage)
  | .arr rows => if rows.all isTranscriptMessage then some rows else none
  | _ => none

def commitTranscriptHandler : OperationHandler := fun before recipe _ => do
  let fromId ← required (findRole recipe.matchBindings .from) "commit_transcript requires 'from' binding"
  let current ← required (livingParticipant before fromId)
    "cannot commit transcript for missing or retired participant"
  let messagesJson ← required (nonEmptyStringInput recipe.scalarInputs "messagesJson")
    "commit_transcript requires scalar input 'messagesJson'"
  let parsed ← required (Json.parse messagesJson) "commit_transcript messagesJson is not valid JSON"
  let rows ← required (transcriptRows parsed)
    "commit_transcript messagesJson must be a TranscriptMessage array"
  let revision := ((recipe.scalarInputs.get? "revision").bind (·.safeNat?)).getD
    (((before.transcripts.get? fromId).map (·.revision)).getD 0 + 1)
  let after := withTranscript before (participantTranscript fromId rows current.namespaceId revision)
  let involved ← actorRefsFromSnapshot before [fromId]
  .ok { after, involved, createdSessionRefs := [] }

/-! ## The registry -/

structure OperationHandlerRegistry where
  handlers : OrdMap String OperationHandler

namespace OperationHandlerRegistry

def register (registry : OperationHandlerRegistry) (operationTypeId : OperationTypeId)
    (handler : OperationHandler) (revision : String) : OperationHandlerRegistry :=
  let handlers := registry.handlers.set s!"{operationTypeId}@{revision}" handler
  if handlers.has operationTypeId then { handlers }
  else { handlers := handlers.set operationTypeId handler }

def get (registry : OperationHandlerRegistry) (operationTypeId : OperationTypeId) (revision : Option String) :
    Option OperationHandler :=
  match revision with
  | some revision => registry.handlers.get? s!"{operationTypeId}@{revision}"
  | none => registry.handlers.get? operationTypeId

end OperationHandlerRegistry

/-- The operations that the repository brings along. -/
inductive BuiltinOperation where
  | introduceArtifact | delegate | createSession | forkBranch | publishArtifact | transferSession
  | registerParticipant | activateParticipant | signalDone | retireParticipant | emitHeartbeat
  | commitTranscript
  deriving DecidableEq, Repr

namespace BuiltinOperation

def all : List BuiltinOperation :=
  [introduceArtifact, delegate, createSession, forkBranch, publishArtifact, transferSession,
    registerParticipant, activateParticipant, signalDone, retireParticipant, emitHeartbeat, commitTranscript]

def template : BuiltinOperation → OperationTemplate
  | introduceArtifact => introduceArtifactTemplate
  | delegate => delegateTemplate
  | createSession => createSessionTemplate
  | forkBranch => forkBranchTemplate
  | publishArtifact => publishArtifactTemplate
  | transferSession => transferSessionTemplate
  | registerParticipant => registerParticipantTemplate
  | activateParticipant => activateParticipantTemplate
  | signalDone => signalDoneTemplate
  | retireParticipant => retireParticipantTemplate
  | emitHeartbeat => emitHeartbeatTemplate
  | commitTranscript => commitTranscriptTemplate

def typeId (op : BuiltinOperation) : OperationTypeId := op.template.operationTypeId

def handler : BuiltinOperation → OperationHandler
  | introduceArtifact => introduceArtifactHandler
  | delegate => delegateHandler
  | createSession => createSessionHandler
  | forkBranch => forkBranchHandler
  | publishArtifact => publishArtifactHandler
  | transferSession => transferSessionHandler
  | registerParticipant => registerParticipantHandler
  | activateParticipant => activateParticipantHandler
  | signalDone => signalDoneHandler
  | retireParticipant => retireParticipantHandler
  | emitHeartbeat => emitHeartbeatHandler
  | commitTranscript => commitTranscriptHandler

end BuiltinOperation

def createDefaultHandlers : OperationHandlerRegistry :=
  BuiltinOperation.all.foldl (fun registry op => registry.register op.typeId op.handler "1")
    { handlers := .empty }

def applyRecipe (before : CollaborationSnapshot) (recipe : ReplayRecipe) (registry : OperationHandlerRegistry)
    (ctx : ApplyContext) : ApplyResult :=
  let revision := recipe.templateRef.map (·.revision)
  match registry.get recipe.operationTypeId revision with
  | none =>
      .error (.refused ("no handler for " ++ recipe.operationTypeId ++ "@" ++ revision.getD "default"))
  | some handler => handler before recipe ctx

end Cantilune
