import Cantilune.Core.Change
import Cantilune.Core.Snapshot

/-!
# Operation templates and schemas

The conditions that a template requires before an operation and ensures after it, the default templates,
and the schema from which the templates in force are resolved.
-/

namespace Cantilune

inductive ConditionKind where
  | taskExists | taskNotExists | sessionExists | sessionControllerMatches | delegatorHolds
  | delegateeCanAccept | participantRegistered
  deriving DecidableEq, Repr

def ConditionKind.name : ConditionKind → String
  | .taskExists => "task.exists"
  | .taskNotExists => "task.not_exists"
  | .sessionExists => "session.exists"
  | .sessionControllerMatches => "session.controller_matches"
  | .delegatorHolds => "delegator.holds"
  | .delegateeCanAccept => "delegatee.can_accept"
  | .participantRegistered => "participant.registered"

/-- A predicate, with the roles that its parameters are taken from. -/
structure TemplateCondition where
  kind : ConditionKind
  bindings : List (String × MatchBindingRole)
  deriving DecidableEq

structure OperationTemplate where
  operationTypeId : OperationTypeId
  templateRef : OperationTemplateRef
  description : String
  requiredRoles : List MatchBindingRole
  requires : List TemplateCondition
  ensures : List TemplateCondition
  defaultVisibility : ChangeVisibility
  mayCreateSessions : Bool
  deriving DecidableEq

/-! ## Conditions -/

def idFromRole (bindings : List MatchBinding) (kind : TargetKind) (role : MatchBindingRole) : Option String :=
  if role.targetKind = kind then findRole bindings role else none

def TemplateCondition.role (condition : TemplateCondition) (param : String) (default : MatchBindingRole) :
    MatchBindingRole :=
  (condition.bindings.lookup param).getD default

def evaluateDelegatorHolds (snapshot : CollaborationSnapshot) (bindings : List MatchBinding)
    (condition : TemplateCondition) : Bool :=
  match idFromRole bindings .artifact (condition.role "task" .task),
      idFromRole bindings .participant (condition.role "from" .from) with
  | some artifactId, some actorId =>
      match idFromRole bindings .capability (condition.role "capability" .capability) with
      | none =>
          match snapshot.artifacts.get? artifactId with
          | some artifact => artifact.owner.actorId = actorId
          | none => false
      | some capabilityId =>
          match snapshot.capabilities.get? capabilityId with
          | some capability => capability.holder = actorId && capability.scope = .artifact artifactId
          | none => false
  | _, _ => false

def evaluateSessionController (snapshot : CollaborationSnapshot) (bindings : List MatchBinding)
    (condition : TemplateCondition) : Bool :=
  match idFromRole bindings .session (condition.role "session" .session),
      idFromRole bindings .participant (condition.role "from" .from) with
  | some sessionId, some actorId =>
      match snapshot.sessions.get? sessionId with
      | some session => session.controller = actorId
      | none => false
  | _, _ => false

def boundAnd (id : Option String) (test : String → Bool) : Bool :=
  match id with
  | some id => test id
  | none => false

def evaluateCondition (snapshot : CollaborationSnapshot) (bindings : List MatchBinding)
    (condition : TemplateCondition) : Bool :=
  match condition.kind with
  | .taskExists =>
      boundAnd (idFromRole bindings .artifact (condition.role "task" .task)) snapshot.artifacts.has
  | .taskNotExists =>
      boundAnd (idFromRole bindings .artifact (condition.role "task" .task)) fun id => !snapshot.artifacts.has id
  | .sessionExists =>
      boundAnd (idFromRole bindings .session (condition.role "session" .session)) snapshot.sessions.has
  | .sessionControllerMatches => evaluateSessionController snapshot bindings condition
  | .delegatorHolds => evaluateDelegatorHolds snapshot bindings condition
  | .delegateeCanAccept =>
      boundAnd (idFromRole bindings .participant (condition.role "to" .to)) snapshot.participants.has
  | .participantRegistered =>
      boundAnd (idFromRole bindings .participant (condition.role "participant" .from)) snapshot.participants.has

/-- The first condition that fails. -/
def evaluateRequires (snapshot : CollaborationSnapshot) (bindings : List MatchBinding)
    (conditions : List TemplateCondition) : Option TemplateCondition :=
  conditions.find? fun condition => !evaluateCondition snapshot bindings condition

def evaluateEnsures (snapshot : CollaborationSnapshot) (bindings : List MatchBinding)
    (ensures : List TemplateCondition) : Option TemplateCondition :=
  evaluateRequires snapshot bindings ensures

theorem evaluateRequires_eq_none {s : CollaborationSnapshot} {bs : List MatchBinding}
    {cs : List TemplateCondition} :
    evaluateRequires s bs cs = none ↔ ∀ c ∈ cs, evaluateCondition s bs c = true := by
  simp [evaluateRequires]

/-! ## The default templates -/

def participantRegistered (role : MatchBindingRole) : TemplateCondition :=
  { kind := .participantRegistered, bindings := [("participant", role)] }

def taskExists : TemplateCondition := { kind := .taskExists, bindings := [("task", .task)] }

/-- The shape the default templates share: one revision, and conditions over the bound roles. -/
def defaultTemplate (operationTypeId : OperationTypeId) (description : String)
    (requiredRoles : List MatchBindingRole) (requires ensures : List TemplateCondition)
    (defaultVisibility : ChangeVisibility := .external) (mayCreateSessions : Bool := false) :
    OperationTemplate :=
  { operationTypeId, templateRef := { operationTypeId, revision := "1" }, description, requiredRoles,
    requires, ensures, defaultVisibility, mayCreateSessions }

/-- The capability bound by the operation is held by the participant under `role`. -/
def capabilityHeldBy (role : MatchBindingRole) : TemplateCondition :=
  { kind := .delegatorHolds, bindings := [("task", .task), ("from", role), ("capability", .capability)] }

def introduceArtifactTemplate : OperationTemplate :=
  defaultTemplate "introduce_artifact" "Introduce a new work artifact with write-lock capability"
    [.task, .from]
    [participantRegistered .from, { kind := .taskNotExists, bindings := [("task", .task)] }]
    [taskExists, { kind := .delegatorHolds, bindings := [("task", .task), ("from", .from)] }]

def delegateTemplate : OperationTemplate :=
  defaultTemplate "delegate" "Delegate task ownership and scoped capability to another participant"
    [.task, .from, .to, .capability]
    [taskExists, capabilityHeldBy .from, { kind := .delegateeCanAccept, bindings := [("to", .to)] }]
    [taskExists, capabilityHeldBy .to]
    .external true

def forkBranchTemplate : OperationTemplate :=
  defaultTemplate "fork_branch" "Open a parallel branch (optional task intro + parallel_with links)"
    [.from] [participantRegistered .from] [participantRegistered .from]

def createSessionTemplate : OperationTemplate :=
  defaultTemplate "create_session" "Open a communication session with controller and participants"
    [.from] [participantRegistered .from] [participantRegistered .from] .external true

def publishArtifactTemplate : OperationTemplate :=
  defaultTemplate "publish_artifact" "Publish a work artifact (lifecycle transition)"
    [.task, .from]
    [taskExists, { kind := .delegatorHolds, bindings := [("task", .task), ("from", .from)] }]
    [taskExists]

def transferSessionTemplate : OperationTemplate :=
  defaultTemplate "transfer_session" "Transfer session controller to another participant"
    [.session, .from, .to]
    [{ kind := .sessionExists, bindings := [("session", .session)] },
      { kind := .sessionControllerMatches, bindings := [("session", .session), ("from", .from)] },
      participantRegistered .from, participantRegistered .to]
    [{ kind := .sessionExists, bindings := [("session", .session)] }]

def registerParticipantTemplate : OperationTemplate :=
  defaultTemplate "register_participant" "Register a new agent participant in the coordination world"
    [.from, .participant] [participantRegistered .from] [participantRegistered .participant]

def activateParticipantTemplate : OperationTemplate :=
  defaultTemplate "activate_participant"
    "Admit a registered participant to active and bind its content-addressed manifest (ADR-0015)"
    [.from, .participant] [participantRegistered .participant] [participantRegistered .participant]

def signalDoneTemplate : OperationTemplate :=
  defaultTemplate "signal_done" "Signal that an agent has completed its work"
    [.from] [participantRegistered .from] [participantRegistered .from]

def retireParticipantTemplate : OperationTemplate :=
  defaultTemplate "retire_participant" "Retire a participant from the coordination world"
    [.from, .participant] [participantRegistered .from] [participantRegistered .participant]

def commitTranscriptTemplate : OperationTemplate :=
  defaultTemplate "commit_transcript"
    "Commit this participant's LLM transcript onto the shared world (ADR-0021)"
    [.from] [participantRegistered .from] [participantRegistered .from] .internal

def emitHeartbeatTemplate : OperationTemplate :=
  defaultTemplate "emit_heartbeat" "Emit a heartbeat signal proving agent liveness"
    [.from] [participantRegistered .from] [participantRegistered .from] .internal

def defaultTemplates : List OperationTemplate :=
  [introduceArtifactTemplate, delegateTemplate, createSessionTemplate, forkBranchTemplate,
    publishArtifactTemplate, transferSessionTemplate, registerParticipantTemplate,
    activateParticipantTemplate, signalDoneTemplate, retireParticipantTemplate, emitHeartbeatTemplate,
    commitTranscriptTemplate]

/-! ## Schemas -/

inductive StructuralMode where
  | cartesian | affine | relevant | linear
  deriving DecidableEq, Repr

structure ObjectTypeDeclaration where
  objectTypeId : String
  structuralMode : StructuralMode
  codecRef : String
  description : String
  metadata : OrdMap String String
  deriving DecidableEq

structure PortDeclaration where
  portName : String
  position : Nat
  objectTypeId : String
  deriving DecidableEq

structure PortContract where
  inputs : List PortDeclaration
  outputs : List PortDeclaration
  requires : List TemplateCondition
  ensures : List TemplateCondition
  deriving DecidableEq

structure OperationTypeDeclaration where
  operationTypeId : OperationTypeId
  templateRef : OperationTemplateRef
  portContract : PortContract
  requiredRoles : List MatchBindingRole
  defaultVisibility : ChangeVisibility
  mayCreateSessions : Bool
  deriving DecidableEq

structure ResourceRule where
  ruleId : String
  objectTypeId : Option String
  structuralMode : StructuralMode
  capacity : Option ℚ
  allowsCopy : Bool
  allowsDrop : Bool
  requiresQuiescence : Bool
  deriving DecidableEq

structure OrchestrationSchema where
  schemaId : String
  wireVersion : JsNumber
  objectTypes : OrdMap String ObjectTypeDeclaration
  operationTypes : OrdMap OperationTypeId OperationTypeDeclaration
  templates : List OperationTemplate
  resourceRules : List ResourceRule
  deriving DecidableEq

def portContractFromTemplate (template : OperationTemplate) : PortContract :=
  { inputs := [], outputs := [], requires := template.requires, ensures := template.ensures }

def operationDeclarationFromTemplate (template : OperationTemplate) : OperationTypeDeclaration :=
  { operationTypeId := template.operationTypeId
    templateRef := template.templateRef
    portContract := portContractFromTemplate template
    requiredRoles := template.requiredRoles
    defaultVisibility := template.defaultVisibility
    mayCreateSessions := template.mayCreateSessions }

def defaultObjectTypes : List ObjectTypeDeclaration :=
  [{ objectTypeId := "artifact", structuralMode := .affine, codecRef := "cantilune/work-artifact@1"
     description := "Work artifact node", metadata := .empty },
    { objectTypeId := "capability", structuralMode := .linear, codecRef := "cantilune/scoped-capability@1"
      description := "Scoped capability token", metadata := .empty }]

def buildOrchestrationSchema (schemaId : String) (templates : List OperationTemplate := defaultTemplates) :
    OrchestrationSchema :=
  { schemaId, wireVersion := .finite 1, templates
    objectTypes := .ofList (defaultObjectTypes.map fun t => (t.objectTypeId, t))
    operationTypes := .ofList (templates.map fun t => (t.operationTypeId, operationDeclarationFromTemplate t))
    resourceRules := [] }

def allowedOperationsFromSchema (schema : OrchestrationSchema) : List OperationTypeId :=
  schema.operationTypes.keys

def resolveTemplate (schema : OrchestrationSchema) (operationTypeId : OperationTypeId)
    (revision : Option String) : Option OperationTemplate :=
  match revision with
  | some revision =>
      schema.templates.find? fun t => t.operationTypeId = operationTypeId ∧ t.templateRef.revision = revision
  | none =>
      match schema.operationTypes.get? operationTypeId with
      | none => none
      | some declaration =>
          schema.templates.find? fun t =>
            t.operationTypeId = operationTypeId ∧ t.templateRef.revision = declaration.templateRef.revision

/-! ## Epoch bindings and schema contexts -/

structure SchemaRef where
  schemaId : String
  revisionId : String
  digest : String
  deriving DecidableEq

structure PolicyRef where
  policyId : String
  revisionId : String
  digest : String
  deriving DecidableEq

structure HandlerManifestRef where
  manifestId : String
  digest : String
  deriving DecidableEq

structure SchemaEpochBinding where
  activationDomainId : String
  bindingGeneration : Nat
  epochId : EpochId
  epochOrdinal : Nat
  schemaRef : SchemaRef
  policyRef : PolicyRef
  handlerManifestRef : HandlerManifestRef
  runtimeHead : SnapshotRef
  admissionId : String
  previousBindingGeneration : Option Nat
  activatedBy : String
  activatedAt : Timestamp
  deriving DecidableEq

/-- The schema in force for one epoch. -/
structure ActiveSchemaContext where
  epochId : EpochId
  schema : OrchestrationSchema
  binding : Option SchemaEpochBinding
  deriving DecidableEq

def ActiveSchemaContext.allowedOperations (context : ActiveSchemaContext) : List OperationTypeId :=
  allowedOperationsFromSchema context.schema

def ActiveSchemaContext.getTemplate (context : ActiveSchemaContext) (operationTypeId : OperationTypeId)
    (revision : Option String) : Option OperationTemplate :=
  resolveTemplate context.schema operationTypeId revision

end Cantilune
