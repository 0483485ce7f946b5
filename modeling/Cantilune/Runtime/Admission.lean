import Cantilune.Runtime.Handlers
import Cantilune.Runtime.LockTables

/-!
# Admission

The bindings that composition intents are given, the checks that an intent passes before it may ask for
its locks, and the record that a ticket stands for.
-/

/-!
## One operation on the world

Admission and commit of a built-in operation under its default template, seen from the world alone: the
checks on the world before, the handler, and the checks on the world after.
-/

namespace Cantilune

/-- An operation to perform: its recipe, and the reference under which its result is stored. -/
structure Operation where
  kind : BuiltinOperation
  recipe : ReplayRecipe
  afterRef : SnapshotRef

/-- What admission checks of an operation against the world it is submitted for. -/
structure Admissible (template : OperationTemplate) (bindings : List MatchBinding)
    (before : CollaborationSnapshot) : Prop where
  integrity : validateSnapshotIntegrityResult before = none
  roles : ∀ role ∈ template.requiredRoles, bindings.any (fun b => b.role = role) = true
  requires : evaluateRequires before bindings template.requires = none

instance (template : OperationTemplate) (bindings : List MatchBinding) (before : CollaborationSnapshot) :
    Decidable (Admissible template bindings before) :=
  decidable_of_iff
    (validateSnapshotIntegrityResult before = none ∧
      (∀ role ∈ template.requiredRoles, bindings.any (fun b => b.role = role) = true) ∧
        evaluateRequires before bindings template.requires = none)
    ⟨fun h => ⟨h.1, h.2.1, h.2.2⟩, fun h => ⟨h.1, h.2, h.3⟩⟩

namespace Operation

def bindings (o : Operation) : List MatchBinding := o.recipe.matchBindings

def Admitted (o : Operation) (before : CollaborationSnapshot) : Prop :=
  Admissible o.kind.template o.bindings before

instance (o : Operation) (before : CollaborationSnapshot) : Decidable (o.Admitted before) :=
  inferInstanceAs (Decidable (Admissible ..))

/-- The handler alone, without the checks around it. -/
def apply (o : Operation) (before : CollaborationSnapshot) : Option CollaborationSnapshot :=
  match o.kind.handler before o.recipe { template := o.kind.template } with
  | .ok result => some (withSnapshotRef result.after o.afterRef)
  | .error _ => none

def Applies (before : CollaborationSnapshot) (o : Operation) (after : CollaborationSnapshot) : Prop :=
  o.apply before = some after

/-- Admission, apply and the checks of the committer; `none` where one of them refuses. -/
def perform (o : Operation) (before : CollaborationSnapshot) : Option CollaborationSnapshot :=
  if o.Admitted before then
    (o.apply before).filter fun after => validateSnapshotIntegrityResult after = none ∧
      evaluateEnsures after o.bindings o.kind.template.ensures = none
  else none

/-- The operation succeeds on the first world and leaves the second. -/
def Performs (before : CollaborationSnapshot) (o : Operation) (after : CollaborationSnapshot) : Prop :=
  o.perform before = some after

end Operation

/-- What is done to a world: an operation, the append of an observation, or the advance of its epoch. The
checks around the handler only refuse more operations. -/
inductive WorldStep where
  | operate (o : Operation)
  | observe (source : ActorRef) (payloadRef : ContentRef) (receivedAt : Timestamp) (nextRef : SnapshotRef)
  | advanceEpoch (afterRef : SnapshotRef) (targetEpochId : EpochId)

def WorldStep.apply (before : CollaborationSnapshot) : WorldStep → Option CollaborationSnapshot
  | .operate o => o.apply before
  | .observe source payloadRef receivedAt nextRef =>
      some (withSnapshotRef (appendObservation before source payloadRef receivedAt) nextRef)
  | .advanceEpoch afterRef targetEpochId => some (snapshotWithAdvancedEpoch before afterRef targetEpochId)

def WorldStep.Applies (before : CollaborationSnapshot) (e : WorldStep) (after : CollaborationSnapshot) : Prop :=
  e.apply before = some after

end Cantilune

namespace Cantilune

/-- The initiator among the participants named, or else the first of them. -/
def participantTarget (targets : List TargetRef) (initiatorId : ActorId) : Option TargetRef :=
  (targets.find? fun t => t.kind = .participant ∧ t.id = initiatorId).or
    (targets.find? fun t => t.kind = .participant)

/-- Every participant named but one, in order; each of them is bound under the same role. -/
def otherParticipants (targets : List TargetRef) (except : Option ActorId) : List MatchBinding :=
  (targets.filter fun t => t.kind = .participant ∧ some t.id ≠ except).map fun t => ⟨.participant, t.id⟩

def bindingsForCreateSession (targets : List TargetRef) (initiatorId : ActorId) : List MatchBinding :=
  let session := targets.find? fun t => t.kind = .session
  let controller := participantTarget targets initiatorId
  (controller.map fun t => ⟨.from, t.id⟩).toList ++ (session.map fun t => ⟨.session, t.id⟩).toList ++
    otherParticipants targets (controller.map (·.id))

/-! ## Intents and principals -/

/-- The targets are derived from the bindings, whatever the intent says. -/
def normalizeCoordinationIntent (intent : CoordinationIntent) : CoordinationIntent :=
  { intent with targets := targetsFromMatchBindings intent.matchBindings }

def effectiveFootprintForAdmission (intent : CoordinationIntent) (_template : OperationTemplate) : Footprint :=
  footprintFromTargets (targetsFromMatchBindings intent.matchBindings)

inductive PrincipalValidationError where
  | principalInitiatorMismatch | principalFromMismatch | principalSourceMismatch
  deriving DecidableEq, Repr

def PrincipalValidationError.kind : PrincipalValidationError → String
  | .principalInitiatorMismatch => "principal_initiator_mismatch"
  | .principalFromMismatch => "principal_from_mismatch"
  | .principalSourceMismatch => "principal_source_mismatch"

def validateAdmissionPrincipal (intent : CoordinationIntent) (principal : ActorRef) :
    Option PrincipalValidationError :=
  if principal ≠ intent.initiator then some .principalInitiatorMismatch
  else if (findRole intent.matchBindings .from).any fun actorId => actorId ≠ principal.actorId then
    some .principalFromMismatch
  else none

def validateObservePrincipal (source principal : ActorRef) : Option PrincipalValidationError :=
  if principal ≠ source then some .principalSourceMismatch else none

inductive PolicyDecision where
  | allow (authorization : List EvidenceRef)
  | deny (reason : String)

/-- A policy sees the world, the intent, the template, the footprint and the revision in force. -/
abbrev PolicyEvaluator :=
  CollaborationSnapshot → CoordinationIntent → OperationTemplate → Footprint → String → PolicyDecision

/-! ## The checks of admission -/

inductive AdmissionRejectReason where
  | templateNotFound
  | missingRole (role : MatchBindingRole)
  | requiresFailed (condition : TemplateCondition)
  | policyDenied (reason : String)
  | resourceConflict
  | epochMismatch (headEpochId activeEpochId : EpochId)
  | snapshotInvalid (cause : CoreViolation)
  | headNotFound
  | principalInvalid (reason : String)
  deriving DecidableEq

structure AdmissionInput where
  intent : CoordinationIntent
  beforeRef : Option SnapshotRef
  principal : ActorRef

/-- The recipe as admission records it: the bindings are there, the fresh references are not. -/
def admittedRecipe (intent : CoordinationIntent) (template : OperationTemplate) (epochId : EpochId)
    (authorization : List EvidenceRef) : ReplayRecipe :=
  withRecipeAuthorization
    (replayRecipe epochId intent.operationTypeId (some template.templateRef) intent.matchBindings
      template.defaultVisibility [] (intent.external.getD []) [] (intent.inputContentRefs.getD [])
      (intent.scalarInputs.getD .empty))
    authorization

/-- What an intent was found to be before it asks for its locks. -/
structure CheckedIntent where
  intent : CoordinationIntent
  beforeRef : SnapshotRef
  beforeSnapshot : CollaborationSnapshot
  template : OperationTemplate
  authorization : List EvidenceRef

def orReject {α : Type} (value : Option α) (reason : AdmissionRejectReason) : Except AdmissionRejectReason α :=
  match value with
  | some a => .ok a
  | none => .error reason

def rejectIf (reason : Option AdmissionRejectReason) : Except AdmissionRejectReason Unit :=
  match reason with
  | some reason => .error reason
  | none => .ok ()

@[simp] theorem orReject_eq_ok {α : Type} {value : Option α} {reason : AdmissionRejectReason} {a : α} :
    orReject value reason = .ok a ↔ value = some a := by
  cases value <;> simp [orReject]

@[simp] theorem rejectIf_eq_ok {reason : Option AdmissionRejectReason} {u : Unit} :
    rejectIf reason = .ok u ↔ reason = none := by
  cases reason <;> simp [rejectIf]

/-- The checks that need the world and the schema but no lock, in the order of the source. -/
def checkIntent (get : SnapshotRef → Option CollaborationSnapshot) (head : Option SnapshotRef)
    (schemaContext : ActiveSchemaContext) (policy : PolicyEvaluator) (input : AdmissionInput) :
    Except AdmissionRejectReason CheckedIntent := do
  let intent := normalizeCoordinationIntent input.intent
  rejectIf ((validateAdmissionPrincipal intent input.principal).map fun e => .principalInvalid e.kind)
  let beforeRef ← orReject (input.beforeRef.or head) .headNotFound
  let beforeSnapshot ← orReject (get beforeRef) .headNotFound
  rejectIf ((validateSnapshotIntegrityResult beforeSnapshot).map .snapshotInvalid)
  rejectIf (if beforeSnapshot.epochId ≠ schemaContext.epochId then
    some (.epochMismatch beforeSnapshot.epochId schemaContext.epochId) else none)
  rejectIf (if intent.operationTypeId ∉ schemaContext.allowedOperations then some .templateNotFound else none)
  let template ← orReject (schemaContext.getTemplate intent.operationTypeId none) .templateNotFound
  rejectIf ((template.requiredRoles.find? fun role =>
    !intent.matchBindings.any fun b => b.role = role).map .missingRole)
  rejectIf ((evaluateRequires beforeSnapshot intent.matchBindings template.requires).map .requiresFailed)
  match policy beforeSnapshot intent template (effectiveFootprintForAdmission intent template)
      schemaContext.epochId with
  | .deny reason => .error (.policyDenied reason)
  | .allow authorization => .ok { intent, beforeRef, beforeSnapshot, template, authorization }

end Cantilune

/-!
## Commit

A ticket is resolved to its admitted record, the recipe is completed, applied to the world before, checked,
and committed to the durable coordinator.
-/

namespace Cantilune

/-- The recipe recorded at admission with its fresh references, and the instant of a heartbeat. -/
def replayAuthority (recipe : ReplayRecipe) (operationTypeId : OperationTypeId) (recordedAt : Timestamp)
    (idGen : IdGenerator) (drawn : Nat) : ReplayRecipe × Nat :=
  let (recipeWithFreshIds, drawn) := allocateFreshRefsForRecipe recipe operationTypeId idGen drawn
  (if operationTypeId = "emit_heartbeat" then withHeartbeatEmittedAt recipeWithFreshIds recordedAt
    else recipeWithFreshIds, drawn)

end Cantilune
