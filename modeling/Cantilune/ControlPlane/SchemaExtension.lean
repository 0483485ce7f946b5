import Cantilune.ControlPlane.Records

/-!
# Monotone extension of a schema

The validator that compares a candidate schema with the current one. Where the source compares two values by
their JSON texts the values themselves are compared: such a text gives the value back.
-/

namespace Cantilune

/-- Checks the entries in order; each entry that passes is embedded as itself. -/
def embedEntries {V : Type} (check : String → V → Option ControlPlaneViolation) (entries : List (String × V)) :
    Except ControlPlaneViolation (OrdMap String String) :=
  entries.foldlM (fun embedding entry =>
    match check entry.1 entry.2 with
    | some violation => .error violation
    | none => .ok (embedding.set entry.1 entry.1)) .empty

def checkObjectType (toSchema : OrchestrationSchema) (objectTypeId : String) (declaration : ObjectTypeDeclaration) :
    Option ControlPlaneViolation :=
  match toSchema.objectTypes.get? objectTypeId with
  | none =>
      some (controlPlaneViolation .declarationDeleted .validate s!"object type deleted: {objectTypeId}"
        (some objectTypeId))
  | some next =>
      if next ≠ declaration then
        some (controlPlaneViolation .declarationRedefined .validate s!"object type redefined: {objectTypeId}"
          (some objectTypeId))
      else
        none

def embedObjectTypes (fromSchema toSchema : OrchestrationSchema) :
    Except ControlPlaneViolation (OrdMap String String) :=
  embedEntries (checkObjectType toSchema) fromSchema.objectTypes.entries

def joinedRoles (roles : List MatchBindingRole) : String := ",".intercalate (roles.map MatchBindingRole.name)

def checkDeclarationUnchanged (declaration next : OperationTypeDeclaration) (operationTypeId : OperationTypeId) :
    Option ControlPlaneViolation :=
  if next.portContract ≠ declaration.portContract then
    some (controlPlaneViolation .portContractChanged .validate s!"port contract changed: {operationTypeId}"
      (some operationTypeId))
  else if next.templateRef.revision ≠ declaration.templateRef.revision then
    some (controlPlaneViolation .templateMissing .validate s!"template revision drift: {operationTypeId}"
      (some operationTypeId))
  else if joinedRoles next.requiredRoles ≠ joinedRoles declaration.requiredRoles then
    some (controlPlaneViolation .declarationRedefined .validate s!"requiredRoles changed: {operationTypeId}"
      (some operationTypeId))
  else if next.defaultVisibility ≠ declaration.defaultVisibility then
    some (controlPlaneViolation .declarationRedefined .validate s!"defaultVisibility changed: {operationTypeId}"
      (some operationTypeId))
  else if next.mayCreateSessions ≠ declaration.mayCreateSessions then
    some (controlPlaneViolation .declarationRedefined .validate s!"mayCreateSessions changed: {operationTypeId}"
      (some operationTypeId))
  else
    none

def firstTemplate (schema : OrchestrationSchema) (operationTypeId : OperationTypeId) : Option OperationTemplate :=
  schema.templates.find? fun t => t.operationTypeId = operationTypeId

def checkTemplateSnapshotUnchanged (fromSchema toSchema : OrchestrationSchema) (operationTypeId : OperationTypeId) :
    Option ControlPlaneViolation :=
  match firstTemplate fromSchema operationTypeId, firstTemplate toSchema operationTypeId with
  | some fromTemplate, some toTemplate =>
      if fromTemplate.requires ≠ toTemplate.requires then
        some (controlPlaneViolation .declarationRedefined .validate s!"template requires changed: {operationTypeId}")
      else if fromTemplate.ensures ≠ toTemplate.ensures then
        some (controlPlaneViolation .declarationRedefined .validate s!"template ensures changed: {operationTypeId}")
      else if fromTemplate.description ≠ toTemplate.description then
        some (controlPlaneViolation .declarationRedefined .validate
          s!"template description changed: {operationTypeId}")
      else
        none
  | _, _ =>
      some (controlPlaneViolation .templateMissing .validate s!"template snapshot missing: {operationTypeId}")

def checkOperationType (fromSchema toSchema : OrchestrationSchema) (operationTypeId : OperationTypeId)
    (declaration : OperationTypeDeclaration) : Option ControlPlaneViolation :=
  match toSchema.operationTypes.get? operationTypeId with
  | none =>
      some (controlPlaneViolation .declarationDeleted .validate s!"operation type deleted: {operationTypeId}"
        (some operationTypeId))
  | some next =>
      (checkDeclarationUnchanged declaration next operationTypeId).or
        (checkTemplateSnapshotUnchanged fromSchema toSchema operationTypeId)

def embedOperationTypes (fromSchema toSchema : OrchestrationSchema) :
    Except ControlPlaneViolation (OrdMap OperationTypeId OperationTypeId) :=
  embedEntries (checkOperationType fromSchema toSchema) fromSchema.operationTypes.entries

def validateResourceRulesUnchanged (fromSchema toSchema : OrchestrationSchema) : Except ControlPlaneViolation Unit :=
  if fromSchema.resourceRules.length ≠ toSchema.resourceRules.length then
    .error (controlPlaneViolation .declarationRedefined .validate "resource rules count changed")
  else
    match (fromSchema.resourceRules.zip toSchema.resourceRules).findIdx? fun pair => pair.1 ≠ pair.2 with
    | some index =>
        .error (controlPlaneViolation .declarationRedefined .validate s!"resource rule changed at index {index}")
    | none => .ok ()

def computeMonotoneExtensionPlan (fromSchema toSchema : OrchestrationSchema) (fromRef toRef : SchemaRef) :
    Except ControlPlaneViolation SchemaExtensionPlan := do
  denyIf (fromSchema.schemaId ≠ toSchema.schemaId)
    (controlPlaneViolation .nonMonotoneExtension .validate "schema family mismatch for monotone extension")
  let objectEmbedding ← embedObjectTypes fromSchema toSchema
  let operationEmbedding ← embedOperationTypes fromSchema toSchema
  validateResourceRulesUnchanged fromSchema toSchema
  .ok
    { fromSchemaRef := fromRef
      toSchemaRef := toRef
      addedObjectTypeIds := toSchema.objectTypes.keys.filter fun id => !fromSchema.objectTypes.has id
      addedOperationTypeIds := toSchema.operationTypes.keys.filter fun id => !fromSchema.operationTypes.has id
      objectEmbedding
      operationEmbedding }

theorem embedEntries_eq_ok {V : Type} {check : String → V → Option ControlPlaneViolation}
    {entries : List (String × V)} {embedding : OrdMap String String} (h : embedEntries check entries = .ok embedding) :
    ∀ entry ∈ entries, check entry.1 entry.2 = none := by
  unfold embedEntries at h
  generalize OrdMap.empty = start at h
  induction entries generalizing start with
  | nil => simp
  | cons entry entries ih =>
      rw [List.foldlM_cons] at h
      obtain ⟨next, hentry, h⟩ := Outcome.bind_eq_ok.1 h
      split at hentry
      · cases hentry
      · rename_i hcheck
        exact List.forall_mem_cons.2 ⟨hcheck, ih next h⟩

theorem computeMonotoneExtensionPlan_operations {fromSchema toSchema : OrchestrationSchema} {fromRef toRef : SchemaRef}
    {plan : SchemaExtensionPlan} (h : computeMonotoneExtensionPlan fromSchema toSchema fromRef toRef = .ok plan) :
    ∀ operationTypeId declaration, fromSchema.operationTypes.get? operationTypeId = some declaration →
      checkOperationType fromSchema toSchema operationTypeId declaration = none := by
  unfold computeMonotoneExtensionPlan at h
  obtain ⟨_, -, h⟩ := Outcome.bind_eq_ok.1 h
  obtain ⟨_, -, h⟩ := Outcome.bind_eq_ok.1 h
  obtain ⟨_, hoperations, -⟩ := Outcome.bind_eq_ok.1 h
  intro operationTypeId declaration hget
  exact embedEntries_eq_ok hoperations _ (OrdMap.mem_entries.2 hget)

end Cantilune
