import Cantilune.Codec.ChangeWire
import Cantilune.Codec.SnapshotWire
import Cantilune.Runtime.Schema

/-!
# What the durable stores write

A stored payload is the JSON image of a snapshot, of a change with its recipe, of a recipe or of an active
binding. Snapshots and changes go through their codecs and a binding through its own; a recipe is written as
the object it is and read back with a cast.
-/

namespace Cantilune

/-! ## Bindings -/

def SchemaRef.toJson (ref : SchemaRef) : Json :=
  .obj [("schemaId", .str ref.schemaId), ("revisionId", .str ref.revisionId), ("digest", .str ref.digest)]

def PolicyRef.toJson (ref : PolicyRef) : Json :=
  .obj [("policyId", .str ref.policyId), ("revisionId", .str ref.revisionId), ("digest", .str ref.digest)]

def HandlerManifestRef.toJson (ref : HandlerManifestRef) : Json :=
  .obj [("manifestId", .str ref.manifestId), ("digest", .str ref.digest)]

def serializeSchemaBindingWire (binding : SchemaEpochBinding) : Json :=
  .record
    [("activationDomainId", some (.str binding.activationDomainId)),
      ("bindingGeneration", some (.num binding.bindingGeneration)), ("epochId", some (.str binding.epochId)),
      ("epochOrdinal", some (.num binding.epochOrdinal)), ("schemaRef", some binding.schemaRef.toJson),
      ("policyRef", some binding.policyRef.toJson),
      ("handlerManifestRef", some binding.handlerManifestRef.toJson),
      ("runtimeHead", some (.str binding.runtimeHead)), ("admissionId", some (.str binding.admissionId)),
      ("previousBindingGeneration", binding.previousBindingGeneration.map fun n => .num n),
      ("activatedBy", some (.str binding.activatedBy)), ("activatedAt", some (.str binding.activatedAt))]

/-- The source takes every finite number; generations and ordinals are natural numbers. -/
def requireNumber (record : Json) (key path : String) : CodecParse Nat :=
  parseNat (record.get? key) s!"{path}.{key}" s!"expected finite number at {key}"

def parseSchemaBindingWire (value : Json) : CodecParse SchemaEpochBinding := do
  let input ← requireRecord (some value) "schemaBinding" "expected schema binding object"
  let activationDomainId ← requireString input "activationDomainId" "schemaBinding"
  let epochId ← requireString input "epochId" "schemaBinding"
  let runtimeHead ← requireString input "runtimeHead" "schemaBinding"
  let admissionId ← requireString input "admissionId" "schemaBinding"
  let activatedBy ← requireString input "activatedBy" "schemaBinding"
  let activatedAt ← requireString input "activatedAt" "schemaBinding"
  let bindingGeneration ← requireNumber input "bindingGeneration" "schemaBinding"
  let epochOrdinal ← requireNumber input "epochOrdinal" "schemaBinding"
  let previousBindingGeneration ←
    match input.get? "previousBindingGeneration" with
    | none => .ok none
    | some _ => (requireNumber input "previousBindingGeneration" "schemaBinding").map some
  let schema ← requireRecord (input.get? "schemaRef") "schemaBinding.schemaRef" "expected ref object"
  let schemaId ← requireString schema "schemaId" "schemaBinding.schemaRef"
  let schemaRevisionId ← requireString schema "revisionId" "schemaBinding.schemaRef"
  let schemaDigest ← requireString schema "digest" "schemaBinding.schemaRef"
  let policy ← requireRecord (input.get? "policyRef") "schemaBinding.policyRef" "expected ref object"
  let policyId ← requireString policy "policyId" "schemaBinding.policyRef"
  let policyRevisionId ← requireString policy "revisionId" "schemaBinding.policyRef"
  let policyDigest ← requireString policy "digest" "schemaBinding.policyRef"
  let manifest ← requireRecord (input.get? "handlerManifestRef") "schemaBinding.handlerManifestRef"
    "expected ref object"
  let manifestId ← requireString manifest "manifestId" "schemaBinding.handlerManifestRef"
  let manifestDigest ← requireString manifest "digest" "schemaBinding.handlerManifestRef"
  .ok
    { activationDomainId, bindingGeneration, epochId, epochOrdinal, runtimeHead, admissionId
      previousBindingGeneration, activatedBy, activatedAt
      schemaRef := { schemaId, revisionId := schemaRevisionId, digest := schemaDigest }
      policyRef := { policyId, revisionId := policyRevisionId, digest := policyDigest }
      handlerManifestRef := { manifestId, digest := manifestDigest } }

/-! ## Recipes -/

def MatchBindingRole.idField : MatchBindingRole → String
  | .task | .artifact => "artifactId"
  | .from | .to | .delegator | .delegatee | .participant => "actorId"
  | .capability => "capabilityId"
  | .session => "sessionId"
  | .link => "linkId"

namespace StoredRecipe

def bindingToJson (b : MatchBinding) : Json := .obj [("role", .str b.role.name), (b.role.idField, .str b.id)]

/-- The recipe as the plain object it is. -/
def toJson (recipe : ReplayRecipe) : Json :=
  .record
    [("epochId", some (.str recipe.epochId)), ("operationTypeId", some (.str recipe.operationTypeId)),
      ("templateRef", recipe.templateRef.map OperationTemplateRef.toJson),
      ("matchBindings", some (.arr (recipe.matchBindings.map bindingToJson))),
      ("matchWitness", some recipe.matchWitness.toJson), ("complementTag", some (.num recipe.complementTag)),
      ("kind", some (.str recipe.kind.name)),
      ("authorization", some (.arr (recipe.authorization.map EvidenceRef.toJson))),
      ("external", some (.arr (recipe.external.map EvidenceRef.toJson))),
      ("createdSessionRefs", some (stringsToJson recipe.createdSessionRefs)),
      ("freshLinkRefs", some (stringsToJson recipe.freshLinkRefs)),
      ("inputContentRefs", some (stringsToJson recipe.inputContentRefs)),
      ("scalarInputs", some (scalarInputsToJson recipe.scalarInputs)),
      ("emittedAt", recipe.emittedAt.map .str), ("visibility", some (.str recipe.visibility.name))]

/-! The fields of the type that the cast names. -/

def text (value : Option Json) : Option String := value.bind Json.str?

def number (value : Option Json) : Option ℚ :=
  match value with
  | some (.num q) => some q
  | _ => none

def name {α : Type} (all : List α) (nameOf : α → String) (value : Option Json) : Option α := do
  let s ← text value
  all.find? fun a => nameOf a = s

def items {α : Type} (item : Json → Option α) (value : Option Json) : Option (List α) :=
  match value with
  | some (.arr values) => values.mapM item
  | _ => none

def optional {α : Type} (read : Option Json → Option α) (value : Option Json) : Option (Option α) :=
  match value with
  | none => some none
  | some v => (read (some v)).map some

def templateRef (value : Option Json) : Option OperationTemplateRef := do
  let record ← value
  return { operationTypeId := ← text (record.get? "operationTypeId"), revision := ← text (record.get? "revision") }

def binding (value : Json) : Option MatchBinding := do
  let role ← name MatchBindingRole.all MatchBindingRole.name (value.get? "role")
  return { role, id := ← text (value.get? role.idField) }

def witness (value : Option Json) : Option MatchWitness := do
  let record ← value
  return { domainSize := ← number (record.get? "domainSize"), codomainSize := ← number (record.get? "codomainSize"),
           embedding := ← items (fun v => number (some v)) (record.get? "embedding") }

def evidence (value : Json) : Option EvidenceRef := do
  return { evidenceId := ← text (value.get? "evidenceId"),
           kind := ← name EvidenceKind.all EvidenceKind.name (value.get? "kind"),
           contentRef := ← text (value.get? "contentRef") }

def scalar : Json → Option OperationScalarValue
  | .str s => some (.string s)
  | .num q => some (.number (.finite q))
  | .bool b => some (.boolean b)
  | _ => none

def scalarInputs (value : Option Json) : Option OperationScalarInputs :=
  match value with
  | some (.obj members) => (members.mapM fun m => (scalar m.2).map fun v => (m.1, v)).map .ofList
  | _ => none

/-- The recipe that an object is, when it has the fields that the cast says it has. -/
def fromJson (value : Json) : Option ReplayRecipe := do
  return { epochId := ← text (value.get? "epochId"), operationTypeId := ← text (value.get? "operationTypeId"),
           templateRef := ← optional templateRef (value.get? "templateRef"),
           matchBindings := ← items binding (value.get? "matchBindings"),
           matchWitness := ← witness (value.get? "matchWitness"),
           complementTag := ← number (value.get? "complementTag"),
           kind := ← name ChangeVisibility.all ChangeVisibility.name (value.get? "kind"),
           authorization := ← items evidence (value.get? "authorization"),
           external := ← items evidence (value.get? "external"),
           createdSessionRefs := ← items Json.str? (value.get? "createdSessionRefs"),
           freshLinkRefs := ← items Json.str? (value.get? "freshLinkRefs"),
           inputContentRefs := ← items Json.str? (value.get? "inputContentRefs"),
           scalarInputs := ← scalarInputs (value.get? "scalarInputs"),
           emittedAt := ← optional text (value.get? "emittedAt"),
           visibility := ← name ChangeVisibility.all ChangeVisibility.name (value.get? "visibility") }

end StoredRecipe

/-- The binding is read back from what is written for it. -/
def SchemaEpochBinding.RoundTrips (binding : SchemaEpochBinding) : Prop :=
  parseSchemaBindingWire (serializeSchemaBindingWire binding) = .ok binding

def CoordinationChange.RoundTrips (change : CoordinationChange) (recipe : ReplayRecipe) : Prop :=
  ∃ dto recipe', encodeChangeWithRecipe change recipe = .ok dto ∧
    decodeChangeFromUnknown dto.toJson = .ok (change, recipe')

/-- The detached copy of the recipe is read back from what is written for it. -/
def ReplayRecipe.RoundTrips (recipe : ReplayRecipe) : Prop :=
  StoredRecipe.fromJson (StoredRecipe.toJson (snapshotReplayRecipe recipe)) = some (snapshotReplayRecipe recipe)

end Cantilune
