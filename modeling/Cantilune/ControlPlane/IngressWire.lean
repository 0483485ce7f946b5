import Cantilune.Base.JsDouble
import Cantilune.ControlPlane.Service

/-!
# Ingress wires of the control plane

The decoders that stand between an unknown value and the commands of the control plane. They check the members
that they name, and hand the schema and the rules to constructors which are typed but meet any value here.
-/

namespace Cantilune.IngressWire

/-- What there is instead of a command: a violation that is returned, or a `TypeError` that is thrown. -/
inductive IngressFailure where
  | violation (v : ControlPlaneViolation)
  | thrown
  deriving DecidableEq

abbrev Decode := Except IngressFailure

variable {α : Type}

/-! ## Checks of members -/

def invalidInput (message : String) (path : Option String := none) : Decode α :=
  .error (.violation (controlPlaneViolation .invalidInput .validate message path))

/-- The members of an object, as opposed to everything else that an unknown value may be. -/
def requireObject (value : Option Json) (path : String) : Decode (List (String × Json)) :=
  match value with
  | some (.obj members) => .ok members
  | _ => invalidInput "expected object" (some path)

def rejectUnknownKeys (record : List (String × Json)) (allowed : List String) (path : String) : Decode Unit :=
  match record.find? fun member => member.1 ∉ allowed with
  | some (key, _) => invalidInput s!"unknown field {key}" (some s!"{path}.{key}")
  | none => .ok ()

def requireString (record : List (String × Json)) (key path : String) : Decode String :=
  match record.lookup key with
  | some (.str s) =>
      if s = "" then invalidInput s!"expected non-empty string at {key}" (some s!"{path}.{key}") else .ok s
  | _ => invalidInput s!"expected non-empty string at {key}" (some s!"{path}.{key}")

/-- Any finite number: neither its sign nor its fraction is looked at. -/
def requireNumber (record : List (String × Json)) (key path : String) : Decode ℚ :=
  match record.lookup key with
  | some (.num q) => .ok q
  | _ => invalidInput s!"expected finite number at {key}" (some s!"{path}.{key}")

def parseSchemaRef (value : Option Json) (path : String) : Decode SchemaRef := do
  let record ← requireObject value path
  rejectUnknownKeys record ["schemaId", "revisionId", "digest"] path
  let schemaId ← requireString record "schemaId" path
  let revisionId ← requireString record "revisionId" path
  let digest ← requireString record "digest" path
  .ok { schemaId, revisionId, digest }

/-- The references of an array, from position `index` on. -/
def parseSchemaRefs (path : String) : Nat → List Json → Decode (List SchemaRef)
  | _, [] => .ok []
  | index, value :: values => do
      let ref ← parseSchemaRef (some value) s!"{path}[{index}]"
      let refs ← parseSchemaRefs path (index + 1) values
      .ok (ref :: refs)

def orThrow : Option α → Decode α
  | some a => .ok a
  | none => .error .thrown

/-! ## Reads of untyped values -/

/-- The value that properties are read of, unless it is `undefined` or `null`. -/
def readable : Option Json → Option Json
  | none | some .null => none
  | some value => some value

/-- `value.map(f)`; only arrays have that method. -/
def mapArray (f : Json → Option α) : Option Json → Option (List α)
  | some (.arr values) => values.mapM f
  | _ => none

/-- `[...value]`: the elements of an array, or the characters of a text. -/
def spreadArray : Option Json → Option (List Json)
  | some (.arr values) => some values
  | some (.str text) => some (text.toList.map fun c => .str (String.singleton c))
  | _ => none

mutual
/-- The value cannot be converted to a text: a member of an object hides its method `toString`, and the text of
an array is made of those of its elements. -/
def hidesText : Json → Bool
  | .obj members => (members.lookup "toString").isSome
  | .arr values => hidesTexts values
  | _ => false

def hidesTexts : List Json → Bool
  | [] => false
  | value :: values => hidesText value || hidesTexts values
end

/-- `Number(value)`. -/
def number (value : Option Json) : Option JsDouble :=
  if value.any hidesText then none else some (JsDouble.ofJson value)

/-! ## Maps of untyped entries -/

/-- A key of a `Map`. Primitive values are one key where they are equal; an array or an object is no other key
than itself, and is told by the entry in which it stands. -/
inductive MapKey where
  | primitive (value : Option Json)
  | reference (position : Nat) (value : Json)
  deriving DecidableEq

def mapKey (position : Nat) : Option Json → MapKey
  | some (.arr values) => .reference position (.arr values)
  | some (.obj members) => .reference position (.obj members)
  | value => .primitive value

/-- What `new Map` reads of an entry: its members `0` and `1`. -/
def mapEntry (position : Nat) : Json → Option (MapKey × Option Json)
  | .arr values => some (mapKey position values[0]?, values[1]?)
  | .obj members => some (mapKey position (members.lookup "0"), members.lookup "1")
  | _ => none

/-- The entries of an array, from position `position` on. -/
def mapEntries : Nat → List Json → Option (List (MapKey × Option Json))
  | _, [] => some []
  | position, value :: values => do
      let entry ← mapEntry position value
      let entries ← mapEntries (position + 1) values
      some (entry :: entries)

/-- `new Map(value)`. -/
def newMap : Option Json → Option (OrdMap MapKey (Option Json))
  | none | some .null => some .empty
  | some (.str text) => if text = "" then some .empty else none
  | some (.arr values) => (mapEntries 0 values).map OrdMap.ofList
  | _ => none

def snapshotMap (snapshot : Option Json → Option α) (declarations : OrdMap MapKey (Option Json)) :
    Option (OrdMap MapKey α) :=
  (declarations.entries.mapM fun e => (snapshot e.2).map fun declaration => (e.1, declaration)).map OrdMap.ofList

/-! ## The snapshot of a schema

The members of a schema as its snapshot holds them, of whatever type they are. Of an object that is copied by
`{...value}`, which never throws, the value that it copies is kept. -/

structure UntypedCondition where
  kind : Option Json
  bindings : Option Json
  deriving DecidableEq

structure UntypedPortContract where
  inputs : List Json
  outputs : List Json
  requires : List UntypedCondition
  ensures : List UntypedCondition
  deriving DecidableEq

structure UntypedTemplate where
  operationTypeId : Option Json
  templateRef : Option Json
  description : Option Json
  requiredRoles : List Json
  requires : List UntypedCondition
  ensures : List UntypedCondition
  defaultVisibility : Option Json
  mayCreateSessions : Option Json
  deriving DecidableEq

structure UntypedObjectType where
  objectTypeId : Option Json
  structuralMode : Option Json
  codecRef : Option Json
  description : Option Json
  metadata : Option Json
  deriving DecidableEq

structure UntypedOperationType where
  operationTypeId : Option Json
  templateRef : Option Json
  portContract : UntypedPortContract
  requiredRoles : List Json
  defaultVisibility : Option Json
  mayCreateSessions : Option Json
  deriving DecidableEq

structure UntypedResourceRule where
  ruleId : Option Json
  objectTypeId : Option Json
  structuralMode : Option Json
  capacity : Option Json
  allowsCopy : Option Json
  allowsDrop : Option Json
  requiresQuiescence : Option Json
  deriving DecidableEq

structure UntypedSchema where
  schemaId : String
  wireVersion : JsDouble
  objectTypes : OrdMap MapKey UntypedObjectType
  operationTypes : OrdMap MapKey UntypedOperationType
  templates : List UntypedTemplate
  resourceRules : List UntypedResourceRule
  deriving DecidableEq

def snapshotCondition (condition : Json) : Option UntypedCondition := do
  let condition ← readable (some condition)
  some { kind := condition.get? "kind", bindings := condition.get? "bindings" }

def snapshotPortContract (contract : Option Json) : Option UntypedPortContract := do
  let contract ← readable contract
  let inputs ← mapArray some (contract.get? "inputs")
  let outputs ← mapArray some (contract.get? "outputs")
  let requires ← mapArray snapshotCondition (contract.get? "requires")
  let ensures ← mapArray snapshotCondition (contract.get? "ensures")
  some { inputs, outputs, requires, ensures }

def snapshotTemplate (template : Json) : Option UntypedTemplate := do
  let template ← readable (some template)
  let requiredRoles ← spreadArray (template.get? "requiredRoles")
  let requires ← mapArray snapshotCondition (template.get? "requires")
  let ensures ← mapArray snapshotCondition (template.get? "ensures")
  some
    { operationTypeId := template.get? "operationTypeId"
      templateRef := template.get? "templateRef"
      description := template.get? "description"
      requiredRoles, requires, ensures
      defaultVisibility := template.get? "defaultVisibility"
      mayCreateSessions := template.get? "mayCreateSessions" }

def snapshotObjectType (declaration : Option Json) : Option UntypedObjectType := do
  let declaration ← readable declaration
  some
    { objectTypeId := declaration.get? "objectTypeId"
      structuralMode := declaration.get? "structuralMode"
      codecRef := declaration.get? "codecRef"
      description := declaration.get? "description"
      metadata := declaration.get? "metadata" }

def snapshotOperationType (declaration : Option Json) : Option UntypedOperationType := do
  let declaration ← readable declaration
  let portContract ← snapshotPortContract (declaration.get? "portContract")
  let requiredRoles ← spreadArray (declaration.get? "requiredRoles")
  some
    { operationTypeId := declaration.get? "operationTypeId"
      templateRef := declaration.get? "templateRef"
      portContract, requiredRoles
      defaultVisibility := declaration.get? "defaultVisibility"
      mayCreateSessions := declaration.get? "mayCreateSessions" }

def snapshotResourceRule (rule : Json) : Option UntypedResourceRule := do
  let rule ← readable (some rule)
  some
    { ruleId := rule.get? "ruleId"
      objectTypeId := rule.get? "objectTypeId"
      structuralMode := rule.get? "structuralMode"
      capacity := rule.get? "capacity"
      allowsCopy := rule.get? "allowsCopy"
      allowsDrop := rule.get? "allowsDrop"
      requiresQuiescence := rule.get? "requiresQuiescence" }

/-- The schema of these members; `wireVersion` is converted before anything else is read. -/
def decodeOrchestrationSchema (wire : List (String × Json)) : Option UntypedSchema := do
  let wireVersion ← number (wire.lookup "wireVersion")
  let objectTypes ← newMap (wire.lookup "objectTypes")
  let operationTypes ← newMap (wire.lookup "operationTypes")
  let objectTypes ← snapshotMap snapshotObjectType objectTypes
  let operationTypes ← snapshotMap snapshotOperationType operationTypes
  let templates ← mapArray snapshotTemplate (wire.lookup "templates")
  let resourceRules ← mapArray snapshotResourceRule (wire.lookup "resourceRules")
  some
    { schemaId := ((wire.lookup "schemaId").bind Json.str?).getD ""
      wireVersion, objectTypes, operationTypes, templates, resourceRules }

def optionalText : Option Json → Option (Option String)
  | none => some none
  | some (.str text) => some (some text)
  | some _ => none

def policyDecision : Option Json → Option PolicyRuleDecision
  | some (.str text) => [PolicyRuleDecision.allow, .deny].find? fun decision => decision.name = text
  | _ => none

/-- A rule with an id and a decision, without the members that it does not know. -/
def snapshotPolicyRule : Json → Option PolicyRule
  | .obj members => do
      let ruleId ← ((members.lookup "ruleId").bind Json.str?).filter (· ≠ "")
      let principalRole ← optionalText (members.lookup "principalRole")
      let operationTypeId ← optionalText (members.lookup "operationTypeId")
      let templateRevision ← optionalText (members.lookup "templateRevision")
      let decision ← policyDecision (members.lookup "decision")
      some { ruleId, principalRole, operationTypeId, templateRevision, decision }
  | _ => none

/-- What a policy's digest is taken of where its rules are the ones of a wire. -/
def untypedPolicyContent (policyId revisionId : String) (compatibleSchemaRefs : List SchemaRef) (rules : List Json) :
    Json :=
  .obj [("policyId", .str policyId), ("revisionId", .str revisionId),
    ("compatibleSchemaRefs", .arr (compatibleSchemaRefs.map SchemaRef.canonical)),
    ("rules", .arr rules), ("defaultDecision", .str "deny")]

/-- `createPolicyRevision`: the digest is taken of the rules as they were sent, and the revision holds their
snapshots. -/
def createPolicyRevision (hashes : ContentHashes) (policyId revisionId : String)
    (compatibleSchemaRefs : List SchemaRef) (rules : List Json) (createdBy : String) (createdAt : Timestamp) :
    Option PolicyRevision := do
  let canonicalDigest :=
    hashes.digestOfCanonical (untypedPolicyContent policyId revisionId compatibleSchemaRefs rules)
  let rules ← rules.mapM snapshotPolicyRule
  some
    { policyRef := { policyId, revisionId, digest := canonicalDigest }
      compatibleSchemaRefs, rules, canonicalDigest, createdBy, createdAt }

/-! ## The decoders -/

/-- The request of a wire; its numbers are any finite ones. -/
structure SchemaAdmissionRequest where
  admissionId : SchemaAdmissionId
  activationDomainId : ActivationDomainId
  expectedBindingGeneration : ℚ
  expectedSchemaRef : SchemaRef
  expectedEpochId : EpochId
  expectedEpochOrdinal : ℚ
  expectedRuntimeHead : SnapshotRef
  candidateSchemaRef : SchemaRef
  requestedBy : String
  requestedAt : Timestamp
  idempotencyKey : IdempotencyKey
  deriving DecidableEq

structure SubmitSchemaAdmissionCommand where
  context : AdministrationContext
  request : SchemaAdmissionRequest
  deriving DecidableEq

structure ApproveSchemaAdmissionCommand where
  context : AdministrationContext
  admissionId : SchemaAdmissionId
  deriving DecidableEq

structure RegisterSchemaRevisionCommand where
  context : AdministrationContext
  schema : UntypedSchema
  revisionId : String
  parentRef : Option SchemaRef
  createdAt : Timestamp
  deriving DecidableEq

structure ActivatePolicyRevisionCommand where
  context : AdministrationContext
  policyRevision : PolicyRevision
  activationDomainId : ActivationDomainId
  expectedBindingGeneration : ℚ
  activatedAt : Timestamp
  deriving DecidableEq

def submitKeys : List String :=
  ["admissionId", "activationDomainId", "expectedBindingGeneration", "expectedSchemaRef", "expectedEpochId",
    "expectedEpochOrdinal", "expectedRuntimeHead", "candidateSchemaRef", "requestedBy", "requestedAt",
    "idempotencyKey", "reasonRef", "evidenceRefs"]

/-- `reasonRef` and `evidenceRefs` are allowed and dropped. -/
def decodeSubmitSchemaAdmissionWire (wire : Json) (context : AdministrationContext) :
    Decode SubmitSchemaAdmissionCommand := do
  let root ← requireObject (some wire) "submit"
  rejectUnknownKeys root submitKeys "submit"
  let admissionId ← requireString root "admissionId" "submit"
  let activationDomainId ← requireString root "activationDomainId" "submit"
  let expectedBindingGeneration ← requireNumber root "expectedBindingGeneration" "submit"
  let expectedSchemaRef ← parseSchemaRef (root.lookup "expectedSchemaRef") "submit.expectedSchemaRef"
  let expectedEpochId ← requireString root "expectedEpochId" "submit"
  let expectedEpochOrdinal ← requireNumber root "expectedEpochOrdinal" "submit"
  let expectedRuntimeHead ← requireString root "expectedRuntimeHead" "submit"
  let candidateSchemaRef ← parseSchemaRef (root.lookup "candidateSchemaRef") "submit.candidateSchemaRef"
  let requestedBy ← requireString root "requestedBy" "submit"
  let requestedAt ← requireString root "requestedAt" "submit"
  let idempotencyKey ← requireString root "idempotencyKey" "submit"
  .ok
    { context
      request :=
        { admissionId, activationDomainId, expectedBindingGeneration, expectedSchemaRef, expectedEpochId
          expectedEpochOrdinal, expectedRuntimeHead, candidateSchemaRef, requestedBy, requestedAt
          idempotencyKey } }

def decodeApproveSchemaAdmissionWire (wire : Json) (context : AdministrationContext) :
    Decode ApproveSchemaAdmissionCommand := do
  let root ← requireObject (some wire) "approve"
  rejectUnknownKeys root ["admissionId"] "approve"
  let admissionId ← requireString root "admissionId" "approve"
  .ok { context, admissionId }

def registerKeys : List String := ["schema", "revisionId", "parentRef", "createdAt"]

def schemaKeys : List String :=
  ["schemaId", "wireVersion", "objectTypes", "operationTypes", "templates", "resourceRules"]

/-- A reference that may be missing; `null` is not missing. -/
def parseParentRef (value : Option Json) : Decode (Option SchemaRef) :=
  match value with
  | none => .ok none
  | some value => (parseSchemaRef (some value) "register.parentRef").map some

def decodeRegisterSchemaRevisionWire (wire : Json) (context : AdministrationContext) :
    Decode RegisterSchemaRevisionCommand := do
  let root ← requireObject (some wire) "register"
  rejectUnknownKeys root registerKeys "register"
  let schemaWire ← requireObject (root.lookup "schema") "register.schema"
  rejectUnknownKeys schemaWire schemaKeys "register.schema"
  let revisionId ← requireString root "revisionId" "register"
  let createdAt ← requireString root "createdAt" "register"
  let schema ← orThrow (decodeOrchestrationSchema schemaWire)
  let parentRef ← parseParentRef (root.lookup "parentRef")
  .ok { context, schema, revisionId, parentRef, createdAt }

def activatePolicyKeys : List String :=
  ["policyId", "revisionId", "activationDomainId", "expectedBindingGeneration", "compatibleSchemaRefs", "rules",
    "createdBy", "createdAt", "activatedAt"]

/-- The two arrays of a policy. -/
def requireArrays (compatibleSchemaRefs rules : Option Json) : Decode (List Json × List Json) :=
  match compatibleSchemaRefs, rules with
  | some (.arr refs), some (.arr rules) => .ok (refs, rules)
  | _, _ => invalidInput "rules and compatibleSchemaRefs required"

def decodeActivatePolicyRevisionWire (hashes : ContentHashes) (wire : Json) (context : AdministrationContext) :
    Decode ActivatePolicyRevisionCommand := do
  let root ← requireObject (some wire) "activatePolicy"
  rejectUnknownKeys root activatePolicyKeys "activatePolicy"
  let policyId ← requireString root "policyId" "activatePolicy"
  let revisionId ← requireString root "revisionId" "activatePolicy"
  let activationDomainId ← requireString root "activationDomainId" "activatePolicy"
  let expectedBindingGeneration ← requireNumber root "expectedBindingGeneration" "activatePolicy"
  let createdBy ← requireString root "createdBy" "activatePolicy"
  let createdAt ← requireString root "createdAt" "activatePolicy"
  let activatedAt ← requireString root "activatedAt" "activatePolicy"
  let (refs, rules) ← requireArrays (root.lookup "compatibleSchemaRefs") (root.lookup "rules")
  let compatibleSchemaRefs ← parseSchemaRefs "activatePolicy.compatibleSchemaRefs" 0 refs
  let policyRevision ←
    orThrow (createPolicyRevision hashes policyId revisionId compatibleSchemaRefs rules createdBy createdAt)
  .ok { context, policyRevision, activationDomainId, expectedBindingGeneration, activatedAt }

inductive IngressMessage where
  | submitSchemaAdmission | approveSchemaAdmission | registerSchemaRevision | activatePolicyRevision
  deriving DecidableEq, Repr

inductive IngressCommand where
  | submitSchemaAdmission (command : SubmitSchemaAdmissionCommand)
  | approveSchemaAdmission (command : ApproveSchemaAdmissionCommand)
  | registerSchemaRevision (command : RegisterSchemaRevisionCommand)
  | activatePolicyRevision (command : ActivatePolicyRevisionCommand)
  deriving DecidableEq

def IngressMessage.decode (hashes : ContentHashes) (context : AdministrationContext) (wire : Json) :
    IngressMessage → Decode IngressCommand
  | .submitSchemaAdmission =>
      (decodeSubmitSchemaAdmissionWire wire context).map .submitSchemaAdmission
  | .approveSchemaAdmission =>
      (decodeApproveSchemaAdmissionWire wire context).map .approveSchemaAdmission
  | .registerSchemaRevision =>
      (decodeRegisterSchemaRevisionWire wire context).map .registerSchemaRevision
  | .activatePolicyRevision =>
      (decodeActivatePolicyRevisionWire hashes wire context).map .activatePolicyRevision

end Cantilune.IngressWire
