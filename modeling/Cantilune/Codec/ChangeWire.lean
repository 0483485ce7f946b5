import Cantilune.Codec.Wire

/-!
# The change codec

A change and its recipe are written as one wire value. The strict parser reads it back, and the decoder
rebuilds both from what the parser lets through.
-/

namespace Cantilune

/-! ## Wire values -/

structure ChangeWireDto where
  changeId : String
  recordedAt : String
  epochId : String
  operationTypeId : String
  templateRef : Option OperationTemplateRef
  beforeRef : String
  afterRef : String
  matchBindings : List MatchBinding
  targets : List TargetRef
  initiator : ActorRef
  involved : List ActorRef
  authorization : List EvidenceRef
  external : List EvidenceRef
  createdSessionRefs : List String
  visibility : ChangeVisibility
  matchWitness : MatchWitness
  complementTag : Option ℚ
  freshLinkRefs : Option (List String)
  inputContentRefs : Option (List String)
  scalarInputs : Option OperationScalarInputs
  emittedAt : Option String
  deriving DecidableEq

def MatchBinding.toJson (b : MatchBinding) : Json := .obj [("role", .str b.role.name), ("id", .str b.id)]

def TargetRef.toJson (t : TargetRef) : Json := .obj [("kind", .str t.kind.name), ("id", .str t.id)]

def OperationTemplateRef.toJson (ref : OperationTemplateRef) : Json :=
  .obj [("operationTypeId", .str ref.operationTypeId), ("revision", .str ref.revision)]

def MatchWitness.toJson (w : MatchWitness) : Json :=
  .obj [("domainSize", .num w.domainSize), ("codomainSize", .num w.codomainSize),
    ("embedding", .arr (w.embedding.map .num))]

/-- A number that is not finite becomes `null`. -/
def OperationScalarValue.toJson : OperationScalarValue → Json
  | .string s => .str s
  | .number (.finite q) => .num q
  | .number _ => .null
  | .boolean b => .bool b

def scalarInputsToJson (inputs : OperationScalarInputs) : Json :=
  .obj (inputs.entries.map fun e => (e.1, e.2.toJson))

def stringsToJson (ids : List String) : Json := .arr (ids.map .str)

def ChangeWireDto.toJson (dto : ChangeWireDto) : Json :=
  .record
    [("changeId", some (.str dto.changeId)), ("recordedAt", some (.str dto.recordedAt)),
      ("epochId", some (.str dto.epochId)), ("operationTypeId", some (.str dto.operationTypeId)),
      ("beforeRef", some (.str dto.beforeRef)), ("afterRef", some (.str dto.afterRef)),
      ("matchBindings", some (.arr (dto.matchBindings.map MatchBinding.toJson))),
      ("targets", some (.arr (dto.targets.map TargetRef.toJson))),
      ("initiator", some dto.initiator.toJson), ("involved", some (.arr (dto.involved.map ActorRef.toJson))),
      ("authorization", some (.arr (dto.authorization.map EvidenceRef.toJson))),
      ("external", some (.arr (dto.external.map EvidenceRef.toJson))),
      ("createdSessionRefs", some (stringsToJson dto.createdSessionRefs)),
      ("visibility", some (.str dto.visibility.name)), ("matchWitness", some dto.matchWitness.toJson),
      ("complementTag", dto.complementTag.map .num), ("freshLinkRefs", dto.freshLinkRefs.map stringsToJson),
      ("inputContentRefs", dto.inputContentRefs.map stringsToJson),
      ("scalarInputs", dto.scalarInputs.map scalarInputsToJson), ("emittedAt", dto.emittedAt.map .str),
      ("templateRef", dto.templateRef.map OperationTemplateRef.toJson)]

/-- The value, unless it is empty. -/
def presentIf {α : Type} (c : Prop) [Decidable c] (a : α) : Option α := if c then some a else none

/-- Fails with the message of the exception where a heartbeat has no instant. -/
def encodeChangeWithRecipe (change : CoordinationChange) (recipe : ReplayRecipe) : Except String ChangeWireDto :=
  if change.operationTypeId = "emit_heartbeat" ∧ recipe.emittedAt = none then
    .error "cannot encode emit_heartbeat without replay-authoritative emittedAt"
  else
    .ok
      { changeId := change.changeId
        recordedAt := change.recordedAt
        epochId := change.epochId
        operationTypeId := change.operationTypeId
        templateRef := change.templateRef
        beforeRef := change.beforeRef
        afterRef := change.afterRef
        matchBindings := change.matchBindings
        targets := change.targets
        initiator := change.initiator
        involved := change.involved
        authorization := change.authorization
        external := change.external
        createdSessionRefs := change.createdSessionRefs
        visibility := change.visibility
        matchWitness := recipe.matchWitness
        complementTag := some recipe.complementTag
        freshLinkRefs := presentIf (recipe.freshLinkRefs.length > 0) recipe.freshLinkRefs
        inputContentRefs := presentIf (recipe.inputContentRefs.length > 0) recipe.inputContentRefs
        scalarInputs := presentIf (recipe.scalarInputs.size > 0) recipe.scalarInputs
        emittedAt := recipe.emittedAt }

/-! ## Parsing -/

def MatchBindingRole.all : List MatchBindingRole :=
  [.task, .artifact, .from, .to, .delegator, .delegatee, .participant, .capability, .session, .link]

def TargetKind.all : List TargetKind := [.artifact, .participant, .capability, .session, .link]

def ChangeVisibility.all : List ChangeVisibility := [.internal, .external, .administrative]

def parseMatchBinding (value : Option Json) (path : String) : CodecParse MatchBinding := do
  let record ← requireRecord value path "expected match binding object"
  let roleName ← requireString record "role" path
  let role ← parseName MatchBindingRole.all MatchBindingRole.name (some (.str roleName)) s!"{path}.role"
    s!"unknown binding role: {roleName}"
  let id ← requireString record "id" path
  .ok { role, id }

def parseTarget (value : Option Json) (path : String) : CodecParse TargetRef := do
  let record ← requireRecord value path "expected target object"
  let kindName ← requireString record "kind" path
  let kind ← parseName TargetKind.all TargetKind.name (some (.str kindName)) s!"{path}.kind"
    s!"unknown target kind: {kindName}"
  let id ← requireString record "id" path
  .ok { kind, id }

/-- Reads the bindings in order and refuses a role that was seen before. -/
def parseMatchBindings : Nat → List MatchBindingRole → List Json → CodecParse (List MatchBinding)
  | _, _, [] => .ok []
  | index, seenRoles, value :: values => do
      let binding ← parseMatchBinding (some value) s!"change.matchBindings[{index}]"
      if binding.role ∈ seenRoles then
        fail s!"change.matchBindings[{index}].role" ("duplicate role: " ++ binding.role.name)
      else do
        let bindings ← parseMatchBindings (index + 1) (binding.role :: seenRoles) values
        .ok (binding :: bindings)

def targetKey (target : TargetRef) : String := target.kind.name ++ ":" ++ target.id

def bindingToTargetKey (binding : MatchBinding) : String := binding.role.targetKind.name ++ ":" ++ binding.id

/-- The keys of both lists are the same set. -/
def targetsMatchBindings (bindings : List MatchBinding) (targets : List TargetRef) : Bool :=
  let derived := (bindings.map bindingToTargetKey).dedup
  let wire := (targets.map targetKey).dedup
  derived.length = wire.length && derived.all fun key => wire.contains key

def parseChangeMatchBindingsSection (input : Json) : CodecParse (List MatchBinding × List TargetRef) :=
  match input.get? "matchBindings" with
  | some (.arr values) => do
      let matchBindings ← parseMatchBindings 0 [] values
      let targets ← parseArrayOf "expected targets array" parseTarget (input.get? "targets") "change.targets"
      if targetsMatchBindings matchBindings targets then .ok (matchBindings, targets)
      else fail "change.targets" "targets must match matchBindings derivation"
  | _ => fail "change.matchBindings" "expected matchBindings array"

def parseTemplateRef (value : Option Json) (path : String) : CodecParse OperationTemplateRef := do
  let record ← requireRecord value path "expected templateRef object"
  let operationTypeId ← requireString record "operationTypeId" path
  let revision ← requireString record "revision" path
  .ok { operationTypeId, revision }

def parseMatchWitnessField (value : Option Json) : CodecParse MatchWitness :=
  match value with
  | none => fail "change.matchWitness" "matchWitness is required on Change wire"
  | some _ => do
      let record ← requireRecord value "change.matchWitness" "expected matchWitness object"
      let domainSize ← parseNumber "domainSize and codomainSize must be numbers" (record.get? "domainSize")
        "change.matchWitness"
      let codomainSize ← parseNumber "domainSize and codomainSize must be numbers" (record.get? "codomainSize")
        "change.matchWitness"
      let embedding ← parseArrayOf "expected embedding array" (parseNumber "expected number")
        (record.get? "embedding") "change.matchWitness.embedding"
      .ok { domainSize, codomainSize, embedding }

/-- A non-empty string, a finite number or a boolean. -/
def scalarFromWire : Json → Option OperationScalarValue
  | .str s => if s = "" then none else some (.string s)
  | .num q => some (.number (.finite q))
  | .bool b => some (.boolean b)
  | _ => none

def parseScalarEntries (path : String) :
    List (String × Json) → CodecParse (List (String × OperationScalarValue))
  | [] => .ok []
  | (name, scalar) :: rest =>
      if name = "" then fail path "scalar input names must be non-empty"
      else
        match scalarFromWire scalar with
        | none => fail s!"{path}.{name}" "expected non-empty string, finite number, or boolean"
        | some value => do
            let entries ← parseScalarEntries path rest
            .ok ((name, value) :: entries)

def parseScalarInputs (value : Option Json) (path : String) : CodecParse OperationScalarInputs :=
  match value with
  | some (.obj members) => do
      let entries ← parseScalarEntries path members
      .ok (.ofList entries)
  | _ => fail path "expected scalar input object"

def parseChangeWire (value : Json) : CodecParse ChangeWireDto := do
  let input ← requireRecord (some value) "change" "expected change wire object"
  let changeId ← requireString input "changeId" "change"
  let recordedAt ← requireString input "recordedAt" "change"
  let epochId ← requireString input "epochId" "change"
  let operationTypeId ← requireString input "operationTypeId" "change"
  let beforeRef ← requireString input "beforeRef" "change"
  let afterRef ← requireString input "afterRef" "change"
  let (matchBindings, targets) ← parseChangeMatchBindingsSection input
  let initiator ← parseActorRef (input.get? "initiator") "change.initiator"
  let involved ← parseArrayOf "expected involved array" parseActorRef (input.get? "involved") "change.involved"
  let authorization ← parseEvidenceArray (input.get? "authorization") "change.authorization"
  let external ← parseEvidenceArray (input.get? "external") "change.external"
  let createdSessionRefs ← parseStringArray (input.get? "createdSessionRefs") "change.createdSessionRefs"
  let visibility ← parseName ChangeVisibility.all ChangeVisibility.name (input.get? "visibility")
    "change.visibility" "invalid visibility"
  let templateRef ← parseOptional parseTemplateRef (input.get? "templateRef") "change.templateRef"
  let matchWitness ← parseMatchWitnessField (input.get? "matchWitness")
  let complementTag ← parseOptional (parseNumber "expected number") (input.get? "complementTag")
    "change.complementTag"
  let freshLinkRefs ← parseOptional parseStringArray (input.get? "freshLinkRefs") "change.freshLinkRefs"
  let inputContentRefs ← parseOptional parseStringArray (input.get? "inputContentRefs")
    "change.inputContentRefs"
  let scalarInputs ← parseOptional parseScalarInputs (input.get? "scalarInputs") "change.scalarInputs"
  let emittedAt ← parseOptional parseNonEmptyString (input.get? "emittedAt") "change.emittedAt"
  if operationTypeId = "emit_heartbeat" ∧ emittedAt = none then
    fail "change.emittedAt" "emit_heartbeat requires replay-authoritative emittedAt"
  else
    .ok
      { changeId, recordedAt, epochId, operationTypeId, templateRef, beforeRef, afterRef, matchBindings, targets,
        initiator, involved, authorization, external, createdSessionRefs, visibility, matchWitness,
        complementTag, freshLinkRefs, inputContentRefs, scalarInputs, emittedAt }

def assertTargetsDerivedFromBindings (bindings : List MatchBinding) (targets : List TargetRef) : Bool :=
  let derived := (targetsFromMatchBindings bindings).map targetKey
  let wire := targets.map targetKey
  derived.length = wire.length && wire.all fun key => derived.contains key

/-- Fails with the message of the exception. -/
def decodeChangeWithRecipe (dto : ChangeWireDto) : Except String (CoordinationChange × ReplayRecipe) :=
  let change : CoordinationChange :=
    { changeId := dto.changeId
      recordedAt := dto.recordedAt
      epochId := dto.epochId
      operationTypeId := dto.operationTypeId
      templateRef := dto.templateRef
      beforeRef := dto.beforeRef
      afterRef := dto.afterRef
      matchBindings := dto.matchBindings
      targets := dto.targets
      initiator := dto.initiator
      involved := dto.involved
      authorization := dto.authorization
      external := dto.external
      createdSessionRefs := dto.createdSessionRefs
      visibility := dto.visibility }
  if assertTargetsDerivedFromBindings change.matchBindings dto.targets = false then
    .error "codec internal: targets/bindings mismatch after parse"
  else
    let recipe := replayRecipeFromChange change
    let extendedRecipe : ReplayRecipe :=
      { recipe with
        matchWitness := dto.matchWitness
        complementTag := dto.complementTag.getD recipe.complementTag
        freshLinkRefs := dto.freshLinkRefs.getD recipe.freshLinkRefs
        inputContentRefs := dto.inputContentRefs.getD recipe.inputContentRefs
        scalarInputs := dto.scalarInputs.getD recipe.scalarInputs
        emittedAt := dto.emittedAt.or recipe.emittedAt }
    if change.operationTypeId = "emit_heartbeat" ∧ extendedRecipe.emittedAt = none then
      .error "emit_heartbeat change wire missing replay-authoritative emittedAt"
    else .ok (change, extendedRecipe)

inductive ChangeDecodeFailure where
  | violation (v : RuntimeViolation)
  | thrown (message : String)
  deriving DecidableEq, Repr

def decodeChangeFromUnknown (input : Json) : Except ChangeDecodeFailure (CoordinationChange × ReplayRecipe) :=
  match parseChangeWire input with
  | .error v => .error (.violation v)
  | .ok dto =>
      match decodeChangeWithRecipe dto with
      | .error message => .error (.thrown message)
      | .ok result => .ok result

end Cantilune
