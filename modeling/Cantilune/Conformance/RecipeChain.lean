import Cantilune.Conformance.CanonicalEncoding
import Cantilune.Runtime.Replay

/-!
# The digest of a chain of recipes

What a certificate says about the replay of a chain of changes: for each change its id and the digest of a portable
copy of its recipe, hashed together. The replay port replays a chain only if its reference names that digest.
-/

namespace Cantilune.Conformance

/-! ## Snapshots of recipes -/

structure BindingWire where
  role : String
  id : String
  deriving DecidableEq

/-- The portable copy of a recipe. -/
structure ReplayRecipeSnapshot where
  epochId : String
  operationTypeId : String
  templateRef : Option OperationTemplateRef
  matchBindings : List BindingWire
  matchWitness : MatchWitness
  complementTag : ℚ
  kind : String
  authorization : List String
  external : List String
  createdSessionRefs : List String
  freshLinkRefs : List String
  inputContentRefs : List String
  visibility : String
  deriving DecidableEq

/-- What `replayRecipeSnapshotFromChange` is given of a recipe. -/
structure PortableRecipe where
  epochId : String
  operationTypeId : String
  templateRef : Option OperationTemplateRef
  matchBindings : List MatchBinding
  matchWitness : MatchWitness
  complementTag : ℚ
  kind : String
  authorization : List String
  external : List String
  createdSessionRefs : List String
  freshLinkRefs : List String
  inputContentRefs : List String
  visibility : String

def bindingWire (binding : MatchBinding) : BindingWire := ⟨binding.role.name, binding.id⟩

/-- The change itself is not looked at. -/
def replayRecipeSnapshotFromChange (_ : CoordinationChange) (recipe : PortableRecipe) : ReplayRecipeSnapshot where
  epochId := recipe.epochId
  operationTypeId := recipe.operationTypeId
  templateRef := recipe.templateRef
  matchBindings := recipe.matchBindings.map bindingWire
  matchWitness := recipe.matchWitness
  complementTag := recipe.complementTag
  kind := recipe.kind
  authorization := recipe.authorization
  external := recipe.external
  createdSessionRefs := recipe.createdSessionRefs
  freshLinkRefs := recipe.freshLinkRefs
  inputContentRefs := recipe.inputContentRefs
  visibility := recipe.visibility

/-- `String(ref)` of a reference that is an object. -/
def evidenceString (_ : EvidenceRef) : String := "[object Object]"

/-- The scalar inputs and the instant of emission are not passed on. -/
def replayRecipeToSnapshot (change : CoordinationChange) (recipe : ReplayRecipe) : ReplayRecipeSnapshot :=
  replayRecipeSnapshotFromChange change
    { epochId := recipe.epochId
      operationTypeId := recipe.operationTypeId
      templateRef := recipe.templateRef
      matchBindings := recipe.matchBindings
      matchWitness := recipe.matchWitness
      complementTag := recipe.complementTag
      kind := recipe.kind.name
      authorization := recipe.authorization.map evidenceString
      external := recipe.external.map evidenceString
      createdSessionRefs := recipe.createdSessionRefs
      freshLinkRefs := recipe.freshLinkRefs
      inputContentRefs := recipe.inputContentRefs
      visibility := recipe.visibility.name }

/-! ## Digests -/

def strs (texts : List String) : Json := .arr (texts.map .str)

def BindingWire.json (binding : BindingWire) : Json :=
  .record [("role", some (.str binding.role)), ("id", some (.str binding.id))]

def templateJson (template : OperationTemplateRef) : Json :=
  .record [("operationTypeId", some (.str template.operationTypeId)), ("revision", some (.str template.revision))]

def witnessJson (witness : MatchWitness) : Json :=
  .record
    [("domainSize", some (.num witness.domainSize)), ("codomainSize", some (.num witness.codomainSize)),
      ("embedding", some (.arr (witness.embedding.map .num)))]

def ReplayRecipeSnapshot.json (snapshot : ReplayRecipeSnapshot) : Json :=
  .record
    [("epochId", some (.str snapshot.epochId)), ("operationTypeId", some (.str snapshot.operationTypeId)),
      ("templateRef", snapshot.templateRef.map templateJson),
      ("matchBindings", some (.arr (snapshot.matchBindings.map BindingWire.json))),
      ("matchWitness", some (witnessJson snapshot.matchWitness)), ("complementTag", some (.num snapshot.complementTag)),
      ("kind", some (.str snapshot.kind)), ("authorization", some (strs snapshot.authorization)),
      ("external", some (strs snapshot.external)), ("createdSessionRefs", some (strs snapshot.createdSessionRefs)),
      ("freshLinkRefs", some (strs snapshot.freshLinkRefs)),
      ("inputContentRefs", some (strs snapshot.inputContentRefs)), ("visibility", some (.str snapshot.visibility))]

variable (host : EvidenceHost)

def recipeEvidence (snapshot : ReplayRecipeSnapshot) : Json :=
  .record [("kind", some (.str "replayRecipe")), ("recipe", some snapshot.json)]

def computeReplayRecipeDigest (snapshot : ReplayRecipeSnapshot) : Option String :=
  computeEvidenceDigest host (recipeEvidence snapshot)

def chainEntry (change : CoordinationChange) (snapshot : ReplayRecipeSnapshot) : Option Json :=
  (computeReplayRecipeDigest host snapshot).map fun digest =>
    .record [("changeId", some (.str change.changeId)), ("recipeDigest", some (.str digest))]

def chainEvidence (entries : List Json) : Json :=
  .record [("kind", some (.str "replayRecipeChain")), ("entries", some (.arr entries))]

/-- `none` where a digest cannot be made. -/
def computeReplayRecipeChainDigest (changes : List CoordinationChange)
    (resolveRecipe : CoordinationChange → ReplayRecipeSnapshot) : Option String :=
  (changes.mapM fun change => chainEntry host change (resolveRecipe change)).bind fun entries =>
    computeEvidenceDigest host (chainEvidence entries)

/-- `/^[a-f0-9]{64}$/` -/
def isSha256HexDigest (value : String) : Bool :=
  value.toList.length = 64 && value.toList.all fun c => ('a' ≤ c && c ≤ 'f') || c.isDigit

end Cantilune.Conformance
