import Cantilune.Core.Change
import Cantilune.Core.Integrity

/-!
# Replay recipes

The recipe that admission records and the committer completes, the change derived from it, and the
violations that the runtime reports.
-/

namespace Cantilune

inductive RuntimeViolationCode where
  | admissionRejected | templateNotFound | policyDenied | resourceConflict | applyFailed
  | commitAtomicFailed | replayMismatch | replayChainBroken | observeInvalid | contentRefUnavailable
  | codecInvalid
  deriving DecidableEq, Repr

structure RuntimeViolation where
  code : RuntimeViolationCode
  message : String
  path : Option String := none
  operationTypeId : Option OperationTypeId := none
  cause : Option CoreViolation := none
  expected : Option String := none
  actual : Option String := none
  deriving DecidableEq, Repr

/-! ## Recipes -/

abbrev EventKind := ChangeVisibility

def eventKindFromVisibility (visibility : ChangeVisibility) : EventKind := visibility

/-- `embedding` lists, for each domain slot, the codomain slot it maps to. -/
structure MatchWitness where
  domainSize : ℚ
  codomainSize : ℚ
  embedding : List ℚ
  deriving DecidableEq

def matchWitnessFromBindings (bindings : List MatchBinding) : MatchWitness where
  domainSize := bindings.length
  codomainSize := bindings.length
  embedding := (List.range bindings.length).map fun i => (i : ℚ)

def defaultComplementTag : ℚ := 0

/-- Replay input without the references of the snapshots before and after. -/
structure ReplayRecipe where
  epochId : EpochId
  operationTypeId : OperationTypeId
  templateRef : Option OperationTemplateRef
  matchBindings : List MatchBinding
  matchWitness : MatchWitness
  complementTag : ℚ
  kind : EventKind
  authorization : List EvidenceRef
  external : List EvidenceRef
  createdSessionRefs : List SessionId
  freshLinkRefs : List LinkId
  inputContentRefs : List ContentRef
  scalarInputs : OperationScalarInputs
  emittedAt : Option Timestamp
  visibility : ChangeVisibility
  deriving DecidableEq

/-- A recipe with the witness, the complement and the event kind at their defaults. -/
def replayRecipe (epochId : EpochId) (operationTypeId : OperationTypeId)
    (templateRef : Option OperationTemplateRef) (matchBindings : List MatchBinding)
    (visibility : ChangeVisibility) (authorization external : List EvidenceRef := [])
    (createdSessionRefs : List SessionId := []) (inputContentRefs : List ContentRef := [])
    (scalarInputs : OperationScalarInputs := .empty) : ReplayRecipe :=
  { epochId, operationTypeId, templateRef, matchBindings, authorization, external, createdSessionRefs,
    inputContentRefs, scalarInputs, visibility,
    matchWitness := matchWitnessFromBindings matchBindings
    complementTag := defaultComplementTag
    kind := eventKindFromVisibility visibility
    freshLinkRefs := []
    emittedAt := none }

def replayRecipeFromChange (change : CoordinationChange) : ReplayRecipe :=
  replayRecipe change.epochId change.operationTypeId change.templateRef change.matchBindings
    change.visibility change.authorization change.external change.createdSessionRefs

def withRecipeAuthorization (recipe : ReplayRecipe) (authorization : List EvidenceRef) : ReplayRecipe :=
  { recipe with authorization }

/-- Pins the instant of a heartbeat before apply, so that replay reuses it. -/
def withHeartbeatEmittedAt (recipe : ReplayRecipe) (emittedAt : Timestamp) : ReplayRecipe :=
  { recipe with emittedAt := some emittedAt }

def coordinationChangeFromCommit (recipe : ReplayRecipe) (changeId : ChangeId) (recordedAt : Timestamp)
    (beforeRef afterRef : SnapshotRef) (initiator : ActorRef) (involved : List ActorRef) :
    CoordinationChange :=
  { changeId, recordedAt, beforeRef, afterRef, initiator, involved
    epochId := recipe.epochId
    operationTypeId := recipe.operationTypeId
    templateRef := recipe.templateRef
    matchBindings := recipe.matchBindings
    targets := targetsFromMatchBindings recipe.matchBindings
    authorization := recipe.authorization
    external := recipe.external
    createdSessionRefs := recipe.createdSessionRefs
    visibility := recipe.visibility }

/-- The detached copy of the scalar inputs. Assigning to `__proto__` sets no own property, so an input of
that name is lost. -/
def snapshotScalarInputs (value : OperationScalarInputs) : OperationScalarInputs :=
  value.filterKeys fun name => name ≠ "__proto__"

/-- The detached copy that the recipe sidecar keeps. -/
def snapshotReplayRecipe (value : ReplayRecipe) : ReplayRecipe :=
  { value with scalarInputs := snapshotScalarInputs value.scalarInputs }

/-! ## Fresh references -/

/-- The source of generated ids: what it answers the `n`-th time it is asked. -/
structure IdGenerator where
  changeId : Nat → ChangeId
  snapshotRef : Nat → SnapshotRef
  linkId : Nat → LinkId
  sessionId : Nat → SessionId

/-- The list without repetitions, in the order of the first occurrences. -/
def uniqueIds : List ActorId → List ActorId
  | [] => []
  | x :: xs => x :: (uniqueIds xs).filter fun y => y ≠ x

def countDelegateReviewerLinks (recipe : ReplayRecipe) : Nat :=
  let fromActorId := findRole recipe.matchBindings .from
  let reviewers := recipe.matchBindings.filter fun b =>
    b.role = .participant ∧ some b.id ≠ fromActorId ∧
      ¬ recipe.matchBindings.any fun other => other.role = .to ∧ other.id = b.id
  if reviewers.length > 0 then 1 else 0

def countCreateSessionLinks (recipe : ReplayRecipe) : Nat :=
  let controllerId := findRole recipe.matchBindings .from
  (recipe.matchBindings.filter fun b => b.role = .participant ∧ some b.id ≠ controllerId).length

def countForkLinks (recipe : ReplayRecipe) : Nat :=
  match findRole recipe.matchBindings .from with
  | none => 0
  | some controllerId =>
      let unique := uniqueIds (controllerId :: boundIds recipe.matchBindings .participant)
      if unique.length < 2 then 0 else unique.length * (unique.length - 1) / 2

def freshLinkCount (recipe : ReplayRecipe) (operationTypeId : OperationTypeId) : Nat :=
  if operationTypeId = "delegate" then countDelegateReviewerLinks recipe
  else if operationTypeId = "create_session" then countCreateSessionLinks recipe
  else if operationTypeId = "fork_branch" then countForkLinks recipe
  else 0

/-- Allocates the fresh ids before apply; `drawn` counts the ids asked for so far. -/
def allocateFreshRefsForRecipe (recipe : ReplayRecipe) (operationTypeId : OperationTypeId)
    (idGen : IdGenerator) (drawn : Nat) : ReplayRecipe × Nat :=
  let linkCount := freshLinkCount recipe operationTypeId
  let freshLinkRefs := (List.range linkCount).map fun i => idGen.linkId (drawn + i)
  if recipe.createdSessionRefs.length > 0 then
    ({ recipe with freshLinkRefs }, drawn + linkCount)
  else if operationTypeId = "delegate" ∨ operationTypeId = "create_session" then
    ({ recipe with freshLinkRefs, createdSessionRefs := [idGen.sessionId (drawn + linkCount)] },
      drawn + linkCount + 1)
  else
    ({ recipe with freshLinkRefs, createdSessionRefs := [] }, drawn + linkCount)

end Cantilune
