import Cantilune.Base.JsDouble
import Cantilune.Base.OrdMap

/-!
# Goal contracts

A contract is compiled once for a run, from criteria that a language model proposes. What is no criterion, or names
a verifier that is not registered, is dropped; without a criterion the system's own contract stands in.
-/

namespace Cantilune

/-! ## Criteria and verifiers -/

inductive CriterionKind where
  | hard | soft
  deriving DecidableEq

/-- A number between zero and one. -/
abbrev UnitShare := { q : ℚ // 0 ≤ q ∧ q ≤ 1 }

structure AcceptanceCriterion where
  id : String
  description : String
  kind : CriterionKind
  weight : UnitShare
  threshold : UnitShare
  verifierId : String
  deriving DecidableEq

inductive ContractAuthor where
  | llm | system
  deriving DecidableEq

structure GoalContract where
  contractId : String
  instruction : String
  criteria : List AcceptanceCriterion
  frozenAt : String
  compiledBy : ContractAuthor

structure CriterionEvaluation where
  criterionId : String
  q : ℚ
  rho : ℚ
  passed : Bool
  evidenceRefs : List String
  rationale : String
  deriving DecidableEq

/-- The parts of an agent's state that the verifiers below read. -/
structure AgentState where
  committedOperations : Nat
  artifactIds : List String
  contentRefs : List String

/-- A verifier signs its evaluations with the id of the criterion. -/
structure Verifier where
  id : String
  description : String
  evaluate : AcceptanceCriterion → AgentState → CriterionEvaluation
  signs : ∀ criterion state, (evaluate criterion state).criterionId = criterion.id

abbrev VerifierRegistry := OrdMap String Verifier

/-- One criterion; an unknown verifier has found nothing. -/
def VerifierRegistry.evaluate (registry : VerifierRegistry) (id : String) (criterion : AcceptanceCriterion)
    (state : AgentState) : CriterionEvaluation :=
  match registry.get? id with
  | none =>
      { criterionId := criterion.id, q := 0, rho := 1, passed := decide (criterion.threshold.1 ≤ 0 * 1)
        evidenceRefs := [], rationale := "Unknown verifier \"" ++ id ++ "\" — failing closed." }
  | some verifier => verifier.evaluate criterion state

def coordinationProgressVerifier : Verifier where
  id := "coordination_progress"
  description := "Satisfied when at least one coordination operation was committed."
  evaluate criterion state :=
    let committed := state.committedOperations
    let q : ℚ := if committed > 0 then 1 else 0
    { criterionId := criterion.id, q, rho := 1, passed := decide (criterion.threshold.1 ≤ q * 1), evidenceRefs := []
      rationale :=
        if committed > 0 then toString committed ++ " coordination operation(s) committed."
        else "No coordination operation committed yet." }
  signs _ _ := rfl

def taskArtifactExistsVerifier : Verifier where
  id := "task_artifact_exists"
  description := "Satisfied when at least one artifact/content ref was produced."
  evaluate criterion state :=
    let count := state.artifactIds.length + state.contentRefs.length
    let q : ℚ := if count > 0 then 1 else 0
    { criterionId := criterion.id, q, rho := 1, passed := decide (criterion.threshold.1 ≤ q * 1)
      evidenceRefs := state.contentRefs
      rationale :=
        if count > 0 then toString count ++ " artifact(s)/content ref(s) produced." else "No artifact produced yet." }
  signs _ _ := rfl

/-! ## Proposals -/

structure LlmToolCallResult where
  name : String
  arguments : Json

structure LlmChatResponse where
  text : Option String
  toolCalls : List LlmToolCallResult

/-- `Math.min(max, Math.max(min, n))` between zero and one. -/
def unitClamp (q : ℚ) : UnitShare :=
  ⟨min 1 (max 0 q), le_min zero_le_one (le_max_left 0 q), min_le_left 1 _⟩

/-- A finite number is clamped; anything else is no number. -/
def clamp (value : Option Json) : Option UnitShare :=
  match JsDouble.ofJson value with
  | .finite q => some (unitClamp q)
  | _ => none

def nonEmptyString : Option Json → Option String
  | some (.str s) => if s = "" then none else some s
  | _ => none

def criterionKind : Option Json → Option CriterionKind
  | some (.str "hard") => some .hard
  | some (.str "soft") => some .soft
  | _ => none

def fullShare : UnitShare := ⟨1, zero_le_one, le_rfl⟩

def halfShare : UnitShare := ⟨1 / 2, by norm_num, by norm_num⟩

/-- A criterion of a registered verifier; the weight and the threshold have defaults. -/
def normalizeCriterion (registry : VerifierRegistry) (raw : Json) : Option AcceptanceCriterion := do
  let id ← nonEmptyString (raw.get? "id")
  let description ← nonEmptyString (raw.get? "description")
  let kind ← criterionKind (raw.get? "kind")
  let verifierId ← nonEmptyString (raw.get? "verifierId")
  if registry.has verifierId then
    some
      { id, description, kind, verifierId
        weight := (clamp (raw.get? "weight")).getD (match kind with | .hard => fullShare | .soft => halfShare)
        threshold := (clamp (raw.get? "threshold")).getD fullShare }
  else none

def isPlainObject : Json → Bool
  | .obj _ => true
  | _ => false

def extractToolCallArgs (response : LlmChatResponse) : Option Json :=
  match response.toolCalls with
  | [] => none
  | call :: _ => if call.name = "propose_contract" ∧ isPlainObject call.arguments then some call.arguments else none

/-- From the first opening brace to the last closing brace. -/
def bracedPart (text : String) : Option String :=
  let fromBrace := text.toList.dropWhile (· ≠ '{')
  let upToBrace := (fromBrace.reverse.dropWhile (· ≠ '}')).reverse
  if upToBrace.isEmpty then none else some (String.ofList upToBrace)

def extractTextJson (response : LlmChatResponse) : Option Json := do
  let matched ← bracedPart (response.text.getD "")
  let parsed ← Json.parse matched
  if isPlainObject parsed then some parsed else none

/-- The digest of an instruction with its criteria. -/
abbrev DigestContract := String → List AcceptanceCriterion → String

def noInfiniteLoopCriterion : AcceptanceCriterion where
  id := "no_infinite_loop"
  description := "The agent must not enter an unproductive loop of repeated plain-text turns."
  kind := .hard
  weight := fullShare
  threshold := fullShare
  verifierId := "no_infinite_loop"

def defaultSystemContract (digestContract : DigestContract) (instruction frozenAt : String) : GoalContract where
  contractId := digestContract instruction [noInfiniteLoopCriterion]
  instruction := instruction
  criteria := [noInfiniteLoopCriterion]
  frozenAt := frozenAt
  compiledBy := .system

def proposedCriteria (registry : VerifierRegistry) (response : LlmChatResponse) : List AcceptanceCriterion :=
  match (extractToolCallArgs response).or (extractTextJson response) with
  | some raw =>
      match raw.get? "criteria" with
      | some (.arr criteria) => criteria.filterMap (normalizeCriterion registry)
      | _ => []
  | none => []

/-- The contract of a run; there is no response where there is no adapter or its call fails. -/
def compileGoalContract (digestContract : DigestContract) (instruction : String)
    (response : Option LlmChatResponse) (registry : VerifierRegistry) (frozenAt : String) : GoalContract :=
  match response.map (proposedCriteria registry) with
  | some (criterion :: criteria) =>
      { contractId := digestContract instruction (criterion :: criteria), instruction
        criteria := criterion :: criteria, frozenAt, compiledBy := .llm }
  | _ => defaultSystemContract digestContract instruction frozenAt

end Cantilune
