import Cantilune.Base.JsString
import Cantilune.Core.Snapshot

/-!
# Start conditions

The condition of an agent is a tree of atoms, each of which an evaluator of the registry decides by its name. An
evaluator is code of the host and may throw.
-/

namespace Cantilune

structure StartConditionAtom where
  evaluator : String
  params : Json

inductive StartConditionExpression where
  | atom (atom : StartConditionAtom)
  | and (operands : List StartConditionExpression)
  | or (operands : List StartConditionExpression)
  | not (operand : StartConditionExpression)

/-- `none` is an exception. -/
abbrev ConditionEvaluator := Json → CollaborationSnapshot → ActorId → Option Bool

abbrev ConditionEvaluatorRegistry := String → Option ConditionEvaluator

namespace ConditionEvaluatorRegistry

variable (registry : ConditionEvaluatorRegistry) (snapshot : CollaborationSnapshot) (targetAgent : ActorId)

def evaluateAtom (atom : StartConditionAtom) : Option Bool :=
  match registry atom.evaluator with
  | none => some false
  | some evaluator => evaluator atom.params snapshot targetAgent

mutual

def evaluate : StartConditionExpression → Option Bool
  | .atom atom => registry.evaluateAtom snapshot targetAgent atom
  | .and operands => evaluateEvery operands
  | .or operands => evaluateSome operands
  | .not operand => (evaluate operand).map Bool.not

/-- The first operand that is false ends the evaluation. -/
def evaluateEvery : List StartConditionExpression → Option Bool
  | [] => some true
  | operand :: operands =>
      match evaluate operand with
      | some true => evaluateEvery operands
      | result => result

def evaluateSome : List StartConditionExpression → Option Bool
  | [] => some false
  | operand :: operands =>
      match evaluate operand with
      | some false => evaluateSome operands
      | result => result

end

end ConditionEvaluatorRegistry

/-! ## The default evaluators -/

/-- Whether a participant is there whose status passes. -/
def hasStatus (status : ParticipationStatus → Bool) (snapshot : CollaborationSnapshot) : Json → Bool
  | .str agentId => (snapshot.participants.get? agentId).any fun p => status p.status
  | _ => false

/-- Every listed agent has such a status. What is no list has no `every`. -/
def evaluateAgents (status : ParticipationStatus → Bool) : ConditionEvaluator := fun params snapshot _ =>
  match params.get? "agents" with
  | none => some false
  | some (.arr agents) => some (!agents.isEmpty && agents.all (hasStatus status snapshot))
  | some (.str text) => if text = "" then some false else none
  | some (.obj members) => if members.lookup "length" = some (.num 0) then some false else none
  | some _ => none

def evaluateArtifactPublished : ConditionEvaluator := fun params snapshot _ =>
  match params.get? "artifactId" with
  | some (.str artifactId) =>
      some ((snapshot.artifacts.get? artifactId).any fun artifact => artifact.lifecycle = .published)
  | _ => some false

def createDefaultConditionRegistry : ConditionEvaluatorRegistry
  | "always" => some fun _ _ _ => some true
  | "never" => some fun _ _ _ => some false
  | "agentsDone" => some (evaluateAgents fun status => status = .done || status = .retired)
  | "agentsActive" => some (evaluateAgents fun status => status = .active)
  | "artifactPublished" => some evaluateArtifactPublished
  | _ => none

/-- The agent starts as soon as it is registered. -/
def alwaysCondition : StartConditionExpression := .atom { evaluator := "always", params := .obj [] }

def neverCondition : StartConditionExpression := .atom { evaluator := "never", params := .obj [] }

/-! ## Normalization -/

def alwaysAliases : List String := ["always", "true", "unconditional", "immediately", "now"]

def neverAliases : List String := ["never", "false", "manual"]

/-- The members of an object; nothing of any other value. -/
def asAtomParams : Option Json → Json
  | some (.obj members) => .obj members
  | _ => .obj []

/-- What text stands for. No alias has a letter that another than its own capital is lowered to. -/
def normalizeText (text : String) : StartConditionExpression :=
  let trimmed := (JsString.trim text).toLower
  if trimmed.length = 0 ∨ trimmed ∈ alwaysAliases then alwaysCondition
  else if trimmed ∈ neverAliases then neverCondition
  else alwaysCondition

def normalizeAtom (atom : Option Json) : StartConditionExpression :=
  match atom.bind (·.get? "evaluator") with
  | some (.str evaluator) =>
      if evaluator.length > 0 then .atom { evaluator, params := asAtomParams (atom.bind (·.get? "params")) }
      else alwaysCondition
  | _ => alwaysCondition

theorem sizeOf_get?_lt {value found : Json} {k : String} (h : value.get? k = some found) :
    sizeOf found < sizeOf value := by
  cases value with
  | obj members =>
      rw [Json.get?] at h
      induction members with
      | nil => cases h
      | cons member members ih =>
          obtain ⟨l, v⟩ := member
          rw [List.lookup_cons] at h
          split at h
          · cases h
            simp only [Json.obj.sizeOf_spec, List.cons.sizeOf_spec, Prod.mk.sizeOf_spec]
            omega
          · have hlt := ih h
            simp only [Json.obj.sizeOf_spec, List.cons.sizeOf_spec] at hlt ⊢
            omega
  | _ => cases h

/-- Canonical form of a condition as written in a manifest; `none` is `undefined`. What declares no condition holds
always. -/
def normalizeStartCondition (value : Option Json) : StartConditionExpression :=
  match value with
  | none => alwaysCondition
  | some (.str text) => normalizeText text
  | some value =>
      match value.get? "evaluator", value.get? "operator" with
      | some (.str evaluator), none => .atom { evaluator, params := asAtomParams (value.get? "params") }
      | _, some (.str "atom") => normalizeAtom (value.get? "atom")
      | _, some (.str "and") =>
          match _h : value.get? "operands" with
          | some (.arr operands) => .and (operands.attach.map fun operand => normalizeStartCondition (some operand.1))
          | _ => .and []
      | _, some (.str "or") =>
          match _h : value.get? "operands" with
          | some (.arr operands) => .or (operands.attach.map fun operand => normalizeStartCondition (some operand.1))
          | _ => .or []
      | _, some (.str "not") =>
          match _h : value.get? "operand" with
          | some operand => .not (normalizeStartCondition (some operand))
          | none => .not alwaysCondition
      | _, _ => alwaysCondition
termination_by sizeOf value
decreasing_by
  all_goals
    have hlt := sizeOf_get?_lt _h
    simp only [Option.some.sizeOf_spec]
  · have hmem := List.sizeOf_lt_of_mem operand.2
    simp only [Json.arr.sizeOf_spec] at hlt
    omega
  · have hmem := List.sizeOf_lt_of_mem operand.2
    simp only [Json.arr.sizeOf_spec] at hlt
    omega
  · omega

mutual

def StartConditionExpression.toJson : StartConditionExpression → Json
  | .atom a => .obj [("operator", .str "atom"), ("atom", .obj [("evaluator", .str a.evaluator), ("params", a.params)])]
  | .and operands => .obj [("operator", .str "and"), ("operands", .arr (toJsonList operands))]
  | .or operands => .obj [("operator", .str "or"), ("operands", .arr (toJsonList operands))]
  | .not operand => .obj [("operator", .str "not"), ("operand", operand.toJson)]

def StartConditionExpression.toJsonList : List StartConditionExpression → List Json
  | [] => []
  | operand :: operands => operand.toJson :: toJsonList operands

end

end Cantilune
