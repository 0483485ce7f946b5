import Mathlib.Data.Rat.Floor
import Cantilune.Base.Json
import Cantilune.Base.Outcomes

/-!
# Results and statuses of an evaluation

What an operation of the evaluation package answers when it refuses, and the statuses of claims, runs and
attempts with the moves between them.
-/

namespace Cantilune.Evaluation

inductive EvaluationViolationCode where
  | subjectCertificateInvalid
  | subjectCertificateRevoked
  | subjectCertificateExpired
  | subjectDigestMismatch
  | planDigestMismatch
  | protocolNotFrozen
  | runNotAdmitted
  | runLeaseExpired
  | runFencingTokenStale
  | reviewQuorumNotMet
  | budgetReserveFailed
  | invalidStateTransition
  | invalidInput
  | storeWriteFailed
  deriving DecidableEq, Repr

structure EvaluationViolation where
  code : EvaluationViolationCode
  path : String
  message : String
  context : Option Json := none
  deriving DecidableEq

/-- `ok` with a value, or the violations. -/
abbrev EvaluationResult (α : Type) := Except (List EvaluationViolation) α

def violation (code : EvaluationViolationCode) (path message : String) (context : Option Json := none) :
    EvaluationViolation := { code, path, message, context }

/-- `violations` with a single one. -/
def refuse {α : Type} (code : EvaluationViolationCode) (path message : String) (context : Option Json := none) :
    EvaluationResult α := .error [violation code path message context]

/-! ## Status machines -/

section
variable {Status : Type} [DecidableEq Status]

def transition (table : Status → List Status) (name : Status → String) (subject : String) (current target : Status) :
    EvaluationResult Status :=
  if target ∈ table current then .ok target
  else
    refuse .invalidStateTransition (subject ++ ".status")
      s!"Cannot transition {subject} from '{name current}' to '{name target}'"
      (some (.obj [("current", .str (name current)), ("target", .str (name target)),
        ("allowed", .arr ((table current).map fun s => .str (name s)))]))

theorem transition_eq_ok {table : Status → List Status} {name : Status → String} {subject : String}
    {current target next : Status} :
    transition table name subject current target = .ok next ↔ target ∈ table current ∧ next = target := by
  unfold transition
  split
  · simp [*, eq_comm]
  · simp [*, refuse]

end

inductive ClaimStatus where
  | proposed | protocolFrozen | measured | supported | notSupported | inconclusive | independentlyReviewed
  | published | superseded | retracted
  deriving DecidableEq, Repr

def ClaimStatus.name : ClaimStatus → String
  | .proposed => "proposed"
  | .protocolFrozen => "protocolFrozen"
  | .measured => "measured"
  | .supported => "supported"
  | .notSupported => "notSupported"
  | .inconclusive => "inconclusive"
  | .independentlyReviewed => "independentlyReviewed"
  | .published => "published"
  | .superseded => "superseded"
  | .retracted => "retracted"

/-- `CLAIM_TRANSITIONS` -/
def claimTransitions : ClaimStatus → List ClaimStatus
  | .proposed => [.protocolFrozen]
  | .protocolFrozen => [.measured]
  | .measured => [.supported, .notSupported, .inconclusive]
  | .supported => [.independentlyReviewed]
  | .notSupported => [.independentlyReviewed]
  | .inconclusive => [.independentlyReviewed]
  | .independentlyReviewed => [.published]
  | .published => [.superseded, .retracted]
  | .superseded => []
  | .retracted => []

def transitionClaim (current target : ClaimStatus) : EvaluationResult ClaimStatus :=
  transition claimTransitions ClaimStatus.name "claim" current target

inductive RunStatus where
  | planned | admitted | queued | leased | running | collecting | scoring | analyzing | reviewPending | accepted
  | rejected | published | failed | cancelled | budgetExhausted | providerUnavailable | dataQuarantined
  | securityStopped
  deriving DecidableEq, Repr

def RunStatus.name : RunStatus → String
  | .planned => "planned"
  | .admitted => "admitted"
  | .queued => "queued"
  | .leased => "leased"
  | .running => "running"
  | .collecting => "collecting"
  | .scoring => "scoring"
  | .analyzing => "analyzing"
  | .reviewPending => "reviewPending"
  | .accepted => "accepted"
  | .rejected => "rejected"
  | .published => "published"
  | .failed => "failed"
  | .cancelled => "cancelled"
  | .budgetExhausted => "budgetExhausted"
  | .providerUnavailable => "providerUnavailable"
  | .dataQuarantined => "dataQuarantined"
  | .securityStopped => "securityStopped"

/-- `RUN_TRANSITIONS` -/
def runTransitions : RunStatus → List RunStatus
  | .planned => [.admitted]
  | .admitted => [.queued]
  | .queued => [.leased, .cancelled]
  | .leased => [.running, .cancelled]
  | .running => [.collecting, .failed, .cancelled, .budgetExhausted, .providerUnavailable, .securityStopped]
  | .collecting => [.scoring, .failed, .dataQuarantined]
  | .scoring => [.analyzing, .failed]
  | .analyzing => [.reviewPending, .failed]
  | .reviewPending => [.accepted, .rejected]
  | .accepted => [.published]
  | .rejected => []
  | .published => []
  | .failed => []
  | .cancelled => []
  | .budgetExhausted => []
  | .providerUnavailable => []
  | .dataQuarantined => []
  | .securityStopped => []

def transitionRun (current target : RunStatus) : EvaluationResult RunStatus :=
  transition runTransitions RunStatus.name "run" current target

end Cantilune.Evaluation

/-!
## The budget of an evaluation

The limits of a policy and the ledger of what is reserved under it. How a number is printed in a message is a
parameter.
-/

namespace Cantilune.Evaluation

structure EvaluationBudgetPolicy where
  policyId : String
  maxRuns : Nat
  maxInputTokens : ℚ
  maxOutputTokens : ℚ
  maxTotalCostCents : ℚ
  deriving DecidableEq

structure BudgetLedger where
  policyRef : String
  reservedCostCents : ℚ
  actualCostCents : ℚ
  reconciledCostCents : ℚ
  reservedRuns : Nat
  completedRuns : Nat
  reservedTokens : ℚ
  usedTokens : ℚ
  costReceiptRefs : List String
  lastReconciledAt : Option String
  deriving DecidableEq

def EvaluationBudgetPolicy.totalTokens (policy : EvaluationBudgetPolicy) : ℚ :=
  policy.maxInputTokens + policy.maxOutputTokens

def reserveBudget (print : ℚ → String) (ledger : BudgetLedger) (policy : EvaluationBudgetPolicy)
    (costCents tokens : ℚ) : EvaluationResult BudgetLedger :=
  if costCents < 0 then refuse .budgetReserveFailed "budget.cost" "Cost cannot be negative"
  else if tokens < 0 then refuse .budgetReserveFailed "budget.tokens" "Tokens cannot be negative"
  else if ledger.reservedCostCents + costCents > policy.maxTotalCostCents then
    refuse .budgetReserveFailed "budget.totalCost"
      s!"Reserve {print costCents} would exceed max {print policy.maxTotalCostCents}"
      (some (.obj [("reserved", .num ledger.reservedCostCents), ("requested", .num costCents)]))
  else if ledger.reservedRuns + 1 > policy.maxRuns then
    refuse .budgetReserveFailed "budget.runs" s!"Run count would exceed max {policy.maxRuns}"
      (some (.obj [("reserved", .num ledger.reservedRuns)]))
  else if policy.totalTokens > 0 ∧ ledger.reservedTokens + tokens > policy.totalTokens then
    refuse .budgetReserveFailed "budget.tokens" s!"Token reservation would exceed max {print policy.totalTokens}"
  else
    .ok { ledger with
      reservedCostCents := ledger.reservedCostCents + costCents
      reservedRuns := ledger.reservedRuns + 1
      reservedTokens := ledger.reservedTokens + tokens }

def createEmptyLedger (policyRef : String) : BudgetLedger where
  policyRef := policyRef
  reservedCostCents := 0
  actualCostCents := 0
  reconciledCostCents := 0
  reservedRuns := 0
  completedRuns := 0
  reservedTokens := 0
  usedTokens := 0
  costReceiptRefs := []
  lastReconciledAt := none

/-- The share of one run in the total cost, rounded up. -/
def estimatedCost (policy : EvaluationBudgetPolicy) : ℚ :=
  if policy.maxTotalCostCents > 0 then (⌈policy.maxTotalCostCents / max policy.maxRuns 1⌉ : ℤ) else 0

/-- The share of one run in the tokens, rounded up. -/
def estimatedTokens (policy : EvaluationBudgetPolicy) : ℚ :=
  (⌈policy.totalTokens / max policy.maxRuns 1⌉ : ℤ)

theorem estimatedCost_nonneg (policy : EvaluationBudgetPolicy) : 0 ≤ estimatedCost policy := by
  unfold estimatedCost
  split
  · rename_i hpos
    have hshare : 0 ≤ policy.maxTotalCostCents / max (policy.maxRuns : ℚ) 1 :=
      div_nonneg (le_of_lt hpos) (le_max_of_le_right zero_le_one)
    exact_mod_cast Int.ceil_nonneg hshare
  · exact le_refl 0

end Cantilune.Evaluation
