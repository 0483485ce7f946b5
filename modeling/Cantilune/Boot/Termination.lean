import Cantilune.Boot.GoalContract

/-!
# The decision on termination

Every turn the criteria are evaluated by their verifiers, and the decision falls by precedence: done, verify, ask
the user, continue, and otherwise replan or stalled. Evaluations are looked up by the id of their criterion.
-/

namespace Cantilune

structure ControllerThresholds where
  tauC : ℚ
  tauU : ℚ
  epsilon : ℚ
  lambda : ℚ
  mu : ℚ
  hardGate : ℚ

def defaultThresholds : ControllerThresholds where
  tauC := 4 / 5
  tauU := 1 / 5
  epsilon := 1 / 20
  lambda := 1 / 10
  mu := 1 / 5
  hardGate := 1

structure ValueOfContinuation where
  perAction : OrdMap String ℚ
  star : ℚ
  bestAction : Option String

/-- The entries of the trail that a decision leaves. -/
inductive DecisionStep where
  | hardGate (H : ℚ)
  | completion (C : ℚ)
  | uncertainty (U : ℚ)
  | valueOfContinuation (star : ℚ)
  | signaledDone
  | done | worthwhileAction | gateClosed | belowCompletion | aboveUncertainty
  | verify | askUser | continues | replan | stalled
  deriving DecidableEq

/-- The text of an entry; the host prints the numbers with so many places. -/
def DecisionStep.text (toFixed : ℚ → Nat → String) : DecisionStep → String
  | .hardGate H => "H=" ++ toFixed H 0 ++ " (hard gate)"
  | .completion C => "C=" ++ toFixed C 3 ++ " (completion)"
  | .uncertainty U => "U=" ++ toFixed U 3 ++ " (uncertainty)"
  | .valueOfContinuation star => "VOC*=" ++ toFixed star 3 ++ " (value of continuation)"
  | .signaledDone => "LLM signaled done (advisory only)"
  | .done => "→ DONE: hard gate open, completion met, uncertainty low, no worthwhile action."
  | .worthwhileAction => "→ not DONE: worthwhile continuation action remains (VOC* > ε)."
  | .gateClosed => "→ not DONE: hard gate closed."
  | .belowCompletion => "→ not DONE: completion below τ_C."
  | .aboveUncertainty => "→ not DONE: uncertainty above τ_U."
  | .verify => "→ VERIFY: completion reached but evidence credibility too low."
  | .askUser => "→ ASK_USER: no progress and no worthwhile action; user input needed."
  | .continues => "→ CONTINUE: a worthwhile continuation action exists."
  | .replan => "→ REPLAN: current direction stalled but an alternative shows promise."
  | .stalled => "→ STALLED: no completion and no worthwhile continuation path."

structure TerminationAudit where
  H : ℚ
  C : ℚ
  U : ℚ
  VOC_star : ℚ
  residual : List ℚ
  criterionEvals : List CriterionEvaluation
  decisionChain : List DecisionStep

/-- A gap in the evidence: a criterion with its credibility, or none in particular. -/
inductive MissingEvidence where
  | lowEvidence (criterionId : String) (rho : ℚ)
  | unspecified

def MissingEvidence.text (toFixed : ℚ → Nat → String) : MissingEvidence → String
  | .lowEvidence criterionId rho => "low-evidence criterion " ++ criterionId ++ " (ρ=" ++ toFixed rho 2 ++ ")"
  | .unspecified => "unspecified evidence gap"

inductive ControlVerdict where
  | done (audit : TerminationAudit)
  | verify (audit : TerminationAudit) (missingEvidence : List MissingEvidence)
  | askUser (audit : TerminationAudit) (question : String)
  | continues (audit : TerminationAudit) (recommendedAction : Option String)
  | replan (audit : TerminationAudit) (reason : String)
  | stalled (audit : TerminationAudit) (blocker : String)

def ControlVerdict.isDone : ControlVerdict → Bool
  | .done _ => true
  | _ => false

def findEvaluation (evaluations : List CriterionEvaluation) (id : String) : Option CriterionEvaluation :=
  evaluations.find? fun e => e.criterionId = id

def hardGateFromContract (contract : GoalContract) (evaluations : List CriterionEvaluation) : ℚ :=
  let hard := contract.criteria.filter fun c => c.kind = .hard
  if hard.all fun c => (findEvaluation evaluations c.id).any (·.passed) then 1 else 0

structure WeightedCompletion where
  weightSum : ℚ
  weightedSatisfaction : ℚ
  weightedRhoGap : ℚ

def weightedSums (criteria : List AcceptanceCriterion) (evaluations : List CriterionEvaluation) : WeightedCompletion :=
  criteria.foldl (fun sums criterion =>
      let found := findEvaluation evaluations criterion.id
      let q := (found.map (·.q)).getD 0
      let rho := (found.map (·.rho)).getD 0
      let w := criterion.weight.1
      { weightSum := sums.weightSum + w
        weightedSatisfaction := sums.weightedSatisfaction + w * q
        weightedRhoGap := sums.weightedRhoGap + w * (1 - rho) })
    { weightSum := 0, weightedSatisfaction := 0, weightedRhoGap := 0 }

def weightedCompletion (contract : GoalContract) (evaluations : List CriterionEvaluation) : ℚ × ℚ :=
  let sums := weightedSums contract.criteria evaluations
  (if 0 < sums.weightSum then sums.weightedSatisfaction / sums.weightSum else 0,
    if 0 < sums.weightSum then sums.weightedRhoGap / sums.weightSum else 0)

/-! ## The decision -/

structure DecisionContext where
  contract : GoalContract
  evaluations : List CriterionEvaluation
  voc : ValueOfContinuation
  residual : List ℚ
  thresholds : ControllerThresholds
  H : ℚ
  C : ℚ
  U : ℚ

namespace DecisionContext

variable (ctx : DecisionContext) (chain : List DecisionStep)

def audit : TerminationAudit where
  H := ctx.H
  C := ctx.C
  U := ctx.U
  VOC_star := ctx.voc.star
  residual := ctx.residual
  criterionEvals := ctx.evaluations
  decisionChain := chain

/-- A verdict, or the trail with the reasons why it does not fall. -/
def tryDone : ControlVerdict ⊕ List DecisionStep :=
  if ctx.thresholds.hardGate ≤ ctx.H ∧ ctx.thresholds.tauC ≤ ctx.C ∧ ctx.U ≤ ctx.thresholds.tauU then
    if ctx.voc.star ≤ ctx.thresholds.epsilon then .inl (.done (ctx.audit (chain ++ [.done])))
    else .inr (chain ++ [.worthwhileAction])
  else
    .inr (chain ++ (if ctx.H < ctx.thresholds.hardGate then [.gateClosed] else []) ++
      (if ctx.C < ctx.thresholds.tauC then [.belowCompletion] else []) ++
      (if ctx.thresholds.tauU < ctx.U then [.aboveUncertainty] else []))

def tryVerify : Option ControlVerdict :=
  if ctx.thresholds.tauC ≤ ctx.C ∧ ctx.thresholds.tauU < ctx.U then
    let missing := (ctx.evaluations.filter fun e => e.rho < 1).map fun e =>
      MissingEvidence.lowEvidence e.criterionId e.rho
    some (.verify (ctx.audit (chain ++ [.verify])) (if missing.isEmpty then [.unspecified] else missing))
  else none

def tryAskUser : Option ControlVerdict :=
  let hasProgress := ctx.evaluations.any fun e => e.passed && decide (1 / 2 ≤ e.rho)
  if ctx.C < ctx.thresholds.tauC ∧ ctx.voc.star ≤ ctx.thresholds.epsilon ∧ hasProgress = false then
    some (.askUser (ctx.audit (chain ++ [.askUser]))
      "I cannot make further progress without more information. What would you like me to do next?")
  else none

def tryContinue : Option ControlVerdict :=
  if ctx.thresholds.epsilon < ctx.voc.star then
    some (.continues (ctx.audit (chain ++ [.continues])) ctx.voc.bestAction)
  else none

def replanOrStalled : ControlVerdict :=
  if ctx.voc.perAction.values.any fun v => 0 < v then
    .replan (ctx.audit (chain ++ [.replan])) "Current approach lacks progress; reconsider the plan."
  else
    .stalled (ctx.audit (chain ++ [.stalled])) "No candidate action yields positive value; goal cannot progress."

end DecisionContext

def decideVerdict (contract : GoalContract) (evaluations : List CriterionEvaluation) (voc : ValueOfContinuation)
    (residual : List ℚ) (thresholds : ControllerThresholds) (llmDoneSignal : Bool) : ControlVerdict :=
  let H := hardGateFromContract contract evaluations
  let (C, U) := weightedCompletion contract evaluations
  let ctx : DecisionContext := { contract, evaluations, voc, residual, thresholds, H, C, U }
  let chain : List DecisionStep :=
    [.hardGate H, .completion C, .uncertainty U, .valueOfContinuation voc.star] ++
      (if llmDoneSignal then [.signaledDone] else [])
  match ctx.tryDone chain with
  | .inl verdict => verdict
  | .inr chain =>
      ((ctx.tryVerify chain).orElse fun _ => (ctx.tryAskUser chain).orElse fun _ => ctx.tryContinue chain).getD
        (ctx.replanOrStalled chain)

/-- The evaluations of a turn. With a judge the registry is another one than that of the compilation. -/
def evaluateAll (registry : VerifierRegistry) (contract : GoalContract) (state : AgentState) :
    List CriterionEvaluation :=
  contract.criteria.map fun c => registry.evaluate c.verifierId c state

end Cantilune
