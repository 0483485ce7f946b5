import Cantilune.Boot.Termination
import Mathlib.Algebra.Order.BigOperators.Group.List
import Mathlib.Algebra.Order.Field.Basic
import Mathlib.Tactic.Linarith
import Mathlib.Algebra.BigOperators.Ring.List

/-!
# When a run is done

The gate, the completion and the uncertainty read the evaluation that the first criterion with an id has got. So a
verdict is sound as far as these first criteria speak for the others with their ids.
-/

namespace Cantilune

variable {registry : VerifierRegistry} {state : AgentState} {contract : GoalContract}
  {criteria : List AcceptanceCriterion}

def namesake (criteria : List AcceptanceCriterion) (c : AcceptanceCriterion) : AcceptanceCriterion :=
  (criteria.find? fun d => d.id = c.id).getD c

def VerifierRegistry.judges (registry : VerifierRegistry) (state : AgentState) (c : AcceptanceCriterion) :
    CriterionEvaluation :=
  registry.evaluate c.verifierId c state

theorem evaluate_criterionId (registry : VerifierRegistry) (state : AgentState) (c : AcceptanceCriterion) :
    (registry.judges state c).criterionId = c.id := by
  unfold VerifierRegistry.judges VerifierRegistry.evaluate
  cases registry.get? c.verifierId with
  | none => rfl
  | some verifier => exact verifier.signs c state

theorem namesake_mem {c : AcceptanceCriterion} (hc : c ∈ criteria) : namesake criteria c ∈ criteria := by
  unfold namesake
  cases hfind : criteria.find? fun d => d.id = c.id with
  | none => exact hc
  | some d => exact List.mem_of_find?_eq_some hfind

theorem findEvaluation_evaluateAll {c : AcceptanceCriterion} (hc : c ∈ contract.criteria) :
    findEvaluation (evaluateAll registry contract state) c.id =
      some (registry.judges state (namesake contract.criteria c)) := by
  have hsome : (contract.criteria.find? fun d => d.id = c.id).isSome := by
    rw [List.find?_isSome]
    exact ⟨c, hc, by simp⟩
  obtain ⟨d, hd⟩ := Option.isSome_iff_exists.1 hsome
  unfold findEvaluation evaluateAll
  rw [List.find?_map, namesake, hd]
  have hcomp : ((fun e : CriterionEvaluation => decide (e.criterionId = c.id)) ∘ fun c =>
      registry.evaluate c.verifierId c state) = fun d => decide (d.id = c.id) := by
    funext d
    exact congrArg (fun id => decide (id = c.id)) (evaluate_criterionId registry state d)
  rw [hcomp, hd]
  rfl

/-! ## Gate, completion and uncertainty in terms of first criteria -/

def GateOpens (registry : VerifierRegistry) (state : AgentState) (criteria : List AcceptanceCriterion) : Prop :=
  ∀ c ∈ criteria, c.kind = .hard → (registry.judges state (namesake criteria c)).passed = true

def totalWeight (criteria : List AcceptanceCriterion) : ℚ := (criteria.map fun c => c.weight.1).sum

def weighted (registry : VerifierRegistry) (state : AgentState) (criteria : List AcceptanceCriterion)
    (found : CriterionEvaluation → ℚ) : ℚ :=
  (criteria.map fun c => c.weight.1 * found (registry.judges state (namesake criteria c))).sum

theorem hardGate_open_iff :
    1 ≤ hardGateFromContract contract (evaluateAll registry contract state) ↔
      GateOpens registry state contract.criteria := by
  have hall : ((contract.criteria.filter fun c => c.kind = .hard).all fun c =>
      (findEvaluation (evaluateAll registry contract state) c.id).any (·.passed)) = true ↔
        GateOpens registry state contract.criteria := by
    simp only [List.all_eq_true, List.mem_filter, decide_eq_true_eq, GateOpens]
    constructor
    · intro h c hc hkind
      have hpassed := h c ⟨hc, hkind⟩
      rw [findEvaluation_evaluateAll hc] at hpassed
      exact hpassed
    · rintro h c ⟨hc, hkind⟩
      rw [findEvaluation_evaluateAll hc]
      exact h c hc hkind
  unfold hardGateFromContract
  dsimp only
  split
  · rename_i hopen
    exact ⟨fun _ => hall.1 hopen, fun _ => le_rfl⟩
  · rename_i hclosed
    exact ⟨fun h => absurd h (by norm_num), fun h => absurd (hall.2 h) hclosed⟩

theorem weightedSums_foldl {evaluations : List CriterionEvaluation}
    {found : AcceptanceCriterion → CriterionEvaluation}
    (hfound : ∀ c ∈ criteria, findEvaluation evaluations c.id = some (found c)) (sums : WeightedCompletion) :
    criteria.foldl (fun sums criterion =>
        let e := findEvaluation evaluations criterion.id
        let q := (e.map (·.q)).getD 0
        let rho := (e.map (·.rho)).getD 0
        let w := criterion.weight.1
        { weightSum := sums.weightSum + w
          weightedSatisfaction := sums.weightedSatisfaction + w * q
          weightedRhoGap := sums.weightedRhoGap + w * (1 - rho) }) sums =
      { weightSum := sums.weightSum + (criteria.map fun c => c.weight.1).sum
        weightedSatisfaction := sums.weightedSatisfaction + (criteria.map fun c => c.weight.1 * (found c).q).sum
        weightedRhoGap := sums.weightedRhoGap + (criteria.map fun c => c.weight.1 * (1 - (found c).rho)).sum } := by
  induction criteria generalizing sums with
  | nil => simp
  | cons c rest ih =>
      have hc := hfound c List.mem_cons_self
      have hrest := ih fun d hd => hfound d (List.mem_cons_of_mem c hd)
      rw [List.foldl_cons, hrest]
      simp [hc, add_assoc]

theorem weightedSums_evaluateAll :
    weightedSums contract.criteria (evaluateAll registry contract state) =
      { weightSum := totalWeight contract.criteria
        weightedSatisfaction := weighted registry state contract.criteria (·.q)
        weightedRhoGap := weighted registry state contract.criteria (1 - ·.rho) } := by
  have h := @weightedSums_foldl contract.criteria (evaluateAll registry contract state)
    (fun c => registry.judges state (namesake contract.criteria c)) (fun c hc => findEvaluation_evaluateAll hc)
    { weightSum := 0, weightedSatisfaction := 0, weightedRhoGap := 0 }
  unfold weightedSums
  rw [h]
  simp [totalWeight, weighted]

theorem totalWeight_pos_iff : 0 < totalWeight criteria ↔ ∃ c ∈ criteria, 0 < c.weight.1 := by
  constructor
  · intro hpos
    by_contra hnone
    push Not at hnone
    have hle := List.sum_le_card_nsmul (criteria.map fun c => c.weight.1) 0 fun w hw => by
      obtain ⟨c, hc, rfl⟩ := List.mem_map.1 hw
      exact hnone c hc
    rw [nsmul_zero] at hle
    exact absurd hpos (not_lt.2 hle)
  · rintro ⟨c, hc, hweight⟩
    have hle : c.weight.1 ≤ totalWeight criteria :=
      List.single_le_sum (fun w hw => by
        obtain ⟨d, -, rfl⟩ := List.mem_map.1 hw
        exact d.weight.2.1) _ (List.mem_map_of_mem hc)
    exact lt_of_lt_of_le hweight hle

theorem completion_reached_iff :
    4 / 5 ≤ (weightedCompletion contract (evaluateAll registry contract state)).1 ↔
      0 < totalWeight contract.criteria ∧
        4 / 5 * totalWeight contract.criteria ≤ weighted registry state contract.criteria (·.q) := by
  unfold weightedCompletion
  rw [weightedSums_evaluateAll]
  dsimp only
  by_cases hpos : 0 < totalWeight contract.criteria
  · rw [if_pos hpos, le_div_iff₀ hpos]
    exact (and_iff_right hpos).symm
  · rw [if_neg hpos]
    exact ⟨fun h => absurd h (by norm_num), fun h => absurd h.1 hpos⟩

theorem uncertainty_low_iff (hpos : 0 < totalWeight contract.criteria) :
    (weightedCompletion contract (evaluateAll registry contract state)).2 ≤ 1 / 5 ↔
      weighted registry state contract.criteria (1 - ·.rho) ≤ 1 / 5 * totalWeight contract.criteria := by
  unfold weightedCompletion
  rw [weightedSums_evaluateAll]
  dsimp only
  rw [if_pos hpos, div_le_iff₀ hpos]

/-! ## The verdict -/

/-- The first criteria would end the run: the hard ones are passed, their weighted shares amount to four fifths, the
doubts to a fifth at most, and no action is worth its cost. -/
structure FirstCriteriaDone (registry : VerifierRegistry) (state : AgentState) (criteria : List AcceptanceCriterion)
    (voc : ValueOfContinuation) : Prop where
  gate : GateOpens registry state criteria
  weight : 0 < totalWeight criteria
  completion : 4 / 5 * totalWeight criteria ≤ weighted registry state criteria (·.q)
  uncertainty : weighted registry state criteria (1 - ·.rho) ≤ 1 / 5 * totalWeight criteria
  continuation : voc.star ≤ defaultThresholds.epsilon

def turnVerdict (registry : VerifierRegistry) (contract : GoalContract) (state : AgentState)
    (voc : ValueOfContinuation) (residual : List ℚ) (llmDoneSignal : Bool) : ControlVerdict :=
  decideVerdict contract (evaluateAll registry contract state) voc residual defaultThresholds llmDoneSignal

namespace DecisionContext

variable {ctx : DecisionContext} {chain : List DecisionStep} {verdict : ControlVerdict}

theorem tryDone_done (hverdict : ctx.tryDone chain = .inl verdict) :
    verdict.isDone = true ∧ ctx.thresholds.hardGate ≤ ctx.H ∧ ctx.thresholds.tauC ≤ ctx.C ∧
      ctx.U ≤ ctx.thresholds.tauU ∧ ctx.voc.star ≤ ctx.thresholds.epsilon := by
  unfold tryDone at hverdict
  split at hverdict
  · rename_i hreached
    split at hverdict
    · rename_i hstar
      cases hverdict
      exact ⟨rfl, hreached.1, hreached.2.1, hreached.2.2, hstar⟩
    · cases hverdict
  · cases hverdict

theorem tryDone_not_done {chain' : List DecisionStep} (hchain : ctx.tryDone chain = .inr chain') :
    ¬ (ctx.thresholds.hardGate ≤ ctx.H ∧ ctx.thresholds.tauC ≤ ctx.C ∧ ctx.U ≤ ctx.thresholds.tauU ∧
      ctx.voc.star ≤ ctx.thresholds.epsilon) := by
  rintro ⟨hgate, hcompletion, huncertainty, hstar⟩
  rw [tryDone, if_pos ⟨hgate, hcompletion, huncertainty⟩, if_pos hstar] at hchain
  cases hchain

theorem tryVerify_isDone (hverdict : ctx.tryVerify chain = some verdict) : verdict.isDone = false := by
  unfold tryVerify at hverdict
  split at hverdict
  · cases hverdict
    rfl
  · cases hverdict

theorem tryAskUser_isDone (hverdict : ctx.tryAskUser chain = some verdict) : verdict.isDone = false := by
  dsimp only [tryAskUser] at hverdict
  split at hverdict
  · cases hverdict
    rfl
  · cases hverdict

theorem tryContinue_isDone (hverdict : ctx.tryContinue chain = some verdict) : verdict.isDone = false := by
  unfold tryContinue at hverdict
  split at hverdict
  · cases hverdict
    rfl
  · cases hverdict

theorem replanOrStalled_isDone : (ctx.replanOrStalled chain).isDone = false := by
  unfold replanOrStalled
  split <;> rfl

theorem others_isDone :
    (((ctx.tryVerify chain).orElse fun _ => (ctx.tryAskUser chain).orElse fun _ => ctx.tryContinue chain).getD
      (ctx.replanOrStalled chain)).isDone = false := by
  cases hverify : ctx.tryVerify chain with
  | some verdict => exact tryVerify_isDone hverify
  | none =>
      cases hask : ctx.tryAskUser chain with
      | some verdict => exact tryAskUser_isDone hask
      | none =>
          cases hcontinue : ctx.tryContinue chain with
          | some verdict => exact tryContinue_isDone hcontinue
          | none => exact replanOrStalled_isDone

end DecisionContext

theorem decideVerdict_isDone {evaluations : List CriterionEvaluation} {voc : ValueOfContinuation} {residual : List ℚ}
    {thresholds : ControllerThresholds} {llmDoneSignal : Bool} :
    (decideVerdict contract evaluations voc residual thresholds llmDoneSignal).isDone = true ↔
      thresholds.hardGate ≤ hardGateFromContract contract evaluations ∧
        thresholds.tauC ≤ (weightedCompletion contract evaluations).1 ∧
        (weightedCompletion contract evaluations).2 ≤ thresholds.tauU ∧ voc.star ≤ thresholds.epsilon := by
  dsimp only [decideVerdict]
  split
  · rename_i verdict hverdict
    obtain ⟨hdone, hreached⟩ := DecisionContext.tryDone_done hverdict
    exact ⟨fun _ => hreached, fun _ => hdone⟩
  · rename_i chain hchain
    rw [DecisionContext.others_isDone]
    exact ⟨nofun, fun hreached => absurd hreached (DecisionContext.tryDone_not_done hchain)⟩

theorem turnVerdict_isDone_iff {voc : ValueOfContinuation} {residual : List ℚ} {llmDoneSignal : Bool} :
    (turnVerdict registry contract state voc residual llmDoneSignal).isDone = true ↔
      FirstCriteriaDone registry state contract.criteria voc := by
  unfold turnVerdict
  rw [decideVerdict_isDone]
  constructor
  · rintro ⟨hgate, hcompletion, huncertainty, hstar⟩
    obtain ⟨hweight, hshares⟩ := completion_reached_iff.1 hcompletion
    exact ⟨hardGate_open_iff.1 hgate, hweight, hshares, (uncertainty_low_iff hweight).1 huncertainty, hstar⟩
  · intro h
    exact ⟨hardGate_open_iff.2 h.gate, completion_reached_iff.2 ⟨h.weight, h.completion⟩,
      (uncertainty_low_iff h.weight).2 h.uncertainty, h.continuation⟩

/-! ## Soundness and completeness -/

def Perfect (registry : VerifierRegistry) (state : AgentState) (c : AcceptanceCriterion) : Prop :=
  (registry.judges state c).q = 1 ∧ (registry.judges state c).rho = 1 ∧ (registry.judges state c).passed = true

/-- A run that is done has passed every hard criterion, each by its own verifier; and a run without a flaw is done. -/
structure VerdictRight (registry : VerifierRegistry) (state : AgentState) (criteria : List AcceptanceCriterion)
    (voc : ValueOfContinuation) (verdict : ControlVerdict) : Prop where
  sound : verdict.isDone = true → ∀ c ∈ criteria, c.kind = .hard →
    registry.has c.verifierId = true ∧ (registry.judges state c).passed = true
  complete : (∀ c ∈ criteria, Perfect registry state c) → voc.star ≤ defaultThresholds.epsilon →
    verdict.isDone = true

def Overshadowed (registry : VerifierRegistry) (state : AgentState) (criteria : List AcceptanceCriterion)
    (c : AcceptanceCriterion) : Prop :=
  namesake criteria c ≠ c ∧ (registry.judges state c).passed = false

def Undemanding (registry : VerifierRegistry) (c : AcceptanceCriterion) : Prop :=
  registry.has c.verifierId = false ∧ c.threshold.1 = 0

theorem judges_unregistered {c : AcceptanceCriterion} (hunknown : registry.has c.verifierId = false) :
    (registry.judges state c).passed = true ↔ c.threshold.1 = 0 := by
  rw [VerifierRegistry.judges, VerifierRegistry.evaluate, OrdMap.has_eq_false_iff.1 hunknown]
  have hnonneg := c.threshold.2.1
  simp only [zero_mul, decide_eq_true_eq]
  exact ⟨fun hle => le_antisymm hle hnonneg, fun heq => heq.le⟩

theorem hard_passed_iff (hgate : GateOpens registry state criteria) {c : AcceptanceCriterion} (hc : c ∈ criteria)
    (hkind : c.kind = .hard) :
    (registry.has c.verifierId = true ∧ (registry.judges state c).passed = true) ↔
      ¬ Overshadowed registry state criteria c ∧ ¬ Undemanding registry c := by
  constructor
  · rintro ⟨hknown, hpassed⟩
    exact ⟨fun h => Bool.noConfusion (hpassed.symm.trans h.2), fun h => Bool.noConfusion (hknown.symm.trans h.1)⟩
  · rintro ⟨hover, hdemanding⟩
    have hpassed : (registry.judges state c).passed = true := by
      by_cases hfirst : namesake criteria c = c
      · have h := hgate c hc hkind
        rw [hfirst] at h
        exact h
      · exact Bool.not_eq_false _ ▸ fun hfailed => hover ⟨hfirst, hfailed⟩
    refine ⟨?_, hpassed⟩
    by_contra hunknown
    rw [Bool.not_eq_true] at hunknown
    exact hdemanding ⟨hunknown, (judges_unregistered hunknown).1 hpassed⟩

theorem weighted_of_perfect {found : CriterionEvaluation → ℚ} {x : ℚ}
    (hfound : ∀ c ∈ criteria, found (registry.judges state c) = x) :
    weighted registry state criteria found = totalWeight criteria * x := by
  unfold weighted totalWeight
  rw [← List.sum_map_mul_right]
  refine congrArg List.sum (List.map_congr_left fun c hc => ?_)
  rw [hfound _ (namesake_mem hc)]

theorem firstCriteriaDone_of_perfect {voc : ValueOfContinuation} (hperfect : ∀ c ∈ criteria, Perfect registry state c)
    (hvoc : voc.star ≤ defaultThresholds.epsilon) :
    FirstCriteriaDone registry state criteria voc ↔ ∃ c ∈ criteria, 0 < c.weight.1 := by
  rw [← totalWeight_pos_iff]
  have hq : weighted registry state criteria (·.q) = totalWeight criteria * 1 :=
    weighted_of_perfect fun c hc => (hperfect c hc).1
  have hrho : weighted registry state criteria (1 - ·.rho) = totalWeight criteria * 0 :=
    weighted_of_perfect fun c hc => sub_eq_zero.2 (hperfect c hc).2.1.symm
  constructor
  · exact fun h => h.weight
  · intro hpos
    refine ⟨fun c hc _ => (hperfect _ (namesake_mem hc)).2.2, hpos, ?_, ?_, hvoc⟩
    · rw [hq]
      linarith
    · rw [hrho]
      linarith

/-- Where the first criteria end the run, no hard criterion is overshadowed or undemanding; and a flawless run has
some weight. -/
structure FirstCriteriaSpeak (registry : VerifierRegistry) (state : AgentState) (criteria : List AcceptanceCriterion)
    (voc : ValueOfContinuation) : Prop where
  hard : FirstCriteriaDone registry state criteria voc → ∀ c ∈ criteria, c.kind = .hard →
    ¬ Overshadowed registry state criteria c ∧ ¬ Undemanding registry c
  weight : (∀ c ∈ criteria, Perfect registry state c) → voc.star ≤ defaultThresholds.epsilon →
    ∃ c ∈ criteria, 0 < c.weight.1

def deliverCriterion (verifierId : String) : Json :=
  .obj [("id", .str "deliver"), ("description", .str "Deliver the report."), ("kind", .str "hard"),
    ("verifierId", .str verifierId)]

def deliverProposal : LlmChatResponse where
  text := none
  toolCalls :=
    [{ name := "propose_contract"
       arguments := .obj [("criteria",
         .arr [deliverCriterion "coordination_progress", deliverCriterion "task_artifact_exists"])] }]

def deliverVerifiers : VerifierRegistry :=
  (OrdMap.empty.set "coordination_progress" coordinationProgressVerifier).set "task_artifact_exists"
    taskArtifactExistsVerifier

def deliverContract : GoalContract :=
  compileGoalContract (fun instruction _ => instruction) "deliver" (some deliverProposal) deliverVerifiers "frozen"

def noFurtherAction : ValueOfContinuation where
  perAction := .empty
  star := 0
  bestAction := none

end Cantilune
