import Cantilune.Core.StartCondition

/-!
# Normalized start conditions

What normalization makes of a tree, and when no registry tells the two apart.
-/

namespace Cantilune

open StartConditionExpression (toJsonList)

/-! ## What becomes of a tree -/

def StartConditionAtom.Kept (a : StartConditionAtom) : Prop := a.evaluator ≠ "" ∧ a.params.isRecord = true

instance (a : StartConditionAtom) : Decidable a.Kept := inferInstanceAs (Decidable (_ ∧ _))

def StartConditionAtom.settled (a : StartConditionAtom) : StartConditionAtom :=
  if a.evaluator = "" then { evaluator := "always", params := .obj [] }
  else { a with params := asAtomParams (some a.params) }

namespace StartConditionExpression

mutual

def settled : StartConditionExpression → StartConditionExpression
  | .atom a => .atom a.settled
  | .and operands => .and (settledList operands)
  | .or operands => .or (settledList operands)
  | .not operand => .not operand.settled

def settledList : List StartConditionExpression → List StartConditionExpression
  | [] => []
  | operand :: operands => operand.settled :: settledList operands

end

end StartConditionExpression

open StartConditionExpression (settledList)

theorem settled_kept (a : StartConditionAtom) : a.settled.Kept := by
  unfold StartConditionAtom.settled
  split
  · exact ⟨by decide, rfl⟩
  · rename_i hname
    refine ⟨hname, ?_⟩
    cases a.params <;> rfl

theorem StartConditionAtom.Kept.settled_eq {a : StartConditionAtom} (h : a.Kept) : a.settled = a := by
  obtain ⟨evaluator, params⟩ := a
  obtain ⟨hname, hparams⟩ := h
  rw [settled, if_neg hname]
  cases params with
  | obj members => rfl
  | _ => cases hparams

theorem normalizeAtom_toJson (a : StartConditionAtom) :
    normalizeAtom (some (.obj [("evaluator", .str a.evaluator), ("params", a.params)])) = .atom a.settled := by
  have hevaluator : (some (Json.obj [("evaluator", .str a.evaluator), ("params", a.params)])).bind
      (·.get? "evaluator") = some (.str a.evaluator) := rfl
  have hparams : (some (Json.obj [("evaluator", .str a.evaluator), ("params", a.params)])).bind
      (·.get? "params") = some a.params := rfl
  rw [normalizeAtom, hevaluator, hparams, StartConditionAtom.settled]
  by_cases hname : a.evaluator = ""
  · simp [hname, alwaysCondition]
  · have hlength : a.evaluator.length > 0 := by
      rw [gt_iff_lt, Nat.pos_iff_ne_zero]
      exact fun h => hname (String.length_eq_zero_iff.1 h)
    simp only [hlength, hname, if_true, if_false]

mutual

theorem normalize_toJson : (e : StartConditionExpression) → normalizeStartCondition (some e.toJson) = e.settled
  | .atom a => by
      rw [StartConditionExpression.toJson, normalizeStartCondition.eq_def]
      exact normalizeAtom_toJson a
  | .and operands => by
      rw [StartConditionExpression.toJson, normalizeStartCondition.eq_def]
      exact congrArg StartConditionExpression.and (List.attach_map_val.trans (normalize_toJsonList operands))
  | .or operands => by
      rw [StartConditionExpression.toJson, normalizeStartCondition.eq_def]
      exact congrArg StartConditionExpression.or (List.attach_map_val.trans (normalize_toJsonList operands))
  | .not operand => by
      rw [StartConditionExpression.toJson, normalizeStartCondition.eq_def]
      exact congrArg StartConditionExpression.not (normalize_toJson operand)

theorem normalize_toJsonList : (operands : List StartConditionExpression) →
    (toJsonList operands).map (fun operand => normalizeStartCondition (some operand)) = settledList operands
  | [] => rfl
  | operand :: operands => by
      rw [toJsonList, List.map_cons, normalize_toJson operand, normalize_toJsonList operands, settledList]

end

theorem settled_settled (a : StartConditionAtom) : a.settled.settled = a.settled := (settled_kept a).settled_eq

mutual

theorem StartConditionExpression.settled_settled : (e : StartConditionExpression) → e.settled.settled = e.settled
  | .atom a => congrArg StartConditionExpression.atom (Cantilune.settled_settled a)
  | .and operands => congrArg StartConditionExpression.and (settledList_settledList operands)
  | .or operands => congrArg StartConditionExpression.or (settledList_settledList operands)
  | .not operand => congrArg StartConditionExpression.not operand.settled_settled

theorem settledList_settledList : (operands : List StartConditionExpression) →
    settledList (settledList operands) = settledList operands
  | [] => rfl
  | operand :: operands => by
      rw [settledList, settledList, operand.settled_settled, settledList_settledList operands]

end

/-! ## What an evaluation comes to -/

section Reach
variable (registry : ConditionEvaluatorRegistry) (snapshot : CollaborationSnapshot) (targetAgent : ActorId)

/-- The atoms that the evaluation of a tree asks, in a registry and a world. -/
inductive Reaches : StartConditionExpression → StartConditionAtom → Prop where
  | atom {a : StartConditionAtom} : Reaches (.atom a) a
  | not {operand : StartConditionExpression} {a : StartConditionAtom} (inner : Reaches operand a) :
      Reaches (.not operand) a
  | and {before after : List StartConditionExpression} {operand : StartConditionExpression} {a : StartConditionAtom}
      (passed : ∀ e ∈ before, registry.evaluate snapshot targetAgent e = some true) (inner : Reaches operand a) :
      Reaches (.and (before ++ operand :: after)) a
  | or {before after : List StartConditionExpression} {operand : StartConditionExpression} {a : StartConditionAtom}
      (passed : ∀ e ∈ before, registry.evaluate snapshot targetAgent e = some false) (inner : Reaches operand a) :
      Reaches (.or (before ++ operand :: after)) a

end Reach

/-- Normalizing again changes nothing, and no registry, world and agent tell the normalized tree from the tree. -/
structure NormalizesSoundly (e : StartConditionExpression) : Prop where
  idempotent : normalizeStartCondition (some (normalizeStartCondition (some e.toJson)).toJson) =
    normalizeStartCondition (some e.toJson)
  meaning : ∀ (registry : ConditionEvaluatorRegistry) snapshot targetAgent,
    registry.evaluate snapshot targetAgent (normalizeStartCondition (some e.toJson)) =
      registry.evaluate snapshot targetAgent e

variable {registry : ConditionEvaluatorRegistry} {snapshot : CollaborationSnapshot} {targetAgent : ActorId}
  {e operand : StartConditionExpression} {operands : List StartConditionExpression} {a : StartConditionAtom}

theorem Reaches.and_head (h : Reaches registry snapshot targetAgent operand a) :
    Reaches registry snapshot targetAgent (.and (operand :: operands)) a :=
  @Reaches.and _ _ _ [] _ _ _ (by simp) h

theorem Reaches.or_head (h : Reaches registry snapshot targetAgent operand a) :
    Reaches registry snapshot targetAgent (.or (operand :: operands)) a :=
  @Reaches.or _ _ _ [] _ _ _ (by simp) h

theorem Reaches.and_tail (hoperand : registry.evaluate snapshot targetAgent operand = some true)
    (h : Reaches registry snapshot targetAgent (.and operands) a) :
    Reaches registry snapshot targetAgent (.and (operand :: operands)) a := by
  generalize hand : StartConditionExpression.and operands = e at h
  cases h with
  | and passed inner =>
      cases hand
      exact @Reaches.and _ _ _ (operand :: _) _ _ _ (List.forall_mem_cons.2 ⟨hoperand, passed⟩) inner
  | _ => cases hand

theorem Reaches.or_tail (hoperand : registry.evaluate snapshot targetAgent operand = some false)
    (h : Reaches registry snapshot targetAgent (.or operands) a) :
    Reaches registry snapshot targetAgent (.or (operand :: operands)) a := by
  generalize hor : StartConditionExpression.or operands = e at h
  cases h with
  | or passed inner =>
      cases hor
      exact @Reaches.or _ _ _ (operand :: _) _ _ _ (List.forall_mem_cons.2 ⟨hoperand, passed⟩) inner
  | _ => cases hor

open ConditionEvaluatorRegistry

mutual

theorem evaluate_settled : (e : StartConditionExpression) →
    (∀ a, Reaches registry snapshot targetAgent e a → a.Kept) →
      registry.evaluate snapshot targetAgent e.settled = registry.evaluate snapshot targetAgent e
  | .atom a, h => by rw [StartConditionExpression.settled, (h a .atom).settled_eq]
  | .and operands, h => by
      rw [StartConditionExpression.settled, evaluate, evaluate]
      exact evaluateEvery_settled operands h
  | .or operands, h => by
      rw [StartConditionExpression.settled, evaluate, evaluate]
      exact evaluateSome_settled operands h
  | .not operand, h => by
      rw [StartConditionExpression.settled, evaluate, evaluate, evaluate_settled operand fun a ha => h a (.not ha)]

theorem evaluateEvery_settled : (operands : List StartConditionExpression) →
    (∀ a, Reaches registry snapshot targetAgent (.and operands) a → a.Kept) →
      registry.evaluateEvery snapshot targetAgent (settledList operands) =
        registry.evaluateEvery snapshot targetAgent operands
  | [], _ => rfl
  | operand :: operands, h => by
      rw [settledList, evaluateEvery, evaluateEvery, evaluate_settled operand fun a ha => h a ha.and_head]
      split
      · rename_i htrue
        exact evaluateEvery_settled operands fun a ha => h a (ha.and_tail htrue)
      · rfl

theorem evaluateSome_settled : (operands : List StartConditionExpression) →
    (∀ a, Reaches registry snapshot targetAgent (.or operands) a → a.Kept) →
      registry.evaluateSome snapshot targetAgent (settledList operands) =
        registry.evaluateSome snapshot targetAgent operands
  | [], _ => rfl
  | operand :: operands, h => by
      rw [settledList, evaluateSome, evaluateSome, evaluate_settled operand fun a ha => h a ha.or_head]
      split
      · rename_i hfalse
        exact evaluateSome_settled operands fun a ha => h a (ha.or_tail hfalse)
      · rfl

end

/-! ## A registry that tells an altered atom -/

def keptOnly (registry : ConditionEvaluatorRegistry) : ConditionEvaluatorRegistry := fun name =>
  some fun params snapshot targetAgent =>
    if (StartConditionAtom.mk name params).Kept then
      some ((registry.evaluateAtom snapshot targetAgent ⟨name, params⟩).getD false)
    else none

theorem evaluateAtom_keptOnly : (keptOnly registry).evaluateAtom snapshot targetAgent a =
    if a.Kept then some ((registry.evaluateAtom snapshot targetAgent a).getD false) else none := rfl

mutual

theorem evaluate_keptOnly_settled : (e : StartConditionExpression) →
    ((keptOnly registry).evaluate snapshot targetAgent e.settled).isSome = true
  | .atom a => by
      rw [StartConditionExpression.settled, evaluate, evaluateAtom_keptOnly, if_pos (settled_kept a)]
      rfl
  | .and operands => by
      rw [StartConditionExpression.settled, evaluate]
      exact evaluateEvery_keptOnly_settled operands
  | .or operands => by
      rw [StartConditionExpression.settled, evaluate]
      exact evaluateSome_keptOnly_settled operands
  | .not operand => by
      rw [StartConditionExpression.settled, evaluate, Option.isSome_map]
      exact evaluate_keptOnly_settled operand

theorem evaluateEvery_keptOnly_settled : (operands : List StartConditionExpression) →
    ((keptOnly registry).evaluateEvery snapshot targetAgent (settledList operands)).isSome = true
  | [] => rfl
  | operand :: operands => by
      rw [settledList, evaluateEvery]
      split
      · exact evaluateEvery_keptOnly_settled operands
      · exact evaluate_keptOnly_settled operand

theorem evaluateSome_keptOnly_settled : (operands : List StartConditionExpression) →
    ((keptOnly registry).evaluateSome snapshot targetAgent (settledList operands)).isSome = true
  | [] => rfl
  | operand :: operands => by
      rw [settledList, evaluateSome]
      split
      · exact evaluateSome_keptOnly_settled operands
      · exact evaluate_keptOnly_settled operand

end

/-- Throws, or answers as the other does. -/
def Follows (x y : Option Bool) : Prop := ∀ b, y = some b → x = some b ∨ x = none

mutual

theorem evaluate_keptOnly : (e : StartConditionExpression) →
    Follows ((keptOnly registry).evaluate snapshot targetAgent e) (registry.evaluate snapshot targetAgent e)
  | .atom a, b, h => by
      rw [evaluate] at h
      rw [evaluate, evaluateAtom_keptOnly, h]
      split
      · exact .inl rfl
      · exact .inr rfl
  | .and operands, b, h => by
      rw [evaluate] at h ⊢
      exact evaluateEvery_keptOnly operands b h
  | .or operands, b, h => by
      rw [evaluate] at h ⊢
      exact evaluateSome_keptOnly operands b h
  | .not operand, b, h => by
      rw [evaluate] at h ⊢
      obtain ⟨c, hc, rfl⟩ := Option.map_eq_some_iff.1 h
      rcases evaluate_keptOnly operand c hc with heq | heq
      · exact .inl (by rw [heq]; rfl)
      · exact .inr (by rw [heq]; rfl)

theorem evaluateEvery_keptOnly : (operands : List StartConditionExpression) →
    Follows ((keptOnly registry).evaluateEvery snapshot targetAgent operands)
      (registry.evaluateEvery snapshot targetAgent operands)
  | [], b, h => .inl h
  | operand :: operands, b, h => by
      rw [evaluateEvery] at h ⊢
      cases hoperand : registry.evaluate snapshot targetAgent operand with
      | none => rw [hoperand] at h; cases h
      | some value =>
          rcases evaluate_keptOnly operand value hoperand with heq | heq
          · rw [hoperand] at h
            rw [heq]
            cases value with
            | true => exact evaluateEvery_keptOnly operands b h
            | false => exact .inl h
          · rw [heq]
            exact .inr rfl

theorem evaluateSome_keptOnly : (operands : List StartConditionExpression) →
    Follows ((keptOnly registry).evaluateSome snapshot targetAgent operands)
      (registry.evaluateSome snapshot targetAgent operands)
  | [], b, h => .inl h
  | operand :: operands, b, h => by
      rw [evaluateSome] at h ⊢
      cases hoperand : registry.evaluate snapshot targetAgent operand with
      | none => rw [hoperand] at h; cases h
      | some value =>
          rcases evaluate_keptOnly operand value hoperand with heq | heq
          · rw [hoperand] at h
            rw [heq]
            cases value with
            | false => exact evaluateSome_keptOnly operands b h
            | true => exact .inl h
          · rw [heq]
            exact .inr rfl

end

theorem evaluateEvery_eq_none {before after : List StartConditionExpression}
    (hbefore : ∀ e ∈ before, Follows (registry.evaluate snapshot targetAgent e) (some true))
    (hoperand : registry.evaluate snapshot targetAgent operand = none) :
    registry.evaluateEvery snapshot targetAgent (before ++ operand :: after) = none := by
  induction before with
  | nil => rw [List.nil_append, evaluateEvery, hoperand]
  | cons first before ih =>
      obtain ⟨hfirst, hrest⟩ := List.forall_mem_cons.1 hbefore
      rw [List.cons_append, evaluateEvery]
      rcases hfirst true rfl with heq | heq
      · rw [heq]
        exact ih hrest
      · rw [heq]

theorem evaluateSome_eq_none {before after : List StartConditionExpression}
    (hbefore : ∀ e ∈ before, Follows (registry.evaluate snapshot targetAgent e) (some false))
    (hoperand : registry.evaluate snapshot targetAgent operand = none) :
    registry.evaluateSome snapshot targetAgent (before ++ operand :: after) = none := by
  induction before with
  | nil => rw [List.nil_append, evaluateSome, hoperand]
  | cons first before ih =>
      obtain ⟨hfirst, hrest⟩ := List.forall_mem_cons.1 hbefore
      rw [List.cons_append, evaluateSome]
      rcases hfirst false rfl with heq | heq
      · rw [heq]
        exact ih hrest
      · rw [heq]

theorem Reaches.evaluate_keptOnly (h : Reaches registry snapshot targetAgent e a) (haltered : ¬ a.Kept) :
    (keptOnly registry).evaluate snapshot targetAgent e = none := by
  induction h with
  | atom => rw [evaluate, evaluateAtom_keptOnly, if_neg haltered]
  | not _ ih => rw [evaluate, ih haltered, Option.map_none]
  | and passed _ ih =>
      rw [evaluate]
      exact evaluateEvery_eq_none (fun e he => passed e he ▸ Cantilune.evaluate_keptOnly e) (ih haltered)
  | or passed _ ih =>
      rw [evaluate]
      exact evaluateSome_eq_none (fun e he => passed e he ▸ Cantilune.evaluate_keptOnly e) (ih haltered)

/-- A tree is normalized soundly exactly if no registry and world bring its evaluation to an atom without a name (or
one whose parameters are no object). -/
theorem normalizes_soundly_iff (e : StartConditionExpression) : NormalizesSoundly e ↔
    ∀ registry snapshot targetAgent a, Reaches registry snapshot targetAgent e a → a.Kept := by
  constructor
  · intro h registry snapshot targetAgent a hreaches
    by_contra haltered
    have hmeaning := h.meaning (keptOnly registry) snapshot targetAgent
    rw [normalize_toJson, hreaches.evaluate_keptOnly haltered] at hmeaning
    have hanswers := @evaluate_keptOnly_settled registry snapshot targetAgent e
    rw [hmeaning] at hanswers
    cases hanswers
  · intro h
    refine ⟨?_, fun registry snapshot targetAgent => ?_⟩
    · rw [normalize_toJson, normalize_toJson, e.settled_settled]
    · rw [normalize_toJson]
      exact evaluate_settled e (h registry snapshot targetAgent)

/-- An atom without a name never holds in the default registry; normalized it always does. -/
theorem unnamed_atom_becomes_always : ¬ ∀ e, NormalizesSoundly e := by
  intro hall
  have hmeaning := (hall (.atom ⟨"", .obj []⟩)).meaning createDefaultConditionRegistry (emptySnapshot "s0" "e1") "alice"
  rw [normalize_toJson] at hmeaning
  exact absurd hmeaning (by decide)

end Cantilune
