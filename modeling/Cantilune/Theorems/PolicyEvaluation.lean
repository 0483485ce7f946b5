import Cantilune.ControlPlane.Store

/-!
# Which rule of a policy decides

A rule decides if turning its decision turns the outcome. It should be the first of those whose constraints the
subject meets.
-/

namespace Cantilune

structure PolicySubject where
  principalRole : Option String
  operationTypeId : Option String
  templateRevision : Option String

def Admits (constraint value : Option String) : Prop := constraint = none ∨ constraint = value

structure PolicyRule.Matches (rule : PolicyRule) (subject : PolicySubject) : Prop where
  principalRole : Admits rule.principalRole subject.principalRole
  operationTypeId : Admits rule.operationTypeId subject.operationTypeId
  templateRevision : Admits rule.templateRevision subject.templateRevision

def PolicyRule.Applies (rule : PolicyRule) (subject : PolicySubject) : Prop :=
  Admits rule.principalRole subject.principalRole ∧ Admits rule.operationTypeId subject.operationTypeId

def PolicyRuleDecision.turned : PolicyRuleDecision → PolicyRuleDecision
  | .allow => .deny
  | .deny => .allow

def PolicyRule.turned (rule : PolicyRule) : PolicyRule := { rule with decision := rule.decision.turned }

def PolicyRevision.answer (revision : PolicyRevision) (rules : List PolicyRule) (subject : PolicySubject) :
    PolicyRuleDecision :=
  evaluatePolicyRevision { revision with rules } subject.operationTypeId subject.principalRole

def PolicyRevision.DecidesAt (revision : PolicyRevision) (subject : PolicySubject) (before : List PolicyRule)
    (rule : PolicyRule) (after : List PolicyRule) : Prop :=
  revision.answer (before ++ rule.turned :: after) subject ≠ revision.answer (before ++ rule :: after) subject

/-- The first rule that matches decides, with its own decision; where none does the answer is deny. -/
structure FirstMatchDecides (revision : PolicyRevision) (subject : PolicySubject) : Prop where
  decides : ∀ before rule after, revision.rules = before ++ rule :: after →
    (revision.DecidesAt subject before rule after ↔ rule.Matches subject ∧ ∀ r ∈ before, ¬ r.Matches subject)
  answer : ∀ before rule after, revision.rules = before ++ rule :: after → rule.Matches subject →
    (∀ r ∈ before, ¬ r.Matches subject) →
      evaluatePolicyRevision revision subject.operationTypeId subject.principalRole = rule.decision
  deny : (∀ rule ∈ revision.rules, ¬ rule.Matches subject) →
    evaluatePolicyRevision revision subject.operationTypeId subject.principalRole = .deny

variable {revision : PolicyRevision} {subject : PolicySubject} {before after rules : List PolicyRule}
  {rule : PolicyRule}

instance (constraint value : Option String) : Decidable (Admits constraint value) :=
  inferInstanceAs (Decidable (_ ∨ _))

instance : Decidable (rule.Applies subject) := inferInstanceAs (Decidable (_ ∧ _))

theorem PolicyRule.Matches.applies (h : rule.Matches subject) : rule.Applies subject :=
  ⟨h.principalRole, h.operationTypeId⟩

theorem turned_ne (decision : PolicyRuleDecision) : decision.turned ≠ decision := by
  cases decision <;> decide

/-! ## The loop over the rules -/

theorem applies_iff : ((rule.principalRole.isNone || rule.principalRole = subject.principalRole) &&
    (rule.operationTypeId.isNone || rule.operationTypeId = subject.operationTypeId)) = true ↔ rule.Applies subject := by
  simp [PolicyRule.Applies, Admits]

theorem answer_of_applies (hbefore : ∀ r ∈ before, ¬ r.Applies subject) (hrule : rule.Applies subject) :
    revision.answer (before ++ rule :: after) subject = rule.decision := by
  have hfind : (before ++ rule :: after).find? (fun rule =>
      (rule.principalRole.isNone || rule.principalRole = subject.principalRole) &&
        (rule.operationTypeId.isNone || rule.operationTypeId = subject.operationTypeId)) = some rule := by
    rw [List.find?_append, List.find?_eq_none.2 fun r hr => mt applies_iff.1 (hbefore r hr), Option.none_or]
    exact List.find?_cons_of_pos (applies_iff.2 hrule)
  rw [PolicyRevision.answer, evaluatePolicyRevision, hfind]

theorem answer_of_forall_not (h : ∀ r ∈ rules, ¬ r.Applies subject) : revision.answer rules subject = .deny := by
  have hfind : rules.find? (fun rule =>
      (rule.principalRole.isNone || rule.principalRole = subject.principalRole) &&
        (rule.operationTypeId.isNone || rule.operationTypeId = subject.operationTypeId)) = none :=
    List.find?_eq_none.2 fun r hr => mt applies_iff.1 (h r hr)
  rw [PolicyRevision.answer, evaluatePolicyRevision, hfind]

theorem exists_first {α : Type} {P : α → Prop} [DecidablePred P] {xs : List α} (h : ∃ x ∈ xs, P x) :
    ∃ before x after, xs = before ++ x :: after ∧ P x ∧ ∀ y ∈ before, ¬ P y := by
  cases hfind : xs.find? fun x => P x with
  | none =>
      obtain ⟨x, hmem, hx⟩ := h
      exact absurd (decide_eq_true hx) (List.find?_eq_none.1 hfind x hmem)
  | some x =>
      obtain ⟨hx, before, after, hxs, hbefore⟩ := List.find?_eq_some_iff_append.1 hfind
      exact ⟨before, x, after, hxs, of_decide_eq_true hx, fun y hy => by simpa using hbefore y hy⟩

theorem decidesAt_iff : revision.DecidesAt subject before rule after ↔
    rule.Applies subject ∧ ∀ r ∈ before, ¬ r.Applies subject := by
  rw [PolicyRevision.DecidesAt]
  constructor
  · intro hturned
    by_cases hbefore : ∃ r ∈ before, r.Applies subject
    · obtain ⟨first, found, last, rfl, hfound, hfirst⟩ := exists_first hbefore
      rw [List.append_assoc, List.cons_append, answer_of_applies hfirst hfound, List.append_assoc, List.cons_append,
        answer_of_applies hfirst hfound] at hturned
      exact absurd rfl hturned
    · have hnone : ∀ r ∈ before, ¬ r.Applies subject := fun r hr h => hbefore ⟨r, hr, h⟩
      refine ⟨?_, hnone⟩
      by_contra hrule
      refine hturned ?_
      by_cases hafter : ∃ r ∈ after, r.Applies subject
      · obtain ⟨first, found, last, rfl, hfound, hfirst⟩ := exists_first hafter
        have hskip : ∀ r : PolicyRule, ¬ r.Applies subject →
            revision.answer (before ++ r :: (first ++ found :: last)) subject = found.decision := by
          intro r hr
          rw [← List.cons_append, ← List.append_assoc]
          refine answer_of_applies (fun x hx => ?_) hfound
          rcases List.mem_append.1 hx with hx | hx
          · exact hnone x hx
          · rcases List.mem_cons.1 hx with rfl | hx
            · exact hr
            · exact hfirst x hx
        rw [hskip rule hrule, hskip rule.turned hrule]
      · have hskip : ∀ r : PolicyRule, ¬ r.Applies subject → revision.answer (before ++ r :: after) subject = .deny := by
          intro r hr
          refine answer_of_forall_not fun x hx => ?_
          rcases List.mem_append.1 hx with hx | hx
          · exact hnone x hx
          · rcases List.mem_cons.1 hx with rfl | hx
            · exact hr
            · exact fun h => hafter ⟨x, hx, h⟩
        rw [hskip rule hrule, hskip rule.turned hrule]
  · rintro ⟨hrule, hbefore⟩
    have hturned : rule.turned.Applies subject := hrule
    rw [answer_of_applies hbefore hrule, answer_of_applies hbefore hturned]
    exact turned_ne rule.decision

/-- The first rule that matches decides exactly if the first that meets the subject's role and operation states no
other template revision than the subject's. -/
theorem first_match_decides_iff (revision : PolicyRevision) (subject : PolicySubject) :
    FirstMatchDecides revision subject ↔
      ∀ before rule after, revision.rules = before ++ rule :: after → rule.Applies subject →
        (∀ r ∈ before, ¬ r.Applies subject) → Admits rule.templateRevision subject.templateRevision := by
  have hself : revision.answer revision.rules subject =
      evaluatePolicyRevision revision subject.operationTypeId subject.principalRole := rfl
  constructor
  · intro h before rule after hrules hrule hbefore
    exact ((h.decides before rule after hrules).1 (decidesAt_iff.2 ⟨hrule, hbefore⟩)).1.templateRevision
  · intro h
    -- a rule that matches has no earlier one that applies, for the first of those matches as well
    have hfirst : ∀ before rule after, revision.rules = before ++ rule :: after →
        (∀ r ∈ before, ¬ r.Matches subject) → ∀ r ∈ before, ¬ r.Applies subject := by
      rintro before rule after hrules hbefore r hr happlies
      obtain ⟨first, found, last, rfl, hfound, hnone⟩ :=
        exists_first (P := fun r : PolicyRule => r.Applies subject) ⟨r, hr, happlies⟩
      rw [List.append_assoc, List.cons_append] at hrules
      exact hbefore found (by simp) ⟨hfound.1, hfound.2, h first found _ hrules hfound hnone⟩
    refine ⟨fun before rule after hrules => ?_, fun before rule after hrules hrule hbefore => ?_, fun hnone => ?_⟩
    · rw [decidesAt_iff]
      constructor
      · rintro ⟨hrule, hbefore⟩
        exact ⟨⟨hrule.1, hrule.2, h before rule after hrules hrule hbefore⟩, fun r hr hmatches =>
          hbefore r hr hmatches.applies⟩
      · rintro ⟨hrule, hbefore⟩
        exact ⟨hrule.applies, hfirst before rule after hrules hbefore⟩
    · rw [← hself, hrules]
      exact answer_of_applies (hfirst before rule after hrules hbefore) hrule.applies
    · rw [← hself]
      refine answer_of_forall_not fun r hr happlies => ?_
      obtain ⟨first, found, last, hrules, hfound, hbefore⟩ :=
        exists_first (P := fun r : PolicyRule => r.Applies subject) ⟨r, hr, happlies⟩
      exact hnone found (by rw [hrules]; simp) ⟨hfound.1, hfound.2, h first found last hrules hfound hbefore⟩

/-- A rule that allows one template revision allows every other. -/
theorem other_revision_allowed : ¬ ∀ revision subject, FirstMatchDecides revision subject := by
  intro hall
  let rule : PolicyRule :=
    { ruleId := "r1", principalRole := none, operationTypeId := none, templateRevision := some "1", decision := .allow }
  let revision : PolicyRevision :=
    { policyRef := ⟨"p", "1", "d"⟩, compatibleSchemaRefs := [], rules := [rule], canonicalDigest := "d"
      createdBy := "admin", createdAt := "t0" }
  have hdeny := (hall revision ⟨none, some "delegate", some "2"⟩).deny (by
    intro r hr hmatches
    rw [List.mem_singleton.1 hr] at hmatches
    exact absurd hmatches.templateRevision (by decide))
  exact absurd hdeny (by decide)

end Cantilune
