import Mathlib.Data.List.Sort

/-!
# Stable sorts

A sorted list is determined by the order in which it lists the elements that tie with each given one, and a stable
sort leaves that order as it was.
-/

namespace StableSort

/-- Either may come before the other. -/
def Ties {α : Type} (r : α → α → Prop) (a b : α) : Prop := r a b ∧ r b a

variable {α : Type} {r : α → α → Prop}

theorem Ties.symm {a b : α} (h : Ties r a b) : Ties r b a := ⟨h.2, h.1⟩

theorem Ties.trans [IsTrans α r] {a b c : α} (h : Ties r a b) (h' : Ties r b c) : Ties r a c :=
  ⟨IsTrans.trans _ _ _ h.1 h'.1, IsTrans.trans _ _ _ h'.2 h.2⟩

theorem Ties.refl [Std.Total r] (a : α) : Ties r a a := by
  rcases Std.Total.total (r := r) a a with h | h
  all_goals exact ⟨h, h⟩

theorem ties_of_heads [Std.Total r] {a b : α} {l m : List α} (hl : (a :: l).Pairwise r) (hm : (b :: m).Pairwise r)
    (hab : b ∈ a :: l) (hba : a ∈ b :: m) : Ties r a b := by
  constructor
  · rcases List.mem_cons.1 hab with rfl | hmem
    · exact (Ties.refl b).1
    · exact List.rel_of_pairwise_cons hl hmem
  · rcases List.mem_cons.1 hba with rfl | hmem
    · exact (Ties.refl a).1
    · exact List.rel_of_pairwise_cons hm hmem

variable [DecidableRel r]

instance : DecidableRel (Ties r) := fun a b => inferInstanceAs (Decidable (r a b ∧ r b a))

theorem filter_insertionSort [IsTrans α r] (a : α) (l : List α) :
    (l.insertionSort r).filter (Ties r a) = l.filter (Ties r a) := by
  have hsorted : (l.filter (Ties r a)).Pairwise r := by
    apply List.Pairwise.imp_of_mem ?_ (List.pairwise_of_forall (R := fun _ _ => True) fun _ _ => trivial)
    intro b c hb hc _
    exact ((of_decide_eq_true (List.mem_filter.1 hb).2).symm.trans (of_decide_eq_true (List.mem_filter.1 hc).2)).1
  have hsub := (List.sublist_insertionSort hsorted List.filter_sublist).filter (fun b => decide (Ties r a b))
  rw [List.filter_filter] at hsub
  simp only [Bool.and_self] at hsub
  have hlength := ((List.perm_insertionSort r l).filter (fun b => decide (Ties r a b))).length_eq
  exact (hsub.eq_of_length hlength.symm).symm

theorem mem_of_filter_eq [Std.Total r] {l m : List α} (h : ∀ a, l.filter (Ties r a) = m.filter (Ties r a)) {a : α}
    (ha : a ∈ l) : a ∈ m := by
  have hmem : a ∈ l.filter (Ties r a) := List.mem_filter.2 ⟨ha, decide_eq_true (Ties.refl a)⟩
  rw [h] at hmem
  exact (List.mem_filter.1 hmem).1

theorem eq_of_filter_eq [Std.Total r] : {l m : List α} → l.Pairwise r → m.Pairwise r →
    (∀ a, l.filter (Ties r a) = m.filter (Ties r a)) → l = m
  | [], [], _, _, _ => rfl
  | [], b :: m, _, _, h => nomatch mem_of_filter_eq (fun a => (h a).symm) (List.mem_cons_self (a := b))
  | a :: l, [], _, _, h => nomatch mem_of_filter_eq h (List.mem_cons_self (a := a))
  | a :: l, b :: m, hl, hm, h => by
      have hties : Ties r a b := ties_of_heads hl hm (mem_of_filter_eq (fun c => (h c).symm) List.mem_cons_self)
        (mem_of_filter_eq h List.mem_cons_self)
      have hhead := h a
      simp only [List.filter_cons, decide_eq_true (Ties.refl (r := r) a), decide_eq_true hties, if_true] at hhead
      have heq : a = b := (List.cons.inj hhead).1
      subst heq
      congr 1
      apply eq_of_filter_eq hl.of_cons hm.of_cons
      intro c
      have hc := h c
      by_cases hca : Ties r c a
      · simp only [List.filter_cons, decide_eq_true hca, if_true] at hc
        exact (List.cons.inj hc).2
      · simp only [List.filter_cons, decide_eq_false hca] at hc
        exact hc

variable [Std.Total r] [IsTrans α r]

theorem insertionSort_eq_iff {l m : List α} :
    l.insertionSort r = m.insertionSort r ↔ ∀ a, l.filter (Ties r a) = m.filter (Ties r a) := by
  constructor
  · intro h a
    rw [← filter_insertionSort a l, ← filter_insertionSort a m, h]
  · intro h
    apply eq_of_filter_eq (List.pairwise_insertionSort r l) (List.pairwise_insertionSort r m)
    intro a
    rw [filter_insertionSort, filter_insertionSort, h]

theorem insertionSort_filter (p : α → Bool) (l : List α) :
    (l.filter p).insertionSort r = (l.insertionSort r).filter p := by
  apply eq_of_filter_eq (List.pairwise_insertionSort r _) ((List.pairwise_insertionSort r l).filter p)
  intro a
  rw [filter_insertionSort, List.filter_filter, List.filter_filter]
  simp only [Bool.and_comm _ (p _)]
  rw [← List.filter_filter, ← List.filter_filter, filter_insertionSort]

end StableSort
