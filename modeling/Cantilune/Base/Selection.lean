import Mathlib.Data.List.Sort

/-!
# Lists at chosen places

What a list has at some of its places, in the order of the list.
-/

namespace Selection

variable {α : Type}

/-- The elements at the chosen places; the list begins at place `i`. -/
def keepFrom (chosen : List Nat) : Nat → List α → List α
  | _, [] => []
  | i, x :: xs => if i ∈ chosen then x :: keepFrom chosen (i + 1) xs else keepFrom chosen (i + 1) xs

variable {chosen : List Nat} {i : Nat} {xs ys : List α}

theorem keepFrom_sublist (chosen : List Nat) (i : Nat) (xs : List α) : (keepFrom chosen i xs).Sublist xs := by
  induction xs generalizing i with
  | nil => exact List.Sublist.refl _
  | cons x xs ih =>
      unfold keepFrom
      split
      · exact (ih (i + 1)).cons_cons x
      · exact (ih (i + 1)).cons x

theorem keepFrom_append : keepFrom chosen i (xs ++ ys) = keepFrom chosen i xs ++ keepFrom chosen (i + xs.length) ys := by
  induction xs generalizing i with
  | nil => rfl
  | cons x xs ih =>
      have hplace : i + (x :: xs).length = i + 1 + xs.length := by
        rw [List.length_cons]
        omega
      rw [List.cons_append, keepFrom, keepFrom, ih, hplace]
      split
      · rfl
      · rfl

theorem keepFrom_eq_self (h : ∀ j, i ≤ j → j < i + xs.length → j ∈ chosen) : keepFrom chosen i xs = xs := by
  induction xs generalizing i with
  | nil => rfl
  | cons x xs ih =>
      rw [List.length_cons] at h
      rw [keepFrom, if_pos (h i (Nat.le_refl i) (by omega)), ih fun j hj hlt => h j (by omega) (by omega)]

theorem keepFrom_eq_nil (h : ∀ j, i ≤ j → j < i + xs.length → j ∉ chosen) : keepFrom chosen i xs = [] := by
  induction xs generalizing i with
  | nil => rfl
  | cons x xs ih =>
      rw [List.length_cons] at h
      rw [keepFrom, if_neg (h i (Nat.le_refl i) (by omega)), ih fun j hj hlt => h j (by omega) (by omega)]

theorem mem_keepFrom {x : α} {j : Nat} (hx : xs[j]? = some x) (hj : i + j ∈ chosen) : x ∈ keepFrom chosen i xs := by
  induction xs generalizing i j with
  | nil => cases hx
  | cons y xs ih =>
      unfold keepFrom
      cases j with
      | zero =>
          rw [Nat.add_zero] at hj
          cases hx
          rw [if_pos hj]
          exact List.mem_cons_self
      | succ j =>
          have hmem := ih (i := i + 1) hx (by rw [Nat.add_right_comm]; exact hj)
          split
          · exact List.mem_cons_of_mem y hmem
          · exact hmem

theorem keepFrom_congr {chosen' : List Nat} (h : ∀ j, i ≤ j → (j ∈ chosen ↔ j ∈ chosen')) :
    keepFrom chosen i xs = keepFrom chosen' i xs := by
  induction xs generalizing i with
  | nil => rfl
  | cons x xs ih =>
      rw [keepFrom, keepFrom, ih fun j hj => h j (by omega)]
      simp only [h i (Nat.le_refl i)]

theorem filterMap_of_sorted (hsorted : chosen.Pairwise (· < ·)) (hfrom : ∀ j ∈ chosen, i ≤ j) :
    chosen.filterMap (fun j => xs[j - i]?) = keepFrom chosen i xs := by
  induction xs generalizing i chosen with
  | nil => simp [keepFrom]
  | cons x xs ih =>
      have hshift : ∀ {later : List Nat}, (∀ j ∈ later, i + 1 ≤ j) →
          later.filterMap (fun j => (x :: xs)[j - i]?) = later.filterMap fun j => xs[j - (i + 1)]? := by
        intro later hlater
        refine List.filterMap_congr fun j hj => ?_
        have hle := hlater j hj
        rw [show j - i = (j - (i + 1)) + 1 by omega, List.getElem?_cons_succ]
      cases chosen with
      | nil =>
          rw [List.filterMap_nil, keepFrom_eq_nil fun _ _ _ => List.not_mem_nil]
      | cons j later =>
          rw [List.pairwise_cons] at hsorted
          have hlater : ∀ k ∈ later, j < k := hsorted.1
          by_cases hj : j = i
          · subst hj
            rw [List.filterMap_cons, Nat.sub_self, List.getElem?_cons_zero]
            dsimp only
            rw [hshift hlater, ih hsorted.2 hlater, keepFrom, if_pos List.mem_cons_self]
            rw [keepFrom_congr fun k hk => ?_]
            rw [List.mem_cons]
            constructor
            · exact .inr
            · rintro (rfl | hk')
              · omega
              · exact hk'
          · have hge : ∀ k ∈ j :: later, i + 1 ≤ k := by
              intro k hk
              have hj' := hfrom j List.mem_cons_self
              rcases List.mem_cons.1 hk with rfl | hk
              · omega
              · have := hlater k hk
                omega
            rw [hshift hge, ih (List.pairwise_cons.2 hsorted) hge, keepFrom, if_neg fun hmem => ?_]
            have := hge i hmem
            omega

/-- What the places in ascending order have. -/
theorem filterMap_insertionSort (hnodup : chosen.Nodup) :
    (chosen.insertionSort (· ≤ ·)).filterMap (xs[·]?) = keepFrom chosen 0 xs := by
  have hperm := List.perm_insertionSort (· ≤ ·) chosen
  have hsorted : (chosen.insertionSort (· ≤ ·)).Pairwise (· < ·) := by
    have hle := List.pairwise_insertionSort (· ≤ ·) chosen
    have hne : (chosen.insertionSort (· ≤ ·)).Pairwise (· ≠ ·) := hperm.nodup_iff.2 hnodup
    exact (hle.and hne).imp fun h => Nat.lt_of_le_of_ne h.1 h.2
  have hkeep := @filterMap_of_sorted _ _ 0 xs hsorted fun _ _ => Nat.zero_le _
  simp only [Nat.sub_zero] at hkeep
  rw [hkeep]
  exact keepFrom_congr fun j _ => hperm.mem_iff

theorem length_keepFrom_le (hnodup : chosen.Nodup) : (keepFrom chosen 0 xs).length ≤ chosen.length := by
  rw [← filterMap_insertionSort hnodup]
  exact (List.length_filterMap_le _ _).trans (List.length_insertionSort _ _).le

end Selection
