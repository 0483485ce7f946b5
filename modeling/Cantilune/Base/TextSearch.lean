import Mathlib.Data.List.Infix

/-!
# Searching in texts

A pattern occurs at a position, its first occurrence is found by `indexOf`, and the search behind each occurrence
found counts those that do not overlap or splits the text between them.
-/

namespace TextSearch

variable {α : Type} {needle text : List α} {i j : Nat}

/-- The pattern stands at the position. -/
def OccursAt (needle text : List α) (i : Nat) : Prop := needle <+: text.drop i

theorem occursAt_add {k : Nat} : OccursAt needle (text.drop k) i ↔ OccursAt needle text (k + i) := by
  rw [OccursAt, OccursAt, List.drop_drop]

theorem OccursAt.le_length (h : OccursAt needle text i) (hne : needle ≠ []) : i + needle.length ≤ text.length := by
  have hlength := h.length_le
  have hpos := List.length_pos_iff.2 hne
  rw [List.length_drop] at hlength
  omega

variable [DecidableEq α]

/-- The position of the first occurrence. -/
def indexOf (needle : List α) : List α → Option Nat
  | [] => if needle = [] then some 0 else none
  | c :: text => if needle.isPrefixOf (c :: text) then some 0 else (indexOf needle text).map (· + 1)

theorem indexOf_eq_none (hne : needle ≠ []) : indexOf needle text = none ↔ ∀ i, ¬ OccursAt needle text i := by
  induction text with
  | nil => simp [indexOf, OccursAt, hne]
  | cons c text ih =>
      rw [indexOf]
      split
      · rename_i hprefix
        refine ⟨nofun, fun h => absurd ?_ (h 0)⟩
        exact List.isPrefixOf_iff_prefix.1 hprefix
      · rename_i hprefix
        rw [Option.map_eq_none_iff, ih]
        refine ⟨fun h i => ?_, fun h i => h (i + 1)⟩
        cases i with
        | zero => exact fun hzero => hprefix (List.isPrefixOf_iff_prefix.2 hzero)
        | succ i => exact h i

theorem indexOf_eq_some (hne : needle ≠ []) :
    indexOf needle text = some i ↔ OccursAt needle text i ∧ ∀ j < i, ¬ OccursAt needle text j := by
  induction text generalizing i with
  | nil => simp [indexOf, OccursAt, hne]
  | cons c text ih =>
      rw [indexOf]
      split
      · rename_i hprefix
        have hzero : OccursAt needle (c :: text) 0 := List.isPrefixOf_iff_prefix.1 hprefix
        refine ⟨fun h => ?_, fun ⟨_, hfirst⟩ => ?_⟩
        · cases h
          exact ⟨hzero, fun j hj => absurd hj (Nat.not_lt_zero j)⟩
        · cases i with
          | zero => rfl
          | succ i => exact absurd hzero (hfirst 0 (Nat.succ_pos i))
      · rename_i hprefix
        have hzero : ¬ OccursAt needle (c :: text) 0 := fun h => hprefix (List.isPrefixOf_iff_prefix.2 h)
        rw [Option.map_eq_some_iff]
        refine ⟨?_, fun ⟨hat, hfirst⟩ => ?_⟩
        · rintro ⟨k, hk, rfl⟩
          obtain ⟨hat, hfirst⟩ := ih.1 hk
          refine ⟨hat, fun j hj => ?_⟩
          cases j with
          | zero => exact hzero
          | succ j => exact hfirst j (Nat.lt_of_succ_lt_succ hj)
        · cases i with
          | zero => exact absurd hat hzero
          | succ i => exact ⟨i, ih.2 ⟨hat, fun j hj => hfirst (j + 1) (Nat.succ_lt_succ hj)⟩, rfl⟩

theorem indexOf_lt (hne : needle ≠ []) (h : indexOf needle text = some i) :
    (text.drop (i + needle.length)).length < text.length := by
  have hlength := ((indexOf_eq_some hne).1 h).1.le_length hne
  have hpos := List.length_pos_iff.2 hne
  rw [List.length_drop]
  omega

/-- The occurrences found one behind the end of the other. -/
def countFrom (needle : List α) (hne : needle ≠ []) (text : List α) : Nat :=
  match _h : indexOf needle text with
  | none => 0
  | some i => countFrom needle hne (text.drop (i + needle.length)) + 1
termination_by text.length
decreasing_by exact indexOf_lt hne _h

/-- The pieces between the occurrences found. -/
def splitFrom (needle : List α) (hne : needle ≠ []) (text : List α) : List (List α) :=
  match _h : indexOf needle text with
  | none => [text]
  | some i => text.take i :: splitFrom needle hne (text.drop (i + needle.length))
termination_by text.length
decreasing_by exact indexOf_lt hne _h

theorem countFrom_of_none {hne : needle ≠ []} (h : indexOf needle text = none) : countFrom needle hne text = 0 := by
  rw [countFrom]
  split
  · rfl
  · simp_all

theorem countFrom_of_some {hne : needle ≠ []} (h : indexOf needle text = some i) :
    countFrom needle hne text = countFrom needle hne (text.drop (i + needle.length)) + 1 := by
  rw [countFrom]
  split
  · simp_all
  · simp_all

theorem splitFrom_of_none {hne : needle ≠ []} (h : indexOf needle text = none) :
    splitFrom needle hne text = [text] := by
  rw [splitFrom]
  split
  · rfl
  · simp_all

theorem splitFrom_of_some {hne : needle ≠ []} (h : indexOf needle text = some i) :
    splitFrom needle hne text = text.take i :: splitFrom needle hne (text.drop (i + needle.length)) := by
  rw [splitFrom]
  split
  · simp_all
  · simp_all

theorem countFrom_eq_zero {hne : needle ≠ []} : countFrom needle hne text = 0 ↔ ∀ i, ¬ OccursAt needle text i := by
  rw [← indexOf_eq_none hne]
  cases h : indexOf needle text with
  | none => simp [countFrom_of_none h]
  | some i => simp [countFrom_of_some h]

theorem countFrom_eq_one {hne : needle ≠ []} : countFrom needle hne text = 1 ↔
    (∃ i, OccursAt needle text i) ∧
      ∀ i j, OccursAt needle text i → OccursAt needle text j → ¬ i + needle.length ≤ j := by
  cases h : indexOf needle text with
  | none =>
      have hnone := (indexOf_eq_none hne).1 h
      rw [countFrom_of_none h]
      exact ⟨nofun, fun ⟨⟨i, hi⟩, _⟩ => absurd hi (hnone i)⟩
  | some k =>
      obtain ⟨hat, hfirst⟩ := (indexOf_eq_some hne).1 h
      rw [countFrom_of_some h, Nat.add_eq_right, countFrom_eq_zero]
      refine ⟨fun hrest => ⟨⟨k, hat⟩, fun i j hi hj hij => ?_⟩, fun ⟨_, hover⟩ i hi => ?_⟩
      · have hki : k ≤ i := Nat.not_lt.1 fun hlt => hfirst i hlt hi
        apply hrest (j - (k + needle.length))
        rw [occursAt_add, Nat.add_sub_cancel' (by omega)]
        exact hj
      · exact hover k (k + needle.length + i) hat (occursAt_add.1 hi) (by omega)

end TextSearch
