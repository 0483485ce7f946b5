import Cantilune.Tools.EditFile

/-!
# Literal edits

The occurrences that are counted do not overlap, and the replacement reads patterns in the new text. An edit is
literal where neither matters.
-/

namespace Cantilune

open TextSearch

variable {content old new : CodeUnits} {path : String} {replaceAll : Option Bool} {i : Nat}

/-- The text stands at this position and at no other one; overlapping positions count. -/
def OccursOnceAt (old content : CodeUnits) (i : Nat) : Prop :=
  OccursAt old content i ∧ ∀ j, OccursAt old content j → j = i

/-- Without `replaceAll` an edit succeeds where the text occurs once, and only there; it puts the new text as it is
between what was before and behind; and it then does what `replaceAll` does. -/
def LiteralEdit (path : String) (content old new : CodeUnits) : Prop :=
  ∀ replaceAll : Option Bool, replaceAll ≠ some true →
    ((∃ result, editFile content ⟨path, old, new, replaceAll⟩ = .ok result) ↔ ∃ i, OccursOnceAt old content i) ∧
    (∀ i, OccursOnceAt old content i → ∀ result, editFile content ⟨path, old, new, replaceAll⟩ = .ok result →
      result.1 = content.take i ++ new ++ content.drop (i + old.length)) ∧
    ∀ i, OccursOnceAt old content i →
      (editFile content ⟨path, old, new, replaceAll⟩).map Prod.fst =
        (editFile content ⟨path, old, new, some true⟩).map Prod.fst

/-! ## One occurrence -/

theorem countOccurrences_of_ne (hold : old ≠ []) : countOccurrences content old = countFrom old hold content :=
  dif_neg hold

theorem OccursOnceAt.indexOf (h : OccursOnceAt old content i) (hold : old ≠ []) :
    TextSearch.indexOf old content = some i :=
  (indexOf_eq_some hold).2 ⟨h.1, fun j hj hat => hj.ne (h.2 j hat)⟩

theorem OccursOnceAt.count (h : OccursOnceAt old content i) (hold : old ≠ []) : countOccurrences content old = 1 := by
  rw [countOccurrences_of_ne hold, countFrom_eq_one]
  refine ⟨⟨i, h.1⟩, fun j k hj hk hle => ?_⟩
  have hpos := List.length_pos_iff.2 hold
  rw [h.2 j hj, h.2 k hk] at hle
  omega

theorem OccursOnceAt.split (h : OccursOnceAt old content i) (hold : old ≠ []) :
    splitText content old = [content.take i, content.drop (i + old.length)] := by
  have hrest : TextSearch.indexOf old (content.drop (i + old.length)) = none := by
    rw [indexOf_eq_none hold]
    intro j hj
    have hpos := List.length_pos_iff.2 hold
    have hlater := h.2 _ (occursAt_add.1 hj)
    omega
  rw [splitText, dif_neg hold, splitFrom_of_some (h.indexOf hold), splitFrom_of_none hrest]

theorem editFile_of_once (h : OccursOnceAt old content i) (hold : old ≠ []) (hreplace : replaceAll ≠ some true) :
    editFile content ⟨path, old, new, replaceAll⟩ =
      .ok (content.take i ++ getSubstitution old content i new ++ content.drop (i + old.length),
        s!"Replaced 1 occurrence in {path}") := by
  simp [editFile, h.count hold, hreplace, replaceFirst, h.indexOf hold]

theorem editFile_all_of_once (h : OccursOnceAt old content i) (hold : old ≠ []) :
    (editFile content ⟨path, old, new, some true⟩).map Prod.fst =
      .ok (content.take i ++ new ++ content.drop (i + old.length)) := by
  simp [editFile, h.count hold, h.split hold, Except.map, List.intercalate, List.intersperse]

/-- Without `replaceAll` an edit succeeds exactly where one occurrence is counted. -/
theorem editFile_ok_iff (hreplace : replaceAll ≠ some true) :
    (∃ result, editFile content ⟨path, old, new, replaceAll⟩ = .ok result) ↔ countOccurrences content old = 1 := by
  unfold editFile
  by_cases hzero : countOccurrences content old = 0
  · simp [hzero]
  · by_cases hmany : countOccurrences content old > 1
    · simp [hzero, hreplace, hmany]
      omega
    · simp [hzero, hreplace, hmany]
      omega

/-! ## When an edit is literal -/

/-- Where the text occurs at two positions, it occurs at two that do not overlap. -/
def ApartWhereTwice (old content : CodeUnits) : Prop :=
  ∀ i j, OccursAt old content i → OccursAt old content j → i < j →
    ∃ k l, OccursAt old content k ∧ OccursAt old content l ∧ k + old.length ≤ l

theorem count_one_iff_once (hold : old ≠ []) (hapart : ApartWhereTwice old content) :
    countOccurrences content old = 1 ↔ ∃ i, OccursOnceAt old content i := by
  refine ⟨fun hcount => ?_, fun ⟨i, h⟩ => h.count hold⟩
  rw [countOccurrences_of_ne hold, countFrom_eq_one] at hcount
  obtain ⟨⟨i, hi⟩, hover⟩ := hcount
  refine ⟨i, hi, fun j hj => ?_⟩
  rcases Nat.lt_trichotomy j i with hlt | heq | hlt
  · obtain ⟨k, l, hk, hl, hkl⟩ := hapart j i hj hi hlt
    exact absurd hkl (hover k l hk hl)
  · exact heq
  · obtain ⟨k, l, hk, hl, hkl⟩ := hapart i j hi hj hlt
    exact absurd hkl (hover k l hk hl)

theorem LiteralEdit.apartWhereTwice (h : LiteralEdit path content old new) (hold : old ≠ []) :
    ApartWhereTwice old content := by
  intro i j hi hj hij
  by_contra hover
  have hcount : countOccurrences content old = 1 := by
    rw [countOccurrences_of_ne hold, countFrom_eq_one]
    exact ⟨⟨i, hi⟩, fun k l hk hl hkl => hover ⟨k, l, hk, hl, hkl⟩⟩
  have hnone : (none : Option Bool) ≠ some true := nofun
  obtain ⟨k, -, honly⟩ := (h none hnone).1.1 ((editFile_ok_iff hnone).2 hcount)
  rw [honly i hi, honly j hj] at hij
  exact lt_irrefl k hij

theorem LiteralEdit.getSubstitution (h : LiteralEdit path content old new) (hold : old ≠ [])
    (hi : OccursOnceAt old content i) : Cantilune.getSubstitution old content i new = new := by
  have hnone : (none : Option Bool) ≠ some true := nofun
  have hresult := (h none hnone).2.1 i hi _ (editFile_of_once hi hold hnone)
  exact List.append_cancel_left (List.append_cancel_right hresult)

/-- An edit is literal exactly when the search text does not occur twice with overlaps only, and the patterns in the
new text, read for the only occurrence, give the new text back. -/
theorem literalEdit_iff (path : String) (content old new : CodeUnits) (hold : old ≠ []) :
    LiteralEdit path content old new ↔ ApartWhereTwice old content ∧
      ∀ i, OccursOnceAt old content i → getSubstitution old content i new = new := by
  refine ⟨fun h => ⟨h.apartWhereTwice hold, fun i hi => h.getSubstitution hold hi⟩, ?_⟩
  rintro ⟨hapart, hliteral⟩ replaceAll hreplace
  refine ⟨(editFile_ok_iff hreplace).trans (count_one_iff_once hold hapart), fun i hi result hresult => ?_,
    fun i hi => ?_⟩
  · rw [editFile_of_once hi hold hreplace, hliteral i hi] at hresult
    cases hresult
    rfl
  · rw [editFile_of_once hi hold hreplace, editFile_all_of_once hi hold, hliteral i hi]
    rfl

theorem price_occursOnceAt : OccursOnceAt [0x4E] [0x3A, 0x4E] 1 := by
  refine ⟨⟨[], rfl⟩, fun j hj => ?_⟩
  have hle := hj.le_length (by simp)
  match j, hle with
  | 0, _ => exact absurd hj (by simp [OccursAt])
  | 1, _ => rfl

/-- `N` in `:N` becomes `$$`. -/
theorem literalEdit_price :
    LiteralEdit "p" [0x3A, 0x4E] [0x4E] [0x41] ↔ ApartWhereTwice [0x4E] [0x3A, 0x4E] ∧
      ∀ i, OccursOnceAt [0x4E] [0x3A, 0x4E] i → getSubstitution [0x4E] [0x3A, 0x4E] i [0x41] = [0x41] :=
  literalEdit_iff "p" [0x3A, 0x4E] [0x4E] [0x41] (by simp)

/-- In `:N` the text `$$` is put for `N` as a single dollar sign; and `aa` is taken to be unique in `aaa`. -/
theorem edits_not_literal :
    ¬ LiteralEdit "p" [0x3A, 0x4E] [0x4E] [dollarSign, dollarSign] ∧
      ¬ LiteralEdit "p" [0x61, 0x61, 0x61] [0x61, 0x61] [0x62] := by
  refine ⟨fun h => ?_, fun h => ?_⟩
  · have hsame := h.getSubstitution (by simp) price_occursOnceAt
    simp [Cantilune.getSubstitution, dollarSign] at hsame
  · obtain ⟨k, l, hk, hl, hle⟩ := h.apartWhereTwice (by simp) 0 1 ⟨[0x61], rfl⟩ ⟨[], rfl⟩ (by simp)
    have hend := hl.le_length (by simp)
    simp only [List.length_cons, List.length_nil] at hle hend
    omega

end Cantilune
