import Mathlib.Data.List.Lex
import Mathlib.Data.List.Sort
import Mathlib.Order.Basic

/-!
# Strings of JavaScript

A string is compared by its UTF-16 code units, which is another order than that of the characters where
surrogates come in. Texts joined by a separator that none of them contains can be told apart.
-/

/-- The collation order of the host: negative, zero or positive. -/
abbrev LocaleCompare := String → String → Int

namespace JsString

/-! ## Code units -/

def charUnits (c : Char) : List Nat :=
  if c.toNat < 0x10000 then [c.toNat]
  else [0xD800 + (c.toNat - 0x10000) / 0x400, 0xDC00 + (c.toNat - 0x10000) % 0x400]

def units (s : String) : List Nat := s.toList.flatMap charUnits

theorem charUnits_ne_nil (c : Char) : charUnits c ≠ [] := by
  unfold charUnits
  split <;> simp

theorem charUnits_append {c d : Char} {us vs : List Nat} (h : charUnits c ++ us = charUnits d ++ vs) :
    c = d ∧ us = vs := by
  have hc : c.toNat < 0xD800 ∨ 0xDFFF < c.toNat ∧ c.toNat < 0x110000 := c.valid
  have hd : d.toNat < 0xD800 ∨ 0xDFFF < d.toNat ∧ d.toNat < 0x110000 := d.valid
  have heq : c.toNat = d.toNat ∧ us = vs := by
    unfold charUnits at h
    split at h <;> split at h <;>
      simp only [List.cons_append, List.nil_append, List.cons.injEq] at h <;> grind
  exact ⟨Char.toNat_inj.1 heq.1, heq.2⟩

theorem units_injective : Function.Injective units := by
  have hchars : ∀ cs ds : List Char, cs.flatMap charUnits = ds.flatMap charUnits → cs = ds := by
    intro cs
    induction cs with
    | nil =>
        intro ds h
        cases ds with
        | nil => rfl
        | cons d ds => exact absurd (List.append_eq_nil_iff.1 h.symm).1 (charUnits_ne_nil d)
    | cons c cs ih =>
        intro ds h
        cases ds with
        | nil => exact absurd (List.append_eq_nil_iff.1 h).1 (charUnits_ne_nil c)
        | cons d ds =>
            obtain ⟨rfl, htail⟩ := charUnits_append h
            rw [ih ds htail]
  exact fun s t h => String.toList_inj.1 (hchars _ _ h)

/-- The order `<` of strings. -/
def lt (s t : String) : Bool := units s < units t

theorem lt_asymm {s t : String} (h : lt s t = true) : lt t s = false := by
  simp only [lt, decide_eq_true_eq, decide_eq_false_iff_not] at h ⊢
  exact not_lt_of_gt h

theorem eq_of_not_lt {s t : String} (h : lt s t = false) (h' : lt t s = false) : s = t := by
  simp only [lt, decide_eq_false_iff_not, not_lt] at h h'
  exact units_injective (le_antisymm h' h)

theorem not_lt_trans {s t u : String} (h : lt t s = false) (h' : lt u t = false) : lt u s = false := by
  simp only [lt, decide_eq_false_iff_not, not_lt] at h h' ⊢
  exact le_trans h h'

def isWhite (c : Char) : Bool :=
  (9 ≤ c.toNat ∧ c.toNat ≤ 13) ∨ c.toNat = 0x20 ∨ c.toNat = 0xA0 ∨ c.toNat = 0x1680 ∨
    (0x2000 ≤ c.toNat ∧ c.toNat ≤ 0x200A) ∨ c.toNat = 0x2028 ∨ c.toNat = 0x2029 ∨ c.toNat = 0x202F ∨
    c.toNat = 0x205F ∨ c.toNat = 0x3000 ∨ c.toNat = 0xFEFF

/-- `s.trim()`. -/
def trim (s : String) : String :=
  String.ofList ((s.toList.dropWhile isWhite).reverse.dropWhile isWhite).reverse

/-! ## Joined texts -/

theorem notMem_toString {c : Char} (hc : c.isDigit = false) (n : Nat) : c ∉ (toString n).toList := by
  intro hmem
  rw [Nat.toString_eq_ofList_toDigits, String.toList_ofList] at hmem
  rw [Nat.isDigit_of_mem_toDigits (by omega) (by omega) hmem] at hc
  cases hc

theorem toString_injective {n k : Nat} (h : (toString n).toList = (toString k).toList) : n = k := by
  rw [Nat.toString_eq_ofList_toDigits, Nat.toString_eq_ofList_toDigits, String.toList_ofList,
    String.toList_ofList] at h
  rw [← @Nat.ofDigitChars_ten_toDigits n, h, Nat.ofDigitChars_ten_toDigits]

/-- A text without the separator before it ends where the separator comes. -/
theorem append_cons_inj {sep : Char} {a b c d : List Char} (hb : sep ∉ b) (hd : sep ∉ d)
    (h : a ++ sep :: b = c ++ sep :: d) : a = c ∧ b = d := by
  rcases List.append_eq_append_iff.1 h with ⟨e, hc, he⟩ | ⟨e, ha, he⟩
  · cases e with
    | nil =>
        simp only [List.nil_append, List.cons.injEq, true_and] at he
        simp only [List.append_nil] at hc
        exact ⟨hc.symm, he⟩
    | cons x e =>
        simp only [List.cons_append, List.cons.injEq] at he
        exact absurd (by simp [he.2]) hb
  · cases e with
    | nil =>
        simp only [List.nil_append, List.cons.injEq, true_and] at he
        simp only [List.append_nil] at ha
        exact ⟨ha, he.symm⟩
    | cons x e =>
        simp only [List.cons_append, List.cons.injEq] at he
        exact absurd (by simp [he.2]) hd

/-- Texts that are not empty and lack the separator are read off the joined text. -/
theorem intercalate_inj {sep : Char} {ss ts : List String} (hs : ∀ s ∈ ss, sep ∉ s.toList ∧ s ≠ "")
    (ht : ∀ t ∈ ts, sep ∉ t.toList ∧ t ≠ "")
    (h : (String.singleton sep).intercalate ss = (String.singleton sep).intercalate ts) : ss = ts := by
  have hsplit : ∀ us : List String, (∀ u ∈ us, sep ∉ u.toList ∧ u ≠ "") → us ≠ [] →
      (((String.singleton sep).intercalate us).toList).splitOn sep = us.map String.toList := by
    intro us hus hne
    rw [String.toList_intercalate, String.toList_singleton]
    refine List.splitOn_intercalate sep (fun l hl => ?_) (by simpa using hne)
    obtain ⟨u, hu, rfl⟩ := List.mem_map.1 hl
    exact (hus u hu).1
  have hnil : ∀ us : List String, (∀ u ∈ us, sep ∉ u.toList ∧ u ≠ "") →
      (String.singleton sep).intercalate us = "" → us = [] := by
    intro us hus hempty
    by_contra hne
    have hone := hsplit us hus hne
    rw [hempty] at hone
    obtain ⟨u, rfl, hu⟩ := List.map_eq_singleton_iff.1 hone.symm
    exact (hus u (List.mem_singleton_self u)).2 (String.toList_eq_nil_iff.1 hu)
  by_cases hss : ss = []
  · rw [hss] at h ⊢
    exact (hnil ts ht h.symm).symm
  · by_cases hts : ts = []
    · rw [hts] at h ⊢
      exact hnil ss hs h
    · have hmap := hsplit ss hs hss
      rw [h, hsplit ts ht hts] at hmap
      exact (List.map_injective_iff.2 fun _ _ => String.toList_inj.1) hmap.symm

end JsString
