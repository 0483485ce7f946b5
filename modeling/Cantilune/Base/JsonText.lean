import Cantilune.Base.JsString
import Cantilune.Base.Json

/-!
# The text of a JSON value

`JSON.stringify` without indentation. How a number is printed is a parameter; where different numbers are printed
differently, in characters that only numbers are printed in, the text says which value it is of.
-/

namespace Json

/-! ## Strings -/

def hexChar (n : Nat) : Char := if n < 10 then Char.ofNat (48 + n) else Char.ofNat (87 + n)

/-- A character as it stands in a string literal. -/
def escape (c : Char) : List Char :=
  if c = '"' then ['\\', '"']
  else if c = '\\' then ['\\', '\\']
  else if c.toNat = 8 then ['\\', 'b']
  else if c.toNat = 12 then ['\\', 'f']
  else if c = '\n' then ['\\', 'n']
  else if c = '\r' then ['\\', 'r']
  else if c = '\t' then ['\\', 't']
  else if c.toNat < 0x20 then ['\\', 'u', '0', '0', hexChar (c.toNat / 16), hexChar (c.toNat % 16)]
  else [c]

/-- The first character of the rest of a string literal. -/
def unescape : List Char → Option (Char × List Char)
  | '\\' :: 'u' :: '0' :: '0' :: a :: b :: cs =>
      (hexDigit? a).bind fun m => (hexDigit? b).map fun n => (Char.ofNat (16 * m + n), cs)
  | '\\' :: c :: cs => (escapeChar? c).map fun e => (e, cs)
  | c :: cs => some (c, cs)
  | [] => none

theorem hexDigit_hexChar {n : Nat} (h : n < 16) : hexDigit? (hexChar n) = some n := by
  revert n
  decide

theorem unescape_of_ne {c : Char} (hc : c ≠ '\\') (cs : List Char) : unescape (c :: cs) = some (c, cs) := by
  unfold unescape
  split
  · rename_i heq
    cases heq
    exact absurd rfl hc
  · rename_i heq
    cases heq
    exact absurd rfl hc
  · rename_i heq
    cases heq
    rfl
  · rename_i heq
    cases heq

theorem unescape_escape (c : Char) (cs : List Char) : unescape (escape c ++ cs) = some (c, cs) := by
  have hnat : ∀ {n : Nat} {d : Char}, c.toNat = n → Char.ofNat n = d → d = c := by
    rintro n d rfl rfl
    exact Char.ofNat_toNat c
  unfold escape
  split
  · subst_vars
    rfl
  split
  · subst_vars
    rfl
  split
  · rename_i h
    rw [← hnat h rfl]
    rfl
  split
  · rename_i h
    rw [← hnat h rfl]
    rfl
  split
  · subst_vars
    rfl
  split
  · subst_vars
    rfl
  split
  · subst_vars
    rfl
  split
  · rename_i h
    have hhigh := hexDigit_hexChar (n := c.toNat / 16) (by omega)
    have hlow := hexDigit_hexChar (n := c.toNat % 16) (by omega)
    have hsum : 16 * (c.toNat / 16) + c.toNat % 16 = c.toNat := by omega
    simp only [List.cons_append, List.nil_append, unescape, hhigh, hlow, Option.bind_some, Option.map_some, hsum,
      Char.ofNat_toNat]
  · rename_i hne _ _ _ _ _ _
    exact unescape_of_ne hne cs

theorem escape_append_inj {c d : Char} {r s : List Char} (h : escape c ++ r = escape d ++ s) : c = d ∧ r = s := by
  have hunescaped := congrArg unescape h
  rw [unescape_escape, unescape_escape] at hunescaped
  cases hunescaped
  exact ⟨rfl, rfl⟩

theorem quote_ne_escape {c : Char} {r s : List Char} : '"' :: r ≠ escape c ++ s := by
  intro h
  have hunescaped := congrArg unescape h
  rw [unescape_of_ne (by decide), unescape_escape] at hunescaped
  cases hunescaped
  have hhead : some '"' = some '\\' := congrArg List.head? h
  exact absurd hhead (by decide)

theorem quoted_inj {cs ds r s : List Char} (h : cs.flatMap escape ++ '"' :: r = ds.flatMap escape ++ '"' :: s) :
    cs = ds ∧ r = s := by
  induction cs generalizing ds with
  | nil =>
      cases ds with
      | nil =>
          cases h
          exact ⟨rfl, rfl⟩
      | cons d ds =>
          rw [List.flatMap_cons, List.append_assoc] at h
          exact absurd h quote_ne_escape
  | cons c cs ih =>
      cases ds with
      | nil =>
          rw [List.flatMap_cons, List.append_assoc] at h
          exact absurd h.symm quote_ne_escape
      | cons d ds =>
          rw [List.flatMap_cons, List.flatMap_cons, List.append_assoc, List.append_assoc] at h
          obtain ⟨rfl, hrest⟩ := escape_append_inj h
          obtain ⟨rfl, hr⟩ := ih hrest
          exact ⟨rfl, hr⟩

def quote (s : String) : List Char := '"' :: (s.toList.flatMap escape ++ ['"'])

theorem quote_append_inj {a b : String} {r s : List Char} (h : quote a ++ r = quote b ++ s) : a = b ∧ r = s := by
  simp only [quote, List.cons_append, List.append_assoc, List.nil_append, List.cons.injEq, true_and] at h
  obtain ⟨hlists, hr⟩ := quoted_inj h
  exact ⟨String.toList_injective hlists, hr⟩

/-! ## Numbers -/

/-- The characters that numbers are printed in. -/
def isNumeric (c : Char) : Bool := c.isDigit || c = '-' || c = '+' || c = '.' || c = 'e'

structure PrintsNumbers (print : ℚ → String) : Prop where
  injective : Function.Injective print
  nonempty : ∀ q, (print q).toList ≠ []
  numeric : ∀ q, ∀ c ∈ (print q).toList, isNumeric c = true

/-- What may follow a value: nothing that a number could go on with. -/
def Ends (r : List Char) : Prop := ∀ c ∈ r.head?, isNumeric c = false

theorem ends_nil : Ends [] := fun _ h => nomatch h

theorem ends_cons {c : Char} (h : isNumeric c = false) (r : List Char) : Ends (c :: r) := by
  intro d hd
  cases hd
  exact h

theorem takeWhile_numeric {l r : List Char} (hl : ∀ c ∈ l, isNumeric c = true) (hr : Ends r) :
    (l ++ r).takeWhile isNumeric = l := by
  rw [List.takeWhile_append_of_pos hl]
  cases r with
  | nil => simp
  | cons c r => simp [hr c rfl]

theorem print_append_inj {print : ℚ → String} (hprint : PrintsNumbers print) {p q : ℚ} {r s : List Char} (hr : Ends r)
    (hs : Ends s) (h : (print p).toList ++ r = (print q).toList ++ s) : p = q ∧ r = s := by
  have hprinted : (print p).toList = (print q).toList := by
    rw [← takeWhile_numeric (hprint.numeric p) hr, h, takeWhile_numeric (hprint.numeric q) hs]
  rw [hprinted] at h
  exact ⟨hprint.injective (String.toList_injective hprinted), List.append_cancel_left h⟩

/-- Whole numbers in decimal, other numbers with their denominator. -/
def printExact (q : ℚ) : String :=
  String.ofList ((if q.num < 0 then ['-'] else []) ++
    ((toString q.num.natAbs).toList ++ if q.den = 1 then [] else 'e' :: (toString q.den).toList))

theorem minus_mem_printExact {q : ℚ} : '-' ∈ (printExact q).toList ↔ q.num < 0 := by
  have hnum := JsString.notMem_toString (show ('-').isDigit = false by decide) q.num.natAbs
  have hden := JsString.notMem_toString (show ('-').isDigit = false by decide) q.den
  rw [printExact, String.toList_ofList, List.mem_append, List.mem_append]
  constructor
  · rintro (h | h | h)
    · by_contra hnonneg
      rw [if_neg hnonneg] at h
      cases h
    · exact absurd h hnum
    · split at h
      · cases h
      · rcases List.mem_cons.1 h with h | h
        · exact absurd h (by decide)
        · exact absurd h hden
  · intro h
    rw [if_pos h]
    exact .inl List.mem_cons_self

theorem e_mem_printExact {q : ℚ} : 'e' ∈ (printExact q).toList ↔ q.den ≠ 1 := by
  have hnum := JsString.notMem_toString (show ('e').isDigit = false by decide) q.num.natAbs
  rw [printExact, String.toList_ofList, List.mem_append, List.mem_append]
  constructor
  · rintro (h | h | h) hone
    · split at h
      · exact absurd (List.mem_singleton.1 h) (by decide)
      · cases h
    · exact absurd h hnum
    · rw [if_pos hone] at h
      cases h
  · intro h
    rw [if_neg h]
    exact .inr (.inr List.mem_cons_self)

theorem printExact_injective : Function.Injective printExact := by
  intro p q h
  have hsign : p.num < 0 ↔ q.num < 0 := by rw [← minus_mem_printExact, h, minus_mem_printExact]
  have hwhole : p.den ≠ 1 ↔ q.den ≠ 1 := by rw [← e_mem_printExact, h, e_mem_printExact]
  have hlists := String.ofList_injective h
  rw [show (if p.num < 0 then ['-'] else []) = if q.num < 0 then ['-'] else [] by simp only [hsign]] at hlists
  have hrest := List.append_cancel_left hlists
  obtain ⟨hnum, hden⟩ : p.num.natAbs = q.num.natAbs ∧ p.den = q.den := by
    by_cases hone : p.den = 1
    · have hone' : q.den = 1 := by
        by_contra hne
        exact hwhole.2 hne hone
      rw [if_pos hone, if_pos hone', List.append_nil, List.append_nil] at hrest
      exact ⟨JsString.toString_injective hrest, hone.trans hone'.symm⟩
    · rw [if_neg hone, if_neg (hwhole.1 hone)] at hrest
      obtain ⟨hnum, hden⟩ := JsString.append_cons_inj (JsString.notMem_toString (by decide) _)
        (JsString.notMem_toString (by decide) _) hrest
      exact ⟨JsString.toString_injective hnum, JsString.toString_injective hden⟩
  refine Rat.ext ?_ hden
  by_cases hneg : p.num < 0
  · have hneg' := hsign.1 hneg
    omega
  · have hnonneg := mt hsign.2 hneg
    omega

theorem printsNumbers_printExact : PrintsNumbers printExact := by
  have hdigits : ∀ (n : Nat), ∀ c ∈ (toString n).toList, isNumeric c = true := by
    intro n c hc
    have hdigit : c.isDigit = true := by
      by_contra hne
      exact JsString.notMem_toString (Bool.eq_false_iff.2 hne) n hc
    rw [isNumeric, hdigit]
    rfl
  refine ⟨printExact_injective, fun q h => ?_, fun q c hc => ?_⟩
  · rw [printExact, String.toList_ofList, List.append_eq_nil_iff, List.append_eq_nil_iff] at h
    have hdigits := h.2.1
    rw [Nat.toString_eq_ofList_toDigits, String.toList_ofList] at hdigits
    exact absurd hdigits Nat.toDigits_ne_nil
  · rw [printExact, String.toList_ofList, List.mem_append, List.mem_append] at hc
    rcases hc with hc | hc | hc
    · split at hc
      · rw [List.mem_singleton.1 hc]
        decide
      · cases hc
    · exact hdigits _ c hc
    · split at hc
      · cases hc
      · rcases List.mem_cons.1 hc with rfl | hc
        · decide
        · exact hdigits _ c hc

section Text

variable (print : ℚ → String)

mutual
def text : Json → List Char
  | .null => ['n', 'u', 'l', 'l']
  | .bool true => ['t', 'r', 'u', 'e']
  | .bool false => ['f', 'a', 'l', 's', 'e']
  | .num q => (print q).toList
  | .str s => quote s
  | .arr xs => '[' :: textElems true xs
  | .obj ms => '{' :: textMembers true ms

/-- The elements of an array with its closing bracket. -/
def textElems (first : Bool) : List Json → List Char
  | [] => [']']
  | x :: xs => (if first then [] else [',']) ++ (text x ++ textElems false xs)

def textMembers (first : Bool) : List (String × Json) → List Char
  | [] => ['}']
  | (k, x) :: ms => (if first then [] else [',']) ++ (quote k ++ ':' :: (text x ++ textMembers false ms))
end

/-- `JSON.stringify` -/
def stringify (x : Json) : String := String.ofList (text print x)

end Text

/-! ## The value of a text -/

/-- What a value is, as its first character says it. -/
inductive Shape where
  | null | true | false | num | str | arr | obj

def shape : Json → Shape
  | .null => .null
  | .bool true => .true
  | .bool false => .false
  | .num _ => .num
  | .str _ => .str
  | .arr _ => .arr
  | .obj _ => .obj

def shapeOfChar (c : Char) : Shape :=
  if c = 'n' then .null else if c = 't' then .true else if c = 'f' then .false else if c = '"' then .str
  else if c = '[' then .arr else if c = '{' then .obj else .num

section Inj

variable {print : ℚ → String}

theorem shapeOfChar_numeric {c : Char} (h : isNumeric c = true) : shapeOfChar c = .num := by
  unfold shapeOfChar
  repeat' split
  all_goals first | rfl | (subst_vars; exact absurd h (by decide))

theorem head_text (hprint : PrintsNumbers print) (x : Json) : ∃ c cs, text print x = c :: cs ∧ shapeOfChar c = x.shape := by
  cases x with
  | null => exact ⟨_, _, rfl, rfl⟩
  | bool b => cases b <;> exact ⟨_, _, rfl, rfl⟩
  | num q =>
      obtain ⟨c, cs, hcs⟩ := List.exists_cons_of_ne_nil (hprint.nonempty q)
      refine ⟨c, cs, by rw [text]; exact hcs, shapeOfChar_numeric (hprint.numeric q c ?_)⟩
      rw [hcs]
      exact List.mem_cons_self
  | str s => exact ⟨_, _, rfl, rfl⟩
  | arr xs => exact ⟨_, _, rfl, rfl⟩
  | obj ms => exact ⟨_, _, rfl, rfl⟩

theorem text_ne_cons (hprint : PrintsNumbers print) {x : Json} {c : Char} (hc : shapeOfChar c = .num)
    (hnumeric : isNumeric c = false) {r s : List Char} : c :: r ≠ text print x ++ s := by
  intro h
  obtain ⟨d, ds, htext, hshape⟩ := head_text hprint x
  rw [htext] at h
  cases h
  rw [hc] at hshape
  cases x with
  | num q =>
      rw [text] at htext
      have hd := hprint.numeric q c (by rw [htext]; exact List.mem_cons_self)
      rw [hnumeric] at hd
      cases hd
  | bool b => cases b <;> cases hshape
  | _ => cases hshape

theorem bracket_ne_elems (hprint : PrintsNumbers print) {c : Char} (hc : shapeOfChar c = .num)
    (hnumeric : isNumeric c = false) (hcomma : c ≠ ',') {first : Bool} {x : Json} {r s : List Char} :
    c :: r ≠ (if first then [] else [',']) ++ (text print x ++ s) := by
  cases first with
  | true => exact text_ne_cons hprint hc hnumeric
  | false =>
      intro h
      exact hcomma (List.cons.inj h).1

theorem ends_textElems (xs : List Json) (r : List Char) : Ends (textElems print false xs ++ r) := by
  cases xs with
  | nil =>
      rw [textElems]
      exact ends_cons (by decide) _
  | cons x xs =>
      rw [textElems]
      exact ends_cons (by decide) _

theorem ends_textMembers (ms : List (String × Json)) (r : List Char) : Ends (textMembers print false ms ++ r) := by
  cases ms with
  | nil =>
      rw [textMembers]
      exact ends_cons (by decide) _
  | cons m ms =>
      obtain ⟨k, x⟩ := m
      rw [textMembers]
      exact ends_cons (by decide) _

mutual
/-- A text that is followed by nothing a number could go on with says which value it begins with. -/
theorem text_append_inj (hprint : PrintsNumbers print) : (x y : Json) → {r s : List Char} → Ends r → Ends s →
    text print x ++ r = text print y ++ s → x = y ∧ r = s
  | x, y, r, s, hr, hs, h => by
      have hshape : x.shape = y.shape := by
        obtain ⟨c, cs, hx, hcx⟩ := head_text hprint x
        obtain ⟨d, ds, hy, hdy⟩ := head_text hprint y
        rw [hx, hy] at h
        rw [← hcx, ← hdy, (List.cons.inj h).1]
      match x, y with
      | .null, .null => exact ⟨rfl, List.append_cancel_left h⟩
      | .bool true, .bool true => exact ⟨rfl, List.append_cancel_left h⟩
      | .bool false, .bool false => exact ⟨rfl, List.append_cancel_left h⟩
      | .num p, .num q =>
          rw [text, text] at h
          obtain ⟨rfl, hrest⟩ := print_append_inj hprint hr hs h
          exact ⟨rfl, hrest⟩
      | .str a, .str b =>
          rw [text, text] at h
          obtain ⟨rfl, hrest⟩ := quote_append_inj h
          exact ⟨rfl, hrest⟩
      | .arr xs, .arr ys =>
          rw [text, text, List.cons_append, List.cons_append] at h
          obtain ⟨rfl, hrest⟩ := textElems_append_inj hprint xs ys true (List.cons.inj h).2
          exact ⟨rfl, hrest⟩
      | .obj ms, .obj ns =>
          rw [text, text, List.cons_append, List.cons_append] at h
          obtain ⟨rfl, hrest⟩ := textMembers_append_inj hprint ms ns true (List.cons.inj h).2
          exact ⟨rfl, hrest⟩

theorem textElems_append_inj (hprint : PrintsNumbers print) : (xs ys : List Json) → (first : Bool) →
    {r s : List Char} → textElems print first xs ++ r = textElems print first ys ++ s → xs = ys ∧ r = s
  | [], [], first, r, s, h => by
      rw [textElems] at h
      exact ⟨rfl, List.append_cancel_left h⟩
  | [], y :: ys, first, r, s, h => by
      rw [textElems, textElems] at h
      rw [List.append_assoc, List.append_assoc] at h
      exact absurd h (bracket_ne_elems hprint rfl (by decide) (by decide))
  | x :: xs, [], first, r, s, h => by
      rw [textElems, textElems] at h
      rw [List.append_assoc, List.append_assoc] at h
      exact absurd h.symm (bracket_ne_elems hprint rfl (by decide) (by decide))
  | x :: xs, y :: ys, first, r, s, h => by
      rw [textElems, textElems, List.append_assoc, List.append_assoc, List.append_assoc, List.append_assoc] at h
      obtain ⟨rfl, hrest⟩ :=
        text_append_inj hprint x y (ends_textElems xs r) (ends_textElems ys s) (List.append_cancel_left h)
      obtain ⟨rfl, hr⟩ := textElems_append_inj hprint xs ys false hrest
      exact ⟨rfl, hr⟩

theorem textMembers_append_inj (hprint : PrintsNumbers print) : (ms ns : List (String × Json)) → (first : Bool) →
    {r s : List Char} → textMembers print first ms ++ r = textMembers print first ns ++ s → ms = ns ∧ r = s
  | [], [], first, r, s, h => by
      rw [textMembers] at h
      exact ⟨rfl, List.append_cancel_left h⟩
  | [], (l, y) :: ns, first, r, s, h => by
      rw [textMembers, textMembers] at h
      cases first <;> simp [quote] at h
  | (k, x) :: ms, [], first, r, s, h => by
      rw [textMembers, textMembers] at h
      cases first <;> simp [quote] at h
  | (k, x) :: ms, (l, y) :: ns, first, r, s, h => by
      rw [textMembers, textMembers, List.append_assoc, List.append_assoc, List.append_assoc, List.append_assoc] at h
      obtain ⟨rfl, hvalue⟩ := quote_append_inj (List.append_cancel_left h)
      rw [List.cons_append, List.cons_append, List.append_assoc, List.append_assoc] at hvalue
      obtain ⟨rfl, hrest⟩ :=
        text_append_inj hprint x y (ends_textMembers ms r) (ends_textMembers ns s) (List.cons.inj hvalue).2
      obtain ⟨rfl, hr⟩ := textMembers_append_inj hprint ms ns false hrest
      exact ⟨rfl, hr⟩
end

/-- Different values have different texts. -/
theorem stringify_injective (hprint : PrintsNumbers print) : Function.Injective (stringify print) := by
  intro x y h
  have htext : text print x ++ [] = text print y ++ [] := by
    rw [List.append_nil, List.append_nil]
    exact String.ofList_injective h
  exact (text_append_inj hprint x y ends_nil ends_nil htext).1

end Inj

end Json
