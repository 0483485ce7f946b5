import Mathlib.Data.Rat.Floor
import Mathlib.Tactic.Linarith
import Cantilune.Base.Json
import Cantilune.Base.JsString

/-!
# Numbers of JavaScript

A number is finite, one of the two infinities, or NaN. The finite ones are taken as rationals, without the
rounding of their format.
-/

inductive JsDouble where
  | finite (q : ℚ)
  | infinity
  | negInfinity
  | nan
  deriving DecidableEq

namespace JsDouble

/-- The comparison `x > y`, false wherever NaN comes in. -/
def gt : JsDouble → JsDouble → Bool
  | finite p, finite q => q < p
  | finite _, negInfinity => true
  | infinity, finite _ => true
  | infinity, negInfinity => true
  | _, _ => false

/-- The comparison `x >= y`. -/
def ge : JsDouble → JsDouble → Bool
  | nan, _ => false
  | x, y => gt x y || x = y

def isFinite : JsDouble → Bool
  | finite _ => true
  | _ => false

/-- The difference with a finite number. -/
def sub : JsDouble → ℚ → JsDouble
  | finite p, q => finite (p - q)
  | x, _ => x

/-- `Math.min` of two numbers. -/
def min (x y : JsDouble) : JsDouble :=
  if x = nan then nan else if y = nan then nan else if x.gt y then y else x

/-- The whole number towards zero. -/
def truncate (q : ℚ) : Int := if 0 ≤ q then ⌊q⌋ else ⌈q⌉

/-- How many elements `slice(0, end)` takes of that many. -/
def sliceEnd (length : Nat) : JsDouble → Nat
  | finite q => (if truncate q < 0 then length + truncate q else truncate q).toNat ⊓ length
  | infinity => length
  | negInfinity => 0
  | nan => 0

/-- Above zero: the infinite one counts. -/
def Positive (x : JsDouble) : Prop := x.gt (finite 0) = true

instance (x : JsDouble) : Decidable x.Positive := inferInstanceAs (Decidable (_ = true))

/-- What is left of a limit, floored at zero. -/
def room (limit : JsDouble) (used : ℚ) : JsDouble :=
  if (limit.sub used).Positive then limit.sub used else finite 0

/-- The bound is there and the value is above it. -/
def exceeds (x : ℚ) : Option JsDouble → Bool
  | none => false
  | some bound => (finite x).gt bound

/-- The bound is there and the value is not below it. -/
def reaches (x : ℚ) : Option JsDouble → Bool
  | none => false
  | some bound => (finite x).ge bound

theorem exceeds_mono {x y : ℚ} {bound : Option JsDouble} (hle : x ≤ y) (h : exceeds y bound = false) :
    exceeds x bound = false := by
  rcases bound with _ | (q | _ | _ | _)
  · rfl
  · simp only [exceeds, gt, decide_eq_false_iff_not, not_lt] at h ⊢
    exact hle.trans h
  · rfl
  · cases h
  · rfl

/-! ## Slices up to a positive number -/

theorem sliceEnd_finite_le {q : ℚ} (length : Nat) (hq : 0 < q) : ((finite q).sliceEnd length : ℚ) ≤ q := by
  have hfloor : 0 ≤ ⌊q⌋ := Int.floor_nonneg.2 hq.le
  have hend : (finite q).sliceEnd length ≤ ⌊q⌋.toNat := by
    rw [sliceEnd, truncate, if_pos hq.le, if_neg (not_lt.2 hfloor)]
    exact inf_le_left
  calc ((finite q).sliceEnd length : ℚ)
      ≤ (⌊q⌋.toNat : ℚ) := Nat.cast_le.2 hend
    _ = ((⌊q⌋.toNat : Int) : ℚ) := (Int.cast_natCast _).symm
    _ = (⌊q⌋ : ℚ) := by rw [Int.toNat_of_nonneg hfloor]
    _ ≤ q := Int.floor_le q

theorem min_cases {x y : JsDouble} (h : (x.min y).Positive) :
    x.Positive ∧ y.Positive ∧ (∀ q, x = finite q → ∃ r, 0 < r ∧ r ≤ q ∧ x.min y = finite r) ∧
      ∀ q, y = finite q → ∃ r, 0 < r ∧ r ≤ q ∧ x.min y = finite r := by
  cases x <;> cases y <;> simp_all [min, Positive, gt]
  -- two finite numbers are left
  grind

theorem room_cases {limit : JsDouble} {used : ℚ} (h : (limit.room used).Positive) :
    (∃ q, limit = finite q ∧ limit.room used = finite (q - used)) ∨ limit = infinity := by
  unfold room at h ⊢
  split at h
  · rename_i hpos
    rw [if_pos hpos]
    cases limit with
    | finite q => exact .inl ⟨q, rfl, rfl⟩
    | infinity => exact .inr rfl
    | negInfinity => cases hpos
    | nan => cases hpos
  · simp [Positive, gt] at h

theorem room_nonneg (limit : JsDouble) (used : ℚ) :
    (∃ q, 0 ≤ q ∧ limit.room used = finite q) ∨ limit.room used = infinity := by
  by_cases h : (limit.room used).Positive
  · cases hroom : limit.room used with
    | finite q =>
        rw [hroom] at h
        exact .inl ⟨q, (of_decide_eq_true h).le, rfl⟩
    | infinity => exact .inr rfl
    | negInfinity =>
        rw [hroom] at h
        cases h
    | nan =>
        rw [hroom] at h
        cases h
  · refine .inl ⟨0, le_rfl, ?_⟩
    unfold room at h ⊢
    split at h
    · exact absurd ‹_› h
    · rename_i hzero
      rw [if_neg hzero]

theorem sliceEnd_min_room {limit other : JsDouble} {used taken : ℚ}
    (h : ¬ ((limit.room used).min (other.room taken)).Positive) (length : Nat) :
    ((limit.room used).min (other.room taken)).sliceEnd length = 0 := by
  have hend : ∀ q : ℚ, 0 ≤ q → ¬ (finite q).Positive → (finite q).sliceEnd length = 0 := by
    intro q hq hzero
    have heq : q = 0 := le_antisymm (by simpa [Positive, gt] using hzero) hq
    simp [heq, sliceEnd, truncate]
  rcases room_nonneg limit used with ⟨q, hq, hleft⟩ | hleft
  · rcases room_nonneg other taken with ⟨r, hr, hright⟩ | hright
    · rw [hleft, hright, min, if_neg nofun, if_neg nofun] at h ⊢
      split at h
      · rw [if_pos ‹_›]
        exact hend r hr h
      · rw [if_neg ‹_›]
        exact hend q hq h
    · rw [hleft, hright] at h ⊢
      exact hend q hq h
  · rcases room_nonneg other taken with ⟨r, hr, hright⟩ | hright
    · rw [hleft, hright] at h ⊢
      exact hend r hr h
    · rw [hleft, hright] at h
      exact absurd rfl h

theorem exceeds_room {limit size : JsDouble} {used : ℚ} (length : Nat) (hroom : (limit.room used).Positive)
    (hsize : ∀ q, limit.room used = finite q → ∃ r, 0 < r ∧ r ≤ q ∧ size = finite r) :
    exceeds (used + size.sliceEnd length) (some limit) = false := by
  rcases room_cases hroom with ⟨q, rfl, hleft⟩ | rfl
  · obtain ⟨r, hr, hle, rfl⟩ := hsize _ hleft
    have hend := (sliceEnd_finite_le length hr).trans hle
    simp only [exceeds, gt, decide_eq_false_iff_not, not_lt]
    linarith
  · rfl

end JsDouble

/-!
## Conversions to numbers

The function `Number` of JavaScript on the values that `JSON.parse` returns. An array is converted by the text of
its elements, so only an array of at most one element can be a number.
-/

namespace JsDouble

/-- The value of digits of a base, or `none` where there is none or another character. -/
def ofDigits (base : Nat) (digits : List Char) : Option Nat :=
  if digits.isEmpty then none
  else digits.foldlM (fun value c => do
    let digit ← Json.hexDigit? c
    if digit < base then some (base * value + digit) else none) 0

/-- An unsigned decimal literal with an optional fraction and exponent. -/
def ofDecimal (cs : List Char) : Option ℚ :=
  let ((whole, n), rest) := Json.takeDigits cs (0, 0)
  let mantissa : Option (ℚ × List Char) :=
    match rest with
    | '.' :: rest =>
        let ((all, m), rest) := Json.takeDigits rest (whole, 0)
        if n = 0 ∧ m = 0 then none else some ((all : ℚ) / (10 ^ m : Nat), rest)
    | rest => if n = 0 then none else some ((whole : ℚ), rest)
  match mantissa.bind fun r => Json.parseExponent r.1 r.2 with
  | some (q, []) => some q
  | _ => none

/-- The number that a text spells; blank texts spell zero. -/
def ofString (text : String) : JsDouble :=
  let finite? (value : Option ℚ) : JsDouble := (value.map finite).getD nan
  match (JsString.trim text).toList with
  | [] => finite 0
  | '0' :: 'x' :: cs | '0' :: 'X' :: cs => finite? ((ofDigits 16 cs).map Nat.cast)
  | '0' :: 'o' :: cs | '0' :: 'O' :: cs => finite? ((ofDigits 8 cs).map Nat.cast)
  | '0' :: 'b' :: cs | '0' :: 'B' :: cs => finite? ((ofDigits 2 cs).map Nat.cast)
  | '+' :: cs => if String.ofList cs = "Infinity" then infinity else finite? (ofDecimal cs)
  | '-' :: cs => if String.ofList cs = "Infinity" then negInfinity else finite? ((ofDecimal cs).map (- ·))
  | cs => if String.ofList cs = "Infinity" then infinity else finite? (ofDecimal cs)

/-- The text of an element of an array, as a number. -/
def ofElement : Json → JsDouble
  | .null => finite 0
  | .bool _ => nan
  | .num q => finite q
  | .str text => ofString text
  | .arr [] => finite 0
  | .arr [x] => ofElement x
  | .arr _ => nan
  | .obj _ => nan

/-- `Number(value)`; `undefined` is `none`. -/
def ofJson : Option Json → JsDouble
  | none => nan
  | some (.bool b) => finite (if b then 1 else 0)
  | some x => ofElement x

end JsDouble
