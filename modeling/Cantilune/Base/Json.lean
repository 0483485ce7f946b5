import Mathlib.Algebra.GroupWithZero.Nat
import Mathlib.Algebra.Ring.Int.Defs
import Cantilune.Base.OrdMap
import Mathlib.Data.Rat.Defs
import Mathlib.Data.List.Sort

/-!
# JSON values

The values that `JSON.parse` returns, the parser itself, and a canonical form that forgets the order in
which an object lists its members. The parser is structural in a fuel argument; `parse` hands it more
than the text can use up.
-/

/-- A JSON value. The member names of an object that the parser builds are distinct. -/
inductive Json where
  | null
  | bool (b : Bool)
  | num (q : ℚ)
  | str (s : String)
  | arr (elems : List Json)
  | obj (members : List (String × Json))

namespace Json

/-! ## Equality -/

mutual
def beq : Json → Json → Bool
  | .null, .null => true
  | .bool a, .bool b => a == b
  | .num a, .num b => a == b
  | .str a, .str b => a == b
  | .arr a, .arr b => beqList a b
  | .obj a, .obj b => beqMembers a b
  | _, _ => false

def beqList : List Json → List Json → Bool
  | [], [] => true
  | x :: xs, y :: ys => beq x y && beqList xs ys
  | _, _ => false

def beqMembers : List (String × Json) → List (String × Json) → Bool
  | [], [] => true
  | (k, x) :: xs, (l, y) :: ys => k == l && beq x y && beqMembers xs ys
  | _, _ => false
end

mutual
theorem beq_iff : (x y : Json) → (beq x y = true ↔ x = y)
  | .null, y => by cases y <;> simp [beq]
  | .bool a, y => by cases y <;> simp [beq]
  | .num a, y => by cases y <;> simp [beq]
  | .str a, y => by cases y <;> simp [beq]
  | .arr a, y => by
      cases y with
      | arr b => simp [beq, beqList_iff a b]
      | _ => simp [beq]
  | .obj a, y => by
      cases y with
      | obj b => simp [beq, beqMembers_iff a b]
      | _ => simp [beq]

theorem beqList_iff : (xs ys : List Json) → (beqList xs ys = true ↔ xs = ys)
  | [], ys => by cases ys <;> simp [beqList]
  | x :: xs, ys => by
      cases ys with
      | nil => simp [beqList]
      | cons y ys => simp [beqList, beq_iff x y, beqList_iff xs ys]

theorem beqMembers_iff : (xs ys : List (String × Json)) → (beqMembers xs ys = true ↔ xs = ys)
  | [], ys => by cases ys <;> simp [beqMembers]
  | (k, x) :: xs, ys => by
      cases ys with
      | nil => simp [beqMembers]
      | cons y ys =>
          obtain ⟨l, y⟩ := y
          simp [beqMembers, beq_iff x y, beqMembers_iff xs ys]
end

instance : DecidableEq Json := fun x y => decidable_of_iff (beq x y = true) (beq_iff x y)

instance : Inhabited Json := ⟨.null⟩

/-! ## Members -/

/-- The own member `k`; `none` stands for `undefined`, also on a value that is not an object. -/
def get? (k : String) : Json → Option Json
  | .obj ms => ms.lookup k
  | _ => none

def str? : Json → Option String
  | .str s => some s
  | _ => none

/-- An object, as opposed to an array or a scalar. -/
def isRecord : Json → Bool
  | .obj _ => true
  | _ => false

/-- The image of an object literal, in which a member that is `undefined` does not appear. -/
def record (members : List (String × Option Json)) : Json :=
  .obj (members.filterMap fun m => m.2.map fun v => (m.1, v))

@[simp] theorem get?_record_nil (k : String) : (record []).get? k = none := rfl

@[simp] theorem get?_record_cons (k l : String) (v : Option Json) (ms : List (String × Option Json)) :
    (record ((l, v) :: ms)).get? k = if k = l then v.or ((record ms).get? k) else (record ms).get? k := by
  cases v with
  | none => simp [record, get?]
  | some v =>
      by_cases h : k = l
      · simp [record, get?, h]
      · simp [record, get?, h, List.lookup_cons, beq_false_of_ne h]

/-! ## Order of members -/

mutual
/-- The value with the members of every object in it sorted by name. -/
def canon : Json → Json
  | .arr xs => .arr (canonList xs)
  | .obj ms => .obj ((canonMembers ms).insertionSort fun a b => a.1 ≤ b.1)
  | j => j

def canonList : List Json → List Json
  | [] => []
  | x :: xs => x.canon :: canonList xs

def canonMembers : List (String × Json) → List (String × Json)
  | [] => []
  | (k, x) :: xs => (k, x.canon) :: canonMembers xs
end

theorem canonList_eq_map (xs : List Json) : canonList xs = xs.map canon := by
  induction xs with
  | nil => rfl
  | cons x xs ih => rw [canonList, ih, List.map_cons]

theorem canonMembers_eq_map (ms : List (String × Json)) : canonMembers ms = ms.map fun m => (m.1, m.2.canon) := by
  induction ms with
  | nil => rfl
  | cons m ms ih =>
      obtain ⟨k, x⟩ := m
      rw [canonMembers, ih, List.map_cons]

@[simp] theorem canon_str (s : String) : (str s).canon = str s := by rw [canon.eq_def]

@[simp] theorem canon_num (q : ℚ) : (num q).canon = num q := by rw [canon.eq_def]

theorem canon_arr (xs : List Json) : (arr xs).canon = arr (xs.map canon) := by
  rw [canon.eq_def]
  simp only [canonList_eq_map]

/-- The members of the canonical form of an object are the canonical ones, in another order. -/
theorem canon_obj (ms : List (String × Json)) :
    ∃ ns, (obj ms).canon = obj ns ∧ ns.Perm (ms.map fun m => (m.1, m.2.canon)) := by
  refine ⟨_, by rw [canon.eq_def], ?_⟩
  rw [canonMembers_eq_map]
  exact List.perm_insertionSort _ _

theorem canon_eq_str {x : Json} {s : String} (h : x.canon = str s) : x = str s := by
  cases x with
  | obj ms =>
      obtain ⟨ns, hns, _⟩ := canon_obj ms
      rw [hns] at h
      cases h
  | arr xs =>
      rw [canon_arr] at h
      cases h
  | _ =>
      rw [canon.eq_def] at h
      exact h

theorem canon_eq_num {x : Json} {q : ℚ} (h : x.canon = num q) : x = num q := by
  cases x with
  | obj ms =>
      obtain ⟨ns, hns, _⟩ := canon_obj ms
      rw [hns] at h
      cases h
  | arr xs =>
      rw [canon_arr] at h
      cases h
  | _ =>
      rw [canon.eq_def] at h
      exact h

theorem canon_eq_arr {x : Json} {ys : List Json} (h : x.canon = arr ys) : ∃ xs, x = arr xs ∧ xs.map canon = ys := by
  cases x with
  | obj ms =>
      obtain ⟨ns, hns, _⟩ := canon_obj ms
      rw [hns] at h
      cases h
  | arr xs =>
      rw [canon_arr] at h
      cases h
      exact ⟨xs, rfl, rfl⟩
  | _ =>
      rw [canon.eq_def] at h
      cases h

/-- Objects of one canonical form, one of which names no member twice, have the same members up to the
canonical form of these. -/
theorem get?_of_canon_eq {x : Json} {ms : List (String × Json)} (hn : (ms.map Prod.fst).Nodup)
    (h : x.canon = (obj ms).canon) :
    (∃ ls, x = obj ls) ∧ ∀ k, (x.get? k).map canon = ((obj ms).get? k).map canon := by
  obtain ⟨ns, hns, hperm⟩ := canon_obj ms
  rw [hns] at h
  cases x with
  | obj ls =>
      refine ⟨⟨ls, rfl⟩, fun k => ?_⟩
      obtain ⟨ns', hns', hperm'⟩ := canon_obj ls
      rw [hns'] at h
      cases h
      have hp : (ls.map fun m => (m.1, m.2.canon)).Perm (ms.map fun m => (m.1, m.2.canon)) := hperm'.symm.trans hperm
      have hnodup : ((ms.map fun m => (m.1, m.2.canon)).map Prod.fst).Nodup := by
        simpa [List.map_map, Function.comp_def] using hn
      have hlookup : ((ls.map fun m => (m.1, m.2.canon)).lookup k) = (ms.map fun m => (m.1, m.2.canon)).lookup k := by
        ext v
        rw [← Entries.mem_iff_lookup hnodup,
          ← Entries.mem_iff_lookup ((hp.map Prod.fst).nodup_iff.2 hnodup), hp.mem_iff]
      rw [OrdMap.lookup_mapValues, OrdMap.lookup_mapValues] at hlookup
      exact hlookup
  | arr xs =>
      rw [canon_arr] at h
      cases h
  | _ =>
      rw [canon.eq_def] at h
      cases h

theorem get?_of_canon_record {x : Json} {members : List (String × Option Json)}
    (hn : (members.map Prod.fst).Nodup) (h : x.canon = (record members).canon) :
    (∃ ms, x = .obj ms) ∧ ∀ k, (x.get? k).map canon = ((record members).get? k).map canon := by
  refine get?_of_canon_eq ?_ h
  refine hn.sublist ?_
  clear hn h
  induction members with
  | nil => simp
  | cons m members ih =>
      obtain ⟨k, v⟩ := m
      cases v with
      | none => simpa using ih.cons k
      | some v => simpa using ih

/-- A value whose canonical form no other value has. -/
def Rigid (j : Json) : Prop := ∀ x : Json, x.canon = j.canon → x = j

theorem rigid_str (s : String) : (str s).Rigid := fun _ h => canon_eq_str (h.trans (canon_str s))

theorem rigid_num (q : ℚ) : (num q).Rigid := fun _ h => canon_eq_num (h.trans (canon_num q))

theorem get?_rigid_of_canon_record {x : Json} {members : List (String × Option Json)} {k : String}
    (hn : (members.map Prod.fst).Nodup) (h : x.canon = (record members).canon)
    (hk : ∀ j ∈ (record members).get? k, j.Rigid) : x.get? k = (record members).get? k := by
  have hget := (get?_of_canon_record hn h).2 k
  cases hmember : (record members).get? k with
  | none =>
      rw [hmember, Option.map_none, Option.map_eq_none_iff] at hget
      exact hget
  | some j =>
      rw [hmember, Option.map_some] at hget
      obtain ⟨v, hv, hcanon⟩ := Option.map_eq_some_iff.1 hget
      rw [hv, hk j hmember v hcanon]

theorem get?_str_of_canon_record {x : Json} {members : List (String × Option Json)} {k s : String}
    (hn : (members.map Prod.fst).Nodup) (h : x.canon = (record members).canon)
    (hk : (record members).get? k = some (.str s)) : x.get? k = some (.str s) := by
  rw [← hk]
  refine get?_rigid_of_canon_record hn h fun j hj => ?_
  rw [hk] at hj
  cases hj
  exact rigid_str s

/-! ## Parsing -/

def isWhitespace (c : Char) : Bool := c = ' ' || c = '\t' || c = '\n' || c = '\r'

def skipWhitespace : List Char → List Char
  | [] => []
  | c :: cs => if isWhitespace c then skipWhitespace cs else c :: cs

def hexDigit? (c : Char) : Option Nat :=
  if '0' ≤ c ∧ c ≤ '9' then some (c.toNat - '0'.toNat)
  else if 'a' ≤ c ∧ c ≤ 'f' then some (c.toNat - 'a'.toNat + 10)
  else if 'A' ≤ c ∧ c ≤ 'F' then some (c.toNat - 'A'.toNat + 10)
  else none

def hex4? (a b c d : Char) : Option Nat := do
  return 4096 * (← hexDigit? a) + 256 * (← hexDigit? b) + 16 * (← hexDigit? c) + (← hexDigit? d)

/-- One UTF-16 unit as a character; a unit of a surrogate pair that lost its partner becomes U+FFFD. -/
def unitChar (n : Nat) : Char := if n.isValidChar then Char.ofNat n else Char.ofNat 0xFFFD

def escapeChar? (c : Char) : Option Char :=
  match c with
  | '"' => some '"'
  | '\\' => some '\\'
  | '/' => some '/'
  | 'b' => some (Char.ofNat 8)
  | 'f' => some (Char.ofNat 12)
  | 'n' => some '\n'
  | 'r' => some '\r'
  | 't' => some '\t'
  | _ => none

/-- The rest of a string literal after its opening quote; the characters read so far are in `acc`. -/
def parseString : Nat → List Char → List Char → Option (String × List Char)
  | 0, _, _ => none
  | _ + 1, _, [] => none
  | _ + 1, acc, '"' :: cs => some (String.ofList acc.reverse, cs)
  | n + 1, acc, '\\' :: 'u' :: a :: b :: c :: d :: cs => do
      let hi ← hex4? a b c d
      match cs with
      | '\\' :: 'u' :: e :: f :: g :: h :: cs' =>
          let lo ← hex4? e f g h
          if 0xD800 ≤ hi ∧ hi < 0xDC00 ∧ 0xDC00 ≤ lo ∧ lo < 0xE000 then
            parseString n (unitChar (0x10000 + (hi - 0xD800) * 0x400 + (lo - 0xDC00)) :: acc) cs'
          else
            parseString n (unitChar hi :: acc) cs
      | _ => parseString n (unitChar hi :: acc) cs
  | n + 1, acc, '\\' :: c :: cs => do
      let e ← escapeChar? c
      parseString n (e :: acc) cs
  | n + 1, acc, c :: cs => if c.toNat < 0x20 then none else parseString n (c :: acc) cs

/-- The value of a run of decimal digits, how many there are, and what follows them. -/
def takeDigits : List Char → Nat × Nat → (Nat × Nat) × List Char
  | [], acc => (acc, [])
  | c :: cs, (v, n) => if c.isDigit then takeDigits cs (10 * v + (c.toNat - '0'.toNat), n + 1) else ((v, n), c :: cs)

/-- The fraction part, as a value over a power of ten. -/
def parseFraction (v : Nat) : List Char → Option (ℚ × List Char)
  | '.' :: cs =>
      let ((v', n), rest) := takeDigits cs (v, 0)
      if n = 0 then none else some ((v' : ℚ) / (10 ^ n : Nat), rest)
  | cs => some ((v : ℚ), cs)

def parseExponentDigits (neg : Bool) (q : ℚ) (cs : List Char) : Option (ℚ × List Char) :=
  let ((e, n), rest) := takeDigits cs (0, 0)
  if n = 0 then none
  else some (if neg then q / (10 ^ e : Nat) else q * (10 ^ e : Nat), rest)

def parseExponent (q : ℚ) : List Char → Option (ℚ × List Char)
  | 'e' :: '+' :: cs => parseExponentDigits false q cs
  | 'e' :: '-' :: cs => parseExponentDigits true q cs
  | 'e' :: cs => parseExponentDigits false q cs
  | 'E' :: '+' :: cs => parseExponentDigits false q cs
  | 'E' :: '-' :: cs => parseExponentDigits true q cs
  | 'E' :: cs => parseExponentDigits false q cs
  | cs => some (q, cs)

def parseMagnitude : List Char → Option (ℚ × List Char)
  | '0' :: cs => do
      let (q, rest) ← parseFraction 0 cs
      parseExponent q rest
  | c :: cs =>
      if c.isDigit then do
        let ((v, _), rest) := takeDigits (c :: cs) (0, 0)
        let (q, rest) ← parseFraction v rest
        parseExponent q rest
      else none
  | [] => none

/-- A number literal; its value is kept exactly. -/
def parseNumber : List Char → Option (Json × List Char)
  | '-' :: cs => (parseMagnitude cs).map fun r => (.num (-r.1), r.2)
  | cs => (parseMagnitude cs).map fun r => (.num r.1, r.2)

mutual
def parseValue : Nat → List Char → Option (Json × List Char)
  | 0, _ => none
  | n + 1, cs =>
      match skipWhitespace cs with
      | 'n' :: 'u' :: 'l' :: 'l' :: rest => some (.null, rest)
      | 't' :: 'r' :: 'u' :: 'e' :: rest => some (.bool true, rest)
      | 'f' :: 'a' :: 'l' :: 's' :: 'e' :: rest => some (.bool false, rest)
      | '"' :: rest => (parseString n [] rest).map fun r => (.str r.1, r.2)
      | '[' :: rest =>
          match skipWhitespace rest with
          | ']' :: rest' => some (.arr [], rest')
          | _ => parseElements n [] rest
      | '{' :: rest =>
          match skipWhitespace rest with
          | '}' :: rest' => some (.obj [], rest')
          | _ => parseMembers n [] rest
      | cs' => parseNumber cs'

def parseElements : Nat → List Json → List Char → Option (Json × List Char)
  | 0, _, _ => none
  | n + 1, acc, cs =>
      match parseValue n cs with
      | none => none
      | some (x, rest) =>
          match skipWhitespace rest with
          | ',' :: rest' => parseElements n (x :: acc) rest'
          | ']' :: rest' => some (.arr (x :: acc).reverse, rest')
          | _ => none

/-- A member named twice keeps its place and takes the later value. -/
def parseMembers : Nat → List (String × Json) → List Char → Option (Json × List Char)
  | 0, _, _ => none
  | n + 1, acc, cs =>
      match skipWhitespace cs with
      | '"' :: rest =>
          match parseString n [] rest with
          | none => none
          | some (k, rest) =>
              match skipWhitespace rest with
              | ':' :: rest =>
                  match parseValue n rest with
                  | none => none
                  | some (x, rest) =>
                      match skipWhitespace rest with
                      | ',' :: rest' => parseMembers n (Entries.insert k x acc) rest'
                      | '}' :: rest' => some (.obj (Entries.insert k x acc), rest')
                      | _ => none
              | _ => none
      | _ => none
end

/-- `JSON.parse`; `none` where it throws. -/
def parse (text : String) : Option Json :=
  match parseValue (2 * text.toList.length + 2) text.toList with
  | some (x, rest) => if skipWhitespace rest = [] then some x else none
  | none => none

example : parse " [1.5e1, \x7b\"a\": \"\\u0041\", \"a\": null\x7d] "
    = some (.arr [.num 15, .obj [("a", .null)]]) := by decide +kernel

end Json
