import Cantilune.Base.Outcomes
import Cantilune.Core.Change
import Cantilune.Runtime.Recipe

/-!
# Reading wire values

The readers that the strict parsers are made of. Each of them is followed by the exact condition under which
it accepts; on what an encoder writes, a parser then accepts exactly the values whose texts pass.
-/

namespace Cantilune

abbrev CodecParse := Except RuntimeViolation

def fail {α : Type} (path message : String) : CodecParse α :=
  .error { code := .codecInvalid, message, path := some path }

variable {α : Type}

@[simp] theorem fail_ne_ok {path message : String} {a : α} : fail path message ≠ .ok a := by
  simp [fail]

/-! ## Readers -/

/-- An object, as opposed to everything else that an unknown value may be. -/
def requireRecord (value : Option Json) (path message : String) : CodecParse Json :=
  match value with
  | some (.obj members) => .ok (.obj members)
  | _ => fail path message

def requireString (record : Json) (key path : String) : CodecParse String :=
  match record.get? key with
  | some (.str s) =>
      if s = "" then fail s!"{path}.{key}" s!"expected non-empty string at {key}" else .ok s
  | _ => fail s!"{path}.{key}" s!"expected non-empty string at {key}"

/-- The member of an enumeration that a text names. -/
def parseName (all : List α) (name : α → String) (value : Option Json) (path message : String) : CodecParse α :=
  match value.bind Json.str? with
  | some s =>
      match all.find? fun a => name a = s with
      | some a => .ok a
      | none => fail path message
  | none => fail path message

/-- Reads the items of an array one after the other, from position `index` on. -/
def parseItems (parseItem : Option Json → String → CodecParse α) (path : String) :
    Nat → List Json → CodecParse (List α)
  | _, [] => .ok []
  | index, value :: values => do
      let item ← parseItem (some value) s!"{path}[{index}]"
      let items ← parseItems parseItem path (index + 1) values
      .ok (item :: items)

def parseArrayOf (message : String) (parseItem : Option Json → String → CodecParse α) (value : Option Json)
    (path : String) : CodecParse (List α) :=
  match value with
  | some (.arr values) => parseItems parseItem path 0 values
  | _ => fail path message

def parseEntityArray (value : Option Json) (path : String) (parseItem : Option Json → String → CodecParse α) :
    CodecParse (List α) :=
  parseArrayOf "expected array" parseItem value path

def parseNonEmptyString (value : Option Json) (path : String) : CodecParse String :=
  match value with
  | some (.str s) => if s = "" then fail path "expected non-empty string" else .ok s
  | _ => fail path "expected non-empty string"

def parseStringArray (value : Option Json) (path : String) : CodecParse (List String) :=
  parseArrayOf "expected string array" parseNonEmptyString value path

/-- A field that may be missing. -/
def parseOptional (parse : Option Json → String → CodecParse α) (value : Option Json) (path : String) :
    CodecParse (Option α) :=
  match value with
  | none => .ok none
  | some v => (parse (some v) path).map some

def parseNumber (message : String) (value : Option Json) (path : String) : CodecParse ℚ :=
  match value with
  | some (.num q) => .ok q
  | _ => fail path message

/-- A non-negative integer, or the given message at the given field. -/
def parseNat (value : Option Json) (path message : String) : CodecParse Nat :=
  match value with
  | some (.num q) => if q.den = 1 ∧ 0 ≤ q.num then .ok q.num.toNat else fail path message
  | _ => fail path message

/-! ## What they accept -/

@[simp] theorem requireRecord_obj {members : List (String × Json)} {path message : String} {record : Json} :
    requireRecord (some (.obj members)) path message = .ok record ↔ .obj members = record := by
  simp [requireRecord]

theorem requireRecord_eq_ok {value : Option Json} {path message : String} {record : Json} :
    requireRecord value path message = .ok record ↔ ∃ members, record = .obj members ∧ value = some record := by
  unfold requireRecord
  split
  · constructor
    · rintro ⟨⟩
      exact ⟨_, rfl, rfl⟩
    · rintro ⟨_, rfl, h⟩
      cases h
      rfl
  · rename_i hne
    simp only [fail_ne_ok, false_iff]
    rintro ⟨members, rfl, rfl⟩
    exact hne members rfl

@[simp] theorem requireString_eq_ok {record : Json} {key path s : String} :
    requireString record key path = .ok s ↔ record.get? key = some (.str s) ∧ s ≠ "" := by
  unfold requireString
  split
  · rename_i t ht
    by_cases h : t = ""
    · subst h
      simp only [if_true, fail_ne_ok, ht, Option.some.injEq, Json.str.injEq, false_iff]
      rintro ⟨rfl, h⟩
      exact h rfl
    · simp only [h, if_false, Except.ok.injEq, ht, Option.some.injEq, Json.str.injEq]
      exact ⟨fun e => ⟨e, e ▸ h⟩, fun e => e.1⟩
  · rename_i hne
    simp only [fail_ne_ok, false_iff]
    rintro ⟨h, _⟩
    exact hne s h

theorem parseName_name {all : List α} {name : α → String} (hall : ∀ a, a ∈ all := by intro a; cases a <;> decide)
    (hinj : ∀ a b, name a = name b → a = b := by intro a b; cases a <;> cases b <;> decide) {a b : α}
    {path message : String} :
    parseName all name (some (.str (name a))) path message = .ok b ↔ a = b := by
  have hfind : (all.find? fun x => name x = name a) = some a := by
    cases hf : all.find? fun x => name x = name a with
    | none =>
        have hnone := List.find?_eq_none.1 hf a (hall a)
        simp at hnone
    | some x =>
        have hname := List.find?_some hf
        simp only [decide_eq_true_eq] at hname
        rw [hinj x a hname]
  simp [parseName, Json.str?, hfind]

@[simp] theorem parseNonEmptyString_str {s t path : String} :
    parseNonEmptyString (some (.str s)) path = .ok t ↔ s = t ∧ s ≠ "" := by
  unfold parseNonEmptyString
  by_cases h : s = ""
  · simp [h]
  · simp [h]

@[simp] theorem parseNat_natCast {n m : Nat} {path message : String} :
    parseNat (some (.num n)) path message = .ok m ↔ n = m := by
  simp [parseNat]

@[simp] theorem parseNumber_num {q r : ℚ} {path message : String} :
    parseNumber message (some (.num q)) path = .ok r ↔ q = r := by
  simp [parseNumber]

/-- The items that an encoder wrote are read back, up to `Same`, when each of them is. -/
theorem parseItems_map {encode : α → Json} {parseItem : Option Json → String → CodecParse α}
    {Same : α → α → Prop} {Ok : α → Prop}
    (hitem : ∀ x path, (∃ y, parseItem (some (encode x)) path = .ok y ∧ Same y x) ↔ Ok x)
    {path : String} {index : Nat} {xs : List α} :
    (∃ ys, parseItems parseItem path index (xs.map encode) = .ok ys ∧ List.Forall₂ Same ys xs) ↔
      ∀ x ∈ xs, Ok x := by
  induction xs generalizing index with
  | nil => simp [parseItems]
  | cons x xs ih =>
      simp only [List.map_cons, parseItems, Outcome.bind_eq_ok, List.mem_cons, forall_eq_or_imp]
      rw [← hitem x s!"{path}[{index}]", ← ih]
      constructor
      · rintro ⟨_, ⟨y, hy, ys, hys, h⟩, hsame⟩
        cases h
        cases hsame with
        | cons h₁ h₂ => exact ⟨⟨y, hy, h₁⟩, ys, hys, h₂⟩
      · rintro ⟨⟨y, hy, h₁⟩, ys, hys, h₂⟩
        exact ⟨y :: ys, ⟨y, hy, ys, hys, rfl⟩, .cons h₁ h₂⟩

theorem parseArrayOf_map {encode : α → Json} {parseItem : Option Json → String → CodecParse α}
    {Same : α → α → Prop} {Ok : α → Prop}
    (hitem : ∀ x path, (∃ y, parseItem (some (encode x)) path = .ok y ∧ Same y x) ↔ Ok x)
    {message path : String} {xs : List α} :
    (∃ ys, parseArrayOf message parseItem (some (.arr (xs.map encode))) path = .ok ys ∧
      List.Forall₂ Same ys xs) ↔ ∀ x ∈ xs, Ok x :=
  parseItems_map hitem

theorem parseArrayOf_mem {encode : α → Json} {parseItem : Option Json → String → CodecParse α}
    {message path : String} {xs ys : List α}
    (h : parseArrayOf message parseItem (some (.arr (xs.map encode))) path = .ok ys) :
    ∀ y ∈ ys, ∃ x ∈ xs, ∃ itemPath, parseItem (some (encode x)) itemPath = .ok y := by
  have hitems : ∀ index ys, parseItems parseItem path index (xs.map encode) = .ok ys →
      ∀ y ∈ ys, ∃ x ∈ xs, ∃ itemPath, parseItem (some (encode x)) itemPath = .ok y := by
    clear h
    induction xs with
    | nil =>
        intro index ys h
        cases h
        simp
    | cons x xs ih =>
        intro index ys h
        simp only [List.map_cons, parseItems, Outcome.bind_eq_ok] at h
        obtain ⟨y, hy, rest, hrest, h⟩ := h
        cases h
        rw [List.forall_mem_cons]
        refine ⟨⟨x, by simp, _, hy⟩, fun z hz => ?_⟩
        obtain ⟨w, hw, hz⟩ := ih _ _ hrest z hz
        exact ⟨w, by simp [hw], hz⟩
  exact hitems 0 ys h

theorem parseArrayOf_exact {encode : α → Json} {parseItem : Option Json → String → CodecParse α}
    {Ok : α → Prop} (hitem : ∀ x y path, parseItem (some (encode x)) path = .ok y ↔ x = y ∧ Ok x)
    {message path : String} {xs ys : List α} :
    parseArrayOf message parseItem (some (.arr (xs.map encode))) path = .ok ys ↔ xs = ys ∧ ∀ x ∈ xs, Ok x := by
  have hitems : ∀ index ys, parseItems parseItem path index (xs.map encode) = .ok ys ↔
      xs = ys ∧ ∀ x ∈ xs, Ok x := by
    induction xs with
    | nil => simp [parseItems]
    | cons x xs ih =>
        intro index ys
        simp only [List.map_cons, parseItems, Outcome.bind_eq_ok, hitem, ih, List.forall_mem_cons]
        constructor
        · rintro ⟨_, ⟨rfl, hx⟩, _, ⟨rfl, hxs⟩, h⟩
          cases h
          exact ⟨rfl, hx, hxs⟩
        · rintro ⟨rfl, hx, hxs⟩
          exact ⟨x, ⟨rfl, hx⟩, xs, ⟨rfl, hxs⟩, rfl⟩
  exact hitems 0 ys

@[simp] theorem parseStringArray_map {path : String} {xs ys : List String} :
    parseStringArray (some (.arr (xs.map .str))) path = .ok ys ↔ xs = ys ∧ ∀ x ∈ xs, x ≠ "" :=
  parseArrayOf_exact fun x y path => by simp

@[simp] theorem parseOptional_eq_ok {parse : Option Json → String → CodecParse α} {value : Option Json}
    {path : String} {a : Option α} : parseOptional parse value path = .ok a ↔
      (value = none ∧ a = none) ∨ ∃ v x, value = some v ∧ parse (some v) path = .ok x ∧ a = some x := by
  cases value with
  | none => simp [parseOptional, eq_comm]
  | some v =>
      cases h : parse (some v) path with
      | error e => simp [parseOptional, h, Except.map]
      | ok x => simp [parseOptional, h, Except.map, eq_comm]

/-! ## References -/

def EvidenceKind.all : List EvidenceKind := [.policy, .approval, .observation, .receipt]

def ActorRef.toJson (ref : ActorRef) : Json :=
  .obj [("actorId", .str ref.actorId), ("kind", .str ref.kind.name)]

def parseActorRef (value : Option Json) (path : String) : CodecParse ActorRef := do
  let record ← requireRecord value path "expected actor ref object"
  let actorId ← requireString record "actorId" path
  let kind ← parseName ActorKind.all ActorKind.name (record.get? "kind") s!"{path}.kind" "invalid actor kind"
  .ok { actorId, kind }

@[simp] theorem parseActorKind_name {a b : ActorKind} {path message : String} :
    parseName ActorKind.all ActorKind.name (some (.str a.name)) path message = .ok b ↔ a = b :=
  parseName_name

@[simp] theorem parseActorRef_toJson {ref ref' : ActorRef} {path : String} :
    parseActorRef (some ref.toJson) path = .ok ref' ↔ ref = ref' ∧ ref.actorId ≠ "" := by
  obtain ⟨actorId, kind⟩ := ref
  obtain ⟨actorId', kind'⟩ := ref'
  simp [parseActorRef, ActorRef.toJson, Outcome.bind_eq_ok, Json.get?, List.lookup_cons]
  grind

def EvidenceRef.toJson (ref : EvidenceRef) : Json :=
  .obj [("evidenceId", .str ref.evidenceId), ("kind", .str ref.kind.name), ("contentRef", .str ref.contentRef)]

def parseEvidence (value : Option Json) (path : String) : CodecParse EvidenceRef := do
  let record ← requireRecord value path "expected evidence object"
  let evidenceId ← requireString record "evidenceId" path
  let kind ← parseName EvidenceKind.all EvidenceKind.name (record.get? "kind") s!"{path}.kind"
    "invalid evidence kind"
  let contentRef ← requireString record "contentRef" path
  .ok { evidenceId, kind, contentRef }

def parseEvidenceArray (value : Option Json) (path : String) : CodecParse (List EvidenceRef) :=
  parseArrayOf "expected evidence array" parseEvidence value path

@[simp] theorem parseEvidenceKind_name {a b : EvidenceKind} {path message : String} :
    parseName EvidenceKind.all EvidenceKind.name (some (.str a.name)) path message = .ok b ↔ a = b :=
  parseName_name

theorem parseEvidence_toJson {ref ref' : EvidenceRef} {path : String} :
    parseEvidence (some ref.toJson) path = .ok ref' ↔ ref = ref' ∧ ref.evidenceId ≠ "" ∧ ref.contentRef ≠ "" := by
  obtain ⟨evidenceId, kind, contentRef⟩ := ref
  obtain ⟨evidenceId', kind', contentRef'⟩ := ref'
  simp [parseEvidence, EvidenceRef.toJson, Outcome.bind_eq_ok, Json.get?, List.lookup_cons]
  grind

@[simp] theorem parseEvidenceArray_map {refs refs' : List EvidenceRef} {path : String} :
    parseEvidenceArray (some (.arr (refs.map EvidenceRef.toJson))) path = .ok refs' ↔
      refs = refs' ∧ ∀ r ∈ refs, r.evidenceId ≠ "" ∧ r.contentRef ≠ "" :=
  parseArrayOf_exact fun _ _ _ => parseEvidence_toJson

end Cantilune
