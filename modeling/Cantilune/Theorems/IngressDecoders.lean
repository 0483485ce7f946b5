import Cantilune.Base.Outcomes
import Cantilune.ControlPlane.IngressWire
import Cantilune.Lemmas.ControlPlaneCalls

/-!
# What the ingress decoders return

A decoder answers every value with a command or a violation, unless it reaches a constructor that throws: the
snapshot of a schema, or the one of a policy's rules. The shapes below say which values those two take.
-/

namespace Cantilune.IngressWire

/-! ## Answers -/

variable {α β : Type}

def Returns (P : α → Prop) : Decode α → Prop
  | .ok a => P a
  | .error (.violation _) => True
  | .error .thrown => False

variable {P : α → Prop} {x : Decode α}

theorem returns_bind {f : α → Decode β} {Q : β → Prop} :
    Returns Q (x >>= f) ↔ Returns (fun a => Returns Q (f a)) x := by
  cases x with
  | ok a => rfl
  | error failure => cases failure <;> rfl

@[simp] theorem returns_ok {a : α} : Returns P (.ok a) ↔ P a := Iff.rfl

theorem returns_map {f : α → β} {Q : β → Prop} : Returns Q (x.map f) ↔ Returns (fun a => Q (f a)) x := by
  cases x with
  | ok a => rfl
  | error failure => cases failure <;> rfl

theorem Returns.mono {Q : α → Prop} (h : Returns P x) (himp : ∀ a, P a → Q a) : Returns Q x := by
  cases x with
  | ok a => exact himp a h
  | error failure =>
      cases failure with
      | violation v => trivial
      | thrown => exact h.elim

theorem Returns.and {Q : α → Prop} (h : Returns P x) (h' : Returns Q x) : Returns (fun a => P a ∧ Q a) x := by
  cases x with
  | ok a => exact ⟨h, h'⟩
  | error failure =>
      cases failure with
      | violation v => trivial
      | thrown => exact h.elim

@[simp] theorem returns_orThrow {value : Option α} : Returns P (orThrow value) ↔ ∃ a, value = some a ∧ P a := by
  cases value with
  | none => simp [orThrow, Returns]
  | some a => simp [orThrow]

/-! ## What the checks pass -/

def NonEmptyText (value : Option Json) : Prop := ∃ text, value = some (.str text) ∧ text ≠ ""

def Known (record : List (String × Json)) (allowed : List String) : Prop := ∀ member ∈ record, member.1 ∈ allowed

variable {record : List (String × Json)} {key path : String}

@[simp] theorem returns_requireObject {value : Option Json} {P : List (String × Json) → Prop} :
    Returns P (requireObject value path) ↔ ∀ members, value = some (.obj members) → P members := by
  unfold requireObject
  split
  · rename_i members
    exact ⟨fun h members' heq => by cases heq; exact h, fun h => h members rfl⟩
  · rename_i hne
    exact ⟨fun _ members heq => absurd heq (hne members), fun _ => trivial⟩

@[simp] theorem returns_rejectUnknownKeys {allowed : List String} {P : Unit → Prop} :
    Returns P (rejectUnknownKeys record allowed path) ↔ (Known record allowed → P ()) := by
  unfold rejectUnknownKeys
  split
  · rename_i k v hfind
    have hnot : k ∉ allowed := by simpa using List.find?_some hfind
    exact ⟨fun _ hknown => absurd (hknown _ (List.mem_of_find?_eq_some hfind)) hnot, fun _ => trivial⟩
  · rename_i hnone
    have hknown : Known record allowed := fun member hmem => by simpa using List.find?_eq_none.1 hnone member hmem
    exact ⟨fun h _ => h, fun h => h hknown⟩

@[simp] theorem returns_requireString {P : String → Prop} :
    Returns P (requireString record key path) ↔
      ∀ text, record.lookup key = some (.str text) → text ≠ "" → P text := by
  unfold requireString
  split
  · rename_i text hlookup
    by_cases hempty : text = ""
    · rw [if_pos hempty]
      exact ⟨fun _ text' heq hne => by rw [hlookup] at heq; cases heq; exact absurd hempty hne, fun _ => trivial⟩
    · rw [if_neg hempty]
      exact ⟨fun h text' heq _ => by rw [hlookup] at heq; cases heq; exact h, fun h => h text hlookup hempty⟩
  · rename_i hne
    exact ⟨fun _ text heq => absurd heq (hne text), fun _ => trivial⟩

@[simp] theorem returns_requireNumber {P : ℚ → Prop} :
    Returns P (requireNumber record key path) ↔ ∀ q, record.lookup key = some (.num q) → P q := by
  unfold requireNumber
  split
  · rename_i q hlookup
    exact ⟨fun h q' heq => by rw [hlookup] at heq; cases heq; exact h, fun h => h q hlookup⟩
  · rename_i hne
    exact ⟨fun _ q heq => absurd heq (hne q), fun _ => trivial⟩

/-- A reference with its three texts and nothing else. -/
def IsSchemaRef (value : Json) : Prop :=
  ∃ members, value = .obj members ∧ Known members ["schemaId", "revisionId", "digest"] ∧
    NonEmptyText (members.lookup "schemaId") ∧ NonEmptyText (members.lookup "revisionId") ∧
    NonEmptyText (members.lookup "digest")

/-- None of the texts of a reference is empty. -/
def Named (ref : SchemaRef) : Prop := ref.schemaId ≠ "" ∧ ref.revisionId ≠ "" ∧ ref.digest ≠ ""

theorem returns_parseSchemaRef {value : Option Json} : Returns Named (parseSchemaRef value path) := by
  simp only [parseSchemaRef, returns_bind, returns_requireObject, returns_rejectUnknownKeys, returns_requireString,
    returns_ok]
  intro members _ _ schemaId _ hschema revisionId _ hrevision digest _ hdigest
  exact ⟨hschema, hrevision, hdigest⟩

theorem returns_parseSchemaRef_iff {value : Json} {R : Prop} :
    Returns (fun _ => R) (parseSchemaRef (some value) path) ↔ (IsSchemaRef value → R) := by
  simp only [parseSchemaRef, returns_bind, returns_requireObject, returns_rejectUnknownKeys, returns_requireString,
    returns_ok]
  constructor
  · rintro h ⟨members, rfl, hknown, ⟨s, hs, hs'⟩, ⟨r, hr, hr'⟩, ⟨d, hd, hd'⟩⟩
    exact h members rfl hknown s hs hs' r hr hr' d hd hd'
  · intro h members hvalue hknown s hs hs' r hr hr' d hd hd'
    cases hvalue
    exact h ⟨members, rfl, hknown, ⟨s, hs, hs'⟩, ⟨r, hr, hr'⟩, ⟨d, hd, hd'⟩⟩

theorem returns_parseSchemaRefs {index : Nat} {values : List Json} :
    Returns (fun refs => ∀ ref ∈ refs, Named ref) (parseSchemaRefs path index values) := by
  induction values generalizing index with
  | nil => simp [parseSchemaRefs]
  | cons value values ih =>
      rw [parseSchemaRefs, returns_bind]
      refine returns_parseSchemaRef.mono fun ref href => ?_
      rw [returns_bind]
      refine ih.mono fun refs hrefs => ?_
      exact List.forall_mem_cons.2 ⟨href, hrefs⟩

theorem returns_parseSchemaRefs_iff {index : Nat} {values : List Json} {R : Prop} :
    Returns (fun _ => R) (parseSchemaRefs path index values) ↔ ((∀ value ∈ values, IsSchemaRef value) → R) := by
  induction values generalizing index with
  | nil => simp [parseSchemaRefs]
  | cons value values ih =>
      simp only [parseSchemaRefs, returns_bind, returns_ok, ih, returns_parseSchemaRef_iff, List.forall_mem_cons,
        and_imp]

theorem returns_references {index : Nat} {values : List Json} :
    Returns (fun refs => (∀ ref ∈ refs, Named ref) ∧ ∀ value ∈ values, IsSchemaRef value)
      (parseSchemaRefs path index values) :=
  returns_parseSchemaRefs.and (returns_parseSchemaRefs_iff.2 fun hvalid => hvalid)

/-! ## Schemas that have a snapshot -/

def IsReadable (value : Option Json) : Prop := value ≠ none ∧ value ≠ some .null

def IsArrayOf (Q : Json → Prop) (value : Option Json) : Prop :=
  ∃ values, value = some (.arr values) ∧ ∀ v ∈ values, Q v

def IsSpreadable (value : Option Json) : Prop :=
  (∃ values, value = some (.arr values)) ∨ ∃ text, value = some (.str text)

def AreConditions (value : Option Json) : Prop := IsArrayOf (· ≠ .null) value

def IsPortContract (value : Option Json) : Prop :=
  ∃ contract, value = some contract ∧ IsArrayOf (fun _ => True) (contract.get? "inputs") ∧
    IsArrayOf (fun _ => True) (contract.get? "outputs") ∧ AreConditions (contract.get? "requires") ∧
    AreConditions (contract.get? "ensures")

def IsTemplate (template : Json) : Prop :=
  IsSpreadable (template.get? "requiredRoles") ∧ AreConditions (template.get? "requires") ∧
    AreConditions (template.get? "ensures")

def IsOperationType (value : Option Json) : Prop :=
  ∃ declaration, value = some declaration ∧ IsPortContract (declaration.get? "portContract") ∧
    IsSpreadable (declaration.get? "requiredRoles")

def IsEntry : Json → Prop
  | .arr _ | .obj _ => True
  | _ => False

def entryKey : Json → Option Json
  | .arr values => values[0]?
  | .obj members => members.lookup "0"
  | _ => none

def entryDeclaration : Json → Option Json
  | .arr values => values[1]?
  | .obj members => members.lookup "1"
  | _ => none

def SameKey (entry other : Json) : Prop :=
  entryKey entry = entryKey other ∧
    (∀ values, entryKey entry ≠ some (.arr values)) ∧ ∀ members, entryKey entry ≠ some (.obj members)

def AreDeclarations (Q : Option Json → Prop) (value : Option Json) : Prop :=
  value = none ∨ value = some .null ∨ value = some (.str "") ∨
    ∃ entries, value = some (.arr entries) ∧ (∀ entry ∈ entries, IsEntry entry) ∧
      ∀ before entry after, entries = before ++ entry :: after → (∀ other ∈ after, ¬ SameKey entry other) →
        Q (entryDeclaration entry)

structure IsSchema (wire : List (String × Json)) : Prop where
  wireVersion : ∀ value, wire.lookup "wireVersion" = some value → hidesText value = false
  objectTypes : AreDeclarations IsReadable (wire.lookup "objectTypes")
  operationTypes : AreDeclarations IsOperationType (wire.lookup "operationTypes")
  templates : IsArrayOf IsTemplate (wire.lookup "templates")
  resourceRules : IsArrayOf (· ≠ .null) (wire.lookup "resourceRules")

/-! ### Arrays and conditions -/

theorem isSome_readable_bind {value : Option Json} {f : Json → Option α} :
    (readable value >>= f).isSome = true ↔ ∃ v, value = some v ∧ v ≠ .null ∧ (f v).isSome = true := by
  rcases value with _ | v
  · simp [readable]
  · cases v <;> simp [readable]

@[simp] theorem not_isArrayOf_none {Q : Json → Prop} : ¬ IsArrayOf Q none := fun ⟨_, h, _⟩ => nomatch h

@[simp] theorem not_isSpreadable_none : ¬ IsSpreadable none := by
  simp [IsSpreadable]

@[simp] theorem get?_null {k : String} : Json.null.get? k = none := rfl

theorem isSome_mapArray {f : Json → Option α} {value : Option Json} :
    (mapArray f value).isSome = true ↔ IsArrayOf (fun v => (f v).isSome = true) value := by
  unfold mapArray IsArrayOf
  split
  · simp [Outcome.isSome_mapM]
  · rename_i hne
    simp only [Option.isSome_none, Bool.false_eq_true, false_iff, not_exists, not_and]
    exact fun values heq => absurd heq (hne values)

theorem IsArrayOf.congr {Q R : Json → Prop} (h : ∀ v, Q v ↔ R v) {value : Option Json} :
    IsArrayOf Q value ↔ IsArrayOf R value := by
  simp [IsArrayOf, h]

theorem isSome_spreadArray {value : Option Json} : (spreadArray value).isSome = true ↔ IsSpreadable value := by
  unfold spreadArray IsSpreadable
  split
  · simp
  · simp
  · rename_i hvalues htext
    simp only [Option.isSome_none, Bool.false_eq_true, false_iff, not_or, not_exists]
    exact ⟨hvalues, htext⟩

theorem isSome_snapshotCondition {condition : Json} :
    (snapshotCondition condition).isSome = true ↔ condition ≠ .null := by
  cases condition <;> simp [snapshotCondition, readable]

theorem isSome_conditions {value : Option Json} :
    (mapArray snapshotCondition value).isSome = true ↔ AreConditions value :=
  isSome_mapArray.trans (IsArrayOf.congr fun _ => isSome_snapshotCondition)

theorem isSome_bind_iff {x : Option α} {f : α → Option β} {R : Prop} (h : ∀ a, (f a).isSome = true ↔ R) :
    (x >>= f).isSome = true ↔ x.isSome = true ∧ R := by
  cases x with
  | none => simp
  | some a => simp [h a]

theorem isSome_snapshotPortContract {value : Option Json} :
    (snapshotPortContract value).isSome = true ↔ IsPortContract value := by
  rw [snapshotPortContract, isSome_readable_bind]
  refine exists_congr fun contract => and_congr_right fun _ => ?_
  rw [isSome_bind_iff fun _ => isSome_bind_iff fun _ => isSome_bind_iff fun _ => isSome_bind_iff fun _ => by
    rw [Option.isSome_some]]
  rw [isSome_mapArray, isSome_mapArray, isSome_conditions, isSome_conditions]
  by_cases hnull : contract = .null
  · subst hnull
    simp
  · simp [hnull]

theorem isSome_snapshotTemplate {template : Json} :
    (snapshotTemplate template).isSome = true ↔ IsTemplate template := by
  rw [snapshotTemplate, isSome_readable_bind, IsTemplate]
  simp only [Option.some.injEq, exists_eq_left']
  rw [isSome_bind_iff fun _ => isSome_bind_iff fun _ => isSome_bind_iff fun _ => by rw [Option.isSome_some]]
  rw [isSome_spreadArray, isSome_conditions, isSome_conditions]
  by_cases hnull : template = .null
  · subst hnull
    simp
  · simp [hnull]

theorem isSome_snapshotObjectType {value : Option Json} :
    (snapshotObjectType value).isSome = true ↔ IsReadable value := by
  rw [snapshotObjectType, isSome_readable_bind, IsReadable]
  cases value with
  | none => simp
  | some declaration => simp

theorem isSome_snapshotOperationType {value : Option Json} :
    (snapshotOperationType value).isSome = true ↔ IsOperationType value := by
  rw [snapshotOperationType, isSome_readable_bind]
  refine exists_congr fun declaration => and_congr_right fun _ => ?_
  rw [isSome_bind_iff fun _ => isSome_bind_iff fun _ => by rw [Option.isSome_some]]
  rw [isSome_snapshotPortContract, isSome_spreadArray]
  by_cases hnull : declaration = .null
  · subst hnull
    simp
  · simp [hnull]

theorem isSome_snapshotResourceRule {rule : Json} :
    (snapshotResourceRule rule).isSome = true ↔ rule ≠ .null := by
  rw [snapshotResourceRule, isSome_readable_bind]
  simp

/-! ### Maps of declarations -/

def entryAt (x : Json × Nat) : MapKey × Option Json := (mapKey x.2 (entryKey x.1), entryDeclaration x.1)

theorem mapEntry_eq_some {position : Nat} {entry : Json} {e : MapKey × Option Json} :
    mapEntry position entry = some e ↔ IsEntry entry ∧ e = entryAt (entry, position) := by
  cases entry <;> simp [mapEntry, IsEntry, entryAt, entryKey, entryDeclaration, eq_comm]

theorem mapEntries_eq_some {position : Nat} {entries : List Json} {es : List (MapKey × Option Json)} :
    mapEntries position entries = some es ↔
      (∀ entry ∈ entries, IsEntry entry) ∧ es = (entries.zipIdx position).map entryAt := by
  induction entries generalizing position es with
  | nil => simp [mapEntries, eq_comm]
  | cons entry entries ih =>
      simp only [mapEntries, Option.bind_eq_bind, Option.bind_eq_some_iff, mapEntry_eq_some, ih, List.forall_mem_cons,
        List.zipIdx_cons, List.map_cons, Option.some.injEq]
      constructor
      · rintro ⟨e, ⟨hentry, rfl⟩, es', ⟨hentries, rfl⟩, rfl⟩
        exact ⟨⟨hentry, hentries⟩, rfl⟩
      · rintro ⟨⟨hentry, hentries⟩, rfl⟩
        exact ⟨_, ⟨hentry, rfl⟩, _, ⟨hentries, rfl⟩, rfl⟩

theorem mapKey_eq_iff {entry other : Json} {position later : Nat} (hlt : position < later) :
    mapKey later (entryKey other) = mapKey position (entryKey entry) ↔ SameKey entry other := by
  unfold SameKey
  generalize entryKey entry = k
  generalize entryKey other = l
  rcases k with _ | k <;> rcases l with _ | l
  · simp [mapKey]
  · cases l <;> simp [mapKey]
  · cases k <;> simp [mapKey]
  · cases k <;> cases l <;> simp [mapKey, hlt.ne, eq_comm]

theorem forall_later_iff {entry : Json} {after : List Json} {position later : Nat} (hlt : position < later) :
    (∀ e ∈ (after.zipIdx later).map entryAt, e.1 ≠ mapKey position (entryKey entry)) ↔
      ∀ other ∈ after, ¬ SameKey entry other := by
  induction after generalizing later with
  | nil => simp
  | cons other after ih =>
      have hlater := ih (hlt.trans (Nat.lt_succ_self _))
      rw [List.zipIdx_cons, List.map_cons, List.forall_mem_cons, List.forall_mem_cons, hlater]
      exact and_congr_left fun _ => not_congr (mapKey_eq_iff hlt)

theorem get?_ofEntries_iff {entries : List Json} {k : MapKey} {v : Option Json} :
    (OrdMap.ofList ((entries.zipIdx 0).map entryAt)).get? k = some v ↔
      ∃ before entry after, entries = before ++ entry :: after ∧ (∀ other ∈ after, ¬ SameKey entry other) ∧
        entryAt (entry, before.length) = (k, v) := by
  rw [OrdMap.get?_ofList_iff]
  constructor
  · rintro ⟨before, after, hsplit, hafter⟩
    obtain ⟨bs, es, hzip, rfl, hes⟩ := List.map_eq_append_iff.1 hsplit
    obtain ⟨e, rest, rfl, he, rfl⟩ := List.map_eq_cons_iff.1 hes
    obtain ⟨front, back, rfl, rfl, hback⟩ := List.zipIdx_eq_append_iff.1 hzip
    obtain ⟨entry, tail, rfl, rfl, rfl⟩ := List.zipIdx_eq_cons_iff.1 hback.symm
    rw [Nat.zero_add] at he hafter
    have hkey : mapKey front.length (entryKey entry) = k := congrArg Prod.fst he
    subst hkey
    exact ⟨front, entry, tail, rfl, (forall_later_iff (Nat.lt_succ_self _)).1 hafter, he⟩
  · rintro ⟨before, entry, after, rfl, hafter, he⟩
    have hkey : mapKey before.length (entryKey entry) = k := congrArg Prod.fst he
    subst hkey
    refine ⟨(before.zipIdx 0).map entryAt, (after.zipIdx (before.length + 1)).map entryAt, ?_,
      (forall_later_iff (Nat.lt_succ_self _)).2 hafter⟩
    rw [List.zipIdx_append, List.map_append, List.zipIdx_cons, List.map_cons, Nat.zero_add, he]

theorem isSome_snapshotMap {f : Option Json → Option α} {m : OrdMap MapKey (Option Json)} :
    (snapshotMap f m).isSome = true ↔ ∀ k v, m.get? k = some v → (f v).isSome = true := by
  rw [snapshotMap, Option.isSome_map, Outcome.isSome_mapM]
  simp only [Option.isSome_map]
  exact ⟨fun h k v hget => h (k, v) (OrdMap.mem_entries.2 hget), fun h e he => h e.1 e.2 (OrdMap.mem_entries.1 he)⟩

theorem isSome_declarations {f : Option Json → Option α} {Q : Option Json → Prop}
    (hf : ∀ v, (f v).isSome = true ↔ Q v) {value : Option Json} :
    (newMap value >>= snapshotMap f).isSome = true ↔ AreDeclarations Q value := by
  have hempty : (snapshotMap f .empty).isSome = true := by
    rw [isSome_snapshotMap]
    intro k v h
    cases h
  unfold newMap AreDeclarations
  split
  · simp [hempty]
  · simp [hempty]
  · rename_i text
    by_cases htext : text = ""
    · simp [htext, hempty]
    · simp [htext]
  · rename_i entries
    simp only [reduceCtorEq, Option.some.injEq, Json.arr.injEq, false_or, exists_eq_left']
    rcases hes : mapEntries 0 entries with _ | es
    · simp only [Option.map_none, Option.bind_eq_bind, Option.bind_none, Option.isSome_none, Bool.false_eq_true,
        false_iff, not_and]
      intro hentries
      have hsome : mapEntries 0 entries = some ((entries.zipIdx 0).map entryAt) :=
        mapEntries_eq_some.2 ⟨hentries, rfl⟩
      rw [hes] at hsome
      cases hsome
    · obtain ⟨hentries, rfl⟩ := mapEntries_eq_some.1 hes
      rw [Option.map_some, Option.bind_eq_bind, Option.bind_some, isSome_snapshotMap]
      simp only [get?_ofEntries_iff, hf]
      constructor
      · intro h
        refine ⟨hentries, fun before entry after hsplit hafter => ?_⟩
        exact h _ _ ⟨before, entry, after, hsplit, hafter, rfl⟩
      · rintro ⟨-, h⟩ k v ⟨before, entry, after, hsplit, hafter, he⟩
        have hdeclaration : entryDeclaration entry = v := congrArg Prod.snd he
        exact hdeclaration ▸ h before entry after hsplit hafter
  · rename_i hnone hnull htext hentries
    constructor
    · intro h
      cases h
    · rintro (h | h | h | ⟨entries, h, -⟩)
      · exact absurd h hnone
      · exact absurd h hnull
      · exact absurd h (htext "")
      · exact absurd h (hentries entries)

theorem isSome_number {value : Option Json} :
    (number value).isSome = true ↔ ∀ v, value = some v → hidesText v = false := by
  cases value with
  | none => simp [number]
  | some v => cases h : hidesText v <;> simp [number, h]

theorem isSome_decodeOrchestrationSchema {wire : List (String × Json)} :
    (decodeOrchestrationSchema wire).isSome = true ↔ IsSchema wire := by
  rw [Option.isSome_iff_exists]
  simp only [decodeOrchestrationSchema, Option.bind_eq_bind, Option.bind_eq_some_iff]
  constructor
  · rintro ⟨schema, wireVersion, hversion, objects, hobjects, operations, hoperations, objectTypes, hobjectTypes,
      operationTypes, hoperationTypes, templates, htemplates, rules, hrules, -⟩
    have hobjectTypes' : (newMap (wire.lookup "objectTypes") >>= snapshotMap snapshotObjectType).isSome = true := by
      rw [hobjects, Option.bind_eq_bind, Option.bind_some, hobjectTypes, Option.isSome_some]
    have hoperationTypes' :
        (newMap (wire.lookup "operationTypes") >>= snapshotMap snapshotOperationType).isSome = true := by
      rw [hoperations, Option.bind_eq_bind, Option.bind_some, hoperationTypes, Option.isSome_some]
    exact
      { wireVersion := isSome_number.1 (Option.isSome_of_eq_some hversion)
        objectTypes := (isSome_declarations fun _ => isSome_snapshotObjectType).1 hobjectTypes'
        operationTypes := (isSome_declarations fun _ => isSome_snapshotOperationType).1 hoperationTypes'
        templates := (isSome_mapArray.trans (IsArrayOf.congr fun _ => isSome_snapshotTemplate)).1
          (Option.isSome_of_eq_some htemplates)
        resourceRules := (isSome_mapArray.trans (IsArrayOf.congr fun _ => isSome_snapshotResourceRule)).1
          (Option.isSome_of_eq_some hrules) }
  · rintro ⟨hversion, hobjects, hoperations, htemplates, hrules⟩
    obtain ⟨wireVersion, hversion⟩ := Option.isSome_iff_exists.1 (isSome_number.2 hversion)
    obtain ⟨objectTypes, hobjects⟩ := Option.isSome_iff_exists.1
      ((isSome_declarations fun _ => isSome_snapshotObjectType).2 hobjects)
    obtain ⟨operationTypes, hoperations⟩ := Option.isSome_iff_exists.1
      ((isSome_declarations fun _ => isSome_snapshotOperationType).2 hoperations)
    obtain ⟨templates, htemplates⟩ := Option.isSome_iff_exists.1
      ((isSome_mapArray.trans (IsArrayOf.congr fun _ => isSome_snapshotTemplate)).2 htemplates)
    obtain ⟨rules, hrules⟩ := Option.isSome_iff_exists.1
      ((isSome_mapArray.trans (IsArrayOf.congr fun _ => isSome_snapshotResourceRule)).2 hrules)
    obtain ⟨objects, hobjects, hobjectTypes⟩ := Option.bind_eq_some_iff.1 hobjects
    obtain ⟨operations, hoperations, hoperationTypes⟩ := Option.bind_eq_some_iff.1 hoperations
    exact ⟨_, wireVersion, hversion, objects, hobjects, operations, hoperations, objectTypes, hobjectTypes,
      operationTypes, hoperationTypes, templates, htemplates, rules, hrules, rfl⟩

/-! ## Rules that have a snapshot -/

def IsOptionalText (value : Option Json) : Prop := value = none ∨ ∃ text, value = some (.str text)

def IsPolicyRule (rule : Json) : Prop :=
  ∃ members, rule = .obj members ∧ NonEmptyText (members.lookup "ruleId") ∧
    IsOptionalText (members.lookup "principalRole") ∧ IsOptionalText (members.lookup "operationTypeId") ∧
    IsOptionalText (members.lookup "templateRevision") ∧
    (members.lookup "decision" = some (.str "allow") ∨ members.lookup "decision" = some (.str "deny"))

theorem isSome_optionalText {value : Option Json} : (optionalText value).isSome = true ↔ IsOptionalText value := by
  unfold optionalText IsOptionalText
  split
  · simp
  · simp
  · rename_i v hne
    simp only [Option.isSome_none, Bool.false_eq_true, reduceCtorEq, Option.some.injEq, false_or, false_iff,
      not_exists]
    exact fun text heq => hne text heq

theorem isSome_policyDecision {value : Option Json} :
    (policyDecision value).isSome = true ↔ value = some (.str "allow") ∨ value = some (.str "deny") := by
  unfold policyDecision
  split
  · rename_i text
    rw [List.find?_isSome]
    constructor
    · rintro ⟨decision, -, hname⟩
      rw [← of_decide_eq_true hname]
      cases decision with
      | allow => exact .inl rfl
      | deny => exact .inr rfl
    · rintro (h | h) <;> cases h
      · exact ⟨.allow, by simp, by simp [PolicyRuleDecision.name]⟩
      · exact ⟨.deny, by simp, by simp [PolicyRuleDecision.name]⟩
  · rename_i hne
    constructor
    · intro h
      cases h
    · rintro (h | h)
      · exact absurd h (hne _)
      · exact absurd h (hne _)

theorem isSome_ruleId {value : Option Json} :
    ((value.bind Json.str?).filter (· ≠ "")).isSome = true ↔ NonEmptyText value := by
  rcases value with _ | v
  · simp [NonEmptyText]
  · cases v <;> simp [NonEmptyText, Json.str?]

theorem isSome_snapshotPolicyRule {rule : Json} : (snapshotPolicyRule rule).isSome = true ↔ IsPolicyRule rule := by
  cases rule with
  | obj members =>
      rw [snapshotPolicyRule]
      rw [isSome_bind_iff fun _ => isSome_bind_iff fun _ => isSome_bind_iff fun _ => isSome_bind_iff fun _ =>
        isSome_bind_iff fun _ => by rw [Option.isSome_some]]
      rw [isSome_ruleId, isSome_optionalText, isSome_optionalText, isSome_optionalText, isSome_policyDecision]
      simp [IsPolicyRule]
  | _ => simp [snapshotPolicyRule, IsPolicyRule]

theorem snapshotPolicyRule_ruleId {rule : Json} {snapshot : PolicyRule}
    (h : snapshotPolicyRule rule = some snapshot) : snapshot.ruleId ≠ "" := by
  unfold snapshotPolicyRule at h
  split at h
  · simp only [Option.bind_eq_bind, Option.bind_eq_some_iff, Option.filter_eq_some_iff] at h
    obtain ⟨ruleId, ⟨-, hne⟩, _, -, _, -, _, -, _, -, h⟩ := h
    cases h
    simpa using hne
  · cases h

/-! ## What a decoded command satisfies -/

structure SchemaAdmissionRequest.WellFormed (request : SchemaAdmissionRequest) : Prop where
  admissionId : request.admissionId ≠ ""
  activationDomainId : request.activationDomainId ≠ ""
  expectedSchemaRef : Named request.expectedSchemaRef
  expectedEpochId : request.expectedEpochId ≠ ""
  expectedRuntimeHead : request.expectedRuntimeHead ≠ ""
  candidateSchemaRef : Named request.candidateSchemaRef
  requestedBy : request.requestedBy ≠ ""
  requestedAt : request.requestedAt ≠ ""
  idempotencyKey : request.idempotencyKey ≠ ""

/-- A revision passes the snapshot of its kind unchanged, is referred to by its own digest and names every schema
that it is compatible with. -/
structure PolicyWellFormed (policy : PolicyRevision) : Prop where
  snapshot : snapshotPolicyRevision policy = some policy
  digest : policy.policyRef.digest = policy.canonicalDigest
  policyId : policy.policyRef.policyId ≠ ""
  revisionId : policy.policyRef.revisionId ≠ ""
  compatibleSchemaRefs : ∀ ref ∈ policy.compatibleSchemaRefs, Named ref
  createdBy : policy.createdBy ≠ ""
  createdAt : policy.createdAt ≠ ""

/-- The maps of a schema have distinct keys by their type. -/
def IngressCommand.WellFormed : IngressCommand → Prop
  | .submitSchemaAdmission command => command.request.WellFormed
  | .approveSchemaAdmission command => command.admissionId ≠ ""
  | .registerSchemaRevision command =>
      command.revisionId ≠ "" ∧ command.createdAt ≠ "" ∧ ∀ ref ∈ command.parentRef, Named ref
  | .activatePolicyRevision command =>
      PolicyWellFormed command.policyRevision ∧ command.activationDomainId ≠ "" ∧ command.activatedAt ≠ ""

variable {hashes : ContentHashes} {context : AdministrationContext} {wire : Json}

theorem returns_decodeSubmit :
    Returns (fun command => command.request.WellFormed) (decodeSubmitSchemaAdmissionWire wire context) := by
  simp only [decodeSubmitSchemaAdmissionWire, returns_bind, returns_requireObject, returns_rejectUnknownKeys,
    returns_requireString, returns_requireNumber, returns_ok]
  intro root _ _ admissionId _ hadmission domainId _ hdomain generation _
  refine returns_parseSchemaRef.mono fun expectedSchemaRef hexpected => ?_
  intro epochId _ hepoch ordinal _ head _ hhead
  refine returns_parseSchemaRef.mono fun candidateSchemaRef hcandidate => ?_
  intro requestedBy _ hby requestedAt _ hat key _ hkey
  exact ⟨hadmission, hdomain, hexpected, hepoch, hhead, hcandidate, hby, hat, hkey⟩

theorem returns_decodeApprove :
    Returns (fun command => command.admissionId ≠ "") (decodeApproveSchemaAdmissionWire wire context) := by
  simp only [decodeApproveSchemaAdmissionWire, returns_bind, returns_requireObject, returns_rejectUnknownKeys,
    returns_requireString, returns_ok]
  intro root _ _ admissionId _ hadmission
  exact hadmission

/-! ### Registrations -/

def SchemaReached (wire : Json) (schema : List (String × Json)) : Prop :=
  ∃ root, wire = .obj root ∧ Known root registerKeys ∧ root.lookup "schema" = some (.obj schema) ∧
    Known schema schemaKeys ∧ NonEmptyText (root.lookup "revisionId") ∧ NonEmptyText (root.lookup "createdAt")

theorem returns_parseParentRef {value : Option Json} :
    Returns (fun parentRef => ∀ ref ∈ parentRef, Named ref) (parseParentRef value) := by
  cases value with
  | none => simp [parseParentRef]
  | some value =>
      rw [parseParentRef, returns_map]
      refine returns_parseSchemaRef.mono fun ref href => ?_
      rintro _ ⟨⟩
      exact href

theorem returns_registered {schema : List (String × Json)} {value : Option Json} {revisionId : String}
    {createdAt : Timestamp} (hrevision : revisionId ≠ "") (hcreated : createdAt ≠ "") :
    Returns (fun schema => Returns (fun parentRef =>
        (IngressCommand.registerSchemaRevision { context, schema, revisionId, parentRef, createdAt }).WellFormed)
          (parseParentRef value)) (orThrow (decodeOrchestrationSchema schema)) ↔ IsSchema schema := by
  rw [returns_orThrow, ← isSome_decodeOrchestrationSchema, Option.isSome_iff_exists]
  refine exists_congr fun decoded => ⟨fun h => h.1, fun h => ⟨h, ?_⟩⟩
  exact returns_parseParentRef.mono fun parentRef hparent => ⟨hrevision, hcreated, hparent⟩

theorem returns_decodeRegister_iff :
    Returns (fun command => (IngressCommand.registerSchemaRevision command).WellFormed)
        (decodeRegisterSchemaRevisionWire wire context) ↔
      ∀ schema, SchemaReached wire schema → IsSchema schema := by
  simp only [decodeRegisterSchemaRevisionWire, returns_bind, returns_requireObject, returns_rejectUnknownKeys,
    returns_requireString, returns_ok, Option.some.injEq]
  constructor
  · rintro h schema ⟨root, rfl, hroot, hschema, hkeys, ⟨revisionId, hr, hr'⟩, createdAt, hc, hc'⟩
    exact (returns_registered hr' hc').1 (h root rfl hroot schema hschema hkeys revisionId hr hr' createdAt hc hc')
  · rintro h root rfl hroot schema hschema hkeys revisionId hr hr' createdAt hc hc'
    exact (returns_registered hr' hc').2
      (h schema ⟨root, rfl, hroot, hschema, hkeys, ⟨revisionId, hr, hr'⟩, createdAt, hc, hc'⟩)

/-! ### Activations -/

def RulesReached (wire : Json) (rules : List Json) : Prop :=
  ∃ root refs, wire = .obj root ∧ Known root activatePolicyKeys ∧ NonEmptyText (root.lookup "policyId") ∧
    NonEmptyText (root.lookup "revisionId") ∧ NonEmptyText (root.lookup "activationDomainId") ∧
    (∃ q, root.lookup "expectedBindingGeneration" = some (.num q)) ∧ NonEmptyText (root.lookup "createdBy") ∧
    NonEmptyText (root.lookup "createdAt") ∧ NonEmptyText (root.lookup "activatedAt") ∧
    root.lookup "compatibleSchemaRefs" = some (.arr refs) ∧ root.lookup "rules" = some (.arr rules) ∧
    ∀ ref ∈ refs, IsSchemaRef ref

theorem returns_requireArrays {refs rules : Option Json} {P : List Json × List Json → Prop} :
    Returns P (requireArrays refs rules) ↔ ∀ x y, refs = some (.arr x) → rules = some (.arr y) → P (x, y) := by
  unfold requireArrays
  split
  · rename_i x y
    exact ⟨fun h x' y' hx hy => by cases hx; cases hy; exact h, fun h => h x y rfl rfl⟩
  · rename_i hne
    exact ⟨fun _ x y hx hy => absurd hy (hne x y hx), fun _ => trivial⟩

theorem createPolicyRevision_isSome {policyId revisionId : String} {refs : List SchemaRef} {rules : List Json}
    {createdBy : String} {createdAt : Timestamp} :
    (createPolicyRevision hashes policyId revisionId refs rules createdBy createdAt).isSome = true ↔
      ∀ rule ∈ rules, IsPolicyRule rule := by
  rw [createPolicyRevision, isSome_bind_iff fun _ => by rw [Option.isSome_some], Outcome.isSome_mapM]
  simp [isSome_snapshotPolicyRule]

theorem snapshotPolicyRevision_of_created {policyId revisionId : String} {refs : List SchemaRef} {rules : List Json}
    {createdBy : String} {createdAt : Timestamp} {policy : PolicyRevision}
    (h : createPolicyRevision hashes policyId revisionId refs rules createdBy createdAt = some policy) :
    snapshotPolicyRevision policy = some policy := by
  obtain ⟨snapshots, hsnapshots, h⟩ := Option.bind_eq_some_iff.1 h
  cases h
  have hids : snapshots.all (fun rule => rule.ruleId ≠ "") = true := by
    refine List.all_eq_true.2 fun snapshot hmem => decide_eq_true ?_
    obtain ⟨rule, -, hrule⟩ := Outcome.exists_of_mem_mapM hsnapshots hmem
    exact snapshotPolicyRule_ruleId hrule
  exact if_pos hids

theorem createPolicyRevision_wellFormed {policyId revisionId : String} {refs : List SchemaRef} {rules : List Json}
    {createdBy : String} {createdAt : Timestamp} {policy : PolicyRevision}
    (h : createPolicyRevision hashes policyId revisionId refs rules createdBy createdAt = some policy)
    (hpolicy : policyId ≠ "") (hrevision : revisionId ≠ "") (hrefs : ∀ ref ∈ refs, Named ref)
    (hby : createdBy ≠ "") (hat : createdAt ≠ "") : PolicyWellFormed policy := by
  have hsnapshot := snapshotPolicyRevision_of_created h
  obtain ⟨snapshots, -, h⟩ := Option.bind_eq_some_iff.1 h
  cases h
  exact ⟨hsnapshot, rfl, hpolicy, hrevision, hrefs, hby, hat⟩

theorem returns_decodeActivate_iff :
    Returns (fun command => (IngressCommand.activatePolicyRevision command).WellFormed)
        (decodeActivatePolicyRevisionWire hashes wire context) ↔
      ∀ rules, RulesReached wire rules → ∀ rule ∈ rules, IsPolicyRule rule := by
  simp only [decodeActivatePolicyRevisionWire, returns_bind, returns_requireObject, returns_rejectUnknownKeys,
    returns_requireString, returns_requireNumber, returns_requireArrays, returns_ok, Option.some.injEq]
  constructor
  · rintro h rules ⟨root, refs, rfl, hroot, ⟨policyId, hp, hp'⟩, ⟨revisionId, hr, hr'⟩, ⟨domainId, hd, hd'⟩,
      ⟨q, hq⟩, ⟨createdBy, hb, hb'⟩, ⟨createdAt, hc, hc'⟩, ⟨activatedAt, ha, ha'⟩, hrefs, hrules, hvalid⟩
    have hreturns := h root rfl hroot policyId hp hp' revisionId hr hr' domainId hd hd' q hq createdBy hb hb'
      createdAt hc hc' activatedAt ha ha' refs rules hrefs hrules
    have hcreated : Returns (fun _ => ∀ rule ∈ rules, IsPolicyRule rule)
        (parseSchemaRefs "activatePolicy.compatibleSchemaRefs" 0 refs) := by
      refine hreturns.mono fun compatible hpolicy => ?_
      obtain ⟨policy, hpolicy, -⟩ := returns_orThrow.1 hpolicy
      exact createPolicyRevision_isSome.1 (Option.isSome_of_eq_some hpolicy)
    exact returns_parseSchemaRefs_iff.1 hcreated hvalid
  · rintro h root rfl hroot policyId hp hp' revisionId hr hr' domainId hd hd' q hq createdBy hb hb' createdAt hc hc'
      activatedAt ha ha' refs rules hrefs hrules
    refine returns_references.mono fun compatible ⟨hnamed, hvalid⟩ => ?_
    have hrules' := h rules ⟨root, refs, rfl, hroot, ⟨policyId, hp, hp'⟩, ⟨revisionId, hr, hr'⟩,
      ⟨domainId, hd, hd'⟩, ⟨q, hq⟩, ⟨createdBy, hb, hb'⟩, ⟨createdAt, hc, hc'⟩, ⟨activatedAt, ha, ha'⟩, hrefs, hrules,
      hvalid⟩
    obtain ⟨policy, hpolicy⟩ := Option.isSome_iff_exists.1 (createPolicyRevision_isSome.2 hrules')
    exact returns_orThrow.2
      ⟨policy, hpolicy, createPolicyRevision_wellFormed hpolicy hp' hr' hnamed hb' hc', hd', ha'⟩

/-! ## Every message -/

def IngressMessage.Decodable (wire : Json) : IngressMessage → Prop
  | .submitSchemaAdmission | .approveSchemaAdmission => True
  | .registerSchemaRevision => ∀ schema, SchemaReached wire schema → IsSchema schema
  | .activatePolicyRevision => ∀ rules, RulesReached wire rules → ∀ rule ∈ rules, IsPolicyRule rule

/-- A decoder returns a violation or a well-formed command exactly where the schema and the rules that it hands on
have snapshots. -/
theorem ingress_returns_iff (hashes : ContentHashes) (context : AdministrationContext) (message : IngressMessage)
    (wire : Json) :
    Returns IngressCommand.WellFormed (message.decode hashes context wire) ↔ message.Decodable wire := by
  cases message with
  | submitSchemaAdmission =>
      rw [IngressMessage.decode, returns_map]
      exact iff_of_true returns_decodeSubmit trivial
  | approveSchemaAdmission =>
      rw [IngressMessage.decode, returns_map]
      exact iff_of_true returns_decodeApprove trivial
  | registerSchemaRevision =>
      rw [IngressMessage.decode, returns_map]
      exact returns_decodeRegister_iff
  | activatePolicyRevision =>
      rw [IngressMessage.decode, returns_map]
      exact returns_decodeActivate_iff

def numericRuleWire : Json :=
  .obj [("policyId", .str "fleet-policy"), ("revisionId", .str "2"), ("activationDomainId", .str "default"),
    ("expectedBindingGeneration", .num 1), ("compatibleSchemaRefs", .arr []), ("rules", .arr [.num 42]),
    ("createdBy", .str "ann"), ("createdAt", .str "monday"), ("activatedAt", .str "tuesday")]

def noTemplatesWire : Json :=
  .obj [("schema", .obj [("schemaId", .str "desk"), ("wireVersion", .num 1)]), ("revisionId", .str "2"),
    ("createdAt", .str "monday")]

/-- The decoders of a host and an administrator. -/
def IngressMessage.decodeSample (message : IngressMessage) (wire : Json) : Decode IngressCommand :=
  message.decode sampleHost.toContentHashes (sampleAdministrator "ann") wire

/-- Neither of the two wires is refused: the activation and the registration throw. -/
theorem ingress_thrown :
    IngressMessage.activatePolicyRevision.decodeSample numericRuleWire = .error .thrown ∧
      IngressMessage.registerSchemaRevision.decodeSample noTemplatesWire = .error .thrown ∧
      ¬ ∀ (message : IngressMessage) (wire : Json),
        Returns IngressCommand.WellFormed (message.decodeSample wire) := by
  have hactivate : IngressMessage.activatePolicyRevision.decodeSample numericRuleWire = .error .thrown := by rfl
  have hregister : IngressMessage.registerSchemaRevision.decodeSample noTemplatesWire = .error .thrown := by rfl
  refine ⟨hactivate, hregister, fun h => ?_⟩
  have hreturns := h .activatePolicyRevision numericRuleWire
  rw [hactivate] at hreturns
  exact hreturns

end Cantilune.IngressWire
