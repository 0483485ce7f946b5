import Cantilune.Conformance.PlainValues
import Cantilune.Lemmas.SortedMembers
import Cantilune.Theorems.ObservableRuns

/-!
# Canonical encodings

Both encodings sort the members of an object by the collation of their keys, which is no order on distinct keys; the
encoding of evidence assigns them one after the other, which loses a member named `__proto__`.
-/

namespace Cantilune

variable {localeCompare : LocaleCompare}

/-! ## Values without `__proto__` members -/

mutual
def withoutProto : Json → Json
  | .arr xs => .arr (withoutProtoElems xs)
  | .obj ms => .obj (withoutProtoMembers ms)
  | j => j

def withoutProtoElems : List Json → List Json
  | [] => []
  | x :: xs => withoutProto x :: withoutProtoElems xs

def withoutProtoMembers : List (String × Json) → List (String × Json)
  | [] => []
  | (k, x) :: ms => if k = "__proto__" then withoutProtoMembers ms else (k, withoutProto x) :: withoutProtoMembers ms
end

theorem withoutProtoMembers_eq (ms : List (String × Json)) :
    withoutProtoMembers ms = (ms.filter fun m => m.1 ≠ "__proto__").map fun m => (m.1, withoutProto m.2) := by
  induction ms with
  | nil => rfl
  | cons m ms ih =>
      obtain ⟨k, x⟩ := m
      by_cases h : k = "__proto__"
      · simp [withoutProtoMembers, h, ih]
      · simp [withoutProtoMembers, h, ih]

theorem keys_withoutProtoMembers (ms : List (String × Json)) :
    ((withoutProtoMembers ms).map Prod.fst).Sublist (ms.map Prod.fst) := by
  rw [withoutProtoMembers_eq, keys_mapValues]
  exact List.filter_sublist.map Prod.fst

mutual
theorem distinctKeys_withoutProto : (x : Json) → DistinctKeys x → DistinctKeys (withoutProto x)
  | .arr xs, h => by
      rw [DistinctKeys] at h
      rw [withoutProto, DistinctKeys]
      exact distinctKeysElems_withoutProto xs h
  | .obj ms, h => by
      rw [DistinctKeys] at h
      rw [withoutProto, DistinctKeys]
      exact ⟨h.1.sublist (keys_withoutProtoMembers ms), distinctKeysMembers_withoutProto ms h.2⟩
  | .null, h | .bool _, h | .num _, h | .str _, h => by
      rw [withoutProto.eq_def]
      exact h

theorem distinctKeysElems_withoutProto : (xs : List Json) → DistinctKeysElems xs →
    DistinctKeysElems (withoutProtoElems xs)
  | [], _ => trivial
  | x :: xs, h => by
      rw [DistinctKeysElems] at h
      exact ⟨distinctKeys_withoutProto x h.1, distinctKeysElems_withoutProto xs h.2⟩

theorem distinctKeysMembers_withoutProto : (ms : List (String × Json)) → DistinctKeysMembers ms →
    DistinctKeysMembers (withoutProtoMembers ms)
  | [], _ => trivial
  | (k, x) :: ms, h => by
      rw [DistinctKeysMembers] at h
      rw [withoutProtoMembers]
      split
      · exact distinctKeysMembers_withoutProto ms h.2
      · exact ⟨distinctKeys_withoutProto x h.1, distinctKeysMembers_withoutProto ms h.2⟩
end

theorem withoutProtoMembers_insertionSort (ms : List (String × Json)) :
    withoutProtoMembers (ms.insertionSort fun a b => a.1 ≤ b.1) =
      (withoutProtoMembers ms).insertionSort fun a b => a.1 ≤ b.1 := by
  have : Std.Total fun a b : String × Json => a.1 ≤ b.1 := ⟨fun a b => le_total a.1 b.1⟩
  have : IsTrans (String × Json) fun a b => a.1 ≤ b.1 := ⟨fun a b c => le_trans⟩
  rw [withoutProtoMembers_eq, withoutProtoMembers_eq, ← StableSort.insertionSort_filter]
  exact List.map_insertionSort _ _ _ _ fun _ _ _ _ => Iff.rfl

mutual
theorem canon_withoutProto : (x : Json) → (withoutProto x).canon = withoutProto x.canon
  | .arr xs => by
      rw [withoutProto, Json.canon.eq_def, Json.canon.eq_def, withoutProto]
      exact congrArg Json.arr (canonList_withoutProto xs)
  | .obj ms => by
      rw [withoutProto, Json.canon.eq_def, Json.canon.eq_def, withoutProto]
      simp only
      rw [withoutProtoMembers_insertionSort, canonMembers_withoutProto ms]
  | .null | .bool _ | .num _ | .str _ => by simp [withoutProto.eq_def, Json.canon.eq_def]

theorem canonList_withoutProto : (xs : List Json) →
    Json.canonList (withoutProtoElems xs) = withoutProtoElems (Json.canonList xs)
  | [] => rfl
  | x :: xs => by
      rw [withoutProtoElems, Json.canonList, Json.canonList, withoutProtoElems, canon_withoutProto x,
        canonList_withoutProto xs]

theorem canonMembers_withoutProto : (ms : List (String × Json)) →
    Json.canonMembers (withoutProtoMembers ms) = withoutProtoMembers (Json.canonMembers ms)
  | [] => rfl
  | (k, x) :: ms => by
      rw [withoutProtoMembers, Json.canonMembers, withoutProtoMembers]
      split
      · exact canonMembers_withoutProto ms
      · rw [Json.canonMembers, canon_withoutProto x, canonMembers_withoutProto ms]
end

/-! ## The form of evidence -/

open Conformance

mutual
/-- The form of evidence is the value without `__proto__` members, sorted. -/
theorem canonicalizeJson_eq (h : Collates localeCompare) : (x : Json) → {depth : Nat} → {j : Json} →
    canonicalizeJson localeCompare depth x = some j → j = canonicalJson localeCompare (withoutProto x)
  | .arr xs, depth, j, hj => by
      rw [canonicalizeJson] at hj
      split at hj
      · cases hj
      · obtain ⟨ys, hys, rfl⟩ := Option.map_eq_some_iff.1 hj
        rw [withoutProto, canonicalJson, canonicalizeElems_eq h xs hys]
  | .obj ms, depth, j, hj => by
      rw [canonicalizeJson] at hj
      split at hj
      · cases hj
      split at hj
      · cases hj
      · obtain ⟨ns, hns, rfl⟩ := Option.map_eq_some_iff.1 hj
        change assignMembers (sortEntries localeCompare ns) = _
        rw [assignMembers, filter_sortEntries h, canonicalizeMembers_eq h ms hns, withoutProto, canonicalJson]
        rfl
  | .null, depth, j, hj | .bool _, depth, j, hj | .num _, depth, j, hj | .str _, depth, j, hj => by
      rw [canonicalizeJson.eq_def] at hj
      dsimp only at hj
      split at hj
      · cases hj
      · cases hj
        rw [withoutProto.eq_def, canonicalJson.eq_def]

theorem canonicalizeElems_eq (h : Collates localeCompare) : (xs : List Json) → {depth : Nat} → {ys : List Json} →
    canonicalizeElems localeCompare depth xs = some ys →
      ys = canonicalJsonList localeCompare (withoutProtoElems xs)
  | [], depth, ys, hys => by
      cases hys
      rfl
  | x :: xs, depth, ys, hys => by
      rw [canonicalizeElems] at hys
      obtain ⟨j, hj, hys⟩ := Option.bind_eq_some_iff.1 hys
      obtain ⟨rest, hrest, hys⟩ := Option.bind_eq_some_iff.1 hys
      cases hys
      rw [withoutProtoElems, canonicalJsonList, canonicalizeJson_eq h x hj, canonicalizeElems_eq h xs hrest]

theorem canonicalizeMembers_eq (h : Collates localeCompare) : (ms : List (String × Json)) → {depth : Nat} →
    {ns : List (String × Json)} → canonicalizeMembers localeCompare depth ms = some ns →
      (ns.filter fun m => m.1 ≠ "__proto__") = canonicalJsonMembers localeCompare (withoutProtoMembers ms)
  | [], depth, ns, hns => by
      cases hns
      rfl
  | (k, x) :: ms, depth, ns, hns => by
      rw [canonicalizeMembers] at hns
      obtain ⟨j, hj, hns⟩ := Option.bind_eq_some_iff.1 hns
      obtain ⟨rest, hrest, hns⟩ := Option.bind_eq_some_iff.1 hns
      cases hns
      have hjoin := canonicalizeMembers_eq h ms hrest
      rw [withoutProtoMembers]
      split
      · rename_i hk
        rw [List.filter_cons_of_neg (by simp [hk]), hjoin]
      · rename_i hk
        rw [List.filter_cons_of_pos (by simp [hk]), hjoin, canonicalJsonMembers, canonicalizeJson_eq h x hj]
end

/-! ## Values with members that are `undefined` -/

theorem keys_jsonMembers : (ms : List (String × Option PlainValue)) →
    ((PlainValue.jsonMembers ms).map Prod.fst).Sublist (ms.map Prod.fst)
  | [] => .slnil
  | (k, none) :: ms => (keys_jsonMembers ms).cons k
  | (k, some _) :: ms => (keys_jsonMembers ms).cons_cons k

mutual
theorem distinctKeys_json : (x : PlainValue) → x.Distinct → DistinctKeys x.json
  | .arr xs, h => by
      rw [PlainValue.Distinct] at h
      rw [PlainValue.json, DistinctKeys]
      exact distinctKeysElems_json xs h
  | .obj ms, h => by
      rw [PlainValue.Distinct] at h
      rw [PlainValue.json, DistinctKeys]
      exact ⟨h.1.sublist (keys_jsonMembers ms), distinctKeysMembers_json ms h.2⟩
  | .null, h | .bool _, h | .num _, h | .str _, h => by simp [PlainValue.json, DistinctKeys.eq_def]

theorem distinctKeysElems_json : (xs : List PlainValue) → PlainValue.DistinctElems xs →
    DistinctKeysElems (PlainValue.jsonElems xs)
  | [], _ => trivial
  | x :: xs, h => by
      rw [PlainValue.DistinctElems] at h
      exact ⟨distinctKeys_json x h.1, distinctKeysElems_json xs h.2⟩

theorem distinctKeysMembers_json : (ms : List (String × Option PlainValue)) → PlainValue.DistinctMembers ms →
    DistinctKeysMembers (PlainValue.jsonMembers ms)
  | [], _ => trivial
  | (k, none) :: ms, h => by
      rw [PlainValue.DistinctMembers] at h
      exact distinctKeysMembers_json ms h
  | (k, some x) :: ms, h => by
      rw [PlainValue.DistinctMembers] at h
      exact ⟨distinctKeys_json x h.1, distinctKeysMembers_json ms h.2⟩
end

theorem definedEntries_eq (entries : List (String × Option Json)) :
    definedEntries entries = (entries.filter fun m => m.2.isSome).map fun m => (m.1, m.2.getD .null) := by
  unfold definedEntries
  induction entries with
  | nil => rfl
  | cons m entries ih =>
      obtain ⟨k, x⟩ := m
      cases x with
      | none => simp [ih]
      | some x => simp [ih]

theorem definedEntries_insertionSort (h : Collates localeCompare) (entries : List (String × Option Json)) :
    definedEntries (entries.insertionSort fun a b => localeCompare a.1 b.1 ≤ 0) =
      sortEntries localeCompare (definedEntries entries) := by
  have : Std.Total fun a b : String × Option Json => localeCompare a.1 b.1 ≤ 0 := ⟨fun a b => h.total a.1 b.1⟩
  have : IsTrans (String × Option Json) fun a b => localeCompare a.1 b.1 ≤ 0 := ⟨fun a b c => h.trans a.1 b.1 c.1⟩
  rw [definedEntries_eq, definedEntries_eq, ← StableSort.insertionSort_filter]
  exact List.map_insertionSort _ _ _ _ fun _ _ _ _ => Iff.rfl

mutual
theorem canonicalizeJson_json (h : Collates localeCompare) : (x : PlainValue) → {depth : Nat} → {j : Json} →
    canonicalizeValue localeCompare depth x = some j → canonicalizeJson localeCompare depth x.json = some j
  | .arr xs, depth, j, hj => by
      rw [canonicalizeValue] at hj
      rw [PlainValue.json, canonicalizeJson]
      split at hj
      · cases hj
      · rename_i hdepth
        obtain ⟨ys, hys, rfl⟩ := Option.map_eq_some_iff.1 hj
        rw [if_neg hdepth, canonicalizeElems_jsonElems h xs hys]
        rfl
  | .obj ms, depth, j, hj => by
      rw [canonicalizeValue] at hj
      rw [PlainValue.json, canonicalizeJson]
      split at hj
      · cases hj
      split at hj
      · cases hj
      · rename_i hdepth hkeys
        obtain ⟨ns, hns, rfl⟩ := Option.map_eq_some_iff.1 hj
        have hlength := (keys_jsonMembers ms).length_le
        rw [List.length_map, List.length_map] at hlength
        rw [if_neg hdepth, if_neg (by omega), canonicalizeMembers_jsonMembers h ms hns, definedEntries_insertionSort h]
        rfl
  | .null, depth, j, hj | .bool _, depth, j, hj | .num _, depth, j, hj | .str _, depth, j, hj => by
      rw [canonicalizeValue] at hj
      rw [PlainValue.json, canonicalizeJson.eq_def]
      exact hj

theorem canonicalizeElems_jsonElems (h : Collates localeCompare) : (xs : List PlainValue) → {depth : Nat} →
    {ys : List Json} → canonicalizeValues localeCompare depth xs = some ys →
      canonicalizeElems localeCompare depth (PlainValue.jsonElems xs) = some ys
  | [], depth, ys, hys => hys
  | x :: xs, depth, ys, hys => by
      rw [canonicalizeValues] at hys
      obtain ⟨j, hj, hys⟩ := Option.bind_eq_some_iff.1 hys
      obtain ⟨rest, hrest, hys⟩ := Option.bind_eq_some_iff.1 hys
      cases hys
      rw [PlainValue.jsonElems, canonicalizeElems, canonicalizeJson_json h x hj, canonicalizeElems_jsonElems h xs hrest]
      rfl

theorem canonicalizeMembers_jsonMembers (h : Collates localeCompare) : (ms : List (String × Option PlainValue)) →
    {depth : Nat} → {ns : List (String × Option Json)} → canonicalizeEntries localeCompare depth ms = some ns →
      canonicalizeMembers localeCompare depth (PlainValue.jsonMembers ms) = some (definedEntries ns)
  | [], depth, ns, hns => by
      cases hns
      rfl
  | (k, none) :: ms, depth, ns, hns => by
      rw [canonicalizeEntries] at hns
      obtain ⟨rest, hrest, hns⟩ := Option.bind_eq_some_iff.1 hns
      cases hns
      rw [PlainValue.jsonMembers, canonicalizeMembers_jsonMembers h ms hrest]
      rfl
  | (k, some x) :: ms, depth, ns, hns => by
      rw [canonicalizeEntries] at hns
      obtain ⟨j, hj, hns⟩ := Option.bind_eq_some_iff.1 hns
      obtain ⟨rest, hrest, hns⟩ := Option.bind_eq_some_iff.1 hns
      cases hns
      rw [PlainValue.jsonMembers, canonicalizeMembers, canonicalizeJson_json h x hj,
        canonicalizeMembers_jsonMembers h ms hrest]
      rfl
end

mutual
theorem canonicalizeValue_isSome : (x : PlainValue) → (depth : Nat) →
    ((canonicalizeValue localeCompare depth x).isSome ↔ x.WithinLimits depth)
  | .arr xs, depth => by
      rw [canonicalizeValue, PlainValue.WithinLimits]
      split
      · rename_i hdepth
        simp [hdepth]
      · rename_i hdepth
        rw [Option.isSome_map, canonicalizeValues_isSome xs (depth + 1)]
        simp [Nat.not_lt.1 hdepth]
  | .obj ms, depth => by
      rw [canonicalizeValue, PlainValue.WithinLimits]
      split
      · rename_i hdepth
        simp [hdepth]
      split
      · rename_i hkeys
        simp [hkeys]
      · rename_i hdepth hkeys
        rw [Option.isSome_map, canonicalizeEntries_isSome ms (depth + 1)]
        simp [Nat.not_lt.1 hdepth, Nat.not_lt.1 hkeys]
  | .null, depth | .bool _, depth | .num _, depth | .str _, depth => by
      rw [canonicalizeValue, PlainValue.WithinLimits.eq_def]
      split
      · rename_i hdepth
        simp [hdepth]
      · rename_i hdepth
        simp [Nat.not_lt.1 hdepth]

theorem canonicalizeValues_isSome : (xs : List PlainValue) → (depth : Nat) →
    ((canonicalizeValues localeCompare depth xs).isSome ↔ PlainValue.WithinLimitsElems depth xs)
  | [], depth => by simp [canonicalizeValues, PlainValue.WithinLimitsElems]
  | x :: xs, depth => by
      rw [canonicalizeValues, PlainValue.WithinLimitsElems, ← canonicalizeValue_isSome x depth,
        ← canonicalizeValues_isSome xs depth]
      cases canonicalizeValue localeCompare depth x with
      | none => simp
      | some j => cases canonicalizeValues localeCompare depth xs <;> simp

theorem canonicalizeEntries_isSome : (ms : List (String × Option PlainValue)) → (depth : Nat) →
    ((canonicalizeEntries localeCompare depth ms).isSome ↔ PlainValue.WithinLimitsMembers depth ms)
  | [], depth => by simp [canonicalizeEntries, PlainValue.WithinLimitsMembers]
  | (k, none) :: ms, depth => by
      rw [canonicalizeEntries, PlainValue.WithinLimitsMembers, ← canonicalizeEntries_isSome ms depth]
      cases canonicalizeEntries localeCompare depth ms <;> simp
  | (k, some x) :: ms, depth => by
      rw [canonicalizeEntries, PlainValue.WithinLimitsMembers, ← canonicalizeValue_isSome x depth,
        ← canonicalizeEntries_isSome ms depth]
      cases canonicalizeValue localeCompare depth x with
      | none => simp
      | some j => cases canonicalizeEntries localeCompare depth ms <;> simp
end

/-! ## The normal form of arguments -/

mutual
theorem normalizeValue_eq : (x : PlainValue) → {j : Json} → normalizeValue localeCompare x = some j →
    j = canonicalJson localeCompare x.json
  | .arr xs, j, hj => by
      rw [normalizeValue] at hj
      obtain ⟨ys, hys, rfl⟩ := Option.map_eq_some_iff.1 hj
      rw [PlainValue.json, canonicalJson, normalizeValues_eq xs hys]
  | .obj ms, j, hj => by
      rw [normalizeValue] at hj
      obtain ⟨ns, hns, rfl⟩ := Option.map_eq_some_iff.1 hj
      rw [PlainValue.json, canonicalJson, normalizeEntries_eq ms hns]
  | .null, j, hj | .bool _, j, hj | .num _, j, hj | .str _, j, hj => by
      rw [normalizeValue] at hj
      cases hj
      rw [PlainValue.json, canonicalJson.eq_def]

theorem normalizeValues_eq : (xs : List PlainValue) → {ys : List Json} → normalizeValues localeCompare xs = some ys →
    ys = canonicalJsonList localeCompare (PlainValue.jsonElems xs)
  | [], ys, hys => by
      cases hys
      rfl
  | x :: xs, ys, hys => by
      rw [normalizeValues] at hys
      obtain ⟨j, hj, hys⟩ := Option.bind_eq_some_iff.1 hys
      obtain ⟨rest, hrest, hys⟩ := Option.bind_eq_some_iff.1 hys
      cases hys
      rw [PlainValue.jsonElems, canonicalJsonList, normalizeValue_eq x hj, normalizeValues_eq xs hrest]

theorem normalizeEntries_eq : (ms : List (String × Option PlainValue)) → {ns : List (String × Json)} →
    normalizeEntries localeCompare ms = some ns →
      ns = canonicalJsonMembers localeCompare (PlainValue.jsonMembers ms)
  | [], ns, hns => by
      cases hns
      rfl
  | (k, none) :: ms, ns, hns => nomatch hns
  | (k, some x) :: ms, ns, hns => by
      rw [normalizeEntries] at hns
      obtain ⟨j, hj, hns⟩ := Option.bind_eq_some_iff.1 hns
      obtain ⟨rest, hrest, hns⟩ := Option.bind_eq_some_iff.1 hns
      cases hns
      rw [PlainValue.jsonMembers, canonicalJsonMembers, normalizeValue_eq x hj, normalizeEntries_eq ms hrest]
end

mutual
theorem normalizeValue_isSome : (x : PlainValue) → ((normalizeValue localeCompare x).isSome ↔ x.Defined)
  | .arr xs => by rw [normalizeValue, PlainValue.Defined, Option.isSome_map, normalizeValues_isSome xs]
  | .obj ms => by rw [normalizeValue, PlainValue.Defined, Option.isSome_map, normalizeEntries_isSome ms]
  | .null | .bool _ | .num _ | .str _ => by simp [normalizeValue, PlainValue.Defined.eq_def]

theorem normalizeValues_isSome : (xs : List PlainValue) →
    ((normalizeValues localeCompare xs).isSome ↔ PlainValue.DefinedElems xs)
  | [] => by simp [normalizeValues, PlainValue.DefinedElems]
  | x :: xs => by
      rw [normalizeValues, PlainValue.DefinedElems, ← normalizeValue_isSome x, ← normalizeValues_isSome xs]
      cases normalizeValue localeCompare x with
      | none => simp
      | some j => cases normalizeValues localeCompare xs <;> simp

theorem normalizeEntries_isSome : (ms : List (String × Option PlainValue)) →
    ((normalizeEntries localeCompare ms).isSome ↔ PlainValue.DefinedMembers ms)
  | [] => by simp [normalizeEntries, PlainValue.DefinedMembers]
  | (k, none) :: ms => by simp [normalizeEntries, PlainValue.DefinedMembers]
  | (k, some x) :: ms => by
      rw [normalizeEntries, PlainValue.DefinedMembers, ← normalizeValue_isSome x, ← normalizeEntries_isSome ms]
      cases normalizeValue localeCompare x with
      | none => simp
      | some j => cases normalizeEntries localeCompare ms <;> simp
end

/-! ## When the encodings are canonical -/

/-- Equal up to the order of members, and to members that are absent or undefined. -/
def SameValue (x y : PlainValue) : Prop := x.json.canon = y.json.canon

/-- The bytes of two values within the limits are equal exactly if the values are. -/
def EvidenceCanonical (host : EvidenceHost) (x y : PlainValue) : Prop :=
  x.WithinLimits 0 → y.WithinLimits 0 →
    (canonicalValueBytes host x = canonicalValueBytes host y ↔ SameValue x y)

/-- The normal forms of two values are equal exactly if the values are. -/
def ArgumentsCanonical (host : EvidenceHost) (x y : PlainValue) : Prop :=
  x.Defined → y.Defined →
    (normalizedText host.localeCompare host.print x = normalizedText host.localeCompare host.print y ↔ SameValue x y)

/-- Equal values list keys of one collation alike; different ones differ without their `__proto__` members, or list
keys of one collation in different orders. -/
structure EvidenceTold (localeCompare : LocaleCompare) (x y : PlainValue) : Prop where
  same : SameValue x y → TiesAlike localeCompare (withoutProto x.json) (withoutProto y.json)
  different : ¬ SameValue x y → (withoutProto x.json).canon = (withoutProto y.json).canon →
    ¬ TiesAlike localeCompare (withoutProto x.json) (withoutProto y.json)

/-- Equal values list keys of one collation alike. -/
def ArgumentsTold (localeCompare : LocaleCompare) (x y : PlainValue) : Prop :=
  SameValue x y → TiesAlike localeCompare x.json y.json

variable {host : EvidenceHost} {x y : PlainValue}

theorem canonicalValueBytes_eq_iff (hcollates : Collates host.localeCompare) (hprint : Json.PrintsNumbers host.print)
    (hx : x.Distinct) (hy : y.Distinct) (hx' : x.WithinLimits 0) (hy' : y.WithinLimits 0) :
    canonicalValueBytes host x = canonicalValueBytes host y ↔
      (withoutProto x.json).canon = (withoutProto y.json).canon ∧
        TiesAlike host.localeCompare (withoutProto x.json) (withoutProto y.json) := by
  obtain ⟨a, ha⟩ := Option.isSome_iff_exists.1 ((canonicalizeValue_isSome x 0).2 hx')
  obtain ⟨b, hb⟩ := Option.isSome_iff_exists.1 ((canonicalizeValue_isSome y 0).2 hy')
  rw [← canonicalJson_eq_iff hcollates _ _ (distinctKeys_withoutProto _ (distinctKeys_json x hx))
    (distinctKeys_withoutProto _ (distinctKeys_json y hy)),
    ← canonicalizeJson_eq hcollates _ (canonicalizeJson_json hcollates x ha),
    ← canonicalizeJson_eq hcollates _ (canonicalizeJson_json hcollates y hb), canonicalValueBytes, canonicalValueBytes,
    ha, hb]
  constructor
  · intro h
    exact Json.stringify_injective hprint (String.toByteArray_inj.1 (Option.some.inj h))
  · rintro rfl
    rfl

theorem normalizedText_eq_iff (hcollates : Collates host.localeCompare) (hprint : Json.PrintsNumbers host.print)
    (hx : x.Distinct) (hy : y.Distinct) (hx' : x.Defined) (hy' : y.Defined) :
    normalizedText host.localeCompare host.print x = normalizedText host.localeCompare host.print y ↔
      SameValue x y ∧ TiesAlike host.localeCompare x.json y.json := by
  obtain ⟨a, ha⟩ := Option.isSome_iff_exists.1 ((@normalizeValue_isSome host.localeCompare x).2 hx')
  obtain ⟨b, hb⟩ := Option.isSome_iff_exists.1 ((@normalizeValue_isSome host.localeCompare y).2 hy')
  rw [SameValue, ← canonicalJson_eq_iff hcollates _ _ (distinctKeys_json x hx) (distinctKeys_json y hy),
    ← normalizeValue_eq x ha, ← normalizeValue_eq y hb, normalizedText, normalizedText, ha, hb]
  constructor
  · intro h
    exact Json.stringify_injective hprint (Option.some.inj h)
  · rintro rfl
    rfl

theorem SameValue.withoutProto (h : SameValue x y) : (withoutProto x.json).canon = (withoutProto y.json).canon := by
  rw [canon_withoutProto, canon_withoutProto, h]

theorem evidenceCanonical_iff (hcollates : Collates host.localeCompare) (hprint : Json.PrintsNumbers host.print)
    (hx : x.Distinct) (hy : y.Distinct) :
    EvidenceCanonical host x y ↔
      (x.WithinLimits 0 → y.WithinLimits 0 → EvidenceTold host.localeCompare x y) := by
  apply forall_congr' fun hx' => forall_congr' fun hy' => ?_
  rw [canonicalValueBytes_eq_iff hcollates hprint hx hy hx' hy']
  constructor
  · intro h
    exact ⟨fun hsame => (h.2 hsame).2, fun hdifferent hcanon halike => hdifferent (h.1 ⟨hcanon, halike⟩)⟩
  · rintro ⟨hsame, hdifferent⟩
    constructor
    · rintro ⟨hcanon, halike⟩
      by_contra hne
      exact hdifferent hne hcanon halike
    · intro h
      exact ⟨h.withoutProto, hsame h⟩

theorem argumentsCanonical_iff (hcollates : Collates host.localeCompare) (hprint : Json.PrintsNumbers host.print)
    (hx : x.Distinct) (hy : y.Distinct) :
    ArgumentsCanonical host x y ↔ (x.Defined → y.Defined → ArgumentsTold host.localeCompare x y) := by
  apply forall_congr' fun hx' => forall_congr' fun hy' => ?_
  rw [normalizedText_eq_iff hcollates hprint hx hy hx' hy']
  constructor
  · intro h hsame
    exact (h.2 hsame).2
  · intro h
    exact ⟨And.left, fun hsame => ⟨hsame, h hsame⟩⟩

/-- Both encodings are canonical on two values exactly where equal values list keys of one collation alike, and
different ones differ in more than `__proto__` members. -/
theorem encodings_canonical_iff (host : EvidenceHost) (hcollates : Collates host.localeCompare)
    (hprint : Json.PrintsNumbers host.print) (x y : PlainValue) (hx : x.Distinct) (hy : y.Distinct) :
    EvidenceCanonical host x y ∧ ArgumentsCanonical host x y ↔
      (x.WithinLimits 0 → y.WithinLimits 0 → EvidenceTold host.localeCompare x y) ∧
        (x.Defined → y.Defined → ArgumentsTold host.localeCompare x y) :=
  and_congr (evidenceCanonical_iff hcollates hprint hx hy) (argumentsCanonical_iff hcollates hprint hx hy)

/-! ## An accented key in two spellings, and a key that is lost -/

/-- The key with `é` written as `e` and an accent. -/
def decomposed (key : String) : String :=
  String.ofList (key.toList.flatMap fun c => if c = Char.ofNat 0xe9 then ['e', Char.ofNat 0x301] else [c])

/-- A collation under which the two spellings of `é` are equal. -/
def accentHost : EvidenceHost where
  localeCompare a b := unitCollation (decomposed a) (decomposed b)
  print := Json.printExact
  sha256 _ := ""

theorem accentHost_localeCompare (a b : String) :
    accentHost.localeCompare a b = unitCollation (decomposed a) (decomposed b) := by
  simp only [accentHost]

theorem collates_accentHost : Collates accentHost.localeCompare := by
  constructor
  · intro a b
    rw [accentHost_localeCompare, accentHost_localeCompare]
    exact collates_unitCollation.total (decomposed a) (decomposed b)
  · intro a b c
    rw [accentHost_localeCompare, accentHost_localeCompare, accentHost_localeCompare]
    exact collates_unitCollation.trans (decomposed a) (decomposed b) (decomposed c)

def composedKey : String := String.ofList [Char.ofNat 0xe9]

def decomposedKey : String := String.ofList ['e', Char.ofNat 0x301]

def composedFirst : PlainValue := .obj [(composedKey, some (.num 1)), (decomposedKey, some (.num 2))]

def decomposedFirst : PlainValue := .obj [(decomposedKey, some (.num 2)), (composedKey, some (.num 1))]

theorem ties_spellings : ∀ key ∈ [composedKey, decomposedKey],
    StableSort.Ties (fun a b => accentHost.localeCompare a b ≤ 0) composedKey key := by
  decide +kernel

theorem arrayIndex?_spellings : ∀ key ∈ [composedKey, decomposedKey], arrayIndex? key = none := by
  intro key hkey
  rcases List.mem_cons.1 hkey with rfl | hkey
  · exact arrayIndex?_of_nondigit (c := Char.ofNat 0xe9) (by decide) (by decide)
  · rw [List.mem_singleton.1 hkey]
    exact arrayIndex?_of_nondigit (c := 'e') (by decide) (by decide)

theorem tiedKeys_spellings {members : List (String × Json)}
    (h : ∀ m ∈ members, m.1 ∈ [composedKey, decomposedKey]) :
    tiedKeys accentHost.localeCompare composedKey members = members.map Prod.fst := by
  rw [tiedKeys, List.filter_eq_self]
  intro key hkey
  obtain ⟨m, hm, rfl⟩ := List.mem_map.1 hkey
  rw [arrayIndex?_spellings m.1 (h m hm), Option.isNone_none, Bool.true_and]
  exact decide_eq_true (ties_spellings m.1 (h m hm))

theorem not_tiesAlike_spellings : ¬ TiesAlike accentHost.localeCompare composedFirst.json decomposedFirst.json := by
  intro h
  have hkeys := (show (∀ key, _) ∧ _ from h).1 composedKey
  rw [tiedKeys_spellings (by decide), tiedKeys_spellings (by decide)] at hkeys
  revert hkeys
  decide

/-- Two spellings of one object, and another object. -/
theorem encodings_canonical_ab :
    EvidenceCanonical accentHost (.obj [("b", some (.num 1)), ("a", some .null)])
        (.obj [("a", some .null), ("b", some (.num 2))]) ∧
      ArgumentsCanonical accentHost (.obj [("b", some (.num 1)), ("a", some .null)])
        (.obj [("a", some .null), ("b", some (.num 2))]) := by
  have hdistinct : ∀ q, (PlainValue.obj [("b", some (.num q)), ("a", some .null)]).Distinct ∧
      (PlainValue.obj [("a", some .null), ("b", some (.num q))]).Distinct := by
    intro q
    simp [PlainValue.Distinct, PlainValue.DistinctMembers]
  have hsame : ¬ SameValue (.obj [("b", some (.num 1)), ("a", some .null)])
      (.obj [("a", some .null), ("b", some (.num 2))]) := by
    unfold SameValue
    decide +kernel
  have hwithout : (withoutProto (PlainValue.obj [("b", some (.num 1)), ("a", some .null)]).json).canon ≠
      (withoutProto (PlainValue.obj [("a", some .null), ("b", some (.num 2))]).json).canon := by
    decide +kernel
  apply (encodings_canonical_iff accentHost collates_accentHost Json.printsNumbers_printExact _ _ (hdistinct 1).1
    (hdistinct 2).2).2
  constructor
  · intro _ _
    exact ⟨fun h => absurd h hsame, fun _ h => absurd h hwithout⟩
  · intro _ _ h
    exact absurd h hsame

/-- The evidence encoding merges an object that has a `__proto__` member with the empty one, and the normal form of
arguments splits an object with keys of one collation. -/
theorem encodings_not_canonical :
    ¬ EvidenceCanonical accentHost (.obj [("__proto__", some (.num 1))]) (.obj []) ∧
      ¬ ArgumentsCanonical accentHost composedFirst decomposedFirst := by
  constructor
  · intro h
    have hbytes : canonicalValueBytes accentHost (.obj [("__proto__", some (.num 1))]) =
        canonicalValueBytes accentHost (.obj []) := by decide +kernel
    have hsame : SameValue (.obj [("__proto__", some (.num 1))]) (.obj []) :=
      (h ((@canonicalizeValue_isSome accentHost.localeCompare _ 0).1 (by decide +kernel))
        ((@canonicalizeValue_isSome accentHost.localeCompare _ 0).1 (by decide +kernel))).1 hbytes
    unfold SameValue at hsame
    revert hsame
    decide +kernel
  · intro h
    have hsame : SameValue composedFirst decomposedFirst := by
      unfold SameValue
      decide +kernel
    have hdefined : composedFirst.Defined ∧ decomposedFirst.Defined := by
      simp [composedFirst, decomposedFirst, PlainValue.Defined, PlainValue.DefinedMembers]
    have hdistinct : composedFirst.Distinct ∧ decomposedFirst.Distinct := by
      simp [composedFirst, decomposedFirst, PlainValue.Distinct, PlainValue.DistinctMembers]
      decide
    have htext := (h hdefined.1 hdefined.2).2 hsame
    have halike := (normalizedText_eq_iff collates_accentHost Json.printsNumbers_printExact hdistinct.1 hdistinct.2
      hdefined.1 hdefined.2).1 htext
    exact not_tiesAlike_spellings halike.2

end Cantilune
