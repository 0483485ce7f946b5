import Mathlib.Data.List.Induction
import Mathlib.Data.List.Nodup
import Mathlib.Data.List.Perm.Basic
import Mathlib.Data.List.Lattice

/-!
# Insertion-ordered maps

A finite map that keeps its keys in the order in which they were first inserted: setting a key that is
there replaces the value in place, setting a new key appends the entry. Two maps with the same lookups
may list their keys differently, so besides equality there is `OrdMap.Equiv`.
-/

/-! ## Entry lists -/

namespace Entries

variable {K V : Type} [DecidableEq K]

/-- Replaces the value under `k` in place, or appends the entry. -/
def insert (k : K) (v : V) : List (K × V) → List (K × V)
  | [] => [(k, v)]
  | e :: es => if e.1 = k then (k, v) :: es else e :: insert k v es

attribute [local simp] insert

theorem lookup_insert_self (k : K) (v : V) (es : List (K × V)) : (insert k v es).lookup k = some v := by
  induction es with
  | nil => simp
  | cons e es ih =>
      obtain ⟨i, w⟩ := e
      by_cases h : i = k
      · simp [h]
      · have h' : (k == i) = false := by simpa using Ne.symm h
        simp [h, List.lookup_cons, h', ih]

theorem lookup_insert_ne {k j : K} (v : V) (es : List (K × V)) (hne : j ≠ k) :
    (insert k v es).lookup j = es.lookup j := by
  induction es with
  | nil => simp [hne]
  | cons e es ih =>
      obtain ⟨i, w⟩ := e
      by_cases h : i = k
      · have h' : (j == k) = false := by simpa using hne
        simp [h, List.lookup_cons, h']
      · simp only [insert, h, if_false, List.lookup_cons, ih]

theorem mem_keys_insert {k j : K} {v : V} {es : List (K × V)} :
    j ∈ (insert k v es).map Prod.fst ↔ j = k ∨ j ∈ es.map Prod.fst := by
  induction es with
  | nil => simp
  | cons e es ih =>
      by_cases h : e.1 = k
      · subst h
        simp
      · simp only [insert, h, if_false, List.map_cons, List.mem_cons, ih]
        tauto

theorem nodup_keys_insert {k : K} {v : V} {es : List (K × V)} (hn : (es.map Prod.fst).Nodup) :
    ((insert k v es).map Prod.fst).Nodup := by
  induction es with
  | nil => simp
  | cons e es ih =>
      simp only [List.map_cons, List.nodup_cons] at hn
      by_cases h : e.1 = k
      · subst h
        simpa using hn
      · simp only [insert, h, if_false, List.map_cons, List.nodup_cons]
        refine ⟨?_, ih hn.2⟩
        intro hm
        rcases mem_keys_insert.1 hm with hk | hk
        · exact h hk
        · exact hn.1 hk

theorem insert_of_notMem {k : K} {v : V} {es : List (K × V)} (h : k ∉ es.map Prod.fst) :
    insert k v es = es ++ [(k, v)] := by
  induction es with
  | nil => rfl
  | cons e es ih =>
      simp only [List.map_cons, List.mem_cons, not_or] at h
      simp [Ne.symm h.1, ih h.2]

theorem mem_iff_lookup {k : K} {v : V} {es : List (K × V)} (hn : (es.map Prod.fst).Nodup) :
    (k, v) ∈ es ↔ es.lookup k = some v := by
  induction es with
  | nil => simp
  | cons e es ih =>
      obtain ⟨j, w⟩ := e
      simp only [List.map_cons, List.nodup_cons] at hn
      by_cases h : k = j
      · subst h
        have hk : (k, v) ∉ es := fun hm => hn.1 (List.mem_map.2 ⟨_, hm, rfl⟩)
        simp [hk, eq_comm]
      · have h' : (k == j) = false := by simpa using h
        simp [List.lookup_cons, h, h', ih hn.2]

end Entries

/-! ## The map -/

/-- A finite map whose keys are listed in the order of their first insertion. -/
structure OrdMap (K V : Type) where
  entries : List (K × V)
  nodupKeys : (entries.map Prod.fst).Nodup

namespace OrdMap

variable {K V W : Type}

theorem ext_entries {m n : OrdMap K V} (h : m.entries = n.entries) : m = n := by
  cases m; cases n; cases h; rfl

instance [DecidableEq K] [DecidableEq V] : DecidableEq (OrdMap K V) := fun m n =>
  decidable_of_iff (m.entries = n.entries) ⟨ext_entries, fun h => by rw [h]⟩

def empty : OrdMap K V := ⟨[], by simp⟩

instance : Inhabited (OrdMap K V) := ⟨empty⟩

def keys (m : OrdMap K V) : List K := m.entries.map Prod.fst

def values (m : OrdMap K V) : List V := m.entries.map Prod.snd

def size (m : OrdMap K V) : Nat := m.entries.length

/-- Applies `f` to every value; the keys keep their order. -/
def mapValues (f : V → W) (m : OrdMap K V) : OrdMap K W where
  entries := m.entries.map fun e => (e.1, f e.2)
  nodupKeys := by simpa [List.map_map, Function.comp_def] using m.nodupKeys

/-- The entries whose key passes `p`. -/
def filterKeys (p : K → Bool) (m : OrdMap K V) : OrdMap K V where
  entries := m.entries.filter fun e => p e.1
  nodupKeys := m.nodupKeys.sublist (List.filter_sublist.map Prod.fst)

/-- The entries that pass `p`. -/
def filter (p : K → V → Bool) (m : OrdMap K V) : OrdMap K V where
  entries := m.entries.filter fun e => p e.1 e.2
  nodupKeys := m.nodupKeys.sublist (List.filter_sublist.map Prod.fst)

variable [DecidableEq K]

def get? (m : OrdMap K V) (k : K) : Option V := m.entries.lookup k

def has (m : OrdMap K V) (k : K) : Bool := (m.get? k).isSome

def set (m : OrdMap K V) (k : K) (v : V) : OrdMap K V where
  entries := Entries.insert k v m.entries
  nodupKeys := Entries.nodup_keys_insert m.nodupKeys

/-- The map of an entry list: a later entry of a key replaces an earlier one in place. -/
def ofList (es : List (K × V)) : OrdMap K V := es.foldl (fun m e => m.set e.1 e.2) empty

@[simp] theorem get?_empty (k : K) : (empty : OrdMap K V).get? k = none := rfl

@[simp] theorem get?_set_self (m : OrdMap K V) (k : K) (v : V) : (m.set k v).get? k = some v :=
  Entries.lookup_insert_self k v m.entries

theorem get?_set_ne (m : OrdMap K V) {k j : K} (v : V) (h : j ≠ k) : (m.set k v).get? j = m.get? j :=
  Entries.lookup_insert_ne v m.entries h

theorem get?_set (m : OrdMap K V) (k j : K) (v : V) :
    (m.set k v).get? j = if j = k then some v else m.get? j := by
  by_cases h : j = k
  · subst h
    simp
  · simp [h, get?_set_ne m v h]

theorem has_iff {m : OrdMap K V} {k : K} : m.has k = true ↔ ∃ v, m.get? k = some v :=
  Option.isSome_iff_exists

theorem has_eq_false_iff {m : OrdMap K V} {k : K} : m.has k = false ↔ m.get? k = none := by
  simp [has]

theorem has_of_get? {m : OrdMap K V} {k : K} {v : V} (h : m.get? k = some v) : m.has k = true := by
  simp [has, h]

theorem has_set (m : OrdMap K V) (k j : K) (v : V) : (m.set k v).has j = (decide (j = k) || m.has j) := by
  by_cases h : j = k
  · simp [has, h]
  · simp [has, get?_set_ne m v h, h]

theorem mem_entries {m : OrdMap K V} {k : K} {v : V} : (k, v) ∈ m.entries ↔ m.get? k = some v :=
  Entries.mem_iff_lookup m.nodupKeys

theorem mem_keys {m : OrdMap K V} {k : K} : k ∈ m.keys ↔ m.has k = true := by
  rw [has_iff]
  constructor
  · intro h
    obtain ⟨⟨_, v⟩, hm, rfl⟩ := List.mem_map.1 h
    exact ⟨v, mem_entries.1 hm⟩
  · rintro ⟨v, h⟩
    exact List.mem_map.2 ⟨(k, v), mem_entries.2 h, rfl⟩

theorem mem_values {m : OrdMap K V} {v : V} : v ∈ m.values ↔ ∃ k, m.get? k = some v := by
  constructor
  · intro h
    obtain ⟨⟨k, _⟩, hm, rfl⟩ := List.mem_map.1 h
    exact ⟨k, mem_entries.1 hm⟩
  · rintro ⟨k, h⟩
    exact List.mem_map.2 ⟨(k, v), mem_entries.2 h, rfl⟩

theorem entries_set_of_has_false {m : OrdMap K V} {k : K} {v : V} (h : m.has k = false) :
    (m.set k v).entries = m.entries ++ [(k, v)] := by
  apply Entries.insert_of_notMem
  intro hk
  rw [mem_keys.1 hk] at h
  cases h

theorem keys_set_of_has {m : OrdMap K V} {k : K} {v : V} (h : m.has k = true) : (m.set k v).keys = m.keys := by
  have hinsert : ∀ es : List (K × V), k ∈ es.map Prod.fst →
      (Entries.insert k v es).map Prod.fst = es.map Prod.fst := by
    intro es
    induction es with
    | nil => exact fun h => absurd h List.not_mem_nil
    | cons e es ih =>
        intro hk
        by_cases hek : e.1 = k
        · simp [Entries.insert, hek]
        · have hrest : k ∈ es.map Prod.fst := (List.mem_cons.1 hk).resolve_left (Ne.symm hek)
          simp only [Entries.insert, hek, if_false, List.map_cons, ih hrest]
  exact hinsert m.entries (mem_keys.2 h)

theorem get?_filterKeys (m : OrdMap K V) (p : K → Bool) (k : K) :
    (m.filterKeys p).get? k = if p k then m.get? k else none := by
  ext v
  rw [← mem_entries]
  by_cases hp : p k
  · simp [filterKeys, hp, ← mem_entries]
  · simp [filterKeys, hp]

theorem get?_filter (p : K → V → Bool) (m : OrdMap K V) (k : K) :
    (m.filter p).get? k = (m.get? k).filter (p k) := by
  ext v
  rw [← mem_entries, Option.filter_eq_some_iff, ← mem_entries]
  simp [filter]

/-- The map without the entry of a key. -/
def delete (m : OrdMap K V) (k : K) : OrdMap K V := m.filterKeys fun j => j ≠ k

theorem get?_delete (m : OrdMap K V) (k j : K) : (m.delete k).get? j = if j = k then none else m.get? j := by
  rw [delete, get?_filterKeys]
  by_cases h : j = k <;> simp [h]

theorem lookup_mapValues (f : V → W) (es : List (K × V)) (k : K) :
    (es.map fun e => (e.1, f e.2)).lookup k = (es.lookup k).map f := by
  induction es with
  | nil => rfl
  | cons e es ih =>
      obtain ⟨j, v⟩ := e
      by_cases h : k = j
      · simp [h]
      · simp [List.lookup_cons, beq_false_of_ne h, ih]

@[simp] theorem get?_mapValues (f : V → W) (m : OrdMap K V) (k : K) :
    (m.mapValues f).get? k = (m.get? k).map f :=
  lookup_mapValues f m.entries k

theorem mapValues_set (f : V → W) (m : OrdMap K V) (k : K) (v : V) :
    (m.set k v).mapValues f = (m.mapValues f).set k (f v) := by
  apply ext_entries
  have hinsert : ∀ es : List (K × V), (Entries.insert k v es).map (fun e => (e.1, f e.2)) =
      Entries.insert k (f v) (es.map fun e => (e.1, f e.2)) := by
    intro es
    induction es with
    | nil => rfl
    | cons e es ih =>
        by_cases h : e.1 = k
        · simp [Entries.insert, h]
        · simp [Entries.insert, h, ih]
  exact hinsert m.entries

/-- Every entry has the property. -/
def ForAll (P : K → V → Prop) (m : OrdMap K V) : Prop := ∀ k v, m.get? k = some v → P k v

theorem forAll_set {P : K → V → Prop} {m : OrdMap K V} {k : K} {v : V} :
    (m.set k v).ForAll P ↔ P k v ∧ m.ForAll fun j w => j ≠ k → P j w := by
  constructor
  · intro h
    refine ⟨h k v (get?_set_self m k v), fun j w hw hne => h j w ?_⟩
    rwa [get?_set_ne m v hne]
  · rintro ⟨hnew, hold⟩ j w hw
    by_cases hj : j = k
    · subst hj
      rw [get?_set_self] at hw
      cases hw
      exact hnew
    · rw [get?_set_ne m v hj] at hw
      exact hold j w hw hj

theorem forAll_values {P : V → Prop} {m : OrdMap K V} : (m.ForAll fun _ v => P v) ↔ ∀ v ∈ m.values, P v := by
  simp only [ForAll, mem_values]
  exact ⟨fun h v ⟨k, hv⟩ => h k v hv, fun h k v hv => h v ⟨k, hv⟩⟩

/-- The same lookups, in whatever order the keys are listed. -/
def Equiv (m n : OrdMap K V) : Prop := ∀ k, m.get? k = n.get? k

theorem Equiv.refl (m : OrdMap K V) : m.Equiv m := fun _ => rfl

theorem Equiv.has_eq {m n : OrdMap K V} (h : m.Equiv n) (k : K) : m.has k = n.has k := by
  simp [has, h k]

/-! ## Building a map from a list of entries -/

theorem entries_foldl_set (es : List (K × V)) (m : OrdMap K V)
    (hn : ((m.entries ++ es).map Prod.fst).Nodup) :
    (es.foldl (fun m e => m.set e.1 e.2) m).entries = m.entries ++ es := by
  induction es generalizing m with
  | nil => simp
  | cons e es ih =>
      have hk : m.has e.1 = false := by
        rw [Bool.eq_false_iff, Ne, ← mem_keys]
        intro hk
        rw [List.map_append] at hn
        exact List.disjoint_of_nodup_append hn hk (by simp)
      have he : (m.set e.1 e.2).entries = m.entries ++ [e] := entries_set_of_has_false hk
      rw [List.foldl_cons, ih, he, List.append_assoc]
      · rfl
      · rw [he, List.append_assoc]
        exact hn

theorem entries_ofList {es : List (K × V)} (hn : (es.map Prod.fst).Nodup) : (ofList es).entries = es := by
  have h := entries_foldl_set es empty (by simpa [empty] using hn)
  simpa [ofList, empty] using h

theorem ofList_entries (m : OrdMap K V) : ofList m.entries = m :=
  ext_entries (entries_ofList m.nodupKeys)

theorem get?_foldl_set {es : List (K × V)} {m : OrdMap K V} {k : K} {v : V}
    (h : (es.foldl (fun m e => m.set e.1 e.2) m).get? k = some v) : (k, v) ∈ es ∨ m.get? k = some v := by
  induction es generalizing m with
  | nil => exact .inr h
  | cons e es ih =>
      rcases ih h with he | hm
      · exact .inl (List.mem_cons_of_mem _ he)
      · by_cases hk : k = e.1
        · subst hk
          rw [get?_set_self] at hm
          cases hm
          exact .inl (List.mem_cons_self ..)
        · rw [get?_set_ne _ _ hk] at hm
          exact .inr hm

theorem mem_of_get?_ofList {es : List (K × V)} {k : K} {v : V} (h : (ofList es).get? k = some v) : (k, v) ∈ es := by
  rcases get?_foldl_set h with he | hm
  · exact he
  · cases hm

theorem ofList_append (es : List (K × V)) (k : K) (v : V) : ofList (es ++ [(k, v)]) = (ofList es).set k v := by
  simp [ofList]

theorem get?_ofList_iff {es : List (K × V)} {k : K} {v : V} :
    (ofList es).get? k = some v ↔
      ∃ before after, es = before ++ (k, v) :: after ∧ ∀ e ∈ after, e.1 ≠ k := by
  induction es using List.reverseRecOn with
  | nil =>
      constructor
      · intro h
        cases h
      · rintro ⟨before, after, h, -⟩
        cases before <;> cases h
  | append_singleton es e ih =>
      obtain ⟨j, w⟩ := e
      rw [ofList_append, get?_set]
      by_cases hk : k = j
      · subst hk
        rw [if_pos rfl, Option.some.injEq]
        constructor
        · rintro rfl
          exact ⟨es, [], rfl, by simp⟩
        · rintro ⟨before, after, h, hafter⟩
          rcases List.eq_nil_or_concat after with rfl | ⟨init, last, rfl⟩
          · have h := (List.append_inj' h rfl).2
            cases h
            rfl
          · rw [List.concat_eq_append, ← List.cons_append, ← List.append_assoc] at h
            have hlast := (List.append_inj' h rfl).2
            cases hlast
            exact absurd rfl (hafter (k, w) (by simp))
      · rw [if_neg hk, ih]
        constructor
        · rintro ⟨before, after, rfl, hafter⟩
          refine ⟨before, after ++ [(j, w)], by simp, fun e he => ?_⟩
          rcases List.mem_append.1 he with he | he
          · exact hafter e he
          · rw [List.mem_singleton.1 he]
            exact Ne.symm hk
        · rintro ⟨before, after, h, hafter⟩
          rcases List.eq_nil_or_concat after with rfl | ⟨init, last, rfl⟩
          · have h := (List.append_inj' h rfl).2
            cases h
            exact absurd rfl hk
          · rw [List.concat_eq_append, ← List.cons_append, ← List.append_assoc] at h
            exact ⟨before, init, (List.append_inj' h rfl).1, fun e he => hafter e (by simp [he])⟩

theorem mapValues_foldl_set (f : V → W) (es : List (K × V)) (m : OrdMap K V) :
    (es.foldl (fun m e => m.set e.1 e.2) m).mapValues f =
      (es.map fun e => (e.1, f e.2)).foldl (fun m e => m.set e.1 e.2) (m.mapValues f) := by
  induction es generalizing m with
  | nil => rfl
  | cons e es ih => rw [List.foldl_cons, ih, mapValues_set, List.map_cons, List.foldl_cons]

/-! ### Values stored under their own keys -/

def keyedBy (key : V → K) (values : List V) : OrdMap K V := ofList (values.map fun v => (key v, v))

theorem keyedBy_get? {key : V → K} {values : List V} {k : K} {v : V} (h : (keyedBy key values).get? k = some v) :
    key v = k ∧ v ∈ values := by
  obtain ⟨w, hw, he⟩ := List.mem_map.1 (mem_of_get?_ofList h)
  cases he
  exact ⟨rfl, hw⟩

theorem keyedBy_values {key : V → K} {m : OrdMap K V} (h : m.ForAll fun k v => key v = k) :
    keyedBy key m.values = m := by
  have hentries : (m.values.map fun v => (key v, v)) = m.entries := by
    rw [values, List.map_map]
    refine (List.map_congr_left fun e he => ?_).trans (List.map_id _)
    exact Prod.ext (h e.1 e.2 (mem_entries.1 he)) rfl
  rw [keyedBy, hentries, ofList_entries]

theorem mapValues_keyedBy {key : V → K} {f : V → V} (hkey : ∀ v, key (f v) = key v) (values : List V) :
    (keyedBy key values).mapValues f = keyedBy key (values.map f) := by
  have h := mapValues_foldl_set f (values.map fun v => (key v, v)) empty
  rw [keyedBy, ofList, h, keyedBy, ofList]
  congr 1
  simp [hkey]

end OrdMap
