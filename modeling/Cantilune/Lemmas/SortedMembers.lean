import Cantilune.Base.StableSort
import Cantilune.Conformance.CanonicalEncoding
import Cantilune.Lemmas.Observation
import Cantilune.Syscall.ToolJournal

/-!
# Objects whose members are sorted by collation

Two values are sorted into one exactly if they are the same up to the order of members, and nowhere list keys of one
collation in different orders.
-/

namespace Cantilune

open StableSort

variable {localeCompare : LocaleCompare}

/-! ## Keys of one collation -/

def tiedKeys (localeCompare : LocaleCompare) (key : String) (members : List (String × Json)) : List String :=
  (members.map Prod.fst).filter fun k => (arrayIndex? k).isNone && decide (Ties (fun a b => localeCompare a b ≤ 0) key k)

mutual
/-- In no object that is at one place in both are keys of one collation in different orders. -/
def TiesAlike (localeCompare : LocaleCompare) : Json → Json → Prop
  | .arr xs, .arr ys => TiesAlikeElems localeCompare xs ys
  | .obj ms, .obj ns =>
      (∀ key, tiedKeys localeCompare key ms = tiedKeys localeCompare key ns) ∧ TiesAlikeMembers localeCompare ms ns
  | _, _ => True

def TiesAlikeElems (localeCompare : LocaleCompare) : List Json → List Json → Prop
  | x :: xs, y :: ys => TiesAlike localeCompare x y ∧ TiesAlikeElems localeCompare xs ys
  | _, _ => True

def TiesAlikeMembers (localeCompare : LocaleCompare) : List (String × Json) → List (String × Json) → Prop
  | [], _ => True
  | (k, x) :: ms, ns => (∀ y ∈ ns.lookup k, TiesAlike localeCompare x y) ∧ TiesAlikeMembers localeCompare ms ns
end

mutual
/-- No object names a member twice. -/
def DistinctKeys : Json → Prop
  | .arr xs => DistinctKeysElems xs
  | .obj ms => (ms.map Prod.fst).Nodup ∧ DistinctKeysMembers ms
  | _ => True

def DistinctKeysElems : List Json → Prop
  | [] => True
  | x :: xs => DistinctKeys x ∧ DistinctKeysElems xs

def DistinctKeysMembers : List (String × Json) → Prop
  | [] => True
  | (_, x) :: ms => DistinctKeys x ∧ DistinctKeysMembers ms
end

/-! ## Sorting the entries of an object -/

def sortEntries (localeCompare : LocaleCompare) (entries : List (String × Json)) : List (String × Json) :=
  entries.insertionSort fun a b => localeCompare a.1 b.1 ≤ 0

theorem perm_sortEntries (entries : List (String × Json)) : (sortEntries localeCompare entries).Perm entries :=
  List.perm_insertionSort _ _

theorem nodup_sortEntries {entries : List (String × Json)} (h : (entries.map Prod.fst).Nodup) :
    ((sortEntries localeCompare entries).map Prod.fst).Nodup :=
  ((perm_sortEntries entries).map Prod.fst).nodup_iff.2 h

theorem Collates.total_keys (h : Collates localeCompare) :
    Std.Total fun a b : String × Json => localeCompare a.1 b.1 ≤ 0 := ⟨fun a b => h.total a.1 b.1⟩

theorem Collates.trans_keys (h : Collates localeCompare) :
    IsTrans (String × Json) fun a b => localeCompare a.1 b.1 ≤ 0 := ⟨fun a b c => h.trans a.1 b.1 c.1⟩

theorem filter_sortEntries (h : Collates localeCompare) (p : String × Json → Bool) (entries : List (String × Json)) :
    (sortEntries localeCompare entries).filter p = sortEntries localeCompare (entries.filter p) := by
  have := h.total_keys
  have := h.trans_keys
  exact (insertionSort_filter p entries).symm

theorem eq_of_keys_eq {members : List (String × Json)} (hnodup : (members.map Prod.fst).Nodup) :
    {es fs : List (String × Json)} → (∀ e ∈ es, e ∈ members) → (∀ f ∈ fs, f ∈ members) →
      es.map Prod.fst = fs.map Prod.fst → es = fs
  | [], [], _, _, _ => rfl
  | [], f :: fs, _, _, h => nomatch h
  | e :: es, [], _, _, h => nomatch h
  | e :: es, f :: fs, hes, hfs, h => by
      have hkey := List.cons.inj h
      rw [List.inj_on_of_nodup_map hnodup (hes e List.mem_cons_self) (hfs f List.mem_cons_self) hkey.1,
        eq_of_keys_eq hnodup (fun e he => hes e (List.mem_cons_of_mem _ he))
          (fun f hf => hfs f (List.mem_cons_of_mem _ hf)) hkey.2]

def indexEntries (entries : List (String × Json)) : List (String × Json) :=
  (entries.filter fun m => (arrayIndex? m.1).isSome).insertionSort fun a b =>
    (arrayIndex? a.1).getD 0 ≤ (arrayIndex? b.1).getD 0

def otherEntries (entries : List (String × Json)) : List (String × Json) :=
  entries.filter fun m => (arrayIndex? m.1).isNone

theorem fromEntries_eq {entries : List (String × Json)} (h : (entries.map Prod.fst).Nodup) :
    fromEntries entries = .obj (indexEntries entries ++ otherEntries entries) := by
  rw [fromEntries, OrdMap.entries_ofList h]
  rfl

theorem otherEntries_append (entries : List (String × Json)) :
    otherEntries (indexEntries entries ++ otherEntries entries) = otherEntries entries := by
  have hnone : otherEntries (indexEntries entries) = [] := by
    apply List.filter_eq_nil_iff.2
    intro m hm
    have hsome := (List.mem_filter.1 ((List.mem_insertionSort _).1 hm)).2
    simp only [Option.isNone_iff_eq_none]
    intro hnone
    rw [hnone] at hsome
    cases hsome
  rw [otherEntries, List.filter_append]
  change otherEntries (indexEntries entries) ++ (entries.filter _).filter _ = _
  rw [hnone, List.filter_filter]
  simp only [Bool.and_self]
  rfl

theorem toString_of_arrayIndex? {key : String} {n : Nat} (h : arrayIndex? key = some n) : toString n = key := by
  unfold arrayIndex? at h
  split at h
  · split at h
    · rename_i hkey
      cases h
      exact hkey.1
    · cases h
  · cases h

theorem arrayIndex?_of_nondigit {key : String} {c : Char} (hmem : c ∈ key.toList) (hc : c.isDigit = false) :
    arrayIndex? key = none := by
  cases h : arrayIndex? key with
  | none => rfl
  | some n =>
      rw [← toString_of_arrayIndex? h] at hmem
      exact absurd hmem (JsString.notMem_toString hc n)

theorem arrayIndex?_inj {a b : String} {n : Nat} (ha : arrayIndex? a = some n) (hb : arrayIndex? b = some n) : a = b := by
  rw [← toString_of_arrayIndex? ha, toString_of_arrayIndex? hb]

theorem indexEntries_eq_of_perm {es fs : List (String × Json)} (hnodup : (es.map Prod.fst).Nodup) (hperm : es.Perm fs) :
    indexEntries es = indexEntries fs := by
  have hes := List.perm_insertionSort (fun a b : String × Json => (arrayIndex? a.1).getD 0 ≤ (arrayIndex? b.1).getD 0)
    (es.filter fun m => (arrayIndex? m.1).isSome)
  have hfs := List.perm_insertionSort (fun a b : String × Json => (arrayIndex? a.1).getD 0 ≤ (arrayIndex? b.1).getD 0)
    (fs.filter fun m => (arrayIndex? m.1).isSome)
  have hall := (hes.trans (hperm.filter _)).trans hfs.symm
  apply List.Perm.eq_of_pairwise ?_ (List.pairwise_insertionSort _ _) (List.pairwise_insertionSort _ _) hall
  intro a b ha hb hle hge
  have ha' := List.mem_filter.1 (hes.mem_iff.1 ha)
  have hb' := List.mem_filter.1 (hfs.mem_iff.1 hb)
  obtain ⟨m, hm⟩ := Option.isSome_iff_exists.1 ha'.2
  obtain ⟨n, hn⟩ := Option.isSome_iff_exists.1 hb'.2
  rw [hm, hn] at hle hge
  have hmn : m = n := le_antisymm hle hge
  subst hmn
  exact List.inj_on_of_nodup_map hnodup ha'.1 (hperm.mem_iff.2 hb'.1) (arrayIndex?_inj hm hn)

theorem tiedKeys_eq (key : String) (members : List (String × Json)) :
    tiedKeys localeCompare key members =
      ((otherEntries members).filter fun m =>
        decide (Ties (fun a b : String × Json => localeCompare a.1 b.1 ≤ 0) (key, .null) m)).map Prod.fst := by
  rw [tiedKeys, otherEntries, List.filter_filter, List.filter_map]
  congr 1
  apply List.filter_congr
  intro m _
  simp only [Function.comp, Bool.and_comm]
  rfl

theorem fromEntries_sortEntries_eq_iff (h : Collates localeCompare) {es fs : List (String × Json)}
    (hes : (es.map Prod.fst).Nodup) (hfs : (fs.map Prod.fst).Nodup) :
    fromEntries (sortEntries localeCompare es) = fromEntries (sortEntries localeCompare fs) ↔
      es.Perm fs ∧ ∀ key, tiedKeys localeCompare key es = tiedKeys localeCompare key fs := by
  have := h.total_keys
  have := h.trans_keys
  rw [fromEntries_eq (nodup_sortEntries hes), fromEntries_eq (nodup_sortEntries hfs)]
  constructor
  · intro heq
    constructor
    · obtain ⟨ms, hms, hperm⟩ := Json.perm_fromEntries (@nodup_sortEntries localeCompare _ hes)
      obtain ⟨ns, hns, hperm'⟩ := Json.perm_fromEntries (@nodup_sortEntries localeCompare _ hfs)
      rw [fromEntries_eq (nodup_sortEntries hes)] at hms
      rw [fromEntries_eq (nodup_sortEntries hfs), ← heq, hms] at hns
      cases hns
      exact ((hperm.trans (perm_sortEntries es)).symm.trans (hperm'.trans (perm_sortEntries fs)))
    · intro key
      have hothers := congrArg otherEntries (Json.obj.inj heq)
      rw [otherEntries_append, otherEntries_append, otherEntries, otherEntries, filter_sortEntries h,
        filter_sortEntries h] at hothers
      rw [tiedKeys_eq, tiedKeys_eq]
      congr 1
      exact insertionSort_eq_iff.1 hothers (key, .null)
  · rintro ⟨hperm, hties⟩
    have hsorted : (sortEntries localeCompare es).Perm (sortEntries localeCompare fs) :=
      ((perm_sortEntries es).trans hperm).trans (perm_sortEntries fs).symm
    rw [indexEntries_eq_of_perm (nodup_sortEntries hes) hsorted]
    congr 2
    rw [otherEntries, otherEntries, filter_sortEntries h, filter_sortEntries h]
    apply insertionSort_eq_iff.2
    intro e
    apply eq_of_keys_eq hes
    · exact fun m hm => (List.mem_filter.1 (List.mem_filter.1 hm).1).1
    · exact fun m hm => hperm.mem_iff.2 (List.mem_filter.1 (List.mem_filter.1 hm).1).1
    · have hkey := hties e.1
      rw [tiedKeys_eq, tiedKeys_eq] at hkey
      exact hkey

/-! ## Values -/

theorem canonicalJsonList_eq_map (xs : List Json) :
    canonicalJsonList localeCompare xs = xs.map (canonicalJson localeCompare) := by
  induction xs with
  | nil => rfl
  | cons x xs ih => rw [canonicalJsonList, ih, List.map_cons]

theorem canonicalJsonMembers_eq_map (ms : List (String × Json)) :
    canonicalJsonMembers localeCompare ms = ms.map fun m => (m.1, canonicalJson localeCompare m.2) := by
  induction ms with
  | nil => rfl
  | cons m ms ih =>
      obtain ⟨k, x⟩ := m
      rw [canonicalJsonMembers, ih, List.map_cons]

theorem canonicalJson_obj (ms : List (String × Json)) :
    canonicalJson localeCompare (.obj ms) =
      fromEntries (sortEntries localeCompare (ms.map fun m => (m.1, canonicalJson localeCompare m.2))) := by
  rw [canonicalJson, canonicalJsonMembers_eq_map]
  rfl

theorem keys_mapValues (f : Json → Json) (ms : List (String × Json)) :
    (ms.map fun m => (m.1, f m.2)).map Prod.fst = ms.map Prod.fst := by
  rw [List.map_map]
  rfl

theorem tiedKeys_mapValues (f : Json → Json) (key : String) (ms : List (String × Json)) :
    tiedKeys localeCompare key (ms.map fun m => (m.1, f m.2)) = tiedKeys localeCompare key ms := by
  rw [tiedKeys, tiedKeys, keys_mapValues]

theorem perm_mapValues_iff {f : Json → Json} {ms ns : List (String × Json)} (hms : (ms.map Prod.fst).Nodup)
    (hns : (ns.map Prod.fst).Nodup) :
    (ms.map fun m => (m.1, f m.2)).Perm (ns.map fun m => (m.1, f m.2)) ↔
      (ms.map Prod.fst).Perm (ns.map Prod.fst) ∧ ∀ m ∈ ms, ∀ y ∈ ns.lookup m.1, f m.2 = f y := by
  have hms' : ((ms.map fun m => (m.1, f m.2)).map Prod.fst).Nodup := by rwa [keys_mapValues]
  have hns' : ((ns.map fun m => (m.1, f m.2)).map Prod.fst).Nodup := by rwa [keys_mapValues]
  constructor
  · intro hperm
    have hkeys := hperm.map Prod.fst
    rw [keys_mapValues, keys_mapValues] at hkeys
    refine ⟨hkeys, fun m hm y hy => ?_⟩
    have hleft : (m.1, f m.2) ∈ ns.map fun m => (m.1, f m.2) := hperm.mem_iff.1 (List.mem_map.2 ⟨m, hm, rfl⟩)
    have hright : (m.1, f y) ∈ ns.map fun m => (m.1, f m.2) :=
      List.mem_map.2 ⟨(m.1, y), (Entries.mem_iff_lookup hns).2 hy, rfl⟩
    exact congrArg Prod.snd (List.inj_on_of_nodup_map hns' hleft hright rfl)
  · rintro ⟨hkeys, hvalues⟩
    apply (List.perm_ext_iff_of_nodup hms'.of_map hns'.of_map).2
    rintro ⟨k, v⟩
    constructor
    · intro hmem
      obtain ⟨m, hm, heq⟩ := List.mem_map.1 hmem
      cases heq
      obtain ⟨n, hn, hkey⟩ := List.mem_map.1 (hkeys.mem_iff.1 (List.mem_map.2 ⟨m, hm, rfl⟩))
      have hlookup : ns.lookup m.1 = some n.2 := (Entries.mem_iff_lookup hns).1 (hkey ▸ hn)
      rw [hvalues m hm n.2 hlookup]
      exact List.mem_map.2 ⟨n, hn, by rw [hkey]⟩
    · intro hmem
      obtain ⟨n, hn, heq⟩ := List.mem_map.1 hmem
      cases heq
      obtain ⟨m, hm, hkey⟩ := List.mem_map.1 (hkeys.mem_iff.2 (List.mem_map.2 ⟨n, hn, rfl⟩))
      have hlookup : ns.lookup m.1 = some n.2 := (Entries.mem_iff_lookup hns).1 (hkey ▸ hn)
      rw [← hvalues m hm n.2 hlookup]
      exact List.mem_map.2 ⟨m, hm, by rw [hkey]⟩

theorem canon_obj_eq_iff {ms ns : List (String × Json)} (hms : (ms.map Prod.fst).Nodup) :
    (Json.obj ms).canon = (Json.obj ns).canon ↔
      (ms.map fun m => (m.1, m.2.canon)).Perm (ns.map fun m => (m.1, m.2.canon)) := by
  constructor
  · intro h
    obtain ⟨ls, hls, hperm⟩ := Json.canon_obj ms
    obtain ⟨ls', hls', hperm'⟩ := Json.canon_obj ns
    rw [hls, hls'] at h
    cases h
    exact hperm.symm.trans hperm'
  · intro h
    rw [← Json.canonMembers_eq_map, ← Json.canonMembers_eq_map] at h
    exact Json.canon_obj_of_perm h hms

theorem tiesAlikeMembers_iff {ms ns : List (String × Json)} :
    TiesAlikeMembers localeCompare ms ns ↔ ∀ m ∈ ms, ∀ y ∈ ns.lookup m.1, TiesAlike localeCompare m.2 y := by
  induction ms with
  | nil => simp [TiesAlikeMembers]
  | cons m ms ih => simp [TiesAlikeMembers, ih]

theorem distinctKeysMembers_iff {ms : List (String × Json)} :
    DistinctKeysMembers ms ↔ ∀ m ∈ ms, DistinctKeys m.2 := by
  induction ms with
  | nil => simp [DistinctKeysMembers]
  | cons m ms ih => simp [DistinctKeysMembers, ih]

theorem canonicalJson_obj_eq_iff (h : Collates localeCompare) {ms ns : List (String × Json)}
    (hms : (ms.map Prod.fst).Nodup) (hns : (ns.map Prod.fst).Nodup)
    (hvalues : ∀ m ∈ ms, ∀ y ∈ ns.lookup m.1, canonicalJson localeCompare m.2 = canonicalJson localeCompare y ↔
      m.2.canon = y.canon ∧ TiesAlike localeCompare m.2 y) :
    canonicalJson localeCompare (.obj ms) = canonicalJson localeCompare (.obj ns) ↔
      (Json.obj ms).canon = (Json.obj ns).canon ∧ TiesAlike localeCompare (.obj ms) (.obj ns) := by
  rw [canonicalJson_obj, canonicalJson_obj, fromEntries_sortEntries_eq_iff h (by rwa [keys_mapValues])
    (by rwa [keys_mapValues]), perm_mapValues_iff hms hns, canon_obj_eq_iff hms, perm_mapValues_iff hms hns, TiesAlike,
    tiesAlikeMembers_iff]
  simp only [tiedKeys_mapValues]
  constructor
  · rintro ⟨⟨hkeys, heq⟩, hties⟩
    exact ⟨⟨hkeys, fun m hm y hy => ((hvalues m hm y hy).1 (heq m hm y hy)).1⟩, hties,
      fun m hm y hy => ((hvalues m hm y hy).1 (heq m hm y hy)).2⟩
  · rintro ⟨⟨hkeys, hcanon⟩, hties, halike⟩
    exact ⟨⟨hkeys, fun m hm y hy => (hvalues m hm y hy).2 ⟨hcanon m hm y hy, halike m hm y hy⟩⟩, hties⟩

mutual
theorem canonicalJson_eq_iff (h : Collates localeCompare) : (x y : Json) → DistinctKeys x → DistinctKeys y →
    (canonicalJson localeCompare x = canonicalJson localeCompare y ↔ x.canon = y.canon ∧ TiesAlike localeCompare x y)
  | .arr xs, y, hx, hy => by
      cases y with
      | arr ys =>
          rw [DistinctKeys] at hx hy
          rw [canonicalJson, canonicalJson, Json.canon_arr, Json.canon_arr, TiesAlike, Json.arr.injEq, Json.arr.injEq]
          exact canonicalJsonList_eq_iff h xs ys hx hy
      | _ => simp [canonicalJson.eq_def, Json.canon.eq_def, fromEntries]
  | .obj ms, y, hx, hy => by
      cases y with
      | obj ns =>
          rw [DistinctKeys] at hx hy
          apply canonicalJson_obj_eq_iff h hx.1 hy.1
          intro m hm y hmem
          apply canonicalJsonMembers_eq_iff h ms hx.2 m hm
          exact distinctKeysMembers_iff.1 hy.2 _ ((Entries.mem_iff_lookup hy.1).2 hmem)
      | _ => simp [canonicalJson.eq_def, Json.canon.eq_def, fromEntries]
  | .null, y, hx, hy => by cases y <;> simp [canonicalJson.eq_def, Json.canon.eq_def, TiesAlike.eq_def, fromEntries]
  | .bool b, y, hx, hy => by cases y <;> simp [canonicalJson.eq_def, Json.canon.eq_def, TiesAlike.eq_def, fromEntries]
  | .num q, y, hx, hy => by cases y <;> simp [canonicalJson.eq_def, Json.canon.eq_def, TiesAlike.eq_def, fromEntries]
  | .str s, y, hx, hy => by cases y <;> simp [canonicalJson.eq_def, Json.canon.eq_def, TiesAlike.eq_def, fromEntries]

theorem canonicalJsonList_eq_iff (h : Collates localeCompare) : (xs ys : List Json) → DistinctKeysElems xs →
    DistinctKeysElems ys → (canonicalJsonList localeCompare xs = canonicalJsonList localeCompare ys ↔
      xs.map Json.canon = ys.map Json.canon ∧ TiesAlikeElems localeCompare xs ys)
  | [], ys, hxs, hys => by cases ys <;> simp [canonicalJsonList, TiesAlikeElems]
  | x :: xs, [], hxs, hys => by simp [canonicalJsonList]
  | x :: xs, y :: ys, hxs, hys => by
      rw [DistinctKeysElems] at hxs hys
      rw [canonicalJsonList, canonicalJsonList, List.map_cons, List.map_cons, TiesAlikeElems, List.cons.injEq,
        List.cons.injEq, canonicalJson_eq_iff h x y hxs.1 hys.1, canonicalJsonList_eq_iff h xs ys hxs.2 hys.2]
      exact and_and_and_comm

theorem canonicalJsonMembers_eq_iff (h : Collates localeCompare) : (ms : List (String × Json)) → DistinctKeysMembers ms →
    ∀ m ∈ ms, ∀ y, DistinctKeys y → (canonicalJson localeCompare m.2 = canonicalJson localeCompare y ↔
      m.2.canon = y.canon ∧ TiesAlike localeCompare m.2 y)
  | [], _, _, hm, _, _ => nomatch hm
  | (k, x) :: ms, hms, m, hm, y, hy => by
      rw [DistinctKeysMembers] at hms
      rcases List.mem_cons.1 hm with rfl | hm
      · exact canonicalJson_eq_iff h x y hms.1 hy
      · exact canonicalJsonMembers_eq_iff h ms hms.2 m hm y hy
end

end Cantilune
