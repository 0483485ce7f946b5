import Cantilune.Base.JsObject
import Cantilune.Base.JsString
import Cantilune.Base.JsonText

/-!
# The canonical encoding of evidence

A value is put into a form in which the members of objects are sorted, printed, and hashed. The form forgets the
order of members, and a member that is named `__proto__`, which an assignment does not make.
-/

namespace Cantilune.Conformance

def maxDepth : Nat := 32

def maxKeys : Nat := 10000

def assignMembers (entries : List (String × Json)) : Json :=
  fromEntries (entries.filter fun m => m.1 ≠ "__proto__")

mutual
/-- `none` where the value is too deep, or an object has too many keys. -/
def canonicalizeJson (localeCompare : LocaleCompare) (depth : Nat) : Json → Option Json
  | .arr xs =>
      if maxDepth < depth then none
      else (canonicalizeElems localeCompare (depth + 1) xs).map .arr
  | .obj ms =>
      if maxDepth < depth then none
      else if maxKeys < ms.length then none
      else
        (canonicalizeMembers localeCompare (depth + 1) ms).map fun ns =>
          assignMembers (ns.insertionSort fun a b => localeCompare a.1 b.1 ≤ 0)
  | j => if maxDepth < depth then none else some j

def canonicalizeElems (localeCompare : LocaleCompare) (depth : Nat) : List Json → Option (List Json)
  | [] => some []
  | x :: xs => do return (← canonicalizeJson localeCompare depth x) :: (← canonicalizeElems localeCompare depth xs)

def canonicalizeMembers (localeCompare : LocaleCompare) (depth : Nat) :
    List (String × Json) → Option (List (String × Json))
  | [] => some []
  | (k, x) :: ms => do
      return (k, ← canonicalizeJson localeCompare depth x) :: (← canonicalizeMembers localeCompare depth ms)
end

/-- What the host contributes: the collation, how it prints numbers, and the hash. -/
structure EvidenceHost where
  localeCompare : LocaleCompare
  print : ℚ → String
  sha256 : ByteArray → String

variable (host : EvidenceHost)

def canonicalJsonBytes (value : Json) : Option ByteArray :=
  (canonicalizeJson host.localeCompare 0 value).map fun canonical => (canonical.stringify host.print).toUTF8

def computeEvidenceDigest (value : Json) : Option String := (canonicalJsonBytes host value).map host.sha256

/-! ## What the form keeps -/

mutual
/-- No object names a member twice, or one of them `__proto__`. -/
def Plain : Json → Prop
  | .arr xs => PlainElems xs
  | .obj ms => (ms.map Prod.fst).Nodup ∧ "__proto__" ∉ ms.map Prod.fst ∧ PlainMembers ms
  | _ => True

def PlainElems : List Json → Prop
  | [] => True
  | x :: xs => Plain x ∧ PlainElems xs

def PlainMembers : List (String × Json) → Prop
  | [] => True
  | (_, x) :: ms => Plain x ∧ PlainMembers ms
end

section Keeps

variable {localeCompare : LocaleCompare}

theorem canonicalizeMembers_keys {depth : Nat} {ms ns : List (String × Json)}
    (h : canonicalizeMembers localeCompare depth ms = some ns) : ns.map Prod.fst = ms.map Prod.fst := by
  induction ms generalizing ns with
  | nil =>
      cases h
      rfl
  | cons m ms ih =>
      obtain ⟨k, x⟩ := m
      rw [canonicalizeMembers] at h
      obtain ⟨j, _, h⟩ := Option.bind_eq_some_iff.1 h
      obtain ⟨rest, hrest, h⟩ := Option.bind_eq_some_iff.1 h
      cases h
      rw [List.map_cons, List.map_cons, ih hrest]

mutual
theorem canon_canonicalizeJson : (x : Json) → {depth : Nat} → {j : Json} → Plain x →
    canonicalizeJson localeCompare depth x = some j → j.canon = x.canon
  | .arr xs, depth, j, hplain, h => by
      rw [canonicalizeJson] at h
      split at h
      · cases h
      · obtain ⟨ys, hys, rfl⟩ := Option.map_eq_some_iff.1 h
        rw [Json.canon.eq_def, Json.canon.eq_def]
        simp only
        rw [Plain] at hplain
        rw [canonList_canonicalizeElems xs hplain hys]
  | .obj ms, depth, j, hplain, h => by
      rw [canonicalizeJson] at h
      split at h
      · cases h
      split at h
      · cases h
      · obtain ⟨ns, hns, rfl⟩ := Option.map_eq_some_iff.1 h
        rw [Plain] at hplain
        obtain ⟨hnodup, hproto, hmembers⟩ := hplain
        have hkeys := canonicalizeMembers_keys hns
        have hsorted := List.perm_insertionSort (fun a b : String × Json => localeCompare a.1 b.1 ≤ 0) ns
        have hall : (ns.insertionSort fun a b => localeCompare a.1 b.1 ≤ 0).filter (fun m => m.1 ≠ "__proto__") =
            ns.insertionSort fun a b => localeCompare a.1 b.1 ≤ 0 := by
          refine List.filter_eq_self.2 fun m hm => decide_eq_true fun heq => hproto ?_
          rw [← hkeys]
          exact List.mem_map.2 ⟨m, hsorted.mem_iff.1 hm, heq⟩
        have hsortedKeys : ((ns.insertionSort fun a b => localeCompare a.1 b.1 ≤ 0).map Prod.fst).Nodup := by
          rw [(hsorted.map Prod.fst).nodup_iff, hkeys]
          exact hnodup
        obtain ⟨rs, hrs, hperm⟩ := Json.perm_fromEntries hsortedKeys
        rw [assignMembers, hall, hrs]
        refine Json.canon_obj_of_perm ?_ ((hperm.map Prod.fst).nodup_iff.2 hsortedKeys)
        rw [← canonMembers_canonicalizeMembers ms hmembers hns, Json.canonMembers_eq_map, Json.canonMembers_eq_map]
        exact (hperm.trans hsorted).map _
  | .null, depth, j, hplain, h => by
      rw [canonicalizeJson.eq_def] at h
      dsimp only at h
      split at h <;> cases h
      rfl
  | .bool b, depth, j, hplain, h => by
      rw [canonicalizeJson.eq_def] at h
      dsimp only at h
      split at h <;> cases h
      rfl
  | .num q, depth, j, hplain, h => by
      rw [canonicalizeJson.eq_def] at h
      dsimp only at h
      split at h <;> cases h
      rfl
  | .str s, depth, j, hplain, h => by
      rw [canonicalizeJson.eq_def] at h
      dsimp only at h
      split at h <;> cases h
      rfl

theorem canonList_canonicalizeElems : (xs : List Json) → {depth : Nat} → {ys : List Json} → PlainElems xs →
    canonicalizeElems localeCompare depth xs = some ys → Json.canonList ys = Json.canonList xs
  | [], depth, ys, hplain, h => by
      cases h
      rfl
  | x :: xs, depth, ys, hplain, h => by
      rw [canonicalizeElems] at h
      obtain ⟨j, hj, h⟩ := Option.bind_eq_some_iff.1 h
      obtain ⟨rest, hrest, h⟩ := Option.bind_eq_some_iff.1 h
      cases h
      rw [PlainElems] at hplain
      rw [Json.canonList, Json.canonList, canon_canonicalizeJson x hplain.1 hj,
        canonList_canonicalizeElems xs hplain.2 hrest]

theorem canonMembers_canonicalizeMembers : (ms : List (String × Json)) → {depth : Nat} → {ns : List (String × Json)} →
    PlainMembers ms → canonicalizeMembers localeCompare depth ms = some ns →
      Json.canonMembers ns = Json.canonMembers ms
  | [], depth, ns, hplain, h => by
      cases h
      rfl
  | (k, x) :: ms, depth, ns, hplain, h => by
      rw [canonicalizeMembers] at h
      obtain ⟨j, hj, h⟩ := Option.bind_eq_some_iff.1 h
      obtain ⟨rest, hrest, h⟩ := Option.bind_eq_some_iff.1 h
      cases h
      rw [PlainMembers] at hplain
      rw [Json.canonMembers, Json.canonMembers, canon_canonicalizeJson x hplain.1 hj,
        canonMembers_canonicalizeMembers ms hplain.2 hrest]
end

end Keeps

/-! ## Values built of literals -/

/-- A plain value that has a form at the depth. -/
structure Encodes (localeCompare : LocaleCompare) (depth : Nat) (x : Json) : Prop where
  plain : Plain x
  form : ∃ j, canonicalizeJson localeCompare depth x = some j

section Literals

variable {localeCompare : LocaleCompare} {depth : Nat}

theorem encodes_str (hdepth : depth ≤ maxDepth) (s : String) : Encodes localeCompare depth (.str s) := by
  refine ⟨by rw [Plain.eq_def]; trivial, .str s, ?_⟩
  rw [canonicalizeJson.eq_def]
  exact if_neg (Nat.not_lt.2 hdepth)

theorem encodes_num (hdepth : depth ≤ maxDepth) (q : ℚ) : Encodes localeCompare depth (.num q) := by
  refine ⟨by rw [Plain.eq_def]; trivial, .num q, ?_⟩
  rw [canonicalizeJson.eq_def]
  exact if_neg (Nat.not_lt.2 hdepth)

theorem encodes_arr (hdepth : depth ≤ maxDepth) {xs : List Json}
    (h : ∀ x ∈ xs, Encodes localeCompare (depth + 1) x) : Encodes localeCompare depth (.arr xs) := by
  obtain ⟨hplain, ys, hys⟩ : PlainElems xs ∧ ∃ ys, canonicalizeElems localeCompare (depth + 1) xs = some ys := by
    induction xs with
    | nil => exact ⟨trivial, [], rfl⟩
    | cons x xs ih =>
        obtain ⟨hx, j, hj⟩ := h x List.mem_cons_self
        obtain ⟨hxs, ys, hys⟩ := ih fun y hy => h y (List.mem_cons_of_mem _ hy)
        exact ⟨⟨hx, hxs⟩, j :: ys, by rw [canonicalizeElems, hj, hys]; rfl⟩
  exact ⟨by rw [Plain]; exact hplain, .arr ys, by rw [canonicalizeJson, if_neg (Nat.not_lt.2 hdepth), hys]; rfl⟩

theorem encodes_obj (hdepth : depth ≤ maxDepth) {ms : List (String × Json)} (hkeys : ms.length ≤ maxKeys)
    (hnodup : (ms.map Prod.fst).Nodup) (hproto : "__proto__" ∉ ms.map Prod.fst)
    (h : ∀ m ∈ ms, Encodes localeCompare (depth + 1) m.2) : Encodes localeCompare depth (.obj ms) := by
  obtain ⟨hplain, ns, hns⟩ :
      PlainMembers ms ∧ ∃ ns, canonicalizeMembers localeCompare (depth + 1) ms = some ns := by
    clear hkeys hnodup hproto
    induction ms with
    | nil => exact ⟨trivial, [], rfl⟩
    | cons m ms ih =>
        obtain ⟨hm, j, hj⟩ := h m List.mem_cons_self
        obtain ⟨hms, ns, hns⟩ := ih fun n hn => h n (List.mem_cons_of_mem _ hn)
        exact ⟨⟨hm, hms⟩, (m.1, j) :: ns, by rw [canonicalizeMembers, hj, hns]; rfl⟩
  refine ⟨by rw [Plain]; exact ⟨hnodup, hproto, hplain⟩,
    assignMembers (ns.insertionSort fun a b => localeCompare a.1 b.1 ≤ 0), ?_⟩
  rw [canonicalizeJson, if_neg (Nat.not_lt.2 hdepth), if_neg (Nat.not_lt.2 hkeys), hns]
  rfl

theorem encodes_record (hdepth : depth ≤ maxDepth) {members : List (String × Option Json)}
    (hkeys : members.length ≤ maxKeys) (hnodup : (members.map Prod.fst).Nodup)
    (hproto : "__proto__" ∉ members.map Prod.fst)
    (h : ∀ k x, (k, some x) ∈ members → Encodes localeCompare (depth + 1) x) :
    Encodes localeCompare depth (.record members) := by
  have hsub : ((members.filterMap fun m => m.2.map fun v => (m.1, v)).map Prod.fst).Sublist (members.map Prod.fst) := by
    clear hkeys hnodup hproto h
    induction members with
    | nil => exact .slnil
    | cons m members ih =>
        obtain ⟨k, v⟩ := m
        cases v with
        | none => exact ih.cons k
        | some v => exact ih.cons_cons k
  refine encodes_obj hdepth (le_trans (List.length_filterMap_le _ _) hkeys) (hnodup.sublist hsub)
    (fun hmem => hproto (hsub.subset hmem)) fun m hm => ?_
  obtain ⟨⟨k, v⟩, hmem, heq⟩ := List.mem_filterMap.1 hm
  obtain ⟨x, rfl, rfl⟩ := Option.map_eq_some_iff.1 heq
  exact h k x hmem

end Literals

variable {host}

theorem Encodes.digest {x : Json} (h : Encodes host.localeCompare 0 x) :
    ∃ digest, computeEvidenceDigest host x = some digest := by
  obtain ⟨_, j, hj⟩ := h
  exact ⟨_, by rw [computeEvidenceDigest, canonicalJsonBytes, hj]; rfl⟩

theorem canon_eq_of_digest_eq (hhash : Function.Injective host.sha256) (hprint : Json.PrintsNumbers host.print)
    {x y : Json} {digest : String} (hx : Plain x) (hy : Plain y) (hdigest : computeEvidenceDigest host x = some digest)
    (hdigest' : computeEvidenceDigest host y = some digest) : x.canon = y.canon := by
  obtain ⟨bytes, hbytes, rfl⟩ := Option.map_eq_some_iff.1 hdigest
  obtain ⟨bytes', hbytes', heq⟩ := Option.map_eq_some_iff.1 hdigest'
  cases hhash heq
  obtain ⟨j, hj, hj'⟩ := Option.map_eq_some_iff.1 hbytes
  obtain ⟨k, hk, hk'⟩ := Option.map_eq_some_iff.1 hbytes'
  have htext : j.stringify host.print = k.stringify host.print := String.toByteArray_inj.1 (hj'.trans hk'.symm)
  rw [← canon_canonicalizeJson x hx hj, ← canon_canonicalizeJson y hy hk, Json.stringify_injective hprint htext]

end Cantilune.Conformance
