import Cantilune.Base.Json
import Mathlib.Data.String.Basic

/-!
# Objects of JavaScript

The order in which the host lists the members of an object, which is not the one in which they were set: keys that
look like array indices come first. It is lost in the canonical form of a value.
-/

namespace Cantilune

/-- The texts that JavaScript takes as indices and lists before all other keys. -/
def arrayIndex? (key : String) : Option Nat :=
  match key.toNat? with
  | some n => if toString n = key ∧ n < 2 ^ 32 - 1 then some n else none
  | none => none

/-- The members of an object built from these entries, in the order in which the host lists them. -/
def fromEntries (entries : List (String × Json)) : Json :=
  let members := (OrdMap.ofList entries).entries
  let indices := (members.filter fun m => (arrayIndex? m.1).isSome).insertionSort fun a b =>
    (arrayIndex? a.1).getD 0 ≤ (arrayIndex? b.1).getD 0
  .obj (indices ++ members.filter fun m => (arrayIndex? m.1).isNone)

end Cantilune

namespace Json

/-- Whatever the order of their members, objects that name none of them twice have one canonical form. -/
theorem canon_obj_of_perm {ms ns : List (String × Json)} (hperm : (canonMembers ms).Perm (canonMembers ns))
    (hnodup : (ms.map Prod.fst).Nodup) : (obj ms).canon = (obj ns).canon := by
  rw [canon.eq_def, canon.eq_def]
  simp only
  congr 1
  have hkeys : ((canonMembers ms).map Prod.fst).Nodup := by
    rw [canonMembers_eq_map, List.map_map]
    exact hnodup
  have hsorted := List.perm_insertionSort (fun a b : String × Json => a.1 ≤ b.1) (canonMembers ms)
  have hsorted' := List.perm_insertionSort (fun a b : String × Json => a.1 ≤ b.1) (canonMembers ns)
  refine List.Perm.eq_of_pairwise (fun a b ha hb hle hge => ?_)
    (List.pairwise_insertionSort _ _) (List.pairwise_insertionSort _ _) ((hsorted.trans hperm).trans hsorted'.symm)
  have ha' : a ∈ canonMembers ms := hsorted.mem_iff.1 ha
  have hb' : b ∈ canonMembers ms := hperm.mem_iff.2 (hsorted'.mem_iff.1 hb)
  exact List.inj_on_of_nodup_map hkeys ha' hb' (le_antisymm hle hge)

theorem perm_fromEntries {entries : List (String × Json)} (hnodup : (entries.map Prod.fst).Nodup) :
    ∃ ms, Cantilune.fromEntries entries = obj ms ∧ ms.Perm entries := by
  refine ⟨_, rfl, ?_⟩
  rw [OrdMap.entries_ofList hnodup]
  have hsorted := List.perm_insertionSort (fun a b : String × Json =>
    (Cantilune.arrayIndex? a.1).getD 0 ≤ (Cantilune.arrayIndex? b.1).getD 0)
      (entries.filter fun m => (Cantilune.arrayIndex? m.1).isSome)
  refine (hsorted.append_right _).trans ?_
  have hrest : (entries.filter fun m => (Cantilune.arrayIndex? m.1).isNone) =
      entries.filter fun m => !(Cantilune.arrayIndex? m.1).isSome := by
    simp
  rw [hrest]
  exact List.filter_append_perm _ entries

end Json
