import Mathlib.Geometry.Convex.Cone.Pointed
import Mathlib.Algebra.Order.Field.Basic
import Mathlib.Tactic.Module
import Mathlib.Tactic.Linarith

/-!
# A cone cut by a hyperplane

Vectors generate a cone. Those combinations on which a linear form is zero are generated by the vectors on
which it is zero, and by the combinations of one vector of either sign that cancel it.
-/

namespace Cone

open PointedCone

variable {K V : Type} [Field K] [LinearOrder K] [IsStrictOrderedRing K] [AddCommGroup V] [Module K V]
variable (f : V →ₗ[K] K) (S : Set V)

def cut : Set V :=
  {v | v ∈ S ∧ f v = 0} ∪ {v | ∃ p ∈ S, ∃ n ∈ S, 0 < f p ∧ f n < 0 ∧ v = (-f n) • p + f p • n}

variable {f S} {x p n : V}

theorem smul_mem_hull {c : K} (hc : 0 ≤ c) (hx : x ∈ hull K S) : c • x ∈ hull K S :=
  Submodule.smul_mem (hull K S) (⟨c, hc⟩ : {c : K // 0 ≤ c}) hx

/-- What a property that generators have and combinations keep says of the whole cone. -/
theorem hull_induction {P : V → Prop} (hmem : ∀ v ∈ S, P v) (hzero : P 0) (hadd : ∀ v w, P v → P w → P (v + w))
    (hsmul : ∀ (c : K) v, 0 ≤ c → P v → P (c • v)) (hx : x ∈ hull K S) : P x :=
  Submodule.span_induction (p := fun v _ => P v) hmem hzero (fun v w _ _ => hadd v w)
    (fun c v _ => hsmul c.1 v c.2) hx

theorem pos_of_mem_hull (hx : x ∈ hull K {v | v ∈ S ∧ 0 < f v}) : 0 ≤ f x ∧ (f x = 0 → x = 0) := by
  refine hull_induction (P := fun x => 0 ≤ f x ∧ (f x = 0 → x = 0)) (fun v hv => ?_) (by simp) ?_ ?_ hx
  · exact ⟨hv.2.le, fun h => absurd h hv.2.ne'⟩
  · rintro v w ⟨hv, hv₀⟩ ⟨hw, hw₀⟩
    rw [map_add]
    refine ⟨add_nonneg hv hw, fun h => ?_⟩
    rw [hv₀ (by linarith), hw₀ (by linarith), add_zero]
  · rintro c v hc ⟨hv, hv₀⟩
    rw [map_smul, smul_eq_mul]
    refine ⟨mul_nonneg hc hv, fun h => ?_⟩
    rcases mul_eq_zero.1 h with h | h
    · rw [h, zero_smul]
    · rw [hv₀ h, smul_zero]

theorem neg_of_mem_hull (hx : x ∈ hull K {v | v ∈ S ∧ f v < 0}) : f x ≤ 0 ∧ (f x = 0 → x = 0) := by
  have hset : {v | v ∈ S ∧ f v < 0} = {v | v ∈ S ∧ 0 < (-f) v} := by simp
  rw [hset] at hx
  simpa using pos_of_mem_hull hx

/-- A combination falls into three, by the sign of the form on the generators. -/
theorem exists_split (hx : x ∈ hull K S) : ∃ z p n, z ∈ hull K {v | v ∈ S ∧ f v = 0} ∧
    p ∈ hull K {v | v ∈ S ∧ 0 < f v} ∧ n ∈ hull K {v | v ∈ S ∧ f v < 0} ∧ x = z + p + n := by
  refine hull_induction (P := fun x => ∃ z p n, z ∈ hull K {v | v ∈ S ∧ f v = 0} ∧
    p ∈ hull K {v | v ∈ S ∧ 0 < f v} ∧ n ∈ hull K {v | v ∈ S ∧ f v < 0} ∧ x = z + p + n) (fun v hv => ?_) ?_ ?_ ?_ hx
  · rcases lt_trichotomy (f v) 0 with h | h | h
    · exact ⟨0, 0, v, zero_mem _, zero_mem _, subset_hull ⟨hv, h⟩, by simp⟩
    · exact ⟨v, 0, 0, subset_hull ⟨hv, h⟩, zero_mem _, zero_mem _, by simp⟩
    · exact ⟨0, v, 0, zero_mem _, subset_hull ⟨hv, h⟩, zero_mem _, by simp⟩
  · exact ⟨0, 0, 0, zero_mem _, zero_mem _, zero_mem _, by simp⟩
  · rintro _ _ ⟨z, p, n, hz, hp, hn, rfl⟩ ⟨z', p', n', hz', hp', hn', rfl⟩
    exact ⟨z + z', p + p', n + n', add_mem hz hz', add_mem hp hp', add_mem hn hn', by abel⟩
  · rintro c _ hc ⟨z, p, n, hz, hp, hn, rfl⟩
    exact ⟨c • z, c • p, c • n, smul_mem_hull hc hz, smul_mem_hull hc hp, smul_mem_hull hc hn, by
      rw [smul_add, smul_add]⟩

theorem cancel_mem_hull (hp : p ∈ hull K {v | v ∈ S ∧ 0 < f v}) (hn : n ∈ hull K {v | v ∈ S ∧ f v < 0}) :
    (-f n) • p + f p • n ∈ hull K (cut f S) := by
  refine hull_induction (P := fun p => (-f n) • p + f p • n ∈ hull K (cut f S)) (fun p hp => ?_) (by simp) ?_ ?_ hp
  · refine hull_induction (P := fun n => (-f n) • p + f p • n ∈ hull K (cut f S)) (fun n hn => ?_) (by simp) ?_ ?_ hn
    · exact subset_hull (.inr ⟨p, hp.1, n, hn.1, hp.2, hn.2, rfl⟩)
    · intro n n' hn hn'
      have hsum : (-f (n + n')) • p + f p • (n + n') = (-f n) • p + f p • n + ((-f n') • p + f p • n') := by
        rw [map_add]
        module
      rw [hsum]
      exact add_mem hn hn'
    · intro c n hc hn
      have hscale : (-f (c • n)) • p + f p • (c • n) = c • ((-f n) • p + f p • n) := by
        rw [map_smul, smul_eq_mul]
        module
      rw [hscale]
      exact smul_mem_hull hc hn
  · intro p p' hp hp'
    have hsum : (-f n) • (p + p') + f (p + p') • n = (-f n) • p + f p • n + ((-f n) • p' + f p' • n) := by
      rw [map_add]
      module
    rw [hsum]
    exact add_mem hp hp'
  · intro c p hc hp
    have hscale : (-f n) • (c • p) + f (c • p) • n = c • ((-f n) • p + f p • n) := by
      rw [map_smul, smul_eq_mul]
      module
    rw [hscale]
    exact smul_mem_hull hc hp

theorem mem_hull_cut (hx : x ∈ hull K S) (hfx : f x = 0) : x ∈ hull K (cut f S) := by
  obtain ⟨z, p, n, hz, hp, hn, rfl⟩ := exists_split (f := f) hx
  have hzeros : hull K {v | v ∈ S ∧ f v = 0} ≤ hull K (cut f S) := Submodule.span_mono Set.subset_union_left
  have hfz : f z = 0 := hull_induction (P := fun z => f z = 0) (fun v hv => hv.2) (map_zero f)
    (fun v w hv hw => by rw [map_add, hv, hw, add_zero]) (fun c v _ hv => by rw [map_smul, hv, smul_zero]) hz
  have hbalance : f p = -f n := by
    rw [map_add, map_add, hfz, zero_add] at hfx
    linarith
  by_cases hfp : f p = 0
  · have hp₀ : p = 0 := (pos_of_mem_hull hp).2 hfp
    have hn₀ : n = 0 := (neg_of_mem_hull hn).2 (by linarith)
    rw [hp₀, hn₀, add_zero, add_zero]
    exact hzeros hz
  · have hpos : 0 ≤ (f p)⁻¹ := inv_nonneg.2 (pos_of_mem_hull hp).1
    have hcancel : p + n = (f p)⁻¹ • ((-f n) • p + f p • n) := by
      rw [← hbalance, ← smul_add, smul_smul, inv_mul_cancel₀ hfp, one_smul]
    rw [add_assoc, hcancel]
    exact add_mem (hzeros hz) (smul_mem_hull hpos (cancel_mem_hull hp hn))

end Cone
