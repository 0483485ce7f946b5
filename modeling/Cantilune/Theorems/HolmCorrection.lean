import Mathlib.Tactic.Linarith
import Mathlib.Data.List.Perm.Basic
import Mathlib.Data.List.FinRange
import Mathlib.Data.Fintype.Perm
import Cantilune.Evaluation.MetricObservation

/-!
# The Holm correction

The two loops run over a sorted copy and write by place. What they write depends on the value of the test alone: the
largest `x` times the number of values that are at least `x`, over the values `x` up to it.
-/

namespace Cantilune

/-! ## Ranks in a sorted list -/

section Ranks

variable {l : List ℚ}

/-- The number of values that are at least `x`. -/
def countGE (l : List ℚ) (x : ℚ) : Nat := l.countP fun y => x ≤ y

theorem countGE_perm {l' : List ℚ} (h : l.Perm l') (x : ℚ) : countGE l x = countGE l' x := h.countP_eq _

theorem countGE_le_length (l : List ℚ) (x : ℚ) : countGE l x ≤ l.length := List.countP_le_length

theorem countGE_pos {x : ℚ} (h : x ∈ l) : 0 < countGE l x :=
  List.countP_pos_iff.2 ⟨x, h, by simp⟩

theorem getElem_le_getElem (hsorted : l.Pairwise (· ≤ ·)) {i j : Nat} (hi : i < l.length) (hj : j < l.length)
    (hij : i ≤ j) : l[i] ≤ l[j] := by
  rcases hij.eq_or_lt with rfl | hlt
  · exact le_rfl
  · exact List.pairwise_iff_getElem.1 hsorted i j hi hj hlt

theorem le_getElem_drop (hsorted : l.Pairwise (· ≤ ·)) {k : Nat} (hk : k < l.length) :
    ∀ y ∈ l.drop k, l[k] ≤ y := by
  intro y hy
  obtain ⟨j, hj, rfl⟩ := List.getElem_of_mem hy
  rw [List.length_drop] at hj
  rw [List.getElem_drop]
  exact getElem_le_getElem hsorted hk (by omega) (Nat.le_add_right k j)

/-- The values from rank `k` on are at least the one of rank `k`. -/
theorem length_sub_le_countGE (hsorted : l.Pairwise (· ≤ ·)) {k : Nat} (hk : k < l.length) :
    l.length - k ≤ countGE l l[k] := by
  have hdrop : (l.drop k).countP (fun y => l[k] ≤ y) = (l.drop k).length :=
    List.countP_eq_length.2 fun y hy => by simpa using le_getElem_drop hsorted hk y hy
  calc l.length - k = (l.drop k).length := by rw [List.length_drop]
    _ = (l.drop k).countP fun y => l[k] ≤ y := hdrop.symm
    _ ≤ countGE l l[k] := (List.drop_sublist k l).countP_le

theorem exists_first_rank (hsorted : l.Pairwise (· ≤ ·)) {x : ℚ} (hx : x ∈ l) :
    ∃ k, ∃ hk : k < l.length, l[k] = x ∧ countGE l x = l.length - k ∧ ∀ j (hj : j < k), l[j] < x := by
  obtain ⟨k, hk, hat, hbefore⟩ : ∃ k, ∃ hk : k < l.length, x ≤ l[k] ∧ ∀ j (hj : j < k), l[j] < x := by
    have hk : (l.findIdx fun y => decide (x ≤ y)) < l.length :=
      List.findIdx_lt_length_of_exists ⟨x, hx, by simp⟩
    refine ⟨_, hk, ?_, fun j hj => ?_⟩
    · simpa using List.findIdx_getElem (w := hk)
    · simpa using List.not_of_lt_findIdx hj
  have heq : l[k] = x := by
    apply le_antisymm _ hat
    obtain ⟨j, hj, rfl⟩ := List.getElem_of_mem hx
    apply getElem_le_getElem hsorted hk hj
    by_contra hlt
    exact lt_irrefl _ (hbefore j (not_le.1 hlt))
  refine ⟨k, hk, heq, ?_, hbefore⟩
  have htake : (l.take k).countP (fun y => x ≤ y) = 0 := by
    apply List.countP_eq_zero.2
    intro y hy
    obtain ⟨j, hj, rfl⟩ := List.getElem_of_mem hy
    have hlt : j < k := by
      rw [List.length_take] at hj
      exact hj.trans_le (min_le_left _ _)
    simpa using hbefore j hlt
  apply le_antisymm
  · calc countGE l x = (l.take k ++ l.drop k).countP (fun y => x ≤ y) := by rw [List.take_append_drop, countGE]
      _ = (l.drop k).countP (fun y => x ≤ y) := by rw [List.countP_append, htake, Nat.zero_add]
      _ ≤ (l.drop k).length := List.countP_le_length
      _ = l.length - k := List.length_drop
  · have hcount := length_sub_le_countGE hsorted hk
    rwa [heq] at hcount

end Ranks

/-! ## The loops -/

section Loops

variable {m i : Nat} {running c alpha : ℚ} {order before after : List RankedP} {test : RankedP}
  {adjustedByIndex : List (Option ℚ)}

def runningMax (m : Nat) : List RankedP → Nat → ℚ → ℚ
  | [], _, running => running
  | test :: order, i, running => runningMax m order (i + 1) (max running (min 1 (test.p * ((m : ℚ) - (i : ℚ)))))

theorem runningMax_le_iff : runningMax m order i running ≤ c ↔
    running ≤ c ∧ ∀ k (hk : k < order.length), min 1 (order[k].p * ((m : ℚ) - ((i + k : Nat) : ℚ))) ≤ c := by
  induction order generalizing i running with
  | nil => simp [runningMax]
  | cons test order ih =>
      rw [runningMax, ih, max_le_iff, and_assoc]
      refine and_congr_right fun _ => ⟨fun ⟨hfirst, hrest⟩ k hk => ?_, fun h => ⟨?_, fun k hk => ?_⟩⟩
      · cases k with
        | zero => exact hfirst
        | succ k =>
            have hkth := hrest k (Nat.lt_of_succ_lt_succ hk)
            rwa [Nat.add_right_comm] at hkth
      · exact h 0 (Nat.succ_pos _)
      · have hkth := h (k + 1) (Nat.succ_lt_succ hk)
        rwa [← Nat.add_assoc, Nat.add_right_comm] at hkth

theorem adjustLoop_other {j : Nat} (h : j ∉ order.map (·.index)) :
    (adjustLoop m order i running adjustedByIndex)[j]? = adjustedByIndex[j]? := by
  induction order generalizing i running adjustedByIndex with
  | nil => rfl
  | cons test order ih =>
      rw [List.map_cons, List.mem_cons, not_or] at h
      rw [adjustLoop, ih h.2, List.getElem?_set_ne (Ne.symm h.1)]

theorem adjustLoop_get (hnodup : ((before ++ test :: after).map (·.index)).Nodup)
    (hlen : test.index < adjustedByIndex.length) :
    (adjustLoop m (before ++ test :: after) i running adjustedByIndex)[test.index]? =
      some (some (runningMax m (before ++ [test]) i running)) := by
  induction before generalizing i running adjustedByIndex with
  | nil =>
      have hother : test.index ∉ after.map (·.index) := (List.nodup_cons.1 hnodup).1
      rw [List.nil_append, adjustLoop, adjustLoop_other hother, List.getElem?_set_self hlen]
      rfl
  | cons first before ih =>
      rw [List.cons_append, adjustLoop, ih (List.nodup_cons.1 hnodup).2 (by rwa [List.length_set])]
      rfl

/-- Whether an entry of the first loop is at most `alpha`. -/
def atMost (alpha : ℚ) : Option ℚ → Bool
  | some adjusted => decide (adjusted ≤ alpha)
  | none => false

/-- The step-down flag stands as long as the running maximum is at most `alpha`. -/
theorem rejectLoop_eq_map (halpha : alpha < 1) (hranks : i + order.length ≤ m)
    (hnodup : (order.map (·.index)).Nodup)
    (hempty : ∀ t ∈ order, adjustedByIndex[t.index]? = some none) :
    rejectLoop m alpha order i (decide (running ≤ alpha)) (adjustedByIndex.map (atMost alpha)) =
      (adjustLoop m order i running adjustedByIndex).map (atMost alpha) := by
  induction order generalizing i running adjustedByIndex with
  | nil => rfl
  | cons test order ih =>
      rw [List.map_cons, List.nodup_cons] at hnodup
      have hpos : (0 : ℚ) < (m : ℚ) - (i : ℚ) := by
        have hlt : (i : ℚ) < (m : ℚ) := by
          rw [List.length_cons] at hranks
          exact_mod_cast (by omega : i < m)
        linarith
      have hcandidate : test.p ≤ alpha / ((m : ℚ) - (i : ℚ)) ↔ min 1 (test.p * ((m : ℚ) - (i : ℚ))) ≤ alpha := by
        rw [le_div_iff₀ hpos, min_le_iff, or_iff_right (not_le.2 halpha)]
      have hnext : ∀ t ∈ order, (adjustedByIndex.set test.index
          (some (max running (min 1 (test.p * ((m : ℚ) - (i : ℚ)))))))[t.index]? = some none := by
        intro t ht
        have hne : test.index ≠ t.index := fun h => hnodup.1 (h ▸ List.mem_map_of_mem ht)
        rw [List.getElem?_set_ne hne]
        exact hempty t (List.mem_cons_of_mem _ ht)
      rw [adjustLoop, ← ih (by rw [List.length_cons] at hranks; omega) hnodup.2 hnext, List.map_set, rejectLoop]
      by_cases hreject : running ≤ alpha ∧ test.p ≤ alpha / ((m : ℚ) - (i : ℚ))
      · have hmax : max running (min 1 (test.p * ((m : ℚ) - (i : ℚ)))) ≤ alpha :=
          max_le hreject.1 (hcandidate.1 hreject.2)
        simp [hreject.1, hreject.2, hmax, atMost]
      · have hmax : ¬ max running (min 1 (test.p * ((m : ℚ) - (i : ℚ)))) ≤ alpha := by
          rw [max_le_iff, ← hcandidate]
          exact hreject
        have hsame : (adjustedByIndex.map (atMost alpha)).set test.index false =
            adjustedByIndex.map (atMost alpha) := by
          have hfalse : (adjustedByIndex.map (atMost alpha))[test.index]? = some false := by
            rw [List.getElem?_map, hempty test List.mem_cons_self]
            rfl
          obtain ⟨hlt, hget⟩ := List.getElem?_eq_some_iff.1 hfalse
          rw [← hget, List.set_getElem_self]
        rw [if_neg (by simpa using hreject), atMost, decide_eq_false hmax, hsame]

end Loops

/-! ## The sorted copy -/

section Order

variable {rawP rawP' : List ℚ} {alpha : ℚ}

theorem RankedP.before_iff (a b : RankedP) : a.before b ↔ a.p < b.p ∨ a.p = b.p ∧ a.index ≤ b.index := by
  unfold RankedP.before RankedP.compare
  by_cases h : a.p = b.p
  · simp [h]
  · simp [sub_ne_zero.2 h, h, lt_iff_le_and_ne]

instance : Std.Total RankedP.before := ⟨fun a b => by
  rw [RankedP.before_iff, RankedP.before_iff]
  rcases lt_trichotomy a.p b.p with h | h | h
  · exact .inl (.inl h)
  · rcases Nat.le_total a.index b.index with hle | hle
    · exact .inl (.inr ⟨h, hle⟩)
    · exact .inr (.inr ⟨h.symm, hle⟩)
  · exact .inr (.inl h)⟩

instance : IsTrans RankedP RankedP.before := ⟨fun a b c hab hbc => by
  rw [RankedP.before_iff] at hab hbc ⊢
  rcases hab with hab | ⟨hab, hle⟩
  · rcases hbc with hbc | ⟨hbc, -⟩
    · exact .inl (hab.trans hbc)
    · exact .inl (hbc ▸ hab)
  · rcases hbc with hbc | ⟨hbc, hle'⟩
    · exact .inl (hab ▸ hbc)
    · exact .inr ⟨hab.trans hbc, hle.trans hle'⟩⟩

theorem rankedPs_p (rawP : List ℚ) : (rankedPs rawP).map (·.p) = rawP := by
  rw [rankedPs, List.map_map]
  exact List.zipIdx_map_fst _ _

theorem rankedPs_index (rawP : List ℚ) : (rankedPs rawP).map (·.index) = List.range rawP.length := by
  rw [rankedPs, List.map_map, List.range_eq_range']
  exact List.zipIdx_map_snd _ _

theorem holmOrder_perm (rawP : List ℚ) : (holmOrder rawP).Perm (rankedPs rawP) := List.perm_insertionSort _ _

theorem holmOrder_p_perm (rawP : List ℚ) : ((holmOrder rawP).map (·.p)).Perm rawP := by
  have h := (holmOrder_perm rawP).map (·.p)
  rwa [rankedPs_p] at h

theorem holmOrder_length (rawP : List ℚ) : (holmOrder rawP).length = rawP.length := by
  simpa using (holmOrder_p_perm rawP).length_eq

theorem holmOrder_index_perm (rawP : List ℚ) :
    ((holmOrder rawP).map (·.index)).Perm (List.range rawP.length) := by
  rw [← rankedPs_index]
  exact (holmOrder_perm rawP).map _

theorem holmOrder_sorted (rawP : List ℚ) : ((holmOrder rawP).map (·.p)).Pairwise (· ≤ ·) := by
  rw [List.pairwise_map]
  apply (List.pairwise_insertionSort RankedP.before (rankedPs rawP)).imp
  intro a b hab
  rcases (RankedP.before_iff a b).1 hab with h | ⟨h, -⟩
  · exact h.le
  · exact h.le

/-! ## The adjusted value -/

/-- The largest candidate among the values up to `v`, each taken with the number of values it does not exceed. -/
def holmAdjusted (rawP : List ℚ) (v : ℚ) : ℚ :=
  ((rawP.filter fun x => x ≤ v).map fun x => min 1 (x * (countGE rawP x : ℚ))).foldr max 0

theorem foldr_max_le_iff {l : List ℚ} {c : ℚ} : l.foldr max 0 ≤ c ↔ 0 ≤ c ∧ ∀ x ∈ l, x ≤ c := by
  induction l with
  | nil => simp
  | cons x l ih =>
      rw [List.foldr_cons, max_le_iff, ih, List.forall_mem_cons]
      exact and_left_comm

theorem holmAdjusted_le_iff {v c : ℚ} :
    holmAdjusted rawP v ≤ c ↔ 0 ≤ c ∧ ∀ x ∈ rawP, x ≤ v → min 1 (x * (countGE rawP x : ℚ)) ≤ c := by
  rw [holmAdjusted, foldr_max_le_iff]
  simp only [List.forall_mem_map, List.mem_filter, decide_eq_true_eq, and_imp]

theorem holmAdjusted_perm (h : rawP.Perm rawP') (v : ℚ) : holmAdjusted rawP v = holmAdjusted rawP' v := by
  have hle : ∀ c, holmAdjusted rawP v ≤ c ↔ holmAdjusted rawP' v ≤ c := fun c => by
    simp only [holmAdjusted_le_iff, h.mem_iff, countGE_perm h]
  exact le_antisymm ((hle _).2 le_rfl) ((hle _).1 le_rfl)

theorem holmAdjusted_mono {v w : ℚ} (h : v ≤ w) : holmAdjusted rawP v ≤ holmAdjusted rawP w := by
  obtain ⟨hnonneg, hall⟩ := holmAdjusted_le_iff.1 (le_refl (holmAdjusted rawP w))
  exact holmAdjusted_le_iff.2 ⟨hnonneg, fun x hx hxv => hall x hx (hxv.trans h)⟩

theorem runningMax_eq_holmAdjusted {before after : List RankedP} {test : RankedP}
    (hnonneg : ∀ p ∈ rawP, 0 ≤ p) (hsplit : holmOrder rawP = before ++ test :: after) :
    runningMax rawP.length (before ++ [test]) 0 0 = holmAdjusted rawP test.p := by
  have hsorted := holmOrder_sorted rawP
  have hperm := holmOrder_p_perm rawP
  have hlength : ((holmOrder rawP).map (·.p)).length = rawP.length := hperm.length_eq
  have hbefore : before.length < ((holmOrder rawP).map (·.p)).length := by simp [hsplit]
  have hat : ((holmOrder rawP).map (·.p))[before.length] = test.p := by simp [hsplit]
  have hrank : ∀ k (hk : k < (before ++ [test]).length),
      ∃ hk' : k < ((holmOrder rawP).map (·.p)).length, ((holmOrder rawP).map (·.p))[k] = (before ++ [test])[k].p := by
    intro k hk
    have hjoined : (holmOrder rawP).map (·.p) = (before ++ [test]).map (·.p) ++ after.map (·.p) := by
      simp [hsplit]
    have hk' : k < ((before ++ [test]).map (·.p)).length := by simpa using hk
    simp only [hjoined, List.getElem_append_left hk', List.getElem_map]
    exact ⟨by rw [List.length_append]; omega, trivial⟩
  have hle : ∀ c, runningMax rawP.length (before ++ [test]) 0 0 ≤ c ↔ holmAdjusted rawP test.p ≤ c := by
    intro c
    rw [runningMax_le_iff, holmAdjusted_le_iff]
    refine and_congr_right fun _ => ⟨fun h x hx hxv => ?_, fun h k hk => ?_⟩
    · obtain ⟨k, hk, hkx, hcount, hfirst⟩ := exists_first_rank hsorted (hperm.mem_iff.2 hx)
      have hle : k ≤ before.length := by
        by_contra hlt
        have hless := hfirst before.length (not_le.1 hlt)
        rw [hat] at hless
        exact lt_irrefl _ (hless.trans_le hxv)
      have hk' : k < (before ++ [test]).length := by
        rw [List.length_append, List.length_singleton]
        omega
      obtain ⟨_, hp⟩ := hrank k hk'
      have hkth := h k hk'
      rw [← hp, hkx, Nat.zero_add, ← Nat.cast_sub (by omega)] at hkth
      rwa [← countGE_perm hperm, hcount, hlength]
    · obtain ⟨hk', hp⟩ := hrank k hk
      have hmem : (before ++ [test])[k].p ∈ rawP := hperm.mem_iff.1 (hp ▸ List.getElem_mem hk')
      have hupto : (before ++ [test])[k].p ≤ test.p := by
        rw [← hp, ← hat]
        apply getElem_le_getElem hsorted hk' hbefore
        simpa [Nat.lt_succ_iff] using hk
      have hcount : rawP.length - k ≤ countGE rawP (before ++ [test])[k].p := by
        have hge := length_sub_le_countGE hsorted hk'
        rwa [hp, hlength, countGE_perm hperm] at hge
      have hfactor : (rawP.length : ℚ) - ((0 + k : Nat) : ℚ) ≤ (countGE rawP (before ++ [test])[k].p : ℚ) := by
        rw [Nat.zero_add, ← Nat.cast_sub (by omega)]
        exact_mod_cast hcount
      calc min 1 ((before ++ [test])[k].p * ((rawP.length : ℚ) - ((0 + k : Nat) : ℚ)))
          ≤ min 1 ((before ++ [test])[k].p * (countGE rawP (before ++ [test])[k].p : ℚ)) :=
            min_le_min le_rfl (mul_le_mul_of_nonneg_left hfactor (hnonneg _ hmem))
        _ ≤ c := h _ hmem hupto
  exact le_antisymm ((hle _).2 le_rfl) ((hle _).1 le_rfl)

end Order

/-! ## The results -/

section Results

variable {rawP : List ℚ} {alpha : ℚ} {method : MultipleComparisonMethod}

def adjustedAlone (rawP : List ℚ) (p : ℚ) : MultipleComparisonMethod → ℚ
  | .none => p
  | .bonferroni => min 1 (p * (rawP.length : ℚ))
  | .holm => holmAdjusted rawP p

theorem holm_entries (hnonneg : ∀ p ∈ rawP, 0 ≤ p) (hpos : 0 < alpha) (hone : alpha < 1) {test : RankedP}
    (h : test ∈ rankedPs rawP) :
    (adjustLoop rawP.length (holmOrder rawP) 0 0 (List.replicate rawP.length none))[test.index]? =
        some (some (holmAdjusted rawP test.p)) ∧
      (rejectLoop rawP.length alpha (holmOrder rawP) 0 true (List.replicate rawP.length false))[test.index]? =
        some (decide (holmAdjusted rawP test.p ≤ alpha)) := by
  have hlt : ∀ t ∈ holmOrder rawP, t.index < rawP.length := fun t ht =>
    List.mem_range.1 ((holmOrder_index_perm rawP).mem_iff.1 (List.mem_map_of_mem ht))
  have hnodup : ((holmOrder rawP).map (·.index)).Nodup :=
    (holmOrder_index_perm rawP).nodup_iff.2 List.nodup_range
  have hmem := (holmOrder_perm rawP).mem_iff.2 h
  have hadjusted : (adjustLoop rawP.length (holmOrder rawP) 0 0 (List.replicate rawP.length none))[test.index]? =
      some (some (holmAdjusted rawP test.p)) := by
    obtain ⟨before, after, hsplit⟩ := List.append_of_mem hmem
    rw [← runningMax_eq_holmAdjusted hnonneg hsplit, hsplit]
    rw [hsplit] at hnodup
    exact adjustLoop_get hnodup (by simpa using hlt test hmem)
  have hempty : ∀ t ∈ holmOrder rawP, (List.replicate rawP.length (none : Option ℚ))[t.index]? = some none :=
    fun t ht => by simp [hlt t ht]
  have hloops := @rejectLoop_eq_map _ 0 0 alpha _ _ hone (by rw [holmOrder_length, Nat.zero_add]) hnodup hempty
  rw [decide_eq_true hpos.le, List.map_replicate] at hloops
  refine ⟨hadjusted, ?_⟩
  calc (rejectLoop rawP.length alpha (holmOrder rawP) 0 true (List.replicate rawP.length false))[test.index]?
      = ((adjustLoop rawP.length (holmOrder rawP) 0 0
          (List.replicate rawP.length none)).map (atMost alpha))[test.index]? := by rw [← hloops]; rfl
    _ = some (decide (holmAdjusted rawP test.p ≤ alpha)) := by rw [List.getElem?_map, hadjusted]; rfl

theorem adjustPvalues_eq (hnonneg : ∀ p ∈ rawP, 0 ≤ p) (hpos : 0 < alpha) (hone : alpha < 1)
    (method : MultipleComparisonMethod) :
    adjustPvalues rawP method alpha = (rankedPs rawP).map fun test =>
      { index := test.index, rawP := test.p, adjustedP := adjustedAlone rawP test.p method
        rejected := decide (adjustedAlone rawP test.p method ≤ alpha) } := by
  unfold adjustPvalues
  by_cases hempty : rawP.length = 0
  · rw [List.length_eq_zero_iff.1 hempty]
    rfl
  · simp only [hempty, if_false]
    cases method with
    | none => rfl
    | bonferroni => rfl
    | holm =>
        refine List.map_congr_left fun test htest => ?_
        obtain ⟨hadjusted, hrejected⟩ := holm_entries hnonneg hpos hone htest
        rw [hadjusted, hrejected]
        rfl

def rejectedSet (rawP : List ℚ) (method : MultipleComparisonMethod) (alpha : ℚ) : List Nat :=
  ((adjustPvalues rawP method alpha).filter (·.rejected)).map (·.index)

theorem mem_rejectedSet (hnonneg : ∀ p ∈ rawP, 0 ≤ p) (hpos : 0 < alpha) (hone : alpha < 1) {i : Nat} :
    i ∈ rejectedSet rawP method alpha ↔
      ∃ test ∈ rankedPs rawP, adjustedAlone rawP test.p method ≤ alpha ∧ test.index = i := by
  simp [rejectedSet, adjustPvalues_eq hnonneg hpos hone, List.filter_map, and_assoc]

theorem rejectedSet_subset (hnonneg : ∀ p ∈ rawP, 0 ≤ p) (hpos : 0 < alpha) (hone : alpha < 1)
    {method' : MultipleComparisonMethod}
    (hless : ∀ p ∈ rawP, adjustedAlone rawP p method ≤ alpha → adjustedAlone rawP p method' ≤ alpha) :
    rejectedSet rawP method alpha ⊆ rejectedSet rawP method' alpha := by
  intro i hi
  rw [mem_rejectedSet hnonneg hpos hone] at hi ⊢
  obtain ⟨test, htest, hadjusted, rfl⟩ := hi
  have hmem : test.p ∈ rawP := by
    have hmap := List.mem_map_of_mem (f := fun t : RankedP => t.p) htest
    rwa [rankedPs_p] at hmap
  exact ⟨test, htest, hless test.p hmem hadjusted, rfl⟩

theorem holm_le_of_bonferroni_le (hnonneg : ∀ p ∈ rawP, 0 ≤ p) (hpos : 0 < alpha) (hone : alpha < 1) {p : ℚ}
    (h : min 1 (p * (rawP.length : ℚ)) ≤ alpha) : holmAdjusted rawP p ≤ alpha := by
  have hp : p * (rawP.length : ℚ) ≤ alpha := (min_le_iff.1 h).resolve_left (not_le.2 hone)
  refine holmAdjusted_le_iff.2 ⟨hpos.le, fun x hx hxp => ?_⟩
  have hcount : (countGE rawP x : ℚ) ≤ (rawP.length : ℚ) := by exact_mod_cast countGE_le_length rawP x
  calc min 1 (x * (countGE rawP x : ℚ)) ≤ x * (countGE rawP x : ℚ) := min_le_right _ _
    _ ≤ p * (rawP.length : ℚ) := mul_le_mul hxp hcount (Nat.cast_nonneg _) ((hnonneg x hx).trans hxp)
    _ ≤ alpha := hp

theorem le_of_holm_le (hnonneg : ∀ p ∈ rawP, 0 ≤ p) (hone : alpha < 1) {p : ℚ} (hp : p ∈ rawP)
    (h : holmAdjusted rawP p ≤ alpha) : p ≤ alpha := by
  have hmin := (holmAdjusted_le_iff.1 h).2 p hp le_rfl
  have hcount : (1 : ℚ) ≤ (countGE rawP p : ℚ) := by exact_mod_cast countGE_pos hp
  calc p = p * 1 := (mul_one p).symm
    _ ≤ p * (countGE rawP p : ℚ) := mul_le_mul_of_nonneg_left hcount (hnonneg p hp)
    _ ≤ alpha := (min_le_iff.1 hmin).resolve_left (not_le.2 hone)

/-- A result without its place. -/
def AdjustedTest.outcome (t : AdjustedTest) : ℚ × ℚ × Bool := (t.rawP, t.adjustedP, t.rejected)

theorem outcomes_eq (hnonneg : ∀ p ∈ rawP, 0 ≤ p) (hpos : 0 < alpha) (hone : alpha < 1) :
    (adjustPvalues rawP .holm alpha).map (·.outcome) =
      rawP.map fun p => (p, holmAdjusted rawP p, decide (holmAdjusted rawP p ≤ alpha)) := by
  rw [adjustPvalues_eq hnonneg hpos hone, List.map_map]
  have hcomp := List.map_map (f := fun t : RankedP => t.p)
    (g := fun p => (p, holmAdjusted rawP p, decide (holmAdjusted rawP p ≤ alpha))) (l := rankedPs rawP)
  rw [rankedPs_p] at hcomp
  rw [hcomp]
  rfl

/-- The list with the p-value of place `σ i` at place `i`. -/
def permuted (rawP : List ℚ) (σ : Equiv.Perm (Fin rawP.length)) : List ℚ := List.ofFn fun i => rawP.get (σ i)

theorem permuted_perm (σ : Equiv.Perm (Fin rawP.length)) : (permuted rawP σ).Perm rawP := by
  have h := Equiv.Perm.ofFn_comp_perm σ rawP.get
  rwa [List.ofFn_get] at h

/-- Holm's correction rejects what its adjusted values say, lies between Bonferroni's and none, and treats equal
p-values equally wherever they stand. -/
theorem holm_correction (rawP : List ℚ) (hrange : ∀ p ∈ rawP, 0 ≤ p ∧ p ≤ 1) (alpha : ℚ) (hpos : 0 < alpha)
    (hone : alpha < 1) :
    (adjustPvalues rawP .holm alpha).map (·.rawP) = rawP ∧
      (∀ t ∈ adjustPvalues rawP .holm alpha, t.rejected = true ↔ t.adjustedP ≤ alpha) ∧
      rejectedSet rawP .bonferroni alpha ⊆ rejectedSet rawP .holm alpha ∧
      rejectedSet rawP .holm alpha ⊆ rejectedSet rawP .none alpha ∧
      (∀ t ∈ adjustPvalues rawP .holm alpha, ∀ u ∈ adjustPvalues rawP .holm alpha,
        t.rawP ≤ u.rawP → t.adjustedP ≤ u.adjustedP) ∧
      ∀ (σ : Equiv.Perm (Fin rawP.length)) (i : Fin rawP.length),
        ((adjustPvalues (permuted rawP σ) .holm alpha).map (·.outcome))[i.val]? =
          ((adjustPvalues rawP .holm alpha).map (·.outcome))[(σ i).val]? := by
  have hnonneg : ∀ p ∈ rawP, 0 ≤ p := fun p hp => (hrange p hp).1
  refine ⟨?_, ?_, ?_, ?_, ?_, fun σ i => ?_⟩
  · rw [adjustPvalues_eq hnonneg hpos hone, List.map_map]
    exact rankedPs_p rawP
  · rw [adjustPvalues_eq hnonneg hpos hone]
    simp
  · exact rejectedSet_subset hnonneg hpos hone fun p _ h => holm_le_of_bonferroni_le hnonneg hpos hone h
  · exact rejectedSet_subset hnonneg hpos hone fun p hp h => le_of_holm_le hnonneg hone hp h
  · rw [adjustPvalues_eq hnonneg hpos hone]
    simp only [List.forall_mem_map]
    exact fun t _ u _ h => holmAdjusted_mono h
  · have hperm := permuted_perm σ
    have hnonneg' : ∀ p ∈ permuted rawP σ, 0 ≤ p := fun p hp => hnonneg p (hperm.mem_iff.1 hp)
    rw [outcomes_eq hnonneg' hpos hone, outcomes_eq hnonneg hpos hone, List.getElem?_map, List.getElem?_map]
    have hget : (permuted rawP σ)[i.val]? = rawP[(σ i).val]? := by
      simp [permuted]
    simp only [hget, holmAdjusted_perm hperm]

/-- Two of four tests are rejected, among them one of a tie. -/
theorem holm_correction_four :
    (adjustPvalues [1 / 100, 4 / 100, 3 / 100, 1 / 100] .holm (5 / 100)).map (·.rejected) =
        [true, false, false, true] ∧
      ∀ t ∈ adjustPvalues [1 / 100, 4 / 100, 3 / 100, 1 / 100] .holm (5 / 100),
        t.rejected = true ↔ t.adjustedP ≤ 5 / 100 :=
  ⟨by decide +kernel,
    (holm_correction [1 / 100, 4 / 100, 3 / 100, 1 / 100] (by simp; norm_num) (5 / 100) (by norm_num)
      (by norm_num)).2.1⟩

end Results

end Cantilune
