import Cantilune.Theorems.PlaceInvariants

/-!
# Firing sequences that come back

Where no transition has several arcs from one place, a firing sequence comes back to the marking it began at
exactly if its firing counts are a combination of the weights that `transitionInvariants` returns.
-/

namespace Cantilune.Petri

open PointedCone

variable {localeCompare : LocaleCompare} {net : PetriNet} {m m' : Marking} {ts : List String} {p t : String}

/-! ## Firing counts -/

/-- How often each transition fires. -/
def firings (ts : List String) : String → ℚ := fun t => ts.count t

def TransitionInvariant.weightOf (inv : TransitionInvariant) (t : String) : Int :=
  (inv.transitions.map fun e => e.weight * if e.transitionId = t then 1 else 0).sum

/-- The combinations, without negative coefficients, of the weights that are returned. -/
def cycleCone (localeCompare : LocaleCompare) (net : PetriNet) : PointedCone ℚ (String → ℚ) :=
  hull ℚ {w | ∃ inv ∈ transitionInvariants localeCompare net, (fun t => (inv.weightOf t : ℚ)) = w}

theorem tokensAt_run (r : Run (Fire net) m ts m') (p : String) :
    (tokensAt m' p : Int) = tokensAt m p + (ts.map fun t => fireChange net t p).sum := by
  induction r with
  | nil => simp
  | cons head tail ih =>
      rw [ih, tokensAt_fire head, List.map_cons, List.sum_cons]
      ring

theorem mem_transitionIds_of_fire (h : Fire net m t m') : t ∈ net.transitionIds := by
  obtain ⟨tr, htr, hid⟩ := List.find?_isSome.1 (fire_iff.1 h).1
  exact List.mem_map.2 ⟨tr, htr, of_decide_eq_true hid⟩

theorem mem_transitionIds_of_run (r : Run (Fire net) m ts m') : ∀ t ∈ ts, t ∈ net.transitionIds := by
  induction r with
  | nil => simp
  | cons head tail ih => exact List.forall_mem_cons.2 ⟨mem_transitionIds_of_fire head, ih⟩

def countsAt (net : PetriNet) (ts : List String) (j : Fin net.transitionIds.length) : ℚ :=
  ts.countP fun t => net.transitionIds.idxOf t = j

theorem sum_countsAt (hids : ∀ t ∈ ts, t ∈ net.transitionIds) (g : String → ℚ) :
    (ts.map g).sum = ∑ j, countsAt net ts j * g net.transitionIds[j] := by
  induction ts with
  | nil => simp [countsAt]
  | cons t ts ih =>
      rw [List.forall_mem_cons] at hids
      have hidx := List.idxOf_lt_length_iff.2 hids.1
      have hone : ∑ j : Fin net.transitionIds.length,
          (if net.transitionIds.idxOf t = j then (1 : ℚ) else 0) * g net.transitionIds[j] = g t := by
        rw [Finset.sum_eq_single ⟨_, hidx⟩]
        · simp
        · intro j _ hj
          rw [if_neg fun h => hj (Fin.ext h.symm), zero_mul]
        · simp
      rw [List.map_cons, List.sum_cons, ih hids.2, ← hone, ← Finset.sum_add_distrib]
      refine Finset.sum_congr rfl fun j _ => ?_
      rw [← add_mul, countsAt, countsAt, List.countP_cons]
      push_cast
      simp [add_comm]

/-! ## Weights by id -/

def byId (ids : List String) : (Fin ids.length → ℚ) →ₗ[ℚ] String → ℚ where
  toFun x t := ∑ j, x j * if ids[j] = t then 1 else 0
  map_add' x y := by
    funext t
    simp only [Pi.add_apply, add_mul, Finset.sum_add_distrib]
  map_smul' c x := by
    funext t
    simp only [Pi.smul_apply, smul_eq_mul, mul_assoc, Finset.mul_sum, RingHom.id_apply]

theorem byId_apply (ids : List String) (x : Fin ids.length → ℚ) (t : String) :
    byId ids x t = ∑ j, x j * if ids[j] = t then 1 else 0 := rfl

theorem byId_countsAt (hids : ∀ t ∈ ts, t ∈ net.transitionIds) :
    byId net.transitionIds (countsAt net ts) = firings ts := by
  funext t
  rw [byId_apply, ← sum_countsAt hids fun id => if id = t then 1 else 0, firings]
  clear hids
  induction ts with
  | nil => simp
  | cons id ts ih =>
      rw [List.map_cons, List.sum_cons, ih, List.count_cons]
      by_cases h : id = t
      · simp [h, add_comm]
      · simp [h]

/-- The form that sums up what the transitions change at a place. -/
def effect (net : PetriNet) (p : String) : (String → ℚ) →ₗ[ℚ] ℚ where
  toFun w := ∑ t ∈ net.transitionIds.toFinset, fireChange net t p * w t
  map_add' v w := by simp only [Pi.add_apply, mul_add, Finset.sum_add_distrib]
  map_smul' c w := by simp only [Pi.smul_apply, smul_eq_mul, mul_left_comm, Finset.mul_sum, RingHom.id_apply]

theorem effect_byId (x : Fin net.transitionIds.length → ℚ) :
    effect net p (byId net.transitionIds x) = ∑ j, x j * (fireChange net net.transitionIds[j] p : ℚ) := by
  change ∑ t ∈ net.transitionIds.toFinset, (fireChange net t p : ℚ) * byId net.transitionIds x t = _
  simp only [byId_apply, Finset.mul_sum]
  rw [Finset.sum_comm]
  refine Finset.sum_congr rfl fun j _ => ?_
  rw [Finset.sum_eq_single net.transitionIds[j]]
  · simp [mul_comm]
  · intro t _ ht
    rw [if_neg ht.symm, mul_zero, mul_zero]
  · simp

theorem effect_firings (r : Run (Fire net) m ts m') :
    effect net p (firings ts) = ((tokensAt m' p : Int) : ℚ) - ((tokensAt m p : Int) : ℚ) := by
  have hids := mem_transitionIds_of_run r
  rw [← byId_countsAt hids, effect_byId, ← sum_countsAt hids fun t => (fireChange net t p : ℚ), tokensAt_run r p,
    Int.cast_add, add_sub_cancel_left, Int.cast_list_sum, List.map_map]
  rfl

/-! ## The transposed matrix -/

/-- No transition has several arcs from one place. -/
def TakesOneEach (net : PetriNet) : Prop := ∀ t ∈ net.transitionIds, ∀ p ∈ net.placeIds, arcsIn net t p ≤ 1

theorem fireChange_of_notMem (hp : p ∉ net.placeIds) : fireChange net t p = 0 := by
  cases hc : classifyArcsForTransition net t with
  | error e => exact fireChange_of_error hc
  | ok c =>
      obtain ⟨hin, hout⟩ := classifyArcs_placeId hc
      have hnone : ∀ arcs : List ClassifiedArc, (∀ arc ∈ arcs, arc.placeId ∈ net.placeIds) →
          (arcs.map (·.placeId)).count p = 0 := by
        intro arcs harcs
        rw [List.count_eq_zero]
        intro hmem
        obtain ⟨arc, harc, rfl⟩ := List.mem_map.1 hmem
        exact hp (harcs arc harc)
      simp [fireChange, arcsOut, arcsIn, hc, hnone _ hin, hnone _ hout]

theorem incidence_eq_fireChange (hsingle : TakesOneEach net) (ht : t ∈ net.transitionIds) {i : Nat}
    (hi : net.placeIds[i]? = some p) :
    incidence net t i = if net.placeIds.idxOf p = i then fireChange net t p else 0 := by
  rw [incidence_eq hi, fireChange, min_eq_right (hsingle t ht p (List.mem_of_getElem? hi))]

def transposed (net : PetriNet) : List Row := transpose net.transitionIds.length (incidenceMatrix net)

theorem length_transposed : (transposed net).length = net.transitionIds.length := by simp [transposed, transpose]

theorem numTransitions_transposed (h : net.transitionIds ≠ []) :
    numTransitions (transposed net) = net.places.length := by
  obtain ⟨n, hn⟩ : ∃ n, net.transitionIds.length = n + 1 := Nat.exists_eq_succ_of_ne_zero (by simpa using h)
  simp [numTransitions, transposed, transpose, hn, List.range_succ_eq_map, incidenceMatrix]

theorem entry_transposed {i j : Nat} (hi : i < net.places.length) (hj : j < net.transitionIds.length) :
    ((transposed net).getD j []).getD i 0 = incidence net net.transitionIds[j] i := by
  have hj' : j < net.transitions.length := by simpa [PetriNet.transitionIds] using hj
  simp [transposed, transpose, hj', incidenceMatrix, hi, PetriNet.transitionIds]

theorem column_transposed {i : Nat} (hi : i < net.places.length) (x : Fin net.transitionIds.length → ℚ) :
    column net.transitionIds.length (transposed net) i x =
      ∑ j, x j * (incidence net net.transitionIds[j] i : ℚ) := by
  rw [column_apply]
  exact Finset.sum_congr rfl fun j _ => by rw [entry_transposed hi j.isLt]; rfl

theorem column_eq_effect (hsingle : TakesOneEach net) {i : Nat} (hi : net.placeIds[i]? = some p)
    (x : Fin net.transitionIds.length → ℚ) : column net.transitionIds.length (transposed net) i x =
      if net.placeIds.idxOf p = i then effect net p (byId net.transitionIds x) else 0 := by
  have hlt : i < net.places.length := by simpa [PetriNet.placeIds] using (List.getElem?_eq_some_iff.1 hi).1
  rw [column_transposed hlt, effect_byId]
  have hentry : ∀ j : Fin net.transitionIds.length, incidence net net.transitionIds[j] i =
      if net.placeIds.idxOf p = i then fireChange net net.transitionIds[j] p else 0 :=
    fun j => incidence_eq_fireChange hsingle (List.getElem_mem _) hi
  simp only [hentry]
  split
  · rfl
  · simp

def cycleRows (net : PetriNet) : List Row :=
  (List.range (numTransitions (transposed net))).foldl (eliminateColumn (transposed net) net.transitionIds.length)
    (seedIdentity net.transitionIds.length)

theorem solves_cycleRows (h : net.transitionIds ≠ []) :
    Solves (transposed net) net.transitionIds.length net.places.length (cycleRows net) := by
  rw [cycleRows, numTransitions_transposed h]
  exact solves_foldl length_transposed _

/-! ## What is returned -/

theorem weightOf_overTransitions {row : Row} {names : OrdMap String String} {inv : PlaceInvariant}
    (hnonneg : ∀ k, 0 ≤ row.getD k 0) (h : rowToInvariant row net.transitionIds names = some inv) :
    (fun t => (inv.overTransitions.weightOf t : ℚ)) =
      byId net.transitionIds (rowVec net.transitionIds.length row) := by
  funext t
  have hsum := sum_rowToInvariant (fun id => if id = t then 1 else 0) hnonneg h
  rw [sum_range_map] at hsum
  rw [byId_apply, TransitionInvariant.weightOf, PlaceInvariant.overTransitions, List.map_map]
  refine (congrArg Int.cast hsum).trans ?_
  rw [Int.cast_sum]
  refine Finset.sum_congr rfl fun j _ => ?_
  rw [Int.cast_mul, rowVec]
  simp

theorem exists_cycleRow {inv : TransitionInvariant} (h : inv ∈ transitionInvariants localeCompare net) :
    net.transitionIds ≠ [] ∧ ∃ row ∈ cycleRows net,
      (fun t => (inv.weightOf t : ℚ)) = byId net.transitionIds (rowVec net.transitionIds.length row) := by
  unfold transitionInvariants at h
  simp only at h
  split at h
  · cases h
  · rename_i hids
    obtain ⟨found, hfound, rfl⟩ := List.mem_map.1 h
    obtain ⟨row, hrow, hinv⟩ := List.mem_filterMap.1 (mem_dedupInvariants hfound)
    have hne : net.transitionIds ≠ [] := fun hnil => hids (by simp [hnil])
    have hmem : row ∈ cycleRows net := (List.mem_filter.1 hrow).1
    exact ⟨hne, row, hmem, weightOf_overTransitions ((solves_cycleRows hne).nonneg row hmem) hinv⟩

theorem exists_rowToInvariant {row : Row} {ids : List String} (names : OrdMap String String)
    (hlength : row.length = ids.length) (hnonneg : ∀ k, 0 ≤ row.getD k 0) (hne : ∃ k, row.getD k 0 ≠ 0) :
    ∃ inv, rowToInvariant row ids names = some inv := by
  obtain ⟨k, hk⟩ := hne
  have hlt : k < ids.length := by
    by_contra h
    rw [List.getD_eq_getElem?_getD, List.getElem?_eq_none (by omega)] at hk
    exact hk rfl
  have hpos : 0 < row.getD k 0 := lt_of_le_of_ne (hnonneg k) hk.symm
  unfold rowToInvariant
  simp only
  rw [if_neg]
  · exact ⟨_, rfl⟩
  · rw [List.length_map, List.length_eq_zero_iff, List.filter_eq_nil_iff]
    exact fun hnone => hnone k (List.mem_range.2 hlt) (decide_eq_true hpos)

theorem exists_cycle (localeCompare : LocaleCompare) (hbars : ∀ id ∈ net.transitionIds, '|' ∉ id.toList)
    (hne : net.transitionIds ≠ []) {row : Row} (hrow : row ∈ cycleRows net) :
    ∃ inv ∈ transitionInvariants localeCompare net,
      (fun t => (inv.weightOf t : ℚ)) = byId net.transitionIds (rowVec net.transitionIds.length row) := by
  have hsolves := solves_cycleRows hne
  have hsome : ∃ k, row.getD k 0 ≠ 0 := by
    rw [cycleRows] at hrow
    exact ne_zero_foldl length_transposed _ row hrow
  obtain ⟨inv, hinv⟩ := exists_rowToInvariant (OrdMap.ofList (net.transitions.map fun t => (t.id, t.name)))
    (hsolves.length row hrow) (hsolves.nonneg row hrow) hsome
  have hkept : (!(row.all fun w => w = 0) && rowIsInvariant row (transposed net)) = true := by
    have hA : (transposed net).length ≠ 0 := by simpa [length_transposed] using hne
    rw [Bool.and_eq_true, Bool.not_eq_true', List.all_eq_false, rowIsInvariant, if_neg hA, List.all_eq_true]
    constructor
    · obtain ⟨k, hk⟩ := hsome
      by_cases hlt : k < row.length
      · exact ⟨row[k], List.getElem_mem hlt, by simpa [hlt] using hk⟩
      · simp [hlt] at hk
    · intro j hj
      rw [numTransitions_transposed hne, List.mem_range] at hj
      exact decide_eq_true (hsolves.columns row hrow j hj)
  have hids : ¬ net.transitionIds.length = 0 := by simpa using hne
  have hread : inv ∈ ((cycleRows net).filter fun row =>
      !(row.all fun w => w = 0) && rowIsInvariant row (transposed net)).filterMap fun row =>
        rowToInvariant row net.transitionIds (OrdMap.ofList (net.transitions.map fun t => (t.id, t.name))) :=
    List.mem_filterMap.2 ⟨row, List.mem_filter.2 ⟨hrow, hkept⟩, hinv⟩
  obtain ⟨found, hfound, hsig⟩ := @exists_mem_dedupInvariants localeCompare _ _ hread
  refine ⟨found.overTransitions, ?_, ?_⟩
  · unfold transitionInvariants
    simp only [if_neg hids]
    exact List.mem_map.2 ⟨found, hfound, rfl⟩
  · obtain ⟨row', hrow', hfrom⟩ := List.mem_filterMap.1 (mem_dedupInvariants hfound)
    have hperm := perm_of_signature (fun p hp => (places_of_row hfrom p hp).imp_left (hbars _))
      (fun p hp => (places_of_row hinv p hp).imp_left (hbars _)) hsig
    rw [← weightOf_overTransitions (hsolves.nonneg row hrow) hinv]
    funext t
    rw [TransitionInvariant.weightOf, TransitionInvariant.weightOf, PlaceInvariant.overTransitions,
      PlaceInvariant.overTransitions, List.map_map, List.map_map, (hperm.map _).sum_eq]

/-! ## Cycles -/

theorem effect_eq_zero_of_mem (hsingle : TakesOneEach net) {w : String → ℚ} (hw : w ∈ cycleCone localeCompare net)
    (p : String) : effect net p w = 0 := by
  refine Cone.hull_induction (P := fun w => effect net p w = 0) ?_ (map_zero _) ?_ ?_ hw
  · rintro _ ⟨inv, hinv, rfl⟩
    obtain ⟨hne, row, hrow, hweight⟩ := exists_cycleRow hinv
    rw [hweight]
    by_cases hp : p ∈ net.placeIds
    · have hi := List.getElem?_idxOf hp
      have hlt : net.placeIds.idxOf p < net.places.length := by
        simpa [PetriNet.placeIds] using List.idxOf_lt_length_iff.2 hp
      have hcolumn := column_eq_effect hsingle hi (rowVec net.transitionIds.length row)
      rw [column_rowVec length_transposed, (solves_cycleRows hne).columns row hrow _ hlt, if_pos rfl,
        Int.cast_zero] at hcolumn
      exact hcolumn.symm
    · rw [effect_byId]
      simp [fireChange_of_notMem hp]
  · intro v w hv hw
    rw [map_add, hv, hw, add_zero]
  · intro c v _ hv
    rw [map_smul, hv, smul_zero]

theorem byId_mem_cycleCone (localeCompare : LocaleCompare) (hbars : ∀ id ∈ net.transitionIds, '|' ∉ id.toList)
    (hne : net.transitionIds ≠ []) {x : Fin net.transitionIds.length → ℚ}
    (hx : x ∈ rowCone net.transitionIds.length (cycleRows net)) :
    byId net.transitionIds x ∈ cycleCone localeCompare net := by
  refine Cone.hull_induction (P := fun x => byId net.transitionIds x ∈ cycleCone localeCompare net) ?_ ?_ ?_ ?_ hx
  · rintro _ ⟨row, hrow, rfl⟩
    obtain ⟨inv, hinv, hweight⟩ := exists_cycle localeCompare hbars hne hrow
    exact subset_hull ⟨inv, hinv, hweight⟩
  · rw [map_zero]
    exact zero_mem _
  · intro v w hv hw
    rw [map_add]
    exact add_mem hv hw
  · intro c v hc hv
    rw [map_smul]
    exact Cone.smul_mem_hull hc hv

theorem firings_mem_cycleCone (localeCompare : LocaleCompare) (hbars : ∀ id ∈ net.transitionIds, '|' ∉ id.toList)
    (hsingle : TakesOneEach net) (hids : ∀ t ∈ ts, t ∈ net.transitionIds) (hzero : ∀ p, effect net p (firings ts) = 0) :
    firings ts ∈ cycleCone localeCompare net := by
  by_cases hne : net.transitionIds = []
  · have hnil : ts = [] := List.eq_nil_iff_forall_not_mem.2 fun t ht => by simpa [hne] using hids t ht
    rw [hnil]
    exact zero_mem _
  · rw [← byId_countsAt hids]
    refine byId_mem_cycleCone localeCompare hbars hne ((solves_cycleRows hne).complete _ ?_ fun i hi => ?_)
    · exact fun _ => Nat.cast_nonneg _
    · have hlt : i < net.placeIds.length := by simpa [PetriNet.placeIds] using hi
      rw [column_eq_effect hsingle (List.getElem?_eq_getElem hlt), byId_countsAt hids, hzero, ite_self]

/-- A token that goes to `q` and comes back. -/
def shuttleNet : PetriNet where
  places := [⟨"p", "p"⟩, ⟨"q", "q"⟩]
  transitions := [⟨"there", "there"⟩, ⟨"back", "back"⟩]
  arcs := [⟨"1", "p", "there"⟩, ⟨"2", "there", "q"⟩, ⟨"3", "q", "back"⟩, ⟨"4", "back", "p"⟩]

end Cantilune.Petri
