import Cantilune.Base.Runs
import Cantilune.Lemmas.Elimination
import Cantilune.Petri.Net

/-!
# Weighted tokens

The weights that `placeInvariants` returns keep the weighted sum of the tokens along every firing sequence,
where the token game and the matrix count alike: the matrix counts every arc and knows only the first of the
places of one id, a fire takes one token from each input place.
-/

namespace Cantilune.Petri

open PointedCone

variable {localeCompare : LocaleCompare} {net : PetriNet} {m m' : Marking} {inv : PlaceInvariant} {t p : String}

theorem tokensAt_fire (h : Fire net m t m') (placeId : String) :
    (tokensAt m' placeId : Int) = tokensAt m placeId + fireChange net t placeId := by
  obtain ⟨_, c, hc, henabled, rfl⟩ := fire_iff.1 h
  rw [tokensAt_applyFire, fireChange, arcsOut, arcsIn, hc]
  simp only
  by_cases hin : placeId ∈ c.inputs.map (·.placeId)
  · obtain ⟨arc, harc, rfl⟩ := List.mem_map.1 hin
    have htoken := henabled arc harc
    have hcount := List.count_pos_iff.2 hin
    rw [if_pos hin]
    omega
  · rw [if_neg hin, List.count_eq_zero_of_not_mem hin]
    omega

theorem incidence_eq {i : Nat} (hi : net.placeIds[i]? = some p) :
    incidence net t i = if net.placeIds.idxOf p = i then (arcsOut net t p : Int) - arcsIn net t p else 0 := by
  unfold incidence arcsOut arcsIn
  cases hc : classifyArcsForTransition net t with
  | error e => simp
  | ok c =>
      obtain ⟨hin, hout⟩ := classifyArcs_placeId hc
      have hcount : ∀ arcs : List ClassifiedArc, (∀ arc ∈ arcs, arc.placeId ∈ net.placeIds) →
          (arcs.countP fun arc => net.placeIds.idxOf arc.placeId = i) =
            if net.placeIds.idxOf p = i then (arcs.map (·.placeId)).count p else 0 := by
        intro arcs harcs
        by_cases hfirst : net.placeIds.idxOf p = i
        · rw [if_pos hfirst, List.count, List.countP_map]
          refine List.countP_congr fun arc harc => ?_
          simp only [decide_eq_true_eq, Function.comp_apply, beq_iff_eq]
          constructor
          · intro hidx
            have hget := List.getElem?_idxOf (harcs arc harc)
            rw [hidx, hi] at hget
            exact (Option.some.inj hget).symm
          · rintro rfl
            exact hfirst
        · rw [if_neg hfirst, List.countP_eq_zero]
          intro arc harc
          simp only [decide_eq_true_eq]
          intro hidx
          have hget := List.getElem?_idxOf (harcs arc harc)
          rw [hidx, hi] at hget
          exact hfirst (by rw [Option.some.inj hget, hidx])
      simp only [hcount _ hin, hcount _ hout]
      split <;> simp

def weightedSum (inv : PlaceInvariant) (m : Marking) : Int :=
  (inv.places.map fun p => p.weight * (tokensAt m p.placeId : Int)).sum

/-- Every weight vector that is returned keeps the weighted sum, from any marking by any fires. -/
def InvariantsHold (localeCompare : LocaleCompare) (net : PetriNet) : Prop :=
  ∀ inv ∈ placeInvariants localeCompare net, ∀ m ts m', Run (Fire net) m ts m' →
    weightedSum inv m' = weightedSum inv m

def IsWeighting (net : PetriNet) (x : Nat → Nat) : Prop :=
  ∀ t ∈ net.transitions, ((List.range net.places.length).map fun i => (x i : Int) * incidence net t.id i).sum = 0

/-- The token game and the matrix count alike where it matters: no fire changes a place that has the id of an
earlier one, and no place with several arcs into one transition can have a weight. -/
structure CountsAlike (net : PetriNet) : Prop where
  repeated : ∀ i p, net.placeIds[i]? = some p → net.placeIds.idxOf p ≠ i →
    ∀ t ∈ net.transitions, arcsOut net t.id p = min 1 (arcsIn net t.id p)
  parallel : ∀ p ∈ net.placeIds, ∀ t ∈ net.transitions, 2 ≤ arcsIn net t.id p →
    ∀ x, IsWeighting net x → x (net.placeIds.idxOf p) = 0

/-! ## Rows and weights -/

theorem numTransitions_incidenceMatrix (h : net.places ≠ []) :
    numTransitions (incidenceMatrix net) = net.transitions.length := by
  obtain ⟨n, hn⟩ : ∃ n, net.places.length = n + 1 := Nat.exists_eq_succ_of_ne_zero (by simpa using h)
  simp [numTransitions, incidenceMatrix, hn, List.range_succ_eq_map]

theorem entry_incidenceMatrix {k j : Nat} {tr : NetTransition} (hk : k < net.places.length)
    (hj : net.transitions[j]? = some tr) : ((incidenceMatrix net).getD k []).getD j 0 = incidence net tr.id k := by
  simp [incidenceMatrix, hk, hj]

theorem dotColumn_incidenceMatrix {row : Row} {j : Nat} {tr : NetTransition} (hj : net.transitions[j]? = some tr) :
    dotColumn row (incidenceMatrix net) j =
      ((List.range net.places.length).map fun i => row.getD i 0 * incidence net tr.id i).sum := by
  rw [dotColumn]
  have hlength : (incidenceMatrix net).length = net.places.length := by simp [incidenceMatrix]
  rw [hlength]
  refine congrArg List.sum (List.map_congr_left fun k hk => ?_)
  rw [entry_incidenceMatrix (List.mem_range.1 hk) hj]

theorem sum_rowToInvariant {row : Row} {ids : List String} {names : OrdMap String String} (g : String → Int)
    (hnonneg : ∀ k, 0 ≤ row.getD k 0) (h : rowToInvariant row ids names = some inv) :
    (inv.places.map fun p => p.weight * g p.placeId).sum =
      ((List.range ids.length).map fun i => row.getD i 0 * g (ids.getD i "")).sum := by
  unfold rowToInvariant at h
  simp only at h
  split at h
  · cases h
  · cases h
    rw [List.map_map]
    generalize List.range ids.length = is
    clear * - hnonneg
    induction is with
    | nil => rfl
    | cons i is ih =>
        rw [List.filter_cons, List.map_cons, List.sum_cons, ← ih]
        split
        · rfl
        · rename_i hpos
          have hzero : row.getD i 0 = 0 := le_antisymm (by simpa using hpos) (hnonneg i)
          rw [hzero, zero_mul, zero_add]

theorem weightedSum_fire (h : Fire net m t m') :
    weightedSum inv m' = weightedSum inv m + (inv.places.map fun p => p.weight * fireChange net t p.placeId).sum := by
  rw [weightedSum, weightedSum, ← List.sum_map_add]
  refine congrArg List.sum (List.map_congr_left fun p _ => ?_)
  rw [tokensAt_fire h]
  ring

def lastRows (net : PetriNet) : List Row :=
  (List.range (numTransitions (incidenceMatrix net))).foldl (eliminateColumn (incidenceMatrix net) net.placeIds.length)
    (seedIdentity net.placeIds.length)

theorem solves_lastRows (h : net.places ≠ []) :
    Solves (incidenceMatrix net) net.placeIds.length net.transitions.length (lastRows net) := by
  have hA : (incidenceMatrix net).length = net.placeIds.length := by simp [incidenceMatrix, PetriNet.placeIds]
  have hsolves := solves_foldl hA net.transitions.length
  rwa [← numTransitions_incidenceMatrix h] at hsolves ⊢

/-! ## What is returned -/

theorem foldl_dedupInvariant (invs : List PlaceInvariant) (seen : List String) (result : List PlaceInvariant)
    (hseen : ∀ s ∈ seen, ∃ inv ∈ result, signature localeCompare inv = s) :
    (∀ inv ∈ (invs.foldl (dedupInvariant localeCompare) (seen, result)).2, inv ∈ result ∨ inv ∈ invs) ∧
      (∀ inv ∈ result, inv ∈ (invs.foldl (dedupInvariant localeCompare) (seen, result)).2) ∧
      ∀ inv ∈ invs, ∃ inv' ∈ (invs.foldl (dedupInvariant localeCompare) (seen, result)).2,
        signature localeCompare inv' = signature localeCompare inv := by
  induction invs generalizing seen result with
  | nil => exact ⟨fun _ h => .inl h, fun _ h => h, by simp⟩
  | cons inv invs ih =>
      rw [List.foldl_cons, dedupInvariant]
      split
      · rename_i hcontains
        obtain ⟨hmem, hkept, hfound⟩ := ih seen result hseen
        refine ⟨fun i hi => (hmem i hi).imp_right (List.mem_cons_of_mem _), hkept, ?_⟩
        rw [List.forall_mem_cons]
        obtain ⟨i, hi, hsig⟩ := hseen _ (by simpa using hcontains)
        exact ⟨⟨i, hkept i hi, hsig⟩, hfound⟩
      · have hseen' : ∀ s ∈ seen ++ [signature localeCompare inv], ∃ i ∈ result ++ [inv],
            signature localeCompare i = s := by
          intro s hs
          rcases List.mem_append.1 hs with hs | hs
          · obtain ⟨i, hi, hsig⟩ := hseen s hs
            exact ⟨i, List.mem_append_left _ hi, hsig⟩
          · exact ⟨inv, by simp, (List.mem_singleton.1 hs).symm⟩
        obtain ⟨hmem, hkept, hfound⟩ := ih _ _ hseen'
        refine ⟨fun i hi => ?_, fun i hi => hkept i (List.mem_append_left _ hi), ?_⟩
        · rcases hmem i hi with hi | hi
          · rcases List.mem_append.1 hi with hi | hi
            · exact .inl hi
            · exact .inr (by simp [List.mem_singleton.1 hi])
          · exact .inr (List.mem_cons_of_mem _ hi)
        · rw [List.forall_mem_cons]
          exact ⟨⟨inv, hkept inv (by simp), rfl⟩, hfound⟩

theorem mem_dedupInvariants {invs : List PlaceInvariant} (h : inv ∈ dedupInvariants localeCompare invs) :
    inv ∈ invs :=
  ((foldl_dedupInvariant invs [] [] (by simp)).1 inv h).resolve_left List.not_mem_nil

theorem exists_mem_dedupInvariants {invs : List PlaceInvariant} (h : inv ∈ invs) :
    ∃ inv' ∈ dedupInvariants localeCompare invs, signature localeCompare inv' = signature localeCompare inv :=
  (foldl_dedupInvariant invs [] [] (by simp)).2.2 inv h

theorem exists_row (h : inv ∈ placeInvariants localeCompare net) : net.places ≠ [] ∧ ∃ row ∈ lastRows net,
    rowToInvariant row net.placeIds (OrdMap.ofList (net.places.map fun p => (p.id, p.name))) = some inv := by
  unfold placeInvariants at h
  simp only at h
  split at h
  · cases h
  · rename_i hne
    obtain ⟨row, hrow, hinv⟩ := List.mem_filterMap.1 (mem_dedupInvariants h)
    refine ⟨fun hnil => hne (by simp [PetriNet.placeIds, hnil]), row, (List.mem_filter.1 hrow).1, hinv⟩

theorem exists_returned (hne : net.places ≠ []) {row : Row} (hrow : row ∈ lastRows net)
    (hzero : (row.all fun w => w = 0) = false) :
    ∃ inv, rowToInvariant row net.placeIds (OrdMap.ofList (net.places.map fun p => (p.id, p.name))) = some inv ∧
      ∃ inv' ∈ placeInvariants localeCompare net, signature localeCompare inv' = signature localeCompare inv := by
  have hsolves := solves_lastRows hne
  have hA : (incidenceMatrix net).length ≠ 0 := by simpa [incidenceMatrix] using hne
  have hinvariant : rowIsInvariant row (incidenceMatrix net) = true := by
    rw [rowIsInvariant, if_neg hA, List.all_eq_true]
    intro j hj
    rw [numTransitions_incidenceMatrix hne, List.mem_range] at hj
    exact decide_eq_true (hsolves.columns row hrow j hj)
  have hpositive : ∃ i < net.placeIds.length, 0 < row.getD i 0 := by
    obtain ⟨w, hw, hne₀⟩ := List.all_eq_false.1 hzero
    obtain ⟨i, hi, rfl⟩ := List.mem_iff_getElem.1 hw
    refine ⟨i, by rwa [hsolves.length row hrow] at hi, lt_of_le_of_ne (hsolves.nonneg row hrow i) ?_⟩
    simpa [hi, eq_comm] using hne₀
  obtain ⟨inv, hinv⟩ : ∃ inv, rowToInvariant row net.placeIds
      (OrdMap.ofList (net.places.map fun p => (p.id, p.name))) = some inv := by
    obtain ⟨i, hi, hpos⟩ := hpositive
    unfold rowToInvariant
    simp only
    rw [if_neg]
    · exact ⟨_, rfl⟩
    · rw [List.length_map, List.length_eq_zero_iff, List.filter_eq_nil_iff]
      exact fun hnone => hnone i (List.mem_range.2 hi) (decide_eq_true hpos)
  refine ⟨inv, hinv, ?_⟩
  have hids : ¬ net.placeIds.length = 0 := by simpa [PetriNet.placeIds] using hne
  unfold placeInvariants
  simp only [if_neg hids]
  refine exists_mem_dedupInvariants (List.mem_filterMap.2 ⟨row, List.mem_filter.2 ⟨hrow, ?_⟩, hinv⟩)
  rw [hzero, hinvariant]
  rfl

theorem toList_weightText {p : WeightedPlace} (hp : 0 < p.weight) :
    s!"{p.placeId}:{p.weight}".toList = p.placeId.toList ++ ':' :: (toString p.weight.toNat).toList := by
  obtain ⟨n, hn⟩ := Int.eq_ofNat_of_zero_le hp.le
  have hrepr : (n : Int).repr = n.repr := rfl
  rw [hn]
  simp [toString, hrepr]

theorem map_inj_of_mem {α β : Type} {f : α → β} {l l' : List α} (hf : ∀ a ∈ l, ∀ b ∈ l', f a = f b → a = b)
    (h : l.map f = l'.map f) : l = l' := by
  induction l generalizing l' with
  | nil => exact (List.map_eq_nil_iff.1 h.symm).symm
  | cons a l ih =>
      cases l' with
      | nil => cases h
      | cons b l' =>
          obtain ⟨hab, htail⟩ := List.cons.inj h
          rw [hf a List.mem_cons_self b List.mem_cons_self hab,
            ih (fun a ha b hb => hf a (List.mem_cons_of_mem _ ha) b (List.mem_cons_of_mem _ hb)) htail]

theorem perm_of_signature {inv' : PlaceInvariant} (hinv : ∀ p ∈ inv.places, '|' ∉ p.placeId.toList ∧ 0 < p.weight)
    (hinv' : ∀ p ∈ inv'.places, '|' ∉ p.placeId.toList ∧ 0 < p.weight)
    (h : signature localeCompare inv = signature localeCompare inv') : inv.places.Perm inv'.places := by
  have htext : ∀ p : WeightedPlace, '|' ∉ p.placeId.toList ∧ 0 < p.weight →
      '|' ∉ s!"{p.placeId}:{p.weight}".toList ∧ s!"{p.placeId}:{p.weight}" ≠ "" := by
    rintro p ⟨hbar, hpos⟩
    constructor
    · rw [toList_weightText hpos, List.mem_append, List.mem_cons]
      rintro (h | h | h)
      · exact hbar h
      · exact absurd h (by decide)
      · exact JsString.notMem_toString (by decide) _ h
    · intro hempty
      have hnil := toList_weightText hpos
      rw [hempty] at hnil
      simp at hnil
  have hsorted : ∀ i : PlaceInvariant, (∀ p ∈ i.places, '|' ∉ p.placeId.toList ∧ 0 < p.weight) →
      ∀ p ∈ i.places.insertionSort (fun a b => localeCompare a.placeId b.placeId ≤ 0),
        '|' ∉ p.placeId.toList ∧ 0 < p.weight := fun i hi p hp => hi p (List.mem_insertionSort _ |>.1 hp)
  have hmap := JsString.intercalate_inj
    (List.forall_mem_map.2 fun p hp => htext p (hsorted inv hinv p hp))
    (List.forall_mem_map.2 fun p hp => htext p (hsorted inv' hinv' p hp)) h
  have heq : inv.places.insertionSort (fun a b => localeCompare a.placeId b.placeId ≤ 0) =
      inv'.places.insertionSort (fun a b => localeCompare a.placeId b.placeId ≤ 0) := by
    refine map_inj_of_mem (fun p hp q hq hpq => ?_) hmap
    have hchars := congrArg String.toList hpq
    have hp' := (hsorted inv hinv p hp).2
    have hq' := (hsorted inv' hinv' q hq).2
    rw [toList_weightText hp', toList_weightText hq'] at hchars
    obtain ⟨hid, hweight⟩ := JsString.append_cons_inj (JsString.notMem_toString (by decide) _)
      (JsString.notMem_toString (by decide) _) hchars
    obtain ⟨id, w⟩ := p
    obtain ⟨id', w'⟩ := q
    have hnat := JsString.toString_injective hweight
    simp only at hid hp' hq' hnat
    rw [String.toList_inj.1 hid, show w = w' by omega]
  exact ((List.perm_insertionSort _ inv.places).symm.trans (by rw [heq])).trans (List.perm_insertionSort _ inv'.places)

/-! ## From the invariants to the arcs -/

theorem fireChange_of_error {e : SelfLoopArcError} (h : classifyArcsForTransition net t = .error e) :
    fireChange net t p = 0 := by
  simp [fireChange, arcsOut, arcsIn, h]

theorem exists_fire {tr : NetTransition} (htr : tr ∈ net.transitions) {c : ClassifiedArcs}
    (hc : classifyArcsForTransition net tr.id = .ok c) : ∃ m m', Fire net m tr.id m' := by
  have hfull : ∀ (ids : List String) (m : Marking) (id : String), id ∈ ids ∨ 1 ≤ tokensAt m id →
      1 ≤ tokensAt (ids.foldl (fun m id => m.set id 1) m) id := by
    intro ids
    induction ids with
    | nil => simp
    | cons i ids ih =>
        intro m id h
        refine ih _ id ?_
        rw [tokensAt_set]
        by_cases hid : id = i
        · simp [hid]
        · simpa [hid] using h
  have hfound : (findTransition net tr.id).isSome = true := by
    rw [findTransition, List.find?_isSome]
    exact ⟨tr, htr, by simp⟩
  refine ⟨(c.inputs.map (·.placeId)).foldl (fun m id => m.set id 1) .empty, _, fire_iff.2 ⟨hfound, c, hc, ?_, rfl⟩⟩
  exact fun arc harc => hfull _ _ _ (.inl (List.mem_map.2 ⟨arc, harc, rfl⟩))

theorem places_of_row {row : Row} {ids : List String} {names : OrdMap String String}
    (h : rowToInvariant row ids names = some inv) : ∀ p ∈ inv.places, p.placeId ∈ ids ∧ 0 < p.weight := by
  unfold rowToInvariant at h
  simp only at h
  split at h
  · cases h
  · cases h
    intro p hp
    obtain ⟨i, hi, rfl⟩ := List.mem_map.1 hp
    obtain ⟨hi, hpos⟩ := List.mem_filter.1 hi
    have hlt := List.mem_range.1 hi
    exact ⟨by simp [hlt], of_decide_eq_true hpos⟩

theorem sum_fireChange_row (hbars : ∀ id ∈ net.placeIds, '|' ∉ id.toList) (h : InvariantsHold localeCompare net)
    (hne : net.places ≠ []) {row : Row} (hrow : row ∈ lastRows net) {tr : NetTransition} (htr : tr ∈ net.transitions) :
    ((List.range net.placeIds.length).map fun i => row.getD i 0 * fireChange net tr.id (net.placeIds.getD i "")).sum
      = 0 := by
  have hsolves := solves_lastRows hne
  cases hzero : row.all fun w => w = 0 with
  | true =>
      have hentry : ∀ i, row.getD i 0 = 0 := fun i => by
        by_cases hi : i < row.length
        · simpa [hi] using of_decide_eq_true (List.all_eq_true.1 hzero _ (List.getElem_mem hi))
        · simp [hi]
      simp only [hentry, zero_mul, List.map_const', List.sum_replicate, smul_zero]
  | false =>
      obtain ⟨inv, hinv, inv', hinv', hsig⟩ := @exists_returned localeCompare net hne row hrow hzero
      cases hc : classifyArcsForTransition net tr.id with
      | error e => simp [fireChange_of_error hc]
      | ok c =>
          obtain ⟨m, m', hfire⟩ := exists_fire htr hc
          obtain ⟨_, row', _, hrow'⟩ := exists_row hinv'
          have hplaces : ∀ {i : PlaceInvariant} {r names}, rowToInvariant r net.placeIds names = some i →
              ∀ p ∈ i.places, '|' ∉ p.placeId.toList ∧ 0 < p.weight := fun hi p hp =>
            ⟨hbars _ (places_of_row hi p hp).1, (places_of_row hi p hp).2⟩
          have hperm := perm_of_signature (hplaces hrow') (hplaces hinv) hsig
          have hkept := h inv' hinv' m [tr.id] m' (.single hfire)
          rw [weightedSum_fire hfire] at hkept
          rw [← sum_rowToInvariant _ (hsolves.nonneg row hrow) hinv,
            ← (hperm.map fun p => p.weight * fireChange net tr.id p.placeId).sum_eq]
          linarith

theorem changeForm_apply (t : String) (x : Fin net.placeIds.length → ℚ) :
    changeForm net t x =
      ∑ k : Fin net.placeIds.length, x k * (fireChange net t (net.placeIds.getD k "") : ℚ) := by
  simp [changeForm, mul_comm]

theorem sum_fireChange_weighting (hbars : ∀ id ∈ net.placeIds, '|' ∉ id.toList)
    (h : InvariantsHold localeCompare net) (hne : net.places ≠ []) {x : Nat → Nat} (hx : IsWeighting net x)
    {tr : NetTransition} (htr : tr ∈ net.transitions) :
    ((List.range net.placeIds.length).map fun i => (x i : Int) * fireChange net tr.id (net.placeIds.getD i "")).sum
      = 0 := by
  have hlength : net.placeIds.length = net.places.length := by simp [PetriNet.placeIds]
  have hcone : (fun k : Fin net.placeIds.length => (x k : ℚ)) ∈ rowCone net.placeIds.length (lastRows net) := by
    refine (solves_lastRows hne).complete _ (fun k => Nat.cast_nonneg _) fun j hj => ?_
    have hcolumn := hx _ (List.getElem_mem hj)
    rw [← hlength, sum_range_map] at hcolumn
    rw [column_apply]
    have hcast := congrArg (Int.cast : Int → ℚ) hcolumn
    rw [Int.cast_sum, Int.cast_zero] at hcast
    rw [← hcast]
    refine Finset.sum_congr rfl fun k _ => ?_
    rw [entry_incidenceMatrix (by rw [← hlength]; exact k.isLt) (List.getElem?_eq_getElem hj)]
    push_cast
    rfl
  have hzero : ∀ v ∈ rowCone net.placeIds.length (lastRows net), changeForm net tr.id v = 0 := by
    intro v hv
    refine Cone.hull_induction (P := fun v => changeForm net tr.id v = 0) ?_ (map_zero _) ?_ ?_ hv
    · rintro _ ⟨row, hrow, rfl⟩
      have hsum := sum_fireChange_row hbars h hne hrow htr
      rw [sum_range_map] at hsum
      have hcast := congrArg (Int.cast : Int → ℚ) hsum
      rw [Int.cast_sum, Int.cast_zero] at hcast
      rw [changeForm_apply, ← hcast]
      exact Finset.sum_congr rfl fun k _ => by rw [rowVec, Int.cast_mul]
    · intro v w hv hw
      rw [map_add, hv, hw, add_zero]
    · intro c v _ hv
      rw [map_smul, hv, smul_zero]
  have hform := hzero _ hcone
  rw [changeForm_apply] at hform
  rw [sum_range_map]
  exact_mod_cast hform

theorem sum_range_unit {n i : Nat} (hi : i < n) (g : Nat → Int) :
    ((List.range n).map fun k => ((if k = i then 1 else 0 : Nat) : Int) * g k).sum = g i := by
  rw [sum_range_map, Finset.sum_eq_single (⟨i, hi⟩ : Fin n)]
  · simp
  · intro k _ hk
    have hne : ¬ (k : Nat) = i := fun h => hk (Fin.ext h)
    simp [hne]
  · simp

theorem fireChange_eq_zero (h : arcsOut net t p = min 1 (arcsIn net t p)) : fireChange net t p = 0 := by
  rw [fireChange, h, sub_self]

theorem fireChange_eq_incidence {i : Nat} (hi : net.placeIds[i]? = some p)
    (hrepeated : net.placeIds.idxOf p ≠ i → arcsOut net t p = min 1 (arcsIn net t p)) :
    fireChange net t p = incidence net t i +
      if net.placeIds.idxOf p = i then (arcsIn net t p : Int) - (min 1 (arcsIn net t p) : Nat) else 0 := by
  rw [incidence_eq hi]
  by_cases hfirst : net.placeIds.idxOf p = i
  · rw [if_pos hfirst, if_pos hfirst, fireChange]
    ring
  · rw [if_neg hfirst, if_neg hfirst, fireChange_eq_zero (hrepeated hfirst), add_zero]

theorem countsAlike_of_invariantsHold (hbars : ∀ id ∈ net.placeIds, '|' ∉ id.toList)
    (h : InvariantsHold localeCompare net) : CountsAlike net := by
  have hlength : net.placeIds.length = net.places.length := by simp [PetriNet.placeIds]
  have hne : ∀ p ∈ net.placeIds, net.places ≠ [] := by
    intro p hp hnil
    simp [PetriNet.placeIds, hnil] at hp
  have hrepeated : ∀ i p, net.placeIds[i]? = some p → net.placeIds.idxOf p ≠ i →
      ∀ tr ∈ net.transitions, arcsOut net tr.id p = min 1 (arcsIn net tr.id p) := by
    intro i p hi hfirst tr htr
    obtain ⟨hlt, hget⟩ := List.getElem?_eq_some_iff.1 hi
    -- the weight of that place alone, which the matrix does not know
    have hx : IsWeighting net fun k => if k = i then 1 else 0 := by
      intro t ht
      rw [sum_range_unit (by rwa [← hlength]), incidence_eq hi, if_neg hfirst]
    have hsum := sum_fireChange_weighting hbars h (hne p (List.mem_of_getElem? hi)) hx htr
    rw [sum_range_unit hlt, List.getD_eq_getElem?_getD, hi, Option.getD_some, fireChange] at hsum
    omega
  refine ⟨hrepeated, fun p hp tr htr hin x hx => ?_⟩
  have hsum := sum_fireChange_weighting hbars h (hne p hp) hx htr
  have hzero := hx tr htr
  rw [← hlength] at hzero
  rw [sum_range_map] at hsum hzero
  -- what a fire leaves beyond the matrix is never negative, so that it is zero at every place
  have hterm : ∀ k : Fin net.placeIds.length, 0 ≤
      (x k : Int) * fireChange net tr.id (net.placeIds.getD k "") - (x k : Int) * incidence net tr.id k := by
    intro k
    have hk : net.placeIds[(k : Nat)]? = some (net.placeIds.getD k "") := by simp
    rw [fireChange_eq_incidence hk fun hfirst => hrepeated k _ hk hfirst tr htr, mul_add, add_sub_cancel_left]
    refine mul_nonneg (Int.natCast_nonneg _) ?_
    split <;> omega
  have hidx : net.placeIds.idxOf p < net.placeIds.length := List.idxOf_lt_length_iff.2 hp
  have hall : ∑ k : Fin net.placeIds.length, ((x k : Int) * fireChange net tr.id (net.placeIds.getD k "") -
      (x k : Int) * incidence net tr.id k) = 0 := by
    rw [Finset.sum_sub_distrib, hsum, hzero, sub_self]
  have hp₀ := (Finset.sum_eq_zero_iff_of_nonneg fun k _ => hterm k).1 hall ⟨_, hidx⟩ (Finset.mem_univ _)
  have hi : net.placeIds[net.placeIds.idxOf p]? = some p := List.getElem?_idxOf hp
  rw [List.getD_eq_getElem?_getD, hi, Option.getD_some, fireChange_eq_incidence hi fun hfirst => absurd rfl hfirst,
    mul_add, add_sub_cancel_left, if_pos rfl, min_eq_left (by omega), mul_eq_zero] at hp₀
  rcases hp₀ with hp₀ | hp₀
  · exact Int.natCast_eq_zero.1 hp₀
  · push_cast at hp₀
    omega

theorem invariantsHold_of_countsAlike (h : CountsAlike net) : InvariantsHold localeCompare net := by
  intro inv hinv m ts m' r
  obtain ⟨hne, row, hrow, hplaces⟩ := exists_row hinv
  have hsolves := solves_lastRows hne
  refine r.related (R := fun m m' => weightedSum inv m' = weightedSum inv m) (fun _ => rfl)
    (fun _ _ _ h₁ h₂ => h₂.trans h₁) fun m t m' hfire => ?_
  obtain ⟨hfound, _⟩ := fire_iff.1 hfire
  obtain ⟨tr, htr, hid⟩ := List.find?_isSome.1 hfound
  obtain rfl : tr.id = t := of_decide_eq_true hid
  obtain ⟨j, hj, hget⟩ := List.mem_iff_getElem.1 htr
  have hcolumns : ∀ (i : Nat) (tr : NetTransition), net.transitions[i]? = some tr →
      ((List.range net.places.length).map fun k => row.getD k 0 * incidence net tr.id k).sum = 0 := by
    intro i tr htr
    rw [← dotColumn_incidenceMatrix htr]
    exact hsolves.columns row hrow i (List.getElem?_eq_some_iff.1 htr).1
  have hx : IsWeighting net fun k => (row.getD k 0).toNat := by
    intro t ht
    obtain ⟨i, hi, rfl⟩ := List.mem_iff_getElem.1 ht
    simp only [Int.toNat_of_nonneg (hsolves.nonneg row hrow _)]
    exact hcolumns i _ (List.getElem?_eq_getElem hi)
  have hlength : net.placeIds.length = net.places.length := by simp [PetriNet.placeIds]
  have hzero := hcolumns j tr (List.getElem?_eq_some_iff.2 ⟨hj, hget⟩)
  have hsame : ∀ k ∈ List.range net.places.length,
      row.getD k 0 * fireChange net tr.id (net.placeIds.getD k "") = row.getD k 0 * incidence net tr.id k := by
    intro k hk
    have hlt : k < net.placeIds.length := by
      rw [hlength]
      exact List.mem_range.1 hk
    have hk : net.placeIds[k]? = some (net.placeIds.getD k "") := by simp [hlt]
    rw [fireChange_eq_incidence hk fun hfirst => h.repeated k _ hk hfirst tr htr, mul_add]
    by_cases hfirst : net.placeIds.idxOf (net.placeIds.getD k "") = k
    · rw [if_pos hfirst]
      by_cases hin : 2 ≤ arcsIn net tr.id (net.placeIds.getD k "")
      · have hweight := h.parallel _ (List.mem_of_getElem? hk) tr htr hin _ hx
        simp only [hfirst] at hweight
        have hentry : row.getD k 0 = 0 := le_antisymm (Int.toNat_eq_zero.1 hweight) (hsolves.nonneg row hrow k)
        rw [hentry, zero_mul, zero_mul, add_zero]
      · rw [min_eq_right (by omega), sub_self, mul_zero, add_zero]
    · rw [if_neg hfirst, mul_zero, add_zero]
  rw [weightedSum_fire hfire, sum_rowToInvariant _ (hsolves.nonneg row hrow) hplaces, hlength,
    List.map_congr_left hsame, hzero, add_zero]

/-- One transition with several arcs from `p`, and one to `q`. -/
def pourNet (arcs : List NetArc) : PetriNet where
  places := [⟨"p", "p"⟩, ⟨"q", "q"⟩]
  transitions := [⟨"pour", "pour"⟩]
  arcs := arcs ++ [⟨"out", "pour", "q"⟩]

def twoTokens : Marking := .ofList [("p", 2)]

end Cantilune.Petri

/-!
## The elimination is complete

Over any matrix, the rows that the loop leaves are solutions that are not negative and not zero, and every such
solution is a combination of them.
-/

namespace Cantilune.Petri

open PointedCone

variable {m n : Nat} {A B : List Row} {row : Row}

def matrixRows (A : Matrix (Fin m) (Fin n) ℤ) : List Row := List.ofFn fun i => List.ofFn (A i)

def survivingRows (A : List Row) : List Row :=
  (List.range (numTransitions A)).foldl (eliminateColumn A A.length) (seedIdentity A.length)

example : survivingRows [[-1, 0], [1, -2], [0, 1]] = [[1, 1, 2]] := by decide

def rowVector (m : Nat) (row : Row) : Fin m → ℤ := fun k => row.getD k 0

theorem exists_ne_zero_cancelRow {j : Nat} {p q : Row} (hp : ∀ k, 0 ≤ p.getD k 0) (hq : ∀ k, 0 ≤ q.getD k 0)
    (hlength : p.length = m) (hne : ∃ k, p.getD k 0 ≠ 0) (hneg : dotColumn q A j < 0) :
    ∃ k, (cancelRow A m j p q).getD k 0 ≠ 0 := by
  obtain ⟨k, hk⟩ := hne
  have hkm : k < m := by
    by_contra h
    rw [List.getD_eq_getElem?_getD, List.getElem?_eq_none (by omega)] at hk
    exact hk rfl
  have hpos : 0 < p.getD k 0 := lt_of_le_of_ne (hp k) hk.symm
  have hweight : (0 : Int) < (dotColumn q A j).natAbs := by omega
  refine ⟨k, ne_of_gt ?_⟩
  rw [getD_cancelRow hkm]
  exact add_pos_of_pos_of_nonneg (mul_pos hpos hweight) (mul_nonneg (hq k) (Int.natCast_nonneg _))

theorem ne_zero_foldl (hA : A.length = m) (j : Nat) :
    ∀ row ∈ (List.range j).foldl (eliminateColumn A m) (seedIdentity m), ∃ k, row.getD k 0 ≠ 0 := by
  induction j with
  | zero =>
      intro row hrow
      obtain ⟨i, hi, rfl⟩ := List.mem_map.1 hrow
      exact ⟨i, by simp [List.mem_range.1 hi]⟩
  | succ j ih =>
      intro row hrow
      have hsolves := solves_foldl hA j
      rw [List.range_succ, List.foldl_append] at hrow
      rcases mem_eliminateColumn hrow with ⟨hmem, -⟩ | ⟨p, hp, q, hq, -, hneg, rfl⟩
      · exact ih row hmem
      · exact exists_ne_zero_cancelRow (hsolves.nonneg p hp) (hsolves.nonneg q hq) (hsolves.length p hp) (ih p hp) hneg

theorem mem_rowCone_iff {x : Fin m → ℚ} : x ∈ rowCone m B ↔
    ∃ c : Fin B.length → ℚ, (∀ i, 0 ≤ c i) ∧ x = ∑ i, c i • rowVec m (B.get i) := by
  have hset : {v | ∃ row ∈ B, rowVec m row = v} = Set.range fun i : Fin B.length => rowVec m (B.get i) := by
    ext v
    simp only [Set.mem_ofPred_eq, Set.mem_range, List.mem_iff_get]
    exact ⟨fun ⟨_, ⟨i, rfl⟩, h⟩ => ⟨i, h⟩, fun ⟨i, h⟩ => ⟨_, ⟨i, rfl⟩, h⟩⟩
  rw [rowCone, hset]
  refine (Submodule.mem_span_range_iff_exists_fun _).trans ?_
  constructor
  · rintro ⟨c, rfl⟩
    exact ⟨fun i => (c i).1, fun i => (c i).2, rfl⟩
  · rintro ⟨c, hc, rfl⟩
    exact ⟨fun i => ⟨c i, hc i⟩, rfl⟩

/-! ### Over a matrix -/

theorem column_matrixRows (A : Matrix (Fin m) (Fin n) ℤ) (x : Fin m → ℚ) (j : Fin n) :
    column m (matrixRows A) j x = ∑ k, x k * (A k j : ℚ) := by
  rw [column_apply]
  refine Finset.sum_congr rfl fun k _ => ?_
  simp [matrixRows]

theorem dotColumn_matrixRows (A : Matrix (Fin m) (Fin n) ℤ) (row : Row) (j : Fin n) :
    dotColumn row (matrixRows A) j = Matrix.vecMul (rowVector m row) A j := by
  rw [dotColumn, matrixRows, List.length_ofFn, sum_range_map]
  refine Finset.sum_congr rfl fun k _ => ?_
  simp [rowVector]

theorem solves_survivingRows (A : Matrix (Fin m) (Fin n) ℤ) :
    Solves (matrixRows A) m n (survivingRows (matrixRows A)) := by
  have hlength : (matrixRows A).length = m := List.length_ofFn
  rw [survivingRows, hlength]
  cases m with
  | zero =>
      -- there is no row, so that no column is gone through
      refine ⟨?_, ?_, ?_, fun x _ _ => ?_⟩
      · simp [matrixRows, numTransitions, seedIdentity]
      · simp [matrixRows, numTransitions, seedIdentity]
      · simp [matrixRows, numTransitions, seedIdentity]
      · rw [Subsingleton.elim x 0]
        exact zero_mem _
  | succ m =>
      have hcolumns : numTransitions (matrixRows A) = n := by simp [matrixRows, numTransitions, List.ofFn_succ]
      rw [hcolumns]
      exact solves_foldl hlength n

/-- Over every matrix of whole numbers, each solution is a combination of the surviving rows, and these are
solutions themselves: not negative, not zero, and zero on every column. -/
theorem elimination_complete {m n : Nat} (A : Matrix (Fin m) (Fin n) ℤ) :
    (∀ x : Fin m → ℤ, 0 ≤ x → Matrix.vecMul x A = 0 →
      ∃ c : Fin (survivingRows (matrixRows A)).length → ℚ, (∀ i, 0 ≤ c i) ∧
        ∀ k, (x k : ℚ) = ∑ i, c i * rowVector m ((survivingRows (matrixRows A)).get i) k) ∧
    ∀ row ∈ survivingRows (matrixRows A), row.length = m ∧ 0 ≤ rowVector m row ∧ rowVector m row ≠ 0 ∧
      Matrix.vecMul (rowVector m row) A = 0 := by
  have hsolves := solves_survivingRows A
  constructor
  · intro x hx hzero
    have hmem : (fun k => (x k : ℚ)) ∈ rowCone m (survivingRows (matrixRows A)) := by
      refine hsolves.complete _ (fun k => Int.cast_nonneg (hx k)) fun j hj => ?_
      rw [column_matrixRows A _ ⟨j, hj⟩]
      have hcolumn := congrFun hzero ⟨j, hj⟩
      exact_mod_cast hcolumn
    obtain ⟨c, hc, hsum⟩ := mem_rowCone_iff.1 hmem
    refine ⟨c, hc, fun k => (congrFun hsum k).trans ?_⟩
    rw [Finset.sum_apply]
    rfl
  · intro row hrow
    have hlength := hsolves.length row hrow
    refine ⟨hlength, fun k => hsolves.nonneg row hrow k, fun hzero => ?_, ?_⟩
    · obtain ⟨k, hk⟩ := ne_zero_foldl rfl _ row hrow
      by_cases hkm : k < m
      · exact hk (congrFun hzero ⟨k, hkm⟩)
      · rw [List.getD_eq_getElem?_getD, List.getElem?_eq_none (by omega)] at hk
        exact hk rfl
    · funext j
      rw [← dotColumn_matrixRows]
      exact hsolves.columns row hrow j j.isLt

end Cantilune.Petri
