import Cantilune.Theorems.PlaceInvariants
import Cantilune.Theorems.Reachability

/-!
# One token game

A fire, a step of the search and a column of the incidence matrix are three ways to tell the marking after an
enabled transition. They agree where at most one arc leads from each place into the transition: a fire takes a
single token for all of them, the search takes what there is, the matrix takes one for each.
-/

namespace Cantilune.Petri

variable {net : PetriNet} {m m' : Marking} {tr : NetTransition} {j : Nat} {t p : String}

def tokensByMatrix (net : PetriNet) (m : Marking) (i j : Nat) (placeId : String) : Int :=
  tokensAt m placeId + ((incidenceMatrix net).getD i []).getD j 0

/-- The transition of this column is listed as enabled exactly when the search has an edge for it and exactly when
a fire is not blocked; and the markings after it agree at every place, with no place below zero. -/
structure OneGame (net : PetriNet) (m : Marking) (j : Nat) (tr : NetTransition) : Prop where
  edge : (∃ e ∈ enabledTransitions net m, e.transition.id = tr.id) ↔ ∃ m', (firingGraph net).Step m tr.id m'
  fires : (∃ e ∈ enabledTransitions net m, e.transition.id = tr.id) ↔ ∃ m', Fire net m tr.id m'
  agree : ∀ fired stepped, Fire net m tr.id fired → (firingGraph net).Step m tr.id stepped →
    ∀ i p, net.placeIds[i]? = some p → (tokensAt fired p : Int) = tokensByMatrix net m i j p ∧
      (tokensAt stepped p : Int) = tokensByMatrix net m i j p ∧ 0 ≤ tokensByMatrix net m i j p

def SingleArcs (net : PetriNet) (transitionId : String) : Prop :=
  ∀ i p, net.placeIds[i]? = some p → arcsIn net transitionId p ≤ 1 ∧
    (net.placeIds.idxOf p ≠ i → arcsOut net transitionId p = arcsIn net transitionId p)

theorem listed_iff (htr : tr ∈ net.transitions) : (∃ e ∈ enabledTransitions net m, e.transition.id = tr.id) ↔
    ∃ c, classifyArcsForTransition net tr.id = .ok c ∧ ∀ arc ∈ c.inputs, 1 ≤ tokensAt m arc.placeId := by
  constructor
  · rintro ⟨e, he, hid⟩
    obtain ⟨_, hc, henabled⟩ := mem_enabledTransitions.1 he
    exact ⟨_, hid ▸ hc, henabled⟩
  · rintro ⟨c, hc, henabled⟩
    exact ⟨⟨tr, c.inputs, c.outputs⟩, mem_enabledTransitions.2 ⟨htr, hc, henabled⟩, rfl⟩

theorem step_iff_listed : (∃ e ∈ enabledTransitions net m, e.transition.id = t) ↔
    ∃ m', (firingGraph net).Step m t m' := by
  constructor
  · rintro ⟨e, he, hid⟩
    exact ⟨applyEnabled m e, step_iff_fires.2 ⟨e, he, hid, rfl⟩⟩
  · rintro ⟨m', hstep⟩
    obtain ⟨e, he, hid, _⟩ := step_iff_fires.1 hstep
    exact ⟨e, he, hid⟩

theorem isSome_findTransition (htr : tr ∈ net.transitions) : (findTransition net tr.id).isSome = true := by
  rw [findTransition, List.find?_isSome]
  exact ⟨tr, htr, decide_eq_true rfl⟩

theorem fire_iff_listed (htr : tr ∈ net.transitions) :
    (∃ e ∈ enabledTransitions net m, e.transition.id = tr.id) ↔ ∃ m', Fire net m tr.id m' := by
  rw [listed_iff htr]
  constructor
  · rintro ⟨c, hc, henabled⟩
    exact ⟨_, fire_iff.2 ⟨isSome_findTransition htr, c, hc, henabled, rfl⟩⟩
  · rintro ⟨m', hfire⟩
    obtain ⟨_, c, hc, henabled, _⟩ := fire_iff.1 hfire
    exact ⟨c, hc, henabled⟩

/-! ## The markings after -/

theorem tokensAt_step (h : (firingGraph net).Step m t m') (placeId : String) :
    tokensAt m' placeId = tokensAt m placeId - arcsIn net t placeId + arcsOut net t placeId := by
  obtain ⟨e, he, rfl, rfl⟩ := step_iff_fires.1 h
  obtain ⟨_, hc, _⟩ := mem_enabledTransitions.1 he
  rw [tokensAt_applyEnabled, arcsIn, arcsOut, hc]

theorem tokensByMatrix_eq {i : Nat} (hj : net.transitions[j]? = some tr) (hi : net.placeIds[i]? = some p) :
    tokensByMatrix net m i j p = tokensAt m p +
      if net.placeIds.idxOf p = i then (arcsOut net tr.id p : Int) - arcsIn net tr.id p else 0 := by
  have hlt : i < net.places.length := by
    simpa [PetriNet.placeIds] using (List.getElem?_eq_some_iff.1 hi).1
  rw [tokensByMatrix, entry_incidenceMatrix hlt hj, incidence_eq hi]

theorem one_le_tokensAt (h : Fire net m t m') (hin : 0 < arcsIn net t p) : 1 ≤ tokensAt m p := by
  obtain ⟨_, c, hc, henabled, _⟩ := fire_iff.1 h
  rw [arcsIn, hc] at hin
  obtain ⟨arc, harc, rfl⟩ := List.mem_map.1 (List.count_pos_iff.1 hin)
  exact henabled arc harc

theorem fire_agrees_iff {i : Nat} (hj : net.transitions[j]? = some tr) (hi : net.placeIds[i]? = some p)
    (hfire : Fire net m tr.id m') : (tokensAt m' p : Int) = tokensByMatrix net m i j p ↔
      if net.placeIds.idxOf p = i then arcsIn net tr.id p ≤ 1
      else arcsOut net tr.id p = min 1 (arcsIn net tr.id p) := by
  rw [tokensAt_fire hfire, tokensByMatrix_eq hj hi, fireChange]
  split <;> omega

theorem step_agrees {i : Nat} (hsingle : SingleArcs net tr.id) (hj : net.transitions[j]? = some tr)
    (hi : net.placeIds[i]? = some p) (hfire : Fire net m tr.id m') {stepped : Marking}
    (hstep : (firingGraph net).Step m tr.id stepped) :
    (tokensAt stepped p : Int) = tokensByMatrix net m i j p ∧ 0 ≤ tokensByMatrix net m i j p := by
  obtain ⟨hone, hrepeated⟩ := hsingle i p hi
  have htoken : 0 < arcsIn net tr.id p → 1 ≤ tokensAt m p := one_le_tokensAt hfire
  rw [tokensAt_step hstep, tokensByMatrix_eq hj hi]
  split
  · omega
  · have hback := hrepeated ‹_›
    omega

/-- The three semantics agree on a transition exactly when it is not enabled or has single arcs. -/
theorem one_token_game_iff (net : PetriNet) (m : Marking) (j : Nat) (tr : NetTransition)
    (hj : net.transitions[j]? = some tr) :
    OneGame net m j tr ↔ ((∃ e ∈ enabledTransitions net m, e.transition.id = tr.id) → SingleArcs net tr.id) := by
  have htr : tr ∈ net.transitions := List.mem_of_getElem? hj
  constructor
  · intro h hlisted i p hi
    obtain ⟨fired, hfire⟩ := h.fires.1 hlisted
    obtain ⟨stepped, hstep⟩ := h.edge.1 hlisted
    have hmem : p ∈ net.placeIds := List.mem_of_getElem? hi
    have hfirst := (fire_agrees_iff hj (List.getElem?_idxOf hmem) hfire).1
      (h.agree fired stepped hfire hstep _ p (List.getElem?_idxOf hmem)).1
    rw [if_pos rfl] at hfirst
    refine ⟨hfirst, fun hrepeated => ?_⟩
    have hagrees := (fire_agrees_iff hj hi hfire).1 (h.agree fired stepped hfire hstep i p hi).1
    rw [if_neg hrepeated] at hagrees
    omega
  · intro hsingle
    refine ⟨step_iff_listed, fire_iff_listed htr, fun fired stepped hfire hstep i p hi => ?_⟩
    have hone := hsingle ((fire_iff_listed htr).2 ⟨fired, hfire⟩)
    obtain ⟨harcs, hrepeated⟩ := hone i p hi
    refine ⟨(fire_agrees_iff hj hi hfire).2 ?_, step_agrees hone hj hi hfire hstep⟩
    split
    · exact harcs
    · have hback := hrepeated ‹_›
      omega

/-- With two arcs from `p`, which holds two tokens, a fire leaves one, the search and the matrix leave none. -/
theorem pourNet_three_games :
    ¬ OneGame (pourNet [⟨"in-1", "p", "pour"⟩, ⟨"in-2", "p", "pour"⟩]) twoTokens 0 ⟨"pour", "pour"⟩ := by
  intro h
  have hfire : Fire (pourNet [⟨"in-1", "p", "pour"⟩, ⟨"in-2", "p", "pour"⟩]) twoTokens "pour"
      (.ofList [("p", 1), ("q", 1)]) := by
    unfold Fire
    decide +kernel
  obtain ⟨stepped, hstep⟩ := h.edge.1 (h.fires.2 ⟨_, hfire⟩)
  have hagree := (h.agree _ _ hfire hstep 0 "p" rfl).1
  revert hagree
  decide +kernel

/-- With one arc in and one out the three semantics agree. -/
theorem pourNet_one_game : OneGame (pourNet [⟨"in", "p", "pour"⟩]) twoTokens 0 ⟨"pour", "pour"⟩ := by
  refine (one_token_game_iff _ _ 0 _ rfl).2 fun _ i p hi => ?_
  obtain ⟨hlt, rfl⟩ := List.getElem?_eq_some_iff.1 hi
  have hnodup : (pourNet [⟨"in", "p", "pour"⟩]).placeIds.Nodup := by decide
  have hone : ∀ p ∈ (pourNet [⟨"in", "p", "pour"⟩]).placeIds, arcsIn (pourNet [⟨"in", "p", "pour"⟩]) "pour" p ≤ 1 := by
    decide +kernel
  exact ⟨hone _ (List.getElem_mem hlt), fun hrepeated => absurd (hnodup.idxOf_getElem i hlt) hrepeated⟩

end Cantilune.Petri
