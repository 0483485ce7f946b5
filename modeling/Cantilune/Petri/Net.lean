import Cantilune.Base.OrdMap
import Cantilune.Base.JsString
import Cantilune.Base.Search

/-!
# Petri nets

The structural net and its markings, the classification of its arcs by a transition, and the transitions
that a marking enables.
-/

namespace Cantilune.Petri

structure NetPlace where
  id : String
  name : String
  deriving DecidableEq

structure NetTransition where
  id : String
  name : String
  deriving DecidableEq

structure NetArc where
  id : String
  source : String
  target : String
  deriving DecidableEq

structure PetriNet where
  places : List NetPlace
  transitions : List NetTransition
  arcs : List NetArc

inductive ArcDirection where
  | in
  | out
  deriving DecidableEq

/-- How many tokens each place holds. -/
abbrev Marking := OrdMap String Nat

structure ClassifiedArc where
  arc : NetArc
  direction : ArcDirection
  placeId : String
  deriving DecidableEq

structure ClassifiedArcs where
  inputs : List ClassifiedArc
  outputs : List ClassifiedArc
  deriving DecidableEq

structure EnabledTransition where
  transition : NetTransition
  consumes : List ClassifiedArc
  produces : List ClassifiedArc
  deriving DecidableEq

structure SelfLoopArcError where
  arcId : String
  transitionId : String
  deriving DecidableEq

/-- The tokens at a place; an unmarked place has none. -/
def tokensAt (marking : Marking) (placeId : String) : Nat := (marking.get? placeId).getD 0

def PetriNet.placeIds (net : PetriNet) : List String := net.places.map (·.id)

def hasSelfLoopArc (net : PetriNet) (transitionId : String) : Bool :=
  net.arcs.any fun arc => arc.source = transitionId && arc.target = transitionId

/-- The arcs into and out of a transition, in the order of the net. Arcs to what is no place are left out. -/
def classifyArcs (placeIds : List String) (transitionId : String) :
    List NetArc → Except SelfLoopArcError ClassifiedArcs
  | [] => .ok ⟨[], []⟩
  | arc :: arcs =>
      if arc.source = transitionId ∧ arc.target = transitionId then .error ⟨arc.id, transitionId⟩
      else do
        let rest ← classifyArcs placeIds transitionId arcs
        if arc.source = transitionId then
          if arc.target ∈ placeIds then pure { rest with outputs := ⟨arc, .out, arc.target⟩ :: rest.outputs }
          else pure rest
        else if arc.target = transitionId then
          if arc.source ∈ placeIds then pure { rest with inputs := ⟨arc, .in, arc.source⟩ :: rest.inputs }
          else pure rest
        else pure rest

def classifyArcsForTransition (net : PetriNet) (transitionId : String) :
    Except SelfLoopArcError ClassifiedArcs :=
  classifyArcs net.placeIds transitionId net.arcs

def findTransition (net : PetriNet) (transitionId : String) : Option NetTransition :=
  net.transitions.find? fun t => t.id = transitionId

/-- Every enabled transition with what it consumes and produces; one with a self-loop arc is left out. -/
def enabledTransitions (net : PetriNet) (marking : Marking) : List EnabledTransition :=
  net.transitions.filterMap fun transition =>
    match classifyArcsForTransition net transition.id with
    | .error _ => none
    | .ok classified =>
        if classified.inputs.all fun arc => 1 ≤ tokensAt marking arc.placeId then
          some { transition, consumes := classified.inputs, produces := classified.outputs }
        else none

theorem classifyArcs_placeId {placeIds : List String} {transitionId : String} {arcs : List NetArc}
    {c : ClassifiedArcs} (h : classifyArcs placeIds transitionId arcs = .ok c) :
    (∀ arc ∈ c.inputs, arc.placeId ∈ placeIds) ∧ ∀ arc ∈ c.outputs, arc.placeId ∈ placeIds := by
  induction arcs generalizing c with
  | nil =>
      cases h
      simp
  | cons arc arcs ih =>
      rw [classifyArcs] at h
      split at h
      · cases h
      · cases hrest : classifyArcs placeIds transitionId arcs with
        | error e =>
            rw [hrest] at h
            cases h
        | ok rest =>
            obtain ⟨hin, hout⟩ := ih hrest
            rw [hrest] at h
            simp only [bind, Except.bind] at h
            split at h
            · split at h
              · cases h
                exact ⟨hin, List.forall_mem_cons.2 ⟨‹_›, hout⟩⟩
              · cases h
                exact ⟨hin, hout⟩
            · split at h
              · split at h
                · cases h
                  exact ⟨List.forall_mem_cons.2 ⟨‹_›, hin⟩, hout⟩
                · cases h
                  exact ⟨hin, hout⟩
              · cases h
                exact ⟨hin, hout⟩

theorem mem_enabledTransitions {net : PetriNet} {marking : Marking} {e : EnabledTransition} :
    e ∈ enabledTransitions net marking ↔ e.transition ∈ net.transitions ∧
      classifyArcsForTransition net e.transition.id = .ok ⟨e.consumes, e.produces⟩ ∧
      ∀ arc ∈ e.consumes, 1 ≤ tokensAt marking arc.placeId := by
  obtain ⟨transition, consumes, produces⟩ := e
  simp only [enabledTransitions, List.mem_filterMap]
  constructor
  · rintro ⟨t, ht, h⟩
    split at h
    · cases h
    · rename_i c hc
      split at h
      · rename_i hall
        cases h
        exact ⟨ht, hc, fun arc harc => of_decide_eq_true (List.all_eq_true.1 hall arc harc)⟩
      · cases h
  · rintro ⟨ht, hc, hall⟩
    refine ⟨transition, ht, ?_⟩
    rw [hc]
    exact if_pos (List.all_eq_true.2 fun arc harc => decide_eq_true (hall arc harc))

/-! ## Tokens -/

def SameTokens (m m' : Marking) : Prop := ∀ placeId, tokensAt m placeId = tokensAt m' placeId

theorem sameTokens_equivalence : Equivalence SameTokens where
  refl _ _ := rfl
  symm h placeId := (h placeId).symm
  trans h h' placeId := (h placeId).trans (h' placeId)

theorem tokensAt_set (marking : Marking) (placeId other : String) (count : Nat) :
    tokensAt (marking.set placeId count) other = if other = placeId then count else tokensAt marking other := by
  unfold tokensAt
  rw [OrdMap.get?_set]
  split <;> rfl

theorem tokensAt_produce (arcs : List ClassifiedArc) (m : Marking) (placeId : String) :
    tokensAt (arcs.foldl (fun next arc => next.set arc.placeId (tokensAt next arc.placeId + 1)) m) placeId =
      tokensAt m placeId + (arcs.map (·.placeId)).count placeId := by
  induction arcs generalizing m with
  | nil => rfl
  | cons arc arcs ih =>
      rw [List.foldl_cons, ih, tokensAt_set, List.map_cons, List.count_cons]
      by_cases h : placeId = arc.placeId
      · subst h
        simp
        omega
      · have h' : ¬ arc.placeId = placeId := fun heq => h heq.symm
        simp [h, h']

theorem enabledTransitions_congr (net : PetriNet) {m m' : Marking} (h : SameTokens m m') :
    enabledTransitions net m = enabledTransitions net m' := by
  unfold enabledTransitions
  simp only [h _]

end Cantilune.Petri

/-!
## The token game

One fire of a transition under a marking. A fire that is blocked leaves the marking as it was.
-/

namespace Cantilune.Petri

inductive FireBlockedReason where
  | unknownTransition
  | selfLoopArc
  | disabled
  deriving DecidableEq

/-- The binding of a coloured net; it is passed through. -/
abbrev FireBinding := OrdMap String String

structure FireResult where
  ok : Bool
  marking : Marking
  transition : Option NetTransition := none
  blockedReason : Option FireBlockedReason := none
  underMarked : Option (List String) := none
  binding : Option FireBinding := none

/-- The next marking. What an input place held is read off the marking before, for each of its arcs. -/
def applyFire (marking : Marking) (inputs outputs : List ClassifiedArc) : Marking :=
  let next := inputs.foldl (fun next arc => next.set arc.placeId (tokensAt marking arc.placeId - 1)) marking
  outputs.foldl (fun next arc => next.set arc.placeId (tokensAt next arc.placeId + 1)) next

def fire (net : PetriNet) (marking : Marking) (transitionId : String) (binding : Option FireBinding := none) :
    FireResult :=
  match findTransition net transitionId with
  | none => { ok := false, marking, blockedReason := some .unknownTransition, binding }
  | some transition =>
      if hasSelfLoopArc net transitionId then
        { ok := false, marking, blockedReason := some .selfLoopArc, binding }
      else
        match classifyArcsForTransition net transitionId with
        -- the classification fails on self-loop arcs only, which were ruled out
        | .error _ => { ok := false, marking, blockedReason := some .selfLoopArc, binding }
        | .ok classified =>
            let underMarked := (classified.inputs.filter fun arc => tokensAt marking arc.placeId < 1).map (·.placeId)
            if underMarked.length > 0 then
              { ok := false, marking, blockedReason := some .disabled, underMarked := some underMarked, binding }
            else
              { ok := true, marking := applyFire marking classified.inputs classified.outputs,
                transition := some transition, binding }

/-! ### What a fire does -/

/-- The marking after the fire of a transition, if it is not blocked. -/
def Fire (net : PetriNet) (marking : Marking) (transitionId : String) (next : Marking) : Prop :=
  (fire net marking transitionId).ok = true ∧ (fire net marking transitionId).marking = next

theorem classifyArcs_isOk {placeIds : List String} {transitionId : String} {arcs : List NetArc} :
    (∃ c, classifyArcs placeIds transitionId arcs = .ok c) ↔
      (arcs.any fun arc => arc.source = transitionId && arc.target = transitionId) = false := by
  induction arcs with
  | nil => simp [classifyArcs]
  | cons arc arcs ih =>
      rw [classifyArcs, List.any_cons]
      by_cases hself : arc.source = transitionId ∧ arc.target = transitionId
      · simp [hself]
      · have hfalse : (decide (arc.source = transitionId) && decide (arc.target = transitionId)) = false := by
          rw [← Bool.decide_and]
          exact decide_eq_false hself
        rw [if_neg hself, hfalse, Bool.false_or, ← ih]
        cases classifyArcs placeIds transitionId arcs with
        | error e => simp [bind, Except.bind]
        | ok rest =>
            simp only [bind, Except.bind, Except.ok.injEq, exists_eq', iff_true]
            split
            · split <;> exact ⟨_, rfl⟩
            · split
              · split <;> exact ⟨_, rfl⟩
              · exact ⟨_, rfl⟩

theorem fire_iff {net : PetriNet} {m m' : Marking} {t : String} :
    Fire net m t m' ↔ (findTransition net t).isSome = true ∧ ∃ c, classifyArcsForTransition net t = .ok c ∧
      (∀ arc ∈ c.inputs, 1 ≤ tokensAt m arc.placeId) ∧ applyFire m c.inputs c.outputs = m' := by
  unfold Fire fire
  cases findTransition net t with
  | none => simp
  | some transition =>
      have hok : (∃ c, classifyArcsForTransition net t = .ok c) ↔ hasSelfLoopArc net t = false := classifyArcs_isOk
      cases hc : classifyArcsForTransition net t with
      | error e =>
          rw [hc] at hok
          simp
      | ok c =>
          rw [hc] at hok
          have hloop : hasSelfLoopArc net t = false := hok.1 ⟨c, rfl⟩
          have hmarked : ((c.inputs.filter fun arc => tokensAt m arc.placeId < 1).map (·.placeId)).length > 0 ↔
              ¬ ∀ arc ∈ c.inputs, 1 ≤ tokensAt m arc.placeId := by
            rw [List.length_map, gt_iff_lt, List.length_pos_iff_exists_mem]
            simp
          simp only [hloop, Bool.false_eq_true, if_false, Option.isSome_some, true_and, Except.ok.injEq,
            exists_eq_left']
          split
          · rename_i hunder
            exact iff_of_false (fun h => (nomatch h.1)) fun h => hmarked.1 hunder h.1
          · rename_i hunder
            have hall : ∀ arc ∈ c.inputs, 1 ≤ tokensAt m arc.placeId := not_not.1 (mt hmarked.2 hunder)
            exact ⟨fun h => ⟨hall, h.2⟩, fun h => ⟨rfl, h.2⟩⟩

theorem tokensAt_consumeEach (arcs : List ClassifiedArc) (m next : Marking) (placeId : String) :
    tokensAt (arcs.foldl (fun next arc => next.set arc.placeId (tokensAt m arc.placeId - 1)) next) placeId =
      if placeId ∈ arcs.map (·.placeId) then tokensAt m placeId - 1 else tokensAt next placeId := by
  induction arcs generalizing next with
  | nil => rfl
  | cons arc arcs ih =>
      rw [List.foldl_cons, ih, tokensAt_set, List.map_cons]
      by_cases h : placeId = arc.placeId
      · subst h
        simp
      · simp [h]

theorem tokensAt_applyFire (m : Marking) (inputs outputs : List ClassifiedArc) (placeId : String) :
    tokensAt (applyFire m inputs outputs) placeId =
      (if placeId ∈ inputs.map (·.placeId) then tokensAt m placeId - 1 else tokensAt m placeId) +
        (outputs.map (·.placeId)).count placeId := by
  rw [applyFire, tokensAt_produce, tokensAt_consumeEach]

end Cantilune.Petri

/-!
## Bounded reachability

The search of the firing graph of a net for a marking that meets a goal, with markings told apart by a text.
-/

namespace Cantilune.Petri

def applyEnabled (marking : Marking) (enabled : EnabledTransition) : Marking :=
  let next := enabled.consumes.foldl (fun next arc => next.set arc.placeId (tokensAt next arc.placeId - 1)) marking
  enabled.produces.foldl (fun next arc => next.set arc.placeId (tokensAt next arc.placeId + 1)) next

structure ReachStep where
  marking : Marking
  firedTransition : String

structure ReachResult where
  reachable : Bool
  trace : List ReachStep
  explored : Nat
  maxSteps : Nat

def comparePlaceIds (a b : String) : Int := if JsString.lt a b then -1 else if JsString.lt b a then 1 else 0

/-- The places that hold tokens, in the order of their ids. -/
def markedPlaces (marking : Marking) : List (String × Nat) :=
  (marking.entries.filter fun e => 0 < e.2).insertionSort fun a b => comparePlaceIds a.1 b.1 ≤ 0

def markingKey (marking : Marking) : String :=
  (String.singleton '|').intercalate ((markedPlaces marking).map fun e => s!"{e.1}:{e.2}")

def firingGraph (net : PetriNet) : Search.Space Marking String String where
  next marking := (enabledTransitions net marking).map fun e => (e.transition.id, applyEnabled marking e)
  key := markingKey

theorem length_next_le (net : PetriNet) (marking : Marking) :
    ((firingGraph net).next marking).length ≤ net.transitions.length := by
  rw [firingGraph, List.length_map]
  exact List.length_filterMap_le _ _

/-- What the search of the firing graph gives; it always ends. -/
def searchMarkings (net : PetriNet) (initial : Marking) (goal : Marking → Bool) (maxSteps : Nat) :
    Search.Found Marking String ⊕ Nat :=
  (Search.search (firingGraph net) goal net.transitions.length maxSteps initial).get
    (Search.search_isSome (length_next_le net))

/-- The bound is a whole number of steps here; a bound below one counts as one. -/
def reachable (net : PetriNet) (initial : Marking) (goal : Marking → Bool) (maxSteps : Nat := 50) : ReachResult :=
  let maxSteps := if maxSteps < 1 then 1 else maxSteps
  if goal initial then { reachable := true, trace := [], explored := 1, maxSteps }
  else
    match searchMarkings net initial goal maxSteps with
    | .inl found =>
        { reachable := true, trace := found.trace.map fun e => ⟨e.1, e.2⟩, explored := found.explored, maxSteps }
    | .inr explored => { reachable := false, trace := [], explored, maxSteps }

end Cantilune.Petri
