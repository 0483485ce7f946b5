import Cantilune.Petri.Net

/-!
# What bounded reachability finds

The search is sound, complete up to its bound, and finds shortest traces, for every goal that looks at
tokens only, exactly when the texts by which it tells markings apart do so for the markings within the bound.
Ids of places without a bar are enough for that.
-/

namespace Cantilune.Petri

open Search

variable {net : PetriNet} {initial m m' : Marking} {goal : Marking → Bool} {maxSteps : Nat}

/-! ## Firing -/

def Fires (net : PetriNet) (m : Marking) (transitionId : String) (m' : Marking) : Prop :=
  ∃ e ∈ enabledTransitions net m, e.transition.id = transitionId ∧ applyEnabled m e = m'

inductive IsTrace (net : PetriNet) : Marking → List ReachStep → Marking → Prop where
  | nil (m : Marking) : IsTrace net m [] m
  | cons {m m' last : Marking} {t : String} {trace : List ReachStep} (head : Fires net m t m')
      (tail : IsTrace net m' trace last) : IsTrace net m (⟨m, t⟩ :: trace) last

def CountsTokens (goal : Marking → Bool) : Prop := ∀ m m', SameTokens m m' → goal m = goal m'

/-- The search reports success exactly when a firing sequence within the bound leads to the goal, and the
trace it returns is a shortest one. -/
structure SearchCorrect (net : PetriNet) (initial : Marking) (goal : Marking → Bool) (maxSteps : Nat) : Prop where
  reports : (reachable net initial goal maxSteps).reachable = true ↔
    ∃ ts m, ts.length ≤ maxSteps ∧ Run (Fires net) initial ts m ∧ goal m = true
  shortest : (reachable net initial goal maxSteps).reachable = true →
    ∃ last, IsTrace net initial (reachable net initial goal maxSteps).trace last ∧ goal last = true ∧
      (reachable net initial goal maxSteps).trace.length ≤ maxSteps ∧
      ∀ ts m, Run (Fires net) initial ts m → goal m = true →
        (reachable net initial goal maxSteps).trace.length ≤ ts.length

def KeysSeparate (net : PetriNet) (initial : Marking) (maxSteps : Nat) : Prop :=
  ∀ ts ts' m m', ts.length ≤ maxSteps → Run (Fires net) initial ts m → ts'.length ≤ maxSteps →
    Run (Fires net) initial ts' m' → markingKey m = markingKey m' → SameTokens m m'

theorem step_iff_fires {t : String} : (firingGraph net).Step m t m' ↔ Fires net m t m' := by
  simp [Space.Step, firingGraph, Fires]

theorem run_iff {ts : List String} : Run (firingGraph net).Step m ts m' ↔ Run (Fires net) m ts m' :=
  ⟨Run.mono fun _ _ _ => step_iff_fires.1, Run.mono fun _ _ _ => step_iff_fires.2⟩

theorem isTrace_of_traceTo {trace : Trace Marking String} (h : TraceTo (firingGraph net) m trace m') :
    IsTrace net m (trace.map fun e => ⟨e.1, e.2⟩) m' := by
  induction h with
  | nil m => exact .nil m
  | cons head _ ih => exact .cons (step_iff_fires.1 head) ih

theorem separated_iff : Separated (firingGraph net) SameTokens initial maxSteps ↔ KeysSeparate net initial maxSteps := by
  constructor
  · intro h ts ts' m m' hts r hts' r' hkey
    exact h m m' ⟨ts, hts, run_iff.2 r⟩ ⟨ts', hts', run_iff.2 r'⟩ hkey
  · rintro h m m' ⟨ts, hts, r⟩ ⟨ts', hts', r'⟩ hkey
    exact h ts ts' m m' hts (run_iff.1 r) hts' (run_iff.1 r') hkey

theorem tokensAt_consume (arcs : List ClassifiedArc) (m : Marking) (placeId : String) :
    tokensAt (arcs.foldl (fun next arc => next.set arc.placeId (tokensAt next arc.placeId - 1)) m) placeId =
      tokensAt m placeId - (arcs.map (·.placeId)).count placeId := by
  induction arcs generalizing m with
  | nil => rfl
  | cons arc arcs ih =>
      rw [List.foldl_cons, ih, tokensAt_set, List.map_cons, List.count_cons]
      by_cases h : placeId = arc.placeId
      · subst h
        simp
        omega
      · have h' : ¬ arc.placeId = placeId := fun heq => h heq.symm
        simp [h, h']

theorem tokensAt_applyEnabled (m : Marking) (e : EnabledTransition) (placeId : String) :
    tokensAt (applyEnabled m e) placeId =
      tokensAt m placeId - (e.consumes.map (·.placeId)).count placeId + (e.produces.map (·.placeId)).count placeId := by
  rw [applyEnabled, tokensAt_produce, tokensAt_consume]

/-! ## The key of a marking -/

theorem comparePlaceIds_nonpos {a b : String} : comparePlaceIds a b ≤ 0 ↔ JsString.lt b a = false := by
  unfold comparePlaceIds
  by_cases h : JsString.lt a b = true
  · simp [h, JsString.lt_asymm h]
  · simp only [h, Bool.false_eq_true, if_false]
    cases JsString.lt b a <;> simp

theorem mem_markedPlaces {id : String} {count : Nat} :
    (id, count) ∈ markedPlaces m ↔ tokensAt m id = count ∧ 0 < count := by
  rw [markedPlaces, (List.perm_insertionSort _ _).mem_iff, List.mem_filter, OrdMap.mem_entries]
  unfold tokensAt
  cases hget : m.get? id with
  | none =>
      simp
      omega
  | some n => simp

theorem nodup_markedPlaces (m : Marking) : ((markedPlaces m).map Prod.fst).Nodup := by
  have hperm := (List.perm_insertionSort (fun a b => comparePlaceIds a.1 b.1 ≤ 0)
    (m.entries.filter fun e => 0 < e.2)).map Prod.fst
  exact hperm.nodup_iff.2 (List.Nodup.sublist ((List.filter_sublist ..).map Prod.fst) m.nodupKeys)

theorem sorted_markedPlaces (m : Marking) :
    (markedPlaces m).Pairwise fun a b => comparePlaceIds a.1 b.1 ≤ 0 := by
  have htotal : Std.Total fun a b : String × Nat => comparePlaceIds a.1 b.1 ≤ 0 := ⟨fun a b => by
    rw [comparePlaceIds_nonpos, comparePlaceIds_nonpos]
    cases h : JsString.lt b.1 a.1 with
    | false => exact .inl rfl
    | true => exact .inr (JsString.lt_asymm h)⟩
  have htrans : IsTrans (String × Nat) fun a b => comparePlaceIds a.1 b.1 ≤ 0 := ⟨fun a b c hab hbc => by
    rw [comparePlaceIds_nonpos] at hab hbc ⊢
    exact JsString.not_lt_trans hab hbc⟩
  exact List.pairwise_insertionSort _ _

theorem markedPlaces_congr (h : SameTokens m m') : markedPlaces m = markedPlaces m' := by
  refine List.Perm.eq_of_pairwise (fun a b ha hb hab hba => ?_) (sorted_markedPlaces m) (sorted_markedPlaces m') ?_
  · obtain ⟨i, c⟩ := a
    obtain ⟨j, d⟩ := b
    have hid : i = j := JsString.eq_of_not_lt (comparePlaceIds_nonpos.1 hba) (comparePlaceIds_nonpos.1 hab)
    obtain ⟨rfl, _⟩ := mem_markedPlaces.1 ha
    obtain ⟨rfl, _⟩ := mem_markedPlaces.1 hb
    rw [hid, h j]
  · refine (List.perm_ext_iff_of_nodup (nodup_markedPlaces m).of_map (nodup_markedPlaces m').of_map).2 fun e => ?_
    obtain ⟨i, c⟩ := e
    rw [mem_markedPlaces, mem_markedPlaces, h i]

theorem sameTokens_of_markedPlaces (h : markedPlaces m = markedPlaces m') : SameTokens m m' := by
  intro id
  by_cases h₀ : 0 < tokensAt m id
  · have hmem : (id, tokensAt m id) ∈ markedPlaces m' := by
      rw [← h]
      exact mem_markedPlaces.2 ⟨rfl, h₀⟩
    exact (mem_markedPlaces.1 hmem).1.symm
  · by_cases h₁ : 0 < tokensAt m' id
    · have hmem : (id, tokensAt m' id) ∈ markedPlaces m := by
        rw [h]
        exact mem_markedPlaces.2 ⟨rfl, h₁⟩
      exact (mem_markedPlaces.1 hmem).1
    · omega

theorem firingGraph_bisimulation (net : PetriNet) : Bisimulation (firingGraph net) SameTokens where
  equiv := sameTokens_equivalence
  step m m' t n h hstep := by
    obtain ⟨e, he, ht, rfl⟩ := step_iff_fires.1 hstep
    refine ⟨applyEnabled m' e, step_iff_fires.2 ⟨e, enabledTransitions_congr net h ▸ he, ht, rfl⟩, fun id => ?_⟩
    rw [tokensAt_applyEnabled, tokensAt_applyEnabled, h id]
  key m m' h := by
    simp only [firingGraph, markingKey, markedPlaces_congr h]

theorem toList_placeText (e : String × Nat) :
    s!"{e.1}:{e.2}".toList = e.1.toList ++ ':' :: (toString e.2).toList := by
  simp [toString]

theorem sameTokens_of_markingKey (hm : ∀ id, 0 < tokensAt m id → '|' ∉ id.toList)
    (hm' : ∀ id, 0 < tokensAt m' id → '|' ∉ id.toList) (h : markingKey m = markingKey m') : SameTokens m m' := by
  have htexts : ∀ m : Marking, (∀ id, 0 < tokensAt m id → '|' ∉ id.toList) →
      ∀ text ∈ (markedPlaces m).map (fun e => s!"{e.1}:{e.2}"), '|' ∉ text.toList ∧ text ≠ "" := by
    intro m hm text htext
    obtain ⟨e, he, rfl⟩ := List.mem_map.1 htext
    have hid := (mem_markedPlaces.1 he).1
    have hpos := (mem_markedPlaces.1 he).2
    rw [← hid] at hpos
    constructor
    · rw [toList_placeText, List.mem_append, List.mem_cons]
      rintro (hbar | hbar | hbar)
      · exact hm e.1 hpos hbar
      · exact absurd hbar (by decide)
      · exact JsString.notMem_toString (by decide) _ hbar
    · intro hempty
      have hnil := toList_placeText e
      rw [hempty] at hnil
      simp at hnil
  have hmap := JsString.intercalate_inj (htexts m hm) (htexts m' hm') h
  refine sameTokens_of_markedPlaces (List.map_injective_iff.2 (fun e f hef => ?_) hmap)
  have hchars := congrArg String.toList hef
  simp only [toList_placeText] at hchars
  obtain ⟨hid, hcount⟩ := JsString.append_cons_inj (JsString.notMem_toString (by decide) _)
    (JsString.notMem_toString (by decide) _) hchars
  exact Prod.ext (String.toList_inj.1 hid) (JsString.toString_injective hcount)

theorem marked_of_run {ts : List String} (r : Run (Fires net) initial ts m) {id : String}
    (h : 0 < tokensAt m id) : 0 < tokensAt initial id ∨ id ∈ net.placeIds := by
  revert h
  refine r.related (R := fun m m' => 0 < tokensAt m' id → 0 < tokensAt m id ∨ id ∈ net.placeIds)
    (fun _ h => .inl h) (fun _ _ _ h₁ h₂ h => (h₂ h).elim h₁ .inr) ?_
  rintro m t m' ⟨e, he, _, rfl⟩ h
  obtain ⟨_, hclassified, _⟩ := mem_enabledTransitions.1 he
  have hplaces := (classifyArcs_placeId hclassified).2
  rw [tokensAt_applyEnabled] at h
  by_cases hcount : 0 < (e.produces.map (·.placeId)).count id
  · obtain ⟨arc, harc, rfl⟩ := List.mem_map.1 (List.count_pos_iff.1 hcount)
    exact .inr (hplaces arc harc)
  · exact .inl (by omega)

theorem keysSeparate_of_ids (hids : ∀ id, 0 < tokensAt initial id ∨ id ∈ net.placeIds → '|' ∉ id.toList) :
    KeysSeparate net initial maxSteps := fun _ _ _ _ _ r _ r' hkey =>
  sameTokens_of_markingKey (fun id h => hids id (marked_of_run r h)) (fun id h => hids id (marked_of_run r' h)) hkey

/-! ## The search -/

theorem searchMarkings_spec : Search.search (firingGraph net) goal net.transitions.length maxSteps initial =
    some (searchMarkings net initial goal maxSteps) :=
  (Option.some_get _).symm

theorem reachable_cases (goal : Marking → Bool) (hmax : 1 ≤ maxSteps) (hgoal : goal initial = false) :
    (∃ found, searchMarkings net initial goal maxSteps = .inl found ∧
      (reachable net initial goal maxSteps).reachable = true ∧
      (reachable net initial goal maxSteps).trace = found.trace.map fun e => ⟨e.1, e.2⟩) ∨
    ∃ explored, searchMarkings net initial goal maxSteps = .inr explored ∧
      (reachable net initial goal maxSteps).reachable = false := by
  have hclamp : ¬ maxSteps < 1 := by omega
  unfold reachable
  simp only [hclamp, if_false, hgoal, Bool.false_eq_true]
  cases searchMarkings net initial goal maxSteps with
  | inl found => exact .inl ⟨found, rfl, rfl, rfl⟩
  | inr explored => exact .inr ⟨explored, rfl, rfl⟩

theorem searchCorrect_of_keysSeparate (hmax : 1 ≤ maxSteps) (hgoal : CountsTokens goal)
    (hsep : KeysSeparate net initial maxSteps) : SearchCorrect net initial goal maxSteps := by
  have hbisim := firingGraph_bisimulation net
  have hseparated := separated_iff.2 hsep
  by_cases hinit : goal initial = true
  · have hyes : (reachable net initial goal maxSteps).reachable = true := by
      unfold reachable
      simp [hinit]
    have htrace : (reachable net initial goal maxSteps).trace = [] := by
      unfold reachable
      simp [hinit]
    refine ⟨iff_of_true hyes ⟨[], initial, Nat.zero_le _, .nil initial, hinit⟩, fun _ => ?_⟩
    rw [htrace]
    exact ⟨initial, .nil initial, hinit, Nat.zero_le _, fun _ _ _ _ => Nat.zero_le _⟩
  · have hmissed : goal initial = false := by simpa using hinit
    rcases reachable_cases goal hmax hmissed with ⟨found, hfound, hyes, htrace⟩ | ⟨explored, hnone, hno⟩
    · have hcorrect : found.Correct (firingGraph net) goal initial maxSteps :=
        search_found hbisim hgoal hseparated hmissed (by rw [searchMarkings_spec, hfound])
      have hleads := hcorrect.leads
      refine ⟨iff_of_true hyes ⟨_, found.last, ?_, run_iff.1 hleads.run, hcorrect.met⟩, fun _ => ?_⟩
      · rw [List.length_map]
        exact hcorrect.bound
      · rw [htrace, List.length_map]
        refine ⟨found.last, isTrace_of_traceTo hleads, hcorrect.met, hcorrect.bound, fun ts m r hmet => ?_⟩
        exact hcorrect.shortest ts.length m ⟨ts, Nat.le_refl _, run_iff.2 r⟩ hmet
    · have hnever : ∀ ts m, ts.length ≤ maxSteps → Run (Fires net) initial ts m → goal m = false := fun ts m hts r =>
        search_exhausted hbisim hgoal hseparated hmissed (by rw [searchMarkings_spec, hnone])
          ⟨ts, hts, run_iff.2 r⟩
      refine ⟨⟨fun h => ?_, fun ⟨ts, m, hts, r, hmet⟩ => ?_⟩, fun h => ?_⟩
      · rw [hno] at h
        cases h
      · rw [hnever ts m hts r] at hmet
        cases hmet
      · rw [hno] at h
        cases h

theorem keysSeparate_of_searchCorrect (hmax : 1 ≤ maxSteps)
    (h : ∀ goal, CountsTokens goal → SearchCorrect net initial goal maxSteps) : KeysSeparate net initial maxSteps := by
  classical
  intro ts ts' m m' hts r hts' r' hkey
  -- each of the two markings, taken as the goal, has to be found
  have hcounts : ∀ m, CountsTokens fun u => decide (SameTokens u m) := fun m u u' huu' =>
    decide_eq_decide.2 ⟨sameTokens_equivalence.trans (sameTokens_equivalence.symm huu'),
      sameTokens_equivalence.trans huu'⟩
  have hself : ∀ m, decide (SameTokens m m) = true := fun m => decide_eq_true (sameTokens_equivalence.refl m)
  have hfinds : ∀ ts u, ts.length ≤ maxSteps → Run (Fires net) initial ts u → SameTokens initial u ∨
      ∃ found, Search.search (firingGraph net) (fun v => decide (SameTokens v u)) net.transitions.length maxSteps
        initial = some (.inl found) := by
    intro ts u hts r
    have hyes := (h _ (hcounts u)).reports.2 ⟨ts, u, hts, r, hself u⟩
    by_cases hinit : SameTokens initial u
    · exact .inl hinit
    · rcases reachable_cases (fun v => decide (SameTokens v u)) hmax (decide_eq_false hinit) with ⟨found, hfound, _⟩ | ⟨_, _, hno⟩
      · exact .inr ⟨found, by rw [searchMarkings_spec, hfound]⟩
      · rw [hno] at hyes
        cases hyes
  have hkeys : ∀ u, SameTokens u m ∨ SameTokens u m' → markingKey u = markingKey m := by
    rintro u (hu | hu)
    · exact (firingGraph_bisimulation net).key u m hu
    · exact ((firingGraph_bisimulation net).key u m' hu).trans hkey.symm
  have hnew : ∀ u found, (SameTokens u m ∨ SameTokens u m') → SameTokens initial m ∨ SameTokens initial m' →
      Search.search (firingGraph net) (fun v => decide (SameTokens v u)) net.transitions.length maxSteps initial
        ≠ some (.inl found) := by
    intro u found hu hinit hfound
    obtain ⟨hunseen, hmet⟩ := loop_new hfound
    have hlast : SameTokens found.last u := of_decide_eq_true hmet
    have hor : SameTokens found.last m ∨ SameTokens found.last m' :=
      hu.imp (sameTokens_equivalence.trans hlast) (sameTokens_equivalence.trans hlast)
    exact hunseen (List.mem_singleton.2 ((hkeys _ hor).trans (hkeys _ hinit).symm))
  have hself' := sameTokens_equivalence.refl
  rcases hfinds ts m hts r with hm | ⟨found, hfound⟩
  · rcases hfinds ts' m' hts' r' with hm' | ⟨found', hfound'⟩
    · exact sameTokens_equivalence.trans (sameTokens_equivalence.symm hm) hm'
    · exact absurd hfound' (hnew m' found' (.inr (hself' m')) (.inl hm))
  · rcases hfinds ts' m' hts' r' with hm' | ⟨found', hfound'⟩
    · exact absurd hfound (hnew m found (.inl (hself' m)) (.inr hm'))
    · have hmet : SameTokens found.last m := of_decide_eq_true (loop_new hfound).2
      have hmet' : SameTokens found'.last m' := of_decide_eq_true (loop_new hfound').2
      have hlast : found.last = found'.last := by
        refine last_eq_of_key hfound hfound' fun u hu => ?_
        have hor : SameTokens u m ∨ SameTokens u m' := hu.imp of_decide_eq_true of_decide_eq_true
        exact (hkeys u hor).trans (hkeys _ (.inl hmet)).symm
      rw [← hlast] at hmet'
      exact sameTokens_equivalence.trans (sameTokens_equivalence.symm hmet) hmet'

/-- The search is correct for every goal that looks at tokens only, if and only if no two markings within
the bound have one key and different tokens. -/
theorem bounded_reachability (net : PetriNet) (initial : Marking) (maxSteps : Nat) (hmax : 1 ≤ maxSteps) :
    (∀ goal, CountsTokens goal → SearchCorrect net initial goal maxSteps) ↔ KeysSeparate net initial maxSteps :=
  ⟨keysSeparate_of_searchCorrect hmax, fun hsep _ hgoal => searchCorrect_of_keysSeparate hmax hgoal hsep⟩

/-! ## Two markings of one key -/

/-- From the start, one transition marks two places, and the other a place whose id looks like both. -/
def forkNet (merged : String) : PetriNet where
  places := [⟨"start", "start"⟩, ⟨"a", "a"⟩, ⟨"b", "b"⟩, ⟨merged, "merged"⟩]
  transitions := [⟨"split", "split"⟩, ⟨"merge", "merge"⟩]
  arcs := [⟨"1", "start", "split"⟩, ⟨"2", "split", "a"⟩, ⟨"3", "split", "b"⟩, ⟨"4", "start", "merge"⟩,
    ⟨"5", "merge", merged⟩]

def oneToken : Marking := .ofList [("start", 1)]

def marks (placeId : String) (m : Marking) : Bool := 1 ≤ tokensAt m placeId

theorem countsTokens_marks (placeId : String) : CountsTokens (marks placeId) := fun m m' h => by
  simp only [marks, h placeId]

/-- The second transition marks its place in one step, and the search does not find it. -/
theorem forkNet_missed : CountsTokens (marks "a:1|b") ∧
    ¬ SearchCorrect (forkNet "a:1|b") oneToken (marks "a:1|b") 1 := by
  refine ⟨countsTokens_marks _, fun h => ?_⟩
  have hno : (reachable (forkNet "a:1|b") oneToken (marks "a:1|b") 1).reachable = false := by decide +kernel
  have hfires : ∃ m, Fires (forkNet "a:1|b") oneToken "merge" m ∧ marks "a:1|b" m = true := by
    have hlast : ((enabledTransitions (forkNet "a:1|b") oneToken).map fun e =>
        (e.transition.id, marks "a:1|b" (applyEnabled oneToken e)))[1]? = some ("merge", true) := by decide +kernel
    obtain ⟨e, he, heq⟩ := List.mem_map.1 (List.mem_of_getElem? hlast)
    obtain ⟨hid, hmarks⟩ := Prod.mk.inj heq
    exact ⟨_, ⟨e, he, hid, rfl⟩, hmarks⟩
  obtain ⟨m, hm, hmet⟩ := hfires
  have hyes := h.reports.2 ⟨["merge"], m, Nat.le_refl 1, .single hm, hmet⟩
  rw [hno] at hyes
  cases hyes

/-- With an id that has no bar, the search of the same net is correct. -/
theorem forkNet_searched : SearchCorrect (forkNet "c") oneToken (marks "c") 1 := by
  refine (bounded_reachability (forkNet "c") oneToken 1 (Nat.le_refl 1)).2 (keysSeparate_of_ids fun id hid => ?_) _
    (countsTokens_marks "c")
  have hids : id ∈ ["start", "a", "b", "c"] := by
    rcases hid with hid | hid
    · have hstart : id = "start" := by
        by_contra hne
        have hzero : tokensAt oneToken id = 0 := by
          rw [oneToken, OrdMap.ofList, List.foldl_cons, List.foldl_nil, tokensAt_set, if_neg hne]
          rfl
        omega
      simp [hstart]
    · exact hid
  have hbars : ∀ id ∈ ["start", "a", "b", "c"], '|' ∉ id.toList := by decide +kernel
  exact hbars id hids

end Cantilune.Petri
