import Cantilune.Base.Selection
import Cantilune.Lemmas.AgentMessages
import Mathlib.Data.List.Pairwise

/-!
# The window of a transcript

The units of a well-formed transcript are its groups, the window keeps whole units, and so it is well formed.
-/

namespace Cantilune.AgentLoop

def texts (objects : List MessageObject) : List LlmMessage := objects.map (·.message)

theorem texts_append (xs ys : List MessageObject) : texts (xs ++ ys) = texts xs ++ texts ys := List.map_append

theorem texts_cons (x : MessageObject) (xs : List MessageObject) : texts (x :: xs) = x.message :: texts xs := rfl

/-! ## Units -/

inductive IsGroup : List LlmMessage → Prop where
  | single {m : LlmMessage} (alone : m.isTool = false) (calls : m.toolCalls = []) : IsGroup [m]
  | group {m : LlmMessage} {results : List LlmMessage} (calls : m.toolCalls ≠ [])
      (complete : isCompleteGroup m.toolCalls results = true) : IsGroup (m :: results)

theorem IsGroup.wellFormed_append {g rest : List LlmMessage} (h : IsGroup g) (hrest : WellFormed rest) :
    WellFormed (g ++ rest) := by
  cases h with
  | single alone calls => exact .single alone calls hrest
  | group calls complete => exact .group calls complete hrest

inductive Grouped : Nat → List MessageObject → List (List Nat) → Prop where
  | nil (i : Nat) : Grouped i [] []
  | cons {i : Nat} {g rest : List MessageObject} {units : List (List Nat)} (group : IsGroup (texts g))
      (tail : Grouped (i + g.length) rest units) : Grouped i (g ++ rest) (List.range' i g.length :: units)

theorem messageUnitsFrom_results {i : Nat} {indices : List Nat} {results rest : List MessageObject}
    (hresults : ∀ r ∈ texts results, r.isTool = true) (hrest : WellFormed (texts rest)) :
    messageUnitsFrom i (some indices) (results ++ rest) =
      (indices ++ List.range' i results.length) :: messageUnitsFrom (i + results.length) none rest := by
  induction results generalizing i indices with
  | nil =>
      cases rest with
      | nil => simp [messageUnitsFrom]
      | cons m rest =>
          have hhead : m.message.isTool = false := hrest.head
          simp only [List.nil_append, List.length_nil, List.range'_zero, List.append_nil, Nat.add_zero,
            messageUnitsFrom, hhead, Bool.false_eq_true, if_false]
          split
          · rfl
          · rfl
  | cons r results ih =>
      have hr : r.message.isTool = true := hresults _ List.mem_cons_self
      have htail := @ih (i + 1) (indices ++ [i]) fun m hm => hresults m (List.mem_cons_of_mem _ hm)
      rw [List.cons_append, messageUnitsFrom, if_pos hr, htail, List.length_cons, List.range'_succ,
        List.append_assoc, List.singleton_append, Nat.add_right_comm i 1, ← Nat.add_assoc]

theorem grouped_messageUnitsFrom {i : Nat} {messages : List MessageObject} (h : WellFormed (texts messages)) :
    Grouped i messages (messageUnitsFrom i none messages) := by
  generalize htexts : texts messages = ms at h
  induction h generalizing i messages with
  | nil =>
      cases List.map_eq_nil_iff.1 htexts
      exact .nil i
  | @single m rest alone calls _ ih =>
      obtain ⟨o, os, rfl, rfl, hos⟩ := List.map_eq_cons_iff.1 htexts
      rw [messageUnitsFrom, if_neg (not_not.2 calls)]
      exact @Grouped.cons i [o] os _ (.single alone calls) (ih hos)
  | @group m results rest calls complete hrest ih =>
      obtain ⟨o, os, rfl, rfl, hos⟩ := List.map_eq_cons_iff.1 htexts
      obtain ⟨rs, ts, rfl, rfl, rfl⟩ := List.map_eq_append_iff.1 hos
      have hresults : ∀ r ∈ texts rs, r.isTool = true := isTool_of_isCompleteGroup complete
      rw [messageUnitsFrom, if_pos calls, messageUnitsFrom_results hresults hrest]
      have hunit : [i] ++ List.range' (i + 1) rs.length = List.range' i (o :: rs).length := by
        rw [List.length_cons, List.range'_succ, List.singleton_append]
      have hplace : i + 1 + rs.length = i + (o :: rs).length := by
        rw [List.length_cons]
        omega
      rw [hunit, hplace]
      exact @Grouped.cons i (o :: rs) ts _ (.group calls complete) (ih rfl)

variable {i : Nat} {messages : List MessageObject} {units : List (List Nat)}

theorem Grouped.flatten (h : Grouped i messages units) : units.flatten = List.range' i messages.length := by
  induction h with
  | nil => rfl
  | @cons i g rest units group tail ih =>
      rw [List.flatten_cons, ih, List.length_append, List.range'_append_1]

theorem Grouped.unit_of_single (h : Grouped i messages units) {k : Nat} {o : MessageObject}
    (ho : messages[k]? = some o) (halone : o.message.isTool = false) (hcalls : o.message.toolCalls = []) :
    [i + k] ∈ units := by
  induction h generalizing k with
  | nil => cases ho
  | @cons i g rest units group tail ih =>
      by_cases hk : k < g.length
      · rw [List.getElem?_append_left hk] at ho
        generalize hg : texts g = ms at group
        cases group with
        | single alone calls =>
            obtain ⟨x, rfl, -⟩ := List.map_eq_singleton_iff.1 hg
            rw [List.length_singleton] at hk
            obtain rfl : k = 0 := by omega
            exact List.mem_cons_self
        | @group m results calls complete =>
            obtain ⟨x, xs, rfl, rfl, hxs⟩ := List.map_eq_cons_iff.1 hg
            cases k with
            | zero =>
                cases ho
                exact absurd hcalls calls
            | succ k =>
                have hmem : o.message ∈ results := hxs ▸ List.mem_map_of_mem (List.mem_of_getElem? ho)
                rw [isTool_of_isCompleteGroup complete _ hmem] at halone
                cases halone
      · rw [List.getElem?_append_right (by omega)] at ho
        have hmem := ih ho
        rw [show i + g.length + (k - g.length) = i + k by omega] at hmem
        exact List.mem_cons_of_mem _ hmem

def Closed (chosen : List Nat) (units : List (List Nat)) : Prop :=
  ∀ unit ∈ units, (∀ j ∈ unit, j ∈ chosen) ∨ ∀ j ∈ unit, j ∉ chosen

theorem wellFormed_keepFrom {chosen : List Nat} (h : Grouped i messages units) (hclosed : Closed chosen units) :
    WellFormed (texts (Selection.keepFrom chosen i messages)) := by
  induction h with
  | nil => exact .nil
  | @cons i g rest units group tail ih =>
      have htail := ih fun unit hunit => hclosed unit (List.mem_cons_of_mem _ hunit)
      rw [Selection.keepFrom_append, texts_append]
      rcases hclosed _ List.mem_cons_self with hall | hnone
      · rw [Selection.keepFrom_eq_self fun j hj hlt => hall j (List.mem_range'_1.2 ⟨hj, hlt⟩)]
        exact group.wellFormed_append htail
      · rw [Selection.keepFrom_eq_nil fun j hj hlt => hnone j (List.mem_range'_1.2 ⟨hj, hlt⟩)]
        exact htail

theorem disjoint_of_nodup_flatten (hnodup : units.flatten.Nodup) {u v : List Nat} (hu : u ∈ units) (hv : v ∈ units)
    {j : Nat} (hju : j ∈ u) (hjv : j ∈ v) : u = v := by
  by_contra hne
  have : Std.Symm (@List.Disjoint Nat) := ⟨fun _ _ h => h.symm⟩
  exact (List.nodup_flatten.1 hnodup).2.forall hu hv hne hju hjv

theorem nodup_flatten_reverse (hnodup : units.flatten.Nodup) : units.reverse.flatten.Nodup := by
  rw [List.nodup_flatten] at hnodup ⊢
  refine ⟨fun u hu => hnodup.1 u (List.mem_reverse.1 hu), List.pairwise_reverse.2 (hnodup.2.imp ?_)⟩
  exact fun h => h.symm

theorem nodup_flatten_sublist {some : List (List Nat)} (hsub : some.Sublist units) (hnodup : units.flatten.Nodup) :
    some.flatten.Nodup := by
  rw [List.nodup_flatten] at hnodup ⊢
  exact ⟨fun u hu => hnodup.1 u (hsub.subset hu), hnodup.2.sublist hsub⟩

theorem selectUnits_eq (remaining : Nat) (units : List (List Nat)) :
    ∃ kept : List (List Nat), selectUnits remaining units = kept.flatten ∧ kept.Sublist units ∧
      kept.flatten.length ≤ remaining := by
  induction units generalizing remaining with
  | nil => exact ⟨[], rfl, List.Sublist.refl _, Nat.zero_le _⟩
  | cons unit units ih =>
      unfold selectUnits
      split
      · obtain ⟨kept, hkept, hsub, hlength⟩ := ih remaining
        exact ⟨kept, hkept, hsub.cons unit, hlength⟩
      · rename_i hfits
        obtain ⟨kept, hkept, hsub, hlength⟩ := ih (remaining - unit.length)
        refine ⟨unit :: kept, by rw [hkept, List.flatten_cons], hsub.cons_cons unit, ?_⟩
        rw [List.flatten_cons, List.length_append]
        omega

/-! ## What is kept -/

section Kept

variable {core : List MessageObject} {limit : Nat} {goal : MessageObject}

def Distinct (objects : List MessageObject) : Prop := (objects.map (·.identity)).Nodup

theorem findIdx?_identity (hdistinct : Distinct core) (hgoal : goal ∈ core) :
    ∃ k, core.findIdx? (fun m => m.identity = goal.identity) = some k ∧ core[k]? = some goal := by
  obtain ⟨k, hk⟩ : ∃ k, core.findIdx? (fun m => m.identity = goal.identity) = some k := by
    rw [← Option.isSome_iff_exists, List.findIdx?_isSome, List.any_eq_true]
    exact ⟨goal, hgoal, decide_eq_true rfl⟩
  refine ⟨k, hk, ?_⟩
  obtain ⟨hlt, hidentity, -⟩ := List.findIdx?_eq_some_iff_getElem.1 hk
  rw [List.getElem?_eq_getElem hlt]
  exact congrArg some (List.inj_on_of_nodup_map hdistinct (List.getElem_mem hlt) hgoal (of_decide_eq_true hidentity))

/-- The indices that are kept in any case, with the units that they make up. -/
structure Required (core : List MessageObject) (limit : Nat) (goal : MessageObject) (required : List Nat) : Prop where
  nodup : required.Nodup
  length : required.length ≤ limit
  closed : Closed required (messageUnits core)
  goal : ∀ k, core.findIdx? (fun m => m.identity = goal.identity) = some k → k ∈ required
  prompt : 2 ≤ limit → ∀ k, core.findIdx? (fun m => m.message.isSystem) = some k → k ∈ required

theorem grouped_messageUnits (hwell : WellFormed (texts core)) : Grouped 0 core (messageUnits core) :=
  grouped_messageUnitsFrom hwell

theorem nodup_messageUnits (hwell : WellFormed (texts core)) : (messageUnits core).flatten.Nodup := by
  rw [(grouped_messageUnits hwell).flatten]
  exact List.nodup_range'

theorem closed_of_single {chosen : List Nat} (hwell : WellFormed (texts core))
    (h : ∀ k ∈ chosen, ∃ o, core[k]? = some o ∧ o.message.isTool = false ∧ o.message.toolCalls = []) :
    Closed chosen (messageUnits core) := by
  intro unit hunit
  by_cases hmeets : ∃ j ∈ unit, j ∈ chosen
  · obtain ⟨j, hj, hchosen⟩ := hmeets
    obtain ⟨o, ho, halone, hcalls⟩ := h j hchosen
    have hsingle := (grouped_messageUnits hwell).unit_of_single ho halone hcalls
    rw [Nat.zero_add] at hsingle
    have heq := disjoint_of_nodup_flatten (nodup_messageUnits hwell) hunit hsingle hj (List.mem_singleton_self j)
    refine .inl fun k hk => ?_
    rw [heq, List.mem_singleton] at hk
    exact hk ▸ hchosen
  · exact .inr fun j hj hchosen => hmeets ⟨j, hj, hchosen⟩

theorem Closed.append_unit {chosen unit : List Nat} (hwell : WellFormed (texts core))
    (h : Closed chosen (messageUnits core)) (hunit : unit ∈ messageUnits core) :
    Closed (chosen ++ unit) (messageUnits core) := by
  intro other hother
  by_cases hmeets : ∃ j ∈ other, j ∈ unit
  · obtain ⟨j, hj, hj'⟩ := hmeets
    have heq := disjoint_of_nodup_flatten (nodup_messageUnits hwell) hother hunit hj hj'
    exact .inl fun k hk => List.mem_append_right _ (heq ▸ hk)
  · rcases h other hother with hall | hnone
    · exact .inl fun k hk => List.mem_append_left _ (hall k hk)
    · refine .inr fun k hk hmem => ?_
      rcases List.mem_append.1 hmem with hk' | hk'
      · exact hnone k hk hk'
      · exact hmeets ⟨k, hk, hk'⟩

structure RequiredPrompt (core : List MessageObject) (limit : Nat) (goal : MessageObject) (prompt : List Nat) :
    Prop where
  nodup : prompt.Nodup
  length : prompt.length ≤ limit
  single : ∀ k ∈ prompt, ∃ o, core[k]? = some o ∧ o.message.isTool = false ∧ o.message.toolCalls = []
  goal : ∀ k, core.findIdx? (fun m => m.identity = goal.identity) = some k → k ∈ prompt
  prompt : 2 ≤ limit → ∀ k, core.findIdx? (fun m => m.message.isSystem) = some k → k ∈ prompt

theorem requiredPrompt_spec (hdistinct : Distinct core) (hgoal : goal ∈ core)
    (huser : ∃ text, goal.message = .user text) (hlimit : 0 < limit) :
    RequiredPrompt core limit goal (requiredPrompt core limit goal) := by
  obtain ⟨g, hg, hgo⟩ := findIdx?_identity hdistinct hgoal
  obtain ⟨text, htext⟩ := huser
  have hgsingle : ∀ k ∈ [g], ∃ o, core[k]? = some o ∧ o.message.isTool = false ∧ o.message.toolCalls = [] := by
    intro k hk
    rw [List.mem_singleton] at hk
    subst hk
    exact ⟨goal, hgo, by rw [htext]; rfl, by rw [htext]; rfl⟩
  have hgoalIndex : ∀ {chosen : List Nat}, g ∈ chosen →
      ∀ k, core.findIdx? (fun m => m.identity = goal.identity) = some k → k ∈ chosen := by
    intro chosen hmem k hk
    rw [hg] at hk
    cases hk
    exact hmem
  have hgmem := List.mem_singleton_self g
  unfold requiredPrompt
  rw [hg, Option.toList_some]
  cases hsystem : core.findIdx? fun m => m.message.isSystem with
  | none => exact ⟨List.nodup_singleton g, hlimit, hgsingle, hgoalIndex hgmem, fun _ k hk => by rw [hsystem] at hk; cases hk⟩
  | some systemIndex =>
      obtain ⟨hlt, hissystem, -⟩ := List.findIdx?_eq_some_iff_getElem.1 hsystem
      obtain ⟨halone, hcalls⟩ := single_of_isSystem hissystem
      dsimp only
      split
      · rename_i hroom
        rw [List.length_singleton] at hroom
        refine ⟨(List.nodup_singleton g).insert, ?_, fun k hk => ?_, hgoalIndex (List.mem_insert_of_mem hgmem),
          fun _ k hk => ?_⟩
        · by_cases hmem : systemIndex ∈ [g]
          · rw [List.length_insert_of_mem hmem]
            exact hlimit
          · rw [List.length_insert_of_not_mem hmem]
            exact hroom
        · rcases List.mem_insert_iff.1 hk with rfl | hk
          · exact ⟨_, List.getElem?_eq_getElem hlt, halone, hcalls⟩
          · exact hgsingle k hk
        · rw [hsystem] at hk
          cases hk
          exact List.mem_insert_self
      · rename_i hroom
        rw [List.length_singleton] at hroom
        exact ⟨List.nodup_singleton g, hlimit, hgsingle, hgoalIndex hgmem, fun htwo => by omega⟩

theorem requiredIndices_spec (hwell : WellFormed (texts core)) (hdistinct : Distinct core) (hgoal : goal ∈ core)
    (huser : ∃ text, goal.message = .user text) (hlimit : 0 < limit) :
    Required core limit goal (requiredIndices core limit goal) := by
  have hprompt := requiredPrompt_spec hdistinct hgoal huser hlimit
  unfold requiredIndices
  dsimp only
  generalize requiredPrompt core limit goal = prompt at hprompt
  have hclosed := closed_of_single hwell hprompt.single
  split
  · rename_i unit hlatest
    split
    · rename_i hfits
      have hunit : unit ∈ messageUnits core := List.mem_reverse.1 (List.mem_of_find?_eq_some hlatest)
      have hdisjoint : ∀ k ∈ prompt, k ∉ unit := by
        intro k hk hmem
        obtain ⟨o, ho, halone, hcalls⟩ := hprompt.single k hk
        have hown := (grouped_messageUnits hwell).unit_of_single ho halone hcalls
        rw [Nat.zero_add] at hown
        have heq := disjoint_of_nodup_flatten (nodup_messageUnits hwell) hunit hown hmem (List.mem_singleton_self k)
        have hhead := List.find?_some hlatest
        rw [heq, List.head?_singleton, Option.bind_some, ho] at hhead
        exact (of_decide_eq_true hhead) hcalls
      refine ⟨?_, ?_, hclosed.append_unit hwell hunit, fun k hk => List.mem_append_left _ (hprompt.goal k hk),
        fun htwo k hk => List.mem_append_left _ (hprompt.prompt htwo k hk)⟩
      · refine List.nodup_append.2
          ⟨hprompt.nodup, (List.nodup_flatten.1 (nodup_messageUnits hwell)).1 unit hunit, ?_⟩
        rintro k hk j hj rfl
        exact hdisjoint k hk hj
      · have := hprompt.length
        rw [List.length_append]
        omega
    · exact ⟨hprompt.nodup, hprompt.length, hclosed, hprompt.goal, hprompt.prompt⟩
  · exact ⟨hprompt.nodup, hprompt.length, hclosed, hprompt.goal, hprompt.prompt⟩

theorem selected_spec {required : List Nat} (hwell : WellFormed (texts core))
    (h : Required core limit goal required) (room : Nat) (hroom : room ≤ limit - required.length) :
    let selected := required ++
      selectUnits room ((messageUnits core).filter fun unit => !unit.any (· ∈ required)).reverse
    Required core limit goal selected ∧ selected.length ≤ required.length + room := by
  dsimp only
  obtain ⟨kept, hkept, hsub, hlength⟩ := selectUnits_eq room
    ((messageUnits core).filter fun unit => !unit.any (· ∈ required)).reverse
  rw [hkept]
  have hmem : ∀ unit ∈ kept, unit ∈ messageUnits core ∧ ∀ j ∈ unit, j ∉ required := by
    intro unit hunit
    have hcandidate := List.mem_filter.1 (List.mem_reverse.1 (hsub.subset hunit))
    refine ⟨hcandidate.1, fun j hj hreq => ?_⟩
    have hnone := hcandidate.2
    rw [Bool.not_eq_true', List.any_eq_false] at hnone
    exact hnone j hj (decide_eq_true hreq)
  have hnodup : kept.flatten.Nodup :=
    nodup_flatten_sublist hsub
      (nodup_flatten_reverse (nodup_flatten_sublist List.filter_sublist (nodup_messageUnits hwell)))
  refine ⟨⟨?_, ?_, ?_, fun k hk => List.mem_append_left _ (h.goal k hk), fun htwo k hk =>
    List.mem_append_left _ (h.prompt htwo k hk)⟩, ?_⟩
  · refine List.nodup_append.2 ⟨h.nodup, hnodup, ?_⟩
    rintro k hk j hj rfl
    obtain ⟨unit, hunit, hk'⟩ := List.mem_flatten.1 hj
    exact (hmem unit hunit).2 k hk' hk
  · rw [List.length_append]
    have := h.length
    omega
  · intro other hother
    by_cases hmeets : ∃ j ∈ other, j ∈ kept.flatten
    · obtain ⟨j, hj, hj'⟩ := hmeets
      obtain ⟨unit, hunit, hju⟩ := List.mem_flatten.1 hj'
      have heq := disjoint_of_nodup_flatten (nodup_messageUnits hwell) hother (hmem unit hunit).1 hj hju
      exact .inl fun k hk => List.mem_append_right _ (List.mem_flatten.2 ⟨unit, hunit, heq ▸ hk⟩)
    · rcases h.closed other hother with hall | hnone
      · exact .inl fun k hk => List.mem_append_left _ (hall k hk)
      · refine .inr fun k hk hk' => ?_
        rcases List.mem_append.1 hk' with hk' | hk'
        · exact hnone k hk hk'
        · exact hmeets ⟨k, hk, hk'⟩
  · rw [List.length_append]
    omega

end Kept

end Cantilune.AgentLoop
