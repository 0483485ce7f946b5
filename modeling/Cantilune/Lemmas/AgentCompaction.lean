import Cantilune.Lemmas.AgentWindow

/-!
# Compaction

A compacted transcript is a window of what was there before: whole groups in their order, the goal and the first
system message among them, and at most one marker in between.
-/

namespace Cantilune.AgentLoop

/-! ## The transcript of a run -/

def MessageObject.isNumbered (m : MessageObject) : Bool := m.identity ≠ WINDOW_IDENTITY

def Ordered (messages : List MessageObject) : Prop :=
  (messages.filter (·.isNumbered)).Pairwise fun m n => m.identity < n.identity

/-- The transcript without its markers. -/
def coreOf (messages : List MessageObject) : List MessageObject :=
  messages.filter fun m => !isCompactionMarker m.message

variable {messages core window xs ys : List MessageObject} {limit : Nat} {goal m : MessageObject}

theorem mem_coreOf : m ∈ coreOf messages ↔ m ∈ messages ∧ isCompactionMarker m.message = false := by
  simp [coreOf]

theorem texts_coreOf : texts (coreOf messages) = (texts messages).filter fun m => !isCompactionMarker m := by
  simp only [texts, coreOf, List.filter_map]
  rfl

theorem wellFormed_coreOf (h : WellFormed (texts messages)) : WellFormed (texts (coreOf messages)) := by
  rw [texts_coreOf]
  apply h.filter
  intro m hm
  rw [Bool.not_eq_false'] at hm
  exact single_of_isSystem (isSystem_of_isMarker hm)

theorem Ordered.sublist (h : Ordered ys) (hsub : (xs.filter (·.isNumbered)).Sublist ys) : Ordered xs := by
  have hfilter := hsub.filter (·.isNumbered)
  simp only [List.filter_filter, Bool.and_self] at hfilter
  exact List.Pairwise.sublist hfilter h

theorem distinct_coreOf (h : Ordered messages)
    (hwindow : ∀ m ∈ messages, m.isNumbered = false → isCompactionMarker m.message = true) :
    Distinct (coreOf messages) := by
  have hnumbered : (coreOf messages).filter (·.isNumbered) = coreOf messages := by
    apply List.filter_eq_self.2
    intro m hm
    obtain ⟨hmem, hmarker⟩ := mem_coreOf.1 hm
    by_contra hnot
    rw [hwindow m hmem (Bool.eq_false_iff.2 hnot)] at hmarker
    cases hmarker
  have hpairwise : Ordered (coreOf messages) := h.sublist (hnumbered.symm ▸ List.filter_sublist)
  unfold Ordered at hpairwise
  rw [hnumbered] at hpairwise
  exact List.pairwise_map.2 (hpairwise.imp fun hlt => Nat.ne_of_lt hlt)

theorem WellFormed.split_single {pre post : List LlmMessage} {x : LlmMessage} (h : WellFormed (pre ++ x :: post))
    (alone : x.isTool = false) (calls : x.toolCalls = []) : WellFormed (pre ++ [x]) ∧ WellFormed post := by
  generalize hall : pre ++ x :: post = all at h
  induction h generalizing pre with
  | nil => simp at hall
  | @single y rest halone hcalls htail ih =>
      cases pre with
      | nil =>
          cases hall
          exact ⟨.single halone hcalls .nil, htail⟩
      | cons z pre =>
          obtain ⟨rfl, hrest⟩ := List.cons.inj hall
          obtain ⟨hpre, hpost⟩ := ih hrest
          exact ⟨.single halone hcalls hpre, hpost⟩
  | @group y results rest hcalls complete htail ih =>
      cases pre with
      | nil =>
          obtain ⟨rfl, -⟩ := List.cons.inj hall
          exact absurd calls hcalls
      | cons z pre =>
          obtain ⟨rfl, hrest⟩ := List.cons.inj hall
          rcases List.append_eq_append_iff.1 hrest with ⟨mid, hresults, hx⟩ | ⟨mid, rfl, hrest'⟩
          · -- The message would be one of the results.
            cases mid with
            | nil =>
                rw [List.append_nil] at hresults
                subst hresults
                obtain ⟨hpre, hpost⟩ := @ih [] hx
                exact ⟨.group hcalls complete hpre, hpost⟩
            | cons w mid =>
                obtain ⟨rfl, -⟩ := List.cons.inj hx
                have htool := isTool_of_isCompleteGroup complete x (by rw [hresults]; simp)
                rw [alone] at htool
                cases htool
          · obtain ⟨hpre, hpost⟩ := ih hrest'.symm
            rw [List.cons_append, List.append_assoc]
            exact ⟨.group hcalls complete hpre, hpost⟩

/-! ## The window -/

structure IsWindow (core : List MessageObject) (limit : Nat) (goal : MessageObject) (window : List MessageObject) :
    Prop where
  length : window.length ≤ limit
  wellFormed : WellFormed (texts window)
  kept : (window.filter (·.isNumbered)).Sublist core
  marker : ∀ m ∈ window, m.isNumbered = false → isCompactionMarker m.message = true
  goal : goal ∈ window
  prompt : 2 ≤ limit → ∀ m, core.find? (·.message.isSystem) = some m → m ∈ window

theorem isNumbered_marker (message : LlmMessage) :
    MessageObject.isNumbered { identity := WINDOW_IDENTITY, message } = false := by
  simp [MessageObject.isNumbered]

theorem isCompactionMarker_compactionMarker (dropped : Nat) :
    isCompactionMarker (compactionMarker dropped) = true := by
  simp only [isCompactionMarker, compactionMarker, String.toList_append, List.append_assoc,
    List.isPrefixOf_iff_prefix]
  exact List.prefix_append _ _

theorem findIdx?_of_find? {p : MessageObject → Bool} (h : core.find? p = some m) :
    ∃ k, core.findIdx? p = some k ∧ core[k]? = some m := by
  obtain ⟨hp, pre, post, rfl, hpre⟩ := List.find?_eq_some_iff_append.1 h
  refine ⟨pre.length, ?_, by simp⟩
  rw [List.findIdx?_append, List.findIdx?_eq_none_iff.2 (by simpa using hpre), List.findIdx?_cons, hp]
  simp

theorem mem_append_cons_of_mem {x : MessageObject} (h : m ∈ xs ++ ys) : m ∈ xs ++ x :: ys := by
  rcases List.mem_append.1 h with h | h
  · exact List.mem_append_left _ h
  · exact List.mem_append_right _ (List.mem_cons_of_mem x h)

theorem isWindow_keepFrom {chosen : List Nat} (hwell : WellFormed (texts core)) (hdistinct : Distinct core)
    (hgoal : goal ∈ core) (hwindow : ∀ m ∈ core, m.isNumbered = false → isCompactionMarker m.message = true)
    (h : Required core limit goal chosen) :
    IsWindow core limit goal (Selection.keepFrom chosen 0 core) where
  length := (Selection.length_keepFrom_le h.nodup).trans h.length
  wellFormed := wellFormed_keepFrom (grouped_messageUnits hwell) h.closed
  kept := List.filter_sublist.trans (Selection.keepFrom_sublist chosen 0 core)
  marker := fun m hm => hwindow m ((Selection.keepFrom_sublist chosen 0 core).subset hm)
  goal := by
    obtain ⟨k, hk, hcore⟩ := findIdx?_identity hdistinct hgoal
    exact Selection.mem_keepFrom hcore (by rw [Nat.zero_add]; exact h.goal k hk)
  prompt := by
    intro htwo m hm
    obtain ⟨k, hk, hcore⟩ := findIdx?_of_find? hm
    exact Selection.mem_keepFrom hcore (by rw [Nat.zero_add]; exact h.prompt htwo k hk)

theorem IsWindow.insertMarker {dropped : Nat} (h : IsWindow core limit goal (xs ++ ys))
    (hroom : (xs ++ ys).length < limit) (hxs : WellFormed (texts xs)) (hys : WellFormed (texts ys)) :
    IsWindow core limit goal
      (xs ++ { identity := WINDOW_IDENTITY, message := compactionMarker dropped } :: ys) where
  length := by
    simp only [List.length_append, List.length_cons] at hroom ⊢
    omega
  wellFormed := by
    rw [texts_append, texts_cons]
    exact hxs.append (.single rfl rfl hys)
  kept := by
    rw [List.filter_append, List.filter_cons, isNumbered_marker, if_neg Bool.false_ne_true, ← List.filter_append]
    exact h.kept
  marker := by
    intro m hm hnumbered
    rcases List.mem_append.1 hm with hm | hm
    · exact h.marker m (List.mem_append_left ys hm) hnumbered
    · rcases List.mem_cons.1 hm with rfl | hm
      · exact isCompactionMarker_compactionMarker dropped
      · exact h.marker m (List.mem_append_right xs hm) hnumbered
  goal := mem_append_cons_of_mem h.goal
  prompt := fun htwo m hm => mem_append_cons_of_mem (h.prompt htwo m hm)

theorem IsWindow.placeMarker {retained : List MessageObject} {dropped : Nat} (h : IsWindow core limit goal retained)
    (hsub : retained.Sublist core) (hdistinct : Distinct core) (hroom : retained.length < limit) :
    IsWindow core limit goal
      (match retained.findIdx? fun m =>
          (((core.findIdx? fun m => m.message.isSystem).bind (core[·]?)).map (·.identity)) = some m.identity with
      | none => ({ identity := WINDOW_IDENTITY, message := compactionMarker dropped } :: retained).take limit
      | some systemIndex =>
          (retained.take (systemIndex + 1) ++ { identity := WINDOW_IDENTITY, message := compactionMarker dropped } ::
            retained.drop (systemIndex + 1)).take limit) := by
  split
  · have hmarked := @IsWindow.insertMarker core [] retained limit goal dropped h hroom .nil h.wellFormed
    rw [List.nil_append] at hmarked
    rw [List.take_of_length_le hmarked.length]
    exact hmarked
  · rename_i systemIndex hindex
    obtain ⟨hlt, hidentity, -⟩ := List.findIdx?_eq_some_iff_getElem.1 hindex
    obtain ⟨system, hsystem, hsame⟩ := Option.map_eq_some_iff.1 (of_decide_eq_true hidentity)
    obtain ⟨k, hk, hcore⟩ := Option.bind_eq_some_iff.1 hsystem
    obtain ⟨hklt, hissystem, -⟩ := List.findIdx?_eq_some_iff_getElem.1 hk
    rw [List.getElem?_eq_getElem hklt] at hcore
    cases hcore
    have hx : core[k] = retained[systemIndex] :=
      List.inj_on_of_nodup_map hdistinct (List.getElem_mem hklt) (hsub.subset (List.getElem_mem hlt)) hsame
    rw [hx] at hissystem
    obtain ⟨halone, hcalls⟩ := single_of_isSystem hissystem
    have htexts : texts (retained.take systemIndex) ++ retained[systemIndex].message ::
        texts (retained.drop (systemIndex + 1)) = texts retained := by
      rw [← texts_cons, ← texts_append, List.getElem_cons_drop, List.take_append_drop]
    obtain ⟨hpre, hpost⟩ := WellFormed.split_single (htexts ▸ h.wellFormed) halone hcalls
    have htake : texts (retained.take (systemIndex + 1)) =
        texts (retained.take systemIndex) ++ [retained[systemIndex].message] := by
      rw [List.take_succ_eq_append_getElem hlt, texts_append]
      rfl
    have hsplit : retained.take (systemIndex + 1) ++ retained.drop (systemIndex + 1) = retained :=
      List.take_append_drop _ _
    have hmarked := @IsWindow.insertMarker core (retained.take (systemIndex + 1)) (retained.drop (systemIndex + 1))
      limit goal dropped (hsplit.symm ▸ h) (hsplit.symm ▸ hroom) (htake ▸ hpre) hpost
    rw [List.take_of_length_le hmarked.length]
    exact hmarked

theorem compactMessages_isWindow (hwell : WellFormed (texts messages)) (hordered : Ordered messages)
    (hwindow : ∀ m ∈ messages, m.isNumbered = false → isCompactionMarker m.message = true)
    (hgoal : goal ∈ messages) (huser : ∃ text, goal.message = .user text) (hlimit : 0 < limit) :
    IsWindow (coreOf messages) limit goal (compactMessages messages limit goal) := by
  have hcore := wellFormed_coreOf hwell
  have hdistinct := distinct_coreOf hordered hwindow
  have hgoalCore : goal ∈ coreOf messages := by
    obtain ⟨text, htext⟩ := huser
    exact mem_coreOf.2 ⟨hgoal, by rw [htext]; rfl⟩
  have hwindowCore : ∀ m ∈ coreOf messages, m.isNumbered = false → isCompactionMarker m.message = true :=
    fun m hm => hwindow m (mem_coreOf.1 hm).1
  have hrequired := requiredIndices_spec hcore hdistinct hgoalCore huser hlimit
  have hselected := selected_spec hcore hrequired
  unfold compactMessages
  rw [if_neg (Nat.pos_iff_ne_zero.1 hlimit)]
  dsimp only
  rw [← coreOf]
  generalize coreOf messages = core at *
  generalize ((messages.filter fun m => isCompactionMarker m.message).map fun m =>
    markerDroppedCount m.message).sum = previouslyDropped
  generalize requiredIndices core limit goal = required at *
  split
  · rename_i hslot
    obtain ⟨hchosen, hlength⟩ := hselected (limit - required.length - 1) (Nat.sub_le _ _)
    rw [Selection.filterMap_insertionSort hchosen.nodup]
    have hkeep := isWindow_keepFrom hcore hdistinct hgoalCore hwindowCore hchosen
    have hsub := Selection.keepFrom_sublist
      (required ++ selectUnits (limit - required.length - 1)
        ((messageUnits core).filter fun unit => !unit.any (· ∈ required)).reverse) 0 core
    have hshort := (@Selection.length_keepFrom_le _ _ core hchosen.nodup).trans hlength
    generalize Selection.keepFrom _ 0 core = retained at *
    have hroom : retained.length < limit := by
      have := hslot.1.2
      omega
    split
    · rw [List.take_of_length_le hkeep.length]
      exact hkeep
    · exact hkeep.placeMarker hsub hdistinct hroom
  · rename_i hslot
    obtain ⟨hchosen, -⟩ := hselected (limit - required.length - 0) (Nat.sub_le _ _)
    rw [Selection.filterMap_insertionSort hchosen.nodup, if_pos (.inr hslot)]
    have hkeep := isWindow_keepFrom hcore hdistinct hgoalCore hwindowCore hchosen
    rw [List.take_of_length_le hkeep.length]
    exact hkeep

end Cantilune.AgentLoop
