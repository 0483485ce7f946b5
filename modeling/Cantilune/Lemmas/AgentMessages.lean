import Cantilune.Base.Outcomes
import Cantilune.Boot.AgentHistory

/-!
# Well-formed transcripts

What the normalization of a history leaves is well formed, and what is well formed it leaves alone.
-/

namespace Cantilune.AgentLoop

/-- Every message with calls is followed at once by the results of its calls, one for each and in their order, and
no result stands anywhere else. -/
inductive WellFormed : List LlmMessage → Prop where
  | nil : WellFormed []
  | single {m : LlmMessage} {rest : List LlmMessage} (alone : m.isTool = false) (calls : m.toolCalls = [])
      (tail : WellFormed rest) : WellFormed (m :: rest)
  | group {m : LlmMessage} {results rest : List LlmMessage} (calls : m.toolCalls ≠ [])
      (complete : isCompleteGroup m.toolCalls results = true) (tail : WellFormed rest) :
      WellFormed (m :: (results ++ rest))

def DistinctCalls (messages : List LlmMessage) : Prop := ∀ m ∈ messages, (m.toolCalls.map (·.id)).Nodup

variable {m : LlmMessage} {xs ys : List LlmMessage}

theorem WellFormed.append (hx : WellFormed xs) (hy : WellFormed ys) : WellFormed (xs ++ ys) := by
  induction hx with
  | nil => exact hy
  | single alone calls _ ih => exact .single alone calls ih
  | group calls complete _ ih =>
      rw [List.cons_append, List.append_assoc]
      exact .group calls complete ih

theorem DistinctCalls.append (hx : DistinctCalls xs) (hy : DistinctCalls ys) : DistinctCalls (xs ++ ys) := by
  intro m hm
  rcases List.mem_append.1 hm with hm | hm
  · exact hx m hm
  · exact hy m hm

theorem DistinctCalls.of_mem (hx : DistinctCalls xs) (hsub : ∀ m ∈ ys, m ∈ xs) : DistinctCalls ys := fun m hm =>
  hx m (hsub m hm)

/-! ## Groups -/

theorem isTool_of_toolCalls (h : m.toolCalls ≠ []) : m.isTool = false := by
  cases m with
  | tool => exact absurd rfl h
  | _ => rfl

theorem isMarker_of_toolCalls (h : m.toolCalls ≠ []) : isCompactionMarker m = false := by
  cases m with
  | system => exact absurd rfl h
  | _ => rfl

theorem isTool_of_answers {call : LlmToolCall} (h : m.answers call = true) : m.isTool = true := by
  cases m with
  | tool => rfl
  | _ => cases h

theorem toolCalls_of_isTool (h : m.isTool = true) : m.toolCalls = [] := by
  cases m with
  | tool => rfl
  | _ => cases h

theorem isMarker_of_isTool (h : m.isTool = true) : isCompactionMarker m = false := by
  cases m with
  | tool => rfl
  | _ => cases h

theorem isSystem_of_isMarker (h : isCompactionMarker m = true) : m.isSystem = true := by
  cases m with
  | system => rfl
  | _ => cases h

theorem single_of_isSystem (h : m.isSystem = true) : m.isTool = false ∧ m.toolCalls = [] := by
  cases m with
  | system => exact ⟨rfl, rfl⟩
  | _ => cases h

theorem isCompleteGroup_cons {call : LlmToolCall} {calls : List LlmToolCall} :
    isCompleteGroup (call :: calls) (m :: xs) = (m.answers call && isCompleteGroup calls xs) := by
  simp only [isCompleteGroup, List.length_cons, Nat.add_right_cancel_iff, List.zip_cons_cons, List.all_cons]
  exact Bool.and_left_comm _ _ _

theorem length_of_isCompleteGroup {calls : List LlmToolCall} (h : isCompleteGroup calls xs = true) :
    xs.length = calls.length := by
  simp only [isCompleteGroup, Bool.and_eq_true, decide_eq_true_eq] at h
  exact h.1

theorem isTool_of_isCompleteGroup {calls : List LlmToolCall} (h : isCompleteGroup calls xs = true) :
    ∀ m ∈ xs, m.isTool = true := by
  induction xs generalizing calls with
  | nil => nofun
  | cons x xs ih =>
      cases calls with
      | nil => cases length_of_isCompleteGroup h
      | cons call calls =>
          rw [isCompleteGroup_cons, Bool.and_eq_true] at h
          intro m hm
          rcases List.mem_cons.1 hm with rfl | hm
          · exact isTool_of_answers h.1
          · exact ih h.2 m hm

theorem WellFormed.head (h : WellFormed (m :: xs)) : m.isTool = false := by
  cases h with
  | single alone => exact alone
  | group calls => exact isTool_of_toolCalls calls

theorem WellFormed.filter {p : LlmMessage → Bool} (h : WellFormed xs)
    (hp : ∀ m, p m = false → m.isTool = false ∧ m.toolCalls = []) : WellFormed (xs.filter p) := by
  induction h with
  | nil => exact .nil
  | @single m rest alone calls _ ih =>
      rw [List.filter_cons]
      split
      · exact .single alone calls ih
      · exact ih
  | @group m results rest calls complete _ ih =>
      have hm : p m = true := by
        by_contra hm
        exact calls (hp m (Bool.eq_false_iff.2 hm)).2
      have hresults : results.filter p = results := by
        refine List.filter_eq_self.2 fun r hr => ?_
        by_contra hr'
        have halone := (hp r (Bool.eq_false_iff.2 hr')).1
        rw [isTool_of_isCompleteGroup complete r hr] at halone
        cases halone
      rw [List.filter_cons, if_pos hm, List.filter_append, hresults]
      exact .group calls complete ih

/-! ## Normalization -/

theorem normalizeFrom_skip {skip : Nat} {sawMarker : Bool} (hlength : xs.length = skip) :
    normalizeFrom skip sawMarker (xs ++ ys) = normalizeFrom 0 sawMarker ys := by
  induction xs generalizing skip with
  | nil =>
      subst hlength
      rfl
  | cons x xs ih =>
      subst hlength
      exact ih rfl

theorem normalizeFrom_wellFormed (skip : Nat) (sawMarker : Bool) (xs : List LlmMessage) :
    WellFormed (normalizeFrom skip sawMarker xs) := by
  induction xs generalizing skip sawMarker with
  | nil => cases skip <;> exact .nil
  | cons m rest ih =>
      cases skip with
      | succ skip => exact ih skip sawMarker
      | zero =>
          unfold normalizeFrom
          split
          · exact ih 0 sawMarker
          · rename_i htool
            split
            · rename_i hmarker
              split
              · exact ih 0 true
              · obtain ⟨halone, hcalls⟩ := single_of_isSystem (isSystem_of_isMarker hmarker)
                exact .single halone hcalls (ih 0 true)
            · split
              · rename_i hcalls
                dsimp only
                split
                · rename_i hgroup
                  exact .group hcalls hgroup.2 (ih _ sawMarker)
                · exact ih 0 sawMarker
              · rename_i hcalls
                exact .single (Bool.eq_false_iff.2 htool) (not_not.1 hcalls) (ih 0 sawMarker)

theorem normalizeFrom_distinct (skip : Nat) (sawMarker : Bool) (xs : List LlmMessage) :
    DistinctCalls (normalizeFrom skip sawMarker xs) := by
  induction xs generalizing skip sawMarker with
  | nil => cases skip <;> exact nofun
  | cons m rest ih =>
      cases skip with
      | succ skip => exact ih skip sawMarker
      | zero =>
          have hcons : ∀ {ys : List LlmMessage}, (m.toolCalls.map (·.id)).Nodup → DistinctCalls ys →
              DistinctCalls (m :: ys) := by
            intro ys hm hys n hn
            rcases List.mem_cons.1 hn with rfl | hn
            · exact hm
            · exact hys n hn
          unfold normalizeFrom
          split
          · exact ih 0 sawMarker
          · split
            · rename_i hmarker
              split
              · exact ih 0 true
              · refine hcons ?_ (ih 0 true)
                rw [(single_of_isSystem (isSystem_of_isMarker hmarker)).2]
                exact List.nodup_nil
            · split
              · dsimp only
                split
                · rename_i hgroup
                  refine hcons hgroup.1 (DistinctCalls.append (fun r hr => ?_) (ih _ sawMarker))
                  rw [toolCalls_of_isTool (isTool_of_isCompleteGroup hgroup.2 r hr)]
                  exact List.nodup_nil
                · exact ih 0 sawMarker
              · rename_i hcalls
                refine hcons ?_ (ih 0 sawMarker)
                rw [not_not.1 hcalls]
                exact List.nodup_nil

/-- How many compaction markers there are. -/
def markerCount (messages : List LlmMessage) : Nat := messages.countP isCompactionMarker

theorem markerCount_results {calls : List LlmToolCall} (h : isCompleteGroup calls xs = true) : markerCount xs = 0 :=
  List.countP_eq_zero.2 fun m hm => by
    rw [isMarker_of_isTool (isTool_of_isCompleteGroup h m hm)]
    exact Bool.false_ne_true

theorem normalizeFrom_markerCount (skip : Nat) (sawMarker : Bool) (xs : List LlmMessage) :
    markerCount (normalizeFrom skip sawMarker xs) ≤ if sawMarker then 0 else 1 := by
  induction xs generalizing skip sawMarker with
  | nil => cases skip <;> exact Nat.zero_le _
  | cons m rest ih =>
      cases skip with
      | succ skip => exact ih skip sawMarker
      | zero =>
          unfold normalizeFrom
          split
          · exact ih 0 sawMarker
          · split
            · rename_i hmarker
              have hrest : markerCount (normalizeFrom 0 true rest) = 0 := Nat.le_zero.1 (ih 0 true)
              cases sawMarker with
              | true => exact ih 0 true
              | false =>
                  simp only [Bool.false_eq_true, if_false]
                  unfold markerCount at hrest ⊢
                  rw [List.countP_cons, hrest, if_pos hmarker]
            · rename_i hmarker
              have hcons : ∀ ys, markerCount (m :: ys) = markerCount ys := fun ys => by
                unfold markerCount
                rw [List.countP_cons, if_neg hmarker, Nat.add_zero]
              split
              · dsimp only
                split
                · rename_i hgroup
                  have hresults := markerCount_results hgroup.2
                  rw [hcons]
                  unfold markerCount at hresults ⊢
                  rw [List.countP_append, hresults, Nat.zero_add]
                  exact ih _ sawMarker
                · exact ih 0 sawMarker
              · rw [hcons]
                exact ih 0 sawMarker

theorem normalizeFrom_eq_self {sawMarker : Bool} (hwell : WellFormed xs) (hdistinct : DistinctCalls xs)
    (hmarkers : markerCount xs ≤ if sawMarker then 0 else 1) : normalizeFrom 0 sawMarker xs = xs := by
  induction hwell generalizing sawMarker with
  | nil => rfl
  | @single m rest alone calls _ ih =>
      have hrest := hdistinct.of_mem fun n hn => List.mem_cons_of_mem m hn
      unfold markerCount at hmarkers ih
      rw [List.countP_cons] at hmarkers
      unfold normalizeFrom
      rw [if_neg (by rw [alone]; exact Bool.false_ne_true)]
      split
      · rename_i hmarker
        rw [if_pos hmarker] at hmarkers
        cases sawMarker with
        | true => simp at hmarkers
        | false =>
            simp only [Bool.false_eq_true, if_false] at hmarkers ⊢
            rw [@ih true hrest (by simp only [if_true]; omega)]
      · rename_i hmarker
        rw [if_neg hmarker, Nat.add_zero] at hmarkers
        rw [if_neg (not_not.2 calls), ih hrest hmarkers]
  | @group m results rest calls complete _ ih =>
      have hlength := length_of_isCompleteGroup complete
      have hrest := hdistinct.of_mem fun n hn => List.mem_cons_of_mem m (List.mem_append_right results hn)
      have hmarker := isMarker_of_toolCalls calls
      have hnone := markerCount_results complete
      unfold markerCount at hmarkers ih hnone
      rw [List.countP_cons, List.countP_append, hnone, hmarker] at hmarkers
      simp only [Bool.false_eq_true, if_false, Nat.zero_add, Nat.add_zero] at hmarkers
      have htake : (results ++ rest).take m.toolCalls.length = results := by
        rw [← hlength, List.take_left]
      unfold normalizeFrom
      rw [if_neg (by rw [isTool_of_toolCalls calls]; exact Bool.false_ne_true),
        if_neg (by rw [hmarker]; exact Bool.false_ne_true), if_pos calls]
      dsimp only
      rw [htake, if_pos ⟨hdistinct m List.mem_cons_self, complete⟩, normalizeFrom_skip hlength, ih hrest hmarkers]

theorem normalizeHistoryMessages_eq_self (hwell : WellFormed xs) (hdistinct : DistinctCalls xs)
    (hmarkers : markerCount xs ≤ 1) : normalizeHistoryMessages xs = xs :=
  normalizeFrom_eq_self hwell hdistinct hmarkers

theorem normalizeHistoryMessages_idempotent (xs : List LlmMessage) :
    normalizeHistoryMessages (normalizeHistoryMessages xs) = normalizeHistoryMessages xs :=
  normalizeHistoryMessages_eq_self (normalizeFrom_wellFormed 0 false xs) (normalizeFrom_distinct 0 false xs)
    (normalizeFrom_markerCount 0 false xs)

/-! ## Accepted histories -/

theorem requireToolCalls_distinct {ids : List String} {entries : List Json} {calls : List LlmToolCall}
    (h : requireToolCalls ids entries = .ok calls) :
    (calls.map (·.id)).Nodup ∧ ∀ c ∈ calls, c.id ∉ ids := by
  induction entries generalizing ids calls with
  | nil =>
      cases h
      exact ⟨List.nodup_nil, nofun⟩
  | cons entry entries ih =>
      unfold requireToolCalls at h
      split at h
      · rename_i id name arguments _ _ _
        split at h
        · cases h
        · rename_i hvalid
          split at h
          · cases h
          · obtain ⟨tail, htail, h⟩ := Outcome.bind_eq_ok.1 h
            cases h
            obtain ⟨hnodup, hnew⟩ := ih htail
            refine ⟨?_, ?_⟩
            · rw [List.map_cons, List.nodup_cons]
              refine ⟨fun hmem => ?_, hnodup⟩
              obtain ⟨c, hc, hid⟩ := List.mem_map.1 hmem
              exact hnew c hc (hid ▸ List.mem_cons_self)
            · intro c hc
              rcases List.mem_cons.1 hc with rfl | hc
              · exact fun hmem => hvalid (.inr (.inl hmem))
              · exact fun hmem => hnew c hc (List.mem_cons_of_mem _ hmem)
          · cases h
      · cases h

theorem requireHistoryMessage_distinct {entry : Json} (h : requireHistoryMessage entry = .ok m) :
    (m.toolCalls.map (·.id)).Nodup := by
  unfold requireHistoryMessage at h
  split at h
  · split at h
    · cases h
      exact List.nodup_nil
    · cases h
      exact List.nodup_nil
    · split at h
      · split at h
        · cases h
        · cases h
          exact List.nodup_nil
      · cases h
    · split at h
      · cases h
        exact List.nodup_nil
      · obtain ⟨calls, hcalls, h⟩ := Outcome.bind_eq_ok.1 h
        cases h
        exact (requireToolCalls_distinct hcalls).1
      · cases h
    · cases h
  · cases h

theorem requireHistoryMessages_distinct {value : Option Json} (h : requireHistoryMessages value = .ok xs) :
    DistinctCalls xs := by
  unfold requireHistoryMessages at h
  split at h
  · rename_i entries
    induction entries generalizing xs with
    | nil =>
        cases h
        exact nofun
    | cons entry entries ih =>
        rw [List.mapM_cons] at h
        obtain ⟨m, hm, h⟩ := Outcome.bind_eq_ok.1 h
        obtain ⟨tail, htail, h⟩ := Outcome.bind_eq_ok.1 h
        cases h
        intro n hn
        rcases List.mem_cons.1 hn with rfl | hn
        · exact requireHistoryMessage_distinct hm
        · exact ih htail n hn
  · cases h

theorem requireAgentLoopHistory_distinct {value : Json} {history : AgentLoopHistory}
    (h : requireAgentLoopHistory value = .ok history) : DistinctCalls history.messages := by
  unfold requireAgentLoopHistory at h
  split at h
  · obtain ⟨messages, hmessages, h⟩ := Outcome.bind_eq_ok.1 h
    obtain ⟨pending, -, h⟩ := Outcome.bind_eq_ok.1 h
    cases h
    exact requireHistoryMessages_distinct hmessages
  · cases h

end Cantilune.AgentLoop
