import Cantilune.Lemmas.AgentResults

/-!
# Requests to the model

Through compactions and appended groups the transcript of a run stays well formed and keeps its goal, and so does
every request. The system prompt is kept too, unless it reads like a compaction marker: then it is dropped with these.
-/

namespace Cantilune.AgentLoop

structure Transcript (max : Nat) (goal prompt : MessageObject) (s : ToolExecutionState) : Prop where
  wellFormed : WellFormed (texts s.messages)
  ordered : Ordered s.messages
  below : ∀ m ∈ s.messages, m.identity < s.objects
  window : ∀ m ∈ s.messages, m.isNumbered = false → isCompactionMarker m.message = true
  system : ∀ m ∈ s.messages, m.message.isSystem = true → isCompactionMarker m.message = true ∨ m = prompt
  goal : goal ∈ s.messages
  prompt : isCompactionMarker prompt.message = false → 2 ≤ max → prompt ∈ s.messages

variable {max limit : Nat} {goal prompt : MessageObject} {s t : ToolExecutionState} {ms : List LlmMessage}

theorem Transcript.grows (h : Transcript max goal prompt s) (hgrows : Grows s ms t) (hwell : WellFormed ms)
    (hsystem : ∀ m ∈ ms, m.isSystem = false) : Transcript max goal prompt t := by
  obtain ⟨hmessages, hobjects⟩ := hgrows
  have hnew : ∀ m ∈ numberFrom s.objects ms, m.isNumbered = true := by
    intro m hm
    have hgoal := h.below goal h.goal
    have hle := (mem_numberFrom hm).2.1
    have hne : m.identity ≠ WINDOW_IDENTITY := Nat.pos_iff_ne_zero.1 (by omega)
    exact decide_eq_true hne
  have hmem : ∀ m ∈ t.messages, m ∈ s.messages ∨ m ∈ numberFrom s.objects ms := fun m hm =>
    List.mem_append.1 (hmessages ▸ hm)
  have hold : ∀ m ∈ s.messages, m ∈ t.messages := fun m hm => hmessages ▸ List.mem_append_left _ hm
  refine ⟨?_, ?_, ?_, ?_, ?_, hold goal h.goal, fun hprompt htwo => hold prompt (h.prompt hprompt htwo)⟩
  · rw [hmessages, texts_append, texts_numberFrom]
    exact h.wellFormed.append hwell
  · unfold Ordered
    rw [hmessages, List.filter_append, List.pairwise_append]
    refine ⟨h.ordered, pairwise_numberFrom.filter _, fun m hm n hn => ?_⟩
    have hlt := h.below m (List.mem_filter.1 hm).1
    have hle := (mem_numberFrom (List.mem_filter.1 hn).1).2.1
    omega
  · intro m hm
    rw [hobjects]
    rcases hmem m hm with hm | hm
    · have := h.below m hm
      omega
    · exact (mem_numberFrom hm).2.2
  · intro m hm hnumbered
    rcases hmem m hm with hm | hm
    · exact h.window m hm hnumbered
    · rw [hnew m hm] at hnumbered
      cases hnumbered
  · intro m hm hm'
    rcases hmem m hm with hm | hm
    · exact h.system m hm hm'
    · rw [hsystem _ (mem_numberFrom hm).1] at hm'
      cases hm'

theorem Transcript.push {m : LlmMessage} (h : Transcript max goal prompt s) (hsystem : m.isSystem = false)
    (alone : m.isTool = false) (calls : m.toolCalls = []) : Transcript max goal prompt (s.push m) :=
  h.grows (grows_push s m) (.single alone calls .nil) fun n hn => by
    rw [List.mem_singleton] at hn
    rw [hn, hsystem]

/-! ## Requests -/

structure InForm (max : Nat) (goal prompt : MessageObject) (messages : List MessageObject) : Prop where
  length : messages.length ≤ max
  order : Ordered messages
  goal : goal ∈ messages
  prompt : 2 ≤ max → prompt ∈ messages
  wellFormed : WellFormed (texts messages)

structure Anchors (goal prompt : MessageObject) : Prop where
  user : ∃ text, goal.message = .user text
  system : prompt.message.isSystem = true
  numbered : prompt.isNumbered = true

theorem Transcript.isWindow (h : Transcript max goal prompt s) (hanchors : Anchors goal prompt) (hlimit : 0 < limit) :
    IsWindow (coreOf s.messages) limit goal (compactMessages s.messages limit goal) :=
  compactMessages_isWindow h.wellFormed h.ordered h.window h.goal hanchors.user hlimit

theorem mem_of_isWindow {core window : List MessageObject} {m : MessageObject} (h : IsWindow core limit goal window)
    (hm : m ∈ window) (hnumbered : m.isNumbered = true) : m ∈ core :=
  h.kept.subset (List.mem_filter.2 ⟨hm, hnumbered⟩)

theorem Transcript.prompt_mem (h : Transcript max goal prompt s) (hanchors : Anchors goal prompt) (hlimit : 0 < limit)
    (hprompt : isCompactionMarker prompt.message = false) (hmax : 2 ≤ max) (htwo : 2 ≤ limit) :
    prompt ∈ compactMessages s.messages limit goal := by
  have hcore : prompt ∈ coreOf s.messages := mem_coreOf.2 ⟨h.prompt hprompt hmax, hprompt⟩
  cases hfind : (coreOf s.messages).find? (·.message.isSystem) with
  | none => exact absurd hanchors.system (List.find?_eq_none.1 hfind prompt hcore)
  | some m =>
      obtain ⟨hm, hmarker⟩ := mem_coreOf.1 (List.mem_of_find?_eq_some hfind)
      have hsystem : m.message.isSystem = true := by simpa using List.find?_some hfind
      rcases h.system m hm hsystem with hm' | rfl
      · rw [hmarker] at hm'
        cases hm'
      · exact (h.isWindow hanchors hlimit).prompt htwo m hfind

theorem Transcript.compact (h : Transcript max goal prompt s) (hanchors : Anchors goal prompt) (hlimit : 0 < limit)
    (htwo : 2 ≤ max → 2 ≤ limit) :
    Transcript max goal prompt { s with messages := compactMessages s.messages limit goal } := by
  have hwindow := h.isWindow hanchors hlimit
  have hold : ∀ m ∈ compactMessages s.messages limit goal, m.isNumbered = true → m ∈ s.messages := fun m hm hm' =>
    (mem_coreOf.1 (mem_of_isWindow hwindow hm hm')).1
  refine ⟨hwindow.wellFormed, h.ordered.sublist (hwindow.kept.trans List.filter_sublist), ?_, hwindow.marker, ?_,
    hwindow.goal, fun hprompt hmax => h.prompt_mem hanchors hlimit hprompt hmax (htwo hmax)⟩
  · intro m hm
    by_cases hnumbered : m.isNumbered = true
    · exact h.below m (hold m hm hnumbered)
    · have hidentity : m.identity = WINDOW_IDENTITY := by simpa [MessageObject.isNumbered] using hnumbered
      rw [hidentity]
      exact Nat.zero_lt_of_lt (h.below goal h.goal)
  · intro m hm hsystem
    by_cases hnumbered : m.isNumbered = true
    · exact h.system m (hold m hm hnumbered) hsystem
    · exact .inl (hwindow.marker m hm (Bool.eq_false_iff.2 hnumbered))

theorem contextBudget_pos (hmax : 0 < max) : 0 < contextBudget max := by
  unfold contextBudget
  split
  · omega
  · exact hmax

theorem two_le_contextBudget (hmax : 2 ≤ max) : 2 ≤ contextBudget max := by
  unfold contextBudget
  split
  · omega
  · exact hmax

def requestOf (max : Nat) (world : LlmMessage) (window : List MessageObject) : List MessageObject :=
  if max > 2 then window ++ [{ identity := WINDOW_IDENTITY, message := world }] else window

theorem Transcript.request (h : Transcript max goal prompt s) (hanchors : Anchors goal prompt) (hmax : 0 < max)
    (world : String) :
    InForm max goal prompt (requestOf max (.system world) (compactMessages s.messages (contextBudget max) goal)) ↔
      isCompactionMarker prompt.message = false ∨ max < 2 := by
  have hlimit := contextBudget_pos hmax
  have hwindow := h.isWindow hanchors hlimit
  have hprompt := @Transcript.prompt_mem max (contextBudget max) goal prompt s h hanchors hlimit
  generalize compactMessages s.messages (contextBudget max) goal = window at *
  have hnumbered : (requestOf max (.system world) window).filter (·.isNumbered) = window.filter (·.isNumbered) := by
    unfold requestOf
    split
    · rw [List.filter_append, List.filter_singleton, isNumbered_marker]
      exact List.append_nil _
    · rfl
  have hmem : ∀ m ∈ window, m ∈ requestOf max (.system world) window := by
    intro m hm
    unfold requestOf
    split
    · exact List.mem_append_left _ hm
    · exact hm
  constructor
  · intro hform
    by_contra hnot
    rw [not_or, Bool.not_eq_false, Nat.not_lt] at hnot
    have hpromptMem : prompt ∈ window.filter (·.isNumbered) :=
      hnumbered ▸ List.mem_filter.2 ⟨hform.prompt hnot.2, hanchors.numbered⟩
    have hcore := (mem_coreOf.1 (hwindow.kept.subset hpromptMem)).2
    rw [hnot.1] at hcore
    cases hcore
  · intro hsafe
    refine ⟨?_, ?_, hmem goal hwindow.goal, fun htwo => hmem prompt ?_, ?_⟩
    · have hlength := hwindow.length
      unfold requestOf
      unfold contextBudget at hlength
      split
      · rename_i hroom
        rw [if_pos hroom] at hlength
        rw [List.length_append, List.length_singleton]
        omega
      · rename_i hroom
        rw [if_neg hroom] at hlength
        exact hlength
    · apply h.ordered.sublist
      rw [hnumbered]
      exact hwindow.kept.trans List.filter_sublist
    · rcases hsafe with hsafe | hone
      · exact hprompt hsafe htwo (two_le_contextBudget htwo)
      · omega
    · unfold requestOf
      split
      · rw [texts_append]
        exact hwindow.wellFormed.append (.single rfl rfl .nil)
      · exact hwindow.wellFormed

/-! ## A turn -/

def AsksInForm (max : Nat) (goal prompt : MessageObject) : LoopRequest → Prop
  | .chat messages _ => InForm max goal prompt messages ↔ isCompactionMarker prompt.message = false ∨ max < 2
  | _ => True

theorem asksInForm_of_not_chat (r : LoopRequest) (h : r.isChat = false) : AsksInForm max goal prompt r := by
  cases r with
  | chat => cases h
  | _ => trivial

section Turn

variable {ctx : AgentLoopExecutionContext} {state : MutableAgentLoopState}

abbrev Keeps {α : Type} (ctx : AgentLoopExecutionContext) (prompt : MessageObject)
    (p : LoopProgram (α × MutableAgentLoopState)) : Prop :=
  Yields (AsksInForm ctx.limits.maxContext ctx.goalMessage prompt) p fun a =>
    Transcript ctx.limits.maxContext ctx.goalMessage prompt a.2.toToolExecutionState

theorem prepareTurn_yields (hanchors : Anchors ctx.goalMessage prompt) (hmax : 0 < ctx.limits.maxContext)
    (h : Transcript ctx.limits.maxContext ctx.goalMessage prompt state.toToolExecutionState) :
    Yields (AsksInForm ctx.limits.maxContext ctx.goalMessage prompt) (prepareTurn ctx state) fun x =>
      ∀ prepared, x = .ok prepared →
        AsksInForm ctx.limits.maxContext ctx.goalMessage prompt
            (.chat prepared.messagesForLlm prepared.actions) ∧
          prepared.messages =
            compactMessages state.messages (contextBudget ctx.limits.maxContext) ctx.goalMessage := by
  unfold prepareTurn
  dsimp only
  apply Program.AsksIf.after ((callBeforeTurn_silent ctx state).asks asksInForm_of_not_chat)
  intro hook
  cases hook with
  | error message => exact nofun
  | ok =>
      apply yields_request_bind trivial
      intro perceived
      split
      · exact nofun
      · rename_i perception _
        apply yields_request_bind trivial
        intro available
        split
        · exact nofun
        · rintro prepared ⟨⟩
          exact ⟨h.request hanchors hmax (buildContextMessage perception), rfl⟩

theorem requestTurnResponse_yields {prepared : PreparedTurn}
    (h : AsksInForm max goal prompt (.chat prepared.messagesForLlm prepared.actions)) :
    Yields (AsksInForm max goal prompt) (requestTurnResponse ctx state prepared) fun x =>
      ∀ response, x = .ok response → (response.toolCalls.map (·.id)).Nodup := by
  apply yields_request_bind h
  intro answer
  split
  · apply Program.AsksIf.after ((turnRequestFailure_silent _ _ _).asks asksInForm_of_not_chat)
    exact fun _ => nofun
  · split
    · apply Program.AsksIf.after ((turnRequestFailure_silent _ _ _).asks asksInForm_of_not_chat)
      exact fun _ => nofun
    · rename_i hresponse
      rintro response ⟨⟩
      exact requireLlmResponse_nodup hresponse

/-! ## What follows a response -/

theorem judgeTurn_keeps {response : LlmChatResponse} {llmDoneSignal : Bool} {doneSummary : Option String}
    (h : Transcript ctx.limits.maxContext ctx.goalMessage prompt state.toToolExecutionState) :
    Keeps ctx prompt (judgeTurn ctx state response llmDoneSignal doneSummary) := by
  apply Program.AsksIf.after ((evaluateController_silent _ _).asks asksInForm_of_not_chat)
  intro verdict
  cases verdict with
  | error => exact h
  | ok verdict =>
      cases verdict with
      | askUser =>
          dsimp only [dispatchControlVerdict]
          split
          · exact h
          · apply yields_request_bind trivial
            intro answer
            cases answer with
            | error => trivial
            | ok answer => exact h.push rfl rfl rfl
      | _ => exact h

theorem Transcript.group {calls : List LlmToolCallResult} {host : LoopHost} {response : LlmChatResponse}
    (h : Transcript max goal prompt s) (hcalls : calls ≠ [])
    (hgrows : GrowsByGroup (s.push (requestMessage host response calls)) calls t) : Transcript max goal prompt t := by
  obtain ⟨results, hresults, hanswers⟩ := hgrows
  refine h.grows ((grows_push s _).trans hresults) ?_ ?_
  · have hcomplete := hanswers.isCompleteGroup
      (fun tc => { id := tc.id, name := tc.name, arguments := host.stringify tc.arguments }) fun _ => rfl
    have hwell := @WellFormed.group (requestMessage host response calls) results []
      (by simpa [requestMessage, LlmMessage.toolCalls] using hcalls) hcomplete .nil
    rwa [List.append_nil] at hwell
  · intro m hm
    rcases List.mem_cons.1 hm with rfl | hm
    · rfl
    · have htool := hanswers.isTool m hm
      cases m with
      | tool => rfl
      | _ => cases htool

theorem Transcript.pushFinalText {response : LlmChatResponse}
    (h : Transcript max goal prompt state.toToolExecutionState) :
    Transcript max goal prompt (AgentLoop.pushFinalText state response).toToolExecutionState := by
  unfold AgentLoop.pushFinalText
  split
  · exact h.push rfl rfl rfl
  · exact h

theorem processTurnResponse_keeps {response : LlmChatResponse}
    (h : Transcript ctx.limits.maxContext ctx.goalMessage prompt state.toToolExecutionState)
    (hnodup : (response.toolCalls.map (·.id)).Nodup) :
    Keeps ctx prompt (processTurnResponse ctx state response) := by
  unfold processTurnResponse
  apply yields_request_bind trivial
  rintro ⟨aborted, now⟩
  dsimp only
  split
  · exact h.pushFinalText
  · split
    · exact judgeTurn_keeps (h.push rfl rfl rfl)
    · rename_i hcalls
      refine (executeToolCalls_yields asksInForm_of_not_chat (orderToolCallsForExecution_nodup hnodup)).bind ?_
      rintro ⟨outcome, t⟩ hgrows
      have ht := h.group (orderToolCallsForExecution_ne_nil hcalls) hgrows
      cases outcome with
      | terminal => exact ht
      | next => exact ht
      | doneSignaled => exact judgeTurn_keeps ht

theorem persistAgentLoopHistory_yields {P : LoopRequest → Prop} (hP : ∀ r, r.isChat = false → P r)
    (state : MutableAgentLoopState) :
    Yields P (persistAgentLoopHistory state) fun p => p.2.toToolExecutionState = state.toToolExecutionState := by
  unfold persistAgentLoopHistory
  split
  · rfl
  · apply yields_request_bind (hP _ rfl)
    intro written
    cases written with
    | ok => rfl
    | error => rfl

theorem synchronizeTurn_keeps {outcome : TurnOutcome} {turnMessageCount : Nat}
    (h : Transcript ctx.limits.maxContext ctx.goalMessage prompt state.toToolExecutionState) :
    Keeps ctx prompt (synchronizeTurn ctx state outcome turnMessageCount) := by
  unfold synchronizeTurn
  dsimp only
  apply (persistAgentLoopHistory_yields asksInForm_of_not_chat _).bind
  rintro ⟨persistenceError, after⟩ hafter
  dsimp only at hafter
  rw [← hafter] at h
  cases persistenceError with
  | some message => exact h
  | none =>
      apply Program.AsksIf.after ((checkpointAgentLoopHistory_silent _ _).asks asksInForm_of_not_chat)
      intro failure
      cases failure with
      | some failure => exact h
      | none =>
          cases outcome with
          | result => exact h
          | messages => exact h

theorem executeAgentTurn_keeps (hanchors : Anchors ctx.goalMessage prompt) (hmax : 0 < ctx.limits.maxContext)
    (h : Transcript ctx.limits.maxContext ctx.goalMessage prompt state.toToolExecutionState) :
    Keeps ctx prompt (executeAgentTurn ctx state) := by
  unfold executeAgentTurn
  dsimp only
  apply Program.AsksIf.after ((checkRunLimits_silent _ _ _ _ _ _).asks asksInForm_of_not_chat)
  intro limitResult
  cases limitResult with
  | some => exact h
  | none =>
      dsimp only
      split
      · exact h
      · apply (@prepareTurn_yields prompt ctx { state with turns := state.turns + 1 } hanchors hmax h).bind
        intro prepared hprepared
        cases prepared with
        | error => exact h
        | ok prepared =>
            obtain ⟨hrequest, hmessages⟩ := hprepared prepared rfl
            have hcompact := h.compact hanchors (contextBudget_pos hmax) two_le_contextBudget
            dsimp only at hmessages
            rw [← hmessages] at hcompact
            apply Program.AsksIf.after ((checkRunLimits_silent _ _ _ _ _ _).asks asksInForm_of_not_chat)
            intro limitResult
            cases limitResult with
            | some => exact hcompact
            | none =>
                refine (requestTurnResponse_yields hrequest).bind ?_
                intro response hresponse
                cases response with
                | error => exact hcompact
                | ok response =>
                    apply Program.AsksIf.after ((checkRunLimits_silent _ _ _ _ _ _).asks asksInForm_of_not_chat)
                    intro limitResult
                    cases limitResult with
                    | some => exact hcompact
                    | none =>
                        refine (processTurnResponse_keeps hcompact (hresponse response rfl)).bind ?_
                        rintro ⟨outcome, after⟩ hafter
                        exact synchronizeTurn_keeps hafter

theorem executeAgentLoop_keeps (hanchors : Anchors ctx.goalMessage prompt) (hmax : 0 < ctx.limits.maxContext)
    (turns : Nat) (h : Transcript ctx.limits.maxContext ctx.goalMessage prompt state.toToolExecutionState) :
    Keeps ctx prompt (executeAgentLoop ctx turns state) := by
  induction turns generalizing state with
  | zero => trivial
  | succ turns ih =>
      refine (executeAgentTurn_keeps hanchors hmax h).bind ?_
      rintro ⟨result, state⟩ hstate
      cases result with
      | some => exact hstate
      | none => exact ih hstate

end Turn

/-! ## A run -/

/-- The messages that a run starts with: those of its history, or the initial ones where the history has none. -/
def seedOf (config : AgentLoopConfig) : Except String (List LlmMessage) := do
  let restored ← config.history.elim (.ok { messages := [], pendingToolObservations := [] }) requireAgentLoopHistory
  let initialMessages ← requireHistoryMessages (some config.initialMessages)
  return if restored.messages ≠ [] then restored.messages else initialMessages

def goalOf (seed : List LlmMessage) (systemPrompt instruction : String) : MessageObject where
  identity := (initializeMessages seed systemPrompt).length + 1
  message := .user instruction

def promptOf (systemPrompt : String) : MessageObject where
  identity := 1
  message := .system systemPrompt

variable {config : AgentLoopConfig} {instruction systemPrompt : String} {seed : List LlmMessage}

theorem anchors (seed : List LlmMessage) (systemPrompt instruction : String) :
    Anchors (goalOf seed systemPrompt instruction) (promptOf systemPrompt) where
  user := ⟨instruction, rfl⟩
  system := rfl
  numbered := rfl

theorem initialState_messages (ledger : OperationLedger) (hasHistory : Bool) :
    (initialState seed systemPrompt instruction ledger hasHistory).messages =
      numberFrom 1 (initializeMessages seed systemPrompt ++ [LlmMessage.user instruction]) := by
  have hindex : ∀ (ms : List LlmMessage) (k : Nat),
      (ms.mapIdx fun i message => { identity := i + k, message : MessageObject }) = numberFrom k ms := by
    intro ms
    induction ms with
    | nil => exact fun _ => rfl
    | cons m ms ih =>
        intro k
        rw [List.mapIdx_cons, numberFrom, Nat.zero_add, ← ih (k + 1)]
        simp only [Nat.add_assoc, Nat.add_comm 1 k]
  exact hindex _ 1

theorem initialState_transcript (ledger : OperationLedger) (hasHistory : Bool) :
    Transcript max (goalOf seed systemPrompt instruction) (promptOf systemPrompt)
      (initialState seed systemPrompt instruction ledger hasHistory).toToolExecutionState := by
  have hmessages := @initialState_messages instruction systemPrompt seed ledger hasHistory
  have hobjects : (initialState seed systemPrompt instruction ledger hasHistory).objects =
      (initializeMessages seed systemPrompt ++ [LlmMessage.user instruction]).length + 1 := rfl
  generalize (initialState seed systemPrompt instruction ledger hasHistory).toToolExecutionState = s at *
  have hnormalized : WellFormed
      ((normalizeHistoryMessages seed).filter fun m => !m.isSystem || isCompactionMarker m) := by
    apply (normalizeFrom_wellFormed 0 false seed).filter
    intro m hm
    rw [Bool.or_eq_false_iff, Bool.not_eq_false'] at hm
    exact single_of_isSystem hm.1
  have hprompt : promptOf systemPrompt ∈ s.messages := by
    rw [hmessages]
    exact List.mem_cons_self
  refine ⟨?_, ?_, ?_, ?_, ?_, ?_, fun _ _ => hprompt⟩
  · rw [hmessages, texts_numberFrom]
    exact (WellFormed.single (m := .system systemPrompt) rfl rfl hnormalized).append (.single rfl rfl .nil)
  · unfold Ordered
    rw [hmessages]
    exact pairwise_numberFrom.filter _
  · intro m hm
    rw [hmessages] at hm
    have := (mem_numberFrom hm).2.2
    omega
  · intro m hm hnumbered
    rw [hmessages] at hm
    have hne : m.identity ≠ WINDOW_IDENTITY := Nat.pos_iff_ne_zero.1 (mem_numberFrom hm).2.1
    have htrue : m.isNumbered = true := decide_eq_true hne
    rw [htrue] at hnumbered
    cases hnumbered
  · intro m hm hsystem
    rw [hmessages] at hm
    rcases List.mem_cons.1 hm with rfl | hm
    · exact .inr rfl
    · left
      rcases List.mem_append.1 (mem_numberFrom hm).1 with hm | hm
      · have hkept := (List.mem_filter.1 hm).2
        rw [hsystem] at hkept
        exact hkept
      · rw [List.mem_singleton] at hm
        rw [hm] at hsystem
        cases hsystem
  · rw [hmessages, numberFrom_append, Nat.add_comm 1]
    exact List.mem_append_right _ List.mem_cons_self

theorem initializeAgentLoopState_yields {P : LoopRequest → Prop} (hP : ∀ r, r.isChat = false → P r) :
    Yields P (initializeAgentLoopState config instruction) fun x =>
      ∀ state, x = .ok state → ∃ seed ledger hasHistory, seedOf config = .ok seed ∧
        state = initialState seed config.systemPrompt instruction ledger hasHistory := by
  unfold initializeAgentLoopState
  dsimp only
  split
  · rename_i hhistory
    split
    · exact nofun
    · intro state hstate
      split at hstate
      · cases hstate
      · rename_i initialMessages hinitial
        cases hstate
        refine ⟨_, _, _, ?_, rfl⟩
        rw [seedOf, hhistory, hinitial]
        rfl
  · rename_i history hhistory
    split
    · exact nofun
    · rename_i restored hrestored
      apply yields_request_bind (hP _ rfl)
      intro target
      cases target with
      | error => exact nofun
      | ok =>
          intro state hstate
          split at hstate
          · cases hstate
          · rename_i initialMessages hinitial
            cases hstate
            refine ⟨_, _, _, ?_, rfl⟩
            rw [seedOf, hhistory, Option.elim_some, hrestored, hinitial]
            rfl

theorem validateAgentLoopLimits_maxContext {maxTurns maxTimeMs maxContext perTurnTimeout : JsDouble}
    {limits : AgentLoopLimits} (h : validateAgentLoopLimits maxTurns maxTimeMs maxContext perTurnTimeout = .ok limits) :
    isPositiveInteger maxContext = some limits.maxContext ∧ 0 < limits.maxContext := by
  have hpos : ∀ {d : JsDouble} {n : Nat}, isPositiveInteger d = some n → 0 < n := by
    intro d n hd
    unfold isPositiveInteger at hd
    split at hd
    · split at hd
      · rename_i q hq
        cases hd
        have hnum : 0 < q.num := Rat.num_pos.2 (lt_of_lt_of_le one_pos hq.2)
        omega
      · cases hd
    · cases hd
  unfold validateAgentLoopLimits at h
  split at h
  · cases h
  · split at h
    · cases h
    · split at h
      · cases h
      · rename_i hcontext
        split at h
        · cases h
        · cases h
          exact ⟨hcontext, hpos hcontext⟩

def RequestInForm (config : AgentLoopConfig) (instruction : String) : LoopRequest → Prop
  | .chat messages _ => ∃ seed max, seedOf config = .ok seed ∧ isPositiveInteger config.maxContextMessages = some max ∧
      (InForm max (goalOf seed config.systemPrompt instruction) (promptOf config.systemPrompt) messages ↔
        isCompactionMarker (.system config.systemPrompt) = false ∨ max < 2)
  | _ => True

theorem executeAgentLoop_requests {ctx : AgentLoopExecutionContext} {turns : Nat} {ledger : OperationLedger}
    {hasHistory : Bool} (hseed : seedOf config = .ok seed)
    (hlimits : isPositiveInteger config.maxContextMessages = some ctx.limits.maxContext)
    (hmax : 0 < ctx.limits.maxContext) (hgoal : ctx.goalMessage = goalOf seed config.systemPrompt instruction) :
    (executeAgentLoop ctx turns (initialState seed config.systemPrompt instruction ledger hasHistory)).Asks
      (RequestInForm config instruction) := by
  have hanchors := anchors seed config.systemPrompt instruction
  have htranscript := @initialState_transcript ctx.limits.maxContext instruction config.systemPrompt seed ledger
    hasHistory
  rw [← hgoal] at hanchors htranscript
  apply Program.Asks.mono _ (executeAgentLoop_keeps hanchors hmax turns htranscript).asks
  intro r hr
  cases r with
  | chat messages actions =>
      rw [hgoal] at hr
      exact ⟨seed, ctx.limits.maxContext, hseed, hlimits, hr⟩
  | _ => trivial

theorem runAgentLoop_requests (host : LoopHost) (config : AgentLoopConfig) (instruction : String) :
    (runAgentLoop host config instruction).Asks (RequestInForm config instruction) := by
  have hother : ∀ r : LoopRequest, r.isChat = false → RequestInForm config instruction r := by
    intro r hr
    cases r with
    | chat => cases hr
    | _ => trivial
  have hrun : Yields (RequestInForm config instruction) (runAgentLoop host config instruction) fun _ => True := by
    unfold runAgentLoop
    apply yields_request_bind trivial
    rintro ⟨aborted, startTime⟩
    dsimp only
    split
    · trivial
    · rename_i limits hlimits
      obtain ⟨hcontext, hmax⟩ := validateAgentLoopLimits_maxContext hlimits
      refine (initializeAgentLoopState_yields hother).bind ?_
      intro state hstate
      cases state with
      | error => trivial
      | ok state =>
          obtain ⟨seed, ledger, hasHistory, hseed, rfl⟩ := hstate state rfl
          apply yields_request_bind trivial
          intro contract
          apply Program.AsksIf.after
          · apply executeAgentLoop_requests hseed hcontext hmax
            unfold goalMessageOf goalOf
            rw [initialState_messages, length_numberFrom, List.length_append, List.length_singleton]
          · rintro ⟨result, state⟩
            dsimp only
            split
            · apply Program.AsksIf.after (persistAgentLoopHistory_yields hother state).asks
              rintro ⟨persistenceError, after⟩
              cases persistenceError with
              | some => trivial
              | none => trivial
            · trivial
  exact hrun.asks

/-- Every request of every run is in form just when the system prompt does not read like a compaction marker, or has
no room. Normalizing a history twice does no more than once, and a history that has the form stays as it is. -/
theorem requests_in_form_iff (host : LoopHost) (config : AgentLoopConfig) (instruction : String) :
    (runAgentLoop host config instruction).Asks (RequestInForm config instruction) ∧
      (∀ messages, normalizeHistoryMessages (normalizeHistoryMessages messages) = normalizeHistoryMessages messages) ∧
      ∀ value history, requireAgentLoopHistory value = .ok history → WellFormed history.messages →
        markerCount history.messages ≤ 1 → normalizeHistoryMessages history.messages = history.messages :=
  ⟨runAgentLoop_requests host config instruction, normalizeHistoryMessages_idempotent, fun _ _ haccepted hwell hmarkers =>
    normalizeHistoryMessages_eq_self hwell (requireAgentLoopHistory_distinct haccepted) hmarkers⟩

def answerPlainly : List (List MessageObject) → (r : LoopRequest) → Option (r.Response × List (List MessageObject))
  | sent, .clock => some ((false, 0), sent)
  | sent, .compileContract _ => some (.ok (), sent)
  | sent, .perceive => some (.ok (some (.obj [("worldSummary", .str ""), ("recentObservations", .str "")])), sent)
  | sent, .availableActions => some (.ok (some (.arr [])), sent)
  | sent, .chat messages _ => some (.error .aborted, messages :: sent)
  | _, _ => none

def markedConfig : AgentLoopConfig where
  systemPrompt := "[Conversation compacted: keep it short]"

theorem prompt_not_sent :
    ¬ ∀ host config instruction, (runAgentLoop host config instruction).Asks fun r =>
      ∀ messages actions, r = .chat messages actions → ∃ seed max, seedOf config = .ok seed ∧
        isPositiveInteger config.maxContextMessages = some max ∧
          InForm max (goalOf seed config.systemPrompt instruction) (promptOf config.systemPrompt) messages := by
  intro hclaim
  have hsent : (((runAgentLoop plainLoopHost markedConfig "goal").eval? answerPlainly []).map (·.2)).any
      (·.any fun messages => promptOf markedConfig.systemPrompt ∉ messages) = true := by decide +kernel
  obtain ⟨sent, hrun, hany⟩ := (Option.any_eq_true _ _).1 hsent
  obtain ⟨⟨out, sent⟩, heval, rfl⟩ := Option.map_eq_some_iff.1 hrun
  have hexec : Program.Exec (fun s r resp t => answerPlainly s r = some (resp, t))
      (runAgentLoop plainLoopHost markedConfig "goal") [] out sent :=
    Program.exec_of_eval? (fun _ _ _ hanswer => hanswer) heval
  have hkept : ∀ messages ∈ sent, promptOf markedConfig.systemPrompt ∈ messages := by
    apply hexec.invariant (I := fun sent => ∀ messages ∈ sent, promptOf markedConfig.systemPrompt ∈ messages)
      (hclaim plainLoopHost markedConfig "goal")
    · intro s r resp t hr hanswer hs
      cases r with
      | chat messages actions =>
          cases hanswer
          obtain ⟨seed, max, -, hmax, hform⟩ := hr messages actions rfl
          cases hmax
          intro ms hms
          rcases List.mem_cons.1 hms with rfl | hms
          · exact hform.prompt (by decide)
          · exact hs ms hms
      | clock | compileContract _ | perceive | availableActions =>
          cases hanswer
          exact hs
      | _ => cases hanswer
    · exact nofun
  obtain ⟨messages, hmessages, hnot⟩ := List.any_eq_true.1 hany
  exact of_decide_eq_true hnot (hkept messages hmessages)

end Cantilune.AgentLoop
