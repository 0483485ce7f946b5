import Cantilune.Lemmas.AgentResults
import Cantilune.Lemmas.SortedMembers

/-!
# Executed calls in the history

When a run settles the caller's history has every call that was dispatched, with its result, unless the question
handler rejects a question about an answer with calls: the turn then leaves before it is written down.
-/

namespace Cantilune.AgentLoop

/-! ## Calls with their results -/

def LlmMessage.content : LlmMessage → String
  | .system content | .user content | .assistant content _ | .tool _ content => content

def answeredCalls : List LlmMessage → List (LlmToolCall × String)
  | [] => []
  | m :: rest =>
      let results := rest.take m.toolCalls.length
      (if isCompleteGroup m.toolCalls results = true then m.toolCalls.zip (results.map (·.content)) else []) ++
        answeredCalls rest

variable {xs ys results : List LlmMessage} {m : LlmMessage}

theorem answeredCalls_cons (h : m.toolCalls = []) : answeredCalls (m :: xs) = answeredCalls xs := by
  rw [answeredCalls, h]
  simp

theorem answeredCalls_append_of_single (h : ∀ m ∈ xs, m.toolCalls = []) :
    answeredCalls (xs ++ ys) = answeredCalls ys := by
  induction xs with
  | nil => rfl
  | cons m xs ih =>
      rw [List.cons_append, answeredCalls_cons (h m List.mem_cons_self)]
      exact ih fun n hn => h n (List.mem_cons_of_mem m hn)

theorem toolCalls_of_isCompleteGroup {calls : List LlmToolCall} (h : isCompleteGroup calls results = true) :
    ∀ m ∈ results, m.toolCalls = [] := fun m hm => toolCalls_of_isTool (isTool_of_isCompleteGroup h m hm)

theorem answeredCalls_group (complete : isCompleteGroup m.toolCalls results = true) :
    answeredCalls (m :: (results ++ ys)) = m.toolCalls.zip (results.map (·.content)) ++ answeredCalls ys := by
  have htake : (results ++ ys).take m.toolCalls.length = results := by
    rw [← length_of_isCompleteGroup complete, List.take_left]
  rw [answeredCalls, htake, if_pos complete, answeredCalls_append_of_single (toolCalls_of_isCompleteGroup complete)]

theorem answeredCalls_append (h : WellFormed xs) : answeredCalls (xs ++ ys) = answeredCalls xs ++ answeredCalls ys := by
  induction h with
  | nil => rfl
  | single alone calls _ ih => rw [List.cons_append, answeredCalls_cons calls, answeredCalls_cons calls, ih]
  | group calls complete _ ih =>
      rw [List.cons_append, List.append_assoc, answeredCalls_group complete, answeredCalls_group complete, ih,
        List.append_assoc]

theorem answeredCalls_filter {p : LlmMessage → Bool} (h : WellFormed xs)
    (hp : ∀ m, p m = false → m.isTool = false ∧ m.toolCalls = []) : answeredCalls (xs.filter p) = answeredCalls xs := by
  induction h with
  | nil => rfl
  | @single m rest alone calls _ ih =>
      rw [List.filter_cons, answeredCalls_cons calls]
      split
      · rw [answeredCalls_cons calls, ih]
      · exact ih
  | @group m results rest calls complete _ ih =>
      have hm : p m = true := by
        by_contra hm
        exact calls (hp m (Bool.eq_false_iff.2 hm)).2
      have hresults : results.filter p = results := by
        refine List.filter_eq_self.2 fun r hr => ?_
        by_contra hr'
        have halone := (hp r (Bool.eq_false_iff.2 hr')).1
        rw [isTool_of_isCompleteGroup complete r hr] at halone
        cases halone
      rw [List.filter_cons, if_pos hm, List.filter_append, hresults, answeredCalls_group complete,
        answeredCalls_group complete, ih]

theorem answeredCalls_normalizeFrom {skip : Nat} {sawMarker : Bool} (hdistinct : DistinctCalls xs)
    (hskip : ∀ m ∈ xs.take skip, m.toolCalls = []) : answeredCalls (normalizeFrom skip sawMarker xs) = answeredCalls xs := by
  induction xs generalizing skip sawMarker with
  | nil => cases skip <;> rfl
  | cons m rest ih =>
      have hrest := hdistinct.of_mem fun n hn => List.mem_cons_of_mem m hn
      cases skip with
      | succ skip =>
          rw [List.take_succ_cons] at hskip
          rw [answeredCalls_cons (hskip m List.mem_cons_self)]
          exact ih hrest fun n hn => hskip n (List.mem_cons_of_mem m hn)
      | zero =>
          have hzero : ∀ {saw : Bool}, answeredCalls (normalizeFrom 0 saw rest) = answeredCalls rest :=
            ih hrest nofun
          unfold normalizeFrom
          split
          · rename_i htool
            rw [answeredCalls_cons (toolCalls_of_isTool htool)]
            exact hzero
          · split
            · rename_i hmarker
              have hcalls := (single_of_isSystem (isSystem_of_isMarker hmarker)).2
              split
              · rw [answeredCalls_cons hcalls]
                exact hzero
              · rw [answeredCalls_cons hcalls, answeredCalls_cons hcalls]
                exact hzero
            · split
              · dsimp only
                have hnodup := hdistinct m List.mem_cons_self
                by_cases hcomplete : isCompleteGroup m.toolCalls (rest.take m.toolCalls.length) = true
                · have hgroup := @ih m.toolCalls.length sawMarker hrest
                    (toolCalls_of_isCompleteGroup hcomplete)
                  rw [if_pos ⟨hnodup, hcomplete⟩, answeredCalls_group hcomplete, hgroup]
                  conv_rhs => rw [answeredCalls]
                  rw [if_pos hcomplete]
                · rw [if_neg fun h => hcomplete h.2, hzero]
                  conv_rhs => rw [answeredCalls]
                  rw [if_neg hcomplete, List.nil_append]
              · rename_i hcalls
                rw [answeredCalls_cons (not_not.1 hcalls), answeredCalls_cons (not_not.1 hcalls)]
                exact hzero

theorem answeredCalls_normalizeHistoryMessages (hdistinct : DistinctCalls xs) :
    answeredCalls (normalizeHistoryMessages xs) = answeredCalls xs :=
  answeredCalls_normalizeFrom hdistinct nofun

/-! ## The caller's side -/

/-- The calls that were dispatched and their results, the caller's history, and whether the latest answer of the
model asks for calls. -/
structure HistoryWorld where
  calls : List LlmToolCallResult
  outputs : List String
  messages : List LlmMessage
  pending : List ToolObservationRecovery
  asked : Bool

def asksForCalls (host : LoopHost) : Except ChatFailure (Option Json) → Bool
  | .ok value =>
      match requireLlmResponse host value with
      | .ok response => !response.toolCalls.isEmpty
      | .error _ => false
  | .error _ => false

def Serves (host : LoopHost) (w : HistoryWorld) : (r : LoopRequest) → r.Response → HistoryWorld → Prop
  | .emit (.toolStart _ toolCall), _, w' => w' = { w with calls := w.calls ++ [toolCall] }
  | .emit (.toolEnd _ _ _ _ output), _, w' => w' = { w with outputs := w.outputs ++ [output] }
  | .chat _ _, answer, w' => w' = { w with asked := asksForCalls host answer }
  | .writeHistory messages pending, answer, w' => answer = .ok () ∧ w' = { w with messages, pending }
  | _, _, w' => w' = w

/-- The question handler rejects no question about an answer that asks for calls. -/
def Patient (w : HistoryWorld) : (r : LoopRequest) → r.Response → Prop
  | .askUser _, .error _ => w.asked = false
  | _, _ => True

abbrev RunsPatiently {α : Type} (host : LoopHost) (p : LoopProgram α) (w : HistoryWorld)
    (out : Except LoopRejection α) (w' : HistoryWorld) : Prop :=
  Program.Exec (fun w r resp w' => Serves host w r resp w' ∧ Patient w r resp) p w out w'

section Runs

variable {host : LoopHost} {w w' : HistoryWorld} {α β : Type} {out : Except LoopRejection β} {ctx : ToolExecutionContext}
  {s t : ToolExecutionState} {toolCall : LlmToolCallResult}

theorem Silent.runs_bind {p : LoopProgram α} {f : α → LoopProgram β} (h : Silent p)
    (hexec : RunsPatiently host (p >>= f) w out w') : ∃ a, RunsPatiently host (f a) w out w' := by
  have hquiet : ∀ (v : HistoryWorld) (r : LoopRequest) (resp : r.Response) (v' : HistoryWorld), r.isSilent = true →
      Serves host v r resp v' ∧ Patient v r resp → v = w → v' = w := by
    rintro v r resp v' hr ⟨hserves, -⟩ rfl
    cases r with
    | chat | emit _ | askUser _ | writeHistory _ _ => cases hr
    | _ => exact hserves
  obtain ⟨a, m, hm, hnext⟩ := Program.Returns.of_bind (Program.AsksOnly.returns h hquiet) rfl hexec
  subst hm
  exact ⟨a, hnext⟩

theorem runs_answerCall_bind {ok : Bool} {output : String} {f : ToolExecutionState → LoopProgram β}
    (hexec : RunsPatiently host (answerCall ctx s toolCall ok output >>= f) w out w') :
    RunsPatiently host (f (s.push (.tool toolCall.id output))) { w with outputs := w.outputs ++ [output] } out w' := by
  obtain ⟨resp, m, ⟨rfl, -⟩, hexec⟩ := Program.exec_ask.1 hexec
  exact hexec

def HistoryWorld.ran (w : HistoryWorld) (toolCall : LlmToolCallResult) (output : String) : HistoryWorld :=
  { w with calls := w.calls ++ [toolCall], outputs := w.outputs ++ [output] }

inductive CallRan (s : ToolExecutionState) (toolCall : LlmToolCallResult) (isLast : Bool) (w : HistoryWorld) :
    Except LoopRejection (ToolRunOutcome × ToolExecutionState) → HistoryWorld → Prop where
  | ran {outcome : ToolRunOutcome} {t : ToolExecutionState} {output : String}
      (grows : Grows s [.tool toolCall.id output] t) (last : ∀ summary, outcome = .doneSignaled summary → isLast = true) :
      CallRan s toolCall isLast w (.ok (outcome, t)) (w.ran toolCall output)
  | ended {result : RunResult} {t : ToolExecutionState} (grows : Grows s [] t) :
      CallRan s toolCall isLast w (.ok (.terminal result, t)) w

theorem callRan_of_push {isLast : Bool} {outcome : ToolRunOutcome} {output : String} {ledger : OperationLedger}
    {refs : List ContentRef} {out : Except LoopRejection (ToolRunOutcome × ToolExecutionState)}
    (hexec : RunsPatiently host
      (pure (outcome, ({ s with producedRefs := refs, ledger } : ToolExecutionState).push (.tool toolCall.id output)))
      { w with calls := w.calls ++ [toolCall], outputs := w.outputs ++ [output] } out w')
    (hlast : ∀ summary, outcome = .doneSignaled summary → isLast = true) :
    CallRan s toolCall isLast w out w' := by
  obtain ⟨rfl, rfl⟩ := Program.exec_done.1 hexec
  exact .ran (grows_push _ _) hlast

theorem executeOneToolCall_ran {isLast : Bool} {out : Except LoopRejection (ToolRunOutcome × ToolExecutionState)}
    (hexec : RunsPatiently host (executeOneToolCall ctx s toolCall isLast) w out w') :
    CallRan s toolCall isLast w out w' := by
  unfold executeOneToolCall at hexec
  obtain ⟨limitResult, hexec⟩ := (checkRunLimits_silent _ _ _ _ _ _).runs_bind hexec
  cases limitResult with
  | some limitResult =>
      obtain ⟨rfl, rfl⟩ := Program.exec_done.1 hexec
      exact .ended (.refl s)
  | none =>
      obtain ⟨resp, m, ⟨rfl, -⟩, hexec⟩ := Program.exec_ask.1 hexec
      obtain ⟨dispatched, hexec⟩ := (dispatchToolCall_silent _ _ _).runs_bind hexec
      cases dispatched with
      | error message =>
          have hend := runs_answerCall_bind hexec
          exact callRan_of_push hend nofun
      | ok dispatched =>
          dsimp only at hexec
          split at hexec
          · unfold processDoneDispatch at hexec
            split at hexec
            · have hend := runs_answerCall_bind hexec
              exact callRan_of_push hend nofun
            · rename_i hlast
              split at hexec
              · have hend := runs_answerCall_bind hexec
                exact callRan_of_push hend nofun
              · have hend := runs_answerCall_bind hexec
                exact callRan_of_push hend fun _ _ => by simpa using hlast
          · have hend := runs_answerCall_bind hexec
            split at hend
            · exact callRan_of_push hend nofun
            · exact callRan_of_push hend nofun

/-- How the calls of an answer end: the first ones have run, and every one has a result in the transcript. -/
structure GroupRan (s : ToolExecutionState) (calls : List LlmToolCallResult) (w : HistoryWorld)
    (results : List LlmMessage) (t : ToolExecutionState) (w' : HistoryWorld) : Prop where
  grows : Grows s results t
  answers : Answers calls results
  ran : ∃ ran rest outs skipped, calls = ran ++ rest ∧ results.map (·.content) = outs ++ skipped ∧
    ran.length = outs.length ∧ w' = { w with calls := w.calls ++ ran, outputs := w.outputs ++ outs }

theorem executeCallsFrom_ran {before rest : List LlmToolCallResult} {results : List LlmMessage}
    {out : Except LoopRejection (ToolRunOutcome × ToolExecutionState)}
    (hnodup : ((before ++ rest).map (·.id)).Nodup) (hgrows : Grows s results t) (hanswers : Answers before results)
    (hexec : RunsPatiently host (executeCallsFrom ctx (before ++ rest) s.messages.length rest t)
      { w with calls := w.calls ++ before, outputs := w.outputs ++ results.map (·.content) } out w') :
    ∃ outcome u all, out = .ok (outcome, u) ∧ GroupRan s (before ++ rest) w all u w' := by
  have hlength : before.length = (results.map (·.content)).length := by
    have := congrArg List.length hanswers
    simpa using this.symm
  induction rest generalizing before t results with
  | nil =>
      obtain ⟨rfl, rfl⟩ := Program.exec_done.1 hexec
      rw [List.append_nil]
      exact ⟨_, _, results, rfl, hgrows, hanswers, before, [], _, [], by simp, by simp, hlength, rfl⟩
  | cons toolCall rest ih =>
      have hcalls : before ++ toolCall :: rest = before ++ [toolCall] ++ rest := by simp
      -- What is left of the group where the run ends after these calls.
      have hterminal : ∀ {ran left : List LlmToolCallResult} {results : List LlmMessage} {u : ToolExecutionState},
          before ++ toolCall :: rest = ran ++ left → ran.length = (results.map (·.content)).length →
          Grows s results u → Answers ran results →
          ∃ all, GroupRan s (before ++ toolCall :: rest) w all
            (completeTerminatedToolGroup ctx (before ++ toolCall :: rest) toolCall s.messages.length u)
            { w with calls := w.calls ++ ran, outputs := w.outputs ++ results.map (·.content) } := by
        intro ran left results u hsplit hlength hgrows hanswers
        rw [hsplit] at hnodup ⊢
        obtain ⟨skipped, hskipped, hskip⟩ := completeTerminatedToolGroup_grows ctx toolCall hnodup hgrows hanswers
        refine ⟨results ++ skipped, hgrows.trans hskipped, hanswers.append hskip, ran, left, _,
          skipped.map (·.content), rfl, by rw [List.map_append], hlength, rfl⟩
      rcases Program.exec_bind.1 hexec with ⟨⟨outcome, u⟩, m, hcall, hnext⟩ | ⟨e, hcall, rfl⟩
      · generalize hok : Except.ok (outcome, u) = called at hcall
        have hran := executeOneToolCall_ran hcall
        cases hran with
        | @ran outcome' u' output hgrow hlast =>
            cases hok
            have hgrows' := hgrows.trans hgrow
            have hanswers' := hanswers.append (answers_single toolCall output)
            have hlength' : (before ++ [toolCall]).length =
                ((results ++ [LlmMessage.tool toolCall.id output]).map (·.content)).length := by simpa using hlength
            have hworld : HistoryWorld.ran
                { w with calls := w.calls ++ before, outputs := w.outputs ++ results.map (·.content) } toolCall output =
                { w with
                  calls := w.calls ++ (before ++ [toolCall])
                  outputs := w.outputs ++ (results ++ [LlmMessage.tool toolCall.id output]).map (·.content) } := by
              simp [HistoryWorld.ran, LlmMessage.content]
            rw [hworld] at hnext
            cases outcome with
            | next =>
                rw [hcalls] at hnodup hnext ⊢
                exact ih hnodup hgrows' hanswers' hnext hlength'
            | doneSignaled summary =>
                obtain ⟨rfl, rfl⟩ := Program.exec_done.1 hnext
                rw [List.isEmpty_iff.1 (hlast summary rfl)]
                exact ⟨_, _, _, rfl, hgrows', hanswers', _, [], _, [], by simp, by simp, hlength', rfl⟩
            | terminal result =>
                obtain ⟨rfl, rfl⟩ := Program.exec_done.1 hnext
                obtain ⟨all, hall⟩ := hterminal hcalls hlength' hgrows' hanswers'
                exact ⟨_, _, all, rfl, hall⟩
        | @ended result u' hgrow =>
            cases hok
            have hgrows' := hgrows.trans hgrow
            rw [List.append_nil] at hgrows'
            obtain ⟨rfl, rfl⟩ := Program.exec_done.1 hnext
            obtain ⟨all, hall⟩ := hterminal rfl hlength hgrows' hanswers
            exact ⟨_, _, all, rfl, hall⟩
      · generalize hok : (Except.error e : Except LoopRejection (ToolRunOutcome × ToolExecutionState)) = called at hcall
        cases executeOneToolCall_ran hcall with
        | ran => cases hok
        | ended => cases hok

theorem executeToolCalls_ran {toolCalls : List LlmToolCallResult}
    {out : Except LoopRejection (ToolRunOutcome × ToolExecutionState)} (hnodup : (toolCalls.map (·.id)).Nodup)
    (hexec : RunsPatiently host (executeToolCalls ctx s toolCalls) w out w') :
    ∃ outcome t results, out = .ok (outcome, t) ∧ GroupRan s toolCalls w results t w' := by
  apply @executeCallsFrom_ran host w w' ctx s s [] toolCalls [] out hnodup (.refl s) rfl
  simpa [executeToolCalls] using hexec

/-! ## A turn -/

variable {loop : AgentLoopExecutionContext} {state after : MutableAgentLoopState}

def toHistoryCall (host : LoopHost) (tc : LlmToolCallResult) : LlmToolCall where
  id := tc.id
  name := tc.name
  arguments := host.stringify tc.arguments

def HistoryWorld.executed (host : LoopHost) (w : HistoryWorld) : List (LlmToolCall × String) :=
  (w.calls.map (toHistoryCall host)).zip w.outputs

/-- What comes of a response: the new messages of the transcript have the calls that were executed. -/
structure TurnRan (host : LoopHost) (state : MutableAgentLoopState) (w : HistoryWorld) (ms : List LlmMessage)
    (after : MutableAgentLoopState) (w' : HistoryWorld) : Prop where
  grows : Grows state.toToolExecutionState ms after.toToolExecutionState
  wellFormed : WellFormed ms
  distinct : DistinctCalls ms
  executed : ∃ ps, w'.executed host = w.executed host ++ ps ∧ ps.Sublist (answeredCalls ms)
  balanced : w'.calls.length = w'.outputs.length
  messages : w'.messages = w.messages
  evidence : after.evidenceMessages = state.evidenceMessages
  hasHistory : after.hasHistory = state.hasHistory

theorem DistinctCalls.singleton {m : LlmMessage} (h : (m.toolCalls.map (·.id)).Nodup) : DistinctCalls [m] := by
  intro n hn
  rw [List.mem_singleton] at hn
  exact hn ▸ h

theorem turnRan_of_single {ms : List LlmMessage} (hbalanced : w.calls.length = w.outputs.length)
    (hsingle : ∀ m ∈ ms, m.isTool = false ∧ m.toolCalls = [])
    (hgrows : Grows state.toToolExecutionState ms after.toToolExecutionState)
    (hevidence : after.evidenceMessages = state.evidenceMessages) (hhistory : after.hasHistory = state.hasHistory) :
    TurnRan host state w ms after w where
  grows := hgrows
  wellFormed := by
    clear hgrows
    induction ms with
    | nil => exact .nil
    | cons m ms ih =>
        obtain ⟨halone, hcalls⟩ := hsingle m List.mem_cons_self
        exact .single halone hcalls (ih fun n hn => hsingle n (List.mem_cons_of_mem m hn))
  distinct := by
    intro m hm
    rw [(hsingle m hm).2]
    exact List.nodup_nil
  executed := ⟨[], (List.append_nil _).symm, List.nil_sublist _⟩
  balanced := hbalanced
  messages := rfl
  evidence := hevidence
  hasHistory := hhistory

theorem turnRan_of_group {response : LlmChatResponse} {calls : List LlmToolCallResult} {results : List LlmMessage}
    (hbalanced : w.calls.length = w.outputs.length) (hcalls : calls ≠ []) (hnodup : (calls.map (·.id)).Nodup)
    (hran : GroupRan (state.toToolExecutionState.push (requestMessage host response calls)) calls w results
      after.toToolExecutionState w')
    (hevidence : after.evidenceMessages = state.evidenceMessages) (hhistory : after.hasHistory = state.hasHistory) :
    TurnRan host state w (requestMessage host response calls :: results) after w' := by
  have hcomplete := hran.answers.isCompleteGroup (toHistoryCall host) fun _ => rfl
  have hanswered : answeredCalls (requestMessage host response calls :: results) =
      (calls.map (toHistoryCall host)).zip (results.map (·.content)) := by
    have hgroup := @answeredCalls_group [] results (requestMessage host response calls) hcomplete
    rw [List.append_nil] at hgroup
    rw [hgroup]
    exact List.append_nil _
  obtain ⟨ran, rest, outs, skipped, rfl, hcontent, hlength, rfl⟩ := hran.ran
  refine ⟨(grows_push _ _).trans hran.grows, ?_, ?_, ?_, ?_, rfl, hevidence, hhistory⟩
  · have hwell := @WellFormed.group (requestMessage host response (ran ++ rest)) results []
      (by simpa [requestMessage, LlmMessage.toolCalls] using hcalls) hcomplete .nil
    rwa [List.append_nil] at hwell
  · intro m hm
    rcases List.mem_cons.1 hm with rfl | hm
    · simpa [requestMessage, LlmMessage.toolCalls, Function.comp_def] using hnodup
    · rw [toolCalls_of_isTool (hran.answers.isTool m hm)]
      exact List.nodup_nil
  · refine ⟨(ran.map (toHistoryCall host)).zip outs, ?_, ?_⟩
    · unfold HistoryWorld.executed
      rw [List.map_append, List.zip_append (by simpa using hbalanced)]
    · rw [hanswered, hcontent, List.map_append, List.zip_append (by simpa using hlength)]
      exact List.sublist_append_left _ _
  · rw [List.length_append, List.length_append, hbalanced, hlength]

theorem TurnRan.answered {ms : List LlmMessage} {answer : String} (h : TurnRan host state w ms after w') :
    TurnRan host state w (ms ++ [.user answer])
      { after with toToolExecutionState := after.push (.user answer) } w' where
  grows := h.grows.trans (grows_push _ _)
  wellFormed := h.wellFormed.append (.single rfl rfl .nil)
  distinct := h.distinct.append (.singleton List.nodup_nil)
  executed := by
    obtain ⟨ps, hps, hsub⟩ := h.executed
    refine ⟨ps, hps, ?_⟩
    rw [answeredCalls_append h.wellFormed]
    exact hsub.trans (List.sublist_append_left _ _)
  balanced := h.balanced
  messages := h.messages
  evidence := h.evidence
  hasHistory := h.hasHistory

/-- The judgment changes nothing but the transcript, by the user's answer. -/
inductive Judged (state : MutableAgentLoopState) (w : HistoryWorld) :
    Except LoopRejection (TurnOutcome × MutableAgentLoopState) → Prop where
  | verdict (outcome : TurnOutcome) : Judged state w (.ok (outcome, state))
  | answered (outcome : TurnOutcome) (answer : String) :
      Judged state w (.ok (outcome, { state with toToolExecutionState := state.push (.user answer) }))
  | rejected (message : String) (asked : w.asked = false) : Judged state w (.error { message, state })

theorem judgeTurn_ran {response : LlmChatResponse} {llmDoneSignal : Bool} {doneSummary : Option String}
    {out : Except LoopRejection (TurnOutcome × MutableAgentLoopState)}
    (hexec : RunsPatiently host (judgeTurn loop state response llmDoneSignal doneSummary) w out w') :
    Judged state w out ∧ w' = w := by
  unfold judgeTurn at hexec
  obtain ⟨verdict, hexec⟩ := (evaluateController_silent _ _).runs_bind hexec
  cases verdict with
  | error =>
      obtain ⟨rfl, rfl⟩ := Program.exec_done.1 hexec
      exact ⟨.verdict _, rfl⟩
  | ok verdict =>
      cases verdict with
      | askUser contents question =>
          dsimp only [dispatchControlVerdict] at hexec
          split at hexec
          · obtain ⟨rfl, rfl⟩ := Program.exec_done.1 hexec
            exact ⟨.verdict _, rfl⟩
          · obtain ⟨answer, m, ⟨hserves, hpatient⟩, hexec⟩ := Program.exec_ask.1 hexec
            cases hserves
            cases answer with
            | error message =>
                obtain ⟨rfl, rfl⟩ := Program.exec_fail.1 hexec
                exact ⟨.rejected message hpatient, rfl⟩
            | ok answer =>
                obtain ⟨rfl, rfl⟩ := Program.exec_done.1 hexec
                exact ⟨.answered _ answer, rfl⟩
      | _ =>
          obtain ⟨rfl, rfl⟩ := Program.exec_done.1 hexec
          exact ⟨.verdict _, rfl⟩

theorem clock_silent : Silent LoopProgram.clock := ⟨rfl, fun _ => trivial⟩

theorem pushFinalText_ran {response : LlmChatResponse} (hbalanced : w.calls.length = w.outputs.length) :
    ∃ ms, TurnRan host state w ms (pushFinalText state response) w := by
  unfold pushFinalText
  split
  · exact ⟨_, turnRan_of_single hbalanced (by simp [LlmMessage.isTool, LlmMessage.toolCalls]) (grows_push _ _) rfl rfl⟩
  · exact ⟨[], turnRan_of_single hbalanced nofun (.refl _) rfl rfl⟩

/-- A response has been processed, or the question about it was rejected before any call was asked for. -/
inductive Processed (host : LoopHost) (state : MutableAgentLoopState) (w : HistoryWorld) :
    Except LoopRejection (TurnOutcome × MutableAgentLoopState) → HistoryWorld → Prop where
  | turn {outcome : TurnOutcome} {after : MutableAgentLoopState} {ms : List LlmMessage} {w' : HistoryWorld}
      (ran : TurnRan host state w ms after w') : Processed host state w (.ok (outcome, after)) w'
  | rejected {e : LoopRejection} (ledger : e.state.ledger = state.ledger) : Processed host state w (.error e) w

theorem processTurnResponse_ran {response : LlmChatResponse}
    {out : Except LoopRejection (TurnOutcome × MutableAgentLoopState)} (hbalanced : w.calls.length = w.outputs.length)
    (hnodup : (response.toolCalls.map (·.id)).Nodup) (hasked : response.toolCalls ≠ [] → w.asked = true)
    (hexec : RunsPatiently loop.host (processTurnResponse loop state response) w out w') :
    Processed loop.host state w out w' := by
  unfold processTurnResponse at hexec
  obtain ⟨⟨aborted, now⟩, hexec⟩ := clock_silent.runs_bind hexec
  dsimp only at hexec
  split at hexec
  · obtain ⟨ms, hms⟩ := @pushFinalText_ran loop.host w state response hbalanced
    obtain ⟨rfl, rfl⟩ := Program.exec_done.1 hexec
    exact .turn hms
  · split at hexec
    · obtain ⟨hjudged, rfl⟩ := judgeTurn_ran hexec
      cases hjudged with
      | verdict outcome =>
          exact .turn (turnRan_of_single hbalanced (by simp [LlmMessage.isTool, LlmMessage.toolCalls]) (grows_push _ _)
            rfl rfl)
      | answered outcome answer =>
          exact .turn (turnRan_of_single hbalanced (by simp [LlmMessage.isTool, LlmMessage.toolCalls])
            ((grows_push _ _).trans (grows_push _ _)) rfl rfl)
      | rejected message => exact .rejected rfl
    · rename_i hcalls
      have hordered := orderToolCallsForExecution_ne_nil hcalls
      have hnodup := orderToolCallsForExecution_nodup hnodup
      rcases Program.exec_bind.1 hexec with ⟨⟨outcome, t⟩, m, hrun, hnext⟩ | ⟨e, hrun, rfl⟩
      · obtain ⟨outcome, t, results, hok, hran⟩ := executeToolCalls_ran hnodup hrun
        cases hok
        have hturn : ∀ {after : MutableAgentLoopState}, after.toToolExecutionState = t →
            after.evidenceMessages = state.evidenceMessages → after.hasHistory = state.hasHistory →
            TurnRan loop.host state w
              (requestMessage loop.host response (orderToolCallsForExecution response.toolCalls) :: results) after m := by
          intro after hafter hevidence hhistory
          exact turnRan_of_group hbalanced hordered hnodup (hafter ▸ hran) hevidence hhistory
        cases outcome with
        | terminal result =>
            obtain ⟨rfl, rfl⟩ := Program.exec_done.1 hnext
            exact .turn (hturn rfl rfl rfl)
        | next =>
            obtain ⟨rfl, rfl⟩ := Program.exec_done.1 hnext
            exact .turn (hturn rfl rfl rfl)
        | doneSignaled summary =>
            have hasked' : m.asked = true := by
              obtain ⟨ran, rest, outs, skipped, -, -, -, rfl⟩ := hran.ran
              exact hasked hcalls
            obtain ⟨hjudged, rfl⟩ := judgeTurn_ran hnext
            have hran := @hturn (accumulateTrace { state with toToolExecutionState := t } response false)
              rfl rfl rfl
            cases hjudged with
            | verdict outcome => exact .turn hran
            | answered outcome answer => exact .turn hran.answered
            | rejected message asked =>
                rw [hasked'] at asked
                cases asked
      · obtain ⟨outcome, t, results, hok, -⟩ := executeToolCalls_ran hnodup hrun
        cases hok

/-! ## The history between turns -/

/-- The caller's history has what it began with and every executed call with its result, and what the ledger says is
pending. -/
structure HistorySaved (host : LoopHost) (start : AgentLoopHistory) (ledger : OperationLedger) (w : HistoryWorld) :
    Prop where
  balanced : w.calls.length = w.outputs.length
  saved : (answeredCalls start.messages ++ w.executed host).Sublist (answeredCalls w.messages)
  pending : w.pending = ledger.pendingToolObservations

/-- The evidence that the loop keeps has them too. -/
structure Evident (host : LoopHost) (start : AgentLoopHistory) (state : MutableAgentLoopState) (w : HistoryWorld) :
    Prop where
  balanced : w.calls.length = w.outputs.length
  wellFormed : WellFormed state.evidenceMessages
  distinct : DistinctCalls state.evidenceMessages
  kept : (answeredCalls start.messages ++ w.executed host).Sublist (answeredCalls state.evidenceMessages)
  hasHistory : state.hasHistory = true

structure Synced (host : LoopHost) (start : AgentLoopHistory) (state : MutableAgentLoopState) (w : HistoryWorld) :
    Prop where
  saved : HistorySaved host start state.ledger w
  evident : Evident host start state w

variable {start : AgentLoopHistory}

theorem persistAgentLoopHistory_synced {f : Option String × MutableAgentLoopState → LoopProgram β}
    (h : Evident host start state w) (hdirty : state.historyDirty = true)
    (hexec : RunsPatiently host (persistAgentLoopHistory state >>= f) w out w') :
    ∃ state' m, Synced host start state' m ∧ RunsPatiently host (f (none, state')) m out w' := by
  unfold persistAgentLoopHistory at hexec
  rw [if_neg (by rw [h.hasHistory, hdirty]; simp)] at hexec
  obtain ⟨written, m, ⟨⟨hwritten, rfl⟩, -⟩, hnext⟩ := Program.exec_ask.1 hexec
  subst hwritten
  refine ⟨{ state with historyDirty := false },
    { w with
      messages := normalizeHistoryMessages state.evidenceMessages, pending := state.ledger.pendingToolObservations },
    ⟨⟨h.balanced, ?_, rfl⟩, ?_⟩, hnext⟩
  · rw [answeredCalls_normalizeHistoryMessages h.distinct]
    exact h.kept
  · exact ⟨h.balanced, h.wellFormed, h.distinct, h.kept, h.hasHistory⟩

theorem TurnRan.evident {ms : List LlmMessage} {m : HistoryWorld} (h : Evident host start state w)
    (hran : TurnRan host state w ms after m) :
    Evident host start
      { after with
        evidenceMessages := after.evidenceMessages ++ (after.messages.drop state.messages.length).map (·.message)
        historyDirty := after.hasHistory } m := by
  have hnew : (after.messages.drop state.messages.length).map (·.message) = ms := by
    rw [hran.grows.1, List.drop_left]
    exact texts_numberFrom
  obtain ⟨ps, hps, hsub⟩ := hran.executed
  refine ⟨hran.balanced, ?_, ?_, ?_, hran.hasHistory.trans h.hasHistory⟩
  · dsimp only
    rw [hnew, hran.evidence]
    exact h.wellFormed.append hran.wellFormed
  · dsimp only
    rw [hnew, hran.evidence]
    exact h.distinct.append hran.distinct
  · dsimp only
    rw [hnew, hran.evidence, answeredCalls_append h.wellFormed, hps, ← List.append_assoc]
    exact h.kept.append hsub

theorem synchronizeTurn_synced {ms : List LlmMessage} {outcome : TurnOutcome} {m : HistoryWorld}
    {out : Except LoopRejection (Option RunResult × MutableAgentLoopState)} (h : Evident host start state w)
    (hran : TurnRan host state w ms after m)
    (hexec : RunsPatiently host (synchronizeTurn loop after outcome state.messages.length) m out w') :
    ∃ result final, out = .ok (result, final) ∧ Synced host start final w' := by
  unfold synchronizeTurn at hexec
  dsimp only at hexec
  have hdirty : after.hasHistory = true := hran.hasHistory.trans h.hasHistory
  obtain ⟨final, m', hsynced, hexec⟩ := persistAgentLoopHistory_synced (hran.evident h) hdirty hexec
  obtain ⟨failure, hexec⟩ := (checkpointAgentLoopHistory_silent _ _).runs_bind hexec
  cases failure with
  | some failure =>
      obtain ⟨rfl, rfl⟩ := Program.exec_done.1 hexec
      exact ⟨_, _, rfl, hsynced⟩
  | none =>
      cases outcome with
      | result result =>
          obtain ⟨rfl, rfl⟩ := Program.exec_done.1 hexec
          exact ⟨_, _, rfl, hsynced⟩
      | messages =>
          obtain ⟨rfl, rfl⟩ := Program.exec_done.1 hexec
          exact ⟨_, _, rfl, hsynced⟩

theorem Synced.of_state (h : Synced host start state w) (hledger : after.ledger = state.ledger)
    (hevidence : after.evidenceMessages = state.evidenceMessages) (hhistory : after.hasHistory = state.hasHistory) :
    Synced host start after w where
  saved := ⟨h.saved.balanced, h.saved.saved, hledger ▸ h.saved.pending⟩
  evident := ⟨h.evident.balanced, hevidence ▸ h.evident.wellFormed, hevidence ▸ h.evident.distinct,
    hevidence ▸ h.evident.kept, hhistory ▸ h.evident.hasHistory⟩

theorem Synced.asked (h : Synced host start state w) (asked : Bool) : Synced host start state { w with asked } where
  saved := ⟨h.saved.balanced, h.saved.saved, h.saved.pending⟩
  evident := ⟨h.evident.balanced, h.evident.wellFormed, h.evident.distinct, h.evident.kept, h.evident.hasHistory⟩

theorem requestTurnResponse_ran {prepared : PreparedTurn} {f : Except RunResult LlmChatResponse → LoopProgram β}
    (hexec : RunsPatiently loop.host (requestTurnResponse loop state prepared >>= f) w out w') :
    ∃ answer asked, RunsPatiently loop.host (f answer) { w with asked } out w' ∧
      ∀ response, answer = .ok response →
        (response.toolCalls.map (·.id)).Nodup ∧ (response.toolCalls ≠ [] → asked = true) := by
  obtain ⟨answer, m, ⟨rfl, -⟩, hnext⟩ := Program.exec_ask.1 hexec
  have hfailure : ∀ {failure : ChatFailure} {w : HistoryWorld},
      RunsPatiently loop.host ((turnRequestFailure loop state failure >>= fun result => pure (.error result)) >>= f)
        w out w' → ∃ result, RunsPatiently loop.host (f (.error result)) w out w' := by
    intro failure w hfailed
    rw [Program.bind_assoc] at hfailed
    exact (turnRequestFailure_silent _ _ _).runs_bind hfailed
  cases answer with
  | error failure =>
      obtain ⟨result, hresult⟩ := hfailure hnext
      refine ⟨_, _, hresult, ?_⟩
      rintro _ ⟨⟩
  | ok value =>
      dsimp only [Program.bind] at hnext
      cases hresponse : requireLlmResponse loop.host value with
      | error message =>
          rw [hresponse] at hnext
          obtain ⟨result, hresult⟩ := hfailure hnext
          refine ⟨_, _, hresult, ?_⟩
          rintro _ ⟨⟩
      | ok response =>
          rw [hresponse] at hnext
          refine ⟨_, _, hnext, ?_⟩
          rintro _ ⟨⟩
          refine ⟨requireLlmResponse_nodup hresponse, fun hcalls => ?_⟩
          simp only [asksForCalls, hresponse]
          simpa using hcalls

inductive LoopEnds (host : LoopHost) (start : AgentLoopHistory) :
    Except LoopRejection (α × MutableAgentLoopState) → HistoryWorld → Prop where
  | ok {a : α} {state : MutableAgentLoopState} {w : HistoryWorld} (synced : Synced host start state w) :
      LoopEnds host start (.ok (a, state)) w
  | rejected {e : LoopRejection} {w : HistoryWorld} (saved : HistorySaved host start e.state.ledger w) :
      LoopEnds host start (.error e) w

theorem executeAgentTurn_ends {out : Except LoopRejection (Option RunResult × MutableAgentLoopState)}
    (h : Synced loop.host start state w) (hexec : RunsPatiently loop.host (executeAgentTurn loop state) w out w') :
    LoopEnds loop.host start out w' := by
  unfold executeAgentTurn at hexec
  dsimp only at hexec
  obtain ⟨limitResult, hexec⟩ := (checkRunLimits_silent _ _ _ _ _ _).runs_bind hexec
  cases limitResult with
  | some =>
      obtain ⟨rfl, rfl⟩ := Program.exec_done.1 hexec
      exact .ok h
  | none =>
      dsimp only at hexec
      split at hexec
      · obtain ⟨rfl, rfl⟩ := Program.exec_done.1 hexec
        exact .ok h
      · obtain ⟨prepared, hexec⟩ := (prepareTurn_silent _ _).runs_bind hexec
        cases prepared with
        | error =>
            obtain ⟨rfl, rfl⟩ := Program.exec_done.1 hexec
            exact .ok (h.of_state rfl rfl rfl)
        | ok prepared =>
            obtain ⟨limitResult, hexec⟩ := (checkRunLimits_silent _ _ _ _ _ _).runs_bind hexec
            cases limitResult with
            | some =>
                obtain ⟨rfl, rfl⟩ := Program.exec_done.1 hexec
                exact .ok (h.of_state rfl rfl rfl)
            | none =>
                obtain ⟨answer, asked, hexec, hresponse⟩ := requestTurnResponse_ran hexec
                have h := h.asked asked
                cases answer with
                | error =>
                    obtain ⟨rfl, rfl⟩ := Program.exec_done.1 hexec
                    exact .ok (h.of_state rfl rfl rfl)
                | ok response =>
                    obtain ⟨hnodup, hasked⟩ := hresponse response rfl
                    obtain ⟨limitResult, hexec⟩ := (checkRunLimits_silent _ _ _ _ _ _).runs_bind hexec
                    cases limitResult with
                    | some =>
                        obtain ⟨rfl, rfl⟩ := Program.exec_done.1 hexec
                        exact .ok (h.of_state rfl rfl rfl)
                    | none =>
                        rcases Program.exec_bind.1 hexec with ⟨⟨outcome, after⟩, m, hrun, hnext⟩ | ⟨e, hrun, rfl⟩
                        · generalize hok : Except.ok (outcome, after) = processed at hrun
                          cases processTurnResponse_ran h.evident.balanced hnodup hasked hrun with
                          | turn ran =>
                              cases hok
                              have hevident := (h.of_state rfl rfl rfl : Synced loop.host start
                                { state with turns := state.turns + 1, messages := prepared.messages } _).evident
                              obtain ⟨result, final, rfl, hsynced⟩ := synchronizeTurn_synced hevident ran hnext
                              exact .ok hsynced
                          | rejected => cases hok
                        · generalize hok : Except.error e = processed at hrun
                          cases processTurnResponse_ran h.evident.balanced hnodup hasked hrun with
                          | turn => cases hok
                          | rejected ledger =>
                              cases hok
                              exact .rejected ⟨h.saved.balanced, h.saved.saved, by rw [ledger]; exact h.saved.pending⟩

theorem executeAgentLoop_ends {turns : Nat} {out : Except LoopRejection (RunResult × MutableAgentLoopState)}
    (h : Synced host start state w) (hexec : RunsPatiently host (executeAgentLoop loop turns state) w out w')
    (hhost : loop.host = host) : LoopEnds host start out w' := by
  subst hhost
  induction turns generalizing state w with
  | zero =>
      obtain ⟨rfl, rfl⟩ := Program.exec_fail.1 hexec
      exact .rejected h.saved
  | succ turns ih =>
      rcases Program.exec_bind.1 hexec with ⟨⟨result, after⟩, m, hturn, hnext⟩ | ⟨e, hturn, rfl⟩
      · generalize hok : Except.ok (result, after) = ended at hturn
        cases executeAgentTurn_ends h hturn with
        | ok synced =>
            cases hok
            cases result with
            | some result =>
                obtain ⟨rfl, rfl⟩ := Program.exec_done.1 hnext
                exact .ok synced
            | none => exact ih synced hnext
        | rejected => cases hok
      · generalize hok : Except.error e = ended at hturn
        cases executeAgentTurn_ends h hturn with
        | ok => cases hok
        | rejected saved =>
            cases hok
            exact .rejected saved

end Runs

/-! ## A run -/

theorem requirePending_distinct {identities : List (String × String × ContentRef)} {entries : List Json}
    {pending : List ToolObservationRecovery} (h : requirePending identities entries = .ok pending) :
    (pending.map fun r => (r.toolName, r.originalToolCallId, r.outputRef)).Nodup ∧
      ∀ r ∈ pending, (r.toolName, r.originalToolCallId, r.outputRef) ∉ identities := by
  induction entries generalizing identities pending with
  | nil =>
      cases h
      exact ⟨List.nodup_nil, nofun⟩
  | cons entry entries ih =>
      unfold requirePending at h
      split at h
      · cases h
      · rename_i recovery _
        dsimp only at h
        split at h
        · cases h
        · rename_i hnew
          obtain ⟨later, hlater, h⟩ := Outcome.bind_eq_ok.1 h
          cases h
          obtain ⟨hnodup, hout⟩ := ih hlater
          constructor
          · rw [List.map_cons, List.nodup_cons]
            refine ⟨fun hmem => ?_, hnodup⟩
            obtain ⟨r, hr, hsame⟩ := List.mem_map.1 hmem
            exact hout r hr (hsame ▸ List.mem_cons_self)
          · intro r hr
            rcases List.mem_cons.1 hr with rfl | hr
            · exact hnew
            · exact fun hmem => hout r hr (List.mem_cons_of_mem _ hmem)

theorem pendingToolObservations_create {pending : List ToolObservationRecovery}
    (h : (pending.map fun r => (r.toolName, r.originalToolCallId, r.outputRef)).Nodup) :
    (OperationLedger.create pending).pendingToolObservations = pending := by
  have hkeys : (pending.map observationKey).Nodup := by
    have hinjective : Function.Injective fun i : String × String × ContentRef =>
        LedgerKey.observation ("tool:" ++ i.1) i.2.1 i.2.2 := by
      rintro ⟨a, b, c⟩ ⟨a', b', c'⟩ heq
      injection heq with hname hid href
      rw [String.append_right_inj] at hname
      exact Prod.ext hname (Prod.ext hid href)
    have hmap := h.map hinjective
    rw [List.map_map] at hmap
    exact hmap
  have hentries : (OrdMap.ofList (pending.map fun r => (observationKey r, observationFailure r))).entries =
      pending.map fun r => (observationKey r, observationFailure r) :=
    OrdMap.entries_ofList (by simpa [Function.comp_def] using hkeys)
  unfold OperationLedger.pendingToolObservations OperationLedger.create OrdMap.values
  rw [hentries]
  simp [observationFailure, Function.comp_def, List.filterMap_map]

theorem requireAgentLoopHistory_pending {value : Json} {history : AgentLoopHistory}
    (h : requireAgentLoopHistory value = .ok history) :
    (OperationLedger.create history.pendingToolObservations).pendingToolObservations =
      history.pendingToolObservations := by
  unfold requireAgentLoopHistory at h
  split at h
  · obtain ⟨messages, -, h⟩ := Outcome.bind_eq_ok.1 h
    obtain ⟨pending, hpending, h⟩ := Outcome.bind_eq_ok.1 h
    cases h
    unfold requirePendingToolObservations at hpending
    split at hpending
    · exact pendingToolObservations_create (requirePending_distinct hpending).1
    · cases hpending
  · cases h

def startWorld (start : AgentLoopHistory) : HistoryWorld where
  calls := []
  outputs := []
  messages := start.messages
  pending := start.pendingToolObservations
  asked := false

def RunSaved (host : LoopHost) (start : AgentLoopHistory) : Except LoopRejection AgentLoopEnd → HistoryWorld → Prop
  | .ok { state := none, .. }, w => w = startWorld start
  | .ok { state := some state, .. }, w => HistorySaved host start state.ledger w
  | .error e, w => HistorySaved host start e.state.ledger w

section Run

variable {host : LoopHost} {config : AgentLoopConfig} {instruction : String} {value : Json} {start : AgentLoopHistory}

theorem initialState_synced {seed : List LlmMessage} {systemPrompt : String}
    (hpending : (OperationLedger.create start.pendingToolObservations).pendingToolObservations =
      start.pendingToolObservations) (hseed : start.messages ≠ [] → seed = start.messages)
    (hdistinct : DistinctCalls seed) :
    Synced host start
      (initialState seed systemPrompt instruction (.create start.pendingToolObservations) true) (startWorld start) := by
  have hstand : ∀ m : LlmMessage, (!m.isSystem || isCompactionMarker m) = false → m.isTool = false ∧ m.toolCalls = [] := by
    intro m hm
    rw [Bool.or_eq_false_iff, Bool.not_eq_false'] at hm
    exact single_of_isSystem hm.1
  have hnormalized : WellFormed (normalizeHistoryMessages seed) := normalizeFrom_wellFormed 0 false seed
  have hwell := hnormalized.filter hstand
  refine ⟨⟨rfl, ?_, hpending.symm⟩, rfl, ?_, ?_, ?_, rfl⟩
  · simp [HistoryWorld.executed, startWorld]
  · exact (WellFormed.single (m := .system systemPrompt) rfl rfl hwell).append (.single rfl rfl .nil)
  · have hprompt : DistinctCalls [.system systemPrompt] := .singleton List.nodup_nil
    have hgoal : DistinctCalls [.user instruction] := .singleton List.nodup_nil
    apply (hprompt.append _).append hgoal
    exact (normalizeFrom_distinct 0 false seed).of_mem fun m hm => (List.mem_filter.1 hm).1
  · have hcalls : answeredCalls (initializeMessages seed systemPrompt ++ [LlmMessage.user instruction]) =
        answeredCalls seed := by
      rw [initializeMessages, List.cons_append, answeredCalls_cons rfl, answeredCalls_append hwell,
        answeredCalls_filter hnormalized hstand, answeredCalls_normalizeHistoryMessages hdistinct]
      exact List.append_nil _
    change (answeredCalls start.messages ++ []).Sublist
      (answeredCalls (initializeMessages seed systemPrompt ++ [LlmMessage.user instruction]))
    rw [hcalls, List.append_nil]
    by_cases hempty : start.messages = []
    · rw [hempty]
      exact List.nil_sublist _
    · rw [hseed hempty]

theorem initializeAgentLoopState_ran {β : Type} {f : Except RunResult MutableAgentLoopState → LoopProgram β}
    {w w' : HistoryWorld} {out : Except LoopRejection β} (hhistory : config.history = some value)
    (haccepted : requireAgentLoopHistory value = .ok start)
    (hexec : RunsPatiently host (initializeAgentLoopState config instruction >>= f) w out w') :
    ∃ x, RunsPatiently host (f x) w out w' ∧ ∀ state, x = .ok state →
      Synced host start state (startWorld start) := by
  unfold initializeAgentLoopState at hexec
  dsimp only at hexec
  rw [hhistory] at hexec
  dsimp only at hexec
  rw [haccepted] at hexec
  dsimp only at hexec
  have hasked : Silent (Program.request (LoopRequest.checkHistoryTarget) :
      LoopProgram (Except String Unit)) := ⟨rfl, fun _ => trivial⟩
  rw [Program.bind_assoc] at hexec
  obtain ⟨target, hexec⟩ := hasked.runs_bind hexec
  cases target with
  | error => exact ⟨_, hexec, nofun⟩
  | ok =>
      refine ⟨_, hexec, fun state hstate => ?_⟩
      split at hstate
      · cases hstate
      · rename_i initialMessages hinitial
        cases hstate
        apply initialState_synced (requireAgentLoopHistory_pending haccepted)
        · exact fun hne => if_pos hne
        · split
          · exact requireAgentLoopHistory_distinct haccepted
          · exact requireHistoryMessages_distinct hinitial

/-- With a question handler that rejects no question about an answer with calls, a run leaves every executed call in
the caller's history, however it settles. -/
theorem executed_calls_saved {out : Except LoopRejection AgentLoopEnd} {w : HistoryWorld}
    (hhistory : config.history = some value) (haccepted : requireAgentLoopHistory value = .ok start)
    (hexec : RunsPatiently host (runAgentLoop host config instruction) (startWorld start) out w) :
    RunSaved host start out w := by
  unfold runAgentLoop at hexec
  obtain ⟨⟨aborted, startTime⟩, hexec⟩ := clock_silent.runs_bind hexec
  dsimp only at hexec
  split at hexec
  · obtain ⟨rfl, rfl⟩ := Program.exec_done.1 hexec
    rfl
  · obtain ⟨x, hexec, hstart⟩ := initializeAgentLoopState_ran hhistory haccepted hexec
    cases x with
    | error failure =>
        obtain ⟨rfl, rfl⟩ := Program.exec_done.1 hexec
        rfl
    | ok state =>
        have hcontract : Silent (Program.request (LoopRequest.compileContract instruction) :
            LoopProgram (Except String Unit)) := ⟨rfl, fun _ => trivial⟩
        obtain ⟨contract, hexec⟩ := hcontract.runs_bind hexec
        rcases Program.exec_bind.1 hexec with ⟨⟨result, after⟩, m, hloop, hnext⟩ | ⟨e, hloop, rfl⟩
        · generalize hok : Except.ok (result, after) = ended at hloop
          cases executeAgentLoop_ends (hstart state rfl) hloop rfl with
          | ok synced =>
              cases hok
              dsimp only at hnext
              split at hnext
              · rename_i hdirty
                obtain ⟨final, m', hsynced, hnext⟩ := persistAgentLoopHistory_synced synced.evident hdirty.2 hnext
                obtain ⟨rfl, rfl⟩ := Program.exec_done.1 hnext
                exact hsynced.saved
              · obtain ⟨rfl, rfl⟩ := Program.exec_done.1 hnext
                exact synced.saved
          | rejected => cases hok
        · generalize hok : Except.error e = ended at hloop
          cases executeAgentLoop_ends (hstart state rfl) hloop rfl with
          | ok => cases hok
          | rejected saved =>
              cases hok
              exact saved

end Run

/-! ## Payments -/

def paymentRef : ContentRef := "sha256:0000000000000000000000000000000000000000000000000000000000000000"

def askingConfig : AgentLoopConfig where
  systemPrompt := "You pay bills."
  history := some (.obj [("messages", .arr []), ("pendingToolObservations", .arr [])])
  onAskUser := true

def emptyHistory : AgentLoopHistory where
  messages := []
  pendingToolObservations := []

def answerPaying (w : HistoryWorld) : (r : LoopRequest) → Option (r.Response × HistoryWorld)
  | .clock => some ((false, 0), w)
  | .checkHistoryTarget => some (.ok (), w)
  | .compileContract _ => some (.ok (), w)
  | .perceive => some (.ok (some (.obj [("worldSummary", .str ""), ("recentObservations", .str "")])), w)
  | .availableActions => some (.ok (some (.arr [])), w)
  | .chat _ _ =>
      let answer : Except ChatFailure (Option Json) :=
        if w.calls = [] then
          .ok (some (.obj
            [("toolCalls", .arr [.obj [("id", .str "c1"), ("name", .str "tool:pay"), ("arguments", .obj [])]]),
              ("finishReason", .str "tool_calls")]))
        else .error .aborted
      some (answer, { w with asked := asksForCalls plainLoopHost answer })
  | .emit (.toolStart _ toolCall) => some ((), { w with calls := w.calls ++ [toolCall] })
  | .emit (.toolEnd _ _ _ _ output) => some ((), { w with outputs := w.outputs ++ [output] })
  | .useTool _ =>
      some (.ok (some (.obj [("ok", .bool true), ("output", .str "paid"), ("contentRef", .str paymentRef)])), w)
  | .writeHistory messages pending => some (.ok (), { w with messages, pending })
  | _ => none

theorem answerPaying_serves {w : HistoryWorld} {r : LoopRequest} {answered : r.Response × HistoryWorld}
    (h : answerPaying w r = some answered) :
    Serves plainLoopHost w r answered.1 answered.2 ∧ Patient w r answered.1 := by
  cases r with
  | emit event =>
      cases event with
      | toolStart =>
          cases h
          exact ⟨rfl, trivial⟩
      | toolEnd =>
          cases h
          exact ⟨rfl, trivial⟩
  | writeHistory messages pending =>
      cases h
      exact ⟨⟨rfl, rfl⟩, trivial⟩
  | chat _ _ | clock | checkHistoryTarget | compileContract _ | perceive | availableActions | useTool _ =>
      cases h
      exact ⟨rfl, trivial⟩
  | _ => cases h

theorem executed_calls_saved_payment :
    ∃ out w, w.executed plainLoopHost = [({ id := "c1", name := "tool:pay", arguments := "null" }, "paid")] ∧
      RunSaved plainLoopHost emptyHistory out w := by
  have hpaid : ((runAgentLoop plainLoopHost askingConfig "Pay the bill.").eval? answerPaying (startWorld emptyHistory)).any
      (fun p => p.2.executed plainLoopHost = [({ id := "c1", name := "tool:pay", arguments := "null" }, "paid")]) = true := by
    decide +kernel
  obtain ⟨⟨out, w⟩, heval, hexecuted⟩ := (Option.any_eq_true _ _).1 hpaid
  have hexec : RunsPatiently plainLoopHost (runAgentLoop plainLoopHost askingConfig "Pay the bill.") (startWorld emptyHistory)
      out w := Program.exec_of_eval? (fun _ _ _ hanswer => answerPaying_serves hanswer) heval
  exact ⟨out, w, of_decide_eq_true hexecuted, executed_calls_saved rfl rfl hexec⟩

/-! ## A rejected question -/

def paymentAnswer : Json :=
  .obj
    [("toolCalls", .arr
        [.obj [("id", .str "c1"), ("name", .str "tool:pay"), ("arguments", .obj [])],
          .obj [("id", .str "c2"), ("name", .str "done"), ("arguments", .obj [("summary", .str "paid")])]]),
      ("finishReason", .str "tool_calls")]

def paymentResponse : LlmChatResponse where
  text := none
  toolCalls :=
    [{ id := "c1", name := "tool:pay", arguments := .obj [] },
      { id := "c2", name := "done", arguments := .obj [("summary", .str "paid")] }]
  finishReason := .toolCalls

def answerRejecting (w : HistoryWorld) : (r : LoopRequest) → Option (r.Response × HistoryWorld)
  | .clock => some ((false, 0), w)
  | .checkHistoryTarget => some (.ok (), w)
  | .compileContract _ => some (.ok (), w)
  | .perceive => some (.ok (some (.obj [("worldSummary", .str ""), ("recentObservations", .str "")])), w)
  | .availableActions => some (.ok (some (.arr [])), w)
  | .chat _ _ => some (.ok (some paymentAnswer), { w with asked := true })
  | .emit (.toolStart _ toolCall) => some ((), { w with calls := w.calls ++ [toolCall] })
  | .emit (.toolEnd _ _ _ _ output) => some ((), { w with outputs := w.outputs ++ [output] })
  | .useTool _ =>
      some (.ok (some (.obj [("ok", .bool true), ("output", .str "paid"), ("contentRef", .str paymentRef)])), w)
  | .evaluateTurn _ =>
      some (.ok (.askUser
        { H := 0, C := 0, U := 0, VOC_star := 0, residual := [], criterionEvals := [], decisionChain := [] }
        "Did the payment arrive?"), w)
  | .askUser _ => some (.error "closed", w)
  | _ => none

def paymentState : MutableAgentLoopState :=
  initialState [] askingConfig.systemPrompt "Pay the bill." (.create []) true

def paymentContext : AgentLoopExecutionContext where
  host := plainLoopHost
  config := askingConfig
  limits := { maxTurns := 100, maxTimeMs := 600000, maxContext := 40, perTurnTimeout := 120000 }
  startTime := 0
  goalMessage := goalMessageOf paymentState "Pay the bill."

def paymentWindow : List MessageObject :=
  compactMessages paymentState.messages (contextBudget 40) paymentContext.goalMessage

def preparedPayment : PreparedTurn where
  messages := paymentWindow
  messagesForLlm := paymentWindow ++
    [{ identity := WINDOW_IDENTITY
       message := .system (buildContextMessage { worldSummary := "", recentObservations := "" }) }]
  actions := []

theorem requireLlmResponse_payment : requireLlmResponse plainLoopHost (some paymentAnswer) = .ok paymentResponse := by
  have hsummary : fromEntries [("summary", .str "paid")] = .obj [("summary", .str "paid")] := by
    have hindex : arrayIndex? "summary" = none := arrayIndex?_of_nondigit (c := 's') (by decide) (by decide)
    have hmembers : (OrdMap.ofList [("summary", Json.str "paid")]).entries = [("summary", .str "paid")] := rfl
    simp only [fromEntries, hmembers]
    simp [hindex]
  have harguments : canonicalJson plainLoopHost.argumentHost.localeCompare (.obj [("summary", .str "paid")]) =
      .obj [("summary", .str "paid")] := hsummary
  have hraw : requireLlmResponse plainLoopHost (some paymentAnswer) = .ok
      { paymentResponse with
        toolCalls :=
          [{ id := "c1", name := "tool:pay", arguments := .obj [] },
            { id := "c2", name := "done"
              arguments := canonicalJson plainLoopHost.argumentHost.localeCompare (.obj [("summary", .str "paid")]) }] } := rfl
  rw [hraw, harguments]
  rfl

theorem paymentAnswer_serves {w : HistoryWorld} {r : LoopRequest} {answered : r.Response × HistoryWorld}
    (h : answerRejecting w r = some answered) : Serves plainLoopHost w r answered.1 answered.2 := by
  cases r with
  | chat messages actions =>
      cases h
      have hasked : asksForCalls plainLoopHost (.ok (some paymentAnswer)) = true := by
        simp only [asksForCalls, requireLlmResponse_payment]
        rfl
      change _ = { w with asked := asksForCalls plainLoopHost (.ok (some paymentAnswer)) }
      rw [hasked]
  | emit event =>
      cases event with
      | toolStart =>
          cases h
          rfl
      | toolEnd =>
          cases h
          rfl
  | clock | checkHistoryTarget | compileContract _ | perceive | availableActions | useTool _ | evaluateTurn _
  | askUser _ =>
      cases h
      rfl
  | _ => cases h

theorem prepareTurn_payment (w : HistoryWorld) :
    (prepareTurn paymentContext { paymentState with turns := 1 }).eval? answerRejecting w =
      some (.ok (.ok preparedPayment), w) := by
  rfl

theorem executed_of_runSaved {host : LoopHost} {out : Except LoopRejection AgentLoopEnd} {w : HistoryWorld}
    (h : RunSaved host emptyHistory out w) (hempty : w.messages = []) :
    w.executed host = [] := by
  have hnone : ∀ {ledger : OperationLedger},
      HistorySaved host emptyHistory ledger w → w.executed host = [] := by
    intro ledger hsaved
    have hsub := hsaved.saved
    rw [hempty] at hsub
    exact List.sublist_nil.1 hsub
  rcases out with e | ⟨result, state⟩
  · exact hnone h
  · cases state with
    | none =>
        cases h
        rfl
    | some state => exact hnone h

theorem checkRunLimits_payment (s : ToolExecutionState) (w : HistoryWorld) :
    (checkRunLimits plainLoopHost 600000 100 0 0 s).eval? answerRejecting w = some (.ok none, w) := by
  have htime : ¬ (0 : ℚ) - 0 ≥ 600000 := by norm_num
  have hturns : ¬ 0 ≥ 100 := by omega
  simp only [checkRunLimits, LoopProgram.clock, Program.request, Program.bind_eq, Program.bind, Program.eval?,
    answerRejecting, Option.bind_some, Bool.false_eq_true, if_false, if_neg htime, if_neg hturns]
  rfl

theorem requestTurnResponse_payment (state : MutableAgentLoopState) (w : HistoryWorld) :
    Program.Exec (Serves plainLoopHost) (requestTurnResponse paymentContext state preparedPayment) w
      (.ok (.ok paymentResponse)) { w with asked := true } := by
  refine Program.exec_ask.2 ⟨.ok (some paymentAnswer), { w with asked := true }, ?_, ?_⟩
  · exact @paymentAnswer_serves w (.chat preparedPayment.messagesForLlm preparedPayment.actions) _ rfl
  · have hresponse : requireLlmResponse paymentContext.host (some paymentAnswer) = .ok paymentResponse :=
      requireLlmResponse_payment
    simp only [Program.bind, hresponse]
    exact .done _ _

theorem processTurnResponse_payment :
    ∃ e w, Program.Exec (Serves plainLoopHost)
        (processTurnResponse paymentContext { paymentState with turns := 1, messages := paymentWindow } paymentResponse)
        { startWorld emptyHistory with asked := true } (.error e) w ∧
      w.messages = [] ∧ w.executed plainLoopHost ≠ [] := by
  have hlost : ((processTurnResponse paymentContext { paymentState with turns := 1, messages := paymentWindow }
      paymentResponse).eval? answerRejecting { startWorld emptyHistory with asked := true }).any (fun p =>
        p.1.toOption.isNone && p.2.messages.isEmpty && !(p.2.executed plainLoopHost).isEmpty) = true := by decide +kernel
  obtain ⟨⟨out, w⟩, heval, hend⟩ := (Option.any_eq_true _ _).1 hlost
  simp only [Bool.and_eq_true, List.isEmpty_iff, Bool.not_eq_true', List.isEmpty_eq_false_iff] at hend
  have hexec := Program.exec_of_eval? (fun _ _ _ hanswer => paymentAnswer_serves hanswer) heval
  cases out with
  | error e => exact ⟨e, w, hexec, hend.1.2, hend.2⟩
  | ok => exact absurd hend.1.1 (by simp [Except.toOption])

theorem runAgentLoop_payment :
    ∃ e w, Program.Exec (Serves plainLoopHost) (runAgentLoop plainLoopHost askingConfig "Pay the bill.")
        (startWorld emptyHistory) (.error e) w ∧ w.messages = [] ∧ w.executed plainLoopHost ≠ [] := by
  obtain ⟨e, w, hprocess, hempty, hexecuted⟩ := processTurnResponse_payment
  refine ⟨e, w, ?_, hempty, hexecuted⟩
  have heval : ∀ {α : Type} {p : LoopProgram α} {w w' : HistoryWorld} {out : Except LoopRejection α},
      p.eval? answerRejecting w = some (out, w') → Program.Exec (Serves plainLoopHost) p w out w' :=
    fun h => Program.exec_of_eval? (fun _ _ _ hanswer => paymentAnswer_serves hanswer) h
  have hturn : Program.Exec (Serves plainLoopHost) (executeAgentTurn paymentContext paymentState)
      (startWorld emptyHistory) (.error e) w := by
    refine Program.exec_bind.2 (.inl ⟨none, _, heval (checkRunLimits_payment _ _), ?_⟩)
    refine Program.exec_bind.2 (.inl ⟨.ok preparedPayment, _, heval (prepareTurn_payment _), ?_⟩)
    refine Program.exec_bind.2 (.inl ⟨none, _, heval (checkRunLimits_payment _ _), ?_⟩)
    refine Program.exec_bind.2 (.inl ⟨.ok paymentResponse, _, requestTurnResponse_payment _ _, ?_⟩)
    refine Program.exec_bind.2 (.inl ⟨none, _, heval (checkRunLimits_payment _ _), ?_⟩)
    exact Program.exec_bind.2 (.inr ⟨e, hprocess, rfl⟩)
  have hloop : Program.Exec (Serves plainLoopHost) (executeAgentLoop paymentContext 101 paymentState)
      (startWorld emptyHistory) (.error e) w := Program.exec_bind.2 (.inr ⟨e, hturn, rfl⟩)
  refine Program.exec_bind.2 (.inl ⟨(false, 0), startWorld emptyHistory, heval rfl, ?_⟩)
  refine Program.exec_bind.2 (.inl ⟨.ok paymentState, startWorld emptyHistory, heval rfl, ?_⟩)
  refine Program.exec_bind.2 (.inl ⟨.ok (), startWorld emptyHistory, heval rfl, ?_⟩)
  exact Program.exec_bind.2 (.inr ⟨e, hloop, rfl⟩)

theorem executed_calls_not_saved :
    ¬ ∀ host config instruction value start out w, config.history = some value →
      requireAgentLoopHistory value = .ok start →
      Program.Exec (Serves host) (runAgentLoop host config instruction) (startWorld start) out w →
        RunSaved host start out w := by
  intro hclaim
  obtain ⟨e, w, hexec, hempty, hexecuted⟩ := runAgentLoop_payment
  have hsaved := hclaim _ _ _ _ emptyHistory _ _ rfl rfl hexec
  exact hexecuted (executed_of_runSaved hsaved hempty)

end Cantilune.AgentLoop
