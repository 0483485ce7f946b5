import Cantilune.Theorems.AgentRequests

/-!
# What a run of the agent reports

However a run ends, it has asked the model no more often than it may, and its result says how often that was, up to
the turn under way, and what became of its tool calls. It is a success only where no failure is left unresolved.
-/

namespace Cantilune.AgentLoop

variable {ctx : AgentLoopExecutionContext} {state after : MutableAgentLoopState} {s t : ToolExecutionState}
  {result : RunResult} {turns chats : Nat}

/-- The result tells the tallies of the ledger and the turns, perhaps without the last of them. -/
structure Reports (turns : Nat) (s : ToolExecutionState) (result : RunResult) : Prop where
  operations : result.operations = s.ledger.operationTally
  toolCalls : result.toolCalls = s.ledger.toolTally
  resolved : result.ok = true → s.ledger.unresolvedCount = 0
  begun : result.turns ≤ turns
  last : turns ≤ result.turns + 1

theorem reports_failure {summary : String} {reason : TerminationReason} {error : Option RunError} {told : Nat}
    (h : told ≤ turns) (h' : turns ≤ told + 1) : Reports turns s (mkResult false summary told s reason error) :=
  ⟨rfl, rfl, fun hok => absurd hok Bool.false_ne_true, h, h'⟩

theorem reports_now {summary : String} {reason : TerminationReason} {error : Option RunError} :
    Reports turns s (mkResult false summary turns s reason error) :=
  reports_failure (Nat.le_refl _) (Nat.le_succ _)

theorem reports_settleRun (ok : Bool) (summary : String) (reason : TerminationReason) :
    Reports turns s (settleRun ok summary turns s reason) := by
  unfold settleRun
  split
  · rename_i h
    refine ⟨rfl, rfl, fun hok => ?_, Nat.le_refl _, Nat.le_succ _⟩
    rcases h with h | h
    · rw [h] at hok
      cases hok
    · exact h
  · exact reports_now

/-- The failure, if there is one, is a report of the state. -/
def Told (state : MutableAgentLoopState) : Option RunResult → Prop
  | some failure => Reports state.turns state.toToolExecutionState failure
  | none => True

def Refused {α : Type} (state : MutableAgentLoopState) : Except RunResult α → Prop
  | .error failure => Reports state.turns state.toToolExecutionState failure
  | .ok _ => True

/-! ## Parts that do not ask the model -/

abbrev Leaves {α : Type} (p : LoopProgram α) (post : α → Prop) : Prop :=
  Yields (fun r => r.isChat = false) p post

theorem leaves_request {α : Type} {r : LoopRequest} {f : r.Response → LoopProgram α} {post : α → Prop}
    (hr : r.isChat = false) (hf : ∀ resp, Leaves (f resp) post) : Leaves (Program.request r >>= f) post :=
  yields_request_bind hr hf

def WithinLimits (maxTurns turns : Nat) (s : ToolExecutionState) : Option RunResult → Prop
  | some result => ∃ summary reason, result = mkResult false summary turns s reason
  | none => turns < maxTurns

theorem checkRunLimits_leaves {host : LoopHost} {maxTimeMs startTime : ℚ} {maxTurns : Nat} :
    Leaves (checkRunLimits host maxTimeMs maxTurns turns startTime s) (WithinLimits maxTurns turns s) := by
  apply leaves_request rfl
  rintro ⟨aborted, now⟩
  dsimp only
  split
  · exact ⟨_, _, rfl⟩
  · split
    · exact ⟨_, _, rfl⟩
    · split
      · exact ⟨_, _, rfl⟩
      · rename_i hroom
        exact Nat.lt_of_not_le hroom

theorem turnRequestFailure_leaves (failure : ChatFailure) :
    Leaves (turnRequestFailure ctx state failure) (Reports state.turns state.toToolExecutionState) := by
  unfold turnRequestFailure
  cases failure with
  | aborted => exact reports_now
  | timedOut message => exact reports_now
  | failed message =>
      apply leaves_request rfl
      rintro ⟨aborted, now⟩
      dsimp only
      split
      · exact reports_now
      · exact reports_now

theorem prepareTurn_leaves : Leaves (prepareTurn ctx state) (Refused state) := by
  unfold prepareTurn
  apply Program.AsksIf.after ((callBeforeTurn_silent ctx state).asks fun _ h => h)
  intro hook
  cases hook with
  | error message => exact reports_now
  | ok =>
      apply leaves_request rfl
      intro perceived
      split
      · exact reports_now
      · apply leaves_request rfl
        intro available
        split
        · exact reports_now
        · trivial

theorem evaluateController_leaves (llmDoneSignal : Bool) :
    Leaves (evaluateController state llmDoneSignal) (Refused state) := by
  unfold evaluateController
  apply leaves_request rfl
  intro perceived
  split
  · exact reports_now
  · apply leaves_request rfl
    intro available
    apply leaves_request rfl
    intro verdict
    cases verdict with
    | error => exact reports_now
    | ok => trivial

/-- A call that ends the run ends it as a failure of the turn; its tallies are told anew. -/
def EndsCalls (turns : Nat) : ToolRunOutcome × ToolExecutionState → Prop
  | (.terminal result, _) => result.ok = false ∧ result.turns = turns
  | _ => True

theorem executeOneToolCall_leaves {tools : ToolExecutionContext} {toolCall : LlmToolCallResult} {isLast : Bool} :
    Leaves (executeOneToolCall tools s toolCall isLast) (EndsCalls tools.turns) := by
  have hanswer : ∀ {u ok output}, Leaves (answerCall tools u toolCall ok output) fun _ => True := fun {u _ _} =>
    (answerCall_yields (s := u) (fun _ h => h) _ _).mono fun _ _ => trivial
  unfold executeOneToolCall
  apply checkRunLimits_leaves.bind
  intro limitResult hlimits
  cases limitResult with
  | some limitResult =>
      obtain ⟨summary, reason, rfl⟩ := hlimits
      exact ⟨rfl, rfl⟩
  | none =>
      apply leaves_request rfl
      intro _
      apply Program.AsksIf.after ((dispatchToolCall_silent _ _ _).asks fun _ h => h)
      intro dispatched
      cases dispatched with
      | error message => exact hanswer.bind fun _ _ => ⟨rfl, rfl⟩
      | ok dispatched =>
          dsimp only
          split
          · unfold processDoneDispatch
            split
            · exact hanswer.bind fun _ _ => ⟨rfl, rfl⟩
            · split
              · exact hanswer.bind fun _ _ => trivial
              · exact hanswer.bind fun _ _ => trivial
          · refine hanswer.bind fun _ _ => ?_
            split
            · exact ⟨rfl, rfl⟩
            · trivial

def EndsGroup (turns : Nat) : ToolRunOutcome × ToolExecutionState → Prop
  | (.terminal result, t) => Reports turns t result
  | _ => True

theorem executeCallsFrom_leaves {tools : ToolExecutionContext} {calls rest : List LlmToolCallResult} {start : Nat} :
    Leaves (executeCallsFrom tools calls start rest s) (EndsGroup tools.turns) := by
  induction rest generalizing s with
  | nil => trivial
  | cons toolCall rest ih =>
      refine executeOneToolCall_leaves.bind ?_
      rintro ⟨outcome, u⟩ hends
      cases outcome with
      | next => exact ih
      | doneSignaled summary => trivial
      | terminal result =>
          obtain ⟨hok, hturns⟩ := hends
          refine ⟨rfl, rfl, fun h => ?_, hturns.le, hturns ▸ Nat.le_succ _⟩
          exact absurd (hok.symm.trans h) Bool.false_ne_true

/-! ## A turn -/

def Settles (turns : Nat) : TurnOutcome × MutableAgentLoopState → Prop
  | (.result result, after) => after.turns = turns ∧ Reports turns after.toToolExecutionState result
  | (.messages, after) => after.turns = turns

theorem judgeTurn_leaves {response : LlmChatResponse} {llmDoneSignal : Bool} {doneSummary : Option String}
    (hturns : state.turns = turns) :
    Leaves (judgeTurn ctx state response llmDoneSignal doneSummary) (Settles turns) := by
  subst hturns
  refine (evaluateController_leaves llmDoneSignal).bind fun verdict hverdict => ?_
  cases verdict with
  | error failure => exact ⟨rfl, hverdict⟩
  | ok verdict =>
      cases verdict with
      | done => exact ⟨rfl, reports_settleRun _ _ _⟩
      | stalled => exact ⟨rfl, reports_settleRun _ _ _⟩
      | askUser =>
          dsimp only [dispatchControlVerdict]
          split
          · exact ⟨rfl, reports_settleRun _ _ _⟩
          · apply leaves_request rfl
            intro answer
            cases answer with
            | error => trivial
            | ok answer => exact rfl
      | _ => exact rfl

theorem processTurnResponse_leaves {response : LlmChatResponse} :
    Leaves (processTurnResponse ctx state response) (Settles state.turns) := by
  unfold processTurnResponse
  apply leaves_request rfl
  rintro ⟨aborted, now⟩
  dsimp only
  split
  · have hturns : (pushFinalText state response).turns = state.turns := by
      unfold pushFinalText
      split <;> rfl
    exact ⟨hturns, reports_settleRun _ _ _⟩
  · split
    · exact judgeTurn_leaves rfl
    · refine executeCallsFrom_leaves.bind ?_
      rintro ⟨outcome, u⟩ hends
      cases outcome with
      | terminal result => exact ⟨rfl, hends⟩
      | next => exact rfl
      | doneSignaled =>
          dsimp only
          exact judgeTurn_leaves rfl

theorem persistAgentLoopHistory_leaves : Leaves (persistAgentLoopHistory state) fun p =>
    p.2.turns = state.turns ∧ p.2.toToolExecutionState = state.toToolExecutionState := by
  unfold persistAgentLoopHistory
  split
  · exact ⟨rfl, rfl⟩
  · apply leaves_request rfl
    intro written
    cases written with
    | ok => exact ⟨rfl, rfl⟩
    | error => exact ⟨rfl, rfl⟩

/-- A turn asks the model at most once, and a turn that another one follows asks it just once. -/
def TurnEnds (max begun : Nat) : Option RunResult × MutableAgentLoopState → Nat → Prop
  | (some result, after), chats => after.turns ≤ max ∧ chats ≤ after.turns ∧ after.turns ≤ chats + 1 ∧
      Reports after.turns after.toToolExecutionState result
  | (none, after), chats => after.turns ≤ max ∧ after.turns = begun + 1 ∧ chats = after.turns

def countsChats (chats : Nat) (r : LoopRequest) (_ : r.Response) (after : Nat) : Prop :=
  after = if r.isChat then chats + 1 else chats

abbrev Counted {α : Type} (max : Nat) (p : LoopProgram α) (chats : Nat) (post : α → Nat → Prop) : Prop :=
  p.Ensures countsChats (fun _ after => after ≤ max) post chats

theorem Yields.counted {α β : Type} {max : Nat} {p : LoopProgram α} {mid : α → Prop} {f : α → LoopProgram β}
    {post : β → Nat → Prop} (h : Leaves p mid) (hchats : chats ≤ max) (hf : ∀ a, mid a → Counted max (f a) chats post) :
    Counted max (p >>= f) chats post := by
  have hp : Counted max p chats fun a after => after = chats ∧ mid a := by
    refine Program.AsksIf.ensures h ?_ fun _ => hchats
    intro r resp after hr hact
    rw [countsChats, hr] at hact
    exact hact
  apply hp.bind
  rintro a after ⟨rfl, ha⟩
  exact hf a ha

theorem ensureLatestToolGroupFitsContext_told : Told state (ensureLatestToolGroupFitsContext ctx state) := by
  unfold ensureLatestToolGroupFitsContext
  split
  · trivial
  · dsimp only
    split
    · trivial
    · exact reports_now

theorem checkpointAgentLoopHistory_leaves : Leaves (checkpointAgentLoopHistory ctx state) (Told state) := by
  unfold checkpointAgentLoopHistory
  split
  · trivial
  · apply leaves_request rfl
    intro answer
    cases answer with
    | ok => trivial
    | error => exact reports_now

theorem synchronizeTurn_counted {outcome : TurnOutcome} {count begun : Nat} (hmax : after.turns ≤ ctx.limits.maxTurns)
    (hsettles : Settles (begun + 1) (outcome, after)) :
    Counted ctx.limits.maxTurns (synchronizeTurn ctx after outcome count) after.turns
      (TurnEnds ctx.limits.maxTurns begun) := by
  unfold synchronizeTurn
  apply Yields.counted persistAgentLoopHistory_leaves hmax
  rintro ⟨persistenceError, state⟩ ⟨hstate, htools⟩
  dsimp only at hstate htools
  rw [← hstate] at hmax ⊢
  have hresult : ∀ result, Reports state.turns state.toToolExecutionState result →
      TurnEnds ctx.limits.maxTurns begun (some result, state) state.turns := fun result h =>
    ⟨hmax, Nat.le_refl _, Nat.le_succ _, h⟩
  cases persistenceError with
  | some message => exact hresult _ reports_now
  | none =>
      apply Yields.counted checkpointAgentLoopHistory_leaves hmax
      intro checkpoint hfailure
      cases checkpoint with
      | some failure => exact hresult _ hfailure
      | none =>
          cases outcome with
          | result result =>
              apply hresult
              rw [hstate, htools, hsettles.1]
              exact hsettles.2
          | messages =>
              dsimp only
              have hfits := @ensureLatestToolGroupFitsContext_told ctx state
              cases hfailure : ensureLatestToolGroupFitsContext ctx state with
              | some failure =>
                  rw [hfailure] at hfits
                  exact hresult _ hfits
              | none => exact ⟨hmax, hstate.trans hsettles, rfl⟩

theorem requestTurnResponse_counted {prepared : PreparedTurn} (hroom : chats < ctx.limits.maxTurns) :
    Counted ctx.limits.maxTurns (requestTurnResponse ctx state prepared) chats fun x after =>
      after = chats + 1 ∧ Refused state x := by
  intro answer after hact
  obtain rfl : after = chats + 1 := hact
  have hfailure : ∀ failure, Counted ctx.limits.maxTurns
      (turnRequestFailure ctx state failure >>= fun result => pure (.error result)) (chats + 1)
      fun (x : Except RunResult LlmChatResponse) after => after = chats + 1 ∧ Refused state x := fun failure =>
    Yields.counted (turnRequestFailure_leaves failure) hroom fun result hresult => ⟨rfl, hresult⟩
  cases answer with
  | error failure => exact hfailure failure
  | ok value =>
      dsimp only [Program.bind]
      cases requireLlmResponse ctx.host value with
      | error message => exact hfailure _
      | ok response => exact ⟨rfl, trivial⟩

theorem executeAgentTurn_counted (hmax : state.turns ≤ ctx.limits.maxTurns) :
    Counted ctx.limits.maxTurns (executeAgentTurn ctx state) state.turns
      (TurnEnds ctx.limits.maxTurns state.turns) := by
  unfold executeAgentTurn
  apply Yields.counted checkRunLimits_leaves hmax
  intro limitResult hlimit
  cases limitResult with
  | some limitResult =>
      obtain ⟨summary, reason, rfl⟩ := hlimit
      exact ⟨hmax, Nat.le_refl _, Nat.le_succ _, reports_now⟩
  | none =>
      have hroom : state.turns + 1 ≤ ctx.limits.maxTurns := hlimit
      have hfits := @ensureLatestToolGroupFitsContext_told ctx state
      cases hfailure : ensureLatestToolGroupFitsContext ctx state with
      | some failure =>
          rw [hfailure] at hfits
          exact ⟨hmax, Nat.le_refl _, Nat.le_succ _, hfits⟩
      | none =>
          apply Yields.counted prepareTurn_leaves hmax
          intro prepared hprepared
          cases prepared with
          | error failure => exact ⟨hroom, Nat.le_succ _, Nat.le_refl _, hprepared⟩
          | ok prepared =>
              apply Yields.counted checkRunLimits_leaves hmax
              intro limitResult hlimit
              cases limitResult with
              | some limitResult =>
                  obtain ⟨summary, reason, rfl⟩ := hlimit
                  exact ⟨hroom, Nat.le_succ _, Nat.le_refl _, reports_failure (Nat.le_succ _) (Nat.le_refl _)⟩
              | none =>
                  refine (requestTurnResponse_counted hroom).bind ?_
                  rintro response _ ⟨rfl, hresponse⟩
                  cases response with
                  | error failure => exact ⟨hroom, Nat.le_refl _, Nat.le_succ _, hresponse⟩
                  | ok response =>
                      apply Yields.counted checkRunLimits_leaves hroom
                      intro limitResult hlimit
                      cases limitResult with
                      | some limitResult =>
                          obtain ⟨summary, reason, rfl⟩ := hlimit
                          exact ⟨hroom, Nat.le_refl _, Nat.le_succ _,
                            reports_failure (Nat.le_succ _) (Nat.le_refl _)⟩
                      | none =>
                          apply Yields.counted processTurnResponse_leaves hroom
                          rintro ⟨outcome, after⟩ hsettles
                          have hturns : after.turns = state.turns + 1 := by
                            cases outcome with
                            | result => exact hsettles.1
                            | messages => exact hsettles
                          dsimp only
                          rw [← hturns] at hroom ⊢
                          exact synchronizeTurn_counted hroom hsettles

theorem executeAgentLoop_counted (fuel : Nat) (hmax : state.turns ≤ ctx.limits.maxTurns)
    (hfuel : ctx.limits.maxTurns < fuel + state.turns) :
    Counted ctx.limits.maxTurns (executeAgentLoop ctx fuel state) state.turns fun p =>
      TurnEnds ctx.limits.maxTurns 0 (some p.1, p.2) := by
  induction fuel generalizing state with
  | zero => omega
  | succ fuel ih =>
      refine (executeAgentTurn_counted hmax).bind ?_
      rintro ⟨result, after⟩ chats hends
      cases result with
      | some result => exact hends
      | none =>
          obtain ⟨hafter, hturns, rfl⟩ := hends
          exact ih hafter (by omega)

theorem executeAgentLoop_add (fuel extra : Nat) (hmax : state.turns ≤ ctx.limits.maxTurns)
    (hfuel : ctx.limits.maxTurns < fuel + state.turns) :
    executeAgentLoop ctx (fuel + extra) state = executeAgentLoop ctx fuel state := by
  induction fuel generalizing state with
  | zero => omega
  | succ fuel ih =>
      have hcounts : ∀ n (r : LoopRequest) (resp : r.Response), ∃ m, countsChats n r resp m := fun _ _ _ => ⟨_, rfl⟩
      rw [Nat.succ_add]
      apply Program.Ensures.bind_congr hcounts (executeAgentTurn_counted hmax)
      rintro ⟨result, after⟩ chats hends
      cases result with
      | some result => rfl
      | none =>
          obtain ⟨hafter, hturns, rfl⟩ := hends
          exact ih hafter (by omega)

/-- The loop ends by itself: with more turns than it may begin it makes the same requests and ends in the same way. -/
theorem loop_ends (ctx : AgentLoopExecutionContext) (seed : List LlmMessage) (systemPrompt instruction : String)
    (ledger : OperationLedger) (hasHistory : Bool) (extra : Nat) :
    executeAgentLoop ctx (ctx.limits.maxTurns + 1 + extra)
        (initialState seed systemPrompt instruction ledger hasHistory) =
      executeAgentLoop ctx (ctx.limits.maxTurns + 1)
        (initialState seed systemPrompt instruction ledger hasHistory) :=
  executeAgentLoop_add _ extra (Nat.zero_le _) (Nat.lt_succ_self _)

/-! ## A run -/

def Starts : Except RunResult MutableAgentLoopState → Prop
  | .error failure => failure.ok = false
  | .ok state => state.turns = 0

theorem initializeAgentLoopState_leaves {config : AgentLoopConfig} {instruction : String} :
    Leaves (initializeAgentLoopState config instruction) Starts := by
  unfold initializeAgentLoopState
  dsimp only
  split
  · split
    · exact rfl
    · split
      · exact rfl
      · exact rfl
  · split
    · exact rfl
    · apply leaves_request rfl
      intro target
      cases target with
      | error => exact rfl
      | ok =>
          dsimp only
          split
          · exact rfl
          · exact rfl

theorem validateAgentLoopLimits_maxTurns {maxTurns maxTimeMs maxContext perTurnTimeout : JsDouble}
    {limits : AgentLoopLimits} (h : validateAgentLoopLimits maxTurns maxTimeMs maxContext perTurnTimeout = .ok limits) :
    isPositiveInteger maxTurns = some limits.maxTurns := by
  unfold validateAgentLoopLimits at h
  split at h
  · cases h
  · rename_i hturns
    repeat' split at h
    all_goals cases h
    exact hturns

/-- What a run returns after this many requests to the model. -/
def RunReports (max : Nat) (ended : AgentLoopEnd) (chats : Nat) : Prop :=
  match ended.state with
  | none => chats = 0 ∧ ended.result.ok = false
  | some state => state.turns ≤ max ∧ chats ≤ state.turns ∧ state.turns ≤ chats + 1 ∧
      Reports state.turns state.toToolExecutionState ended.result

/-- However a run goes, it asks the model at most as often as it has turns, and the result it returns reports what the
run has done. -/
theorem run_reports (host : LoopHost) (config : AgentLoopConfig) (instruction : String) :
    (runAgentLoop host config instruction).Ensures countsChats
      (fun _ chats => chats ≤ (isPositiveInteger config.maxTurns).getD 0)
      (RunReports ((isPositiveInteger config.maxTurns).getD 0)) 0 := by
  generalize hmax : (isPositiveInteger config.maxTurns).getD 0 = max
  have hclock : Leaves LoopProgram.clock fun _ => True := ⟨rfl, fun _ _ => trivial⟩
  have hcontract : Leaves (Program.request (LoopRequest.compileContract instruction)) fun _ => True :=
    ⟨rfl, fun _ _ => trivial⟩
  unfold runAgentLoop
  apply Yields.counted hclock (Nat.zero_le max)
  rintro ⟨aborted, startTime⟩ -
  dsimp only
  split
  · exact ⟨rfl, rfl⟩
  · rename_i limits hlimits
    rw [validateAgentLoopLimits_maxTurns hlimits, Option.getD_some] at hmax
    subst hmax
    apply Yields.counted initializeAgentLoopState_leaves (Nat.zero_le limits.maxTurns)
    intro start hstart
    cases start with
    | error failure => exact ⟨rfl, hstart⟩
    | ok state =>
        have hzero : state.turns = 0 := hstart
        apply Yields.counted hcontract (Nat.zero_le limits.maxTurns)
        intro _ _
        have hloop := @executeAgentLoop_counted
          { host, config, limits, startTime, goalMessage := goalMessageOf state instruction } state
          (limits.maxTurns + 1) (hzero ▸ Nat.zero_le _) (Nat.lt_of_lt_of_le (Nat.lt_succ_self _) (Nat.le_add_right _ _))
        rw [hzero] at hloop
        apply hloop.bind
        rintro ⟨result, last⟩ chats ⟨hturns, hasked, hmissed, hreports⟩
        dsimp only at hturns hasked hmissed hreports ⊢
        split
        · apply Yields.counted persistAgentLoopHistory_leaves (hasked.trans hturns)
          rintro ⟨persistenceError, after⟩ ⟨hafter, htools⟩
          dsimp only at hafter htools
          rw [← hafter] at hturns hasked hmissed hreports
          rw [← htools] at hreports
          cases persistenceError with
          | none => exact ⟨hturns, hasked, hmissed, hreports⟩
          | some message => exact ⟨hturns, hasked, hmissed, reports_now⟩
        · exact ⟨hturns, hasked, hmissed, hreports⟩

end Cantilune.AgentLoop
