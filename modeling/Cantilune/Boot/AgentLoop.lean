import Cantilune.Boot.AgentTools

/-!
# The agent loop

Perceive, ask the model, execute its tool calls, let the controller judge, and again. After each turn the transcript
and the pending observations are written into the caller's history.
-/

namespace Cantilune.AgentLoop

def isPositiveInteger : JsDouble → Option Nat
  | .finite q => if q.den = 1 ∧ 1 ≤ q then some q.num.toNat else none
  | _ => none

def isPositiveFinite : JsDouble → Option ℚ
  | .finite q => if 0 < q then some q else none
  | _ => none

def validateAgentLoopLimits (maxTurns maxTimeMs maxContext perTurnTimeout : JsDouble) :
    Except String AgentLoopLimits :=
  match isPositiveInteger maxTurns with
  | none => .error "maxTurns must be a positive integer."
  | some maxTurns =>
      match isPositiveFinite maxTimeMs with
      | none => .error "maxTimeMs must be a positive finite number."
      | some maxTimeMs =>
          match isPositiveInteger maxContext with
          | none => .error "maxContextMessages must be a positive integer."
          | some maxContext =>
              match isPositiveFinite perTurnTimeout with
              | none => .error "perTurnTimeoutMs must be a positive finite number."
              | some perTurnTimeout => .ok { maxTurns, maxTimeMs, maxContext, perTurnTimeout }

/-- The configuration; of the hooks only which are there. -/
structure AgentLoopConfig where
  maxTurns : JsDouble := .finite 100
  maxTimeMs : JsDouble := .finite 600000
  maxContextMessages : JsDouble := .finite 40
  perTurnTimeoutMs : JsDouble := .finite 120000
  systemPrompt : String
  initialMessages : Json := .arr []
  history : Option Json := none
  onHistoryCheckpoint : Bool := false
  onBeforeTurn : Bool := false
  onAskUser : Bool := false

structure AgentLoopExecutionContext where
  host : LoopHost
  config : AgentLoopConfig
  limits : AgentLoopLimits
  startTime : ℚ
  goalMessage : MessageObject

/-! ## What the syscall layer and the model answer -/

structure Perception where
  worldSummary : String
  recentObservations : String

def requirePerception (value : Option Json) : Except String Perception := do
  let record ← detached "Syscall perceive" value
  match record.get? "worldSummary", record.get? "recentObservations" with
  | some (.str worldSummary), some (.str recentObservations) => return { worldSummary, recentObservations }
  | _, _ => .error "Syscall perceive returned an invalid result."

def requireAction (host : LoopHost) (entry : Json) : Except String ActionSchema :=
  match entry.get? "name", entry.get? "description", entry.get? "parameters" with
  | some (.str name), some (.str description), some (.obj members) =>
      if name = "" then .error "Syscall availableActions returned an invalid action schema."
      else .ok { name, description, parameters := canonicalJson host.argumentHost.localeCompare (.obj members) }
  | _, _, _ => .error "Syscall availableActions returned an invalid action schema."

def requireActions (host : LoopHost) (value : Option Json) : Except String (List ActionSchema) := do
  match ← detached "Syscall availableActions" value with
  | .arr entries => entries.mapM (requireAction host)
  | _ => .error "Syscall availableActions returned a non-array."

inductive FinishReason where
  | stop | toolCalls | length | error
  deriving DecidableEq

def FinishReason.parse : Option Json → Option FinishReason
  | some (.str "stop") => some .stop
  | some (.str "tool_calls") => some .toolCalls
  | some (.str "length") => some .length
  | some (.str "error") => some .error
  | _ => none

structure LlmChatResponse where
  text : Option String
  toolCalls : List LlmToolCallResult
  finishReason : FinishReason

def requireResponseCalls (host : LoopHost) (ids : List String) : List Json → Except String (List LlmToolCallResult)
  | [] => .ok []
  | entry :: entries =>
      match entry.get? "id", entry.get? "name", entry.get? "arguments" with
      | some (.str id), some (.str name), some (.obj members) =>
          if id = "" ∨ id ∈ ids ∨ name = "" then
            .error "LLM adapter returned an invalid or duplicate tool call."
          else do
            let calls ← requireResponseCalls host (id :: ids) entries
            return { id, name, arguments := canonicalJson host.argumentHost.localeCompare (.obj members) } :: calls
      | _, _, _ => .error "LLM adapter returned an invalid or duplicate tool call."

def isTokenCount : Option Json → Bool
  | some (.num q) => 0 ≤ q
  | _ => false

def requireTokenUsage : Option Json → Except String Unit
  | none => .ok ()
  | some usage =>
      if isTokenCount (usage.get? "prompt") && isTokenCount (usage.get? "completion") &&
          isTokenCount (usage.get? "total") then .ok ()
      else .error "LLM adapter returned invalid token usage."

def requireLlmResponse (host : LoopHost) (value : Option Json) : Except String LlmChatResponse := do
  let record ← detached "LLM adapter" value
  match optionalText record "text", record.get? "toolCalls", FinishReason.parse (record.get? "finishReason") with
  | some text, some (.arr rawCalls), some finishReason =>
      let toolCalls ← requireResponseCalls host [] rawCalls
      requireTokenUsage (record.get? "usage")
      if (toolCalls ≠ [] ∧ finishReason ≠ .toolCalls) ∨ (toolCalls = [] ∧ finishReason = .toolCalls) then
        .error "LLM adapter returned inconsistent tool calls and finish reason."
      else return { text, toolCalls, finishReason }
  | _, _, _ => .error "LLM adapter returned an invalid response."

/-! ## A turn up to the response -/

section Turn

variable (ctx : AgentLoopExecutionContext) (state : MutableAgentLoopState)

def buildContextMessage (perception : Perception) : String :=
  "=== Current World State ===\n" ++ perception.worldSummary ++ "\n\n=== Recent Observations ===\n" ++
    perception.recentObservations

structure PreparedTurn where
  messages : List MessageObject
  messagesForLlm : List MessageObject
  actions : List ActionSchema

/-- How many messages of the transcript a request has room for. -/
def contextBudget (maxContext : Nat) : Nat := if maxContext > 2 then maxContext - 1 else maxContext

def callBeforeTurn : LoopProgram (Except String Unit) :=
  if ctx.config.onBeforeTurn then Program.request (LoopRequest.beforeTurn state.turns) else return .ok ()

def prepareTurn : LoopProgram (Except RunResult PreparedTurn) := do
  let fail := fun phase message => phaseFailure phase message state.turns state.toToolExecutionState
  match ← callBeforeTurn ctx state with
  | .error message => return .error (fail .configuration message)
  | .ok () =>
      let perceived : Except String (Option Json) ← Program.request LoopRequest.perceive
      match perceived.bind requirePerception with
      | .error message => return .error (fail .perceive message)
      | .ok perception =>
          let available : Except String (Option Json) ← Program.request LoopRequest.availableActions
          match available.bind (requireActions ctx.host) with
          | .error message => return .error (fail .availableActions message)
          | .ok actions =>
              let messages := compactMessages state.messages (contextBudget ctx.limits.maxContext) ctx.goalMessage
              let world : MessageObject :=
                { identity := WINDOW_IDENTITY, message := .system (buildContextMessage perception) }
              let messagesForLlm := if ctx.limits.maxContext > 2 then messages ++ [world] else messages
              return .ok { messages, messagesForLlm, actions }

def turnRequestFailure (failure : ChatFailure) : LoopProgram RunResult :=
  let s := state.toToolExecutionState
  match failure with
  | .aborted => return mkResult false "Run aborted by caller." state.turns s .aborted
  | .timedOut message =>
      return mkResult false message state.turns s .error (some { phase := .llm, message, retryable := true })
  | .failed message => do
      let (_, now) ← LoopProgram.clock
      if now - ctx.startTime ≥ ctx.limits.maxTimeMs then
        let summary := "Time limit exceeded (" ++ ctx.host.print ctx.limits.maxTimeMs ++ "ms)."
        return mkResult false summary state.turns s .maxTime
      else
        return mkResult false ("LLM error: " ++ message) state.turns s .error
          (some { phase := .llm, message, retryable := false })

def requestTurnResponse (prepared : PreparedTurn) : LoopProgram (Except RunResult LlmChatResponse) := do
  let answer : Except ChatFailure (Option Json) ←
    Program.request (LoopRequest.chat prepared.messagesForLlm prepared.actions)
  match answer with
  | .error failure => return .error (← turnRequestFailure ctx state failure)
  | .ok value =>
      match requireLlmResponse ctx.host value with
      | .error message => return .error (← turnRequestFailure ctx state (.failed message))
      | .ok response => return .ok response

/-! ## Judgment -/

/-- A result that does not claim success while failures are unresolved. -/
def settleRun (ok : Bool) (summary : String) (turns : Nat) (s : ToolExecutionState) (reason : TerminationReason) :
    RunResult :=
  if ok = false ∨ s.ledger.unresolvedCount = 0 then mkResult ok summary turns s reason
  else
    let names := ", ".intercalate s.ledger.unresolvedTools
    let tally := s.ledger.operationTally
    let message :=
      toString s.ledger.unresolvedCount ++ " unresolved tool failure(s) remain" ++
        (if names = "" then "." else " (" ++ names ++ ").") ++
        (if tally.rejected > 0 ∧ tally.committed = 0 then " nothing was committed to the coordination world." else "")
    mkResult false (summary ++ "\n\n[Run failed] " ++ message) turns s .error
      (some { phase := .tool, message, retryable := true })

def evaluateController (llmDoneSignal : Bool) : LoopProgram (Except RunResult ControlVerdict) := do
  let s := state.toToolExecutionState
  let perceived : Except String (Option Json) ← Program.request LoopRequest.perceive
  match perceived.bind requirePerception with
  | .error message => return .error (phaseFailure .perceive message state.turns s)
  | .ok _ =>
      -- The candidate actions are optional: a failure leaves them out.
      let _ : Except String (Option Json) ← Program.request LoopRequest.availableActions
      let verdict : Except String ControlVerdict ← Program.request (LoopRequest.evaluateTurn llmDoneSignal)
      match verdict with
      | .error message => return .error (phaseFailure .configuration message state.turns s)
      | .ok verdict => return .ok verdict

/-- How a response is left: with the result of the run, or with the next turn to come. -/
inductive TurnOutcome where
  | result (result : RunResult)
  | messages

def dispatchControlVerdict (verdict : ControlVerdict) (response : LlmChatResponse) (doneSummary : Option String) :
    LoopProgram (TurnOutcome × MutableAgentLoopState) :=
  let settle := fun ok summary =>
    TurnOutcome.result (settleRun ok summary state.turns state.toToolExecutionState .controller)
  match verdict with
  | .done _ => return (settle true ((doneSummary.or response.text).getD "Goal complete."), state)
  | .stalled _ blocker => return (settle false blocker, state)
  | .askUser _ question =>
      if ctx.config.onAskUser = false then
        return (settle false ("Stalled without a way to ask: " ++ question), state)
      else do
        let answer : Except String String ← Program.request (LoopRequest.askUser question)
        match answer with
        -- The handler's rejection is not caught: it leaves the loop at once.
        | .error message => Program.fail { message, state }
        | .ok answer =>
            return (.messages, { state with toToolExecutionState := state.toToolExecutionState.push (.user answer) })
  | .continues _ _ | .verify _ _ | .replan _ _ => return (.messages, state)

def orderToolCallsForExecution (toolCalls : List LlmToolCallResult) : List LlmToolCallResult :=
  if toolCalls.length < 2 ∨ (toolCalls.getLast?.map (·.name)) = some "done" then toolCalls
  else toolCalls.filter (fun c => c.name ≠ "done") ++ toolCalls.filter fun c => c.name = "done"

def accumulateTrace (response : LlmChatResponse) (isText : Bool) : MutableAgentLoopState :=
  let text := response.text.getD ""
  let texts := state.recentAssistantTexts ++ [text]
  { state with
    plainTextTurns := if isText then state.plainTextTurns + 1 else state.plainTextTurns
    toolCallTurns := if isText then state.toolCallTurns else state.toolCallTurns + 1
    recentAssistantTexts :=
      if text = "" then state.recentAssistantTexts else if texts.length > 8 then texts.drop 1 else texts }

def requestMessage (host : LoopHost) (response : LlmChatResponse) (calls : List LlmToolCallResult) : LlmMessage :=
  .assistant (response.text.getD "")
    (some (calls.map fun tc => { id := tc.id, name := tc.name, arguments := host.stringify tc.arguments }))

/-- The controller's verdict on the turn and what it leads to. -/
def judgeTurn (response : LlmChatResponse) (llmDoneSignal : Bool) (doneSummary : Option String) :
    LoopProgram (TurnOutcome × MutableAgentLoopState) := do
  match ← evaluateController state llmDoneSignal with
  | .error fault => return (.result fault, state)
  | .ok verdict => dispatchControlVerdict ctx state verdict response doneSummary

def pushFinalText (response : LlmChatResponse) : MutableAgentLoopState :=
  match response.toolCalls, response.text with
  | [], some text => { state with toToolExecutionState := state.toToolExecutionState.push (.assistant text none) }
  | _, _ => state

def processTurnResponse (response : LlmChatResponse) : LoopProgram (TurnOutcome × MutableAgentLoopState) := do
  let (_, now) ← LoopProgram.clock
  let fault := response.finishReason = .error ∨ response.finishReason = .length
  if fault ∨ now - ctx.startTime ≥ ctx.limits.maxTimeMs then
    let reason : TerminationReason := if fault then .error else .maxTime
    let pushed := pushFinalText state response
    let summary := response.text.getD ("Terminated: " ++ if fault then "error" else "max_time")
    return (.result (settleRun false summary state.turns pushed.toToolExecutionState reason), pushed)
  else if response.toolCalls = [] then
    let message := LlmMessage.assistant (response.text.getD "") none
    let pushed := { state with toToolExecutionState := state.toToolExecutionState.push message }
    judgeTurn ctx (accumulateTrace pushed response true) response false none
  else
    let ordered := orderToolCallsForExecution response.toolCalls
    let tools : ToolExecutionContext :=
      { host := ctx.host, maxTimeMs := ctx.limits.maxTimeMs, turns := state.turns, startTime := ctx.startTime }
    let (outcome, s) ←
      executeToolCalls tools (state.toToolExecutionState.push (requestMessage ctx.host response ordered)) ordered
    let state := { state with toToolExecutionState := s }
    match outcome with
    | .terminal result => return (.result result, state)
    | .next => return (.messages, accumulateTrace state response false)
    | .doneSignaled summary => judgeTurn ctx (accumulateTrace state response false) response true (some summary)

/-- Replaces what the caller's history holds. An error is the text of the failure. -/
def persistAgentLoopHistory : LoopProgram (Option String × MutableAgentLoopState) :=
  if state.hasHistory = false ∨ state.historyDirty = false then return (none, state)
  else do
    let written : Except String Unit ←
      Program.request (LoopRequest.writeHistory (normalizeHistoryMessages state.evidenceMessages)
        state.ledger.pendingToolObservations)
    match written with
    | .ok () => return (none, { state with historyDirty := false })
    | .error message =>
        return (some ("Private history synchronization failed: " ++ message),
          { state with historyPersistenceFailed := true })

def checkpointAgentLoopHistory : LoopProgram (Option RunResult) :=
  if ctx.config.onHistoryCheckpoint = false ∨ state.hasHistory = false then return none
  else do
    let answer : Except String Unit ← Program.request LoopRequest.checkpoint
    match answer with
    | .ok () => return none
    | .error message =>
        return some (phaseFailure .tool ("Private history checkpoint failed: " ++ message) state.turns
          state.toToolExecutionState)

def ensureLatestToolGroupFitsContext : Option RunResult :=
  match latestToolGroup state.messages with
  | none => none
  | some group =>
      let nextContext := compactMessages state.messages (contextBudget ctx.limits.maxContext) ctx.goalMessage
      if group.all fun m => nextContext.any fun n => n.identity = m.identity then none
      else
        let message :=
          "maxContextMessages=" ++ toString ctx.limits.maxContext ++ " cannot retain the latest complete tool group (" ++
            toString group.length ++ " messages) together with the required provider context."
        some (mkResult false message state.turns state.toToolExecutionState .error
          (some { phase := .configuration, message, retryable := false }))

/-- What follows a response that was processed. -/
def synchronizeTurn (outcome : TurnOutcome) (turnMessageCount : Nat) :
    LoopProgram (Option RunResult × MutableAgentLoopState) := do
  let state : MutableAgentLoopState :=
    { state with
      evidenceMessages := state.evidenceMessages ++ (state.messages.drop turnMessageCount).map (·.message)
      historyDirty := state.hasHistory }
  let (persistenceError, state) ← persistAgentLoopHistory state
  match persistenceError with
  | some message => return (some (phaseFailure .tool message state.turns state.toToolExecutionState), state)
  | none =>
      match ← checkpointAgentLoopHistory ctx state with
      | some failure => return (some failure, state)
      | none =>
          match outcome with
          | .result result => return (some result, state)
          | .messages => return (ensureLatestToolGroupFitsContext ctx state, state)

def executeAgentTurn : LoopProgram (Option RunResult × MutableAgentLoopState) := do
  let limits := ctx.limits
  let check := fun turns (s : MutableAgentLoopState) =>
    checkRunLimits ctx.host limits.maxTimeMs limits.maxTurns turns ctx.startTime s.toToolExecutionState
  match ← check state.turns state with
  | some limitResult => return (some limitResult, state)
  | none =>
      match ensureLatestToolGroupFitsContext ctx state with
      | some failure => return (some failure, state)
      | none =>
          let state := { state with turns := state.turns + 1 }
          match ← prepareTurn ctx state with
          | .error failure => return (some failure, state)
          | .ok prepared =>
              let state : MutableAgentLoopState := { state with messages := prepared.messages }
              match ← check (state.turns - 1) state with
              | some limitResult => return (some limitResult, state)
              | none =>
                  match ← requestTurnResponse ctx state prepared with
                  | .error failure => return (some failure, state)
                  | .ok response =>
                      match ← check (state.turns - 1) state with
                      | some limitResult => return (some limitResult, state)
                      | none =>
                          let (outcome, after) ← processTurnResponse ctx state response
                          synchronizeTurn ctx after outcome state.messages.length

/-- The loop, with as many turns as may still be begun. -/
def executeAgentLoop : Nat → MutableAgentLoopState → LoopProgram (RunResult × MutableAgentLoopState)
  | 0, state => Program.fail { message := "no turn is left", state }
  | turns + 1, state => do
      match ← executeAgentTurn ctx state with
      | (some result, state) => return (result, state)
      | (none, state) => executeAgentLoop turns state

end Turn

/-! ## A run -/

/-- How a run ends: its result and, unless it ended before, the state of the loop. -/
structure AgentLoopEnd where
  result : RunResult
  state : Option MutableAgentLoopState

def preflightConfigurationFailure (message : String) : RunResult where
  ok := false
  summary := message
  turns := 0
  producedRefs := []
  terminationReason := .error
  operations := { committed := 0, rejected := 0 }
  toolCalls := { total := 0, succeeded := 0, failed := 0, unresolved := 0 }
  error := some { phase := .configuration, message, retryable := false }

/-- The identities of the first messages: the goal comes after the others. -/
def initialState (seed : List LlmMessage) (systemPrompt instruction : String) (ledger : OperationLedger)
    (hasHistory : Bool) : MutableAgentLoopState :=
  let transcript := initializeMessages seed systemPrompt ++ [.user instruction]
  { messages := transcript.mapIdx fun i message => { identity := i + 1, message }
    objects := transcript.length + 1
    producedRefs := []
    ledger
    evidenceMessages := transcript
    hasHistory
    historyDirty := hasHistory
    historyPersistenceFailed := false
    turns := 0
    plainTextTurns := 0
    toolCallTurns := 0
    recentAssistantTexts := [] }

/-- The state at the start, or the failure to come to it. -/
def initializeAgentLoopState (config : AgentLoopConfig) (instruction : String) :
    LoopProgram (Except RunResult MutableAgentLoopState) := do
  let fail := fun (ledger : OperationLedger) message =>
    phaseFailure .configuration message 0 { messages := [], objects := 0, producedRefs := [], ledger }
  let start := fun (restored : AgentLoopHistory) =>
    let ledger := OperationLedger.create restored.pendingToolObservations
    match requireHistoryMessages (some config.initialMessages) with
    | .error message => Except.error (fail ledger message)
    | .ok initialMessages =>
        let seed := if restored.messages ≠ [] then restored.messages else initialMessages
        .ok (initialState seed config.systemPrompt instruction ledger config.history.isSome)
  match config.history with
  | none =>
      if config.onHistoryCheckpoint then
        return .error (fail (.create []) "onHistoryCheckpoint requires a reusable AgentLoopHistory instance.")
      else return start { messages := [], pendingToolObservations := [] }
  | some history =>
      match requireAgentLoopHistory history with
      | .error message => return .error (fail (.create []) message)
      | .ok restored =>
          let target : Except String Unit ← Program.request LoopRequest.checkHistoryTarget
          match target with
          | .error message => return .error (fail (.create []) message)
          | .ok () => return start restored

/-- The goal is the last of the first messages. -/
def goalMessageOf (state : MutableAgentLoopState) (instruction : String) : MessageObject :=
  { identity := state.messages.length, message := .user instruction }

def runAgentLoop (host : LoopHost) (config : AgentLoopConfig) (instruction : String) : LoopProgram AgentLoopEnd := do
  let (_, startTime) ← LoopProgram.clock
  match validateAgentLoopLimits config.maxTurns config.maxTimeMs config.maxContextMessages config.perTurnTimeoutMs with
  | .error message => return { result := preflightConfigurationFailure message, state := none }
  | .ok limits =>
      match ← initializeAgentLoopState config instruction with
      | .error failure => return { result := failure, state := none }
      | .ok state =>
          -- Without the controller's contract the run goes on with the default one.
          let _ : Except String Unit ← Program.request (LoopRequest.compileContract instruction)
          let ctx : AgentLoopExecutionContext :=
            { host, config, limits, startTime, goalMessage := goalMessageOf state instruction }
          let (result, state) ← executeAgentLoop ctx (limits.maxTurns + 1) state
          if state.historyPersistenceFailed = false ∧ state.historyDirty then
            let (persistenceError, state) ← persistAgentLoopHistory state
            match persistenceError with
            | some message =>
                let failure := phaseFailure .tool message state.turns state.toToolExecutionState
                return { result := failure, state := some state }
            | none => return { result, state := some state }
          else return { result, state := some state }

end Cantilune.AgentLoop
