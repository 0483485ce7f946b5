import Cantilune.Base.JsDouble
import Cantilune.Base.Program
import Cantilune.Boot.OperationLedger
import Cantilune.Boot.Termination

/-!
# The tool calls of an agent

What the loop asks of the syscall layer, the model, the controller and its caller, and how one tool call of the model
is dispatched, recorded and answered in the transcript. An answer that is no JSON value is `none`.
-/

namespace Cantilune.AgentLoop

inductive AgentErrorPhase where
  | configuration | perceive | availableActions | llm | tool
  deriving DecidableEq

def phaseLabel : AgentErrorPhase → String
  | .configuration => "Configuration"
  | .perceive => "Perceive"
  | .availableActions => "Available actions"
  | .llm => "LLM"
  | .tool => "Tool"

structure RunError where
  phase : AgentErrorPhase
  message : String
  retryable : Bool
  toolCallId : Option String := none
  toolName : Option String := none
  deriving DecidableEq

inductive TerminationReason where
  | controller | maxTurns | maxTime | aborted | error
  deriving DecidableEq

structure RunResult where
  ok : Bool
  summary : String
  turns : Nat
  producedRefs : List ContentRef
  terminationReason : TerminationReason
  operations : RunOperationTally
  toolCalls : RunToolTally
  error : Option RunError

/-- What the calls of a response change. `objects` is the identity of the next message object. -/
structure ToolExecutionState where
  messages : List MessageObject
  objects : Nat
  producedRefs : List ContentRef
  ledger : OperationLedger

structure MutableAgentLoopState extends ToolExecutionState where
  evidenceMessages : List LlmMessage
  hasHistory : Bool
  historyDirty : Bool
  historyPersistenceFailed : Bool
  turns : Nat
  plainTextTurns : Nat
  toolCallTurns : Nat
  recentAssistantTexts : List String

def ToolExecutionState.push (s : ToolExecutionState) (message : LlmMessage) : ToolExecutionState :=
  { s with messages := s.messages ++ [{ identity := s.objects, message }], objects := s.objects + 1 }

def mkResult (ok : Bool) (summary : String) (turns : Nat) (s : ToolExecutionState) (reason : TerminationReason)
    (error : Option RunError := none) : RunResult where
  ok := ok
  summary := summary
  turns := turns
  producedRefs := s.producedRefs
  terminationReason := reason
  operations := s.ledger.operationTally
  toolCalls := s.ledger.toolTally
  error := error

def phaseFailure (phase : AgentErrorPhase) (message : String) (turns : Nat) (s : ToolExecutionState) : RunResult :=
  mkResult false (phaseLabel phase ++ " error: " ++ message) turns s .error
    (some { phase, message, retryable := false })

/-! ## Requests -/

structure ActionSchema where
  name : String
  description : String
  parameters : Json

/-- The events about tool calls. -/
inductive AgentEvent where
  | toolStart (turn : Nat) (toolCall : LlmToolCallResult)
  | toolEnd (turn : Nat) (toolCallId name : String) (ok : Bool) (output : String)

inductive ChatFailure where
  | aborted
  | timedOut (message : String)
  | failed (message : String)

inductive LoopRequest where
  | clock
  | checkHistoryTarget
  | compileContract (instruction : String)
  | beforeTurn (turn : Nat)
  | perceive
  | availableActions
  | chat (messages : List MessageObject) (actions : List ActionSchema)
  | emit (event : AgentEvent)
  | readContent (ref : ContentRef)
  | writeContent (text : String) (mimeType : Option String)
  | act (operation : String) (args : List (String × String))
  | useTool (call : ToolCall)
  | retryToolObservation (recovery : ToolObservationRecovery)
  | evaluateTurn (llmDoneSignal : Bool)
  | askUser (question : String)
  | writeHistory (messages : List LlmMessage) (pendingToolObservations : List ToolObservationRecovery)
  | checkpoint

/-- What comes back; an error is the message of what was thrown. The clock says also whether the run was aborted. -/
@[reducible] def LoopRequest.Response : LoopRequest → Type
  | .clock => Bool × ℚ
  | .checkHistoryTarget => Except String Unit
  | .compileContract _ => Except String Unit
  | .beforeTurn _ => Except String Unit
  | .perceive => Except String (Option Json)
  | .availableActions => Except String (Option Json)
  | .chat _ _ => Except ChatFailure (Option Json)
  | .emit _ => Unit
  | .readContent _ => Except String (Option Json)
  | .writeContent _ _ => Except String (Option Json)
  | .act _ _ => Except String (Option Json)
  | .useTool _ => Except String (Option Json)
  | .retryToolObservation _ => Except String (Option Json)
  | .evaluateTurn _ => Except String ControlVerdict
  | .askUser _ => Except String String
  | .writeHistory _ _ => Except String Unit
  | .checkpoint => Except String Unit

/-- A rejection of the run, with the state that it leaves behind. -/
structure LoopRejection where
  message : String
  state : MutableAgentLoopState

abbrev LoopProgram := Program LoopRequest LoopRequest.Response LoopRejection

namespace LoopProgram

def clock : LoopProgram (Bool × ℚ) := Program.request LoopRequest.clock

def emit (event : AgentEvent) : LoopProgram Unit := Program.request (LoopRequest.emit event)

end LoopProgram

/-- What the host does with numbers and JSON values: their texts, a collation, a digest. -/
structure LoopHost where
  argumentHost : ArgumentHost
  stringify : Json → String
  print : ℚ → String

structure AgentLoopLimits where
  maxTurns : Nat
  maxTimeMs : ℚ
  maxContext : Nat
  perTurnTimeout : ℚ

/-! ## Answers of the syscall layer -/

def detached (source : String) : Option Json → Except String Json
  | none => .error (source ++ " returned a non-cloneable result.")
  | some value => .ok value

def requireContentRef (source : String) : Json → Except String ContentRef
  | .str ref => if isSha256Digest ref then .ok ref else .error (source ++ " returned an invalid ContentRef.")
  | _ => .error (source ++ " returned an invalid ContentRef.")

def optionalText (record : Json) (key : String) : Option (Option String) :=
  match record.get? key with
  | none => some none
  | some (.str s) => some (some s)
  | some _ => none

structure ReadResult where
  found : Bool
  text : Option String

def requireReadResult (value : Option Json) : Except String ReadResult := do
  let record ← detached "Syscall readContent" value
  match record.get? "found", optionalText record "text", optionalText record "mimeType" with
  | some (.bool found), some text, some _ => return { found, text }
  | _, _, _ => .error "Syscall readContent returned an invalid result."

structure UsedTool where
  ok : Bool
  output : String
  contentRef : Option ContentRef
  observeWarning : Option String
  observationRecovery : Option ToolObservationRecovery

/-- The recovery says what the call was, and comes with a failure whose output was stored. -/
def recoveryFits (host : ArgumentHost) (toolCall : LlmToolCallResult) (ok : Bool) (contentRef : Option ContentRef)
    (recovery : ToolObservationRecovery) : Prop :=
  ok = false ∧ contentRef = some recovery.outputRef ∧ externalName? toolCall.name = some recovery.toolName ∧
    recovery.originalToolCallId = toolCall.id ∧
    toolArgumentsDigest host (toolExecutionArguments toolCall.arguments) = some recovery.argumentsDigest

instance (host : ArgumentHost) (toolCall : LlmToolCallResult) (ok : Bool) (contentRef : Option ContentRef)
    (recovery : ToolObservationRecovery) : Decidable (recoveryFits host toolCall ok contentRef recovery) :=
  inferInstanceAs (Decidable (_ ∧ _ ∧ _ ∧ _ ∧ _))

def requireToolResult (host : ArgumentHost) (value : Option Json) (toolCall : LlmToolCallResult) :
    Except String UsedTool := do
  let record ← detached "Syscall useTool" value
  match record.get? "ok", record.get? "output", optionalText record "observeWarning" with
  | some (.bool ok), some (.str output), some observeWarning =>
      let contentRef ← (record.get? "contentRef").mapM (requireContentRef "Syscall useTool")
      let identityError := "Syscall useTool returned an invalid observation recovery identity."
      match record.get? "observationRecovery" with
      | none =>
          if ok = true ∧ (contentRef = none ∨ observeWarning.isSome) then .error identityError
          else return { ok, output, contentRef, observeWarning, observationRecovery := none }
      | some recoveryRecord =>
          match parseToolObservationRecovery recoveryRecord with
          | none => .error identityError
          | some recovery =>
              if recoveryFits host toolCall ok contentRef recovery then
                return { ok, output, contentRef, observeWarning, observationRecovery := some recovery }
              else .error identityError
  | _, _, _ => .error "Syscall useTool returned an invalid result."

structure RetryResult where
  ok : Bool
  message : String
  observeWarning : Option String

def requireRetryResult (value : Option Json) (recovery : ToolObservationRecovery) : Except String RetryResult := do
  let record ← detached "Syscall retryToolObservation" value
  match record.get? "ok", record.get? "message", optionalText record "observeWarning" with
  | some (.bool ok), some (.str message), some observeWarning =>
      let outputRef ← (record.get? "outputRef").mapM (requireContentRef "Syscall retryToolObservation")
      if (ok = true ∧ (outputRef ≠ some recovery.outputRef ∨ observeWarning.isSome)) ∨
          (ok = false ∧ outputRef.isSome) then
        .error "Syscall retryToolObservation returned a contradictory observation result."
      else return { ok, message, observeWarning }
  | _, _, _ => .error "Syscall retryToolObservation returned an invalid result."

structure ActionResult where
  ok : Bool
  message : String

def requireActionResult (value : Option Json) : Except String ActionResult := do
  let record ← detached "Syscall act" value
  match record.get? "ok", record.get? "message", optionalText record "newHeadRef" with
  | some (.bool ok), some (.str message), some newHeadRef =>
      if newHeadRef = some "" ∨ (ok = false ∧ newHeadRef.isSome) ∨ (ok = true ∧ newHeadRef.isNone) then
        .error "Syscall act returned an invalid result."
      else return { ok, message }
  | _, _, _ => .error "Syscall act returned an invalid result."

/-! ## Dispatch -/

structure ToolDispatchResult where
  content : String
  isDone : Bool := false
  ok : Bool
  coordination : Bool := false
  observationFailure : Option ToolObservationRecovery := none
  retriedObservation : Option ToolObservationRecovery := none
  affectsResolution : Bool := true

/-- A dispatched call: its result with the refs that it produced, or the message of what was thrown. -/
abbrev Dispatched := Except String (ToolDispatchResult × List ContentRef)

def textArgument (toolCall : LlmToolCallResult) (key : String) : String :=
  match toolCall.arguments.get? key with
  | some (.str s) => s
  | _ => ""

def dispatchDoneToolCall (toolCall : LlmToolCallResult) : ToolDispatchResult :=
  let raw := textArgument toolCall "summary"
  if JsString.trim raw = "" then { content := "[ERROR] done requires a non-empty 'summary' parameter.", ok := false }
  else { content := raw, isDone := true, ok := true }

def dispatchReadContentToolCall (toolCall : LlmToolCallResult) : LoopProgram Dispatched :=
  let ref := textArgument toolCall "ref"
  if ref = "" then
    return .ok ({ content := "[ERROR] read_content requires a non-empty 'ref' parameter.", ok := false }, [])
  else do
    let answer : Except String (Option Json) ← Program.request (LoopRequest.readContent ref)
    return do
      let result ← requireReadResult (← answer)
      let content :=
        if result.found then result.text.getD "(binary content)"
        else "[ERROR] Content not found for ref: \"" ++ ref ++ "\". Verify the ref is correct."
      return ({ content, ok := result.found }, [])

def dispatchWriteContentToolCall (toolCall : LlmToolCallResult) : LoopProgram Dispatched :=
  let text := textArgument toolCall "content"
  if text = "" then
    return .ok ({ content := "[ERROR] write_content requires non-empty 'content' parameter.", ok := false }, [])
  else do
    let mimeType := textArgument toolCall "mimeType"
    let answer : Except String (Option Json) ←
      Program.request (LoopRequest.writeContent text (if mimeType = "" then none else some mimeType))
    return do
      match ← answer with
      | none => .error "Syscall writeContent returned an invalid ContentRef."
      | some value =>
          let ref ← requireContentRef "Syscall writeContent" value
          return ({ content := "Written. ref=" ++ ref, ok := true }, [ref])

def recoveryRecord (recovery : ToolObservationRecovery) : Json :=
  .record
    [("toolName", some (.str recovery.toolName)), ("originalToolCallId", some (.str recovery.originalToolCallId)),
      ("argumentsDigest", some (.str recovery.argumentsDigest)), ("outputRef", some (.str recovery.outputRef)),
      ("receiptRef", some (.str recovery.receiptRef))]

def recoveryInstruction (host : LoopHost) (recovery : ToolObservationRecovery) : String :=
  "Retry only the stored observation with " ++ RETRY_TOOL_OBSERVATION ++ " " ++
    host.stringify (recoveryRecord recovery) ++ ". Do not call the external tool again."

def warningText : Option String → String
  | none => ""
  | some warning => "\n[Warning] " ++ warning

def retryStoredToolObservation (recovery : ToolObservationRecovery) : LoopProgram Dispatched := do
  let answer : Except String (Option Json) ← Program.request (LoopRequest.retryToolObservation recovery)
  return do
    let retry ← requireRetryResult (← answer) recovery
    let content := (if retry.ok then retry.message else "[ERROR] " ++ retry.message) ++ warningText retry.observeWarning
    return ({ content, ok := retry.ok, retriedObservation := some recovery, affectsResolution := retry.ok }, [])

/-- A result that leaves the ledger's failures alone. -/
def refusal (content : String) : ToolDispatchResult := { content, ok := false, affectsResolution := false }

/-- The executed call of an external tool: how its result reads and what it produced. -/
def usedToolDispatch (host : LoopHost) (result : UsedTool) : ToolDispatchResult × List ContentRef :=
  let recoveryText :=
    match result.observationRecovery with
    | none => ""
    | some recovery => "\n[Recovery] " ++ recoveryInstruction host recovery
  let content :=
    (if result.ok then result.output else "[ERROR] " ++ result.output) ++
      (if result.observeWarning = some "" then "" else warningText result.observeWarning) ++ recoveryText
  ({ content, ok := result.ok, observationFailure := result.observationRecovery }, result.contentRef.toList)

def dispatchExternalToolCall (host : LoopHost) (ledger : OperationLedger) (toolCall : LlmToolCallResult) :
    LoopProgram Dispatched :=
  let explicitRecoveryOf := toolRecoveryOf toolCall
  let pending :=
    match explicitRecoveryOf with
    | none => ledger.externalObservationForExactRetry host.argumentHost toolCall
    | some recoveryOf => ledger.externalObservationForCall toolCall.name recoveryOf
  match pending with
  | some recovery => retryStoredToolObservation recovery
  | none =>
      if explicitRecoveryOf.isSome then
        return .ok (refusal ("[ERROR] External tools cannot use generic " ++ RECOVERY_ARGUMENT_KEY ++ " recovery. " ++
          "The id must name this exact tool's unresolved stored-output observation."), [])
      else if ledger.hasUnresolvedExactExternalFailure host.argumentHost toolCall then
        return .ok (refusal ("[ERROR] Refusing to re-execute an unresolved external call without a verified " ++
          "stored-output observation receipt."), [])
      else do
        let call : ToolCall :=
          { callId := toolCall.id, toolName := (externalName? toolCall.name).getD ""
            args := toolExecutionArguments toolCall.arguments }
        let answer : Except String (Option Json) ← Program.request (LoopRequest.useTool call)
        return do
          let result ← requireToolResult host.argumentHost (← answer) toolCall
          return usedToolDispatch host result

def dispatchRetryToolObservation (ledger : OperationLedger) (toolCall : LlmToolCallResult) : LoopProgram Dispatched :=
  match parseToolObservationRecovery toolCall.arguments with
  | none =>
      return .ok (refusal ("[ERROR] retry_tool_observation requires toolName, originalToolCallId, " ++
        "argumentsDigest, outputRef, and receiptRef."), [])
  | some recovery =>
      if ledger.externalObservationForCall (receiptToolName recovery) recovery.originalToolCallId = some recovery then
        retryStoredToolObservation recovery
      else
        return .ok (refusal "[ERROR] Recovery identity does not match one unresolved external-tool observation.", [])

/-- The arguments of a coordination operation, or the name of one that is no text. -/
def actArguments : List (String × Json) → Except String (List (String × String))
  | [] => .ok []
  | (k, .str v) :: members => (actArguments members).map ((k, v) :: ·)
  | (k, _) :: _ => .error k

def dispatchActToolCall (toolCall : LlmToolCallResult) : LoopProgram Dispatched :=
  let members := match toolExecutionArguments toolCall.arguments with | .obj members => members | _ => []
  match actArguments members with
  | .error k =>
      let content := "[ERROR] Coordination argument \"" ++ k ++ "\" must be a string."
      return .ok ({ content, ok := false, coordination := true }, [])
  | .ok args => do
      let answer : Except String (Option Json) ← Program.request (LoopRequest.act toolCall.name args)
      return do
        let result ← requireActionResult (← answer)
        let content := if result.ok then result.message else "[ERROR] " ++ result.message
        return ({ content, ok := result.ok, coordination := true }, [])

def dispatchToolCall (host : LoopHost) (ledger : OperationLedger) (toolCall : LlmToolCallResult) :
    LoopProgram Dispatched :=
  if toolCall.name = "done" then return .ok (dispatchDoneToolCall toolCall, [])
  else if toolCall.name = "read_content" then dispatchReadContentToolCall toolCall
  else if toolCall.name = "write_content" then dispatchWriteContentToolCall toolCall
  else if toolCall.name = RETRY_TOOL_OBSERVATION then dispatchRetryToolObservation ledger toolCall
  else if (externalName? toolCall.name).isSome then dispatchExternalToolCall host ledger toolCall
  else dispatchActToolCall toolCall

/-! ## One call -/

/-- What a call leads to: the next one, the signal that the model is done, or the end of the run. -/
inductive ToolRunOutcome where
  | next
  | doneSignaled (summary : String)
  | terminal (result : RunResult)

/-- What stays the same while the calls of a response are executed. -/
structure ToolExecutionContext where
  host : LoopHost
  maxTimeMs : ℚ
  turns : Nat
  startTime : ℚ

def isCoordinationToolCall (name : String) : Bool :=
  name ≠ "done" && name ≠ "read_content" && name ≠ "write_content" && name ≠ RETRY_TOOL_OBSERVATION &&
    (externalName? name).isNone

def checkRunLimits (host : LoopHost) (maxTimeMs : ℚ) (maxTurns turns : Nat) (startTime : ℚ) (s : ToolExecutionState) :
    LoopProgram (Option RunResult) := do
  let (aborted, now) ← LoopProgram.clock
  if aborted then return some (mkResult false "Run aborted by caller." turns s .aborted)
  else if now - startTime ≥ maxTimeMs then
    return some (mkResult false ("Time limit exceeded (" ++ host.print maxTimeMs ++ "ms).") turns s .maxTime)
  else if turns ≥ maxTurns then
    return some (mkResult false ("Turn limit exceeded (" ++ toString maxTurns ++ ").") turns s .maxTurns)
  else return none

def MAX_SAFE_INTEGER : Nat := 2 ^ 53 - 1

def recordDispatchResult (host : ArgumentHost) (ledger : OperationLedger) (toolCall : LlmToolCallResult)
    (result : ToolDispatchResult) : LedgerRecordResult × OperationLedger :=
  match result.observationFailure with
  | some recovery => ledger.recordExternalObservationFailure toolCall recovery
  | none =>
      match result.retriedObservation with
      | some recovery =>
          if result.ok then ledger.resolveExternalObservation recovery toolCall
          else ledger.record host toolCall result.ok result.coordination result.affectsResolution
      | none => ledger.record host toolCall result.ok result.coordination result.affectsResolution

section OneCall

variable (ctx : ToolExecutionContext) (s : ToolExecutionState) (toolCall : LlmToolCallResult)

/-- The end of a call: the event and the result in the transcript. -/
def answerCall (ok : Bool) (output : String) : LoopProgram ToolExecutionState := do
  LoopProgram.emit (.toolEnd ctx.turns toolCall.id toolCall.name ok output)
  return s.push (.tool toolCall.id output)

def toolError (message : String) : RunError :=
  { phase := .tool, message, retryable := false, toolCallId := some toolCall.id, toolName := some toolCall.name }

def failedToolDispatch (message : String) : LoopProgram (ToolRunOutcome × ToolExecutionState) := do
  let output := "[ERROR] " ++ toolCall.name ++ " threw: " ++ message
  let (_, ledger) := s.ledger.record ctx.host.argumentHost toolCall false (isCoordinationToolCall toolCall.name) true
  let s ← answerCall ctx { s with ledger } toolCall false output
  let summary := "Tool error (" ++ toolCall.name ++ "): " ++ message
  return (.terminal (mkResult false summary ctx.turns s .error (some (toolError toolCall message))), s)

def recordAndEmitDispatch (result : ToolDispatchResult) : LoopProgram ToolExecutionState := do
  let (recorded, ledger) := recordDispatchResult ctx.host.argumentHost s.ledger toolCall result
  let warning :=
    match recorded with
    | .invalidExplicit recoveryOf =>
        "\n[Warning] Recovery link " ++ RECOVERY_ARGUMENT_KEY ++ "=" ++ recoveryOf ++
          " did not identify one unresolved " ++ toolCall.name ++ " call; no failure was cleared."
    | _ => ""
  answerCall ctx { s with ledger } toolCall result.ok (result.content ++ warning)

def processDoneDispatch (result : ToolDispatchResult) (isLast : Bool) :
    LoopProgram (ToolRunOutcome × ToolExecutionState) :=
  if isLast = false then do
    let output := "[ERROR] Duplicate done calls are not a valid completion declaration."
    let (_, ledger) := s.ledger.record ctx.host.argumentHost toolCall false false false
    let s ← answerCall ctx { s with ledger } toolCall false output
    return (.terminal (mkResult false output ctx.turns s .error (some (toolError toolCall output))), s)
  else if result.ok = false then do
    let s ← recordAndEmitDispatch ctx s toolCall result
    return (.next, s)
  else do
    let ledger := s.ledger.clearPriorCompletionFailure
    let doneOk : Bool := ledger.unresolvedCount = 0
    let doneOutput :=
      if doneOk then result.content
      else "unresolved tool failure(s) remain (" ++ ", ".intercalate ledger.unresolvedTools ++ ")."
    let (_, ledger) := ledger.record ctx.host.argumentHost toolCall doneOk false false
    let s ← answerCall ctx { s with ledger } toolCall doneOk doneOutput
    return (.doneSignaled result.content, s)

def executeOneToolCall (isLast : Bool) : LoopProgram (ToolRunOutcome × ToolExecutionState) := do
  match ← checkRunLimits ctx.host ctx.maxTimeMs MAX_SAFE_INTEGER ctx.turns ctx.startTime s with
  | some limitResult => return (.terminal limitResult, s)
  | none =>
      LoopProgram.emit (.toolStart ctx.turns toolCall)
      match ← dispatchToolCall ctx.host s.ledger toolCall with
      | .error message => failedToolDispatch ctx s toolCall message
      | .ok (result, refs) =>
          let s := { s with producedRefs := s.producedRefs ++ refs }
          if result.isDone then processDoneDispatch ctx s toolCall result isLast
          else
            let s ← recordAndEmitDispatch ctx s toolCall result
            if result.ok = false ∧ result.affectsResolution = false then
              return (.terminal (mkResult false result.content ctx.turns s .error
                (some (toolError toolCall result.content))), s)
            else return (.next, s)

end OneCall

def isCompleted (completed : List MessageObject) (toolCall : LlmToolCallResult) : Bool :=
  completed.any fun m => match m.message with | .tool toolCallId _ => toolCallId = toolCall.id | _ => false

/-- A result for every call that did not run. -/
def completeTerminatedToolGroup (ctx : ToolExecutionContext) (toolCalls : List LlmToolCallResult)
    (terminalCall : LlmToolCallResult) (resultStart : Nat) (s : ToolExecutionState) : ToolExecutionState :=
  let completed := s.messages.drop resultStart
  (toolCalls.filter fun toolCall => !isCompleted completed toolCall).foldl (fun s toolCall =>
    let output :=
      "[SKIPPED: NOT EXECUTED] Execution stopped at tool call " ++ terminalCall.id ++ " (" ++ terminalCall.name ++
        ") before " ++ toolCall.id ++ " (" ++ toolCall.name ++ ") ran."
    let (_, ledger) := s.ledger.record ctx.host.argumentHost toolCall false false false
    { s with ledger }.push (.tool toolCall.id output)) s

def refreshRunToolTally (result : RunResult) (ledger : OperationLedger) : RunResult :=
  { result with operations := ledger.operationTally, toolCalls := ledger.toolTally }

def executeCallsFrom (ctx : ToolExecutionContext) (toolCalls : List LlmToolCallResult) (resultStart : Nat) :
    List LlmToolCallResult → ToolExecutionState → LoopProgram (ToolRunOutcome × ToolExecutionState)
  | [], s => return (.next, s)
  | toolCall :: rest, s => do
      let (outcome, s) ← executeOneToolCall ctx s toolCall rest.isEmpty
      match outcome with
      | .next => executeCallsFrom ctx toolCalls resultStart rest s
      | .doneSignaled summary => return (.doneSignaled summary, s)
      | .terminal result =>
          let s := completeTerminatedToolGroup ctx toolCalls toolCall resultStart s
          return (.terminal (refreshRunToolTally result s.ledger), s)

def executeToolCalls (ctx : ToolExecutionContext) (s : ToolExecutionState) (toolCalls : List LlmToolCallResult) :
    LoopProgram (ToolRunOutcome × ToolExecutionState) :=
  executeCallsFrom ctx toolCalls s.messages.length toolCalls s

end Cantilune.AgentLoop
