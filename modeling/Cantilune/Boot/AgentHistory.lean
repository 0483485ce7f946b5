import Cantilune.Base.JsString
import Cantilune.Syscall.UseTool

/-!
# The transcript of an agent

Messages, the reusable history as it is validated and normalized, and the window of the transcript that a request to
the model gets. An assistant message with tool calls and the results of these calls stay together.
-/

namespace Cantilune.AgentLoop

/-! ## Messages -/

/-- A call in an assistant message, its arguments a JSON text. -/
structure LlmToolCall where
  id : String
  name : String
  arguments : String
  deriving DecidableEq

inductive LlmMessage where
  | system (content : String)
  | user (content : String)
  | assistant (content : String) (toolCalls : Option (List LlmToolCall))
  | tool (toolCallId : String) (content : String)
  deriving DecidableEq

def COMPACTION_MARKER_PREFIX : String := "[Conversation compacted:"

namespace LlmMessage

def toolCalls : LlmMessage → List LlmToolCall
  | .assistant _ (some calls) => calls
  | _ => []

def isSystem : LlmMessage → Bool
  | .system _ => true
  | _ => false

def isTool : LlmMessage → Bool
  | .tool _ _ => true
  | _ => false

def answers (call : LlmToolCall) : LlmMessage → Bool
  | .tool toolCallId _ => toolCallId = call.id
  | _ => false

end LlmMessage

def isCompactionMarker : LlmMessage → Bool
  | .system content => COMPACTION_MARKER_PREFIX.toList.isPrefixOf content.toList
  | _ => false

/-- The first match of `/compacted:\s*(\d+)/u`. -/
def compactedCount : List Char → Option Nat
  | [] => none
  | c :: cs =>
      let digits := (((c :: cs).drop 10).dropWhile JsString.isWhite).takeWhile Char.isDigit
      if "compacted:".toList.isPrefixOf (c :: cs) ∧ digits ≠ [] then
        some (digits.foldl (fun n d => 10 * n + (d.toNat - '0'.toNat)) 0)
      else compactedCount cs

def markerDroppedCount (message : LlmMessage) : Nat :=
  match message with
  | .system content => if isCompactionMarker message then (compactedCount content.toList).getD 0 else 0
  | _ => 0

/-! ## Validation -/

def requireToolCalls (ids : List String) : List Json → Except String (List LlmToolCall)
  | [] => .ok []
  | entry :: entries =>
      match entry.get? "id", entry.get? "name", entry.get? "arguments" with
      | some (.str id), some (.str name), some (.str arguments) =>
          if id = "" ∨ id ∈ ids ∨ name = "" then
            .error "AgentLoopHistory contains an invalid assistant tool call."
          else
            match Json.parse arguments with
            | none => .error "AgentLoopHistory contains invalid tool-call JSON."
            | some (.obj _) => do
                let calls ← requireToolCalls (id :: ids) entries
                return { id, name, arguments } :: calls
            | some _ => .error "AgentLoopHistory tool-call arguments must be a JSON object."
      | _, _, _ => .error "AgentLoopHistory contains an invalid assistant tool call."

def requireHistoryMessage (entry : Json) : Except String LlmMessage :=
  match entry.get? "content" with
  | some (.str content) =>
      match entry.get? "role" with
      | some (.str "system") => .ok (.system content)
      | some (.str "user") => .ok (.user content)
      | some (.str "tool") =>
          match entry.get? "toolCallId" with
          | some (.str toolCallId) =>
              if toolCallId = "" then .error "AgentLoopHistory contains an invalid tool result."
              else .ok (.tool toolCallId content)
          | _ => .error "AgentLoopHistory contains an invalid tool result."
      | some (.str "assistant") =>
          match entry.get? "toolCalls" with
          | none => .ok (.assistant content none)
          | some (.arr rawCalls) => do
              let toolCalls ← requireToolCalls [] rawCalls
              return .assistant content (some toolCalls)
          | some _ => .error "AgentLoopHistory assistant toolCalls must be an array."
      | _ => .error "AgentLoopHistory contains an unknown message role."
  | _ => .error "AgentLoopHistory contains an invalid message."

def requireHistoryMessages : Option Json → Except String (List LlmMessage)
  | some (.arr entries) => entries.mapM requireHistoryMessage
  | _ => .error "AgentLoopHistory messages must be an array."

def parseToolObservationRecovery (args : Json) : Option ToolObservationRecovery :=
  match args.get? "toolName", args.get? "originalToolCallId", args.get? "argumentsDigest", args.get? "outputRef",
    args.get? "receiptRef" with
  | some (.str toolName), some (.str originalToolCallId), some (.str argumentsDigest), some (.str outputRef),
      some (.str receiptRef) =>
      if toolName = "" ∨ originalToolCallId = "" ∨ isSha256Digest argumentsDigest = false ∨
          isSha256Digest outputRef = false ∨ isSha256Digest receiptRef = false then none
      else some { toolName, originalToolCallId, argumentsDigest, outputRef, receiptRef }
  | _, _, _, _, _ => none

def requirePending (identities : List (String × String × ContentRef)) :
    List Json → Except String (List ToolObservationRecovery)
  | [] => .ok []
  | entry :: entries =>
      match parseToolObservationRecovery entry with
      | none => .error "AgentLoopHistory contains an invalid pending observation identity."
      | some recovery =>
          let identity := (recovery.toolName, recovery.originalToolCallId, recovery.outputRef)
          if identity ∈ identities then
            .error "AgentLoopHistory contains a duplicate pending observation identity."
          else do
            let pending ← requirePending (identity :: identities) entries
            return recovery :: pending

def requirePendingToolObservations : Option Json → Except String (List ToolObservationRecovery)
  | some (.arr entries) => requirePending [] entries
  | _ => .error "AgentLoopHistory pending observations must be an array."

structure AgentLoopHistory where
  messages : List LlmMessage
  pendingToolObservations : List ToolObservationRecovery

def requireAgentLoopHistory (value : Json) : Except String AgentLoopHistory :=
  match value with
  | .obj _ => do
      let messages ← requireHistoryMessages (value.get? "messages")
      let pendingToolObservations ← requirePendingToolObservations (value.get? "pendingToolObservations")
      return { messages, pendingToolObservations }
  | _ => .error "AgentLoopHistory must be an object."

def isCompleteGroup (calls : List LlmToolCall) (results : List LlmMessage) : Bool :=
  results.length = calls.length && (results.zip calls).all fun p => p.1.answers p.2

/-- The loop of the normalization, with how many messages it skips and whether it saw a marker. -/
def normalizeFrom : Nat → Bool → List LlmMessage → List LlmMessage
  | _, _, [] => []
  | skip + 1, sawMarker, _ :: rest => normalizeFrom skip sawMarker rest
  | 0, sawMarker, message :: rest =>
      if message.isTool then normalizeFrom 0 sawMarker rest
      else if isCompactionMarker message then
        if sawMarker then normalizeFrom 0 true rest else message :: normalizeFrom 0 true rest
      else if message.toolCalls ≠ [] then
        let calls := message.toolCalls
        let results := rest.take calls.length
        if (calls.map (·.id)).Nodup ∧ isCompleteGroup calls results = true then
          message :: (results ++ normalizeFrom calls.length sawMarker rest)
        else normalizeFrom 0 sawMarker rest
      else message :: normalizeFrom 0 sawMarker rest

def normalizeHistoryMessages (input : List LlmMessage) : List LlmMessage := normalizeFrom 0 false input

def initializeMessages (seed : List LlmMessage) (systemPrompt : String) : List LlmMessage :=
  .system systemPrompt :: (normalizeHistoryMessages seed).filter fun m => !m.isSystem || isCompactionMarker m

/-! ## The window -/

/-- A message of the running transcript; the identity tells it from others that read the same. -/
structure MessageObject where
  identity : Nat
  message : LlmMessage
  deriving DecidableEq

/-- The groups of indices that go together: an assistant message with calls and the results after it, or a message. -/
def messageUnitsFrom : Nat → Option (List Nat) → List MessageObject → List (List Nat)
  | _, unit, [] => unit.toList
  | index, some indices, m :: rest =>
      if m.message.isTool then messageUnitsFrom (index + 1) (some (indices ++ [index])) rest
      else if m.message.toolCalls ≠ [] then indices :: messageUnitsFrom (index + 1) (some [index]) rest
      else indices :: [index] :: messageUnitsFrom (index + 1) none rest
  | index, none, m :: rest =>
      if m.message.toolCalls ≠ [] then messageUnitsFrom (index + 1) (some [index]) rest
      else [index] :: messageUnitsFrom (index + 1) none rest

def messageUnits (messages : List MessageObject) : List (List Nat) := messageUnitsFrom 0 none messages

/-- The greedy choice among the units, the newest first. -/
def selectUnits (remaining : Nat) : List (List Nat) → List Nat
  | [] => []
  | unit :: units =>
      if unit.length > remaining then selectUnits remaining units
      else unit ++ selectUnits (remaining - unit.length) units

def compactionMarker (dropped : Nat) : LlmMessage :=
  .system (COMPACTION_MARKER_PREFIX ++ " " ++ toString dropped ++ " earlier message(s) omitted.]")

/-- The identity of what is made for a window: its marker, and in a request the message about the world. -/
def WINDOW_IDENTITY : Nat := 0

def requiredPrompt (core : List MessageObject) (limit : Nat) (initialGoal : MessageObject) : List Nat :=
  let goal := (core.findIdx? fun m => m.identity = initialGoal.identity).toList
  match core.findIdx? fun m => m.message.isSystem with
  | some systemIndex => if goal.length < limit then goal.insert systemIndex else goal
  | none => goal

def latestToolUnit (core : List MessageObject) : Option (List Nat) :=
  (messageUnits core).reverse.find? fun unit =>
    match unit.head?.bind (core[·]?) with
    | some m => m.message.toolCalls ≠ []
    | none => false

/-- The indices that are kept in any case: these and the latest tool group if it fits. -/
def requiredIndices (core : List MessageObject) (limit : Nat) (initialGoal : MessageObject) : List Nat :=
  let prompt := requiredPrompt core limit initialGoal
  match latestToolUnit core with
  | some unit => if unit.length ≤ limit - prompt.length then prompt ++ unit else prompt
  | none => prompt

def compactMessages (messages : List MessageObject) (limit : Nat) (initialGoal : MessageObject) :
    List MessageObject :=
  if limit = 0 then []
  else
    let markers := messages.filter fun m => isCompactionMarker m.message
    let previouslyDropped := (markers.map fun m => markerDroppedCount m.message).sum
    let core := messages.filter fun m => !isCompactionMarker m.message
    let required := requiredIndices core limit initialGoal
    let candidates := (messageUnits core).filter fun unit => !unit.any (· ∈ required)
    let selectWithMarkerSlots := fun markerSlots =>
      required ++ selectUnits (limit - required.length - markerSlots) candidates.reverse
    let wantsMarker := (previouslyDropped > 0 ∨ core.length > limit) ∧ required.length < limit
    let selected :=
      if wantsMarker ∧ (selectWithMarkerSlots 0).length ≤ (selectWithMarkerSlots 1).length then
        selectWithMarkerSlots 1
      else selectWithMarkerSlots 0
    let hasMarkerSlot := wantsMarker ∧ (selectWithMarkerSlots 0).length ≤ (selectWithMarkerSlots 1).length
    let retained := (selected.insertionSort (· ≤ ·)).filterMap (core[·]?)
    let dropped := previouslyDropped + core.length - retained.length
    if dropped = 0 ∨ ¬ hasMarkerSlot then retained.take limit
    else
      let marker : MessageObject := { identity := WINDOW_IDENTITY, message := compactionMarker dropped }
      let system := (core.findIdx? fun m => m.message.isSystem).bind (core[·]?)
      match retained.findIdx? fun m => (system.map (·.identity)) = some m.identity with
      | none => (marker :: retained).take limit
      | some systemIndex =>
          (retained.take (systemIndex + 1) ++ marker :: retained.drop (systemIndex + 1)).take limit

/-- The newest assistant message with calls that is followed by the results of these. -/
def latestToolGroup : List MessageObject → Option (List MessageObject)
  | [] => none
  | m :: rest =>
      match latestToolGroup rest with
      | some group => some group
      | none =>
          let results := rest.take m.message.toolCalls.length
          if m.message.toolCalls ≠ [] ∧ isCompleteGroup m.message.toolCalls (results.map (·.message)) = true then
            some (m :: results)
          else none

end Cantilune.AgentLoop
