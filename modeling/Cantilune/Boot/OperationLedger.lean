import Cantilune.Boot.AgentHistory

/-!
# The ledger of an agent's tool calls

Failures stay in the ledger until a success resolves them. A failed call is kept under its tool and canonical
arguments, an output whose observation failed under its tool, call id and output.
-/

namespace Cantilune.AgentLoop

def RECOVERY_ARGUMENT_KEY : String := "cantiluneRecoveryOf"
def RETRY_TOOL_OBSERVATION : String := "retry_tool_observation"

/-! ## Calls -/

/-- A call that the model asks for. -/
structure LlmToolCallResult where
  id : String
  name : String
  arguments : Json
  deriving DecidableEq

def externalName? (name : String) : Option String :=
  match name.toList with
  | 't' :: 'o' :: 'o' :: 'l' :: ':' :: rest => some (String.ofList rest)
  | _ => none

def receiptToolName (recovery : ToolObservationRecovery) : String := "tool:" ++ recovery.toolName

def supportsGenericExplicitRecovery (name : String) : Bool := name = "read_content" || name = "write_content"

def toolRecoveryOf (toolCall : LlmToolCallResult) : Option String :=
  if supportsGenericExplicitRecovery toolCall.name = false ∧ (externalName? toolCall.name).isNone then none
  else
    match toolCall.arguments.get? RECOVERY_ARGUMENT_KEY with
    | some (.str raw) => if raw = "" then none else some raw
    | _ => none

def toolExecutionArguments : Json → Json
  | .obj members => fromEntries (members.filter fun m => m.1 ≠ RECOVERY_ARGUMENT_KEY)
  | _ => .obj []

def toolArgumentsDigest (host : ArgumentHost) (args : Json) : Option String :=
  (canonicalToolArguments host args).map (·.digest)

/-- The arguments that count, with the members of every object in order. -/
def semanticArguments (host : ArgumentHost) (toolCall : LlmToolCallResult) : Json :=
  let executionArguments := toolExecutionArguments toolCall.arguments
  let text := fun k => match executionArguments.get? k with | some (.str s) => some s | _ => none
  canonicalJson host.localeCompare
    (if toolCall.name = "read_content" then .obj [("ref", .str ((text "ref").getD ""))]
    else if toolCall.name = "write_content" then
      .obj [("content", .str ((text "content").getD "")), ("mimeType", (text "mimeType").elim .null .str)]
    else executionArguments)

/-- A key of the ledger: the name of the completion, a name before the JSON text of an object, or the JSON text of an
array. No two of these texts are the same. -/
inductive LedgerKey where
  | completion
  | call (toolName : String) (arguments : Json)
  | observation (toolName originalToolCallId : String) (outputRef : ContentRef)
  deriving DecidableEq

def toolResolutionKey (host : ArgumentHost) (toolCall : LlmToolCallResult) : LedgerKey :=
  if toolCall.name = "done" then .completion else .call toolCall.name (semanticArguments host toolCall)

def observationKey (recovery : ToolObservationRecovery) : LedgerKey :=
  .observation (receiptToolName recovery) recovery.originalToolCallId recovery.outputRef

/-- What an external call is told from others by: its key, or its name before the digest of its arguments. -/
inductive SemanticKey where
  | call (key : LedgerKey)
  | digest (toolName digest : String)
  deriving DecidableEq

/-! ## The ledger -/

structure UnresolvedToolFailure where
  toolCallId : String
  toolName : String
  semanticKey : Option SemanticKey
  observationRecovery : Option ToolObservationRecovery
  deriving DecidableEq

inductive LedgerRecordResult where
  | notApplicable | none | exact | recordedFailure
  | explicit (recoveryOf : String)
  | invalidExplicit (recoveryOf : String)
  deriving DecidableEq

structure RunOperationTally where
  committed : Nat
  rejected : Nat

structure RunToolTally where
  total : Nat
  succeeded : Nat
  failed : Nat
  unresolved : Nat

structure OperationLedger where
  committedCount : Nat
  rejectedCount : Nat
  succeededCount : Nat
  failedCount : Nat
  unresolvedByKey : OrdMap LedgerKey UnresolvedToolFailure

/-- The entry of an output that was not observed. -/
def observationFailure (recovery : ToolObservationRecovery) : UnresolvedToolFailure where
  toolCallId := recovery.originalToolCallId
  toolName := receiptToolName recovery
  semanticKey := some (.digest (receiptToolName recovery) recovery.argumentsDigest)
  observationRecovery := some recovery

namespace OperationLedger

def create (pendingToolObservations : List ToolObservationRecovery) : OperationLedger where
  committedCount := 0
  rejectedCount := 0
  succeededCount := 0
  failedCount := 0
  unresolvedByKey := .ofList (pendingToolObservations.map fun r => (observationKey r, observationFailure r))

variable (host : ArgumentHost) (ledger : OperationLedger) (toolCall : LlmToolCallResult)

def recordCounts (ok coordination : Bool) : OperationLedger :=
  { ledger with
    succeededCount := if ok then ledger.succeededCount + 1 else ledger.succeededCount
    failedCount := if ok then ledger.failedCount else ledger.failedCount + 1
    committedCount := if coordination && ok then ledger.committedCount + 1 else ledger.committedCount
    rejectedCount := if coordination && !ok then ledger.rejectedCount + 1 else ledger.rejectedCount }

def keysOf (toolName toolCallId : String) : List LedgerKey :=
  (ledger.unresolvedByKey.entries.filter fun e => e.2.toolCallId = toolCallId ∧ e.2.toolName = toolName).map (·.1)

def resolveSuccessfulCall : LedgerRecordResult × OperationLedger :=
  if (externalName? toolCall.name).isSome then (.none, ledger)
  else
    match toolRecoveryOf toolCall with
    | none =>
        let key := toolResolutionKey host toolCall
        if ledger.unresolvedByKey.has key then
          (.exact, { ledger with unresolvedByKey := ledger.unresolvedByKey.delete key })
        else (.none, ledger)
    | some recoveryOf =>
        if supportsGenericExplicitRecovery toolCall.name = false then (.invalidExplicit recoveryOf, ledger)
        else
          match ledger.keysOf toolCall.name recoveryOf with
          | [matchedKey] =>
              (.explicit recoveryOf, { ledger with unresolvedByKey := ledger.unresolvedByKey.delete matchedKey })
          | _ => (.invalidExplicit recoveryOf, ledger)

def recordFailedCall : LedgerRecordResult × OperationLedger :=
  let key := toolResolutionKey host toolCall
  let failure : UnresolvedToolFailure :=
    { toolCallId := toolCall.id, toolName := toolCall.name
      semanticKey := if (externalName? toolCall.name).isSome then some (.call key) else none
      observationRecovery := none }
  (.recordedFailure, { ledger with unresolvedByKey := ledger.unresolvedByKey.set key failure })

def record (ok coordination affectsResolution : Bool) : LedgerRecordResult × OperationLedger :=
  let ledger := ledger.recordCounts ok coordination
  if affectsResolution = false then (.notApplicable, ledger)
  else if ok then ledger.resolveSuccessfulCall host toolCall
  else ledger.recordFailedCall host toolCall

def recordExternalObservationFailure (recovery : ToolObservationRecovery) : LedgerRecordResult × OperationLedger :=
  let ledger := ledger.recordCounts false false
  let key : LedgerKey := .observation toolCall.name toolCall.id recovery.outputRef
  let failure : UnresolvedToolFailure :=
    { toolCallId := toolCall.id, toolName := toolCall.name
      semanticKey := some (.digest toolCall.name recovery.argumentsDigest), observationRecovery := some recovery }
  (.recordedFailure, { ledger with unresolvedByKey := ledger.unresolvedByKey.set key failure })

/-- The failure is of the observation with this call id, output and receipt. -/
def isObservationOf (recovery : ToolObservationRecovery) (failure : UnresolvedToolFailure) : Bool :=
  match failure.observationRecovery with
  | some r =>
      r.originalToolCallId = recovery.originalToolCallId && r.outputRef = recovery.outputRef &&
        r.receiptRef = recovery.receiptRef
  | none => false

def resolveExternalObservation (recovery : ToolObservationRecovery) (retryCall : LlmToolCallResult) :
    LedgerRecordResult × OperationLedger :=
  let ledger := ledger.recordCounts true false
  match ledger.unresolvedByKey.entries.find? fun e => isObservationOf recovery e.2 with
  | none => (.invalidExplicit recovery.originalToolCallId, ledger)
  | some e => (.explicit retryCall.id, { ledger with unresolvedByKey := ledger.unresolvedByKey.delete e.1 })

def onlyObservation (failures : List UnresolvedToolFailure) : Option ToolObservationRecovery :=
  match failures with
  | [failure] => failure.observationRecovery
  | _ => none

def externalObservationForCall (toolName originalToolCallId : String) : Option ToolObservationRecovery :=
  onlyObservation (ledger.unresolvedByKey.values.filter fun failure =>
    failure.toolName = toolName ∧ failure.toolCallId = originalToolCallId ∧ failure.observationRecovery.isSome)

def externalObservationForExactRetry : Option ToolObservationRecovery :=
  match toolArgumentsDigest host (toolExecutionArguments toolCall.arguments) with
  | none => none
  | some digest =>
      onlyObservation (ledger.unresolvedByKey.values.filter fun failure =>
        failure.toolName = toolCall.name ∧ failure.semanticKey = some (.digest toolCall.name digest) ∧
          failure.observationRecovery.isSome)

def hasUnresolvedExactExternalFailure : Bool :=
  let semanticKey : SemanticKey := .call (toolResolutionKey host toolCall)
  let receiptSemanticKey : Option SemanticKey :=
    (toolArgumentsDigest host (toolExecutionArguments toolCall.arguments)).map (.digest toolCall.name)
  ledger.unresolvedByKey.values.any fun failure =>
    failure.toolName = toolCall.name &&
      (failure.semanticKey = some semanticKey || failure.semanticKey = receiptSemanticKey)

def pendingToolObservations : List ToolObservationRecovery :=
  ledger.unresolvedByKey.values.filterMap (·.observationRecovery)

def clearPriorCompletionFailure : OperationLedger :=
  { ledger with unresolvedByKey := ledger.unresolvedByKey.delete .completion }

def operationTally : RunOperationTally where
  committed := ledger.committedCount
  rejected := ledger.rejectedCount

def unresolvedCount : Nat := ledger.unresolvedByKey.size

def toolTally : RunToolTally where
  total := ledger.succeededCount + ledger.failedCount
  succeeded := ledger.succeededCount
  failed := ledger.failedCount
  unresolved := ledger.unresolvedCount

def unresolvedTools : List String :=
  (ledger.unresolvedByKey.values.map (·.toolName)).dedup.insertionSort fun a b => !JsString.lt b a

end OperationLedger

end Cantilune.AgentLoop
