import Cantilune.Base.Program
import Cantilune.Syscall.ToolJournal

/-!
# The use of a tool

A call reads the journal, asks for approval where its tier needs it, writes its entry, executes the tool, stores the
output and lets the runtime observe it. A call that finds its entry goes by the tier of the tool.
-/

namespace Cantilune

inductive ToolExecutionTier where
  | read | idempotent | nonIdempotent
  deriving DecidableEq

def DEFAULT_APPROVAL_TIERS : List ToolExecutionTier := [.idempotent, .nonIdempotent]

def TOOL_OBSERVATION_RECEIPT_KIND : String := "cantilune.external-tool-observation-recovery"
def TOOL_OBSERVATION_RECEIPT_VERSION : ℚ := 1
def TOOL_OBSERVATION_RECEIPT_MIME : String := "application/vnd.cantilune.tool-observation-recovery+json"
def TOOL_OBSERVATION_RECEIPT_CREATOR : String := "cantilune:tool-observation-recovery:v1"

structure ToolCall where
  callId : String
  toolName : String
  args : Json

structure ToolObservationRecovery where
  toolName : String
  originalToolCallId : String
  argumentsDigest : String
  outputRef : ContentRef
  receiptRef : ContentRef
  deriving DecidableEq

inductive ToolDisposition where
  | ambiguous
  deriving DecidableEq

structure ToolResult where
  ok : Bool
  output : String
  contentRef : Option ContentRef
  observeWarning : Option String
  observationRecovery : Option ToolObservationRecovery
  disposition : Option ToolDisposition := none
  deriving DecidableEq

structure ToolExecutor where
  tier : Option ToolExecutionTier
  tierFor : String → Option ToolExecutionTier
  hasReconcile : Bool

structure ToolApprover where
  requiresApprovalFor : Option (List ToolExecutionTier)

structure ToolApprovalRequest where
  toolName : String
  args : Json
  tier : ToolExecutionTier
  key : ToolInvocationKey

inductive ToolApprovalDecision where
  | allowed
  | denied (reason : String)

inductive ToolReconcileResult where
  | known (output : String)
  | unknown

/-! ## Requests -/

/-- What a call asks of the store, the tool, the approver and the runtime. -/
inductive ToolRequest where
  | get (ref : ContentRef)
  | put (content : StoredContent) (options : ContentPutOptions)
  | requestApproval (request : ToolApprovalRequest)
  | reconcile (key : ToolInvocationKey)
  | execute (toolName : String) (args : Json)
  | observe (payloadRef : ContentRef)

/-- An answer, or the message of the error that comes in its place. What a tool or the runtime answers is `none` where
it is no JSON value. -/
@[reducible] def ToolRequest.Response : ToolRequest → Type
  | .get _ => Except String (Option ContentBlob)
  | .put _ _ => Except String ContentRef
  | .requestApproval _ => Except String ToolApprovalDecision
  | .reconcile _ => Except String ToolReconcileResult
  | .execute _ _ => Except String (Option Json)
  | .observe _ => Except String (Option Json)

abbrev ToolProgram := Program ToolRequest ToolRequest.Response String

namespace ToolProgram

def get (ref : ContentRef) : ToolProgram (Except String (Option ContentBlob)) := Program.request (ToolRequest.get ref)

/-- An error of the store is not caught. -/
def put (content : StoredContent) (options : ContentPutOptions) : ToolProgram ContentRef := do
  let stored : Except String ContentRef ← Program.request (ToolRequest.put content options)
  .ofExcept stored

def requestApproval (request : ToolApprovalRequest) : ToolProgram (Except String ToolApprovalDecision) :=
  Program.request (ToolRequest.requestApproval request)

def reconcile (key : ToolInvocationKey) : ToolProgram (Except String ToolReconcileResult) :=
  Program.request (ToolRequest.reconcile key)

def execute (toolName : String) (args : Json) : ToolProgram (Except String (Option Json)) :=
  Program.request (ToolRequest.execute toolName args)

def observe (payloadRef : ContentRef) : ToolProgram (Except String (Option Json)) :=
  Program.request (ToolRequest.observe payloadRef)

end ToolProgram

/-! ## Results -/

def preflightFailure (output : String) : ToolResult where
  ok := false
  output := output
  contentRef := none
  observeWarning := none
  observationRecovery := none

def failedObservationResult (output : String) (outputRef : ContentRef) (warning : String)
    (observationRecovery : Option ToolObservationRecovery) : ToolResult where
  ok := false
  output := output
  contentRef := some outputRef
  observeWarning := some warning
  observationRecovery := observationRecovery

def ambiguousFailure (key : ToolInvocationKey) (reason : String) : ToolResult where
  ok := false
  output :=
    "Ambiguous external-tool invocation for " ++ key.toolName ++ " (callId " ++ key.originalToolCallId ++ "): " ++
      reason ++ " An operator must verify whether the side effect landed before retrying."
  contentRef := none
  observeWarning := none
  observationRecovery := none
  disposition := some .ambiguous

structure ExecutorResult where
  ok : Bool
  output : String

/-- The result of an executor, or `none` where it is none. -/
def requireToolExecutorResult : Option Json → Option ExecutorResult
  | some (.obj members) =>
      match (Json.obj members).get? "ok", (Json.obj members).get? "output" with
      | some (.bool ok), some (.str output) => some { ok, output }
      | _, _ => none
  | _ => none

structure ObserveResult where
  ok : Bool
  message : Option String

def materializeObserveResult : Option Json → Except String ObserveResult
  | none => .error "runtime returned a non-cloneable observation result"
  | some (.obj members) =>
      match (Json.obj members).get? "ok", (Json.obj members).get? "message" with
      | some (.bool ok), none => .ok { ok, message := none }
      | some (.bool ok), some (.str message) => .ok { ok, message := some message }
      | _, _ => .error "runtime returned an invalid observation result"
  | some _ => .error "runtime returned an invalid observation result"

section UseTool

variable (host : ContentHost) (principal : SyscallPrincipal) (call : ToolCall) (arguments : CanonicalArguments)
  (key : ToolInvocationKey)

/-- The intent under a ref. An error of the store counts as its absence. -/
def readIntent (ref : ContentRef) : ToolProgram (Option ToolInvocationIntent) := do
  match ← ToolProgram.get ref with
  | .ok (some blob) => return blobIntent host ref blob
  | _ => return none

def writeIntent (status : IntentStatus) (outputRef : Option ContentRef) : ToolProgram ContentRef := do
  let _ ← ToolProgram.put (.json (intentText (key.intent status outputRef)))
    { mimeType := some TOOL_INVOCATION_INTENT_MIME, createdBy := some TOOL_INVOCATION_INTENT_CREATOR }
  return intentRef host key status outputRef

def ToolApprover.gates (approver : Option ToolApprover) (tier : ToolExecutionTier) : Bool :=
  match approver with
  | none => false
  | some approver => tier ∈ approver.requiresApprovalFor.getD DEFAULT_APPROVAL_TIERS

def requestToolApproval (approver : Option ToolApprover) (request : ToolApprovalRequest) :
    ToolProgram ToolApprovalDecision :=
  if ToolApprover.gates approver request.tier then do
    match ← ToolProgram.requestApproval request with
    | .ok decision => return decision
    | .error _ => return .denied "the approval gate was unavailable"
  else return .allowed

/-! ## Execution -/

def receiptText (outputRef : ContentRef) : Json :=
  .record
    [("kind", some (.str TOOL_OBSERVATION_RECEIPT_KIND)), ("version", some (.num TOOL_OBSERVATION_RECEIPT_VERSION)),
      ("principal",
        some (.record [("actorId", some (.str principal.actorId)), ("kind", some (.str principal.kind))])),
      ("toolName", some (.str call.toolName)), ("originalToolCallId", some (.str call.callId)),
      ("argumentsDigest", some (.str arguments.digest)), ("outputRef", some (.str outputRef))]

def createObservationRecovery (outputRef : ContentRef) : ToolProgram (Option ToolObservationRecovery) :=
  if call.callId = "" ∨ isSha256Digest arguments.digest = false then return none
  else do
    let receiptRef ← ToolProgram.put (.json (receiptText principal call arguments outputRef))
      { mimeType := some TOOL_OBSERVATION_RECEIPT_MIME, createdBy := some TOOL_OBSERVATION_RECEIPT_CREATOR }
    return some
      { toolName := call.toolName, originalToolCallId := call.callId, argumentsDigest := arguments.digest, outputRef
        receiptRef }

/-- Stores an output, journals the completion and observes. -/
def commitReconciledOutput (output : String) : ToolProgram ToolResult := do
  let ref ← ToolProgram.put (.text output)
    { mimeType := some "text/plain", createdBy := some ("tool:" ++ call.toolName) }
  let observationRecovery ← createObservationRecovery principal call arguments ref
  let _ ← writeIntent host key .completed (some ref)
  let observed ← ToolProgram.observe ref
  let notInTrail := ". Tool output stored at " ++ ref ++ " but not in audit trail."
  match observed.bind materializeObserveResult with
  | .error message =>
      return failedObservationResult output ref ("Observation error: " ++ message ++ notInTrail) observationRecovery
  | .ok result =>
      if result.ok then
        return { ok := true, output, contentRef := some ref, observeWarning := none, observationRecovery := none }
      else
        return failedObservationResult output ref
          ("Observation rejected: " ++ result.message.getD "unknown" ++ notInTrail) observationRecovery

def dispatchAndCommit : ToolProgram ToolResult := do
  match ← ToolProgram.execute call.toolName arguments.args with
  | .error _ => return preflightFailure "Tool executor returned an invalid result."
  | .ok value =>
      match requireToolExecutorResult value with
      | none => return preflightFailure "Tool executor returned an invalid result."
      | some result =>
          if result.ok then commitReconciledOutput host principal call arguments key result.output
          else return preflightFailure result.output

/-- The entry is there: what happens goes by the tier alone. -/
def recoverDispatchedInvocation (executor : ToolExecutor) (tier : ToolExecutionTier) : ToolProgram ToolResult :=
  match tier with
  | .read => dispatchAndCommit host principal call arguments key
  | .nonIdempotent =>
      return ambiguousFailure key "Non-idempotent tool was dispatched but produced no durable output."
  | .idempotent =>
      if executor.hasReconcile then do
        match ← ToolProgram.reconcile key with
        | .error _ => return ambiguousFailure key "Tool reconcile raised an error."
        | .ok (.known output) => commitReconciledOutput host principal call arguments key output
        | .ok .unknown => dispatchAndCommit host principal call arguments key
      else return ambiguousFailure key "Idempotent tool declared no reconcile method."

/-- The entry is not there: the tool is executed if it may be, after the entry is written. -/
def dispatchFresh (approver : Option ToolApprover) (tier : ToolExecutionTier) : ToolProgram ToolResult := do
  let request : ToolApprovalRequest := { toolName := call.toolName, args := arguments.args, tier, key }
  match ← requestToolApproval approver request with
  | .denied reason =>
      return preflightFailure
        ("Tool " ++ call.toolName ++ " was not authorized: " ++ reason ++ " No side effect was dispatched.")
  | .allowed =>
      let _ ← writeIntent host key .dispatched none
      dispatchAndCommit host principal call arguments key

end UseTool

def invocationKey (principal : SyscallPrincipal) (toolName argumentsDigest originalToolCallId : String) :
    ToolInvocationKey :=
  { principal, toolName, argumentsDigest, originalToolCallId }

/-- One call with the executor and the approver that it is given. -/
structure ToolInvocation where
  principal : SyscallPrincipal
  toolExecutor : Option ToolExecutor
  call : ToolCall
  toolApprover : Option ToolApprover

def ToolExecutor.tierOf (executor : ToolExecutor) (toolName : String) : ToolExecutionTier :=
  (executor.tierFor toolName).getD (executor.tier.getD .nonIdempotent)

def argumentsRequired : String :=
  "A non-empty callId and canonical JSON arguments are required before tool execution."

def useTool (host : ContentHost) (argumentHost : ArgumentHost) (invocation : ToolInvocation) :
    ToolProgram ToolResult :=
  let { principal, toolExecutor, call, toolApprover } := invocation
  match toolExecutor with
  | none => return preflightFailure "No tool executor configured."
  | some executor =>
      if call.toolName = "" then return preflightFailure "Tool name is required."
      else
        match canonicalToolArguments argumentHost call.args with
        | none => return preflightFailure argumentsRequired
        | some arguments =>
            if call.callId = "" then return preflightFailure argumentsRequired
            else do
              let key := invocationKey principal call.toolName arguments.digest call.callId
              let tier := executor.tierOf call.toolName
              match ← readIntent host (intentRef host key .dispatched) with
              | some _ => recoverDispatchedInvocation host principal call arguments key executor tier
              | none => dispatchFresh host principal call arguments key toolApprover tier

end Cantilune
