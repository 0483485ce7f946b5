import Cantilune.Base.Json
import Cantilune.Base.OrdMap

/-!
# Tasks of the A2A protocol

The objects of the protocol, version 1.0: messages and their parts, tasks with their status, artifacts and history,
the requests, and the events of a stream.
-/

namespace Cantilune

inductive A2AErrorName where
  | taskNotFound | taskNotCancelable | pushNotificationNotSupported | unsupportedOperation | contentTypeNotSupported
  | extendedAgentCardNotConfigured | extensionSupportRequired | versionNotSupported | invalidParams
  deriving DecidableEq

structure A2AProtocolError where
  name : A2AErrorName
  message : String
  deriving DecidableEq

/-! ## Messages -/

/-- An object of free form. -/
abbrev A2AMetadata := OrdMap String Json

inductive A2ARole where
  | unspecified | user | agent
  deriving DecidableEq

/-- A part holds exactly one of these. -/
inductive A2APartContent where
  | text (text : String)
  | raw (raw : String)
  | url (url : String)
  | data (data : Json)
  deriving DecidableEq

structure A2APart where
  content : A2APartContent
  metadata : Option A2AMetadata
  filename : Option String
  mediaType : Option String
  deriving DecidableEq

structure A2AMessage where
  messageId : String
  role : A2ARole
  parts : List A2APart
  contextId : Option String
  taskId : Option String
  metadata : Option A2AMetadata
  extensions : Option (List String)
  referenceTaskIds : Option (List String)
  deriving DecidableEq

structure A2AAuthenticationInfo where
  scheme : String
  credentials : Option String
  deriving DecidableEq

structure A2ATaskPushNotificationConfigInput where
  url : String
  id : Option String
  taskId : Option String
  token : Option String
  authentication : Option A2AAuthenticationInfo
  deriving DecidableEq

structure A2ASendMessageConfiguration where
  acceptedOutputModes : Option (List String)
  taskPushNotificationConfig : Option A2ATaskPushNotificationConfigInput
  historyLength : Option Int
  returnImmediately : Option Bool
  deriving DecidableEq

structure A2ASendMessageRequest where
  message : A2AMessage
  tenant : Option String
  configuration : Option A2ASendMessageConfiguration
  metadata : Option A2AMetadata
  deriving DecidableEq

/-! ## Tasks -/

inductive A2ATaskState where
  | unspecified | submitted | working | completed | failed | canceled | inputRequired | rejected | authRequired
  deriving DecidableEq

def isA2ATerminalTaskState : A2ATaskState → Bool
  | .completed | .failed | .canceled | .rejected => true
  | _ => false

def isA2ACancelableTaskState (state : A2ATaskState) : Bool := !isA2ATerminalTaskState state

structure A2ATaskStatus where
  state : A2ATaskState
  message : Option A2AMessage := none
  timestamp : Option String
  deriving DecidableEq

structure A2AArtifact where
  artifactId : String
  parts : List A2APart
  name : Option String
  description : Option String
  metadata : Option A2AMetadata
  extensions : Option (List String)
  deriving DecidableEq

structure A2ATask where
  id : String
  status : A2ATaskStatus
  contextId : Option String
  artifacts : Option (List A2AArtifact)
  history : Option (List A2AMessage)
  metadata : Option A2AMetadata
  deriving DecidableEq

/-- The events of a stream; an update names its task and the task's context. -/
inductive A2AStreamResponse where
  | task (task : A2ATask)
  | message (message : A2AMessage)
  | statusUpdate (taskId contextId : String) (status : A2ATaskStatus)
  | artifactUpdate (taskId contextId : String) (artifact : A2AArtifact) (lastChunk : Bool)
  deriving DecidableEq

structure A2AGetTaskRequest where
  id : String
  tenant : Option String
  historyLength : Option Int

structure A2AListTasksRequest where
  tenant : Option String
  contextId : Option String
  status : Option A2ATaskState
  pageSize : Option Int
  pageToken : Option String
  historyLength : Option Int
  statusTimestampAfter : Option String
  includeArtifacts : Option Bool

structure A2AListTasksResponse where
  tasks : List A2ATask
  nextPageToken : String
  pageSize : Int
  totalSize : Nat

structure A2ACancelTaskRequest where
  id : String
  tenant : Option String
  metadata : Option A2AMetadata

/-- `xs.slice(start)`: a negative start counts from the end. -/
def sliceFrom {α : Type} (xs : List α) (start : Int) : List α :=
  xs.drop (if start < 0 then xs.length + start else start).toNat

/-- The task with so many of the last messages. -/
def applyA2AHistoryLength (task : A2ATask) (historyLength : Option Int) : A2ATask :=
  match historyLength with
  | none => task
  | some 0 => { task with history := none }
  | some n => { task with history := task.history.map fun history => sliceFrom history (-n) }

def omitA2ATaskArtifacts (task : A2ATask) : A2ATask := { task with artifacts := none }

@[simp] theorem applyA2AHistoryLength_status (task : A2ATask) (n : Option Int) :
    (applyA2AHistoryLength task n).status = task.status := by
  unfold applyA2AHistoryLength
  split <;> rfl

end Cantilune
