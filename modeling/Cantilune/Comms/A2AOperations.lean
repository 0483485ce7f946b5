import Cantilune.Base.JsString
import Cantilune.Base.Runs
import Cantilune.Comms.A2ATask
import Cantilune.Comms.Records

/-!
# Operations of the A2A protocol

The engine behind every binding of the protocol. It keeps the tasks and their push configurations in memory; a
message creates a task or goes to one that is not settled, and the processor answers it.
-/

namespace Cantilune

def A2A_DEFAULT_LIST_PAGE_SIZE : Int := 50
def A2A_MAX_LIST_PAGE_SIZE : Int := 100
def A2A_PROTOCOL_VERSION_V1 : String := "1.0"

structure A2AServiceParameters where
  a2aVersion : Option String
  a2aExtensions : Option (List String)

structure A2APushNotificationConfig where
  id : String
  taskId : String
  url : String
  token : Option String
  authentication : Option A2AAuthenticationInfo
  deriving DecidableEq

structure A2AListPushNotificationConfigsResponse where
  configs : List A2APushNotificationConfig
  nextPageToken : String

inductive A2ASendMessageResult where
  | task (task : A2ATask)
  | message (message : A2AMessage)

inductive A2ATaskProcessResult where
  | task (state : A2ATaskState) (statusMessage : Option A2AMessage) (artifacts : Option (List A2AArtifact))
  | message (message : A2AMessage)

structure A2AAgentExtension where
  uri : Option String
  required : Option Bool

structure A2AAgentCapabilities where
  streaming : Option Bool
  pushNotifications : Option Bool
  extensions : Option (List A2AAgentExtension)
  extendedAgentCard : Option Bool

structure A2AAgentCard where
  capabilities : A2AAgentCapabilities
  defaultInputModes : List String

inductive A2AIdKind where
  | task | context | config | artifact
  deriving DecidableEq

abbrev A2AIdGenerator := Nat → A2AIdKind → String

/-- The engine; a task is kept under its own id. -/
structure A2AOperationEngine where
  tasks : OrdMap String A2ATask
  pushConfigs : OrdMap String (List A2APushNotificationConfig)
  agentCard : A2AAgentCard
  extendedAgentCard : Option A2AAgentCard
  session : Option SessionTransportBinding
  /-- How many ids the generator has given out. -/
  drawn : Nat
  keyed : tasks.ForAll fun id task => task.id = id

def normalizeA2AVersion (raw : Option String) : String :=
  match raw.map JsString.trim with
  | none | some "" => "0.3"
  | some trimmed =>
      match (trimmed.toList.splitOn '.').map String.ofList with
      | major :: minor :: _ => major ++ "." ++ minor
      | _ => trimmed

def assertA2AVersionSupported (raw : Option String) : Except A2AProtocolError Unit :=
  let version := normalizeA2AVersion raw
  if version = A2A_PROTOCOL_VERSION_V1 then .ok ()
  else .error ⟨.versionNotSupported,
    "A2A-Version " ++ version ++ " is not supported; this interface is " ++ A2A_PROTOCOL_VERSION_V1⟩

def sessionMetadata (session : Option SessionTransportBinding) : List (String × Json) :=
  match session with
  | none => []
  | some session =>
      [("sessionId", .str session.sessionId), ("channelId", .str session.channelId),
        ("localEndpoint", .str session.localEndpoint), ("remoteEndpoint", .str session.remoteEndpoint)]

def clampPageSize (pageSize : Option Int) : Int :=
  match pageSize with
  | none => A2A_DEFAULT_LIST_PAGE_SIZE
  | some n => if n < 1 then 1 else if A2A_MAX_LIST_PAGE_SIZE < n then A2A_MAX_LIST_PAGE_SIZE else n

def decodePageToken (token : Option String) : Except A2AProtocolError Nat :=
  match token with
  | none | some "" => .ok 0
  | some token =>
      if token.toList.all Char.isDigit then .ok (Nat.ofDigitChars 10 token.toList 0)
      else .error ⟨.invalidParams, "pageToken is not a valid cursor"⟩

inductive PreparedTask where
  | ready (task : A2ATask)
  | existingTerminal

/-- What a call meets: the readings of the clock, and the processor's answer with the number of ids that the
processor has drawn itself. -/
structure A2ACallEnvironment where
  preparedAt : String
  workingAt : String
  settledAt : String
  answer : A2ATaskProcessResult
  processorDraws : Nat

namespace A2AOperationEngine

def create (agentCard : A2AAgentCard) (extendedAgentCard : Option A2AAgentCard)
    (session : Option SessionTransportBinding) : A2AOperationEngine where
  tasks := .empty
  pushConfigs := .empty
  agentCard := agentCard
  extendedAgentCard := extendedAgentCard
  session := session
  drawn := 0
  keyed := by
    intro id task h
    cases h

variable (gen : A2AIdGenerator) (engine : A2AOperationEngine) (params : Option A2AServiceParameters)

/-! ## Checks -/

def assertRequiredExtensions : Except A2AProtocolError Unit :=
  let declared := (params.bind (·.a2aExtensions)).getD []
  let required := (engine.agentCard.capabilities.extensions.getD []).filterMap fun extension =>
    if extension.required = some true then extension.uri else none
  match required.find? fun uri => uri ∉ declared with
  | some uri => .error ⟨.extensionSupportRequired, "required extension " ++ uri ++ " was not declared"⟩
  | none => .ok ()

def assertVersioned : Except A2AProtocolError Unit := do
  assertA2AVersionSupported (params.bind (·.a2aVersion))
  engine.assertRequiredExtensions params

def assertPush : Except A2AProtocolError Unit := do
  engine.assertVersioned params
  if engine.agentCard.capabilities.pushNotifications ≠ some true then
    .error ⟨.pushNotificationNotSupported, "push notifications are not supported"⟩

def assertStreaming : Except A2AProtocolError Unit :=
  if engine.agentCard.capabilities.streaming = some true then .ok ()
  else .error ⟨.unsupportedOperation, "streaming is not supported"⟩

def assertContentTypes (message : A2AMessage) : Except A2AProtocolError Unit :=
  match (message.parts.filterMap (·.mediaType)).find? fun mediaType =>
      mediaType ∉ engine.agentCard.defaultInputModes with
  | some mediaType => .error ⟨.contentTypeNotSupported, "media type " ++ mediaType ++ " is not supported"⟩
  | none => .ok ()

def findTask (id : String) : Except A2AProtocolError A2ATask :=
  match engine.tasks.get? id with
  | some task => .ok task
  | none => .error ⟨.taskNotFound, "task " ++ id ++ " was not found"⟩

/-! ## Writes -/

def nextId (kind : A2AIdKind) : String × A2AOperationEngine :=
  (gen engine.drawn kind, { engine with drawn := engine.drawn + 1 })

def writeTask (task : A2ATask) : A2AOperationEngine :=
  { engine with
    tasks := engine.tasks.set task.id task
    keyed := OrdMap.forAll_set.2 ⟨rfl, fun id task h _ => engine.keyed id task h⟩ }

/-- The task that a message goes to: a task that is there and not settled, or a new one. -/
def prepareTask (env : A2ACallEnvironment) (request : A2ASendMessageRequest) :
    Except A2AProtocolError (PreparedTask × A2AOperationEngine) :=
  let message := request.message
  match message.taskId with
  | some taskId =>
      match engine.tasks.get? taskId with
      | none => .error ⟨.taskNotFound, "task " ++ taskId ++ " was not found"⟩
      | some existing =>
          if message.contextId.isSome ∧ existing.contextId.isSome ∧ message.contextId ≠ existing.contextId then
            .error ⟨.invalidParams, "contextId does not match the referenced task"⟩
          else if isA2ATerminalTaskState existing.status.state then .ok (.existingTerminal, engine)
          else
            let task :=
              { existing with
                history := some (existing.history.getD [] ++ [message])
                status := { state := .working, timestamp := some env.preparedAt } }
            .ok (.ready task, engine.writeTask task)
  | none =>
      let (contextId, engine) :=
        match message.contextId with
        | some contextId => (contextId, engine)
        | none => engine.nextId gen .context
      let metadata := (sessionMetadata engine.session).foldl (fun m e => m.set e.1 e.2) (request.metadata.getD .empty)
      let (id, engine) := engine.nextId gen .task
      let task : A2ATask :=
        { id, contextId := some contextId
          status := { state := .submitted, timestamp := some env.preparedAt }
          artifacts := none
          history := some [message]
          metadata := if metadata.size > 0 then some metadata else none }
      .ok (.ready task, engine.writeTask task)

def createPushNotificationConfig (taskId : String) (input : A2ATaskPushNotificationConfigInput) :
    Except A2AProtocolError (A2APushNotificationConfig × A2AOperationEngine) := do
  engine.assertPush params
  let _ ← engine.findTask taskId
  let (id, engine) :=
    match input.id with
    | some id => (id, engine)
    | none => engine.nextId gen .config
  let config : A2APushNotificationConfig :=
    { id, taskId, url := input.url, token := input.token, authentication := input.authentication }
  let existing := (engine.pushConfigs.get? taskId).getD []
  .ok (config, { engine with pushConfigs := engine.pushConfigs.set taskId (existing ++ [config]) })

/-- The result of the creation is not looked at. -/
def maybeCreateInlinePush (taskId : String) (input : Option A2ATaskPushNotificationConfigInput) :
    A2AOperationEngine :=
  match input with
  | none => engine
  | some input =>
      if engine.agentCard.capabilities.pushNotifications = some true then
        match engine.createPushNotificationConfig gen none taskId input with
        | .ok (_, engine) => engine
        | .error _ => engine
      else engine

/-- The processor's turn, which may draw ids of its own. -/
def process (env : A2ACallEnvironment) : A2ATaskProcessResult × A2AOperationEngine :=
  (env.answer, { engine with drawn := engine.drawn + env.processorDraws })

def terminalRefused : A2AProtocolError :=
  ⟨.unsupportedOperation, "messages cannot be sent to a task in a terminal state"⟩

/-- The task as the processor leaves it. -/
def settledTask (task : A2ATask) (settledAt : String) (state : A2ATaskState) (statusMessage : Option A2AMessage)
    (artifacts : Option (List A2AArtifact)) : A2ATask :=
  { task with status := ⟨state, statusMessage, some settledAt⟩, artifacts := artifacts.or task.artifacts }

def sendMessage (env : A2ACallEnvironment) (request : A2ASendMessageRequest) :
    Except A2AProtocolError (A2ASendMessageResult × A2AOperationEngine) := do
  engine.assertVersioned params
  engine.assertContentTypes request.message
  let (prepared, engine) ← engine.prepareTask gen env request
  let inline := request.configuration.bind (·.taskPushNotificationConfig)
  let historyLength := request.configuration.bind (·.historyLength)
  match prepared with
  | .existingTerminal => .error terminalRefused
  | .ready task =>
      if request.configuration.bind (·.returnImmediately) = some true then
        let working := { task with status := { state := .working, timestamp := some env.workingAt } }
        let engine := (engine.writeTask working).maybeCreateInlinePush gen working.id inline
        .ok (.task (applyA2AHistoryLength working historyLength), engine)
      else
        match engine.process env with
        | (.message message, engine) => .ok (.message message, engine)
        | (.task state statusMessage artifacts, engine) =>
            let completed := settledTask task env.settledAt state statusMessage artifacts
            let engine := (engine.writeTask completed).maybeCreateInlinePush gen completed.id inline
            .ok (.task (applyA2AHistoryLength completed historyLength), engine)

def sendStreamingMessage (env : A2ACallEnvironment) (request : A2ASendMessageRequest) :
    Except A2AProtocolError (List A2AStreamResponse × A2AOperationEngine) := do
  engine.assertVersioned params
  engine.assertStreaming
  engine.assertContentTypes request.message
  let (prepared, engine) ← engine.prepareTask gen env request
  match prepared with
  | .existingTerminal => .error terminalRefused
  | .ready task =>
      match engine.process env with
      | (.message message, engine) => .ok ([.message message], engine)
      | (.task state statusMessage artifacts, engine) =>
          let working := { task with status := { state := .working, timestamp := some env.workingAt } }
          let engine := engine.writeTask working
          let finalTask := settledTask working env.settledAt state statusMessage artifacts
          let engine := engine.writeTask finalTask
          let contextId := finalTask.contextId.getD ""
          let updates := (finalTask.artifacts.getD []).map fun artifact =>
            A2AStreamResponse.artifactUpdate finalTask.id contextId artifact true
          let events := [.task working] ++ updates ++ [.statusUpdate finalTask.id contextId finalTask.status]
          .ok (events, engine.maybeCreateInlinePush gen finalTask.id
            (request.configuration.bind (·.taskPushNotificationConfig)))

/-! ## Tasks -/

def getTask (request : A2AGetTaskRequest) : Except A2AProtocolError A2ATask := do
  engine.assertVersioned params
  let task ← engine.findTask request.id
  .ok (applyA2AHistoryLength task request.historyLength)

def listedTasks (localeCompare : LocaleCompare) (request : A2AListTasksRequest) : List A2ATask :=
  (((engine.tasks.values.filter fun task =>
      request.contextId = none ∨ task.contextId = request.contextId).filter fun task =>
      request.status = none ∨ some task.status.state = request.status).filter fun task =>
      match request.statusTimestampAfter with
      | none => true
      | some after => task.status.timestamp.any fun timestamp => !JsString.lt timestamp after).insertionSort
    fun left right => localeCompare (right.status.timestamp.getD "") (left.status.timestamp.getD "") ≤ 0

def listTasks (localeCompare : LocaleCompare) (request : A2AListTasksRequest) :
    Except A2AProtocolError A2AListTasksResponse := do
  engine.assertVersioned params
  let pageSize := clampPageSize request.pageSize
  let offset ← decodePageToken request.pageToken
  let filtered := engine.listedTasks localeCompare request
  let page := ((filtered.drop offset).take pageSize.toNat).map fun task =>
    let withHistory := applyA2AHistoryLength task request.historyLength
    if request.includeArtifacts = some true then withHistory else omitA2ATaskArtifacts withHistory
  let nextOffset := offset + page.length
  .ok { tasks := page, nextPageToken := if filtered.length ≤ nextOffset then "" else toString nextOffset
        pageSize, totalSize := filtered.length }

def cancelTask (env : A2ACallEnvironment) (request : A2ACancelTaskRequest) :
    Except A2AProtocolError (A2ATask × A2AOperationEngine) := do
  engine.assertVersioned params
  let task ← engine.findTask request.id
  if task.status.state = .canceled then .ok (task, engine)
  else if isA2ACancelableTaskState task.status.state then
    let canceled :=
      { task with
        status := { state := .canceled, timestamp := some env.settledAt }
        metadata := match request.metadata with
          | none => task.metadata
          | some metadata => some ((task.metadata.getD .empty).set "cancel" (.obj metadata.entries)) }
    .ok (canceled, engine.writeTask canceled)
  else .error ⟨.taskNotCancelable, "task " ++ request.id ++ " is not cancelable"⟩

def subscribeToTask (request : A2AGetTaskRequest) : Except A2AProtocolError (List A2AStreamResponse) := do
  engine.assertVersioned params
  engine.assertStreaming
  let task ← engine.findTask request.id
  if isA2ATerminalTaskState task.status.state then
    .error ⟨.unsupportedOperation, "subscribe is not available on a terminal task"⟩
  else .ok [.task (applyA2AHistoryLength task request.historyLength)]

def getPushNotificationConfig (taskId configId : String) : Except A2AProtocolError A2APushNotificationConfig := do
  engine.assertPush params
  match ((engine.pushConfigs.get? taskId).getD []).find? fun config => config.id = configId with
  | some config => .ok config
  | none => .error ⟨.taskNotFound, "push config " ++ configId ++ " was not found"⟩

def listPushNotificationConfigs (taskId : String) :
    Except A2AProtocolError A2AListPushNotificationConfigsResponse := do
  engine.assertPush params
  let _ ← engine.findTask taskId
  .ok { configs := (engine.pushConfigs.get? taskId).getD [], nextPageToken := "" }

def deletePushNotificationConfig (taskId configId : String) : Except A2AProtocolError A2AOperationEngine := do
  engine.assertPush params
  let _ ← engine.findTask taskId
  let existing := (engine.pushConfigs.get? taskId).getD []
  .ok { engine with
    pushConfigs := engine.pushConfigs.set taskId (existing.filter fun config => config.id ≠ configId) }

def getAgentCard : Except A2AProtocolError A2AAgentCard := do
  engine.assertRequiredExtensions params
  .ok engine.agentCard

def getExtendedAgentCard : Except A2AProtocolError A2AAgentCard := do
  engine.assertVersioned params
  if engine.agentCard.capabilities.extendedAgentCard = some true then
    match engine.extendedAgentCard with
    | some card => .ok card
    | none => .error ⟨.extendedAgentCardNotConfigured, "extended Agent Card is declared but not configured"⟩
  else .error ⟨.unsupportedOperation, "extended Agent Card is not declared in capabilities"⟩

end A2AOperationEngine

/-! ## Calls -/

inductive A2AOperation where
  | sendMessage (request : A2ASendMessageRequest)
  | sendStreamingMessage (request : A2ASendMessageRequest)
  | getTask (request : A2AGetTaskRequest)
  | listTasks (request : A2AListTasksRequest)
  | cancelTask (request : A2ACancelTaskRequest)
  | subscribeToTask (request : A2AGetTaskRequest)
  | getAgentCard
  | getExtendedAgentCard
  | createTaskPushNotificationConfig (taskId : String) (config : A2ATaskPushNotificationConfigInput)
  | getTaskPushNotificationConfig (taskId configId : String)
  | listTaskPushNotificationConfigs (taskId : String)
  | deleteTaskPushNotificationConfig (taskId configId : String)

inductive A2AResponse where
  | sent (result : A2ASendMessageResult)
  | streamed (events : List A2AStreamResponse)
  | task (task : A2ATask)
  | tasks (response : A2AListTasksResponse)
  | card (card : A2AAgentCard)
  | config (config : A2APushNotificationConfig)
  | configs (response : A2AListPushNotificationConfigsResponse)
  | deleted

/-- A call of an operation with what it meets. -/
structure A2ACall where
  operation : A2AOperation
  params : Option A2AServiceParameters
  env : A2ACallEnvironment

namespace A2AOperationEngine

/-- The answer to a call and the engine after it; a refused call leaves the engine as it is. -/
def perform (gen : A2AIdGenerator) (localeCompare : LocaleCompare) (engine : A2AOperationEngine) (call : A2ACall) :
    Except A2AProtocolError (A2AResponse × A2AOperationEngine) :=
  match call.operation with
  | .sendMessage request =>
      (engine.sendMessage gen call.params call.env request).map fun (result, engine) => (.sent result, engine)
  | .sendStreamingMessage request =>
      (engine.sendStreamingMessage gen call.params call.env request).map fun (events, engine) =>
        (.streamed events, engine)
  | .getTask request => (engine.getTask call.params request).map fun task => (.task task, engine)
  | .listTasks request =>
      (engine.listTasks call.params localeCompare request).map fun response => (.tasks response, engine)
  | .cancelTask request =>
      (engine.cancelTask call.params call.env request).map fun (task, engine) => (.task task, engine)
  | .subscribeToTask request =>
      (engine.subscribeToTask call.params request).map fun events => (.streamed events, engine)
  | .getAgentCard => (engine.getAgentCard call.params).map fun card => (.card card, engine)
  | .getExtendedAgentCard => (engine.getExtendedAgentCard call.params).map fun card => (.card card, engine)
  | .createTaskPushNotificationConfig taskId config =>
      (engine.createPushNotificationConfig gen call.params taskId config).map fun (config, engine) =>
        (.config config, engine)
  | .getTaskPushNotificationConfig taskId configId =>
      (engine.getPushNotificationConfig call.params taskId configId).map fun config => (.config config, engine)
  | .listTaskPushNotificationConfigs taskId =>
      (engine.listPushNotificationConfigs call.params taskId).map fun response => (.configs response, engine)
  | .deleteTaskPushNotificationConfig taskId configId =>
      (engine.deletePushNotificationConfig call.params taskId configId).map fun engine => (.deleted, engine)

def after (gen : A2AIdGenerator) (localeCompare : LocaleCompare) (engine : A2AOperationEngine) (call : A2ACall) :
    A2AOperationEngine :=
  match engine.perform gen localeCompare call with
  | .ok (_, engine) => engine
  | .error _ => engine

def Step (gen : A2AIdGenerator) (localeCompare : LocaleCompare) (s : A2AOperationEngine) (call : A2ACall)
    (t : A2AOperationEngine) : Prop :=
  t = s.after gen localeCompare call

end A2AOperationEngine

end Cantilune
