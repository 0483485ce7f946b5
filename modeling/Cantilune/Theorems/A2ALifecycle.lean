import Cantilune.Base.Outcomes
import Cantilune.Comms.A2AOperations

/-!
# The life of a task

A task that is settled never changes again and its history is what was sent to it. A task is in the state that was
last told of it, unless the processor has answered a message without a task: the one prepared for it is left behind.
-/

namespace Cantilune

namespace A2AOperationEngine

variable {gen : A2AIdGenerator} {localeCompare : LocaleCompare} {engine s t : A2AOperationEngine}
  {params : Option A2AServiceParameters} {env : A2ACallEnvironment} {request : A2ASendMessageRequest} {task : A2ATask}

/-! ## Sends -/

def Addressable (engine : A2AOperationEngine) (message : A2AMessage) : Prop :=
  ∀ taskId, message.taskId = some taskId → ∃ existing, engine.tasks.get? taskId = some existing ∧
    ¬ (message.contextId.isSome ∧ existing.contextId.isSome ∧ message.contextId ≠ existing.contextId) ∧
    isA2ATerminalTaskState existing.status.state = false

inductive Target (gen : A2AIdGenerator) (engine : A2AOperationEngine) (message : A2AMessage) (task : A2ATask)
    (bound : Nat) : Prop where
  | existing (old : A2ATask) (named : message.taskId = some task.id) (found : engine.tasks.get? task.id = some old)
      (unsettled : isA2ATerminalTaskState old.status.state = false)
      (history : task.history = some (old.history.getD [] ++ [message]))
  | new (k : Nat) (unnamed : message.taskId = none) (lower : engine.drawn ≤ k) (upper : k < bound)
      (id : task.id = gen k .task) (history : task.history = some [message])

/-- The send has left its task like this, and nothing else has changed. -/
structure SendsTo (gen : A2AIdGenerator) (engine : A2AOperationEngine) (message : A2AMessage) (task : A2ATask)
    (after : A2AOperationEngine) : Prop where
  tasks : ∀ id, after.tasks.get? id = if id = task.id then some task else engine.tasks.get? id
  target : Target gen engine message task after.drawn
  drawn : engine.drawn ≤ after.drawn

theorem writeTask_get? (task : A2ATask) (id : String) :
    (engine.writeTask task).tasks.get? id = if id = task.id then some task else engine.tasks.get? id :=
  OrdMap.get?_set engine.tasks task.id id task

theorem SendsTo.rewrite {message : A2AMessage} {after after' : A2AOperationEngine} {task' : A2ATask}
    (h : SendsTo gen engine message task after) (hid : task'.id = task.id) (hhistory : task'.history = task.history)
    (htasks : ∀ id, after'.tasks.get? id = if id = task'.id then some task' else after.tasks.get? id)
    (hdrawn : after.drawn ≤ after'.drawn) : SendsTo gen engine message task' after' where
  tasks := by
    intro id
    rw [htasks, h.tasks, hid]
    split <;> rfl
  target := by
    cases h.target with
    | existing old named found unsettled history =>
        exact .existing old (hid ▸ named) (hid ▸ found) unsettled (hhistory.trans history)
    | new k unnamed lower upper id history =>
        exact .new k unnamed lower (upper.trans_le hdrawn) (hid.trans id) (hhistory.trans history)
  drawn := h.drawn.trans hdrawn

theorem SendsTo.keep {message : A2AMessage} {after after' : A2AOperationEngine}
    (h : SendsTo gen engine message task after) (htasks : after'.tasks = after.tasks)
    (hdrawn : after.drawn ≤ after'.drawn) : SendsTo gen engine message task after' := by
  refine h.rewrite rfl rfl (fun id => ?_) hdrawn
  rw [htasks, h.tasks]
  split <;> rfl

theorem prepareTask_ready (h : engine.prepareTask gen env request = .ok (.ready task, s)) :
    SendsTo gen engine request.message task s ∧ isA2ATerminalTaskState task.status.state = false ∧
      engine.Addressable request.message := by
  dsimp only [prepareTask] at h
  split at h
  · rename_i taskId hnamed
    split at h
    · cases h
    · rename_i existing hfound
      have hid := engine.keyed taskId existing hfound
      split at h
      · cases h
      · rename_i hcontext
        split at h
        · cases h
        · rename_i hunsettled
          rw [Bool.not_eq_true] at hunsettled
          cases h
          refine ⟨⟨fun id => writeTask_get? _ id, ?_, le_rfl⟩, rfl, ?_⟩
          · subst hid
            exact .existing existing hnamed hfound hunsettled rfl
          · intro id hid'
            cases hnamed.symm.trans hid'
            exact ⟨existing, hfound, hcontext, hunsettled⟩
  · rename_i hunnamed
    have haddressable : engine.Addressable request.message := fun id hid => by
      cases hunnamed.symm.trans hid
    cases hcontext : request.message.contextId with
    | none =>
        rw [hcontext] at h
        cases h
        refine ⟨⟨fun id => writeTask_get? _ id, ?_, ?_⟩, rfl, haddressable⟩
        · exact .new (engine.drawn + 1) hunnamed (Nat.le_succ _) (Nat.lt_succ_self _) rfl rfl
        · exact Nat.le_add_right engine.drawn 2
    | some contextId =>
        rw [hcontext] at h
        cases h
        refine ⟨⟨fun id => writeTask_get? _ id, ?_, ?_⟩, rfl, haddressable⟩
        · exact .new engine.drawn hunnamed le_rfl (Nat.lt_succ_self _) rfl rfl
        · exact Nat.le_succ engine.drawn

theorem prepareTask_of_addressable (h : engine.Addressable request.message) :
    ∃ task s, engine.prepareTask gen env request = .ok (.ready task, s) := by
  dsimp only [prepareTask]
  cases hnamed : request.message.taskId with
  | none => exact ⟨_, _, rfl⟩
  | some taskId =>
      obtain ⟨existing, hfound, hcontext, hunsettled⟩ := h taskId hnamed
      dsimp only
      rw [hfound]
      dsimp only
      rw [if_neg hcontext, if_neg (by rw [hunsettled]; exact Bool.false_ne_true)]
      exact ⟨_, _, rfl⟩

theorem createPushNotificationConfig_tasks {taskId : String} {input : A2ATaskPushNotificationConfigInput}
    {config : A2APushNotificationConfig}
    (h : engine.createPushNotificationConfig gen params taskId input = .ok (config, s)) :
    s.tasks = engine.tasks ∧ engine.drawn ≤ s.drawn := by
  unfold createPushNotificationConfig at h
  obtain ⟨_, -, h⟩ := Outcome.bind_eq_ok.1 h
  obtain ⟨_, -, h⟩ := Outcome.bind_eq_ok.1 h
  cases hid : input.id with
  | none =>
      rw [hid] at h
      cases h
      exact ⟨rfl, Nat.le_succ _⟩
  | some id =>
      rw [hid] at h
      cases h
      exact ⟨rfl, le_rfl⟩

theorem maybeCreateInlinePush_tasks (taskId : String) (input : Option A2ATaskPushNotificationConfigInput) :
    (engine.maybeCreateInlinePush gen taskId input).tasks = engine.tasks ∧
      engine.drawn ≤ (engine.maybeCreateInlinePush gen taskId input).drawn := by
  unfold maybeCreateInlinePush
  split
  · exact ⟨rfl, le_rfl⟩
  · split
    · split
      · rename_i config after hcreate
        exact createPushNotificationConfig_tasks hcreate
      · exact ⟨rfl, le_rfl⟩
    · exact ⟨rfl, le_rfl⟩

theorem SendsTo.inline {message : A2AMessage} {after : A2AOperationEngine} (h : SendsTo gen engine message task after)
    (taskId : String) (input : Option A2ATaskPushNotificationConfigInput) :
    SendsTo gen engine message task (after.maybeCreateInlinePush gen taskId input) :=
  h.keep (maybeCreateInlinePush_tasks taskId input).1 (maybeCreateInlinePush_tasks taskId input).2

/-- The checks that a message passes before it comes to a task. -/
structure Admits (engine : A2AOperationEngine) (params : Option A2AServiceParameters)
    (request : A2ASendMessageRequest) : Prop where
  versioned : engine.assertVersioned params = .ok ()
  content : engine.assertContentTypes request.message = .ok ()
  addressable : engine.Addressable request.message

theorem sendMessage_spec {result : A2ASendMessageResult}
    (h : engine.sendMessage gen params env request = .ok (result, s)) :
    ∃ task, SendsTo gen engine request.message task s ∧
      match result with
      | .task told => told.status.state = task.status.state
      | .message _ => isA2ATerminalTaskState task.status.state = false ∧ engine.Admits params request ∧
          request.configuration.bind (·.returnImmediately) ≠ some true ∧ ∃ m, env.answer = .message m := by
  unfold sendMessage at h
  obtain ⟨⟨⟩, hversioned, h⟩ := Outcome.bind_eq_ok.1 h
  obtain ⟨⟨⟩, hcontent, h⟩ := Outcome.bind_eq_ok.1 h
  obtain ⟨⟨prepared, engine'⟩, hprepared, h⟩ := Outcome.bind_eq_ok.1 h
  cases prepared with
  | existingTerminal => cases h
  | ready task =>
      obtain ⟨hsends, hopen, haddressable⟩ := prepareTask_ready hprepared
      dsimp only at h
      split at h
      · cases h
        let working : A2ATask := { task with status := { state := .working, timestamp := some env.workingAt } }
        have hworking : SendsTo gen engine request.message working (engine'.writeTask working) :=
          hsends.rewrite rfl rfl (writeTask_get? working) le_rfl
        exact ⟨_, hworking.inline _ _, congrArg A2ATaskStatus.state (applyA2AHistoryLength_status working _)⟩
      · rename_i hlater
        unfold process at h
        cases hanswer : env.answer with
        | message m =>
            rw [hanswer] at h
            cases h
            exact ⟨task, hsends.keep rfl (Nat.le_add_right _ _), hopen,
              ⟨hversioned, hcontent, haddressable⟩, hlater, m, rfl⟩
        | task state statusMessage artifacts =>
            rw [hanswer] at h
            cases h
            have hsettled : SendsTo gen engine request.message
                (settledTask task env.settledAt state statusMessage artifacts)
                ((engine'.process env).2.writeTask (settledTask task env.settledAt state statusMessage artifacts)) :=
              hsends.rewrite rfl rfl (writeTask_get? _) (Nat.le_add_right _ _)
            exact ⟨_, hsettled.inline _ _, congrArg A2ATaskStatus.state (applyA2AHistoryLength_status _ _)⟩

theorem sendMessage_direct {m : A2AMessage} (hadmits : engine.Admits params request)
    (hlater : request.configuration.bind (·.returnImmediately) ≠ some true) (hanswer : env.answer = .message m) :
    ∃ s, engine.sendMessage gen params env request = .ok (.message m, s) := by
  obtain ⟨task, engine', hprepared⟩ := @prepareTask_of_addressable gen engine env request hadmits.addressable
  refine ⟨(engine'.process env).2, ?_⟩
  unfold sendMessage process
  rw [hadmits.versioned, hadmits.content, hprepared, hanswer]
  exact if_neg hlater

theorem sendStreamingMessage_spec {events : List A2AStreamResponse}
    (h : engine.sendStreamingMessage gen params env request = .ok (events, s)) :
    ∃ task, SendsTo gen engine request.message task s ∧
      ((∃ id contextId status, events.getLast? = some (.statusUpdate id contextId status) ∧
          status.state = task.status.state) ∨
        (∃ m, events = [.message m] ∧ isA2ATerminalTaskState task.status.state = false ∧
          engine.Admits params request ∧ engine.assertStreaming = .ok () ∧ env.answer = .message m)) := by
  unfold sendStreamingMessage at h
  obtain ⟨⟨⟩, hversioned, h⟩ := Outcome.bind_eq_ok.1 h
  obtain ⟨⟨⟩, hstreaming, h⟩ := Outcome.bind_eq_ok.1 h
  obtain ⟨⟨⟩, hcontent, h⟩ := Outcome.bind_eq_ok.1 h
  obtain ⟨⟨prepared, engine'⟩, hprepared, h⟩ := Outcome.bind_eq_ok.1 h
  cases prepared with
  | existingTerminal => cases h
  | ready task =>
      obtain ⟨hsends, hopen, haddressable⟩ := prepareTask_ready hprepared
      unfold process at h
      cases hanswer : env.answer with
      | message m =>
          rw [hanswer] at h
          cases h
          exact ⟨task, hsends.keep rfl (Nat.le_add_right _ _), .inr ⟨m, rfl, hopen,
            ⟨hversioned, hcontent, haddressable⟩, hstreaming, rfl⟩⟩
      | task state statusMessage artifacts =>
          rw [hanswer] at h
          cases h
          let working : A2ATask := { task with status := { state := .working, timestamp := some env.workingAt } }
          have hworking : SendsTo gen engine request.message working ((engine'.process env).2.writeTask working) :=
            hsends.rewrite rfl rfl (writeTask_get? working) (Nat.le_add_right _ _)
          have hsettled : SendsTo gen engine request.message
              (settledTask working env.settledAt state statusMessage artifacts)
              (((engine'.process env).2.writeTask working).writeTask
                (settledTask working env.settledAt state statusMessage artifacts)) :=
            hworking.rewrite rfl rfl (writeTask_get? _) le_rfl
          exact ⟨_, hsettled.inline _ _, .inl ⟨_, _, _, List.getLast?_concat, rfl⟩⟩

theorem sendStreamingMessage_direct {m : A2AMessage} (hadmits : engine.Admits params request)
    (hstreaming : engine.assertStreaming = .ok ()) (hanswer : env.answer = .message m) :
    ∃ s, engine.sendStreamingMessage gen params env request = .ok ([.message m], s) := by
  obtain ⟨task, engine', hprepared⟩ := @prepareTask_of_addressable gen engine env request hadmits.addressable
  refine ⟨(engine'.process env).2, ?_⟩
  unfold sendStreamingMessage process
  rw [hadmits.versioned, hstreaming, hadmits.content, hprepared, hanswer]
  rfl

theorem cancelTask_spec {request : A2ACancelTaskRequest}
    (h : engine.cancelTask params env request = .ok (task, s)) :
    ∃ old, engine.tasks.get? task.id = some old ∧ task.id = request.id ∧ task.status.state = .canceled ∧
      task.history = old.history ∧ (task = old ∨ isA2ATerminalTaskState old.status.state = false) ∧
      (∀ id, s.tasks.get? id = if id = task.id then some task else engine.tasks.get? id) ∧ s.drawn = engine.drawn := by
  unfold cancelTask at h
  obtain ⟨⟨⟩, -, h⟩ := Outcome.bind_eq_ok.1 h
  obtain ⟨old, hfound, h⟩ := Outcome.bind_eq_ok.1 h
  have hold : engine.tasks.get? request.id = some old := by
    unfold findTask at hfound
    split at hfound
    · rename_i found hget
      cases hfound
      exact hget
    · cases hfound
  have hid := engine.keyed request.id old hold
  split at h
  · rename_i hcanceled
    cases h
    refine ⟨task, hid.symm ▸ hold, hid, hcanceled, rfl, .inl rfl, fun id => ?_, rfl⟩
    split
    · rename_i heq
      rw [heq, hid, hold]
    · rfl
  · split at h
    · rename_i hcancelable
      cases h
      refine ⟨old, hid.symm ▸ hold, hid, rfl, rfl, .inr ?_, writeTask_get? _, rfl⟩
      simpa [isA2ACancelableTaskState] using hcancelable
    · cases h

def CallsProcessor (s : A2AOperationEngine) (call : A2ACall) : Prop :=
  match call.operation with
  | .sendMessage request =>
      s.Admits call.params request ∧ request.configuration.bind (·.returnImmediately) ≠ some true
  | .sendStreamingMessage request => s.Admits call.params request ∧ s.assertStreaming = .ok ()
  | _ => False

def AnswersDirectly (s : A2AOperationEngine) (call : A2ACall) : Prop :=
  s.CallsProcessor call ∧ ∃ m, call.env.answer = .message m

end A2AOperationEngine

/-! ## Histories -/

/-- What a call has told of a task: its state, or a message in its place. -/
inductive A2AAnswer where
  | told (state : A2ATaskState)
  | direct
  deriving DecidableEq

def A2AResponse.answer : A2AResponse → Option A2AAnswer
  | .sent (.task reported) => some (.told reported.status.state)
  | .sent (.message _) => some .direct
  | .streamed events =>
      match events.getLast? with
      | some (.statusUpdate _ _ status) => some (.told status.state)
      | some (.message _) => some .direct
      | _ => none
  | .task reported => some (.told reported.status.state)
  | _ => none

/-- The messages sent to every task, and what was told when it was last written to. -/
structure A2AHistory where
  sent : String → List A2AMessage
  answered : String → Option A2AAnswer

namespace A2AHistory

open A2AOperationEngine

def start : A2AHistory := { sent := fun _ => [], answered := fun _ => none }

def GoesTo (s t : A2AOperationEngine) (message : A2AMessage) (id : String) : Prop :=
  match message.taskId with
  | some taskId => taskId = id
  | none => s.tasks.has id = false ∧ t.tasks.has id = true

instance (s t : A2AOperationEngine) (message : A2AMessage) (id : String) : Decidable (GoesTo s t message id) := by
  unfold GoesTo
  split <;> infer_instance

def send (s t : A2AOperationEngine) (message : A2AMessage) (answer : Option A2AAnswer) (h : A2AHistory) :
    A2AHistory where
  sent := fun id => if GoesTo s t message id then h.sent id ++ [message] else h.sent id
  answered := fun id => if GoesTo s t message id then answer else h.answered id

def next (gen : A2AIdGenerator) (localeCompare : LocaleCompare) (s : A2AOperationEngine) (call : A2ACall)
    (t : A2AOperationEngine) (h : A2AHistory) : A2AHistory :=
  match s.perform gen localeCompare call, call.operation with
  | .ok (response, _), .sendMessage request => h.send s t request.message response.answer
  | .ok (response, _), .sendStreamingMessage request => h.send s t request.message response.answer
  | .ok (response, _), .cancelTask request =>
      { h with answered := fun id => if id = request.id then response.answer else h.answered id }
  | _, _ => h

end A2AHistory

/-! ## Moves -/

def NeverRepeats (gen : A2AIdGenerator) : Prop := ∀ kind, Function.Injective fun k => gen k kind

namespace A2AOperationEngine

variable {gen : A2AIdGenerator} {localeCompare : LocaleCompare} {s t : A2AOperationEngine} {call : A2ACall}
  {h h' : A2AHistory}

def IdsDrawn (gen : A2AIdGenerator) (s : A2AOperationEngine) : Prop :=
  ∀ id, s.tasks.has id = true → ∃ k < s.drawn, id = gen k .task

inductive Moves (gen : A2AIdGenerator) (s : A2AOperationEngine) (call : A2ACall) (h : A2AHistory)
    (t : A2AOperationEngine) (h' : A2AHistory) : Prop where
  | quiet (tasks : t.tasks = s.tasks) (drawn : s.drawn ≤ t.drawn) (history : h' = h)
      (noAnswer : ¬ s.AnswersDirectly call)
  | sends (message : A2AMessage) (task : A2ATask) (answer : A2AAnswer) (sends : SendsTo gen s message task t)
      (sent : ∀ id, h'.sent id = if id = task.id then h.sent id ++ [message] else h.sent id)
      (answered : ∀ id, h'.answered id = if id = task.id then some answer else h.answered id)
      (answers : (answer = .told task.status.state ∧ ¬ s.AnswersDirectly call) ∨
        (answer = .direct ∧ isA2ATerminalTaskState task.status.state = false ∧ s.AnswersDirectly call))
  | cancels (old task : A2ATask) (found : s.tasks.get? task.id = some old) (kept : task.history = old.history)
      (unsettled : task = old ∨ isA2ATerminalTaskState old.status.state = false)
      (tasks : ∀ id, t.tasks.get? id = if id = task.id then some task else s.tasks.get? id)
      (drawn : t.drawn = s.drawn) (sent : h'.sent = h.sent)
      (answered : ∀ id, h'.answered id = if id = task.id then some (.told task.status.state) else h.answered id)
      (noAnswer : ¬ s.AnswersDirectly call)

theorem SendsTo.goesTo_iff {message : A2AMessage} {task : A2ATask} (hgen : NeverRepeats gen) (hids : s.IdsDrawn gen)
    (hsends : SendsTo gen s message task t) (id : String) : A2AHistory.GoesTo s t message id ↔ id = task.id := by
  unfold A2AHistory.GoesTo
  cases hsends.target with
  | existing old named found unsettled history =>
      rw [named]
      exact eq_comm
  | new k unnamed lower upper hid history =>
      have habsent : s.tasks.has task.id = false := by
        rw [← Bool.not_eq_true]
        intro hhas
        obtain ⟨j, hj, heq⟩ := hids task.id hhas
        cases hgen .task (hid.symm.trans heq)
        omega
      rw [unnamed]
      dsimp only
      constructor
      · rintro ⟨hbefore, hafter⟩
        by_contra hne
        rw [OrdMap.has, hsends.tasks, if_neg hne] at hafter
        exact Bool.noConfusion (hbefore.symm.trans hafter)
      · rintro rfl
        refine ⟨habsent, ?_⟩
        rw [OrdMap.has, hsends.tasks, if_pos rfl]
        rfl

theorem moves_of_send {message : A2AMessage} {task : A2ATask} {answer : A2AAnswer} (hgen : NeverRepeats gen)
    (hids : s.IdsDrawn gen) (hsends : SendsTo gen s message task t)
    (hanswers : (answer = .told task.status.state ∧ ¬ s.AnswersDirectly call) ∨
      (answer = .direct ∧ isA2ATerminalTaskState task.status.state = false ∧ s.AnswersDirectly call)) :
    Moves gen s call h t (h.send s t message (some answer)) :=
  .sends message task answer hsends
    (fun id => by simp only [A2AHistory.send, hsends.goesTo_iff hgen hids])
    (fun id => by simp only [A2AHistory.send, hsends.goesTo_iff hgen hids]) hanswers

theorem after_of_error {e : A2AProtocolError} (h : s.perform gen localeCompare call = .error e) :
    s.after gen localeCompare call = s := by rw [after, h]

theorem after_of_ok {response : A2AResponse} (h : s.perform gen localeCompare call = .ok (response, t)) :
    s.after gen localeCompare call = t := by rw [after, h]

theorem perform_of_answersDirectly (hanswers : s.AnswersDirectly call) :
    ∃ response t, s.perform gen localeCompare call = .ok (response, t) ∧ response.answer = some .direct := by
  obtain ⟨operation, params, env⟩ := call
  obtain ⟨hcalls, m, hanswer⟩ := hanswers
  cases operation with
  | sendMessage request =>
      obtain ⟨t, ht⟩ := @sendMessage_direct gen s params env request m hcalls.1 hcalls.2 hanswer
      exact ⟨.sent (.message m), t, Outcome.map_eq_ok.2 ⟨_, ht, rfl⟩, rfl⟩
  | sendStreamingMessage request =>
      obtain ⟨t, ht⟩ := @sendStreamingMessage_direct gen s params env request m hcalls.1 hcalls.2 hanswer
      exact ⟨.streamed [.message m], t, Outcome.map_eq_ok.2 ⟨_, ht, rfl⟩, rfl⟩
  | _ => exact hcalls.elim

theorem perform_moves (hgen : NeverRepeats gen) (hids : s.IdsDrawn gen) {response : A2AResponse}
    (hok : s.perform gen localeCompare call = .ok (response, t)) :
    Moves gen s call h t (h.next gen localeCompare s call t) := by
  have hdirect : s.AnswersDirectly call → response.answer = some .direct := by
    intro hanswers
    obtain ⟨response', t', hok', hanswer⟩ := @perform_of_answersDirectly gen localeCompare _ call hanswers
    cases hok.symm.trans hok'
    exact hanswer
  have hnext := hok
  obtain ⟨operation, params, env⟩ := call
  unfold perform at hok
  cases operation with
  | sendMessage request =>
      obtain ⟨⟨result, t'⟩, hsend, heq⟩ := Outcome.map_eq_ok.1 hok
      cases heq
      rw [A2AHistory.next, hnext]
      obtain ⟨task, hsends, hresult⟩ := sendMessage_spec hsend
      cases result with
      | task told =>
          refine moves_of_send hgen hids hsends (.inl ⟨congrArg _ hresult, fun hanswers => ?_⟩)
          cases hdirect hanswers
      | message m =>
          obtain ⟨hopen, hadmits, hlater, hanswer⟩ := hresult
          exact moves_of_send hgen hids hsends (.inr ⟨rfl, hopen, ⟨hadmits, hlater⟩, hanswer⟩)
  | sendStreamingMessage request =>
      obtain ⟨⟨events, t'⟩, hsend, heq⟩ := Outcome.map_eq_ok.1 hok
      cases heq
      rw [A2AHistory.next, hnext]
      obtain ⟨task, hsends, hresult⟩ := sendStreamingMessage_spec hsend
      rcases hresult with ⟨id, contextId, status, hlast, hstate⟩ | ⟨m, rfl, hopen, hadmits, hstreaming, hanswer⟩
      · have htold : (A2AResponse.streamed events).answer = some (.told task.status.state) := by
          rw [A2AResponse.answer, hlast, ← hstate]
        dsimp only
        rw [htold]
        refine moves_of_send hgen hids hsends (.inl ⟨rfl, fun hanswers => ?_⟩)
        cases htold.symm.trans (hdirect hanswers)
      · exact moves_of_send hgen hids hsends (.inr ⟨rfl, hopen, ⟨hadmits, hstreaming⟩, m, hanswer⟩)
  | cancelTask request =>
      obtain ⟨⟨task, t'⟩, hcancel, heq⟩ := Outcome.map_eq_ok.1 hok
      cases heq
      rw [A2AHistory.next, hnext]
      obtain ⟨old, hfound, hid, hstate, hkept, hunsettled, htasks, hdrawn⟩ := cancelTask_spec hcancel
      refine .cancels old task hfound hkept hunsettled htasks hdrawn rfl (fun id => ?_) fun hanswers => hanswers.1
      rw [hid]
      rfl
  | createTaskPushNotificationConfig taskId config =>
      obtain ⟨⟨created, t'⟩, hcreate, heq⟩ := Outcome.map_eq_ok.1 hok
      cases heq
      rw [A2AHistory.next, hnext]
      obtain ⟨htasks, hdrawn⟩ := createPushNotificationConfig_tasks hcreate
      exact .quiet htasks hdrawn rfl fun hanswers => hanswers.1
  | deleteTaskPushNotificationConfig taskId configId =>
      obtain ⟨t', hdelete, heq⟩ := Outcome.map_eq_ok.1 hok
      cases heq
      rw [A2AHistory.next, hnext]
      unfold deletePushNotificationConfig at hdelete
      obtain ⟨_, -, hdelete⟩ := Outcome.bind_eq_ok.1 hdelete
      obtain ⟨_, -, hdelete⟩ := Outcome.bind_eq_ok.1 hdelete
      cases hdelete
      exact .quiet rfl le_rfl rfl fun hanswers => hanswers.1
  | _ =>
      obtain ⟨value, -, heq⟩ := Outcome.map_eq_ok.1 hok
      cases heq
      rw [A2AHistory.next, hnext]
      exact .quiet rfl le_rfl rfl fun hanswers => hanswers.1

theorem step_moves (hgen : NeverRepeats gen) (hids : s.IdsDrawn gen) (hstep : Step gen localeCompare s call t) :
    Moves gen s call h t (h.next gen localeCompare s call t) := by
  cases hperform : s.perform gen localeCompare call with
  | error e =>
      have ht : t = s := hstep.trans (after_of_error hperform)
      subst ht
      rw [A2AHistory.next, hperform]
      refine .quiet rfl le_rfl rfl fun hanswers => ?_
      obtain ⟨response, t', hok, -⟩ := @perform_of_answersDirectly gen localeCompare _ call hanswers
      cases hperform.symm.trans hok
  | ok value =>
      obtain ⟨response, t'⟩ := value
      have ht : t = t' := hstep.trans (after_of_ok hperform)
      subst ht
      exact perform_moves hgen hids hperform

theorem Moves.idsDrawn (hmoves : Moves gen s call h t h') (hids : s.IdsDrawn gen) : t.IdsDrawn gen := by
  intro id hhas
  cases hmoves with
  | quiet tasks drawn history =>
      rw [tasks] at hhas
      obtain ⟨k, hk, heq⟩ := hids id hhas
      exact ⟨k, hk.trans_le drawn, heq⟩
  | sends message task answer sends =>
      rw [OrdMap.has, sends.tasks] at hhas
      split at hhas
      · rename_i heq
        subst heq
        cases sends.target with
        | existing old named found =>
            obtain ⟨k, hk, hid⟩ := hids _ (OrdMap.has_of_get? found)
            exact ⟨k, hk.trans_le sends.drawn, hid⟩
        | new k unnamed lower upper hid => exact ⟨k, upper, hid⟩
      · obtain ⟨k, hk, heq⟩ := hids id hhas
        exact ⟨k, hk.trans_le sends.drawn, heq⟩
  | cancels old task found kept unsettled tasks drawn =>
      rw [OrdMap.has, tasks] at hhas
      rw [drawn]
      split at hhas
      · rename_i heq
        subst heq
        exact hids _ (OrdMap.has_of_get? found)
      · exact hids id hhas

/-! ## What the tasks show -/

/-- The history of a task is what was sent to it; it is in the state that was told, or its message was answered
directly and it is settled. -/
structure Answered (s : A2AOperationEngine) (h : A2AHistory) : Prop where
  sent : ∀ id task, s.tasks.get? id = some task → task.history = some (h.sent id)
  answered : ∀ id task, s.tasks.get? id = some task → h.answered id = some (.told task.status.state) ∨
    (h.answered id = some .direct ∧ isA2ATerminalTaskState task.status.state = true)

def NothingElseSent (s : A2AOperationEngine) (h : A2AHistory) : Prop :=
  ∀ id, s.tasks.get? id = none → h.sent id = []

theorem Moves.settled (hmoves : Moves gen s call h t h') (hgen : NeverRepeats gen) (hids : s.IdsDrawn gen)
    {id : String} {task : A2ATask} (hfound : s.tasks.get? id = some task)
    (hsettled : isA2ATerminalTaskState task.status.state = true) : t.tasks.get? id = some task := by
  cases hmoves with
  | quiet tasks => exact tasks ▸ hfound
  | sends message written answer sends =>
      rw [sends.tasks]
      split
      · rename_i heq
        subst heq
        cases sends.target with
        | existing old named found unsettled =>
            cases hfound.symm.trans found
            exact Bool.noConfusion (hsettled.symm.trans unsettled)
        | new k unnamed lower upper hid =>
            obtain ⟨j, hj, heq⟩ := hids _ (OrdMap.has_of_get? hfound)
            cases hgen .task (hid.symm.trans heq)
            omega
      · exact hfound
  | cancels old canceled found kept unsettled tasks =>
      rw [tasks]
      split
      · rename_i heq
        subst heq
        cases hfound.symm.trans found
        rcases unsettled with heq | hopen
        · rw [heq]
        · exact Bool.noConfusion (hsettled.symm.trans hopen)
      · exact hfound

theorem Moves.nothingElseSent (hmoves : Moves gen s call h t h') (hnothing : s.NothingElseSent h) :
    t.NothingElseSent h' := by
  intro id hnone
  cases hmoves with
  | quiet tasks drawn history =>
      rw [history]
      exact hnothing id (tasks ▸ hnone)
  | sends message task answer sends sent =>
      rw [sends.tasks] at hnone
      split at hnone
      · cases hnone
      · rename_i hne
        rw [sent, if_neg hne]
        exact hnothing id hnone
  | cancels old task found kept unsettled tasks drawn sent =>
      rw [tasks] at hnone
      split at hnone
      · cases hnone
      · rw [sent]
        exact hnothing id hnone

theorem Moves.sent (hmoves : Moves gen s call h t h') (hnothing : s.NothingElseSent h) (hgen : NeverRepeats gen)
    (hids : s.IdsDrawn gen)
    (hsent : ∀ id task, s.tasks.get? id = some task → task.history = some (h.sent id)) {id : String}
    {task : A2ATask} (hfound : t.tasks.get? id = some task) : task.history = some (h'.sent id) := by
  cases hmoves with
  | quiet tasks drawn history =>
      rw [history]
      exact hsent id task (tasks ▸ hfound)
  | sends message written answer sends sent =>
      rw [sends.tasks] at hfound
      rw [sent]
      split at hfound
      · rename_i heq
        cases hfound
        rw [if_pos heq, heq]
        cases sends.target with
        | existing old named found unsettled history =>
            rw [history, hsent _ old found]
            rfl
        | new k unnamed lower upper hid history =>
            have hnew : s.tasks.get? task.id = none := by
              cases hget : s.tasks.get? task.id with
              | none => rfl
              | some old =>
                  obtain ⟨j, hj, heq⟩ := hids _ (OrdMap.has_of_get? hget)
                  cases hgen .task (hid.symm.trans heq)
                  omega
            rw [history, hnothing _ hnew]
            rfl
      · rename_i hne
        rw [if_neg hne]
        exact hsent id task hfound
  | cancels old canceled found kept unsettled tasks drawn sent =>
      rw [tasks] at hfound
      rw [sent]
      split at hfound
      · rename_i heq
        cases hfound
        rw [kept, heq]
        exact hsent _ old found
      · exact hsent id task hfound

theorem Moves.answered_iff (hmoves : Moves gen s call h t h') (hnothing : s.NothingElseSent h)
    (hgen : NeverRepeats gen) (hids : s.IdsDrawn gen) (hanswered : s.Answered h) :
    t.Answered h' ↔ ¬ s.AnswersDirectly call := by
  have hsent := fun (id : String) (task : A2ATask) (hfound : t.tasks.get? id = some task) =>
    hmoves.sent hnothing hgen hids hanswered.sent hfound
  cases hmoves with
  | quiet tasks drawn history noAnswer =>
      refine iff_of_true ⟨hsent, fun id task hfound => ?_⟩ noAnswer
      rw [history]
      exact hanswered.answered id task (tasks ▸ hfound)
  | sends message written answer sends sent answered answers =>
      have hwritten : t.tasks.get? written.id = some written := by rw [sends.tasks, if_pos rfl]
      rcases answers with ⟨rfl, hnot⟩ | ⟨rfl, hopen, hdirect⟩
      · refine iff_of_true ⟨hsent, fun id task hfound => ?_⟩ hnot
        rw [sends.tasks] at hfound
        rw [answered]
        split at hfound
        · rename_i heq
          cases hfound
          exact .inl (if_pos heq)
        · rename_i hne
          rw [if_neg hne]
          exact hanswered.answered id task hfound
      · refine iff_of_false (fun ht => ?_) fun hnot => hnot hdirect
        have hends := ht.answered written.id written hwritten
        rw [answered, if_pos rfl] at hends
        rcases hends with hends | ⟨-, hsettled⟩
        · cases hends
        · exact Bool.noConfusion (hsettled.symm.trans hopen)
  | cancels old canceled found kept unsettled tasks drawn sent answered noAnswer =>
      refine iff_of_true ⟨hsent, fun id task hfound => ?_⟩ noAnswer
      rw [tasks] at hfound
      rw [answered]
      split at hfound
      · rename_i heq
        cases hfound
        exact .inl (if_pos heq)
      · rename_i hne
        rw [if_neg hne]
        exact hanswered.answered id task hfound

/-- Settled tasks stay as they are, and after every call the tasks show what was sent to them and told of them. -/
structure LivesRight (gen : A2AIdGenerator) (localeCompare : LocaleCompare) (start : A2AOperationEngine)
    (calls : List A2ACall) : Prop where
  settled : ∀ pre mid post s t id task, calls = pre ++ mid ++ post → Run (Step gen localeCompare) start pre s →
    Run (Step gen localeCompare) s mid t → s.tasks.get? id = some task →
    isA2ATerminalTaskState task.status.state = true → t.tasks.get? id = some task
  answered : ∀ pre post s h, calls = pre ++ post →
    Run (Run.Recorded (Step gen localeCompare) (A2AHistory.next gen localeCompare)) (start, .start) pre (s, h) →
    s.Answered h

theorem run_idsDrawn {calls : List A2ACall} (hgen : NeverRepeats gen) (hrun : Run (Step gen localeCompare) s calls t)
    (hids : s.IdsDrawn gen) : t.IdsDrawn gen :=
  hrun.invariant (fun _ _ _ hstep hids => (step_moves (h := .start) hgen hids hstep).idsDrawn hids) hids

theorem run_settled {calls : List A2ACall} (hgen : NeverRepeats gen) (hrun : Run (Step gen localeCompare) s calls t)
    (hids : s.IdsDrawn gen) {id : String} {task : A2ATask} (hfound : s.tasks.get? id = some task)
    (hsettled : isA2ATerminalTaskState task.status.state = true) : t.tasks.get? id = some task :=
  (hrun.invariant (I := fun s => s.IdsDrawn gen ∧ s.tasks.get? id = some task)
    (fun _ _ _ hstep hs => ⟨(step_moves (h := .start) hgen hs.1 hstep).idsDrawn hs.1,
      (step_moves (h := .start) hgen hs.1 hstep).settled hgen hs.1 hs.2 hsettled⟩) ⟨hids, hfound⟩).2

end A2AOperationEngine

open A2AOperationEngine

theorem create_get? (agentCard : A2AAgentCard) (extendedAgentCard : Option A2AAgentCard)
    (session : Option SessionTransportBinding) (id : String) :
    (A2AOperationEngine.create agentCard extendedAgentCard session).tasks.get? id = none := rfl

/-- In every run from a new engine the tasks live right exactly if the processor answers no message directly. -/
theorem a2a_tasks_live_right_iff (gen : A2AIdGenerator) (localeCompare : LocaleCompare) (agentCard : A2AAgentCard)
    (extendedAgentCard : Option A2AAgentCard) (session : Option SessionTransportBinding) (calls : List A2ACall)
    (hgen : NeverRepeats gen) :
    LivesRight gen localeCompare (.create agentCard extendedAgentCard session) calls ↔
      Run.Every (Run.Recorded (Step gen localeCompare) (A2AHistory.next gen localeCompare))
        (fun p call _ => ¬ p.1.AnswersDirectly call) (.create agentCard extendedAgentCard session, .start) calls := by
  have hids : (A2AOperationEngine.create agentCard extendedAgentCard session).IdsDrawn gen := by
    intro id hhas
    rw [OrdMap.has, create_get?] at hhas
    cases hhas
  have hanswered : (A2AOperationEngine.create agentCard extendedAgentCard session).Answered .start := by
    constructor <;>
      · intro id task hfound
        rw [create_get?] at hfound
        cases hfound
  have hiff := @Run.forall_states_iff _ _ (Run.Recorded (Step gen localeCompare) (A2AHistory.next gen localeCompare))
    (.create agentCard extendedAgentCard session, .start) calls (fun p call _ => ¬ p.1.AnswersDirectly call)
    (fun p => (p.1.IdsDrawn gen ∧ p.1.NothingElseSent p.2) ∧ p.1.Answered p.2)
    ⟨⟨hids, fun _ _ => rfl⟩, hanswered⟩
    fun p call q hstep hp => by
      have hmoves := step_moves (h := p.2) hgen hp.1.1 hstep.1
      rw [← hstep.2] at hmoves
      rw [← hmoves.answered_iff hp.1.2 hgen hp.1.1 hp.2]
      exact and_iff_right ⟨hmoves.idsDrawn hp.1.1, hmoves.nothingElseSent hp.1.2⟩
  rw [← hiff]
  constructor
  · rintro hright pre post ⟨s, h⟩ heq hrun
    have hs := hrun.invariant (I := fun p => p.1.IdsDrawn gen ∧ p.1.NothingElseSent p.2) (fun p call q hstep hp => by
      have hmoves := step_moves (h := p.2) hgen hp.1 hstep.1
      rw [← hstep.2] at hmoves
      exact ⟨hmoves.idsDrawn hp.1, hmoves.nothingElseSent hp.2⟩) ⟨hids, fun _ _ => rfl⟩
    exact ⟨hs, hright.answered pre post s h heq hrun⟩
  · intro hall
    constructor
    · intro pre mid post s t id task heq hpre hmid hfound hsettled
      exact run_settled hgen hmid (run_idsDrawn hgen hpre hids) hfound hsettled
    · exact fun pre post s h heq hrun => (hall pre post (s, h) heq hrun).2

/-! ## One message -/

def countedIds : A2AIdGenerator := fun k _ => toString k

theorem countedIds_neverRepeats : NeverRepeats countedIds := fun _ _ _ h =>
  JsString.toString_injective (congrArg String.toList h)

def streamingCard : A2AAgentCard where
  capabilities := { streaming := some true, pushNotifications := none, extensions := none, extendedAgentCard := none }
  defaultInputModes := ["text/plain"]

def questionMessage : A2AMessage where
  messageId := "m"
  role := .user
  parts := [{ content := .text "q", metadata := none, filename := none, mediaType := none }]
  contextId := none
  taskId := none
  metadata := none
  extensions := none
  referenceTaskIds := none

def questionCall (answer : A2ATaskProcessResult) : A2ACall where
  operation := .sendMessage { message := questionMessage, tenant := none, configuration := none, metadata := none }
  params := some { a2aVersion := some "1.0", a2aExtensions := none }
  env := { preparedAt := "t0", workingAt := "t1", settledAt := "t2", answer, processorDraws := 0 }

def cancelCall (id : String) : A2ACall where
  operation := .cancelTask { id, tenant := none, metadata := none }
  params := some { a2aVersion := some "1.0", a2aExtensions := none }
  env := { preparedAt := "t3", workingAt := "t4", settledAt := "t5", answer := .task .failed none none
           processorDraws := 0 }

/-- A question whose task wants input, and its cancellation. -/
theorem canceled_question_lives_right :
    LivesRight countedIds (fun _ _ => 0) (.create streamingCard none none)
      [questionCall (.task .inputRequired none none), cancelCall "1"] := by
  refine (a2a_tasks_live_right_iff countedIds (fun _ _ => 0) streamingCard none none _
    countedIds_neverRepeats).2 ?_
  rintro pre call post p q heq - - ⟨-, m, hanswer⟩
  have hmem : call ∈ [questionCall (.task .inputRequired none none), cancelCall "1"] :=
    heq ▸ List.mem_append_right pre List.mem_cons_self
  rcases List.mem_cons.1 hmem with rfl | hmem
  · cases hanswer
  · cases List.mem_singleton.1 hmem
    cases hanswer

/-- A question that the processor answers with a message leaves a submitted task behind. -/
theorem direct_answer_leaves_task :
    ¬ LivesRight countedIds (fun _ _ => 0) (.create streamingCard none none)
      [questionCall (.message questionMessage)] := by
  intro hright
  let start : A2AOperationEngine := .create streamingCard none none
  let call : A2ACall := questionCall (.message questionMessage)
  have hrun : Run (Run.Recorded (Step countedIds fun _ _ => 0) (A2AHistory.next countedIds fun _ _ => 0))
      (start, .start) [call] (start.after countedIds (fun _ _ => 0) call,
        A2AHistory.next countedIds (fun _ _ => 0) start call (start.after countedIds (fun _ _ => 0) call) .start) :=
    .single ⟨rfl, rfl⟩
  have hstate : ((start.after countedIds (fun _ _ => 0) call).tasks.get? "1").map (·.status.state) =
      some .submitted := by decide +kernel
  have hanswer : (A2AHistory.next countedIds (fun _ _ => 0) start call
      (start.after countedIds (fun _ _ => 0) call) .start).answered "1" = some .direct := by decide +kernel
  obtain ⟨task, hfound, hsubmitted⟩ := Option.map_eq_some_iff.1 hstate
  rcases (hright.answered [call] [] _ _ rfl hrun).answered "1" task hfound with htold | ⟨-, hsettled⟩
  · cases hanswer.symm.trans htold
  · rw [hsubmitted] at hsettled
    cases hsettled

end Cantilune
