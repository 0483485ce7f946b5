import Cantilune.Comms.Service

/-!
# What the sections of the comms exchange with the ports

For every section of a call: which port events it notes, and which outcome it ends the call with. Whatever else a
section does leaves the log of the ports alone.
-/

namespace Cantilune

open CommsM

def Committed (envelope : CommunicationEnvelope) (log : List PortEvent) : Prop :=
  ∃ snapshotRef receiptRef,
    .answered (.commitMessage envelope.messageId envelope.integrityDigest snapshotRef) (.resolved (.ok receiptRef)) ∈ log

def Dispatched (envelope : CommunicationEnvelope) (log : List PortEvent) : Prop :=
  ∃ verified attemptRef,
    verified.envelope = envelope ∧ .answered (.dispatch verified) (.resolved (.ok attemptRef)) ∈ log

theorem Committed.append {envelope : CommunicationEnvelope} {log : List PortEvent} (h : Committed envelope log)
    (events : List PortEvent) : Committed envelope (log ++ events) := by
  obtain ⟨snapshotRef, receiptRef, hmem⟩ := h
  exact ⟨snapshotRef, receiptRef, List.mem_append_left _ hmem⟩

theorem Dispatched.append {envelope : CommunicationEnvelope} {log : List PortEvent} (h : Dispatched envelope log)
    (events : List PortEvent) : Dispatched envelope (log ++ events) := by
  obtain ⟨verified, attemptRef, henvelope, hmem⟩ := h
  exact ⟨verified, attemptRef, henvelope, List.mem_append_left _ hmem⟩

/-! ## Noting port events -/

section Notes
variable {P Q : PortEvent → Prop} {α β : Type} {m : CommsM α}

/-- The operation leaves the log alone. -/
def Quiet (m : CommsM α) : Prop := ∀ w, (m w).2.log = w.log

theorem quiet_pure {a : α} : Quiet (pure a) := fun _ => rfl

theorem Quiet.bind {f : α → CommsM β} (h : Quiet m) (hf : ∀ a, Quiet (f a)) : Quiet (m >>= f) :=
  fun w => (hf (m w).1 (m w).2).trans (h w)

theorem quiet_isFrozen : Quiet isFrozen := fun _ => rfl

theorem quiet_now {host : CommsHost} : Quiet (now host) := fun _ => rfl

theorem quiet_store : Quiet store := fun _ => rfl

theorem quiet_onStore {f : CommsStore → α × CommsStore} : Quiet (onStore f) := fun _ => rfl

theorem quiet_getRecord {messageId : MessageId} : Quiet (getRecord messageId) := fun _ => rfl

theorem quiet_setRecord {record : MessagingSagaRecord} : Quiet (setRecord record) := fun _ => rfl

theorem quiet_emit {event : CommsEventEnvelope} : Quiet (emit event) := fun _ => rfl

theorem quiet_finish {W : Type} {a : α} : Quiet (finish a : CommsM (W ⊕ Settled α)) := fun _ => rfl

theorem quiet_forM {f : β → CommsM Unit} (hf : ∀ b, Quiet (f b)) (bs : List β) : Quiet (bs.forM f) := by
  induction bs with
  | nil => exact quiet_pure
  | cons b bs ih => exact (hf b).bind fun _ => ih

/-- All that the operation adds to the log has the property. -/
def NotesIn (P : PortEvent → Prop) (m : CommsM α) : Prop :=
  ∀ w, ∃ events, (m w).2.log = w.log ++ events ∧ ∀ e ∈ events, P e

theorem Quiet.notesIn (h : Quiet m) : NotesIn P m :=
  fun w => ⟨[], by rw [h w, List.append_nil], fun _ he => absurd he List.not_mem_nil⟩

theorem NotesIn.bind {f : α → CommsM β} (h : NotesIn P m) (hf : ∀ a, NotesIn P (f a)) : NotesIn P (m >>= f) := by
  intro w
  obtain ⟨events, hlog, hevents⟩ := h w
  obtain ⟨events', hlog', hevents'⟩ := hf (m w).1 (m w).2
  refine ⟨events ++ events', ?_, fun e he => ?_⟩
  · rw [← List.append_assoc, ← hlog, ← hlog']
    rfl
  · rcases List.mem_append.1 he with he | he
    · exact hevents e he
    · exact hevents' e he

theorem Quiet.before {f : α → CommsM β} (h : Quiet m) (hf : ∀ a, NotesIn P (f a)) : NotesIn P (m >>= f) :=
  h.notesIn.bind hf

theorem notesIn_await {W Out : Type} {call : PortCall} {wait : W} (h : P (.called call)) :
    NotesIn P (await call wait : CommsM (W ⊕ Out)) :=
  fun _ => ⟨[.called call], rfl, fun _ he => List.mem_singleton.1 he ▸ h⟩

theorem notesIn_answered {W : Type} {call : PortCall} {response : Settled PortResult}
    {k : PortResult → CommsM (W ⊕ Settled α)} (h : P (.answered call response)) (hk : ∀ result, NotesIn P (k result)) :
    NotesIn P (answered call response k) := by
  refine NotesIn.bind (fun _ => ⟨[.answered call response], rfl, fun _ he => List.mem_singleton.1 he ▸ h⟩) fun _ => ?_
  cases response with
  | rejected reason => exact quiet_pure.notesIn
  | resolved result => exact hk result

def CommsWorld.noted (w : CommsWorld) (event : PortEvent) : CommsWorld := { w with log := w.log ++ [event] }

theorem answered_resolved {W α : Type} {call : PortCall} {result : PortResult} {k : PortResult → CommsM (W ⊕ Settled α)}
    {w : CommsWorld} :
    answered call (.resolved result) k w = k result (w.noted (.answered call (.resolved result))) := rfl

end Notes

variable (host : CommsHost)

/-! ## The sections of a send -/

namespace MessagingSaga

variable (input : ExecuteSendInput) {P : PortEvent → Prop} {frame : SendFrame} {result : PortResult}

theorem quiet_replayed : Quiet (replayed host input) := by
  refine quiet_getRecord.bind fun existing => ?_
  cases existing with
  | some existing => exact quiet_pure
  | none => exact quiet_store.bind fun _ => quiet_now.bind fun _ => quiet_pure

theorem quiet_failed {violation : CommsViolation} : Quiet (failed host frame violation) :=
  quiet_now.bind fun _ => quiet_setRecord.bind fun _ => quiet_finish

theorem persisted_notesIn {delivery : DeliveryRecord} {enqueuedEvent : CommsEventEnvelope} {answer : PersistResult}
    (h : ∀ frame, P (.called (portCall input (.observing frame)))) :
    NotesIn P (persisted host input delivery enqueuedEvent answer) := by
  cases answer with
  | conflict => exact quiet_finish.notesIn
  | idempotentReplay => exact ((quiet_replayed host input).bind fun _ => quiet_finish).notesIn
  | committed => exact quiet_now.before fun _ => quiet_setRecord.before fun _ => notesIn_await (h _)

theorem executeSend_notesIn (h : ∀ frame, P (.called (portCall input (.observing frame)))) :
    NotesIn P (executeSend host input) := by
  refine quiet_isFrozen.before fun frozen => ?_
  cases frozen with
  | true => exact quiet_finish.notesIn
  | false =>
      exact quiet_now.before fun _ => quiet_onStore.before fun _ => quiet_now.before fun _ =>
        quiet_onStore.before fun _ => persisted_notesIn host input h

theorem observed_notesIn (h : ∀ frame snapshotRef, P (.called (portCall input (.committing frame snapshotRef)))) :
    NotesIn P (observed host input frame result) := by
  cases result with
  | error violation => exact (quiet_failed host).notesIn
  | ok snapshotRef => exact quiet_now.before fun _ => quiet_setRecord.before fun _ => notesIn_await (h _ _)

theorem committed_notesIn
    (h : ∀ frame verifiedAt, result.isOk → P (.called (portCall input (.dispatching frame verifiedAt)))) :
    NotesIn P (committed host input frame result) := by
  cases result with
  | error violation => exact (quiet_failed host).notesIn
  | ok receiptRef =>
      exact quiet_now.before fun _ => quiet_setRecord.before fun _ => quiet_now.before fun _ =>
        notesIn_await (h _ _ rfl)

theorem quiet_dispatched : Quiet (dispatched host input frame result) := by
  cases result with
  | error violation => exact quiet_failed host
  | ok attemptRef =>
      exact quiet_now.bind fun _ => quiet_onStore.bind fun _ => quiet_now.bind fun _ => quiet_setRecord.bind fun _ =>
        quiet_emit.bind fun _ => quiet_onStore.bind fun _ => quiet_now.bind fun _ => quiet_emit.bind fun _ =>
          quiet_finish

end MessagingSaga

/-! ## The sections of a drain -/

namespace OutboxDispatcher

variable {frame : DrainFrame} {delivery : DeliveryRecord} {result : PortResult}

def dueEnvelope (store : CommsStore) (delivery : DeliveryRecord) : Option CommunicationEnvelope :=
  if isDue delivery then store.getEnvelope delivery.envelopeRef else none

theorem dispatchOne_log (w : CommsWorld) : (dispatchOne host frame delivery w).2.log =
    w.log ++ ((dueEnvelope w.store delivery).map fun envelope =>
      .called (.dispatch (sealVerifiedEnvelope envelope (host.clock w.readings)))).toList := by
  unfold dispatchOne dueEnvelope isDue
  by_cases hstate : delivery.state ≠ .queued ∧ delivery.state ≠ .retryWait
  · rw [if_pos hstate]
    simp only [hstate.1, hstate.2, decide_false, Bool.or_self, Bool.false_and, Bool.false_eq_true, if_false]
    exact (List.append_nil _).symm
  · rw [if_neg hstate]
    have hqueued : delivery.state = .queued ∨ delivery.state = .retryWait := by
      rwa [not_and_or, not_not, not_not] at hstate
    by_cases hbudget : CommsLimits.maxRetryAttempts ≤ delivery.attempt
    · rw [if_pos hbudget, if_neg (by simp [hbudget])]
      exact (List.append_nil _).symm
    · have hdue : ((delivery.state = .queued || delivery.state = .retryWait) &&
          delivery.attempt < CommsLimits.maxRetryAttempts : Bool) = true := by
        simpa using ⟨hqueued, Nat.lt_of_not_le hbudget⟩
      rw [if_neg hbudget, if_pos hdue]
      rw [store_bind]
      cases w.store.getEnvelope delivery.envelopeRef with
      | none => exact (List.append_nil _).symm
      | some envelope => rfl

theorem quiet_markRetry {reason : String} : Quiet (markRetry host delivery reason) := by
  unfold markRetry
  simp only
  split <;> exact quiet_now.bind fun _ => quiet_onStore.bind fun _ => quiet_pure

theorem quiet_dispatchedOne : Quiet (dispatchedOne host frame delivery result) := by
  cases result with
  | error violation =>
      refine (quiet_markRetry host).bind fun dead => ?_
      cases dead <;> exact quiet_pure
  | ok attemptRef => exact quiet_now.bind fun _ => quiet_onStore.bind fun _ => quiet_pure

end OutboxDispatcher

namespace DeliveryRecovery

theorem quiet_markDeadLettered {deliveryId : DeliveryAttemptId} {reason : String} :
    Quiet (markDeadLettered host deliveryId reason) := by
  refine quiet_store.bind fun store => ?_
  split
  · exact quiet_pure
  · exact quiet_now.bind fun _ => quiet_onStore.bind fun _ => quiet_pure

theorem quiet_deadLetter {failure : DeliveryAttemptId × String} : Quiet (deadLetter host failure) :=
  (quiet_markDeadLettered host).bind fun _ => quiet_now.bind fun _ => quiet_onStore.bind fun _ =>
    quiet_onStore.bind fun _ => quiet_now.bind fun _ => quiet_emit

theorem quiet_drained {unchanged : Nat} {result : DrainResult} : Quiet (drained host unchanged result) := by
  cases result with
  | error violation => exact quiet_finish
  | ok result => exact (quiet_forM (fun _ => quiet_deadLetter host) _).bind fun _ => quiet_finish

theorem draining_eq {unchanged : Nat} {drain : CommsM (DrainWait ⊕ Settled DrainResult)} (w : CommsWorld) :
    draining unchanged drain w = (afterDrain unchanged (drain w).1, (drain w).2) := rfl

end DeliveryRecovery

namespace MessagingService

variable (input : SendInput)

theorem inSaga_eq {saga : CommsM (SendWait ⊕ Settled SendResult)} (w : CommsWorld) :
    inSaga input saga w = (afterSaga input (saga w).1, (saga w).2) := rfl

theorem quiet_validateOutboundEnvelope : Quiet (EnvelopePolicy.validateOutboundEnvelope host input) := by
  refine quiet_store.bind fun store => ?_
  split
  · exact quiet_pure
  · exact quiet_now.bind fun _ => quiet_pure

theorem send_notesIn {P : PortEvent → Prop}
    (h : ∀ frame, P (.called (MessagingSaga.portCall input.toExecuteSendInput (.observing frame)))) :
    NotesIn P (send host input true) := by
  refine quiet_isFrozen.before fun frozen => ?_
  cases frozen with
  | true => exact quiet_finish.notesIn
  | false =>
      simp only [Bool.false_eq_true, if_false]
      split
      · exact quiet_finish.notesIn
      · refine (quiet_validateOutboundEnvelope host input).before fun policy => ?_
        cases policy with
        | error violation => exact quiet_finish.notesIn
        | ok _ => exact (MessagingSaga.executeSend_notesIn host _ h).bind fun _ => quiet_pure.notesIn

theorem quiet_transportAnswered {delivery : DeliveryRecord} {event : CommsEventEnvelope} {result : PortResult} :
    Quiet (transportAnswered delivery event result) := by
  cases result with
  | error violation => exact quiet_finish
  | ok attemptRef => exact quiet_emit.bind fun _ => quiet_finish

end MessagingService

/-! ## The log grows -/

theorem dispatchRest_grows {frame : DrainFrame} :
    NotesIn (fun _ => True) (OutboxDispatcher.dispatchRest host frame) := by
  obtain ⟨rest, result⟩ := frame
  cases rest with
  | nil => exact quiet_finish.notesIn
  | cons delivery rest => exact fun w => ⟨_, OutboxDispatcher.dispatchOne_log host w, fun _ _ => trivial⟩

theorem dispatchPending_grows : NotesIn (fun _ => True) (OutboxDispatcher.dispatchPending host) := by
  refine quiet_isFrozen.before fun frozen => ?_
  cases frozen with
  | true => exact quiet_finish.notesIn
  | false => exact quiet_store.before fun _ => dispatchRest_grows host

theorem resumeDrain_grows {wait : DrainWait} {response : wait.Resp} :
    NotesIn (fun _ => True) (OutboxDispatcher.resume host wait response) := by
  cases wait with
  | transport frame delivery verified =>
      exact notesIn_answered trivial fun _ => (OutboxDispatcher.quiet_dispatchedOne host).notesIn
  | returned frame outcome => exact dispatchRest_grows host

theorem resumeReconcile_grows {wait : ReconcileWait} {response : wait.Resp} :
    NotesIn (fun _ => True) (DeliveryRecovery.resume host wait response) := by
  cases wait with
  | draining unchanged wait => exact (resumeDrain_grows host).bind fun _ => quiet_pure.notesIn
  | drained unchanged result => exact (DeliveryRecovery.quiet_drained host).notesIn

theorem start_grows (call : CommsCall) : NotesIn (fun _ => True) ((commsServices host).start call) := by
  cases call with
  | executeSend input => exact MessagingSaga.executeSend_notesIn host input fun _ => trivial
  | send input => exact MessagingService.send_notesIn host input fun _ => trivial
  | dispatchPending => exact dispatchPending_grows host
  | reconcile =>
      refine quiet_isFrozen.before fun frozen => ?_
      cases frozen with
      | true => exact quiet_finish.notesIn
      | false => exact quiet_store.before fun _ => (dispatchPending_grows host).bind fun _ => quiet_pure.notesIn
  | setFrozen frozen => exact Quiet.notesIn fun _ => rfl

theorem resumeSend_grows {input : ExecuteSendInput} {wait : SendWait} {response : Settled PortResult} :
    NotesIn (fun _ => True) (MessagingSaga.resume host input wait response) := by
  refine notesIn_answered trivial fun result => ?_
  cases wait with
  | observing frame => exact MessagingSaga.observed_notesIn host input fun _ _ => trivial
  | committing frame snapshotRef => exact MessagingSaga.committed_notesIn host input fun _ _ _ => trivial
  | dispatching frame verifiedAt => exact (MessagingSaga.quiet_dispatched host input).notesIn

theorem resumeService_grows {input : SendInput} {wait : ServiceWait} {response : Settled PortResult} :
    NotesIn (fun _ => True) (MessagingService.resume host input response wait) := by
  cases wait with
  | saga wait => exact (resumeSend_grows host).bind fun _ => quiet_pure.notesIn
  | transport delivery event verifiedAt =>
      exact notesIn_answered trivial fun _ => MessagingService.quiet_transportAnswered.notesIn

theorem resume_grows (call : CommsCall) (wait : (commsServices host).Wait call)
    (response : (commsServices host).Resp call wait) :
    NotesIn (fun _ => True) ((commsServices host).resume call wait response) := by
  cases call with
  | executeSend input => exact resumeSend_grows host
  | send input => exact resumeService_grows host
  | dispatchPending => exact resumeDrain_grows host
  | reconcile => exact resumeReconcile_grows host
  | setFrozen frozen => exact Empty.elim wait

/-! ## Sends that start -/

section Start
variable {host} {w : CommsWorld}

theorem executeSend_frozen {input : ExecuteSendInput} (hfrozen : w.frozen = true) :
    MessagingSaga.executeSend host input w =
      (.inr (.resolved (.error (commsViolation .commsFrozen .send "comms E-Stop active"))), w) := by
  obtain ⟨store, records, emitted, frozen, readings, log⟩ := w
  cases hfrozen
  rfl

def outboxAppend (host : CommsHost) (input : ExecuteSendInput) (w : CommsWorld) : OutboxAppendInput :=
  { envelope := input.envelope, idempotencyKey := input.idempotencyKey
    delivery := queuedDelivery input.envelope (host.clock w.readings)
    event := messageEvent "evt-enq-" .messageEnqueued input.envelope (w.store.sequence + 1)
      (host.clock (w.readings + 1)) }

theorem executeSend_unfrozen {input : ExecuteSendInput} (hfrozen : w.frozen = false) :
    MessagingSaga.executeSend host input w =
      MessagingSaga.persisted host input (outboxAppend host input w).delivery (outboxAppend host input w).event
        (w.store.nextSequence.2.appendOutbox (outboxAppend host input w)).1
        { w with
          store := (w.store.nextSequence.2.appendOutbox (outboxAppend host input w)).2
          readings := w.readings + 2 } := by
  obtain ⟨store, records, emitted, frozen, readings, log⟩ := w
  cases hfrozen
  rfl

theorem policy_keeps {input : SendInput} :
    ∃ readings, (EnvelopePolicy.validateOutboundEnvelope host input w).2 = { w with readings } := by
  unfold EnvelopePolicy.validateOutboundEnvelope
  simp only [bind, StateT.bind, store]
  cases EnvelopePolicy.validateBeforeTtl input w.store with
  | error violation => exact ⟨_, rfl⟩
  | ok _ => exact ⟨_, rfl⟩

theorem send_frozen {input : SendInput} (hfrozen : w.frozen = true) :
    MessagingService.send host input true w =
      (.inr (.resolved (.error (commsViolation .commsFrozen .send "comms E-Stop active"))), w) := by
  obtain ⟨store, records, emitted, frozen, readings, log⟩ := w
  cases hfrozen
  rfl

def policyAdmits (host : CommsHost) (input : SendInput) (w : CommsWorld) : Bool :=
  (assertAuthenticatedCommsContext input.context).isOk && (EnvelopePolicy.validateOutboundEnvelope host input w).1.isOk

theorem send_cases {input : SendInput} (hfrozen : w.frozen = false) :
    (policyAdmits host input w = false ∧ ∃ violation readings, MessagingService.send host input true w =
        (.inr (.resolved (.error violation)), { w with readings })) ∨
      (policyAdmits host input w = true ∧ ∃ readings, MessagingService.send host input true w =
        (MessagingService.afterSaga input
            (MessagingSaga.executeSend host input.toExecuteSendInput { w with readings }).1,
          (MessagingSaga.executeSend host input.toExecuteSendInput { w with readings }).2)) := by
  obtain ⟨readings, hkeeps⟩ :
      ∃ readings, (EnvelopePolicy.validateOutboundEnvelope host input w).2 = { w with readings } := policy_keeps
  unfold policyAdmits
  cases hcontext : assertAuthenticatedCommsContext input.context with
  | error violation =>
      refine .inl ⟨rfl, violation, w.readings, ?_⟩
      obtain ⟨store, records, emitted, frozen, readings, log⟩ := w
      cases hfrozen
      unfold MessagingService.send
      rw [hcontext]
      rfl
  | ok _ =>
      have hrun : MessagingService.send host input true w =
          MessagingService.admitted host input true (EnvelopePolicy.validateOutboundEnvelope host input w).1
            (EnvelopePolicy.validateOutboundEnvelope host input w).2 := by
        obtain ⟨store, records, emitted, frozen, readings, log⟩ := w
        cases hfrozen
        unfold MessagingService.send
        rw [hcontext]
        rfl
      rw [hrun, hkeeps]
      cases (EnvelopePolicy.validateOutboundEnvelope host input w).1 with
      | error violation => exact .inl ⟨rfl, violation, readings, rfl⟩
      | ok _ => exact .inr ⟨rfl, readings, rfl⟩

end Start

section Sample

def sampleCommsHost : CommsHost :=
  { clock := fun _ => "t", dateParse := fun _ => none, computeEnvelopeIntegrityDigest := fun _ => "digest" }

def sampleEnvelope : CommunicationEnvelope :=
  { wireVersion := 1, registryVersion := 1, messageId := "m", operationCode := .send
    metadata :=
      { epochId := "e", epochOrdinal := 1, bindingGeneration := none, bindingRef := none
        operationTemplateRef := { operationTypeId := "op", revision := "1" }, sessionId := "s", correlationId := "c"
        occurrenceId := "o", causationId := none, idempotencyKey := none }
    sender := { actorId := "a", kind := .agent }, recipient := { actorId := "b", kind := .agent }, channelId := "ch"
    channelGeneration := 1, sequence := 1, replyToMessageId := none
    payload :=
      { contentRef := "content", contentDigest := "cd", mediaType := "text/plain", byteLength := 1
        classification := .internal, encryptionMetadataRef := none }
    ackMode := .durablyAccepted, issuedAt := "t", expiresAt := "t", integrityDigest := "digest" }

def sampleSend : ExecuteSendInput :=
  { context := { principal := sampleEnvelope.sender, sealed := true }, envelope := sampleEnvelope
    idempotencyKey := "k" }

def idleServices : Sections.Tasks (commsServices sampleCommsHost) Nat := .idle _ Nat .empty

def portAnswers (response : Settled PortResult) : Sections.Move (commsServices sampleCommsHost) :=
  .resume fun call wait =>
    match call with
    | .executeSend _ => response
    | .send _ => response
    | .dispatchPending =>
        match (show DrainWait from wait) with
        | .transport .. => response
        | .returned .. => ()
    | .reconcile =>
        match (show ReconcileWait from wait) with
        | .draining _ (.transport ..) => response
        | .draining _ (.returned ..) => ()
        | .drained .. => ()
    | .setFrozen _ => Empty.elim wait

end Sample

end Cantilune
