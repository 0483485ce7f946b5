import Cantilune.Comms.Close
import Cantilune.Lemmas.DrainSections

/-!
# What the sections of the comms may do to the store

A relation between stores that holds of the operations of sending holds of every section of a send, a drain and a
recovery, whatever else these do.
-/

namespace Cantilune

open CommsM

section Moves
variable {R : CommsStore → CommsStore → Prop} {α β : Type} {m : CommsM α}

def StoreMoves (R : CommsStore → CommsStore → Prop) (m : CommsM α) : Prop := ∀ w, R w.store (m w).2.store

structure SendsAlong (R : CommsStore → CommsStore → Prop) : Prop where
  refl : ∀ store, R store store
  trans : ∀ {store store' store''}, R store store' → R store' store'' → R store store''
  sequence : ∀ store, R store store.nextSequence.2
  append : ∀ store (input : OutboxAppendInput), input.event.kind = .messageEnqueued →
    R store (store.appendOutbox input).2
  update : ∀ store messageId next, R store (store.updateDelivery messageId next).2
  deadLetter : ∀ store record, R store (store.putDeadLetter record)

theorem StoreMoves.bind (hR : SendsAlong R) {f : α → CommsM β} (h : StoreMoves R m) (hf : ∀ a, StoreMoves R (f a)) :
    StoreMoves R (m >>= f) :=
  fun w => hR.trans (h w) (hf (m w).1 (m w).2)

theorem StoreMoves.of_eq (hR : SendsAlong R) (h : ∀ w, (m w).2.store = w.store) : StoreMoves R m :=
  fun w => by rw [h w]; exact hR.refl _

theorem storeMoves_pure (hR : SendsAlong R) {a : α} : StoreMoves R (pure a : CommsM α) := .of_eq hR fun _ => rfl

theorem storeMoves_finish (hR : SendsAlong R) {W : Type} {a : α} :
    StoreMoves R (finish a : CommsM (W ⊕ Settled α)) := .of_eq hR fun _ => rfl

theorem storeMoves_now (hR : SendsAlong R) {host : CommsHost} : StoreMoves R (now host) := .of_eq hR fun _ => rfl

theorem storeMoves_await (hR : SendsAlong R) {W Out : Type} {call : PortCall} {wait : W} :
    StoreMoves R (await call wait : CommsM (W ⊕ Out)) := .of_eq hR fun _ => rfl

theorem storeMoves_emit (hR : SendsAlong R) {event : CommsEventEnvelope} : StoreMoves R (emit event) :=
  .of_eq hR fun _ => rfl

theorem storeMoves_setRecord (hR : SendsAlong R) {record : MessagingSagaRecord} : StoreMoves R (setRecord record) :=
  .of_eq hR fun _ => rfl

theorem storeMoves_nextSequence (hR : SendsAlong R) : StoreMoves R nextSequence := fun w => hR.sequence w.store

theorem storeMoves_updateDelivery (hR : SendsAlong R) {messageId : MessageId} {next : DeliveryRecord} :
    StoreMoves R (updateDelivery messageId next) := fun w => hR.update w.store messageId next

theorem storeMoves_forM (hR : SendsAlong R) {f : β → CommsM Unit} (hf : ∀ b, StoreMoves R (f b)) (bs : List β) :
    StoreMoves R (bs.forM f) := by
  induction bs with
  | nil => exact storeMoves_pure hR
  | cons b bs ih => exact (hf b).bind hR fun _ => ih

theorem storeMoves_answered (hR : SendsAlong R) {W : Type} {call : PortCall} {response : Settled PortResult}
    {k : PortResult → CommsM (W ⊕ Settled α)} (hk : ∀ result, StoreMoves R (k result)) :
    StoreMoves R (answered call response k) := by
  cases response with
  | rejected reason => exact .of_eq hR fun _ => rfl
  | resolved result => exact fun w => hk result (w.noted _)

end Moves

/-! ## Messages are kept -/

namespace CommsStore

variable {store : CommsStore} {input : OutboxAppendInput}

def appended (store : CommsStore) (input : OutboxAppendInput) : CommsStore :=
  { store with
    idempotency := store.idempotency.set input.idempotencyKey input.envelope.integrityDigest
    outbox := store.outbox ++ [input.delivery]
    deliveries := store.deliveries.set input.envelope.messageId input.delivery
    envelopes := store.envelopes.set input.envelope.messageId input.envelope
    events := store.events ++ [input.event] }

theorem appendOutbox_of_new (h : store.idempotency.get? input.idempotencyKey = none) :
    store.appendOutbox input = (.committed, store.appended input) := by
  unfold appendOutbox claimIdempotency
  rw [h]
  rfl

theorem appendOutbox_committed_iff :
    (store.appendOutbox input).1 = .committed ↔ store.idempotency.get? input.idempotencyKey = none := by
  unfold appendOutbox claimIdempotency
  cases hkey : store.idempotency.get? input.idempotencyKey with
  | none => simp
  | some digest => by_cases hdigest : digest = input.envelope.integrityDigest <;> simp [hdigest]

end CommsStore

structure KeepsMessages (store store' : CommsStore) : Prop where
  deliveries : ∀ messageId, (store.deliveries.get? messageId).isSome → (store'.deliveries.get? messageId).isSome
  envelopes : ∀ messageId, (store.envelopes.get? messageId).isSome → (store'.envelopes.get? messageId).isSome

theorem KeepsMessages.refl {store : CommsStore} : KeepsMessages store store := ⟨fun _ => id, fun _ => id⟩

theorem KeepsMessages.trans {store store' store'' : CommsStore} (h : KeepsMessages store store')
    (h' : KeepsMessages store' store'') : KeepsMessages store store'' :=
  ⟨fun messageId hget => h'.deliveries messageId (h.deliveries messageId hget),
    fun messageId hget => h'.envelopes messageId (h.envelopes messageId hget)⟩

theorem isSome_set {K V : Type} [DecidableEq K] {m : OrdMap K V} {k j : K} {v : V} (h : (m.get? j).isSome) :
    ((m.set k v).get? j).isSome := by
  rw [OrdMap.get?_set]
  split
  · rfl
  · exact h

section Messages
variable {store : CommsStore} {messageId : MessageId} {next : DeliveryRecord}

theorem keepsMessages_updateDelivery : KeepsMessages store (store.updateDelivery messageId next).2 := by
  unfold CommsStore.updateDelivery
  split
  · exact .refl
  · exact ⟨fun _ => isSome_set, fun _ => id⟩

theorem keepsMessages_appendOutbox {input : OutboxAppendInput} :
    KeepsMessages store (store.appendOutbox input).2 := by
  by_cases hkey : store.idempotency.get? input.idempotencyKey = none
  · rw [CommsStore.appendOutbox_of_new hkey]
    exact ⟨fun _ => isSome_set, fun _ => isSome_set⟩
  · rw [CommsStore.appendOutbox_eq_of_ne_committed (fun h => hkey (CommsStore.appendOutbox_committed_iff.1 h))]
    exact .refl

theorem sendsAlong_keepsMessages : SendsAlong KeepsMessages where
  refl _ := .refl
  trans := .trans
  sequence _ := ⟨fun _ => id, fun _ => id⟩
  append _ _ _ := keepsMessages_appendOutbox
  update _ _ _ := keepsMessages_updateDelivery
  deadLetter _ _ := ⟨fun _ => id, fun _ => id⟩

end Messages

variable {R : CommsStore → CommsStore → Prop} {host : CommsHost}

/-! ## A send -/

namespace MessagingSaga

variable {input : ExecuteSendInput} {frame : SendFrame}

theorem failed_moves (hR : SendsAlong R) {violation : CommsViolation} : StoreMoves R (failed host frame violation) :=
  (storeMoves_now hR).bind hR fun _ => (storeMoves_setRecord hR).bind hR fun _ => storeMoves_finish hR

theorem replayed_moves (hR : SendsAlong R) : StoreMoves R (replayed host input) := by
  refine .of_eq hR fun w => ?_
  unfold replayed
  simp only [bind, StateT.bind, getRecord]
  cases w.records.get? input.envelope.messageId with
  | some existing => rfl
  | none => rfl

theorem persisted_moves (hR : SendsAlong R) {delivery : DeliveryRecord} {event : CommsEventEnvelope}
    {answer : PersistResult} : StoreMoves R (persisted host input delivery event answer) := by
  cases answer with
  | conflict => exact storeMoves_finish hR
  | idempotentReplay => exact (replayed_moves hR).bind hR fun _ => storeMoves_finish hR
  | committed =>
      exact (storeMoves_now hR).bind hR fun _ => (storeMoves_setRecord hR).bind hR fun _ => storeMoves_await hR

theorem executeSend_moves (hR : SendsAlong R) : StoreMoves R (executeSend host input) := by
  intro w
  cases hfrozen : w.frozen with
  | true =>
      rw [executeSend_frozen hfrozen]
      exact hR.refl _
  | false =>
      rw [executeSend_unfrozen hfrozen]
      refine hR.trans (hR.trans (hR.sequence w.store) (hR.append _ (outboxAppend host input w) rfl)) ?_
      exact persisted_moves hR
        { w with
          store := (w.store.nextSequence.2.appendOutbox (outboxAppend host input w)).2
          readings := w.readings + 2 }

theorem resume_moves (hR : SendsAlong R) {wait : SendWait} {response : Settled PortResult} :
    StoreMoves R (resume host input wait response) := by
  refine storeMoves_answered hR fun result => ?_
  cases wait with
  | observing frame =>
      cases result with
      | error violation => exact failed_moves hR
      | ok snapshotRef =>
          exact (storeMoves_now hR).bind hR fun _ => (storeMoves_setRecord hR).bind hR fun _ => storeMoves_await hR
  | committing frame snapshotRef =>
      cases result with
      | error violation => exact failed_moves hR
      | ok receiptRef =>
          exact (storeMoves_now hR).bind hR fun _ => (storeMoves_setRecord hR).bind hR fun _ =>
            (storeMoves_now hR).bind hR fun _ => storeMoves_await hR
  | dispatching frame verifiedAt =>
      cases result with
      | error violation => exact failed_moves hR
      | ok attemptRef =>
          exact (storeMoves_now hR).bind hR fun _ => (storeMoves_updateDelivery hR).bind hR fun _ =>
            (storeMoves_now hR).bind hR fun _ => (storeMoves_setRecord hR).bind hR fun _ =>
            (storeMoves_emit hR).bind hR fun _ => (storeMoves_nextSequence hR).bind hR fun _ =>
            (storeMoves_now hR).bind hR fun _ => (storeMoves_emit hR).bind hR fun _ => storeMoves_finish hR

end MessagingSaga

namespace MessagingService

variable {input : SendInput}

theorem send_moves (hR : SendsAlong R) : StoreMoves R (send host input true) := by
  intro w
  cases hfrozen : w.frozen with
  | true =>
      rw [send_frozen hfrozen]
      exact hR.refl _
  | false =>
      rcases @send_cases host w input hfrozen with ⟨-, violation, readings, hrun⟩ | ⟨-, readings, hrun⟩
      · rw [hrun]
        exact hR.refl _
      · rw [hrun]
        exact MessagingSaga.executeSend_moves hR { w with readings }

theorem resume_moves (hR : SendsAlong R) {wait : ServiceWait} {response : Settled PortResult} :
    StoreMoves R (resume host input response wait) := by
  cases wait with
  | saga wait => exact (MessagingSaga.resume_moves hR).bind hR fun _ => storeMoves_pure hR
  | transport delivery event verifiedAt =>
      refine storeMoves_answered hR fun result => ?_
      cases result with
      | error violation => exact storeMoves_finish hR
      | ok attemptRef => exact (storeMoves_emit hR).bind hR fun _ => storeMoves_finish hR

end MessagingService

/-! ## A drain -/

namespace OutboxDispatcher

variable {frame : DrainFrame} {delivery : DeliveryRecord}

theorem dispatchOne_moves (hR : SendsAlong R) : StoreMoves R (dispatchOne host frame delivery) := by
  refine .of_eq hR fun w => ?_
  unfold dispatchOne
  split
  · rfl
  · split
    · rfl
    · rw [store_bind]
      cases w.store.getEnvelope delivery.envelopeRef with
      | none => rfl
      | some envelope => rfl

theorem dispatchRest_moves (hR : SendsAlong R) : StoreMoves R (dispatchRest host frame) := by
  obtain ⟨rest, result⟩ := frame
  cases rest with
  | nil => exact storeMoves_finish hR
  | cons delivery rest => exact dispatchOne_moves hR

theorem dispatchPending_moves (hR : SendsAlong R) : StoreMoves R (dispatchPending host) := by
  intro w
  obtain ⟨store, records, emitted, frozen, readings, log⟩ := w
  cases frozen with
  | true => exact hR.refl _
  | false => exact dispatchRest_moves hR _

theorem markRetry_moves (hR : SendsAlong R) {reason : String} : StoreMoves R (markRetry host delivery reason) := by
  unfold markRetry
  simp only
  split <;> exact (storeMoves_now hR).bind hR fun _ => (storeMoves_updateDelivery hR).bind hR fun _ => storeMoves_pure hR

theorem resume_moves (hR : SendsAlong R) {wait : DrainWait} {response : wait.Resp} :
    StoreMoves R (resume host wait response) := by
  cases wait with
  | transport frame delivery verified =>
      refine storeMoves_answered hR fun result => ?_
      cases result with
      | error violation =>
          refine (markRetry_moves hR).bind hR fun dead => ?_
          cases dead <;> exact storeMoves_pure hR
      | ok attemptRef =>
          exact (storeMoves_now hR).bind hR fun _ => (storeMoves_updateDelivery hR).bind hR fun _ => storeMoves_pure hR
  | returned frame outcome => exact dispatchRest_moves hR

end OutboxDispatcher

namespace DeliveryRecovery

theorem reconcile_moves (hR : SendsAlong R) : StoreMoves R (reconcile host) := by
  intro w
  cases hfrozen : w.frozen with
  | true =>
      rw [reconcile_frozen hfrozen]
      exact hR.refl _
  | false =>
      rw [reconcile_unfrozen hfrozen]
      exact OutboxDispatcher.dispatchPending_moves hR w

theorem markDeadLettered_moves (hR : SendsAlong R) {deliveryId : DeliveryAttemptId} {reason : String} :
    StoreMoves R (markDeadLettered host deliveryId reason) := by
  refine StoreMoves.bind hR (.of_eq hR fun _ => rfl) fun store => ?_
  split
  · exact storeMoves_pure hR
  · exact (storeMoves_now hR).bind hR fun _ => (storeMoves_updateDelivery hR).bind hR fun _ => storeMoves_pure hR

theorem deadLetter_moves (hR : SendsAlong R) {failure : DeliveryAttemptId × String} :
    StoreMoves R (deadLetter host failure) :=
  (markDeadLettered_moves hR).bind hR fun _ => (storeMoves_now hR).bind hR fun _ =>
    StoreMoves.bind hR (fun w => hR.deadLetter w.store _) fun _ => (storeMoves_nextSequence hR).bind hR fun _ =>
      (storeMoves_now hR).bind hR fun _ => storeMoves_emit hR

theorem resume_moves (hR : SendsAlong R) {wait : ReconcileWait} {response : wait.Resp} :
    StoreMoves R (resume host wait response) := by
  cases wait with
  | draining unchanged wait => exact (OutboxDispatcher.resume_moves hR).bind hR fun _ => storeMoves_pure hR
  | drained unchanged result =>
      cases result with
      | error violation => exact storeMoves_finish hR
      | ok result => exact (storeMoves_forM hR (fun _ => deadLetter_moves hR) _).bind hR fun _ => storeMoves_finish hR

end DeliveryRecovery

theorem start_moves (hR : SendsAlong R) (call : CommsCall) : StoreMoves R ((commsServices host).start call) := by
  cases call with
  | executeSend input => exact MessagingSaga.executeSend_moves hR
  | send input => exact MessagingService.send_moves hR
  | dispatchPending => exact OutboxDispatcher.dispatchPending_moves hR
  | reconcile => exact DeliveryRecovery.reconcile_moves hR
  | setFrozen frozen => exact .of_eq hR fun _ => rfl

theorem resumeComms_moves (hR : SendsAlong R) (call : CommsCall) (wait : (commsServices host).Wait call)
    (response : (commsServices host).Resp call wait) :
    StoreMoves R ((commsServices host).resume call wait response) := by
  cases call with
  | executeSend input => exact MessagingSaga.resume_moves hR
  | send input => exact MessagingService.resume_moves hR
  | dispatchPending => exact OutboxDispatcher.resume_moves hR
  | reconcile => exact DeliveryRecovery.resume_moves hR
  | setFrozen frozen => exact Empty.elim wait

end Cantilune
