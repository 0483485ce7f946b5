import Cantilune.Theorems.SendSuccess

/-!
# The sends that the outbox takes

A send is taken by the outbox where it is not frozen, passes the policy, if it goes through the service, and has a
key that is not in use.
-/

namespace Cantilune

open CommsM

variable {host : CommsHost} {w : CommsWorld}

def newSend? (host : CommsHost) (w : CommsWorld) (call : CommsCall) : Option CommunicationEnvelope :=
  match reachesSaga host w call with
  | none => none
  | some input => if w.store.idempotency.get? input.idempotencyKey = none then some input.envelope else none

theorem appendOutbox_grows_iff {store : CommsStore} {input : OutboxAppendInput} :
    store.outbox.length < (store.appendOutbox input).2.outbox.length ↔
      store.idempotency.get? input.idempotencyKey = none := by
  unfold CommsStore.appendOutbox CommsStore.claimIdempotency
  cases hkey : store.idempotency.get? input.idempotencyKey with
  | none => simp
  | some digest => by_cases hdigest : digest = input.envelope.integrityDigest <;> simp [hdigest]

theorem replayed_store {input : ExecuteSendInput} : (MessagingSaga.replayed host input w).2.store = w.store := by
  unfold MessagingSaga.replayed
  simp only [bind, StateT.bind, getRecord]
  cases w.records.get? input.envelope.messageId <;> rfl

theorem persisted_replay {input : ExecuteSendInput} {delivery : DeliveryRecord} {event : CommsEventEnvelope} :
    MessagingSaga.persisted host input delivery event .idempotentReplay w =
      (.inr (.resolved (MessagingSaga.replayed host input w).1), (MessagingSaga.replayed host input w).2) := rfl

theorem persisted_store {input : ExecuteSendInput} {delivery : DeliveryRecord} {event : CommsEventEnvelope}
    {answer : PersistResult} : (MessagingSaga.persisted host input delivery event answer w).2.store = w.store := by
  cases answer with
  | conflict => rfl
  | committed => rfl
  | idempotentReplay => exact replayed_store

theorem newSend?_executeSend_isSome {input : ExecuteSendInput} :
    (newSend? host w (.executeSend input)).isSome ↔
      w.frozen = false ∧ w.store.idempotency.get? input.idempotencyKey = none := by
  unfold newSend? reachesSaga
  cases w.frozen with
  | true => exact iff_of_false Bool.noConfusion fun h => Bool.noConfusion h.1
  | false => by_cases hkey : w.store.idempotency.get? input.idempotencyKey = none <;> simp [hkey]

theorem newSend?_send_isSome {input : SendInput} :
    (newSend? host w (.send input)).isSome ↔
      w.frozen = false ∧ policyAdmits host input w = true ∧
        w.store.idempotency.get? input.idempotencyKey = none := by
  unfold newSend? reachesSaga
  cases w.frozen with
  | true => exact iff_of_false Bool.noConfusion fun h => Bool.noConfusion h.1
  | false =>
      simp only [Bool.not_false, Bool.true_and]
      cases policyAdmits host input w with
      | false => exact iff_of_false Bool.noConfusion fun h => Bool.noConfusion h.2.1
      | true => by_cases hkey : w.store.idempotency.get? input.idempotencyKey = none <;> simp [hkey]

theorem executeSend_accepts_iff {input : ExecuteSendInput} :
    w.store.outbox.length < (MessagingSaga.executeSend host input w).2.store.outbox.length ↔
      (newSend? host w (.executeSend input)).isSome := by
  rw [newSend?_executeSend_isSome]
  cases hfrozen : w.frozen with
  | true =>
      rw [executeSend_frozen hfrozen]
      exact iff_of_false (Nat.lt_irrefl _) fun h => Bool.noConfusion h.1
  | false =>
      rw [executeSend_unfrozen hfrozen, persisted_store]
      have hgrows := @appendOutbox_grows_iff w.store.nextSequence.2 (outboxAppend host input w)
      exact hgrows.trans (and_iff_right rfl).symm

theorem send_accepts_iff {input : SendInput} :
    w.store.outbox.length < (MessagingService.send host input true w).2.store.outbox.length ↔
      (newSend? host w (.send input)).isSome := by
  rw [newSend?_send_isSome]
  cases hfrozen : w.frozen with
  | true =>
      rw [send_frozen hfrozen]
      exact iff_of_false (Nat.lt_irrefl _) fun h => Bool.noConfusion h.1
  | false =>
      rcases @send_cases host w input hfrozen with ⟨hpolicy, violation, readings, hrun⟩ | ⟨hpolicy, readings, hrun⟩
      · rw [hrun, hpolicy]
        exact iff_of_false (Nat.lt_irrefl _) fun h => Bool.noConfusion h.2.1
      · rw [hrun, hpolicy]
        have haccepts := @executeSend_accepts_iff host { w with readings } input.toExecuteSendInput
        refine haccepts.trans (newSend?_executeSend_isSome.trans ?_)
        exact ⟨fun h => ⟨rfl, rfl, h.2⟩, fun h => ⟨hfrozen, h.2.2⟩⟩

end Cantilune
