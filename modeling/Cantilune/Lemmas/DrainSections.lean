import Cantilune.Lemmas.CommsSections

/-!
# What the sections of a drain do to the store

A drain skips a delivery, gives it up or hands it to the transport, and writes the answer of the transport into the
delivery; the sections of a send write into the delivery of their own message only.
-/

namespace Cantilune

open CommsM

namespace OutboxDispatcher

variable {host : CommsHost} {frame : DrainFrame} {delivery : DeliveryRecord} {w : CommsWorld}

theorem dispatchOne_skipped (h : delivery.state ≠ .queued ∧ delivery.state ≠ .retryWait) :
    dispatchOne host frame delivery w = (.inl (.returned frame (.skipped delivery.deliveryId)), w) := by
  unfold dispatchOne
  rw [if_pos h]
  rfl

theorem dispatchOne_exhausted (hstate : delivery.state = .queued ∨ delivery.state = .retryWait)
    (hattempt : CommsLimits.maxRetryAttempts ≤ delivery.attempt) :
    dispatchOne host frame delivery w =
      (.inl (.returned frame (.failed delivery.deliveryId "retry budget exhausted")), w) := by
  have hne : ¬ (delivery.state ≠ .queued ∧ delivery.state ≠ .retryWait) := fun h => hstate.elim h.1 h.2
  unfold dispatchOne
  rw [if_neg hne, if_pos hattempt]
  rfl

theorem dispatchOne_missing (hstate : delivery.state = .queued ∨ delivery.state = .retryWait)
    (hattempt : delivery.attempt < CommsLimits.maxRetryAttempts)
    (henvelope : w.store.getEnvelope delivery.envelopeRef = none) :
    dispatchOne host frame delivery w =
      (.inl (.returned frame (.failed delivery.deliveryId "envelope missing")), w) := by
  have hne : ¬ (delivery.state ≠ .queued ∧ delivery.state ≠ .retryWait) := fun h => hstate.elim h.1 h.2
  unfold dispatchOne
  rw [if_neg hne, if_neg (Nat.not_le.2 hattempt)]
  simp only [bind, StateT.bind, store, henvelope]
  rfl

def handedOver (host : CommsHost) (envelope : CommunicationEnvelope) (w : CommsWorld) : CommsWorld :=
  { w with
    readings := w.readings + 1
    log := w.log ++ [.called (.dispatch (sealVerifiedEnvelope envelope (host.clock w.readings)))] }

theorem dispatchOne_due {envelope : CommunicationEnvelope}
    (hstate : delivery.state = .queued ∨ delivery.state = .retryWait)
    (hattempt : delivery.attempt < CommsLimits.maxRetryAttempts)
    (henvelope : w.store.getEnvelope delivery.envelopeRef = some envelope) :
    dispatchOne host frame delivery w =
      (.inl (.transport frame delivery (sealVerifiedEnvelope envelope (host.clock w.readings))),
        handedOver host envelope w) := by
  have hne : ¬ (delivery.state ≠ .queued ∧ delivery.state ≠ .retryWait) := fun h => hstate.elim h.1 h.2
  unfold dispatchOne
  rw [if_neg hne, if_neg (Nat.not_le.2 hattempt)]
  simp only [bind, StateT.bind, store, henvelope]
  rfl

/-! ## After the transport -/

def deliveryDispatched (host : CommsHost) (delivery : DeliveryRecord) (w : CommsWorld) : DeliveryRecord :=
  { delivery with state := .dispatched, attempt := delivery.attempt + 1, dispatchedAt := some (host.clock w.readings) }

def deliveryRetried (host : CommsHost) (delivery : DeliveryRecord) (reason : String) (w : CommsWorld) :
    DeliveryRecord :=
  { delivery with
    state := .retryWait, attempt := delivery.attempt + 1, lastSafeError := some reason
    nextAttemptAt := some (host.clock w.readings) }

def deliveryDead (host : CommsHost) (delivery : DeliveryRecord) (reason : String) (w : CommsWorld) : DeliveryRecord :=
  { delivery with
    state := .deadLettered, attempt := delivery.attempt + 1, lastSafeError := some reason
    terminalAt := some (host.clock w.readings) }

def written (messageId : MessageId) (delivery : DeliveryRecord) (w : CommsWorld) : CommsWorld :=
  { w with store := (w.store.updateDelivery messageId delivery).2, readings := w.readings + 1 }

theorem dispatchedOne_ok {attemptRef : String} : dispatchedOne host frame delivery (.ok attemptRef) w =
    (.inl (.returned frame (.dispatched delivery.deliveryId)),
      written delivery.envelopeRef (deliveryDispatched host delivery w) w) := rfl

theorem markRetry_dead {reason : String} (h : CommsLimits.maxRetryAttempts ≤ delivery.attempt + 1) :
    markRetry host delivery reason w = (true, written delivery.envelopeRef (deliveryDead host delivery reason w) w) := by
  unfold markRetry
  simp only [if_pos h]
  rfl

theorem markRetry_retry {reason : String} (h : delivery.attempt + 1 < CommsLimits.maxRetryAttempts) :
    markRetry host delivery reason w =
      (false, written delivery.envelopeRef (deliveryRetried host delivery reason w) w) := by
  unfold markRetry
  simp only [if_neg (Nat.not_le.2 h)]
  rfl

theorem dispatchedOne_dead {violation : CommsViolation} (h : CommsLimits.maxRetryAttempts ≤ delivery.attempt + 1) :
    dispatchedOne host frame delivery (.error violation) w =
      (.inl (.returned frame (.failed delivery.deliveryId violation.message)),
        written delivery.envelopeRef (deliveryDead host delivery violation.message w) w) := by
  unfold dispatchedOne
  simp only [bind, StateT.bind, markRetry_dead h]
  rfl

theorem dispatchedOne_retry {violation : CommsViolation} (h : delivery.attempt + 1 < CommsLimits.maxRetryAttempts) :
    dispatchedOne host frame delivery (.error violation) w =
      (.inl (.returned frame (.skipped delivery.deliveryId)),
        written delivery.envelopeRef (deliveryRetried host delivery violation.message w) w) := by
  unfold dispatchedOne
  simp only [bind, StateT.bind, markRetry_retry h]
  rfl

theorem dispatchPending_frozen (hfrozen : w.frozen = true) : dispatchPending host w =
    (.inr (.resolved (.error (commsViolation .commsFrozen .send "comms E-Stop active"))), w) := by
  obtain ⟨store, records, emitted, frozen, readings, log⟩ := w
  cases hfrozen
  rfl

theorem dispatchPending_unfrozen (hfrozen : w.frozen = false) :
    dispatchPending host w = dispatchRest host { rest := w.store.outbox, result := .empty } w := by
  obtain ⟨store, records, emitted, frozen, readings, log⟩ := w
  cases hfrozen
  rfl

end OutboxDispatcher

namespace DeliveryRecovery

variable {host : CommsHost} {w : CommsWorld}

theorem reconcile_frozen (hfrozen : w.frozen = true) : reconcile host w =
    (.inr (.resolved (.error (commsViolation .commsFrozen .recover "comms E-Stop active"))), w) := by
  obtain ⟨store, records, emitted, frozen, readings, log⟩ := w
  cases hfrozen
  rfl

theorem reconcile_unfrozen (hfrozen : w.frozen = false) :
    reconcile host w =
      (afterDrain (w.store.outbox.countP isUnchanged) (OutboxDispatcher.dispatchPending host w).1,
        (OutboxDispatcher.dispatchPending host w).2) := by
  obtain ⟨store, records, emitted, frozen, readings, log⟩ := w
  cases hfrozen
  rfl

end DeliveryRecovery

end Cantilune
