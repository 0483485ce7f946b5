import Cantilune.Comms.Service
import Cantilune.Lemmas.StoreMoves

/-!
# Dead letters

A delivery that the transport refuses for the last time is dead at once, and no dead letter names its message: the
dispatcher writes none, and those of the recovery name the delivery instead. So the dead-letter queue is sound on
the runs in which no delivery dies.
-/

namespace Cantilune

open Sections

/-! ## What is asked of the dead-letter queue -/

def DeadAreNamed (store : CommsStore) : Prop :=
  ∀ delivery, (delivery ∈ store.outbox ∨ ∃ messageId, store.deliveries.get? messageId = some delivery) →
    delivery.state = .deadLettered → ∃ letter ∈ store.deadLetters, letter.envelopeRef = delivery.envelopeRef

def TransportAccepts {host : CommsHost} : TaskLabel (commsServices host) Unit → Prop
  | .resume _ .dispatchPending (.transport ..) response => ∃ attemptRef, response = .resolved (.ok attemptRef)
  | .resume _ .dispatchPending (.returned ..) _ => True
  | _ => False

/-- A drain that runs by itself, over a transport that accepts everything, from its start to its end. -/
def DrainsTo (host : CommsHost) (w w' : CommsWorld) : Prop :=
  ∃ labels t, Run (Sections.Step (commsServices host)) (.idle _ Unit w) (.start () .dispatchPending :: labels) t ∧
    (∀ l ∈ labels, TransportAccepts l) ∧ t.waiting () = none ∧ t.world = w'

def NextDrainDispatches (host : CommsHost) (w : CommsWorld) (messageId : MessageId) : Prop :=
  ∀ w', w.frozen = false → DrainsTo host w w' → ∃ verified, verified.envelope.messageId = messageId ∧
    .called (.dispatch verified) ∈ w'.log.drop w.log.length

variable {ι : Type} [DecidableEq ι] {host : CommsHost}

def ReplayReopens (s : Tasks (operatedServices host) ι) (l : TaskLabel (operatedServices host) ι)
    (t : Tasks (operatedServices host) ι) : Prop :=
  match l with
  | .start _ (.inr input) => ∀ result, (DeadLetterReplay.replayDeadLetter input s.world.store).1 = .ok result →
      NextDrainDispatches host t.world input.messageId
  | _ => True

def RefusedForGood : (wait : DrainWait) → wait.Resp → Prop
  | .transport _ delivery _, response => CommsLimits.maxRetryAttempts ≤ delivery.attempt + 1 ∧
      ∃ violation, response = .resolved (.error violation)
  | .returned .., _ => False

def RefusedInRecovery : (wait : ReconcileWait) → wait.Resp → Prop
  | .draining _ wait, response => RefusedForGood wait response
  | .drained .., _ => False

/-- A drain, of the dispatcher or of the recovery, finds a delivery refused for the last time. -/
def GivesUp : TaskLabel (operatedServices host) ι → Prop
  | .resume _ (.inl .dispatchPending) wait response => RefusedForGood wait response
  | .resume _ (.inl .reconcile) wait response => RefusedInRecovery wait response
  | _ => False

/-! ## Stores without dead deliveries -/

structure Lives (store : CommsStore) (delivery : DeliveryRecord) : Prop where
  alive : delivery.state ≠ .deadLettered
  budget : delivery.state = .queued ∨ delivery.state = .retryWait → delivery.attempt < CommsLimits.maxRetryAttempts
  delivered : (store.deliveries.get? delivery.envelopeRef).isSome
  envelope : (store.envelopes.get? delivery.envelopeRef).isSome

structure LivingStore (store : CommsStore) : Prop where
  outbox : ∀ delivery ∈ store.outbox, Lives store delivery
  deliveries : ∀ messageId delivery, store.deliveries.get? messageId = some delivery → Lives store delivery
  letters : store.deadLetters = []

theorem Lives.mono {store store' : CommsStore} {delivery : DeliveryRecord} (h : Lives store delivery)
    (hkeeps : KeepsMessages store store') : Lives store' delivery :=
  ⟨h.alive, h.budget, hkeeps.deliveries _ h.delivered, hkeeps.envelopes _ h.envelope⟩

section Stores
variable {store : CommsStore} {messageId : MessageId} {next : DeliveryRecord}

theorem LivingStore.congr {store' : CommsStore} (h : LivingStore store) (houtbox : store'.outbox = store.outbox)
    (hdeliveries : store'.deliveries = store.deliveries) (henvelopes : store'.envelopes = store.envelopes)
    (hletters : store'.deadLetters = store.deadLetters) : LivingStore store' ∧ KeepsMessages store store' := by
  have hkeeps : KeepsMessages store store' :=
    ⟨fun _ hd => by rw [hdeliveries]; exact hd, fun _ he => by rw [henvelopes]; exact he⟩
  refine ⟨⟨?_, ?_, ?_⟩, hkeeps⟩
  · rw [houtbox]
    exact fun delivery hmem => (h.outbox delivery hmem).mono hkeeps
  · rw [hdeliveries]
    exact fun messageId delivery hget => (h.deliveries messageId delivery hget).mono hkeeps
  · rw [hletters]
    exact h.letters

theorem livingStore_appendOutbox {input : OutboxAppendInput} (h : LivingStore store)
    (hstate : input.delivery.state = .queued) (hattempt : input.delivery.attempt = 0)
    (href : input.delivery.envelopeRef = input.envelope.messageId) :
    LivingStore (store.appendOutbox input).2 ∧ KeepsMessages store (store.appendOutbox input).2 ∧
      ((store.appendOutbox input).1 = .committed → Lives (store.appendOutbox input).2 input.delivery) := by
  by_cases hcommitted : (store.appendOutbox input).1 = .committed
  · have heq : (store.appendOutbox input).2 = store.appended input :=
      congrArg Prod.snd (CommsStore.appendOutbox_of_new (CommsStore.appendOutbox_committed_iff.1 hcommitted))
    unfold CommsStore.appended at heq
    have hkeeps : KeepsMessages store (store.appendOutbox input).2 := keepsMessages_appendOutbox
    have hnew : Lives (store.appendOutbox input).2 input.delivery := by
      rw [heq]
      refine ⟨?_, fun _ => ?_, ?_, ?_⟩
      · rw [hstate]
        decide
      · rw [hattempt]
        decide
      · rw [href, OrdMap.get?_set_self]
        rfl
      · rw [href, OrdMap.get?_set_self]
        rfl
    refine ⟨⟨?_, ?_, ?_⟩, hkeeps, fun _ => hnew⟩
    · intro delivery hmem
      rw [heq] at hmem
      rcases List.mem_append.1 hmem with hmem | hmem
      · exact (h.outbox delivery hmem).mono hkeeps
      · cases List.mem_singleton.1 hmem
        exact hnew
    · intro messageId delivery hget
      rw [heq] at hget
      simp only [OrdMap.get?_set] at hget
      split at hget
      · cases hget
        exact hnew
      · exact (h.deliveries messageId delivery hget).mono hkeeps
    · rw [heq]
      exact h.letters
  · rw [CommsStore.appendOutbox_eq_of_ne_committed hcommitted]
    exact ⟨h, .refl, fun hc => absurd hc hcommitted⟩

theorem mem_replaceDelivery {deliveries : List DeliveryRecord} {delivery : DeliveryRecord}
    (h : delivery ∈ CommsStore.replaceDelivery deliveries messageId next) : delivery ∈ deliveries ∨ delivery = next := by
  unfold CommsStore.replaceDelivery at h
  split at h
  · exact List.mem_or_eq_of_mem_set h
  · exact .inl h

theorem livingStore_updateDelivery (h : LivingStore store) (hnext : Lives store next) :
    LivingStore (store.updateDelivery messageId next).2 := by
  have hkeeps : KeepsMessages store (store.updateDelivery messageId next).2 := keepsMessages_updateDelivery
  constructor
  · intro delivery hmem
    have hold : delivery ∈ store.outbox ∨ delivery = next := by
      unfold CommsStore.updateDelivery at hmem
      split at hmem
      · exact .inl hmem
      · exact mem_replaceDelivery hmem
    rcases hold with hmem | rfl
    · exact (h.outbox delivery hmem).mono hkeeps
    · exact hnext.mono hkeeps
  · intro messageId' delivery hget
    have hold : store.deliveries.get? messageId' = some delivery ∨ delivery = next := by
      unfold CommsStore.updateDelivery at hget
      split at hget
      · exact .inl hget
      · simp only [OrdMap.get?_set] at hget
        split at hget
        · cases hget
          exact .inr rfl
        · exact .inl hget
    rcases hold with hget | rfl
    · exact (h.deliveries messageId' delivery hget).mono hkeeps
    · exact hnext.mono hkeeps
  · unfold CommsStore.updateDelivery
    split <;> exact h.letters

theorem not_deadAreNamed (h : LivingStore store) (hdead : next.state = .deadLettered)
    (hdelivered : (store.deliveries.get? messageId).isSome) :
    ¬ DeadAreNamed (store.updateDelivery messageId next).2 := by
  obtain ⟨current, hcurrent⟩ := Option.isSome_iff_exists.1 hdelivered
  have heq : (store.updateDelivery messageId next).2.deliveries = store.deliveries.set messageId next ∧
      (store.updateDelivery messageId next).2.deadLetters = store.deadLetters := by
    unfold CommsStore.updateDelivery
    rw [hcurrent]
    exact ⟨rfl, rfl⟩
  intro hnamed
  obtain ⟨letter, hmem, _⟩ := hnamed next
    (.inr ⟨messageId, by rw [heq.1, OrdMap.get?_set_self]⟩) hdead
  rw [heq.2, h.letters] at hmem
  exact List.not_mem_nil hmem

theorem LivingStore.deadAreNamed (h : LivingStore store) : DeadAreNamed store := by
  rintro delivery (hmem | ⟨messageId, hget⟩) hdead
  · exact absurd hdead (h.outbox delivery hmem).alive
  · exact absurd hdead (h.deliveries messageId delivery hget).alive

theorem LivingStore.replay_refused (h : LivingStore store) (input : DlqReplayInput) :
    ∃ violation, DeadLetterReplay.replayDeadLetter input store = (.error violation, store) := by
  have hrefused : ∃ violation, DeadLetterReplay.reopenable store input = .error violation := by
    unfold DeadLetterReplay.reopenable
    cases DeadLetterReplay.assertAuthorized input.auth with
    | error violation => exact ⟨violation, rfl⟩
    | ok _ =>
        cases hget : store.getDelivery input.messageId with
        | none =>
            simp only [bind, Except.bind]
            exact ⟨_, rfl⟩
        | some delivery =>
            simp only [bind, Except.bind]
            rw [if_pos (h.deliveries _ _ hget).alive]
            exact ⟨_, rfl⟩
  obtain ⟨violation, hviolation⟩ := hrefused
  exact ⟨violation, by rw [DeadLetterReplay.replayDeadLetter, hviolation]⟩

end Stores

/-! ## What a section leaves behind -/

/-- The deliveries of the drain live, and none has failed. -/
structure FrameSound (store : CommsStore) (frame : DrainFrame) : Prop where
  rest : ∀ delivery ∈ frame.rest, Lives store delivery
  failed : frame.result.failed = []

def DrainSound (store : CommsStore) : DrainWait → Prop
  | .transport frame delivery _ =>
      FrameSound store frame ∧ Lives store delivery ∧ delivery.attempt < CommsLimits.maxRetryAttempts
  | .returned frame outcome => FrameSound store { frame with result := frame.result.push outcome }

def NoneFailed (result : DrainResult) : Prop := ∀ r, result = .ok r → r.failed = []

def SendSound (store : CommsStore) : SendWait → Prop
  | .observing frame => Lives store frame.delivery
  | .committing frame _ => Lives store frame.delivery
  | .dispatching frame _ => Lives store frame.delivery

def CallSound (store : CommsStore) : (call : CommsCall) → call.Wait → Prop
  | .executeSend _, wait => SendSound store wait
  | .send _, .saga wait => SendSound store wait
  | .send _, .transport .. => True
  | .dispatchPending, wait => DrainSound store wait
  | .reconcile, .draining _ wait => DrainSound store wait
  | .reconcile, .drained _ result => NoneFailed result
  | .setFrozen _, wait => wait.elim

theorem FrameSound.mono {store store' : CommsStore} {frame : DrainFrame} (hkeeps : KeepsMessages store store')
    (h : FrameSound store frame) : FrameSound store' frame :=
  ⟨fun delivery hmem => (h.rest delivery hmem).mono hkeeps, h.failed⟩

theorem DrainSound.mono {store store' : CommsStore} {wait : DrainWait} (hkeeps : KeepsMessages store store')
    (h : DrainSound store wait) : DrainSound store' wait := by
  cases wait with
  | transport frame delivery verified => exact ⟨h.1.mono hkeeps, h.2.1.mono hkeeps, h.2.2⟩
  | returned frame outcome => exact FrameSound.mono hkeeps h

theorem SendSound.mono {store store' : CommsStore} {wait : SendWait} (hkeeps : KeepsMessages store store')
    (h : SendSound store wait) : SendSound store' wait := by
  cases wait with
  | observing frame => exact Lives.mono h hkeeps
  | committing frame snapshotRef => exact Lives.mono h hkeeps
  | dispatching frame verifiedAt => exact Lives.mono h hkeeps

theorem CallSound.mono {store store' : CommsStore} (hkeeps : KeepsMessages store store') {call : CommsCall}
    {wait : call.Wait} (h : CallSound store call wait) : CallSound store' call wait := by
  cases call with
  | executeSend input => exact SendSound.mono hkeeps h
  | send input =>
      cases wait with
      | saga wait => exact SendSound.mono hkeeps h
      | transport delivery event verifiedAt => trivial
  | dispatchPending => exact DrainSound.mono hkeeps h
  | reconcile =>
      cases wait with
      | draining unchanged wait => exact DrainSound.mono hkeeps h
      | drained unchanged result => exact h
  | setFrozen frozen => exact Empty.elim wait

structure LeavesLiving {W Out : Type} (Sound : CommsStore → W → Prop) (Fine : Out → Prop) (w : CommsWorld)
    (result : (W ⊕ Out) × CommsWorld) : Prop where
  store : LivingStore result.2.store
  messages : KeepsMessages w.store result.2.store
  next : result.1.elim (Sound result.2.store) Fine

section Leaves
variable {W Out : Type} {Sound : CommsStore → W → Prop} {Fine : Out → Prop} {w : CommsWorld}
  {result : (W ⊕ Out) × CommsWorld}

theorem LeavesLiving.untouched (h : LivingStore w.store) (hstore : result.2.store = w.store)
    (hnext : result.1.elim (Sound w.store) Fine) : LeavesLiving Sound Fine w result := by
  refine ⟨?_, ?_, ?_⟩
  · rw [hstore]
    exact h
  · rw [hstore]
    exact .refl
  · rw [hstore]
    exact hnext

theorem LeavesLiving.after {v : CommsWorld} (hkeeps : KeepsMessages w.store v.store)
    (h : LeavesLiving Sound Fine v result) : LeavesLiving Sound Fine w result :=
  ⟨h.store, hkeeps.trans h.messages, h.next⟩

theorem LeavesLiving.anyOutcome (h : LeavesLiving Sound Fine w result) :
    LeavesLiving Sound (fun _ => True) w result := by
  refine ⟨h.store, h.messages, ?_⟩
  obtain ⟨wait | outcome, w'⟩ := result
  · exact h.next
  · trivial

end Leaves

/-! ## The sections of a drain -/

section Drains
variable {frame : DrainFrame} {delivery : DeliveryRecord} {w : CommsWorld} {unchanged : Nat}

abbrev DrainFine : Settled DrainResult → Prop
  | .resolved result => NoneFailed result
  | .rejected _ => True

theorem dispatchOne_living (h : LivingStore w.store) (hframe : FrameSound w.store frame)
    (hlives : Lives w.store delivery) :
    LeavesLiving DrainSound DrainFine w (OutboxDispatcher.dispatchOne host frame delivery w) := by
  by_cases hstate : delivery.state ≠ .queued ∧ delivery.state ≠ .retryWait
  · rw [OutboxDispatcher.dispatchOne_skipped hstate]
    exact .untouched h rfl ⟨hframe.rest, hframe.failed⟩
  · have hpending : delivery.state = .queued ∨ delivery.state = .retryWait := by
      rwa [not_and_or, not_not, not_not] at hstate
    obtain ⟨envelope, henvelope⟩ := Option.isSome_iff_exists.1 hlives.envelope
    rw [OutboxDispatcher.dispatchOne_due hpending (hlives.budget hpending) henvelope]
    exact .untouched h rfl ⟨hframe, hlives, hlives.budget hpending⟩

theorem dispatchRest_living (h : LivingStore w.store) (hframe : FrameSound w.store frame) :
    LeavesLiving DrainSound DrainFine w (OutboxDispatcher.dispatchRest host frame w) := by
  obtain ⟨rest, result⟩ := frame
  cases rest with
  | nil =>
      refine .untouched h rfl fun r hr => ?_
      cases hr
      exact hframe.failed
  | cons delivery rest =>
      have hrest : FrameSound w.store { rest, result } :=
        ⟨fun delivery hmem => hframe.rest delivery (List.mem_cons_of_mem _ hmem), hframe.failed⟩
      exact dispatchOne_living h hrest (hframe.rest delivery List.mem_cons_self)

theorem dispatchPending_living (h : LivingStore w.store) :
    LeavesLiving DrainSound DrainFine w (OutboxDispatcher.dispatchPending host w) := by
  cases hfrozen : w.frozen with
  | true =>
      rw [OutboxDispatcher.dispatchPending_frozen hfrozen]
      exact .untouched h rfl fun r hr => by cases hr
  | false =>
      rw [OutboxDispatcher.dispatchPending_unfrozen hfrozen]
      exact dispatchRest_living h ⟨h.outbox, rfl⟩

theorem written_living {next : DeliveryRecord} {outcome : DispatchOutcome} {messageId : MessageId}
    (h : LivingStore w.store) (hframe : FrameSound w.store frame) (hnext : Lives w.store next)
    (houtcome : ∀ deliveryId reason, outcome ≠ .failed deliveryId reason) :
    LeavesLiving DrainSound DrainFine w
      (.inl (.returned frame outcome), OutboxDispatcher.written messageId next w) := by
  have hkeeps : KeepsMessages w.store (OutboxDispatcher.written messageId next w).store := keepsMessages_updateDelivery
  refine ⟨livingStore_updateDelivery h hnext, hkeeps, (hframe.mono hkeeps).rest, ?_⟩
  cases outcome with
  | dispatched deliveryId => exact hframe.failed
  | skipped deliveryId => exact hframe.failed
  | failed deliveryId reason => exact absurd rfl (houtcome deliveryId reason)

theorem resumeDrain_living {wait : DrainWait} {response : wait.Resp} (h : LivingStore w.store)
    (hsound : DrainSound w.store wait) (hkept : ¬ RefusedForGood wait response) :
    LeavesLiving DrainSound DrainFine w (OutboxDispatcher.resume host wait response w) := by
  cases wait with
  | returned frame outcome => exact dispatchRest_living h hsound
  | transport frame delivery verified =>
      obtain ⟨hframe, hlives, hattempt⟩ := hsound
      cases response with
      | rejected reason => exact .untouched h rfl trivial
      | resolved result =>
          cases result with
          | ok attemptRef =>
              change LeavesLiving DrainSound DrainFine w (OutboxDispatcher.dispatchedOne host frame delivery
                (.ok attemptRef) (w.noted (.answered (.dispatch verified) (.resolved (.ok attemptRef)))))
              rw [OutboxDispatcher.dispatchedOne_ok]
              refine LeavesLiving.after (v := w.noted _) .refl (written_living h hframe ?_ ?_)
              · exact ⟨TransportDeliveryState.noConfusion, fun heq => heq.elim (by nofun) (by nofun), hlives.delivered,
                  hlives.envelope⟩
              · exact fun _ _ => DispatchOutcome.noConfusion
          | error violation =>
              have hleft : delivery.attempt + 1 < CommsLimits.maxRetryAttempts :=
                Nat.lt_of_not_le fun hle => hkept ⟨hle, violation, rfl⟩
              change LeavesLiving DrainSound DrainFine w (OutboxDispatcher.dispatchedOne host frame delivery
                (.error violation) (w.noted (.answered (.dispatch verified) (.resolved (.error violation)))))
              rw [OutboxDispatcher.dispatchedOne_retry hleft]
              refine LeavesLiving.after (v := w.noted _) .refl (written_living h hframe ?_ ?_)
              · exact ⟨TransportDeliveryState.noConfusion, fun _ => hleft, hlives.delivered, hlives.envelope⟩
              · exact fun _ _ => DispatchOutcome.noConfusion

theorem resumeDrain_dead {wait : DrainWait} {response : wait.Resp} (h : LivingStore w.store)
    (hsound : DrainSound w.store wait) (hdead : RefusedForGood wait response) :
    ¬ DeadAreNamed (OutboxDispatcher.resume host wait response w).2.store := by
  cases wait with
  | returned frame outcome => exact hdead.elim
  | transport frame delivery verified =>
      obtain ⟨hlast, violation, rfl⟩ := hdead
      change ¬ DeadAreNamed (OutboxDispatcher.dispatchedOne host frame delivery (.error violation)
        (w.noted (.answered (.dispatch verified) (.resolved (.error violation))))).2.store
      rw [OutboxDispatcher.dispatchedOne_dead hlast]
      exact not_deadAreNamed h rfl hsound.2.1.delivered

theorem afterDrain_living {result : (DrainWait ⊕ Settled DrainResult) × CommsWorld}
    (h : LeavesLiving DrainSound DrainFine w result) :
    LeavesLiving (fun store => CallSound store .reconcile) (fun _ => True) w
      (DeliveryRecovery.afterDrain unchanged result.1, result.2) := by
  refine ⟨h.store, h.messages, ?_⟩
  obtain ⟨wait | outcome, w'⟩ := result
  · exact h.next
  · cases outcome with
    | rejected reason => trivial
    | resolved result => exact h.next

theorem reconcile_living (h : LivingStore w.store) :
    LeavesLiving (fun store => CallSound store .reconcile) (fun _ => True) w (DeliveryRecovery.reconcile host w) := by
  cases hfrozen : w.frozen with
  | true =>
      rw [DeliveryRecovery.reconcile_frozen hfrozen]
      exact .untouched h rfl trivial
  | false =>
      rw [DeliveryRecovery.reconcile_unfrozen hfrozen]
      exact afterDrain_living (dispatchPending_living h)

theorem drained_living {result : DrainResult} (h : LivingStore w.store) (hnone : NoneFailed result) :
    LeavesLiving (fun store => CallSound store .reconcile) (fun _ => True) w
      (DeliveryRecovery.drained host unchanged result w) := by
  cases result with
  | error violation => exact .untouched h rfl trivial
  | ok result =>
      have hfailed : result.failed = [] := hnone result rfl
      unfold DeliveryRecovery.drained
      simp only [hfailed]
      exact .untouched h rfl trivial

theorem resumeReconcile_living {wait : ReconcileWait} {response : wait.Resp} (h : LivingStore w.store)
    (hsound : CallSound w.store .reconcile wait)
    (hkept : ¬ RefusedInRecovery wait response) :
    LeavesLiving (fun store => CallSound store .reconcile) (fun _ => True) w
      (DeliveryRecovery.resume host wait response w) := by
  cases wait with
  | draining unchanged wait => exact afterDrain_living (resumeDrain_living h hsound hkept)
  | drained unchanged result => exact drained_living h hsound

theorem resumeReconcile_dead {wait : ReconcileWait} {response : wait.Resp} (h : LivingStore w.store)
    (hsound : CallSound w.store .reconcile wait) (hdead : RefusedInRecovery wait response) :
    ¬ DeadAreNamed (DeliveryRecovery.resume host wait response w).2.store := by
  cases wait with
  | draining unchanged wait => exact resumeDrain_dead h hsound hdead
  | drained unchanged result => exact hdead.elim

end Drains

/-! ## The sections of a send -/

section Sends
variable {input : ExecuteSendInput} {w : CommsWorld}

theorem persisted_living {delivery : DeliveryRecord} {event : CommsEventEnvelope} {answer : PersistResult}
    (h : LivingStore w.store) (hnew : answer = .committed → Lives w.store delivery) :
    LeavesLiving SendSound (fun _ => True) w (MessagingSaga.persisted host input delivery event answer w) := by
  cases answer with
  | conflict => exact .untouched h rfl trivial
  | idempotentReplay =>
      have hreplayed : (MessagingSaga.replayed host input w).2.store = w.store := by
        unfold MessagingSaga.replayed
        simp only [bind, StateT.bind, CommsM.getRecord]
        cases w.records.get? input.envelope.messageId with
        | some existing => rfl
        | none => rfl
      exact .untouched h hreplayed trivial
  | committed => exact .untouched h rfl (hnew rfl)

theorem executeSend_living (h : LivingStore w.store) :
    LeavesLiving SendSound (fun _ => True) w (MessagingSaga.executeSend host input w) := by
  cases hfrozen : w.frozen with
  | true =>
      rw [executeSend_frozen hfrozen]
      exact .untouched h rfl trivial
  | false =>
      obtain ⟨hsequence, hkeeps⟩ : LivingStore w.store.nextSequence.2 ∧ KeepsMessages w.store w.store.nextSequence.2 :=
        h.congr rfl rfl rfl rfl
      obtain ⟨hstore, hkeeps', hnew⟩ := @livingStore_appendOutbox _ (outboxAppend host input w) hsequence rfl rfl rfl
      rw [executeSend_unfrozen hfrozen]
      exact .after (hkeeps.trans hkeeps') (persisted_living hstore hnew)

theorem resumeSend_living {wait : SendWait} {response : Settled PortResult} (h : LivingStore w.store)
    (hsound : SendSound w.store wait) :
    LeavesLiving SendSound (fun _ => True) w (MessagingSaga.resume host input wait response w) := by
  cases response with
  | rejected reason => exact .untouched h rfl trivial
  | resolved result =>
      cases wait with
      | observing frame =>
          cases result with
          | error violation => exact .untouched h rfl trivial
          | ok snapshotRef => exact .untouched h rfl hsound
      | committing frame snapshotRef =>
          cases result with
          | error violation => exact .untouched h rfl trivial
          | ok receiptRef => exact .untouched h rfl hsound
      | dispatching frame verifiedAt =>
          cases result with
          | error violation => exact .untouched h rfl trivial
          | ok attemptRef =>
              have hlives : Lives w.store frame.delivery := hsound
              have hnext : Lives w.store { frame.delivery with
                  state := .dispatched, attempt := 1, dispatchedAt := some (host.clock w.readings) } :=
                ⟨TransportDeliveryState.noConfusion, fun heq => heq.elim (by nofun) (by nofun), hlives.delivered,
                  hlives.envelope⟩
              have hstore : LivingStore (w.store.updateDelivery input.envelope.messageId _).2 :=
                livingStore_updateDelivery h hnext
              obtain ⟨hliving, hkeeps⟩ : LivingStore _ ∧ KeepsMessages _ (MessagingSaga.resume host input
                  (.dispatching frame verifiedAt) (.resolved (.ok attemptRef)) w).2.store :=
                hstore.congr rfl rfl rfl rfl
              exact ⟨hliving, keepsMessages_updateDelivery.trans hkeeps, trivial⟩

end Sends

section Services
variable {input : SendInput} {w : CommsWorld}

theorem inSaga_living {result : (SendWait ⊕ Settled SendResult) × CommsWorld}
    (h : LeavesLiving SendSound (fun _ => True) w result) :
    LeavesLiving (fun store => CallSound store (.send input)) (fun _ => True) w
      (MessagingService.afterSaga input result.1, result.2) := by
  refine ⟨h.store, h.messages, ?_⟩
  obtain ⟨wait | outcome, w'⟩ := result
  · exact h.next
  · cases outcome <;> trivial

theorem send_living (h : LivingStore w.store) :
    LeavesLiving (fun store => CallSound store (.send input)) (fun _ => True) w
      (MessagingService.send host input true w) := by
  cases hfrozen : w.frozen with
  | true =>
      rw [send_frozen hfrozen]
      exact .untouched h rfl trivial
  | false =>
      rcases @send_cases host w input hfrozen with ⟨-, violation, readings, hrun⟩ | ⟨-, readings, hrun⟩
      · rw [hrun]
        exact .untouched h rfl trivial
      · have hsaga : LeavesLiving SendSound (fun _ => True) { w with readings }
            (MessagingSaga.executeSend host input.toExecuteSendInput { w with readings }) := executeSend_living h
        rw [hrun]
        exact LeavesLiving.after (v := { w with readings }) .refl (inSaga_living hsaga)

theorem resumeService_living {wait : ServiceWait} {response : Settled PortResult} (h : LivingStore w.store)
    (hsound : CallSound w.store (.send input) wait) :
    LeavesLiving (fun store => CallSound store (.send input)) (fun _ => True) w
      (MessagingService.resume host input response wait w) := by
  cases wait with
  | saga wait => exact inSaga_living (resumeSend_living h hsound)
  | transport delivery event verifiedAt =>
      cases response with
      | rejected reason => exact .untouched h rfl trivial
      | resolved result => cases result <;> exact .untouched h rfl trivial

end Services

/-! ## Runs -/

/-- No delivery has died, and none that waits is about to without a refusal. -/
structure Living (s : Tasks (operatedServices host) ι) : Prop where
  store : LivingStore s.world.store
  waiting : ∀ client (call : CommsCall) (wait : call.Wait), s.waiting client = some ⟨.inl call, wait⟩ →
    CallSound s.world.store call wait

variable {s t : Tasks (operatedServices host) ι} {l : TaskLabel (operatedServices host) ι}

theorem start_living {w : CommsWorld} (h : LivingStore w.store) (call : CommsCall) :
    LeavesLiving (fun store => CallSound store call) (fun _ => True) w ((commsServices host).start call w) := by
  cases call with
  | executeSend input => exact executeSend_living h
  | send input => exact send_living h
  | dispatchPending => exact (dispatchPending_living h).anyOutcome
  | reconcile => exact reconcile_living h
  | setFrozen frozen => exact .untouched h rfl trivial

omit [DecidableEq ι] in
theorem resume_living {w : CommsWorld} {client : ι} {call : CommsCall} {wait : (commsServices host).Wait call}
    {response : (commsServices host).Resp call wait} (h : LivingStore w.store) (hsound : CallSound w.store call wait)
    (hkept : ¬ GivesUp (.resume client (.inl call) wait response : TaskLabel (operatedServices host) ι)) :
    LeavesLiving (fun store => CallSound store call) (fun _ => True) w
      ((commsServices host).resume call wait response w) := by
  cases call with
  | executeSend input => exact resumeSend_living h hsound
  | send input => exact resumeService_living h hsound
  | dispatchPending => exact (resumeDrain_living h hsound hkept).anyOutcome
  | reconcile => exact resumeReconcile_living h hsound hkept
  | setFrozen frozen => exact Empty.elim wait

theorem Living.after (hs : Living s) {client : ι} {call : CommsCall}
    {result : ((operatedServices host).Wait (.inl call) ⊕ (operatedServices host).Out (.inl call)) × CommsWorld}
    (h : LeavesLiving (fun store (wait : (operatedServices host).Wait (.inl call)) => CallSound store call wait)
      (fun _ => True) s.world result) :
    Living (s.after client (.inl call) result) := by
  refine ⟨by rw [after_world]; exact h.store, fun client' call' wait' hwaits => ?_⟩
  rw [after_world]
  rcases waiting_after hwaits with ⟨_, wait, hend, heq⟩ | ⟨_, hbefore⟩
  · cases heq
    have hnext := h.next
    rw [hend] at hnext
    exact hnext
  · exact (hs.waiting client' call' wait' hbefore).mono h.messages

theorem step_living (hstep : Sections.Step (operatedServices host) s l t) (hs : Living s) (hkept : ¬ GivesUp l) :
    Living t := by
  cases hstep with
  | @start client call hidle =>
      cases call with
      | inl call => exact hs.after (start_living hs.store call)
      | inr input =>
          obtain ⟨violation, hrefused⟩ := hs.store.replay_refused input
          have hworld : (s.after client (.inr input) ((operatedServices host).start (.inr input) s.world)).world.store =
              s.world.store := by
            rw [after_world]
            exact congrArg Prod.snd hrefused
          refine ⟨by rw [hworld]; exact hs.store, fun client' call' wait' hwaits => ?_⟩
          rw [hworld]
          rcases waiting_after hwaits with ⟨_, wait, hend, heq⟩ | ⟨_, hbefore⟩
          · cases heq
          · exact hs.waiting client' call' wait' hbefore
  | @resume client call wait response hwaits =>
      cases call with
      | inl call => exact hs.after (resume_living hs.store (hs.waiting client call wait hwaits) hkept)
      | inr input => exact Empty.elim wait

theorem step_dead (hstep : Sections.Step (operatedServices host) s l t) (hs : Living s) (hdead : GivesUp l) :
    ¬ DeadAreNamed t.world.store := by
  cases hstep with
  | start => exact hdead.elim
  | @resume client call wait response hwaits =>
      rw [after_world]
      cases call with
      | inl call =>
          have hsound := hs.waiting client call wait hwaits
          cases call with
          | dispatchPending => exact resumeDrain_dead hs.store hsound hdead
          | reconcile => exact resumeReconcile_dead hs.store hsound hdead
          | executeSend input => exact hdead.elim
          | send input => exact hdead.elim
          | setFrozen frozen => exact hdead.elim
      | inr input => exact hdead.elim

theorem step_deadAreNamed_iff (hstep : Sections.Step (operatedServices host) s l t) (hs : Living s) :
    (DeadAreNamed t.world.store ∧ ReplayReopens s l t ↔ ¬ GivesUp l) ∧ (¬ GivesUp l → Living t) := by
  refine ⟨⟨fun h hdead => step_dead hstep hs hdead h.1, fun hkept => ?_⟩, step_living hstep hs⟩
  refine ⟨(step_living hstep hs hkept).store.deadAreNamed, ?_⟩
  cases l with
  | resume client call wait response => trivial
  | start client call =>
      cases call with
      | inl call => trivial
      | inr input =>
          intro result hresult
          obtain ⟨violation, hrefused⟩ := hs.store.replay_refused input
          rw [hrefused] at hresult
          cases hresult

omit [DecidableEq ι] in
theorem living_idle {w : CommsWorld} (h : w.store = .empty) : Living (.idle (operatedServices host) ι w) := by
  refine ⟨?_, fun _ _ _ hwaits => by cases hwaits⟩
  change LivingStore w.store
  rw [h]
  exact ⟨fun _ hmem => absurd hmem List.not_mem_nil, fun _ _ hget => (by cases hget), rfl⟩

/-- In the runs from an empty store, every dead delivery has its dead letter, and every replay opens its message
again, exactly if the transport refuses no delivery for the last time. -/
theorem deadLetters_sound_iff (world : CommsWorld) (labels : List (TaskLabel (operatedServices host) ι)) :
    ((∀ pre post m, labels = pre ++ post →
        Run (Sections.Step (operatedServices host)) (.idle _ ι { world with store := .empty }) pre m →
        DeadAreNamed m.world.store) ∧
      Run.Every (Sections.Step (operatedServices host)) ReplayReopens (.idle _ ι { world with store := .empty }) labels) ↔
      Run.Every (Sections.Step (operatedServices host)) (fun _ l _ => ¬ GivesUp l)
        (.idle _ ι { world with store := .empty }) labels := by
  have hs : Living (.idle (operatedServices host) ι { world with store := .empty }) := living_idle rfl
  rw [Run.forall_states_iff (I := fun m : Tasks (operatedServices host) ι => DeadAreNamed m.world.store)
    (P := fun _ _ m => DeadAreNamed m.world.store) hs.store.deadAreNamed fun _ _ _ _ _ => Iff.rfl, ← Run.every_and]
  exact Run.every_congr_of_preserved hs fun _ _ _ => step_deadAreNamed_iff

/-! ## A message that is lost -/

theorem dispatchOne_not_due {frame : DrainFrame} {delivery : DeliveryRecord} {w : CommsWorld}
    (h : OutboxDispatcher.isDue delivery = false) :
    ∃ outcome, OutboxDispatcher.dispatchOne host frame delivery w = (.inl (.returned frame outcome), w) := by
  by_cases hstate : delivery.state ≠ .queued ∧ delivery.state ≠ .retryWait
  · exact ⟨_, OutboxDispatcher.dispatchOne_skipped hstate⟩
  · have hpending : delivery.state = .queued ∨ delivery.state = .retryWait := by
      rwa [not_and_or, not_not, not_not] at hstate
    have hattempt : CommsLimits.maxRetryAttempts ≤ delivery.attempt := by
      rcases hpending with hpending | hpending <;> simpa [OutboxDispatcher.isDue, hpending] using h
    exact ⟨_, OutboxDispatcher.dispatchOne_exhausted hpending hattempt⟩

theorem drains_nothing (rest : List DeliveryRecord) (result : OutboxDispatchResult) {w : CommsWorld}
    (s : Tasks (commsServices host) Unit) (hrest : ∀ delivery ∈ rest, OutboxDispatcher.isDue delivery = false) :
    ∃ labels t, Run (Sections.Step (commsServices host))
        (s.after () .dispatchPending (OutboxDispatcher.dispatchRest host { rest, result } w)) labels t ∧
      (∀ l ∈ labels, TransportAccepts l) ∧ t.waiting () = none ∧ t.world = w := by
  induction rest generalizing s result with
  | nil =>
      refine ⟨[], _, .nil _, fun _ hl => absurd hl List.not_mem_nil, ?_, rfl⟩
      change Function.update s.waiting () none () = none
      exact Function.update_self ..
  | cons delivery rest ih =>
      obtain ⟨outcome, hone⟩ := @dispatchOne_not_due host { rest, result } delivery w
        (hrest delivery List.mem_cons_self)
      have hfirst : OutboxDispatcher.dispatchRest host { rest := delivery :: rest, result } w =
          (.inl (.returned { rest, result } outcome), w) := hone
      rw [hfirst]
      obtain ⟨labels, t, hrun, haccepts, hend⟩ := ih (result.push outcome)
        (s.after () .dispatchPending (.inl (.returned { rest, result } outcome), w))
        fun d hmem => hrest d (List.mem_cons_of_mem _ hmem)
      have hwaits : (s.after () .dispatchPending (.inl (.returned { rest, result } outcome), w)).waiting () =
          some ⟨.dispatchPending, .returned { rest, result } outcome⟩ := by
        rw [after_waiting]
        exact Function.update_self ..
      refine ⟨.resume () .dispatchPending (.returned { rest, result } outcome) () :: labels, t,
        .cons (.resume hwaits) hrun, fun l hl => ?_, hend⟩
      rcases List.mem_cons.1 hl with rfl | hl
      · trivial
      · exact haccepts l hl

theorem not_nextDrainDispatches {w : CommsWorld} {messageId : MessageId} (hfrozen : w.frozen = false)
    (houtbox : ∀ delivery ∈ w.store.outbox, OutboxDispatcher.isDue delivery = false) :
    ¬ NextDrainDispatches host w messageId := by
  have hdrains : DrainsTo host w w := by
    obtain ⟨labels, t, hrun, haccepts, hend⟩ := @drains_nothing host w.store.outbox .empty w
      (.idle (commsServices host) Unit w) houtbox
    have hstart : Sections.Step (commsServices host) (.idle _ Unit w) (.start () .dispatchPending) _ := .start rfl
    have hsection : (commsServices host).start .dispatchPending w =
        OutboxDispatcher.dispatchRest host { rest := w.store.outbox, result := .empty } w :=
      OutboxDispatcher.dispatchPending_unfrozen hfrozen
    refine ⟨labels, t, .cons hstart ?_, haccepts, hend⟩
    rwa [← hsection] at hrun
  intro h
  obtain ⟨verified, _, hmem⟩ := h w hfrozen hdrains
  rw [List.drop_length] at hmem
  exact List.not_mem_nil hmem

def operatedAnswers (response : Settled PortResult) : Move (operatedServices sampleCommsHost) :=
  .resume fun call wait =>
    match call with
    | .inl (.executeSend _) => response
    | .inl (.send _) => response
    | .inl .dispatchPending =>
        match (show DrainWait from wait) with
        | .transport .. => response
        | .returned .. => ()
    | .inl .reconcile =>
        match (show ReconcileWait from wait) with
        | .draining _ (.transport ..) => response
        | .draining _ (.returned ..) => ()
        | .drained .. => ()
    | .inl (.setFrozen _) => Empty.elim wait
    | .inr _ => Empty.elim wait

/-- The runtime refuses a message, and the transport refuses it sixteen times. -/
def lostMoves : List (Unit × Move (operatedServices sampleCommsHost)) :=
  let refused := operatedAnswers (.resolved (.error (commsViolation .transportFailed .send "refused")))
  [((), .start (.inl (.executeSend sampleSend))), ((), refused)] ++
    (List.replicate 16 [((), .start (.inl .dispatchPending)), ((), refused), ((), refused)]).flatten

def lostReplay : DlqReplayInput :=
  { messageId := "m"
    deadLetter := { deliveryId := "del-m", envelopeRef := "m", reason := "refused", quarantinedAt := "t" }
    auth := { authorizationReceipt := "receipt", operatorPrincipal := "operator", reason := "again" } }

/-- The message is dead without a dead letter, and no drain after its replay hands it over. -/
theorem refused_message_is_lost : ∃ labels t,
    Run (Sections.Step (operatedServices sampleCommsHost)) (.idle _ Unit .empty) labels t ∧
      ¬ DeadAreNamed t.world.store ∧
      ∃ result t', Sections.Step (operatedServices sampleCommsHost) t (.start () (.inr lostReplay)) t' ∧
        (DeadLetterReplay.replayDeadLetter lostReplay t.world.store).1 = .ok result ∧
        ¬ ReplayReopens t (.start () (.inr lostReplay)) t' := by
  have hlost : (lostMoves.foldlM Tasks.next? (.idle (operatedServices sampleCommsHost) Unit .empty)).map (fun t =>
      (t.world.store.getDelivery "m").map (·.state) = some .deadLettered ∧ t.world.store.deadLetters = [] ∧
        (t.waiting ()).isNone ∧ t.world.frozen = false ∧
        (DeadLetterReplay.replayDeadLetter lostReplay t.world.store).1.toOption =
          some { messageId := "m", deliveryId := "del-m", redispatched := true } ∧
        ∀ delivery ∈ (DeadLetterReplay.replayDeadLetter lostReplay t.world.store).2.outbox,
          OutboxDispatcher.isDue delivery = false : _ → Bool) = some true := by decide +kernel
  obtain ⟨t, ht, hlost⟩ := Option.map_eq_some_iff.1 hlost
  obtain ⟨labels, hrun⟩ := run_of_next? ht
  obtain ⟨hdead, hletters, hidle, hfrozen, hreplayed, houtbox⟩ := of_decide_eq_true hlost
  have hresult : (DeadLetterReplay.replayDeadLetter lostReplay t.world.store).1 =
      .ok { messageId := "m", deliveryId := "del-m", redispatched := true } := by
    cases hresult : (DeadLetterReplay.replayDeadLetter lostReplay t.world.store).1 with
    | error violation =>
        rw [hresult] at hreplayed
        cases hreplayed
    | ok result =>
        rw [hresult] at hreplayed
        cases hreplayed
        rfl
  refine ⟨labels, t, hrun, fun hnamed => ?_, _, _, .start (Option.isNone_iff_eq_none.1 hidle), hresult, fun h => ?_⟩
  · obtain ⟨delivery, hget, hstate⟩ := Option.map_eq_some_iff.1 hdead
    obtain ⟨letter, hmem, _⟩ := hnamed delivery (.inr ⟨"m", hget⟩) hstate
    rw [hletters] at hmem
    exact List.not_mem_nil hmem
  · have hnext := h _ hresult
    rw [after_world] at hnext
    revert hnext
    exact not_nextDrainDispatches hfrozen houtbox

end Cantilune
