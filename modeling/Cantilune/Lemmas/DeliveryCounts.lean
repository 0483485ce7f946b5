import Cantilune.Lemmas.AcceptedSends
import Cantilune.Lemmas.StoreMoves
import Mathlib.Data.List.Nodup

/-!
# The calls of the transport for each record of the outbox

Where one call runs at a time, a wait for the transport belongs to one record of the outbox: a send waits for the
record that it has appended, a drain for the record before those that are left to it. An answer that the record does
not count leaves its attempts as they are. Here is what each section does to the records and to these counts.
-/

namespace Cantilune

open CommsM Sections

/-! ## Waits for the transport -/

def isDispatchCall : PortEvent → Bool
  | .called (.dispatch _) => true
  | .called (.observe ..) | .called (.commitMessage ..) | .called (.commitReconnect ..) | .answered .. => false

def dispatchCalls (log : List PortEvent) : Nat := log.countP isDispatchCall

def SendWait.index? (store : CommsStore) : SendWait → Option Nat
  | .dispatching .. => some (store.outbox.length - 1)
  | .observing _ | .committing .. => none

def ServiceWait.index? (store : CommsStore) : ServiceWait → Option Nat
  | .saga wait => wait.index? store
  | .transport .. => some (store.outbox.length - 1)

def DrainWait.index? (store : CommsStore) : DrainWait → Option Nat
  | .transport frame .. => some (store.outbox.length - (frame.rest.length + 1))
  | .returned .. => none

def ReconcileWait.index? (store : CommsStore) : ReconcileWait → Option Nat
  | .draining _ wait => wait.index? store
  | .drained .. => none

def CommsCall.index? (store : CommsStore) : (call : CommsCall) → call.Wait → Option Nat
  | .executeSend _, wait => SendWait.index? store wait
  | .send _, wait => ServiceWait.index? store wait
  | .dispatchPending, wait => DrainWait.index? store wait
  | .reconcile, wait => ReconcileWait.index? store wait
  | .setFrozen _, _ => none

def DrainWait.goesOn : DrainWait → List DeliveryRecord
  | .transport .. => []
  | .returned frame _ => frame.rest

def ReconcileWait.goesOn : ReconcileWait → List DeliveryRecord
  | .draining _ wait => wait.goesOn
  | .drained .. => []

def CommsCall.goesOn : (call : CommsCall) → call.Wait → List DeliveryRecord
  | .dispatchPending, wait => DrainWait.goesOn wait
  | .reconcile, wait => ReconcileWait.goesOn wait
  | .executeSend _, _ | .send _, _ | .setFrozen _, _ => []

/-- The record for which the transport was called in vain without an attempt being counted. -/
def SendWait.lost? (store : CommsStore) (wait : SendWait) : Settled PortResult → Option Nat
  | .resolved (.ok _) => none
  | .resolved (.error _) | .rejected _ => wait.index? store

def ServiceWait.lost? (store : CommsStore) : ServiceWait → Settled PortResult → Option Nat
  | .saga wait, response => wait.lost? store response
  | .transport delivery event verifiedAt, _ => ServiceWait.index? store (.transport delivery event verifiedAt)

def DrainWait.lost? (store : CommsStore) : (wait : DrainWait) → wait.Resp → Option Nat
  | .transport frame delivery verified, .rejected _ => DrainWait.index? store (.transport frame delivery verified)
  | .transport .., .resolved _ => none
  | .returned .., _ => none

def ReconcileWait.lost? (store : CommsStore) : (wait : ReconcileWait) → wait.Resp → Option Nat
  | .draining _ wait, response => wait.lost? store response
  | .drained .., _ => none

def CommsCall.lost? (store : CommsStore) : (call : CommsCall) → (wait : call.Wait) → call.Resp wait → Option Nat
  | .executeSend _, wait, response => SendWait.lost? store wait response
  | .send _, wait, response => ServiceWait.lost? store wait response
  | .dispatchPending, wait, response => DrainWait.lost? store wait response
  | .reconcile, wait, response => ReconcileWait.lost? store wait response
  | .setFrozen _, _, _ => none

/-! ## Records -/

def DeliveryRecord.isOpen (delivery : DeliveryRecord) : Bool :=
  delivery.state = .queued || delivery.state = .retryWait

def DeliveryRecord.isDone (delivery : DeliveryRecord) : Bool :=
  delivery.state = .dispatched || delivery.state = .deadLettered

theorem DeliveryRecord.not_done_of_open {delivery : DeliveryRecord} (h : delivery.isOpen = true) :
    delivery.isDone = false := by
  unfold isOpen at h
  unfold isDone
  cases hstate : delivery.state <;> simp_all

structure SameAttempts (delivery delivery' : DeliveryRecord) : Prop where
  ref : delivery'.envelopeRef = delivery.envelopeRef
  attempt : delivery'.attempt = delivery.attempt
  done : delivery.isDone = true → delivery'.isDone = true

theorem SameAttempts.refl {delivery : DeliveryRecord} : SameAttempts delivery delivery := ⟨rfl, rfl, id⟩

theorem forall₂_sameAttempts_refl {deliveries : List DeliveryRecord} :
    List.Forall₂ SameAttempts deliveries deliveries := List.forall₂_same.2 fun _ _ => .refl

theorem refs_eq {deliveries deliveries' : List DeliveryRecord} (h : List.Forall₂ SameAttempts deliveries deliveries') :
    deliveries'.map (·.envelopeRef) = deliveries.map (·.envelopeRef) := by
  induction h with
  | nil => rfl
  | cons h _ ih => rw [List.map_cons, List.map_cons, h.ref, ih]

section Update
variable {before rest : List DeliveryRecord} {delivery next : DeliveryRecord} {store : CommsStore}

def DistinctRefs (deliveries : List DeliveryRecord) : Prop := (deliveries.map (·.envelopeRef)).Nodup

theorem replaceDelivery_at (hrefs : DistinctRefs (before ++ delivery :: rest)) :
    CommsStore.replaceDelivery (before ++ delivery :: rest) delivery.envelopeRef next = before ++ next :: rest := by
  have hindex : (before ++ delivery :: rest).findIdx? (fun d => d.envelopeRef = delivery.envelopeRef) =
      some before.length := by
    have hnone : before.findIdx? (fun d => d.envelopeRef = delivery.envelopeRef) = none := by
      refine List.findIdx?_eq_none_iff.2 fun d hmem => ?_
      have hdisjoint := List.disjoint_of_nodup_append (by rwa [DistinctRefs, List.map_append] at hrefs)
      refine decide_eq_false fun href => hdisjoint (List.mem_map_of_mem hmem) ?_
      rw [href]
      exact List.mem_map_of_mem List.mem_cons_self
    rw [List.findIdx?_append, hnone, List.findIdx?_cons]
    simp
  unfold CommsStore.replaceDelivery
  rw [hindex]
  simp

theorem updateDelivery_outbox (houtbox : store.outbox = before ++ delivery :: rest)
    (hrefs : DistinctRefs store.outbox) (hdelivered : (store.deliveries.get? delivery.envelopeRef).isSome) :
    (store.updateDelivery delivery.envelopeRef next).2.outbox = before ++ next :: rest := by
  obtain ⟨current, hcurrent⟩ := Option.isSome_iff_exists.1 hdelivered
  unfold CommsStore.updateDelivery
  rw [hcurrent]
  rw [houtbox] at hrefs
  change CommsStore.replaceDelivery store.outbox delivery.envelopeRef next = _
  rw [houtbox]
  exact replaceDelivery_at hrefs

theorem updateDelivery_sameAttempts (hmem : delivery ∈ store.outbox) (hrefs : DistinctRefs store.outbox)
    (hsame : SameAttempts delivery next) :
    List.Forall₂ SameAttempts store.outbox (store.updateDelivery delivery.envelopeRef next).2.outbox := by
  cases hdelivered : store.deliveries.get? delivery.envelopeRef with
  | none =>
      unfold CommsStore.updateDelivery
      rw [hdelivered]
      exact forall₂_sameAttempts_refl
  | some current =>
      obtain ⟨before, rest, houtbox⟩ := List.append_of_mem hmem
      rw [updateDelivery_outbox houtbox hrefs (by rw [hdelivered]; rfl), houtbox]
      exact List.rel_append forall₂_sameAttempts_refl (.cons hsame forall₂_sameAttempts_refl)

end Update

/-! ## What a section does -/

def bump (counts : Nat → Nat) (index : Option Nat) : Nat → Nat :=
  fun i => counts i + if index = some i then 1 else 0

/-- A drain that goes on with these deliveries comes to a due one whose attempts and lost calls use up its budget. -/
def RestOverruns (w : CommsWorld) (lost : Nat → Nat) : List DeliveryRecord → Prop
  | [] => False
  | delivery :: rest => (OutboxDispatcher.dueEnvelope w.store delivery).isSome ∧
      CommsLimits.maxRetryAttempts ≤ delivery.attempt + lost (w.store.outbox.length - (rest.length + 1))

/-- A section of a call that waits for the transport for the record `before` and loses the call for `lostNow`, and
that leaves its call waiting for the record `after`. -/
inductive Counts (lost : Nat → Nat) (Over : Prop) (outbox : List DeliveryRecord) (log : List PortEvent)
    (w' : CommsWorld) (before lostNow after : Option Nat) : Prop
  | kept (records : List.Forall₂ SameAttempts outbox w'.store.outbox)
      (calls : dispatchCalls w'.log = dispatchCalls log) (loses : lostNow = before) (ends : after = none)
      (within : ¬ Over)
  | called (index : Nat) (delivery : DeliveryRecord) (records : w'.store.outbox = outbox)
      (calls : dispatchCalls w'.log = dispatchCalls log + 1) (starts : before = none) (loses : lostNow = none)
      (waits : after = some index) (found : outbox[index]? = some delivery) (isOpen : delivery.isOpen = true)
      (overruns : Over ↔ CommsLimits.maxRetryAttempts ≤ delivery.attempt + lost index)
  | appended (delivery : DeliveryRecord) (records : w'.store.outbox = outbox ++ [delivery])
      (new : delivery.envelopeRef ∉ outbox.map (·.envelopeRef))
      (delivered : (w'.store.deliveries.get? delivery.envelopeRef).isSome) (attempt : delivery.attempt = 0)
      (calls : dispatchCalls w'.log = dispatchCalls log) (starts : before = none) (loses : lostNow = none)
      (ends : after = none) (within : ¬ Over)
  | counted (index : Nat) (delivery next : DeliveryRecord) (found : outbox[index]? = some delivery)
      (isOpen : delivery.isOpen = true) (records : w'.store.outbox = outbox.set index next)
      (ref : next.envelopeRef = delivery.envelopeRef) (attempt : next.attempt = delivery.attempt + 1)
      (calls : dispatchCalls w'.log = dispatchCalls log) (waited : before = some index) (loses : lostNow = none)
      (ends : after = none) (within : ¬ Over)

/-- A section counts as it should, and leaves a wait that the store bears out. -/
structure CountsOn {W Out : Type} (Awaits : W → CommsStore → (Nat → Nat) → Prop)
    (index : CommsStore → W → Option Nat) (lost : Nat → Nat) (Over : Prop) (before lostNow : Option Nat)
    (w : CommsWorld) (result : (W ⊕ Out) × CommsWorld) : Prop where
  counts : Counts lost Over w.store.outbox w.log result.2 before lostNow (result.1.elim (index result.2.store) fun _ => none)
  next : ∀ wait, result.1 = .inl wait → Awaits wait result.2.store (bump lost lostNow)

section Advancing
variable {W W' Out Out' : Type} {Awaits : W → CommsStore → (Nat → Nat) → Prop}
  {Awaits' : W' → CommsStore → (Nat → Nat) → Prop} {index : CommsStore → W → Option Nat}
  {index' : CommsStore → W' → Option Nat} {lost : Nat → Nat} {Over : Prop} {before lostNow : Option Nat}
  {w : CommsWorld} {result : (W ⊕ Out) × CommsWorld}

theorem CountsOn.map {f : W ⊕ Out → W' ⊕ Out'} (h : CountsOn Awaits index lost Over before lostNow w result)
    (hindex : ∀ store next, (f next).elim (index' store) (fun _ => none) = next.elim (index store) fun _ => none)
    (hawaits : ∀ next wait' store lost, f next = .inl wait' → (∀ wait, next = .inl wait → Awaits wait store lost) →
      Awaits' wait' store lost) :
    CountsOn Awaits' index' lost Over before lostNow w (f result.1, result.2) := by
  refine ⟨?_, fun wait' hwait => hawaits _ _ _ _ hwait h.next⟩
  rw [hindex]
  exact h.counts

theorem CountsOn.ended {out : Out} {w' : CommsWorld} (hstore : w'.store.outbox = w.store.outbox)
    (hcalls : dispatchCalls w'.log = dispatchCalls w.log) (hwithin : ¬ Over) (hloses : lostNow = before) :
    CountsOn Awaits index lost Over before lostNow w (.inr out, w') := by
  refine ⟨.kept ?_ hcalls hloses rfl hwithin, fun _ h => (by cases h)⟩
  rw [hstore]
  exact forall₂_sameAttempts_refl

theorem CountsOn.goesOn {wait : W} {w' : CommsWorld} (hstore : w'.store.outbox = w.store.outbox)
    (hcalls : dispatchCalls w'.log = dispatchCalls w.log) (hwithin : ¬ Over) (hbefore : before = none)
    (hindex : index w'.store wait = none) (hawaits : Awaits wait w'.store lost) :
    @CountsOn W Out Awaits index lost Over before before w (.inl wait, w') := by
  subst hbefore
  refine ⟨.kept ?_ hcalls rfl hindex hwithin, fun _ h => ?_⟩
  · rw [hstore]
    exact forall₂_sameAttempts_refl
  · cases h
    exact hawaits

end Advancing

theorem dispatchCalls_append {log events : List PortEvent} (h : ∀ e ∈ events, isDispatchCall e = false) :
    dispatchCalls (log ++ events) = dispatchCalls log := by
  have hnone : events.countP isDispatchCall = 0 :=
    List.countP_eq_zero.2 fun e he => by rw [h e he]; exact Bool.false_ne_true
  unfold dispatchCalls
  rw [List.countP_append, hnone, Nat.add_zero]

theorem dispatchCalls_called {log : List PortEvent} {verified : VerifiedEnvelope} :
    dispatchCalls (log ++ [.called (.dispatch verified)]) = dispatchCalls log + 1 := by
  unfold dispatchCalls
  rw [List.countP_append]
  rfl

/-! ## Sends -/

/-- The record of the send is the last one of the outbox, and nothing has been tried for it. -/
structure HoldsLast (input : ExecuteSendInput) (frame : SendFrame) (store : CommsStore) (lost : Nat → Nat) : Prop where
  last : ∃ before, store.outbox = before ++ [frame.delivery]
  ref : frame.delivery.envelopeRef = input.envelope.messageId
  queued : frame.delivery.state = .queued
  attempt : frame.delivery.attempt = 0
  unlost : lost (store.outbox.length - 1) = 0

def SendWait.frame : SendWait → SendFrame
  | .observing frame => frame
  | .committing frame _ => frame
  | .dispatching frame _ => frame

abbrev SendWait.Awaits (input : ExecuteSendInput) (wait : SendWait) (store : CommsStore) (lost : Nat → Nat) : Prop :=
  HoldsLast input wait.frame store lost

def ServiceWait.Awaits (input : SendInput) : ServiceWait → CommsStore → (Nat → Nat) → Prop
  | .saga wait, store, lost => wait.Awaits input.toExecuteSendInput store lost
  | .transport .., _, _ => False

section Sends
variable {host : CommsHost} {input : ExecuteSendInput} {lost : Nat → Nat} {w : CommsWorld}

theorem HoldsLast.found {frame : SendFrame} {store : CommsStore} (h : HoldsLast input frame store lost) :
    store.outbox[store.outbox.length - 1]? = some frame.delivery := by
  obtain ⟨before, houtbox⟩ := h.last
  rw [houtbox]
  simp

theorem HoldsLast.isOpen {frame : SendFrame} {store : CommsStore} (h : HoldsLast input frame store lost) :
    frame.delivery.isOpen = true := by
  unfold DeliveryRecord.isOpen
  rw [h.queued]
  rfl

/-- What the store and the history have to be like for a send to start. -/
structure ReadyToSend (host : CommsHost) (call : CommsCall) (w : CommsWorld) (lost : Nat → Nat) : Prop where
  delivered : ∀ delivery ∈ w.store.outbox, (w.store.deliveries.get? delivery.envelopeRef).isSome
  fresh : ∀ envelope, newSend? host w call = some envelope → w.store.deliveries.get? envelope.messageId = none
  unlost : lost w.store.outbox.length = 0

theorem afterSaga_index {input : SendInput} (store : CommsStore) (next : SendWait ⊕ Settled SendResult) :
    (MessagingService.afterSaga input next).elim (ServiceWait.index? store) (fun _ => none) =
      next.elim (SendWait.index? store) fun _ => none := by
  rcases next with wait | result | reason <;> rfl

theorem afterSaga_awaits {input : SendInput} (next : SendWait ⊕ Settled SendResult) (wait' : ServiceWait)
    (store : CommsStore) (lost : Nat → Nat) (hwait : MessagingService.afterSaga input next = .inl wait')
    (h : ∀ wait, next = .inl wait → wait.Awaits input.toExecuteSendInput store lost) :
    wait'.Awaits input store lost := by
  rcases next with wait | result | reason
  · cases hwait
    exact h wait rfl
  · cases hwait
  · cases hwait

theorem executeSend_advances (h : ReadyToSend host (.executeSend input) w lost) :
    CountsOn (SendWait.Awaits input) SendWait.index? lost False none none w
      (MessagingSaga.executeSend host input w) := by
  cases hfrozen : w.frozen with
  | true =>
      rw [executeSend_frozen hfrozen]
      exact .ended rfl rfl id rfl
  | false =>
      rw [executeSend_unfrozen hfrozen]
      by_cases hkey : w.store.idempotency.get? input.idempotencyKey = none
      · have happend := @CommsStore.appendOutbox_of_new w.store.nextSequence.2 (outboxAppend host input w) hkey
        rw [happend]
        have hnew : newSend? host w (.executeSend input) = some input.envelope := by
          unfold newSend? reachesSaga
          simp only [hfrozen, Bool.false_eq_true, if_false, hkey, if_true]
        have hfresh := h.fresh _ hnew
        refine ⟨.appended (outboxAppend host input w).delivery rfl ?_ ?_ rfl ?_ rfl rfl rfl id, ?_⟩
        · intro hmem
          obtain ⟨delivery, hdelivery, href⟩ := List.mem_map.1 hmem
          have hdelivered := h.delivered delivery hdelivery
          rw [href] at hdelivered
          change (w.store.deliveries.get? input.envelope.messageId).isSome at hdelivered
          rw [hfresh] at hdelivered
          cases hdelivered
        · change ((w.store.deliveries.set input.envelope.messageId _).get? input.envelope.messageId).isSome
          rw [OrdMap.get?_set_self]
          rfl
        · exact dispatchCalls_append fun e he => by rw [List.mem_singleton.1 he]; rfl
        · intro wait hwait
          cases hwait
          refine ⟨⟨w.store.outbox, rfl⟩, rfl, rfl, rfl, ?_⟩
          change bump lost none ((w.store.outbox ++ [_]).length - 1) = 0
          rw [List.length_append, List.length_singleton, Nat.add_sub_cancel]
          exact h.unlost
      · have hne : (w.store.nextSequence.2.appendOutbox (outboxAppend host input w)).1 ≠ .committed :=
          fun hcommitted => hkey (CommsStore.appendOutbox_committed_iff.1 hcommitted)
        rw [CommsStore.appendOutbox_eq_of_ne_committed hne]
        cases hanswer : (w.store.nextSequence.2.appendOutbox (outboxAppend host input w)).1 with
        | committed => exact absurd hanswer hne
        | conflict => exact .ended rfl rfl id rfl
        | idempotentReplay =>
            rw [persisted_replay]
            have hstore := @replayed_store host
              { w with store := w.store.nextSequence.2, readings := w.readings + 2 } input
            have hlog := MessagingSaga.quiet_replayed host input
              { w with store := w.store.nextSequence.2, readings := w.readings + 2 }
            exact .ended ((congrArg CommsStore.outbox hstore).trans rfl) (congrArg dispatchCalls hlog) id rfl

theorem send_advances {input : SendInput} (h : ReadyToSend host (.send input) w lost) :
    CountsOn (ServiceWait.Awaits input) ServiceWait.index? lost False none none w
      (MessagingService.send host input true w) := by
  cases hfrozen : w.frozen with
  | true =>
      rw [send_frozen hfrozen]
      exact .ended rfl rfl id rfl
  | false =>
      rcases @send_cases host w input hfrozen with ⟨_, violation, readings, hrun⟩ | ⟨hpolicy, readings, hrun⟩
      · rw [hrun]
        exact .ended rfl rfl id rfl
      · rw [hrun]
        have hready : ReadyToSend host (.executeSend input.toExecuteSendInput) { w with readings } lost := by
          refine ⟨h.delivered, fun envelope hnew => h.fresh envelope ?_, h.unlost⟩
          rw [← hnew]
          unfold newSend? reachesSaga
          simp only [hfrozen, hpolicy, Bool.not_false, Bool.true_and, if_true, Bool.false_eq_true, if_false]
        have hsaga := executeSend_advances hready
        have hcounts : CountsOn _ _ _ _ _ _ w _ := ⟨hsaga.counts, hsaga.next⟩
        exact hcounts.map afterSaga_index afterSaga_awaits

theorem dispatchCalls_answered {call : PortCall} {response : Settled PortResult} :
    dispatchCalls (w.log ++ [.answered call response]) = dispatchCalls w.log :=
  dispatchCalls_append fun e he => by rw [List.mem_singleton.1 he]; rfl

theorem resumeSend_advances {wait : SendWait} {response : Settled PortResult}
    (hrefs : DistinctRefs w.store.outbox) (hdelivered : (w.store.deliveries.get? input.envelope.messageId).isSome)
    (h : wait.Awaits input w.store lost) :
    CountsOn (SendWait.Awaits input) SendWait.index? lost False (wait.index? w.store) (wait.lost? w.store response) w
      (MessagingSaga.resume host input wait response w) := by
  rcases response with (violation | ref) | reason
  · cases wait with
    | observing frame => exact .ended rfl dispatchCalls_answered id rfl
    | committing frame snapshotRef => exact .ended rfl dispatchCalls_answered id rfl
    | dispatching frame verifiedAt => exact .ended rfl dispatchCalls_answered id rfl
  · cases wait with
    | observing frame =>
        refine .goesOn rfl ?_ id rfl rfl ⟨h.last, h.ref, h.queued, h.attempt, h.unlost⟩
        exact (dispatchCalls_append fun e he => by rw [List.mem_singleton.1 he]; rfl).trans dispatchCalls_answered
    | committing frame snapshotRef =>
        refine ⟨.called (w.store.outbox.length - 1) frame.delivery rfl ?_ rfl rfl rfl h.found h.isOpen ?_, ?_⟩
        · exact dispatchCalls_called.trans (congrArg (· + 1) dispatchCalls_answered)
        · refine iff_of_false id ?_
          have hattempt : frame.delivery.attempt = 0 := h.attempt
          have hlost := h.unlost
          unfold CommsLimits.maxRetryAttempts
          omega
        · intro wait hwait
          cases hwait
          exact ⟨h.last, h.ref, h.queued, h.attempt, h.unlost⟩
    | dispatching frame verifiedAt =>
        obtain ⟨before, houtbox⟩ := h.last
        change w.store.outbox = before ++ [frame.delivery] at houtbox
        have href : frame.delivery.envelopeRef = input.envelope.messageId := h.ref
        have hnext : ∀ next, (w.store.updateDelivery input.envelope.messageId next).2.outbox =
            w.store.outbox.set (w.store.outbox.length - 1) next := by
          intro next
          rw [← href, updateDelivery_outbox houtbox hrefs (by rw [href]; exact hdelivered), houtbox]
          simp
        refine ⟨.counted (w.store.outbox.length - 1) frame.delivery _ h.found h.isOpen (hnext _) rfl ?_
          dispatchCalls_answered rfl rfl rfl id, fun wait hwait => (by cases hwait)⟩
        change 1 = frame.delivery.attempt + 1
        rw [show frame.delivery.attempt = 0 from h.attempt]
  · refine .ended rfl dispatchCalls_answered id ?_
    rfl

theorem resumeService_advances {input : SendInput} {wait : ServiceWait} {response : Settled PortResult}
    (hrefs : DistinctRefs w.store.outbox) (hdelivered : (w.store.deliveries.get? input.envelope.messageId).isSome)
    (h : wait.Awaits input w.store lost) :
    CountsOn (ServiceWait.Awaits input) ServiceWait.index? lost False (wait.index? w.store)
      (wait.lost? w.store response) w (MessagingService.resume host input response wait w) := by
  cases wait with
  | saga wait => exact (resumeSend_advances hrefs hdelivered h).map afterSaga_index afterSaga_awaits
  | transport delivery event verifiedAt => exact h.elim

end Sends

/-! ## Drains -/

def DrainWait.Awaits : DrainWait → CommsStore → (Nat → Nat) → Prop
  | .transport frame delivery _, store, _ => delivery :: frame.rest <:+ store.outbox ∧ delivery.isOpen = true
  | .returned frame _, store, _ => frame.rest <:+ store.outbox

def ReconcileWait.Awaits : ReconcileWait → CommsStore → (Nat → Nat) → Prop
  | .draining _ wait, store, lost => wait.Awaits store lost
  | .drained .., _, _ => True

section Drains
variable {host : CommsHost} {lost : Nat → Nat} {w : CommsWorld} {frame : DrainFrame} {delivery : DeliveryRecord}

theorem found_of_suffix {rest deliveries : List DeliveryRecord} (h : delivery :: rest <:+ deliveries) :
    deliveries[deliveries.length - (rest.length + 1)]? = some delivery := by
  obtain ⟨before, rfl⟩ := h
  have hindex : (before ++ delivery :: rest).length - (rest.length + 1) = before.length := by
    rw [List.length_append, List.length_cons, Nat.add_sub_cancel]
  rw [hindex, List.getElem?_append_right (Nat.le_refl _), Nat.sub_self]
  rfl

theorem dispatchOne_advances (h : delivery :: frame.rest <:+ w.store.outbox) :
    CountsOn DrainWait.Awaits DrainWait.index? lost (RestOverruns w lost (delivery :: frame.rest)) none none w
      (OutboxDispatcher.dispatchOne host frame delivery w) := by
  have hrest : frame.rest <:+ w.store.outbox := (List.suffix_cons _ _).trans h
  have hnotDue : ∀ {due : Bool}, OutboxDispatcher.isDue delivery = due → due = false →
      ¬ RestOverruns w lost (delivery :: frame.rest) := by
    rintro due hdue rfl ⟨hsome, _⟩
    unfold OutboxDispatcher.dueEnvelope at hsome
    rw [hdue] at hsome
    cases hsome
  by_cases hstate : delivery.state ≠ .queued ∧ delivery.state ≠ .retryWait
  · rw [OutboxDispatcher.dispatchOne_skipped hstate]
    refine .goesOn rfl rfl (hnotDue rfl ?_) rfl rfl hrest
    unfold OutboxDispatcher.isDue
    simp [hstate.1, hstate.2]
  · have hqueued : delivery.state = .queued ∨ delivery.state = .retryWait := by
      rwa [not_and_or, not_not, not_not] at hstate
    by_cases hattempt : CommsLimits.maxRetryAttempts ≤ delivery.attempt
    · rw [OutboxDispatcher.dispatchOne_exhausted hqueued hattempt]
      refine .goesOn rfl rfl (hnotDue rfl ?_) rfl rfl hrest
      unfold OutboxDispatcher.isDue
      simp [Nat.not_lt.2 hattempt]
    · have hbudget := Nat.lt_of_not_le hattempt
      have hdue : OutboxDispatcher.dueEnvelope w.store delivery = w.store.getEnvelope delivery.envelopeRef := by
        unfold OutboxDispatcher.dueEnvelope OutboxDispatcher.isDue
        rcases hqueued with hqueued | hqueued <;> simp [hqueued, hbudget]
      cases henvelope : w.store.getEnvelope delivery.envelopeRef with
      | none =>
          rw [OutboxDispatcher.dispatchOne_missing hqueued hbudget henvelope]
          refine .goesOn rfl rfl ?_ rfl rfl hrest
          rintro ⟨hsome, _⟩
          rw [hdue, henvelope] at hsome
          cases hsome
      | some envelope =>
          have hopen : delivery.isOpen = true := by
            unfold DeliveryRecord.isOpen
            rcases hqueued with hqueued | hqueued <;> rw [hqueued] <;> rfl
          have hsome : (OutboxDispatcher.dueEnvelope w.store delivery).isSome := by
            rw [hdue, henvelope]
            rfl
          rw [OutboxDispatcher.dispatchOne_due hqueued hbudget henvelope]
          refine ⟨.called _ delivery rfl dispatchCalls_called rfl rfl rfl (found_of_suffix h) hopen
            (and_iff_right hsome), fun wait hwait => ?_⟩
          cases hwait
          exact ⟨h, hopen⟩

theorem dispatchRest_advances (h : frame.rest <:+ w.store.outbox) :
    CountsOn DrainWait.Awaits DrainWait.index? lost (RestOverruns w lost frame.rest) none none w
      (OutboxDispatcher.dispatchRest host frame w) := by
  obtain ⟨rest, result⟩ := frame
  cases rest with
  | nil => exact .ended rfl rfl id rfl
  | cons delivery rest => exact @dispatchOne_advances host lost w { rest, result } delivery h

theorem dispatchPending_advances :
    CountsOn DrainWait.Awaits DrainWait.index? lost
      (RestOverruns w lost (if w.frozen then [] else w.store.outbox)) none none w
      (OutboxDispatcher.dispatchPending host w) := by
  cases hfrozen : w.frozen with
  | true =>
      rw [OutboxDispatcher.dispatchPending_frozen hfrozen]
      exact .ended rfl rfl id rfl
  | false =>
      rw [OutboxDispatcher.dispatchPending_unfrozen hfrozen]
      exact @dispatchRest_advances host lost w { rest := w.store.outbox, result := .empty } List.suffix_rfl

theorem written_advances {next : DeliveryRecord} {outcome : DispatchOutcome} {readings : Nat}
    {log : List PortEvent} {verified : VerifiedEnvelope} (hrefs : DistinctRefs w.store.outbox)
    (hdelivered : ∀ d ∈ w.store.outbox, (w.store.deliveries.get? d.envelopeRef).isSome)
    (h : DrainWait.Awaits (.transport frame delivery verified) w.store lost)
    (href : next.envelopeRef = delivery.envelopeRef) (hattempt : next.attempt = delivery.attempt + 1)
    (hlog : dispatchCalls log = dispatchCalls w.log) :
    @CountsOn DrainWait (Settled DrainResult) DrainWait.Awaits DrainWait.index? lost False
      (DrainWait.index? w.store (.transport frame delivery verified)) none w
      (.inl (.returned frame outcome),
        { w with store := (w.store.updateDelivery delivery.envelopeRef next).2, readings, log }) := by
  obtain ⟨⟨before, houtbox⟩, hopen⟩ := h
  have hmem : delivery ∈ w.store.outbox := by
    rw [← houtbox]
    exact List.mem_append_right _ List.mem_cons_self
  have hnext : (w.store.updateDelivery delivery.envelopeRef next).2.outbox = before ++ next :: frame.rest :=
    updateDelivery_outbox houtbox.symm hrefs (hdelivered delivery hmem)
  refine ⟨.counted _ delivery next (found_of_suffix ⟨before, houtbox⟩) hopen ?_ href hattempt hlog rfl rfl rfl id, ?_⟩
  · refine hnext.trans ?_
    rw [← houtbox]
    simp
  · intro wait hwait
    cases hwait
    exact ⟨before ++ [next], by rw [List.append_assoc]; exact hnext.symm⟩

theorem resumeDrain_advances {wait : DrainWait} {response : wait.Resp} (hrefs : DistinctRefs w.store.outbox)
    (hdelivered : ∀ d ∈ w.store.outbox, (w.store.deliveries.get? d.envelopeRef).isSome)
    (h : wait.Awaits w.store lost) :
    CountsOn DrainWait.Awaits DrainWait.index? lost (RestOverruns w lost wait.goesOn) (wait.index? w.store)
      (wait.lost? w.store response) w (OutboxDispatcher.resume host wait response w) := by
  cases wait with
  | returned frame outcome =>
      exact @dispatchRest_advances host lost w { frame with result := frame.result.push outcome } h
  | transport frame delivery verified =>
      rcases response with (violation | ref) | reason
      · change CountsOn _ _ _ _ _ _ w
          (OutboxDispatcher.dispatchedOne host frame delivery (.error violation) (w.noted _))
        by_cases hbudget : CommsLimits.maxRetryAttempts ≤ delivery.attempt + 1
        · rw [OutboxDispatcher.dispatchedOne_dead hbudget]
          exact written_advances hrefs hdelivered h rfl rfl dispatchCalls_answered
        · rw [OutboxDispatcher.dispatchedOne_retry (Nat.lt_of_not_le hbudget)]
          exact written_advances hrefs hdelivered h rfl rfl dispatchCalls_answered
      · exact written_advances hrefs hdelivered h rfl rfl dispatchCalls_answered
      · exact .ended rfl dispatchCalls_answered id rfl

/-! ## Recoveries -/

theorem afterDrain_index {unchanged : Nat} (store : CommsStore) (next : DrainWait ⊕ Settled DrainResult) :
    (DeliveryRecovery.afterDrain unchanged next).elim (ReconcileWait.index? store) (fun _ => none) =
      next.elim (DrainWait.index? store) fun _ => none := by
  rcases next with wait | result | reason <;> rfl

theorem afterDrain_awaits {unchanged : Nat} (next : DrainWait ⊕ Settled DrainResult) (wait' : ReconcileWait)
    (store : CommsStore) (lost : Nat → Nat) (hwait : DeliveryRecovery.afterDrain unchanged next = .inl wait')
    (h : ∀ wait, next = .inl wait → DrainWait.Awaits wait store lost) : wait'.Awaits store lost := by
  rcases next with wait | result | reason
  · cases hwait
    exact h wait rfl
  · cases hwait
    trivial
  · cases hwait

theorem reconcile_advances :
    CountsOn ReconcileWait.Awaits ReconcileWait.index? lost
      (RestOverruns w lost (if w.frozen then [] else w.store.outbox)) none none w
      (DeliveryRecovery.reconcile host w) := by
  cases hfrozen : w.frozen with
  | true =>
      rw [DeliveryRecovery.reconcile_frozen hfrozen]
      exact .ended rfl rfl id rfl
  | false =>
      rw [DeliveryRecovery.reconcile_unfrozen hfrozen]
      have hdrain := @dispatchPending_advances host lost w
      rw [hfrozen] at hdrain
      exact hdrain.map afterDrain_index afterDrain_awaits

theorem deadLetter_records {failure : DeliveryAttemptId × String} (hrefs : DistinctRefs w.store.outbox) :
    List.Forall₂ SameAttempts w.store.outbox (DeliveryRecovery.deadLetter host failure w).2.store.outbox := by
  change List.Forall₂ SameAttempts w.store.outbox
    (DeliveryRecovery.markDeadLettered host failure.1 failure.2 w).2.store.outbox
  unfold DeliveryRecovery.markDeadLettered
  simp only [bind, StateT.bind, store]
  cases hfind : w.store.outbox.find? fun d => d.deliveryId = failure.1 with
  | none => exact forall₂_sameAttempts_refl
  | some delivery => exact updateDelivery_sameAttempts (List.mem_of_find?_eq_some hfind) hrefs ⟨rfl, rfl, fun _ => rfl⟩

theorem sameAttempts_trans {ds ds' ds'' : List DeliveryRecord} (h : List.Forall₂ SameAttempts ds ds')
    (h' : List.Forall₂ SameAttempts ds' ds'') : List.Forall₂ SameAttempts ds ds'' := by
  induction h generalizing ds'' with
  | nil => exact h'
  | cons head _ ih =>
      cases h' with
      | cons head' tail' =>
          exact .cons ⟨head'.ref.trans head.ref, head'.attempt.trans head.attempt, fun hdone => head'.done (head.done hdone)⟩
            (ih tail')

theorem deadLetters_records (failures : List (DeliveryAttemptId × String)) (hrefs : DistinctRefs w.store.outbox) :
    List.Forall₂ SameAttempts w.store.outbox
      (failures.forM (DeliveryRecovery.deadLetter host) w).2.store.outbox := by
  induction failures generalizing w with
  | nil => exact forall₂_sameAttempts_refl
  | cons failure failures ih =>
      have hfirst := @deadLetter_records host w failure hrefs
      refine sameAttempts_trans hfirst (ih ?_)
      unfold DistinctRefs
      rwa [refs_eq hfirst]

theorem drained_advances {unchanged : Nat} {result : DrainResult} (hrefs : DistinctRefs w.store.outbox) :
    CountsOn ReconcileWait.Awaits ReconcileWait.index? lost False none none w
      (DeliveryRecovery.drained host unchanged result w) := by
  cases result with
  | error violation => exact .ended rfl rfl id rfl
  | ok result =>
      refine ⟨.kept (deadLetters_records result.failed hrefs) ?_ rfl rfl id, fun wait hwait => (by cases hwait)⟩
      exact congrArg dispatchCalls (quiet_forM (fun _ => DeliveryRecovery.quiet_deadLetter host) result.failed w)

theorem resumeReconcile_advances {wait : ReconcileWait} {response : wait.Resp}
    (hrefs : DistinctRefs w.store.outbox)
    (hdelivered : ∀ d ∈ w.store.outbox, (w.store.deliveries.get? d.envelopeRef).isSome)
    (h : wait.Awaits w.store lost) :
    CountsOn ReconcileWait.Awaits ReconcileWait.index? lost (RestOverruns w lost wait.goesOn) (wait.index? w.store)
      (wait.lost? w.store response) w (DeliveryRecovery.resume host wait response w) := by
  cases wait with
  | draining unchanged wait =>
      exact (@resumeDrain_advances host lost w wait response hrefs hdelivered h).map afterDrain_index afterDrain_awaits
  | drained unchanged result => exact drained_advances hrefs

end Drains

end Cantilune
