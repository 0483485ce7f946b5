import Cantilune.Comms.Close
import Cantilune.Lemmas.AcceptedSends

/-!
# Quiescent closes

A completion believes what its plan says about pending deliveries and what two probes say about the runtime, and
never looks at the deliveries of the store; the receipt of a close is read by nothing, and the policy for sends asks
for the binding of a session only if there is one. So a close is quiescent, and stays closed, on the runs in which
no completion is let through while the store holds an open delivery of its session, and no send that would be
admitted anyway comes after it.
-/

namespace Cantilune

open Sections

variable {ι Other : Type} {host : CommsHost} {others : Sections CommsWorld Other} {w : CommsWorld}

/-! ## What is asked of a close -/

def closingServices (host : CommsHost) (others : Sections CommsWorld Other) :
    Sections CommsWorld ((CommsCall ⊕ CloseCall) ⊕ Other) :=
  ((commsServices host).sum (closeServices host)).sum others

def TransportDeliveryState.isTerminal : TransportDeliveryState → Bool
  | .acknowledged | .rejected | .expired | .deadLettered | .cancelled => true
  | .created | .queued | .dispatched | .retryWait | .received | .durablyAccepted => false

def CommsStore.sessionOf (store : CommsStore) (delivery : DeliveryRecord) : Option SessionId :=
  (store.getEnvelope delivery.envelopeRef).map (·.metadata.sessionId)

def CommsStore.HoldsOpen (store : CommsStore) (sessionId : SessionId) : Prop :=
  ∃ delivery ∈ store.outbox ++ store.inbox,
    store.sessionOf delivery = some sessionId ∧ delivery.state.isTerminal = false

instance {store : CommsStore} {sessionId : SessionId} : Decidable (store.HoldsOpen sessionId) :=
  inferInstanceAs (Decidable (∃ delivery ∈ store.outbox ++ store.inbox,
    store.sessionOf delivery = some sessionId ∧ delivery.state.isTerminal = false))

def Completes (plan : QuiescentClosePlan) (s t : Tasks (closingServices host others) ι) : Prop :=
  ∃ receipt, t.ended = s.ended ++ [⟨.inl (.inr (.complete plan)), (.resolved (.ok receipt) : Settled CloseResult)⟩]

def sentEnvelope? : TaskLabel (closingServices host others) ι → Option CommunicationEnvelope
  | .start _ (.inl (.inl (.executeSend input))) => some input.envelope
  | .start _ (.inl (.inl (.send input))) => some input.envelope
  | _ => none

def AcceptsSend (sessionId : SessionId) (s : Tasks (closingServices host others) ι)
    (l : TaskLabel (closingServices host others) ι) (t : Tasks (closingServices host others) ι) : Prop :=
  (sentEnvelope? l).map (·.metadata.sessionId) = some sessionId ∧
    s.world.store.outbox.length < t.world.store.outbox.length

def stillClosed (s : Tasks (closingServices host others) ι) (_ : TaskLabel (closingServices host others) ι)
    (t : Tasks (closingServices host others) ι) (closed : Set SessionId) : Set SessionId :=
  { sessionId | (∃ plan, plan.sessionId = sessionId ∧ Completes plan s t) ∨
      sessionId ∈ closed ∧ t.world.store.getSessionBinding sessionId = s.world.store.getSessionBinding sessionId }

variable [DecidableEq ι]

abbrev ClosingStep (host : CommsHost) (others : Sections CommsWorld Other) :
    Tasks (closingServices host others) ι × Set SessionId → TaskLabel (closingServices host others) ι →
      Tasks (closingServices host others) ι × Set SessionId → Prop :=
  Run.Recorded (Sections.Step (closingServices host others)) stillClosed

structure QuiescentStep (p : Tasks (closingServices host others) ι × Set SessionId)
    (l : TaskLabel (closingServices host others) ι) (q : Tasks (closingServices host others) ι × Set SessionId) :
    Prop where
  quiescent : ∀ plan, Completes plan p.1 q.1 → ¬ q.1.world.store.HoldsOpen plan.sessionId
  barred : ∀ sessionId ∈ p.2, ¬ AcceptsSend sessionId p.1 l q.1

def LetsOpenThrough (w : CommsWorld) : TaskLabel (closingServices host others) ι → Prop
  | .resume _ (.inl (.inr (.complete plan))) (.sessionsQuiescent true) (.resolved true) =>
      w.store.HoldsOpen plan.sessionId
  | _ => False

def AdmitsSend (host : CommsHost) (w : CommsWorld) : TaskLabel (closingServices host others) ι → Prop
  | .start _ (.inl (.inl call)) => (newSend? host w call).isSome
  | _ => False

/-! ## Steps -/

variable {s t : Tasks (closingServices host others) ι} {l : TaskLabel (closingServices host others) ι}

theorem acceptsSend_iff (hstep : Sections.Step (closingServices host others) s l t) {sessionId : SessionId} :
    AcceptsSend sessionId s l t ↔
      (sentEnvelope? l).map (·.metadata.sessionId) = some sessionId ∧ AdmitsSend host s.world l := by
  refine and_congr_right fun hsent => ?_
  cases hstep with
  | @start client call hidle =>
      rw [after_world]
      rcases call with (call | call) | call
      · cases call with
        | executeSend input => exact executeSend_accepts_iff
        | send input => exact send_accepts_iff
        | dispatchPending => cases hsent
        | reconcile => cases hsent
        | setFrozen frozen => cases hsent
      · cases hsent
      · cases hsent
  | resume hwaits => cases hsent

theorem resumeClose_ok_iff {plan : QuiescentClosePlan} {wait : CloseWait} {response : Settled Bool} :
    (∃ receipt, (CloseCoordinator.resume host plan wait response w).1 = .inr (.resolved (.ok receipt))) ↔
      wait = .sessionsQuiescent true ∧ response = .resolved true := by
  cases response with
  | rejected reason => exact iff_of_false (fun ⟨_, h⟩ => (by cases wait <;> cases h)) fun h => (by cases h.2)
  | resolved quiescent =>
      cases wait with
      | resourcesClear => exact iff_of_false (fun ⟨_, h⟩ => (by cases h)) fun h => (by cases h.1)
      | sessionsQuiescent resourcesClear =>
          cases resourcesClear with
          | false => exact iff_of_false (fun ⟨_, h⟩ => (by cases h)) fun h => (by cases h.1)
          | true =>
              cases quiescent with
              | false => exact iff_of_false (fun ⟨_, h⟩ => (by cases h)) fun h => (by cases h.2)
              | true => exact iff_of_true ⟨_, rfl⟩ ⟨rfl, rfl⟩

theorem complete_not_ok {plan : QuiescentClosePlan} {receipt : QuiescentCloseReceipt} :
    (CloseCoordinator.complete host plan w).1 ≠ .inr (.resolved (.ok receipt)) := by
  intro h
  change (CloseCoordinator.checked (CloseCoordinator.completable host plan (host.clock w.readings)) _).1 = _ at h
  cases hcheck : CloseCoordinator.completable host plan (host.clock w.readings) with
  | error violation =>
      rw [hcheck] at h
      cases h
  | ok _ =>
      rw [hcheck] at h
      cases h

theorem closed_keeps {plan : QuiescentClosePlan} {sessionId : SessionId} :
    (CloseCoordinator.closed host plan w).2.store.HoldsOpen sessionId ↔ w.store.HoldsOpen sessionId := Iff.rfl

theorem completes_after {client : ι} {call : (CommsCall ⊕ CloseCall) ⊕ Other}
    {result : ((closingServices host others).Wait call ⊕ (closingServices host others).Out call) × CommsWorld}
    {plan : QuiescentClosePlan} (h : Completes plan s (s.after client call result)) :
    ∃ receipt, outcome? result =
      some ⟨.inl (.inr (.complete plan)), (.resolved (.ok receipt) : Settled CloseResult)⟩ := by
  obtain ⟨receipt, h⟩ := h
  rw [after_ended] at h
  have hout := List.append_cancel_left h
  refine ⟨receipt, ?_⟩
  cases hcases : outcome? result with
  | none =>
      rw [hcases] at hout
      cases hout
  | some out =>
      rw [hcases] at hout
      exact congrArg some (List.singleton_inj.1 hout)

theorem completes_iff (hstep : Sections.Step (closingServices host others) s l t) {plan : QuiescentClosePlan} :
    Completes plan s t ↔ ∃ client, l = .resume client (.inl (.inr (.complete plan)))
      (.sessionsQuiescent true : CloseWait) (.resolved true : Settled Bool) := by
  constructor
  · intro h
    cases hstep with
    | @start client call hidle =>
        obtain ⟨receipt, hout⟩ := completes_after h
        generalize hresult : (closingServices host others).start call s.world = result at hout
        obtain ⟨wait | out, world⟩ := result
        · cases hout
        · cases hout
          have hok : (CloseCoordinator.complete host plan s.world).1 = .inr (.resolved (.ok receipt)) :=
            congrArg Prod.fst hresult
          exact absurd hok complete_not_ok
    | @resume client call wait response hwaits =>
        obtain ⟨receipt, hout⟩ := completes_after h
        generalize hresult : (closingServices host others).resume call wait response s.world = result at hout
        obtain ⟨wait | out, world⟩ := result
        · cases hout
        · cases hout
          have hok : (CloseCoordinator.resume host plan wait response s.world).1 =
              .inr (.resolved (.ok receipt)) := congrArg Prod.fst hresult
          obtain ⟨rfl, rfl⟩ := resumeClose_ok_iff.1 ⟨receipt, hok⟩
          exact ⟨client, rfl⟩
  · rintro ⟨client, rfl⟩
    cases hstep with
    | resume hwaits =>
        unfold Completes
        rw [after_ended]
        exact ⟨_, rfl⟩

theorem step_quiescent_iff (hstep : Sections.Step (closingServices host others) s l t) :
    (∀ plan, Completes plan s t → ¬ t.world.store.HoldsOpen plan.sessionId) ↔ ¬ LetsOpenThrough s.world l := by
  have hkeeps : ∀ {client plan}, l = .resume client (.inl (.inr (.complete plan)))
      (.sessionsQuiescent true : CloseWait) (.resolved true : Settled Bool) →
      (t.world.store.HoldsOpen plan.sessionId ↔ s.world.store.HoldsOpen plan.sessionId) := by
    rintro client plan rfl
    cases hstep with
    | resume hwaits =>
        rw [after_world]
        exact closed_keeps
  constructor
  · intro h hopen
    unfold LetsOpenThrough at hopen
    split at hopen
    · exact h _ ((completes_iff hstep).2 ⟨_, rfl⟩) ((hkeeps rfl).2 hopen)
    · exact hopen
  · intro h plan hcompletes hopen
    obtain ⟨client, hl⟩ := (completes_iff hstep).1 hcompletes
    refine h ?_
    have hbefore := (hkeeps hl).1 hopen
    rw [hl]
    exact hbefore

theorem quiescentStep_iff {p q : Tasks (closingServices host others) ι × Set SessionId}
    (hstep : ClosingStep host others p l q) :
    QuiescentStep p l q ↔ ¬ LetsOpenThrough p.1.world l ∧ ∀ sessionId ∈ p.2,
      ¬ ((sentEnvelope? l).map (·.metadata.sessionId) = some sessionId ∧ AdmitsSend host p.1.world l) := by
  constructor
  · intro h
    refine ⟨(step_quiescent_iff hstep.1).1 h.quiescent, fun sessionId hclosed hadmits => ?_⟩
    exact h.barred sessionId hclosed ((acceptsSend_iff hstep.1).2 hadmits)
  · intro h
    refine ⟨(step_quiescent_iff hstep.1).2 h.1, fun sessionId hclosed haccepts => ?_⟩
    exact h.2 sessionId hclosed ((acceptsSend_iff hstep.1).1 haccepts)

/-- Closes are quiescent, and closed sessions accept no send, in the runs in which no completion is let through by
both probes while a delivery of its session is open and no send that would be admitted anyway comes on a closed
session, and in no others. -/
theorem closes_quiescent_iff (host : CommsHost) (others : Sections CommsWorld Other) (world : CommsWorld)
    (labels : List (TaskLabel (closingServices host others) ι)) :
    Run.Every (ClosingStep host others) QuiescentStep (.idle _ ι world, ∅) labels ↔
      Run.Every (ClosingStep host others)
        (fun p l _ => ¬ LetsOpenThrough p.1.world l ∧ ∀ sessionId ∈ p.2,
          ¬ ((sentEnvelope? l).map (·.metadata.sessionId) = some sessionId ∧ AdmitsSend host p.1.world l))
        (.idle _ ι world, ∅) labels :=
  ⟨.mono fun _ _ _ _ _ hstep => (quiescentStep_iff hstep).1,
    .mono fun _ _ _ _ _ hstep => (quiescentStep_iff hstep).2⟩

/-! ## A close with a message under way -/

def sampleClosePlan : QuiescentClosePlan :=
  { planId := "close", sessionId := "s", channelId := "ch", channelGeneration := 1, sendBarrierApplied := true
    pendingOutbox := 0, pendingInbox := 0, pendingInflight := 0, peerShutdownAckRef := some "ack"
    resourcesClearEvidenceRef := none, sessionsQuiescentEvidenceRef := none, authorizationRef := "auth"
    expiresAt := "t" }

def closeMoves : List (Bool × Sections.Move (closingServices sampleCommsHost sessionServices)) :=
  [(false, .start (.inl (.inr (.propose sampleClosePlan)))), (true, .start (.inl (.inl (.executeSend sampleSend)))),
    (false, .start (.inl (.inr (.complete sampleClosePlan))))]

def closing? (s : Tasks (closingServices host others) ι) (client : ι) : Option QuiescentClosePlan :=
  match s.waiting client with
  | some ⟨.inl (.inr (.complete plan)), .resourcesClear⟩ => some plan
  | _ => none

omit [DecidableEq ι] in
theorem waits_of_closing {client : ι} {plan : QuiescentClosePlan} (h : closing? s client = some plan) :
    s.waiting client = some ⟨.inl (.inr (.complete plan)), (.resourcesClear : CloseWait)⟩ := by
  unfold closing? at h
  split at h
  · rename_i plan' hwaits
    cases h
    exact hwaits
  · cases h

theorem exists_letThrough {s : Tasks (closingServices host others) ι} {client : ι} {plan : QuiescentClosePlan}
    (h : closing? s client = some plan) (hopen : s.world.store.HoldsOpen plan.sessionId) :
    ∃ l t l' u, Sections.Step (closingServices host others) s l t ∧
      Sections.Step (closingServices host others) t l' u ∧ LetsOpenThrough t.world l' := by
  have hfirst : Sections.Step (closingServices host others) s (.resume client (.inl (.inr (.complete plan)))
      (.resourcesClear : CloseWait) (.resolved true : Settled Bool)) _ := .resume (waits_of_closing h)
  refine ⟨_, _, .resume client (.inl (.inr (.complete plan))) (.sessionsQuiescent true : CloseWait)
    (.resolved true : Settled Bool), _, hfirst, .resume ?_, ?_⟩
  · rw [after_waiting, Function.update_self]
    rfl
  · rw [after_world]
    exact hopen

/-- The message is queued when the close is completed. -/
theorem close_leaves_message_queued : ∃ labels p l q,
    Run (ClosingStep sampleCommsHost sessionServices) (.idle _ Bool .empty, ∅) labels p ∧
      ClosingStep sampleCommsHost sessionServices p l q ∧ ¬ QuiescentStep p l q := by
  have hstarted : (closeMoves.foldlM Tasks.next?
      (.idle (closingServices sampleCommsHost sessionServices) Bool .empty)).map
        (fun s => (closing? s false, decide (s.world.store.HoldsOpen "s"))) =
      some (some sampleClosePlan, true) := by
    decide +kernel
  obtain ⟨s, hs, hfacts⟩ := Option.map_eq_some_iff.1 hstarted
  obtain ⟨hclosing, hopen⟩ := Prod.mk.inj hfacts
  obtain ⟨labels, hrun⟩ := run_of_next? hs
  obtain ⟨l, t, l', u, hfirst, hsecond, hthrough⟩ := exists_letThrough hclosing (of_decide_eq_true hopen)
  obtain ⟨closed, hrecorded⟩ : ∃ closed, Run (ClosingStep sampleCommsHost sessionServices) (.idle _ Bool .empty, ∅)
      (labels ++ [l]) (t, closed) := (hrun.snoc hfirst).recorded ∅
  have hstep : ClosingStep sampleCommsHost sessionServices (t, closed) l' (u, stillClosed t l' u closed) :=
    ⟨hsecond, rfl⟩
  exact ⟨_, _, _, _, hrecorded, hstep, fun hquiescent => ((quiescentStep_iff hstep).1 hquiescent).1 hthrough⟩

end Cantilune
