import Cantilune.Lemmas.CommsSections

/-!
# The runtime commits a message before the transport has it

The saga queues a delivery before the runtime observes and commits its message, and the outbox dispatcher hands
over whatever is queued. So an envelope goes to the transport uncommitted exactly when a drain takes up a delivery
that is due while its message has not been committed: while the saga waits for the runtime, or after the runtime
has refused. The saga itself keeps the order in every interleaving.
-/

namespace Cantilune

open CommsM Sections

/-! ## The order of the port events -/

/-- Whenever the transport was called with an envelope, the runtime had committed its message before. -/
def CommitBeforeDispatch (log : List PortEvent) : Prop :=
  ∀ before verified after, log = before ++ .called (.dispatch verified) :: after → Committed verified.envelope before

def InOrder (log : List PortEvent) (event : PortEvent) : Prop :=
  ∀ verified, event = .called (.dispatch verified) → Committed verified.envelope log

theorem commitBeforeDispatch_nil : CommitBeforeDispatch [] := by
  intro before verified after h
  exact absurd h.symm (by simp)

theorem commitBeforeDispatch_snoc {log : List PortEvent} {event : PortEvent} :
    CommitBeforeDispatch (log ++ [event]) ↔ CommitBeforeDispatch log ∧ InOrder log event := by
  constructor
  · intro h
    refine ⟨fun before verified after heq => ?_, fun verified heq => ?_⟩
    · exact h before verified (after ++ [event]) (by rw [heq, List.append_assoc, List.cons_append])
    · exact h log verified [] (by rw [heq])
  · rintro ⟨h, hevent⟩ before verified after heq
    rcases List.eq_nil_or_concat after with rfl | ⟨after, last, rfl⟩
    · obtain ⟨rfl, hlast⟩ := List.append_inj' heq rfl
      exact hevent verified (List.singleton_inj.1 hlast)
    · have hsnoc : log ++ [event] = (before ++ .called (.dispatch verified) :: after) ++ [last] := by
        rw [heq, List.concat_eq_append, List.append_assoc, List.cons_append]
      have hlog : log = before ++ .called (.dispatch verified) :: after := (List.append_inj' hsnoc rfl).1
      exact h before verified after hlog

theorem CommitBeforeDispatch.append {log events : List PortEvent} (h : CommitBeforeDispatch log)
    (hevents : ∀ event ∈ events, InOrder log event) : CommitBeforeDispatch (log ++ events) := by
  induction events generalizing log with
  | nil => rwa [List.append_nil]
  | cons event events ih =>
      rw [List.append_cons]
      refine ih (commitBeforeDispatch_snoc.2 ⟨h, hevents event List.mem_cons_self⟩) fun e he verified heq => ?_
      exact (hevents e (List.mem_cons_of_mem _ he) verified heq).append [event]

theorem NotesIn.commitBeforeDispatch {α : Type} {m : CommsM α} {w : CommsWorld} (h : NotesIn (InOrder w.log) m)
    (hw : CommitBeforeDispatch w.log) : CommitBeforeDispatch (m w).2.log := by
  obtain ⟨events, hlog, hevents⟩ := h w
  rw [hlog]
  exact hw.append hevents

theorem Quiet.commitBeforeDispatch {α : Type} {m : CommsM α} {w : CommsWorld} (h : Quiet m)
    (hw : CommitBeforeDispatch w.log) : CommitBeforeDispatch (m w).2.log := by
  rwa [h w]

theorem CommitBeforeDispatch.noted {w : CommsWorld} {call : PortCall} {response : Settled PortResult}
    (hw : CommitBeforeDispatch w.log) : CommitBeforeDispatch (w.noted (.answered call response)).log :=
  commitBeforeDispatch_snoc.2 ⟨hw, fun _ heq => nomatch heq⟩

variable {host : CommsHost} {w : CommsWorld}

theorem executeSend_commitBeforeDispatch {input : ExecuteSendInput} (hw : CommitBeforeDispatch w.log) :
    CommitBeforeDispatch (MessagingSaga.executeSend host input w).2.log := by
  refine NotesIn.commitBeforeDispatch (MessagingSaga.executeSend_notesIn host input fun _ => ?_) hw
  intro _ heq
  cases heq

theorem resumeSend_commitBeforeDispatch {input : ExecuteSendInput} {wait : SendWait} {response : Settled PortResult}
    (hw : CommitBeforeDispatch w.log) :
    CommitBeforeDispatch (MessagingSaga.resume host input wait response w).2.log := by
  unfold MessagingSaga.resume
  cases response with
  | rejected reason => exact hw.noted
  | resolved result =>
      rw [answered_resolved]
      cases wait with
      | observing frame =>
          refine NotesIn.commitBeforeDispatch (MessagingSaga.observed_notesIn host input fun _ _ => ?_) hw.noted
          intro _ heq
          cases heq
      | committing frame snapshotRef =>
          refine NotesIn.commitBeforeDispatch (MessagingSaga.committed_notesIn host input fun _ _ hok => ?_) hw.noted
          cases result with
          | error violation => cases hok
          | ok receiptRef =>
              intro verified heq
              cases heq
              exact ⟨snapshotRef, receiptRef, List.mem_append_right _ (List.mem_singleton.2 rfl)⟩
      | dispatching frame verifiedAt => exact (MessagingSaga.quiet_dispatched host input).commitBeforeDispatch hw.noted

theorem send_commitBeforeDispatch {input : SendInput} (hw : CommitBeforeDispatch w.log) :
    CommitBeforeDispatch (MessagingService.send host input true w).2.log := by
  refine NotesIn.commitBeforeDispatch (MessagingService.send_notesIn host input fun _ => ?_) hw
  intro _ heq
  cases heq

theorem resumeService_commitBeforeDispatch {input : SendInput} {wait : ServiceWait} {response : Settled PortResult}
    (hw : CommitBeforeDispatch w.log) :
    CommitBeforeDispatch (MessagingService.resume host input response wait w).2.log := by
  cases wait with
  | saga wait =>
      rw [MessagingService.resume, MessagingService.inSaga_eq]
      exact resumeSend_commitBeforeDispatch hw
  | transport delivery event verifiedAt =>
      cases response with
      | rejected reason => exact hw.noted
      | resolved result => exact MessagingService.quiet_transportAnswered.commitBeforeDispatch hw.noted

/-! ## Where a drain keeps it -/

def TakenInOrder (w : CommsWorld) (delivery : DeliveryRecord) : Prop :=
  ∀ envelope, OutboxDispatcher.dueEnvelope w.store delivery = some envelope → Committed envelope w.log

theorem dispatchOne_commitBeforeDispatch_iff {frame : DrainFrame} {delivery : DeliveryRecord}
    (hw : CommitBeforeDispatch w.log) :
    CommitBeforeDispatch (OutboxDispatcher.dispatchOne host frame delivery w).2.log ↔ TakenInOrder w delivery := by
  rw [OutboxDispatcher.dispatchOne_log]
  unfold TakenInOrder
  cases OutboxDispatcher.dueEnvelope w.store delivery with
  | none => simpa using hw
  | some envelope =>
      simp only [Option.map_some, Option.toList_some, commitBeforeDispatch_snoc, hw, true_and, Option.some.injEq]
      constructor
      · rintro h _ rfl
        exact h _ rfl
      · intro h verified heq
        cases heq
        exact h envelope rfl

theorem dispatchRest_commitBeforeDispatch_iff {frame : DrainFrame} (hw : CommitBeforeDispatch w.log) :
    CommitBeforeDispatch (OutboxDispatcher.dispatchRest host frame w).2.log ↔
      ∀ delivery, frame.rest.head? = some delivery → TakenInOrder w delivery := by
  obtain ⟨rest, result⟩ := frame
  cases rest with
  | nil => simpa [OutboxDispatcher.dispatchRest] using quiet_finish.commitBeforeDispatch hw
  | cons delivery rest =>
      simpa [OutboxDispatcher.dispatchRest] using dispatchOne_commitBeforeDispatch_iff hw

theorem dispatchPending_commitBeforeDispatch_iff (hw : CommitBeforeDispatch w.log) :
    CommitBeforeDispatch (OutboxDispatcher.dispatchPending host w).2.log ↔
      (w.frozen = false → ∀ delivery, w.store.outbox.head? = some delivery → TakenInOrder w delivery) := by
  cases hfrozen : w.frozen with
  | true =>
      have hrefused : (OutboxDispatcher.dispatchPending host w).2.log = w.log := by
        simp only [OutboxDispatcher.dispatchPending, isFrozen, bind, StateT.bind, hfrozen, finish]
        rfl
      simpa [hrefused] using hw
  | false =>
      have hdrain : OutboxDispatcher.dispatchPending host w =
          OutboxDispatcher.dispatchRest host { rest := w.store.outbox, result := .empty } w := by
        simp [OutboxDispatcher.dispatchPending, isFrozen, bind, StateT.bind, hfrozen, store]
      rw [hdrain, dispatchRest_commitBeforeDispatch_iff hw]
      simp

def DrainWait.takesUp : DrainWait → Option DeliveryRecord
  | .transport .. => none
  | .returned frame _ => frame.rest.head?

theorem resumeDrain_commitBeforeDispatch_iff {wait : DrainWait} {response : wait.Resp}
    (hw : CommitBeforeDispatch w.log) :
    CommitBeforeDispatch (OutboxDispatcher.resume host wait response w).2.log ↔
      ∀ delivery, wait.takesUp = some delivery → TakenInOrder w delivery := by
  cases wait with
  | transport frame delivery verified =>
      refine iff_of_true ?_ fun _ h => nomatch h
      cases (response : Settled PortResult) with
      | rejected reason => exact hw.noted
      | resolved result => exact (OutboxDispatcher.quiet_dispatchedOne host).commitBeforeDispatch hw.noted
  | returned frame outcome => exact dispatchRest_commitBeforeDispatch_iff hw

theorem reconcile_commitBeforeDispatch_iff (hw : CommitBeforeDispatch w.log) :
    CommitBeforeDispatch (DeliveryRecovery.reconcile host w).2.log ↔
      (w.frozen = false → ∀ delivery, w.store.outbox.head? = some delivery → TakenInOrder w delivery) := by
  cases hfrozen : w.frozen with
  | true =>
      have hrefused : (DeliveryRecovery.reconcile host w).2.log = w.log := by
        simp only [DeliveryRecovery.reconcile, isFrozen, bind, StateT.bind, hfrozen, finish]
        rfl
      simpa [hrefused] using hw
  | false =>
      have hdrain : (DeliveryRecovery.reconcile host w).2.log = (OutboxDispatcher.dispatchPending host w).2.log := by
        simp [DeliveryRecovery.reconcile, isFrozen, bind, StateT.bind, hfrozen, store, DeliveryRecovery.draining_eq]
      rw [hdrain, dispatchPending_commitBeforeDispatch_iff hw, hfrozen]

def ReconcileWait.takesUp : ReconcileWait → Option DeliveryRecord
  | .draining _ wait => wait.takesUp
  | .drained .. => none

theorem resumeReconcile_commitBeforeDispatch_iff {wait : ReconcileWait} {response : wait.Resp}
    (hw : CommitBeforeDispatch w.log) :
    CommitBeforeDispatch (DeliveryRecovery.resume host wait response w).2.log ↔
      ∀ delivery, wait.takesUp = some delivery → TakenInOrder w delivery := by
  cases wait with
  | draining unchanged wait => exact resumeDrain_commitBeforeDispatch_iff hw
  | drained unchanged result =>
      exact iff_of_true ((DeliveryRecovery.quiet_drained host).commitBeforeDispatch hw) fun _ h => nomatch h

/-! ## Every run -/

variable {ι : Type} [DecidableEq ι]

def CommsCall.takesUp : (call : CommsCall) → call.Wait → Option DeliveryRecord
  | .dispatchPending, wait => DrainWait.takesUp wait
  | .reconcile, wait => ReconcileWait.takesUp wait
  | _, _ => none

def takesUp (s : Tasks (commsServices host) ι) : TaskLabel (commsServices host) ι → Option DeliveryRecord
  | .start _ .dispatchPending => if s.world.frozen then none else s.world.store.outbox.head?
  | .start _ .reconcile => if s.world.frozen then none else s.world.store.outbox.head?
  | .start _ _ => none
  | .resume _ call wait _ => call.takesUp wait

/-- A drain that the step starts or continues does not take up a due delivery whose message is not committed. -/
def DrainsInOrder (s : Tasks (commsServices host) ι) (l : TaskLabel (commsServices host) ι) : Prop :=
  ∀ delivery, takesUp s l = some delivery → TakenInOrder s.world delivery

theorem step_commitBeforeDispatch_iff {s t : Tasks (commsServices host) ι} {l : TaskLabel (commsServices host) ι}
    (hstep : Sections.Step (commsServices host) s l t) (hs : CommitBeforeDispatch s.world.log) :
    CommitBeforeDispatch t.world.log ↔ DrainsInOrder s l := by
  cases hstep with
  | @start client call idle =>
      rw [after_world]
      cases call with
      | executeSend input => exact iff_of_true (executeSend_commitBeforeDispatch hs) fun _ h => nomatch h
      | send input => exact iff_of_true (send_commitBeforeDispatch hs) fun _ h => nomatch h
      | dispatchPending =>
          refine (dispatchPending_commitBeforeDispatch_iff hs).trans ?_
          cases hfrozen : s.world.frozen <;> simp [DrainsInOrder, takesUp, hfrozen]
      | reconcile =>
          refine (reconcile_commitBeforeDispatch_iff hs).trans ?_
          cases hfrozen : s.world.frozen <;> simp [DrainsInOrder, takesUp, hfrozen]
      | setFrozen frozen => exact iff_of_true hs fun _ h => nomatch h
  | @resume client call wait resp waits =>
      rw [after_world]
      cases call with
      | executeSend input => exact iff_of_true (resumeSend_commitBeforeDispatch hs) fun _ h => nomatch h
      | send input => exact iff_of_true (resumeService_commitBeforeDispatch hs) fun _ h => nomatch h
      | dispatchPending => exact resumeDrain_commitBeforeDispatch_iff hs
      | reconcile => exact resumeReconcile_commitBeforeDispatch_iff hs
      | setFrozen frozen => exact Empty.elim wait

/-- Commit before dispatch: in a run of sends, drains and recoveries, interleaved at their waits and with whatever
answers of the ports, every envelope that goes to the transport has been committed by the runtime before exactly
if no drain takes up a due delivery whose message is not committed. -/
theorem commitBeforeDispatch_iff (host : CommsHost) {s : Tasks (commsServices host) ι}
    (hs : CommitBeforeDispatch s.world.log) (labels : List (TaskLabel (commsServices host) ι)) :
    (∀ pre post m, labels = pre ++ post → Run (Sections.Step (commsServices host)) s pre m →
        CommitBeforeDispatch m.world.log) ↔
      Run.Every (Sections.Step (commsServices host)) (fun m l _ => DrainsInOrder m l) s labels :=
  Run.forall_states_iff hs fun _ _ _ hstep hs => step_commitBeforeDispatch_iff hstep hs

def committedServices : Tasks (commsServices sampleCommsHost) Nat :=
  .idle _ Nat
    { CommsWorld.empty with
      store := (CommsStore.empty.appendOutbox
        { envelope := sampleEnvelope, idempotencyKey := "k", delivery := queuedDelivery sampleEnvelope "t"
          event := messageEvent "evt-enq-" .messageEnqueued sampleEnvelope 1 "t" }).2
      log := [.answered (.commitMessage "m" "digest" "snap") (.resolved (.ok "receipt"))] }

theorem committed_delivery_is_drained_in_order : ∃ t,
    Run (Sections.Step (commsServices sampleCommsHost)) committedServices [.start 0 .dispatchPending] t ∧
      .called (.dispatch (sealVerifiedEnvelope sampleEnvelope "t")) ∈ t.world.log ∧
      CommitBeforeDispatch t.world.log := by
  have hlog : committedServices.world.log =
      [.answered (.commitMessage "m" "digest" "snap") (.resolved (.ok "receipt"))] := rfl
  have hcommitted : Committed sampleEnvelope committedServices.world.log :=
    ⟨"snap", "receipt", by rw [hlog]; exact List.mem_singleton.2 rfl⟩
  have hs : CommitBeforeDispatch committedServices.world.log := by
    rw [hlog, ← List.nil_append [_]]
    exact commitBeforeDispatch_snoc.2 ⟨commitBeforeDispatch_nil, fun _ h => nomatch h⟩
  have hrun : Run (Sections.Step (commsServices sampleCommsHost)) committedServices [.start 0 .dispatchPending] _ :=
    .single (.start rfl)
  refine ⟨_, hrun, by decide +kernel, ?_⟩
  have hdue : OutboxDispatcher.dueEnvelope committedServices.world.store (queuedDelivery sampleEnvelope "t") =
      some sampleEnvelope := by decide +kernel
  refine (commitBeforeDispatch_iff sampleCommsHost hs _).2 (Run.every_single fun _ _ => ?_) _ []
    _ (List.append_nil _).symm hrun
  intro delivery htakes envelope henvelope
  have hdelivery : queuedDelivery sampleEnvelope "t" = delivery := Option.some_inj.1 htakes
  rw [← hdelivery, hdue] at henvelope
  exact Option.some_inj.1 henvelope ▸ hcommitted

def refusedMoves : List (Nat × Sections.Move (commsServices sampleCommsHost)) :=
  [(0, .start (.executeSend sampleSend)), (0, portAnswers (.resolved (.ok "snap"))),
    (0, portAnswers (.resolved (.error (commsViolation .runtimeCommitFailed .send "refused")))),
    (1, .start .dispatchPending)]

theorem refused_message_is_dispatched : ∃ labels t,
    Run (Sections.Step (commsServices sampleCommsHost)) idleServices labels t ∧ ¬ CommitBeforeDispatch t.world.log := by
  have hlog : (refusedMoves.foldlM Tasks.next? idleServices).map (·.world.log) =
      some [.called (.observe sampleEnvelope.sender "content" sampleEnvelope.sender),
        .answered (.observe sampleEnvelope.sender "content" sampleEnvelope.sender) (.resolved (.ok "snap")),
        .called (.commitMessage "m" "digest" "snap"),
        .answered (.commitMessage "m" "digest" "snap")
          (.resolved (.error (commsViolation .runtimeCommitFailed .send "refused"))),
        .called (.dispatch (sealVerifiedEnvelope sampleEnvelope "t"))] := by decide +kernel
  obtain ⟨t, ht, hlog⟩ := Option.map_eq_some_iff.1 hlog
  obtain ⟨labels, hrun⟩ := run_of_next? ht
  refine ⟨labels, t, hrun, fun h => ?_⟩
  obtain ⟨snapshotRef, receiptRef, hmem⟩ := h [_, _, _, _] _ [] hlog
  simp at hmem

end Cantilune
