import Cantilune.Lemmas.ReconnectSections
import Cantilune.Lemmas.StoreMoves

/-!
# The emergency stop

The calls look at the emergency stop where they start, if they do: a send and a drain that are under way go on, the
commit and the recovery of a plan and the completion of a close never look. So the stop is effective on the runs in
which no such section comes while it is on.
-/

namespace Cantilune

open Sections ReconnectCoordinator

variable {ι : Type} {host : ReconnectHost} {w w' : CommsWorld}

/-- A message is handed to the transport, or something is committed to the runtime. -/
def ActsOutside : PortEvent → Prop
  | .called (.dispatch _) | .called (.commitMessage ..) | .called (.commitReconnect ..) => True
  | .called (.observe ..) | .answered .. => False

def closings (store : CommsStore) : List CommsEventEnvelope := store.events.filter fun e => e.kind = .sessionClosed

def SameSessions (store store' : CommsStore) : Prop :=
  store'.sessions = store.sessions ∧ closings store' = closings store

/-- Nothing is handed over or committed, no binding is switched, and no session is closed. -/
structure Inert (w w' : CommsWorld) : Prop where
  quiet : ∃ events, w'.log = w.log ++ events ∧ ∀ e ∈ events, ¬ ActsOutside e
  sessions : SameSessions w.store w'.store

def StopHolds (s : Tasks (runtimeServices host) ι) (_ : TaskLabel (runtimeServices host) ι)
    (t : Tasks (runtimeServices host) ι) : Prop :=
  s.world.frozen = true → Inert s.world t.world

/-! ## Sections that act -/

def SendActs : SendWait → Settled PortResult → Prop
  | .dispatching .., _ => False
  | .observing _, response | .committing .., response => ∃ ref, response = .resolved (.ok ref)

def ServiceActs : ServiceWait → Settled PortResult → Prop
  | .saga wait, response => SendActs wait response
  | .transport .., _ => False

def DrainActs (w : CommsWorld) : DrainWait → Prop
  | .transport .. => False
  | .returned frame _ => ∃ delivery, frame.rest.head? = some delivery ∧
      (OutboxDispatcher.dueEnvelope w.store delivery).isSome

def ReconcileActs (w : CommsWorld) : ReconcileWait → Prop
  | .draining _ wait => DrainActs w wait
  | .drained .. => False

def CommitActs (w : CommsWorld) (record : ReconnectCoordinatorRecord) : Prop :=
  ∃ binding, committable w.store record = .ok binding

def RecoverActs (w : CommsWorld) (planId : ReconnectRecordId) : Prop :=
  ∃ record, w.store.getReconnect planId = some record ∧ record.state ≠ .completed ∧ CommitActs w record

def RecoveryActs (w : CommsWorld) : RecoveryWait → Prop
  | .recovering .. => False
  | .returned frame _ _ => ∃ planId, ReconnectRecovery.nextPlan? frame.rest = some planId ∧ RecoverActs w planId

/-- Both probes find the runtime quiescent. -/
def CloseActs : CloseWait → Settled Bool → Prop
  | .resourcesClear, _ => False
  | .sessionsQuiescent resourcesClear, response => resourcesClear = true ∧ response = .resolved true

def ActsUnstopped (w : CommsWorld) : TaskLabel (runtimeServices host) ι → Prop
  | .resume _ (.inl (.inl (.executeSend _))) wait response => SendActs wait response
  | .resume _ (.inl (.inl (.send _))) wait response => ServiceActs wait response
  | .resume _ (.inl (.inl .dispatchPending)) wait _ => DrainActs w wait
  | .resume _ (.inl (.inl .reconcile)) wait _ => ReconcileActs w wait
  | .start _ (.inl (.inr (.runtimeCommit record))) => CommitActs w record
  | .start _ (.inl (.inr (.recover planId))) => RecoverActs w planId
  | .resume _ (.inl (.inr .reconcile)) wait _ => RecoveryActs w wait
  | .resume _ (.inr (.complete _)) wait response => CloseActs wait response
  | _ => False

/-! ## Inert sections -/

theorem Inert.refl : Inert w w := ⟨⟨[], (List.append_nil _).symm, fun _ h => absurd h List.not_mem_nil⟩, rfl, rfl⟩

theorem Inert.of_eq (hlog : w'.log = w.log) (hstore : w'.store = w.store) : Inert w w' := by
  refine ⟨⟨[], by rw [hlog, List.append_nil], fun _ h => absurd h List.not_mem_nil⟩, ?_⟩
  rw [hstore]
  exact ⟨rfl, rfl⟩

theorem Inert.of_world_eq (h : w' = w) : Inert w w' := h ▸ .refl

theorem not_inert_of_log {events : List PortEvent} {e : PortEvent} (hlog : w'.log = w.log ++ events) (he : e ∈ events)
    (hacts : ActsOutside e) : ¬ Inert w w' := by
  rintro ⟨⟨events', hlog', hevents⟩, _⟩
  have heq : events = events' := List.append_cancel_left (hlog.symm.trans hlog')
  exact hevents e (heq ▸ he) hacts

theorem sendsAlong_sameSessions : SendsAlong SameSessions where
  refl _ := ⟨rfl, rfl⟩
  trans h h' := ⟨h'.1.trans h.1, h'.2.trans h.2⟩
  sequence _ := ⟨rfl, rfl⟩
  append store input hkind := by
    unfold CommsStore.appendOutbox CommsStore.claimIdempotency
    cases store.idempotency.get? input.idempotencyKey with
    | none =>
        refine ⟨rfl, ?_⟩
        unfold closings
        simp [hkind]
    | some digest => by_cases hdigest : digest = input.envelope.integrityDigest <;> simp [hdigest, SameSessions]
  update store messageId next := by
    unfold CommsStore.updateDelivery
    split <;> exact ⟨rfl, rfl⟩
  deadLetter _ _ := ⟨rfl, rfl⟩

theorem Inert.of_notes {α : Type} {m : CommsM α} (hnotes : NotesIn (fun e => ¬ ActsOutside e) m)
    (hmoves : StoreMoves SameSessions m) : Inert w (m w).2 :=
  ⟨hnotes w, hmoves w⟩

section Sends
variable {input : ExecuteSendInput}

theorem resumeSend_inert_iff {wait : SendWait} {response : Settled PortResult} :
    Inert w (MessagingSaga.resume host.toCommsHost input wait response w).2 ↔ ¬ SendActs wait response := by
  have hmoves : StoreMoves SameSessions (MessagingSaga.resume host.toCommsHost input wait response) :=
    MessagingSaga.resume_moves sendsAlong_sameSessions
  have hanswered : ∀ {k : PortResult → CommsM (SendWait ⊕ Settled SendResult)}, (∀ result, response = .resolved result →
      NotesIn (fun e => ¬ ActsOutside e) (k result)) →
      NotesIn (fun e => ¬ ActsOutside e) (CommsM.answered (MessagingSaga.portCall input wait) response k) := by
    intro k hk
    refine NotesIn.bind (fun _ => ⟨[_], rfl, fun e he => ?_⟩) fun _ => ?_
    · rw [List.mem_singleton.1 he]
      exact id
    · cases response with
      | rejected reason => exact quiet_pure.notesIn
      | resolved result => exact hk result rfl
  cases wait with
  | dispatching frame verifiedAt =>
      refine iff_of_true (.of_notes (hanswered fun result _ => ?_) hmoves) not_false
      exact (MessagingSaga.quiet_dispatched host.toCommsHost input).notesIn
  | observing frame =>
      rcases response with (violation | snapshotRef) | reason
      · refine iff_of_true (.of_notes (hanswered fun result h => ?_) hmoves) fun ⟨_, h⟩ => (by cases h)
        cases h
        exact (MessagingSaga.quiet_failed host.toCommsHost).notesIn
      · exact iff_of_false (not_inert_of_log (List.append_assoc ..) (List.mem_append_right _ (List.mem_singleton.2 rfl))
          trivial) fun h => h ⟨snapshotRef, rfl⟩
      · exact iff_of_true (.of_notes (hanswered fun result h => (by cases h)) hmoves) fun ⟨_, h⟩ => (by cases h)
  | committing frame snapshotRef =>
      rcases response with (violation | receiptRef) | reason
      · refine iff_of_true (.of_notes (hanswered fun result h => ?_) hmoves) fun ⟨_, h⟩ => (by cases h)
        cases h
        exact (MessagingSaga.quiet_failed host.toCommsHost).notesIn
      · exact iff_of_false (not_inert_of_log (List.append_assoc ..) (List.mem_append_right _ (List.mem_singleton.2 rfl))
          trivial) fun h => h ⟨receiptRef, rfl⟩
      · exact iff_of_true (.of_notes (hanswered fun result h => (by cases h)) hmoves) fun ⟨_, h⟩ => (by cases h)

theorem resumeService_inert_iff {input : SendInput} {wait : ServiceWait} {response : Settled PortResult} :
    Inert w (MessagingService.resume host.toCommsHost input response wait w).2 ↔ ¬ ServiceActs wait response := by
  cases wait with
  | saga wait => exact resumeSend_inert_iff
  | transport delivery event verifiedAt =>
      refine iff_of_true (.of_notes (notesIn_answered id fun result => ?_)
        (MessagingService.resume_moves sendsAlong_sameSessions)) id
      exact MessagingService.quiet_transportAnswered.notesIn

end Sends

theorem dispatchRest_inert_iff {frame : DrainFrame} :
    Inert w (OutboxDispatcher.dispatchRest host.toCommsHost frame w).2 ↔
      ¬ ∃ delivery, frame.rest.head? = some delivery ∧ (OutboxDispatcher.dueEnvelope w.store delivery).isSome := by
  have hmoves : StoreMoves SameSessions (OutboxDispatcher.dispatchRest host.toCommsHost frame) :=
    OutboxDispatcher.dispatchRest_moves sendsAlong_sameSessions
  obtain ⟨rest, result⟩ := frame
  cases rest with
  | nil => exact iff_of_true (.of_notes quiet_finish.notesIn hmoves) fun ⟨_, h, _⟩ => (by cases h)
  | cons delivery rest =>
      have hlog := @OutboxDispatcher.dispatchOne_log host.toCommsHost { rest, result } delivery w
      simp only [List.head?_cons, Option.some.injEq, exists_eq_left']
      cases hdue : OutboxDispatcher.dueEnvelope w.store delivery with
      | none =>
          rw [hdue] at hlog
          refine iff_of_true ⟨⟨[], hlog, fun _ h => absurd h List.not_mem_nil⟩, hmoves w⟩ ?_
          exact Bool.false_ne_true
      | some envelope =>
          rw [hdue] at hlog
          exact iff_of_false (not_inert_of_log hlog (List.mem_singleton.2 rfl) trivial) fun h => h rfl

theorem resumeDrain_inert_iff {wait : DrainWait} {response : wait.Resp} :
    Inert w (OutboxDispatcher.resume host.toCommsHost wait response w).2 ↔ ¬ DrainActs w wait := by
  cases wait with
  | transport frame delivery verified =>
      refine iff_of_true (.of_notes (notesIn_answered id fun result => ?_)
        (OutboxDispatcher.resume_moves sendsAlong_sameSessions)) id
      exact (OutboxDispatcher.quiet_dispatchedOne host.toCommsHost).notesIn
  | returned frame outcome => exact dispatchRest_inert_iff

theorem resumeReconcile_inert_iff {wait : ReconcileWait} {response : wait.Resp} :
    Inert w (DeliveryRecovery.resume host.toCommsHost wait response w).2 ↔ ¬ ReconcileActs w wait := by
  cases wait with
  | draining unchanged wait => exact @resumeDrain_inert_iff host w wait response
  | drained unchanged result =>
      exact iff_of_true (.of_notes (DeliveryRecovery.quiet_drained host.toCommsHost).notesIn
        (@DeliveryRecovery.resume_moves _ _ sendsAlong_sameSessions (.drained unchanged result) response)) id

/-! ## Reconnects -/

section Reconnects
variable {record : ReconnectCoordinatorRecord} {planId : ReconnectRecordId}

theorem sameSessions_afterWrite {store : CommsStore} {written : Option ReconnectCoordinatorRecord} :
    SameSessions store (afterWrite store written) := by
  cases written <;> exact ⟨rfl, rfl⟩

theorem inert_of_afterWrite {written : Option ReconnectCoordinatorRecord} (hlog : w'.log = w.log)
    (hstore : w'.store = afterWrite w.store written) : Inert w w' := by
  refine ⟨⟨[], by rw [hlog, List.append_nil], fun _ h => absurd h List.not_mem_nil⟩, ?_⟩
  rw [hstore]
  exact sameSessions_afterWrite

theorem quiet_propose {plan : AdmissionReconnectPlan} {active : Option SchemaEpochBinding} :
    Quiet (propose host plan active) := by
  refine quiet_isFrozen.bind fun frozen => ?_
  cases frozen with
  | true => exact quiet_pure
  | false =>
      refine quiet_now.bind fun now => ?_
      cases validatePlan host plan active now with
      | error violation => exact quiet_pure
      | ok _ => exact quiet_now.bind fun _ => quiet_onStore.bind fun _ => quiet_pure

theorem quiet_authorize : Quiet (ReconnectCoordinator.authorize host record) := by
  unfold ReconnectCoordinator.authorize
  cases authorizable record with
  | error violation => exact quiet_pure
  | ok _ => exact quiet_now.bind fun _ => quiet_onStore.bind fun _ => quiet_pure

theorem quiet_peerAccept {digest : String} : Quiet (peerAccept host record digest) := by
  unfold peerAccept
  cases acceptable record digest with
  | error violation => exact quiet_pure
  | ok _ => exact quiet_now.bind fun _ => quiet_onStore.bind fun _ => quiet_pure

theorem runtimeCommit_inert_iff : Inert w (runtimeCommit host record w).2 ↔ ¬ CommitActs w record := by
  unfold CommitActs
  cases hcheck : committable w.store record with
  | error violation =>
      rw [runtimeCommit_refused hcheck]
      exact iff_of_true .refl fun ⟨_, h⟩ => (by cases h)
  | ok binding =>
      rw [runtimeCommit_switched hcheck]
      exact iff_of_false (not_inert_of_log rfl (List.mem_singleton.2 rfl) trivial) fun h => h ⟨binding, rfl⟩

theorem recover_inert_iff : Inert w (recover host planId w).2 ↔ ¬ RecoverActs w planId := by
  unfold RecoverActs
  cases hget : w.store.getReconnect planId with
  | none =>
      rw [recover_missing hget]
      exact iff_of_true .refl fun ⟨_, h, _⟩ => (by cases h)
  | some record =>
      by_cases hstate : record.state = .completed
      · rw [recover_completed hget hstate]
        refine iff_of_true ⟨⟨[], (List.append_nil _).symm, fun _ h => absurd h List.not_mem_nil⟩, rfl, rfl⟩ ?_
        rintro ⟨found, hfound, hopen, _⟩
        cases hfound
        exact hopen hstate
      · rw [recover_commits hget hstate, runtimeCommit_inert_iff]
        refine not_congr ⟨fun h => ⟨record, rfl, hstate, h⟩, ?_⟩
        rintro ⟨found, hfound, _, hacts⟩
        cases hfound
        exact hacts

theorem resumeCommit_inert {wait : CommitWait} {response : Settled PortResult} :
    Inert w (ReconnectCoordinator.resume host wait response w).2 := by
  refine ⟨notesIn_answered id (fun result => ?_) w, ?_⟩
  · cases result with
    | error violation => exact (quiet_now.bind fun _ => quiet_onStore.bind fun _ => quiet_finish).notesIn
    | ok receiptRef =>
        refine (quiet_onStore.bind fun _ => quiet_now.bind fun _ => quiet_onStore.bind fun answer => ?_).notesIn
        cases answer with
        | conflict => exact quiet_finish
        | committed => exact quiet_emit.bind fun _ => quiet_finish
        | idempotentReplay => exact quiet_emit.bind fun _ => quiet_finish
  · rcases response with (violation | receiptRef) | reason
    · exact ⟨rfl, rfl⟩
    · rw [(@resume_ok host w wait receiptRef).2]
      unfold CommsStore.finalizeReconnect
      split
      · exact ⟨rfl, rfl⟩
      · refine ⟨rfl, ?_⟩
        unfold closings
        simp [persisted, committedEvent, CommsStore.nextSequence]
    · exact ⟨rfl, rfl⟩

theorem resumeRecovery_inert_iff {wait : RecoveryWait} {response : wait.Resp} :
    Inert w (ReconnectRecovery.resume host wait response w).2 ↔ ¬ RecoveryActs w wait := by
  cases wait with
  | recovering frame planId wait => exact iff_of_true (@resumeCommit_inert host w wait response) id
  | returned frame planId result =>
      obtain ⟨v, hstore, hlog, hrun⟩ := @ReconnectRecovery.returned_cases host w frame planId result
      change Inert w (ReconnectRecovery.returned host frame planId result w).2 ↔ _
      rcases hrun with ⟨hnext, result', hrun⟩ | ⟨frame', planId', hnext, hrun⟩
      · rw [hrun]
        refine iff_of_true (.of_eq hlog hstore) ?_
        rintro ⟨planId', hplan, _⟩
        rw [hnext] at hplan
        cases hplan
      · have hsame : ∀ {x : CommsWorld}, Inert w x ↔ Inert v x := by
          intro x
          exact ⟨fun h => ⟨by rw [hlog]; exact h.quiet, by rw [hstore]; exact h.sessions⟩,
            fun h => ⟨by rw [← hlog]; exact h.quiet, by rw [← hstore]; exact h.sessions⟩⟩
        have hacts : RecoverActs v planId' ↔ RecoveryActs w (.returned frame planId result) := by
          unfold RecoveryActs RecoverActs CommitActs
          rw [hstore]
          constructor
          · exact fun h => ⟨planId', hnext, h⟩
          · rintro ⟨planId'', hplan, h⟩
            rw [hnext] at hplan
            cases hplan
            exact h
        rw [hrun, hsame, ← hacts]
        exact recover_inert_iff

end Reconnects

section Closes
variable {plan : QuiescentClosePlan}

theorem CloseCoordinator.propose_frozen (hfrozen : w.frozen = true) :
    propose host.toCommsHost plan w =
      (.error (commsViolation .commsFrozen .close "comms E-Stop active"), w) := by
  obtain ⟨store, records, emitted, frozen, readings, log⟩ := w
  cases hfrozen
  rfl

theorem complete_inert : Inert w (CloseCoordinator.complete host.toCommsHost plan w).2 := by
  have hrun : CloseCoordinator.complete host.toCommsHost plan w = CloseCoordinator.checked
      (CloseCoordinator.completable host.toCommsHost plan (host.clock w.readings))
      { w with readings := w.readings + 1 } := rfl
  rw [hrun]
  cases CloseCoordinator.completable host.toCommsHost plan (host.clock w.readings) with
  | error violation => exact .of_eq rfl rfl
  | ok _ => exact .of_eq rfl rfl

theorem resumeClose_inert_iff {wait : CloseWait} {response : Settled Bool} :
    Inert w (CloseCoordinator.resume host.toCommsHost plan wait response w).2 ↔ ¬ CloseActs wait response := by
  cases wait with
  | resourcesClear => cases response <;> exact iff_of_true .refl id
  | sessionsQuiescent resourcesClear =>
      cases response with
      | rejected reason => exact iff_of_true .refl fun ⟨_, h⟩ => (by cases h)
      | resolved quiescent =>
          cases resourcesClear with
          | false =>
              exact iff_of_true ⟨⟨[], (List.append_nil _).symm, fun _ h => absurd h List.not_mem_nil⟩, rfl, rfl⟩
                fun ⟨h, _⟩ => (by cases h)
          | true =>
              cases quiescent with
              | false =>
                  exact iff_of_true ⟨⟨[], (List.append_nil _).symm, fun _ h => absurd h List.not_mem_nil⟩, rfl, rfl⟩
                    fun ⟨_, h⟩ => (by cases h)
              | true =>
                  refine iff_of_false (fun h => ?_) fun h => h ⟨rfl, rfl⟩
                  have hclosed : closings (CloseCoordinator.closed host.toCommsHost plan w).2.store =
                      closings w.store ++ _ := List.filter_append ..
                  have hsame := h.sessions.2
                  change closings (CloseCoordinator.closed host.toCommsHost plan w).2.store = closings w.store at hsame
                  rw [hclosed] at hsame
                  have hlength := congrArg List.length hsame
                  simp at hlength

end Closes

/-! ## Runs -/

variable [DecidableEq ι] {s t : Tasks (runtimeServices host) ι} {l : TaskLabel (runtimeServices host) ι}

omit [DecidableEq ι] in
theorem start_inert_iff (hfrozen : w.frozen = true) (client : ι)
    (call : (CommsCall ⊕ ReconnectCall) ⊕ CloseCall) :
    Inert w ((runtimeServices host).start call w).2 ↔
      ¬ ActsUnstopped w (.start client call : TaskLabel (runtimeServices host) ι) := by
  rcases call with (call | call) | call
  · cases call with
    | executeSend input => exact iff_of_true (.of_world_eq (congrArg Prod.snd (executeSend_frozen hfrozen))) id
    | send input => exact iff_of_true (.of_world_eq (congrArg Prod.snd (send_frozen hfrozen))) id
    | dispatchPending =>
        exact iff_of_true (.of_world_eq (congrArg Prod.snd (OutboxDispatcher.dispatchPending_frozen hfrozen))) id
    | reconcile => exact iff_of_true (.of_world_eq (congrArg Prod.snd (DeliveryRecovery.reconcile_frozen hfrozen))) id
    | setFrozen frozen => exact iff_of_true (.of_eq rfl rfl) id
  · cases call with
    | propose plan active => exact iff_of_true (inert_of_afterWrite (quiet_propose w) propose_store) id
    | authorize record => exact iff_of_true (inert_of_afterWrite (quiet_authorize w) authorize_store) id
    | peerAccept record digest => exact iff_of_true (inert_of_afterWrite (quiet_peerAccept w) peerAccept_store) id
    | runtimeCommit record => exact runtimeCommit_inert_iff
    | recover planId => exact recover_inert_iff
    | reconcile => exact iff_of_true (.of_world_eq (congrArg Prod.snd (ReconnectRecovery.reconcile_frozen hfrozen))) id
  · cases call with
    | propose plan => exact iff_of_true (.of_world_eq (congrArg Prod.snd (CloseCoordinator.propose_frozen hfrozen))) id
    | complete plan => exact iff_of_true complete_inert id

omit [DecidableEq ι] in
theorem resume_inert_iff (client : ι) (call : (CommsCall ⊕ ReconnectCall) ⊕ CloseCall)
    (wait : (runtimeServices host).Wait call) (response : (runtimeServices host).Resp call wait) :
    Inert w ((runtimeServices host).resume call wait response w).2 ↔
      ¬ ActsUnstopped w (.resume client call wait response : TaskLabel (runtimeServices host) ι) := by
  rcases call with (call | call) | call
  · cases call with
    | executeSend input => exact resumeSend_inert_iff
    | send input => exact resumeService_inert_iff
    | dispatchPending => exact resumeDrain_inert_iff
    | reconcile => exact resumeReconcile_inert_iff
    | setFrozen frozen => exact Empty.elim wait
  · cases call with
    | propose plan active => exact Empty.elim wait
    | authorize record => exact Empty.elim wait
    | peerAccept record digest => exact Empty.elim wait
    | runtimeCommit record => exact iff_of_true resumeCommit_inert id
    | recover planId => exact iff_of_true resumeCommit_inert id
    | reconcile => exact resumeRecovery_inert_iff
  · cases call with
    | propose plan => exact Empty.elim wait
    | complete plan => exact resumeClose_inert_iff

theorem step_stopHolds_iff (hstep : Sections.Step (runtimeServices host) s l t) :
    StopHolds s l t ↔ ¬ (s.world.frozen = true ∧ ActsUnstopped s.world l) := by
  rw [not_and]
  refine forall_congr' fun hfrozen => ?_
  cases hstep with
  | @start client call hidle =>
      rw [after_world]
      exact start_inert_iff hfrozen client call
  | @resume client call wait response hwaits =>
      rw [after_world]
      exact resume_inert_iff client call wait response

/-- The emergency stop is effective in the runs in which, while it is on, no send and no drain that is under way goes
on to the runtime or the transport, no commit or recovery of a plan passes its checks, and no close is completed, and
in no others. -/
theorem emergencyStop_holds_iff (world : CommsWorld) (labels : List (TaskLabel (runtimeServices host) ι)) :
    Run.Every (Sections.Step (runtimeServices host)) StopHolds (.idle _ ι world) labels ↔
      Run.Every (Sections.Step (runtimeServices host))
        (fun s l _ => ¬ (s.world.frozen = true ∧ ActsUnstopped s.world l)) (.idle _ ι world) labels :=
  ⟨.mono fun _ _ _ _ _ hstep => (step_stopHolds_iff hstep).1, .mono fun _ _ _ _ _ hstep => (step_stopHolds_iff hstep).2⟩

def stopMoves : List (Unit × Sections.Move (runtimeServices sampleReconnectHost)) :=
  [((), .start (.inl (.inr (.propose sampleReconnectPlan (some sampleEpochBinding))))),
    ((), .start (.inl (.inr (.authorize (sampleRecord .proposed none))))),
    ((), .start (.inl (.inr (.peerAccept (sampleRecord .authorized none) "digest")))),
    ((), .start (.inl (.inl (.setFrozen true))))]

/-- The plan is committed while the stop is on: its session is switched and the runtime is called. -/
theorem stop_does_not_hold_commit : ∃ labels s l t,
    Run (Sections.Step (runtimeServices sampleReconnectHost)) (.idle _ Unit sessionWorld) labels s ∧
      Sections.Step (runtimeServices sampleReconnectHost) s l t ∧ ¬ StopHolds s l t := by
  have hstopped : (stopMoves.foldlM Tasks.next?
      (.idle (runtimeServices sampleReconnectHost) Unit sessionWorld)).map
        (fun s => ((s.waiting ()).isNone, s.world.frozen,
          (committable s.world.store (sampleRecord .peerAccepted (some "digest"))).toOption)) =
      some (true, true, some sampleSessionBinding) := by
    decide +kernel
  obtain ⟨s, hs, hfacts⟩ := Option.map_eq_some_iff.1 hstopped
  obtain ⟨hidle, hfacts⟩ := Prod.mk.inj hfacts
  obtain ⟨hfrozen, hcheck⟩ := Prod.mk.inj hfacts
  obtain ⟨labels, hrun⟩ := run_of_next? hs
  have hstep : Sections.Step (runtimeServices sampleReconnectHost) s
      (.start () (.inl (.inr (.runtimeCommit (sampleRecord .peerAccepted (some "digest")))))) _ :=
    .start (Option.isNone_iff_eq_none.1 hidle)
  refine ⟨labels, s, _, _, hrun, hstep, fun hholds => (step_stopHolds_iff hstep).1 hholds ⟨hfrozen, ?_⟩⟩
  change CommitActs _ _
  unfold CommitActs
  cases hresult : committable s.world.store (sampleRecord .peerAccepted (some "digest")) with
  | error violation =>
      rw [hresult] at hcheck
      cases hcheck
  | ok binding => exact ⟨binding, rfl⟩

end Cantilune
