import Cantilune.Comms.Reconnect
import Cantilune.Lemmas.CommsSections

/-!
# What the sections of a reconnect do to the store

A proposal, an authorization and an acceptance write one record or nothing. A commit that passes its checks switches
the binding of the session and waits for the runtime; its answer completes the plan or asks for a recovery.
-/

namespace Cantilune

open CommsM

def commitWait? : (call : ReconnectCall) → call.Wait → Option CommitWait
  | .runtimeCommit _, wait | .recover _, wait => some wait
  | .reconcile, .recovering _ _ wait => some wait
  | .reconcile, .returned .. => none
  | .propose .., wait | .authorize _, wait | .peerAccept .., wait => wait.elim

def commitAnswer? : (call : ReconnectCall) → (wait : call.Wait) → call.Resp wait → Option (CommitWait × Settled PortResult)
  | .runtimeCommit _, wait, response | .recover _, wait, response => some (wait, response)
  | .reconcile, .recovering _ _ wait, response => some (wait, response)
  | .reconcile, .returned .., _ => none
  | .propose .., wait, _ | .authorize _, wait, _ | .peerAccept .., wait, _ => wait.elim

theorem commitAnswer?_map {call : ReconnectCall} {wait : call.Wait} {response : call.Resp wait} :
    (commitAnswer? call wait response).map Prod.fst = commitWait? call wait := by
  cases call with
  | runtimeCommit record => rfl
  | recover planId => rfl
  | reconcile => cases wait <;> rfl
  | propose plan active => exact Empty.elim wait
  | authorize record => exact Empty.elim wait
  | peerAccept record digest => exact Empty.elim wait

variable {host : ReconnectHost} {w : CommsWorld} {record : ReconnectCoordinatorRecord}

namespace ReconnectCoordinator

/-! ## The calls that write a record -/

def written? (host : ReconnectHost) (w : CommsWorld) : ReconnectCall → Option ReconnectCoordinatorRecord
  | .propose plan active =>
      if w.frozen then none
      else
        match validatePlan host plan active (host.clock w.readings) with
        | .error _ => none
        | .ok () => some
            { plan, state := .proposed, peerAckDigest := none, runtimeReceiptRef := none
              updatedAt := host.clock (w.readings + 1) }
  | .authorize record =>
      match authorizable record with
      | .error _ => none
      | .ok () => some { record with state := .authorized, updatedAt := host.clock w.readings }
  | .peerAccept record peerAckDigest =>
      match acceptable record peerAckDigest with
      | .error _ => none
      | .ok () => some
          { record with
            state := .peerAccepted, peerAckDigest := some peerAckDigest, updatedAt := host.clock w.readings }
  | .runtimeCommit _ | .recover _ | .reconcile => none

theorem written?_state {call : ReconnectCall} (h : written? host w call = some record) : record.state ≠ .completed := by
  unfold written? at h
  cases call with
  | propose plan active =>
      simp only at h
      split at h
      · cases h
      · split at h
        · cases h
        · cases h
          exact ReconnectCoordinatorState.noConfusion
  | authorize record =>
      simp only at h
      split at h
      · cases h
      · cases h
        exact ReconnectCoordinatorState.noConfusion
  | peerAccept record digest =>
      simp only at h
      split at h
      · cases h
      · cases h
        exact ReconnectCoordinatorState.noConfusion
  | runtimeCommit record => cases h
  | recover planId => cases h
  | reconcile => cases h

def afterWrite (store : CommsStore) : Option ReconnectCoordinatorRecord → CommsStore
  | none => store
  | some record => store.putReconnect record

theorem propose_store {plan : AdmissionReconnectPlan} {active : Option SchemaEpochBinding} :
    (propose host plan active w).2.store = afterWrite w.store (written? host w (.propose plan active)) := by
  obtain ⟨store, records, emitted, frozen, readings, log⟩ := w
  unfold written?
  cases frozen with
  | true => rfl
  | false =>
      simp only [Bool.false_eq_true, if_false]
      cases hplan : validatePlan host plan active (host.clock readings) with
      | error violation =>
          change (proposed host plan (validatePlan host plan active (host.clock readings)) _).2.store = _
          rw [hplan]
          rfl
      | ok _ =>
          change (proposed host plan (validatePlan host plan active (host.clock readings)) _).2.store = _
          rw [hplan]
          rfl

theorem authorize_store :
    (authorize host record w).2.store = afterWrite w.store (written? host w (.authorize record)) := by
  unfold authorize written?
  simp only
  cases authorizable record with
  | error violation => rfl
  | ok _ => rfl

theorem peerAccept_store {digest : String} :
    (peerAccept host record digest w).2.store = afterWrite w.store (written? host w (.peerAccept record digest)) := by
  unfold peerAccept written?
  simp only
  cases acceptable record digest with
  | error violation => rfl
  | ok _ => rfl

theorem committable_eq_ok {store : CommsStore} {binding : SessionTransportBinding}
    (h : committable store record = .ok binding) :
    store.getSessionBinding record.plan.sessionId = some binding ∧
      binding.channelGeneration = record.plan.expectedChannelGeneration := by
  unfold committable at h
  split at h
  · cases h
  · split at h
    · cases h
    · rename_i found hfound
      split at h
      · cases h
      · rename_i hgeneration
        cases h
        exact ⟨hfound, not_not.1 hgeneration⟩

theorem runtimeCommit_refused {violation : CommsViolation} (h : committable w.store record = .error violation) :
    runtimeCommit host record w = (.inr (.resolved (.error violation)), w) := by
  unfold runtimeCommit
  simp only [bind, StateT.bind, store, h]
  rfl

def switchedWorld (host : ReconnectHost) (record : ReconnectCoordinatorRecord) (binding : SessionTransportBinding)
    (w : CommsWorld) : CommsWorld :=
  { w with
    store := { w.store with
      sessions := w.store.sessions.set record.plan.sessionId (switched record binding (host.clock w.readings)) }
    readings := w.readings + 1
    log := w.log ++ [.called (.commitReconnect record.plan.planDigest record.plan.admissionReceipt.admissionId)] }

theorem runtimeCommit_switched {binding : SessionTransportBinding} (h : committable w.store record = .ok binding) :
    runtimeCommit host record w = (.inl { record, binding }, switchedWorld host record binding w) := by
  have hcas : w.store.casSessionBinding record.plan.sessionId binding.channelGeneration
      (switched record binding (host.clock w.readings)) = (true, { w.store with
        sessions := w.store.sessions.set record.plan.sessionId (switched record binding (host.clock w.readings)) }) := by
    have hfound : w.store.sessions.get? record.plan.sessionId = some binding := (committable_eq_ok h).1
    unfold CommsStore.casSessionBinding
    rw [hfound]
    simp only [ne_eq, not_true, if_false]
  unfold runtimeCommit
  simp only [bind, StateT.bind, store, h, now, onStore, hcas]
  rfl

def commitReceipt (host : ReconnectHost) (wait : CommitWait) (receiptRef : String) (w : CommsWorld) :
    AdmissionReconnectReceipt :=
  { planId := wait.record.plan.planId, planDigest := wait.record.plan.planDigest, runtimeReceiptRef := some receiptRef
    storeSequence := w.store.sequence + 1, newChannelGeneration := wait.binding.channelGeneration + 1
    committedAt := host.clock w.readings }

def persisted (host : ReconnectHost) (wait : CommitWait) (receiptRef : String) (w : CommsWorld) :
    ReconnectPersistInput :=
  { record :=
      { wait.record with
        state := .completed, runtimeReceiptRef := some receiptRef, updatedAt := host.clock w.readings }
    receipt := commitReceipt host wait receiptRef w
    event := committedEvent wait.record.plan (commitReceipt host wait receiptRef w)
    occurrence := committedOccurrence wait.record.plan wait.binding receiptRef (host.clock w.readings) }

theorem resume_ok {wait : CommitWait} {receiptRef : String} :
    (resume host wait (.resolved (.ok receiptRef)) w).1 =
        .inr (.resolved (.ok (commitReceipt host wait receiptRef w))) ∧
      (resume host wait (.resolved (.ok receiptRef)) w).2.store =
        (w.store.nextSequence.2.finalizeReconnect (persisted host wait receiptRef w)).2 := by
  have hrun : resume host wait (.resolved (.ok receiptRef)) w =
      finalized (commitReceipt host wait receiptRef w)
        (committedEvent wait.record.plan (commitReceipt host wait receiptRef w))
        (w.store.nextSequence.2.finalizeReconnect (persisted host wait receiptRef w)).1
        { w with
          store := (w.store.nextSequence.2.finalizeReconnect (persisted host wait receiptRef w)).2
          readings := w.readings + 1
          log := w.log ++ [.answered (.commitReconnect wait.record.plan.planDigest
            wait.record.plan.admissionReceipt.admissionId) (.resolved (.ok receiptRef))] } := rfl
  rw [hrun]
  unfold CommsStore.finalizeReconnect
  split <;> exact ⟨rfl, rfl⟩

section Recover
variable {planId : ReconnectRecordId}

theorem recover_missing (h : w.store.getReconnect planId = none) :
    recover host planId w =
      (.inr (.resolved (.error (commsViolation .invalidInput .recover "reconnect record missing"))), w) := by
  unfold recover
  simp only [bind, StateT.bind, store, h]
  rfl

theorem recover_completed (h : w.store.getReconnect planId = some record) (hstate : record.state = .completed) :
    recover host planId w =
      (.inr (.resolved (.ok (completedReceipt record (w.store.sequence + 1)))),
        { w with store := w.store.nextSequence.2 }) := by
  unfold recover
  simp only [bind, StateT.bind, store, h, hstate, if_true]
  rfl

theorem recover_commits (h : w.store.getReconnect planId = some record) (hstate : record.state ≠ .completed) :
    recover host planId w = runtimeCommit host record w := by
  unfold recover
  simp only [bind, StateT.bind, store, h, hstate, if_false]

end Recover

end ReconnectCoordinator

/-! ## The recovery of all plans -/

namespace ReconnectRecovery

theorem recovering_eq {frame : RecoveryFrame} {planId : ReconnectRecordId}
    {recover : CommsM (CommitWait ⊕ Settled CommitResult)} :
    recovering frame planId recover w = (afterRecover frame planId (recover w).1, (recover w).2) := rfl

def nextPlan? : List (ReconnectRecordId × ReconnectCoordinatorRecord) → Option ReconnectRecordId
  | [] => none
  | (planId, record) :: rest =>
      match record.state with
      | .peerAccepted | .recoveryRequired | .runtimeCommitted => some planId
      | _ => nextPlan? rest

theorem reconcileRest_cases (report : ReconnectRecoveryReport)
    (rest : List (ReconnectRecordId × ReconnectCoordinatorRecord)) :
    (nextPlan? rest = none ∧ ∃ report', reconcileRest host report rest w = (.inr (.resolved (.ok report')), w)) ∨
      ∃ frame planId, nextPlan? rest = some planId ∧ reconcileRest host report rest w =
        (afterRecover frame planId (ReconnectCoordinator.recover host planId w).1,
          (ReconnectCoordinator.recover host planId w).2) := by
  induction rest generalizing report with
  | nil => exact .inl ⟨rfl, report, rfl⟩
  | cons entry rest ih =>
      obtain ⟨planId, record⟩ := entry
      unfold reconcileRest nextPlan?
      cases record.state with
      | completed => exact ih report
      | failed => exact ih report
      | peerAccepted => exact .inr ⟨_, planId, rfl, recovering_eq⟩
      | recoveryRequired => exact .inr ⟨_, planId, rfl, recovering_eq⟩
      | runtimeCommitted => exact .inr ⟨_, planId, rfl, recovering_eq⟩
      | proposed => exact ih _
      | validated => exact ih _
      | authorized => exact ih _
      | prepared => exact ih _
      | bindingSwitched => exact ih _
      | oldChannelDraining => exact ih _

theorem reconcile_frozen (hfrozen : w.frozen = true) : reconcile host w =
    (.inr (.resolved (.error (commsViolation .commsFrozen .recover "comms E-Stop active"))), w) := by
  obtain ⟨store, records, emitted, frozen, readings, log⟩ := w
  cases hfrozen
  rfl

theorem reconcile_cases :
    (∃ result, reconcile host w = (.inr (.resolved result), w)) ∨
      ∃ frame planId, reconcile host w =
        (afterRecover frame planId (ReconnectCoordinator.recover host planId w).1,
          (ReconnectCoordinator.recover host planId w).2) := by
  have hrun : reconcile host w = if w.frozen then
      (.inr (.resolved (.error (commsViolation .commsFrozen .recover "comms E-Stop active"))), w)
    else reconcileRest host { recovered := [], stillPending := [], failed := [] } w.store.reconnects.entries w := by
    obtain ⟨store, records, emitted, frozen, readings, log⟩ := w
    cases frozen <;> rfl
  rw [hrun]
  split
  · exact .inl ⟨_, rfl⟩
  · rcases @reconcileRest_cases host w { recovered := [], stillPending := [], failed := [] }
      w.store.reconnects.entries with ⟨_, report, hrest⟩ | ⟨frame, planId, _, hrest⟩
    · exact .inl ⟨_, hrest⟩
    · exact .inr ⟨frame, planId, hrest⟩

theorem returned_cases {frame : RecoveryFrame} {planId : ReconnectRecordId} {result : CommitResult} :
    ∃ v : CommsWorld, v.store = w.store ∧ v.log = w.log ∧
      ((nextPlan? frame.rest = none ∧ ∃ result', returned host frame planId result w = (.inr (.resolved result'), v)) ∨
        ∃ frame' planId', nextPlan? frame.rest = some planId' ∧ returned host frame planId result w =
          (afterRecover frame' planId' (ReconnectCoordinator.recover host planId' v).1,
            (ReconnectCoordinator.recover host planId' v).2)) := by
  cases result with
  | error violation =>
      refine ⟨w, rfl, rfl, ?_⟩
      rcases @reconcileRest_cases host w { frame.report with failed := frame.report.failed ++ [planId] } frame.rest with
        ⟨hnext, report, hrest⟩ | hrest
      · exact .inl ⟨hnext, _, hrest⟩
      · exact .inr hrest
  | ok receipt =>
      refine ⟨(emitRecovered host receipt w).2, rfl, rfl, ?_⟩
      rcases @reconcileRest_cases host (emitRecovered host receipt w).2
        { frame.report with recovered := frame.report.recovered ++ [planId] } frame.rest with
        ⟨hnext, report, hrest⟩ | hrest
      · exact .inl ⟨hnext, _, hrest⟩
      · exact .inr hrest

end ReconnectRecovery

/-! ## What a section does -/

inductive SectionEffect (store : CommsStore) : Option ReconnectCoordinatorRecord →
    Option (CommitWait × Settled PortResult) → Option CommitWait → CommsStore → Prop where
  | kept {store' : CommsStore} (sessions : store'.sessions = store.sessions)
      (reconnects : store'.reconnects = store.reconnects) : SectionEffect store none none none store'
  | wrote {store' : CommsStore} (record : ReconnectCoordinatorRecord) (state : record.state ≠ .completed)
      (sessions : store'.sessions = store.sessions)
      (reconnects : store'.reconnects = store.reconnects.set record.plan.planId record) :
      SectionEffect store (some record) none none store'
  | switched {store' : CommsStore} (record : ReconnectCoordinatorRecord) (binding next : SessionTransportBinding)
      (checked : ReconnectCoordinator.committable store record = .ok binding)
      (generation : next.channelGeneration = binding.channelGeneration + 1)
      (sessions : store'.sessions = store.sessions.set record.plan.sessionId next)
      (reconnects : store'.reconnects = store.reconnects) :
      SectionEffect store none none (some { record, binding }) store'
  | rejected {store' : CommsStore} (commit : CommitWait) (reason : String) (sessions : store'.sessions = store.sessions)
      (reconnects : store'.reconnects = store.reconnects) :
      SectionEffect store none (some (commit, .rejected reason)) none store'
  | refused {store' : CommsStore} (commit : CommitWait) (violation : CommsViolation)
      (record : ReconnectCoordinatorRecord) (plan : record.plan = commit.record.plan)
      (state : record.state = .recoveryRequired) (sessions : store'.sessions = store.sessions)
      (reconnects : store'.reconnects = store.reconnects.set commit.record.plan.planId record) :
      SectionEffect store none (some (commit, .resolved (.error violation))) none store'
  | completed {store' : CommsStore} (commit : CommitWait) (receiptRef : String) (sessions : store'.sessions = store.sessions)
      (record : ReconnectCoordinatorRecord) (plan : record.plan = commit.record.plan) (state : record.state = .completed)
      (reconnects : if (store.getReconnect commit.record.plan.planId).map (·.state) = some .completed
        then store'.reconnects = store.reconnects
        else store'.reconnects = store.reconnects.set commit.record.plan.planId record) :
      SectionEffect store none (some (commit, .resolved (.ok receiptRef))) none store'

def nextCommit {call : ReconnectCall} (result : (call.Wait ⊕ call.Out) × CommsWorld) : Option CommitWait :=
  result.1.elim (commitWait? call) fun _ => none

open ReconnectCoordinator

theorem SectionEffect.of_afterWrite {store store' : CommsStore} {written : Option ReconnectCoordinatorRecord}
    (h : store' = afterWrite store written) (hstate : ∀ record, written = some record → record.state ≠ .completed) :
    SectionEffect store written none none store' := by
  subst h
  cases written with
  | none => exact .kept rfl rfl
  | some record => exact .wrote record (hstate record rfl) rfl rfl

def commitOf (result : (CommitWait ⊕ Settled CommitResult) × CommsWorld) : Option CommitWait :=
  result.1.elim some fun _ => none

theorem runtimeCommit_effect :
    SectionEffect w.store none none (commitOf (runtimeCommit host record w)) (runtimeCommit host record w).2.store := by
  cases hcheck : committable w.store record with
  | error violation =>
      rw [runtimeCommit_refused hcheck]
      exact .kept rfl rfl
  | ok binding =>
      rw [runtimeCommit_switched hcheck]
      exact .switched record binding _ hcheck rfl rfl rfl

theorem recover_effect {planId : ReconnectRecordId} :
    SectionEffect w.store none none (commitOf (recover host planId w)) (recover host planId w).2.store := by
  cases hget : w.store.getReconnect planId with
  | none =>
      rw [recover_missing hget]
      exact .kept rfl rfl
  | some record =>
      by_cases hstate : record.state = .completed
      · rw [recover_completed hget hstate]
        exact .kept rfl rfl
      · rw [recover_commits hget hstate]
        exact runtimeCommit_effect

def recoveryCommit (result : (RecoveryWait ⊕ Settled RecoveryResult) × CommsWorld) : Option CommitWait :=
  result.1.elim (commitWait? .reconcile) fun _ => none

theorem recoveryCommit_afterRecover {frame : RecoveryFrame} {planId : ReconnectRecordId}
    {result : (CommitWait ⊕ Settled CommitResult) × CommsWorld} :
    recoveryCommit (ReconnectRecovery.afterRecover frame planId result.1, result.2) = commitOf result := by
  obtain ⟨wait | outcome, w'⟩ := result
  · rfl
  · cases outcome <;> rfl

theorem start_effect (call : ReconnectCall) :
    SectionEffect w.store (written? host w call) none (nextCommit ((reconnectServices host).start call w))
      ((reconnectServices host).start call w).2.store := by
  cases call with
  | propose plan active => exact .of_afterWrite propose_store fun _ => written?_state
  | authorize record => exact .of_afterWrite authorize_store fun _ => written?_state
  | peerAccept record digest => exact .of_afterWrite peerAccept_store fun _ => written?_state
  | runtimeCommit record => exact runtimeCommit_effect
  | recover planId => exact recover_effect
  | reconcile =>
      change SectionEffect w.store none none (recoveryCommit (ReconnectRecovery.reconcile host w))
        (ReconnectRecovery.reconcile host w).2.store
      rcases @ReconnectRecovery.reconcile_cases host w with ⟨result, hrun⟩ | ⟨frame, planId, hrun⟩
      · rw [hrun]
        exact .kept rfl rfl
      · rw [hrun, recoveryCommit_afterRecover]
        exact recover_effect

theorem resume_effect {wait : CommitWait} {response : Settled PortResult} :
    SectionEffect w.store none (some (wait, response)) (commitOf (ReconnectCoordinator.resume host wait response w))
      (ReconnectCoordinator.resume host wait response w).2.store := by
  cases response with
  | rejected reason => exact .rejected wait reason rfl rfl
  | resolved result =>
      cases result with
      | error violation =>
          exact .refused wait violation
            { wait.record with state := .recoveryRequired, updatedAt := host.clock w.readings } rfl rfl rfl rfl
      | ok receiptRef =>
          obtain ⟨hend, hstore⟩ := @resume_ok host w wait receiptRef
          have hnext : commitOf (ReconnectCoordinator.resume host wait (.resolved (.ok receiptRef)) w) = none := by
            unfold commitOf
            rw [hend]
            rfl
          rw [hnext, hstore]
          by_cases hcompleted : (w.store.getReconnect wait.record.plan.planId).map (·.state) = some .completed
          · have hfinalized := @CommsStore.finalizeReconnect_of_completed w.store.nextSequence.2
              (persisted host wait receiptRef w) hcompleted
            rw [hfinalized]
            refine .completed wait receiptRef rfl (persisted host wait receiptRef w).record rfl rfl ?_
            rw [if_pos hcompleted]
            rfl
          · have hfinalized := @CommsStore.finalizeReconnect_of_open w.store.nextSequence.2
              (persisted host wait receiptRef w) hcompleted
            rw [hfinalized]
            refine .completed wait receiptRef rfl (persisted host wait receiptRef w).record rfl rfl ?_
            rw [if_neg hcompleted]
            rfl

theorem resumeReconnect_effect (call : ReconnectCall) (wait : call.Wait) (response : call.Resp wait) :
    SectionEffect w.store none (commitAnswer? call wait response)
      (nextCommit ((reconnectServices host).resume call wait response w))
      ((reconnectServices host).resume call wait response w).2.store := by
  cases call with
  | propose plan active => exact Empty.elim wait
  | authorize record => exact Empty.elim wait
  | peerAccept record digest => exact Empty.elim wait
  | runtimeCommit record => exact resume_effect
  | recover planId => exact resume_effect
  | reconcile =>
      cases wait with
      | recovering frame planId wait =>
          change SectionEffect w.store none (some (wait, response))
            (recoveryCommit (ReconnectRecovery.afterRecover frame planId
              (ReconnectCoordinator.resume host wait response w).1, (ReconnectCoordinator.resume host wait response w).2))
            (ReconnectCoordinator.resume host wait response w).2.store
          rw [recoveryCommit_afterRecover]
          exact resume_effect
      | returned frame planId result =>
          obtain ⟨v, hstore, _, hrun⟩ := @ReconnectRecovery.returned_cases host w frame planId result
          change SectionEffect w.store none none
            (recoveryCommit (ReconnectRecovery.returned host frame planId result w))
            (ReconnectRecovery.returned host frame planId result w).2.store
          rw [← hstore]
          rcases hrun with ⟨_, result', hrun⟩ | ⟨frame', planId', _, hrun⟩
          · rw [hrun]
            exact .kept rfl rfl
          · rw [hrun, recoveryCommit_afterRecover]
            exact recover_effect

/-! ## Steps -/

section Steps

open Sections

variable {ι : Type}

def inFlight (s : Tasks (reconnectServices host) ι) (client : ι) : Option CommitWait :=
  (s.waiting client).bind fun pending => commitWait? pending.1 pending.2

def labelClient : TaskLabel (reconnectServices host) ι → ι
  | .start client _ => client
  | .resume client .. => client

def labelAnswer : TaskLabel (reconnectServices host) ι → Option (CommitWait × Settled PortResult)
  | .start .. => none
  | .resume _ call wait response => commitAnswer? call wait response

def labelWritten (s : Tasks (reconnectServices host) ι) :
    TaskLabel (reconnectServices host) ι → Option ReconnectCoordinatorRecord
  | .start _ call => written? host s.world call
  | .resume .. => none

variable [DecidableEq ι] {s t : Tasks (reconnectServices host) ι} {l : TaskLabel (reconnectServices host) ι}

theorem inFlight_after {client : ι} {call : ReconnectCall}
    {result : ((reconnectServices host).Wait call ⊕ (reconnectServices host).Out call) × CommsWorld} :
    inFlight (s.after client call result) = Function.update (inFlight s) client (nextCommit result) := by
  funext client'
  unfold inFlight
  rw [after_waiting]
  by_cases hclient : client' = client
  · subst hclient
    rw [Function.update_self, Function.update_self]
    obtain ⟨wait | out, w'⟩ := result <;> rfl
  · rw [Function.update_of_ne hclient, Function.update_of_ne hclient]

theorem step_effect (hstep : Sections.Step (reconnectServices host) s l t) :
    ∃ next, SectionEffect s.world.store (labelWritten s l) (labelAnswer l) next t.world.store ∧
      inFlight t = Function.update (inFlight s) (labelClient l) next ∧
      inFlight s (labelClient l) = (labelAnswer l).map Prod.fst := by
  cases hstep with
  | @start client call hidle =>
      refine ⟨_, ?_, inFlight_after, ?_⟩
      · rw [after_world]
        exact start_effect call
      · unfold inFlight labelClient
        rw [hidle]
        rfl
  | @resume client call wait response hwaits =>
      refine ⟨_, ?_, inFlight_after, ?_⟩
      · rw [after_world]
        exact resumeReconnect_effect call wait response
      · unfold inFlight labelClient labelAnswer
        rw [hwaits]
        exact commitAnswer?_map.symm

theorem exists_answer {client : ι} {commit : CommitWait} (h : inFlight s client = some commit)
    (answer : Settled PortResult) :
    ∃ l t, Sections.Step (reconnectServices host) s l t ∧ labelAnswer l = some (commit, answer) := by
  obtain ⟨⟨call, wait⟩, hwaits, hcommit⟩ := Option.bind_eq_some_iff.1 h
  have hresponse : ∃ response : call.Resp wait, commitAnswer? call wait response = some (commit, answer) := by
    cases call with
    | propose plan active => exact Empty.elim wait
    | authorize record => exact Empty.elim wait
    | peerAccept record digest => exact Empty.elim wait
    | runtimeCommit record =>
        cases hcommit
        exact ⟨answer, rfl⟩
    | recover planId =>
        cases hcommit
        exact ⟨answer, rfl⟩
    | reconcile =>
        cases wait with
        | recovering frame planId wait =>
            cases hcommit
            exact ⟨answer, rfl⟩
        | returned frame planId result => cases hcommit
  obtain ⟨response, hanswer⟩ := hresponse
  exact ⟨.resume client call wait response, _, .resume hwaits, hanswer⟩

end Steps

/-! ## A plan to carry out -/

section Sample

def sampleReconnectHost : ReconnectHost :=
  { sampleCommsHost with stringify := fun _ => "digest" }

def sampleEpochBinding : SchemaEpochBinding :=
  { activationDomainId := "default", bindingGeneration := 2, epochId := "e", epochOrdinal := 1
    schemaRef := { schemaId := "s", revisionId := "1", digest := "d" }
    policyRef := { policyId := "p", revisionId := "1", digest := "d" }
    handlerManifestRef := { manifestId := "h", digest := "d" }, runtimeHead := "head", admissionId := "a"
    previousBindingGeneration := none, activatedBy := "operator", activatedAt := "t" }

def sampleReconnectPlan : AdmissionReconnectPlan :=
  { planId := "plan"
    admissionReceipt :=
      { admissionId := "a", activationDomainId := "default", fromBinding := sampleEpochBinding
        toBinding := sampleEpochBinding, beforeSnapshotRef := "before", afterSnapshotRef := "after"
        extensionPlanRef := "x", fourViewEvidenceRef := none, nativeOccurrenceEvidenceRef := none
        replayEvidenceRef := none, qualificationEvidenceRef := none, authorizationEvidenceRef := none
        runtimeReadinessEvidenceRef := none, admissionTombstoneId := "tomb", committedBy := "operator"
        committedAt := "t", storeSequence := 1, correlationId := "c", occurrenceId := "o", idempotencyKey := "k"
        planDigest := "pd" }
    admissionReceiptDigest := "rd", fromBinding := sampleEpochBinding, toBinding := sampleEpochBinding
    metadata := sampleEnvelope.metadata, sessionId := "s"
    operationTemplateRef := { operationTypeId := "op", revision := "1" }, oldEndpointRef := "old"
    newEndpointRef := "new", expectedChannelGeneration := 1, expectedRuntimeHead := "head"
    authorizationRef := "auth", planDigest := "digest", expiresAt := "t" }

def sampleSessionBinding : SessionTransportBinding :=
  { sessionId := "s", authoritativeSnapshotRef := "snap", localRuntimeInstanceId := "here"
    remoteRuntimeInstanceId := "there", channelId := "ch", channelGeneration := 1, localEndpoint := "old"
    remoteEndpoint := "peer"
    negotiated :=
      { wireVersion := 1, transport := "loopback", codecRef := "comms/wire-v1", protocolVersion := "comms/1"
        a2aProfile := "1.0", features := [] }
    schemaEpochId := "e", status := .active, outboundSequence := 0, inboundSequence := 0, leaseExpiresAt := none
    previousChannelId := none, establishedAt := "t", updatedAt := "t", endpointRef := none }

def sessionWorld : CommsWorld :=
  { CommsWorld.empty with
    store := { CommsStore.empty with sessions := OrdMap.empty.set "s" sampleSessionBinding } }

def sampleRecord (state : ReconnectCoordinatorState) (peerAckDigest : Option String) : ReconnectCoordinatorRecord :=
  { plan := sampleReconnectPlan, state, peerAckDigest, runtimeReceiptRef := none, updatedAt := "t" }

def commitMoves : List (Unit × Sections.Move (reconnectServices sampleReconnectHost)) :=
  [((), .start (.propose sampleReconnectPlan (some sampleEpochBinding))),
    ((), .start (.authorize (sampleRecord .proposed none))),
    ((), .start (.peerAccept (sampleRecord .authorized none) "digest")),
    ((), .start (.runtimeCommit (sampleRecord .peerAccepted (some "digest"))))]

def reconnectAnswers (response : Settled PortResult) : Sections.Move (reconnectServices sampleReconnectHost) :=
  .resume fun call wait =>
    match call with
    | .runtimeCommit _ => response
    | .recover _ => response
    | .reconcile =>
        match (show RecoveryWait from wait) with
        | .recovering .. => response
        | .returned .. => ()
    | .propose .. => Empty.elim wait
    | .authorize _ => Empty.elim wait
    | .peerAccept .. => Empty.elim wait

end Sample

end Cantilune
