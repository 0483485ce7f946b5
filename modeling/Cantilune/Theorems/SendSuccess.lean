import Cantilune.Lemmas.CommsSections

/-!
# A send that reports success

The saga reports success for a message that the transport has just accepted, and for every send whose idempotency
key is claimed for the same digest, whatever became of the attempt that claimed it. So success means sent exactly
if no key is used again before the envelope has been handed to the transport.
-/

namespace Cantilune

open CommsM Sections

def CommsCall.reportsSent : (call : CommsCall) → call.Out → Option CommunicationEnvelope
  | .executeSend input, .resolved (.ok _) => some input.envelope
  | .send input, .resolved (.ok _) => some input.envelope
  | _, _ => none

variable {ι : Type} [DecidableEq ι] {host : CommsHost} {w : CommsWorld}

def SuccessMeansSent (s : Tasks (commsServices host) ι) : Prop :=
  ∀ ended ∈ s.ended, ∀ envelope, CommsCall.reportsSent ended.1 ended.2 = some envelope →
    Dispatched envelope s.world.log

def ReportsTruly (call : CommsCall) (result : (call.Wait ⊕ call.Out) × CommsWorld) : Prop :=
  ∀ out, result.1 = .inr out → ∀ envelope, call.reportsSent out = some envelope → Dispatched envelope result.2.log

theorem after_successMeansSent_iff {s : Tasks (commsServices host) ι} {client : ι} {call : CommsCall}
    {result : ((commsServices host).Wait call ⊕ (commsServices host).Out call) × CommsWorld}
    (hgrows : ∃ events, result.2.log = s.world.log ++ events ∧ ∀ e ∈ events, True) (hs : SuccessMeansSent s) :
    SuccessMeansSent (s.after client call result) ↔ ReportsTruly call result := by
  obtain ⟨events, hlog, -⟩ := hgrows
  have hkeep : ∀ ended ∈ s.ended, ∀ envelope, CommsCall.reportsSent ended.1 ended.2 = some envelope →
      Dispatched envelope result.2.log := by
    intro ended hmem envelope hreports
    exact hlog ▸ (hs ended hmem envelope hreports).append events
  obtain ⟨wait | out, world⟩ := result
  · exact iff_of_true hkeep fun _ h => nomatch h
  · constructor
    · intro h out' hout envelope hreports
      cases hout
      exact h ⟨call, out⟩ (List.mem_append_right _ (List.mem_singleton.2 rfl)) envelope hreports
    · intro h ended hmem envelope hreports
      rcases List.mem_append.1 hmem with hmem | hmem
      · exact hkeep ended hmem envelope hreports
      · cases List.mem_singleton.1 hmem
        exact h out rfl envelope hreports

/-! ## Sends that start -/

def RetriedWhenSent (w : CommsWorld) (input : ExecuteSendInput) : Prop :=
  w.store.idempotency.get? input.idempotencyKey = some input.envelope.integrityDigest →
    Dispatched input.envelope w.log

theorem replayed_ok {input : ExecuteSendInput} : ∃ record, (MessagingSaga.replayed host input w).1 = .ok record := by
  unfold MessagingSaga.replayed
  simp only [getRecord, bind, StateT.bind]
  cases w.records.get? input.envelope.messageId <;> exact ⟨_, rfl⟩

theorem persisted_ok_iff {input : ExecuteSendInput} {delivery : DeliveryRecord} {event : CommsEventEnvelope}
    {answer : PersistResult} :
    (∃ record, (MessagingSaga.persisted host input delivery event answer w).1 = .inr (.resolved (.ok record))) ↔
      answer = .idempotentReplay := by
  cases answer with
  | conflict => exact iff_of_false (fun ⟨_, h⟩ => nomatch h) nofun
  | committed => exact iff_of_false (fun ⟨_, h⟩ => nomatch h) nofun
  | idempotentReplay =>
      refine iff_of_true ?_ rfl
      obtain ⟨record, hrecord⟩ : ∃ record, (MessagingSaga.replayed host input w).1 = .ok record := replayed_ok
      exact ⟨record, congrArg (fun result => (.inr (.resolved result) : SendWait ⊕ Settled SendResult)) hrecord⟩

theorem executeSend_ok_iff {input : ExecuteSendInput} (hfrozen : w.frozen = false) :
    (∃ record, (MessagingSaga.executeSend host input w).1 = .inr (.resolved (.ok record))) ↔
      w.store.idempotency.get? input.idempotencyKey = some input.envelope.integrityDigest := by
  rw [executeSend_unfrozen hfrozen, persisted_ok_iff, CommsStore.appendOutbox_replay_iff]
  exact Iff.rfl

theorem afterSaga_ok_iff {input : SendInput} {next : SendWait ⊕ Settled SendResult} :
    (∃ receipt, MessagingService.afterSaga input next = .inr (.resolved (.ok receipt))) ↔
      ∃ record, next = .inr (.resolved (.ok record)) := by
  rcases next with wait | (violation | record) | reason
  · exact iff_of_false (fun ⟨_, h⟩ => nomatch h) fun ⟨_, h⟩ => nomatch h
  · exact iff_of_false (fun ⟨_, h⟩ => nomatch h) fun ⟨_, h⟩ => nomatch h
  · exact iff_of_true ⟨_, rfl⟩ ⟨record, rfl⟩
  · exact iff_of_false (fun ⟨_, h⟩ => nomatch h) fun ⟨_, h⟩ => nomatch h

theorem admitted_ok_iff {input : SendInput} {policy : Except CommsViolation Unit} (hfrozen : w.frozen = false) :
    (∃ receipt, (MessagingService.admitted host input true policy w).1 = .inr (.resolved (.ok receipt))) ↔
      policy.isOk = true ∧
        w.store.idempotency.get? input.idempotencyKey = some input.envelope.integrityDigest := by
  cases policy with
  | error violation => exact iff_of_false (fun ⟨_, h⟩ => nomatch h) fun ⟨h, _⟩ => nomatch h
  | ok _ =>
      refine (afterSaga_ok_iff.trans (executeSend_ok_iff hfrozen)).trans ?_
      exact (and_iff_right rfl).symm

theorem send_ok_iff {input : SendInput} (hfrozen : w.frozen = false) :
    (∃ receipt, (MessagingService.send host input true w).1 = .inr (.resolved (.ok receipt))) ↔
      policyAdmits host input w = true ∧
        w.store.idempotency.get? input.idempotencyKey = some input.envelope.integrityDigest := by
  obtain ⟨readings, hkeeps⟩ :
      ∃ readings, (EnvelopePolicy.validateOutboundEnvelope host input w).2 = { w with readings } := policy_keeps
  unfold policyAdmits MessagingService.send
  simp only [bind, StateT.bind, isFrozen, hfrozen, Bool.false_eq_true, if_false]
  cases assertAuthenticatedCommsContext input.context with
  | error violation => exact iff_of_false (fun ⟨_, h⟩ => nomatch h) fun ⟨h, _⟩ => nomatch h
  | ok _ =>
      have hadmitted := @admitted_ok_iff host (EnvelopePolicy.validateOutboundEnvelope host input w).2 input
        (EnvelopePolicy.validateOutboundEnvelope host input w).1 (by rw [hkeeps]; exact hfrozen)
      rw [show (EnvelopePolicy.validateOutboundEnvelope host input w).2.store = w.store by rw [hkeeps]] at hadmitted
      exact hadmitted

def reachesSaga (host : CommsHost) (w : CommsWorld) : CommsCall → Option ExecuteSendInput
  | .executeSend input => if w.frozen then none else some input
  | .send input => if !w.frozen && policyAdmits host input w then some input.toExecuteSendInput else none
  | _ => none

theorem dispatched_append_called {envelope : CommunicationEnvelope} {log events : List PortEvent}
    (hevents : ∀ e ∈ events, ∃ call, e = .called call) :
    Dispatched envelope (log ++ events) ↔ Dispatched envelope log := by
  refine ⟨?_, fun h => h.append events⟩
  rintro ⟨verified, attemptRef, henvelope, hmem⟩
  rcases List.mem_append.1 hmem with hmem | hmem
  · exact ⟨verified, attemptRef, henvelope, hmem⟩
  · obtain ⟨call, hcall⟩ := hevents _ hmem
    cases hcall

theorem reportsTruly_executeSend_iff {input : ExecuteSendInput} {result : (SendWait ⊕ Settled SendResult) × CommsWorld} :
    ReportsTruly (.executeSend input) result ↔
      ((∃ record, result.1 = .inr (.resolved (.ok record))) → Dispatched input.envelope result.2.log) := by
  constructor
  · rintro h ⟨record, hok⟩
    exact h (.resolved (.ok record)) hok input.envelope rfl
  · intro h out hout envelope hreports
    rcases out with (violation | record) | reason
    · cases hreports
    · cases hreports
      exact h ⟨record, hout⟩
    · cases hreports

theorem reportsTruly_send_iff {input : SendInput} {result : (ServiceWait ⊕ Settled ServiceResult) × CommsWorld} :
    ReportsTruly (.send input) result ↔
      ((∃ receipt, result.1 = .inr (.resolved (.ok receipt))) → Dispatched input.envelope result.2.log) := by
  constructor
  · rintro h ⟨record, hok⟩
    exact h (.resolved (.ok record)) hok input.envelope rfl
  · intro h out hout envelope hreports
    rcases out with (violation | receipt) | reason
    · cases hreports
    · cases hreports
      exact h ⟨receipt, hout⟩
    · cases hreports

theorem success_iff_retriedWhenSent {α : Type} {m : CommsM α} {input : ExecuteSendInput} {ok : Prop}
    (hcalls : NotesIn (fun e => ∃ call, e = .called call) m)
    (hok : ok ↔ w.store.idempotency.get? input.idempotencyKey = some input.envelope.integrityDigest) :
    (ok → Dispatched input.envelope (m w).2.log) ↔ RetriedWhenSent w input := by
  obtain ⟨events, hlog, hcalled⟩ := hcalls w
  rw [hlog, dispatched_append_called hcalled, hok]
  exact Iff.rfl

theorem reportsTruly_start_iff {call : CommsCall} :
    ReportsTruly call ((commsServices host).start call w) ↔
      ∀ input, reachesSaga host w call = some input → RetriedWhenSent w input := by
  cases call with
  | executeSend input =>
      have hcalls : NotesIn (fun e => ∃ call, e = .called call) (MessagingSaga.executeSend host input) :=
        MessagingSaga.executeSend_notesIn host input fun _ => ⟨_, rfl⟩
      refine reportsTruly_executeSend_iff.trans ?_
      cases hfrozen : w.frozen with
      | true =>
          refine iff_of_true (fun ⟨_, h⟩ => ?_) fun _ h => ?_
          · rw [show (commsServices host).start (.executeSend input) w = _ from executeSend_frozen hfrozen] at h
            cases h
          · simp [reachesSaga, hfrozen] at h
      | false =>
          refine (success_iff_retriedWhenSent hcalls (executeSend_ok_iff hfrozen)).trans ?_
          simp [reachesSaga, hfrozen]
  | send input =>
      have hcalls : NotesIn (fun e => ∃ call, e = .called call) (MessagingService.send host input true) :=
        MessagingService.send_notesIn host input fun _ => ⟨_, rfl⟩
      refine reportsTruly_send_iff.trans ?_
      cases hfrozen : w.frozen with
      | true =>
          refine iff_of_true (fun ⟨_, h⟩ => ?_) fun _ h => ?_
          · rw [show (commsServices host).start (.send input) w = _ from send_frozen hfrozen] at h
            cases h
          · simp [reachesSaga, hfrozen] at h
      | false =>
          cases hpolicy : policyAdmits host input w with
          | false =>
              refine iff_of_true (fun h => ?_) fun _ h => ?_
              · have hadmits := ((send_ok_iff hfrozen).1 h).1
                rw [hpolicy] at hadmits
                cases hadmits
              · simp [reachesSaga, hpolicy] at h
          | true =>
              have hok := (@send_ok_iff host w input hfrozen).trans (and_iff_right hpolicy)
              refine (@success_iff_retriedWhenSent w _ _ input.toExecuteSendInput _ hcalls hok).trans ?_
              simp [reachesSaga, hfrozen, hpolicy]
  | dispatchPending => exact iff_of_true (fun _ _ _ h => nomatch h) fun _ h => nomatch h
  | reconcile => exact iff_of_true (fun _ _ _ h => nomatch h) fun _ h => nomatch h
  | setFrozen frozen => exact iff_of_true (fun _ _ _ h => nomatch h) fun _ h => nomatch h

theorem resumeSend_ok {input : ExecuteSendInput} {wait : SendWait} {response : Settled PortResult}
    {record : MessagingSagaRecord}
    (h : (MessagingSaga.resume host input wait response w).1 = .inr (.resolved (.ok record))) :
    Dispatched input.envelope (MessagingSaga.resume host input wait response w).2.log := by
  unfold MessagingSaga.resume at h ⊢
  cases response with
  | rejected reason => cases h
  | resolved result =>
      rw [answered_resolved] at h ⊢
      cases wait with
      | observing frame => cases result <;> cases h
      | committing frame snapshotRef => cases result <;> cases h
      | dispatching frame verifiedAt =>
          cases result with
          | error violation => cases h
          | ok attemptRef =>
              rw [MessagingSaga.quiet_dispatched host input]
              exact ⟨_, attemptRef, rfl, List.mem_append_right _ (List.mem_singleton.2 rfl)⟩

theorem resumeService_ok {input : SendInput} {wait : ServiceWait} {response : Settled PortResult}
    {receipt : SendReceipt}
    (h : (MessagingService.resume host input response wait w).1 = .inr (.resolved (.ok receipt))) :
    Dispatched input.envelope (MessagingService.resume host input response wait w).2.log := by
  cases wait with
  | saga wait =>
      obtain ⟨record, hrecord⟩ := afterSaga_ok_iff.1 ⟨receipt, h⟩
      exact resumeSend_ok hrecord
  | transport delivery event verifiedAt =>
      cases response with
      | rejected reason => cases h
      | resolved result =>
          cases result with
          | error violation => cases h
          | ok attemptRef => exact ⟨_, attemptRef, rfl, List.mem_append_right _ (List.mem_singleton.2 rfl)⟩

theorem reportsTruly_resume {call : CommsCall} {wait : (commsServices host).Wait call}
    {response : (commsServices host).Resp call wait} :
    ReportsTruly call ((commsServices host).resume call wait response w) := by
  cases call with
  | executeSend input => exact reportsTruly_executeSend_iff.2 fun ⟨_, h⟩ => resumeSend_ok h
  | send input => exact reportsTruly_send_iff.2 fun ⟨_, h⟩ => resumeService_ok h
  | dispatchPending => exact fun _ _ _ h => nomatch h
  | reconcile => exact fun _ _ _ h => nomatch h
  | setFrozen frozen => exact fun _ _ _ h => nomatch h

/-- A send that the step starts does not use a key again, with its digest, for an envelope that has not been
handed over. -/
def RetriesWhenSent (s : Tasks (commsServices host) ι) : TaskLabel (commsServices host) ι → Prop
  | .start _ call => ∀ input, reachesSaga host s.world call = some input → RetriedWhenSent s.world input
  | .resume .. => True

theorem step_successMeansSent_iff {s t : Tasks (commsServices host) ι} {l : TaskLabel (commsServices host) ι}
    (hstep : Sections.Step (commsServices host) s l t) (hs : SuccessMeansSent s) :
    SuccessMeansSent t ↔ RetriesWhenSent s l := by
  cases hstep with
  | @start client call idle =>
      exact (after_successMeansSent_iff (start_grows host call s.world) hs).trans reportsTruly_start_iff
  | @resume client call wait resp waits =>
      refine (after_successMeansSent_iff (resume_grows host call wait resp s.world) hs).trans ?_
      exact iff_of_true reportsTruly_resume trivial

/-- Send success means sent: in a run of sends, with whatever envelopes, keys and answers of the ports, every send
that reports success has handed its envelope to the transport exactly if no send uses a key again, with its
digest, for an envelope that has not been handed over. -/
theorem successMeansSent_iff (host : CommsHost) (world : CommsWorld)
    (labels : List (TaskLabel (commsServices host) ι)) :
    (∀ pre post m, labels = pre ++ post → Run (Sections.Step (commsServices host)) (.idle _ ι world) pre m →
        SuccessMeansSent m) ↔
      Run.Every (Sections.Step (commsServices host)) (fun m l _ => RetriesWhenSent m l) (.idle _ ι world) labels :=
  Run.forall_states_iff (fun _ h => absurd h List.not_mem_nil) fun _ _ _ hstep hs =>
    step_successMeansSent_iff hstep hs

def retriedMoves : List (Nat × Sections.Move (commsServices sampleCommsHost)) :=
  [(0, .start (.executeSend sampleSend)), (0, portAnswers (.resolved (.ok "snap"))),
    (0, portAnswers (.resolved (.ok "receipt"))),
    (0, portAnswers (.resolved (.error (commsViolation .transportFailed .send "refused")))),
    (0, .start (.executeSend sampleSend))]

theorem failed_send_is_reported_sent : ∃ labels t,
    Run (Sections.Step (commsServices sampleCommsHost)) idleServices labels t ∧ ¬ SuccessMeansSent t := by
  have hrun : (retriedMoves.foldlM Tasks.next? idleServices).map
      (fun t => (t.ended.map fun ended => CommsCall.reportsSent ended.1 ended.2, t.world.log)) =
        some ([none, some sampleEnvelope],
          [.called (.observe sampleEnvelope.sender "content" sampleEnvelope.sender),
            .answered (.observe sampleEnvelope.sender "content" sampleEnvelope.sender) (.resolved (.ok "snap")),
            .called (.commitMessage "m" "digest" "snap"),
            .answered (.commitMessage "m" "digest" "snap") (.resolved (.ok "receipt")),
            .called (.dispatch (sealVerifiedEnvelope sampleEnvelope "t")),
            .answered (.dispatch (sealVerifiedEnvelope sampleEnvelope "t"))
              (.resolved (.error (commsViolation .transportFailed .send "refused")))]) := by decide +kernel
  obtain ⟨t, ht, hstate⟩ := Option.map_eq_some_iff.1 hrun
  obtain ⟨hended, hlog⟩ := Prod.mk.inj hstate
  obtain ⟨labels, hrun⟩ := run_of_next? ht
  refine ⟨labels, t, hrun, fun h => ?_⟩
  obtain ⟨ended, hmem, hreports⟩ : ∃ ended ∈ t.ended, CommsCall.reportsSent ended.1 ended.2 = some sampleEnvelope := by
    rw [← List.mem_map, hended]
    exact List.mem_cons_of_mem _ (List.mem_singleton.2 rfl)
  obtain ⟨verified, attemptRef, henvelope, hdispatched⟩ := h ended hmem sampleEnvelope hreports
  rw [hlog] at hdispatched
  simp at hdispatched

end Cantilune
