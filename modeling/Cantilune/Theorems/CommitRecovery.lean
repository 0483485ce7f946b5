import Cantilune.Lemmas.Submissions

/-!
# Recovery of a commit that stopped

A commit writes its decision, has the runtime commit, writes the decision again with the runtime's answer, and
finalizes. Recovery takes up the second decision, not the first: what stopped between the runtime's commit and
the second decision stays where it is.
-/

namespace Cantilune

open ControlPlaneProgram

attribute [local simp] WritesOnly ControlPlaneRequest.writes

variable {R : Type} {host : ControlPlaneHost} {port : RuntimePort R} {w w' : ControlPlaneWorld R}

structure AgreesWith (binding other : SchemaEpochBinding) : Prop where
  bindingGeneration : binding.bindingGeneration = other.bindingGeneration
  epochId : binding.epochId = other.epochId
  epochOrdinal : binding.epochOrdinal = other.epochOrdinal
  schemaRef : binding.schemaRef = other.schemaRef
  policyRef : binding.policyRef = other.policyRef
  handlerManifestRef : binding.handlerManifestRef = other.handlerManifestRef
  runtimeHead : binding.runtimeHead = other.runtimeHead

def commitsAdmission (id : SchemaAdmissionId) (event : ControlPlaneEventEnvelope) : Bool :=
  match event.payload with
  | .committed admissionId _ _ _ _ => event.kind = .schemaAdmissionCommitted ∧ admissionId = id
  | _ => false

def EventsNumbered (store : ControlPlaneStore) : Prop :=
  ∀ event ∈ store.events, event.storeSequence ≤ store.sequence

/-- What a commit has found when its transaction starts: a prepared record with its evidence, the active
binding, its token used up, and nothing yet of a commit. -/
structure CommitStart (input : CommitAdmissionTransactionInput) (store : ControlPlaneStore) : Prop where
  record : store.admissions.get? input.admissionId = some input.record
  keyed : input.record.request.admissionId = input.admissionId
  prepared : input.record.state = .prepared
  active : store.activeBindings.get? input.record.request.activationDomainId = some input.active
  subject : (buildAdmissionEvidenceSubject input.record input.active).isSome
  qualification : input.record.qualification.isSome
  authorization : input.record.authorization.isSome
  consumed : ∃ token, store.preparedAdmissions.get? input.preparedId = some token ∧ token.consumed = true
  notFrozen : store.frozen = false
  undecided : store.commitDecisions.get? input.admissionId = none
  noReceipt : store.commitReceipts.get? input.admissionId = none
  noEvent : store.events.countP (commitsAdmission input.admissionId) = 0
  numbered : EventsNumbered store

/-! ## Where the transaction stops -/

structure PendingDecision (input : CommitAdmissionTransactionInput) (decision : CommitDecisionRecord) : Prop where
  admissionId : decision.admissionId = input.admissionId
  preparedId : decision.preparedId = input.preparedId
  generation : decision.expectedBindingGeneration = input.active.bindingGeneration
  target : decision.toBinding.isSome
  status : decision.status ≠ .finalized

/-- Before it finalizes, the transaction has written at most its decision. -/
structure CommitPending (input : CommitAdmissionTransactionInput) (s t : ControlPlaneStore) : Prop where
  admissions : t.admissions = s.admissions
  activeBindings : t.activeBindings = s.activeBindings
  preparedAdmissions : t.preparedAdmissions = s.preparedAdmissions
  commitReceipts : t.commitReceipts = s.commitReceipts
  events : t.events = s.events
  sequence : s.sequence ≤ t.sequence
  frozen : t.frozen = s.frozen
  decision : ∀ decision, t.commitDecisions.get? input.admissionId = some decision → PendingDecision input decision

structure CommitFinalized (input : CommitAdmissionTransactionInput) (t : ControlPlaneStore) : Prop where
  frozen : t.frozen = false
  record : ∃ record, t.admissions.get? input.admissionId = some record ∧ record.state = .committed
  decision : ∃ decision binding, t.commitDecisions.get? input.admissionId = some decision ∧
    decision.status = .finalized ∧ decision.toBinding = some binding ∧
    t.activeBindings.get? input.record.request.activationDomainId = some binding
  receipt : (t.commitReceipts.get? input.admissionId).isSome
  event : t.events.countP (commitsAdmission input.admissionId) = 1

variable {input : CommitAdmissionTransactionInput} {s t u : ControlPlaneStore}

theorem CommitPending.refl (hs : CommitStart input s) : CommitPending input s s where
  admissions := rfl
  activeBindings := rfl
  preparedAdmissions := rfl
  commitReceipts := rfl
  events := rfl
  sequence := le_rfl
  frozen := rfl
  decision decision hdecision := by
    rw [hs.undecided] at hdecision
    cases hdecision

theorem CommitPending.putCommitDecision (h : CommitPending input s t) {decision : CommitDecisionRecord}
    (hdecision : PendingDecision input decision) : CommitPending input s (t.putCommitDecision decision) :=
  { h with
    decision := fun stored hstored => by
      rw [ControlPlaneStore.putCommitDecision, hdecision.admissionId, OrdMap.get?_set_self] at hstored
      cases hstored
      exact hdecision }

theorem CommitPending.nextEvent {m n : ControlPlaneWorld R} (h : CommitPending input s m.store)
    {kind : ControlPlaneEventKind} {actor : String} {payload : ControlPlaneEventPayload}
    {key : Option IdempotencyKey} {eventId : String} {occurredAt : Timestamp}
    (hworld : n = { m with store := (m.store.nextEvent kind actor payload key eventId occurredAt).2 }) :
    CommitPending input s n.store := by
  subst hworld
  exact { h with sequence := h.sequence.trans (Nat.le_succ _) }

/-- The last write of the commit or of its recovery. -/
structure FinalizesCommit (input : CommitAdmissionTransactionInput) (finalize : FinalizeAdmissionCommitInput) :
    Prop where
  domainId : finalize.domainId = input.record.request.activationDomainId
  generation : finalize.expectedGeneration = input.active.bindingGeneration
  record : finalize.admission.request.admissionId = input.admissionId
  state : finalize.admission.state = .committed
  decision : finalize.commitDecision.admissionId = input.admissionId
  status : finalize.commitDecision.status = .finalized
  target : finalize.commitDecision.toBinding = some finalize.nextBinding
  receipt : finalize.receipt.admissionId = input.admissionId
  event : commitsAdmission input.admissionId finalize.event = true

theorem appendEvent_eq_ok {store : ControlPlaneStore} {event : ControlPlaneEventEnvelope}
    (hnumber : ∀ other ∈ store.events, other.storeSequence < event.storeSequence)
    (hid : ∀ other ∈ store.events, other.eventId ≠ event.eventId) :
    store.appendEvent event = .ok { store with
      events := store.events ++ [event], sequence := event.storeSequence } := by
  unfold ControlPlaneStore.appendEvent
  rw [if_neg, if_neg]
  · simpa using hid
  · simp only [Option.any_eq_true, decide_eq_true_eq, not_exists, not_and, not_le]
    exact fun last hlast => hnumber last (List.mem_of_getLast? hlast)

theorem finalizeAdmissionCommit_eq {store : ControlPlaneStore} {finalize : FinalizeAdmissionCommitInput}
    (hgeneration : store.atGeneration finalize.domainId finalize.expectedGeneration = true)
    (hnumber : ∀ other ∈ store.events, other.storeSequence < finalize.event.storeSequence)
    (hid : ∀ other ∈ store.events, other.eventId ≠ finalize.event.eventId) :
    store.finalizeAdmissionCommit finalize = (.ok .finalized, { store with
      activeBindings := store.activeBindings.set finalize.domainId finalize.nextBinding
      admissions := store.admissions.set finalize.admission.request.admissionId finalize.admission
      commitDecisions := store.commitDecisions.set finalize.commitDecision.admissionId finalize.commitDecision
      commitReceipts := store.commitReceipts.set finalize.receipt.admissionId finalize.receipt
      events := store.events ++ [finalize.event]
      sequence := finalize.event.storeSequence }) := by
  unfold ControlPlaneStore.finalizeAdmissionCommit
  rw [if_pos hgeneration]
  dsimp only
  rw [appendEvent_eq_ok (by exact hnumber) (by exact hid)]
  rfl

theorem CommitPending.finalized {result : Except String FinalizeAdmissionCommitResult}
    {finalize : FinalizeAdmissionCommitInput} (h : CommitPending input s w.store) (hs : CommitStart input s)
    (hanswer : (result, w') = w.answered (w.store.finalizeAdmissionCommit finalize))
    (hf : FinalizesCommit input finalize)
    (hfresh : (∀ other ∈ w.store.events, other.storeSequence < finalize.event.storeSequence) ∧
      ∀ other ∈ w.store.events, other.eventId ≠ finalize.event.eventId) :
    result = .ok .finalized ∧ CommitFinalized input w'.store ∧
      w'.store.activeBindings.get? input.record.request.activationDomainId = some finalize.nextBinding := by
  obtain ⟨rfl, rfl⟩ := ControlPlaneWorld.answered_eq hanswer
  have hgeneration : w.store.atGeneration finalize.domainId finalize.expectedGeneration = true := by
    rw [ControlPlaneStore.atGeneration, hf.domainId, hf.generation, h.activeBindings, hs.active]
    exact decide_eq_true rfl
  rw [finalizeAdmissionCommit_eq hgeneration hfresh.1 hfresh.2]
  refine ⟨rfl, ?_, by rw [hf.domainId, OrdMap.get?_set_self]⟩
  exact
    { frozen := h.frozen.trans hs.notFrozen
      record := ⟨finalize.admission, by rw [hf.record, OrdMap.get?_set_self], hf.state⟩
      decision := ⟨finalize.commitDecision, finalize.nextBinding, by rw [hf.decision, OrdMap.get?_set_self],
        hf.status, hf.target, by rw [hf.domainId, OrdMap.get?_set_self]⟩
      receipt := by
        rw [hf.receipt, OrdMap.get?_set_self]
        rfl
      event := by
        rw [List.countP_append, h.events, hs.noEvent]
        simp [hf.event] }

theorem CommitPending.event_fresh {m n : ControlPlaneWorld R} (h : CommitPending input s m.store)
    (hs : CommitStart input s) {kind : ControlPlaneEventKind} {actor : String} {payload : ControlPlaneEventPayload}
    {key : Option IdempotencyKey} {eventId : String} {occurredAt : Timestamp} {event : ControlPlaneEventEnvelope}
    (hnew : ∀ other ∈ m.store.events, other.eventId ≠ eventId)
    (hevent : event = (m.store.nextEvent kind actor payload key eventId occurredAt).1)
    (hworld : n = { m with store := (m.store.nextEvent kind actor payload key eventId occurredAt).2 }) :
    (∀ other ∈ n.store.events, other.storeSequence < event.storeSequence) ∧
      ∀ other ∈ n.store.events, other.eventId ≠ event.eventId := by
  subst hevent hworld
  refine ⟨fun other hother => Nat.lt_succ_of_le ?_, hnew⟩
  have hother' : other ∈ s.events := h.events ▸ hother
  exact (hs.numbered other hother').trans h.sequence

def WritesDecision (input : CommitAdmissionTransactionInput) : ControlPlaneRequest → Prop
  | .putCommitDecision decision => PendingDecision input decision
  | r => r.keepsStore = true

attribute [local simp] WritesDecision ControlPlaneRequest.keepsStore

theorem CommitPending.answers {r : ControlPlaneRequest} {resp : r.Response} (hr : WritesDecision input r)
    (hanswer : r.Answers host port w resp w') (h : CommitPending input s w.store) :
    True ∧ CommitPending input s w'.store := by
  refine ⟨trivial, ?_⟩
  cases r with
  | putCommitDecision decision =>
      cases hanswer
      exact h.putCommitDecision hr
  | _ => exact (ControlPlaneRequest.answers_keepsStore hanswer hr) ▸ h

theorem buildReceipt_keeps {record : SchemaAdmissionRecord} {active toBinding : SchemaEpochBinding}
    {runtimeReceipt : RuntimeEpochReceipt} {planDigest : PlanDigest} {operator : String} :
    (buildReceipt host record active toBinding runtimeReceipt planDigest operator).AsksIf (fun _ _ => True)
      (WritesDecision input) fun receipt => receipt.admissionId = record.request.admissionId :=
  .after (asks_timestamp (by simp)) fun _ => .after (asks_ask (by simp)) fun _ => rfl

theorem resolveRuntimeReceipt_decided {decision : CommitDecisionRecord} {toBinding : SchemaEpochBinding}
    (hdecision : PendingDecision input decision) (hstatus : decision.status = .decided) :
    (resolveRuntimeReceipt host input decision toBinding).AsksIf (fun _ _ => True) (WritesDecision input)
      fun resolved => PendingDecision input resolved.2 := by
  unfold resolveRuntimeReceipt
  rw [if_neg (by simp [hstatus]), if_pos (.inl hstatus)]
  have hput : ∀ {status : CommitDecisionStatus} {before after : Option SnapshotRef} {target : Option SchemaEpochBinding}
      {updatedAt : Timestamp}, status ≠ .finalized → target.isSome → PendingDecision input { decision with
        status, runtimeBeforeRef := before, runtimeAfterRef := after, toBinding := target, updatedAt } :=
    fun hne htarget => ⟨hdecision.admissionId, hdecision.preparedId, hdecision.generation, htarget, hne⟩
  refine .after ?_ fun applied => ?_
  · refine .bind (asks_ask (by simp)) fun result => ?_
    cases result with
    | ok receipt => trivial
    | error e =>
        refine .bind (asks_ask (by simp)) fun recovered => ?_
        cases recovered <;> trivial
  · cases applied with
    | error violation =>
        refine .after (asks_timestamp (by simp)) fun _ => .after (asks_ask ?_) fun _ => trivial
        exact hput (by decide) hdecision.target
    | ok receipt =>
        refine .after asks_checked fun _ => .after asks_checked fun _ => .after (asks_timestamp (by simp)) fun _ => ?_
        exact .after (asks_ask (hput (by decide) rfl)) fun _ => hput (by decide) rfl

theorem finalizeTransaction_stops {decision : CommitDecisionRecord} {toBinding : SchemaEpochBinding}
    {runtimeReceipt : RuntimeEpochReceipt} (hs : CommitStart input s) (hw : CommitPending input s w.store)
    (hdecision : PendingDecision input decision)
    (hstop : Program.Stops (ControlPlaneRequest.Answers host port)
      (finalizeTransaction host input decision toBinding runtimeReceipt) w w') :
    CommitPending input s w'.store ∨ CommitFinalized input w'.store := by
  unfold finalizeTransaction at hstop
  rcases Program.stops_bind hstop with hbuilding | ⟨receipt, m, hbuilt, hevent⟩
  · exact .inl (hbuilding.invariant_of_asksIf (I := fun m => CommitPending input s m.store) buildReceipt_keeps
      (fun _ _ _ _ => CommitPending.answers) hw)
  have hm : CommitPending input s m.store := hbuilt.invariant_of_asksIf
    (I := fun m => CommitPending input s m.store) buildReceipt_keeps (fun _ _ _ _ => CommitPending.answers) hw
  have hreceipt : receipt.admissionId = input.admissionId := (hbuilt.value_of_asksIf
    (I := fun m => CommitPending input s m.store) buildReceipt_keeps (fun _ _ _ _ => CommitPending.answers) hw).trans
      hs.keyed
  rcases stops_bind_ask hevent with rfl | ⟨event, n, ⟨eventId, time, hnew, hanswer⟩, hfinalize⟩
  · exact .inl hm
  obtain ⟨hevent, hworld⟩ := ControlPlaneWorld.answered_eq hanswer
  have hn : CommitPending input s n.store := hm.nextEvent hworld
  rcases stops_bind_ask hfinalize with rfl | ⟨result, n', hanswer, hrest⟩
  · exact .inl hn
  obtain ⟨binding, hbinding⟩ := Option.isSome_iff_exists.1 hdecision.target
  obtain ⟨rfl, hfinalized, -⟩ := hn.finalized hs hanswer
    { domainId := rfl
      generation := rfl
      record := hs.keyed
      state := rfl
      decision := hdecision.admissionId
      status := rfl
      target := by simp [hbinding]
      receipt := hreceipt
      event := by simp [hevent, commitsAdmission, ControlPlaneStore.nextEvent] } (hm.event_fresh hs hnew hevent hworld)
  rcases stops_bind_orThrow hrest with rfl | ⟨result, hresult, hrest⟩
  · exact .inr hfinalized
  cases hresult
  refine .inr (hrest.invariant (P := fun r => r.keepsStore = true) (I := fun m => CommitFinalized input m.store)
    (.bind (asks_ask (by simp)) fun _ => .bind (asks_ask (by simp)) fun _ => trivial) ?_ hfinalized)
  intro n r resp n' hkeeps hanswer hn
  exact (ControlPlaneRequest.answers_keepsStore hanswer hkeeps) ▸ hn

theorem executeCommitAdmissionTransaction_stops (hs : CommitStart input w.store)
    (hstop : Program.Stops (ControlPlaneRequest.Answers host port)
      (executeCommitAdmissionTransaction host input) w w') :
    CommitPending input w.store w'.store ∨ CommitFinalized input w'.store := by
  have hw : CommitPending input w.store w.store := .refl hs
  unfold executeCommitAdmissionTransaction at hstop
  rcases stops_bind_ask hstop with rfl | ⟨existingReceipt, w, ⟨rfl, rfl⟩, hdecision⟩
  · exact .inl hw
  rcases stops_bind_ask hdecision with rfl | ⟨existingDecision, w, ⟨rfl, rfl⟩, hrest⟩
  · exact .inl hw
  rw [hs.noReceipt, hs.undecided] at hrest
  dsimp only [Option.filter_none] at hrest
  rcases stops_bind_ask hrest with rfl | ⟨activatedAt, w, rfl, hbinding⟩
  · exact .inl hw
  rcases stops_bind_orThrow hbinding with rfl | ⟨toBinding, -, hstamp⟩
  · exact .inl hw
  rcases stops_bind_ask hstamp with rfl | ⟨updatedAt, w, rfl, hdecide⟩
  · exact .inl hw
  rcases stops_bind_ask (show Program.Stops _ (ask (.putCommitDecision _) >>= fun _ => _) _ _ from hdecide) with rfl | ⟨⟨⟩, m, hput, hresolve⟩
  · exact .inl hw
  have hpending : PendingDecision input
      { admissionId := input.admissionId, preparedId := input.preparedId
        expectedBindingGeneration := input.active.bindingGeneration, status := .decided, toBinding := some toBinding
        operator := some input.operator, runtimeBeforeRef := none, runtimeAfterRef := none
        updatedAt := host.toISOString updatedAt } :=
    ⟨rfl, rfl, rfl, rfl, by simp⟩
  have hm : CommitPending input w.store m.store := by
    rw [show m = _ from hput]
    exact hw.putCommitDecision hpending
  rcases Program.stops_bind hresolve with hresolving | ⟨resolved, n, hresolved, hfinalize⟩
  · exact .inl (hresolving.invariant_of_asksIf (I := fun m => CommitPending input w.store m.store)
      (resolveRuntimeReceipt_decided hpending rfl) (fun _ _ _ _ => CommitPending.answers) hm)
  have hn : CommitPending input w.store n.store := hresolved.invariant_of_asksIf
    (I := fun m => CommitPending input w.store m.store) (resolveRuntimeReceipt_decided hpending rfl)
    (fun _ _ _ _ => CommitPending.answers) hm
  have hresolution : PendingDecision input resolved.2 := hresolved.value_of_asksIf
    (I := fun m => CommitPending input w.store m.store) (resolveRuntimeReceipt_decided hpending rfl)
    (fun _ _ _ _ => CommitPending.answers) hm
  exact finalizeTransaction_stops hs hn hresolution hfinalize

/-! ## Recovery -/

def RuntimeRecovers (port : RuntimePort R) (runtime : R) (id : SchemaAdmissionId) : Prop :=
  ∀ answer after, port.recoverEpochTransition runtime id answer after → ∃ receipt, answer = .ok receipt

theorem finalizeRecovery_pending {decision : CommitDecisionRecord} {toBinding : SchemaEpochBinding}
    {recovered : RuntimeEpochReceipt} {qualification : QualificationEvidence} {authorization : AuthorizationEvidence}
    {out : Except ControlPlaneError SchemaAdmissionReceipt} (hs : CommitStart input s)
    (hw : CommitPending input s w.store) (hdecision : PendingDecision input decision)
    (htarget : decision.toBinding = some toBinding)
    (hexec : Program.Exec (ControlPlaneRequest.Answers host port)
      (finalizeRecovery host input.admissionId decision toBinding input.record input.active recovered qualification
        authorization) w out w') :
    (∃ receipt, out = .ok receipt) ∧ CommitFinalized input w'.store ∧
      w'.store.activeBindings.get? input.record.request.activationDomainId = decision.toBinding := by
  unfold finalizeRecovery at hexec
  obtain ⟨admittedAt, w, rfl, hstamp⟩ := exec_bind_ask.1 hexec
  obtain ⟨decidedAt, w, rfl, hdraw⟩ := exec_bind_ask.1 hstamp
  obtain ⟨event, n, ⟨eventId, time, hnew, hanswer⟩, hbuild⟩ := exec_bind_ask.1 hdraw
  obtain ⟨hevent, hworld⟩ := ControlPlaneWorld.answered_eq hanswer
  have hn : CommitPending input s n.store := hw.nextEvent hworld
  have hfresh := hw.event_fresh hs hnew hevent hworld
  unfold buildReceipt at hbuild
  obtain ⟨committedAt, n, rfl, hsequence⟩ := exec_bind_ask.1 hbuild
  obtain ⟨sequence, n, ⟨rfl, rfl⟩, hfinalize⟩ := exec_bind_ask.1 hsequence
  obtain ⟨result, n', hanswer, hrest⟩ := exec_bind_ask.1 hfinalize
  obtain ⟨rfl, hfinalized, hactive⟩ := hn.finalized hs hanswer
    { domainId := rfl
      generation := hdecision.generation
      record := hs.keyed
      state := rfl
      decision := hdecision.admissionId
      status := rfl
      target := htarget
      receipt := hs.keyed
      event := by simp [hevent, commitsAdmission, ControlPlaneStore.nextEvent] } hfresh
  rcases exec_bind_orThrow.1 hrest with ⟨result, hresult, hrest⟩ | ⟨message, hmessage, -⟩
  rotate_left
  · cases hmessage
  cases hresult
  obtain ⟨-, m, rfl, hrest⟩ := exec_bind_ask.1 hrest
  obtain ⟨-, m, rfl, hdone⟩ := exec_bind_ask.1 hrest
  obtain ⟨rfl, rfl⟩ := Program.exec_done.1 hdone
  exact ⟨⟨_, rfl⟩, hfinalized, hactive.trans htarget.symm⟩

/-- From a transaction that is not finalized, recovery finalizes it if its decision is no longer `decided`. -/
theorem recoverForwardCommit_pending {out : Except ControlPlaneError SchemaAdmissionReceipt}
    (hs : CommitStart input s) (hw : CommitPending input s w.store)
    (hruntime : RuntimeRecovers port w.runtime input.admissionId)
    (hexec : Program.Exec (ControlPlaneRequest.Answers host port)
      (recoverForwardCommit host input.admissionId) w out w') :
    (∃ decision, w.store.commitDecisions.get? input.admissionId = some decision ∧ decision.status ≠ .decided ∧
        (∃ receipt, out = .ok receipt) ∧ CommitFinalized input w'.store ∧
        w'.store.activeBindings.get? input.record.request.activationDomainId = decision.toBinding) ∨
      ((∀ decision, w.store.commitDecisions.get? input.admissionId = some decision → decision.status = .decided) ∧
        ∃ e, out = .error e) := by
  unfold recoverForwardCommit at hexec
  obtain ⟨found, w, ⟨rfl, rfl⟩, hfound⟩ := exec_bind_ask.1 hexec
  rcases exec_bind_orRefuse.1 hfound with ⟨decision, hdecision, hread⟩ | ⟨hnone, rfl, -⟩
  rotate_left
  · refine .inr ⟨fun decision hsome => ?_, _, rfl⟩
    cases hnone.symm.trans hsome
  have hpending := hw.decision decision hdecision
  rcases exec_bind_orRefuse.1 hread with ⟨toBinding, htarget, hfinished⟩ | ⟨hnone, -, -⟩
  rotate_left
  · have hsome := hpending.target
    rw [hnone] at hsome
    cases hsome
  rw [finishedReceipt, if_neg hpending.status] at hfinished
  rcases exec_bind_deny.1 (show Program.Exec _ (checked (denyIf _ _) >>= _) _ _ _ from hfinished) with
    ⟨hready, hadmission⟩ | ⟨hrefused, rfl, -⟩
  rotate_left
  · refine .inr ⟨fun other hother => ?_, _, rfl⟩
    cases hdecision.symm.trans hother
    have hne := hpending.status
    cases hstatus : decision.status with
    | decided => rfl
    | runtimeApplied => exact absurd hstatus hrefused.1
    | recoveryRequired => exact absurd hstatus hrefused.2
    | finalized => exact absurd hstatus hne
  have hdecided : decision.status ≠ .decided := by
    intro hstatus
    exact hready ⟨by simp [hstatus], by simp [hstatus]⟩
  obtain ⟨found, w, ⟨rfl, rfl⟩, hrecord⟩ := exec_bind_ask.1 hadmission
  rw [hw.admissions, hs.record] at hrecord
  obtain ⟨binding, w, ⟨rfl, rfl⟩, hactive⟩ := exec_bind_ask.1
    (show Program.Exec _ (ask (.getActiveBinding input.record.request.activationDomainId) >>= _) _ _ _ from hrecord)
  rw [hw.activeBindings, hs.active] at hactive
  obtain ⟨answer, m, ⟨runtime, hanswer, rfl⟩, hrecovered⟩ := exec_bind_ask.1
    (show Program.Exec _ (ask (.recoverEpochTransition input.admissionId) >>= _) _ _ _ from hactive)
  obtain ⟨recovered, rfl⟩ := hruntime answer runtime hanswer
  obtain ⟨receipt, m, ⟨rfl, rfl⟩, hreceipt⟩ := exec_bind_ask.1
    (show Program.Exec _ (ask (.getCommitReceipt input.admissionId) >>= _) _ _ _ from hrecovered)
  rw [hw.commitReceipts, hs.noReceipt] at hreceipt
  obtain ⟨subject, hsubject⟩ := Option.isSome_iff_exists.1 hs.subject
  obtain ⟨qualification, hqualification⟩ := Option.isSome_iff_exists.1 hs.qualification
  obtain ⟨authorization, hauthorization⟩ := Option.isSome_iff_exists.1 hs.authorization
  dsimp only [Option.filter_none] at hreceipt
  rw [hsubject, hqualification, hauthorization] at hreceipt
  have hfinal := finalizeRecovery_pending (w := { w with runtime }) hs hw hpending htarget hreceipt
  exact .inl ⟨decision, hdecision, hdecided, hfinal⟩

theorem recoverForwardCommit_finalized {out : Except ControlPlaneError SchemaAdmissionReceipt}
    (hw : CommitFinalized input w.store)
    (hexec : Program.Exec (ControlPlaneRequest.Answers host port)
      (recoverForwardCommit host input.admissionId) w out w') :
    (∃ receipt, out = .ok receipt) ∧ w' = w := by
  obtain ⟨decision, binding, hdecision, hstatus, hbinding, -⟩ := hw.decision
  obtain ⟨receipt, hreceipt⟩ := Option.isSome_iff_exists.1 hw.receipt
  unfold recoverForwardCommit at hexec
  obtain ⟨found, w, ⟨rfl, rfl⟩, hfound⟩ := exec_bind_ask.1 hexec
  rw [hdecision] at hfound
  replace hfound := show Program.Exec _ (orRefuse decision.toBinding _ >>= _) _ _ _ from hfound
  rw [hbinding] at hfound
  replace hfound := show Program.Exec _ (finishedReceipt decision input.admissionId >>= _) _ _ _ from hfound
  rw [finishedReceipt, if_pos hstatus] at hfound
  obtain ⟨stored, w, ⟨rfl, rfl⟩, hstored⟩ := exec_bind_ask.1 hfound
  rw [hreceipt] at hstored
  obtain ⟨rfl, rfl⟩ := Program.exec_done.1 hstored
  exact ⟨⟨receipt, rfl⟩, rfl⟩

/-! ## What recovery is for -/

structure Recovered (input : CommitAdmissionTransactionInput) (runtimeBinding : SchemaEpochBinding)
    (out : Except ControlPlaneError SchemaAdmissionReceipt) (store : ControlPlaneStore) : Prop where
  returned : ∃ receipt, out = .ok receipt
  record : ∃ record, store.admissions.get? input.admissionId = some record ∧ record.state = .committed
  decision : ∃ decision, store.commitDecisions.get? input.admissionId = some decision ∧ decision.status = .finalized
  binding : ∃ binding, store.activeBindings.get? input.record.request.activationDomainId = some binding ∧
    AgreesWith binding runtimeBinding
  receipt : (store.commitReceipts.get? input.admissionId).isSome
  event : store.events.countP (commitsAdmission input.admissionId) = 1

/-- A decision is stored that is no longer `decided`, and the binding that it aims at agrees with the
runtime's. -/
def ReadyToRecover (id : SchemaAdmissionId) (runtimeBinding : SchemaEpochBinding) (store : ControlPlaneStore) : Prop :=
  ∃ decision binding, store.commitDecisions.get? id = some decision ∧ decision.status ≠ .decided ∧
    decision.toBinding = some binding ∧ AgreesWith binding runtimeBinding

variable {runtimeBinding : SchemaEpochBinding} {out : Except ControlPlaneError SchemaAdmissionReceipt}

theorem CommitFinalized.recovered_iff {store : ControlPlaneStore} {target : SchemaEpochBinding}
    (h : CommitFinalized input store) (hout : ∃ receipt, out = .ok receipt)
    (hactive : store.activeBindings.get? input.record.request.activationDomainId = some target) :
    Recovered input runtimeBinding out store ↔ AgreesWith target runtimeBinding := by
  constructor
  · intro hrecovered
    obtain ⟨binding, hbinding, hagrees⟩ := hrecovered.binding
    cases hactive.symm.trans hbinding
    exact hagrees
  · intro hagrees
    obtain ⟨decision, -, hdecision, hstatus, -⟩ := h.decision
    exact ⟨hout, h.record, ⟨decision, hdecision, hstatus⟩, ⟨target, hactive, hagrees⟩, h.receipt, h.event⟩

theorem recovered_iff (hs : CommitStart input s)
    (hw : CommitPending input s w.store ∨ CommitFinalized input w.store)
    (hruntime : RuntimeRecovers port w.runtime input.admissionId)
    (hexec : Program.Exec (ControlPlaneRequest.Answers host port)
      (recoverForwardCommit host input.admissionId) w out w') :
    Recovered input runtimeBinding out w'.store ↔
      ReadyToRecover input.admissionId runtimeBinding w.store := by
  rcases hw with hpending | hfinalized
  · rcases recoverForwardCommit_pending hs hpending hruntime hexec with
      ⟨decision, hdecision, hstatus, hout, hfinal, hactive⟩ | ⟨hdecided, e, rfl⟩
    · obtain ⟨target, htarget⟩ := Option.isSome_iff_exists.1 (hpending.decision decision hdecision).target
      rw [hfinal.recovered_iff hout (hactive.trans htarget)]
      constructor
      · exact fun hagrees => ⟨decision, target, hdecision, hstatus, htarget, hagrees⟩
      · rintro ⟨other, binding, hother, -, hbinding, hagrees⟩
        cases hdecision.symm.trans hother
        cases htarget.symm.trans hbinding
        exact hagrees
    · refine iff_of_false (fun hrecovered => ?_) ?_
      · obtain ⟨receipt, hreceipt⟩ := hrecovered.returned
        cases hreceipt
      · rintro ⟨decision, -, hdecision, hstatus, -⟩
        exact hstatus (hdecided decision hdecision)
  · obtain ⟨hout, rfl⟩ := recoverForwardCommit_finalized hfinalized hexec
    obtain ⟨decision, target, hdecision, hstatus, htarget, hactive⟩ := hfinalized.decision
    rw [hfinalized.recovered_iff hout hactive]
    constructor
    · exact fun hagrees => ⟨decision, target, hdecision, by simp [hstatus], htarget, hagrees⟩
    · rintro ⟨other, binding, hother, -, hbinding, hagrees⟩
      cases hdecision.symm.trans hother
      cases htarget.symm.trans hbinding
      exact hagrees

/-! ## Repeating the commit -/

structure Repeats (input : CommitAdmissionTransactionInput) (command : CommitSchemaAdmissionCommand) : Prop where
  admissionId : command.admissionId = input.admissionId
  preparedId : command.preparedHandle.preparedId = input.preparedId

def RefusedByAuthorizer (out : Except ControlPlaneError SchemaAdmissionReceipt) (w w' : ControlPlaneWorld R) : Prop :=
  w' = w ∧ ∃ violation, out = .error (.violation violation) ∧ violation.code = .authorizationDenied

theorem verifyAuthorization_error {subject : AdmissionEvidenceSubject} {qualification : QualificationEvidence}
    {authorization : AuthorizationEvidence} {operator : String} {now : Nat} {violation : ControlPlaneViolation}
    (h : verifyAuthorization host subject qualification authorization operator now = .error violation) :
    violation.code = .authorizationDenied := by
  unfold verifyAuthorization at h
  rcases denyIf_bind_eq_error.1 h with ⟨-, rfl⟩ | ⟨-, h⟩
  · rfl
  rcases denyIf_bind_eq_error.1 h with ⟨-, rfl⟩ | ⟨-, h⟩
  · rfl
  rcases denyIf_bind_eq_error.1 h with ⟨-, rfl⟩ | ⟨-, h⟩
  · rfl
  unfold denyIf at h
  split at h
  · cases h
    rfl
  · cases h

theorem commitPrepared_repeated {command : CommitSchemaAdmissionCommand} (hs : CommitStart input s)
    (hw : CommitPending input s w.store) (hrepeats : Repeats input command)
    (hruntime : RuntimeRecovers port w.runtime input.admissionId)
    (hexec : Program.Exec (ControlPlaneRequest.Answers host port)
      (commitPrepared host command input.record) w out w') :
    RefusedByAuthorizer out w w' ∨ (Recovered input runtimeBinding out w'.store ↔
      ReadyToRecover input.admissionId runtimeBinding w.store) := by
  obtain ⟨subject, hsubject⟩ := Option.isSome_iff_exists.1 hs.subject
  obtain ⟨qualification, hqualification⟩ := Option.isSome_iff_exists.1 hs.qualification
  obtain ⟨authorization, hauthorization⟩ := Option.isSome_iff_exists.1 hs.authorization
  unfold commitPrepared at hexec
  rw [hqualification, hauthorization, hrepeats.admissionId, hrepeats.preparedId] at hexec
  obtain ⟨binding, w, ⟨rfl, rfl⟩, hactive⟩ := exec_bind_ask.1
    (show Program.Exec _ (ask (.getActiveBinding input.record.request.activationDomainId) >>= _) _ _ _ from hexec)
  rw [hw.activeBindings, hs.active] at hactive
  replace hactive := show Program.Exec _ (orRefuse (buildAdmissionEvidenceSubject input.record input.active) _ >>= _)
    _ _ _ from hactive
  rw [hsubject] at hactive
  obtain ⟨now, w, rfl, hverify⟩ := exec_bind_ask.1
    (show Program.Exec _ (ask .now >>= _) _ _ _ from hactive)
  rcases exec_bind_checked.1 hverify with ⟨-, -, hconsume⟩ | ⟨violation, hviolation, rfl, rfl⟩
  rotate_left
  · exact .inl ⟨rfl, violation, rfl, verifyAuthorization_error hviolation⟩
  obtain ⟨consumed, m, hanswer, hdecide⟩ := exec_bind_ask.1 hconsume
  obtain ⟨token, htoken, hused⟩ := hs.consumed
  have hnone : w.store.consumePrepared input.preparedId = (none, w.store) := by
    simp [ControlPlaneStore.consumePrepared, hw.preparedAdmissions, htoken, hused]
  obtain ⟨rfl, rfl⟩ := ControlPlaneWorld.answered_eq hanswer
  rw [hnone] at hdecide
  obtain ⟨existing, w, ⟨rfl, rfl⟩, hrecover⟩ := exec_bind_ask.1 hdecide
  right
  split at hrecover
  · exact recovered_iff hs (.inl hw) hruntime hrecover
  · rename_i hother
    obtain ⟨rfl, rfl⟩ := Program.exec_fail.1 hrecover
    refine iff_of_false (fun hrecovered => ?_) ?_
    · obtain ⟨receipt, hreceipt⟩ := hrecovered.returned
      cases hreceipt
    · rintro ⟨decision, -, hdecision, -⟩
      refine hother ?_
      rw [hdecision, Option.any_some, (hw.decision decision hdecision).preparedId]
      exact decide_eq_true rfl

theorem commitSchemaAdmission_repeated {command : CommitSchemaAdmissionCommand} (hs : CommitStart input s)
    (hw : CommitPending input s w.store ∨ CommitFinalized input w.store) (hrepeats : Repeats input command)
    (hruntime : RuntimeRecovers port w.runtime input.admissionId)
    (hexec : Program.Exec (ControlPlaneRequest.Answers host port)
      (commitSchemaAdmission host command) w out w') :
    RefusedByAuthorizer out w w' ∨ (Recovered input runtimeBinding out w'.store ↔
      ReadyToRecover input.admissionId runtimeBinding w.store) := by
  have hfrozen : w.store.frozen = false := by
    rcases hw with hpending | hfinalized
    · exact hpending.frozen.trans hs.notFrozen
    · exact hfinalized.frozen
  unfold commitSchemaAdmission at hexec
  rw [hrepeats.admissionId] at hexec
  rcases exec_bind_ensureNotFrozen.1 hexec with ⟨-, hget⟩ | ⟨hrefused, -⟩
  rotate_left
  · cases hfrozen.symm.trans hrefused
  obtain ⟨found, w, ⟨rfl, rfl⟩, hfound⟩ := exec_bind_ask.1 hget
  rcases hw with hpending | hfinalized
  · rw [hpending.admissions, hs.record, Option.filter_some, if_pos (decide_eq_true hs.prepared)] at hfound
    exact commitPrepared_repeated hs hpending hrepeats hruntime hfound
  · obtain ⟨record, hrecord, hstate⟩ := hfinalized.record
    rw [hrecord, Option.filter_some, if_neg (by simp [hstate])] at hfound
    right
    rcases Program.exec_handle.1 hfound with ⟨receipt, hrecover, rfl⟩ | ⟨e, m, hrecover, -⟩
    · exact recovered_iff hs (.inr hfinalized) hruntime hrecover
    · obtain ⟨⟨receipt, hreceipt⟩, -⟩ := recoverForwardCommit_finalized hfinalized hrecover
      cases hreceipt

/-- Wherever the transaction of a commit stops, and with the store as it is then: once the runtime answers the
recovery with a receipt, recovery finalizes the admission with a binding that agrees with the runtime's if and
only if the decision stored at the stop is no longer `decided` and aims at such a binding; and so does the
commit, repeated, unless its authorizer refuses it. -/
theorem stopped_commit_recovers_iff {R : Type} (host : ControlPlaneHost) (port : RuntimePort R)
    (input : CommitAdmissionTransactionInput) {w₀ w₁ w w' : ControlPlaneWorld R}
    {out : Except ControlPlaneError SchemaAdmissionReceipt} (runtimeBinding : SchemaEpochBinding)
    (hstart : CommitStart input w₀.store)
    (hstop : Program.Stops (fun w r resp w' => ControlPlaneRequest.Answers host port w r resp w')
      (executeCommitAdmissionTransaction host input) w₀ w₁)
    (hstore : w.store = w₁.store) (hruntime : RuntimeRecovers port w.runtime input.admissionId) :
    (Program.Exec (fun w r resp w' => ControlPlaneRequest.Answers host port w r resp w')
        (recoverSchemaAdmissionCommit host input.admissionId) w out w' →
      (Recovered input runtimeBinding out w'.store ↔ ReadyToRecover input.admissionId runtimeBinding w₁.store)) ∧
    (∀ command, Repeats input command →
      Program.Exec (fun w r resp w' => ControlPlaneRequest.Answers host port w r resp w')
          (commitSchemaAdmission host command) w out w' →
        RefusedByAuthorizer out w w' ∨
          (Recovered input runtimeBinding out w'.store ↔
            ReadyToRecover input.admissionId runtimeBinding w₁.store)) := by
  have hw := executeCommitAdmissionTransaction_stops hstart hstop
  rw [← hstore] at hw ⊢
  exact ⟨recovered_iff hstart hw hruntime, fun command hrepeats =>
    commitSchemaAdmission_repeated hstart hw hrepeats hruntime⟩

/-! ## A commit that stops -/

def sampleReceipt : RuntimeEpochReceipt :=
  { admissionId := "adm-1"
    beforeSnapshotRef := "head"
    afterSnapshotRef := "head-2"
    fromBinding := sampleBinding
    toBinding := { sampleBinding with
      bindingGeneration := 1
      epochId := "epoch->1"
      epochOrdinal := 1
      schemaRef := (sampleRevision "2").schemaRef
      runtimeHead := "head-2"
      admissionId := "adm-1"
      previousBindingGeneration := some 0
      activatedBy := "runtime-epoch-admin" } }

def journalingRuntime : ScriptedRuntime (Option RuntimeEpochReceipt) where
  now := 0
  fourView := { evidenceDigest := "" }
  prepareEpochTransition runtime request :=
    (.ok { preparedId := "prep-adm-1", planDigest := request.planDigest, issuedAt := "0", expiresAt := "60000" }, runtime)
  commitEpochTransition _ _ := (.ok sampleReceipt, some sampleReceipt)
  recoverEpochTransition runtime _ :=
    (runtime.elim (.error { code := .admissionRejected, message := "no journal entry" }) .ok, runtime)

def samplePreparation : List ControlPlaneCall :=
  [.submitSchemaAdmission (sampleSubmission "adm-1" "key-1" none),
    .approveSchemaAdmission { context := sampleAdministrator "bob", admissionId := "adm-1" },
    .prepareSchemaAdmission
      { context := sampleAdministrator "bob"
        admissionId := "adm-1"
        handlerManifest :=
          { manifestRef := sampleBinding.handlerManifestRef
            bindings := [{ operationTypeId := "delegate", artifactDigest := "artifact" }] } }]

def transactionWorld : ControlPlaneWorld (Option RuntimeEpochReceipt) :=
  let prepared := (journalingRuntime.calls? sampleHost (submissionWorld none) samplePreparation).getD
    (submissionWorld none)
  { prepared with store := (prepared.store.consumePrepared "prep-3").2 }

def preparedSample : SchemaAdmissionRecord :=
  let submitted := submittedRecord (sampleSubmission "adm-1" "key-1" none) sampleBinding (sampleRevision "2")
    samplePlan "0"
  { submitted with
    state := .prepared
    authorization := submitted.qualification.map fun qualification =>
      { subjectDigest := qualification.subjectDigest
        qualificationDigest := qualification
        authorizedBy := "bob"
        authorizedAt := "0"
        expiresAt := toString authorizationTtlMs
        authorizerVersion := "authorizer/1.0" }
    targetHandlerManifestRef := some sampleBinding.handlerManifestRef
    fourView := some { evidenceDigest := "" } }

def sampleTransaction : CommitAdmissionTransactionInput :=
  { admissionId := "adm-1"
    preparedId := "prep-3"
    operator := "bob"
    record := preparedSample
    active := sampleBinding
    preparedRecord := preparedRecordOf "adm-1" preparedSample sampleBinding
      (submissionSubject (sampleSubmission "adm-1" "key-1" none) sampleBinding (sampleRevision "2") samplePlan)
      (extensionPlanCanonicalDigest samplePlan) "prep-3"
      { preparedId := "prep-adm-1", planDigest := extensionPlanCanonicalDigest samplePlan, issuedAt := "0"
        expiresAt := "60000" } }

theorem sampleTransaction_start : CommitStart sampleTransaction transactionWorld.store where
  record := by decide +kernel
  keyed := rfl
  prepared := rfl
  active := by decide +kernel
  subject := by decide +kernel
  qualification := rfl
  authorization := rfl
  consumed := ⟨{ sampleTransaction.preparedRecord with consumed := true }, by decide +kernel, rfl⟩
  notFrozen := by decide +kernel
  undecided := by decide +kernel
  noReceipt := by decide +kernel
  noEvent := by decide +kernel
  numbered := by
    unfold EventsNumbered
    decide +kernel

def stoppedWorld (requests : Nat) : Option (ControlPlaneWorld (Option RuntimeEpochReceipt)) :=
  (executeCommitAdmissionTransaction sampleHost sampleTransaction).stop? (journalingRuntime.answer? sampleHost) requests
    transactionWorld

theorem stops_of_stoppedWorld {requests : Nat} {w : ControlPlaneWorld (Option RuntimeEpochReceipt)}
    (h : stoppedWorld requests = some w) :
    Program.Stops (fun w r resp w' => ControlPlaneRequest.Answers sampleHost journalingRuntime.toPort w r resp w')
      (executeCommitAdmissionTransaction sampleHost sampleTransaction) transactionWorld w :=
  Program.stops_of_stop? (fun _ _ _ => journalingRuntime.answers_of_answer?) h

theorem journalingRuntime_recovers {id : SchemaAdmissionId} :
    RuntimeRecovers journalingRuntime.toPort (some sampleReceipt) id := by
  intro answer after hanswer
  exact ⟨sampleReceipt, congrArg Prod.fst hanswer⟩

/-- Stopped after the runtime's answer was written into the decision, the sample commit recovers. -/
theorem stopped_commit_recovers_iff_applied :
    ∃ (w₁ w' : ControlPlaneWorld (Option RuntimeEpochReceipt)) (out : Except ControlPlaneError SchemaAdmissionReceipt),
      stoppedWorld 8 = some w₁ ∧
        Program.Exec (fun w r resp w' => ControlPlaneRequest.Answers sampleHost journalingRuntime.toPort w r resp w')
          (recoverSchemaAdmissionCommit sampleHost "adm-1") w₁ out w' ∧
        Recovered sampleTransaction sampleReceipt.toBinding out w'.store := by
  have hstopped : (stoppedWorld 8).map (fun w => (w.runtime,
      (w.store.commitDecisions.get? "adm-1").map fun decision => (decision.status, decision.toBinding))) =
      some (some sampleReceipt, some (.runtimeApplied,
        some { sampleReceipt.toBinding with activatedBy := "bob", activatedAt := "0" })) := by
    decide +kernel
  obtain ⟨w₁, hw₁, hfacts⟩ := Option.map_eq_some_iff.1 hstopped
  obtain ⟨hruntime, hdecision⟩ := Prod.mk.inj hfacts
  obtain ⟨decision, hdecision, hstatus⟩ := Option.map_eq_some_iff.1 hdecision
  obtain ⟨hstatus, htarget⟩ := Prod.mk.inj hstatus
  have hrecovers : ((stoppedWorld 8).bind fun w => (recoverSchemaAdmissionCommit sampleHost "adm-1").eval?
      (journalingRuntime.answer? sampleHost) w).isSome = true := by
    decide +kernel
  rw [hw₁, Option.bind_some] at hrecovers
  obtain ⟨⟨out, w'⟩, hrun⟩ := Option.isSome_iff_exists.1 hrecovers
  have hexec := journalingRuntime.exec_of_eval? hrun
  refine ⟨w₁, w', out, hw₁, hexec, ?_⟩
  refine ((stopped_commit_recovers_iff sampleHost journalingRuntime.toPort sampleTransaction sampleReceipt.toBinding
    sampleTransaction_start (stops_of_stoppedWorld hw₁) rfl ?_).1 hexec).2 ?_
  · rw [hruntime]
    exact journalingRuntime_recovers
  · exact ⟨decision, _, hdecision, by simp [hstatus], htarget, rfl, rfl, rfl, rfl, rfl, rfl, rfl⟩

/-- Stopped between the runtime's commit and the second decision, the commit is not recovered although the
runtime answers with its receipt. -/
theorem stopped_commit_not_recovered :
    ¬ ∀ (host : ControlPlaneHost) (port : RuntimePort (Option RuntimeEpochReceipt))
        (input : CommitAdmissionTransactionInput) (w₀ w₁ w' : ControlPlaneWorld (Option RuntimeEpochReceipt))
        (out : Except ControlPlaneError SchemaAdmissionReceipt) (receipt : RuntimeEpochReceipt),
      CommitStart input w₀.store →
        Program.Stops (fun w r resp w' => ControlPlaneRequest.Answers host port w r resp w')
          (executeCommitAdmissionTransaction host input) w₀ w₁ →
        RuntimeRecovers port w₁.runtime input.admissionId →
        (∃ after, port.recoverEpochTransition w₁.runtime input.admissionId (.ok receipt) after) →
        Program.Exec (fun w r resp w' => ControlPlaneRequest.Answers host port w r resp w')
          (recoverSchemaAdmissionCommit host input.admissionId) w₁ out w' →
        Recovered input receipt.toBinding out w'.store := by
  intro hall
  have hstopped : (stoppedWorld 6).map (fun w => (w.runtime,
      ((recoverSchemaAdmissionCommit sampleHost "adm-1").eval? (journalingRuntime.answer? sampleHost) w).map
        fun recovered => recovered.1.isOk)) = some (some sampleReceipt, some false) := by
    decide +kernel
  obtain ⟨w₁, hw₁, hfacts⟩ := Option.map_eq_some_iff.1 hstopped
  obtain ⟨hruntime, hrecovered⟩ := Prod.mk.inj hfacts
  obtain ⟨⟨out, w'⟩, hrun, hout⟩ := Option.map_eq_some_iff.1 hrecovered
  have hexec := journalingRuntime.exec_of_eval? hrun
  have hrecovers : RuntimeRecovers journalingRuntime.toPort w₁.runtime "adm-1" := by
    rw [hruntime]
    exact journalingRuntime_recovers
  have hanswers : ∃ after, journalingRuntime.toPort.recoverEpochTransition w₁.runtime "adm-1" (.ok sampleReceipt)
      after := by
    rw [hruntime]
    exact ⟨_, rfl⟩
  obtain ⟨receipt, rfl⟩ := (hall sampleHost journalingRuntime.toPort sampleTransaction transactionWorld w₁ w' out
    sampleReceipt sampleTransaction_start (stops_of_stoppedWorld hw₁) hrecovers hanswers hexec).returned
  cases hout

end Cantilune
