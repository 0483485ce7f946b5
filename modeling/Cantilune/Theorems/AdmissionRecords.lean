import Cantilune.Lemmas.Submissions
import Mathlib.Logic.Relation

/-!
# The states of admission records

Approval, preparation, commit and recovery move the record that they read forward. A submission puts its
record whatever is stored under its admission id.
-/

namespace Cantilune

open ControlPlaneProgram

variable {R : Type} {host : ControlPlaneHost} {port : RuntimePort R} {w w' : ControlPlaneWorld R}

def Precedes : SchemaAdmissionState → SchemaAdmissionState → Prop :=
  Relation.ReflTransGen fun a b => canTransitionAdmission a b = true

def SchemaAdmissionState.rank : SchemaAdmissionState → Nat
  | .proposed => 0
  | .validating => 1
  | .qualified => 2
  | .awaitingAuthorization => 3
  | .authorized => 4
  | .preparing => 5
  | .prepared => 6
  | .committed => 7
  | .runtimeApplying => 8
  | .degraded => 9
  | .acknowledged | .rejected | .cancelled | .expired => 10

theorem canTransitionAdmission_rank {a b : SchemaAdmissionState} (h : canTransitionAdmission a b = true) :
    a.rank < b.rank := by
  revert h
  cases a <;> cases b <;> decide

theorem Precedes.rank_le {a b : SchemaAdmissionState} (h : Precedes a b) : a.rank ≤ b.rank := by
  induction h with
  | refl => exact le_rfl
  | tail _ hstep ih => exact ih.trans (canTransitionAdmission_rank hstep).le

/-! ## Moving forward -/

/-- What is stored stays stored and moves along the machine; once committed or rejected it keeps its request
and its state. -/
def MovesForward (before after : Option SchemaAdmissionRecord) : Prop :=
  ∀ b, before = some b → ∃ a, after = some a ∧ Precedes b.state a.state ∧
    (b.state = .committed ∨ b.state = .rejected → a.request = b.request ∧ a.state = b.state)

theorem MovesForward.refl (record : Option SchemaAdmissionRecord) : MovesForward record record :=
  fun b hb => ⟨b, hb, .refl, fun _ => ⟨rfl, rfl⟩⟩

def RecordsMoveForward (s t : ControlPlaneStore) : Prop :=
  ∀ id, MovesForward (s.admissions.get? id) (t.admissions.get? id)

theorem recordsMoveForward_of_same {s t : ControlPlaneStore} (h : StorePart.admissions.Same s t) :
    RecordsMoveForward s t := by
  intro id
  rw [show t.admissions = s.admissions from h]
  exact .refl _

/-- The states that the calls store. -/
def SchemaAdmissionState.Stored (state : SchemaAdmissionState) : Prop :=
  state = .awaitingAuthorization ∨ state = .authorized ∨ state = .prepared ∨ state = .committed

/-- Records and decisions are stored under their own ids, and what has a decision was prepared. -/
structure AdmissionsSound (store : ControlPlaneStore) : Prop where
  keyed : ∀ id record, store.admissions.get? id = some record →
    record.request.admissionId = id ∧ record.state.Stored
  decided : ∀ id decision, store.commitDecisions.get? id = some decision → decision.admissionId = id ∧
    ∃ record, store.admissions.get? id = some record ∧ (record.state = .prepared ∨ record.state = .committed)

/-! ## Calls that move one record -/

def Advances (request : SchemaAdmissionRequest) (next : SchemaAdmissionState) : ControlPlaneRequest → Prop
  | .putAdmission record => record.request = request ∧ record.state = next
  | .putCommitDecision decision => decision.admissionId = request.admissionId
  | .finalizeAdmissionCommit input => input.admission.request = request ∧ input.admission.state = next ∧
      input.commitDecision.admissionId = request.admissionId
  | _ => True

def ReadsOwn (request : SchemaAdmissionRequest) : (r : ControlPlaneRequest) → r.Response → Prop
  | .getAdmission id, found => id = request.admissionId → ∀ record, found = some record → record.request = request
  | .getCommitDecision id, found => id = request.admissionId → ∀ decision, found = some decision →
      decision.admissionId = request.admissionId
  | _, _ => True

structure Advanced (record : SchemaAdmissionRecord) (next : SchemaAdmissionState) (s t : ControlPlaneStore) : Prop where
  admissions : ∀ id, id ≠ record.request.admissionId → t.admissions.get? id = s.admissions.get? id
  decisions : ∀ id, id ≠ record.request.admissionId → t.commitDecisions.get? id = s.commitDecisions.get? id
  admission : ∃ after, t.admissions.get? record.request.admissionId = some after ∧
    after.request = record.request ∧ (after.state = record.state ∨ after.state = next)
  decision : ∀ decision, t.commitDecisions.get? record.request.admissionId = some decision →
    decision.admissionId = record.request.admissionId

namespace Advanced

variable {record : SchemaAdmissionRecord} {next : SchemaAdmissionState} {s t u : ControlPlaneStore}

theorem of_same (h : Advanced record next s t) (hadmissions : u.admissions = t.admissions)
    (hdecisions : u.commitDecisions = t.commitDecisions) : Advanced record next s u where
  admissions := hadmissions ▸ h.admissions
  decisions := hdecisions ▸ h.decisions
  admission := hadmissions ▸ h.admission
  decision := hdecisions ▸ h.decision

theorem putAdmission (h : Advanced record next s t) {after : SchemaAdmissionRecord}
    (hrequest : after.request = record.request) (hstate : after.state = next) :
    Advanced record next s (t.putAdmission after) where
  admissions id hid := by
    rw [ControlPlaneStore.putAdmission, hrequest, OrdMap.get?_set_ne _ _ hid]
    exact h.admissions id hid
  decisions := h.decisions
  admission := ⟨after, by rw [ControlPlaneStore.putAdmission, hrequest, OrdMap.get?_set_self], hrequest, .inr hstate⟩
  decision := h.decision

theorem putCommitDecision (h : Advanced record next s t) {decision : CommitDecisionRecord}
    (hid : decision.admissionId = record.request.admissionId) :
    Advanced record next s (t.putCommitDecision decision) where
  admissions := h.admissions
  decisions id hne := by
    rw [ControlPlaneStore.putCommitDecision, hid, OrdMap.get?_set_ne _ _ hne]
    exact h.decisions id hne
  admission := h.admission
  decision stored hstored := by
    rw [ControlPlaneStore.putCommitDecision, hid, OrdMap.get?_set_self] at hstored
    cases hstored
    exact hid

theorem finalizeAdmissionCommit (h : Advanced record next s t) {input : FinalizeAdmissionCommitInput}
    (hinput : Advances record.request next (.finalizeAdmissionCommit input)) :
    Advanced record next s (t.finalizeAdmissionCommit input).2 := by
  obtain ⟨hrequest, hstate, hdecision⟩ := hinput
  unfold ControlPlaneStore.finalizeAdmissionCommit
  split
  · have hwritten : Advanced record next s ((({ t with
        activeBindings := t.activeBindings.set input.domainId input.nextBinding }.putAdmission
        input.admission).putCommitDecision input.commitDecision).putCommitReceipt input.receipt) :=
      (((h.of_same rfl rfl).putAdmission hrequest hstate).putCommitDecision hdecision).of_same rfl rfl
    dsimp only
    split
    · exact hwritten
    · rename_i after hafter
      exact hwritten.of_same (ControlPlaneStore.appendEvent_frame hafter (by decide : StorePart.admissions ≠ .events))
        (ControlPlaneStore.appendEvent_frame hafter (by decide : StorePart.commitDecisions ≠ .events))
  · exact h

theorem request {r : ControlPlaneRequest} {resp : r.Response} (h : Advanced record next s w.store)
    (hr : Advances record.request next r) (hanswer : r.Answers host port w resp w') :
    ReadsOwn record.request r resp ∧ Advanced record next s w'.store := by
  have hframe : StorePart.admissions ∉ r.writes → StorePart.commitDecisions ∉ r.writes →
      Advanced record next s w'.store := fun hadmissions hdecisions =>
    h.of_same (r.answers_frame hanswer hadmissions) (r.answers_frame hanswer hdecisions)
  cases r with
  | getAdmission id =>
      refine ⟨?_, hframe (by simp [ControlPlaneRequest.writes]) (by simp [ControlPlaneRequest.writes])⟩
      rintro rfl found hfound
      obtain ⟨rfl, -⟩ := hanswer
      obtain ⟨after, hafter, hrequest, -⟩ := h.admission
      cases hafter.symm.trans hfound
      exact hrequest
  | getCommitDecision id =>
      refine ⟨?_, hframe (by simp [ControlPlaneRequest.writes]) (by simp [ControlPlaneRequest.writes])⟩
      rintro rfl decision hfound
      obtain ⟨rfl, -⟩ := hanswer
      exact h.decision decision hfound
  | putAdmission after =>
      cases hanswer
      exact ⟨trivial, h.putAdmission hr.1 hr.2⟩
  | putCommitDecision decision =>
      cases hanswer
      exact ⟨trivial, h.putCommitDecision hr⟩
  | finalizeAdmissionCommit input =>
      obtain ⟨-, rfl⟩ := ControlPlaneWorld.answered_eq hanswer
      exact ⟨trivial, h.finalizeAdmissionCommit hr⟩
  | _ => exact ⟨trivial, hframe (by simp [ControlPlaneRequest.writes]) (by simp [ControlPlaneRequest.writes])⟩

theorem of_exec {α : Type} {p : ControlPlaneProgram α} {out : Except ControlPlaneError α}
    (hexec : Program.Exec (ControlPlaneRequest.Answers host port) p w out w')
    {post : α → Prop} (hasks : p.AsksIf (ReadsOwn record.request) (Advances record.request next) post) (hw : AdmissionsSound w.store)
    (hrecord : w.store.admissions.get? record.request.admissionId = some record) :
    Advanced record next w.store w'.store := by
  refine hexec.invariant_of_asksIf (I := fun m => Advanced record next w.store m.store) hasks
    (fun s r resp t hr hanswer hs => hs.request hr hanswer) ?_
  exact ⟨fun _ _ => rfl, fun _ _ => rfl, ⟨record, hrecord, rfl, .inl rfl⟩,
    fun decision hdecision => (hw.decided _ decision hdecision).1⟩

theorem recordsMoveForward (h : Advanced record next s t)
    (hrecord : s.admissions.get? record.request.admissionId = some record) (hprecedes : Precedes record.state next)
    (hsettled : record.state = .committed ∨ record.state = .rejected → next = record.state) :
    RecordsMoveForward s t := by
  intro id
  by_cases hid : id = record.request.admissionId
  · subst hid
    rintro before hbefore
    cases hrecord.symm.trans hbefore
    obtain ⟨after, hafter, hrequest, hstate | hstate⟩ := h.admission
    · exact ⟨after, hafter, hstate ▸ .refl, fun _ => ⟨hrequest, hstate⟩⟩
    · exact ⟨after, hafter, hstate ▸ hprecedes, fun hs => ⟨hrequest, hstate.trans (hsettled hs)⟩⟩
  · rw [h.admissions id hid]
    exact .refl _

theorem sound (h : Advanced record next s t) (hs : AdmissionsSound s)
    (hrecord : s.admissions.get? record.request.admissionId = some record) (hnext : next.Stored)
    (hdecided : (t.commitDecisions.get? record.request.admissionId).isSome →
      (record.state = .prepared ∨ record.state = .committed) ∧ (next = .prepared ∨ next = .committed)) :
    AdmissionsSound t where
  keyed id after hafter := by
    by_cases hid : id = record.request.admissionId
    · subst hid
      obtain ⟨after', hafter', hrequest, hstate⟩ := h.admission
      cases hafter'.symm.trans hafter
      refine ⟨congrArg SchemaAdmissionRequest.admissionId hrequest, ?_⟩
      rcases hstate with hstate | hstate
      · rw [hstate]
        exact (hs.keyed _ record hrecord).2
      · rw [hstate]
        exact hnext
    · rw [h.admissions id hid] at hafter
      exact hs.keyed id after hafter
  decided id decision hdecision := by
    by_cases hid : id = record.request.admissionId
    · subst hid
      obtain ⟨hbefore, hafter⟩ := hdecided (by rw [hdecision]; rfl)
      obtain ⟨after, hget, -, hstate | hstate⟩ := h.admission
      · exact ⟨h.decision decision hdecision, after, hget, hstate ▸ hbefore⟩
      · exact ⟨h.decision decision hdecision, after, hget, hstate ▸ hafter⟩
    · rw [h.decisions id hid] at hdecision
      rw [h.admissions id hid]
      exact hs.decided id decision hdecision

end Advanced

attribute [local simp] Advances ReadsOwn

theorem approveSchemaAdmission_cases {command : ApproveSchemaAdmissionCommand}
    {out : Except ControlPlaneError SchemaAdmissionRecord}
    (hexec : Program.Exec (ControlPlaneRequest.Answers host port)
      (approveSchemaAdmission host command) w out w') (hw : AdmissionsSound w.store) :
    w' = w ∨ ∃ record, w.store.admissions.get? record.request.admissionId = some record ∧
      canTransitionAdmission record.state .authorized = true ∧ Advanced record .authorized w.store w'.store := by
  unfold approveSchemaAdmission at hexec
  rcases exec_bind_ensureNotFrozen.1 hexec with ⟨-, hget⟩ | ⟨-, -, rfl⟩
  rotate_left
  · exact .inl rfl
  obtain ⟨found, m, ⟨rfl, rfl⟩, hfound⟩ := exec_bind_ask.1 hget
  rcases exec_bind_orRefuse.1 hfound with ⟨record, hrecord, hcan⟩ | ⟨-, -, rfl⟩
  rotate_left
  · exact .inl rfl
  rcases exec_bind_deny.1 hcan with ⟨hcan, hrest⟩ | ⟨-, -, rfl⟩
  rotate_left
  · exact .inl rfl
  have hid := (hw.keyed _ record hrecord).1
  rw [← hid] at hrecord
  refine .inr ⟨record, hrecord, Bool.not_eq_false _ ▸ hcan, .of_exec hrest (Program.Asks.asksIf ?_) hw hrecord⟩
  refine .bind (asks_ask (by simp)) fun _ => .bind asks_orRefuse fun _ => .bind asks_orRefuse fun _ => ?_
  refine .bind asks_orRefuse fun _ => .bind ?_ fun _ => ?_
  · refine .bind asks_checked fun _ => .bind asks_checked fun _ => .bind asks_checked fun _ => ?_
    exact .bind (asks_ask (by simp)) fun _ => trivial
  refine .bind (asks_timestamp (by simp)) fun _ => .bind (asks_ask (by simp)) fun _ => ?_
  exact .bind (asks_logEvent (by simp) (by simp)) fun _ => trivial

theorem prepareSchemaAdmission_cases {command : PrepareSchemaAdmissionCommand}
    {out : Except ControlPlaneError PreparedAdmissionHandle}
    (hexec : Program.Exec (ControlPlaneRequest.Answers host port)
      (prepareSchemaAdmission host command) w out w') (hw : AdmissionsSound w.store) :
    w' = w ∨ ∃ record, w.store.admissions.get? record.request.admissionId = some record ∧
      canTransitionAdmission record.state .preparing = true ∧ Advanced record .prepared w.store w'.store := by
  unfold prepareSchemaAdmission at hexec
  rcases exec_bind_ensureNotFrozen.1 hexec with ⟨-, hget⟩ | ⟨-, -, rfl⟩
  rotate_left
  · exact .inl rfl
  obtain ⟨found, m, ⟨rfl, rfl⟩, hfound⟩ := exec_bind_ask.1 hget
  rcases exec_bind_orRefuse.1 hfound with ⟨record, hrecord, hrest⟩ | ⟨-, -, rfl⟩
  rotate_left
  · exact .inl rfl
  obtain ⟨hrecord, hcan⟩ := Option.filter_eq_some_iff.1 hrecord
  have hid := (hw.keyed _ record hrecord).1
  rw [← hid] at hrecord
  refine .inr ⟨record, hrecord, hcan, .of_exec hrest (Program.Asks.asksIf ?_) hw hrecord⟩
  refine .bind (asks_ask (by simp)) fun _ => .bind asks_orRefuse fun _ => ?_
  refine .bind asks_orRefuse fun _ => .bind asks_orRefuse fun _ => .bind asks_orRefuse fun _ => ?_
  refine .bind asks_orRefuse fun _ => .bind asks_orRefuse fun _ => .bind (asks_ask (by simp)) fun _ => ?_
  refine .bind asks_checked fun _ => .bind (asks_ask (by simp)) fun _ => .bind asks_orThrow fun _ => ?_
  refine .bind asks_orRefuse fun _ => .bind asks_checked fun _ => .bind asks_orRefuse fun _ => ?_
  refine .bind (asks_ask (by simp)) fun _ => .bind asks_checked fun _ => .bind (asks_ask (by simp)) fun _ => ?_
  refine .bind (asks_ask (by simp)) fun _ => .bind (asks_timestamp (by simp)) fun _ => ?_
  exact .bind (asks_ask (by simp)) fun _ => .bind (asks_logEvent (by simp) (by simp)) fun _ => trivial

/-! ## Commit and recovery -/

variable {request : SchemaAdmissionRequest} {α : Type}

theorem asksIf_ask {P : ControlPlaneRequest → Prop} {ok : (r : ControlPlaneRequest) → r.Response → Prop}
    {r : ControlPlaneRequest} {f : r.Response → ControlPlaneProgram α} {post : α → Prop} (h : P r)
    (hf : ∀ resp, ok r resp → (f resp).AsksIf ok P post) : (ask r >>= f).AsksIf ok P post :=
  ⟨h, hf⟩

theorem asksIf_orRefuse {P : ControlPlaneRequest → Prop} {ok : (r : ControlPlaneRequest) → r.Response → Prop}
    {x : Option α} {violation : ControlPlaneViolation} :
    (orRefuse x violation).AsksIf ok P fun a => x = some a := by
  cases x with
  | none => trivial
  | some a => exact rfl

theorem buildReceipt_advances {record : SchemaAdmissionRecord} {active toBinding : SchemaEpochBinding}
    {runtimeReceipt : RuntimeEpochReceipt} {planDigest : PlanDigest} {operator : String} :
    (buildReceipt host record active toBinding runtimeReceipt planDigest operator).Asks
      (Advances request .committed) :=
  .bind (asks_timestamp (by simp)) fun _ => .bind (asks_ask (by simp)) fun _ => trivial

theorem resolveRuntimeReceipt_advances {input : CommitAdmissionTransactionInput} {decision : CommitDecisionRecord}
    {toBinding : SchemaEpochBinding} (hdecision : decision.admissionId = request.admissionId) :
    (resolveRuntimeReceipt host input decision toBinding).AsksIf (ReadsOwn request) (Advances request .committed)
      fun resolved => resolved.2.admissionId = request.admissionId := by
  unfold resolveRuntimeReceipt
  split
  · exact .after (asks_ask (by simp)) fun _ => .after asks_checked fun _ => hdecision
  split
  · refine .after ?_ fun applied => ?_
    · refine .bind (asks_ask (by simp)) fun result => ?_
      cases result with
      | ok receipt => trivial
      | error e =>
          refine .bind (asks_ask (by simp)) fun recovered => ?_
          cases recovered <;> trivial
    · cases applied with
      | error violation =>
          exact .after (asks_timestamp (by simp)) fun _ => .after (asks_ask hdecision) fun _ => trivial
      | ok receipt =>
          refine .after asks_checked fun _ => .after asks_checked fun _ => ?_
          refine .after (asks_timestamp (by simp)) fun _ => ?_
          exact .after (asks_ask hdecision) fun _ => hdecision
  · trivial

theorem finalizeTransaction_advances {input : CommitAdmissionTransactionInput} {decision : CommitDecisionRecord}
    {toBinding : SchemaEpochBinding} {runtimeReceipt : RuntimeEpochReceipt} (hrecord : input.record.request = request)
    (hdecision : decision.admissionId = request.admissionId) :
    (finalizeTransaction host input decision toBinding runtimeReceipt).Asks (Advances request .committed) := by
  unfold finalizeTransaction
  refine .bind buildReceipt_advances fun _ => .bind (asks_ask (by simp)) fun _ => ?_
  refine .bind (asks_ask ⟨hrecord, rfl, hdecision⟩) fun _ => .bind asks_orThrow fun result => ?_
  cases result with
  | finalized => exact .bind (asks_ask (by simp)) fun _ => .bind (asks_ask (by simp)) fun _ => trivial
  | casConflict =>
      unfold handleFinalizeCasConflict
      refine .bind (asks_ask (by simp)) fun _ => ?_
      split
      · refine .bind (asks_ask (by simp)) fun _ => .bind (asks_ask ⟨hrecord, rfl⟩) fun _ => ?_
        exact .bind (asks_ask hdecision) fun _ => trivial
      · exact .bind (asks_timestamp (by simp)) fun _ => .bind (asks_ask hdecision) fun _ => trivial

theorem executeCommitAdmissionTransaction_advances {input : CommitAdmissionTransactionInput}
    (hrecord : input.record.request = request) (hid : input.admissionId = request.admissionId) :
    (executeCommitAdmissionTransaction host input).AsksIf (ReadsOwn request) (Advances request .committed)
      fun _ => True := by
  unfold executeCommitAdmissionTransaction
  refine .after (asks_ask (by simp)) fun _ => asksIf_ask (by simp) fun existing hexisting => ?_
  split
  · trivial
  refine .after (asks_timestamp (by simp)) fun _ => .after asks_orThrow fun toBinding => ?_
  refine .after (asks_timestamp (by simp)) fun updatedAt => ?_
  have hrest : ∀ decision : CommitDecisionRecord, decision.admissionId = request.admissionId → ((do
      let resolved ← resolveRuntimeReceipt host input decision toBinding
      finalizeTransaction host input resolved.2 toBinding resolved.1) :
        ControlPlaneProgram SchemaAdmissionReceipt).AsksIf (ReadsOwn request) (Advances request .committed)
          fun _ => True :=
    fun _ hdecision => (resolveRuntimeReceipt_advances hdecision).bind fun resolved hresolved =>
      (finalizeTransaction_advances hrecord hresolved).asksIf
  have hdecision : (existing.getD
      { admissionId := input.admissionId, preparedId := input.preparedId
        expectedBindingGeneration := input.active.bindingGeneration, status := .decided, toBinding := some toBinding
        operator := some input.operator, runtimeBeforeRef := none, runtimeAfterRef := none, updatedAt }).admissionId =
      request.admissionId := by
    cases existing with
    | none => exact hid
    | some decision => exact hexisting hid decision rfl
  dsimp only
  split
  · exact .after (asks_ask hdecision) fun _ => hrest _ hdecision
  · exact hrest _ hdecision

theorem recoverForwardCommit_advances {admissionId : SchemaAdmissionId} (hid : admissionId = request.admissionId) :
    (recoverForwardCommit host admissionId).AsksIf (ReadsOwn request) (Advances request .committed)
      fun _ => True := by
  unfold recoverForwardCommit
  refine asksIf_ask (by simp) fun found hfound => asksIf_orRefuse.bind fun decision hsome => ?_
  have hdecision := hfound hid decision hsome
  refine .after asks_orRefuse fun toBinding => .after ?_ fun finished => ?_
  · unfold finishedReceipt
    split
    · exact asks_ask (by simp)
    · trivial
  split
  · trivial
  refine .after asks_checked fun _ => asksIf_ask (by simp) fun found hfound => ?_
  refine asksIf_orRefuse.bind fun record hsome => ?_
  have hrecord := hfound hid record hsome
  refine .after (asks_ask (by simp)) fun _ => .after asks_orRefuse fun active => ?_
  refine .after (asks_ask (by simp)) fun _ => .after asks_checked fun recovered => ?_
  refine .after (asks_ask (by simp)) fun _ => ?_
  split
  · trivial
  refine .after asks_orRefuse fun _ => .after asks_orRefuse fun _ => .after asks_orRefuse fun _ => ?_
  unfold finalizeRecovery
  refine .after (asks_timestamp (by simp)) fun _ => .after (asks_timestamp (by simp)) fun _ => ?_
  refine .after (asks_ask (by simp)) fun _ => .after buildReceipt_advances fun _ => ?_
  refine .after (asks_ask ⟨hrecord, rfl, hdecision⟩) fun _ => .after asks_orThrow fun result => ?_
  cases result with
  | finalized => exact .after (asks_ask (by simp)) fun _ => .after (asks_ask (by simp)) fun _ => trivial
  | casConflict => trivial

theorem commitPrepared_advances {command : CommitSchemaAdmissionCommand} {record : SchemaAdmissionRecord}
    (hrecord : record.request = request) (hid : command.admissionId = request.admissionId) :
    (commitPrepared host command record).AsksIf (ReadsOwn request) (Advances request .committed) fun _ => True := by
  unfold commitPrepared
  refine .after asks_orRefuse fun _ => .after asks_orRefuse fun _ => .after (asks_ask (by simp)) fun _ => ?_
  refine .after asks_orRefuse fun _ => .after asks_orRefuse fun _ => .after (asks_ask (by simp)) fun _ => ?_
  refine .after asks_checked fun _ => .after (asks_ask (by simp)) fun consumed => ?_
  split
  · refine .after (asks_ask (by simp)) fun _ => ?_
    split
    · exact recoverForwardCommit_advances hid
    · trivial
  · refine .after asks_checked fun _ => .after (asks_ask (by simp)) fun _ => .after asks_checked fun _ => ?_
    exact .after asks_checked fun _ => executeCommitAdmissionTransaction_advances hrecord hid

theorem recoverForwardCommit_none {admissionId : SchemaAdmissionId} {out : Except ControlPlaneError SchemaAdmissionReceipt}
    (hexec : Program.Exec (ControlPlaneRequest.Answers host port)
      (recoverForwardCommit host admissionId) w out w') (hnone : w.store.commitDecisions.get? admissionId = none) :
    w' = w := by
  unfold recoverForwardCommit at hexec
  obtain ⟨found, m, ⟨rfl, rfl⟩, hrest⟩ := exec_bind_ask.1 hexec
  rcases exec_bind_orRefuse.1 hrest with ⟨decision, hsome, -⟩ | ⟨-, -, rfl⟩
  · cases hnone.symm.trans hsome
  · rfl

theorem recoverForwardCommit_cases {admissionId : SchemaAdmissionId} {out : Except ControlPlaneError SchemaAdmissionReceipt}
    (hexec : Program.Exec (ControlPlaneRequest.Answers host port)
      (recoverForwardCommit host admissionId) w out w') (hw : AdmissionsSound w.store) :
    w' = w ∨ ∃ record, w.store.admissions.get? record.request.admissionId = some record ∧
      (record.state = .prepared ∨ record.state = .committed) ∧ Advanced record .committed w.store w'.store := by
  cases hdecision : w.store.commitDecisions.get? admissionId with
  | none => exact .inl (recoverForwardCommit_none hexec hdecision)
  | some decision =>
      obtain ⟨-, record, hrecord, hstate⟩ := hw.decided admissionId decision hdecision
      obtain ⟨rfl, -⟩ := hw.keyed admissionId record hrecord
      exact .inr ⟨record, hrecord, hstate, .of_exec hexec (recoverForwardCommit_advances rfl) hw hrecord⟩

theorem commitSchemaAdmission_cases {command : CommitSchemaAdmissionCommand}
    {out : Except ControlPlaneError SchemaAdmissionReceipt}
    (hexec : Program.Exec (ControlPlaneRequest.Answers host port)
      (commitSchemaAdmission host command) w out w') (hw : AdmissionsSound w.store) :
    w' = w ∨ ∃ record, w.store.admissions.get? record.request.admissionId = some record ∧
      (record.state = .prepared ∨ record.state = .committed) ∧ Advanced record .committed w.store w'.store := by
  unfold commitSchemaAdmission at hexec
  rcases exec_bind_ensureNotFrozen.1 hexec with ⟨-, hget⟩ | ⟨-, -, rfl⟩
  rotate_left
  · exact .inl rfl
  obtain ⟨found, m, ⟨rfl, rfl⟩, hfound⟩ := exec_bind_ask.1 hget
  cases hprepared : (m.store.admissions.get? command.admissionId).filter fun record => record.state = .prepared with
  | some record =>
      rw [hprepared] at hfound
      obtain ⟨hrecord, hstate⟩ := Option.filter_eq_some_iff.1 hprepared
      have hid := (hw.keyed _ record hrecord).1
      rw [← hid] at hrecord
      exact .inr ⟨record, hrecord, .inl (of_decide_eq_true hstate),
        .of_exec hfound (commitPrepared_advances rfl hid.symm) hw hrecord⟩
  | none =>
      rw [hprepared] at hfound
      rcases Program.exec_handle.1 hfound with ⟨receipt, hrecover, -⟩ | ⟨e, m', hrecover, hrefuse⟩
      · exact recoverForwardCommit_cases hrecover hw
      · have hsame : w' = m' := by
          cases e with
          | violation violation => exact (Program.exec_fail.1 hrefuse).2
          | thrown message => exact (Program.exec_fail.1 hrefuse).2
        rw [hsame]
        exact recoverForwardCommit_cases hrecover hw

/-! ## One call -/

/-- Where a submission under a new key has a record stored under its admission id, this is awaiting
authorization. -/
def FreshSubmission (hashes : ContentHashes) (store : ControlPlaneStore) : ControlPlaneCall → Prop
  | .submitSchemaAdmission command => ∀ active candidate plan,
      SubmissionValid hashes store command active candidate plan →
        submissionQualification command active candidate plan = .ok () →
          store.idempotency.get? command.request.idempotencyKey = none →
            ∀ stored, store.admissions.get? command.request.admissionId = some stored →
              stored.state = .awaitingAuthorization
  | _ => True

theorem precedes_awaitingAuthorization_iff {state : SchemaAdmissionState} (h : state.Stored) :
    Precedes state .awaitingAuthorization ↔ state = .awaitingAuthorization := by
  constructor
  · intro hprecedes
    have hrank := hprecedes.rank_le
    rcases h with rfl | rfl | rfl | rfl
    · rfl
    all_goals exact absurd hrank (by decide)
  · rintro rfl
    exact .refl

theorem precedes_prepared : Precedes .authorized .prepared :=
  Relation.ReflTransGen.tail (b := .preparing) (.single rfl) rfl

theorem precedes_committed {state : SchemaAdmissionState} (h : state = .prepared ∨ state = .committed) :
    Precedes state .committed := by
  rcases h with rfl | rfl
  · exact .single rfl
  · exact .refl

variable {s t : ControlPlaneStore}

theorem AdmissionsSound.of_same (hs : AdmissionsSound s) (hadmissions : StorePart.admissions.Same s t)
    (hdecisions : StorePart.commitDecisions.Same s t) : AdmissionsSound t where
  keyed := by
    rw [show t.admissions = s.admissions from hadmissions]
    exact hs.keyed
  decided := by
    rw [show t.admissions = s.admissions from hadmissions, show t.commitDecisions = s.commitDecisions from hdecisions]
    exact hs.decided

theorem recordsMoveForward_set_iff (hs : AdmissionsSound s) {record : SchemaAdmissionRecord} {id : SchemaAdmissionId}
    (hstate : record.state = .awaitingAuthorization) (hwritten : t.admissions = s.admissions.set id record) :
    RecordsMoveForward s t ↔ ∀ stored, s.admissions.get? id = some stored → stored.state = .awaitingAuthorization := by
  constructor
  · intro h stored hstored
    obtain ⟨after, hafter, hprecedes, -⟩ := h id stored hstored
    rw [hwritten, OrdMap.get?_set_self] at hafter
    cases hafter
    rw [hstate] at hprecedes
    exact (precedes_awaitingAuthorization_iff (hs.keyed id stored hstored).2).1 hprecedes
  · intro h other
    by_cases hid : other = id
    · subst hid
      intro stored hstored
      refine ⟨record, by rw [hwritten, OrdMap.get?_set_self], ?_, ?_⟩
      · rw [h stored hstored, hstate]
        exact .refl
      · rw [h stored hstored]
        rintro (h | h) <;> cases h
    · rw [hwritten, OrdMap.get?_set_ne _ _ hid]
      exact .refl _

theorem AdmissionsSound.set (hs : AdmissionsSound s) {record : SchemaAdmissionRecord}
    (hstate : record.state = .awaitingAuthorization)
    (hwritten : t.admissions = s.admissions.set record.request.admissionId record)
    (hdecisions : t.commitDecisions = s.commitDecisions)
    (hfresh : ∀ stored, s.admissions.get? record.request.admissionId = some stored →
      stored.state = .awaitingAuthorization) : AdmissionsSound t where
  keyed id after hafter := by
    rw [hwritten, OrdMap.get?_set] at hafter
    split at hafter
    · rename_i hid
      cases hafter
      exact ⟨hid.symm, .inl hstate⟩
    · exact hs.keyed id after hafter
  decided id decision hdecision := by
    rw [hdecisions] at hdecision
    obtain ⟨hown, stored, hstored, hsettled⟩ := hs.decided id decision hdecision
    have hid : id ≠ record.request.admissionId := by
      rintro rfl
      rw [hfresh stored hstored] at hsettled
      rcases hsettled with h | h <;> cases h
    exact ⟨hown, stored, by rw [hwritten, OrdMap.get?_set_ne _ _ hid]; exact hstored, hsettled⟩

theorem Advanced.of_recovered {record : SchemaAdmissionRecord} (h : Advanced record .committed s t)
    (hs : AdmissionsSound s) (hrecord : s.admissions.get? record.request.admissionId = some record)
    (hstate : record.state = .prepared ∨ record.state = .committed) :
    RecordsMoveForward s t ∧ AdmissionsSound t := by
  refine ⟨h.recordsMoveForward hrecord (precedes_committed hstate) ?_, ?_⟩
  · rcases hstate with hstate | hstate
    · rw [hstate]
      rintro (h | h) <;> cases h
    · exact fun _ => hstate.symm
  · exact h.sound hs hrecord (.inr (.inr (.inr rfl))) fun _ => ⟨hstate, .inr rfl⟩

theorem AdmissionsSound.undecided (hs : AdmissionsSound s) {record : SchemaAdmissionRecord}
    (hrecord : s.admissions.get? record.request.admissionId = some record)
    (hstate : record.state = .awaitingAuthorization ∨ record.state = .authorized) :
    s.commitDecisions.get? record.request.admissionId = none := by
  cases hdecision : s.commitDecisions.get? record.request.admissionId with
  | none => rfl
  | some decision =>
      obtain ⟨-, stored, hstored, hsettled⟩ := hs.decided _ decision hdecision
      cases hrecord.symm.trans hstored
      rcases hstate with hstate | hstate <;> rw [hstate] at hsettled <;> rcases hsettled with h | h <;> cases h

theorem Advanced.of_undecided {record : SchemaAdmissionRecord} {next : SchemaAdmissionState}
    (h : Advanced record next s t) (hs : AdmissionsSound s)
    (hrecord : s.admissions.get? record.request.admissionId = some record)
    (hstate : record.state = .awaitingAuthorization ∨ record.state = .authorized)
    (hprecedes : Precedes record.state next) (hnext : next.Stored) (hdecisions : StorePart.commitDecisions.Same s t) :
    RecordsMoveForward s t ∧ AdmissionsSound t := by
  refine ⟨h.recordsMoveForward hrecord hprecedes ?_, h.sound hs hrecord hnext ?_⟩
  · rcases hstate with hstate | hstate <;> rw [hstate] <;> rintro (h | h) <;> cases h
  · rw [show t.commitDecisions = s.commitDecisions from hdecisions, hs.undecided hrecord hstate]
    intro hsome
    cases hsome

theorem SchemaAdmissionState.Stored.eq_of_can {state : SchemaAdmissionState} (h : state.Stored) :
    (canTransitionAdmission state .authorized = true → state = .awaitingAuthorization) ∧
      (canTransitionAdmission state .preparing = true → state = .authorized) := by
  rcases h with rfl | rfl | rfl | rfl <;> decide

theorem ControlPlaneCall.step_recordsMoveForward {call : ControlPlaneCall} (h : call.Step host port w w')
    (hw : AdmissionsSound w.store) :
    (RecordsMoveForward w.store w'.store ↔ FreshSubmission host.toContentHashes w.store call) ∧
      (FreshSubmission host.toContentHashes w.store call → AdmissionsSound w'.store) := by
  have hforward : RecordsMoveForward w.store w'.store ∧ AdmissionsSound w'.store →
      FreshSubmission host.toContentHashes w.store call →
        (RecordsMoveForward w.store w'.store ↔ FreshSubmission host.toContentHashes w.store call) ∧
          (FreshSubmission host.toContentHashes w.store call → AdmissionsSound w'.store) :=
    fun hboth hfresh => ⟨iff_of_true hboth.1 hfresh, fun _ => hboth.2⟩
  have hsame : StorePart.admissions.Same w.store w'.store → StorePart.commitDecisions.Same w.store w'.store →
      RecordsMoveForward w.store w'.store ∧ AdmissionsSound w'.store :=
    fun hadmissions hdecisions => ⟨recordsMoveForward_of_same hadmissions, hw.of_same hadmissions hdecisions⟩
  cases call with
  | submitSchemaAdmission command =>
      have hdecisions : StorePart.commitDecisions.Same w.store w'.store := step_frame h (by simp [parts])
      obtain ⟨out, hsubmitted⟩ := step_submission h
      cases hsubmitted with
      | refused hinvalid =>
          exact hforward (hsame rfl rfl) fun _ _ _ hvalid => absurd hvalid (hinvalid _ _ _)
      | unqualified hvalid hdenied =>
          refine hforward (hsame rfl rfl) fun _ _ _ hvalid' hqualified => ?_
          obtain ⟨rfl, rfl, rfl⟩ := hvalid.unique hvalid'
          cases hqualified.symm.trans hdenied
      | conflict hvalid hqualified htaken =>
          refine hforward (hsame rfl rfl) fun _ _ _ _ _ hnone => ?_
          cases htaken.symm.trans hnone
      | replay hvalid hqualified hclaimed =>
          refine hforward (hsame rfl rfl) fun _ _ _ _ _ hnone => ?_
          rw [ClaimedBySame, hnone] at hclaimed
          cases hclaimed
      | @stored active candidate plan qualifiedAt out w' hvalid hqualified hfree hclaimed hwritten =>
          have hstate : (submittedRecord command active candidate plan qualifiedAt).state = .awaitingAuthorization := rfl
          have hiff := recordsMoveForward_set_iff hw hstate hwritten
          have hfresh : (∀ stored, w.store.admissions.get? command.request.admissionId = some stored →
              stored.state = .awaitingAuthorization) ↔
                FreshSubmission host.toContentHashes w.store (.submitSchemaAdmission command) := by
            constructor
            · exact fun hstored _ _ _ _ _ _ => hstored
            · intro hfresh stored hstored
              rcases hfree with hnone | ⟨-, hnone⟩
              · exact hfresh active candidate plan hvalid hqualified hnone stored hstored
              · cases hnone.symm.trans hstored
          exact ⟨hiff.trans hfresh, fun hf => hw.set hstate hwritten hdecisions (hfresh.2 hf)⟩
  | approveSchemaAdmission command =>
      refine hforward ?_ trivial
      have hdecisions : StorePart.commitDecisions.Same w.store w'.store := step_frame h (by simp [parts])
      obtain ⟨_, hcall⟩ := h
      obtain ⟨out, hexec⟩ := exec_of_dropped hcall
      rcases approveSchemaAdmission_cases hexec hw with rfl | ⟨record, hrecord, hcan, hadvanced⟩
      · exact hsame rfl rfl
      · have hstate := (hw.keyed _ record hrecord).2.eq_of_can.1 hcan
        exact hadvanced.of_undecided hw hrecord (.inl hstate) (.single hcan) (.inr (.inl rfl)) hdecisions
  | prepareSchemaAdmission command =>
      refine hforward ?_ trivial
      have hdecisions : StorePart.commitDecisions.Same w.store w'.store := step_frame h (by simp [parts])
      obtain ⟨_, hcall⟩ := h
      obtain ⟨out, hexec⟩ := exec_of_dropped hcall
      rcases prepareSchemaAdmission_cases hexec hw with rfl | ⟨record, hrecord, hcan, hadvanced⟩
      · exact hsame rfl rfl
      · have hstate := (hw.keyed _ record hrecord).2.eq_of_can.2 hcan
        exact hadvanced.of_undecided hw hrecord (.inr hstate) (hstate ▸ precedes_prepared) (.inr (.inr (.inl rfl)))
          hdecisions
  | commitSchemaAdmission command =>
      refine hforward ?_ trivial
      obtain ⟨_, hcall⟩ := h
      obtain ⟨out, hexec⟩ := exec_of_dropped hcall
      rcases commitSchemaAdmission_cases hexec hw with rfl | ⟨record, hrecord, hstate, hadvanced⟩
      · exact hsame rfl rfl
      · exact hadvanced.of_recovered hw hrecord hstate
  | recoverSchemaAdmissionCommit admissionId =>
      refine hforward ?_ trivial
      obtain ⟨_, hcall⟩ := h
      obtain ⟨out, hexec⟩ := exec_of_dropped hcall
      rcases recoverForwardCommit_cases hexec hw with rfl | ⟨record, hrecord, hstate, hadvanced⟩
      · exact hsame rfl rfl
      · exact hadvanced.of_recovered hw hrecord hstate
  | _ =>
      exact hforward (hsame (step_frame h (by simp [parts])) (step_frame h (by simp [parts]))) trivial

/-! ## Runs -/

theorem admissionsSound_of_empty (hadmissions : s.admissions = .empty) (hdecisions : s.commitDecisions = .empty) :
    AdmissionsSound s where
  keyed id record hrecord := by
    rw [hadmissions] at hrecord
    cases hrecord
  decided id decision hdecision := by
    rw [hdecisions] at hdecision
    cases hdecision

/-- Along a run from a control plane without admissions, records move forward if and only if every submission
is fresh; in such a run a record that is committed or rejected keeps its request and its state. -/
theorem admission_records_move_forward_iff {R : Type} (host : ControlPlaneHost) (port : RuntimePort R)
    (w : ControlPlaneWorld R) (calls : List ControlPlaneCall)
    (hw : w.store.admissions = .empty ∧ w.store.commitDecisions = .empty) :
    (Run.Every (fun w call w' => ControlPlaneCall.Step host port w call w')
        (fun m _ m' => RecordsMoveForward m.store m'.store) w calls ↔
      Run.Every (fun w call w' => ControlPlaneCall.Step host port w call w')
        (fun m call _ => FreshSubmission host.toContentHashes m.store call) w calls) ∧
    (Run.Every (fun w call w' => ControlPlaneCall.Step host port w call w')
        (fun m call _ => FreshSubmission host.toContentHashes m.store call) w calls →
      ∀ pre post m t id record, calls = pre ++ post →
        Run (fun w call w' => ControlPlaneCall.Step host port w call w') w pre m →
        Run (fun w call w' => ControlPlaneCall.Step host port w call w') m post t →
        m.store.admissions.get? id = some record → record.state = .committed ∨ record.state = .rejected →
        ∃ after, t.store.admissions.get? id = some after ∧ after.request = record.request ∧
          after.state = record.state) := by
  have hiff : Run.Every (fun w call w' => ControlPlaneCall.Step host port w call w')
        (fun m _ m' => RecordsMoveForward m.store m'.store) w calls ↔
      Run.Every (fun w call w' => ControlPlaneCall.Step host port w call w')
        (fun m call _ => FreshSubmission host.toContentHashes m.store call) w calls :=
    Run.every_congr_of_preserved (I := fun m : ControlPlaneWorld R => AdmissionsSound m.store)
      (admissionsSound_of_empty hw.1 hw.2) fun _ _ _ hstep hm => ControlPlaneCall.step_recordsMoveForward hstep hm
  refine ⟨hiff, ?_⟩
  rintro hfresh pre post m t id record rfl hpre hpost hrecord hsettled
  refine hpost.invariant_of_every (P := fun m _ m' => RecordsMoveForward m.store m'.store)
    (I := fun n => ∃ after, n.store.admissions.get? id = some after ∧ after.request = record.request ∧
      after.state = record.state) ?_ ?_ ⟨record, hrecord, rfl, rfl⟩
  · intro mid call rest n n' heq hrun hstep
    exact hiff.2 hfresh (pre ++ mid) call rest n n' (by rw [heq, List.append_assoc]) (hpre.append hrun) hstep
  · rintro n call n' - hmove ⟨before, hbefore, hrequest, hstate⟩
    obtain ⟨after, hafter, -, hkeeps⟩ := hmove id before hbefore
    obtain ⟨hrequest', hstate'⟩ := hkeeps (hstate ▸ hsettled)
    exact ⟨after, hafter, hrequest'.trans hrequest, hstate'.trans hstate⟩

theorem admission_records_move_forward_iff_submitted :
    Run.Every (fun w call w' => ControlPlaneCall.Step sampleHost idleRuntime.toPort w call w')
        (fun m _ m' => RecordsMoveForward m.store m'.store) (submissionWorld ())
        [.submitSchemaAdmission (sampleSubmission "adm-1" "key-1" none)] ↔
      Run.Every (fun w call w' => ControlPlaneCall.Step sampleHost idleRuntime.toPort w call w')
        (fun m call _ => FreshSubmission sampleHost.toContentHashes m.store call) (submissionWorld ())
        [.submitSchemaAdmission (sampleSubmission "adm-1" "key-1" none)] :=
  (admission_records_move_forward_iff sampleHost idleRuntime.toPort (submissionWorld ()) _ ⟨rfl, rfl⟩).1

/-- A record that was approved is put back by a submission of its id under another key. -/
theorem authorized_record_put_back :
    ¬ ∀ (host : ControlPlaneHost) (port : RuntimePort Unit) (w : ControlPlaneWorld Unit) (calls : List ControlPlaneCall),
        w.store.admissions = .empty ∧ w.store.commitDecisions = .empty →
          Run.Every (fun w call w' => ControlPlaneCall.Step host port w call w')
            (fun m _ m' => RecordsMoveForward m.store m'.store) w calls := by
  intro hall
  have hruns : ((idleRuntime.calls? sampleHost (submissionWorld ())
      [.submitSchemaAdmission (sampleSubmission "adm-1" "key-1" none),
        .approveSchemaAdmission { context := sampleAdministrator "bob", admissionId := "adm-1" }]).any fun m =>
      (m.store.admissions.get? "adm-1").map (fun stored => stored.state) = some .authorized &&
        (idleRuntime.call? sampleHost m (.submitSchemaAdmission (sampleSubmission "adm-1" "key-2" none))).any
          fun m' => (m'.store.admissions.get? "adm-1").map (fun stored => stored.state) =
            some .awaitingAuthorization) = true := by
    decide +kernel
  obtain ⟨m, hfirst, hsecond⟩ := (Option.any_eq_true _ _).1 hruns
  obtain ⟨hbefore, hsecond⟩ := Bool.and_eq_true_iff.1 hsecond
  obtain ⟨m', hlast, hafter⟩ := (Option.any_eq_true _ _).1 hsecond
  obtain ⟨before, hbefore, hauthorized⟩ := Option.map_eq_some_iff.1 (of_decide_eq_true hbefore)
  obtain ⟨after, hafter, hawaiting⟩ := Option.map_eq_some_iff.1 (of_decide_eq_true hafter)
  obtain ⟨after', hafter', hprecedes, -⟩ := hall sampleHost idleRuntime.toPort (submissionWorld ())
    [.submitSchemaAdmission (sampleSubmission "adm-1" "key-1" none),
      .approveSchemaAdmission { context := sampleAdministrator "bob", admissionId := "adm-1" },
      .submitSchemaAdmission (sampleSubmission "adm-1" "key-2" none)] ⟨rfl, rfl⟩
    [.submitSchemaAdmission (sampleSubmission "adm-1" "key-1" none),
      .approveSchemaAdmission { context := sampleAdministrator "bob", admissionId := "adm-1" }] _ [] m m' rfl
    (idleRuntime.run_of_calls? hfirst) (idleRuntime.step_of_call? hlast) "adm-1" before hbefore
  cases hafter.symm.trans hafter'
  rw [hauthorized, hawaiting] at hprecedes
  exact absurd hprecedes.rank_le (by decide)

end Cantilune
