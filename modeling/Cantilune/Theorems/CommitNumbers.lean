import Cantilune.ControlPlane.Sections
import Cantilune.Theorems.CommitRejections

/-!
# The numbers of committed admissions

A receipt carries the number of the event that announces its commit. A commit builds the receipt before it draws the
event, a recovery draws the event first; other calls draw numbers in between, and a number that is drawn and not used
leaves a gap.
-/

namespace Cantilune

open ControlPlaneProgram

variable {R : Type} {host : ControlPlaneHost} {port : RuntimePort R}

/-! ## Receipts and their events -/

def ControlPlaneEventEnvelope.announces (id : SchemaAdmissionId) (event : ControlPlaneEventEnvelope) : Prop :=
  event.kind = .schemaAdmissionCommitted ∧
    match event.payload with
    | .committed admissionId _ _ _ _ => admissionId = id
    | .toolSurface admissionId _ => admissionId = id
    | _ => False

def Announced (events : List ControlPlaneEventEnvelope) (id : SchemaAdmissionId) (number : Nat) : Prop :=
  ∃ event ∈ events, event.announces id ∧ event.storeSequence = number

/-- The events are numbered without gap, and a committed admission has a receipt with the number of its event. -/
structure CommitNumbersAgree (store : ControlPlaneStore) : Prop where
  withoutGap : (store.events.map ControlPlaneEventEnvelope.storeSequence).IsChain fun m n => n = m + 1
  receipts : ∀ id record, store.admissions.get? id = some record → record.state = .committed →
    ∃ receipt, store.commitReceipts.get? id = some receipt ∧ Announced store.events id receipt.storeSequence

/-- What the store keeps up: the events are numbered from one to the sequence, the admissions are stored under their own
ids, and every receipt has its event. -/
structure NumberedCommits (store : ControlPlaneStore) : Prop where
  consecutive : store.events.map ControlPlaneEventEnvelope.storeSequence = List.range' 1 store.sequence
  keyed : ∀ id record, store.admissions.get? id = some record → record.request.admissionId = id
  receipts : ∀ id receipt, store.commitReceipts.get? id = some receipt →
    Announced store.events id receipt.storeSequence
  committed : ∀ id record, store.admissions.get? id = some record → record.state = .committed →
    (store.commitReceipts.get? id).isSome

namespace NumberedCommits

variable {s t : ControlPlaneStore}

theorem agree (h : NumberedCommits s) : CommitNumbersAgree s where
  withoutGap := by
    rw [h.consecutive]
    exact List.isChain_range' 1 s.sequence 1
  receipts id record hrecord hcommitted := by
    obtain ⟨receipt, hreceipt⟩ := Option.isSome_iff_exists.1 (h.committed id record hrecord hcommitted)
    exact ⟨receipt, hreceipt, h.receipts id receipt hreceipt⟩

theorem congr (h : NumberedCommits s) (hevents : t.events = s.events) (hsequence : t.sequence = s.sequence)
    (hadmissions : t.admissions = s.admissions) (hreceipts : t.commitReceipts = s.commitReceipts) :
    NumberedCommits t where
  consecutive := by rw [hevents, hsequence, h.consecutive]
  keyed := by
    rw [hadmissions]
    exact h.keyed
  receipts := by
    rw [hreceipts, hevents]
    exact h.receipts
  committed := by
    rw [hadmissions, hreceipts]
    exact h.committed

theorem numbered (h : NumberedCommits s) : EventsNumbered s := by
  intro event hevent
  have hmem : event.storeSequence ∈ List.range' 1 s.sequence :=
    h.consecutive ▸ List.mem_map_of_mem hevent
  rw [List.mem_range'_1] at hmem
  omega

theorem putAdmission (h : NumberedCommits s) {record : SchemaAdmissionRecord}
    (hcommits : record.state = .committed → (s.commitReceipts.get? record.request.admissionId).isSome) :
    NumberedCommits (s.putAdmission record) where
  consecutive := h.consecutive
  keyed id stored hstored := by
    rw [ControlPlaneStore.putAdmission, OrdMap.get?_set] at hstored
    split at hstored
    · rename_i hid
      cases hstored
      exact hid.symm
    · exact h.keyed id stored hstored
  receipts := h.receipts
  committed id stored hstored hcommitted := by
    rw [ControlPlaneStore.putAdmission, OrdMap.get?_set] at hstored
    split at hstored
    · rename_i hid
      cases hstored
      rw [hid]
      exact hcommits hcommitted
    · exact h.committed id stored hstored hcommitted

theorem append (h : NumberedCommits s) {event : ControlPlaneEventEnvelope}
    {receipts : OrdMap SchemaAdmissionId SchemaAdmissionReceipt} (hnumber : event.storeSequence = s.sequence + 1)
    (hreceipts : ∀ id receipt, receipts.get? id = some receipt →
      s.commitReceipts.get? id = some receipt ∨
        event.announces id ∧ receipt.storeSequence = event.storeSequence)
    (hkept : ∀ id, (s.commitReceipts.get? id).isSome → (receipts.get? id).isSome) :
    NumberedCommits { s with
      events := s.events ++ [event], sequence := s.sequence + 1, commitReceipts := receipts } where
  consecutive := by
    rw [List.map_append, h.consecutive, List.map_singleton, hnumber, List.range'_1_concat, Nat.add_comm]
  keyed := h.keyed
  receipts id receipt hreceipt := by
    rcases hreceipts id receipt hreceipt with hold | ⟨hannounces, hsame⟩
    · obtain ⟨other, hother, hannounces⟩ := h.receipts id receipt hold
      exact ⟨other, List.mem_append_left _ hother, hannounces⟩
    · exact ⟨event, List.mem_append_right _ (List.mem_singleton_self event), hannounces, hsame.symm⟩
  committed id record hrecord hcommitted := hkept id (h.committed id record hrecord hcommitted)

theorem append_receipt (h : NumberedCommits s) {event : ControlPlaneEventEnvelope} {receipt : SchemaAdmissionReceipt}
    (hnumber : event.storeSequence = s.sequence + 1) (hreceipt : receipt.storeSequence = s.sequence + 1)
    (hannounces : event.announces receipt.admissionId) :
    NumberedCommits { s with
      events := s.events ++ [event]
      sequence := s.sequence + 1
      commitReceipts := s.commitReceipts.set receipt.admissionId receipt } := by
  refine h.append hnumber (fun id stored hstored => ?_) fun id hid => ?_
  · rw [OrdMap.get?_set] at hstored
    split at hstored
    · rename_i hkey
      cases hstored
      exact .inr ⟨hkey ▸ hannounces, hreceipt.trans hnumber.symm⟩
    · exact .inl hstored
  · rw [OrdMap.get?_set]
    split
    · rfl
    · exact hid

end NumberedCommits

/-! ## Requests -/

/-- The request draws no number, appends no event and stores neither an admission nor a receipt. -/
def ControlPlaneRequest.leavesNumbers : ControlPlaneRequest → Bool
  | .putAdmission _ | .putCommitReceipt _ | .finalizeAdmissionCommit _ | .nextEvent _ _ _ _ | .appendEvent _ => false
  | _ => true

section Requests
variable {r : ControlPlaneRequest} {resp : r.Response} {w w' : ControlPlaneWorld R}

theorem ControlPlaneRequest.leavesNumbers_writes (hr : r.leavesNumbers = true) :
    .events ∉ r.writes ∧ .admissions ∉ r.writes ∧ .commitReceipts ∉ r.writes := by
  cases r with
  | putAdmission | putCommitReceipt | finalizeAdmissionCommit | nextEvent | appendEvent => cases hr
  | _ => simp [writes]

theorem registerRevision_sequence {store after : ControlPlaneStore} {revision : SchemaRevision}
    (h : store.registerRevision host.toContentHashes revision = .ok after) : after.sequence = store.sequence := by
  unfold ControlPlaneStore.registerRevision at h
  split at h
  · cases h
  split at h
  · split at h
    · cases h
      rfl
    · cases h
  · cases h
    rfl

theorem registerPolicy_sequence {store after : ControlPlaneStore} {revision : PolicyRevision}
    (h : store.registerPolicy host.toContentHashes revision = .ok after) : after.sequence = store.sequence := by
  unfold ControlPlaneStore.registerPolicy at h
  split at h
  · cases h
  · cases h
    rfl

theorem ControlPlaneRequest.answers_sequence (h : r.Answers host port w resp w') (hr : r.leavesNumbers = true) :
    w'.store.sequence = w.store.sequence := by
  cases r with
  | putAdmission | putCommitReceipt | finalizeAdmissionCommit | nextEvent | appendEvent => cases hr
  | registerRevision revision =>
      obtain ⟨-, rfl⟩ := ControlPlaneWorld.answered_eq h
      dsimp only
      cases hregistered : w.store.registerRevision host.toContentHashes revision with
      | error message => rfl
      | ok after => exact registerRevision_sequence hregistered
  | registerPolicy revision =>
      obtain ⟨-, rfl⟩ := ControlPlaneWorld.answered_eq h
      dsimp only
      cases hregistered : w.store.registerPolicy host.toContentHashes revision with
      | error message => rfl
      | ok after => exact registerPolicy_sequence hregistered
  | casActiveBinding domainId generation next =>
      obtain ⟨-, rfl⟩ := ControlPlaneWorld.answered_eq h
      dsimp only [ControlPlaneStore.casActiveBinding]
      split <;> rfl
  | consumePrepared id =>
      obtain ⟨-, rfl⟩ := ControlPlaneWorld.answered_eq h
      dsimp only [ControlPlaneStore.consumePrepared]
      split
      · rfl
      · split <;> rfl
  | claimIdempotency key digest =>
      obtain ⟨-, rfl⟩ := ControlPlaneWorld.answered_eq h
      dsimp only [ControlPlaneStore.claimIdempotency]
      split
      · rfl
      · split <;> rfl
  | setFrozen | putPrepared | putCommitDecision | releaseIdempotency => exact congrArg (fun w => w.store.sequence) h
  | _ => rw [answers_keepsStore h rfl]

theorem ControlPlaneRequest.answers_leavesNumbers (hr : r.leavesNumbers = true)
    (h : r.Answers host port w resp w') (hw : NumberedCommits w.store) : NumberedCommits w'.store := by
  obtain ⟨hevents, hadmissions, hreceipts⟩ := leavesNumbers_writes hr
  exact hw.congr (answers_frame h hevents) (answers_sequence h hr) (answers_frame h hadmissions)
    (answers_frame h hreceipts)

end Requests

/-! ## Parts of the calls -/

section Parts
variable {α β : Type}

abbrev KeepsNumbers (host : ControlPlaneHost) (port : RuntimePort R) (p : ControlPlaneProgram α)
    (V : α → Prop) : Prop :=
  Program.Upholds (ControlPlaneRequest.Answers host port)
    (fun w => NumberedCommits w.store) p V

abbrev AnyValue : α → Prop := fun _ => True

theorem keeps_ask {r : ControlPlaneRequest} (hr : r.leavesNumbers = true) : KeepsNumbers host port (ask r) AnyValue :=
  Program.upholds_request fun _ _ _ hw hact => ⟨ControlPlaneRequest.answers_leavesNumbers hr hact hw, trivial⟩

theorem keeps_getAdmission {id : SchemaAdmissionId} :
    KeepsNumbers host port (ask (.getAdmission id)) fun found =>
      ∀ record, found = some record → record.request.admissionId = id := by
  refine Program.upholds_request ?_
  rintro w _ _ hw ⟨rfl, rfl⟩
  exact ⟨hw, hw.keyed id⟩

theorem keeps_putAdmission {record : SchemaAdmissionRecord} (hstate : record.state ≠ .committed) :
    KeepsNumbers host port (ask (.putAdmission record)) AnyValue := by
  refine Program.upholds_request ?_
  rintro w _ _ hw rfl
  exact ⟨hw.putAdmission fun hcommitted => absurd hcommitted hstate, trivial⟩

theorem keeps_refuse {violation : ControlPlaneViolation} {V : α → Prop} :
    KeepsNumbers host port (refuse violation) V := Program.upholds_fail

theorem keeps_checked {x : Except ControlPlaneViolation α} : KeepsNumbers host port (checked x) AnyValue := by
  cases x with
  | ok a => exact Program.upholds_done trivial
  | error violation => exact keeps_refuse

theorem keeps_orThrow {x : Except String α} : KeepsNumbers host port (orThrow x) AnyValue := by
  cases x with
  | ok a => exact Program.upholds_done trivial
  | error message => exact Program.upholds_fail

theorem keeps_orRefuse {x : Option α} {violation : ControlPlaneViolation} :
    KeepsNumbers host port (orRefuse x violation) fun a => x = some a := by
  cases x with
  | some a => exact Program.upholds_done rfl
  | none => exact keeps_refuse

theorem keeps_ensureNotFrozen {phase : ControlPlanePhase} :
    KeepsNumbers host port (ensureNotFrozen phase) AnyValue :=
  .bind (keeps_ask rfl) fun _ _ => keeps_checked

theorem keeps_timestamp : KeepsNumbers host port (timestamp host) AnyValue :=
  .bind (keeps_ask rfl) fun _ _ => Program.upholds_done trivial

theorem exec_logEvent {kind : ControlPlaneEventKind} {actor : String} {payload : ControlPlaneEventPayload}
    {key : Option IdempotencyKey} {out : Except ControlPlaneError ControlPlaneEventEnvelope}
    {w w' : ControlPlaneWorld R} (hw : EventsNumbered w.store)
    (h : Program.Exec (ControlPlaneRequest.Answers host port)
      (logEvent kind actor payload key) w out w') :
    ∃ event, out = .ok event ∧ event.storeSequence = w.store.sequence + 1 ∧ event.kind = kind ∧
      event.payload = payload ∧
      w'.store = { w.store with events := w.store.events ++ [event], sequence := w.store.sequence + 1 } := by
  obtain ⟨event, m, ⟨eventId, time, hnew, hdrawn⟩, h⟩ := exec_bind_ask.1 h
  obtain ⟨rfl, rfl⟩ := ControlPlaneWorld.answered_eq hdrawn
  obtain ⟨done, m', happended, h⟩ := exec_bind_ask.1 h
  have happend := @appendEvent_eq_ok
    (w.store.nextEvent kind actor payload key eventId (host.toISOString time)).2
    (w.store.nextEvent kind actor payload key eventId (host.toISOString time)).1
    (fun other hother => Nat.lt_succ_of_le (hw other hother)) hnew
  obtain ⟨rfl, rfl⟩ := ControlPlaneWorld.answered_eq happended
  rw [happend] at h
  obtain ⟨rfl, rfl⟩ := Program.exec_done.1 h
  exact ⟨_, rfl, rfl, rfl, rfl, rfl⟩

theorem keeps_logEvent {kind : ControlPlaneEventKind} {actor : String} {payload : ControlPlaneEventPayload}
    {key : Option IdempotencyKey} : KeepsNumbers host port (logEvent kind actor payload key) AnyValue := by
  intro w out w' hw h
  obtain ⟨event, -, hnumber, -, -, hstore⟩ := exec_logEvent hw.numbered h
  refine ⟨?_, fun _ _ => trivial⟩
  show NumberedCommits w'.store
  rw [hstore]
  exact hw.append hnumber (fun id receipt hreceipt => .inl hreceipt) fun id hid => hid

end Parts

/-! ## Calls that do not wait -/

theorem registerSchemaRevision_numbers {command : RegisterSchemaRevisionCommand} :
    KeepsNumbers host port (registerSchemaRevision host command) AnyValue := by
  unfold registerSchemaRevision
  refine .bind keeps_ensureNotFrozen fun _ _ => .bind (keeps_ask rfl) fun _ _ => ?_
  refine .bind keeps_orThrow fun _ _ => .bind keeps_checked fun _ _ => .bind (keeps_ask rfl) fun _ _ => ?_
  exact .bind keeps_orThrow fun _ _ => .bind keeps_logEvent fun _ _ => Program.upholds_done trivial

theorem validateSubmission_numbers {command : SubmitSchemaAdmissionCommand} :
    KeepsNumbers host port (validateSubmission command) AnyValue := by
  unfold validateSubmission
  refine .bind keeps_ensureNotFrozen fun _ _ => .bind (keeps_ask rfl) fun _ _ => .bind keeps_checked fun _ _ => ?_
  refine .bind (keeps_ask rfl) fun _ _ => .bind keeps_orThrow fun _ _ => .bind keeps_orRefuse fun _ _ => ?_
  refine .bind (keeps_ask rfl) fun _ _ => .bind keeps_orThrow fun _ _ => .bind keeps_orRefuse fun _ _ => ?_
  exact .bind keeps_checked fun _ _ => Program.upholds_done trivial

theorem storeSubmission_numbers {command : SubmitSchemaAdmissionCommand} {record : SchemaAdmissionRecord}
    (hstate : record.state ≠ .committed) : KeepsNumbers host port (storeSubmission command record) AnyValue := by
  unfold storeSubmission claimOrReplayAdmission
  refine .bind (V := AnyValue) (.bind (keeps_ask rfl) fun claim _ => ?_) fun existing _ => ?_
  · cases claim with
    | conflict => exact keeps_refuse
    | replay => exact keeps_ask rfl
    | claimed => exact Program.upholds_done trivial
  · cases existing with
    | some existing => exact Program.upholds_done trivial
    | none =>
        refine .bind (keeps_putAdmission hstate) fun _ _ => .bind keeps_logEvent fun _ _ => ?_
        exact .bind keeps_logEvent fun _ _ => Program.upholds_done trivial

theorem submitSchemaAdmission_numbers {command : SubmitSchemaAdmissionCommand} :
    KeepsNumbers host port (submitSchemaAdmission host command) AnyValue := by
  unfold submitSchemaAdmission admitSubmission qualify
  refine .bind validateSubmission_numbers fun validated _ => ?_
  refine .bind (V := AnyValue) (.handle ?_ fun e => ?_) fun qualification _ => storeSubmission_numbers nofun
  · exact .bind keeps_checked fun _ _ => .bind keeps_timestamp fun _ _ => Program.upholds_done trivial
  · exact .bind (keeps_ask rfl) fun _ _ => Program.upholds_fail

theorem approveSchemaAdmission_numbers {command : ApproveSchemaAdmissionCommand} :
    KeepsNumbers host port (approveSchemaAdmission host command) AnyValue := by
  unfold approveSchemaAdmission authorize
  refine .bind keeps_ensureNotFrozen fun _ _ => .bind (keeps_ask rfl) fun _ _ => .bind keeps_orRefuse fun _ _ => ?_
  refine .bind keeps_checked fun _ _ => .bind (keeps_ask rfl) fun _ _ => .bind keeps_orRefuse fun _ _ => ?_
  refine .bind keeps_orRefuse fun _ _ => .bind keeps_orRefuse fun _ _ => .bind (V := AnyValue) ?_ fun _ _ => ?_
  · refine .bind keeps_checked fun _ _ => .bind keeps_checked fun _ _ => .bind keeps_checked fun _ _ => ?_
    exact .bind (keeps_ask rfl) fun _ _ => Program.upholds_done trivial
  · refine .bind keeps_timestamp fun _ _ => .bind (keeps_putAdmission nofun) fun _ _ => ?_
    exact .bind keeps_logEvent fun _ _ => Program.upholds_done trivial

theorem activatePolicyRevision_numbers {command : ActivatePolicyRevisionCommand} :
    KeepsNumbers host port (activatePolicyRevision host command) AnyValue := by
  unfold activatePolicyRevision
  refine .bind keeps_ensureNotFrozen fun _ _ => .bind keeps_checked fun _ _ => .bind keeps_orRefuse fun _ _ => ?_
  refine .bind keeps_checked fun _ _ => .bind (keeps_ask rfl) fun _ _ => .bind keeps_orRefuse fun _ _ => ?_
  refine .bind keeps_checked fun _ _ => .bind keeps_checked fun _ _ => .bind (keeps_ask rfl) fun _ _ => ?_
  refine .bind keeps_orThrow fun _ _ => .bind (keeps_ask rfl) fun _ _ => .bind keeps_checked fun _ _ => ?_
  refine .bind (keeps_ask rfl) fun _ _ => .bind (keeps_ask rfl) fun _ _ => .bind keeps_logEvent fun _ _ => ?_
  exact .bind (keeps_ask rfl) fun _ _ => Program.upholds_done trivial

theorem receipt_then_event_numbers {receipt : Nat → SchemaAdmissionReceipt} {actor : String}
    {payload : ControlPlaneEventPayload} (hreceipt : ∀ sequence, (receipt sequence).storeSequence = sequence + 1)
    (hannounces : ∀ sequence (event : ControlPlaneEventEnvelope), event.kind = .schemaAdmissionCommitted →
      event.payload = payload →
      event.announces (receipt sequence).admissionId) :
    KeepsNumbers host port (do
      let sequence ← ask .lastSequence
      ask (.putCommitReceipt (receipt sequence))
      let _ ← logEvent .schemaAdmissionCommitted actor payload
      .done (receipt sequence)) AnyValue := by
  intro w out w' hw h
  obtain ⟨sequence, m, ⟨rfl, rfl⟩, h⟩ := exec_bind_ask.1 h
  obtain ⟨-, m, rfl, h⟩ := exec_bind_ask.1 h
  rcases Program.exec_bind.1 h with ⟨a, m, hlogged, h⟩ | ⟨e, hlogged, rfl⟩
  · obtain ⟨event, -, hnumber, hkind, hpayload, hstore⟩ := exec_logEvent (by exact hw.numbered) hlogged
    obtain ⟨rfl, rfl⟩ := Program.exec_done.1 h
    refine ⟨?_, fun _ _ => trivial⟩
    show NumberedCommits w'.store
    rw [hstore]
    exact hw.append_receipt hnumber (hreceipt _) (hannounces _ event hkind hpayload)
  · obtain ⟨event, hout, -⟩ := exec_logEvent (by exact hw.numbered) hlogged
    cases hout

theorem commitToolSurfaceEpoch_numbers {operator : String} {currentEpoch : Option String} :
    KeepsNumbers host port (commitToolSurfaceEpoch host operator currentEpoch) AnyValue := by
  unfold commitToolSurfaceEpoch
  refine .bind keeps_ensureNotFrozen fun _ _ => .bind (keeps_ask rfl) fun _ _ => .bind keeps_orRefuse fun _ _ => ?_
  refine .bind (keeps_ask rfl) fun _ _ => .bind keeps_timestamp fun _ _ => .bind keeps_orThrow fun _ _ => ?_
  refine .bind (keeps_ask rfl) fun _ _ => .bind keeps_checked fun _ _ => ?_
  exact receipt_then_event_numbers (fun _ => rfl) fun _ event hkind hpayload => ⟨hkind, by rw [hpayload]⟩

theorem setFleetRollout_numbers {context : AdministrationContext} {domainId : ActivationDomainId}
    {targetBinding : SchemaEpochBinding} {runtimeInstanceIds : List String} :
    KeepsNumbers host port (setFleetRollout context domainId targetBinding runtimeInstanceIds) AnyValue :=
  .bind keeps_ensureNotFrozen fun _ _ => .bind keeps_logEvent fun _ _ => Program.upholds_done trivial

theorem acknowledgeRuntimeInstance_numbers {context : AdministrationContext} {runtimeInstanceId : String}
    {observedBinding : SchemaEpochBinding} :
    KeepsNumbers host port (acknowledgeRuntimeInstance context runtimeInstanceId observedBinding) AnyValue :=
  .bind keeps_ensureNotFrozen fun _ _ => .bind keeps_logEvent fun _ _ => Program.upholds_done trivial

/-! ## Waits -/

/-- A commit is about the record that is stored under its admission. -/
def ControlPlanePoint.Keyed : ControlPlanePoint → Prop
  | .committed input _ _ _ | .reapplied input _ _ _ _ | .confirmed input _ _ _ | .finalizing input _ _ _ =>
      input.record.request.admissionId = input.admissionId
  | _ => True

def ControlPlaneWait.Keyed : ControlPlaneWait → Prop
  | .asking r next => r.leavesNumbers = true ∧ ∀ answer, (next answer).Keyed
  | .turn point => point.Keyed

abbrev SectionKeeps (host : ControlPlaneHost) (port : RuntimePort R) (p : ControlPlaneSection) : Prop :=
  KeepsNumbers host port p fun ended => ∀ wait, ended = some wait → wait.Keyed

theorem sectionKeeps_wait {wait : ControlPlaneWait} (h : wait.Keyed) :
    SectionKeeps host port (.done (some wait)) := by
  refine Program.upholds_done ?_
  rintro _ ⟨⟩
  exact h

theorem sectionKeeps_end : SectionKeeps host port (.done none) := by
  refine Program.upholds_done ?_
  rintro _ ⟨⟩

theorem sectionKeeps_ending {α : Type} {p : ControlPlaneProgram α} (h : KeepsNumbers host port p AnyValue) :
    SectionKeeps host port (ending p) := .bind h fun _ _ => sectionKeeps_end

theorem preparationStart_numbers {command : PrepareSchemaAdmissionCommand} :
    SectionKeeps host port (preparationStart command) := by
  unfold preparationStart
  refine .bind keeps_ensureNotFrozen fun _ _ => .bind (keeps_ask rfl) fun _ _ => .bind keeps_orRefuse fun _ _ => ?_
  refine .bind (keeps_ask rfl) fun _ _ => .bind keeps_orRefuse fun _ _ => .bind keeps_orRefuse fun _ _ => ?_
  refine .bind keeps_orRefuse fun _ _ => .bind keeps_orRefuse fun _ _ => .bind keeps_orRefuse fun _ _ => ?_
  exact .bind keeps_orRefuse fun _ _ => sectionKeeps_wait ⟨rfl, fun _ => trivial⟩

theorem conformedSection_numbers {command : PrepareSchemaAdmissionCommand} {record : SchemaAdmissionRecord}
    {active : SchemaEpochBinding} {targetSchemaRef : SchemaRef} {subject : AdmissionEvidenceSubject}
    {verified : Except (List String) VerifiedFourViewEvidence} :
    SectionKeeps host port (conformedSection command record active targetSchemaRef subject verified) := by
  unfold conformedSection
  refine .bind keeps_checked fun _ _ => .bind (keeps_ask rfl) fun _ _ => .bind keeps_orThrow fun _ _ => ?_
  refine .bind keeps_orRefuse fun _ _ => .bind keeps_checked fun _ _ => .bind keeps_orRefuse fun _ _ => ?_
  exact sectionKeeps_wait ⟨rfl, fun _ => trivial⟩

theorem preparedSection_numbers {command : PrepareSchemaAdmissionCommand} {record : SchemaAdmissionRecord}
    {active : SchemaEpochBinding} {subject : AdmissionEvidenceSubject} {fourView : VerifiedFourViewEvidence}
    {planDigest : PlanDigest} {prepareResult : Except RuntimeViolation PreparedEpochTransition} :
    SectionKeeps host port (preparedSection host command record active subject fourView planDigest prepareResult) := by
  unfold preparedSection
  refine .bind keeps_checked fun _ _ => .bind (keeps_ask rfl) fun _ _ => .bind (keeps_ask rfl) fun _ _ => ?_
  refine .bind keeps_timestamp fun _ _ => .bind (keeps_putAdmission nofun) fun _ _ => ?_
  exact .bind keeps_logEvent fun _ _ => sectionKeeps_end

/-! ## Sections of a commit -/

section Commit
variable {input : CommitAdmissionTransactionInput} {decision : CommitDecisionRecord} {toBinding : SchemaEpochBinding}

theorem appliedSection_numbers {receipt : RuntimeEpochReceipt}
    (hkeyed : input.record.request.admissionId = input.admissionId) :
    SectionKeeps host port (appliedSection host input decision toBinding receipt) := by
  unfold appliedSection
  refine .bind keeps_checked fun _ _ => .bind keeps_checked fun _ _ => .bind keeps_timestamp fun _ _ => ?_
  exact .bind (keeps_ask rfl) fun _ _ => sectionKeeps_wait hkeyed

theorem committedSection_numbers {commitResult : Except RuntimeViolation RuntimeEpochReceipt}
    (hkeyed : input.record.request.admissionId = input.admissionId) :
    SectionKeeps host port (committedSection host input decision toBinding commitResult) := by
  cases commitResult with
  | ok receipt => exact appliedSection_numbers hkeyed
  | error e => exact sectionKeeps_wait ⟨rfl, fun _ => hkeyed⟩

theorem reappliedSection_numbers {e : RuntimeViolation} {recovered : Except RuntimeViolation RuntimeEpochReceipt}
    (hkeyed : input.record.request.admissionId = input.admissionId) :
    SectionKeeps host port (reappliedSection host input decision toBinding e recovered) := by
  cases recovered with
  | ok receipt => exact appliedSection_numbers hkeyed
  | error _ => exact .bind keeps_timestamp fun _ _ => .bind (keeps_ask rfl) fun _ _ => keeps_refuse

theorem confirmedSection_numbers {recovered : Except RuntimeViolation RuntimeEpochReceipt}
    (hkeyed : input.record.request.admissionId = input.admissionId) :
    SectionKeeps host port (confirmedSection input decision toBinding recovered) :=
  .bind keeps_checked fun _ _ => sectionKeeps_wait hkeyed

theorem resolutionStart_numbers (hkeyed : input.record.request.admissionId = input.admissionId) :
    SectionKeeps host port (resolutionStart input decision toBinding) := by
  unfold resolutionStart
  split
  · exact sectionKeeps_wait ⟨rfl, fun _ => hkeyed⟩
  · split
    · exact sectionKeeps_wait ⟨rfl, fun _ => hkeyed⟩
    · exact keeps_refuse

theorem transactionStart_numbers (hkeyed : input.record.request.admissionId = input.admissionId) :
    SectionKeeps host port (transactionStart host input) := by
  unfold transactionStart
  refine .bind (keeps_ask rfl) fun existingReceipt _ => .bind (keeps_ask rfl) fun existingDecision _ => ?_
  split
  · exact sectionKeeps_end
  · refine .bind keeps_timestamp fun _ _ => .bind keeps_orThrow fun _ _ => .bind keeps_timestamp fun _ _ => ?_
    dsimp only
    split
    · exact .bind (keeps_ask rfl) fun _ _ => resolutionStart_numbers hkeyed
    · exact resolutionStart_numbers hkeyed

theorem recoveryStart_numbers {unprepared : Bool} {admissionId : SchemaAdmissionId} :
    SectionKeeps host port (recoveryStart unprepared admissionId) := by
  unfold recoveryStart finishedReceipt
  refine .bind (keeps_ask rfl) fun _ _ => .bind keeps_orRefuse fun _ _ => .bind keeps_orRefuse fun _ _ => ?_
  refine .bind (V := AnyValue) ?_ fun finished _ => ?_
  · split
    · exact keeps_ask rfl
    · exact Program.upholds_done trivial
  · cases finished with
    | some receipt => exact sectionKeeps_end
    | none =>
        refine .bind keeps_checked fun _ _ => .bind (keeps_ask rfl) fun _ _ => .bind keeps_orRefuse fun _ _ => ?_
        refine .bind (keeps_ask rfl) fun _ _ => .bind keeps_orRefuse fun _ _ => ?_
        exact sectionKeeps_wait ⟨rfl, fun _ => trivial⟩

theorem commitPreparedStart_numbers {command : CommitSchemaAdmissionCommand} {record : SchemaAdmissionRecord}
    (hkeyed : record.request.admissionId = command.admissionId) :
    SectionKeeps host port (commitPreparedStart host command record) := by
  unfold commitPreparedStart
  refine .bind keeps_orRefuse fun _ _ => .bind keeps_orRefuse fun _ _ => .bind (keeps_ask rfl) fun _ _ => ?_
  refine .bind keeps_orRefuse fun _ _ => .bind keeps_orRefuse fun _ _ => .bind (keeps_ask rfl) fun _ _ => ?_
  refine .bind keeps_checked fun _ _ => .bind (keeps_ask rfl) fun consumed _ => ?_
  cases consumed with
  | none =>
      refine .bind (keeps_ask rfl) fun _ _ => ?_
      split
      · exact recoveryStart_numbers
      · exact keeps_refuse
  | some preparedRecord =>
      refine .bind keeps_checked fun _ _ => .bind (keeps_ask rfl) fun _ _ => .bind keeps_checked fun _ _ => ?_
      exact .bind keeps_checked fun _ _ => transactionStart_numbers hkeyed

theorem commitStart_numbers {command : CommitSchemaAdmissionCommand} :
    SectionKeeps host port (commitStart host command) := by
  unfold commitStart
  refine .bind keeps_ensureNotFrozen fun _ _ => .bind keeps_getAdmission fun found hfound => ?_
  split
  · rename_i record hrecord
    exact commitPreparedStart_numbers (hfound record (Option.filter_eq_some_iff.1 hrecord).1)
  · exact .handle recoveryStart_numbers fun _ => Program.upholds_fail

theorem exec_bind_timestamp {α : Type} {f : Timestamp → ControlPlaneProgram α} {out : Except ControlPlaneError α}
    {w w' : ControlPlaneWorld R} :
    Program.Exec (ControlPlaneRequest.Answers host port) (timestamp host >>= f) w out
        w' ↔
      ∃ time, Program.Exec (ControlPlaneRequest.Answers host port)
        (f (host.toISOString time)) w out w' := by
  have hassoc : (timestamp host >>= f) = ask .now >>= fun time => f (host.toISOString time) := rfl
  rw [hassoc, exec_bind_ask]
  constructor
  · rintro ⟨time, m, rfl, h⟩
    exact ⟨time, h⟩
  · rintro ⟨time, h⟩
    exact ⟨time, w, rfl, h⟩

theorem exec_buildReceipt {record : SchemaAdmissionRecord} {active toBinding : SchemaEpochBinding}
    {runtimeReceipt : RuntimeEpochReceipt} {planDigest : PlanDigest} {operator : String}
    {out : Except ControlPlaneError SchemaAdmissionReceipt} {w w' : ControlPlaneWorld R}
    (h : Program.Exec (ControlPlaneRequest.Answers host port)
      (buildReceipt host record active toBinding runtimeReceipt planDigest operator) w out w') :
    w' = w ∧ ∃ receipt, out = .ok receipt ∧ receipt.admissionId = record.request.admissionId ∧
      receipt.storeSequence = w.store.sequence + 1 := by
  obtain ⟨time, h⟩ := exec_bind_timestamp.1 h
  obtain ⟨sequence, m, ⟨rfl, rfl⟩, h⟩ := exec_bind_ask.1 h
  obtain ⟨rfl, rfl⟩ := Program.exec_done.1 h
  exact ⟨rfl, _, rfl, rfl, rfl⟩

theorem finalized_numbers {s : ControlPlaneStore} (h : NumberedCommits s) {finalize : FinalizeAdmissionCommitInput}
    {result : Except String FinalizeAdmissionCommitResult} {m m' : ControlPlaneWorld R} {actor : String}
    {id : SchemaAdmissionId} {fromEpochId toEpochId : EpochId} {fromGeneration toGeneration : Nat} {eventId : String}
    {occurredAt : Timestamp} (hdrawn : m.store = { s with sequence := s.sequence + 1 })
    (hanswer : (result, m') = m.answered (m.store.finalizeAdmissionCommit finalize))
    (hevent : finalize.event = (s.nextEvent .schemaAdmissionCommitted actor
      (.committed id fromEpochId toEpochId fromGeneration toGeneration) none eventId occurredAt).1)
    (hnew : ∀ event ∈ s.events, event.eventId ≠ eventId)
    (hgeneration : s.atGeneration finalize.domainId finalize.expectedGeneration = true)
    (hreceipt : finalize.receipt.storeSequence = s.sequence + 1) (hid : finalize.receipt.admissionId = id)
    (hadmission : finalize.admission.request.admissionId = id) :
    result = .ok .finalized ∧ NumberedCommits m'.store := by
  obtain ⟨rfl, rfl⟩ := ControlPlaneWorld.answered_eq hanswer
  have hnumber : finalize.event.storeSequence = s.sequence + 1 := by rw [hevent]; rfl
  have hname : finalize.event.eventId = eventId := by rw [hevent]; rfl
  have hannounces : finalize.event.announces finalize.receipt.admissionId := by
    rw [hevent, hid]
    exact ⟨rfl, rfl⟩
  have hwritten := @finalizeAdmissionCommit_eq { s with sequence := s.sequence + 1 } finalize
    hgeneration (fun other hother => hnumber ▸ Nat.lt_succ_of_le (h.numbered other hother))
    fun other hother => hname ▸ hnew other hother
  rw [hdrawn, hwritten]
  refine ⟨rfl, ?_⟩
  have hstored := @NumberedCommits.putAdmission _ (h.append_receipt hnumber hreceipt hannounces) finalize.admission
    fun _ => by
      rw [hadmission, hid, OrdMap.get?_set_self]
      rfl
  exact hstored.congr rfl hnumber rfl rfl

theorem finalizeTransaction_numbers {runtimeReceipt : RuntimeEpochReceipt}
    (hkeyed : input.record.request.admissionId = input.admissionId)
    {out : Except ControlPlaneError SchemaAdmissionReceipt} {w w' : ControlPlaneWorld R} (hw : NumberedCommits w.store)
    (hgeneration : w.store.atGeneration input.record.request.activationDomainId input.active.bindingGeneration = true)
    (h : Program.Exec (ControlPlaneRequest.Answers host port)
      (finalizeTransaction host input decision toBinding runtimeReceipt) w out w') : NumberedCommits w'.store := by
  rcases Program.exec_bind.1 h with ⟨receipt, m, hbuilt, hrest⟩ | ⟨e, hbuilt, -⟩
  · obtain ⟨rfl, _, hreceipt, hid, hsequence⟩ := exec_buildReceipt hbuilt
    cases hreceipt
    obtain ⟨event, m', ⟨eventId, drawnAt, hnew, hdrawn⟩, hrest⟩ := exec_bind_ask.1 hrest
    obtain ⟨rfl, rfl⟩ := ControlPlaneWorld.answered_eq hdrawn
    obtain ⟨finalized, m', hfinalized, hrest⟩ := exec_bind_ask.1 hrest
    obtain ⟨rfl, hnumbers⟩ := finalized_numbers hw rfl hfinalized rfl hnew hgeneration hsequence
      (hid.trans hkeyed) hkeyed
    obtain ⟨-, m, rfl, hrest⟩ := exec_bind_ask.1 hrest
    obtain ⟨-, m, rfl, hrest⟩ := exec_bind_ask.1 hrest
    obtain ⟨-, rfl⟩ := Program.exec_done.1 hrest
    exact hnumbers
  · obtain ⟨-, _, hout, -⟩ := exec_buildReceipt hbuilt
    cases hout

end Commit

def RecoveryFinalizes (store : ControlPlaneStore) (admissionId : SchemaAdmissionId) (record : SchemaAdmissionRecord)
    (active : SchemaEpochBinding) : Prop :=
  (store.commitReceipts.get? admissionId).filter (fun receipt =>
      receipt.toBinding.bindingGeneration = active.bindingGeneration ∧
        receipt.toBinding.schemaRef.digest = active.schemaRef.digest) = none ∧
    (buildAdmissionEvidenceSubject record active).isSome ∧ record.qualification.isSome ∧ record.authorization.isSome

theorem recoveredSection_numbers {admissionId : SchemaAdmissionId} {decision : CommitDecisionRecord}
    {toBinding active : SchemaEpochBinding} {record : SchemaAdmissionRecord}
    {answer : Except RuntimeViolation RuntimeEpochReceipt} {out : Except ControlPlaneError SchemaAdmissionReceipt}
    {w w' : ControlPlaneWorld R} (hw : NumberedCommits w.store)
    (hends : ∀ receipt, answer = .ok receipt → ¬ RecoveryFinalizes w.store admissionId record active)
    (h : Program.Exec (ControlPlaneRequest.Answers host port)
      (recoveredSection host admissionId decision toBinding record active answer) w out w') :
    NumberedCommits w'.store := by
  unfold recoveredSection at h
  rcases answer with e | receipt
  · obtain ⟨-, rfl⟩ := Program.exec_fail.1 h
    exact hw
  obtain ⟨existing, m, ⟨rfl, rfl⟩, h⟩ := exec_bind_ask.1 h
  split at h
  · obtain ⟨-, rfl⟩ := Program.exec_done.1 h
    exact hw
  · rename_i hnone
    rcases exec_bind_orRefuse.1 h with ⟨subject, hsubject, h⟩ | ⟨-, -, rfl⟩
    swap
    · exact hw
    rcases exec_bind_orRefuse.1 h with ⟨qualification, hqualification, h⟩ | ⟨-, -, rfl⟩
    swap
    · exact hw
    rcases exec_bind_orRefuse.1 h with ⟨authorization, hauthorization, h⟩ | ⟨-, -, rfl⟩
    swap
    · exact hw
    exact absurd ⟨hnone, Option.isSome_of_eq_some hsubject, Option.isSome_of_eq_some hqualification,
      Option.isSome_of_eq_some hauthorization⟩ (hends receipt rfl)

/-! ## Runs -/

section Runs
variable {ι : Type} [DecidableEq ι]

abbrev ControlPlaneTurn (host : ControlPlaneHost) (port : RuntimePort R) :
    Interrupted ι ControlPlaneWait (ControlPlaneWorld R) → InterruptedLabel ι ControlPlaneCall ControlPlaneWait →
      Interrupted ι ControlPlaneWait (ControlPlaneWorld R) → Prop :=
  Interruptible.Step (controlPlaneSections host) fun w r resp w' => ControlPlaneRequest.Answers host port w r resp w'

def FinalizesDirectly (s : Interrupted ι ControlPlaneWait (ControlPlaneWorld R)) :
    InterruptedLabel ι ControlPlaneCall ControlPlaneWait → Prop
  | .resume _ (.turn (.finalizing input _ _ _)) =>
      s.world.store.atGeneration input.record.request.activationDomainId input.active.bindingGeneration = true
  | .resume _ (.turn (.recovered _ admissionId _ _ record active (.ok _))) =>
      ¬ RecoveryFinalizes s.world.store admissionId record active
  | _ => True

/-- Nothing is under way, and nothing has been logged or admitted. -/
structure ControlPlaneUnused (s : Interrupted ι ControlPlaneWait (ControlPlaneWorld R)) : Prop where
  idle : ∀ client, s.waiting client = none
  events : s.world.store.events = []
  sequence : s.world.store.sequence = 0
  admissions : ∀ id, s.world.store.admissions.get? id = none
  receipts : ∀ id, s.world.store.commitReceipts.get? id = none

abbrev RunsNumbered (s : Interrupted ι ControlPlaneWait (ControlPlaneWorld R)) : Prop :=
  Interruptible.Sound (fun w => NumberedCommits w.store) ControlPlaneWait.Keyed s

variable {s t : Interrupted ι ControlPlaneWait (ControlPlaneWorld R)}
  {l : InterruptedLabel ι ControlPlaneCall ControlPlaneWait}

omit [DecidableEq ι] in
theorem ControlPlaneUnused.numbered (h : ControlPlaneUnused s) : RunsNumbered s where
  world :=
    { consecutive := by rw [h.events, h.sequence]; rfl
      keyed := fun id record hrecord => by
        rw [h.admissions id] at hrecord
        cases hrecord
      receipts := fun id receipt hreceipt => by
        rw [h.receipts id] at hreceipt
        cases hreceipt
      committed := fun id record hrecord => by
        rw [h.admissions id] at hrecord
        cases hrecord }
  waiting client wait hwait := by
    rw [h.idle client] at hwait
    cases hwait

theorem SectionKeeps.lands {p : ControlPlaneSection} (hp : SectionKeeps host port p) {w w' : ControlPlaneWorld R}
    {out : Except ControlPlaneError (Option ControlPlaneWait)} (hw : NumberedCommits w.store)
    (h : Program.Exec (ControlPlaneRequest.Answers host port) p w out w') :
    Interruptible.Lands (fun w => NumberedCommits w.store) ControlPlaneWait.Keyed out w' := by
  obtain ⟨hworld, hvalue⟩ := hp w out w' hw h
  refine ⟨hworld, fun wait hwait => ?_⟩
  cases out with
  | ok ended => exact hvalue ended rfl wait hwait
  | error e => cases hwait

theorem lands_of_ending {α : Type} {p : ControlPlaneProgram α} {w w' : ControlPlaneWorld R}
    {out : Except ControlPlaneError (Option ControlPlaneWait)}
    (hp : ∀ out, Program.Exec (ControlPlaneRequest.Answers host port) p w out w' →
      NumberedCommits w'.store)
    (h : Program.Exec (ControlPlaneRequest.Answers host port) (ending p) w out w') :
    Interruptible.Lands (fun w => NumberedCommits w.store) ControlPlaneWait.Keyed out w' := by
  rcases Program.exec_bind.1 h with ⟨a, m, hhead, htail⟩ | ⟨e, hhead, rfl⟩
  · obtain ⟨rfl, rfl⟩ := Program.exec_done.1 htail
    exact ⟨hp _ hhead, fun wait hwait => by cases hwait⟩
  · exact ⟨hp _ hhead, fun wait hwait => by cases hwait⟩

theorem started_numbers (call : ControlPlaneCall) :
    SectionKeeps host port ((controlPlaneSections host).start call) := by
  cases call with
  | prepareSchemaAdmission command => exact preparationStart_numbers
  | commitSchemaAdmission command => exact commitStart_numbers
  | recoverSchemaAdmissionCommit admissionId => exact recoveryStart_numbers
  | registerSchemaRevision command =>
      exact sectionKeeps_ending (.bind registerSchemaRevision_numbers fun _ _ => Program.upholds_done trivial)
  | submitSchemaAdmission command =>
      exact sectionKeeps_ending (.bind submitSchemaAdmission_numbers fun _ _ => Program.upholds_done trivial)
  | approveSchemaAdmission command =>
      exact sectionKeeps_ending (.bind approveSchemaAdmission_numbers fun _ _ => Program.upholds_done trivial)
  | activatePolicyRevision command =>
      exact sectionKeeps_ending (.bind activatePolicyRevision_numbers fun _ _ => Program.upholds_done trivial)
  | commitToolSurfaceEpoch operator currentEpoch =>
      exact sectionKeeps_ending (.bind commitToolSurfaceEpoch_numbers fun _ _ => Program.upholds_done trivial)
  | setFleetRollout context domainId targetBinding runtimeInstanceIds =>
      exact sectionKeeps_ending setFleetRollout_numbers
  | acknowledgeRuntimeInstance context runtimeInstanceId observedBinding =>
      exact sectionKeeps_ending acknowledgeRuntimeInstance_numbers
  | setFrozen frozen => exact sectionKeeps_ending (keeps_ask rfl)

omit [DecidableEq ι] in
theorem resumed_numbers {client : ι} {wait : ControlPlaneWait} (hw : NumberedCommits s.world.store)
    (hwait : wait.Keyed) (hdirect : FinalizesDirectly s (.resume client wait)) {w' : ControlPlaneWorld R}
    {out : Except ControlPlaneError (Option ControlPlaneWait)}
    (h : Program.Exec (ControlPlaneRequest.Answers host port)
      ((controlPlaneSections host).resume wait) s.world out w') :
    Interruptible.Lands (fun w => NumberedCommits w.store) ControlPlaneWait.Keyed out w' := by
  cases wait with
  | asking r next =>
      refine SectionKeeps.lands ?_ hw h
      exact .bind (keeps_ask hwait.1) fun answer _ => sectionKeeps_wait (hwait.2 answer)
  | turn point =>
      cases point with
      | conformed => exact SectionKeeps.lands conformedSection_numbers hw h
      | prepared => exact SectionKeeps.lands preparedSection_numbers hw h
      | committed => exact SectionKeeps.lands (committedSection_numbers hwait) hw h
      | reapplied => exact SectionKeeps.lands (reappliedSection_numbers hwait) hw h
      | confirmed => exact SectionKeeps.lands (confirmedSection_numbers hwait) hw h
      | finalizing =>
          exact lands_of_ending (fun out hexec => finalizeTransaction_numbers hwait hw hdirect hexec) h
      | recovered unprepared admissionId decision toBinding record active answer =>
          refine lands_of_ending (fun out hexec => ?_) h
          have hends : ∀ receipt, answer = .ok receipt →
              ¬ RecoveryFinalizes s.world.store admissionId record active := by
            rintro receipt rfl
            exact hdirect
          rcases Program.exec_handle.1 hexec with ⟨a, hexec, -⟩ | ⟨e, m, hexec, hfail⟩
          · exact recoveredSection_numbers hw hends hexec
          · obtain ⟨-, rfl⟩ := Program.exec_fail.1 hfail
            exact recoveredSection_numbers hw hends hexec

theorem runsNumbered_step (hstep : ControlPlaneTurn host port s l t) (hdirect : FinalizesDirectly s l)
    (hs : RunsNumbered s) : RunsNumbered t := by
  refine hs.step hstep ?_ ?_
  · rintro client call out world - hexec
    exact SectionKeeps.lands (started_numbers call) hs.world hexec
  · rintro client wait out world rfl hwait hexec
    exact resumed_numbers hs.world hwait hdirect hexec

/-- As long as no commit is finalized behind another one of its domain or by a recovery, the events are numbered
without gap and the receipts carry the numbers of their events, however the calls interleave. -/
theorem commit_numbers_agree {labels : List (InterruptedLabel ι ControlPlaneCall ControlPlaneWait)}
    (hs : ControlPlaneUnused s)
    (hrun : Run (fun m l m' => ControlPlaneTurn host port m l m' ∧ FinalizesDirectly m l) s labels t) :
    CommitNumbersAgree t.world.store := by
  have hreached : RunsNumbered t :=
    hrun.invariant (fun m l m' hstep hm => runsNumbered_step hstep.1 hstep.2 hm) hs.numbered
  exact hreached.world.agree

end Runs

/-! ## A direct commit and a recovered one -/

section Samples

instance (s : Interrupted Unit ControlPlaneWait (ControlPlaneWorld R))
    (l : InterruptedLabel Unit ControlPlaneCall ControlPlaneWait) : Decidable (FinalizesDirectly s l) := by
  unfold FinalizesDirectly RecoveryFinalizes
  split <;> infer_instance

def stubbornRuntime : ScriptedRuntime Nat where
  now := 0
  fourView := { evidenceDigest := "" }
  prepareEpochTransition runtime request :=
    (.ok { preparedId := "prep-adm-1", planDigest := request.planDigest, issuedAt := "0", expiresAt := "60000" }, runtime)
  commitEpochTransition runtime _ := (.error { code := .admissionRejected, message := "busy" }, runtime)
  recoverEpochTransition runtime _ :=
    (if runtime = 0 then .error { code := .admissionRejected, message := "busy" } else .ok sampleReceipt, runtime + 1)

/-- One client, before its first call. -/
def unusedControlPlane (runtime : R) : Interrupted Unit ControlPlaneWait (ControlPlaneWorld R) :=
  { world := submissionWorld runtime, waiting := fun _ => none }

theorem unusedControlPlane_unused (runtime : R) : ControlPlaneUnused (unusedControlPlane runtime) where
  idle _ := rfl
  events := rfl
  sequence := rfl
  admissions _ := rfl
  receipts _ := rfl

def callMoves (call : ControlPlaneCall) (turns : Nat) : List (Unit × Option ControlPlaneCall) :=
  ((), some call) :: List.replicate turns ((), none)

def sampleCommitMoves (turns : Nat) : List (Unit × Option ControlPlaneCall) :=
  (preparations "adm-1" "key-1").map (fun call => ((), some call)) ++ List.replicate 4 ((), none) ++
    callMoves (.commitSchemaAdmission (sampleCommit "adm-1" "prep-3")) turns

def commitNumbers (s : Interrupted Unit ControlPlaneWait (ControlPlaneWorld R)) :
    Option SchemaAdmissionState × Option Nat × List Nat :=
  ((s.world.store.admissions.get? "adm-1").map SchemaAdmissionRecord.state,
    (s.world.store.commitReceipts.get? "adm-1").map SchemaAdmissionReceipt.storeSequence,
    s.world.store.events.map ControlPlaneEventEnvelope.storeSequence)

/-- A commit that the runtime applies at once: its receipt and its event have the fifth number. -/
theorem direct_commit_numbers_agree :
    ∃ t : Interrupted Unit ControlPlaneWait (ControlPlaneWorld (Option RuntimeEpochReceipt)),
      commitNumbers t = (some .committed, some 5, [1, 2, 3, 4, 5]) ∧ CommitNumbersAgree t.world.store := by
  have hmoves : ((sampleCommitMoves 3).foldlM ((controlPlaneSections digitHost).allowed?
      (journalingRuntime.answer? digitHost) fun s l => decide (FinalizesDirectly s l))
        (unusedControlPlane none)).map commitNumbers = some (some .committed, some 5, [1, 2, 3, 4, 5]) := by
    decide +kernel
  obtain ⟨t, ht, hnumbers⟩ := Option.map_eq_some_iff.1 hmoves
  obtain ⟨labels, hrun⟩ := Interruptible.run_of_allowed?
    (fun _ _ _ hanswer => journalingRuntime.answers_of_answer? hanswer) ht
  exact ⟨t, hnumbers, commit_numbers_agree (unusedControlPlane_unused none)
    (hrun.mono fun m l m' hstep => ⟨hstep.1, of_decide_eq_true hstep.2⟩)⟩

/-- A commit that the runtime refuses at first and that is recovered afterwards: its event has the fifth number, its
receipt the sixth. -/
theorem recovered_commit_misnumbered :
    ¬ ∀ (s t : Interrupted Unit ControlPlaneWait (ControlPlaneWorld Nat))
        (labels : List (InterruptedLabel Unit ControlPlaneCall ControlPlaneWait)), ControlPlaneUnused s →
      Run (ControlPlaneTurn digitHost stubbornRuntime.toPort) s labels t → CommitNumbersAgree t.world.store := by
  intro hall
  have hmoves : ((sampleCommitMoves 4 ++ callMoves (.recoverSchemaAdmissionCommit "adm-1") 2).foldlM
      ((controlPlaneSections digitHost).allowed? (stubbornRuntime.answer? digitHost) fun _ _ => true)
        (unusedControlPlane 0)).map commitNumbers = some (some .committed, some 6, [1, 2, 3, 4, 5]) := by
    decide +kernel
  obtain ⟨t, ht, hnumbers⟩ := Option.map_eq_some_iff.1 hmoves
  obtain ⟨labels, hrun⟩ := Interruptible.run_of_allowed?
    (fun _ _ _ hanswer => stubbornRuntime.answers_of_answer? hanswer) ht
  obtain ⟨hstate, hnumbers⟩ := Prod.mk.inj hnumbers
  obtain ⟨hreceipt, hevents⟩ := Prod.mk.inj hnumbers
  obtain ⟨record, hrecord, hcommitted⟩ := Option.map_eq_some_iff.1 hstate
  obtain ⟨receipt, hstored, hnumber⟩ := Option.map_eq_some_iff.1 hreceipt
  have hagree := hall _ t labels (unusedControlPlane_unused 0) (hrun.mono fun _ _ _ hstep => hstep.1)
  obtain ⟨receipt', hstored', event, hevent, -, hsame⟩ := hagree.receipts "adm-1" record hrecord hcommitted
  cases hstored.symm.trans hstored'
  have hmem : event.storeSequence ∈ t.world.store.events.map ControlPlaneEventEnvelope.storeSequence :=
    List.mem_map_of_mem hevent
  rw [hevents, hsame, hnumber] at hmem
  exact absurd hmem (by decide)

end Samples

end Cantilune
