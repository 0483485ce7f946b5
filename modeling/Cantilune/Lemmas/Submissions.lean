import Cantilune.Lemmas.ControlPlaneCalls

/-!
# What a submission does

A submission is refused by its validation, which writes nothing; or by its qualification, which releases its
key; or it claims its key, and then either finds it taken or stores its record.
-/

namespace Cantilune

open ControlPlaneProgram

attribute [local simp] WritesOnly ControlPlaneRequest.writes

variable {R : Type} {host : ControlPlaneHost} {port : RuntimePort R} {w w' : ControlPlaneWorld R}
  {command : SubmitSchemaAdmissionCommand} {active : SchemaEpochBinding} {candidate : SchemaRevision}
  {plan : SchemaExtensionPlan}

/-! ## Validation -/

structure SubmissionValid (hashes : ContentHashes) (store : ControlPlaneStore) (command : SubmitSchemaAdmissionCommand)
    (active : SchemaEpochBinding) (candidate : SchemaRevision) (plan : SchemaExtensionPlan) : Prop where
  notFrozen : store.frozen = false
  binding : validateActiveBindingForSubmit (store.activeBindings.get? command.request.activationDomainId)
    command.request = .ok active
  found : store.getRevision hashes command.request.candidateSchemaRef = .ok (some candidate)
  extension : ∃ current, store.getRevision hashes active.schemaRef = .ok (some current) ∧
    computeMonotoneExtensionPlan current.schema candidate.schema active.schemaRef candidate.schemaRef = .ok plan

theorem SubmissionValid.unique {hashes : ContentHashes} {store : ControlPlaneStore} {active' : SchemaEpochBinding}
    {candidate' : SchemaRevision} {plan' : SchemaExtensionPlan}
    (h : SubmissionValid hashes store command active candidate plan)
    (h' : SubmissionValid hashes store command active' candidate' plan') :
    active = active' ∧ candidate = candidate' ∧ plan = plan' := by
  cases h.binding.symm.trans h'.binding
  cases h.found.symm.trans h'.found
  obtain ⟨current, hcurrent, hplan⟩ := h.extension
  obtain ⟨current', hcurrent', hplan'⟩ := h'.extension
  cases hcurrent.symm.trans hcurrent'
  cases hplan.symm.trans hplan'
  exact ⟨rfl, rfl, rfl⟩

theorem validateSubmission_cases {out : Except ControlPlaneError (SchemaEpochBinding × SchemaRevision × SchemaExtensionPlan)}
    (h : Program.Exec (ControlPlaneRequest.Answers host port)
      (validateSubmission command) w out w') :
    w' = w ∧ ((∃ active candidate plan, out = .ok (active, candidate, plan) ∧
        SubmissionValid host.toContentHashes w.store command active candidate plan) ∨
      ((∃ e, out = .error e) ∧ ∀ active candidate plan,
        ¬ SubmissionValid host.toContentHashes w.store command active candidate plan)) := by
  unfold validateSubmission at h
  rcases exec_bind_ensureNotFrozen.1 h with ⟨hfrozen, h⟩ | ⟨hfrozen, rfl, rfl⟩
  rotate_left
  · refine ⟨rfl, .inr ⟨⟨_, rfl⟩, fun _ _ _ hvalid => ?_⟩⟩
    rw [hvalid.notFrozen] at hfrozen
    cases hfrozen
  obtain ⟨binding, w, ⟨rfl, rfl⟩, h⟩ := exec_bind_ask.1 h
  rcases exec_bind_checked.1 h with ⟨active, hactive, h⟩ | ⟨violation, hviolation, rfl, rfl⟩
  rotate_left
  · refine ⟨rfl, .inr ⟨⟨_, rfl⟩, fun _ _ _ hvalid => ?_⟩⟩
    cases hviolation.symm.trans hvalid.binding
  obtain ⟨stored, w, ⟨rfl, rfl⟩, h⟩ := exec_bind_ask.1 h
  rcases exec_bind_orThrow.1 h with ⟨found, hfound, h⟩ | ⟨message, hmessage, rfl, rfl⟩
  rotate_left
  · refine ⟨rfl, .inr ⟨⟨_, rfl⟩, fun _ _ _ hvalid => ?_⟩⟩
    cases hmessage.symm.trans hvalid.found
  rcases exec_bind_orRefuse.1 h with ⟨candidate, rfl, h⟩ | ⟨rfl, rfl, rfl⟩
  rotate_left
  · refine ⟨rfl, .inr ⟨⟨_, rfl⟩, fun _ _ _ hvalid => ?_⟩⟩
    cases hfound.symm.trans hvalid.found
  obtain ⟨stored, w, ⟨rfl, rfl⟩, h⟩ := exec_bind_ask.1 h
  have hunique : ∀ {active' : SchemaEpochBinding} {candidate' : SchemaRevision} {plan' : SchemaExtensionPlan},
      SubmissionValid host.toContentHashes w.store command active' candidate' plan' →
        ∃ current, w.store.getRevision host.toContentHashes active.schemaRef = .ok (some current) ∧
          computeMonotoneExtensionPlan current.schema candidate.schema active.schemaRef candidate.schemaRef
            = .ok plan' := by
    intro active' candidate' plan' hvalid
    cases hactive.symm.trans hvalid.binding
    cases hfound.symm.trans hvalid.found
    exact hvalid.extension
  rcases exec_bind_orThrow.1 h with ⟨found, hcurrent, h⟩ | ⟨message, hmessage, rfl, rfl⟩
  rotate_left
  · refine ⟨rfl, .inr ⟨⟨_, rfl⟩, fun _ _ _ hvalid => ?_⟩⟩
    obtain ⟨current, hcurrent, -⟩ := hunique hvalid
    cases hmessage.symm.trans hcurrent
  rcases exec_bind_orRefuse.1 h with ⟨current, rfl, h⟩ | ⟨rfl, rfl, rfl⟩
  rotate_left
  · refine ⟨rfl, .inr ⟨⟨_, rfl⟩, fun _ _ _ hvalid => ?_⟩⟩
    obtain ⟨current, hcurrent', -⟩ := hunique hvalid
    cases hcurrent.symm.trans hcurrent'
  rcases exec_bind_checked.1 h with ⟨plan, hplan, h⟩ | ⟨violation, hviolation, rfl, rfl⟩
  rotate_left
  · refine ⟨rfl, .inr ⟨⟨_, rfl⟩, fun _ _ _ hvalid => ?_⟩⟩
    obtain ⟨current', hcurrent', hplan⟩ := hunique hvalid
    cases hcurrent.symm.trans hcurrent'
    cases hviolation.symm.trans hplan
  obtain ⟨rfl, rfl⟩ := Program.exec_done.1 h
  exact ⟨rfl, .inl ⟨active, candidate, plan, rfl, hfrozen, hactive, hfound, current, hcurrent, hplan⟩⟩

/-! ## Outcomes -/

def submissionQualification (command : SubmitSchemaAdmissionCommand) (active : SchemaEpochBinding)
    (candidate : SchemaRevision) (plan : SchemaExtensionPlan) : Except ControlPlaneViolation Unit :=
  qualificationRefused command.context (submissionSubject command active candidate plan) plan

def submittedRecord (command : SubmitSchemaAdmissionCommand) (active : SchemaEpochBinding)
    (candidate : SchemaRevision) (plan : SchemaExtensionPlan) (qualifiedAt : Timestamp) : SchemaAdmissionRecord :=
  { validatingRecord command active candidate plan with
    state := .awaitingAuthorization
    qualification := some
      { subjectDigest := submissionSubject command active candidate plan
        extensionPlanDigest := extensionPlanCanonicalDigest plan
        qualifiedBy := administrationActorId command.context
        qualifiedAt
        evaluatorVersion := "qualification/1.0" } }

def submissionDigest (command : SubmitSchemaAdmissionCommand) : AdmissionDigest :=
  { admissionId := command.request.admissionId
    activationDomainId := command.request.activationDomainId
    candidateSchemaRef := command.request.candidateSchemaRef
    expectedBindingGeneration := command.request.expectedBindingGeneration
    expectedSchemaRef := command.request.expectedSchemaRef
    expectedEpochId := command.request.expectedEpochId
    expectedEpochOrdinal := command.request.expectedEpochOrdinal
    expectedRuntimeHead := command.request.expectedRuntimeHead
    requestedBy := administrationActorId command.context
    state := .awaitingAuthorization }

def ClaimedBySame (store : ControlPlaneStore) (command : SubmitSchemaAdmissionCommand) : Prop :=
  (store.idempotency.get? command.request.idempotencyKey).map IdempotencyEntry.digest = some (submissionDigest command)

/-- How a submission ends, and where. -/
inductive Submitted (host : ControlPlaneHost) (w : ControlPlaneWorld R) (command : SubmitSchemaAdmissionCommand) :
    Except ControlPlaneError SchemaAdmissionRecord → ControlPlaneWorld R → Prop where
  | refused {e : ControlPlaneError} (invalid : ∀ active candidate plan,
      ¬ SubmissionValid host.toContentHashes w.store command active candidate plan) :
      Submitted host w command (.error e) w
  | unqualified {active : SchemaEpochBinding} {candidate : SchemaRevision} {plan : SchemaExtensionPlan}
      {violation : ControlPlaneViolation}
      (valid : SubmissionValid host.toContentHashes w.store command active candidate plan)
      (denied : submissionQualification command active candidate plan = .error violation) :
      Submitted host w command (.error (.violation violation))
        { w with store := w.store.releaseIdempotency command.request.idempotencyKey }
  | conflict {active : SchemaEpochBinding} {candidate : SchemaRevision} {plan : SchemaExtensionPlan}
      {entry : IdempotencyEntry}
      (valid : SubmissionValid host.toContentHashes w.store command active candidate plan)
      (qualified : submissionQualification command active candidate plan = .ok ())
      (taken : w.store.idempotency.get? command.request.idempotencyKey = some entry)
      (other : entry.digest ≠ submissionDigest command) :
      Submitted host w command (.error (.violation
        (controlPlaneViolation .idempotencyConflict .validate "idempotency key digest conflict"))) w
  | replay {active : SchemaEpochBinding} {candidate : SchemaRevision} {plan : SchemaExtensionPlan}
      {stored : SchemaAdmissionRecord}
      (valid : SubmissionValid host.toContentHashes w.store command active candidate plan)
      (qualified : submissionQualification command active candidate plan = .ok ())
      (same : ClaimedBySame w.store command)
      (found : w.store.admissions.get? command.request.admissionId = some stored) :
      Submitted host w command (.ok stored) w
  | stored {active : SchemaEpochBinding} {candidate : SchemaRevision} {plan : SchemaExtensionPlan}
      {qualifiedAt : Timestamp} {out : Except ControlPlaneError SchemaAdmissionRecord} {w' : ControlPlaneWorld R}
      (valid : SubmissionValid host.toContentHashes w.store command active candidate plan)
      (qualified : submissionQualification command active candidate plan = .ok ())
      (free : w.store.idempotency.get? command.request.idempotencyKey = none ∨
        (ClaimedBySame w.store command ∧ w.store.admissions.get? command.request.admissionId = none))
      (claimed : w'.store.idempotency =
        (w.store.claimIdempotency command.request.idempotencyKey (submissionDigest command)).2.idempotency)
      (written : w'.store.admissions = w.store.admissions.set command.request.admissionId
        (submittedRecord command active candidate plan qualifiedAt)) :
      Submitted host w command out w'

theorem qualify_cases {context : AdministrationContext} {subject : AdmissionEvidenceSubject}
    {out : Except ControlPlaneError QualificationEvidence}
    (hexec : Program.Exec (ControlPlaneRequest.Answers host port)
      (qualify host context subject plan) w out w') :
    w' = w ∧ ((∃ violation, qualificationRefused context subject plan = .error violation ∧
        out = .error (.violation violation)) ∨
      (qualificationRefused context subject plan = .ok () ∧ ∃ qualifiedAt, out = .ok
        { subjectDigest := subject
          extensionPlanDigest := extensionPlanCanonicalDigest plan
          qualifiedBy := administrationActorId context
          qualifiedAt
          evaluatorVersion := "qualification/1.0" })) := by
  unfold qualify at hexec
  rcases exec_bind_checked.1 hexec with ⟨⟨⟩, hchecked, hstamp⟩ | ⟨violation, hviolation, rfl, rfl⟩
  · obtain ⟨time, m, rfl, hdone⟩ := exec_bind_ask.1 hstamp
    obtain ⟨rfl, rfl⟩ := Program.exec_done.1 hdone
    exact ⟨rfl, .inr ⟨hchecked, _, rfl⟩⟩
  · exact ⟨rfl, .inl ⟨violation, hviolation, rfl⟩⟩

theorem claimOrReplayAdmission_cases {record : SchemaAdmissionRecord}
    {out : Except ControlPlaneError (Option SchemaAdmissionRecord)}
    (hexec : Program.Exec (ControlPlaneRequest.Answers host port)
      (claimOrReplayAdmission record) w out w') :
    (w.store.idempotency.get? record.request.idempotencyKey = none ∧ out = .ok none ∧ w' = { w with
        store := (w.store.claimIdempotency record.request.idempotencyKey (admissionDigest record)).2 }) ∨
      ∃ entry, w.store.idempotency.get? record.request.idempotencyKey = some entry ∧ w' = w ∧
        ((entry.digest = admissionDigest record ∧ out = .ok (w.store.admissions.get? record.request.admissionId)) ∨
          (entry.digest ≠ admissionDigest record ∧ out = .error (.violation
            (controlPlaneViolation .idempotencyConflict .validate "idempotency key digest conflict")))) := by
  unfold claimOrReplayAdmission at hexec
  obtain ⟨claim, m, hanswer, hrest⟩ := exec_bind_ask.1 hexec
  obtain ⟨rfl, rfl⟩ := ControlPlaneWorld.answered_eq hanswer
  cases hget : w.store.idempotency.get? record.request.idempotencyKey with
  | none =>
      have hclaim : (w.store.claimIdempotency record.request.idempotencyKey (admissionDigest record)).1 = .claimed := by
        simp [ControlPlaneStore.claimIdempotency, hget]
      rw [hclaim] at hrest
      obtain ⟨rfl, rfl⟩ := Program.exec_done.1 hrest
      exact .inl ⟨rfl, rfl, rfl⟩
  | some entry =>
      refine .inr ⟨entry, rfl, ?_⟩
      by_cases hdigest : entry.digest = admissionDigest record
      · have hclaim : w.store.claimIdempotency record.request.idempotencyKey (admissionDigest record) =
            (.replay, w.store) := by
          simp [ControlPlaneStore.claimIdempotency, hget, hdigest]
        rw [hclaim] at hrest
        obtain ⟨stored, n, ⟨rfl, rfl⟩, hdone⟩ := Program.exec_ask.1 hrest
        obtain ⟨rfl, rfl⟩ := Program.exec_done.1 hdone
        exact ⟨rfl, .inl ⟨hdigest, rfl⟩⟩
      · have hclaim : w.store.claimIdempotency record.request.idempotencyKey (admissionDigest record) =
            (.conflict, w.store) := by
          simp [ControlPlaneStore.claimIdempotency, hget, hdigest]
        rw [hclaim] at hrest
        obtain ⟨rfl, rfl⟩ := Program.exec_fail.1 hrest
        exact ⟨rfl, .inr ⟨hdigest, rfl⟩⟩

theorem storeSubmission_cases {record : SchemaAdmissionRecord} {out : Except ControlPlaneError SchemaAdmissionRecord}
    (hexec : Program.Exec (ControlPlaneRequest.Answers host port)
      (storeSubmission command record) w out w') :
    (∃ entry, w.store.idempotency.get? record.request.idempotencyKey = some entry ∧ w' = w ∧
        ((∃ stored, entry.digest = admissionDigest record ∧
            w.store.admissions.get? record.request.admissionId = some stored ∧ out = .ok stored) ∨
          (entry.digest ≠ admissionDigest record ∧ out = .error (.violation
            (controlPlaneViolation .idempotencyConflict .validate "idempotency key digest conflict"))))) ∨
      ((w.store.idempotency.get? record.request.idempotencyKey = none ∨
          ((w.store.idempotency.get? record.request.idempotencyKey).map IdempotencyEntry.digest =
              some (admissionDigest record) ∧ w.store.admissions.get? record.request.admissionId = none)) ∧
        w'.store.idempotency =
          (w.store.claimIdempotency record.request.idempotencyKey (admissionDigest record)).2.idempotency ∧
        w'.store.admissions = w.store.admissions.set record.request.admissionId record) := by
  have hstore : ∀ {n : ControlPlaneWorld R}, Program.Exec
      (ControlPlaneRequest.Answers host port) (do
        ask (.putAdmission record)
        let _ ← logEvent .schemaAdmissionSubmitted (administrationActorId command.context)
          (.admission command.request.admissionId) (some command.request.idempotencyKey)
        let _ ← logEvent .schemaAdmissionQualified (administrationActorId command.context)
          (.admission command.request.admissionId)
        Program.done record) n out w' →
      w'.store.idempotency = n.store.idempotency ∧
        w'.store.admissions = n.store.admissions.set record.request.admissionId record := by
    intro n hput
    obtain ⟨-, m, rfl, hevents⟩ := exec_bind_ask.1 hput
    refine hevents.invariant (P := WritesOnly [.events]) (I := fun s => s.store.idempotency = n.store.idempotency ∧
      s.store.admissions = n.store.admissions.set record.request.admissionId record) ?_ ?_ ⟨rfl, rfl⟩
    · exact .bind (asks_logEvent (by simp) (by simp)) fun _ => .bind (asks_logEvent (by simp) (by simp)) fun _ => trivial
    · intro s r resp t hwrites hanswer hs
      have hidempotency : StorePart.idempotency ∉ r.writes := fun hmem => by simpa using hwrites hmem
      have hadmissions : StorePart.admissions ∉ r.writes := fun hmem => by simpa using hwrites hmem
      exact ⟨Eq.trans (r.answers_frame hanswer hidempotency) hs.1, Eq.trans (r.answers_frame hanswer hadmissions) hs.2⟩
  unfold storeSubmission at hexec
  rcases Program.exec_bind.1 hexec with ⟨existing, n, hclaimed, hrest⟩ | ⟨e, hconflict, rfl⟩
  · rcases claimOrReplayAdmission_cases hclaimed with
      ⟨hnone, hout, rfl⟩ | ⟨entry, hentry, rfl, ⟨hsame, hout⟩ | ⟨-, hout⟩⟩
    · cases hout
      obtain ⟨hidempotency, hadmissions⟩ := hstore hrest
      have hframe : StorePart.admissions.Same w.store (w.store.claimIdempotency record.request.idempotencyKey
          (admissionDigest record)).2 := ControlPlaneStore.claimIdempotency_frame (by decide)
      exact .inr ⟨.inl hnone, hidempotency, hadmissions.trans (congrArg (OrdMap.set · _ _) hframe)⟩
    · cases hout
      cases hfound : n.store.admissions.get? record.request.admissionId with
      | some stored =>
          rw [hfound] at hrest
          obtain ⟨rfl, rfl⟩ := Program.exec_done.1 hrest
          exact .inl ⟨entry, hentry, rfl, .inl ⟨stored, hsame, rfl, rfl⟩⟩
      | none =>
          rw [hfound] at hrest
          obtain ⟨hidempotency, hadmissions⟩ := hstore hrest
          refine .inr ⟨.inr ⟨by rw [hentry, Option.map_some, hsame], rfl⟩, ?_, hadmissions⟩
          rw [hidempotency]
          simp [ControlPlaneStore.claimIdempotency, hentry, hsame]
    · cases hout
  · rcases claimOrReplayAdmission_cases hconflict with ⟨-, hout, -⟩ | ⟨entry, hentry, rfl, ⟨-, hout⟩ | ⟨hother, hout⟩⟩
    · cases hout
    · cases hout
    · cases hout
      exact .inl ⟨entry, hentry, rfl, .inr ⟨hother, rfl⟩⟩

theorem submitSchemaAdmission_cases {out : Except ControlPlaneError SchemaAdmissionRecord}
    (hexec : Program.Exec (ControlPlaneRequest.Answers host port)
      (submitSchemaAdmission host command) w out w') : Submitted host w command out w' := by
  unfold submitSchemaAdmission at hexec
  rcases Program.exec_bind.1 hexec with ⟨⟨active, candidate, plan⟩, m, hvalidated, hadmit⟩ | ⟨e, hrefused, rfl⟩
  rotate_left
  · obtain ⟨rfl, ⟨_, _, _, hok, -⟩ | ⟨-, hinvalid⟩⟩ := validateSubmission_cases hrefused
    · cases hok
    · exact .refused hinvalid
  obtain ⟨rfl, ⟨_, _, _, hok, hvalid⟩ | ⟨⟨_, herror⟩, -⟩⟩ := validateSubmission_cases hvalidated
  rotate_left
  · cases herror
  cases hok
  unfold admitSubmission at hadmit
  rcases Program.exec_bind.1 hadmit with ⟨qualification, n, hqualified, hclaim⟩ | ⟨e, hdenied, rfl⟩
  rotate_left
  · rcases Program.exec_handle.1 hdenied with ⟨_, -, herror⟩ | ⟨e', n, hqualify, hrelease⟩
    · cases herror
    obtain ⟨rfl, ⟨violation, hviolation, heq⟩ | ⟨-, _, heq⟩⟩ := qualify_cases hqualify
    · cases heq
      obtain ⟨-, n, rfl, hfail⟩ := exec_bind_ask.1 hrelease
      obtain ⟨heq, rfl⟩ := Program.exec_fail.1 hfail
      cases heq
      exact .unqualified hvalid hviolation
    · cases heq
  rcases Program.exec_handle.1 hqualified with ⟨_, hqualify, heq⟩ | ⟨e', n', -, hrelease⟩
  rotate_left
  · obtain ⟨-, n'', -, hfail⟩ := exec_bind_ask.1 hrelease
    cases (Program.exec_fail.1 hfail).1
  cases heq
  obtain ⟨rfl, ⟨_, -, heq⟩ | ⟨hqualification, qualifiedAt, heq⟩⟩ := qualify_cases hqualify
  · cases heq
  cases heq
  replace hclaim : Program.Exec (ControlPlaneRequest.Answers host port)
    (storeSubmission command (submittedRecord command active candidate plan qualifiedAt)) n out w' := hclaim
  rcases storeSubmission_cases hclaim with
    ⟨entry, hentry, rfl, ⟨stored, hsame, hfound, rfl⟩ | ⟨hother, rfl⟩⟩ | ⟨hfree, hclaimed, hwritten⟩
  · refine .replay hvalid hqualification ?_ hfound
    exact (congrArg (Option.map _) hentry).trans (congrArg some hsame)
  · exact .conflict hvalid hqualification hentry hother
  · exact .stored hvalid hqualification hfree hclaimed hwritten

theorem ControlPlaneCall.step_submission
    (h : (ControlPlaneCall.submitSchemaAdmission command).Step host port w w') :
    ∃ out, Submitted host w command out w' := by
  obtain ⟨_, hcall⟩ := h
  obtain ⟨out, hexec⟩ := exec_of_dropped hcall
  exact ⟨out, submitSchemaAdmission_cases hexec⟩

def sampleSchema : OrchestrationSchema := buildOrchestrationSchema "schema" [delegateTemplate]

def sampleRevision (revisionId : String) : SchemaRevision :=
  createSchemaRevision sampleHost.toContentHashes sampleSchema revisionId "ada" "0" none

def submissionWorld {R : Type} (runtime : R) : ControlPlaneWorld R :=
  { sampleWorld runtime with
    store := { (sampleWorld runtime).store with
      revisions := .ofList [("schema@1", sampleRevision "1"), ("schema@2", sampleRevision "2")] } }

def sampleSubmission (admissionId : SchemaAdmissionId) (idempotencyKey : IdempotencyKey)
    (reasonRef : Option String) : SubmitSchemaAdmissionCommand :=
  { context := sampleAdministrator "ada"
    request :=
      { admissionId
        activationDomainId := "domain"
        expectedBindingGeneration := 0
        expectedSchemaRef := sampleBinding.schemaRef
        expectedEpochId := "epoch"
        expectedEpochOrdinal := 0
        expectedRuntimeHead := "head"
        candidateSchemaRef := (sampleRevision "2").schemaRef
        requestedBy := "ada"
        requestedAt := "0"
        reasonRef
        evidenceRefs := none
        idempotencyKey } }

def samplePlan : SchemaExtensionPlan :=
  { fromSchemaRef := (sampleRevision "1").schemaRef
    toSchemaRef := (sampleRevision "2").schemaRef
    addedObjectTypeIds := []
    addedOperationTypeIds := []
    objectEmbedding := .ofList [("artifact", "artifact"), ("capability", "capability")]
    operationEmbedding := .ofList [("delegate", "delegate")] }

end Cantilune
