import Cantilune.Lemmas.Submissions

/-!
# Submissions with an idempotency key

A key stays bound to the digest that claimed it for as long as no submission with it fails its qualification.
-/

namespace Cantilune

variable {R : Type} {host : ControlPlaneHost} {port : RuntimePort R} {w w' : ControlPlaneWorld R}

/-! ## What stays -/

def KeepsKey (hashes : ContentHashes) (key : IdempotencyKey) (store : ControlPlaneStore) : ControlPlaneCall → Prop
  | .submitSchemaAdmission command => command.request.idempotencyKey = key → ∀ active candidate plan,
      SubmissionValid hashes store command active candidate plan →
        submissionQualification command active candidate plan = .ok ()
  | _ => True

def KeyBound (key : IdempotencyKey) (digest : AdmissionDigest) (store : ControlPlaneStore) : Prop :=
  (store.idempotency.get? key).map IdempotencyEntry.digest = some digest ∧
    store.admissions.has digest.admissionId = true

theorem ControlPlaneRequest.answers_admissions_has {r : ControlPlaneRequest} {resp : r.Response}
    {id : SchemaAdmissionId} (h : r.Answers host port w resp w') (hhas : w.store.admissions.has id = true) :
    w'.store.admissions.has id = true := by
  by_cases hpart : StorePart.admissions ∈ r.writes
  · cases r with
    | putAdmission record =>
        cases h
        simp [ControlPlaneStore.putAdmission, OrdMap.has_set, hhas]
    | finalizeAdmissionCommit input =>
        obtain ⟨-, rfl⟩ := ControlPlaneWorld.answered_eq h
        unfold ControlPlaneStore.finalizeAdmissionCommit
        split
        · dsimp only
          split
          · simp [ControlPlaneStore.putAdmission, ControlPlaneStore.putCommitDecision,
              ControlPlaneStore.putCommitReceipt, OrdMap.has_set, hhas]
          · rename_i after hafter
            have hframe := ControlPlaneStore.appendEvent_frame hafter (by decide : StorePart.admissions ≠ .events)
            rw [show after.admissions = _ from hframe]
            simp [ControlPlaneStore.putAdmission, ControlPlaneStore.putCommitDecision,
              ControlPlaneStore.putCommitReceipt, OrdMap.has_set, hhas]
        · exact hhas
    | _ => simp [ControlPlaneRequest.writes] at hpart
  · have hframe := r.answers_frame h hpart
    rw [show w'.store.admissions = _ from hframe]
    exact hhas

theorem ControlPlaneCall.step_admissions_has {call : ControlPlaneCall} {id : SchemaAdmissionId}
    (h : call.Step host port w w') (hhas : w.store.admissions.has id = true) :
    w'.store.admissions.has id = true := by
  obtain ⟨out, hexec⟩ := h
  exact hexec.invariant (I := fun m => m.store.admissions.has id = true) call.program_writes
    (fun s r resp t _ hanswer hs => r.answers_admissions_has hanswer hs) hhas

theorem ControlPlaneStore.claimIdempotency_replay {store : ControlPlaneStore} {key : IdempotencyKey}
    {digest : AdmissionDigest} (h : (store.idempotency.get? key).map IdempotencyEntry.digest = some digest) :
    store.claimIdempotency key digest = (.replay, store) := by
  obtain ⟨entry, hentry, hdigest⟩ := Option.map_eq_some_iff.1 h
  simp [claimIdempotency, hentry, hdigest]

theorem ControlPlaneStore.claimIdempotency_get?_ne {store : ControlPlaneStore} {key other : IdempotencyKey}
    {digest : AdmissionDigest} (h : key ≠ other) :
    (store.claimIdempotency other digest).2.idempotency.get? key = store.idempotency.get? key := by
  unfold claimIdempotency
  split
  · exact OrdMap.get?_set_ne _ _ h
  · split <;> rfl

theorem ControlPlaneCall.step_keyBound {call : ControlPlaneCall} {key : IdempotencyKey} {digest : AdmissionDigest}
    (h : call.Step host port w w') (hkeeps : KeepsKey host.toContentHashes key w.store call)
    (hw : KeyBound key digest w.store) : KeyBound key digest w'.store := by
  refine ⟨?_, step_admissions_has h hw.2⟩
  have hsame : w'.store.idempotency = w.store.idempotency →
      (w'.store.idempotency.get? key).map IdempotencyEntry.digest = some digest := by
    intro heq
    rw [heq]
    exact hw.1
  cases call with
  | submitSchemaAdmission command =>
      obtain ⟨out, hsubmitted⟩ := step_submission h
      cases hsubmitted with
      | refused => exact hw.1
      | conflict => exact hw.1
      | replay => exact hw.1
      | @unqualified active candidate plan violation hvalid hdenied =>
          have hne : key ≠ command.request.idempotencyKey := by
            rintro rfl
            cases hdenied.symm.trans (hkeeps rfl active candidate plan hvalid)
          show ((w.store.idempotency.delete command.request.idempotencyKey).get? key).map _ = _
          rw [OrdMap.get?_delete, if_neg hne]
          exact hw.1
      | stored hvalid hqualified hfree hclaimed hwritten =>
          by_cases hkey : key = command.request.idempotencyKey
          · -- the key is taken, so that the submission replays the claim of a record that is gone
            subst hkey
            rcases hfree with hnone | ⟨hsameDigest, -⟩
            · rw [KeyBound, hnone] at hw
              cases hw.1
            · rw [ControlPlaneStore.claimIdempotency_replay hsameDigest] at hclaimed
              exact hsame hclaimed
          · rw [hclaimed, ControlPlaneStore.claimIdempotency_get?_ne hkey]
            exact hw.1
  | _ => exact hsame (step_frame h (show StorePart.idempotency ∉ _ by simp [parts, commitParts]))

theorem Submitted.keyBound {command : SubmitSchemaAdmissionCommand} {record : SchemaAdmissionRecord}
    (h : Submitted host w command (.ok record) w') :
    KeyBound command.request.idempotencyKey (submissionDigest command) w'.store := by
  cases h with
  | replay hvalid hqualified hsame hfound => exact ⟨hsame, OrdMap.has_of_get? hfound⟩
  | stored hvalid hqualified hfree hclaimed hwritten =>
      refine ⟨?_, by rw [hwritten, OrdMap.has_set, submissionDigest]; simp⟩
      rw [hclaimed]
      rcases hfree with hnone | ⟨hsame, -⟩
      · simp [ControlPlaneStore.claimIdempotency, hnone]
      · rw [ControlPlaneStore.claimIdempotency_replay hsame]
        exact hsame

/-! ## Runs -/

/-- After a submission with a key has succeeded, and as long as no submission with the key fails its
qualification: a later one that does not pass its validation is refused, one that passes its validation and
qualification returns the stored record if the digests are the same and is a conflict if they are not, and
none of these changes anything. -/
theorem submission_key_stays_bound {R : Type} (host : ControlPlaneHost) (port : RuntimePort R)
    {w₀ w₁ w₂ w₃ : ControlPlaneWorld R} {command later : SubmitSchemaAdmissionCommand}
    {record : SchemaAdmissionRecord} {calls : List ControlPlaneCall}
    {out : Except ControlPlaneError SchemaAdmissionRecord}
    (hsubmit : Program.Exec (fun w r resp w' => ControlPlaneRequest.Answers host port w r resp w')
      (submitSchemaAdmission host command) w₀ (.ok record) w₁)
    (hrun : Run (fun w call w' => ControlPlaneCall.Step host port w call w') w₁ calls w₂)
    (hkeeps : Run.Every (fun w call w' => ControlPlaneCall.Step host port w call w')
      (fun m call _ => KeepsKey host.toContentHashes command.request.idempotencyKey m.store call) w₁ calls)
    (hkey : later.request.idempotencyKey = command.request.idempotencyKey)
    (hlater : Program.Exec (fun w r resp w' => ControlPlaneRequest.Answers host port w r resp w')
      (submitSchemaAdmission host later) w₂ out w₃) :
    ((∀ active candidate plan, ¬ SubmissionValid host.toContentHashes w₂.store later active candidate plan) →
        w₃ = w₂ ∧ ∃ e, out = .error e) ∧
      ∀ active candidate plan, SubmissionValid host.toContentHashes w₂.store later active candidate plan →
        submissionQualification later active candidate plan = .ok () →
          w₃ = w₂ ∧
            (submissionDigest later = submissionDigest command →
              ∃ stored, w₂.store.admissions.get? later.request.admissionId = some stored ∧ out = .ok stored) ∧
            (submissionDigest later ≠ submissionDigest command → out = .error (.violation
              (controlPlaneViolation .idempotencyConflict .validate "idempotency key digest conflict"))) := by
  have hbound : KeyBound later.request.idempotencyKey (submissionDigest command) w₂.store := by
    rw [hkey]
    exact hrun.invariant_of_every hkeeps
      (I := fun m => KeyBound command.request.idempotencyKey (submissionDigest command) m.store)
      (fun _ _ _ => ControlPlaneCall.step_keyBound) (submitSchemaAdmission_cases hsubmit).keyBound
  have hclaim : ClaimedBySame w₂.store later ↔ submissionDigest later = submissionDigest command := by
    rw [ClaimedBySame, hbound.1, Option.some.injEq]
    exact eq_comm
  constructor
  · intro hinvalid
    cases submitSchemaAdmission_cases hlater with
    | refused => exact ⟨rfl, _, rfl⟩
    | unqualified hvalid => exact absurd hvalid (hinvalid _ _ _)
    | conflict hvalid => exact absurd hvalid (hinvalid _ _ _)
    | replay hvalid => exact absurd hvalid (hinvalid _ _ _)
    | stored hvalid => exact absurd hvalid (hinvalid _ _ _)
  · intro active candidate plan hvalid hqualified
    cases submitSchemaAdmission_cases hlater with
    | refused hinvalid => exact absurd hvalid (hinvalid _ _ _)
    | unqualified hvalid' hdenied =>
        obtain ⟨rfl, rfl, rfl⟩ := hvalid.unique hvalid'
        cases hqualified.symm.trans hdenied
    | conflict hvalid' hqualified' htaken hother =>
        refine ⟨rfl, fun hsame => ?_, fun _ => rfl⟩
        have hclaimed := hclaim.2 hsame
        rw [ClaimedBySame, htaken] at hclaimed
        exact absurd (Option.some.inj hclaimed) hother
    | replay hvalid' hqualified' hsame hfound =>
        exact ⟨rfl, fun _ => ⟨_, hfound, rfl⟩, fun hne => absurd (hclaim.1 hsame) hne⟩
    | stored hvalid' hqualified' hfree =>
        rcases hfree with hnone | ⟨hsame, hnone⟩
        · rw [KeyBound, hnone] at hbound
          cases hbound.1
        · have hid : (submissionDigest command).admissionId = later.request.admissionId :=
            congrArg AdmissionDigest.admissionId (hclaim.1 hsame).symm
          rw [KeyBound, hid, OrdMap.has, hnone] at hbound
          cases hbound.2

/-! ## The sample submission twice -/

def submitSample (reasonRef : Option String) (w : ControlPlaneWorld Unit) :
    Option (Except ControlPlaneError SchemaAdmissionRecord × ControlPlaneWorld Unit) :=
  (submitSchemaAdmission sampleHost (sampleSubmission "adm-1" "key-1" reasonRef)).eval?
    (idleRuntime.answer? sampleHost) w

theorem exec_of_submitSample {reasonRef : Option String} {w w' : ControlPlaneWorld Unit}
    {out : Except ControlPlaneError SchemaAdmissionRecord} (h : submitSample reasonRef w = some (out, w')) :
    Program.Exec (fun w r resp w' => ControlPlaneRequest.Answers sampleHost idleRuntime.toPort w r resp w')
      (submitSchemaAdmission sampleHost (sampleSubmission "adm-1" "key-1" reasonRef)) w out w' :=
  idleRuntime.exec_of_eval? h

def submittedWorld : ControlPlaneWorld Unit :=
  ((submitSample none (submissionWorld ())).map Prod.snd).getD (submissionWorld ())

def submittedSample : SchemaAdmissionRecord :=
  submittedRecord (sampleSubmission "adm-1" "key-1" none) sampleBinding (sampleRevision "2") samplePlan "0"

theorem submitSample_first : submitSample none (submissionWorld ()) = some (.ok submittedSample, submittedWorld) := by
  have hout : (submitSample none (submissionWorld ())).map Prod.fst = some (.ok submittedSample) := by decide +kernel
  obtain ⟨⟨out, w⟩, hrun, rfl⟩ := Option.map_eq_some_iff.1 hout
  rw [submittedWorld, hrun]
  rfl

theorem submittedWorld_valid : SubmissionValid sampleHost.toContentHashes submittedWorld.store
    (sampleSubmission "adm-1" "key-1" none) sampleBinding (sampleRevision "2") samplePlan where
  notFrozen := by decide +kernel
  binding := by decide +kernel
  found := by decide +kernel
  extension := ⟨sampleRevision "1", by decide +kernel, by decide +kernel⟩

theorem submission_key_stays_bound_twice :
    ∃ (out : Except ControlPlaneError SchemaAdmissionRecord) (w : ControlPlaneWorld Unit) (stored : SchemaAdmissionRecord),
      submitSample none submittedWorld = some (out, w) ∧ w = submittedWorld ∧
        submittedWorld.store.admissions.get? "adm-1" = some stored ∧ out = .ok stored := by
  obtain ⟨⟨out, w⟩, hrun⟩ : ∃ second, submitSample none submittedWorld = some second :=
    Option.isSome_iff_exists.1 (by decide +kernel)
  obtain ⟨heq, hsame, -⟩ := (submission_key_stays_bound sampleHost idleRuntime.toPort
    (exec_of_submitSample submitSample_first) (.nil submittedWorld) (fun pre _ _ _ _ heq => by cases pre <;> cases heq) rfl
    (exec_of_submitSample hrun)).2 sampleBinding (sampleRevision "2") samplePlan submittedWorld_valid (by decide +kernel)
  obtain ⟨stored, hstored, hout⟩ := hsame rfl
  exact ⟨out, w, stored, hrun, heq, hstored, hout⟩

/-- What the key is bound to is neither all of the request nor read first: the same submission is refused
while the control plane is frozen, and one with another reason returns the stored record. -/
theorem submission_key_not_bound_to_request :
    (¬ ∀ (host : ControlPlaneHost) (port : RuntimePort Unit) (w₀ w₁ w₂ w₃ : ControlPlaneWorld Unit)
        (command : SubmitSchemaAdmissionCommand) (record : SchemaAdmissionRecord) (calls : List ControlPlaneCall)
        (out : Except ControlPlaneError SchemaAdmissionRecord),
      Program.Exec (fun w r resp w' => ControlPlaneRequest.Answers host port w r resp w')
          (submitSchemaAdmission host command) w₀ (.ok record) w₁ →
        Run (fun w call w' => ControlPlaneCall.Step host port w call w') w₁ calls w₂ →
        Program.Exec (fun w r resp w' => ControlPlaneRequest.Answers host port w r resp w')
          (submitSchemaAdmission host command) w₂ out w₃ →
          ∃ stored, w₂.store.admissions.get? command.request.admissionId = some stored ∧ out = .ok stored) ∧
    (¬ ∀ (host : ControlPlaneHost) (port : RuntimePort Unit) (w₀ w₁ w₂ w₃ : ControlPlaneWorld Unit)
        (command later : SubmitSchemaAdmissionCommand) (record : SchemaAdmissionRecord)
        (calls : List ControlPlaneCall) (out : Except ControlPlaneError SchemaAdmissionRecord),
      Program.Exec (fun w r resp w' => ControlPlaneRequest.Answers host port w r resp w')
          (submitSchemaAdmission host command) w₀ (.ok record) w₁ →
        Run (fun w call w' => ControlPlaneCall.Step host port w call w') w₁ calls w₂ →
        later.request.idempotencyKey = command.request.idempotencyKey → later.request ≠ command.request →
        Program.Exec (fun w r resp w' => ControlPlaneRequest.Answers host port w r resp w')
          (submitSchemaAdmission host later) w₂ out w₃ →
          ∃ violation, out = .error (.violation violation)) := by
  constructor
  · intro hall
    have hrefused : ((submitSample none { submittedWorld with store := { submittedWorld.store with frozen := true } }).map
        fun second => second.1.isOk) = some false := by
      decide +kernel
    obtain ⟨⟨out, w⟩, hrun, hout⟩ := Option.map_eq_some_iff.1 hrefused
    obtain ⟨stored, -, rfl⟩ := hall sampleHost idleRuntime.toPort _ _ _ _ _ _ [.setFrozen true] _
      (exec_of_submitSample submitSample_first) (.single (idleRuntime.step_of_call? rfl)) (exec_of_submitSample hrun)
    cases hout
  · intro hall
    have hreplayed : ((submitSample (some "other") submittedWorld).map fun second => second.1.isOk) = some true := by
      decide +kernel
    obtain ⟨⟨out, w⟩, hrun, hout⟩ := Option.map_eq_some_iff.1 hreplayed
    obtain ⟨violation, rfl⟩ := hall sampleHost idleRuntime.toPort _ _ _ _ _ (sampleSubmission "adm-1" "key-1" (some "other"))
      _ [] _ (exec_of_submitSample submitSample_first) (.nil _) rfl (by decide) (exec_of_submitSample hrun)
    cases hout

end Cantilune
