import Cantilune.Base.Interruptions
import Cantilune.ControlPlane.Worker

/-!
# The waits of the control plane

Preparation, commit and recovery wait for the evidence gate and for the runtime; a commit also gives way between the
decision that it writes with the runtime's answer and its last part. In between other calls run.
-/

namespace Cantilune

open ControlPlaneProgram

/-- Where a call goes on after something it has waited for. -/
inductive ControlPlanePoint where
  | conformed (command : PrepareSchemaAdmissionCommand) (record : SchemaAdmissionRecord) (active : SchemaEpochBinding)
      (targetSchemaRef : SchemaRef) (subject : AdmissionEvidenceSubject)
      (verified : Except (List String) VerifiedFourViewEvidence)
  | prepared (command : PrepareSchemaAdmissionCommand) (record : SchemaAdmissionRecord) (active : SchemaEpochBinding)
      (subject : AdmissionEvidenceSubject) (fourView : VerifiedFourViewEvidence) (planDigest : PlanDigest)
      (prepareResult : Except RuntimeViolation PreparedEpochTransition)
  | committed (input : CommitAdmissionTransactionInput) (decision : CommitDecisionRecord)
      (toBinding : SchemaEpochBinding) (commitResult : Except RuntimeViolation RuntimeEpochReceipt)
  /-- The runtime has refused the commit and was asked for a recovery. -/
  | reapplied (input : CommitAdmissionTransactionInput) (decision : CommitDecisionRecord)
      (toBinding : SchemaEpochBinding) (e : RuntimeViolation) (recovered : Except RuntimeViolation RuntimeEpochReceipt)
  /-- The decision was applied before, and the runtime was asked for its receipt. -/
  | confirmed (input : CommitAdmissionTransactionInput) (decision : CommitDecisionRecord)
      (toBinding : SchemaEpochBinding) (recovered : Except RuntimeViolation RuntimeEpochReceipt)
  | finalizing (input : CommitAdmissionTransactionInput) (decision : CommitDecisionRecord)
      (toBinding : SchemaEpochBinding) (runtimeReceipt : RuntimeEpochReceipt)
  /-- `unprepared` where a commit recovers because its record is not prepared. -/
  | recovered (unprepared : Bool) (admissionId : SchemaAdmissionId) (decision : CommitDecisionRecord)
      (toBinding : SchemaEpochBinding) (record : SchemaAdmissionRecord) (active : SchemaEpochBinding)
      (answer : Except RuntimeViolation RuntimeEpochReceipt)

/-- A call waits for the answer to a request, or for its next turn. -/
inductive ControlPlaneWait where
  | asking (r : ControlPlaneRequest) (next : r.Response → ControlPlanePoint)
  | turn (point : ControlPlanePoint)

/-- A section of a call: it ends in a wait, or with the call. -/
abbrev ControlPlaneSection : Type := ControlPlaneProgram (Option ControlPlaneWait)

/-- The call ends with the program. -/
def ending {α : Type} (p : ControlPlaneProgram α) : ControlPlaneSection := p >>= fun _ => .done none

variable (host : ControlPlaneHost)

/-! ## Preparation -/

def preparationStart (command : PrepareSchemaAdmissionCommand) : ControlPlaneSection := do
  ensureNotFrozen .prepare
  let found ← ask (.getAdmission command.admissionId)
  let record ← orRefuse (found.filter fun record => canTransitionAdmission record.state .preparing)
    (controlPlaneViolation .invalidInput .prepare "admission not ready for prepare")
  let binding ← ask (.getActiveBinding record.request.activationDomainId)
  let missing := controlPlaneViolation .invalidInput .prepare "missing authorization fields"
  let active ← orRefuse binding missing
  let targetSchemaRef ← orRefuse record.targetSchemaRef missing
  let _ ← orRefuse record.targetEpochId missing
  let _ ← orRefuse record.qualification missing
  let _ ← orRefuse record.authorization missing
  let subject ← orRefuse (buildAdmissionEvidenceSubject record active)
    (controlPlaneViolation .invalidInput .prepare "cannot build evidence subject")
  .done (some (.asking (.validateSealedAdmissionPrepare subject) fun verified =>
    .conformed command record active targetSchemaRef subject verified))

def conformedSection (command : PrepareSchemaAdmissionCommand) (record : SchemaAdmissionRecord)
    (active : SchemaEpochBinding) (targetSchemaRef : SchemaRef) (subject : AdmissionEvidenceSubject)
    (verified : Except (List String) VerifiedFourViewEvidence) : ControlPlaneSection := do
  let fourView ← checked (verified.mapError fun messages =>
    controlPlaneViolation .conformanceInvalid .prepare ("; ".intercalate messages))
  let stored ← ask (.getRevision targetSchemaRef)
  let found ← orThrow stored
  let candidate ← orRefuse found
    (controlPlaneViolation .schemaNotFound .prepare "candidate revision missing")
  checked (validateHandlerManifestAgainstSchema command.handlerManifest
    (allowedOperationsFromSchema candidate.schema))
  let plan ← orRefuse record.extensionPlan
    (controlPlaneViolation .invalidInput .prepare "cannot build evidence subject")
  let planDigest := extensionPlanCanonicalDigest plan
  .done (some (.asking
    (.prepareEpochTransition
      { admissionId := command.admissionId
        domainId := record.request.activationDomainId
        expectedBindingGeneration := record.request.expectedBindingGeneration
        expectedHead := record.request.expectedRuntimeHead
        expectedEpochId := record.request.expectedEpochId
        expectedEpochOrdinal := record.request.expectedEpochOrdinal
        targetSchemaRef
        targetEpochId := subject.toEpochId
        targetEpochOrdinal := subject.toEpochOrdinal
        planDigest })
    fun prepareResult => .prepared command record active subject fourView planDigest prepareResult))

def preparedSection (command : PrepareSchemaAdmissionCommand) (record : SchemaAdmissionRecord)
    (active : SchemaEpochBinding) (subject : AdmissionEvidenceSubject) (fourView : VerifiedFourViewEvidence)
    (planDigest : PlanDigest) (prepareResult : Except RuntimeViolation PreparedEpochTransition) :
    ControlPlaneSection := do
  let token ← checked (prepareResult.mapError fun e =>
    controlPlaneViolation .preparationExpired .prepare e.message none none none true)
  let uuid ← ask .randomUUID
  let preparedRecord := preparedRecordOf command.admissionId record active subject planDigest s!"prep-{uuid}" token
  ask (.putPrepared preparedRecord)
  let updatedAt ← timestamp host
  ask (.putAdmission { record with
    fourView := some fourView
    targetHandlerManifestRef := some command.handlerManifest.manifestRef
    state := .prepared
    updatedAt })
  let _ ← logEvent .schemaAdmissionPrepared (administrationActorId command.context)
    (.prepared command.admissionId preparedRecord.preparedId)
  .done none

/-! ## Commit -/

def appliedSection (input : CommitAdmissionTransactionInput) (decision : CommitDecisionRecord)
    (toBinding : SchemaEpochBinding) (receipt : RuntimeEpochReceipt) : ControlPlaneSection := do
  checked (denyIf (receipt.admissionId ≠ input.admissionId)
    (controlPlaneViolation .commitConflict .commit "runtime receipt admission mismatch"))
  checked (denyIf (receipt.toBinding.schemaRef.digest ≠ input.preparedRecord.toSchemaRef.digest)
    (controlPlaneViolation .commitConflict .commit "runtime target schema mismatch"))
  let updatedAt ← timestamp host
  let updated := { decision with
    status := .runtimeApplied
    runtimeBeforeRef := some receipt.beforeSnapshotRef
    runtimeAfterRef := some receipt.afterSnapshotRef
    toBinding := some { toBinding with runtimeHead := receipt.afterSnapshotRef }
    updatedAt }
  ask (.putCommitDecision updated)
  .done (some (.turn (.finalizing input updated toBinding receipt)))

def committedSection (input : CommitAdmissionTransactionInput) (decision : CommitDecisionRecord)
    (toBinding : SchemaEpochBinding) : Except RuntimeViolation RuntimeEpochReceipt → ControlPlaneSection
  | .ok receipt => appliedSection host input decision toBinding receipt
  | .error e => .done (some (.asking (.recoverEpochTransition input.admissionId) fun recovered =>
      .reapplied input decision toBinding e recovered))

def reappliedSection (input : CommitAdmissionTransactionInput) (decision : CommitDecisionRecord)
    (toBinding : SchemaEpochBinding) (e : RuntimeViolation) :
    Except RuntimeViolation RuntimeEpochReceipt → ControlPlaneSection
  | .ok receipt => appliedSection host input decision toBinding receipt
  | .error _ => do
      let updatedAt ← timestamp host
      ask (.putCommitDecision { decision with status := .recoveryRequired, updatedAt })
      refuse (controlPlaneViolation .commitConflict .commit e.message none none none true)

def confirmedSection (input : CommitAdmissionTransactionInput) (decision : CommitDecisionRecord)
    (toBinding : SchemaEpochBinding) (recovered : Except RuntimeViolation RuntimeEpochReceipt) :
    ControlPlaneSection := do
  let receipt ← checked (recovered.mapError fun e =>
    controlPlaneViolation .commitConflict .commit e.message none none none true)
  .done (some (.turn (.finalizing input decision toBinding receipt)))

/-- The runtime is asked as the status of the decision says. -/
def resolutionStart (input : CommitAdmissionTransactionInput) (decision : CommitDecisionRecord)
    (toBinding : SchemaEpochBinding) : ControlPlaneSection :=
  if decision.status = .runtimeApplied ∧ decision.runtimeAfterRef.isSome then
    .done (some (.asking (.recoverEpochTransition input.admissionId) fun recovered =>
      .confirmed input decision toBinding recovered))
  else if decision.status = .decided ∨ decision.status = .recoveryRequired then
    .done (some (.asking
      (.commitEpochTransition
        { preparedId := input.preparedRecord.runtimePreparedId
          planDigest := input.preparedRecord.planDigest
          issuedAt := input.preparedRecord.issuedAt
          expiresAt := input.preparedRecord.expiresAt })
      fun commitResult => .committed input decision toBinding commitResult))
  else refuse (controlPlaneViolation .invalidInput .commit "unexpected commit decision state")

def transactionStart (input : CommitAdmissionTransactionInput) : ControlPlaneSection := do
  let existingReceipt ← ask (.getCommitReceipt input.admissionId)
  let existingDecision ← ask (.getCommitDecision input.admissionId)
  match existingReceipt.filter fun _ => existingDecision.any fun decision => decision.status = .finalized with
  | some _ => .done none
  | none =>
      let activatedAt ← timestamp host
      let toBinding ← orThrow (transactionBinding input activatedAt)
      let updatedAt ← timestamp host
      let decision := existingDecision.getD
        { admissionId := input.admissionId
          preparedId := input.preparedId
          expectedBindingGeneration := input.active.bindingGeneration
          status := .decided
          toBinding := some toBinding
          operator := some input.operator
          runtimeBeforeRef := none
          runtimeAfterRef := none
          updatedAt }
      if decision.status = .decided then
        ask (.putCommitDecision decision)
      resolutionStart input decision toBinding

/-- What a commit whose record is not prepared makes of the errors of its recovery. -/
def unpreparedError (unprepared : Bool) : ControlPlaneError → ControlPlaneError
  | .violation violation =>
      .violation (if unprepared then controlPlaneViolation .invalidInput .commit "admission not prepared" else violation)
  | .thrown message => .thrown message

def recoveryStart (unprepared : Bool) (admissionId : SchemaAdmissionId) : ControlPlaneSection := do
  let found ← ask (.getCommitDecision admissionId)
  let unrecoverable := controlPlaneViolation .invalidInput .commit "no recoverable commit decision"
  let decision ← orRefuse found unrecoverable
  let toBinding ← orRefuse decision.toBinding unrecoverable
  let finished ← finishedReceipt decision admissionId
  match finished with
  | some _ => .done none
  | none =>
      checked (denyIf (decision.status ≠ .runtimeApplied ∧ decision.status ≠ .recoveryRequired)
        (controlPlaneViolation .invalidInput .commit "commit not ready for recovery"))
      let found ← ask (.getAdmission admissionId)
      let record ← orRefuse found
        (controlPlaneViolation .invalidInput .commit "admission missing during recovery")
      let binding ← ask (.getActiveBinding record.request.activationDomainId)
      let active ← orRefuse binding
        (controlPlaneViolation .staleActiveBinding .commit "active binding missing")
      .done (some (.asking (.recoverEpochTransition admissionId) fun answer =>
        .recovered unprepared admissionId decision toBinding record active answer))

def recoveredSection (admissionId : SchemaAdmissionId) (decision : CommitDecisionRecord)
    (toBinding : SchemaEpochBinding) (record : SchemaAdmissionRecord) (active : SchemaEpochBinding)
    (answer : Except RuntimeViolation RuntimeEpochReceipt) : ControlPlaneProgram SchemaAdmissionReceipt := do
  let recovered ← checked (answer.mapError fun e =>
    controlPlaneViolation .commitConflict .commit e.message none none none true)
  let existing ← ask (.getCommitReceipt admissionId)
  match existing.filter fun receipt => receipt.toBinding.bindingGeneration = active.bindingGeneration ∧
      receipt.toBinding.schemaRef.digest = active.schemaRef.digest with
  | some receipt => .done receipt
  | none =>
      let missing := controlPlaneViolation .invalidInput .commit "missing evidence during recovery"
      let _ ← orRefuse (buildAdmissionEvidenceSubject record active) missing
      let qualification ← orRefuse record.qualification missing
      let authorization ← orRefuse record.authorization missing
      finalizeRecovery host admissionId decision toBinding record active recovered qualification authorization

/-! ## The calls -/

def commitPreparedStart (command : CommitSchemaAdmissionCommand) (record : SchemaAdmissionRecord) :
    ControlPlaneSection := do
  let missing := controlPlaneViolation .authorizationDenied .commit "missing evidence bundle"
  let qualification ← orRefuse record.qualification missing
  let authorization ← orRefuse record.authorization missing
  let binding ← ask (.getActiveBinding record.request.activationDomainId)
  let active ← orRefuse binding (controlPlaneViolation .staleActiveBinding .commit "active binding missing")
  let subject ← orRefuse (buildAdmissionEvidenceSubject record active)
    (controlPlaneViolation .invalidInput .commit "evidence subject missing")
  let operator := administrationActorId command.context
  let now ← ask .now
  checked (verifyAuthorization host subject qualification authorization operator now)
  let consumed ← ask (.consumePrepared command.preparedHandle.preparedId)
  match consumed with
  | none =>
      let existing ← ask (.getCommitDecision command.admissionId)
      if existing.any fun decision => decision.preparedId = command.preparedHandle.preparedId then
        recoveryStart false command.admissionId
      else
        refuse (controlPlaneViolation .invalidInput .commit "prepared token invalid or consumed")
  | some preparedRecord =>
      checked (denyIf (preparedRecord.admissionId ≠ command.admissionId)
        (controlPlaneViolation .invalidInput .commit "prepared token admission mismatch"))
      let now ← ask .now
      checked (denyIf ((host.dateParse preparedRecord.expiresAt).any fun expiresAt => expiresAt < now)
        (controlPlaneViolation .preparationExpired .commit "preparation expired"))
      checked (denyIf (preparedRecord.expectedBindingGeneration ≠ active.bindingGeneration)
        (controlPlaneViolation .staleActiveBinding .commit "binding generation drift"))
      transactionStart host
        { admissionId := command.admissionId, preparedId := preparedRecord.preparedId, operator, record, active
          preparedRecord }

def commitStart (command : CommitSchemaAdmissionCommand) : ControlPlaneSection := do
  ensureNotFrozen .commit
  let found ← ask (.getAdmission command.admissionId)
  match found.filter fun record => record.state = .prepared with
  | some record => commitPreparedStart host command record
  | none => (recoveryStart true command.admissionId).handle fun e => .fail (unpreparedError true e)

def ControlPlanePoint.section : ControlPlanePoint → ControlPlaneSection
  | conformed command record active targetSchemaRef subject verified =>
      conformedSection command record active targetSchemaRef subject verified
  | prepared command record active subject fourView planDigest prepareResult =>
      preparedSection host command record active subject fourView planDigest prepareResult
  | committed input decision toBinding commitResult => committedSection host input decision toBinding commitResult
  | reapplied input decision toBinding e answer => reappliedSection host input decision toBinding e answer
  | confirmed input decision toBinding answer => confirmedSection input decision toBinding answer
  | finalizing input decision toBinding runtimeReceipt =>
      ending (finalizeTransaction host input decision toBinding runtimeReceipt)
  | recovered unprepared admissionId decision toBinding record active answer =>
      ending ((recoveredSection host admissionId decision toBinding record active answer).handle fun e =>
        .fail (unpreparedError unprepared e))

def controlPlaneSections : Interruptible ControlPlaneRequest ControlPlaneRequest.Response ControlPlaneError
    ControlPlaneCall ControlPlaneWait where
  start
    | .prepareSchemaAdmission command => preparationStart command
    | .commitSchemaAdmission command => commitStart host command
    | .recoverSchemaAdmissionCommit admissionId => recoveryStart false admissionId
    | call => ending (call.program host)
  resume
    | .asking r next => ask r >>= fun answer => .done (some (.turn (next answer)))
    | .turn point => point.section host

/-! ## The sections make up the calls -/

variable {host}

theorem ending_goOn {α : Type} {p : ControlPlaneProgram α} {rest : ControlPlaneWait → ControlPlaneProgram Unit} :
    (ending p >>= Interruptible.goOn rest) = p >>= fun _ => .done () := Program.bind_assoc _ _ _

theorem unrolled_asking {n : Nat} {r : ControlPlaneRequest} {next : r.Response → ControlPlanePoint} :
    (controlPlaneSections host).unrolled (n + 1) (.asking r next) =
      ask r >>= fun answer => (controlPlaneSections host).unrolled n (.turn (next answer)) := rfl

theorem unrolled_turn {n : Nat} {point : ControlPlanePoint} :
    (controlPlaneSections host).unrolled (n + 1) (.turn point) =
      point.section host >>= Interruptible.goOn ((controlPlaneSections host).unrolled n) := rfl

theorem done_goOn {n : Nat} {wait : ControlPlaneWait} :
    ((.done (some wait) : ControlPlaneSection) >>= Interruptible.goOn ((controlPlaneSections host).unrolled n)) =
      (controlPlaneSections host).unrolled n wait := rfl

theorem preparation_eq (command : PrepareSchemaAdmissionCommand) :
    (prepareSchemaAdmission host command >>= fun _ => .done ()) =
      preparationStart command >>= Interruptible.goOn ((controlPlaneSections host).unrolled 6) := by
  unfold prepareSchemaAdmission preparationStart
  simp only [Program.bind_assoc, done_goOn, unrolled_asking, unrolled_turn, ControlPlanePoint.section, conformedSection,
    preparedSection]
  rfl

theorem recovery_eq (unprepared : Bool) (admissionId : SchemaAdmissionId) {n : Nat} :
    (((recoverForwardCommit host admissionId).handle fun e => .fail (unpreparedError unprepared e)) >>=
        fun _ => .done ()) =
      ((recoveryStart unprepared admissionId).handle fun e => .fail (unpreparedError unprepared e)) >>=
        Interruptible.goOn ((controlPlaneSections host).unrolled (n + 2)) := by
  unfold recoverForwardCommit recoveryStart
  simp only [Program.bind_assoc, Program.handle_fail_bind]
  congr 1
  funext found
  congr 1
  funext decision
  congr 1
  funext toBinding
  congr 1
  funext finished
  cases finished with
  | some receipt => rfl
  | none =>
      simp only [Program.bind_assoc, Program.handle_fail_bind]
      congr 1
      funext _
      congr 1
      funext found
      congr 1
      funext record
      congr 1
      funext binding
      congr 1
      funext active
      refine congrArg (Program.ask _) (funext fun answer => ?_)
      refine Eq.trans ?_ (@ending_goOn _ ((recoveredSection host admissionId decision toBinding record active
        answer).handle fun e => .fail (unpreparedError unprepared e)) _).symm
      unfold recoveredSection
      simp only [Program.bind_assoc, Program.handle_fail_bind]
      rfl

theorem applied_eq {input : CommitAdmissionTransactionInput} {decision : CommitDecisionRecord}
    {toBinding : SchemaEpochBinding} {receipt : RuntimeEpochReceipt} {n : Nat} :
    ((do
        checked (denyIf (receipt.admissionId ≠ input.admissionId)
          (controlPlaneViolation .commitConflict .commit "runtime receipt admission mismatch"))
        checked (denyIf (receipt.toBinding.schemaRef.digest ≠ input.preparedRecord.toSchemaRef.digest)
          (controlPlaneViolation .commitConflict .commit "runtime target schema mismatch"))
        let updatedAt ← timestamp host
        let updated := { decision with
          status := .runtimeApplied
          runtimeBeforeRef := some receipt.beforeSnapshotRef
          runtimeAfterRef := some receipt.afterSnapshotRef
          toBinding := some { toBinding with runtimeHead := receipt.afterSnapshotRef }
          updatedAt }
        ask (.putCommitDecision updated)
        .done (receipt, updated)) >>= fun resolved : RuntimeEpochReceipt × CommitDecisionRecord =>
          finalizeTransaction host input resolved.2 toBinding resolved.1 >>= fun _ => .done ()) =
      appliedSection host input decision toBinding receipt >>=
        Interruptible.goOn ((controlPlaneSections host).unrolled (n + 1)) := by
  unfold appliedSection
  simp only [Program.bind_assoc, done_goOn, unrolled_turn, ControlPlanePoint.section, ending_goOn]
  rfl

theorem resolution_eq (input : CommitAdmissionTransactionInput) (decision : CommitDecisionRecord)
    (toBinding : SchemaEpochBinding) {n : Nat} :
    (resolveRuntimeReceipt host input decision toBinding >>= fun resolved =>
        finalizeTransaction host input resolved.2 toBinding resolved.1 >>= fun _ => .done ()) =
      resolutionStart input decision toBinding >>=
        Interruptible.goOn ((controlPlaneSections host).unrolled (n + 5)) := by
  unfold resolveRuntimeReceipt resolutionStart
  by_cases happlied : decision.status = .runtimeApplied ∧ decision.runtimeAfterRef.isSome
  · rw [if_pos happlied, if_pos happlied]
    simp only [Program.bind_assoc, done_goOn, unrolled_asking, unrolled_turn, ControlPlanePoint.section,
      confirmedSection, ending_goOn]
    rfl
  · rw [if_neg happlied, if_neg happlied]
    by_cases hopen : decision.status = .decided ∨ decision.status = .recoveryRequired
    · rw [if_pos hopen, if_pos hopen]
      refine congrArg (Program.ask _) (funext fun commitResult => ?_)
      cases commitResult with
      | ok receipt => exact applied_eq
      | error e =>
          refine congrArg (Program.ask _) (funext fun recovered => ?_)
          cases recovered with
          | ok receipt => exact applied_eq
          | error _ => rfl
    · rw [if_neg hopen, if_neg hopen]
      rfl

theorem transaction_eq (input : CommitAdmissionTransactionInput) {n : Nat} :
    (executeCommitAdmissionTransaction host input >>= fun _ => .done ()) =
      transactionStart host input >>= Interruptible.goOn ((controlPlaneSections host).unrolled (n + 5)) := by
  unfold executeCommitAdmissionTransaction transactionStart
  simp only [Program.bind_assoc]
  congr 1
  funext existingReceipt
  congr 1
  funext existingDecision
  cases existingReceipt.filter fun _ => existingDecision.any fun decision => decision.status = .finalized with
  | some receipt => rfl
  | none =>
      simp only [Program.bind_assoc]
      congr 1
      funext activatedAt
      congr 1
      funext toBinding
      congr 1
      funext updatedAt
      split
      · simp only [Program.bind_assoc]
        congr 1
        funext _
        exact resolution_eq input _ toBinding
      · exact (Program.bind_assoc _ _ _).trans (resolution_eq input _ toBinding)

theorem recovery_forward_eq (admissionId : SchemaAdmissionId) {n : Nat} :
    (recoverForwardCommit host admissionId >>= fun _ => .done ()) =
      recoveryStart false admissionId >>= Interruptible.goOn ((controlPlaneSections host).unrolled (n + 2)) := by
  have hsame : unpreparedError false = id := by
    funext e
    cases e <;> rfl
  have heq := @recovery_eq host false admissionId n
  simpa only [hsame, id_eq, Program.handle_fail] using heq

theorem commitPrepared_eq (command : CommitSchemaAdmissionCommand) (record : SchemaAdmissionRecord) {n : Nat} :
    (commitPrepared host command record >>= fun _ => .done ()) =
      commitPreparedStart host command record >>=
        Interruptible.goOn ((controlPlaneSections host).unrolled (n + 5)) := by
  unfold commitPrepared commitPreparedStart
  simp only [Program.bind_assoc]
  congr 1
  funext qualification
  congr 1
  funext authorization
  congr 1
  funext binding
  congr 1
  funext active
  congr 1
  funext subject
  congr 1
  funext now
  congr 1
  funext _
  congr 1
  funext consumed
  cases consumed with
  | none =>
      simp only [Program.bind_assoc]
      congr 1
      funext existing
      split
      · exact recovery_forward_eq _
      · rfl
  | some preparedRecord =>
      simp only [Program.bind_assoc]
      congr 1
      funext _
      congr 1
      funext now
      congr 1
      funext _
      congr 1
      funext _
      exact transaction_eq _

theorem commit_eq (command : CommitSchemaAdmissionCommand) {n : Nat} :
    (commitSchemaAdmission host command >>= fun _ => .done ()) =
      commitStart host command >>= Interruptible.goOn ((controlPlaneSections host).unrolled (n + 5)) := by
  unfold commitSchemaAdmission commitStart
  simp only [Program.bind_assoc]
  congr 1
  funext _
  congr 1
  funext found
  cases found.filter fun record => record.state = .prepared with
  | some record => exact commitPrepared_eq command record
  | none =>
      have hhandler : (fun e : ControlPlaneError => match e with
          | .violation _ => refuse (controlPlaneViolation .invalidInput .commit "admission not prepared")
          | .thrown message => .fail (.thrown message)) =
          fun e => (.fail (unpreparedError true e) : ControlPlaneProgram SchemaAdmissionReceipt) := by
        funext e
        cases e <;> rfl
      exact (congrArg (fun handler => (recoverForwardCommit host command.admissionId).handle handler >>= _)
        hhandler).trans (recovery_eq true command.admissionId)

theorem program_eq_whole (call : ControlPlaneCall) :
    call.program host = (controlPlaneSections host).whole 6 call := by
  cases call with
  | prepareSchemaAdmission command => exact preparation_eq command
  | commitSchemaAdmission command => exact commit_eq command
  | recoverSchemaAdmissionCommit admissionId => exact recovery_forward_eq admissionId
  | _ => exact (ending_goOn.trans (Program.bind_done _)).symm

end Cantilune
