import Cantilune.ControlPlane.Service

/-!
# Preparation, commit and recovery of an admission

A commit decides, asks the runtime for its side of the transition, and finalizes the store; recovery takes up
a decision whose runtime side was applied.
-/

namespace Cantilune

open ControlPlaneProgram

/-! ## Preparation -/

structure PrepareSchemaAdmissionCommand where
  context : AdministrationContext
  admissionId : SchemaAdmissionId
  handlerManifest : HandlerManifest

def preparedRecordOf (admissionId : SchemaAdmissionId) (record : SchemaAdmissionRecord) (active : SchemaEpochBinding)
    (subject : AdmissionEvidenceSubject) (planDigest : PlanDigest) (preparedId : PreparedAdmissionId)
    (token : PreparedEpochTransition) : PreparedAdmissionRecord :=
  { preparedId
    admissionId
    activationDomainId := record.request.activationDomainId
    fromSchemaRef := active.schemaRef
    toSchemaRef := subject.toSchemaRef
    fromEpochId := active.epochId
    toEpochId := subject.toEpochId
    fromEpochOrdinal := active.epochOrdinal
    toEpochOrdinal := subject.toEpochOrdinal
    expectedBindingGeneration := active.bindingGeneration
    expectedRuntimeHead := record.request.expectedRuntimeHead
    planDigest
    runtimePreparedId := token.preparedId
    issuedAt := token.issuedAt
    expiresAt := token.expiresAt
    consumed := false }

def prepareSchemaAdmission (host : ControlPlaneHost) (command : PrepareSchemaAdmissionCommand) :
    ControlPlaneProgram PreparedAdmissionHandle := do
  ensureNotFrozen .prepare
  let found ← ask (.getAdmission command.admissionId)
  let record ← orRefuse (found.filter fun record => canTransitionAdmission record.state .preparing)
    (controlPlaneViolation .invalidInput .prepare "admission not ready for prepare")
  let binding ← ask (.getActiveBinding record.request.activationDomainId)
  let missing := controlPlaneViolation .invalidInput .prepare "missing authorization fields"
  let active ← orRefuse binding missing
  let targetSchemaRef ← orRefuse record.targetSchemaRef missing
  let _ ← orRefuse record.targetEpochId missing
  let _ ← orRefuse record.qualification missing
  let _ ← orRefuse record.authorization missing
  let subject ← orRefuse (buildAdmissionEvidenceSubject record active)
    (controlPlaneViolation .invalidInput .prepare "cannot build evidence subject")
  let verified ← ask (.validateSealedAdmissionPrepare subject)
  let fourView ← checked (verified.mapError fun messages =>
    controlPlaneViolation .conformanceInvalid .prepare ("; ".intercalate messages))
  let stored ← ask (.getRevision targetSchemaRef)
  let found ← orThrow stored
  let candidate ← orRefuse found
    (controlPlaneViolation .schemaNotFound .prepare "candidate revision missing")
  checked (validateHandlerManifestAgainstSchema command.handlerManifest
    (allowedOperationsFromSchema candidate.schema))
  let plan ← orRefuse record.extensionPlan
    (controlPlaneViolation .invalidInput .prepare "cannot build evidence subject")
  let planDigest := extensionPlanCanonicalDigest plan
  let prepareResult ← ask (.prepareEpochTransition
    { admissionId := command.admissionId
      domainId := record.request.activationDomainId
      expectedBindingGeneration := record.request.expectedBindingGeneration
      expectedHead := record.request.expectedRuntimeHead
      expectedEpochId := record.request.expectedEpochId
      expectedEpochOrdinal := record.request.expectedEpochOrdinal
      targetSchemaRef
      targetEpochId := subject.toEpochId
      targetEpochOrdinal := subject.toEpochOrdinal
      planDigest })
  let token ← checked (prepareResult.mapError fun e =>
    controlPlaneViolation .preparationExpired .prepare e.message none none none true)
  let uuid ← ask .randomUUID
  let preparedRecord := preparedRecordOf command.admissionId record active subject planDigest s!"prep-{uuid}" token
  ask (.putPrepared preparedRecord)
  let updatedAt ← timestamp host
  ask (.putAdmission { record with
    fourView := some fourView
    targetHandlerManifestRef := some command.handlerManifest.manifestRef
    state := .prepared
    updatedAt })
  let _ ← logEvent .schemaAdmissionPrepared (administrationActorId command.context)
    (.prepared command.admissionId preparedRecord.preparedId)
  .done (toPreparedHandle preparedRecord)

/-! ## The commit transaction -/

structure CommitAdmissionTransactionInput where
  admissionId : SchemaAdmissionId
  preparedId : PreparedAdmissionId
  operator : String
  record : SchemaAdmissionRecord
  active : SchemaEpochBinding
  preparedRecord : PreparedAdmissionRecord

def buildReceipt (host : ControlPlaneHost) (record : SchemaAdmissionRecord) (active toBinding : SchemaEpochBinding)
    (runtimeReceipt : RuntimeEpochReceipt) (planDigest : PlanDigest) (operator : String) :
    ControlPlaneProgram SchemaAdmissionReceipt := do
  let committedAt ← timestamp host
  let sequence ← ask .lastSequence
  .done
    { admissionId := record.request.admissionId
      activationDomainId := record.request.activationDomainId
      fromBinding := active
      toBinding
      beforeSnapshotRef := runtimeReceipt.beforeSnapshotRef
      afterSnapshotRef := runtimeReceipt.afterSnapshotRef
      extensionPlanRef := planDigest
      qualificationEvidenceRef := record.qualification
      authorizationEvidenceRef := record.authorization
      fourViewEvidenceRef := record.fourView.map VerifiedFourViewEvidence.evidenceDigest
      admissionTombstoneId := s!"tomb-{record.request.admissionId}"
      committedBy := operator
      committedAt
      storeSequence := sequence + 1
      correlationId := s!"corr-{record.request.admissionId}"
      occurrenceId := s!"occ-{record.request.admissionId}"
      idempotencyKey := record.request.idempotencyKey
      planDigest }

/-- The commit of the runtime, or where it refuses, its recovery. -/
def applyRuntimeIdempotent (admissionId : SchemaAdmissionId) (preparedRecord : PreparedAdmissionRecord) :
    ControlPlaneProgram (Except ControlPlaneViolation RuntimeEpochReceipt) := do
  let commitResult ← ask (.commitEpochTransition
    { preparedId := preparedRecord.runtimePreparedId
      planDigest := preparedRecord.planDigest
      issuedAt := preparedRecord.issuedAt
      expiresAt := preparedRecord.expiresAt })
  match commitResult with
  | .ok receipt => .done (.ok receipt)
  | .error e => do
      let recovered ← ask (.recoverEpochTransition admissionId)
      match recovered with
      | .ok receipt => .done (.ok receipt)
      | .error _ =>
          .done (.error (controlPlaneViolation .commitConflict .commit e.message none none none true))

def resolveRuntimeReceipt (host : ControlPlaneHost) (input : CommitAdmissionTransactionInput)
    (decision : CommitDecisionRecord) (toBinding : SchemaEpochBinding) :
    ControlPlaneProgram (RuntimeEpochReceipt × CommitDecisionRecord) := do
  if decision.status = .runtimeApplied ∧ decision.runtimeAfterRef.isSome then
    let recovered ← ask (.recoverEpochTransition input.admissionId)
    let receipt ← checked (recovered.mapError fun e =>
      controlPlaneViolation .commitConflict .commit e.message none none none true)
    .done (receipt, decision)
  else if decision.status = .decided ∨ decision.status = .recoveryRequired then
    let applied ← applyRuntimeIdempotent input.admissionId input.preparedRecord
    match applied with
    | .error violation =>
        let updatedAt ← timestamp host
        ask (.putCommitDecision { decision with status := .recoveryRequired, updatedAt })
        refuse violation
    | .ok receipt =>
        checked (denyIf (receipt.admissionId ≠ input.admissionId)
          (controlPlaneViolation .commitConflict .commit "runtime receipt admission mismatch"))
        checked (denyIf (receipt.toBinding.schemaRef.digest ≠ input.preparedRecord.toSchemaRef.digest)
          (controlPlaneViolation .commitConflict .commit "runtime target schema mismatch"))
        let updatedAt ← timestamp host
        let updated := { decision with
          status := .runtimeApplied
          runtimeBeforeRef := some receipt.beforeSnapshotRef
          runtimeAfterRef := some receipt.afterSnapshotRef
          toBinding := some { toBinding with runtimeHead := receipt.afterSnapshotRef }
          updatedAt }
        ask (.putCommitDecision updated)
        .done (receipt, updated)
  else
    refuse (controlPlaneViolation .invalidInput .commit "unexpected commit decision state")

/-- After a lost swap: the receipt if the binding is in force all the same, else the decision is left for
recovery. -/
def handleFinalizeCasConflict (host : ControlPlaneHost) (finalizeInput : FinalizeAdmissionCommitInput)
    (decision : CommitDecisionRecord) : ControlPlaneProgram SchemaAdmissionReceipt := do
  let current ← ask (.getActiveBinding finalizeInput.domainId)
  if current.any fun current => current.bindingGeneration = finalizeInput.nextBinding.bindingGeneration ∧
      current.schemaRef.digest = finalizeInput.nextBinding.schemaRef.digest then
    ask (.putCommitReceipt finalizeInput.receipt)
    ask (.putAdmission finalizeInput.admission)
    ask (.putCommitDecision finalizeInput.commitDecision)
    .done finalizeInput.receipt
  else
    let updatedAt ← timestamp host
    ask (.putCommitDecision { decision with status := .recoveryRequired, updatedAt })
    refuse (controlPlaneViolation .commitConflict .commit "binding CAS failed after runtime apply" none none none
      true)

def transactionBinding (input : CommitAdmissionTransactionInput) (activatedAt : Timestamp) :
    Except String SchemaEpochBinding :=
  createNextBinding input.record.request.activationDomainId input.active input.preparedRecord.toSchemaRef
    input.preparedRecord.toEpochId input.preparedRecord.toEpochOrdinal input.active.policyRef
    (input.record.targetHandlerManifestRef.getD input.active.handlerManifestRef)
    input.preparedRecord.expectedRuntimeHead input.admissionId input.operator activatedAt

def finalizeTransaction (host : ControlPlaneHost) (input : CommitAdmissionTransactionInput)
    (decision : CommitDecisionRecord) (toBinding : SchemaEpochBinding) (runtimeReceipt : RuntimeEpochReceipt) :
    ControlPlaneProgram SchemaAdmissionReceipt := do
  let finalizedBinding :=
    decision.toBinding.getD { toBinding with runtimeHead := runtimeReceipt.afterSnapshotRef }
  let receipt ← buildReceipt host input.record input.active finalizedBinding runtimeReceipt
    input.preparedRecord.planDigest input.operator
  let event ← ask (.nextEvent .schemaAdmissionCommitted input.operator
    (.committed input.admissionId input.active.epochId finalizedBinding.epochId input.active.bindingGeneration
      finalizedBinding.bindingGeneration) none)
  let finalizeInput : FinalizeAdmissionCommitInput :=
    { domainId := input.record.request.activationDomainId
      expectedGeneration := input.active.bindingGeneration
      nextBinding := finalizedBinding
      admission := { input.record with state := .committed, updatedAt := receipt.committedAt }
      commitDecision := { decision with status := .finalized, updatedAt := receipt.committedAt }
      event
      receipt }
  let finalized ← ask (.finalizeAdmissionCommit finalizeInput)
  match ← orThrow finalized with
  | .casConflict => handleFinalizeCasConflict host finalizeInput decision
  | .finalized =>
      ask (.updateBinding finalizedBinding)
      ask (.enqueue event)
      .done receipt

def executeCommitAdmissionTransaction (host : ControlPlaneHost) (input : CommitAdmissionTransactionInput) :
    ControlPlaneProgram SchemaAdmissionReceipt := do
  let existingReceipt ← ask (.getCommitReceipt input.admissionId)
  let existingDecision ← ask (.getCommitDecision input.admissionId)
  match existingReceipt.filter fun _ => existingDecision.any fun decision => decision.status = .finalized with
  | some receipt => .done receipt
  | none =>
      let activatedAt ← timestamp host
      let toBinding ← orThrow (transactionBinding input activatedAt)
      let updatedAt ← timestamp host
      let decision := existingDecision.getD
        { admissionId := input.admissionId
          preparedId := input.preparedId
          expectedBindingGeneration := input.active.bindingGeneration
          status := .decided
          toBinding := some toBinding
          operator := some input.operator
          runtimeBeforeRef := none
          runtimeAfterRef := none
          updatedAt }
      if decision.status = .decided then
        ask (.putCommitDecision decision)
      let (runtimeReceipt, decision) ← resolveRuntimeReceipt host input decision toBinding
      finalizeTransaction host input decision toBinding runtimeReceipt

/-! ## Recovery -/

def finalizeRecovery (host : ControlPlaneHost) (admissionId : SchemaAdmissionId)
    (decision : CommitDecisionRecord) (toBinding : SchemaEpochBinding) (record : SchemaAdmissionRecord)
    (active : SchemaEpochBinding) (recovered : RuntimeEpochReceipt) (qualification : QualificationEvidence)
    (authorization : AuthorizationEvidence) : ControlPlaneProgram SchemaAdmissionReceipt := do
  let operator := decision.operator.getD authorization.authorizedBy
  let admittedAt ← timestamp host
  let decidedAt ← timestamp host
  let event ← ask (.nextEvent .schemaAdmissionCommitted operator
    (.committed admissionId active.epochId toBinding.epochId active.bindingGeneration
      toBinding.bindingGeneration) none)
  let receipt ← buildReceipt host record active toBinding recovered qualification.extensionPlanDigest operator
  let finalized ← ask (.finalizeAdmissionCommit
    { domainId := record.request.activationDomainId
      expectedGeneration := decision.expectedBindingGeneration
      nextBinding := toBinding
      admission := { record with state := .committed, updatedAt := admittedAt }
      commitDecision := { decision with
        status := .finalized
        runtimeBeforeRef := some recovered.beforeSnapshotRef
        runtimeAfterRef := some recovered.afterSnapshotRef
        updatedAt := decidedAt }
      event
      receipt })
  match ← orThrow finalized with
  | .casConflict =>
      refuse (controlPlaneViolation .commitConflict .commit "recovery finalize CAS conflict" none none none true)
  | .finalized =>
      ask (.updateBinding toBinding)
      ask (.enqueue event)
      .done receipt

def finishedReceipt (decision : CommitDecisionRecord) (admissionId : SchemaAdmissionId) :
    ControlPlaneProgram (Option SchemaAdmissionReceipt) :=
  if decision.status = .finalized then ask (.getCommitReceipt admissionId) else .done none

def recoverForwardCommit (host : ControlPlaneHost) (admissionId : SchemaAdmissionId) :
    ControlPlaneProgram SchemaAdmissionReceipt := do
  let found ← ask (.getCommitDecision admissionId)
  let unrecoverable := controlPlaneViolation .invalidInput .commit "no recoverable commit decision"
  let decision ← orRefuse found unrecoverable
  let toBinding ← orRefuse decision.toBinding unrecoverable
  let finished ← finishedReceipt decision admissionId
  match finished with
  | some receipt => .done receipt
  | none =>
      checked (denyIf (decision.status ≠ .runtimeApplied ∧ decision.status ≠ .recoveryRequired)
        (controlPlaneViolation .invalidInput .commit "commit not ready for recovery"))
      let found ← ask (.getAdmission admissionId)
      let record ← orRefuse found
        (controlPlaneViolation .invalidInput .commit "admission missing during recovery")
      let binding ← ask (.getActiveBinding record.request.activationDomainId)
      let active ← orRefuse binding
        (controlPlaneViolation .staleActiveBinding .commit "active binding missing")
      let answer ← ask (.recoverEpochTransition admissionId)
      let recovered ← checked (answer.mapError fun e =>
        controlPlaneViolation .commitConflict .commit e.message none none none true)
      let existing ← ask (.getCommitReceipt admissionId)
      match existing.filter fun receipt => receipt.toBinding.bindingGeneration = active.bindingGeneration ∧
          receipt.toBinding.schemaRef.digest = active.schemaRef.digest with
      | some receipt => .done receipt
      | none =>
          let missing := controlPlaneViolation .invalidInput .commit "missing evidence during recovery"
          let _ ← orRefuse (buildAdmissionEvidenceSubject record active) missing
          let qualification ← orRefuse record.qualification missing
          let authorization ← orRefuse record.authorization missing
          finalizeRecovery host admissionId decision toBinding record active recovered qualification authorization

structure CommitSchemaAdmissionCommand where
  context : AdministrationContext
  admissionId : SchemaAdmissionId
  preparedHandle : PreparedAdmissionHandle

def commitPrepared (host : ControlPlaneHost) (command : CommitSchemaAdmissionCommand)
    (record : SchemaAdmissionRecord) : ControlPlaneProgram SchemaAdmissionReceipt := do
  let missing := controlPlaneViolation .authorizationDenied .commit "missing evidence bundle"
  let qualification ← orRefuse record.qualification missing
  let authorization ← orRefuse record.authorization missing
  let binding ← ask (.getActiveBinding record.request.activationDomainId)
  let active ← orRefuse binding (controlPlaneViolation .staleActiveBinding .commit "active binding missing")
  let subject ← orRefuse (buildAdmissionEvidenceSubject record active)
    (controlPlaneViolation .invalidInput .commit "evidence subject missing")
  let operator := administrationActorId command.context
  let now ← ask .now
  checked (verifyAuthorization host subject qualification authorization operator now)
  let consumed ← ask (.consumePrepared command.preparedHandle.preparedId)
  match consumed with
  | none =>
      let existing ← ask (.getCommitDecision command.admissionId)
      if existing.any fun decision => decision.preparedId = command.preparedHandle.preparedId then
        recoverForwardCommit host command.admissionId
      else
        refuse (controlPlaneViolation .invalidInput .commit "prepared token invalid or consumed")
  | some preparedRecord =>
      checked (denyIf (preparedRecord.admissionId ≠ command.admissionId)
        (controlPlaneViolation .invalidInput .commit "prepared token admission mismatch"))
      let now ← ask .now
      checked (denyIf ((host.dateParse preparedRecord.expiresAt).any fun expiresAt => expiresAt < now)
        (controlPlaneViolation .preparationExpired .commit "preparation expired"))
      checked (denyIf (preparedRecord.expectedBindingGeneration ≠ active.bindingGeneration)
        (controlPlaneViolation .staleActiveBinding .commit "binding generation drift"))
      executeCommitAdmissionTransaction host
        { admissionId := command.admissionId, preparedId := preparedRecord.preparedId, operator, record, active
          preparedRecord }

def commitSchemaAdmission (host : ControlPlaneHost) (command : CommitSchemaAdmissionCommand) :
    ControlPlaneProgram SchemaAdmissionReceipt := do
  ensureNotFrozen .commit
  let found ← ask (.getAdmission command.admissionId)
  match found.filter fun record => record.state = .prepared with
  | some record => commitPrepared host command record
  | none =>
      (recoverForwardCommit host command.admissionId).handle fun e =>
        match e with
        | .violation _ => refuse (controlPlaneViolation .invalidInput .commit "admission not prepared")
        | .thrown message => .fail (.thrown message)

/-- `recoverSchemaAdmissionCommit`. -/
def recoverSchemaAdmissionCommit (host : ControlPlaneHost) (admissionId : SchemaAdmissionId) :
    ControlPlaneProgram SchemaAdmissionReceipt :=
  recoverForwardCommit host admissionId

inductive ControlPlaneCall where
  | registerSchemaRevision (command : RegisterSchemaRevisionCommand)
  | submitSchemaAdmission (command : SubmitSchemaAdmissionCommand)
  | approveSchemaAdmission (command : ApproveSchemaAdmissionCommand)
  | prepareSchemaAdmission (command : PrepareSchemaAdmissionCommand)
  | commitSchemaAdmission (command : CommitSchemaAdmissionCommand)
  | recoverSchemaAdmissionCommit (admissionId : SchemaAdmissionId)
  | activatePolicyRevision (command : ActivatePolicyRevisionCommand)
  | commitToolSurfaceEpoch (operator : String) (currentEpoch : Option String)
  | setFleetRollout (context : AdministrationContext) (domainId : ActivationDomainId)
      (targetBinding : SchemaEpochBinding) (runtimeInstanceIds : List String)
  | acknowledgeRuntimeInstance (context : AdministrationContext) (runtimeInstanceId : String)
      (observedBinding : SchemaEpochBinding)
  | setFrozen (frozen : Bool)

namespace ControlPlaneCall

def program (host : ControlPlaneHost) : ControlPlaneCall → ControlPlaneProgram Unit
  | .registerSchemaRevision command => do let _ ← Cantilune.registerSchemaRevision host command
  | .submitSchemaAdmission command => do let _ ← Cantilune.submitSchemaAdmission host command
  | .approveSchemaAdmission command => do let _ ← Cantilune.approveSchemaAdmission host command
  | .prepareSchemaAdmission command => do let _ ← Cantilune.prepareSchemaAdmission host command
  | .commitSchemaAdmission command => do let _ ← Cantilune.commitSchemaAdmission host command
  | .recoverSchemaAdmissionCommit admissionId => do let _ ← Cantilune.recoverSchemaAdmissionCommit host admissionId
  | .activatePolicyRevision command => do let _ ← Cantilune.activatePolicyRevision host command
  | .commitToolSurfaceEpoch operator currentEpoch => do
      let _ ← Cantilune.commitToolSurfaceEpoch host operator currentEpoch
  | .setFleetRollout context domainId targetBinding runtimeInstanceIds =>
      Cantilune.setFleetRollout context domainId targetBinding runtimeInstanceIds
  | .acknowledgeRuntimeInstance context runtimeInstanceId observedBinding =>
      Cantilune.acknowledgeRuntimeInstance context runtimeInstanceId observedBinding
  | .setFrozen frozen => ask (.setFrozen frozen)

end ControlPlaneCall

end Cantilune
