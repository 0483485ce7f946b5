import Cantilune.ControlPlane.Calls
import Cantilune.ControlPlane.SchemaExtension

/-!
# The control-plane service

Registration, submission and approval, the activation of policies, the same-schema epoch of a tool surface and
the two fleet calls, each in the order of its source.
-/

namespace Cantilune

open ControlPlaneProgram

/-- `nextEpochFrom`. -/
def nextEpochId (currentId : EpochId) (currentOrdinal : Nat) : EpochId := s!"{currentId}->{currentOrdinal + 1}"

/-- The binding after an admission; it throws where the epoch does not advance. -/
def createNextBinding (domainId : ActivationDomainId) (current : SchemaEpochBinding) (targetSchemaRef : SchemaRef)
    (targetEpochId : EpochId) (targetEpochOrdinal : Nat) (targetPolicyRef : PolicyRef)
    (targetHandlerManifestRef : HandlerManifestRef) (runtimeHead : SnapshotRef) (admissionId : SchemaAdmissionId)
    (activatedBy : String) (activatedAt : Timestamp) : Except String SchemaEpochBinding :=
  if targetEpochOrdinal ≤ current.epochOrdinal then .error "epoch_not_advanced"
  else
    .ok
      { activationDomainId := domainId
        bindingGeneration := current.bindingGeneration + 1
        epochId := targetEpochId
        epochOrdinal := targetEpochOrdinal
        schemaRef := targetSchemaRef
        policyRef := targetPolicyRef
        handlerManifestRef := targetHandlerManifestRef
        runtimeHead
        admissionId
        previousBindingGeneration := some current.bindingGeneration
        activatedBy
        activatedAt }

def createPolicyBindingUpdate (current : SchemaEpochBinding) (targetPolicyRef : PolicyRef)
    (admissionId : SchemaAdmissionId) (activatedBy : String) (activatedAt : Timestamp) : SchemaEpochBinding :=
  { current with
    bindingGeneration := current.bindingGeneration + 1
    policyRef := targetPolicyRef
    previousBindingGeneration := some current.bindingGeneration
    admissionId, activatedBy, activatedAt }

structure RegisterSchemaRevisionCommand where
  context : AdministrationContext
  schema : OrchestrationSchema
  revisionId : String
  parentRef : Option SchemaRef
  createdAt : Timestamp

def registerSchemaRevision (host : ControlPlaneHost) (command : RegisterSchemaRevisionCommand) :
    ControlPlaneProgram SchemaRevision := do
  ensureNotFrozen .register
  let revision := createSchemaRevision host.toContentHashes command.schema command.revisionId
    (administrationActorId command.context) command.createdAt command.parentRef
  let stored ← ask (.getRevision revision.schemaRef)
  let existing ← orThrow stored
  checked (denyIf existing.isSome
    (controlPlaneViolation .revisionConflict .register "schema revision already registered"))
  let registered ← ask (.registerRevision revision)
  orThrow registered
  let _ ← logEvent .schemaRevisionRegistered (administrationActorId command.context) (.revision revision.schemaRef)
  .done revision

/-! ## Evidence -/

def buildSubjectFromPlan (record : SchemaAdmissionRecord) (active : SchemaEpochBinding) (planDigest : PlanDigest) :
    Option AdmissionEvidenceSubject := do
  let toSchemaRef ← record.targetSchemaRef
  let toEpochId ← record.targetEpochId
  let toEpochOrdinal ← record.targetEpochOrdinal
  some
    { admissionId := record.request.admissionId
      activationDomainId := record.request.activationDomainId
      fromSchemaRef := active.schemaRef
      toSchemaRef
      fromEpochId := active.epochId
      toEpochId
      fromEpochOrdinal := active.epochOrdinal
      toEpochOrdinal
      extensionPlanDigest := planDigest
      expectedRuntimeHead := record.request.expectedRuntimeHead
      expectedBindingGeneration := active.bindingGeneration }

def buildAdmissionEvidenceSubject (record : SchemaAdmissionRecord) (active : SchemaEpochBinding) :
    Option AdmissionEvidenceSubject :=
  if record.extensionPlan.isNone then none
  else record.qualification.bind fun qualification =>
    buildSubjectFromPlan record active qualification.extensionPlanDigest

/-- The checks of the qualification evaluator. -/
def qualificationRefused (context : AdministrationContext) (subject : AdmissionEvidenceSubject)
    (plan : SchemaExtensionPlan) : Except ControlPlaneViolation Unit := do
  denyIf (context.hasRole "schema-qualifier" = false)
    (controlPlaneViolation .qualificationFailed .qualify "missing schema-qualifier role")
  denyIf (extensionPlanCanonicalDigest plan ≠ subject.extensionPlanDigest)
    (controlPlaneViolation .qualificationFailed .qualify "extension plan digest mismatch with admission subject")
  denyIf (plan.fromSchemaRef.digest ≠ subject.fromSchemaRef.digest)
    (controlPlaneViolation .qualificationFailed .qualify "from schema ref mismatch")
  denyIf (plan.toSchemaRef.digest ≠ subject.toSchemaRef.digest)
    (controlPlaneViolation .qualificationFailed .qualify "to schema ref mismatch")

def qualify (host : ControlPlaneHost) (context : AdministrationContext) (subject : AdmissionEvidenceSubject)
    (plan : SchemaExtensionPlan) : ControlPlaneProgram QualificationEvidence := do
  checked (qualificationRefused context subject plan)
  let qualifiedAt ← timestamp host
  .done
    { subjectDigest := subject
      extensionPlanDigest := extensionPlanCanonicalDigest plan
      qualifiedBy := administrationActorId context
      qualifiedAt
      evaluatorVersion := "qualification/1.0" }

def authorizationTtlMs : Nat := 15 * 60000

def authorize (host : ControlPlaneHost) (context : AdministrationContext)
    (subject : Option AdmissionEvidenceSubject) (qualification : QualificationEvidence) (proposer : String) :
    ControlPlaneProgram AuthorizationEvidence := do
  checked (denyIf (context.hasRole "schema-authorizer" = false)
    (controlPlaneViolation .authorizationDenied .authorize "missing schema-authorizer role"))
  checked (denyIf (administrationActorId context = proposer)
    (controlPlaneViolation .separationOfDutiesViolation .authorize "proposer cannot self-authorize"))
  checked (denyIf (some qualification.subjectDigest ≠ subject)
    (controlPlaneViolation .authorizationDenied .authorize "qualification subject digest mismatch"))
  let now ← ask .now
  .done
    { subjectDigest := qualification.subjectDigest
      qualificationDigest := qualification
      authorizedBy := administrationActorId context
      authorizedAt := host.toISOString now
      expiresAt := host.toISOString (now + authorizationTtlMs)
      authorizerVersion := "authorizer/1.0" }

/-- The authorizer's `verify`; a time that cannot be parsed has not passed. -/
def verifyAuthorization (host : ControlPlaneHost) (subject : AdmissionEvidenceSubject)
    (qualification : QualificationEvidence) (authorization : AuthorizationEvidence) (operator : String) (now : Nat) :
    Except ControlPlaneViolation Unit := do
  denyIf ((host.dateParse authorization.expiresAt).any fun expiresAt => expiresAt < now)
    (controlPlaneViolation .authorizationDenied .commit "authorization expired")
  denyIf (authorization.authorizedBy ≠ operator)
    (controlPlaneViolation .authorizationDenied .commit "commit operator must match authorized actor")
  denyIf (authorization.subjectDigest ≠ subject)
    (controlPlaneViolation .authorizationDenied .commit "authorization subject mismatch")
  denyIf (qualification.subjectDigest ≠ subject)
    (controlPlaneViolation .authorizationDenied .commit "qualification subject mismatch")

/-! ## Submission -/

structure SubmitSchemaAdmissionCommand where
  context : AdministrationContext
  request : SchemaAdmissionRequest

def validateActiveBindingForSubmit (active : Option SchemaEpochBinding) (request : SchemaAdmissionRequest) :
    Except ControlPlaneViolation SchemaEpochBinding :=
  match active with
  | none => .error (controlPlaneViolation .staleActiveBinding .validate "no active binding")
  | some active => do
      denyIf (active.bindingGeneration ≠ request.expectedBindingGeneration)
        (controlPlaneViolation .staleActiveBinding .validate "binding generation mismatch")
      denyIf (active.runtimeHead ≠ request.expectedRuntimeHead)
        (controlPlaneViolation .runtimeHeadChanged .validate "runtime head mismatch")
      denyIf (active.schemaRef.digest ≠ request.expectedSchemaRef.digest)
        (controlPlaneViolation .staleActiveBinding .validate "expected schema mismatch")
      denyIf (active.epochId ≠ request.expectedEpochId)
        (controlPlaneViolation .epochNotAdvanced .validate "expected epoch mismatch")
      denyIf (active.epochOrdinal ≠ request.expectedEpochOrdinal)
        (controlPlaneViolation .epochNotAdvanced .validate "expected epoch ordinal mismatch")
      .ok active

/-- The record of a submission before it is qualified. -/
def validatingRecord (command : SubmitSchemaAdmissionCommand) (active : SchemaEpochBinding)
    (candidate : SchemaRevision) (plan : SchemaExtensionPlan) : SchemaAdmissionRecord :=
  { request := { command.request with requestedBy := administrationActorId command.context }
    state := .validating
    extensionPlan := some plan
    targetSchemaRef := some candidate.schemaRef
    targetEpochId := some (nextEpochId active.epochId active.epochOrdinal)
    targetEpochOrdinal := some (active.epochOrdinal + 1)
    targetHandlerManifestRef := none
    qualification := none
    authorization := none
    fourView := none
    updatedAt := command.request.requestedAt }

def submissionSubject (command : SubmitSchemaAdmissionCommand) (active : SchemaEpochBinding)
    (candidate : SchemaRevision) (plan : SchemaExtensionPlan) : AdmissionEvidenceSubject :=
  { admissionId := command.request.admissionId
    activationDomainId := command.request.activationDomainId
    fromSchemaRef := active.schemaRef
    toSchemaRef := candidate.schemaRef
    fromEpochId := active.epochId
    toEpochId := nextEpochId active.epochId active.epochOrdinal
    fromEpochOrdinal := active.epochOrdinal
    toEpochOrdinal := active.epochOrdinal + 1
    extensionPlanDigest := extensionPlanCanonicalDigest plan
    expectedRuntimeHead := command.request.expectedRuntimeHead
    expectedBindingGeneration := active.bindingGeneration }

/-- Everything before the qualification: the active binding, the candidate and the plan. -/
def validateSubmission (command : SubmitSchemaAdmissionCommand) :
    ControlPlaneProgram (SchemaEpochBinding × SchemaRevision × SchemaExtensionPlan) := do
  ensureNotFrozen .validate
  let binding ← ask (.getActiveBinding command.request.activationDomainId)
  let active ← checked (validateActiveBindingForSubmit binding command.request)
  let stored ← ask (.getRevision command.request.candidateSchemaRef)
  let found ← orThrow stored
  let candidate ← orRefuse found
    (controlPlaneViolation .schemaNotFound .validate "candidate revision not found")
  let stored ← ask (.getRevision active.schemaRef)
  let found ← orThrow stored
  let currentRevision ← orRefuse found
    (controlPlaneViolation .schemaNotFound .validate "active schema revision not found")
  let plan ← checked (computeMonotoneExtensionPlan currentRevision.schema candidate.schema active.schemaRef
    candidate.schemaRef)
  .done (active, candidate, plan)

/-- The record already stored, if this submission is a replay; `none` if it is to be stored. -/
def claimOrReplayAdmission (record : SchemaAdmissionRecord) : ControlPlaneProgram (Option SchemaAdmissionRecord) := do
  let claim ← ask (.claimIdempotency record.request.idempotencyKey (admissionDigest record))
  match claim with
  | .conflict =>
      refuse (controlPlaneViolation .idempotencyConflict .validate "idempotency key digest conflict")
  | .replay => ask (.getAdmission record.request.admissionId)
  | .claimed => .done none

def storeSubmission (command : SubmitSchemaAdmissionCommand) (record : SchemaAdmissionRecord) :
    ControlPlaneProgram SchemaAdmissionRecord := do
  let existing ← claimOrReplayAdmission record
  match existing with
  | some existing => .done existing
  | none =>
      ask (.putAdmission record)
      let _ ← logEvent .schemaAdmissionSubmitted (administrationActorId command.context)
        (.admission command.request.admissionId) (some command.request.idempotencyKey)
      let _ ← logEvent .schemaAdmissionQualified (administrationActorId command.context)
        (.admission command.request.admissionId)
      .done record

/-- What follows the validation; a refused qualification releases the key. -/
def admitSubmission (host : ControlPlaneHost) (command : SubmitSchemaAdmissionCommand)
    (active : SchemaEpochBinding) (candidate : SchemaRevision) (plan : SchemaExtensionPlan) :
    ControlPlaneProgram SchemaAdmissionRecord := do
  let qualification ← (qualify host command.context (submissionSubject command active candidate plan) plan).handle
    fun e => do
      ask (.releaseIdempotency command.request.idempotencyKey)
      .fail e
  storeSubmission command { validatingRecord command active candidate plan with
    state := .awaitingAuthorization, qualification := some qualification }

def submitSchemaAdmission (host : ControlPlaneHost) (command : SubmitSchemaAdmissionCommand) :
    ControlPlaneProgram SchemaAdmissionRecord := do
  let (active, candidate, plan) ← validateSubmission command
  admitSubmission host command active candidate plan

structure ApproveSchemaAdmissionCommand where
  context : AdministrationContext
  admissionId : SchemaAdmissionId

def approveSchemaAdmission (host : ControlPlaneHost) (command : ApproveSchemaAdmissionCommand) :
    ControlPlaneProgram SchemaAdmissionRecord := do
  ensureNotFrozen .authorize
  let found ← ask (.getAdmission command.admissionId)
  let existing ← orRefuse found (controlPlaneViolation .invalidInput .authorize "admission not found")
  checked (denyIf (canTransitionAdmission existing.state .authorized = false)
    (controlPlaneViolation .invalidInput .authorize s!"cannot authorize from {existing.state.name}"))
  let binding ← ask (.getActiveBinding existing.request.activationDomainId)
  let missing := controlPlaneViolation .invalidInput .authorize "missing qualification"
  let active ← orRefuse binding missing
  let qualification ← orRefuse existing.qualification missing
  let plan ← orRefuse existing.extensionPlan missing
  let authorization ← authorize host command.context
    (buildSubjectFromPlan existing active (extensionPlanCanonicalDigest plan)) qualification
    existing.request.requestedBy
  let updatedAt ← timestamp host
  let updated := { existing with state := .authorized, authorization := some authorization, updatedAt }
  ask (.putAdmission updated)
  let _ ← logEvent .schemaAdmissionAuthorized (administrationActorId command.context)
    (.admission command.admissionId)
  .done updated

structure ActivatePolicyRevisionCommand where
  context : AdministrationContext
  policyRevision : PolicyRevision
  activationDomainId : ActivationDomainId
  expectedBindingGeneration : Nat
  activatedAt : Timestamp

def activatePolicyRevision (host : ControlPlaneHost) (command : ActivatePolicyRevisionCommand) :
    ControlPlaneProgram PolicyActivationReceipt := do
  ensureNotFrozen .activate
  checked (denyIf (command.context.hasRole "policy-admin" = false)
    (controlPlaneViolation .authorizationDenied .activate "missing policy-admin role"))
  let policyRevision ← orRefuse (snapshotPolicyRevision command.policyRevision)
    (controlPlaneViolation .invalidInput .activate "invalid policy revision")
  checked (denyIf (verifyPolicyRevisionIntegrity host.toContentHashes policyRevision = false)
    (controlPlaneViolation .invalidInput .activate "policy revision integrity mismatch"))
  let binding ← ask (.getActiveBinding command.activationDomainId)
  let active ← orRefuse binding
    (controlPlaneViolation .staleActiveBinding .activate "active binding missing")
  checked (denyIf (active.bindingGeneration ≠ command.expectedBindingGeneration)
    (controlPlaneViolation .staleActiveBinding .activate "binding generation mismatch"))
  checked (denyIf ((policyRevision.compatibleSchemaRefs.any fun ref => ref.digest = active.schemaRef.digest) = false)
    (controlPlaneViolation .invalidInput .activate "policy incompatible with active schema"))
  let registered ← ask (.registerPolicy policyRevision)
  orThrow registered
  let actor := administrationActorId command.context
  let nextBinding := createPolicyBindingUpdate active policyRevision.policyRef
    s!"policy-{policyRevision.policyRef.policyId}-{policyRevision.policyRef.revisionId}" actor command.activatedAt
  let swapped ← ask (.casActiveBinding command.activationDomainId command.expectedBindingGeneration nextBinding)
  checked (denyIf (swapped = false)
    (controlPlaneViolation .commitConflict .activate "policy binding CAS failed"))
  ask (.updateBinding nextBinding)
  let storeSequence ← ask .lastSequence
  let receipt : PolicyActivationReceipt :=
    { policyRef := policyRevision.policyRef
      compatibleSchemaRefs := policyRevision.compatibleSchemaRefs
      activationDomainId := command.activationDomainId
      fromBindingGeneration := active.bindingGeneration
      toBindingGeneration := nextBinding.bindingGeneration
      activatedBy := actor
      activatedAt := command.activatedAt
      storeSequence }
  let event ← logEvent .policyActivationCommitted actor (.policy receipt)
  ask (.enqueue event)
  .done receipt

def commitToolSurfaceEpoch (host : ControlPlaneHost) (operator : String) (currentEpoch : Option String) :
    ControlPlaneProgram SchemaAdmissionReceipt := do
  ensureNotFrozen .commit
  let binding ← ask .firstActiveBinding
  let active ← orRefuse binding (controlPlaneViolation .invalidInput .commit "no active schema binding")
  let now ← ask .now
  let admissionId := s!"mcp-surface-{now}"
  let activatedAt ← timestamp host
  let toBinding ← orThrow (createNextBinding active.activationDomainId active active.schemaRef
    (nextEpochId active.epochId active.epochOrdinal) (active.epochOrdinal + 1) active.policyRef
    active.handlerManifestRef active.runtimeHead admissionId operator activatedAt)
  let swapped ← ask (.casActiveBinding active.activationDomainId active.bindingGeneration toBinding)
  checked (denyIf (swapped = false) (controlPlaneViolation .commitConflict .commit "active binding CAS failed"))
  let sequence ← ask .lastSequence
  let receipt : SchemaAdmissionReceipt :=
    { admissionId
      activationDomainId := active.activationDomainId
      fromBinding := active
      toBinding
      beforeSnapshotRef := active.runtimeHead
      afterSnapshotRef := active.runtimeHead
      extensionPlanRef := .text "tool-surface/same-schema"
      qualificationEvidenceRef := none
      authorizationEvidenceRef := none
      fourViewEvidenceRef := none
      admissionTombstoneId := s!"tomb-{admissionId}"
      committedBy := operator
      committedAt := activatedAt
      storeSequence := sequence + 1
      correlationId := s!"corr-{admissionId}"
      occurrenceId := s!"occ-{admissionId}"
      idempotencyKey := s!"mcp-{admissionId}"
      planDigest := .text "tool-surface/same-schema" }
  ask (.putCommitReceipt receipt)
  let _ ← logEvent .schemaAdmissionCommitted operator (.toolSurface admissionId currentEpoch)
  .done receipt

/-- `setFleetRollout`; what it tells the reconciliation service is left out. -/
def setFleetRollout (context : AdministrationContext) (domainId : ActivationDomainId)
    (targetBinding : SchemaEpochBinding) (runtimeInstanceIds : List String) : ControlPlaneProgram Unit := do
  ensureNotFrozen .activate
  let _ ← logEvent .runtimeBindingDesired (administrationActorId context)
    (.rollout domainId targetBinding runtimeInstanceIds)
  .done ()

/-- `acknowledgeRuntimeInstance`. -/
def acknowledgeRuntimeInstance (context : AdministrationContext) (runtimeInstanceId : String)
    (observedBinding : SchemaEpochBinding) : ControlPlaneProgram Unit := do
  ensureNotFrozen .query
  let _ ← logEvent .runtimeBindingDesired (administrationActorId context)
    (.acknowledged runtimeInstanceId observedBinding)
  .done ()

end Cantilune
