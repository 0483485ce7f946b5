import Cantilune.ControlPlane.NamespaceRegistry
import Cantilune.Runtime.Schema

/-!
# Records of the control plane

Admissions with their evidence, prepared tokens, commit decisions, receipts and events. A digest of the
control plane is a JSON text, not a hash of one; it is kept here as the value that was written out.
-/

namespace Cantilune

abbrev ActivationDomainId := String
abbrev SchemaAdmissionId := String
abbrev PreparedAdmissionId := String
abbrev IdempotencyKey := String

inductive SchemaAdmissionState where
  | proposed | validating | qualified | awaitingAuthorization | authorized | preparing | prepared | committed
  | runtimeApplying | acknowledged | rejected | cancelled | expired | degraded
  deriving DecidableEq, Repr

def SchemaAdmissionState.name : SchemaAdmissionState → String
  | .proposed => "proposed"
  | .validating => "validating"
  | .qualified => "qualified"
  | .awaitingAuthorization => "awaiting_authorization"
  | .authorized => "authorized"
  | .preparing => "preparing"
  | .prepared => "prepared"
  | .committed => "committed"
  | .runtimeApplying => "runtime_applying"
  | .acknowledged => "acknowledged"
  | .rejected => "rejected"
  | .cancelled => "cancelled"
  | .expired => "expired"
  | .degraded => "degraded"

def admissionTransitions : SchemaAdmissionState → List SchemaAdmissionState
  | .proposed => [.validating, .cancelled]
  | .validating => [.qualified, .rejected]
  | .qualified => [.awaitingAuthorization, .rejected]
  | .awaitingAuthorization => [.authorized, .rejected]
  | .authorized => [.preparing, .rejected]
  | .preparing => [.prepared, .expired, .rejected]
  | .prepared => [.committed, .expired]
  | .committed => [.runtimeApplying, .degraded]
  | .runtimeApplying => [.acknowledged, .degraded]
  | .acknowledged => []
  | .rejected => []
  | .cancelled => []
  | .expired => []
  | .degraded => [.acknowledged]

def canTransitionAdmission («from» «to» : SchemaAdmissionState) : Bool :=
  (admissionTransitions «from»).contains «to»

structure SchemaAdmissionRequest where
  admissionId : SchemaAdmissionId
  activationDomainId : ActivationDomainId
  expectedBindingGeneration : Nat
  expectedSchemaRef : SchemaRef
  expectedEpochId : EpochId
  expectedEpochOrdinal : Nat
  expectedRuntimeHead : SnapshotRef
  candidateSchemaRef : SchemaRef
  requestedBy : String
  requestedAt : Timestamp
  reasonRef : Option String
  evidenceRefs : Option (List String)
  idempotencyKey : IdempotencyKey
  deriving DecidableEq

structure SchemaExtensionPlan where
  fromSchemaRef : SchemaRef
  toSchemaRef : SchemaRef
  addedObjectTypeIds : List String
  addedOperationTypeIds : List OperationTypeId
  objectEmbedding : OrdMap String String
  operationEmbedding : OrdMap OperationTypeId OperationTypeId
  deriving DecidableEq

/-- The text of a plan's members, or one that no plan has. -/
inductive PlanDigest where
  | canonical (plan : SchemaExtensionPlan)
  | text (text : String)
  deriving DecidableEq

def extensionPlanCanonicalDigest (plan : SchemaExtensionPlan) : PlanDigest := .canonical plan

/-! ## Evidence -/

structure AdministrationPrincipal where
  actorRef : ActorRef
  roles : List String
  deriving DecidableEq

structure AdministrationContext where
  principal : AdministrationPrincipal
  issuedAt : Timestamp
  sessionId : String
  deriving DecidableEq

def administrationActorId (context : AdministrationContext) : String := context.principal.actorRef.actorId

def AdministrationContext.hasRole (context : AdministrationContext) (role : String) : Bool :=
  context.principal.roles.contains role

structure AdmissionEvidenceSubject where
  admissionId : SchemaAdmissionId
  activationDomainId : ActivationDomainId
  fromSchemaRef : SchemaRef
  toSchemaRef : SchemaRef
  fromEpochId : EpochId
  toEpochId : EpochId
  fromEpochOrdinal : Nat
  toEpochOrdinal : Nat
  extensionPlanDigest : PlanDigest
  expectedRuntimeHead : SnapshotRef
  expectedBindingGeneration : Nat
  deriving DecidableEq

/-- `admissionEvidenceSubjectDigest`: every member is written out. -/
abbrev SubjectDigest := AdmissionEvidenceSubject

structure QualificationEvidence where
  subjectDigest : SubjectDigest
  extensionPlanDigest : PlanDigest
  qualifiedBy : String
  qualifiedAt : Timestamp
  evaluatorVersion : String
  deriving DecidableEq

structure AuthorizationEvidence where
  subjectDigest : SubjectDigest
  qualificationDigest : QualificationEvidence
  authorizedBy : String
  authorizedAt : Timestamp
  expiresAt : Timestamp
  authorizerVersion : String
  deriving DecidableEq

/-- What the four-view conformance check returns, as far as it is read. -/
structure VerifiedFourViewEvidence where
  evidenceDigest : String
  deriving DecidableEq

/-! ## Stored records -/

structure SchemaAdmissionRecord where
  request : SchemaAdmissionRequest
  state : SchemaAdmissionState
  extensionPlan : Option SchemaExtensionPlan
  targetSchemaRef : Option SchemaRef
  targetEpochId : Option EpochId
  targetEpochOrdinal : Option Nat
  targetHandlerManifestRef : Option HandlerManifestRef
  qualification : Option QualificationEvidence
  authorization : Option AuthorizationEvidence
  fourView : Option VerifiedFourViewEvidence
  updatedAt : Timestamp
  deriving DecidableEq

structure PreparedAdmissionRecord where
  preparedId : PreparedAdmissionId
  admissionId : SchemaAdmissionId
  activationDomainId : ActivationDomainId
  fromSchemaRef : SchemaRef
  toSchemaRef : SchemaRef
  fromEpochId : EpochId
  toEpochId : EpochId
  fromEpochOrdinal : Nat
  toEpochOrdinal : Nat
  expectedBindingGeneration : Nat
  expectedRuntimeHead : SnapshotRef
  planDigest : PlanDigest
  runtimePreparedId : String
  issuedAt : Timestamp
  expiresAt : Timestamp
  consumed : Bool
  deriving DecidableEq

structure PreparedAdmissionHandle where
  preparedId : PreparedAdmissionId
  expiresAt : Timestamp
  deriving DecidableEq

def toPreparedHandle (record : PreparedAdmissionRecord) : PreparedAdmissionHandle :=
  { preparedId := record.preparedId, expiresAt := record.expiresAt }

inductive CommitDecisionStatus where
  | decided | runtimeApplied | finalized | recoveryRequired
  deriving DecidableEq, Repr

structure CommitDecisionRecord where
  admissionId : SchemaAdmissionId
  preparedId : PreparedAdmissionId
  expectedBindingGeneration : Nat
  status : CommitDecisionStatus
  toBinding : Option SchemaEpochBinding
  operator : Option String
  runtimeBeforeRef : Option SnapshotRef
  runtimeAfterRef : Option SnapshotRef
  updatedAt : Timestamp
  deriving DecidableEq

structure SchemaAdmissionReceipt where
  admissionId : SchemaAdmissionId
  activationDomainId : ActivationDomainId
  fromBinding : SchemaEpochBinding
  toBinding : SchemaEpochBinding
  beforeSnapshotRef : SnapshotRef
  afterSnapshotRef : SnapshotRef
  extensionPlanRef : PlanDigest
  qualificationEvidenceRef : Option QualificationEvidence
  authorizationEvidenceRef : Option AuthorizationEvidence
  fourViewEvidenceRef : Option String
  admissionTombstoneId : String
  committedBy : String
  committedAt : Timestamp
  storeSequence : Nat
  correlationId : String
  occurrenceId : String
  idempotencyKey : IdempotencyKey
  planDigest : PlanDigest
  deriving DecidableEq

inductive ControlPlaneEventKind where
  | schemaRevisionRegistered | schemaAdmissionSubmitted | schemaAdmissionQualified | schemaAdmissionAuthorized
  | schemaAdmissionCommitted | schemaAdmissionRejected | policyRevisionRegistered | policyActivationCommitted
  | schemaAdmissionPrepared | runtimeBindingDesired | controlPlaneFrozen
  deriving DecidableEq, Repr

structure PolicyActivationReceipt where
  policyRef : PolicyRef
  compatibleSchemaRefs : List SchemaRef
  activationDomainId : ActivationDomainId
  fromBindingGeneration : Nat
  toBindingGeneration : Nat
  activatedBy : String
  activatedAt : Timestamp
  storeSequence : Nat
  deriving DecidableEq

inductive ControlPlaneEventPayload where
  | revision (schemaRef : SchemaRef)
  | admission (admissionId : SchemaAdmissionId)
  | prepared (admissionId : SchemaAdmissionId) (preparedId : PreparedAdmissionId)
  | committed (admissionId : SchemaAdmissionId) (fromEpochId toEpochId : EpochId)
      (fromBindingGeneration toBindingGeneration : Nat)
  | toolSurface (admissionId : SchemaAdmissionId) (requestedEpoch : Option String)
  | policy (receipt : PolicyActivationReceipt)
  | rollout (domainId : ActivationDomainId) (targetBinding : SchemaEpochBinding) (runtimeInstanceIds : List String)
  | acknowledged (runtimeInstanceId : String) (observedBinding : SchemaEpochBinding)
  deriving DecidableEq

structure ControlPlaneEventEnvelope where
  eventId : String
  storeSequence : Nat
  kind : ControlPlaneEventKind
  occurredAt : Timestamp
  actor : String
  idempotencyKey : Option IdempotencyKey
  payload : ControlPlaneEventPayload
  deriving DecidableEq

/-- The members that `admissionDigest` writes out. -/
structure AdmissionDigest where
  admissionId : SchemaAdmissionId
  activationDomainId : ActivationDomainId
  candidateSchemaRef : SchemaRef
  expectedBindingGeneration : Nat
  expectedSchemaRef : SchemaRef
  expectedEpochId : EpochId
  expectedEpochOrdinal : Nat
  expectedRuntimeHead : SnapshotRef
  requestedBy : String
  state : SchemaAdmissionState
  deriving DecidableEq

def admissionDigest (record : SchemaAdmissionRecord) : AdmissionDigest :=
  { admissionId := record.request.admissionId
    activationDomainId := record.request.activationDomainId
    candidateSchemaRef := record.request.candidateSchemaRef
    expectedBindingGeneration := record.request.expectedBindingGeneration
    expectedSchemaRef := record.request.expectedSchemaRef
    expectedEpochId := record.request.expectedEpochId
    expectedEpochOrdinal := record.request.expectedEpochOrdinal
    expectedRuntimeHead := record.request.expectedRuntimeHead
    requestedBy := record.request.requestedBy
    state := record.state }

end Cantilune
