import Cantilune.Base.Json
import Cantilune.ControlPlane.Records

/-!
# The memory store of the control plane

Its maps and its event log, and the operations on them. Where the source throws, the operation answers with
the text of the error.
-/

/-!
## Schema revisions, policy revisions and handler manifests

What is registered under a reference carries the digest of its content, and is checked against it whenever it
is registered or read.
-/

namespace Cantilune

/-- The hashes of the host: of a schema's canonical content, and of the canonical text of a JSON value. -/
structure ContentHashes where
  schemaContentDigest : OrchestrationSchema → String
  digestOfCanonical : Json → String

/-! ### Schema revisions -/

structure SchemaRevision where
  schemaRef : SchemaRef
  parentRef : Option SchemaRef
  schema : OrchestrationSchema
  wireVersion : JsNumber
  canonicalDigest : String
  createdBy : String
  createdAt : Timestamp
  provenanceEvidence : Option (List String)
  deriving DecidableEq

def revisionKey (ref : SchemaRef) : String := s!"{ref.schemaId}@{ref.revisionId}"

def createSchemaRevision (hashes : ContentHashes) (schema : OrchestrationSchema) (revisionId createdBy : String)
    (createdAt : Timestamp) (parentRef : Option SchemaRef) : SchemaRevision :=
  let canonicalDigest := hashes.schemaContentDigest schema
  { schemaRef := { schemaId := schema.schemaId, revisionId, digest := canonicalDigest }
    parentRef, schema, wireVersion := schema.wireVersion, canonicalDigest, createdBy, createdAt
    provenanceEvidence := none }

def verifySchemaRevisionIntegrity (hashes : ContentHashes) (revision : SchemaRevision) : Bool :=
  hashes.schemaContentDigest revision.schema = revision.canonicalDigest ∧
    revision.schemaRef.digest = revision.canonicalDigest ∧
    revision.schemaRef.schemaId = revision.schema.schemaId ∧
    revision.wireVersion = revision.schema.wireVersion

/-! ### Policy revisions -/

inductive PolicyRuleDecision where
  | allow | deny
  deriving DecidableEq, Repr

def PolicyRuleDecision.name : PolicyRuleDecision → String
  | .allow => "allow"
  | .deny => "deny"

structure PolicyRule where
  ruleId : String
  principalRole : Option String
  operationTypeId : Option String
  templateRevision : Option String
  decision : PolicyRuleDecision
  deriving DecidableEq

/-- A policy revision; its default decision is always `deny`. -/
structure PolicyRevision where
  policyRef : PolicyRef
  compatibleSchemaRefs : List SchemaRef
  rules : List PolicyRule
  canonicalDigest : String
  createdBy : String
  createdAt : Timestamp
  deriving DecidableEq

/-- `snapshotPolicyRevision`: a copy, unless a rule has no id. -/
def snapshotPolicyRevision (revision : PolicyRevision) : Option PolicyRevision :=
  if revision.rules.all fun rule => rule.ruleId ≠ "" then some revision else none

def SchemaRef.canonical (ref : SchemaRef) : Json :=
  .obj [("schemaId", .str ref.schemaId), ("revisionId", .str ref.revisionId), ("digest", .str ref.digest)]

def PolicyRule.canonical (rule : PolicyRule) : Json :=
  .obj ([("ruleId", .str rule.ruleId)] ++ (rule.principalRole.map fun r => ("principalRole", .str r)).toList ++
    (rule.operationTypeId.map fun o => ("operationTypeId", .str o)).toList ++
    (rule.templateRevision.map fun t => ("templateRevision", .str t)).toList ++
    [("decision", .str rule.decision.name)])

/-- What a policy's digest is taken of: neither who created it nor when. -/
def policyContent (policyId revisionId : String) (compatibleSchemaRefs : List SchemaRef) (rules : List PolicyRule) :
    Json :=
  .obj [("policyId", .str policyId), ("revisionId", .str revisionId),
    ("compatibleSchemaRefs", .arr (compatibleSchemaRefs.map SchemaRef.canonical)),
    ("rules", .arr (rules.map PolicyRule.canonical)), ("defaultDecision", .str "deny")]

def PolicyRevision.digest (hashes : ContentHashes) (revision : PolicyRevision) : String :=
  hashes.digestOfCanonical (policyContent revision.policyRef.policyId revision.policyRef.revisionId
    revision.compatibleSchemaRefs revision.rules)

def verifyPolicyRevisionIntegrity (hashes : ContentHashes) (revision : PolicyRevision) : Bool :=
  (snapshotPolicyRevision revision).any fun snapshot =>
    snapshot.digest hashes = snapshot.canonicalDigest ∧ snapshot.policyRef.digest = snapshot.digest hashes

def createPolicyRevision (hashes : ContentHashes) (policyId revisionId : String)
    (compatibleSchemaRefs : List SchemaRef) (rules : List PolicyRule) (createdBy : String) (createdAt : Timestamp) :
    Option PolicyRevision :=
  let canonicalDigest := hashes.digestOfCanonical (policyContent policyId revisionId compatibleSchemaRefs rules)
  snapshotPolicyRevision
    { policyRef := { policyId, revisionId, digest := canonicalDigest }
      compatibleSchemaRefs, rules, canonicalDigest, createdBy, createdAt }

/-- The first rule that applies decides, and `deny` where none does. -/
def evaluatePolicyRevision (revision : PolicyRevision) (operationTypeId principalRole : Option String) :
    PolicyRuleDecision :=
  match revision.rules.find? fun rule =>
      (rule.principalRole.isNone || rule.principalRole = principalRole) &&
        (rule.operationTypeId.isNone || rule.operationTypeId = operationTypeId) with
  | some rule => rule.decision
  | none => .deny

/-! ### Handler manifests -/

structure HandlerBinding where
  operationTypeId : OperationTypeId
  artifactDigest : String
  deriving DecidableEq

structure HandlerManifest where
  manifestRef : HandlerManifestRef
  bindings : List HandlerBinding
  deriving DecidableEq

/-- Every operation type has a binding whose artifact digest is not empty. -/
def validateHandlerManifestAgainstSchema (manifest : HandlerManifest) (operationTypeIds : List OperationTypeId) :
    Except ControlPlaneViolation Unit :=
  operationTypeIds.forM fun operationTypeId =>
    match manifest.bindings.find? fun item => item.operationTypeId = operationTypeId with
    | none =>
        .error (controlPlaneViolation .handlerManifestMismatch .validate
          s!"missing handler binding for {operationTypeId}" (some operationTypeId))
    | some binding =>
        denyIf (binding.artifactDigest = "")
          (controlPlaneViolation .handlerManifestMismatch .validate
            s!"empty artifact digest for {operationTypeId}")

end Cantilune

namespace Cantilune

structure IdempotencyEntry where
  digest : AdmissionDigest
  resultRef : AdmissionDigest
  deriving DecidableEq

structure ControlPlaneStore where
  revisions : OrdMap String SchemaRevision
  policies : OrdMap String PolicyRevision
  activeBindings : OrdMap ActivationDomainId SchemaEpochBinding
  admissions : OrdMap SchemaAdmissionId SchemaAdmissionRecord
  preparedAdmissions : OrdMap PreparedAdmissionId PreparedAdmissionRecord
  commitDecisions : OrdMap SchemaAdmissionId CommitDecisionRecord
  commitReceipts : OrdMap SchemaAdmissionId SchemaAdmissionReceipt
  idempotency : OrdMap IdempotencyKey IdempotencyEntry
  events : List ControlPlaneEventEnvelope
  sequence : Nat
  frozen : Bool
  deriving DecidableEq

inductive IdempotencyClaim where
  | claimed | replay | conflict
  deriving DecidableEq, Repr

structure FinalizeAdmissionCommitInput where
  domainId : ActivationDomainId
  expectedGeneration : Nat
  nextBinding : SchemaEpochBinding
  admission : SchemaAdmissionRecord
  commitDecision : CommitDecisionRecord
  event : ControlPlaneEventEnvelope
  receipt : SchemaAdmissionReceipt

inductive FinalizeAdmissionCommitResult where
  | finalized | casConflict
  deriving DecidableEq, Repr

namespace ControlPlaneStore

def empty : ControlPlaneStore :=
  { revisions := .empty, policies := .empty, activeBindings := .empty, admissions := .empty
    preparedAdmissions := .empty, commitDecisions := .empty, commitReceipts := .empty, idempotency := .empty
    events := [], sequence := 0, frozen := false }

variable (hashes : ContentHashes) (store : ControlPlaneStore)

/-! ## Revisions and policies -/

def getRevision (ref : SchemaRef) : Except String (Option SchemaRevision) :=
  match store.revisions.get? (revisionKey ref) with
  | none => .ok none
  | some stored =>
      if verifySchemaRevisionIntegrity hashes stored = false then .error "schema_revision_integrity_violation"
      else if stored.schemaRef.digest ≠ ref.digest then .ok none
      else .ok (some stored)

def registerRevision (revision : SchemaRevision) : Except String ControlPlaneStore :=
  if verifySchemaRevisionIntegrity hashes revision = false then .error "schema_revision_integrity_violation"
  else
    match store.revisions.get? (revisionKey revision.schemaRef) with
    | some existing =>
        if existing.canonicalDigest = revision.canonicalDigest then .ok store else .error "revision_conflict"
    | none => .ok { store with revisions := store.revisions.set (revisionKey revision.schemaRef) revision }

def policyKey (ref : PolicyRef) : String := s!"{ref.policyId}@{ref.revisionId}"

def registerPolicy (revision : PolicyRevision) : Except String ControlPlaneStore :=
  if verifyPolicyRevisionIntegrity hashes revision = false then .error "policy_revision_integrity_violation"
  else .ok { store with policies := store.policies.set (policyKey revision.policyRef) revision }

def getPolicy (ref : PolicyRef) : Except String (Option PolicyRevision) :=
  match store.policies.get? (policyKey ref) with
  | none => .ok none
  | some stored =>
      if stored.policyRef.digest ≠ ref.digest then .ok none
      else if verifyPolicyRevisionIntegrity hashes stored = false then .error "policy_revision_integrity_violation"
      else .ok (some stored)

/-- Whether the domain is still at the generation, which counts from zero. -/
def atGeneration (domainId : ActivationDomainId) (expectedGeneration : Nat) : Bool :=
  match store.activeBindings.get? domainId with
  | none => expectedGeneration = 0
  | some current => current.bindingGeneration = expectedGeneration

def casActiveBinding (domainId : ActivationDomainId) (expectedGeneration : Nat) (nextBinding : SchemaEpochBinding) :
    Bool × ControlPlaneStore :=
  if store.atGeneration domainId expectedGeneration then
    (true, { store with activeBindings := store.activeBindings.set domainId nextBinding })
  else
    (false, store)

def firstActiveBinding : Option SchemaEpochBinding := store.activeBindings.values.head?

/-! ## Admissions -/

def putAdmission (record : SchemaAdmissionRecord) : ControlPlaneStore :=
  { store with admissions := store.admissions.set record.request.admissionId record }

def putPrepared (record : PreparedAdmissionRecord) : ControlPlaneStore :=
  { store with preparedAdmissions := store.preparedAdmissions.set record.preparedId record }

def consumePrepared (preparedId : PreparedAdmissionId) : Option PreparedAdmissionRecord × ControlPlaneStore :=
  match store.preparedAdmissions.get? preparedId with
  | none => (none, store)
  | some record =>
      if record.consumed then (none, store)
      else
        (some record, { store with
          preparedAdmissions := store.preparedAdmissions.set preparedId { record with consumed := true } })

def putCommitDecision (record : CommitDecisionRecord) : ControlPlaneStore :=
  { store with commitDecisions := store.commitDecisions.set record.admissionId record }

def putCommitReceipt (receipt : SchemaAdmissionReceipt) : ControlPlaneStore :=
  { store with commitReceipts := store.commitReceipts.set receipt.admissionId receipt }

def appendEvent (envelope : ControlPlaneEventEnvelope) : Except String ControlPlaneStore :=
  if (store.events.getLast?).any fun last => envelope.storeSequence ≤ last.storeSequence then
    .error "event_sequence_regression"
  else if store.events.any fun event => event.eventId = envelope.eventId then .error "duplicate_event_id"
  else .ok { store with events := store.events ++ [envelope], sequence := envelope.storeSequence }

def nextEvent (kind : ControlPlaneEventKind) (actor : String) (payload : ControlPlaneEventPayload)
    (idempotencyKey : Option IdempotencyKey) (eventId : String) (occurredAt : Timestamp) :
    ControlPlaneEventEnvelope × ControlPlaneStore :=
  ({ eventId, storeSequence := store.sequence + 1, kind, occurredAt, actor, idempotencyKey, payload },
    { store with sequence := store.sequence + 1 })

/-- All the writes of a commit, the event last: if it is refused, the others have been made. -/
def finalizeAdmissionCommit (input : FinalizeAdmissionCommitInput) :
    Except String FinalizeAdmissionCommitResult × ControlPlaneStore :=
  if store.atGeneration input.domainId input.expectedGeneration then
    let written := ((({ store with
      activeBindings := store.activeBindings.set input.domainId input.nextBinding }).putAdmission
      input.admission).putCommitDecision input.commitDecision).putCommitReceipt input.receipt
    match written.appendEvent input.event with
    | .error message => (.error message, written)
    | .ok store => (.ok .finalized, store)
  else
    (.ok .casConflict, store)

def claimIdempotency (key : IdempotencyKey) (digest : AdmissionDigest) : IdempotencyClaim × ControlPlaneStore :=
  match store.idempotency.get? key with
  | none => (.claimed, { store with idempotency := store.idempotency.set key { digest, resultRef := digest } })
  | some existing => if existing.digest = digest then (.replay, store) else (.conflict, store)

def releaseIdempotency (key : IdempotencyKey) : ControlPlaneStore :=
  { store with idempotency := store.idempotency.delete key }

end ControlPlaneStore

end Cantilune
