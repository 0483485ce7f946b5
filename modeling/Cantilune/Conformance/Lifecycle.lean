import Cantilune.Base.JsString
import Cantilune.Base.Runs

/-!
# The lifecycle of a certificate

Sealed decisions, and the transitions of the lifecycle record of a certificate: each takes a record and what
proves the step, and gives the next record or the reasons why not.
-/

namespace Cantilune.Conformance

inductive ConformanceViolationCode where
  | admissionInvalid
  | missingEvidence
  deriving DecidableEq, Repr

structure ConformanceViolation where
  code : ConformanceViolationCode
  message : String
  path : Option String := none
  deriving DecidableEq

def conformanceViolation (code : ConformanceViolationCode) (message : String) : ConformanceViolation :=
  { code, message }

abbrev ConformanceResult (α : Type) := Except (List ConformanceViolation) α

/-- `err` with a single violation. -/
def reject {α : Type} (code : ConformanceViolationCode) (message : String) : ConformanceResult α :=
  .error [conformanceViolation code message]

/-! ## Decisions -/

inductive MachineVerificationStatus where
  | candidate | incomplete | invalid | verified | unavailable | toolFailure
  deriving DecidableEq, Repr

structure VerificationDecision where
  runId : String
  machine : MachineVerificationStatus
  violations : List ConformanceViolation
  evidenceRootDigest : String
  decidedAt : String
  deriving DecidableEq

/-- A decision with or without the brand. Only `sealVerifiedDecision` brands one, so that a branded decision is
verified and without violations. -/
structure VerifiedDecision where
  branded : Bool
  decision : VerificationDecision
  verifiedAt : String
  verifierBuild : String
  verified_of_branded : branded = true → decision.machine = .verified ∧ decision.violations = []
  deriving DecidableEq

inductive ReviewVerdict where
  | approved | rejected | conflict
  deriving DecidableEq, Repr

/-- A review with or without the brand, which `sealReviewedDecision` gives to reviews of branded decisions. -/
structure ReviewedDecision where
  branded : Bool
  verified : VerifiedDecision
  reviewerId : String
  reviewDecision : ReviewVerdict
  reviewedAt : String
  verified_of_branded : branded = true → verified.branded = true
  deriving DecidableEq

def isVerifiedDecision (value : VerifiedDecision) : Bool := value.branded

def isReviewedDecision (value : ReviewedDecision) : Bool := value.branded

def sealVerifiedDecision (decision : VerificationDecision) (verifiedAt verifierBuild : String) :
    Except String VerifiedDecision :=
  if hmachine : decision.machine ≠ .verified then .error "cannot seal decision: machine status is not verified"
  else if hviolations : decision.violations ≠ [] then .error "cannot seal decision: violations present"
  else .ok ⟨true, decision, verifiedAt, verifierBuild, fun _ => ⟨not_not.1 hmachine, not_not.1 hviolations⟩⟩

def sealReviewedDecision (verified : VerifiedDecision) (reviewerId : String) (reviewDecision : ReviewVerdict)
    (reviewedAt : String) : Except String ReviewedDecision :=
  if hverified : isVerifiedDecision verified = true then
    .ok ⟨true, verified, reviewerId, reviewDecision, reviewedAt, fun _ => hverified⟩
  else .error "cannot seal review: input is not a VerifiedDecision"

/-- An attestation, with the fields of a signed one where it has them. -/
structure HumanReviewAttestation where
  reviewerId : String
  decision : ReviewVerdict
  machineDecisionRef : String
  reviewedAt : String
  keyId : Option String
  signature : Option String
  attestationDigest : Option String
  deriving DecidableEq

def isSignedHumanReviewAttestation (value : HumanReviewAttestation) : Bool :=
  value.keyId.any (· ≠ "") && value.signature.any (· ≠ "") &&
    value.attestationDigest.any fun digest => (JsString.units digest).length = 64

/-- The outer error is the exception that sealing raises. -/
def submitHumanReview (verified : VerifiedDecision) (attestation : HumanReviewAttestation) :
    Except String (ConformanceResult ReviewedDecision) :=
  if ¬ isVerifiedDecision verified then
    .ok (reject .admissionInvalid "human review requires a sealed VerifiedDecision")
  else if ¬ isSignedHumanReviewAttestation attestation then
    .ok (reject .admissionInvalid "production human review requires signed attestation with keyId and signature")
  else if verified.decision.machine ≠ .verified then
    .ok (reject .admissionInvalid "cannot approve without machine verification")
  else if attestation.decision = .approved ∧ verified.decision.violations.length > 0 then
    .ok (reject .admissionInvalid "cannot approve decision with violations")
  else if attestation.machineDecisionRef ≠ verified.decision.evidenceRootDigest then
    .ok (reject .admissionInvalid "human review attestation does not bind to machine decision")
  else
    (sealReviewedDecision verified attestation.reviewerId attestation.decision attestation.reviewedAt).map .ok

theorem submitHumanReview_seals {verified : VerifiedDecision} {attestation : HumanReviewAttestation}
    {reviewed : ReviewedDecision} (h : submitHumanReview verified attestation = .ok (.ok reviewed)) :
    reviewed.branded = true ∧ reviewed.verified = verified ∧ reviewed.reviewDecision = attestation.decision ∧
      attestation.machineDecisionRef = verified.decision.evidenceRootDigest := by
  unfold submitHumanReview at h
  split at h
  · cases h
  · rename_i hverified
    split at h
    · cases h
    · split at h
      · cases h
      · split at h
        · cases h
        · split at h
          · cases h
          · rename_i hbinds
            rw [sealReviewedDecision, dif_pos (by simpa using hverified)] at h
            cases h
            exact ⟨rfl, rfl, rfl, not_not.1 hbinds⟩

/-! ## Lifecycle records -/

inductive CertificateLifecycleState where
  | candidate | parsed | machineVerified | humanReviewed | issued | revoked | superseded | expired
  deriving DecidableEq, Repr

def CertificateLifecycleState.name : CertificateLifecycleState → String
  | .candidate => "candidate"
  | .parsed => "parsed"
  | .machineVerified => "machineVerified"
  | .humanReviewed => "humanReviewed"
  | .issued => "issued"
  | .revoked => "revoked"
  | .superseded => "superseded"
  | .expired => "expired"

structure CertificateLifecycleRecord where
  certificateId : String
  state : CertificateLifecycleState
  updatedAt : String
  deriving DecidableEq

def initialLifecycleState : CertificateLifecycleState := .candidate

structure ConformanceTargetManifest where
  manifestSchemaVersion : Nat
  evidenceRootDigest : String
  deriving DecidableEq

structure PackageConformanceCertificate where
  certificateId : String
  issuedAt : String
  supersedes : Option String
  deriving DecidableEq

/-- `now` is the reading of the clock. -/
def transitionParsed (manifest : ConformanceTargetManifest) (now : String) :
    ConformanceResult CertificateLifecycleRecord :=
  if manifest.manifestSchemaVersion ≠ 1 then reject .missingEvidence "unsupported manifest schema version"
  else .ok ⟨manifest.evidenceRootDigest, .parsed, now⟩

def transitionMachineVerified (record : CertificateLifecycleRecord) (verified : VerifiedDecision) :
    ConformanceResult CertificateLifecycleRecord :=
  if record.state ≠ .parsed ∧ record.state ≠ .candidate then
    reject .admissionInvalid s!"cannot verify from state {record.state.name}"
  else if ¬ isVerifiedDecision verified then reject .admissionInvalid "expected sealed VerifiedDecision"
  else .ok ⟨record.certificateId, .machineVerified, verified.verifiedAt⟩

def transitionHumanReviewed (record : CertificateLifecycleRecord) (reviewed : ReviewedDecision) :
    ConformanceResult CertificateLifecycleRecord :=
  if record.state ≠ .machineVerified then
    reject .admissionInvalid "human review requires machineVerified state"
  else if ¬ isReviewedDecision reviewed then reject .admissionInvalid "expected sealed ReviewedDecision"
  else .ok ⟨record.certificateId, .humanReviewed, reviewed.reviewedAt⟩

def transitionIssued (record : CertificateLifecycleRecord) (certificate : PackageConformanceCertificate)
    (reviewed : ReviewedDecision) : ConformanceResult CertificateLifecycleRecord :=
  if record.state ≠ .humanReviewed then reject .admissionInvalid "issue requires humanReviewed state"
  else if reviewed.reviewDecision ≠ .approved then
    reject .admissionInvalid "issue requires approved human review"
  else if certificate.certificateId ≠ record.certificateId then
    reject .admissionInvalid "certificate id mismatch"
  else .ok ⟨record.certificateId, .issued, certificate.issuedAt⟩

def applyVerificationDecision (record : CertificateLifecycleRecord) (decision : VerificationDecision) :
    ConformanceResult CertificateLifecycleRecord :=
  if decision.machine = .verified ∧ decision.violations.length = 0 ∧
      (record.state = .parsed ∨ record.state = .candidate) then
    .ok ⟨record.certificateId, .machineVerified, decision.decidedAt⟩
  -- from any state, also from one that is final
  else if decision.machine = .invalid then .ok ⟨record.certificateId, .candidate, decision.decidedAt⟩
  else .ok record

structure RevocationInput where
  certificateId : String
  reason : String
  checkpoint : String
  revokedAt : Option String
  deriving DecidableEq

structure CertificateRevocationRecord where
  certificateId : String
  revokedAt : String
  reason : String
  checkpoint : String
  deriving DecidableEq

def revokeCertificate (record : CertificateLifecycleRecord) (input : RevocationInput) (now : String) :
    ConformanceResult (CertificateLifecycleRecord × CertificateRevocationRecord) :=
  if record.state ≠ .issued ∧ record.state ≠ .humanReviewed ∧ record.state ≠ .machineVerified then
    reject .admissionInvalid s!"cannot revoke certificate in state {record.state.name}"
  else if record.certificateId ≠ input.certificateId then
    reject .admissionInvalid "certificate id mismatch on revocation"
  else
    let revokedAt := input.revokedAt.getD now
    .ok (⟨record.certificateId, .revoked, revokedAt⟩,
      ⟨input.certificateId, revokedAt, input.reason, input.checkpoint⟩)

structure SupersessionInput where
  priorCertificateId : String
  successor : PackageConformanceCertificate
  supersededAt : Option String
  deriving DecidableEq

def supersedeCertificate (prior : CertificateLifecycleRecord) (input : SupersessionInput) (now : String) :
    ConformanceResult CertificateLifecycleRecord :=
  if prior.state ≠ .issued then reject .admissionInvalid "only issued certificates can be superseded"
  else if prior.certificateId ≠ input.priorCertificateId then
    reject .admissionInvalid "prior certificate id mismatch"
  else if input.successor.supersedes ≠ some input.priorCertificateId then
    reject .admissionInvalid "successor certificate must reference prior id in supersedes"
  else .ok ⟨prior.certificateId, .superseded, input.supersededAt.getD now⟩

inductive LifecycleOperation where
  | parse (manifest : ConformanceTargetManifest) (now : String)
  | verify (verified : VerifiedDecision)
  | review (reviewed : ReviewedDecision)
  | issue (certificate : PackageConformanceCertificate) (reviewed : ReviewedDecision)
  | applyDecision (decision : VerificationDecision)
  | revoke (input : RevocationInput) (now : String)
  | supersede (input : SupersessionInput) (now : String)

def CertificateLifecycleRecord.transition (record : CertificateLifecycleRecord) :
    LifecycleOperation → ConformanceResult CertificateLifecycleRecord
  | .parse manifest now => transitionParsed manifest now
  | .verify verified => transitionMachineVerified record verified
  | .review reviewed => transitionHumanReviewed record reviewed
  | .issue certificate reviewed => transitionIssued record certificate reviewed
  | .applyDecision decision => applyVerificationDecision record decision
  | .revoke input now => (revokeCertificate record input now).map Prod.fst
  | .supersede input now => supersedeCertificate record input now

end Cantilune.Conformance
