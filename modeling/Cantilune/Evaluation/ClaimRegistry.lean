import Cantilune.Evaluation.Status
import Cantilune.Base.Runs

/-!
# The claim registry

Claims and the protocols that name them. A claim is frozen with a protocol, measured, decided and attested,
each by an operation of its own.
-/

/-!
## Claim decisions

A decision about a claim with the attestations of its reviewers, and when it may be published.
-/

namespace Cantilune.Evaluation

inductive ClaimDecisionStatus where
  | supported | notSupported | inconclusive | blocked | invalidated
  deriving DecidableEq, Repr

def ClaimDecisionStatus.name : ClaimDecisionStatus → String
  | .supported => "supported"
  | .notSupported => "notSupported"
  | .inconclusive => "inconclusive"
  | .blocked => "blocked"
  | .invalidated => "invalidated"

inductive GuardrailSeverity where
  | warning | blocking
  deriving DecidableEq, Repr

structure GuardrailViolation where
  metricId : String
  severity : GuardrailSeverity
  deriving DecidableEq

inductive ReviewerVerdict where
  | approve | reject | abstain
  deriving DecidableEq, Repr

structure ReviewerAttestation where
  reviewerId : String
  role : String
  decision : ReviewerVerdict
  coiDeclaration : String
  signatureRef : String
  deriving DecidableEq

structure ClaimDecision where
  claimRef : String
  analysisRefs : List String
  status : ClaimDecisionStatus
  guardrailViolations : List GuardrailViolation
  evidenceRoot : String
  reviewerAttestations : List ReviewerAttestation
  signatureRefs : List String
  deriving DecidableEq

structure ReviewValidationConfig where
  requiredRoles : List String
  requiredCount : Int
  selfReviewProhibited : Bool
  claimOwnerRef : String
  deriving DecidableEq

structure ReviewValidationResult where
  valid : Bool
  reason : Option String
  deriving DecidableEq

def ReviewValidationResult.refused (reason : String) : ReviewValidationResult := ⟨false, some reason⟩

/-- Each reviewer once; with self-reviews allowed, each reviewer once in each role. -/
def reviewersRefused (attestations : List ReviewerAttestation) (config : ReviewValidationConfig) : Option String :=
  if config.selfReviewProhibited then
    if ¬ (attestations.map (·.reviewerId)).Nodup then some "duplicate reviewer detected"
    else if attestations.any fun a => a.reviewerId = config.claimOwnerRef then some "self-review prohibited"
    else none
  else if ¬ (attestations.map fun a => s!"{a.reviewerId}:{a.role}").Nodup then
    some "duplicate reviewer role detected"
  else none

/-- The first attestation that lacks its declaration or its signature. -/
def attestationsRefused : List ReviewerAttestation → Option String
  | [] => none
  | a :: rest =>
      if a.coiDeclaration = "" then some s!"reviewer {a.reviewerId} missing COI declaration"
      else if a.signatureRef = "" then some s!"reviewer {a.reviewerId} missing signature"
      else attestationsRefused rest

def validateReviewers (attestations : List ReviewerAttestation) (config : ReviewValidationConfig) :
    ReviewValidationResult :=
  let approvals := (attestations.filter fun a => a.decision = .approve).length
  if config.requiredCount < 1 then .refused "requiredCount must be >= 1"
  else if attestations.length = 0 then .refused "no reviewer attestations"
  else
    match reviewersRefused attestations config with
    | some reason => .refused reason
    | none =>
        match attestationsRefused attestations with
        | some reason => .refused reason
        | none =>
            if approvals < config.requiredCount then
              .refused s!"insufficient approvals: {approvals} < {config.requiredCount}"
            else
              match config.requiredRoles.find? fun role => role ∉ attestations.map (·.role) with
              | some required => .refused s!"required role not covered: {required}"
              | none => ⟨true, none⟩

def isDecisionPublishable (decision : ClaimDecision) (config : ReviewValidationConfig) : Bool :=
  if (decision.guardrailViolations.filter fun v => v.severity = .blocking).length > 0 then false
  else if ¬ (validateReviewers decision.reviewerAttestations config).valid then false
  else if decision.reviewerAttestations.any fun a => a.decision = .reject then false
  else if decision.evidenceRoot = "" then false
  else if decision.signatureRefs.length = 0 then false
  else true

end Cantilune.Evaluation

namespace Cantilune.Evaluation

structure EvaluationClaim where
  claimId : String
  claimCode : String
  status : ClaimStatus
  frozenAt : Option String
  deriving DecidableEq

structure EvaluationProtocol where
  protocolId : String
  claimRefs : List String
  protocolDigest : String
  frozenAt : Option String
  deriving DecidableEq

structure FrozenEvaluationProtocol where
  protocolDigest : String
  frozenAt : String
  deriving DecidableEq

structure ClaimRegistry where
  claims : OrdMap String EvaluationClaim
  protocols : OrdMap String EvaluationProtocol
  deriving DecidableEq

/-- `VALID_CLAIM_CODES` -/
def validClaimCodes : List String :=
  ["evaluation.c1", "evaluation.c2", "evaluation.c3", "evaluation.c4", "evaluation.c5"]

/-- A claim that is still proposed is frozen with the protocol that names it. -/
def freezeClaim (frozenAt : String) (claims : OrdMap String EvaluationClaim) (claimRef : String) :
    OrdMap String EvaluationClaim :=
  match claims.get? claimRef with
  | none => claims
  | some claim =>
      if claim.status = .proposed then
        match transitionClaim claim.status .protocolFrozen with
        | .ok status => claims.set claimRef { claim with status, frozenAt := some frozenAt }
        | .error _ => claims
      else claims

def targetStatus : ClaimDecisionStatus → Option ClaimStatus
  | .supported => some .supported
  | .notSupported => some .notSupported
  | .inconclusive => some .inconclusive
  | .blocked => none
  | .invalidated => none

namespace ClaimRegistry

/-- `createClaimRegistry` -/
def create : ClaimRegistry := ⟨.empty, .empty⟩

def setClaim (r : ClaimRegistry) (claimId : String) (claim : EvaluationClaim) : ClaimRegistry :=
  { r with claims := r.claims.set claimId claim }

def registerClaim (r : ClaimRegistry) (claim : EvaluationClaim) : EvaluationResult EvaluationClaim × ClaimRegistry :=
  if r.claims.has claim.claimId then
    (refuse .invalidInput "claim.claimId" s!"Claim already registered: {claim.claimId}", r)
  else if claim.claimCode ∉ validClaimCodes then
    (refuse .invalidInput "claim.claimCode"
      (s!"Invalid claim code: {claim.claimCode}. Must be one of: " ++ ", ".intercalate validClaimCodes), r)
  else (.ok claim, r.setClaim claim.claimId claim)

def registerProtocol (r : ClaimRegistry) (protocol : EvaluationProtocol) :
    EvaluationResult EvaluationProtocol × ClaimRegistry :=
  if r.protocols.has protocol.protocolId then
    (refuse .invalidInput "protocol.protocolId" s!"Protocol already registered: {protocol.protocolId}", r)
  else (.ok protocol, { r with protocols := r.protocols.set protocol.protocolId protocol })

def freezeProtocol (r : ClaimRegistry) (protocolId frozenAt : String) :
    EvaluationResult FrozenEvaluationProtocol × ClaimRegistry :=
  match r.protocols.get? protocolId with
  | none => (refuse .invalidInput "protocol.protocolId" s!"Protocol not found: {protocolId}", r)
  | some protocol =>
      match protocol.frozenAt with
      | some time => (refuse .protocolNotFrozen "protocol.frozenAt" s!"Protocol already frozen at {time}", r)
      | none =>
          let missing := protocol.claimRefs.filter fun claimRef => !r.claims.has claimRef
          if missing.length > 0 then
            (.error (missing.map fun claimRef =>
              violation .invalidInput "protocol.claimRefs" s!"Referenced claim not found: {claimRef}"), r)
          else
            (.ok ⟨protocol.protocolDigest, frozenAt⟩,
              { claims := protocol.claimRefs.foldl (freezeClaim frozenAt) r.claims
                protocols := r.protocols.set protocolId { protocol with frozenAt := some frozenAt } })

def moveClaim (r : ClaimRegistry) (claimId : String) (claim : EvaluationClaim) (target : ClaimStatus) :
    EvaluationResult EvaluationClaim × ClaimRegistry :=
  match transitionClaim claim.status target with
  | .error violations => (.error violations, r)
  | .ok status => (.ok { claim with status }, r.setClaim claimId { claim with status })

def recordMeasurement (r : ClaimRegistry) (claimId analysisRef : String) :
    EvaluationResult EvaluationClaim × ClaimRegistry :=
  match r.claims.get? claimId with
  | none => (refuse .invalidInput "claim.claimId" s!"Claim not found: {claimId}", r)
  | some claim =>
      if analysisRef = "" then (refuse .invalidInput "analysisRef" "Analysis reference required", r)
      else r.moveClaim claimId claim .measured

def decideClaim (r : ClaimRegistry) (claimId : String) (decision : ClaimDecision) :
    EvaluationResult EvaluationClaim × ClaimRegistry :=
  match r.claims.get? claimId with
  | none => (refuse .invalidInput "claim.claimId" s!"Claim not found: {claimId}", r)
  | some claim =>
      if decision.claimRef ≠ claimId then
        (refuse .invalidInput "decision.claimRef" "Decision claimRef does not match", r)
      else if decision.analysisRefs.length = 0 then
        (refuse .invalidInput "decision.analysisRefs" "Decision requires at least one analysis ref", r)
      else
        match targetStatus decision.status with
        | none =>
            (refuse .invalidInput "decision.status"
              s!"Invalid decision status for claim transition: {decision.status.name}", r)
        | some target => r.moveClaim claimId claim target

def attestDecision (r : ClaimRegistry) (claimId : String) (config : ReviewValidationConfig)
    (decision : ClaimDecision) : EvaluationResult EvaluationClaim × ClaimRegistry :=
  match r.claims.get? claimId with
  | none => (refuse .invalidInput "claim.claimId" s!"Claim not found: {claimId}", r)
  | some claim =>
      -- which claim the decision is about is not looked at
      if ¬ isDecisionPublishable decision config then
        (refuse .reviewQuorumNotMet "decision.reviewers" "Decision does not meet review requirements", r)
      else r.moveClaim claimId claim .independentlyReviewed

end ClaimRegistry

inductive RegistryOperation where
  | registerClaim (claim : EvaluationClaim)
  | registerProtocol (protocol : EvaluationProtocol)
  | freezeProtocol (protocolId frozenAt : String)
  | recordMeasurement (claimId analysisRef : String)
  | decideClaim (claimId : String) (decision : ClaimDecision)
  | attestDecision (claimId : String) (config : ReviewValidationConfig) (decision : ClaimDecision)
  deriving DecidableEq

def ClaimRegistry.after (r : ClaimRegistry) : RegistryOperation → ClaimRegistry
  | .registerClaim claim => (r.registerClaim claim).2
  | .registerProtocol protocol => (r.registerProtocol protocol).2
  | .freezeProtocol protocolId frozenAt => (r.freezeProtocol protocolId frozenAt).2
  | .recordMeasurement claimId analysisRef => (r.recordMeasurement claimId analysisRef).2
  | .decideClaim claimId decision => (r.decideClaim claimId decision).2
  | .attestDecision claimId config decision => (r.attestDecision claimId config decision).2

def ClaimRegistry.status? (r : ClaimRegistry) (claimId : String) : Option ClaimStatus :=
  (r.claims.get? claimId).map (·.status)

end Cantilune.Evaluation
