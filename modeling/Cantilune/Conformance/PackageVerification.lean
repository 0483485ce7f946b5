import Cantilune.Base.Json
import Cantilune.Base.OrdMap
import Cantilune.Conformance.Lifecycle
import Cantilune.Conformance.RecipeChain

/-!
# Verification of packages

The evidence of a package is checked anew on every call; the decision of a call that passes comes from the cache where
the cache has one under its key. The stores answer the same on every call, and the digest of an encoding is a
parameter.
-/

namespace Cantilune.PackageVerification

inductive ConformanceViolationCode where
  | digestMismatch | inventoryIncomplete | inventoryDuplicate | inventoryExtra | trustInvalid | revoked
  | profileInsufficient | scopeEscalation | missingEvidence
  deriving DecidableEq, Repr

structure ConformanceViolation where
  code : ConformanceViolationCode
  message : String
  path : Option String
  deriving DecidableEq

def conformanceViolation (code : ConformanceViolationCode) (message : String) (path : Option String := none) :
    ConformanceViolation :=
  { code, message, path }

def failUnless (condition : Prop) [Decidable condition] (violation : ConformanceViolation) :
    List ConformanceViolation :=
  if condition then [] else [violation]

/-! ## Profiles -/

inductive ClaimScope where
  | generic | reference | product
  deriving DecidableEq, Repr

inductive ConformanceProfile where
  | operationalProjection | completeProjection | fourProjection | fixedEpochRule | crossEpochProduct
  | canonicalProtocol | canonicalProtocolWithFms | fullProductTrajectory | engineeringAdmission
  deriving DecidableEq, Repr

def ConformanceProfile.name : ConformanceProfile → String
  | .operationalProjection => "operationalProjection"
  | .completeProjection => "completeProjection"
  | .fourProjection => "fourProjection"
  | .fixedEpochRule => "fixedEpochRule"
  | .crossEpochProduct => "crossEpochProduct"
  | .canonicalProtocol => "canonicalProtocol"
  | .canonicalProtocolWithFms => "canonicalProtocolWithFms"
  | .fullProductTrajectory => "fullProductTrajectory"
  | .engineeringAdmission => "engineeringAdmission"

inductive EvidenceClass where
  | candidateManifest | ruleInventory | proofManifest | theoryBaseline | operationalProjection
  | fourProjectionSemantics | replayRecipe | crossEpochChain | engineeringAdmission | releaseCertificate
  deriving DecidableEq, Repr

def profileEvidenceRequirements : ConformanceProfile → List EvidenceClass
  | .operationalProjection => [.candidateManifest, .operationalProjection]
  | .completeProjection => [.candidateManifest, .operationalProjection, .fourProjectionSemantics]
  | .fourProjection => [.candidateManifest, .proofManifest, .theoryBaseline, .fourProjectionSemantics]
  | .engineeringAdmission => [.candidateManifest, .engineeringAdmission]
  | .fixedEpochRule => [.candidateManifest, .ruleInventory, .replayRecipe]
  | .crossEpochProduct => [.candidateManifest, .crossEpochChain, .engineeringAdmission]
  | .canonicalProtocol =>
      [.candidateManifest, .operationalProjection, .fourProjectionSemantics, .crossEpochChain, .engineeringAdmission]
  | .canonicalProtocolWithFms =>
      [.candidateManifest, .operationalProjection, .fourProjectionSemantics, .crossEpochChain, .engineeringAdmission,
        .proofManifest]
  | .fullProductTrajectory =>
      [.candidateManifest, .ruleInventory, .proofManifest, .theoryBaseline, .operationalProjection,
        .fourProjectionSemantics, .replayRecipe, .crossEpochChain, .engineeringAdmission, .releaseCertificate]

def profileSatisfiesRequirements (holder required : ConformanceProfile) : Bool :=
  (profileEvidenceRequirements required).all fun evidenceClass => evidenceClass ∈ profileEvidenceRequirements holder

/-! ## What is verified -/

structure ConformanceTargetManifest where
  manifestSchemaVersion : Nat
  claimScope : ClaimScope
  packageName : Option String
  packageVersion : Option String
  artifactSubject : Option Json
  requestedProfile : ConformanceProfile
  ruleInventoryRef : String
  proofManifestRef : String
  evidenceRootDigest : String
  policyRef : String
  theoryBaselineRef : String
  requiredReviewerRoles : List String
  ownerRef : String

structure RuleInventoryEntry where
  ruleId : String
  ruleKind : String
  theoryRef : String

structure RuleInventory where
  inventorySchemaVersion : Nat
  inventoryDigest : String
  entries : List RuleInventoryEntry

def RuleInventoryEntry.json (entry : RuleInventoryEntry) : Json :=
  .obj [("ruleId", .str entry.ruleId), ("ruleKind", .str entry.ruleKind), ("theoryRef", .str entry.theoryRef)]

structure VerificationPolicy where
  policyVersion : String
  allowedClaimScopes : List ClaimScope
  minimumProfile : ConformanceProfile

def policyAllowsScope (policy : VerificationPolicy) (scope : ClaimScope) : Bool :=
  scope ∈ policy.allowedClaimScopes

def policyAllowsProfile (policy : VerificationPolicy) (profile : ConformanceProfile) : Bool :=
  profileSatisfiesRequirements profile policy.minimumProfile

/-- The stores as they answer, the policy, and the digest of an encoding. -/
structure ConformanceEngineDeps where
  hasEvidence : String → Bool
  trustVersion : String
  /-- The key ids of the trust roots for a scope. -/
  getRoots : String → List String
  revocationCheckpoint : String
  isRevoked : String → Bool
  policy : VerificationPolicy
  computeEvidenceDigest : Json → String

structure PackageVerificationInput where
  manifest : ConformanceTargetManifest
  inventory : RuleInventory
  observedRuleIds : List String
  evidenceArtifactDigests : List String

/-! ## Evidence -/

def validateConformanceTargetManifest (manifest : ConformanceTargetManifest) : List ConformanceViolation :=
  failUnless (manifest.manifestSchemaVersion = 1)
    (conformanceViolation .missingEvidence "manifestSchemaVersion must be 1" "manifestSchemaVersion") ++
  failUnless (Conformance.isSha256HexDigest manifest.evidenceRootDigest = true)
    (conformanceViolation .digestMismatch "evidenceRootDigest must be sha256 hex" "evidenceRootDigest") ++
  failUnless (manifest.ruleInventoryRef ≠ "")
    (conformanceViolation .missingEvidence "ruleInventoryRef required" "ruleInventoryRef") ++
  failUnless (manifest.proofManifestRef ≠ "")
    (conformanceViolation .missingEvidence "proofManifestRef required" "proofManifestRef") ++
  failUnless (manifest.policyRef ≠ "") (conformanceViolation .missingEvidence "policyRef required" "policyRef") ++
  failUnless (manifest.theoryBaselineRef ≠ "")
    (conformanceViolation .missingEvidence "theoryBaselineRef required" "theoryBaselineRef") ++
  failUnless (manifest.ownerRef ≠ "") (conformanceViolation .missingEvidence "ownerRef required" "ownerRef") ++
  (if manifest.claimScope = .product then
    failUnless (manifest.packageName ≠ none ∧ manifest.packageVersion ≠ none)
      (conformanceViolation .missingEvidence "product scope requires packageName and packageVersion") ++
    failUnless (manifest.artifactSubject ≠ none)
      (conformanceViolation .missingEvidence "product scope requires artifactSubject")
  else []) ++
  failUnless (manifest.requiredReviewerRoles ≠ [])
    (conformanceViolation .missingEvidence "requiredReviewerRoles must be non-empty")

def ruleInventoryErrors (seen : List String) : List RuleInventoryEntry → List String
  | [] => []
  | entry :: entries =>
      (if entry.ruleId ∈ seen then [s!"duplicate ruleId: {entry.ruleId}"] else []) ++
        (if entry.ruleId = "" then ["empty ruleId"] else []) ++ ruleInventoryErrors (entry.ruleId :: seen) entries

def validateRuleInventory (inventory : RuleInventory) : List String := ruleInventoryErrors [] inventory.entries

/-- The members of a set, in the order in which they came in. -/
def setOf (ids : List String) : List String :=
  ids.foldl (fun members id => if id ∈ members then members else members ++ [id]) []

def verifyRuleInventoryCompleteness (inventory : RuleInventory) (observedRuleIds : List String) :
    List ConformanceViolation :=
  let declared := setOf (inventory.entries.map (·.ruleId))
  let observed := setOf observedRuleIds
  (validateRuleInventory inventory).map (conformanceViolation .inventoryDuplicate) ++
  declared.flatMap (fun ruleId => failUnless (ruleId ∈ observed)
    (conformanceViolation .inventoryIncomplete s!"missing evidence for rule {ruleId}" ruleId)) ++
  observed.flatMap (fun ruleId => failUnless (ruleId ∈ declared)
    (conformanceViolation .inventoryExtra s!"undeclared rule evidence {ruleId}" ruleId)) ++
  failUnless (declared.length = inventory.entries.length)
    (conformanceViolation .inventoryDuplicate "duplicate rule inventory entries")

def verifyEvidenceArtifactsExist (has : String → Bool) (digests : List String) : List ConformanceViolation :=
  digests.flatMap fun digest =>
    if ¬ Conformance.isSha256HexDigest digest then
      [conformanceViolation .digestMismatch s!"invalid artifact digest {digest}"]
    else failUnless (has digest = true)
      (conformanceViolation .missingEvidence s!"evidence artifact not found in store: {digest}" digest)

def maxRuleCount : Nat := 10000

def verifyPackageEvidence (input : PackageVerificationInput) (deps : ConformanceEngineDeps) :
    List ConformanceViolation :=
  validateConformanceTargetManifest input.manifest ++
  failUnless (input.inventory.inventorySchemaVersion = 1)
    (conformanceViolation .inventoryIncomplete "inventorySchemaVersion must be 1") ++
  failUnless (Conformance.isSha256HexDigest input.inventory.inventoryDigest = true)
    (conformanceViolation .digestMismatch "inventoryDigest must be sha256 hex") ++
  failUnless (input.inventory.inventoryDigest = deps.computeEvidenceDigest (.obj
      [("schema", .num input.inventory.inventorySchemaVersion),
        ("entries", .arr (input.inventory.entries.map (·.json)))]))
    (conformanceViolation .digestMismatch "inventory digest does not match entries") ++
  (validateRuleInventory input.inventory).map (conformanceViolation .inventoryDuplicate) ++
  failUnless (input.inventory.entries ≠ [])
    (conformanceViolation .inventoryIncomplete "rule inventory must not be empty") ++
  failUnless (input.inventory.entries.length ≤ maxRuleCount)
    (conformanceViolation .inventoryIncomplete "rule inventory exceeds maxRuleCount") ++
  verifyRuleInventoryCompleteness input.inventory input.observedRuleIds ++
  failUnless (policyAllowsScope deps.policy input.manifest.claimScope = true)
    (conformanceViolation .scopeEscalation "claim scope not allowed by policy") ++
  failUnless (policyAllowsProfile deps.policy input.manifest.requestedProfile = true)
    (conformanceViolation .profileInsufficient "requested profile exceeds policy minimum") ++
  failUnless (input.evidenceArtifactDigests ≠ [])
    (conformanceViolation .missingEvidence "at least one evidence artifact digest required") ++
  verifyEvidenceArtifactsExist deps.hasEvidence input.evidenceArtifactDigests ++
  failUnless (deps.isRevoked input.manifest.evidenceRootDigest = false)
    (conformanceViolation .revoked "manifest evidence root is revoked") ++
  failUnless (¬ (deps.getRoots "conformance/verify" = [] ∧ input.manifest.claimScope = .product))
    (conformanceViolation .trustInvalid "product scope requires configured trust roots")

/-! ## Decisions -/

inductive TheoryEvidenceStatus where
  | missing | partialScaffold | implementedUnverified | proved | reviewed
  deriving DecidableEq, Repr

inductive HumanReviewStatus where
  | unassigned | pending | approved | rejected | conflict
  deriving DecidableEq, Repr

inductive ReleaseDecisionStatus where
  | notEvaluated | blocked | conditional | accepted | superseded | expired | revoked
  deriving DecidableEq, Repr

structure ConformanceStatusAxes where
  theory : TheoryEvidenceStatus
  machine : Conformance.MachineVerificationStatus
  humanReview : HumanReviewStatus
  release : ReleaseDecisionStatus
  deriving DecidableEq

def initialConformanceStatus : ConformanceStatusAxes where
  theory := .partialScaffold
  machine := .candidate
  humanReview := .unassigned
  release := .notEvaluated

structure VerificationDecision where
  runId : String
  profile : ConformanceProfile
  status : ConformanceStatusAxes
  violations : List ConformanceViolation
  evidenceRootDigest : String
  decidedAt : String
  cacheKey : Option String
  deriving DecidableEq

structure VerificationCacheKey where
  subjectDigest : String
  evidenceRootDigest : String
  verifierBuild : String
  policyVersion : String
  trustRootSetVersion : String
  revocationCheckpoint : String

def cacheKeyString (key : VerificationCacheKey) : String :=
  "|".intercalate [key.subjectDigest, key.evidenceRootDigest, key.verifierBuild, key.policyVersion,
    key.trustRootSetVersion, key.revocationCheckpoint]

def engineeringAdmissionVerifierBuild : String := "conformance/3.0-m2"

def verificationCacheKey (deps : ConformanceEngineDeps) (manifest : ConformanceTargetManifest) :
    VerificationCacheKey where
  subjectDigest := manifest.evidenceRootDigest
  evidenceRootDigest := manifest.evidenceRootDigest
  verifierBuild := engineeringAdmissionVerifierBuild
  policyVersion := deps.policy.policyVersion
  trustRootSetVersion := deps.trustVersion
  revocationCheckpoint := deps.revocationCheckpoint

structure ConformanceEngine where
  cache : OrdMap String VerificationDecision
  verificationRunCounter : Nat

/-- The decision of a run that passes, under the next run id. -/
def success (engine : ConformanceEngine) (profile : ConformanceProfile) (evidenceRootDigest now : String)
    (cacheKey : Option String) : VerificationDecision × ConformanceEngine :=
  let verificationRunCounter := engine.verificationRunCounter + 1
  ({ runId := s!"run-{profile.name}-{now}-{verificationRunCounter}"
     profile
     status := { initialConformanceStatus with machine := .verified, humanReview := .pending }
     violations := []
     evidenceRootDigest, decidedAt := now, cacheKey },
    { engine with verificationRunCounter })

def verifyPackage (deps : ConformanceEngineDeps) (engine : ConformanceEngine) (input : PackageVerificationInput)
    (now : String) : Except (List ConformanceViolation) VerificationDecision × ConformanceEngine :=
  let packageViolations := verifyPackageEvidence input deps
  if packageViolations ≠ [] then (.error packageViolations, engine)
  else
    let key := cacheKeyString (verificationCacheKey deps input.manifest)
    match engine.cache.get? key with
    | some cached => (.ok { cached with cacheKey := some key }, engine)
    | none =>
        let (decision, engine) :=
          success engine input.manifest.requestedProfile input.manifest.evidenceRootDigest now (some key)
        (.ok decision, { engine with cache := engine.cache.set key decision })

end Cantilune.PackageVerification
