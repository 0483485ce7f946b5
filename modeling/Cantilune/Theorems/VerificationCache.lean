import Cantilune.Conformance.PackageVerification

/-!
# The verification cache

A cached decision is that of the first call that passed with the same evidence root. The key does not have the
profile that the call asks for.
-/

namespace Cantilune.PackageVerification

/-! ## Calls -/

structure VerifyPackageCall where
  input : PackageVerificationInput
  now : String

def VerifyPackageCall.root (call : VerifyPackageCall) : String := call.input.manifest.evidenceRootDigest

def VerifyPackageCall.profile (call : VerifyPackageCall) : ConformanceProfile := call.input.manifest.requestedProfile

def VerifyPackageCall.Passes (call : VerifyPackageCall) (deps : ConformanceEngineDeps) : Prop :=
  verifyPackageEvidence call.input deps = []

def cacheKeyOf (deps : ConformanceEngineDeps) (call : VerifyPackageCall) : String :=
  cacheKeyString (verificationCacheKey deps call.input.manifest)

def freshEngine (verificationRunCounter : Nat) : ConformanceEngine := { cache := .empty, verificationRunCounter }

def stepEngine (deps : ConformanceEngineDeps) (engine : ConformanceEngine) (call : VerifyPackageCall) :
    ConformanceEngine :=
  (verifyPackage deps engine call.input call.now).2

def engineAfter (deps : ConformanceEngineDeps) (start : Nat) (calls : List VerifyPackageCall) : ConformanceEngine :=
  calls.foldl (stepEngine deps) (freshEngine start)

def outcome (answer : Except (List ConformanceViolation) VerificationDecision) :
    Except (List ConformanceViolation)
      (ConformanceProfile × ConformanceStatusAxes × List ConformanceViolation × String) :=
  answer.map fun decision =>
    (decision.profile, decision.status, decision.violations, decision.evidenceRootDigest)

def CacheTransparent (deps : ConformanceEngineDeps) (start : Nat) (calls : List VerifyPackageCall) : Prop :=
  ∀ pre call post, calls = pre ++ call :: post → ∀ counter,
    outcome (verifyPackage deps (engineAfter deps start pre) call.input call.now).1 =
      outcome (verifyPackage deps (freshEngine counter) call.input call.now).1

variable {deps : ConformanceEngineDeps} {engine : ConformanceEngine} {calls : List VerifyPackageCall}
  {call earlier : VerifyPackageCall} {decision : VerificationDecision}

theorem cacheKeyOf_inj (h : cacheKeyOf deps earlier = cacheKeyOf deps call) : earlier.root = call.root := by
  have hchars := congrArg String.toList h
  simp only [cacheKeyOf, cacheKeyString, verificationCacheKey, String.intercalate_cons_cons,
    String.intercalate_singleton, String.toList_append] at hchars
  simp only [← List.append_assoc, List.append_cancel_right_eq] at hchars
  have hlength := congrArg List.length hchars
  simp only [List.length_append] at hlength
  have hroot := (List.append_inj hchars (by simp only [List.length_append]; omega)).2
  exact String.toList_inj.1 hroot

theorem cacheKeyOf_of_root (h : earlier.root = call.root) : cacheKeyOf deps earlier = cacheKeyOf deps call := by
  unfold VerifyPackageCall.root at h
  simp only [cacheKeyOf, verificationCacheKey, h]

/-! ## One call -/

theorem verifyPackage_of_not_passes (h : ¬ call.Passes deps) :
    verifyPackage deps engine call.input call.now = (.error (verifyPackageEvidence call.input deps), engine) := by
  unfold VerifyPackageCall.Passes at h
  unfold verifyPackage
  generalize verifyPackageEvidence call.input deps = violations at h ⊢
  exact if_pos h

theorem verifyPackage_of_cached (h : call.Passes deps)
    (hcached : engine.cache.get? (cacheKeyOf deps call) = some decision) :
    verifyPackage deps engine call.input call.now =
      (.ok { decision with cacheKey := some (cacheKeyOf deps call) }, engine) := by
  unfold VerifyPackageCall.Passes at h
  unfold verifyPackage
  generalize verifyPackageEvidence call.input deps = violations at h ⊢
  rw [h]
  rw [cacheKeyOf] at hcached
  simp only [hcached, ne_eq, not_true_eq_false, if_false]
  rfl

def newDecision (deps : ConformanceEngineDeps) (engine : ConformanceEngine) (call : VerifyPackageCall) :
    VerificationDecision :=
  (success engine call.profile call.root call.now (some (cacheKeyOf deps call))).1

theorem verifyPackage_of_fresh (h : call.Passes deps) (hfresh : engine.cache.get? (cacheKeyOf deps call) = none) :
    verifyPackage deps engine call.input call.now = (.ok (newDecision deps engine call),
      { cache := engine.cache.set (cacheKeyOf deps call) (newDecision deps engine call)
        verificationRunCounter := engine.verificationRunCounter + 1 }) := by
  unfold VerifyPackageCall.Passes at h
  unfold verifyPackage
  generalize verifyPackageEvidence call.input deps = violations at h ⊢
  rw [h]
  rw [cacheKeyOf] at hfresh
  simp only [hfresh, ne_eq, not_true_eq_false, if_false]
  rfl

def passed (profile : ConformanceProfile) (root : String) : Except (List ConformanceViolation)
    (ConformanceProfile × ConformanceStatusAxes × List ConformanceViolation × String) :=
  .ok (profile, { initialConformanceStatus with machine := .verified, humanReview := .pending }, [], root)

theorem outcome_newDecision (deps : ConformanceEngineDeps) (engine : ConformanceEngine) (call : VerifyPackageCall) :
    outcome (.ok (newDecision deps engine call)) = passed call.profile call.root := rfl

theorem outcome_withCacheKey (decision : VerificationDecision) (key : Option String) :
    outcome (.ok { decision with cacheKey := key }) = outcome (.ok decision) := rfl

theorem outcome_fresh (h : call.Passes deps) (counter : Nat) :
    outcome (verifyPackage deps (freshEngine counter) call.input call.now).1 = passed call.profile call.root := by
  rw [verifyPackage_of_fresh h rfl]
  exact outcome_newDecision deps _ call

/-! ## The cache of a run -/

structure CacheOf (deps : ConformanceEngineDeps) (calls : List VerifyPackageCall) (engine : ConformanceEngine) :
    Prop where
  told : ∀ key decision, engine.cache.get? key = some decision →
    ∃ call ∈ calls, call.Passes deps ∧ cacheKeyOf deps call = key ∧
      outcome (.ok decision) = passed call.profile call.root
  present : ∀ call ∈ calls, call.Passes deps → ∃ decision, engine.cache.get? (cacheKeyOf deps call) = some decision

theorem stepEngine_keeps (call : VerifyPackageCall) {key : String} (h : engine.cache.get? key = some decision) :
    (stepEngine deps engine call).cache.get? key = some decision := by
  unfold stepEngine
  by_cases hpasses : call.Passes deps
  · cases hget : engine.cache.get? (cacheKeyOf deps call) with
    | some cached =>
        rw [verifyPackage_of_cached hpasses hget]
        exact h
    | none =>
        rw [verifyPackage_of_fresh hpasses hget]
        apply (OrdMap.get?_set_ne _ _ _).trans h
        intro heq
        rw [heq, hget] at h
        cases h
  · rw [verifyPackage_of_not_passes hpasses]
    exact h

theorem stepEngine_present (hpasses : call.Passes deps) :
    ∃ decision, (stepEngine deps engine call).cache.get? (cacheKeyOf deps call) = some decision ∧
      outcome (.ok decision) = outcome (verifyPackage deps engine call.input call.now).1 := by
  unfold stepEngine
  cases hget : engine.cache.get? (cacheKeyOf deps call) with
  | some cached =>
      rw [verifyPackage_of_cached hpasses hget]
      exact ⟨cached, hget, rfl⟩
  | none =>
      rw [verifyPackage_of_fresh hpasses hget]
      exact ⟨_, OrdMap.get?_set_self _ _ _, rfl⟩

theorem foldl_stepEngine_keeps (calls : List VerifyPackageCall) {key : String}
    (h : engine.cache.get? key = some decision) :
    (calls.foldl (stepEngine deps) engine).cache.get? key = some decision := by
  induction calls generalizing engine with
  | nil => exact h
  | cons call calls ih =>
      rw [List.foldl_cons]
      apply ih
      exact stepEngine_keeps call h

theorem CacheOf.step (h : CacheOf deps calls engine) (call : VerifyPackageCall) :
    CacheOf deps (calls ++ [call]) (stepEngine deps engine call) where
  told key decision hkey := by
    have hmore : (∃ earlier ∈ calls, earlier.Passes deps ∧ cacheKeyOf deps earlier = key ∧
          outcome (.ok decision) = passed earlier.profile earlier.root) →
        ∃ earlier ∈ calls ++ [call], earlier.Passes deps ∧ cacheKeyOf deps earlier = key ∧
          outcome (.ok decision) = passed earlier.profile earlier.root := by
      rintro ⟨earlier, hmem, htold⟩
      exact ⟨earlier, List.mem_append_left _ hmem, htold⟩
    unfold stepEngine at hkey
    by_cases hpasses : call.Passes deps
    · cases hget : engine.cache.get? (cacheKeyOf deps call) with
      | some cached =>
          rw [verifyPackage_of_cached hpasses hget] at hkey
          exact hmore (h.told key decision hkey)
      | none =>
          rw [verifyPackage_of_fresh hpasses hget, OrdMap.get?_set] at hkey
          split at hkey
          · cases hkey
            exact ⟨call, List.mem_append_right _ List.mem_cons_self, hpasses, Eq.symm ‹_›, rfl⟩
          · exact hmore (h.told key decision hkey)
    · rw [verifyPackage_of_not_passes hpasses] at hkey
      exact hmore (h.told key decision hkey)
  present later hlater hpass := by
    rcases List.mem_append.1 hlater with hmem | hmem
    · obtain ⟨decision, hdecision⟩ := h.present later hmem hpass
      exact ⟨decision, stepEngine_keeps call hdecision⟩
    · rw [List.mem_singleton.1 hmem] at hpass ⊢
      obtain ⟨decision, hdecision, -⟩ := stepEngine_present hpass
      exact ⟨decision, hdecision⟩

theorem cacheOf_engineAfter (deps : ConformanceEngineDeps) (start : Nat) (calls : List VerifyPackageCall) :
    CacheOf deps calls (engineAfter deps start calls) := by
  induction calls using List.reverseRecOn with
  | nil => exact { told := fun _ _ h => (nomatch h), present := fun _ h => (nomatch h) }
  | append_singleton calls call ih =>
      rw [engineAfter, List.foldl_concat]
      exact ih.step call

theorem outcome_after (hpasses : call.Passes deps) (hcache : CacheOf deps calls engine) :
    (∃ earlier ∈ calls, earlier.Passes deps ∧ earlier.root = call.root ∧
      outcome (verifyPackage deps engine call.input call.now).1 = passed earlier.profile earlier.root) ∨
    (∀ earlier ∈ calls, earlier.Passes deps → earlier.root ≠ call.root) ∧
      outcome (verifyPackage deps engine call.input call.now).1 = passed call.profile call.root := by
  cases hget : engine.cache.get? (cacheKeyOf deps call) with
  | some cached =>
      obtain ⟨earlier, hmem, hpass, hkey, htold⟩ := hcache.told _ _ hget
      refine .inl ⟨earlier, hmem, hpass, cacheKeyOf_inj hkey, ?_⟩
      rw [verifyPackage_of_cached hpasses hget]
      exact htold
  | none =>
      refine .inr ⟨fun earlier hmem hpass hroot => ?_, ?_⟩
      · obtain ⟨decision, hdecision⟩ := hcache.present earlier hmem hpass
        rw [cacheKeyOf_of_root hroot, hget] at hdecision
        cases hdecision
      · rw [verifyPackage_of_fresh hpasses hget]
        rfl

def OneProfileEach (deps : ConformanceEngineDeps) (calls : List VerifyPackageCall) : Prop :=
  ∀ earlier ∈ calls, ∀ later ∈ calls, earlier.Passes deps → later.Passes deps → earlier.root = later.root →
    earlier.profile = later.profile

theorem profile_eq_of_transparent {start : Nat} {pre mid post : List VerifyPackageCall} {later : VerifyPackageCall}
    (h : CacheTransparent deps start (pre ++ earlier :: (mid ++ later :: post))) (hearlier : earlier.Passes deps)
    (hlater : later.Passes deps) (hroot : earlier.root = later.root) : earlier.profile = later.profile := by
  have hfirst := h pre earlier (mid ++ later :: post) rfl 0
  have hsecond := h (pre ++ earlier :: mid) later post (by simp) 0
  rw [outcome_fresh hearlier] at hfirst
  rw [outcome_fresh hlater] at hsecond
  obtain ⟨decision, hpresent, htold⟩ := @stepEngine_present deps (engineAfter deps start pre) earlier hearlier
  have hcached : (engineAfter deps start (pre ++ earlier :: mid)).cache.get? (cacheKeyOf deps later) =
      some decision := by
    rw [← cacheKeyOf_of_root hroot, engineAfter, List.foldl_append, List.foldl_cons]
    apply foldl_stepEngine_keeps
    exact hpresent
  have hsame : passed earlier.profile earlier.root = passed later.profile later.root := by
    rw [← hfirst, ← htold, ← hsecond, verifyPackage_of_cached hlater hcached]
    exact (outcome_withCacheKey decision _).symm
  exact congrArg Prod.fst (Except.ok.inj hsame)

theorem cacheTransparent_of_oneProfileEach {start : Nat} (h : OneProfileEach deps calls) :
    CacheTransparent deps start calls := by
  intro pre call post heq counter
  have hmem : call ∈ calls := heq ▸ List.mem_append_right pre List.mem_cons_self
  by_cases hpasses : call.Passes deps
  · rw [outcome_fresh hpasses]
    rcases outcome_after hpasses (cacheOf_engineAfter deps start pre) with
      ⟨earlier, hearlier, hpass, hroot, htold⟩ | ⟨-, htold⟩
    · rw [htold, hroot, h earlier (heq ▸ List.mem_append_left _ hearlier) call hmem hpass hpasses hroot]
    · exact htold
  · rw [verifyPackage_of_not_passes hpasses, verifyPackage_of_not_passes hpasses]

/-- The cache is transparent exactly for the runs in which calls that pass with the same evidence root ask for the
same profile. -/
theorem cacheTransparent_iff (deps : ConformanceEngineDeps) (start : Nat) (calls : List VerifyPackageCall) :
    CacheTransparent deps start calls ↔ OneProfileEach deps calls := by
  constructor
  · intro h earlier hearlier later hlater hpassesEarlier hpassesLater hroot
    obtain ⟨pre, post, rfl⟩ := List.append_of_mem hearlier
    rcases List.mem_append.1 hlater with hmem | hmem
    · obtain ⟨first, mid, rfl⟩ := List.append_of_mem hmem
      rw [List.append_assoc, List.cons_append] at h
      exact (profile_eq_of_transparent h hpassesLater hpassesEarlier hroot.symm).symm
    · rcases List.mem_cons.1 hmem with rfl | hmem
      · rfl
      · obtain ⟨mid, last, rfl⟩ := List.append_of_mem hmem
        exact profile_eq_of_transparent h hpassesEarlier hpassesLater hroot
  · exact cacheTransparent_of_oneProfileEach

def zeroDigest : String := String.ofList (List.replicate 64 '0')

def sampleDeps : ConformanceEngineDeps where
  hasEvidence _ := true
  trustVersion := "trust-1"
  getRoots _ := ["root-1"]
  revocationCheckpoint := "revocations-1"
  isRevoked _ := false
  policy := { policyVersion := "policy-1", allowedClaimScopes := [.reference], minimumProfile := .engineeringAdmission }
  computeEvidenceDigest _ := zeroDigest

def sampleCall (requestedProfile : ConformanceProfile) : VerifyPackageCall where
  input :=
    { manifest :=
        { manifestSchemaVersion := 1, claimScope := .reference, packageName := none, packageVersion := none
          artifactSubject := none, requestedProfile, ruleInventoryRef := "inventory", proofManifestRef := "proofs"
          evidenceRootDigest := zeroDigest, policyRef := "policy-1", theoryBaselineRef := "baseline"
          requiredReviewerRoles := ["maintainer"], ownerRef := "owner" }
      inventory :=
        { inventorySchemaVersion := 1, inventoryDigest := zeroDigest
          entries := [{ ruleId := "r1", ruleKind := "act", theoryRef := "t1" }] }
      observedRuleIds := ["r1"], evidenceArtifactDigests := [zeroDigest] }
  now := "2026-01-01T00:00:00.000Z"

/-- Both calls pass; the second asks for `crossEpochProduct` and is told `engineeringAdmission`. -/
theorem cache_not_transparent :
    ¬ CacheTransparent sampleDeps 0 [sampleCall .engineeringAdmission, sampleCall .crossEpochProduct] := by
  have hfirst : (sampleCall .engineeringAdmission).Passes sampleDeps := by
    unfold VerifyPackageCall.Passes
    decide +kernel
  have hsecond : (sampleCall .crossEpochProduct).Passes sampleDeps := by
    unfold VerifyPackageCall.Passes
    decide +kernel
  intro h
  exact absurd (@profile_eq_of_transparent _ _ 0 [] [] [] _ h hfirst hsecond rfl) (by decide)

end Cantilune.PackageVerification
