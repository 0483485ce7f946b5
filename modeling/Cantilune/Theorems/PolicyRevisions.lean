import Cantilune.Lemmas.ControlPlaneCalls

/-!
# Registered policies

A policy is stored under its policy id and revision id. An activation that passes its checks stores its policy
there whatever the key held before, where a schema revision would be refused.
-/

namespace Cantilune

open ControlPlaneProgram

attribute [local simp] WritesOnly ControlPlaneRequest.writes

variable {R : Type} {host : ControlPlaneHost} {port : RuntimePort R} {w w' : ControlPlaneWorld R}

def AnswersPolicy (hashes : ContentHashes) (revision : PolicyRevision) (store : ControlPlaneStore) : Prop :=
  store.getPolicy hashes revision.policyRef = .ok (some revision)

theorem answersPolicy_iff {hashes : ContentHashes} {revision : PolicyRevision} {store : ControlPlaneStore} :
    AnswersPolicy hashes revision store ↔
      store.policies.get? (ControlPlaneStore.policyKey revision.policyRef) = some revision ∧
        verifyPolicyRevisionIntegrity hashes revision = true := by
  unfold AnswersPolicy ControlPlaneStore.getPolicy
  cases hget : store.policies.get? (ControlPlaneStore.policyKey revision.policyRef) with
  | none => simp
  | some stored =>
      dsimp only
      constructor
      · intro h
        split at h
        · cases h
        split at h
        · cases h
        · rename_i hintegrity
          cases h
          exact ⟨rfl, Bool.not_eq_false _ ▸ hintegrity⟩
      · rintro ⟨hstored, hintegrity⟩
        cases hstored
        simp [hintegrity]

/-! ## One call -/

def RegistersPolicy (hashes : ContentHashes) (store : ControlPlaneStore) (command : ActivatePolicyRevisionCommand) :
    Prop :=
  store.frozen = false ∧ command.context.hasRole "policy-admin" = true ∧
    verifyPolicyRevisionIntegrity hashes command.policyRevision = true ∧
    ∃ active, store.activeBindings.get? command.activationDomainId = some active ∧
      active.bindingGeneration = command.expectedBindingGeneration ∧
      (command.policyRevision.compatibleSchemaRefs.any fun ref => ref.digest = active.schemaRef.digest) = true

theorem snapshotPolicyRevision_eq_some {revision snapshot : PolicyRevision}
    (h : snapshotPolicyRevision revision = some snapshot) : snapshot = revision := by
  unfold snapshotPolicyRevision at h
  split at h
  · exact (Option.some.inj h).symm
  · cases h

theorem verifyPolicyRevisionIntegrity_of_none {hashes : ContentHashes} {revision : PolicyRevision}
    (h : snapshotPolicyRevision revision = none) : verifyPolicyRevisionIntegrity hashes revision = false := by
  unfold verifyPolicyRevisionIntegrity
  rw [h]
  rfl

theorem activatePolicyRevision_cases {command : ActivatePolicyRevisionCommand}
    {out : Except ControlPlaneError PolicyActivationReceipt}
    (h : Program.Exec (ControlPlaneRequest.Answers host port)
      (activatePolicyRevision host command) w out w') :
    (RegistersPolicy host.toContentHashes w.store command ∧ w'.store.policies =
        w.store.policies.set (ControlPlaneStore.policyKey command.policyRevision.policyRef) command.policyRevision) ∨
      (¬ RegistersPolicy host.toContentHashes w.store command ∧ w'.store.policies = w.store.policies) := by
  unfold activatePolicyRevision at h
  rcases exec_bind_ensureNotFrozen.1 h with ⟨hfrozen, h⟩ | ⟨hfrozen, -, rfl⟩
  rotate_left
  · exact .inr ⟨fun hr => absurd hr.1 (by simp [hfrozen]), rfl⟩
  rcases exec_bind_deny.1 h with ⟨hrole, h⟩ | ⟨hrole, -, rfl⟩
  rotate_left
  · exact .inr ⟨fun hr => absurd hr.2.1 (by simp [hrole]), rfl⟩
  rcases exec_bind_orRefuse.1 h with ⟨policyRevision, hsnapshot, h⟩ | ⟨hsnapshot, -, rfl⟩
  rotate_left
  · refine .inr ⟨fun hr => ?_, rfl⟩
    have hintegrity := hr.2.2.1
    rw [verifyPolicyRevisionIntegrity_of_none hsnapshot] at hintegrity
    cases hintegrity
  obtain rfl := snapshotPolicyRevision_eq_some hsnapshot
  rcases exec_bind_deny.1 h with ⟨hintegrity, h⟩ | ⟨hintegrity, -, rfl⟩
  rotate_left
  · exact .inr ⟨fun hr => absurd hr.2.2.1 (by simp [hintegrity]), rfl⟩
  obtain ⟨binding, w, ⟨rfl, rfl⟩, h⟩ := exec_bind_ask.1 h
  rcases exec_bind_orRefuse.1 h with ⟨active, hactive, h⟩ | ⟨hactive, -, rfl⟩
  rotate_left
  · refine .inr ⟨?_, rfl⟩
    rintro ⟨-, -, -, active, hsome, -⟩
    rw [hactive] at hsome
    cases hsome
  rcases exec_bind_deny.1 h with ⟨hgeneration, h⟩ | ⟨hgeneration, -, rfl⟩
  rotate_left
  · refine .inr ⟨?_, rfl⟩
    rintro ⟨-, -, -, active', hsome, heq, -⟩
    cases hactive.symm.trans hsome
    exact hgeneration heq
  rcases exec_bind_deny.1 h with ⟨hcompatible, h⟩ | ⟨hcompatible, -, rfl⟩
  rotate_left
  · refine .inr ⟨?_, rfl⟩
    rintro ⟨-, -, -, active', hsome, -, heq⟩
    cases hactive.symm.trans hsome
    rw [hcompatible] at heq
    cases heq
  refine .inl ⟨⟨hfrozen, Bool.not_eq_false _ ▸ hrole, Bool.not_eq_false _ ▸ hintegrity, active, hactive,
    not_not.1 hgeneration, Bool.not_eq_false _ ▸ hcompatible⟩, ?_⟩
  obtain ⟨registered, m, hregistered, h⟩ := exec_bind_ask.1 h
  have hpolicies : m.store.policies = w.store.policies.set
      (ControlPlaneStore.policyKey command.policyRevision.policyRef) command.policyRevision := by
    rw [(ControlPlaneWorld.answered_eq hregistered).2]
    simp [written, ControlPlaneStore.registerPolicy, hintegrity]
  refine (h.invariant (P := WritesOnly [.activeBindings, .events])
    (I := fun n => n.store.policies = m.store.policies) ?_ ?_ rfl).trans hpolicies
  · refine .bind asks_orThrow fun _ => .bind (asks_ask (by simp)) fun _ => .bind asks_checked fun _ => ?_
    refine .bind (asks_ask (by simp)) fun _ => .bind (asks_ask (by simp)) fun _ => ?_
    exact .bind (asks_logEvent (by simp) (by simp)) fun _ => .bind (asks_ask (by simp)) fun _ => trivial
  · intro s r resp t hwrites hanswer hs
    have hpart : StorePart.policies ∉ r.writes := fun hmem => by simpa using hwrites hmem
    exact Eq.trans (r.answers_frame hanswer hpart) hs

def KeepsPolicy (hashes : ContentHashes) (revision : PolicyRevision) (store : ControlPlaneStore) :
    ControlPlaneCall → Prop
  | .activatePolicyRevision command => RegistersPolicy hashes store command →
      ControlPlaneStore.policyKey command.policyRevision.policyRef =
          ControlPlaneStore.policyKey revision.policyRef →
        command.policyRevision = revision
  | _ => True

theorem ControlPlaneCall.step_answersPolicy_iff {revision : PolicyRevision} {call : ControlPlaneCall}
    (h : call.Step host port w w') (hw : AnswersPolicy host.toContentHashes revision w.store) :
    AnswersPolicy host.toContentHashes revision w'.store ↔
      KeepsPolicy host.toContentHashes revision w.store call := by
  have hsame : w'.store.policies = w.store.policies → AnswersPolicy host.toContentHashes revision w'.store := by
    intro heq
    rw [answersPolicy_iff, heq]
    exact answersPolicy_iff.1 hw
  cases call with
  | activatePolicyRevision command =>
      obtain ⟨_, hcall⟩ := h
      obtain ⟨out, hexec⟩ := exec_of_dropped hcall
      rcases activatePolicyRevision_cases hexec with ⟨hregisters, heq⟩ | ⟨hrefused, heq⟩
      · rw [answersPolicy_iff, heq, OrdMap.get?_set]
        by_cases hkey : ControlPlaneStore.policyKey command.policyRevision.policyRef =
            ControlPlaneStore.policyKey revision.policyRef
        · simp only [hkey, if_true, KeepsPolicy, Option.some.injEq, hregisters, true_implies]
          exact and_iff_left (answersPolicy_iff.1 hw).2
        · refine iff_of_true ?_ fun _ heq => absurd heq hkey
          rw [if_neg (Ne.symm hkey)]
          exact answersPolicy_iff.1 hw
      · exact iff_of_true (hsame heq) fun hregisters => absurd hregisters hrefused
  | _ => exact iff_of_true (hsame (step_frame h (show StorePart.policies ∉ _ by simp [parts, commitParts]))) trivial

/-- From a state that reads the policy back, all states of a run of calls read it back if and only if every
activation that registers a policy under its key registers the same revision. -/
theorem registered_policy_stays_iff {R : Type} (host : ControlPlaneHost) (port : RuntimePort R)
    (revision : PolicyRevision) (w : ControlPlaneWorld R) (calls : List ControlPlaneCall)
    (hw : AnswersPolicy host.toContentHashes revision w.store) :
    (∀ pre post m, calls = pre ++ post →
        Run (fun w call w' => ControlPlaneCall.Step host port w call w') w pre m →
          AnswersPolicy host.toContentHashes revision m.store) ↔
      Run.Every (fun w call w' => ControlPlaneCall.Step host port w call w')
        (fun m call _ => KeepsPolicy host.toContentHashes revision m.store call) w calls :=
  Run.forall_states_iff (I := fun m : ControlPlaneWorld R => AnswersPolicy host.toContentHashes revision m.store) hw
    fun _ _ _ hstep hm => ControlPlaneCall.step_answersPolicy_iff hstep hm

/-! ## A policy that is replaced -/

def samplePolicy (rules : List PolicyRule) : PolicyRevision :=
  { policyRef := { policyId := "default", revisionId := "1", digest := toString rules.length }
    compatibleSchemaRefs := [sampleBinding.schemaRef]
    rules
    canonicalDigest := toString rules.length
    createdBy := "ada"
    createdAt := "0" }

def allowEverything : PolicyRule :=
  { ruleId := "allow", principalRole := none, operationTypeId := none, templateRevision := none, decision := .allow }

def sampleActivation (rules : List PolicyRule) (expectedBindingGeneration : Nat) : ControlPlaneCall :=
  .activatePolicyRevision
    { context := sampleAdministrator "ada"
      policyRevision := samplePolicy rules
      activationDomainId := sampleBinding.activationDomainId
      expectedBindingGeneration
      activatedAt := "1" }

def policyWorld : ControlPlaneWorld Unit :=
  (idleRuntime.calls? sampleHost (sampleWorld ()) [sampleActivation [] 0]).getD (sampleWorld ())

theorem registered_policy_stays_iff_sample :
    (∀ pre post m, [ControlPlaneCall.setFrozen true] = pre ++ post →
        Run (fun w call w' => ControlPlaneCall.Step sampleHost idleRuntime.toPort w call w') policyWorld pre m →
          AnswersPolicy sampleHost.toContentHashes (samplePolicy []) m.store) ↔
      Run.Every (fun w call w' => ControlPlaneCall.Step sampleHost idleRuntime.toPort w call w')
        (fun m call _ => KeepsPolicy sampleHost.toContentHashes (samplePolicy []) m.store call) policyWorld
        [.setFrozen true] :=
  registered_policy_stays_iff sampleHost idleRuntime.toPort (samplePolicy []) policyWorld [.setFrozen true]
    (by unfold AnswersPolicy; decide +kernel)

/-- An activation of other rules under the same policy id and revision id replaces the policy: under the
reference of the one that was registered nothing is read any more. -/
theorem activated_policy_replaced :
    ¬ ∀ (host : ControlPlaneHost) (port : RuntimePort Unit) (revision : PolicyRevision) (w : ControlPlaneWorld Unit)
        (calls : List ControlPlaneCall), AnswersPolicy host.toContentHashes revision w.store →
      ∀ pre post m, calls = pre ++ post →
        Run (fun w call w' => ControlPlaneCall.Step host port w call w') w pre m →
          AnswersPolicy host.toContentHashes revision m.store := by
  intro hall
  have hreplaced : (idleRuntime.calls? sampleHost policyWorld [sampleActivation [allowEverything] 1]).map
      (fun m : ControlPlaneWorld Unit => m.store.getPolicy sampleHost.toContentHashes (samplePolicy []).policyRef) = some (.ok none) := by
    decide +kernel
  obtain ⟨m, hrun, hm⟩ := Option.map_eq_some_iff.1 hreplaced
  have hstays := hall sampleHost idleRuntime.toPort (samplePolicy []) policyWorld _
    (by unfold AnswersPolicy; decide +kernel) _ [] m (List.append_nil _).symm (idleRuntime.run_of_calls? hrun)
  rw [AnswersPolicy, hm] at hstays
  cases hstays

end Cantilune
