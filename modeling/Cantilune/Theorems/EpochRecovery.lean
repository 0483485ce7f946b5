import Cantilune.Runtime.EpochAdministration

/-!
# Recovery of receipts

An instance that has lost its receipts makes one up from the durable binding. It says that the transition began and
ended under that binding, which no transition does.
-/

namespace Cantilune

/-! ## Runs -/

inductive EpochCall where
  | durable (call : DurableCall)
  | inspect (readings : EpochReadings) (domainId : ActivationDomainId)
  | prepare (pruneAt : Int) (readings : EpochReadings) (request : EpochTransitionRequest)
  | resume (index : Nat) (readings : EpochReadings) (afterRef : SnapshotRef)
  | commit (readings : EpochReadings) (token : PreparedEpochTransition)
  | recover (resolveSchema : SchemaRef → Option OrchestrationSchema) (admissionId : SchemaAdmissionId)
  | restart (schemaHolder : ActiveSchemaContext) (bindingHolder : SchemaEpochBinding)

variable (host : EpochAdministrationHost)

def EpochWorld.call (w : EpochWorld) : EpochCall → EpochWorld
  | .durable call => { w with durable := (w.durable.call host.localeCompare call).2 }
  | .inspect readings domainId => (inspectActivationPoint host readings w domainId).2
  | .prepare pruneAt readings request => (prepareEpochTransition host pruneAt readings w request).2
  | .resume index readings afterRef =>
      match w.pending[index]? with
      | none => w
      | some pending =>
          (resumePrepare host readings afterRef { w with pending := w.pending.eraseIdx index } pending).2
  | .commit readings token => (commitEpochTransition host readings w token).2
  | .recover resolveSchema admissionId => (recoverEpochTransition host resolveSchema w admissionId).2
  | .restart schemaHolder bindingHolder => w.restarted schemaHolder bindingHolder

def EpochWorld.after (w : EpochWorld) (calls : List EpochCall) : EpochWorld := calls.foldl (EpochWorld.call host) w

def EpochWorld.start (durable : MemoryDurableCoordinator) (schemaHolder : ActiveSchemaContext)
    (bindingHolder : SchemaEpochBinding) : EpochWorld :=
  { durable, schemaHolder, bindingHolder, prepared := .empty, committed := .empty, pending := [] }

def ReceiptsRecovered (resolveSchema : SchemaRef → Option OrchestrationSchema) (w : EpochWorld)
    (calls : List EpochCall) : Prop :=
  ∀ pre readings token post receipt, calls = pre ++ .commit readings token :: post →
    (commitEpochTransition host readings (w.after host pre) token).1 = .ok receipt →
      ∀ schemaHolder bindingHolder recovered,
        (recoverEpochTransition host resolveSchema ((w.after host calls).restarted schemaHolder bindingHolder)
          receipt.admissionId).1 = .ok recovered →
            recovered = receipt

structure Recoverable (resolveSchema : SchemaRef → Option OrchestrationSchema) (durable : MemoryDurableCoordinator)
    (admissionId : SchemaAdmissionId) (binding : SchemaEpochBinding) (headRef : SnapshotRef)
    (schema : OrchestrationSchema) : Prop where
  active : durable.activeBinding = some binding
  admission : binding.admissionId = admissionId
  head : headInEpoch durable binding.epochId = some headRef
  resolved : resolveSchema binding.schemaRef = some schema
  valid : validateResolvedSchema host binding.schemaRef schema = none

def NoneRecoverable (resolveSchema : SchemaRef → Option OrchestrationSchema) (w : EpochWorld)
    (calls : List EpochCall) : Prop :=
  ∀ pre readings token post receipt, calls = pre ++ .commit readings token :: post →
    (commitEpochTransition host readings (w.after host pre) token).1 = .ok receipt →
      ∀ binding headRef schema,
        ¬ Recoverable host resolveSchema (w.after host calls).durable receipt.admissionId binding headRef schema

variable {host}

theorem recover_restarted_iff {resolveSchema : SchemaRef → Option OrchestrationSchema} {w : EpochWorld}
    {schemaHolder : ActiveSchemaContext} {bindingHolder : SchemaEpochBinding} {admissionId : SchemaAdmissionId}
    {recovered : RuntimeEpochReceipt} :
    (recoverEpochTransition host resolveSchema (w.restarted schemaHolder bindingHolder) admissionId).1 = .ok recovered ↔
      ∃ binding headRef schema,
        Recoverable host resolveSchema w.durable admissionId binding headRef schema ∧
          recovered = ⟨binding.admissionId, binding.runtimeHead, headRef, binding, binding⟩ := by
  constructor
  · intro h
    change (recoverFromDurableBinding host resolveSchema (w.restarted schemaHolder bindingHolder) admissionId).1 = _ at h
    unfold recoverFromDurableBinding resolveRecoveryTargetSchema at h
    split at h
    · cases h
    rename_i binding hactive
    split at h
    · cases h
    rename_i hadmission
    split at h
    · cases h
    rename_i headRef hhead
    split at h
    · cases h
    rename_i hschema
    split at hschema
    · cases hschema
    rename_i hresolved
    split at hschema
    · cases hschema
    rename_i hvalid
    cases hschema
    cases h
    exact ⟨binding, headRef, _, ⟨hactive, not_not.1 hadmission, hhead, hresolved, hvalid⟩, rfl⟩
  · rintro ⟨binding, headRef, schema, h, rfl⟩
    change (recoverFromDurableBinding host resolveSchema (w.restarted schemaHolder bindingHolder) admissionId).1 = _
    unfold recoverFromDurableBinding resolveRecoveryTargetSchema EpochWorld.restarted
    simp only [h.active, h.admission, h.head, h.resolved, h.valid, ne_eq, not_true_eq_false, if_false]

/-! ## What is prepared and committed -/

/-- A prepared transition goes to another epoch, and a committed one has gone from one binding to another. -/
structure TransitionsAdvance (w : EpochWorld) : Prop where
  prepared : ∀ key record, w.prepared.get? key = some record →
    record.toBinding.epochId = record.request.targetEpochId ∧
      record.request.targetEpochId ≠ record.request.expectedEpochId
  committed : ∀ admissionId entry, w.committed.get? admissionId = some entry →
    entry.receipt.fromBinding ≠ entry.receipt.toBinding

variable {w : EpochWorld}

theorem violatedIf_eq_none {condition : Prop} [Decidable condition] {violation : RuntimeViolation} :
    violatedIf condition violation = none ↔ ¬ condition := by
  simp [violatedIf]

theorem validatePrepareState_eq_none {state : RuntimeActivationState} {request : EpochTransitionRequest}
    (h : validatePrepareState state request = none) : request.targetEpochId ≠ request.expectedEpochId := by
  simp only [validatePrepareState, Option.or_eq_none_iff, violatedIf_eq_none] at h
  obtain ⟨⟨⟨⟨⟨⟨⟨-, hbinding⟩, -⟩, -⟩, -⟩, -⟩, -⟩, htarget⟩ := h
  rw [not_not] at hbinding
  rw [← hbinding]
  exact htarget

theorem get?_pruneExpiredPreparations {now : Int} {prepared : OrdMap String PreparedRecord} {key : String}
    {record : PreparedRecord} (h : (pruneExpiredPreparations host now prepared).get? key = some record) :
    prepared.get? key = some record := by
  unfold pruneExpiredPreparations at h
  generalize prepared.entries = entries at h
  induction entries generalizing prepared with
  | nil => exact h
  | cons entry entries ih =>
      have hget := ih h
      dsimp only at hget
      split at hget
      · rw [OrdMap.get?_delete] at hget
        split at hget
        · cases hget
        · exact hget
      · exact hget

theorem TransitionsAdvance.pruned (h : TransitionsAdvance w) (now : Int) : TransitionsAdvance (w.pruned host now) where
  prepared key record hget := h.prepared key record (get?_pruneExpiredPreparations hget)
  committed := h.committed

theorem TransitionsAdvance.inspect (h : TransitionsAdvance w) (readings : EpochReadings)
    (domainId : ActivationDomainId) : TransitionsAdvance (inspectActivationPoint host readings w domainId).2 := by
  unfold inspectActivationPoint
  dsimp only
  split
  · exact h.pruned readings.now
  split
  · exact h.pruned readings.now
  split
  · exact h.pruned readings.now
  · exact h.pruned readings.now

theorem TransitionsAdvance.prepare (h : TransitionsAdvance w) (pruneAt : Int) (readings : EpochReadings)
    (request : EpochTransitionRequest) :
    TransitionsAdvance (prepareEpochTransition host pruneAt readings w request).2 := by
  unfold prepareEpochTransition
  dsimp only
  split
  · split
    · exact h.pruned pruneAt
    · exact h.pruned pruneAt
  split
  · split
    · exact h.pruned pruneAt
    · exact h.pruned pruneAt
  · have hpruned : TransitionsAdvance (w.pruned host pruneAt) := h.pruned pruneAt
    have hinspected : TransitionsAdvance
        (inspectActivationPoint host readings (w.pruned host pruneAt) request.domainId).2 :=
      hpruned.inspect readings request.domainId
    exact ⟨hinspected.prepared, hinspected.committed⟩

theorem TransitionsAdvance.resume (h : TransitionsAdvance w) (readings : EpochReadings) (afterRef : SnapshotRef)
    (pending : PendingPreparation) : TransitionsAdvance (resumePrepare host readings afterRef w pending).2 := by
  unfold resumePrepare
  split
  · exact h
  split
  · exact h
  rename_i hvalid
  split
  · exact h
  split
  · exact h
  · refine ⟨fun key record hget => ?_, h.committed⟩
    rw [OrdMap.get?_set] at hget
    split at hget
    · cases hget
      exact ⟨rfl, validatePrepareState_eq_none hvalid⟩
    · exact h.prepared key record hget

theorem TransitionsAdvance.commitRecord (h : TransitionsAdvance w) {readings : EpochReadings} {record : PreparedRecord}
    {preparedId : String} (hrecord : record.toBinding.epochId = record.request.targetEpochId ∧
      record.request.targetEpochId ≠ record.request.expectedEpochId) :
    TransitionsAdvance (commitRecord host readings w record preparedId).2 ∧
      ∀ receipt, (Cantilune.commitRecord host readings w record preparedId).1 = .ok receipt →
        receipt.fromBinding ≠ receipt.toBinding := by
  unfold Cantilune.commitRecord
  split
  · exact ⟨h, fun _ heq => nomatch heq⟩
  split
  · exact ⟨h, fun _ heq => nomatch heq⟩
  split
  · exact ⟨h, fun _ heq => nomatch heq⟩
  rename_i before hbefore hvalid
  dsimp only
  split
  · exact ⟨h, fun _ heq => nomatch heq⟩
  split
  · exact ⟨h, fun _ heq => nomatch heq⟩
  have hbinding : w.bindingHolder ≠ record.toBinding := by
    intro heq
    have hstate := (Option.or_eq_none_iff.1 hvalid).1
    simp only [validateCommitState, Option.or_eq_none_iff, violatedIf_eq_none, not_or, not_not] at hstate
    obtain ⟨⟨⟨-, hepoch, -, -⟩, -⟩, -⟩ := hstate
    rw [heq, hrecord.1] at hepoch
    exact hrecord.2 hepoch
  refine ⟨⟨fun key prepared hget => ?_, fun id entry hget => ?_⟩, fun receipt heq => ?_⟩
  · rw [OrdMap.get?_delete] at hget
    split at hget
    · cases hget
    · exact h.prepared key prepared hget
  · rw [OrdMap.get?_set] at hget
    split at hget
    · cases hget
      exact hbinding
    · exact h.committed id entry hget
  · cases heq
    exact hbinding

theorem TransitionsAdvance.commit (h : TransitionsAdvance w) (readings : EpochReadings)
    (token : PreparedEpochTransition) :
    TransitionsAdvance (commitEpochTransition host readings w token).2 ∧
      ∀ receipt, (commitEpochTransition host readings w token).1 = .ok receipt →
        receipt.fromBinding ≠ receipt.toBinding := by
  unfold commitEpochTransition
  split
  · split
    · rename_i existing hexisting
      split
      · refine ⟨h, fun receipt heq => ?_⟩
        cases heq
        exact h.committed _ _ hexisting
      · exact ⟨h, fun _ heq => nomatch heq⟩
    · exact ⟨h, fun _ heq => nomatch heq⟩
  rename_i record hrecord
  split
  · rename_i prior hprior
    refine ⟨h, fun receipt heq => ?_⟩
    cases heq
    exact h.committed _ _ hprior
  split
  · exact ⟨h, fun _ heq => nomatch heq⟩
  split
  · refine ⟨⟨fun key prepared hget => ?_, h.committed⟩, fun _ heq => nomatch heq⟩
    rw [OrdMap.get?_delete] at hget
    split at hget
    · cases hget
    · exact h.prepared key prepared hget
  · exact h.commitRecord (h.prepared _ _ hrecord)

theorem TransitionsAdvance.recover (h : TransitionsAdvance w) (resolveSchema : SchemaRef → Option OrchestrationSchema)
    (admissionId : SchemaAdmissionId) :
    TransitionsAdvance (recoverEpochTransition host resolveSchema w admissionId).2 := by
  unfold recoverEpochTransition
  split
  · unfold recoverFromDurableBinding
    split
    · exact h
    split
    · exact h
    split
    · exact h
    split
    · exact h
    · exact ⟨h.prepared, h.committed⟩
  · unfold recoverFromJournal
    dsimp only
    split
    · exact h
    split
    · exact h
    split
    · exact h
    · exact ⟨h.prepared, h.committed⟩

theorem transitionsAdvance_start (durable : MemoryDurableCoordinator) (schemaHolder : ActiveSchemaContext)
    (bindingHolder : SchemaEpochBinding) : TransitionsAdvance (.start durable schemaHolder bindingHolder) where
  prepared _ _ hget := nomatch hget
  committed _ _ hget := nomatch hget

theorem TransitionsAdvance.call (h : TransitionsAdvance w) (call : EpochCall) : TransitionsAdvance (w.call host call) := by
  cases call with
  | durable call => exact ⟨h.prepared, h.committed⟩
  | inspect readings domainId => exact h.inspect readings domainId
  | prepare pruneAt readings request => exact h.prepare pruneAt readings request
  | resume index readings afterRef =>
      unfold EpochWorld.call
      dsimp only
      split
      · exact h
      · have hwaiting : TransitionsAdvance { w with pending := w.pending.eraseIdx index } := ⟨h.prepared, h.committed⟩
        exact hwaiting.resume readings afterRef _
  | commit readings token => exact (h.commit readings token).1
  | recover resolveSchema admissionId => exact h.recover resolveSchema admissionId
  | restart schemaHolder bindingHolder => exact transitionsAdvance_start w.durable schemaHolder bindingHolder

theorem TransitionsAdvance.after (h : TransitionsAdvance w) (calls : List EpochCall) :
    TransitionsAdvance (w.after host calls) := by
  induction calls generalizing w with
  | nil => exact h
  | cons call calls ih => exact ih (h.call call)

/-- In every run, the receipts of its commits are recovered, where one is, exactly if none is. -/
theorem receiptsRecovered_iff (host : EpochAdministrationHost) (durable : MemoryDurableCoordinator)
    (schemaHolder : ActiveSchemaContext) (bindingHolder : SchemaEpochBinding)
    (resolveSchema : SchemaRef → Option OrchestrationSchema) (calls : List EpochCall) :
    ReceiptsRecovered host resolveSchema (.start durable schemaHolder bindingHolder) calls ↔
      NoneRecoverable host resolveSchema (.start durable schemaHolder bindingHolder) calls := by
  constructor
  · intro h pre readings token post receipt hcalls hcommit binding headRef schema hrecoverable
    have hadvance := @TransitionsAdvance.after host _ (transitionsAdvance_start durable schemaHolder bindingHolder) pre
    have heq := h pre readings token post receipt hcalls hcommit schemaHolder bindingHolder _
      (recover_restarted_iff.2 ⟨binding, headRef, schema, hrecoverable, rfl⟩)
    apply (hadvance.commit readings token).2 receipt hcommit
    rw [← heq]
  · intro h pre readings token post receipt hcalls hcommit schemaHolder bindingHolder recovered hrecovered
    obtain ⟨binding, headRef, schema, hrecoverable, -⟩ := recover_restarted_iff.1 hrecovered
    exact absurd hrecoverable (h pre readings token post receipt hcalls hcommit binding headRef schema)

/-! ## A recovery right after the commit -/

def recoveryHost : EpochAdministrationHost where
  domainId := "domain"
  preparationTtlMs := 60000
  toISOString _ := "monday"
  dateParse _ := none
  schemaContentDigest _ := "digest"
  localeCompare _ _ := 0
  printNumber _ := ""

def recoverySchema : OrchestrationSchema := buildOrchestrationSchema "schema" [delegateTemplate]

def recoveryReadings : EpochReadings where
  now := 0
  heldLockCount := 0
  activeCount := 0
  resolveSchema _ := some recoverySchema

def firstBinding : SchemaEpochBinding :=
  { activationDomainId := "domain", bindingGeneration := 0, epochId := "e0", epochOrdinal := 0
    schemaRef := { schemaId := "schema", revisionId := "1", digest := "digest" }
    policyRef := { policyId := "genesis", revisionId := "1", digest := "0" }
    handlerManifestRef := { manifestId := "manifest", digest := "manifest" }
    runtimeHead := "s0", admissionId := "genesis", previousBindingGeneration := none, activatedBy := "ada"
    activatedAt := "sunday" }

def transitionRequest : EpochTransitionRequest :=
  { admissionId := "adm", domainId := "domain", expectedBindingGeneration := 0, expectedHead := "s0"
    expectedEpochId := "e0", expectedEpochOrdinal := 0
    targetSchemaRef := { schemaId := "schema", revisionId := "1", digest := "digest" }
    targetEpochId := "e1", targetEpochOrdinal := 1, planDigest := .text "plan" }

def transitionToken : PreparedEpochTransition :=
  { preparedId := "prep-adm", planDigest := .text "plan", issuedAt := "monday", expiresAt := "monday" }

def firstContext : ActiveSchemaContext := { epochId := "e0", schema := recoverySchema, binding := some firstBinding }

def secondBinding : SchemaEpochBinding :=
  (preparedRecord recoveryHost 0 firstBinding transitionRequest recoverySchema "s1").toBinding

/-- The transition from the first binding to the second, of which recovery says that it led from the second to the
second. -/
theorem receipt_not_recovered :
    ¬ ReceiptsRecovered recoveryHost (fun _ => some recoverySchema)
      (.start (.init (some (emptySnapshot "s0" "e0"))) firstContext firstBinding)
      [.prepare 0 recoveryReadings transitionRequest, .resume 0 recoveryReadings "s1",
        .commit recoveryReadings transitionToken] := by
  intro h
  have heq := h [.prepare 0 recoveryReadings transitionRequest, .resume 0 recoveryReadings "s1"] recoveryReadings
    transitionToken [] ⟨"adm", "s0", "s1", firstBinding, secondBinding⟩ rfl (by decide +kernel) firstContext firstBinding
    ⟨"adm", "s1", "s1", secondBinding, secondBinding⟩ (by decide +kernel)
  revert heq
  decide +kernel

end Cantilune
