import Cantilune.ControlPlane.Calls
import Cantilune.Runtime.Durable

/-!
# Administration of epochs

Preparing, committing and recovering transitions to another epoch. What is prepared and what was committed is kept in
memory; head and active binding are durable. A call that prepares waits once, for the activation point to be inspected,
and everything else may happen meanwhile; the other calls do not wait.
-/

namespace Cantilune

structure EpochAdministrationHost where
  domainId : ActivationDomainId
  preparationTtlMs : Int
  toISOString : Int → Timestamp
  dateParse : Timestamp → Option Int
  schemaContentDigest : OrchestrationSchema → String
  localeCompare : LocaleCompare
  printNumber : JsNumber → String

/-- The services as they answer during one call. -/
structure EpochReadings where
  now : Int
  heldLockCount : Nat
  activeCount : Nat
  resolveSchema : SchemaRef → Option OrchestrationSchema

/-! ## What it keeps -/

structure PreparedRecord where
  request : EpochTransitionRequest
  prepared : PreparedEpochTransition
  afterRef : SnapshotRef
  toBinding : SchemaEpochBinding
  targetSchema : OrchestrationSchema
  targetContext : ActiveSchemaContext

structure CommittedJournalEntry where
  receipt : RuntimeEpochReceipt
  prepared : PreparedEpochTransition
  request : EpochTransitionRequest
  targetSchema : OrchestrationSchema

structure RuntimeActivationState where
  domainId : ActivationDomainId
  binding : SchemaEpochBinding
  head : SnapshotRef
  snapshot : CollaborationSnapshot
  resourcesClear : Bool
  sessionsQuiescent : Bool
  activeAdmissions : Nat

/-- A call that waits for its inspection, which is made. -/
structure PendingPreparation where
  request : EpochTransitionRequest
  inspect : Except RuntimeViolation RuntimeActivationState

/-- The maps of one instance, the holders it was given, and the durable coordinator. -/
structure EpochWorld where
  durable : MemoryDurableCoordinator
  schemaHolder : ActiveSchemaContext
  bindingHolder : SchemaEpochBinding
  prepared : OrdMap String PreparedRecord
  committed : OrdMap SchemaAdmissionId CommittedJournalEntry
  pending : List PendingPreparation

/-- The world with a new instance, whose maps are empty. -/
def EpochWorld.restarted (w : EpochWorld) (schemaHolder : ActiveSchemaContext) (bindingHolder : SchemaEpochBinding) :
    EpochWorld :=
  { durable := w.durable, schemaHolder, bindingHolder, prepared := .empty, committed := .empty, pending := [] }

/-! ## Checks -/

def runtimeViolation (code : RuntimeViolationCode) (message : String) : RuntimeViolation := { code, message }

def violatedIf (condition : Prop) [Decidable condition] (violation : RuntimeViolation) : Option RuntimeViolation :=
  if condition then some violation else none

def templateKey (operationTypeId : OperationTypeId) (revision : String) : String := operationTypeId ++ "@" ++ revision

/-- The first template whose identity is inconsistent or was seen before. -/
def templateViolation (templateKeys : List String) : List OperationTemplate → Option RuntimeViolation
  | [] => none
  | template :: templates =>
      let key := templateKey template.operationTypeId template.templateRef.revision
      if template.templateRef.operationTypeId ≠ template.operationTypeId then
        some { code := .admissionRejected, message := "resolved schema template identity is inconsistent"
               path := some s!"schema.templates.{template.operationTypeId}" }
      else if key ∈ templateKeys then
        some { code := .admissionRejected, message := "resolved schema contains duplicate template"
               path := some s!"schema.templates.{key}" }
      else templateViolation (key :: templateKeys) templates

def operationViolation (templateKeys : List String) (entry : OperationTypeId × OperationTypeDeclaration) :
    Option RuntimeViolation :=
  let (operationTypeId, declaration) := entry
  if declaration.operationTypeId ≠ operationTypeId ∨ declaration.templateRef.operationTypeId ≠ operationTypeId then
    some { code := .admissionRejected
           message := "resolved schema operation declaration identity is inconsistent"
           operationTypeId := some operationTypeId, path := some s!"schema.operationTypes.{operationTypeId}" }
  else if templateKey operationTypeId declaration.templateRef.revision ∉ templateKeys then
    some { code := .templateNotFound
           message := "resolved schema operation declaration has no matching template"
           operationTypeId := some operationTypeId
           path := some s!"schema.operationTypes.{operationTypeId}.templateRef" }
  else none

variable (host : EpochAdministrationHost)

def validateResolvedSchema (ref : SchemaRef) (schema : OrchestrationSchema) : Option RuntimeViolation :=
  let actualDigest := host.schemaContentDigest schema
  let templateKeys := schema.templates.map fun t => templateKey t.operationTypeId t.templateRef.revision
  ((((violatedIf (schema.schemaId ≠ ref.schemaId)
    { code := .templateNotFound, message := "resolved schema id does not match target ref"
      expected := some ref.schemaId, actual := some schema.schemaId, path := some "targetSchemaRef.schemaId" }).or
  (violatedIf (actualDigest ≠ ref.digest)
    { code := .admissionRejected, message := "resolved schema digest does not match target ref"
      expected := some ref.digest, actual := some actualDigest, path := some "targetSchemaRef.digest" })).or
  (violatedIf (¬ (schema.wireVersion.safeNat?.any fun n => 1 ≤ n) = true)
    { code := .admissionRejected, message := "resolved schema has invalid wire version"
      actual := some (host.printNumber schema.wireVersion), path := some "schema.wireVersion" })).or
  (templateViolation [] schema.templates)).or
  (schema.operationTypes.entries.findSome? (operationViolation templateKeys))

def sortedMapEntries {V : Type} (map : OrdMap String V) : List (String × V) :=
  map.entries.insertionSort fun a b => host.localeCompare a.1 b.1 ≤ 0

/-- The same metadata, in whatever order. -/
def metadataEqual (left right : OrdMap String String) : Bool :=
  left.keys.length = right.keys.length && left.keys.all fun key => left.get? key = right.get? key

def objectTypesEqual (left right : String × ObjectTypeDeclaration) : Bool :=
  left.1 = right.1 && left.2.objectTypeId = right.2.objectTypeId && left.2.structuralMode = right.2.structuralMode &&
    left.2.codecRef = right.2.codecRef && left.2.description = right.2.description &&
    metadataEqual left.2.metadata right.2.metadata

def entriesEqual {V : Type} (equal : String × V → String × V → Bool) : List (String × V) → List (String × V) → Bool
  | [], [] => true
  | a :: as, b :: bs => equal a b && entriesEqual equal as bs
  | _, _ => false

def schemasEqual (left right : OrchestrationSchema) : Bool :=
  left.schemaId = right.schemaId && left.wireVersion = right.wireVersion &&
    entriesEqual objectTypesEqual (sortedMapEntries host left.objectTypes) (sortedMapEntries host right.objectTypes) &&
    sortedMapEntries host left.operationTypes = sortedMapEntries host right.operationTypes &&
    left.templates = right.templates && left.resourceRules = right.resourceRules

def sessionsQuiescent (snapshot : CollaborationSnapshot) : Bool := snapshot.sessions.entries = []

def EpochReadings.resourcesClear (readings : EpochReadings) : Bool := readings.heldLockCount = 0

def validatePrepareState (state : RuntimeActivationState) (request : EpochTransitionRequest) :
    Option RuntimeViolation :=
  (((((((((violatedIf (state.head ≠ request.expectedHead)
    (runtimeViolation .replayMismatch "runtime head changed during prepare")).or
  (violatedIf (state.binding.bindingGeneration ≠ request.expectedBindingGeneration)
    (runtimeViolation .resourceConflict "stale binding generation"))).or
  (violatedIf (state.snapshot.epochId ≠ request.expectedEpochId)
    (runtimeViolation .resourceConflict "expected epoch mismatch"))).or
  (violatedIf (state.binding.epochId ≠ request.expectedEpochId)
    (runtimeViolation .resourceConflict "active binding epoch mismatch"))).or
  (violatedIf (state.binding.epochOrdinal ≠ request.expectedEpochOrdinal)
    (runtimeViolation .resourceConflict "expected epoch ordinal mismatch"))).or
  (violatedIf (state.resourcesClear = false) (runtimeViolation .resourceConflict "resources not clear"))).or
  (violatedIf (state.sessionsQuiescent = false) (runtimeViolation .resourceConflict "sessions not quiescent"))).or
  (violatedIf (state.activeAdmissions ≠ 0)
    (runtimeViolation .resourceConflict "active admissions prevent epoch prepare"))).or
  (violatedIf (request.targetEpochOrdinal ≤ state.binding.epochOrdinal)
    (runtimeViolation .resourceConflict "epoch ordinal must advance"))).or
  (violatedIf (request.targetEpochId = state.binding.epochId)
    (runtimeViolation .resourceConflict "target epoch id must advance"))

def validateCommitState (readings : EpochReadings) (record : PreparedRecord) (before : CollaborationSnapshot)
    (currentBinding : SchemaEpochBinding) : Option RuntimeViolation :=
  (((violatedIf (currentBinding.bindingGeneration ≠ record.request.expectedBindingGeneration)
    (runtimeViolation .resourceConflict "binding changed before commit")).or
  (violatedIf (currentBinding.epochId ≠ record.request.expectedEpochId ∨
      currentBinding.epochOrdinal ≠ record.request.expectedEpochOrdinal ∨
      before.epochId ≠ record.request.expectedEpochId)
    (runtimeViolation .resourceConflict "epoch changed before commit"))).or
  (violatedIf (readings.resourcesClear = false ∨ readings.activeCount ≠ 0)
    (runtimeViolation .resourceConflict "runtime is not quiescent at commit"))).or
  (violatedIf (sessionsQuiescent before = false)
    (runtimeViolation .resourceConflict "sessions not quiescent at commit"))

/-- What is against the schema that the resolver gives for the target, now that it is to be committed. -/
def resolveUnchangedTargetSchema (readings : EpochReadings) (record : PreparedRecord) : Option RuntimeViolation :=
  match readings.resolveSchema record.request.targetSchemaRef with
  | none => some (runtimeViolation .templateNotFound "target schema missing at commit")
  | some targetSchema =>
      (validateResolvedSchema host record.request.targetSchemaRef targetSchema).or
        (violatedIf (schemasEqual host targetSchema record.targetSchema = false)
          (runtimeViolation .admissionRejected "target schema changed after prepare"))

def pruneExpiredPreparations (now : Int) (prepared : OrdMap String PreparedRecord) : OrdMap String PreparedRecord :=
  prepared.entries.foldl (fun kept entry =>
    if (host.dateParse entry.2.prepared.expiresAt).any fun expiresAt => expiresAt < now then kept.delete entry.1
    else kept) prepared

def EpochWorld.pruned (w : EpochWorld) (now : Int) : EpochWorld :=
  { w with prepared := pruneExpiredPreparations host now w.prepared }

def inspectActivationPoint (readings : EpochReadings) (w : EpochWorld) (domainId : ActivationDomainId) :
    Except RuntimeViolation RuntimeActivationState × EpochWorld :=
  let w := w.pruned host readings.now
  if domainId ≠ host.domainId then (.error (runtimeViolation .resourceConflict "unknown activation domain"), w)
  else
    match w.durable.store.headRef with
    | none => (.error (runtimeViolation .replayMismatch "runtime head missing"), w)
    | some headRef =>
        match w.durable.store.get headRef with
        | none => (.error (runtimeViolation .replayMismatch "head snapshot missing"), w)
        | some snapshot =>
            (.ok
              { domainId, binding := w.bindingHolder, head := headRef, snapshot
                resourcesClear := readings.resourcesClear, sessionsQuiescent := sessionsQuiescent snapshot
                activeAdmissions := readings.activeCount + w.prepared.entries.length }, w)

/-- The part before the wait: an answer, or one more call that waits. The first clock reading is `pruneAt`. -/
def prepareEpochTransition (pruneAt : Int) (readings : EpochReadings) (w : EpochWorld)
    (request : EpochTransitionRequest) : Option (Except RuntimeViolation PreparedEpochTransition) × EpochWorld :=
  let w := w.pruned host pruneAt
  match w.prepared.get? ("prep-" ++ request.admissionId) with
  | some existingPrepared =>
      if existingPrepared.request = request then (some (.ok existingPrepared.prepared), w)
      else (some (.error (runtimeViolation .admissionRejected "conflicting epoch preparation retry")), w)
  | none =>
      match w.committed.get? request.admissionId with
      | some existingCommit =>
          if existingCommit.request = request then (some (.ok existingCommit.prepared), w)
          else (some (.error (runtimeViolation .admissionRejected "conflicting committed epoch retry")), w)
      | none =>
          let (inspect, w) := inspectActivationPoint host readings w request.domainId
          (none, { w with pending := w.pending ++ [{ request, inspect }] })

def preparedRecord (now : Int) (currentBinding : SchemaEpochBinding) (request : EpochTransitionRequest)
    (targetSchema : OrchestrationSchema) (afterRef : SnapshotRef) : PreparedRecord :=
  let toBinding : SchemaEpochBinding :=
    { currentBinding with
      bindingGeneration := currentBinding.bindingGeneration + 1
      epochId := request.targetEpochId
      epochOrdinal := request.targetEpochOrdinal
      schemaRef := request.targetSchemaRef
      runtimeHead := afterRef
      admissionId := request.admissionId
      previousBindingGeneration := some currentBinding.bindingGeneration
      activatedBy := "runtime-epoch-admin"
      activatedAt := host.toISOString now }
  { request
    prepared :=
      { preparedId := "prep-" ++ request.admissionId, planDigest := request.planDigest
        issuedAt := host.toISOString now, expiresAt := host.toISOString (now + host.preparationTtlMs) }
    afterRef, toBinding, targetSchema
    targetContext := { epochId := request.targetEpochId, schema := targetSchema, binding := some toBinding } }

/-- The part after the wait; `afterRef` is what the id generator gives. -/
def resumePrepare (readings : EpochReadings) (afterRef : SnapshotRef) (w : EpochWorld)
    (pending : PendingPreparation) : Except RuntimeViolation PreparedEpochTransition × EpochWorld :=
  match pending.inspect with
  | .error violation => (.error violation, w)
  | .ok state =>
      match validatePrepareState state pending.request with
      | some violation => (.error violation, w)
      | none =>
          match readings.resolveSchema pending.request.targetSchemaRef with
          | none => (.error (runtimeViolation .templateNotFound "target schema not found"), w)
          | some targetSchema =>
              match validateResolvedSchema host pending.request.targetSchemaRef targetSchema with
              | some violation => (.error violation, w)
              | none =>
                  let record := preparedRecord host readings.now w.bindingHolder pending.request targetSchema afterRef
                  (.ok record.prepared, { w with prepared := w.prepared.set record.prepared.preparedId record })

/-! ## Commit -/

/-- The id without the `prep-` it starts with. -/
def admissionSuffix (preparedId : String) : SchemaAdmissionId :=
  if preparedId.startsWith "prep-" then (preparedId.drop 5).toString else preparedId

def receiptOf (record : PreparedRecord) (headRef : SnapshotRef) (currentBinding : SchemaEpochBinding) :
    RuntimeEpochReceipt :=
  { admissionId := record.request.admissionId, beforeSnapshotRef := headRef, afterSnapshotRef := record.afterRef
    fromBinding := currentBinding, toBinding := record.toBinding }

/-- The part of a commit from the head on. -/
def commitRecord (readings : EpochReadings) (w : EpochWorld) (record : PreparedRecord) (preparedId : String) :
    Except RuntimeViolation RuntimeEpochReceipt × EpochWorld :=
  if w.durable.store.headRef ≠ some record.request.expectedHead then
    (.error (runtimeViolation .replayMismatch "head changed before commit"), w)
  else
    match w.durable.store.get record.request.expectedHead with
    | none => (.error (runtimeViolation .replayMismatch "before snapshot missing"), w)
    | some before =>
        match (validateCommitState readings record before w.bindingHolder).or
            (resolveUnchangedTargetSchema host readings record) with
        | some violation => (.error violation, w)
        | none =>
            let after := snapshotWithAdvancedEpoch before record.afterRef record.request.targetEpochId
            if (validateSnapshotIntegrityResult after).isSome then
              (.error (runtimeViolation .commitAtomicFailed "epoch snapshot failed validation"), w)
            else
              let (swapped, durable) :=
                w.durable.compareAndSwapHeadWithBinding record.request.expectedHead after record.toBinding
              if swapped = false then (.error (runtimeViolation .commitAtomicFailed "CAS head failed"), w)
              else
                let receipt := receiptOf record record.request.expectedHead w.bindingHolder
                (.ok receipt,
                  { w with
                    durable, schemaHolder := record.targetContext, bindingHolder := record.toBinding
                    committed := w.committed.set record.request.admissionId
                      { receipt, prepared := record.prepared, request := record.request
                        targetSchema := record.targetSchema }
                    prepared := w.prepared.delete preparedId })

def commitEpochTransition (readings : EpochReadings) (w : EpochWorld) (token : PreparedEpochTransition) :
    Except RuntimeViolation RuntimeEpochReceipt × EpochWorld :=
  match w.prepared.get? token.preparedId with
  | none =>
      match w.committed.get? (admissionSuffix token.preparedId) with
      | some existing =>
          if existing.prepared = token then (.ok existing.receipt, w)
          else (.error (runtimeViolation .admissionRejected "prepared token not found"), w)
      | none => (.error (runtimeViolation .admissionRejected "prepared token not found"), w)
  | some record =>
      match w.committed.get? record.request.admissionId with
      | some prior => (.ok prior.receipt, w)
      | none =>
          if record.prepared ≠ token then
            (.error (runtimeViolation .admissionRejected "prepared token payload mismatch"), w)
          else if (host.dateParse record.prepared.expiresAt).any fun expiresAt => expiresAt < readings.now then
            (.error (runtimeViolation .admissionRejected "preparation expired"),
              { w with prepared := w.prepared.delete token.preparedId })
          else commitRecord host readings w record token.preparedId

/-! ## Recovery -/

def resolveRecoveryTargetSchema (resolveSchema : SchemaRef → Option OrchestrationSchema) (schemaRef : SchemaRef) :
    Except RuntimeViolation OrchestrationSchema :=
  match resolveSchema schemaRef with
  | none => .error (runtimeViolation .templateNotFound "target schema missing during recovery")
  | some schema =>
      match validateResolvedSchema host schemaRef schema with
      | some violation => .error violation
      | none => .ok schema

def headInEpoch (d : MemoryDurableCoordinator) (epochId : EpochId) : Option SnapshotRef :=
  match d.store.headRef with
  | none => none
  | some headRef =>
      match d.store.get headRef with
      | none => none
      | some head => if head.epochId = epochId then some headRef else none

def recoverFromDurableBinding (resolveSchema : SchemaRef → Option OrchestrationSchema) (w : EpochWorld)
    (admissionId : SchemaAdmissionId) : Except RuntimeViolation RuntimeEpochReceipt × EpochWorld :=
  match w.durable.activeBinding with
  | none => (.error (runtimeViolation .replayMismatch "no committed epoch transition to recover"), w)
  | some durableBinding =>
      if durableBinding.admissionId ≠ admissionId then
        (.error (runtimeViolation .replayMismatch
          "durable binding admission id does not match recovery request"), w)
      else
        match headInEpoch w.durable durableBinding.epochId with
        | none => (.error (runtimeViolation .replayMismatch "durable binding epoch is not the active head epoch"), w)
        | some headRef =>
            match resolveRecoveryTargetSchema host resolveSchema durableBinding.schemaRef with
            | .error violation => (.error violation, w)
            | .ok schema =>
                (.ok
                  { admissionId := durableBinding.admissionId, beforeSnapshotRef := durableBinding.runtimeHead
                    afterSnapshotRef := headRef, fromBinding := durableBinding, toBinding := durableBinding },
                  { w with
                    schemaHolder := { epochId := durableBinding.epochId, schema, binding := some durableBinding }
                    bindingHolder := durableBinding })

def recoverFromJournal (resolveSchema : SchemaRef → Option OrchestrationSchema) (w : EpochWorld)
    (entry : CommittedJournalEntry) : Except RuntimeViolation RuntimeEpochReceipt × EpochWorld :=
  let toBinding := entry.receipt.toBinding
  match headInEpoch w.durable toBinding.epochId with
  | none => (.error (runtimeViolation .replayMismatch "committed epoch snapshot is not active"), w)
  | some _ =>
      match resolveRecoveryTargetSchema host resolveSchema toBinding.schemaRef with
      | .error violation => (.error violation, w)
      | .ok schema =>
          if schemasEqual host schema entry.targetSchema = false then
            (.error (runtimeViolation .admissionRejected "target schema changed before recovery"), w)
          else
            (.ok entry.receipt,
              { w with
                schemaHolder := { epochId := toBinding.epochId, schema := entry.targetSchema, binding := some toBinding }
                bindingHolder := toBinding })

def recoverEpochTransition (resolveSchema : SchemaRef → Option OrchestrationSchema) (w : EpochWorld)
    (admissionId : SchemaAdmissionId) : Except RuntimeViolation RuntimeEpochReceipt × EpochWorld :=
  match w.committed.get? admissionId with
  | none => recoverFromDurableBinding host resolveSchema w admissionId
  | some entry => recoverFromJournal host resolveSchema w entry

end Cantilune
