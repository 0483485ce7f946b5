import Cantilune.Codec.Canonical
import Cantilune.Runtime.Handlers

/-!
# The replay verifier

Every change of a log is recomputed from its recipe and compared with the snapshot that the store holds
for it. `verify` replays under one schema context, `verifyResolved` under the context of each change's
epoch. Both run the same loop, which keeps for each step what was recomputed, and from what.
-/

namespace Cantilune

/-! ## Interfaces -/

structure DurableReader where
  get : SnapshotRef → Option CollaborationSnapshot
  since : SnapshotRef → List CoordinationChange
  recipeForChange : CoordinationChange → Option ReplayRecipe

structure ReplayVerifierDeps where
  durable : DurableReader
  handlers : OperationHandlerRegistry
  schemaContext : ActiveSchemaContext
  localeCompare : LocaleCompare

structure ReplayOptions where
  fromRef : SnapshotRef
  toRef : Option SnapshotRef
  changes : Option (List CoordinationChange)

structure ReplayStep where
  changeId : ChangeId
  beforeRef : SnapshotRef
  afterRef : SnapshotRef
  deriving DecidableEq

structure ReplayVerification where
  terminalRef : SnapshotRef
  terminal : CollaborationSnapshot
  steps : List ReplayStep
  deriving DecidableEq

/-- A violation that is reported, or an exception of a handler that passes through. -/
inductive ReplayFailure where
  | violation (v : RuntimeViolation)
  | thrown (v : RuntimeViolation)
  deriving DecidableEq, Repr

def orViolation {α : Type} (value : Option α) (v : RuntimeViolation) : Except ReplayFailure α :=
  match value with
  | some a => .ok a
  | none => .error (.violation v)

def violationIf (c : Prop) [Decidable c] (v : RuntimeViolation) : Except ReplayFailure Unit :=
  if c then .error (.violation v) else .ok ()

@[simp] theorem orViolation_eq_ok {α : Type} {value : Option α} {v : RuntimeViolation} {a : α} :
    orViolation value v = .ok a ↔ value = some a := by
  cases value <;> simp [orViolation]

@[simp] theorem violationIf_eq_ok {c : Prop} [Decidable c] {v : RuntimeViolation} {u : Unit} :
    violationIf c v = .ok u ↔ ¬ c := by
  unfold violationIf
  split <;> simp_all

/-! ## One change -/

def beforeRefMismatch (state : CollaborationSnapshot) (change : CoordinationChange) : RuntimeViolation :=
  { code := .replayMismatch
    message := "state ref " ++ state.snapshotRef ++ " !== change.beforeRef " ++ change.beforeRef
    path := some "beforeRef" }

/-- A refusal of the handler is a mismatch; an exception of its is left alone. -/
def replayResult (change : CoordinationChange) : ApplyResult → Except ReplayFailure Applied
  | .ok result => .ok result
  | .error (.refused reason) =>
      .error (.violation
        { code := .replayMismatch, message := reason, operationTypeId := some change.operationTypeId })
  | .error (.thrown v) => .error (.thrown v)

@[simp] theorem replayResult_eq_ok {change : CoordinationChange} {x : ApplyResult} {result : Applied} :
    replayResult change x = .ok result ↔ x = .ok result := by
  rcases x with (reason | v) | result <;> simp [replayResult]

/-- What the handler makes of the source snapshot, when all that the change says about it holds. -/
def recomputeChange (deps : ReplayVerifierDeps) (state : CollaborationSnapshot) (change : CoordinationChange)
    (schemaContext : ActiveSchemaContext) : Except ReplayFailure CollaborationSnapshot := do
  violationIf (state.snapshotRef ≠ change.beforeRef) (beforeRefMismatch state change)
  let recipe ← orViolation (deps.durable.recipeForChange change)
    { code := .replayMismatch, message := "missing recipe for " ++ change.changeId }
  violationIf (recipe.epochId ≠ change.epochId ∨ state.epochId ≠ change.epochId)
    { code := .replayMismatch, message := "change, recipe, and source epoch disagree"
      expected := some change.epochId, actual := some (recipe.epochId ++ "/" ++ state.epochId)
      path := some "epochId" }
  violationIf (schemaContext.epochId ≠ change.epochId)
    { code := .replayMismatch
      message := "active schema context does not match the historical change epoch"
      expected := some change.epochId, actual := some schemaContext.epochId
      path := some "schemaContext.epochId" }
  let revision := (recipe.templateRef.map (·.revision)).or (change.templateRef.map (·.revision))
  let template ← orViolation (schemaContext.getTemplate change.operationTypeId revision)
    { code := .templateNotFound
      message := "no template for " ++ change.operationTypeId ++ "@" ++ revision.getD "default"
      operationTypeId := some change.operationTypeId }
  let result ← replayResult change (applyRecipe state recipe deps.handlers { template })
  match validateSnapshotIntegrityResult result.after with
  | some cause =>
      .error (.violation
        { code := .replayMismatch, message := "recomputed snapshot invalid", cause := some cause })
  | none => .ok result.after

def compareWithStore (deps : ReplayVerifierDeps) (change : CoordinationChange)
    (recomputed : CollaborationSnapshot) : Except ReplayFailure CollaborationSnapshot :=
  match deps.durable.get change.afterRef with
  | none => .ok recomputed
  | some stored =>
      if snapshotsCanonicallyEqual deps.localeCompare recomputed stored then .ok stored
      else
        .error (.violation
          { code := .replayMismatch
            message := "recomputed snapshot differs from store at " ++ change.afterRef })

/-- Advances the state across observations and epochs that landed between two commits. -/
def bridgeUnloggedAdvance (deps : ReplayVerifierDeps) (state : CollaborationSnapshot)
    (change : CoordinationChange) : Except ReplayFailure CollaborationSnapshot :=
  if state.snapshotRef = change.beforeRef then .ok state
  else
    orViolation
      ((deps.durable.get change.beforeRef).filter fun stored =>
        isVerifiableUnloggedAdvance deps.localeCompare state stored)
      (beforeRefMismatch state change)

/-! ## The loop -/

/-- One step of a replay: the source it started from, and what the handler made of it. -/
structure ReplayedChange where
  source : CollaborationSnapshot
  change : CoordinationChange
  recomputed : CollaborationSnapshot

def ReplayedChange.step (r : ReplayedChange) : ReplayStep :=
  { changeId := r.change.changeId, beforeRef := r.change.beforeRef, afterRef := r.change.afterRef }

/-- Consecutive changes must continue one another, from position `index` of the log on. -/
def validateChangeChain (deps : ReplayVerifierDeps) (index : Nat) :
    List CoordinationChange → Except ReplayFailure Unit
  | previous :: current :: rest => do
      violationIf (changeContinuesChain deps.localeCompare previous current deps.durable.get = false)
        { code := .replayChainBroken, message := "invalid change chain"
          expected := some previous.afterRef, actual := some current.beforeRef
          path := some s!"changes[{index}].beforeRef" }
      validateChangeChain deps (index + 1) (current :: rest)
  | _ => .ok ()

section Loop
variable {Caches : Type} (deps : ReplayVerifierDeps)
  (contextFor : CoordinationChange → Caches → Except ReplayFailure (ActiveSchemaContext × Caches))
  (toRef : Option SnapshotRef)

/-- Replays the changes one after the other, up to the one that ends on `toRef`. -/
def replayChanges : CollaborationSnapshot → Caches → List CoordinationChange →
    Except ReplayFailure (CollaborationSnapshot × List ReplayedChange)
  | state, _, [] => .ok (state, [])
  | state, caches, change :: rest => do
      let source ← bridgeUnloggedAdvance deps state change
      let (schemaContext, caches) ← contextFor change caches
      let recomputed ← recomputeChange deps source change schemaContext
      let next ← compareWithStore deps change recomputed
      if toRef = some change.afterRef then .ok (next, [{ source, change, recomputed }])
      else do
        let (terminal, replayed) ← replayChanges next caches rest
        .ok (terminal, { source, change, recomputed } :: replayed)

def replayTerminalResult (state : CollaborationSnapshot) (replayed : List ReplayedChange) :
    Except ReplayFailure (CollaborationSnapshot × List ReplayedChange) := do
  violationIf (toRef.any fun ref => state.snapshotRef ≠ ref)
    { code := .replayMismatch
      message := "terminal " ++ state.snapshotRef ++ " !== expected " ++ toRef.getD "" }
  .ok (state, replayed)

end Loop

/-- A replay from the stored snapshot at `fromRef`, with what every step recomputed. -/
def replay {Caches : Type} (deps : ReplayVerifierDeps)
    (contextFor : CoordinationChange → Caches → Except ReplayFailure (ActiveSchemaContext × Caches))
    (caches : Caches) (options : ReplayOptions) :
    Except ReplayFailure (CollaborationSnapshot × List ReplayedChange) := do
  let state ← orViolation (deps.durable.get options.fromRef)
    { code := .replayChainBroken, message := "missing snapshot " ++ options.fromRef }
  let changes := options.changes.getD (deps.durable.since options.fromRef)
  validateChangeChain deps 1 changes
  let (terminal, replayed) ← replayChanges deps contextFor options.toRef state caches changes
  replayTerminalResult options.toRef terminal replayed

def replayVerification (terminal : CollaborationSnapshot) (replayed : List ReplayedChange) :
    ReplayVerification :=
  { terminalRef := terminal.snapshotRef, terminal, steps := replayed.map (·.step) }

def activeContextFor (deps : ReplayVerifierDeps) (_ : CoordinationChange) (_ : Unit) :
    Except ReplayFailure (ActiveSchemaContext × Unit) := .ok (deps.schemaContext, ())

def verifyReplaying (deps : ReplayVerifierDeps) (options : ReplayOptions) :
    Except ReplayFailure (CollaborationSnapshot × List ReplayedChange) :=
  replay deps (activeContextFor deps) () options

def verify (deps : ReplayVerifierDeps) (options : ReplayOptions) : Except ReplayFailure ReplayVerification := do
  let (terminal, replayed) ← verifyReplaying deps options
  .ok (replayVerification terminal replayed)

end Cantilune
