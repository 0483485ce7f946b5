import Cantilune.Base.Outcomes
import Cantilune.Core.Change
import Cantilune.Core.Integrity

/-!
# The observation cut

A window of committed changes is read from the ports of a coordinator until two readings agree, and it is
checked: it starts at the reference asked for, ends at the head, follows on without a gap in one epoch, and
is what the run history recorded.
-/

namespace Cantilune

/-! ## Run histories -/

/-- One segment of a run history: an external observation or a committed rewrite. -/
inductive TraceSegment where
  | observation (entry : ObservationEntry)
  | rewrite (change : CoordinationChange)
  deriving DecidableEq

abbrev UnvalidatedTrace := List TraceSegment

/-- A trace that passed the checks of its order, its chain and its epochs. -/
structure ValidatedRunHistory where
  segments : List TraceSegment
  deriving DecidableEq

def TraceSegment.change? : TraceSegment → Option CoordinationChange
  | .rewrite change => some change
  | .observation _ => none

def TraceSegment.entry? : TraceSegment → Option ObservationEntry
  | .observation entry => some entry
  | .rewrite _ => none

def rewriteSegments (history : UnvalidatedTrace) : List CoordinationChange :=
  history.filterMap TraceSegment.change?

def observationSegments (history : UnvalidatedTrace) : List ObservationEntry :=
  history.filterMap TraceSegment.entry?

def neighbours (changes : List CoordinationChange) :
    List ((CoordinationChange × CoordinationChange) × Nat) :=
  (changes.zip changes.tail).zipIdx 1

def validateBeforeRefChainResult (changes : List CoordinationChange) : Option CoreViolation :=
  (neighbours changes).findSome? fun ((previous, current), i) =>
    failUnless (current.beforeRef = previous.afterRef)
      { code := .beforeRefChainBroken
        message := "beforeRef chain broken at " ++ current.changeId
        path := some s!"changes[{i}].beforeRef"
        expected := some previous.afterRef
        actual := some current.beforeRef }

def validateEpochConsistentResult (changes : List CoordinationChange) : Option CoreViolation :=
  match changes.head? with
  | none => none
  | some first =>
      changes.findSome? fun change =>
        failUnless (change.epochId = first.epochId)
          { code := .epochMismatch
            message := "epoch mismatch at " ++ change.changeId
            path := some "epochId"
            expected := some first.epochId
            actual := some change.epochId }

/-- The observations of a run are numbered from one. -/
def validateObservationSequence (history : UnvalidatedTrace) : Option CoreViolation :=
  ((observationSegments history).zipIdx 1).findSome? fun (entry, expected) =>
    failUnless (entry.sequenceNo = expected)
      { code := .observationSequenceInvalid
        message := s!"expected observation sequence {expected}, got {entry.sequenceNo}"
        expected := some (toString expected)
        actual := some (toString entry.sequenceNo) }

/-! ## What a reading can end with -/

inductive ReadOnlyViolationCode where
  | invalidInput | deriveFailed | crossViewMismatch | snapshotUnavailable
  deriving DecidableEq, Repr

structure ReadOnlyViolation where
  code : ReadOnlyViolationCode
  message : String
  path : Option String := none
  deriving DecidableEq, Repr

/-- What is thrown: a violation of the observability side, one of the core, or a plain error. -/
inductive ObservationError where
  | readOnly (violation : ReadOnlyViolation)
  | core (violation : CoreViolation)
  | error (message : String)
  deriving DecidableEq, Repr

abbrev Observed := Except ObservationError

def throwCore : Option CoreViolation → Observed Unit
  | none => .ok ()
  | some violation => .error (.core violation)

def throwUnless (c : Prop) [Decidable c] (violation : ReadOnlyViolation) : Observed Unit :=
  if c then .ok () else .error (.readOnly violation)

def invalidInput (message path : String) : ReadOnlyViolation :=
  { code := .invalidInput, message, path := some path }

@[simp] theorem throwCore_eq_ok {violation : Option CoreViolation} {u : Unit} :
    throwCore violation = .ok u ↔ violation = none := by
  cases violation <;> simp [throwCore]

@[simp] theorem throwUnless_eq_ok {c : Prop} [Decidable c] {violation : ReadOnlyViolation} {u : Unit} :
    throwUnless c violation = .ok u ↔ c := by
  unfold throwUnless
  split <;> simp_all

/-- The promotion of a trace whose observations are in order and whose rewrites form a chain in one epoch. -/
def validateRunHistory (history : UnvalidatedTrace) : Observed ValidatedRunHistory := do
  throwCore (validateObservationSequence history)
  let changes := rewriteSegments history
  if changes.length > 0 then
    throwCore (validateBeforeRefChainResult changes)
    throwCore (validateEpochConsistentResult changes)
  return { segments := history }

/-! ## The checks of a cut -/

structure ObservationInput where
  headRef : SnapshotRef
  sinceRef : SnapshotRef
  snapshot : CollaborationSnapshot
  changes : List CoordinationChange
  validatedHistory : ValidatedRunHistory
  deriving DecidableEq

def validateHeadAlignment (sinceRef headRef : SnapshotRef) (snapshot : CollaborationSnapshot)
    (changes : List CoordinationChange) : Observed Unit := do
  throwUnless (snapshot.snapshotRef = headRef)
    (invalidInput ("head snapshot ref " ++ headRef ++ " does not match provided snapshot " ++
      snapshot.snapshotRef) "headRef")
  throwUnless (¬ (changes.length = 0 ∧ sinceRef ≠ headRef))
    (invalidInput ("empty change window requires sinceRef === headRef (" ++ sinceRef ++ " !== " ++ headRef ++
      ")") "sinceRef")

def validateChangeChainBounds (sinceRef headRef : SnapshotRef) (changes : List CoordinationChange) :
    Observed Unit :=
  match changes.head?, changes.getLast? with
  | some first, some last => do
      throwUnless (first.beforeRef = sinceRef)
        (invalidInput ("first change beforeRef " ++ first.beforeRef ++ " !== sinceRef " ++ sinceRef) "sinceRef")
      throwUnless (last.afterRef = headRef)
        (invalidInput ("last change afterRef " ++ last.afterRef ++ " !== headRef " ++ headRef) "headRef")
  | _, _ => .ok ()

def validateChangeChainContinuity (changes : List CoordinationChange) : Observed Unit :=
  match (neighbours changes).find? fun e => e.1.2.beforeRef ≠ e.1.1.afterRef with
  | none => .ok ()
  | some ((prior, current), _) =>
      .error (.readOnly (invalidInput ("change chain gap at " ++ current.changeId ++ ": beforeRef " ++
        current.beforeRef ++ " !== prior afterRef " ++ prior.afterRef) "changes"))

def validateChangeEpochs (snapshot : CollaborationSnapshot) (changes : List CoordinationChange) :
    Observed Unit :=
  match changes.find? fun change => change.epochId ≠ snapshot.epochId with
  | none => .ok ()
  | some change =>
      .error (.readOnly (invalidInput ("change " ++ change.changeId ++ " epoch " ++ change.epochId ++
        " !== head snapshot epoch " ++ snapshot.epochId) "epochId"))

def uniqueChangeIds (changes : List CoordinationChange) : Bool :=
  (changes.map (·.changeId)).Nodup

/-- The window from the reference asked for to the head is closed, and in the epoch of the head. -/
def validateObservationCut (input : ObservationInput) : Observed Unit := do
  let { sinceRef, headRef, snapshot, changes, .. } := input
  validateHeadAlignment sinceRef headRef snapshot changes
  if changes.length = 0 then return ()
  throwUnless (uniqueChangeIds changes) (invalidInput "duplicate changeId in observation window" "changes")
  validateChangeChainBounds sinceRef headRef changes
  validateChangeChainContinuity changes
  throwCore (validateBeforeRefChainResult changes)
  throwCore (validateEpochConsistentResult changes)
  validateChangeEpochs snapshot changes

def assertHistoryMatchesWindow (validated : ValidatedRunHistory) (changes : List CoordinationChange) :
    Observed Unit := do
  let historyChanges := rewriteSegments validated.segments
  throwUnless (historyChanges.length = changes.length)
    (invalidInput s!"runHistory rewrite count {historyChanges.length} !== window change count {changes.length}"
      "validatedHistory")
  match ((changes.zip historyChanges).zipIdx).find? fun e => e.1.1.changeId ≠ e.1.2.changeId with
  | none => return ()
  | some ((windowChange, historyChange), index) =>
      throw (.readOnly (invalidInput ("runHistory changeId " ++ historyChange.changeId ++ " !== window changeId " ++
        windowChange.changeId ++ " at index " ++ toString index) "validatedHistory"))

def resolveValidatedHistory (rawHistory : Option UnvalidatedTrace) (changes : List CoordinationChange) :
    Observed ValidatedRunHistory :=
  if changes.length > 0 then
    match rawHistory with
    | none =>
        .error (.readOnly (invalidInput "runHistory port required for non-empty observation window" "runHistory"))
    | some rawHistory => do
        let validatedHistory ← validateRunHistory rawHistory
        assertHistoryMatchesWindow validatedHistory changes
        return validatedHistory
  else
    match rawHistory with
    | some rawHistory => validateRunHistory rawHistory
    | none => validateRunHistory []

/-! ## Reading the ports -/

/-- What the ports answer at one instant. -/
structure ObservationReadPorts where
  head : Option SnapshotRef
  getSnapshot : SnapshotRef → Option CollaborationSnapshot
  changesSince : SnapshotRef → List CoordinationChange
  runHistory : Option UnvalidatedTrace

structure CutSample where
  headRef : SnapshotRef
  snapshot : CollaborationSnapshot
  changes : List CoordinationChange

/-- What two readings are compared by. -/
def cutFingerprint (headRef : SnapshotRef) (snapshot : CollaborationSnapshot) (changes : List CoordinationChange) :
    SnapshotRef × SnapshotRef × EpochId × List ChangeId × Option SnapshotRef :=
  (headRef, snapshot.snapshotRef, snapshot.epochId, changes.map (·.changeId),
    changes.getLast?.map (·.afterRef))

/-- Two readings in a row; nothing where they do not agree. The argument of the ports counts the reads. -/
def readStableCutSample (ports : Nat → ObservationReadPorts) (sinceRef : SnapshotRef) :
    Observed (Option CutSample) :=
  match (ports 0).head with
  | none => .error (.readOnly (invalidInput "head snapshot ref unavailable" "headRef"))
  | some headRefA =>
      match (ports 1).getSnapshot headRefA with
      | none => .error (.readOnly (invalidInput ("head snapshot " ++ headRefA ++ " unavailable") "snapshot"))
      | some snapshotA =>
          let changesA := (ports 2).changesSince sinceRef
          if (ports 3).head ≠ some headRefA then .ok none
          else
            match (ports 4).getSnapshot headRefA with
            | none => .ok none
            | some snapshotB =>
                let changesB := (ports 5).changesSince sinceRef
                if (ports 6).head ≠ some headRefA then .ok none
                else if cutFingerprint headRefA snapshotA changesA ≠ cutFingerprint headRefA snapshotB changesB
                then .ok none
                else .ok (some { headRef := headRefA, snapshot := snapshotB, changes := changesB })

def defaultCutAttempts : Nat := 8

/-- The attempts that are left; each makes up to eight reads. -/
def readObservationCutAttempts (maxAttempts : Nat) (sinceRef : SnapshotRef) :
    Nat → (Nat → ObservationReadPorts) → Observed ObservationInput
  | 0, _ =>
      .error (.readOnly (invalidInput s!"observation cut unstable after {maxAttempts} attempts" "cut"))
  | attempts + 1, ports => do
      match ← readStableCutSample ports sinceRef with
      | none => readObservationCutAttempts maxAttempts sinceRef attempts fun read => ports (8 + read)
      | some sample =>
          let validatedHistory ← resolveValidatedHistory (ports 7).runHistory sample.changes
          let input : ObservationInput :=
            { headRef := sample.headRef
              sinceRef
              snapshot := sample.snapshot
              changes := sample.changes
              validatedHistory }
          validateObservationCut input
          return input

/-- The ports are read until a sample is stable, and its window is validated. -/
def readObservationCutFromPorts (ports : Nat → ObservationReadPorts) (sinceRef : SnapshotRef)
    (maxAttempts : Nat := defaultCutAttempts) : Observed ObservationInput :=
  readObservationCutAttempts maxAttempts sinceRef maxAttempts ports

end Cantilune
