import Cantilune.Observability.Cut
import Cantilune.Runtime.Durable

/-!
# Recorded runs

A run of commits and observations over the coordinator in memory, beside the tracker that records the run
history, as the runtime drives them: what is committed was built on the head, passed the checks before the
commit, and is recorded after it.
-/

namespace Cantilune

structure RecordedRun where
  durable : MemoryDurableCoordinator
  history : UnvalidatedTrace
  deriving DecidableEq

def seedFromAuditTail (entries : List ObservationEntry) : UnvalidatedTrace := entries.map .observation

/-- A run over a world, with its audit tail in the history. -/
def RecordedRun.start (initial : CollaborationSnapshot) : RecordedRun :=
  { durable := .init (some initial), history := seedFromAuditTail initial.auditTail }

/-- A request of the runtime to the coordinator; references and instants are drawn beforehand. -/
inductive RunRequest where
  | commit (input : DurableCommitInput)
  | observe (source : ActorRef) (payloadRef : ContentRef) (receivedAt : Timestamp) (nextRef : SnapshotRef)

def RunRequest.change? : RunRequest → Option CoordinationChange
  | .commit input => some input.change
  | .observe .. => none

def committedChanges (requests : List RunRequest) : List CoordinationChange :=
  requests.filterMap RunRequest.change?

def ingestObservation (durable : MemoryDurableCoordinator) (source : ActorRef) (payloadRef : ContentRef)
    (receivedAt : Timestamp) (nextRef : SnapshotRef) : Option (ObservationEntry × MemoryDurableCoordinator) :=
  match durable.store.headRef with
  | none => none
  | some expectedHead =>
      match durable.store.get expectedHead with
      | none => none
      | some current =>
          let next := withSnapshotRef (appendObservation current source payloadRef receivedAt) nextRef
          if validateSnapshotIntegrityResult next ≠ none then none
          else
            let (done, durable) := durable.compareAndSwapHead expectedHead next
            if done then next.auditTail.getLast?.map fun entry => (entry, durable) else none

/-- Every field of every entry is compared. -/
def auditTailMatchesHistory (snapshot : CollaborationSnapshot) (history : UnvalidatedTrace) : Bool :=
  observationSegments history = snapshot.auditTail

section Requests
variable (localeCompare : LocaleCompare)

def validatePreCommit (run : RecordedRun) (after : CollaborationSnapshot) (change : CoordinationChange) : Bool :=
  (match run.durable.changelog.changes.getLast? with
    | some previous =>
        changeContinuesChain localeCompare previous change run.durable.store.get &&
          change.epochId = after.epochId
    | none => true) && auditTailMatchesHistory after run.history

def RecordedRun.commit (run : RecordedRun) (input : DurableCommitInput) : Option RecordedRun :=
  if validateSnapshotIntegrityResult input.after ≠ none then none
  else if validatePreCommit localeCompare run input.after input.change = false then none
  else
    match run.durable.commit localeCompare input with
    | (.ok (), durable) => some { durable, history := run.history ++ [.rewrite input.change] }
    | (.error _, _) => none

def RecordedRun.observe (run : RecordedRun) (source : ActorRef) (payloadRef : ContentRef) (receivedAt : Timestamp)
    (nextRef : SnapshotRef) : Option RecordedRun :=
  (ingestObservation run.durable source payloadRef receivedAt nextRef).map fun (entry, durable) =>
    { durable, history := run.history ++ [.observation entry] }

def RecordedRun.request (run : RecordedRun) : RunRequest → Option RecordedRun
  | .commit input => run.commit localeCompare input
  | .observe source payloadRef receivedAt nextRef => run.observe source payloadRef receivedAt nextRef

def RecordedRun.ports (run : RecordedRun) : ObservationReadPorts where
  head := run.durable.store.headRef
  getSnapshot := run.durable.store.get
  changesSince := run.durable.since localeCompare
  runHistory := some run.history

end Requests

/-- How the runtime builds a request: a change leads from the head it was admitted on to the world after it, in
the epoch of the run, and the reference of an observation is new. -/
def RunRequest.Built (epochId : EpochId) (run : RecordedRun) : RunRequest → Prop
  | .commit input => input.change.beforeRef = input.expectedHead ∧ input.change.afterRef = input.after.snapshotRef ∧
      input.change.epochId = epochId ∧ input.after.epochId = epochId
  | .observe _ _ _ nextRef => run.durable.store.snapshots.has nextRef = false

instance (epochId : EpochId) (run : RecordedRun) : (request : RunRequest) → Decidable (request.Built epochId run)
  | .commit _ => inferInstanceAs (Decidable (_ ∧ _ ∧ _ ∧ _))
  | .observe .. => inferInstanceAs (Decidable (_ = _))

/-- A request that the runtime builds and that succeeds. -/
def RunStep (localeCompare : LocaleCompare) (epochId : EpochId) (run : RecordedRun) (request : RunRequest)
    (run' : RecordedRun) : Prop :=
  request.Built epochId run ∧ run.request localeCompare request = some run'

end Cantilune
