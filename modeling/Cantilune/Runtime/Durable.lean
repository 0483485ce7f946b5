import Cantilune.Codec.Canonical
import Cantilune.Runtime.Recipe
import Cantilune.Runtime.Schema
import Mathlib.Data.List.TakeWhile

/-!
# The durable coordinator in memory

Head, snapshots, change log, recipes and active binding of one coordination domain, and the operations that
every coordinator offers on them. The maps and the log are those of the source; a copy that it makes on the
way in or out is the value itself here.
-/

namespace Cantilune

structure DurableCommitInput where
  expectedHead : SnapshotRef
  after : CollaborationSnapshot
  change : CoordinationChange
  recipe : ReplayRecipe

/-- A commit succeeds, or fails with a reason. -/
abbrev DurableCommitResult := Except String Unit

inductive DurableCall where
  | get (ref : SnapshotRef)
  | head
  | activeBinding
  | compareAndSwapHead (expected : SnapshotRef) (snapshot : CollaborationSnapshot)
  | compareAndSwapHeadWithBinding (expected : SnapshotRef) (snapshot : CollaborationSnapshot)
      (binding : SchemaEpochBinding)
  | commit (input : DurableCommitInput)
  | changes
  | since (fromRef : SnapshotRef)
  | recipeForChange (change : CoordinationChange)

inductive DurableResult where
  | snapshot (found : Option CollaborationSnapshot)
  | head (ref : Option SnapshotRef)
  | binding (found : Option SchemaEpochBinding)
  | swapped (done : Bool)
  | committed (result : DurableCommitResult)
  | changes (found : List CoordinationChange)
  | recipe (found : Option ReplayRecipe)
  deriving DecidableEq

/-! ## Snapshots -/

structure MemoryCollaborationStore where
  snapshots : OrdMap SnapshotRef CollaborationSnapshot
  headRef : Option SnapshotRef
  deriving DecidableEq

namespace MemoryCollaborationStore

def empty : MemoryCollaborationStore := { snapshots := .empty, headRef := none }

/-- The snapshot is stored under its reference and becomes the head. -/
def put (store : MemoryCollaborationStore) (snapshot : CollaborationSnapshot) : MemoryCollaborationStore :=
  { snapshots := store.snapshots.set snapshot.snapshotRef snapshot, headRef := some snapshot.snapshotRef }

def init (initial : Option CollaborationSnapshot) : MemoryCollaborationStore :=
  match initial with
  | none => empty
  | some snapshot => empty.put snapshot

def get (store : MemoryCollaborationStore) (ref : SnapshotRef) : Option CollaborationSnapshot :=
  store.snapshots.get? ref

def putIfAbsent (store : MemoryCollaborationStore) (snapshot : CollaborationSnapshot) :
    Option MemoryCollaborationStore :=
  if store.snapshots.has snapshot.snapshotRef then none
  else some { store with snapshots := store.snapshots.set snapshot.snapshotRef snapshot }

def setHead (store : MemoryCollaborationStore) (ref : SnapshotRef) : MemoryCollaborationStore :=
  { store with headRef := some ref }

def remove (store : MemoryCollaborationStore) (ref : SnapshotRef) : MemoryCollaborationStore :=
  { snapshots := store.snapshots.delete ref
    headRef := if store.headRef = some ref then none else store.headRef }

def compareAndSwapHead (store : MemoryCollaborationStore) (expected : SnapshotRef)
    (snapshot : CollaborationSnapshot) : Bool × MemoryCollaborationStore :=
  if store.headRef ≠ some expected then (false, store) else (true, store.put snapshot)

end MemoryCollaborationStore

structure MemoryChangeLog where
  changes : List CoordinationChange
  deriving DecidableEq

namespace MemoryChangeLog

def append (log : MemoryChangeLog) (change : CoordinationChange) : Option MemoryChangeLog :=
  if log.changes.any fun existing => existing.changeId = change.changeId then none
  else some { changes := log.changes ++ [change] }

/-- The changes that follow one another from a reference on. The source goes on for as long as it finds one;
the fuel is the length of the log, and `since` asks only where there is none to find. -/
def buildChainFrom (log : MemoryChangeLog) : Nat → SnapshotRef → List CoordinationChange
  | 0, _ => []
  | fuel + 1, fromRef =>
      match log.changes.find? fun change => change.beforeRef = fromRef with
      | none => []
      | some next => next :: log.buildChainFrom fuel next.afterRef

def since (log : MemoryChangeLog) (beforeRef : SnapshotRef) : List CoordinationChange :=
  match log.changes.findIdx? fun change => change.beforeRef = beforeRef with
  | some startIndex => log.changes.drop startIndex
  | none =>
      let chain := log.buildChainFrom log.changes.length beforeRef
      log.changes.filter fun change => chain.any fun c => c.changeId = change.changeId

end MemoryChangeLog

structure RecipeSidecar where
  recipes : OrdMap ChangeId ReplayRecipe
  deriving DecidableEq

namespace RecipeSidecar

def put (sidecar : RecipeSidecar) (changeId : ChangeId) (recipe : ReplayRecipe) : RecipeSidecar :=
  { recipes := sidecar.recipes.set changeId (snapshotReplayRecipe recipe) }

def recipeForChange (sidecar : RecipeSidecar) (change : CoordinationChange) : ReplayRecipe :=
  snapshotReplayRecipe ((sidecar.recipes.get? change.changeId).getD (replayRecipeFromChange change))

end RecipeSidecar

/-! ## The coordinator -/

structure MemoryDurableCoordinator where
  store : MemoryCollaborationStore
  changelog : MemoryChangeLog
  sidecar : RecipeSidecar
  activeBinding : Option SchemaEpochBinding
  deriving DecidableEq

/-- The suffix of a log that starts with the first change from position `startAt` on whose world before
proves an unlogged advance from the given world. -/
def bridgedSuffix (localeCompare : LocaleCompare) (resolve : SnapshotRef → Option CollaborationSnapshot)
    («from» : CollaborationSnapshot) (startAt : Nat) (all : List CoordinationChange) : List CoordinationChange :=
  (all.drop startAt).dropWhile fun change =>
    !(resolve change.beforeRef).any fun before => isVerifiableUnloggedAdvance localeCompare «from» before

/-- The position after the change that ends on a reference, or the start of the log. -/
def anchorAfter (fromRef : SnapshotRef) (all : List CoordinationChange) : Nat :=
  match all.findIdx? fun change => change.afterRef = fromRef with
  | some anchor => anchor + 1
  | none => 0

namespace MemoryDurableCoordinator

/-- A coordinator at its start. -/
def init (initial : Option CollaborationSnapshot) (initialBinding : Option SchemaEpochBinding := none) :
    MemoryDurableCoordinator :=
  { store := .init initial, changelog := { changes := [] }, sidecar := { recipes := .empty }
    activeBinding := initialBinding }

variable (localeCompare : LocaleCompare)

def compareAndSwapHead (d : MemoryDurableCoordinator) (expected : SnapshotRef)
    (snapshot : CollaborationSnapshot) : Bool × MemoryDurableCoordinator :=
  let (done, store) := d.store.compareAndSwapHead expected snapshot
  (done, { d with store })

def compareAndSwapHeadWithBinding (d : MemoryDurableCoordinator) (expected : SnapshotRef)
    (snapshot : CollaborationSnapshot) (binding : SchemaEpochBinding) : Bool × MemoryDurableCoordinator :=
  let (done, store) := d.store.compareAndSwapHead expected snapshot
  if done then (true, { d with store, activeBinding := some binding }) else (false, d)

/-- Whether a change continues the log, or starts it at the head. -/
def continuesLog (d : MemoryDurableCoordinator) (input : DurableCommitInput) : Bool :=
  match d.changelog.changes.getLast? with
  | some last => changeContinuesChain localeCompare last input.change d.store.get
  | none => input.change.beforeRef = input.expectedHead

def commit (d : MemoryDurableCoordinator) (input : DurableCommitInput) :
    DurableCommitResult × MemoryDurableCoordinator :=
  if d.store.headRef ≠ some input.expectedHead then (.error "head_mismatch", d)
  else if d.changelog.changes.any fun change => change.changeId = input.change.changeId then
    (.error "duplicate_change_id", d)
  else if d.continuesLog localeCompare input = false then (.error "chain_broken", d)
  else
    match d.store.putIfAbsent input.after with
    | none => (.error "after_ref_collision", d)
    | some store =>
        match d.changelog.append input.change with
        | none => (.error "changelog_append_failed", { d with store := store.remove input.after.snapshotRef })
        | some changelog =>
            (.ok (),
              { d with
                store := store.setHead input.after.snapshotRef
                changelog
                sidecar := d.sidecar.put input.change.changeId input.recipe })

def since (d : MemoryDurableCoordinator) (fromRef : SnapshotRef) : List CoordinationChange :=
  let direct := d.changelog.since fromRef
  if direct.length > 0 then direct
  else
    match d.store.get fromRef with
    | none => []
    | some «from» =>
        bridgedSuffix localeCompare d.store.get «from» (anchorAfter fromRef d.changelog.changes)
          d.changelog.changes

def call (d : MemoryDurableCoordinator) : DurableCall → DurableResult × MemoryDurableCoordinator
  | .get ref => (.snapshot (d.store.get ref), d)
  | .head => (.head d.store.headRef, d)
  | .activeBinding => (.binding d.activeBinding, d)
  | .compareAndSwapHead expected snapshot =>
      let (done, d) := d.compareAndSwapHead expected snapshot
      (.swapped done, d)
  | .compareAndSwapHeadWithBinding expected snapshot binding =>
      let (done, d) := d.compareAndSwapHeadWithBinding expected snapshot binding
      (.swapped done, d)
  | .commit input =>
      let (result, d) := d.commit localeCompare input
      (.committed result, d)
  | .changes => (.changes d.changelog.changes, d)
  | .since fromRef => (.changes (d.since localeCompare fromRef), d)
  | .recipeForChange change => (.recipe (some (d.sidecar.recipeForChange change)), d)

def results (d : MemoryDurableCoordinator) : List DurableCall → List DurableResult
  | [] => []
  | x :: xs => (d.call localeCompare x).1 :: (d.call localeCompare x).2.results xs

end MemoryDurableCoordinator

/-! ## What the operations do -/

variable {localeCompare : LocaleCompare} {d : MemoryDurableCoordinator}

def MemoryDurableCoordinator.committed (d : MemoryDurableCoordinator) (input : DurableCommitInput) :
    MemoryDurableCoordinator :=
  { d with
    store := d.store.put input.after
    changelog := { changes := d.changelog.changes ++ [input.change] }
    sidecar := d.sidecar.put input.change.changeId input.recipe }

/-- The change id is new when the log is appended to, so a commit fails before it writes or not at all. -/
theorem MemoryDurableCoordinator.commit_eq (input : DurableCommitInput) : d.commit localeCompare input =
    if d.store.headRef ≠ some input.expectedHead then (.error "head_mismatch", d)
    else if d.changelog.changes.any fun change => change.changeId = input.change.changeId then
      (.error "duplicate_change_id", d)
    else if d.continuesLog localeCompare input = false then (.error "chain_broken", d)
    else if d.store.snapshots.has input.after.snapshotRef then (.error "after_ref_collision", d)
    else (.ok (), d.committed input) := by
  unfold commit
  split
  · rfl
  split
  · rfl
  rename_i hnew
  split
  · rfl
  rw [MemoryCollaborationStore.putIfAbsent, MemoryChangeLog.append, if_neg hnew]
  by_cases hhas : d.store.snapshots.has input.after.snapshotRef = true
  · simp only [hhas, if_true]
  · simp only [hhas, if_false, Bool.false_eq_true]
    rfl

theorem MemoryChangeLog.since_eq (log : MemoryChangeLog) (fromRef : SnapshotRef) :
    log.since fromRef = log.changes.dropWhile fun change => change.beforeRef ≠ fromRef := by
  have hdrop := @List.dropWhile_eq_drop_findIdx_not _ log.changes
    fun change : CoordinationChange => change.beforeRef ≠ fromRef
  simp only [ne_eq, decide_not, Bool.not_not] at hdrop
  unfold since
  cases hfind : log.changes.findIdx? fun change => change.beforeRef = fromRef with
  | some i =>
      obtain ⟨_, hi⟩ := List.findIdx?_eq_some_iff_findIdx_eq.1 hfind
      simp only [ne_eq, decide_not, hdrop, hi]
  | none =>
      have hnone := List.findIdx?_eq_none_iff.1 hfind
      have hchain : log.buildChainFrom log.changes.length fromRef = [] := by
        cases hlen : log.changes.length with
        | zero => rfl
        | succ n =>
            have hno : (log.changes.find? fun change => change.beforeRef = fromRef) = none :=
              List.find?_eq_none.2 fun change hmem => by simpa using hnone change hmem
            simp [buildChainFrom, hno]
      have hall : log.changes.dropWhile (fun change => change.beforeRef ≠ fromRef) = [] :=
        List.dropWhile_eq_nil_iff.2 fun change hmem => by simpa using hnone change hmem
      rw [hall, hchain]
      simp

/-- The suffix from a reference on: at the change that starts there, or else at the one that an unlogged
advance leads to. -/
def changesSince (localeCompare : LocaleCompare) (fromRef : SnapshotRef) (all : List CoordinationChange)
    (resolve : SnapshotRef → Option CollaborationSnapshot) : List CoordinationChange :=
  let direct := all.dropWhile fun change => change.beforeRef ≠ fromRef
  if direct.length > 0 then direct
  else
    match resolve fromRef with
    | none => []
    | some «from» => bridgedSuffix localeCompare resolve «from» (anchorAfter fromRef all) all

theorem MemoryDurableCoordinator.since_eq (fromRef : SnapshotRef) :
    d.since localeCompare fromRef = changesSince localeCompare fromRef d.changelog.changes d.store.get := by
  unfold since changesSince
  rw [MemoryChangeLog.since_eq]

end Cantilune
