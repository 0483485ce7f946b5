import Cantilune.Codec.StorageWire
import Cantilune.Runtime.DurableLoads

/-!
# The durable coordinator over Postgres

Every method is one transaction of SQL statements. Initialization makes the coordinator the writer by putting its
owner and token into the lease row; every writing transaction reads this row first.
-/

namespace Cantilune

structure PgChangeRow where
  seq : Nat
  changeId : ChangeId
  beforeRef : SnapshotRef
  afterRef : SnapshotRef
  payload : Json
  deriving DecidableEq

/-- The tables of one schema; a table that is not there yet counts as empty. Head, binding and lease are tables
of one row. -/
structure PgTables where
  head : Option SnapshotRef
  snapshots : OrdMap SnapshotRef Json
  changes : List PgChangeRow
  recipes : OrdMap ChangeId Json
  epochBinding : Option Json
  lease : Option (String × String)
  deriving DecidableEq

/-- The tables, and the next value of the sequence behind the `seq` column. -/
structure PgDb where
  tables : PgTables
  nextSeq : Nat
  deriving DecidableEq

def PgTables.empty : PgTables :=
  { head := none, snapshots := .empty, changes := [], recipes := .empty, epochBinding := none, lease := none }

/-! ## Statements -/

/-- The statements by their tags, with their parameters. -/
inductive SqlQuery where
  | ensureDdl
  | selectLease
  | upsertLease (owner token : String)
  | selectHead
  | writeHead (ref : SnapshotRef)
  | seedHead (ref : SnapshotRef)
  | selectSnapshot (ref : SnapshotRef)
  | insertSnapshot (ref : SnapshotRef) (payload : Json)
  | upsertSnapshot (ref : SnapshotRef) (payload : Json)
  | selectChanges
  | selectLastChange
  | selectChangeId (id : ChangeId)
  | insertChange (id : ChangeId) (beforeRef afterRef : SnapshotRef) (payload : Json)
  | insertRecipe (id : ChangeId) (payload : Json)
  | selectRecipe (id : ChangeId)
  | selectBinding
  | upsertBinding (payload : Json)

abbrev SqlQuery.Rows : SqlQuery → Type
  | .selectLease => List (String × String)
  | .selectHead => List SnapshotRef
  | .selectSnapshot _ | .selectChanges | .selectLastChange | .selectRecipe _ | .selectBinding => List Json
  | _ => Nat

/-- A statement that violates a constraint throws. -/
abbrev SqlQuery.Resp (r : SqlQuery) : Type := Except String r.Rows

/-- What a statement does; `jsonb` is the value that a column of that type keeps of a JSON value. -/
def PgDb.run (jsonb : Json → Json) (db : PgDb) : (r : SqlQuery) → r.Resp × PgDb
  | .ensureDdl => (.ok 0, db)
  | .selectLease => (.ok db.tables.lease.toList, db)
  | .upsertLease owner token => (.ok 1, { db with tables := { db.tables with lease := some (owner, token) } })
  | .selectHead => (.ok db.tables.head.toList, db)
  | .writeHead ref =>
      (.ok db.tables.head.toList.length, { db with tables := { db.tables with head := db.tables.head.map fun _ => ref } })
  | .seedHead ref =>
      if db.tables.head.isSome then (.ok 0, db)
      else (.ok 1, { db with tables := { db.tables with head := some ref } })
  | .selectSnapshot ref => (.ok (db.tables.snapshots.get? ref).toList, db)
  | .insertSnapshot ref payload =>
      if db.tables.snapshots.has ref then (.ok 0, db)
      else
        (.ok 1,
          { db with tables := { db.tables with snapshots := db.tables.snapshots.set ref (jsonb payload) } })
  | .upsertSnapshot ref payload =>
      (.ok 1, { db with tables := { db.tables with snapshots := db.tables.snapshots.set ref (jsonb payload) } })
  | .selectChanges => (.ok ((db.tables.changes.insertionSort fun a b => a.seq ≤ b.seq).map (·.payload)), db)
  | .selectLastChange =>
      (.ok (((db.tables.changes.insertionSort fun a b => b.seq ≤ a.seq).map (·.payload)).take 1), db)
  | .selectChangeId id => (.ok (db.tables.changes.countP fun row => row.changeId = id), db)
  | .insertChange id beforeRef afterRef payload =>
      -- the sequence is advanced before the constraint is checked
      if db.tables.changes.any fun row => row.changeId = id then
        (.error "duplicate key value violates unique constraint", { db with nextSeq := db.nextSeq + 1 })
      else
        (.ok 1,
          { tables :=
              { db.tables with
                changes := db.tables.changes ++
                  [{ seq := db.nextSeq, changeId := id, beforeRef, afterRef, payload := jsonb payload }] }
            nextSeq := db.nextSeq + 1 })
  | .insertRecipe id payload =>
      if db.tables.recipes.has id then (.error "duplicate key value violates unique constraint", db)
      else (.ok 1, { db with tables := { db.tables with recipes := db.tables.recipes.set id (jsonb payload) } })
  | .selectRecipe id => (.ok (db.tables.recipes.get? id).toList, db)
  | .selectBinding => (.ok db.tables.epochBinding.toList, db)
  | .upsertBinding payload => (.ok 1, { db with tables := { db.tables with epochBinding := some (jsonb payload) } })

/-! ## The coordinator -/

abbrev PgProgram := Program SqlQuery SqlQuery.Resp DurableThrown

structure PostgresDurableCoordinator where
  leaseOwner : String
  leaseToken : String
  deriving DecidableEq

namespace PostgresDurableCoordinator

open Program

variable (localeCompare : LocaleCompare) (c : PostgresDurableCoordinator)

def query (r : SqlQuery) : PgProgram r.Rows := do
  match ← request r with
  | .ok rows => pure rows
  | .error message => .fail (.error message)

def asJsonPayload : Json → Except DurableThrown Json
  | .str s =>
      match Json.parse s with
      | some j => .ok j
      | none => .error (.error "SyntaxError")
  | j => .ok j

def asString (value : String) (label : String) : Except DurableThrown String :=
  if value = "" then .error (.error s!"postgres durable: expected non-empty string at {label}") else .ok value

def decodeStoredSnapshot (payload : Json) : Except DurableThrown CollaborationSnapshot := do
  let json ← asJsonPayload payload
  match decodeSnapshotFromUnknown json with
  | .ok snapshot => .ok snapshot
  | .error (.violation v) => .error (.error s!"postgres durable: invalid snapshot payload: {v.message}")
  -- the source hands out a snapshot whose policy context is none of the declared kinds
  | .error .untypedPolicyContext => .error (.error "postgres durable: invalid snapshot payload")

def decodeStoredChange (payload : Json) : Except DurableThrown CoordinationChange := do
  let json ← asJsonPayload payload
  match decodeChangeFromUnknown json with
  | .ok (change, _) => .ok change
  | .error (.violation v) => .error (.error s!"postgres durable: invalid change payload: {v.message}")
  | .error (.thrown message) => .error (.error message)

def decodeStoredBinding (payload : Json) : Except DurableThrown SchemaEpochBinding := do
  let json ← asJsonPayload payload
  match parseSchemaBindingWire json with
  | .ok binding => .ok binding
  | .error v => .error (.error s!"postgres durable: invalid epoch binding: {v.message}")

/-- An object without the fields of a recipe, which the source would copy as it is, is refused as well. -/
def decodeStoredRecipe (payload : Json) : Except DurableThrown ReplayRecipe := do
  let json ← asJsonPayload payload
  match StoredRecipe.fromJson json with
  | some recipe => .ok (snapshotReplayRecipe recipe)
  | none => .error (.error "postgres durable: invalid recipe payload")

/-! ## Loads -/

/-- The first row, decoded, if there is one. -/
def decodeFirst {α β : Type} (decode : β → Except DurableThrown α) (rows : List β) :
    Except DurableThrown (Option α) :=
  match rows.head? with
  | none => .ok none
  | some row => (decode row).map some

def decodeLease (row : String × String) : Except DurableThrown (String × String) := do
  return (← asString row.1 "lease.owner", ← asString row.2 "lease.token")

def loadLease : PgProgram (Option (String × String)) := do ofExcept (decodeFirst decodeLease (← query .selectLease))

def loadHead : PgProgram (Option SnapshotRef) := do
  ofExcept (decodeFirst (fun ref => asString ref "head_ref") (← query .selectHead))

def loadSnapshot (ref : SnapshotRef) : PgProgram (Option CollaborationSnapshot) := do
  ofExcept (decodeFirst decodeStoredSnapshot (← query (.selectSnapshot ref)))

def loadChanges : PgProgram (List CoordinationChange) := do
  ofExcept ((← query .selectChanges).mapM decodeStoredChange)

def loadLastChange : PgProgram (Option CoordinationChange) := do
  ofExcept (decodeFirst decodeStoredChange (← query .selectLastChange))

def changeIdExists (changeId : ChangeId) : PgProgram Bool := do
  return decide ((← query (.selectChangeId changeId)) > 0)

def loadRecipe (changeId : ChangeId) : PgProgram (Option ReplayRecipe) := do
  ofExcept (decodeFirst decodeStoredRecipe (← query (.selectRecipe changeId)))

def loadBinding : PgProgram (Option SchemaEpochBinding) := do
  ofExcept (decodeFirst decodeStoredBinding (← query .selectBinding))

/-! ## Writes -/

def execute (r : SqlQuery) : PgProgram Unit := do
  let _ ← query r
  pure ()

def snapshotPayload (snapshot : CollaborationSnapshot) : Json := (encodeSnapshot snapshot).toJson

def seedInitial (initial : CollaborationSnapshot) : PgProgram Unit := do
  execute (.insertSnapshot initial.snapshotRef (snapshotPayload initial))
  execute (.seedHead initial.snapshotRef)

def assertWriter : PgProgram Unit := do
  if (← loadLease) = some (c.leaseOwner, c.leaseToken) then pure () else .fail (.abort "fencing_stale")

def casHead (expected : SnapshotRef) (snapshot : CollaborationSnapshot) (binding : Option SchemaEpochBinding) :
    PgProgram Bool := do
  if (← loadHead) ≠ some expected then pure false
  else do
    execute (.upsertSnapshot snapshot.snapshotRef (snapshotPayload snapshot))
    execute (.writeHead snapshot.snapshotRef)
    match binding with
    | none => pure true
    | some binding => do
        execute (.upsertBinding (serializeSchemaBindingWire binding))
        pure true

def validateCommitChain (input : DurableCommitInput) : PgProgram Bool := do
  match ← loadLastChange with
  | some last => loadContinuesChain localeCompare loadSnapshot last input.change
  | none => pure (input.change.beforeRef = input.expectedHead)

def insertSnapshotIfAbsent (snapshot : CollaborationSnapshot) : PgProgram Bool := do
  return decide ((← query (.insertSnapshot snapshot.snapshotRef (snapshotPayload snapshot))) > 0)

def insertChange (input : DurableCommitInput) : PgProgram Bool := do
  match encodeChangeWithRecipe input.change input.recipe with
  | .error message => .fail (.error message)
  | .ok dto =>
      return decide ((← query (.insertChange input.change.changeId input.change.beforeRef input.change.afterRef
        dto.toJson)) > 0)

def commitInTransaction (input : DurableCommitInput) : PgProgram DurableCommitResult := do
  if (← loadHead) ≠ some input.expectedHead then .fail (.abort "head_mismatch")
  else if ← changeIdExists input.change.changeId then .fail (.abort "duplicate_change_id")
  else if !(← validateCommitChain localeCompare input) then .fail (.abort "chain_broken")
  else if !(← insertSnapshotIfAbsent input.after) then .fail (.abort "after_ref_collision")
  else if !(← insertChange input) then .fail (.abort "changelog_append_failed")
  else do
    execute (.insertRecipe input.change.changeId (StoredRecipe.toJson (snapshotReplayRecipe input.recipe)))
    execute (.writeHead input.after.snapshotRef)
    pure (.ok ())

/-- The schema and its six tables. -/
def ensureTables : PgProgram Unit := (List.replicate 7 SqlQuery.ensureDdl).forM execute

/-- What `initialize` does in its transaction. -/
def initializeWork (initial : Option CollaborationSnapshot) : PgProgram Unit := do
  ensureTables
  execute (.upsertLease c.leaseOwner c.leaseToken)
  match initial with
  | none => pure ()
  | some initial => seedInitial initial

/-- What a method does in its transaction. -/
def work : DurableCall → PgProgram DurableResult
  | .get ref => do return .snapshot (← loadSnapshot ref)
  | .head => do return .head (← loadHead)
  | .activeBinding => do return .binding (← loadBinding)
  | .compareAndSwapHead expected snapshot => do
      c.assertWriter
      return .swapped (← casHead expected snapshot none)
  | .compareAndSwapHeadWithBinding expected snapshot binding => do
      c.assertWriter
      return .swapped (← casHead expected snapshot (some binding))
  | .commit input => do
      c.assertWriter
      return .committed (← commitInTransaction localeCompare input)
  | .changes => do return .changes (← loadChanges)
  | .since fromRef => do
      let all ← loadChanges
      return .changes (← loadChangesSince localeCompare loadSnapshot fromRef all)
  | .recipeForChange change => do
      match ← loadRecipe change.changeId with
      | some stored => return .recipe (some stored)
      | none => return .recipe (some (replayRecipeFromChange change))

/-- A commit returns what aborted its transaction; every other method throws it. -/
def caught : DurableCall → Except DurableThrown DurableResult → Except DurableThrown DurableResult
  | .commit _, .error (.abort reason) => .ok (.committed (.error reason))
  | _, out => out

end PostgresDurableCoordinator

/-- A transaction whose body throws leaves nothing behind but the values that the sequence has given out. -/
def PgDb.Transacts {α : Type} (jsonb : Json → Json) (db : PgDb) (work : PgProgram α)
    (out : Except DurableThrown α) (db' : PgDb) : Prop :=
  ∃ ran, Program.Exec (fun db r resp db' => PgDb.run jsonb db r = (resp, db')) work db out ran ∧
    db' = match out with
      | .ok _ => ran
      | .error _ => { db with nextSeq := ran.nextSeq }

/-- What a process does with its coordinator: it creates one, or calls a method. -/
inductive PgCall where
  | create (initial : Option CollaborationSnapshot)
  | call (x : DurableCall)

/-- A call with the way it ends; transactions take effect one after the other. -/
def PostgresDurableCoordinator.Serves (jsonb : Json → Json) (localeCompare : LocaleCompare)
    (c : PostgresDurableCoordinator) (db : PgDb) : PgCall × Except DurableThrown (Option DurableResult) → PgDb → Prop
  | (.create initial, out), db' =>
      ∃ ended, db.Transacts jsonb (c.initializeWork initial) ended db' ∧ out = ended.map fun _ => none
  | (.call x, out), db' =>
      ∃ ended, db.Transacts jsonb (c.work localeCompare x) ended db' ∧
        out = (PostgresDurableCoordinator.caught x ended).map some

end Cantilune
