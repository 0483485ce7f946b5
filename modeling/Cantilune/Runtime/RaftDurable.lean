import Cantilune.Codec.StorageWire
import Cantilune.Runtime.DurableLoads
import Cantilune.Runtime.RaftKv

/-!
# The durable coordinator over the key-value store

Every method is a program of requests to the store. Initialization installs the writer: it leases the key that
holds owner and token. Every write is one transaction that compares this key, and the head, first.
-/

namespace Cantilune

/-! ## Keys and values -/

/-- A stored text; what `JSON.stringify` wrote is kept as the value it wrote. -/
inductive StoredValue where
  | text (s : String)
  | json (j : Json)
  deriving DecidableEq

/-- The keys that hold plain texts never hold a written JSON value. -/
def StoredValue.text? : StoredValue → Option String
  | .text s => some s
  | .json _ => none

inductive RaftKey where
  | head | binding | lease | seq | fencingLease
  | snapshot (ref : SnapshotRef)
  | change (n : Nat)
  | changeId (id : ChangeId)
  | recipe (id : ChangeId)
  deriving DecidableEq

/-- `String(n).padStart(20, "0")`. -/
def paddedSeq (n : Nat) : String := String.ofList (List.replicate (20 - (toString n).length) '0') ++ toString n

def RaftKey.path : RaftKey → String
  | .head => "/meta/head"
  | .binding => "/meta/binding"
  | .lease => "/meta/lease"
  | .seq => "/meta/changeSeq"
  | .fencingLease => "/meta/fencingLeaseId"
  | .snapshot ref => "/snapshots/" ++ ref
  | .change n => "/changes/" ++ paddedSeq n
  | .changeId id => "/changeIds/" ++ id
  | .recipe id => "/recipes/" ++ id

def durableRoot («namespace» : String) : String := «namespace» ++ "/durable"

def RaftKey.text («namespace» : String) (key : RaftKey) : String := durableRoot «namespace» ++ key.path

def changePrefix («namespace» : String) : String := durableRoot «namespace» ++ "/changes/"

/-! ## The coordinator -/

abbrev RaftProgram := Program (KvRequest StoredValue) KvRequest.Resp DurableThrown

structure RaftDurableCoordinator where
  «namespace» : String
  leaseOwner : String
  leaseToken : String

namespace RaftDurableCoordinator

open Program

variable (localeCompare : LocaleCompare) (c : RaftDurableCoordinator)

def key (k : RaftKey) : String := k.text c.namespace

def encodeLease (owner token : String) : StoredValue := .json (.obj [("owner", .str owner), ("token", .str token)])

def parseJson : StoredValue → Except DurableThrown Json
  | .json j => .ok j
  | .text s =>
      match Json.parse s with
      | some j => .ok j
      | none => .error (.error "SyntaxError")

def asString (value : Option Json) (label : String) : Except DurableThrown String :=
  match value with
  | some (.str s) =>
      if s = "" then .error (.error s!"raft durable: expected non-empty string at {label}") else .ok s
  | _ => .error (.error s!"raft durable: expected non-empty string at {label}")

def decodeStoredSnapshot (payload : StoredValue) : Except DurableThrown CollaborationSnapshot := do
  let json ← parseJson payload
  match decodeSnapshotFromUnknown json with
  | .ok snapshot => .ok snapshot
  | .error (.violation v) => .error (.error s!"raft durable: invalid snapshot payload: {v.message}")
  -- the source hands out a snapshot whose policy context is none of the declared kinds
  | .error .untypedPolicyContext => .error (.error "raft durable: invalid snapshot payload")

def decodeStoredChange (payload : StoredValue) : Except DurableThrown CoordinationChange := do
  let json ← parseJson payload
  match decodeChangeFromUnknown json with
  | .ok (change, _) => .ok change
  | .error (.violation v) => .error (.error s!"raft durable: invalid change payload: {v.message}")
  | .error (.thrown message) => .error (.error message)

def decodeStoredBinding (payload : StoredValue) : Except DurableThrown SchemaEpochBinding := do
  let json ← parseJson payload
  match parseSchemaBindingWire json with
  | .ok binding => .ok binding
  | .error v => .error (.error s!"raft durable: invalid epoch binding: {v.message}")

/-- An object without the fields of a recipe, which the source would copy as it is, is refused as well. -/
def decodeStoredRecipe (payload : StoredValue) : Except DurableThrown ReplayRecipe := do
  let json ← parseJson payload
  match StoredRecipe.fromJson json with
  | some recipe => .ok (snapshotReplayRecipe recipe)
  | none => .error (.error "raft durable: invalid recipe payload")

/-! ## Loads -/

def send (r : KvRequest StoredValue) : RaftProgram r.Resp := request r

def get (k : RaftKey) : RaftProgram (Option (StoredEntry StoredValue)) := send (.get (c.key k))

def refreshLease : RaftProgram Unit := do
  match (← c.get .fencingLease).bind (·.value.text?) with
  | none => pure ()
  | some leaseId => do
      let _ ← send (.keepAlive leaseId)
      pure ()

def decodeLease (payload : StoredValue) : Except DurableThrown (String × String) := do
  let record ← parseJson payload
  return (← asString (record.get? "owner") "lease.owner", ← asString (record.get? "token") "lease.token")

def decodeEntry {α : Type} (decode : StoredValue → Except DurableThrown α) :
    Option (StoredEntry StoredValue) → Except DurableThrown (Option α)
  | none => .ok none
  | some entry => (decode entry.value).map some

def loadLease : RaftProgram (Option (String × String)) := do
  ofExcept (decodeEntry decodeLease (← c.get .lease))

def leaseOwned : RaftProgram Bool := do
  return (← c.loadLease) = some (c.leaseOwner, c.leaseToken)

def assertWriter : RaftProgram Unit := do
  if ← c.leaseOwned then pure () else .fail (.abort "fencing_stale")

/-- An empty text is no head. -/
def headOf (entry : Option (StoredEntry StoredValue)) : Option SnapshotRef :=
  (entry.bind (·.value.text?)).filter fun ref => ref ≠ ""

def loadHead : RaftProgram (Option SnapshotRef) := do
  return headOf (← c.get .head)

def loadSnapshot (ref : SnapshotRef) : RaftProgram (Option CollaborationSnapshot) := do
  ofExcept (decodeEntry decodeStoredSnapshot (← c.get (.snapshot ref)))

def loadBinding : RaftProgram (Option SchemaEpochBinding) := do
  ofExcept (decodeEntry decodeStoredBinding (← c.get .binding))

def loadRecipe (changeId : ChangeId) : RaftProgram (Option ReplayRecipe) := do
  ofExcept (decodeEntry decodeStoredRecipe (← c.get (.recipe changeId)))

def loadChanges : RaftProgram (List CoordinationChange) := do
  let rows : List (RaftKvEntry StoredValue) ← send (.range (changePrefix c.namespace))
  ofExcept (rows.mapM fun entry => decodeStoredChange entry.value)

def loadLastChange : RaftProgram (Option CoordinationChange) := do
  let rows : List (RaftKvEntry StoredValue) ← send (.range (changePrefix c.namespace))
  match rows.getLast? with
  | none => pure none
  | some last => ofExcept ((decodeStoredChange last.value).map some)

def changeIdExists (changeId : ChangeId) : RaftProgram Bool := do
  return (← c.get (.changeId changeId)).isSome

/-! ## Writes -/

def writerAndHead (expected : SnapshotRef) : List (RaftCompare StoredValue) :=
  [{ key := c.key .lease, target := .value, result := .equal
     value := some (encodeLease c.leaseOwner c.leaseToken) },
    { key := c.key .head, target := .value, result := .equal, value := some (.text expected) }]

def putSnapshot (snapshot : CollaborationSnapshot) : RaftOp StoredValue :=
  .put (c.key (.snapshot snapshot.snapshotRef)) (.json (encodeSnapshot snapshot).toJson)

def putHead (ref : SnapshotRef) : RaftOp StoredValue := .put (c.key .head) (.text ref)

def putBinding (binding : SchemaEpochBinding) : RaftOp StoredValue :=
  .put (c.key .binding) (.json (serializeSchemaBindingWire binding))

def seedInitial (initial : CollaborationSnapshot) : RaftProgram Unit := do
  let _ ← send (.txn [{ key := c.key .head, target := .create, result := .equal }]
    [c.putSnapshot initial, c.putHead initial.snapshotRef])
  pure ()

/-- The source's `initialize`. -/
def initializeWriter (initial : Option CollaborationSnapshot) (leaseTtlSeconds : ℚ) : RaftProgram Unit := do
  let granted : MemoryRaftKv.RaftLease ← send (.grantLease leaseTtlSeconds)
  let _ ← send (.txn []
    [.put (c.key .lease) (encodeLease c.leaseOwner c.leaseToken) (some granted.leaseId),
      .put (c.key .fencingLease) (.text granted.leaseId)])
  match initial with
  | none => pure ()
  | some initial => c.seedInitial initial

def casHead (expected : SnapshotRef) (snapshot : CollaborationSnapshot) (binding : Option SchemaEpochBinding) :
    RaftProgram Bool := do
  let result : RaftTxnResult StoredValue ← send (.txn (c.writerAndHead expected)
    ([c.putSnapshot snapshot, c.putHead snapshot.snapshotRef] ++ (binding.map c.putBinding).toList))
  return result.succeeded

def validateCommitChain (input : DurableCommitInput) : RaftProgram Bool := do
  match ← c.loadLastChange with
  | some last => loadContinuesChain localeCompare c.loadSnapshot last input.change
  | none => pure (input.change.beforeRef = input.expectedHead)

/-- `Number` of a text of decimal digits. -/
def decimalValue (s : String) : Option Nat :=
  if s.toList.all Char.isDigit then some (Nat.ofDigitChars 10 s.toList 0) else none

/-- The number at the sequence key, at which the coordinator writes decimals only. -/
def seqOf (entry : Option (StoredEntry StoredValue)) : Nat :=
  ((entry.bind (·.value.text?)).bind decimalValue).getD 0

/-- What a commit compares: the writer, the head, that change and snapshot are new, and the sequence entry. -/
def commitCompares (input : DurableCommitInput) (seqEntry : Option (StoredEntry StoredValue)) :
    List (RaftCompare StoredValue) :=
  c.writerAndHead input.expectedHead ++
    [{ key := c.key (.changeId input.change.changeId), target := .create, result := .equal },
      { key := c.key (.snapshot input.after.snapshotRef), target := .create, result := .equal },
      { key := c.key .seq, target := .version, result := .equal
        version := some ((seqEntry.map (·.version)).getD 0) }]

def commitOps (input : DurableCommitInput) (dto : ChangeWireDto) (nextSeq : Nat) : List (RaftOp StoredValue) :=
  [c.putSnapshot input.after, .put (c.key (.change nextSeq)) (.json dto.toJson),
    .put (c.key (.changeId input.change.changeId)) (.text (toString nextSeq)),
    .put (c.key (.recipe input.change.changeId)) (.json (StoredRecipe.toJson (snapshotReplayRecipe input.recipe))),
    c.putHead input.after.snapshotRef, .put (c.key .seq) (.text (toString nextSeq))]

/-- Why the transaction of a commit failed. -/
def commitRefused (input : DurableCommitInput) : RaftProgram DurableCommitResult := do
  if !(← c.leaseOwned) then .fail (.abort "fencing_stale")
  else if (← c.loadHead) ≠ some input.expectedHead then .fail (.abort "head_mismatch")
  else .fail (.abort "changelog_append_failed")

def commitAtomic (input : DurableCommitInput) : RaftProgram DurableCommitResult := do
  if (← c.loadHead) ≠ some input.expectedHead then .fail (.abort "head_mismatch")
  else if ← c.changeIdExists input.change.changeId then .fail (.abort "duplicate_change_id")
  else if !(← c.validateCommitChain localeCompare input) then .fail (.abort "chain_broken")
  else if (← c.get (.snapshot input.after.snapshotRef)).isSome then .fail (.abort "after_ref_collision")
  else do
    let seqEntry ← c.get .seq
    match encodeChangeWithRecipe input.change input.recipe with
    | .error message => .fail (.error message)
    | .ok dto => do
        let result : RaftTxnResult StoredValue ← send (.txn (c.commitCompares input seqEntry)
          (c.commitOps input dto (seqOf seqEntry + 1)))
        if result.succeeded then pure (.ok ()) else c.commitRefused input

/-! ## Methods -/

/-- A commit returns what aborted it and lets everything else through. -/
def catchAbort : DurableThrown → RaftProgram DurableCommitResult
  | .abort reason => pure (.error reason)
  | .error message => .fail (.error message)

def commit (input : DurableCommitInput) : RaftProgram DurableCommitResult :=
  Program.handle (do c.refreshLease; c.assertWriter; c.commitAtomic localeCompare input) catchAbort

def since (fromRef : SnapshotRef) : RaftProgram (List CoordinationChange) := do
  let all ← c.loadChanges
  loadChangesSince localeCompare c.loadSnapshot fromRef all

def recipeForChange (change : CoordinationChange) : RaftProgram (Option ReplayRecipe) := do
  match ← c.loadRecipe change.changeId with
  | some stored => pure (some stored)
  | none => pure (some (replayRecipeFromChange change))

def call : DurableCall → RaftProgram DurableResult
  | .get ref => do c.refreshLease; return .snapshot (← c.loadSnapshot ref)
  | .head => do c.refreshLease; return .head (← c.loadHead)
  | .activeBinding => do c.refreshLease; return .binding (← c.loadBinding)
  | .compareAndSwapHead expected snapshot => do
      c.refreshLease
      c.assertWriter
      return .swapped (← c.casHead expected snapshot none)
  | .compareAndSwapHeadWithBinding expected snapshot binding => do
      c.refreshLease
      c.assertWriter
      return .swapped (← c.casHead expected snapshot (some binding))
  | .commit input => do return .committed (← c.commit localeCompare input)
  | .changes => do c.refreshLease; return .changes (← c.loadChanges)
  | .since fromRef => do c.refreshLease; return .changes (← c.since localeCompare fromRef)
  | .recipeForChange change => do c.refreshLease; return .recipe (← c.recipeForChange change)

end RaftDurableCoordinator

/-- What a process does with its coordinator: it creates one, or calls a method. -/
inductive RaftCall where
  | create (initial : Option CollaborationSnapshot) (leaseTtlSeconds : ℚ)
  | call (c : DurableCall)

def RaftDurableCoordinator.run (localeCompare : LocaleCompare) (c : RaftDurableCoordinator) :
    RaftCall → RaftProgram (Option DurableResult)
  | .create initial leaseTtlSeconds => do c.initializeWriter initial leaseTtlSeconds; return none
  | .call d => do return some (← c.call localeCompare d)

/-- A request takes effect at some reading of the store's clock. -/
def MemoryRaftKv.Acts (localeCompare : LocaleCompare) (kv : MemoryRaftKv StoredValue) (r : KvRequest StoredValue)
    (resp : r.Resp) (kv' : MemoryRaftKv StoredValue) : Prop :=
  ∃ now, kv.run localeCompare now r = (resp, kv')

end Cantilune
