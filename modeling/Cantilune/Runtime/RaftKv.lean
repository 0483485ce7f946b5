import Cantilune.Base.OrdMap
import Cantilune.Base.JsString
import Mathlib.Data.Rat.Defs
import Mathlib.Data.List.Sort

/-!
# The key-value store with leases

A linearizable store of versioned entries, with leases that take their entries along and transactions that
compare before they write. The store is generic in its values; the source's are texts. Every operation takes
the reading of the store's clock that it is made at.
-/

namespace Cantilune

abbrev LeaseId := String

/-! ## Entries, comparisons and operations -/

structure StoredEntry (V : Type) where
  value : V
  version : Nat
  createRevision : Nat
  modRevision : Nat
  leaseId : Option LeaseId
  deriving DecidableEq

structure RaftKvEntry (V : Type) extends StoredEntry V where
  key : String

inductive CompareTarget where
  | value | version | create
  deriving DecidableEq, Repr

inductive CompareResult where
  | equal | notEqual
  deriving DecidableEq, Repr

structure RaftCompare (V : Type) where
  key : String
  target : CompareTarget
  result : CompareResult
  value : Option V := none
  version : Option Nat := none

inductive RaftOp (V : Type) where
  | put (key : String) (value : V) (leaseId : Option LeaseId := none)
  | get (key : String)
  | range (keyPrefix : String)
  | delete (key : String)

structure RaftTxnResult (V : Type) where
  succeeded : Bool
  entries : List (RaftKvEntry V)

variable {V : Type}

def matchesCompare [DecidableEq V] (entry : Option (StoredEntry V)) (compare : RaftCompare V) : Bool :=
  match compare.target with
  | .create =>
      let created := entry.any fun e => e.createRevision > 0
      if compare.result = .equal then !created else created
  | .version =>
      let version := (entry.map (·.version)).getD 0
      let expected := compare.version.getD 0
      if compare.result = .equal then version = expected else version ≠ expected
  | .value =>
      let value := entry.map (·.value)
      if compare.result = .equal then value = compare.value else value ≠ compare.value

/-! ## The store -/

structure StoredLease where
  ttlSeconds : ℚ
  expiresAt : ℚ
  deriving DecidableEq

structure MemoryRaftKv (V : Type) where
  store : OrdMap String (StoredEntry V)
  leases : OrdMap LeaseId StoredLease
  revision : Nat
  leaseSeq : Nat

namespace MemoryRaftKv

def empty : MemoryRaftKv V := { store := .empty, leases := .empty, revision := 0, leaseSeq := 0 }

/-- The lease goes, and its entries with it. -/
def dropLease (kv : MemoryRaftKv V) (leaseId : LeaseId) : MemoryRaftKv V :=
  { kv with
    leases := kv.leases.delete leaseId
    store := kv.store.filter fun _ stored => stored.leaseId ≠ some leaseId }

def leaseExpired (kv : MemoryRaftKv V) (now : ℚ) (leaseId : LeaseId) : Bool :=
  (kv.leases.get? leaseId).any fun lease => lease.expiresAt ≤ now

/-- Drops every lease that has expired. -/
def expireLeases (kv : MemoryRaftKv V) (now : ℚ) : MemoryRaftKv V :=
  (kv.leases.keys.filter (kv.leaseExpired now)).foldl dropLease kv

def toEntry (key : String) (stored : StoredEntry V) : RaftKvEntry V := { stored with key }

def get (kv : MemoryRaftKv V) (now : ℚ) (key : String) : Option (StoredEntry V) × MemoryRaftKv V :=
  let kv := kv.expireLeases now
  (kv.store.get? key, kv)

/-- The entries whose key starts so, by key; the order of the keys is the one of the running locale. -/
def rangeEntries (localeCompare : LocaleCompare) (kv : MemoryRaftKv V) (keyPrefix : String) :
    List (RaftKvEntry V) :=
  ((kv.store.entries.filter fun e => keyPrefix.toList.isPrefixOf e.1.toList).map
    fun e => toEntry e.1 e.2).insertionSort fun a b => localeCompare a.key b.key ≤ 0

def range (localeCompare : LocaleCompare) (kv : MemoryRaftKv V) (now : ℚ) (keyPrefix : String) :
    List (RaftKvEntry V) × MemoryRaftKv V :=
  let kv := kv.expireLeases now
  (kv.rangeEntries localeCompare keyPrefix, kv)

def put (kv : MemoryRaftKv V) (key : String) (value : V) (leaseId : Option LeaseId) : MemoryRaftKv V :=
  let revision := kv.revision + 1
  let previous := kv.store.get? key
  { kv with
    revision
    store := kv.store.set key
      { value, leaseId, version := (previous.map (·.version)).getD 0 + 1
        createRevision := (previous.map (·.createRevision)).getD revision, modRevision := revision } }

/-- One operation of a transaction, and the entries it adds to the result. -/
def applyOp (localeCompare : LocaleCompare) (now : ℚ) (kv : MemoryRaftKv V) :
    RaftOp V → List (RaftKvEntry V) × MemoryRaftKv V
  | .get key => (((kv.store.get? key).map (toEntry key)).toList, kv)
  | .range keyPrefix => kv.range localeCompare now keyPrefix
  | .delete key => ([], { kv with store := kv.store.delete key })
  | .put key value leaseId =>
      let next := kv.put key value leaseId
      (((next.store.get? key).map (toEntry key)).toList, next)

def applyOps (localeCompare : LocaleCompare) (now : ℚ) :
    List (RaftOp V) → MemoryRaftKv V → List (RaftKvEntry V) × MemoryRaftKv V
  | [], kv => ([], kv)
  | op :: ops, kv =>
      let (entries, kv) := kv.applyOp localeCompare now op
      let (rest, kv) := applyOps localeCompare now ops kv
      (entries ++ rest, kv)

/-- The second list of operations is for the case that a comparison fails. -/
def txn [DecidableEq V] (localeCompare : LocaleCompare) (kv : MemoryRaftKv V) (now : ℚ) (compare : List (RaftCompare V))
    (success : List (RaftOp V)) (failure : List (RaftOp V) := []) : RaftTxnResult V × MemoryRaftKv V :=
  let kv := kv.expireLeases now
  let succeeded := compare.all fun clause => matchesCompare (kv.store.get? clause.key) clause
  let (entries, kv) := applyOps localeCompare now (if succeeded then success else failure) kv
  ({ succeeded, entries }, kv)

structure RaftLease where
  leaseId : LeaseId
  ttlSeconds : ℚ

def grantLease (kv : MemoryRaftKv V) (now : ℚ) (ttlSeconds : ℚ) : RaftLease × MemoryRaftKv V :=
  let kv := kv.expireLeases now
  let leaseSeq := kv.leaseSeq + 1
  let leaseId := s!"lease-{leaseSeq}"
  let ttl := if ttlSeconds > 0 then ttlSeconds else 1
  ({ leaseId, ttlSeconds := ttl },
    { kv with leaseSeq, leases := kv.leases.set leaseId { ttlSeconds := ttl, expiresAt := now + ttl * 1000 } })

def keepAlive (kv : MemoryRaftKv V) (now : ℚ) (leaseId : LeaseId) : Bool × MemoryRaftKv V :=
  let kv := kv.expireLeases now
  match kv.leases.get? leaseId with
  | none => (false, kv)
  | some lease =>
      (true, { kv with leases := kv.leases.set leaseId { lease with expiresAt := now + lease.ttlSeconds * 1000 } })

end MemoryRaftKv

/-- What a client asks of the store. -/
inductive KvRequest (V : Type) where
  | get (key : String)
  | range (keyPrefix : String)
  | txn (compare : List (RaftCompare V)) (success : List (RaftOp V)) (failure : List (RaftOp V) := [])
  | grantLease (ttlSeconds : ℚ)
  | keepAlive (leaseId : LeaseId)

def KvRequest.isTxn : KvRequest V → Bool
  | .txn .. => true
  | _ => false

abbrev KvRequest.Resp : KvRequest V → Type
  | .get _ => Option (StoredEntry V)
  | .range _ => List (RaftKvEntry V)
  | .txn .. => RaftTxnResult V
  | .grantLease _ => MemoryRaftKv.RaftLease
  | .keepAlive _ => Bool

namespace MemoryRaftKv

def run [DecidableEq V] (localeCompare : LocaleCompare) (kv : MemoryRaftKv V) (now : ℚ) :
    (r : KvRequest V) → r.Resp × MemoryRaftKv V
  | .get key => kv.get now key
  | .range keyPrefix => kv.range localeCompare now keyPrefix
  | .txn compare success failure => kv.txn localeCompare now compare success failure
  | .grantLease ttlSeconds => kv.grantLease now ttlSeconds
  | .keepAlive leaseId => kv.keepAlive now leaseId

/-! ## Lookups -/

variable {kv : MemoryRaftKv V} {now : ℚ} {key : String} {localeCompare : LocaleCompare}

theorem foldl_dropLease_store (leaseIds : List LeaseId) (kv : MemoryRaftKv V) (key : String) :
    (leaseIds.foldl dropLease kv).store.get? key =
      (kv.store.get? key).filter fun stored => stored.leaseId.all fun id => !leaseIds.contains id := by
  induction leaseIds generalizing kv with
  | nil =>
      have hall : ∀ stored : StoredEntry V, (stored.leaseId.all fun id => !([] : List LeaseId).contains id) = true := by
        intro stored
        cases stored.leaseId <;> simp
      simp only [List.foldl_nil, hall]
      cases kv.store.get? key <;> rfl
  | cons id ids ih =>
      rw [List.foldl_cons, ih]
      simp only [dropLease, OrdMap.get?_filter, Option.filter_filter]
      congr 1
      funext stored
      cases stored.leaseId with
      | none => simp
      | some leaseId => by_cases h : leaseId = id <;> simp [h]

theorem get?_expireLeases : (kv.expireLeases now).store.get? key =
    (kv.store.get? key).filter fun stored => stored.leaseId.all fun id => !kv.leaseExpired now id := by
  rw [expireLeases, foldl_dropLease_store]
  congr 1
  funext stored
  cases stored.leaseId with
  | none => rfl
  | some id =>
      have hkey : kv.leaseExpired now id = true → id ∈ kv.leases.keys := by
        intro hexp
        rw [OrdMap.mem_keys, OrdMap.has]
        unfold leaseExpired at hexp
        cases hl : kv.leases.get? id with
        | none => simp [hl] at hexp
        | some lease => rfl
      cases hexp : kv.leaseExpired now id with
      | false => simp [hexp]
      | true => simp [hexp, hkey hexp]

theorem get?_expireLeases_of_unleased {stored : StoredEntry V} (h : kv.store.get? key = some stored)
    (hlease : stored.leaseId = none) : (kv.expireLeases now).store.get? key = some stored := by
  rw [get?_expireLeases, h]
  simp [hlease]

theorem get?_expireLeases_of_none (h : kv.store.get? key = none) :
    (kv.expireLeases now).store.get? key = none := by
  rw [get?_expireLeases, h]
  rfl

@[simp] theorem get?_put_ne {value : V} {leaseId : Option LeaseId} {other : String} (h : other ≠ key) :
    (kv.put key value leaseId).store.get? other = kv.store.get? other :=
  OrdMap.get?_set_ne _ _ h

theorem get?_put_self {value : V} {leaseId : Option LeaseId} : (kv.put key value leaseId).store.get? key =
    some
      { value, leaseId, version := ((kv.store.get? key).map (·.version)).getD 0 + 1
        createRevision := ((kv.store.get? key).map (·.createRevision)).getD (kv.revision + 1)
        modRevision := kv.revision + 1 } :=
  OrdMap.get?_set_self _ _ _

theorem txn_succeeded [DecidableEq V] {compare : List (RaftCompare V)} {success failure : List (RaftOp V)} :
    (kv.txn localeCompare now compare success failure).1.succeeded =
      compare.all fun clause => matchesCompare ((kv.expireLeases now).store.get? clause.key) clause := rfl

theorem txn_snd [DecidableEq V] {compare : List (RaftCompare V)} {success failure : List (RaftOp V)} :
    (kv.txn localeCompare now compare success failure).2 =
      (applyOps localeCompare now
        (if (kv.txn localeCompare now compare success failure).1.succeeded then success else failure)
        (kv.expireLeases now)).2 := rfl

@[simp] theorem applyOps_nil_snd : (applyOps localeCompare now [] kv).2 = kv := rfl

@[simp] theorem applyOps_put_snd {value : V} {leaseId : Option LeaseId} {ops : List (RaftOp V)} :
    (applyOps localeCompare now (.put key value leaseId :: ops) kv).2 =
      (applyOps localeCompare now ops (kv.put key value leaseId)).2 := rfl

theorem applyOps_invariant {I : MemoryRaftKv V → Prop} {ops : List (RaftOp V)}
    (hop : ∀ op ∈ ops, ∀ kv, I kv → I (kv.applyOp localeCompare now op).2) (h : I kv) :
    I (applyOps localeCompare now ops kv).2 := by
  induction ops generalizing kv with
  | nil => exact h
  | cons op ops ih =>
      have hnext : I (kv.applyOp localeCompare now op).2 := hop op List.mem_cons_self kv h
      exact ih (fun op' hmem => hop op' (List.mem_cons_of_mem _ hmem)) hnext

/-- Whatever is no transaction leaves the entries whose lease has not expired. -/
theorem run_store [DecidableEq V] {r : KvRequest V} (h : r.isTxn = false) :
    (kv.run localeCompare now r).2.store = (kv.expireLeases now).store := by
  cases r with
  | get | range | grantLease => rfl
  | txn => cases h
  | keepAlive leaseId =>
      simp only [run, keepAlive]
      split <;> rfl

end MemoryRaftKv

end Cantilune
