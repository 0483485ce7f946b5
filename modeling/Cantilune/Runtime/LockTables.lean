import Cantilune.Base.Json
import Cantilune.Core.Change
import Cantilune.Runtime.RaftKv

/-!
# The resource lock tables

Three tables for one purpose: an array in memory, a JSON document in a file, and one in the key-value store
that every call replaces by compare-and-swap. `Date.now()` counts whole milliseconds; a call reads it once to
find the expired entries and once to stamp a new one.
-/

namespace Cantilune

abbrev AdmittedId := String

structure ClockReadings where
  checked : Nat
  stamped : Nat

namespace JsNumber

/-- `now + n`. -/
def after (now : Nat) : JsNumber → JsNumber
  | .finite q => .finite (now + q)
  | n => n

/-- `n <= now`. -/
def atMost (n : JsNumber) (now : Nat) : Bool :=
  match n with
  | .finite q => q ≤ now
  | .nan => false
  | .infinity negative => negative

/-- `n > now`. -/
def greater (n : JsNumber) (now : Nat) : Bool :=
  match n with
  | .finite q => now < q
  | .nan => false
  | .infinity negative => !negative

end JsNumber

inductive LockCall where
  | acquire (admittedId : AdmittedId) (footprint : Footprint) (leaseMs : Option JsNumber)
  | release (admittedId : AdmittedId)
  | isHeld (admittedId : AdmittedId)
  | heldLockCount

inductive LockResult where
  | boolean (b : Bool)
  | undefined
  | count (n : Nat)
  deriving DecidableEq, Repr

/-- A call with the clock readings that it made. -/
structure TimedCall where
  call : LockCall
  clock : ClockReadings

/-! ## In memory -/

structure LockEntry where
  admittedId : AdmittedId
  footprint : Footprint
  expiresAt : Option JsNumber

namespace MemoryResourceLockTable

def releaseExpired (now : Nat) (locks : List LockEntry) : List LockEntry :=
  locks.filter fun entry => !entry.expiresAt.any fun expiresAt => expiresAt.atMost now

def acquire (locks : List LockEntry) (clock : ClockReadings) (admittedId : AdmittedId) (footprint : Footprint)
    (leaseMs : Option JsNumber) : Bool × List LockEntry :=
  let locks := releaseExpired clock.checked locks
  if locks.any fun existing => footprintsOverlap existing.footprint footprint then (false, locks)
  else (true, locks ++ [{ admittedId, footprint, expiresAt := leaseMs.map (·.after clock.stamped) }])

/-- Removes the first entry of the id; expired entries stay. -/
def release (locks : List LockEntry) (admittedId : AdmittedId) : List LockEntry :=
  locks.eraseP fun entry => entry.admittedId = admittedId

def isHeld (locks : List LockEntry) (clock : ClockReadings) (admittedId : AdmittedId) : Bool × List LockEntry :=
  let locks := releaseExpired clock.checked locks
  (locks.any fun entry => entry.admittedId = admittedId, locks)

def heldLockCount (locks : List LockEntry) (clock : ClockReadings) : Nat × List LockEntry :=
  let locks := releaseExpired clock.checked locks
  (locks.length, locks)

def call (locks : List LockEntry) (c : TimedCall) : LockResult × List LockEntry :=
  match c.call with
  | .acquire admittedId footprint leaseMs => (acquire locks c.clock admittedId footprint leaseMs).map .boolean id
  | .release admittedId => (.undefined, release locks admittedId)
  | .isHeld admittedId => (isHeld locks c.clock admittedId).map .boolean id
  | .heldLockCount => (heldLockCount locks c.clock).map .count id

end MemoryResourceLockTable

/-! ## On the wire -/

/-- A number as an entry holds it: one of the source, or the `null` that JSON makes of some of them. -/
inductive WireNumber where
  | number (n : JsNumber)
  | null
  deriving DecidableEq

/-- `n > now`; `null` counts as zero. -/
def WireNumber.greater (n : WireNumber) (now : Nat) : Bool :=
  match n with
  | .number n => n.greater now
  | .null => false

/-- An entry on the wire. The sets of its footprint are arrays there, which is how `Footprint` gives them. -/
structure LockEntryWire where
  admittedId : AdmittedId
  footprint : Footprint
  expiresAt : Option WireNumber
  deriving DecidableEq

namespace LockWire

/-- JSON has no numbers but the finite ones. -/
def numberToJson : WireNumber → Json
  | .number (.finite q) => .num q
  | _ => .null

def stringsToJson (ids : List String) : Json := .arr (ids.map .str)

def footprintToJson (footprint : Footprint) : Json :=
  .record
    [("artifactIds", some (stringsToJson footprint.artifactIds)),
      ("participantIds", some (stringsToJson footprint.participantIds)),
      ("sessionIds", some (stringsToJson footprint.sessionIds)),
      ("capabilityIds", some (stringsToJson footprint.capabilityIds)),
      ("linkIds", some (stringsToJson footprint.linkIds))]

def entryToJson (entry : LockEntryWire) : Json :=
  .record
    [("admittedId", some (.str entry.admittedId)), ("footprint", some (footprintToJson entry.footprint)),
      ("expiresAt", entry.expiresAt.map numberToJson)]

/-- `JSON.stringify({ locks })`, as the value that parsing it gives back. -/
def encodeLocks (locks : List LockEntryWire) : Json := .record [("locks", some (.arr (locks.map entryToJson)))]

def readStrings (value : Option Json) : Option (List String) :=
  match value with
  | some (.arr values) => values.mapM Json.str?
  | _ => none

def readFootprint (value : Json) : Option Footprint := do
  let artifactIds ← readStrings (value.get? "artifactIds")
  let participantIds ← readStrings (value.get? "participantIds")
  let sessionIds ← readStrings (value.get? "sessionIds")
  let capabilityIds ← readStrings (value.get? "capabilityIds")
  let linkIds ← readStrings (value.get? "linkIds")
  return { artifactIds, participantIds, sessionIds, capabilityIds, linkIds }

def readNumber : Json → Option WireNumber
  | .num q => some (.number (.finite q))
  | .null => some .null
  | _ => none

def readExpiresAt (value : Option Json) : Option (Option WireNumber) :=
  match value with
  | none => some none
  | some value => (readNumber value).map some

def readEntry (value : Json) : Option LockEntryWire := do
  let admittedId ← (value.get? "admittedId").bind Json.str?
  let footprint ← (value.get? "footprint").bind readFootprint
  let expiresAt ← readExpiresAt (value.get? "expiresAt")
  return { admittedId, footprint, expiresAt }

/-- The entries of a stored document; `none` where it is unreadable. The source takes the form of the entries
for granted; a document with other entries, which no table writes, counts as unreadable here. -/
def decodeLocks (stored : Option Json) : Option (List LockEntryWire) :=
  match stored with
  | none => some []
  | some value =>
      match value, value.get? "locks" with
      | .obj _, none | .obj _, some .null | .arr _, _ => some []
      | .obj _, some (.arr values) => values.mapM readEntry
      | _, _ => none

def releaseExpired (now : Nat) (locks : List LockEntryWire) : List LockEntryWire :=
  locks.filter fun entry => entry.expiresAt.all fun expiresAt => expiresAt.greater now

/-- What a call makes of the active entries. The file table and the one in the key-value store both work on
the wire form in this way. -/
def work (active : List LockEntryWire) (c : TimedCall) : LockResult × List LockEntryWire :=
  match c.call with
  | .acquire admittedId footprint leaseMs =>
      if active.any fun existing => footprintsOverlap existing.footprint footprint then (.boolean false, active)
      else
        (.boolean true,
          active ++ [{ admittedId, footprint, expiresAt := leaseMs.map fun n => .number (n.after c.clock.stamped) }])
  | .release admittedId => (.undefined, active.filter fun entry => entry.admittedId ≠ admittedId)
  | .isHeld admittedId => (.boolean (active.any fun entry => entry.admittedId = admittedId), active)
  | .heldLockCount => (.count active.length, active)

end LockWire

namespace FileResourceLockTable

def unreadable (path : String) : String :=
  s!"resource lock table at {path} is unreadable; a holder cannot be determined"

def call (path : String) (file : Option Json) (c : TimedCall) : Except String (LockResult × Option Json) :=
  match LockWire.decodeLocks file with
  | none => .error (unreadable path)
  | some locks =>
      let (result, next) := LockWire.work (LockWire.releaseExpired c.clock.checked locks) c
      .ok (result, some (LockWire.encodeLocks next))

end FileResourceLockTable

/-! ## In the key-value store -/

namespace RaftResourceLockTable

/-- What a call has worked out from the entry it read, before it tries to write it. -/
structure Attempt where
  timed : TimedCall
  currentVersion : Option Nat
  result : LockResult
  next : List LockEntryWire

/-- A client is between calls, about to read, or about to write; a call counts its attempts. -/
inductive Client where
  | idle
  | calling (c : LockCall) (attempt : Nat)
  | ready (c : LockCall) (attempt : Nat) (a : Attempt)

structure Returned where
  timed : TimedCall
  result : LockResult

/-- The store with its clients. The calls that returned are listed in the order of their writes, those that
threw with what they threw. -/
structure State (ι : Type) where
  kv : MemoryRaftKv Json
  clock : Nat
  clients : ι → Client
  returned : List Returned
  thrown : List (LockCall × String)

inductive Label (ι : Type) where
  | invoke (client : ι) (c : LockCall)
  | read (client : ι) (now : ℚ) (clock : ClockReadings)
  | swap (client : ι) (now : ℚ)
  | other (kv : MemoryRaftKv Json)

def maxAttempts : Nat := 16

def unreadable : String := "raft resource lock table is unreadable; a holder cannot be determined"

def exhausted : String := "raft resource lock table CAS exhausted (ADR-0029)"

variable {ι : Type} [DecidableEq ι]

def State.setClient (s : State ι) (client : ι) (c : Client) : State ι :=
  { s with clients := Function.update s.clients client c }

def compareClauses (key : String) (currentVersion : Option Nat) : List (RaftCompare Json) :=
  match currentVersion with
  | none => [{ key, target := .create, result := .equal }]
  | some version => [{ key, target := .version, result := .equal, version }]

/-- Reads the entry and works out the next one. -/
def read (key : String) (s : State ι) (client : ι) (c : LockCall) (attempt : Nat) (now : ℚ)
    (clock : ClockReadings) : State ι :=
  let (current, kv) := s.kv.get now key
  let s := { s with kv, clock := clock.stamped }
  match LockWire.decodeLocks (current.map (·.value)) with
  | none => { s.setClient client .idle with thrown := s.thrown ++ [(c, unreadable)] }
  | some locks =>
      let timed : TimedCall := { call := c, clock }
      let (result, next) := LockWire.work (LockWire.releaseExpired clock.checked locks) timed
      s.setClient client (.ready c attempt { timed, currentVersion := current.map (·.version), result, next })

/-- Writes the next entry, unless somebody else has written since the read. -/
def swap (localeCompare : LocaleCompare) (key : String) (s : State ι) (client : ι) (c : LockCall)
    (attempt : Nat) (a : Attempt) (now : ℚ) : State ι :=
  let (txn, kv) := s.kv.txn localeCompare now (compareClauses key a.currentVersion)
    [.put key (LockWire.encodeLocks a.next)]
  let s := { s with kv }
  if txn.succeeded then
    { s.setClient client .idle with returned := s.returned ++ [{ timed := a.timed, result := a.result }] }
  else if attempt + 1 < maxAttempts then s.setClient client (.calling c (attempt + 1))
  else { s.setClient client .idle with thrown := s.thrown ++ [(c, exhausted)] }

/-- One step of a client, or of somebody who uses the store under other keys. -/
def step (localeCompare : LocaleCompare) (key : String) (s : State ι) : Label ι → Option (State ι)
  | .invoke client c =>
      match s.clients client with
      | .idle => some (s.setClient client (.calling c 0))
      | _ => none
  | .read client now clock =>
      match s.clients client with
      | .calling c attempt =>
          if s.clock ≤ clock.checked ∧ clock.checked ≤ clock.stamped then
            some (read key s client c attempt now clock)
          else none
      | _ => none
  | .swap client now =>
      match s.clients client with
      | .ready c attempt a => some (swap localeCompare key s client c attempt a now)
      | _ => none
  | .other kv => if kv.store.get? key = s.kv.store.get? key then some { s with kv } else none

def Steps (localeCompare : LocaleCompare) (key : String) (s : State ι) (l : Label ι) (t : State ι) : Prop :=
  step localeCompare key s l = some t

def start (kv : MemoryRaftKv Json) (clock : Nat) : State ι :=
  { kv, clock, clients := fun _ => .idle, returned := [], thrown := [] }

end RaftResourceLockTable

end Cantilune
