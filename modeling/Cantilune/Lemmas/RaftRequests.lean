import Cantilune.Lemmas.RaftKeys

/-!
# What the coordinators ask of the store

The requests of every program, and what they do: a method writes data alone and compares the name of the writer
first; initialization puts that name there.
-/

namespace Cantilune

/-! ## Data and requests -/

/-- The keys of the coordinator apart from the leased one: head, binding, snapshots, changes, recipes, sequence. -/
def DataKey («namespace» key : String) : Prop :=
  (durableRoot «namespace»).toList <+: key.toList ∧ key ≠ RaftKey.lease.text «namespace»

def SameData («namespace» : String) (kv kv' : MemoryRaftKv StoredValue) : Prop :=
  ∀ key, DataKey «namespace» key → kv'.store.get? key = kv.store.get? key

def DataUnleased («namespace» : String) (kv : MemoryRaftKv StoredValue) : Prop :=
  ∀ key stored, DataKey «namespace» key → kv.store.get? key = some stored → stored.leaseId = none

namespace RaftDurableCoordinator

def Deposed (c : RaftDurableCoordinator) (kv : MemoryRaftKv StoredValue) : Prop :=
  ∀ stored, kv.store.get? (c.key .lease) = some stored → stored.value ≠ encodeLease c.leaseOwner c.leaseToken

def PutsData (c : RaftDurableCoordinator) (op : RaftOp StoredValue) : Prop :=
  ∃ k value, op = .put (c.key k) value none ∧ k ≠ .lease

def PutsName (c : RaftDurableCoordinator) (op : RaftOp StoredValue) : Prop :=
  ∃ leaseId, op = .put (c.key .lease) (encodeLease c.leaseOwner c.leaseToken) leaseId

def namesWriter (c : RaftDurableCoordinator) : RaftCompare StoredValue :=
  { key := c.key .lease, target := .value, result := .equal
    value := some (encodeLease c.leaseOwner c.leaseToken) }

def MethodRequest (c : RaftDurableCoordinator) : KvRequest StoredValue → Prop
  | .txn compare success failure => c.namesWriter ∈ compare ∧ (∀ op ∈ success, c.PutsData op) ∧ failure = []
  | _ => True

def InstanceRequest (c : RaftDurableCoordinator) : KvRequest StoredValue → Prop
  | .txn _ success failure => (∀ op ∈ success, c.PutsData op ∨ c.PutsName op) ∧ failure = []
  | _ => True

def Installs (c : RaftDurableCoordinator) (r : KvRequest StoredValue) : Prop :=
  ∃ leaseId, r = .txn []
    [.put (c.key .lease) (encodeLease c.leaseOwner c.leaseToken) (some leaseId),
      .put (c.key .fencingLease) (.text leaseId)]

variable {localeCompare : LocaleCompare} {c : RaftDurableCoordinator}

theorem MethodRequest.instanceRequest {r : KvRequest StoredValue} (h : c.MethodRequest r) : c.InstanceRequest r := by
  cases r with
  | txn compare success failure => exact ⟨fun op hop => .inl (h.2.1 op hop), h.2.2⟩
  | _ => trivial

/-! ## What the programs ask -/

open Program

theorem asks_get (k : RaftKey) : (c.get k).Asks c.MethodRequest := asks_request trivial

theorem asks_refreshLease : c.refreshLease.Asks c.MethodRequest := by
  refine Asks.bind (asks_get _) fun entry => ?_
  split
  · trivial
  · exact Asks.bind (asks_request trivial) fun _ => trivial

theorem asks_leaseOwned : c.leaseOwned.Asks c.MethodRequest := by
  refine Asks.bind (Asks.bind (asks_get _) fun entry => asks_ofExcept) fun lease => trivial

theorem asks_assertWriter : c.assertWriter.Asks c.MethodRequest := by
  refine Asks.bind asks_leaseOwned fun owned => ?_
  split <;> trivial

theorem asks_loadHead : c.loadHead.Asks c.MethodRequest := Asks.bind (asks_get _) fun _ => trivial

theorem asks_loadSnapshot (ref : SnapshotRef) : (c.loadSnapshot ref).Asks c.MethodRequest :=
  Asks.bind (asks_get _) fun _ => asks_ofExcept

theorem asks_loadChanges : c.loadChanges.Asks c.MethodRequest :=
  Asks.bind (asks_request trivial) fun _ => asks_ofExcept

theorem putsData_putSnapshot (snapshot : CollaborationSnapshot) : c.PutsData (c.putSnapshot snapshot) :=
  ⟨_, _, rfl, by simp⟩

theorem putsData_putHead (ref : SnapshotRef) : c.PutsData (c.putHead ref) := ⟨_, _, rfl, by simp⟩

theorem asks_casHead (expected : SnapshotRef) (snapshot : CollaborationSnapshot)
    (binding : Option SchemaEpochBinding) : (c.casHead expected snapshot binding).Asks c.MethodRequest := by
  refine Asks.bind (asks_request ⟨List.mem_cons_self, ?_, rfl⟩) fun result => trivial
  intro op hop
  cases binding with
  | none =>
      simp only [Option.map_none, Option.toList_none, List.append_nil, List.mem_cons, List.not_mem_nil, or_false] at hop
      rcases hop with rfl | rfl
      · exact putsData_putSnapshot snapshot
      · exact putsData_putHead _
  | some binding =>
      simp only [Option.map_some, Option.toList_some, List.cons_append, List.nil_append, List.mem_cons,
        List.not_mem_nil, or_false] at hop
      rcases hop with rfl | rfl | rfl
      · exact putsData_putSnapshot snapshot
      · exact putsData_putHead _
      · exact ⟨_, _, rfl, by simp⟩

theorem putsData_commitOps (input : DurableCommitInput) (dto : ChangeWireDto) (nextSeq : Nat) :
    ∀ op ∈ c.commitOps input dto nextSeq, c.PutsData op := by
  intro op hop
  simp only [commitOps, List.mem_cons, List.not_mem_nil, or_false] at hop
  rcases hop with rfl | rfl | rfl | rfl | rfl | rfl
  · exact putsData_putSnapshot _
  · exact ⟨_, _, rfl, by simp⟩
  · exact ⟨_, _, rfl, by simp⟩
  · exact ⟨_, _, rfl, by simp⟩
  · exact putsData_putHead _
  · exact ⟨_, _, rfl, by simp⟩

theorem asks_commitAtomic (input : DurableCommitInput) :
    (c.commitAtomic localeCompare input).Asks c.MethodRequest := by
  refine Asks.bind asks_loadHead fun head => ?_
  split
  · trivial
  refine Asks.bind (Asks.bind (asks_get _) fun _ => trivial) fun known => ?_
  split
  · trivial
  refine Asks.bind ?_ fun continues => ?_
  · refine Asks.bind (Asks.bind (asks_request trivial) fun rows => ?_) fun last => ?_
    · split
      · trivial
      · exact asks_ofExcept
    · split
      · exact asks_loadContinuesChain asks_loadSnapshot _ _
      · trivial
  split
  · trivial
  refine Asks.bind (asks_get _) fun after => ?_
  split
  · trivial
  refine Asks.bind (asks_get _) fun seqEntry => ?_
  split
  · trivial
  · refine Asks.bind (asks_request ⟨List.mem_cons_self, putsData_commitOps _ _ _, rfl⟩) fun result => ?_
    split
    · trivial
    · refine Asks.bind asks_leaseOwned fun owned => ?_
      split
      · trivial
      · refine Asks.bind asks_loadHead fun head => ?_
        split <;> trivial

theorem asks_commit (input : DurableCommitInput) : (c.commit localeCompare input).Asks c.MethodRequest := by
  refine Asks.handle ?_ fun e => ?_
  · exact Asks.bind asks_refreshLease fun _ => Asks.bind asks_assertWriter fun _ => asks_commitAtomic input
  · cases e <;> trivial

theorem asks_call (d : DurableCall) : (c.call localeCompare d).Asks c.MethodRequest := by
  cases d with
  | get ref => exact Asks.bind asks_refreshLease fun _ => Asks.bind (asks_loadSnapshot ref) fun _ => trivial
  | head => exact Asks.bind asks_refreshLease fun _ => Asks.bind asks_loadHead fun _ => trivial
  | activeBinding =>
      refine Asks.bind asks_refreshLease fun _ => Asks.bind ?_ fun _ => trivial
      exact Asks.bind (asks_get _) fun _ => asks_ofExcept
  | compareAndSwapHead expected snapshot =>
      refine Asks.bind asks_refreshLease fun _ => Asks.bind asks_assertWriter fun _ => ?_
      exact Asks.bind (asks_casHead _ _ _) fun _ => trivial
  | compareAndSwapHeadWithBinding expected snapshot binding =>
      refine Asks.bind asks_refreshLease fun _ => Asks.bind asks_assertWriter fun _ => ?_
      exact Asks.bind (asks_casHead _ _ _) fun _ => trivial
  | commit input => exact Asks.bind (asks_commit input) fun _ => trivial
  | changes => exact Asks.bind asks_refreshLease fun _ => Asks.bind asks_loadChanges fun _ => trivial
  | since fromRef =>
      refine Asks.bind asks_refreshLease fun _ => Asks.bind ?_ fun _ => trivial
      exact Asks.bind asks_loadChanges fun all => asks_loadChangesSince asks_loadSnapshot _ _
  | recipeForChange change =>
      refine Asks.bind asks_refreshLease fun _ => Asks.bind ?_ fun _ => trivial
      refine Asks.bind (Asks.bind (asks_get _) fun _ => asks_ofExcept) fun stored => ?_
      split <;> trivial

theorem asks_initializeWriter (initial : Option CollaborationSnapshot) (leaseTtlSeconds : ℚ) :
    (c.initializeWriter initial leaseTtlSeconds).Asks c.InstanceRequest := by
  refine Asks.bind (asks_request trivial) fun granted => Asks.bind (asks_request ⟨?_, rfl⟩) fun _ => ?_
  · intro op hop
    simp only [List.mem_cons, List.not_mem_nil, or_false] at hop
    rcases hop with rfl | rfl
    · exact .inr ⟨_, rfl⟩
    · exact .inl ⟨_, _, rfl, by simp⟩
  · split
    · trivial
    · refine Asks.bind (asks_request ⟨?_, rfl⟩) fun _ => trivial
      intro op hop
      simp only [List.mem_cons, List.not_mem_nil, or_false] at hop
      rcases hop with rfl | rfl
      · exact .inl (putsData_putSnapshot _)
      · exact .inl (putsData_putHead _)

theorem asks_run (call : RaftCall) : (c.run localeCompare call).Asks c.InstanceRequest := by
  cases call with
  | create initial leaseTtlSeconds => exact Asks.bind (asks_initializeWriter _ _) fun _ => trivial
  | call d =>
      refine Asks.bind ?_ fun _ => trivial
      exact Asks.mono (fun r h => MethodRequest.instanceRequest h) (asks_call d)

theorem must_create (initial : Option CollaborationSnapshot) (leaseTtlSeconds : ℚ) :
    (c.run localeCompare (.create initial leaseTtlSeconds)).Must c.Installs :=
  .inr fun granted => .inl ⟨granted.leaseId, rfl⟩

/-! ## What the requests do -/

variable {kv kv' : MemoryRaftKv StoredValue} {now : ℚ} {r : KvRequest StoredValue} {resp : r.Resp}

theorem DataKey.of_key {k : RaftKey} (hk : k ≠ .lease) : DataKey c.namespace (c.key k) :=
  ⟨RaftKey.root_prefix_text _ _, fun h => hk ((RaftKey.text_inj).1 h)⟩

theorem sameData_expireLeases (h : DataUnleased c.namespace kv) : SameData c.namespace kv (kv.expireLeases now) := by
  intro key hkey
  cases hstored : kv.store.get? key with
  | none => exact MemoryRaftKv.get?_expireLeases_of_none hstored
  | some stored => exact MemoryRaftKv.get?_expireLeases_of_unleased hstored (h key stored hkey hstored)

theorem get?_of_expireLeases {key : String} {stored : StoredEntry StoredValue}
    (h : (kv.expireLeases now).store.get? key = some stored) : kv.store.get? key = some stored := by
  rw [MemoryRaftKv.get?_expireLeases] at h
  exact (Option.filter_eq_some_iff.1 h).1

theorem dataUnleased_expireLeases (h : DataUnleased c.namespace kv) :
    DataUnleased c.namespace (kv.expireLeases now) := by
  intro key stored hkey hstored
  exact h key stored hkey (get?_of_expireLeases hstored)

theorem deposed_expireLeases (h : c.Deposed kv) : c.Deposed (kv.expireLeases now) := by
  intro stored hstored
  exact h stored (get?_of_expireLeases hstored)

theorem dataUnleased_applyOp {op : RaftOp StoredValue} (hop : c.PutsData op ∨ c.PutsName op)
    (h : DataUnleased c.namespace kv) : DataUnleased c.namespace (kv.applyOp localeCompare now op).2 := by
  intro key stored hkey hstored
  rcases hop with ⟨k, value, rfl, hk⟩ | ⟨leaseId, rfl⟩
  · by_cases heq : key = c.key k
    · subst heq
      have hself : (kv.put (c.key k) value none).store.get? (c.key k) = some stored := hstored
      rw [MemoryRaftKv.get?_put_self] at hself
      cases hself
      rfl
    · have hother : (kv.put (c.key k) value none).store.get? key = some stored := hstored
      rw [MemoryRaftKv.get?_put_ne heq] at hother
      exact h key stored hkey hother
  · have hother : (kv.put (c.key .lease) (encodeLease c.leaseOwner c.leaseToken) leaseId).store.get? key =
        some stored := hstored
    have hne : key ≠ c.key .lease := hkey.2
    rw [MemoryRaftKv.get?_put_ne hne] at hother
    exact h key stored hkey hother

theorem deposed_applyOp {d : RaftDurableCoordinator} (hns : d.namespace = c.namespace)
    (hname : encodeLease d.leaseOwner d.leaseToken ≠ encodeLease c.leaseOwner c.leaseToken)
    {op : RaftOp StoredValue} (hop : d.PutsData op ∨ d.PutsName op) (h : c.Deposed kv) :
    c.Deposed (kv.applyOp localeCompare now op).2 := by
  have hkey : ∀ k, d.key k = c.key k := fun k => by rw [key, key, hns]
  intro stored hstored
  rcases hop with ⟨k, value, rfl, hk⟩ | ⟨leaseId, rfl⟩
  · have hother : (kv.put (d.key k) value none).store.get? (c.key .lease) = some stored := hstored
    have hne : c.key .lease ≠ d.key k := by
      rw [hkey]
      exact fun heq => hk ((RaftKey.text_inj).1 heq).symm
    rw [MemoryRaftKv.get?_put_ne hne] at hother
    exact h stored hother
  · have hself : (kv.put (d.key .lease) (encodeLease d.leaseOwner d.leaseToken) leaseId).store.get?
        (c.key .lease) = some stored := hstored
    rw [← hkey, MemoryRaftKv.get?_put_self] at hself
    cases hself
    exact hname

theorem dataUnleased_acts (hr : c.InstanceRequest r) (hact : kv.Acts localeCompare r resp kv')
    (h : DataUnleased c.namespace kv) : DataUnleased c.namespace kv' := by
  obtain ⟨now, hrun⟩ := hact
  have hkv : kv' = (kv.run localeCompare now r).2 := by rw [hrun]
  have hexpired := @dataUnleased_expireLeases c kv now h
  subst hkv
  cases hr' : r.isTxn with
  | false =>
      intro key stored hkey hstored
      rw [MemoryRaftKv.run_store hr'] at hstored
      exact hexpired key stored hkey hstored
  | true =>
      cases r with
      | txn compare success failure =>
          obtain ⟨hops, rfl⟩ := hr
          refine MemoryRaftKv.applyOps_invariant (fun op hop kv hkv => ?_) hexpired
          split at hop
          · exact dataUnleased_applyOp (hops op hop) hkv
          · cases hop
      | _ => cases hr'

theorem deposed_acts {d : RaftDurableCoordinator} (hns : d.namespace = c.namespace)
    (hname : encodeLease d.leaseOwner d.leaseToken ≠ encodeLease c.leaseOwner c.leaseToken)
    (hr : d.InstanceRequest r) (hact : kv.Acts localeCompare r resp kv') (h : c.Deposed kv) : c.Deposed kv' := by
  obtain ⟨now, hrun⟩ := hact
  have hkv : kv' = (kv.run localeCompare now r).2 := by rw [hrun]
  have hexpired := @deposed_expireLeases c kv now h
  subst hkv
  cases hr' : r.isTxn with
  | false =>
      intro stored hstored
      rw [MemoryRaftKv.run_store hr'] at hstored
      exact hexpired stored hstored
  | true =>
      cases r with
      | txn compare success failure =>
          obtain ⟨hops, rfl⟩ := hr
          refine MemoryRaftKv.applyOps_invariant (fun op hop kv hkv => ?_) hexpired
          split at hop
          · exact deposed_applyOp hns hname (hops op hop) hkv
          · cases hop
      | _ => cases hr'

theorem run_store_of_deposed (hr : c.MethodRequest r) (h : c.Deposed kv) :
    (kv.run localeCompare now r).2.store = (kv.expireLeases now).store := by
  cases hr' : r.isTxn with
  | false => exact MemoryRaftKv.run_store hr'
  | true =>
      cases r with
      | txn compare success failure =>
          obtain ⟨hnames, _, rfl⟩ := hr
          have hfails : (compare.all fun clause =>
              matchesCompare ((kv.expireLeases now).store.get? clause.key) clause) = false := by
            rw [List.all_eq_false]
            refine ⟨c.namesWriter, hnames, ?_⟩
            intro hmatches
            simp only [matchesCompare, namesWriter, if_true] at hmatches
            obtain ⟨stored, hstored, hvalue⟩ := Option.map_eq_some_iff.1 (of_decide_eq_true hmatches)
            exact deposed_expireLeases h stored hstored hvalue
          change (kv.txn localeCompare now compare success []).2.store = _
          rw [MemoryRaftKv.txn_snd, MemoryRaftKv.txn_succeeded, hfails]
          rfl
      | _ => cases hr'

theorem sameData_acts (hr : c.MethodRequest r) (hact : kv.Acts localeCompare r resp kv')
    (hunleased : DataUnleased c.namespace kv) (h : c.Deposed kv) : SameData c.namespace kv kv' ∧ c.Deposed kv' := by
  obtain ⟨now, hrun⟩ := hact
  have hkv : kv' = (kv.run localeCompare now r).2 := by rw [hrun]
  subst hkv
  have hstore := @run_store_of_deposed localeCompare c kv now r hr h
  refine ⟨fun key hkey => ?_, fun stored hstored => ?_⟩
  · rw [hstore]
    exact sameData_expireLeases hunleased key hkey
  · rw [hstore] at hstored
    exact deposed_expireLeases h stored hstored

theorem deposed_of_installs {d : RaftDurableCoordinator} (hns : d.namespace = c.namespace)
    (hname : encodeLease d.leaseOwner d.leaseToken ≠ encodeLease c.leaseOwner c.leaseToken)
    (hr : d.Installs r) (hact : kv.Acts localeCompare r resp kv') : c.Deposed kv' := by
  obtain ⟨leaseId, rfl⟩ := hr
  obtain ⟨now, hrun⟩ := hact
  have hkey : ∀ k, d.key k = c.key k := fun k => by rw [key, key, hns]
  have hkv : kv' = (((kv.expireLeases now).put (d.key .lease) (encodeLease d.leaseOwner d.leaseToken)
      (some leaseId)).put (d.key .fencingLease) (.text leaseId) none) := by
    have hsnd := congrArg Prod.snd hrun
    exact hsnd.symm
  intro stored hstored
  have hne : c.key .lease ≠ d.key .fencingLease := by
    rw [hkey]
    exact fun heq => absurd ((RaftKey.text_inj).1 heq) (by decide)
  rw [hkv, MemoryRaftKv.get?_put_ne hne, ← hkey, MemoryRaftKv.get?_put_self] at hstored
  cases hstored
  exact hname

end RaftDurableCoordinator

end Cantilune
