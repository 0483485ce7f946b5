import Cantilune.Base.Runs
import Cantilune.Lemmas.LockTables

/-!
# The lock tables agree

However the clients of the key-value store interleave, the calls that return have the results of one table
that takes them in the order of their writes: a write goes through only on the version that was read. The
tables then agree with the array in memory as long as JSON carries the expiries, which it does for every
lease but those of infinite length.
-/

namespace Cantilune

namespace RaftResourceLockTable

variable {ι : Type} {localeCompare : LocaleCompare} {key : String} {s t : State ι}

/-! ## What holds in every state -/

def timedCalls (s : State ι) : List TimedCall := s.returned.map (·.timed)

def table (s : State ι) : List LockEntryWire := (runTable LockWire.call [] (timedCalls s)).2

def storedVersion (key : String) (s : State ι) : Option Nat := (s.kv.store.get? key).map (·.version)

/-- Stored without a lease, and counted from one. -/
structure Plain (stored : StoredEntry Json) : Prop where
  leaseId : stored.leaseId = none
  created : 0 < stored.createRevision
  version : 0 < stored.version

/-- An attempt on the version that is still stored has worked out the next call of the table. -/
structure Prepared (key : String) (s : State ι) (c : LockCall) (a : Attempt) : Prop where
  call : a.timed.call = c
  ordered : a.timed.clock.checked ≤ a.timed.clock.stamped
  past : a.timed.clock.stamped ≤ s.clock
  version : a.currentVersion.getD 0 ≤ (storedVersion key s).getD 0
  positive : ∀ v ∈ a.currentVersion, 0 < v
  current : a.currentVersion = storedVersion key s →
    (a.result, a.next.map LockWire.image) = LockWire.call (table s) a.timed ∧
      ∀ r ∈ s.returned, r.timed.clock.stamped ≤ a.timed.clock.checked

structure Linear (key : String) (s : State ι) : Prop where
  results : s.returned.map (·.result) = (runTable LockWire.call [] (timedCalls s)).1
  stored : LockWire.decodeLocks ((s.kv.store.get? key).map (·.value)) = some (table s)
  plain : ∀ stored, s.kv.store.get? key = some stored → Plain stored
  past : ∀ r ∈ s.returned, r.timed.clock.stamped ≤ s.clock
  ordered : ∀ r ∈ s.returned, r.timed.clock.checked ≤ r.timed.clock.stamped
  sorted : s.returned.Pairwise fun r r' => r.timed.clock.stamped ≤ r'.timed.clock.checked
  prepared : ∀ client c attempt a, s.clients client = .ready c attempt a → Prepared key s c a
  thrown : ∀ e ∈ s.thrown, e.2 = exhausted

theorem linear_start {kv : MemoryRaftKv Json} {clock : Nat} (h : kv.store.get? key = none) :
    Linear key (@start ι kv clock) where
  results := rfl
  stored := by simp [start, h, LockWire.decodeLocks, table, timedCalls, runTable]
  plain := by simp [start, h]
  past := by simp [start]
  ordered := by simp [start]
  sorted := List.Pairwise.nil
  prepared := by
    intro client c attempt a hready
    cases hready
  thrown := by simp [start]

/-! ## Steps -/

theorem Prepared.frame {c : LockCall} {a : Attempt} (h : Prepared key s c a)
    (hkey : t.kv.store.get? key = s.kv.store.get? key) (hreturned : t.returned = s.returned)
    (hclock : s.clock ≤ t.clock) : Prepared key t c a := by
  have hversion : storedVersion key t = storedVersion key s := by rw [storedVersion, storedVersion, hkey]
  have htable : table t = table s := by rw [table, table, timedCalls, timedCalls, hreturned]
  refine ⟨h.call, h.ordered, h.past.trans hclock, by rw [hversion]; exact h.version, h.positive, fun hcur => ?_⟩
  rw [htable, hreturned]
  exact h.current (by rw [hcur, hversion])

theorem Linear.frame (h : Linear key s) (hkey : t.kv.store.get? key = s.kv.store.get? key)
    (hreturned : t.returned = s.returned) (hclock : s.clock ≤ t.clock)
    (hclients : ∀ client c attempt a, t.clients client = .ready c attempt a →
      s.clients client = .ready c attempt a ∨ Prepared key t c a)
    (hthrown : ∀ e ∈ t.thrown, e ∈ s.thrown ∨ e.2 = exhausted) : Linear key t where
  results := by rw [timedCalls, hreturned]; exact h.results
  stored := by rw [hkey, h.stored, table, table, timedCalls, timedCalls, hreturned]
  plain := by rw [hkey]; exact h.plain
  past := by rw [hreturned]; exact fun r hr => (h.past r hr).trans hclock
  ordered := by rw [hreturned]; exact h.ordered
  sorted := by rw [hreturned]; exact h.sorted
  prepared := by
    intro client c attempt a hready
    rcases hclients client c attempt a hready with hold | hnew
    · exact (h.prepared client c attempt a hold).frame hkey hreturned hclock
    · exact hnew
  thrown := by
    intro e he
    rcases hthrown e he with hold | hnew
    · exact h.thrown e hold
    · exact hnew

theorem Linear.get?_expireLeases (h : Linear key s) (now : ℚ) :
    (s.kv.expireLeases now).store.get? key = s.kv.store.get? key := by
  cases hget : s.kv.store.get? key with
  | none => exact MemoryRaftKv.get?_expireLeases_of_none hget
  | some stored => exact MemoryRaftKv.get?_expireLeases_of_unleased hget (h.plain stored hget).leaseId

theorem compareClauses_all (h : Linear key s) {a : Attempt} (hpositive : ∀ v ∈ a.currentVersion, 0 < v) :
    ((compareClauses key a.currentVersion).all fun clause => matchesCompare (s.kv.store.get? clause.key) clause) =
      decide (a.currentVersion = storedVersion key s) := by
  cases hv : a.currentVersion with
  | none =>
      cases hget : s.kv.store.get? key with
      | none => simp [compareClauses, matchesCompare, hget, storedVersion]
      | some stored => simp [compareClauses, matchesCompare, hget, storedVersion, (h.plain stored hget).created]
  | some v =>
      cases hget : s.kv.store.get? key with
      | none =>
          have hne : 0 ≠ v := Nat.ne_of_lt (hpositive v hv)
          simp [compareClauses, matchesCompare, hget, storedVersion, hne]
      | some stored => simp [compareClauses, matchesCompare, hget, storedVersion, eq_comm]

variable [DecidableEq ι]

theorem setClient_ready {client other : ι} {new : Client} {c : LockCall} {attempt : Nat} {a : Attempt}
    (h : (s.setClient client new).clients other = .ready c attempt a) :
    s.clients other = .ready c attempt a ∨ new = .ready c attempt a := by
  have hupdate : Function.update s.clients client new other = .ready c attempt a := h
  by_cases hc : other = client
  · subst hc
    rw [Function.update_self] at hupdate
    exact .inr hupdate
  · rw [Function.update_of_ne hc] at hupdate
    exact .inl hupdate

theorem linear_invoke (h : Linear key s) (client : ι) (c : LockCall) :
    Linear key (s.setClient client (.calling c 0)) :=
  h.frame rfl rfl le_rfl
    (fun _ _ _ _ hready => by
      rcases setClient_ready hready with hold | hnew
      · exact .inl hold
      · cases hnew)
    fun _ he => .inl he

theorem linear_read (h : Linear key s) (client : ι) (c : LockCall) (attempt : Nat) (now : ℚ)
    {clock : ClockReadings} (hchecked : s.clock ≤ clock.checked) (hstamped : clock.checked ≤ clock.stamped) :
    Linear key (read key s client c attempt now clock) := by
  have hexpire := h.get?_expireLeases now
  have hdecode : LockWire.decodeLocks (((s.kv.expireLeases now).store.get? key).map (·.value)) = some (table s) := by
    rw [hexpire, h.stored]
  unfold read MemoryRaftKv.get
  simp only [hdecode]
  refine h.frame hexpire rfl (hchecked.trans hstamped) ?_ fun _ he => .inl he
  intro other c' attempt' a hready
  rcases setClient_ready hready with hold | hnew
  · exact .inl hold
  · right
    cases hnew
    have hversion : storedVersion key s = ((s.kv.expireLeases now).store.get? key).map (·.version) := by
      rw [hexpire]
      rfl
    refine ⟨rfl, hstamped, le_rfl, ?_, ?_, ?_⟩
    · rw [← hversion]
      exact le_of_eq (by rw [hversion]; rfl)
    · intro v hv
      obtain ⟨stored, hstored, rfl⟩ := Option.map_eq_some_iff.1 hv
      rw [hexpire] at hstored
      exact (h.plain stored hstored).version
    · intro _
      exact ⟨rfl, fun r hr => (h.past r hr).trans hchecked⟩

theorem linear_retry (h : Linear key s) (client : ι) (c : LockCall) (attempt : Nat) :
    Linear key (if attempt + 1 < maxAttempts then s.setClient client (.calling c (attempt + 1))
      else { s.setClient client .idle with thrown := s.thrown ++ [(c, exhausted)] }) := by
  split
  · refine h.frame rfl rfl le_rfl (fun _ _ _ _ hready => ?_) fun _ he => .inl he
    rcases setClient_ready hready with hold | hnew
    · exact .inl hold
    · cases hnew
  · refine h.frame rfl rfl le_rfl (fun _ _ _ _ hready => ?_) fun e he => ?_
    · rcases setClient_ready hready with hold | hnew
      · exact .inl hold
      · cases hnew
    · rcases List.mem_append.1 he with he | he
      · exact .inl he
      · exact .inr (by rw [List.mem_singleton.1 he])

def written (key : String) (s : State ι) (client : ι) (a : Attempt) : State ι :=
  { s.setClient client .idle with
    kv := s.kv.put key (LockWire.encodeLocks a.next) none
    returned := s.returned ++ [{ timed := a.timed, result := a.result }] }

theorem linear_written (h : Linear key s) {client : ι} {c : LockCall} {a : Attempt} (hprep : Prepared key s c a)
    (hversion : a.currentVersion = storedVersion key s) : Linear key (written key s client a) := by
  obtain ⟨hcall, hlast⟩ := hprep.current hversion
  have htimed : timedCalls (written key s client a) = timedCalls s ++ [a.timed] := by
    simp [timedCalls, written]
  have hresult : (LockWire.call (table s) a.timed).1 = a.result := congrArg Prod.fst hcall.symm
  have hnext : (LockWire.call (table s) a.timed).2 = a.next.map LockWire.image := congrArg Prod.snd hcall.symm
  have hrun := runTable_snoc LockWire.call [] (timedCalls s) a.timed
  have htable : table (written key s client a) = a.next.map LockWire.image := by
    rw [table, htimed, hrun]
    exact hnext
  have hstored : (written key s client a).kv.store.get? key = some _ := MemoryRaftKv.get?_put_self
  have hnewVersion : storedVersion key (written key s client a) = some ((storedVersion key s).getD 0 + 1) := by
    rw [storedVersion, hstored]
    rfl
  refine ⟨?_, ?_, ?_, ?_, ?_, ?_, ?_, h.thrown⟩
  · rw [htimed, hrun, ← h.results]
    simp only [written, List.map_append, List.map_cons, List.map_nil]
    rw [← hresult]
    rfl
  · rw [hstored, htable]
    exact LockWire.decodeLocks_encodeLocks a.next
  · intro stored hget
    rw [hstored, Option.some.injEq] at hget
    subst hget
    refine ⟨rfl, ?_, Nat.succ_pos _⟩
    cases hold : s.kv.store.get? key with
    | none => exact Nat.succ_pos _
    | some old => exact (h.plain old hold).created
  · intro r hr
    rcases List.mem_append.1 hr with hr | hr
    · exact h.past r hr
    · rw [List.mem_singleton.1 hr]
      exact hprep.past
  · intro r hr
    rcases List.mem_append.1 hr with hr | hr
    · exact h.ordered r hr
    · rw [List.mem_singleton.1 hr]
      exact hprep.ordered
  · refine List.pairwise_append.2 ⟨h.sorted, List.pairwise_singleton _ _, fun r hr r' hr' => ?_⟩
    rw [List.mem_singleton.1 hr']
    exact hlast r hr
  · intro other c' attempt' a' hready
    rcases setClient_ready (s := s) hready with hold | hnew
    · have hp := h.prepared other c' attempt' a' hold
      refine ⟨hp.call, hp.ordered, hp.past, ?_, hp.positive, fun hcur => ?_⟩
      · rw [hnewVersion]
        exact hp.version.trans (Nat.le_succ _)
      · have hle := hp.version
        rw [hcur, hnewVersion] at hle
        exact absurd hle (Nat.not_succ_le_self _)
    · cases hnew

theorem linear_swap (h : Linear key s) {client : ι} {c : LockCall} {attempt : Nat} {a : Attempt}
    (hready : s.clients client = .ready c attempt a) (now : ℚ) :
    Linear key (swap localeCompare key s client c attempt a now) := by
  have hexpire := h.get?_expireLeases now
  have h' : Linear key { s with kv := s.kv.expireLeases now } :=
    h.frame hexpire rfl le_rfl (fun _ _ _ _ hr => .inl hr) fun _ he => .inl he
  have hprep := h'.prepared client c attempt a hready
  have hall := compareClauses_all h' hprep.positive
  unfold swap
  simp only
  rw [MemoryRaftKv.txn_snd]
  simp only [MemoryRaftKv.txn_succeeded, hall]
  by_cases hversion : a.currentVersion = storedVersion key { s with kv := s.kv.expireLeases now }
  · simp only [hversion, decide_true, if_true]
    exact linear_written h' hprep hversion
  · simp only [hversion, decide_false, Bool.false_eq_true, if_false]
    exact linear_retry h' client c attempt

theorem linear_step {l : Label ι} (h : Linear key s) (hstep : Steps localeCompare key s l t) : Linear key t := by
  unfold Steps step at hstep
  cases l with
  | invoke client c =>
      cases hc : s.clients client with
      | idle =>
          simp only [hc, Option.some.injEq] at hstep
          subst hstep
          exact linear_invoke h client c
      | _ => simp [hc] at hstep
  | read client now clock =>
      cases hc : s.clients client with
      | calling c attempt =>
          simp only [hc, Option.ite_none_right_eq_some, Option.some.injEq] at hstep
          obtain ⟨⟨hchecked, hstamped⟩, rfl⟩ := hstep
          exact linear_read h client c attempt now hchecked hstamped
      | _ => simp [hc] at hstep
  | swap client now =>
      cases hc : s.clients client with
      | ready c attempt a =>
          simp only [hc, Option.some.injEq] at hstep
          subst hstep
          exact linear_swap h hc now
      | _ => simp [hc] at hstep
  | other kv =>
      simp only [Option.ite_none_right_eq_some, Option.some.injEq] at hstep
      obtain ⟨hkey, rfl⟩ := hstep
      exact h.frame hkey rfl le_rfl (fun _ _ _ _ hready => .inl hready) fun _ he => .inl he

theorem linear_of_run {kv : MemoryRaftKv Json} {clock : Nat} {labels : List (Label ι)}
    (h : kv.store.get? key = none) (r : Run (Steps localeCompare key) (start kv clock) labels s) : Linear key s :=
  r.invariant (fun _ _ _ hstep hl => linear_step hl hstep) (linear_start h)

end RaftResourceLockTable

/-! ## The runs of the tables -/

theorem clockOrdered_of_pairwise {now : Nat} {cs : List TimedCall} (hnow : ∀ c ∈ cs, now ≤ c.clock.checked)
    (hordered : ∀ c ∈ cs, c.clock.checked ≤ c.clock.stamped)
    (hsorted : cs.Pairwise fun c c' => c.clock.stamped ≤ c'.clock.checked) : ClockOrdered now cs := by
  induction cs generalizing now with
  | nil => trivial
  | cons c cs ih =>
      rw [List.pairwise_cons] at hsorted
      exact ⟨hnow c (by simp), hordered c (by simp),
        ih hsorted.1 (fun c' hc' => hordered c' (by simp [hc'])) hsorted.2⟩

theorem RaftResourceLockTable.Linear.clockOrdered {ι : Type} {key : String} {s : RaftResourceLockTable.State ι}
    (h : RaftResourceLockTable.Linear key s) : ClockOrdered 0 (RaftResourceLockTable.timedCalls s) := by
  refine clockOrdered_of_pairwise (fun _ _ => Nat.zero_le _) (fun c hc => ?_) ?_
  · obtain ⟨r, hr, rfl⟩ := List.mem_map.1 hc
    exact h.ordered r hr
  · exact List.pairwise_map.2 h.sorted

theorem agree_nil (now : Nat) : Agree now [] [] := ⟨by simp, by simp, rfl⟩

theorem results_agree {cs : List TimedCall} (hclock : ClockOrdered 0 cs) (hdistinct : DistinctAcquires cs)
    (hleases : LeasesCarried cs) :
    (runTable LockWire.call [] cs).1 = (runTable MemoryResourceLockTable.call [] cs).1 :=
  (agree_run (agree_nil 0) hclock hleases hdistinct (by simp)).symm

theorem exclusive_wireRun (cs : List TimedCall) : LockWire.Exclusive (runTable LockWire.call [] cs).2 :=
  runTable_invariant (fun _ c h => LockWire.exclusive_call c h) LockWire.exclusive_nil cs

namespace FileResourceLockTable

def run (path : String) (file : Option Json) : List TimedCall → Except String (List LockResult × Option Json)
  | [] => .ok ([], file)
  | c :: cs => do
      let (result, file) ← call path file c
      let (results, file) ← run path file cs
      .ok (result :: results, file)

theorem run_eq_ok (path : String) {file : Option Json} {locks : List LockEntryWire}
    (h : LockWire.decodeLocks file = some locks) (cs : List TimedCall) :
    ∃ file', run path file cs = .ok ((runTable LockWire.call locks cs).1, file') ∧
      LockWire.decodeLocks file' = some (runTable LockWire.call locks cs).2 := by
  induction cs generalizing file locks with
  | nil => exact ⟨file, rfl, h⟩
  | cons c cs ih =>
      obtain ⟨file', hrun, hdecode⟩ := ih (LockWire.decodeLocks_encodeLocks
        (LockWire.work (LockWire.releaseExpired c.clock.checked locks) c).2)
      refine ⟨file', ?_, hdecode⟩
      unfold run call
      simp only [h]
      change ((run path (some _) cs).bind fun r => Except.ok (_ :: r.1, r.2)) = _
      rw [hrun]
      rfl

end FileResourceLockTable

/-- All three tables keep the footprints that they hold apart. As long as every lease is carried by JSON, the
calls on the file and those that return from the key-value store, in the order of their writes, have the
results of the array in memory; no call throws but by losing its last attempt. -/
theorem lock_tables_agree {ι : Type} [DecidableEq ι] (localeCompare : LocaleCompare) (key path : String) :
    (∀ cs, MemoryResourceLockTable.Exclusive (runTable MemoryResourceLockTable.call [] cs).2) ∧
    (∀ cs, ∃ results file locks, FileResourceLockTable.run path none cs = .ok (results, file) ∧
      LockWire.decodeLocks file = some locks ∧ LockWire.Exclusive locks ∧
      (ClockOrdered 0 cs → DistinctAcquires cs → LeasesCarried cs →
        results = (runTable MemoryResourceLockTable.call [] cs).1)) ∧
    ∀ (kv : MemoryRaftKv Json) (clock : Nat) (labels : List (RaftResourceLockTable.Label ι))
      (s : RaftResourceLockTable.State ι), kv.store.get? key = none →
      Run (RaftResourceLockTable.Steps localeCompare key) (RaftResourceLockTable.start kv clock) labels s →
      (∃ locks, LockWire.decodeLocks ((s.kv.store.get? key).map (·.value)) = some locks ∧
        LockWire.Exclusive locks) ∧
      ClockOrdered 0 (RaftResourceLockTable.timedCalls s) ∧
      (∀ e ∈ s.thrown, e.2 = RaftResourceLockTable.exhausted) ∧
      (DistinctAcquires (RaftResourceLockTable.timedCalls s) →
        LeasesCarried (RaftResourceLockTable.timedCalls s) →
        s.returned.map (·.result) =
          (runTable MemoryResourceLockTable.call [] (RaftResourceLockTable.timedCalls s)).1) := by
  refine ⟨?_, ?_, ?_⟩
  · exact runTable_invariant (fun _ c h => MemoryResourceLockTable.exclusive_call c h)
      MemoryResourceLockTable.exclusive_nil
  · intro cs
    obtain ⟨file, hrun, hdecode⟩ := @FileResourceLockTable.run_eq_ok path none [] rfl cs
    exact ⟨_, file, _, hrun, hdecode, exclusive_wireRun cs, results_agree⟩
  · intro kv clock labels s hkey r
    have hlinear := RaftResourceLockTable.linear_of_run hkey r
    refine ⟨⟨_, hlinear.stored, exclusive_wireRun _⟩, hlinear.clockOrdered, hlinear.thrown, fun hdistinct hleases => ?_⟩
    rw [hlinear.results, results_agree hlinear.clockOrdered hdistinct hleases]

/-! ## A lease without end -/

def planFootprint : Footprint := footprintFromTargets [⟨.artifact, "plan"⟩]

def acquirePlan (admittedId : AdmittedId) (leaseMs : Option JsNumber) : TimedCall :=
  { call := .acquire admittedId planFootprint leaseMs, clock := ⟨1, 1⟩ }

def undisturbed (client : Bool) (c : TimedCall) : List (RaftResourceLockTable.Label Bool) :=
  [.invoke client c.call, .read client 0 c.clock, .swap client 0]

/-- The plan is locked by a lease of infinite length, and acquired again. -/
def endlessCalls : List TimedCall := [acquirePlan "t1" (some (.infinity false)), acquirePlan "t2" none]

/-- The array in memory refuses the second acquire; the tables on the wire grant it. -/
theorem endlessCalls_disagree : ClockOrdered 0 endlessCalls ∧ DistinctAcquires endlessCalls ∧
    (runTable MemoryResourceLockTable.call [] endlessCalls).1 = [.boolean true, .boolean false] ∧
    (∃ file, FileResourceLockTable.run "/locks" none endlessCalls = .ok ([.boolean true, .boolean true], file)) ∧
    ∃ s, Run (RaftResourceLockTable.Steps (fun _ _ => 0) "locks")
        (RaftResourceLockTable.start .empty 0) (endlessCalls.flatMap (undisturbed true)) s ∧
      s.returned.map (·.result) = [.boolean true, .boolean true] := by
  refine ⟨by decide +kernel, by decide +kernel, by decide +kernel, ?_, ?_⟩
  · have hresults : (FileResourceLockTable.run "/locks" none endlessCalls).toOption.map Prod.fst =
        some [.boolean true, .boolean true] := by decide +kernel
    cases hrun : FileResourceLockTable.run "/locks" none endlessCalls with
    | error message =>
        rw [hrun] at hresults
        cases hresults
    | ok out =>
        rw [hrun] at hresults
        obtain ⟨results, file⟩ := out
        cases hresults
        exact ⟨file, rfl⟩
  · have hresults : ((endlessCalls.flatMap (undisturbed true)).foldlM
        (RaftResourceLockTable.step (fun _ _ => 0) "locks") (RaftResourceLockTable.start .empty 0)).map
        (fun s => s.returned.map (·.result)) = some [.boolean true, .boolean true] := by decide +kernel
    obtain ⟨s, hs, hreturned⟩ := Option.map_eq_some_iff.1 hresults
    exact ⟨s, Run.of_foldlM hs, hreturned⟩

/-- Two clients read before either writes; the one that writes second reads again and is refused. -/
def contended : List (RaftResourceLockTable.Label Bool) :=
  [.invoke true (acquirePlan "t1" (some (.finite 50))).call, .invoke false (acquirePlan "t2" none).call,
    .read true 0 ⟨1, 1⟩, .read false 0 ⟨2, 2⟩, .swap true 0, .swap false 0, .read false 0 ⟨3, 3⟩, .swap false 0]

theorem contended_agree : ∃ s, Run (RaftResourceLockTable.Steps (fun _ _ => 0) "locks")
      (RaftResourceLockTable.start .empty 0) contended s ∧
    s.returned.map (·.result) = [.boolean true, .boolean false] ∧
    s.returned.map (·.result) =
      (runTable MemoryResourceLockTable.call [] (RaftResourceLockTable.timedCalls s)).1 := by
  have hrun : (contended.foldlM (RaftResourceLockTable.step (fun _ _ => 0) "locks")
      (RaftResourceLockTable.start .empty 0)).map (fun s => (s.returned.map (·.result),
        decide (DistinctAcquires (RaftResourceLockTable.timedCalls s)),
        decide (LeasesCarried (RaftResourceLockTable.timedCalls s)))) =
      some ([.boolean true, .boolean false], true, true) := by decide +kernel
  obtain ⟨s, hs, hresults⟩ := Option.map_eq_some_iff.1 hrun
  simp only [Prod.mk.injEq, decide_eq_true_eq] at hresults
  obtain ⟨hreturned, hdistinct, hleases⟩ := hresults
  have r : Run (RaftResourceLockTable.Steps (fun _ _ => 0) "locks") (RaftResourceLockTable.start .empty 0)
      contended s := Run.of_foldlM hs
  have hagree := (@lock_tables_agree Bool _ (fun _ _ => 0) "locks" "/locks").2.2 .empty 0 contended s rfl r
  exact ⟨s, r, hreturned, hagree.2.2.2 hdistinct hleases⟩

end Cantilune
