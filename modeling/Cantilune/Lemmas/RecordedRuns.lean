import Cantilune.Base.Runs
import Cantilune.Runtime.RecordedRun

/-!
# What a recorded run keeps

Every request puts one new world on top of the head and records what it did. The references of the worlds are
all different, the history holds the observations of the head and the changes of the log, and the worlds
before a change are older than the head.
-/

namespace Cantilune

section Advances
variable {localeCompare : LocaleCompare} {epochId : EpochId} {run run' : RecordedRun} {request : RunRequest}
  {next : CollaborationSnapshot}

/-- One request: a world is put on top of the head, and the log and the history grow by what was done. -/
structure Advance (run : RecordedRun) (request : RunRequest) (next : CollaborationSnapshot)
    (run' : RecordedRun) : Prop where
  store : run'.durable.store = run.durable.store.put next
  fresh : run.durable.store.snapshots.has next.snapshotRef = false
  intact : Integrity next
  logged : run'.durable.changelog.changes = run.durable.changelog.changes ++ request.change?.toList
  rewritten : rewriteSegments run'.history = rewriteSegments run.history ++ request.change?.toList
  commit : ∀ input, request = .commit input → run.durable.store.headRef = some input.expectedHead ∧
    next = input.after ∧ next.auditTail = observationSegments run.history ∧
    observationSegments run'.history = observationSegments run.history ∧
    ∀ change ∈ run.durable.changelog.changes, change.changeId ≠ input.change.changeId
  observe : request.change? = none → ∃ current entry, run.durable.store.headRef = some current.snapshotRef ∧
    run.durable.store.get current.snapshotRef = some current ∧ next.epochId = current.epochId ∧
    next.auditTail = current.auditTail ++ [entry] ∧
    observationSegments run'.history = observationSegments run.history ++ [entry]

theorem rewriteSegments_append (history more : UnvalidatedTrace) :
    rewriteSegments (history ++ more) = rewriteSegments history ++ rewriteSegments more := List.filterMap_append

theorem observationSegments_append (history more : UnvalidatedTrace) :
    observationSegments (history ++ more) = observationSegments history ++ observationSegments more :=
  List.filterMap_append

theorem RecordedRun.commit_eq_some {input : DurableCommitInput} :
    run.commit localeCompare input = some run' ↔ Integrity input.after ∧
      validatePreCommit localeCompare run input.after input.change = true ∧
      (run.durable.commit localeCompare input).1 = .ok () ∧
      run' = { durable := (run.durable.commit localeCompare input).2, history := run.history ++ [.rewrite input.change] } := by
  unfold RecordedRun.commit
  rw [← validateSnapshotIntegrityResult_eq_none]
  by_cases hintact : validateSnapshotIntegrityResult input.after = none
  · by_cases hchecked : validatePreCommit localeCompare run input.after input.change = true
    · simp only [hintact, hchecked, ne_eq, not_true_eq_false, if_false, Bool.true_eq_false, true_and]
      rcases hcommit : run.durable.commit localeCompare input with ⟨result, durable⟩
      cases result with
      | ok u => simp [eq_comm]
      | error reason => simp
    · simp [hintact, hchecked]
  · simp [hintact]

theorem MemoryDurableCoordinator.commit_ok {d : MemoryDurableCoordinator} {input : DurableCommitInput}
    (h : (d.commit localeCompare input).1 = .ok ()) :
    d.store.headRef = some input.expectedHead ∧
      (∀ change ∈ d.changelog.changes, change.changeId ≠ input.change.changeId) ∧
      d.store.snapshots.has input.after.snapshotRef = false ∧
      (d.commit localeCompare input).2 = d.committed input := by
  rw [commit_eq] at h ⊢
  by_cases hhead : d.store.headRef = some input.expectedHead
  · by_cases hnew : (d.changelog.changes.any fun change => change.changeId = input.change.changeId) = true
    · simp [hhead, hnew] at h
    · by_cases hlog : d.continuesLog localeCompare input = false
      · simp [hhead, hnew, hlog] at h
      · by_cases hfresh : d.store.snapshots.has input.after.snapshotRef = true
        · simp [hhead, hnew, hlog, hfresh] at h
        · refine ⟨hhead, by simpa using hnew, by simpa using hfresh, ?_⟩
          simp [hhead, hnew, hlog, hfresh]
  · simp [hhead] at h

theorem advance_of_commit {input : DurableCommitInput} (h : run.commit localeCompare input = some run') :
    Advance run (.commit input) input.after run' := by
  obtain ⟨hintact, hchecked, hok, rfl⟩ := RecordedRun.commit_eq_some.1 h
  obtain ⟨hhead, hnew, hfresh, hdurable⟩ := MemoryDurableCoordinator.commit_ok hok
  have haudit : observationSegments run.history = input.after.auditTail := by
    simp only [validatePreCommit, auditTailMatchesHistory, Bool.and_eq_true, decide_eq_true_eq] at hchecked
    exact hchecked.2
  refine ⟨?_, hfresh, hintact, ?_, ?_, fun input' heq => ?_, fun hnone => nomatch hnone⟩
  · rw [hdurable]
    rfl
  · rw [hdurable]
    rfl
  · rw [rewriteSegments_append]
    rfl
  · cases heq
    refine ⟨hhead, rfl, haudit.symm, ?_, hnew⟩
    rw [observationSegments_append]
    exact List.append_nil _

theorem advance_of_observe {source : ActorRef} {payloadRef : ContentRef} {receivedAt : Timestamp}
    {nextRef : SnapshotRef} (hstored : ∀ ref s, run.durable.store.get ref = some s → s.snapshotRef = ref)
    (hfresh : run.durable.store.snapshots.has nextRef = false)
    (h : run.observe source payloadRef receivedAt nextRef = some run') :
    ∃ next, Advance run (.observe source payloadRef receivedAt nextRef) next run' := by
  obtain ⟨⟨entry, durable⟩, hingest, rfl⟩ := Option.map_eq_some_iff.1 h
  unfold ingestObservation at hingest
  cases hhead : run.durable.store.headRef with
  | none => simp [hhead] at hingest
  | some expectedHead =>
      cases hcurrent : run.durable.store.get expectedHead with
      | none => simp [hhead, hcurrent] at hingest
      | some current =>
          obtain rfl := hstored expectedHead current hcurrent
          let next := withSnapshotRef (appendObservation current source payloadRef receivedAt) nextRef
          have hswap : run.durable.compareAndSwapHead current.snapshotRef next =
              (true, { run.durable with store := run.durable.store.put next }) := by
            simp [MemoryDurableCoordinator.compareAndSwapHead, MemoryCollaborationStore.compareAndSwapHead, hhead]
          have hlast : next.auditTail =
              current.auditTail ++ [⟨nextSequenceNo current.auditTail, source, payloadRef, receivedAt⟩] := rfl
          simp only [hhead, hcurrent] at hingest
          split at hingest
          · cases hingest
          rename_i hintact
          rw [show run.durable.compareAndSwapHead current.snapshotRef
            (withSnapshotRef (appendObservation current source payloadRef receivedAt) nextRef) = _ from hswap] at hingest
          rw [if_pos rfl, show (withSnapshotRef (appendObservation current source payloadRef receivedAt)
            nextRef).auditTail = _ from hlast, List.getLast?_concat] at hingest
          cases hingest
          refine ⟨next, rfl, hfresh, validateSnapshotIntegrityResult_eq_none.1 (not_not.1 hintact), ?_, ?_,
            (fun input heq => nomatch heq), fun _ => ⟨current, _, hhead, hcurrent, rfl, hlast, ?_⟩⟩
          · exact (List.append_nil _).symm
          · rw [rewriteSegments_append]
            rfl
          · rw [observationSegments_append]
            rfl

/-! ## The books of a run -/

/-- What holds of every run: the head is stored, every stored world is intact, of one epoch and no newer than
the head, and the history holds the observations of the head and the changes of the log. -/
structure RunBooks (epochId : EpochId) (run : RecordedRun) : Prop where
  head : ∃ current, run.durable.store.headRef = some current.snapshotRef ∧
    run.durable.store.get current.snapshotRef = some current ∧
    observationSegments run.history = current.auditTail
  stored : ∀ ref s, run.durable.store.get ref = some s → s.snapshotRef = ref ∧ Integrity s ∧ s.epochId = epochId ∧
    s.auditTail.length ≤ (observationSegments run.history).length
  logged : rewriteSegments run.history = run.durable.changelog.changes
  changes : ∀ change ∈ run.durable.changelog.changes, change.epochId = epochId ∧
    run.durable.store.snapshots.has change.beforeRef = true ∧
    run.durable.store.snapshots.has change.afterRef = true ∧
    run.durable.store.headRef ≠ some change.beforeRef
  unique : (run.durable.changelog.changes.map (·.changeId)).Nodup

theorem runBooks_start {initial : CollaborationSnapshot} (h : Integrity initial) :
    RunBooks initial.epochId (.start initial) := by
  have hget : ∀ ref, (RecordedRun.start initial).durable.store.get ref =
      if ref = initial.snapshotRef then some initial else none := by
    intro ref
    exact OrdMap.get?_set _ _ _ _
  have hobservations : ∀ entries : List ObservationEntry,
      observationSegments (seedFromAuditTail entries) = entries := by
    intro entries
    induction entries with
    | nil => rfl
    | cons entry entries ih => exact congrArg (entry :: ·) ih
  have hrewrites : ∀ entries : List ObservationEntry, rewriteSegments (seedFromAuditTail entries) = [] := by
    intro entries
    induction entries with
    | nil => rfl
    | cons entry entries ih => exact ih
  refine ⟨⟨initial, rfl, by rw [hget, if_pos rfl], hobservations _⟩, fun ref s hs => ?_, hrewrites _,
    (fun change hmem => nomatch hmem), List.nodup_nil⟩
  rw [hget] at hs
  split at hs
  · rename_i href
    cases hs
    exact ⟨href.symm, h, rfl, (congrArg List.length (hobservations initial.auditTail)).ge⟩
  · cases hs

theorem exists_advance (hbooks : RunBooks epochId run) (h : RunStep localeCompare epochId run request run') :
    ∃ next, Advance run request next run' := by
  obtain ⟨hbuilt, hrequest⟩ := h
  cases request with
  | commit input => exact ⟨_, advance_of_commit hrequest⟩
  | observe source payloadRef receivedAt nextRef =>
      exact advance_of_observe (fun ref s hs => (hbooks.stored ref s hs).1) hbuilt hrequest

theorem Advance.get (h : Advance run request next run') (ref : SnapshotRef) : run'.durable.store.get ref =
    if ref = next.snapshotRef then some next else run.durable.store.get ref := by
  rw [h.store]
  exact OrdMap.get?_set _ _ _ _

theorem Advance.head (h : Advance run request next run') : run'.durable.store.headRef = some next.snapshotRef := by
  rw [h.store]
  rfl

theorem Advance.has (h : Advance run request next run') {ref : SnapshotRef}
    (hhas : run.durable.store.snapshots.has ref = true) : run'.durable.store.snapshots.has ref = true := by
  rw [h.store]
  have hset := OrdMap.has_set run.durable.store.snapshots next.snapshotRef ref next
  exact hset.trans (by simp [hhas])

theorem Advance.head_ne (h : Advance run request next run') {ref : SnapshotRef}
    (hhas : run.durable.store.snapshots.has ref = true) : run'.durable.store.headRef ≠ some ref := by
  rw [h.head]
  intro heq
  cases heq
  exact absurd hhas (by simp [h.fresh])

theorem RunBooks.step (hbooks : RunBooks epochId run) (h : RunStep localeCompare epochId run request run') :
    RunBooks epochId run' := by
  obtain ⟨next, hadvance⟩ := exists_advance hbooks h
  obtain ⟨current, hhead, hcurrent, haudit⟩ := hbooks.head
  have hhas : run.durable.store.snapshots.has current.snapshotRef = true := OrdMap.has_of_get? hcurrent
  -- the new world is of the epoch, and the history has its observations
  have hnext : next.epochId = epochId ∧ observationSegments run'.history = next.auditTail ∧
      (observationSegments run.history).length ≤ (observationSegments run'.history).length := by
    cases request with
    | commit input =>
        obtain ⟨-, rfl, hnextAudit, hsame, -⟩ := hadvance.commit input rfl
        exact ⟨h.1.2.2.2, by rw [hsame, hnextAudit], by rw [hsame]⟩
    | observe source payloadRef receivedAt nextRef =>
        obtain ⟨current', entry, hhead', hcurrent', hepoch, hnextAudit, hmore⟩ := hadvance.observe rfl
        have hrefs : current'.snapshotRef = current.snapshotRef := Option.some.inj (hhead'.symm.trans hhead)
        rw [hrefs] at hcurrent'
        obtain rfl : current' = current := Option.some.inj (hcurrent'.symm.trans hcurrent)
        refine ⟨hepoch.trans (hbooks.stored _ _ hcurrent).2.2.1, by rw [hmore, hnextAudit, haudit], ?_⟩
        rw [hmore, List.length_append]
        exact Nat.le_add_right _ _
  obtain ⟨hepoch, hobserved, hlonger⟩ := hnext
  -- the change, if one was committed, leads from the head to the new world
  have hchange : ∀ change ∈ request.change?, change.epochId = epochId ∧ change.beforeRef = current.snapshotRef ∧
      change.afterRef = next.snapshotRef ∧ ∀ other ∈ run.durable.changelog.changes, other.changeId ≠ change.changeId := by
    intro change hmem
    cases request with
    | observe => cases hmem
    | commit input =>
        cases hmem
        obtain ⟨hexpected, rfl, -, -, hnew⟩ := hadvance.commit input rfl
        obtain ⟨hbefore, hafter, hchangeEpoch, -⟩ := h.1
        exact ⟨hchangeEpoch, hbefore.trans (Option.some.inj (hexpected.symm.trans hhead)), hafter, hnew⟩
  refine ⟨⟨next, hadvance.head, by rw [hadvance.get, if_pos rfl], hobserved⟩, fun ref s hs => ?_, ?_,
    fun change hmem => ?_, ?_⟩
  · rw [hadvance.get] at hs
    split at hs
    · rename_i href
      cases hs
      exact ⟨href.symm, hadvance.intact, hepoch, by rw [hobserved]⟩
    · obtain ⟨href, hintact, hepoch, hlength⟩ := hbooks.stored ref s hs
      exact ⟨href, hintact, hepoch, hlength.trans hlonger⟩
  · rw [hadvance.rewritten, hadvance.logged, hbooks.logged]
  · rw [hadvance.logged] at hmem
    rcases List.mem_append.1 hmem with hmem | hmem
    · obtain ⟨hepoch, hbefore, hafter, -⟩ := hbooks.changes change hmem
      exact ⟨hepoch, hadvance.has hbefore, hadvance.has hafter, hadvance.head_ne hbefore⟩
    · obtain ⟨hepoch, hbefore, hafter, -⟩ := hchange change (Option.mem_toList.1 hmem)
      rw [← hbefore] at hhas
      refine ⟨hepoch, hadvance.has hhas, ?_, hadvance.head_ne hhas⟩
      exact OrdMap.has_of_get? ((hadvance.get change.afterRef).trans (if_pos hafter))
  · rw [hadvance.logged, List.map_append, List.nodup_append]
    refine ⟨hbooks.unique, ?_, ?_⟩
    · cases request.change? <;> simp
    · intro id hid id' hid'
      obtain ⟨other, hother, rfl⟩ := List.mem_map.1 hid
      obtain ⟨change, hmem, rfl⟩ := List.mem_map.1 hid'
      exact (hchange change (Option.mem_toList.1 hmem)).2.2.2 other hother

theorem RunBooks.of_run {requests : List RunRequest} (hbooks : RunBooks epochId run)
    (r : Run (RunStep localeCompare epochId) run requests run') : RunBooks epochId run' :=
  r.invariant (fun _ _ _ h hbooks => hbooks.step h) hbooks

end Advances

end Cantilune
