import Cantilune.Codec.UnloggedAdvance
import Cantilune.Theorems.ObservableRuns

/-!
# Cursors into the change log

Whoever asks the coordinator for the changes since a head of the run gets those that were committed after it, each
of them once and in order, whatever observations lie between.
-/

namespace Cantilune

section Cursors
variable {localeCompare : LocaleCompare} {epochId : EpochId} {run run' : RecordedRun} {requests later : List RunRequest}
  {s t w : CollaborationSnapshot} {ref : SnapshotRef} {resolve : SnapshotRef → Option CollaborationSnapshot}
  {pre post : List CoordinationChange} {change : CoordinationChange}

theorem changesSince_direct (hpre : ∀ c ∈ pre, c.beforeRef ≠ ref) (hchange : change.beforeRef = ref) :
    changesSince localeCompare ref (pre ++ change :: post) resolve = change :: post := by
  have hdirect : (pre ++ change :: post).dropWhile (fun c => decide (c.beforeRef ≠ ref)) = change :: post := by
    rw [List.dropWhile_append_of_pos (fun c hc => decide_eq_true (hpre c hc))]
    exact List.dropWhile_cons_of_neg (by simp [hchange])
  rw [changesSince]
  simp only [hdirect]
  simp

theorem anchorAfter_le (h : ∀ c ∈ post, c.afterRef ≠ ref) : anchorAfter ref (pre ++ post) ≤ pre.length := by
  unfold anchorAfter
  split
  · rename_i anchor hanchor
    obtain ⟨hlt, hfound, -⟩ := List.findIdx?_eq_some_iff_getElem.1 hanchor
    by_contra hle
    rw [List.getElem_append_right (by omega)] at hfound
    exact h _ (List.getElem_mem _) (of_decide_eq_true hfound)
  · exact Nat.zero_le _

theorem changesSince_bridged (hdirect : ∀ c ∈ pre ++ post, c.beforeRef ≠ ref) (hw : resolve ref = some w)
    (hafter : ∀ c ∈ post, c.afterRef ≠ ref)
    (hpre : ∀ c ∈ pre, (resolve c.beforeRef).any (isVerifiableUnloggedAdvance localeCompare w) = false)
    (hpost : ∀ c ∈ post.head?, (resolve c.beforeRef).any (isVerifiableUnloggedAdvance localeCompare w) = true) :
    changesSince localeCompare ref (pre ++ post) resolve = post := by
  have hnone : (pre ++ post).dropWhile (fun c => decide (c.beforeRef ≠ ref)) = [] :=
    List.dropWhile_eq_nil_iff.2 fun c hc => decide_eq_true (hdirect c hc)
  rw [changesSince]
  simp only [hnone, List.length_nil, gt_iff_lt, Nat.lt_irrefl, if_false, hw]
  rw [bridgedSuffix, List.drop_append_of_le_length (anchorAfter_le hafter), List.dropWhile_append_of_pos]
  · cases post with
    | nil => rfl
    | cons c post => exact List.dropWhile_cons_of_neg (by simpa using hpost c rfl)
  · intro c hc
    rw [Bool.not_eq_true']
    exact hpre c (List.mem_of_mem_drop hc)

/-! ## Observed worlds -/

theorem rel_self {V : Type} {compare : V → V → Bool} (h : ∀ v, compare v v = true) (x : Option V) :
    Option.Rel (fun v w => compare v w = true) x x := by
  cases x with
  | none => exact .none
  | some v => exact .some (h v)

theorem comparedAlike_of_movedTo {auditTail : List ObservationEntry} (h : t = movedTo s ref epochId auditTail) :
    ComparedAlike localeCompare s t := by
  subst h
  refine ⟨rfl, fun id => rel_self ?_ _, fun id => rel_self ?_ _, fun id => rel_self ?_ _, fun id => rel_self ?_ _,
    fun id => rel_self ?_ _, rfl, rfl⟩
  · simp [compareParticipant]
  · simp [compareArtifact]
  · simp [compareCapability]
  · simp [compareSession]
  · simp [compareLink]

theorem keysLineUp_of_movedTo {auditTail : List ObservationEntry} (h : t = movedTo s ref epochId auditTail) :
    KeysLineUp localeCompare s t := by
  subst h
  exact ⟨rfl, rfl, rfl, rfl, rfl⟩

def AtHead (run : RecordedRun) (s : CollaborationSnapshot) : Prop :=
  run.durable.store.headRef = some s.snapshotRef ∧ run.durable.store.get s.snapshotRef = some s

theorem AtHead.eq (hs : AtHead run s) (ht : AtHead run t) : s = t := by
  have href := Option.some.inj (hs.1.symm.trans ht.1)
  have hget := hs.2
  rw [href] at hget
  exact Option.some.inj (hget.symm.trans ht.2)

theorem atHead_observe {source : ActorRef} {payloadRef : ContentRef} {receivedAt : Timestamp} {nextRef : SnapshotRef}
    (h : RunStep localeCompare epochId run (.observe source payloadRef receivedAt nextRef) run') (hs : AtHead run s) :
    AtHead run' (withSnapshotRef (appendObservation s source payloadRef receivedAt) nextRef) := by
  obtain ⟨-, hobserve⟩ := h
  obtain ⟨⟨entry, durable⟩, hingest, rfl⟩ := Option.map_eq_some_iff.1 hobserve
  unfold ingestObservation at hingest
  simp only [hs.1, hs.2] at hingest
  have hswap : run.durable.compareAndSwapHead s.snapshotRef
      (withSnapshotRef (appendObservation s source payloadRef receivedAt) nextRef) = (true, { run.durable with
        store := run.durable.store.put (withSnapshotRef (appendObservation s source payloadRef receivedAt) nextRef) }) := by
    simp [MemoryDurableCoordinator.compareAndSwapHead, MemoryCollaborationStore.compareAndSwapHead, hs.1]
  split at hingest
  · cases hingest
  · rw [hswap] at hingest
    obtain ⟨_, -, heq⟩ := Option.map_eq_some_iff.1 hingest
    cases heq
    exact ⟨rfl, OrdMap.get?_set_self _ _ _⟩

theorem observed_of_run (r : Run (RunStep localeCompare epochId) run requests run')
    (hnone : committedChanges requests = []) (hs : AtHead run s) (ht : AtHead run' t) :
    ∃ steps, Run UnloggedStep.Leads s steps t ∧ t.epochId = s.epochId ∧
      t.auditTail.length = s.auditTail.length + requests.length := by
  induction r generalizing s with
  | nil =>
      cases hs.eq ht
      exact ⟨[], .nil _, rfl, rfl⟩
  | @cons run mid run' request requests head tail ih =>
      cases request with
      | commit input => cases hnone
      | observe source payloadRef receivedAt nextRef =>
          obtain ⟨steps, hsteps, hepoch, hlength⟩ := ih hnone (atHead_observe head hs) ht
          refine ⟨_, .cons .observe hsteps, hepoch, hlength.trans ?_⟩
          simp only [withSnapshotRef, appendObservation, List.length_append, List.length_cons, List.length_nil]
          omega

theorem advance_of_run (r : Run (RunStep localeCompare epochId) run requests run') (hne : requests ≠ [])
    (hnone : committedChanges requests = []) (hs : AtHead run s) (ht : AtHead run' t) :
    isVerifiableUnloggedAdvance localeCompare s t = true := by
  obtain ⟨steps, hsteps, hepoch, hlength⟩ := observed_of_run r hnone hs ht
  obtain ⟨entries, hmoved⟩ := movedTo_of_run hsteps
  have hpos : 0 < requests.length := List.length_pos_iff.2 hne
  rw [isVerifiableUnloggedAdvance_iff]
  refine ⟨⟨.inl (by omega), fun hother => absurd hepoch.symm hother⟩, ⟨entries, ?_⟩, comparedAlike_of_movedTo hmoved,
    keysLineUp_of_movedTo hmoved⟩
  exact (congrArg CollaborationSnapshot.auditTail hmoved).trans rfl

/-! ## The first change after a head -/

theorem exists_first_commit (h : post.head? = some change) (hpost : committedChanges later = post) :
    ∃ observed input rest, later = observed ++ .commit input :: rest ∧ input.change = change ∧
      committedChanges observed = [] := by
  induction later generalizing post with
  | nil =>
      subst hpost
      cases h
  | cons request later ih =>
      cases request with
      | commit input =>
          subst hpost
          cases h
          exact ⟨[], input, later, rfl, rfl, rfl⟩
      | observe source payloadRef receivedAt nextRef =>
          obtain ⟨observed, input, rest, rfl, hchange, hnone⟩ := ih h hpost
          exact ⟨_ :: observed, input, rest, rfl, hchange, hnone⟩

theorem RunBooks.atHead (hbooks : RunBooks epochId run) :
    ∃ s, AtHead run s ∧ s.auditTail.length = (observationSegments run.history).length := by
  obtain ⟨s, hhead, hstored, haudit⟩ := hbooks.head
  exact ⟨s, ⟨hhead, hstored⟩, by rw [haudit]⟩

theorem since_later (hbooks : RunBooks epochId run) (r : Run (RunStep localeCompare epochId) run later run')
    (hhead : run.durable.store.headRef = some ref) :
    run'.durable.since localeCompare ref = committedChanges later := by
  obtain ⟨w, hw, haudit⟩ := hbooks.atHead
  obtain rfl : w.snapshotRef = ref := Option.some.inj (hw.1.symm.trans hhead)
  have hhas : run.durable.store.snapshots.has w.snapshotRef = true := OrdMap.has_of_get? hw.2
  have hbefore : ∀ c ∈ run.durable.changelog.changes, c.beforeRef ≠ w.snapshotRef := fun c hc heq =>
    (hbooks.changes c hc).2.2.2 (by rw [heq]; exact hw.1)
  -- the worlds before the earlier changes are older than the one at the head
  have holder : ∀ c ∈ run.durable.changelog.changes,
      (run'.durable.store.get c.beforeRef).any (isVerifiableUnloggedAdvance localeCompare w) = false := by
    intro c hc
    obtain ⟨before, hget⟩ := OrdMap.has_iff.1 (hbooks.changes c hc).2.1
    obtain ⟨-, -, hepoch, hlength⟩ := hbooks.stored _ _ hget
    rw [get_of_run hbooks r hget, Option.any_some]
    exact not_advance_of_older (haudit ▸ hlength) ((hbooks.stored _ _ hw.2).2.2.1.trans hepoch.symm)
  rw [MemoryDurableCoordinator.since_eq, logged_of_run hbooks r]
  have hstored := get_of_run hbooks r hw.2
  cases later with
  | nil =>
      have hnone : committedChanges [] = [] := rfl
      rw [hnone]
      exact changesSince_bridged (by simpa using hbefore) hstored (by simp) holder (by simp)
  | cons request later =>
      cases request with
      | commit input =>
          obtain ⟨next, hstep, -⟩ := Run.cons_iff.1 r
          have hstart := (commit_rewrites hbooks hstep).1
          exact changesSince_direct hbefore (Option.some.inj (hstart.symm.trans hw.1))
      | observe source payloadRef receivedAt nextRef =>
          have hlater : ∀ c ∈ committedChanges (.observe source payloadRef receivedAt nextRef :: later),
              c.beforeRef ≠ w.snapshotRef ∧ c.afterRef ≠ w.snapshotRef := by
            intro c hc
            obtain ⟨earlier, input, rest, mid, hsplit, -, rearlier, hstart, hfresh⟩ := change_of_run hbooks r hc
            have hne : earlier ≠ [] := by
              rintro rfl
              cases hsplit
            constructor
            · intro heq
              rw [heq] at hstart
              exact head_ne_of_run hbooks rearlier hne hhas hstart
            · intro heq
              rw [heq, OrdMap.has_of_get? (get_of_run hbooks rearlier hw.2)] at hfresh
              cases hfresh
          refine changesSince_bridged ?_ hstored (fun c hc => (hlater c hc).2) holder fun c hc => ?_
          · intro c hc
            rcases List.mem_append.1 hc with hc | hc
            · exact hbefore c hc
            · exact (hlater c hc).1
          · obtain ⟨observed, input, rest, hsplit, rfl, hnone⟩ := exists_first_commit hc rfl
            have hne : observed ≠ [] := by
              rintro rfl
              cases hsplit
            rw [hsplit] at r
            obtain ⟨mid, robserved, rrest⟩ := Run.append_iff.1 r
            obtain ⟨next, hstep, -⟩ := Run.cons_iff.1 rrest
            have hmid := hbooks.of_run robserved
            obtain ⟨t, ht, -⟩ := hmid.atHead
            have hstart := Option.some.inj ((commit_rewrites hmid hstep).1.symm.trans ht.1)
            rw [hstart, get_of_run hmid rrest ht.2, Option.any_some]
            exact advance_of_run robserved hne hnone hw ht

end Cursors

/-- The books are kept in every run from an intact world. -/
theorem recorded_run_books (localeCompare : LocaleCompare) {initial : CollaborationSnapshot}
    (hintact : Integrity initial) {requests : List RunRequest} {run : RecordedRun}
    (hrun : Run (RunStep localeCompare initial.epochId) (.start initial) requests run) :
    RunBooks initial.epochId run :=
  (runBooks_start hintact).of_run hrun

theorem waitRunObserved_books : RunBooks "e1" waitRunObserved :=
  have hintact : Integrity (waitWorld "s0" false) := by decide +kernel
  recorded_run_books unitCollation hintact waitRunObserved_ingested

theorem since_exact (localeCompare : LocaleCompare) {initial : CollaborationSnapshot} (hintact : Integrity initial)
    {earlier later : List RunRequest} {run run' : RecordedRun} {ref : SnapshotRef}
    (hearlier : Run (RunStep localeCompare initial.epochId) (.start initial) earlier run)
    (hlater : Run (RunStep localeCompare initial.epochId) run later run')
    (hhead : run.durable.store.headRef = some ref) :
    run'.durable.since localeCompare ref = committedChanges later :=
  since_later ((runBooks_start hintact).of_run hearlier) hlater hhead

theorem waitRunObserved_since : waitRunObserved.durable.since unitCollation "s0" = [waitCommit.change] ∧
    waitRunObserved.durable.since unitCollation "s1" = [] :=
  have hintact : Integrity (waitWorld "s0" false) := by decide +kernel
  have hobserved : Run (RunStep unitCollation "e1") waitRun [.observe ⟨"alice", .agent⟩ "p" "t2" "s2"] waitRunObserved :=
    .single ⟨by decide +kernel, by decide +kernel⟩
  ⟨since_exact unitCollation hintact (.nil _) waitRunObserved_ingested rfl,
    since_exact unitCollation hintact waitRun_committed hobserved (by decide +kernel)⟩

end Cantilune
