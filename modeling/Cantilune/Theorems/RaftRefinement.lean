import Cantilune.Lemmas.RaftState
import Mathlib.Algebra.Order.Ring.Rat
import Mathlib.Tactic.IntervalCases

/-!
# The coordinator over the key-value store refines the one in memory

While the writer's lease is alive the store represents a coordinator in memory. Every method finds there what the
coordinator in memory finds, answers as it answers, and leaves the store representing what it becomes.
-/

namespace Cantilune

/-! ## Writes to the image -/

section Image

open RaftDurableCoordinator

variable {c : RaftDurableCoordinator} {values : RaftKey → Option StoredValue} {d : MemoryDurableCoordinator}

theorem RaftDurableCoordinator.Image.putHead (h : c.Image values d) {snapshot : CollaborationSnapshot}
    (hsnapshot : Reloads snapshot) :
    c.Image (Function.update (Function.update values (.snapshot snapshot.snapshotRef)
      (some (.json (encodeSnapshot snapshot).toJson))) .head (some (.text snapshot.snapshotRef)))
      { d with store := d.store.put snapshot } where
  lease := by simpa [Function.update_apply] using h.lease
  head := by simp [MemoryCollaborationStore.put]
  headNonempty := by
    rintro ref href
    cases href
    exact reloads_ref_ne hsnapshot
  binding := by simpa [Function.update_apply] using h.binding
  readBinding := h.readBinding
  snapshots := by
    intro ref
    by_cases href : ref = snapshot.snapshotRef
    · subst href
      simp [MemoryCollaborationStore.put, MemoryCollaborationStore.get]
    · simpa [Function.update_apply, MemoryCollaborationStore.put, MemoryCollaborationStore.get,
        OrdMap.get?_set_ne _ _ href, href] using h.snapshots ref
  readSnapshot := by
    intro ref s hs
    by_cases href : ref = snapshot.snapshotRef
    · subst href
      simp only [MemoryCollaborationStore.put, MemoryCollaborationStore.get, OrdMap.get?_set_self,
        Option.some.injEq] at hs
      subst hs
      exact hsnapshot
    · simp only [MemoryCollaborationStore.put, MemoryCollaborationStore.get, OrdMap.get?_set_ne _ _ href] at hs
      exact h.readSnapshot ref s hs
  changes := by simpa [Function.update_apply] using h.changes
  changeBound := by simpa [Function.update_apply] using h.changeBound
  seq := by simpa [Function.update_apply] using h.seq
  changeIds := by simpa [Function.update_apply] using h.changeIds
  recipes := by simpa [Function.update_apply] using h.recipes
  readRecipe := h.readRecipe

theorem RaftDurableCoordinator.Image.putBinding (h : c.Image values d) {binding : SchemaEpochBinding}
    (hbinding : binding.RoundTrips) :
    c.Image (Function.update values .binding (some (.json (serializeSchemaBindingWire binding))))
      { d with activeBinding := some binding } where
  lease := by simpa [Function.update_apply] using h.lease
  head := by simpa [Function.update_apply] using h.head
  headNonempty := h.headNonempty
  binding := by simp
  readBinding := by
    rintro b ⟨⟩
    exact hbinding
  snapshots := by simpa [Function.update_apply] using h.snapshots
  readSnapshot := h.readSnapshot
  changes := by simpa [Function.update_apply] using h.changes
  changeBound := by simpa [Function.update_apply] using h.changeBound
  seq := by simpa [Function.update_apply] using h.seq
  changeIds := by simpa [Function.update_apply] using h.changeIds
  recipes := by simpa [Function.update_apply] using h.recipes
  readRecipe := h.readRecipe

theorem RaftDurableCoordinator.Image.appendChange (h : c.Image values d) {change : CoordinationChange}
    {recipe : ReplayRecipe} {value : StoredValue} (hvalue : decodeStoredChange value = .ok change)
    (hrecipe : recipe.RoundTrips) :
    c.Image (Function.update (Function.update (Function.update (Function.update values
        (.change (d.changelog.changes.length + 1)) (some value))
        (.changeId change.changeId) (some (.text (toString (d.changelog.changes.length + 1)))))
        (.recipe change.changeId) (some (.json (StoredRecipe.toJson (snapshotReplayRecipe recipe)))))
        .seq (some (.text (toString (d.changelog.changes.length + 1)))))
      { d with
        changelog := { changes := d.changelog.changes ++ [change] }
        sidecar := d.sidecar.put change.changeId recipe } where
  lease := by simpa [Function.update_apply] using h.lease
  head := by simpa [Function.update_apply] using h.head
  headNonempty := h.headNonempty
  binding := by simpa [Function.update_apply] using h.binding
  readBinding := h.readBinding
  snapshots := by simpa [Function.update_apply] using h.snapshots
  readSnapshot := h.readSnapshot
  changes := by
    intro n next hn
    rw [List.getElem?_append] at hn
    split at hn
    · rename_i hlt
      obtain ⟨stored, hstored, hdecode⟩ := h.changes n next hn
      exact ⟨stored, by simpa [Function.update_apply, hlt.ne] using hstored, hdecode⟩
    · rename_i hge
      cases hn' : n - d.changelog.changes.length with
      | zero =>
          rw [hn'] at hn
          cases hn
          have hlast : n = d.changelog.changes.length := by omega
          subst hlast
          exact ⟨value, by simp, hvalue⟩
      | succ m =>
          rw [hn'] at hn
          cases hn
  changeBound := by
    intro n hn
    by_cases hlast : n = d.changelog.changes.length + 1
    · subst hlast
      simp
    · obtain ⟨hpos, hbound⟩ := h.changeBound n (by simpa [Function.update_apply, hlast] using hn)
      exact ⟨hpos, by simp; omega⟩
  seq := by
    rw [Function.update_self, Option.bind_some]
    change (decimalValue (toString (d.changelog.changes.length + 1))).getD 0 = _
    rw [decimalValue_toString, List.length_append]
    rfl
  changeIds := by
    intro id
    by_cases hid : id = change.changeId
    · subst hid
      simp
    · simpa [Function.update_apply, hid, Ne.symm hid] using h.changeIds id
  recipes := by
    intro id
    by_cases hid : id = change.changeId
    · subst hid
      simp [RecipeSidecar.put]
    · simpa [Function.update_apply, hid, RecipeSidecar.put, OrdMap.get?_set_ne _ _ hid] using h.recipes id
  readRecipe := by
    intro id r hr
    by_cases hid : id = change.changeId
    · subst hid
      simp only [RecipeSidecar.put, OrdMap.get?_set_self, Option.some.injEq] at hr
      subst hr
      exact ⟨hrecipe, snapshotReplayRecipe_idem recipe⟩
    · simp only [RecipeSidecar.put, OrdMap.get?_set_ne _ _ hid] at hr
      exact h.readRecipe id r hr

end Image

namespace RaftDurableCoordinator

open Program

variable {localeCompare : LocaleCompare} {c : RaftDurableCoordinator} {kv kv₀ : MemoryRaftKv StoredValue}
  {now : ℚ} {d d' : MemoryDurableCoordinator}

theorem returns_txn (compare : List (RaftCompare StoredValue)) (ops : List (RaftOp StoredValue)) :
    Returns (c.ActsAlive localeCompare) (c.Unchanged kv₀) (send (.txn compare ops))
      fun (result : RaftTxnResult StoredValue) kv' => ∃ kv now, c.Unchanged kv₀ kv ∧
        result.succeeded = (compare.all fun clause => matchesCompare (kv.store.get? clause.key) clause) ∧
        kv' = (MemoryRaftKv.applyOps localeCompare now (if result.succeeded then ops else []) kv).2 := by
  refine returns_request fun kv result kv' hkv hact => ?_
  obtain ⟨now, halive, hrun⟩ := hact
  have hresult : kv.txn localeCompare now compare ops [] = (result, kv') := hrun
  have hfst : (kv.txn localeCompare now compare ops []).1 = result := congrArg Prod.fst hresult
  have hsnd : (kv.txn localeCompare now compare ops []).2 = kv' := congrArg Prod.snd hresult
  refine ⟨kv.expireLeases now, now, unchanged_expireLeases hkv halive, ?_, ?_⟩
  · rw [← hfst]
    rfl
  · rw [← hsnd, ← hfst]
    rfl

theorem all_writerAndHead (h : c.Represents kv d) (expected : SnapshotRef) :
    ((c.writerAndHead expected).all fun clause => matchesCompare (kv.store.get? clause.key) clause) =
      decide (d.store.headRef = some expected) := by
  have hlease : (kv.store.get? (c.key .lease)).map (·.value) = some (encodeLease c.leaseOwner c.leaseToken) := h.lease
  have hhead : (kv.store.get? (c.key .head)).map (·.value) = d.store.headRef.map .text := h.head
  have hexpected : d.store.headRef.map StoredValue.text = some (.text expected) ↔
      d.store.headRef = some expected := by
    simp [Option.map_eq_some_iff]
  simp only [writerAndHead, List.all_cons, List.all_nil, Bool.and_true, matchesCompare, if_true, hlease, hhead,
    decide_true, Bool.true_and]
  exact decide_eq_decide.2 hexpected

theorem represents_applyOps (h : c.Represents kv d) {ops : List (RaftOp StoredValue)} (hops : ∀ op ∈ ops, c.PutsData op)
    (himage : c.Image (c.valueAt (MemoryRaftKv.applyOps localeCompare now ops kv).2) d') :
    c.Represents (MemoryRaftKv.applyOps localeCompare now ops kv).2 d' where
  toImage := himage
  changeKeys := by
    refine MemoryRaftKv.applyOps_invariant (I := c.OnlyChangeKeys) (fun op hop kv hkv => ?_) h.changeKeys
    obtain ⟨k, value, rfl, _⟩ := hops op hop
    exact onlyChangeKeys_put hkv
  unleased := by
    refine MemoryRaftKv.applyOps_invariant (I := DataUnleased c.namespace) (fun op hop kv hkv => ?_) h.unleased
    exact dataUnleased_applyOp (.inl (hops op hop)) hkv

theorem putsData_casOps (snapshot : CollaborationSnapshot) (binding : Option SchemaEpochBinding) :
    ∀ op ∈ [c.putSnapshot snapshot, c.putHead snapshot.snapshotRef] ++ (binding.map c.putBinding).toList,
      c.PutsData op := by
  intro op hop
  rcases List.mem_append.1 hop with hop | hop
  · simp only [List.mem_cons, List.not_mem_nil, or_false] at hop
    rcases hop with rfl | rfl
    · exact putsData_putSnapshot snapshot
    · exact putsData_putHead _
  · obtain ⟨b, _, rfl⟩ := Option.map_eq_some_iff.1 (Option.mem_toList.1 hop)
    exact ⟨_, _, rfl, by simp⟩

theorem returns_casHead (h : c.Represents kv₀ d) {expected : SnapshotRef} {snapshot : CollaborationSnapshot}
    {binding : Option SchemaEpochBinding} (hsnapshot : Reloads snapshot) (hbinding : ∀ b ∈ binding, b.RoundTrips) :
    Returns (c.ActsAlive localeCompare) (c.Unchanged kv₀) (c.casHead expected snapshot binding) fun swapped kv' =>
      if d.store.headRef = some expected then
        swapped = true ∧ c.Represents kv'
          { d with store := d.store.put snapshot, activeBinding := binding.or d.activeBinding }
      else swapped = false ∧ c.Represents kv' d := by
  intro kv out kv' hkv hexec
  obtain ⟨result, _, ⟨kv₁, now, hkv₁, hsucceeded, rfl⟩, hexec⟩ := (returns_txn _ _).of_bind hkv hexec
  obtain ⟨rfl, rfl⟩ := exec_done.1 hexec
  have h₁ := h.congr hkv₁
  rw [all_writerAndHead h₁ expected] at hsucceeded
  refine ⟨_, rfl, ?_⟩
  dsimp only
  by_cases hhead : d.store.headRef = some expected
  · rw [if_pos hhead]
    have hdone : result.succeeded = true := by simp [hsucceeded, hhead]
    refine ⟨hdone, ?_⟩
    rw [hdone, if_pos rfl]
    refine represents_applyOps h₁ (putsData_casOps snapshot binding) ?_
    have himage := h₁.toImage.putHead hsnapshot
    cases binding with
    | none =>
        simp only [Option.map_none, Option.toList_none, List.append_nil, putSnapshot, putHead,
          MemoryRaftKv.applyOps_put_snd, MemoryRaftKv.applyOps_nil_snd, valueAt_put]
        exact himage
    | some b =>
        simp only [Option.map_some, Option.toList_some, List.cons_append, List.nil_append, putSnapshot, putHead,
          putBinding, MemoryRaftKv.applyOps_put_snd, MemoryRaftKv.applyOps_nil_snd, valueAt_put]
        exact himage.putBinding (hbinding b rfl)
  · rw [if_neg hhead]
    have hfailed : result.succeeded = false := by simp [hsucceeded, hhead]
    refine ⟨hfailed, ?_⟩
    rw [hfailed]
    exact h₁

/-! ## Commit -/

def commitOutcome : Except DurableThrown DurableCommitResult → Option DurableCommitResult
  | .ok result => some result
  | .error (.abort reason) => some (.error reason)
  | .error (.error _) => none

theorem returns_validateCommitChain (h : c.Represents kv₀ d)
    (horder : OrdersChangeKeys localeCompare c.namespace d.changelog.changes.length) (input : DurableCommitInput) :
    Returns (c.ActsAlive localeCompare) (c.Unchanged kv₀) (c.validateCommitChain localeCompare input)
      fun continues kv => continues = d.continuesLog localeCompare input ∧ c.Unchanged kv₀ kv := by
  intro kv out kv' hkv hexec
  obtain ⟨_, kv, ⟨rfl, hkv⟩, hexec⟩ := (returns_loadLastChange h horder).of_bind hkv hexec
  unfold MemoryDurableCoordinator.continuesLog
  cases hlast : d.changelog.changes.getLast? with
  | none =>
      simp only [hlast] at hexec
      obtain ⟨rfl, rfl⟩ := exec_done.1 hexec
      exact ⟨_, rfl, rfl, hkv⟩
  | some last =>
      simp only [hlast] at hexec
      dsimp only
      rw [← changeContinuesChain_congr (reloaded_rel h.readSnapshot)]
      exact returns_loadContinuesChain (returns_loadSnapshot h) last input.change kv out kv' hkv hexec

theorem image_commitOps (h : c.Image (c.valueAt kv) d) {input : DurableCommitInput} {dto : ChangeWireDto}
    (hafter : Reloads input.after) (hchange : input.change.RoundTrips input.recipe)
    (hrecipe : input.recipe.RoundTrips) (hdto : encodeChangeWithRecipe input.change input.recipe = .ok dto) :
    c.Image (c.valueAt (MemoryRaftKv.applyOps localeCompare now
      (c.commitOps input dto (d.changelog.changes.length + 1)) kv).2) (d.committed input) := by
  have himage : c.Image _ (d.committed input) :=
    (h.appendChange (decodeStoredChange_encode hchange hdto) hrecipe).putHead hafter
  simp only [commitOps, putSnapshot, putHead, MemoryRaftKv.applyOps_put_snd, MemoryRaftKv.applyOps_nil_snd,
    valueAt_put]
  -- the six keys differ, so the order in which they are written does not matter
  convert himage using 1
  funext k
  simp only [Function.update_apply]
  split_ifs <;> simp_all

theorem triple_commitAtomic (h : c.Represents kv₀ d)
    (horder : OrdersChangeKeys localeCompare c.namespace d.changelog.changes.length) {input : DurableCommitInput}
    (hafter : Reloads input.after) (hchange : input.change.RoundTrips input.recipe)
    (hrecipe : input.recipe.RoundTrips) :
    Triple (c.ActsAlive localeCompare) (c.Unchanged kv₀) (c.commitAtomic localeCompare input) fun out kv' =>
      commitOutcome out = some (d.commit localeCompare input).1 ∧
        c.Represents kv' (d.commit localeCompare input).2 := by
  intro kv out kv' hkv hexec
  rw [MemoryDurableCoordinator.commit_eq]
  obtain ⟨_, kv, ⟨rfl, hkv⟩, hexec⟩ := (returns_loadHead h).of_bind hkv hexec
  by_cases hhead : d.store.headRef = some input.expectedHead
  case neg =>
    simp only [ne_eq, hhead, not_false_eq_true, if_true] at hexec ⊢
    obtain ⟨rfl, rfl⟩ := exec_fail.1 hexec
    exact ⟨rfl, h.congr hkv⟩
  simp only [ne_eq, hhead, not_true_eq_false, if_false] at hexec ⊢
  obtain ⟨_, kv, ⟨rfl, hkv⟩, hexec⟩ := (returns_changeIdExists h _).of_bind hkv hexec
  by_cases hknown : (d.changelog.changes.any fun change => change.changeId = input.change.changeId) = true
  case pos =>
    simp only [hknown, if_true] at hexec ⊢
    obtain ⟨rfl, rfl⟩ := exec_fail.1 hexec
    exact ⟨rfl, h.congr hkv⟩
  simp only [hknown, if_false, Bool.false_eq_true] at hexec ⊢
  obtain ⟨_, kv, ⟨rfl, hkv⟩, hexec⟩ := (returns_validateCommitChain h horder input).of_bind hkv hexec
  by_cases hchain : d.continuesLog localeCompare input = false
  case pos =>
    simp only [hchain, Bool.not_false, if_true] at hexec ⊢
    obtain ⟨rfl, rfl⟩ := exec_fail.1 hexec
    exact ⟨rfl, h.congr hkv⟩
  simp only [Bool.not_eq_false] at hchain
  simp only [hchain, Bool.not_true, Bool.false_eq_true, if_false] at hexec ⊢
  obtain ⟨_, kv, ⟨rfl, hkv⟩, hexec⟩ := (returns_get (.snapshot input.after.snapshotRef)).of_bind hkv hexec
  have hstored : (kv₀.store.get? (c.key (.snapshot input.after.snapshotRef))).isSome =
      d.store.snapshots.has input.after.snapshotRef := by
    rw [← isSome_valueAt, h.snapshots, Option.isSome_map]
    rfl
  by_cases hcollision : d.store.snapshots.has input.after.snapshotRef = true
  case pos =>
    simp only [hstored, hcollision, if_true] at hexec ⊢
    obtain ⟨rfl, rfl⟩ := exec_fail.1 hexec
    exact ⟨rfl, h.congr hkv⟩
  simp only [hstored, hcollision, if_false, Bool.false_eq_true] at hexec ⊢
  obtain ⟨_, kv, ⟨rfl, hkv⟩, hexec⟩ := (returns_get .seq).of_bind hkv hexec
  obtain ⟨dto, _, hdto, _⟩ := id hchange
  simp only [hdto] at hexec
  obtain ⟨result, _, ⟨kv₁, now, hkv₁, hsucceeded, rfl⟩, hexec⟩ := (returns_txn _ _).of_bind hkv hexec
  have h₁ := h.congr hkv₁
  have hdone : result.succeeded = true := by
    have hnewId : kv₁.store.get? (c.key (.changeId input.change.changeId)) = none := by
      have hsome := h₁.changeIds input.change.changeId
      rw [isSome_valueAt, Bool.eq_false_iff.2 hknown] at hsome
      exact Option.not_isSome_iff_eq_none.1 (by simp [hsome])
    have hnewSnapshot : kv₁.store.get? (c.key (.snapshot input.after.snapshotRef)) = none := by
      rw [hkv₁.2.get?]
      exact Option.not_isSome_iff_eq_none.1 (by simp [hstored, hcollision])
    rw [hsucceeded, commitCompares, List.all_append, all_writerAndHead h₁]
    simp [hhead, matchesCompare, hnewId, hnewSnapshot, hkv₁.2.get?]
  simp only [hdone, if_true] at hexec
  obtain ⟨rfl, rfl⟩ := exec_done.1 hexec
  refine ⟨rfl, ?_⟩
  have hseq : seqOf (kv₀.store.get? (c.key .seq)) = d.changelog.changes.length := by
    have hvalue := h.seq
    rw [valueAt, Option.bind_map] at hvalue
    exact hvalue
  rw [hseq]
  exact represents_applyOps h₁ (putsData_commitOps _ _ _)
    (image_commitOps h₁.toImage hafter hchange hrecipe hdto)

variable (howner : c.leaseOwner ≠ "") (htoken : c.leaseToken ≠ "")

include howner htoken

theorem returns_commit (h : c.Represents kv₀ d)
    (horder : OrdersChangeKeys localeCompare c.namespace d.changelog.changes.length) {input : DurableCommitInput}
    (hafter : Reloads input.after) (hchange : input.change.RoundTrips input.recipe)
    (hrecipe : input.recipe.RoundTrips) :
    Returns (c.ActsAlive localeCompare) (c.Unchanged kv₀) (c.commit localeCompare input) fun result kv' =>
      result = (d.commit localeCompare input).1 ∧ c.Represents kv' (d.commit localeCompare input).2 := by
  have hattempt : Triple (c.ActsAlive localeCompare) (c.Unchanged kv₀)
      (do c.refreshLease; c.assertWriter; c.commitAtomic localeCompare input) fun out kv' =>
        commitOutcome out = some (d.commit localeCompare input).1 ∧
          c.Represents kv' (d.commit localeCompare input).2 := by
    intro kv out kv' hkv hexec
    obtain ⟨_, kv, hkv, hexec⟩ := returns_refreshLease.of_bind hkv hexec
    obtain ⟨_, kv, hkv, hexec⟩ := (returns_assertWriter h howner htoken).of_bind hkv hexec
    exact triple_commitAtomic h horder hafter hchange hrecipe kv out kv' hkv hexec
  refine hattempt.handle ?_ ?_
  · rintro result kv ⟨hresult, hkv⟩
    exact ⟨result, rfl, Option.some.inj hresult, hkv⟩
  · rintro e kv out kv' ⟨houtcome, hkv⟩ hexec
    cases e with
    | abort reason =>
        obtain ⟨rfl, rfl⟩ := exec_done.1 hexec
        exact ⟨_, rfl, Option.some.inj houtcome, hkv⟩
    | error message => cases houtcome

theorem returns_call (h : c.Represents kv₀ d)
    (horder : OrdersChangeKeys localeCompare c.namespace d.changelog.changes.length) {x : DurableCall}
    (hx : x.RoundTrips) :
    Returns (c.ActsAlive localeCompare) (c.Unchanged kv₀) (c.call localeCompare x) fun result kv' =>
      DurableResult.Same result (d.call localeCompare x).1 ∧ c.Represents kv' (d.call localeCompare x).2 := by
  intro kv out kv' hkv hexec
  cases x with
  | get ref =>
      obtain ⟨_, kv, hkv, hexec⟩ := returns_refreshLease.of_bind hkv hexec
      obtain ⟨_, kv, ⟨rfl, hkv⟩, hexec⟩ := (returns_loadSnapshot h ref).of_bind hkv hexec
      obtain ⟨rfl, rfl⟩ := exec_done.1 hexec
      refine ⟨_, rfl, ?_, h.congr hkv⟩
      have hrel := reloaded_rel h.readSnapshot ref
      change Option.Rel SameSnapshot (d.reloaded ref) (d.store.get ref)
      generalize d.reloaded ref = found, d.store.get ref = put at hrel ⊢
      cases hrel with
      | none => exact .none
      | some hsame => exact .some hsame.1
  | head =>
      obtain ⟨_, kv, hkv, hexec⟩ := returns_refreshLease.of_bind hkv hexec
      obtain ⟨_, kv, ⟨rfl, hkv⟩, hexec⟩ := (returns_loadHead h).of_bind hkv hexec
      obtain ⟨rfl, rfl⟩ := exec_done.1 hexec
      exact ⟨_, rfl, rfl, h.congr hkv⟩
  | activeBinding =>
      obtain ⟨_, kv, hkv, hexec⟩ := returns_refreshLease.of_bind hkv hexec
      obtain ⟨_, kv, ⟨rfl, hkv⟩, hexec⟩ := (returns_loadBinding h).of_bind hkv hexec
      obtain ⟨rfl, rfl⟩ := exec_done.1 hexec
      exact ⟨_, rfl, rfl, h.congr hkv⟩
  | compareAndSwapHead expected snapshot =>
      obtain ⟨_, kv, hkv, hexec⟩ := returns_refreshLease.of_bind hkv hexec
      obtain ⟨_, kv, hkv, hexec⟩ := (returns_assertWriter h howner htoken).of_bind hkv hexec
      have hcas := @returns_casHead localeCompare c kv₀ d h expected snapshot none hx (by simp)
      obtain ⟨swapped, kv, hswapped, hexec⟩ := hcas.of_bind hkv hexec
      obtain ⟨rfl, rfl⟩ := exec_done.1 hexec
      refine ⟨_, rfl, ?_⟩
      simp only [MemoryDurableCoordinator.call, MemoryDurableCoordinator.compareAndSwapHead,
        MemoryCollaborationStore.compareAndSwapHead]
      by_cases hhead : d.store.headRef = some expected
      · simp only [hhead, if_true] at hswapped
        obtain ⟨rfl, hnext⟩ := hswapped
        simp only [hhead, ne_eq, not_true_eq_false, if_false]
        exact ⟨rfl, hnext⟩
      · simp only [hhead, if_false] at hswapped
        obtain ⟨rfl, hnext⟩ := hswapped
        simp only [hhead, ne_eq, not_false_eq_true, if_true]
        exact ⟨rfl, hnext⟩
  | compareAndSwapHeadWithBinding expected snapshot binding =>
      obtain ⟨hsnapshot, hbinding⟩ := hx
      obtain ⟨_, kv, hkv, hexec⟩ := returns_refreshLease.of_bind hkv hexec
      obtain ⟨_, kv, hkv, hexec⟩ := (returns_assertWriter h howner htoken).of_bind hkv hexec
      have hcas := @returns_casHead localeCompare c kv₀ d h expected snapshot (some binding) hsnapshot
        (by rintro b ⟨⟩; exact hbinding)
      obtain ⟨swapped, kv, hswapped, hexec⟩ := hcas.of_bind hkv hexec
      obtain ⟨rfl, rfl⟩ := exec_done.1 hexec
      refine ⟨_, rfl, ?_⟩
      simp only [MemoryDurableCoordinator.call, MemoryDurableCoordinator.compareAndSwapHeadWithBinding,
        MemoryCollaborationStore.compareAndSwapHead]
      by_cases hhead : d.store.headRef = some expected
      · simp only [hhead, if_true] at hswapped
        obtain ⟨rfl, hnext⟩ := hswapped
        simp only [hhead, ne_eq, not_true_eq_false, if_false, if_true]
        exact ⟨rfl, hnext⟩
      · simp only [hhead, if_false] at hswapped
        obtain ⟨rfl, hnext⟩ := hswapped
        simp only [hhead, ne_eq, not_false_eq_true, if_true, Bool.false_eq_true, if_false]
        exact ⟨rfl, hnext⟩
  | commit input =>
      obtain ⟨hafter, hchange, hrecipe⟩ := hx
      obtain ⟨_, kv, ⟨rfl, hnext⟩, hexec⟩ :=
        (returns_commit howner htoken h horder hafter hchange hrecipe).of_bind hkv hexec
      obtain ⟨rfl, rfl⟩ := exec_done.1 hexec
      exact ⟨_, rfl, rfl, hnext⟩
  | changes =>
      obtain ⟨_, kv, hkv, hexec⟩ := returns_refreshLease.of_bind hkv hexec
      obtain ⟨_, kv, ⟨rfl, hkv⟩, hexec⟩ := (returns_loadChanges h horder).of_bind hkv hexec
      obtain ⟨rfl, rfl⟩ := exec_done.1 hexec
      exact ⟨_, rfl, rfl, h.congr hkv⟩
  | since fromRef =>
      obtain ⟨_, kv, hkv, hexec⟩ := returns_refreshLease.of_bind hkv hexec
      have hsince : Returns (c.ActsAlive localeCompare) (c.Unchanged kv₀) (c.since localeCompare fromRef)
          fun found kv => found = d.since localeCompare fromRef ∧ c.Unchanged kv₀ kv := by
        intro kv out kv' hkv hexec
        obtain ⟨_, kv, ⟨rfl, hkv⟩, hexec⟩ := (returns_loadChanges h horder).of_bind hkv hexec
        rw [MemoryDurableCoordinator.since_eq, ← changesSince_congr (reloaded_rel h.readSnapshot)]
        exact returns_loadChangesSince (returns_loadSnapshot h) fromRef _ kv out kv' hkv hexec
      obtain ⟨_, kv, ⟨rfl, hkv⟩, hexec⟩ := hsince.of_bind hkv hexec
      obtain ⟨rfl, rfl⟩ := exec_done.1 hexec
      exact ⟨_, rfl, rfl, h.congr hkv⟩
  | recipeForChange change =>
      obtain ⟨_, kv, hkv, hexec⟩ := returns_refreshLease.of_bind hkv hexec
      have hrecipe : Returns (c.ActsAlive localeCompare) (c.Unchanged kv₀) (c.recipeForChange change)
          fun found kv => found = some (d.sidecar.recipeForChange change) ∧ c.Unchanged kv₀ kv := by
        intro kv out kv' hkv hexec
        obtain ⟨_, kv, ⟨rfl, hkv⟩, hexec⟩ := (returns_loadRecipe h change.changeId).of_bind hkv hexec
        unfold RecipeSidecar.recipeForChange
        cases hr : d.sidecar.recipes.get? change.changeId with
        | none =>
            simp only [hr] at hexec
            obtain ⟨rfl, rfl⟩ := exec_done.1 hexec
            exact ⟨_, rfl, rfl, hkv⟩
        | some r =>
            simp only [hr] at hexec
            obtain ⟨rfl, rfl⟩ := exec_done.1 hexec
            exact ⟨_, rfl, by rw [Option.getD_some, (h.readRecipe _ r hr).2], hkv⟩
      obtain ⟨_, kv, ⟨rfl, hkv⟩, hexec⟩ := hrecipe.of_bind hkv hexec
      obtain ⟨rfl, rfl⟩ := exec_done.1 hexec
      exact ⟨_, rfl, rfl, h.congr hkv⟩

omit howner htoken

/-! ## Initialization -/

def Fresh (c : RaftDurableCoordinator) (kv : MemoryRaftKv StoredValue) : Prop :=
  ∀ key, (durableRoot c.namespace).toList <+: key.toList → kv.store.get? key = none

theorem Fresh.unchanged (h : c.Fresh kv) : c.Unchanged kv kv := by
  refine ⟨fun key stored hkey hstored => ?_, fun key _ => rfl⟩
  rw [h key hkey.1] at hstored
  cases hstored

theorem image_named (leaseId : LeaseId) : c.Image
    (Function.update (Function.update (fun _ => none) .lease (some (encodeLease c.leaseOwner c.leaseToken)))
      .fencingLease (some (.text leaseId))) (MemoryDurableCoordinator.init none) where
  lease := by simp
  head := by simp [MemoryDurableCoordinator.init, MemoryCollaborationStore.init, MemoryCollaborationStore.empty]
  headNonempty := by
    rintro ref ⟨⟩
  binding := by simp [MemoryDurableCoordinator.init]
  readBinding := by
    rintro b ⟨⟩
  snapshots := by
    intro ref
    simp
    rfl
  readSnapshot := by
    rintro ref s ⟨⟩
  changes := by
    intro n change hn
    cases hn
  changeBound := by simp
  seq := by
    simp
    rfl
  changeIds := by
    intro id
    simp [MemoryDurableCoordinator.init]
  recipes := by
    intro id
    simp
    rfl
  readRecipe := by
    rintro id r ⟨⟩

theorem represents_named (h : c.Fresh kv₀) (hkv : c.Unchanged kv₀ kv) (leaseId : LeaseId) :
    c.Represents ((kv.put (c.key .lease) (encodeLease c.leaseOwner c.leaseToken) (some leaseId)).put
      (c.key .fencingLease) (.text leaseId) none) (.init none) where
  toImage := by
    have hvalues : c.valueAt kv = fun _ => none := by
      funext k
      have hnone : kv₀.store.get? (c.key k) = none := h _ (RaftKey.root_prefix_text _ _)
      rw [valueAt, hkv.2.get?, hnone]
      rfl
    rw [valueAt_put, valueAt_put, hvalues]
    exact image_named leaseId
  changeKeys := by
    refine onlyChangeKeys_put (onlyChangeKeys_put fun key stored hstarts hstored => ?_)
    rw [hkv.2 key (root_starts_changePrefix hstarts), h key (root_starts_changePrefix hstarts)] at hstored
    cases hstored
  unleased := by
    have hlease := @dataUnleased_applyOp (fun _ _ => 0) c kv 0
      (.put (c.key .lease) (encodeLease c.leaseOwner c.leaseToken) (some leaseId)) (.inr ⟨_, rfl⟩)
      (hkv.2.dataUnleased hkv.1)
    exact @dataUnleased_applyOp (fun _ _ => 0) c _ 0 (.put (c.key .fencingLease) (.text leaseId) none)
      (.inl ⟨_, _, rfl, by simp⟩) hlease

theorem returns_initializeWriter (h : c.Fresh kv₀) {initial : Option CollaborationSnapshot}
    (hinitial : ∀ s ∈ initial, Reloads s) (leaseTtlSeconds : ℚ) :
    Returns (c.ActsAlive localeCompare) (c.Unchanged kv₀) (c.initializeWriter initial leaseTtlSeconds) fun _ kv =>
      c.Represents kv (.init initial) := by
  intro kv out kv' hkv hexec
  have hgrant : Returns (c.ActsAlive localeCompare) (c.Unchanged kv₀) (send (.grantLease leaseTtlSeconds))
      fun _ kv => c.Unchanged kv₀ kv := by
    refine returns_request fun kv granted kv' hkv hact => ?_
    obtain ⟨now, halive, hrun⟩ := hact
    have hstore := @MemoryRaftKv.run_store _ kv now localeCompare _ (.grantLease leaseTtlSeconds) rfl
    rw [hrun] at hstore
    exact unchanged_of_store (unchanged_expireLeases hkv halive) hstore
  obtain ⟨granted, kv, hkv, hexec⟩ := hgrant.of_bind hkv hexec
  obtain ⟨result, _, ⟨kv₁, now, hkv₁, hsucceeded, rfl⟩, hexec⟩ := (returns_txn _ _).of_bind hkv hexec
  have hdone : result.succeeded = true := hsucceeded
  rw [hdone, if_pos rfl] at hexec
  have hnamed := represents_named h hkv₁ granted.leaseId
  cases initial with
  | none =>
      obtain ⟨rfl, rfl⟩ := exec_done.1 hexec
      exact ⟨_, rfl, hnamed⟩
  | some s =>
      have hunchanged : c.Unchanged _ _ := ⟨hnamed.unleased, fun key _ => rfl⟩
      obtain ⟨result', _, ⟨kv₂, now', hkv₂, hsucceeded', rfl⟩, hexec⟩ := (returns_txn _ _).of_bind hunchanged hexec
      obtain ⟨rfl, rfl⟩ := exec_done.1 hexec
      have h₂ := hnamed.congr hkv₂
      have hdone' : result'.succeeded = true := by
        have hhead : kv₂.store.get? (c.key .head) = none := Option.map_eq_none_iff.1 h₂.head
        rw [hsucceeded']
        simp [matchesCompare, hhead]
      refine ⟨_, rfl, ?_⟩
      rw [hdone', if_pos rfl]
      refine represents_applyOps h₂ (fun op hop => ?_) ?_
      · simp only [List.mem_cons, List.not_mem_nil, or_false] at hop
        rcases hop with rfl | rfl
        · exact putsData_putSnapshot s
        · exact putsData_putHead _
      · simp only [putSnapshot, putHead, MemoryRaftKv.applyOps_put_snd, MemoryRaftKv.applyOps_nil_snd, valueAt_put]
        exact h₂.toImage.putHead (hinitial s rfl)

/-! ## Sequences of calls -/

def Serves (localeCompare : LocaleCompare) (c : RaftDurableCoordinator) (kv : MemoryRaftKv StoredValue)
    (served : RaftCall × Except DurableThrown (Option DurableResult)) (kv' : MemoryRaftKv StoredValue) : Prop :=
  Exec (c.ActsAlive localeCompare) (c.run localeCompare served.1) kv served.2 kv'

theorem exists_actsAlive (kv : MemoryRaftKv StoredValue) (r : KvRequest StoredValue) :
    ∃ resp kv', c.ActsAlive localeCompare kv r resp kv' := by
  have halive : ∃ now, c.LeaseAlive kv now := by
    cases hstored : kv.store.get? (c.key .lease) with
    | none => exact ⟨0, fun stored leaseId h => by rw [hstored] at h; cases h⟩
    | some stored =>
        cases hlease : stored.leaseId.bind kv.leases.get? with
        | none =>
            refine ⟨0, fun stored' leaseId h hleaseId => ?_⟩
            rw [hstored] at h
            cases h
            rw [hleaseId, Option.bind_some] at hlease
            rw [MemoryRaftKv.leaseExpired, hlease]
            rfl
        | some lease =>
            refine ⟨lease.expiresAt - 1, fun stored' leaseId h hleaseId => ?_⟩
            rw [hstored] at h
            cases h
            rw [hleaseId, Option.bind_some] at hlease
            rw [MemoryRaftKv.leaseExpired, hlease]
            simp
  obtain ⟨now, halive⟩ := halive
  exact ⟨_, _, now, halive, rfl⟩

theorem exists_run (localeCompare : LocaleCompare) (c : RaftDurableCoordinator) (calls : List RaftCall)
    (kv : MemoryRaftKv StoredValue) :
    ∃ served kv', served.map Prod.fst = calls ∧ Run (c.Serves localeCompare) kv served kv' := by
  induction calls generalizing kv with
  | nil => exact ⟨[], kv, rfl, .nil kv⟩
  | cons call calls ih =>
      obtain ⟨out, kv', hexec⟩ := @exec_exists _ _ _ _ _ (c.ActsAlive localeCompare) exists_actsAlive
        (c.run localeCompare call) kv
      obtain ⟨served, kv'', hcalls, r⟩ := ih kv'
      exact ⟨(call, out) :: served, kv'', by rw [List.map_cons, hcalls], .cons hexec r⟩

theorem length_call (d : MemoryDurableCoordinator) (x : DurableCall) :
    (d.call localeCompare x).2.changelog.changes.length ≤ d.changelog.changes.length + 1 := by
  have hcas : ∀ expected snapshot, (d.compareAndSwapHead expected snapshot).2.changelog = d.changelog :=
    fun expected snapshot => rfl
  cases x with
  | compareAndSwapHead expected snapshot => exact Nat.le_succ _
  | compareAndSwapHeadWithBinding expected snapshot binding =>
      simp only [MemoryDurableCoordinator.call, MemoryDurableCoordinator.compareAndSwapHeadWithBinding]
      split <;> exact Nat.le_succ _
  | commit input =>
      simp only [MemoryDurableCoordinator.call, MemoryDurableCoordinator.commit_eq]
      split_ifs <;> simp [MemoryDurableCoordinator.committed]
  | _ => exact Nat.le_succ _

theorem served_eq (howner : c.leaseOwner ≠ "") (htoken : c.leaseToken ≠ "") {calls : List DurableCall}
    (hcalls : ∀ x ∈ calls, x.RoundTrips) {bound : Nat}
    (horder : OrdersChangeKeys localeCompare c.namespace bound) (h : c.Represents kv d)
    (hbound : d.changelog.changes.length + calls.length ≤ bound)
    {served : List (RaftCall × Except DurableThrown (Option DurableResult))} {kv' : MemoryRaftKv StoredValue}
    (hserved : served.map Prod.fst = calls.map .call) (r : Run (c.Serves localeCompare) kv served kv') :
    ∃ results, served.map Prod.snd = results.map (fun result => .ok (some result)) ∧
      List.Forall₂ DurableResult.Same results (d.results localeCompare calls) := by
  induction calls generalizing kv d served with
  | nil =>
      rw [List.map_nil, List.map_eq_nil_iff] at hserved
      subst hserved
      exact ⟨[], rfl, .nil⟩
  | cons x xs ih =>
      cases served with
      | nil => cases hserved
      | cons s ss =>
          rw [List.map_cons, List.map_cons, List.cons.injEq] at hserved
          obtain ⟨hcall, hserved⟩ := hserved
          obtain ⟨m, hexec, r⟩ := Run.cons_iff.1 r
          rw [List.forall_mem_cons] at hcalls
          have hbound' := hbound
          rw [List.length_cons] at hbound'
          have horder' : OrdersChangeKeys localeCompare c.namespace d.changelog.changes.length :=
            fun i j hlt hle => horder i j hlt (by omega)
          have hunchanged : c.Unchanged kv kv := ⟨h.unleased, fun key _ => rfl⟩
          unfold Serves at hexec
          rw [hcall] at hexec
          obtain ⟨result, kv₁, ⟨hsame, hnext⟩, hexec⟩ :=
            (returns_call howner htoken h horder' hcalls.1).of_bind hunchanged hexec
          obtain ⟨hout, rfl⟩ := exec_done.1 hexec
          have hlength := @length_call localeCompare d x
          obtain ⟨results, hresults, hall⟩ := ih hcalls.2 hnext (by omega) hserved r
          exact ⟨result :: results, by rw [List.map_cons, List.map_cons, hout, hresults], .cons hsame hall⟩

def AnswersAsMemory (localeCompare : LocaleCompare) (c : RaftDurableCoordinator) (kv : MemoryRaftKv StoredValue)
    (initial : Option CollaborationSnapshot) (leaseTtlSeconds : ℚ) (calls : List DurableCall) : Prop :=
  (∃ served kv', served.map Prod.fst = .create initial leaseTtlSeconds :: calls.map .call ∧
    Run (c.Serves localeCompare) kv served kv') ∧
  ∀ served kv', served.map Prod.fst = .create initial leaseTtlSeconds :: calls.map .call →
    Run (c.Serves localeCompare) kv served kv' →
    ∃ results, served.map Prod.snd = .ok none :: results.map (fun result => .ok (some result)) ∧
      List.Forall₂ DurableResult.Same results ((MemoryDurableCoordinator.init initial).results localeCompare calls)

/-- A coordinator that is created in a fresh place, and keeps its lease, answers every sequence of calls as the
coordinator in memory with the same first snapshot does. -/
theorem refines_memory (localeCompare : LocaleCompare) (c : RaftDurableCoordinator) (howner : c.leaseOwner ≠ "")
    (htoken : c.leaseToken ≠ "") {kv : MemoryRaftKv StoredValue} (hfresh : c.Fresh kv)
    (initial : Option CollaborationSnapshot) (hinitial : ∀ s ∈ initial, Reloads s) (leaseTtlSeconds : ℚ)
    (calls : List DurableCall) (hcalls : ∀ x ∈ calls, x.RoundTrips)
    (horder : OrdersChangeKeys localeCompare c.namespace calls.length) :
    c.AnswersAsMemory localeCompare kv initial leaseTtlSeconds calls := by
  refine ⟨exists_run localeCompare c _ kv, fun served kv' hserved r => ?_⟩
  cases served with
  | nil => cases hserved
  | cons s ss =>
      rw [List.map_cons, List.cons.injEq] at hserved
      obtain ⟨hcall, hserved⟩ := hserved
      obtain ⟨m, hexec, r⟩ := Run.cons_iff.1 r
      unfold Serves at hexec
      rw [hcall] at hexec
      obtain ⟨_, kv₁, hnamed, hexec⟩ :=
        (returns_initializeWriter hfresh hinitial leaseTtlSeconds).of_bind hfresh.unchanged hexec
      obtain ⟨hout, rfl⟩ := exec_done.1 hexec
      have hbound : (MemoryDurableCoordinator.init initial).changelog.changes.length + calls.length ≤ calls.length := by
        simp [MemoryDurableCoordinator.init]
      obtain ⟨results, hresults, hall⟩ := served_eq howner htoken hcalls horder hnamed hbound hserved r
      exact ⟨results, by rw [List.map_cons, hout, hresults], hall⟩

/-! ## A commit, and a writer without a name -/

theorem codePointCompare_orders : OrdersChangeKeys codePointCompare "cantilune" 3 := by
  intro m n hlt hle
  interval_cases n <;> interval_cases m <;> decide +kernel

theorem fresh_empty (c : RaftDurableCoordinator) : c.Fresh .empty := by
  intro key _
  rfl

/-- The commit goes through as in memory, and the change is there to be asked for. -/
theorem named_writer_answers : AnswersAsMemory codePointCompare ⟨"cantilune", "writer", "t1"⟩ .empty
    (some firstWorld) 30 [.commit doneCommit, .head, .since "s0"] := by
  refine @refines_memory codePointCompare ⟨"cantilune", "writer", "t1"⟩ (by decide) (by decide) .empty
    (fresh_empty _) (some firstWorld) ?_ 30 _ ?_ codePointCompare_orders
  · rintro s ⟨⟩
    exact firstWorld_reloads
  · simp only [List.forall_mem_cons, List.not_mem_nil, false_implies, implies_true, and_true]
    exact ⟨doneCommit_roundTrips, trivial, trivial⟩

instance (c : RaftDurableCoordinator) (kv : MemoryRaftKv StoredValue) (now : ℚ) : Decidable (c.LeaseAlive kv now) :=
  decidable_of_iff (∀ stored ∈ kv.store.get? (c.key .lease), ∀ leaseId ∈ stored.leaseId,
      kv.leaseExpired now leaseId = false)
    ⟨fun h stored leaseId hstored hleaseId => h stored hstored leaseId hleaseId,
      fun h stored hstored leaseId hleaseId => h stored leaseId hstored hleaseId⟩

def answerAlive? (c : RaftDurableCoordinator) (kv : MemoryRaftKv StoredValue) (r : KvRequest StoredValue) :
    Option (r.Resp × MemoryRaftKv StoredValue) :=
  if c.LeaseAlive kv 0 then some (kv.run codePointCompare 0 r) else none

def served? (c : RaftDurableCoordinator) : List RaftCall → MemoryRaftKv StoredValue →
    Option (List (RaftCall × Except DurableThrown (Option DurableResult)))
  | [], _ => some []
  | x :: xs, kv => ((c.run codePointCompare x).eval? c.answerAlive? kv).bind fun ended =>
      (c.served? xs ended.2).map fun served => (x, ended.1) :: served

theorem run_of_served? {c : RaftDurableCoordinator} {xs : List RaftCall} {kv : MemoryRaftKv StoredValue}
    {served : List (RaftCall × Except DurableThrown (Option DurableResult))} (h : c.served? xs kv = some served) :
    served.map Prod.fst = xs ∧ ∃ kv', Run (c.Serves codePointCompare) kv served kv' := by
  induction xs generalizing kv served with
  | nil =>
      cases h
      exact ⟨rfl, kv, .nil kv⟩
  | cons x xs ih =>
      obtain ⟨ended, hended, h⟩ := Option.bind_eq_some_iff.1 h
      obtain ⟨rest, hrest, rfl⟩ := Option.map_eq_some_iff.1 h
      obtain ⟨hcalls, kv', r⟩ := ih hrest
      refine ⟨by rw [List.map_cons, hcalls], kv', .cons (exec_of_eval? (fun kv r answered hanswered => ?_) hended) r⟩
      unfold answerAlive? at hanswered
      split at hanswered
      · rename_i halive
        exact ⟨0, halive, Option.some.inj hanswered⟩
      · cases hanswered

/-- Without an owner the coordinator cannot read its own name back, and throws where the one in memory commits. -/
theorem nameless_writer_refused : Fresh ⟨"cantilune", "", "t1"⟩ .empty ∧ Reloads firstWorld ∧
    (DurableCall.commit doneCommit).RoundTrips ∧
    ¬ AnswersAsMemory codePointCompare ⟨"cantilune", "", "t1"⟩ .empty (some firstWorld) 30 [.commit doneCommit] := by
  refine ⟨fresh_empty _, firstWorld_reloads, doneCommit_roundTrips, fun hanswers => ?_⟩
  have hthrown : (served? ⟨"cantilune", "", "t1"⟩ [.create (some firstWorld) 30, .call (.commit doneCommit)]
      .empty).map (fun served => served.map fun s => s.2.toOption.isSome) = some [true, false] := by decide +kernel
  obtain ⟨served, hserved, hended⟩ := Option.map_eq_some_iff.1 hthrown
  obtain ⟨hcalls, kv', r⟩ := run_of_served? hserved
  obtain ⟨results, hresults, hall⟩ := hanswers.2 served kv' hcalls r
  obtain ⟨result, rest, _, _, rfl⟩ := List.forall₂_cons_right_iff.1 hall
  have hanswered : (served.map Prod.snd).map (fun out => out.toOption.isSome) = [true, false] := by
    rw [List.map_map]
    exact hended
  rw [hresults] at hanswered
  cases hanswered

end RaftDurableCoordinator

end Cantilune
