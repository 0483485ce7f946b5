import Cantilune.Lemmas.PostgresTables
import Cantilune.Base.Runs

/-!
# The coordinator over Postgres refines the one in memory

While the lease row names the writer the tables represent a coordinator in memory. Every method answers as that one
does, and its transaction leaves the tables representing what it becomes. Once the row names another writer, no
method writes.
-/

namespace Cantilune

namespace PostgresDurableCoordinator

open Program

variable {jsonb : Json → Json} {localeCompare : LocaleCompare} {c : PostgresDurableCoordinator} {db db' t : PgDb}
  {d : MemoryDurableCoordinator}

/-! ## Writes -/

theorem Represents.putHead (h : c.Represents jsonb db d) {snapshot : CollaborationSnapshot}
    (hsnapshot : Reloads snapshot) :
    c.Represents jsonb
      { db with
        tables :=
          { db.tables with
            snapshots := db.tables.snapshots.set snapshot.snapshotRef (jsonb (snapshotPayload snapshot))
            head := some snapshot.snapshotRef } }
      { d with store := d.store.put snapshot } where
  lease := h.lease
  head := rfl
  headNonempty := by
    rintro ref ⟨⟩
    exact reloads_ref_ne hsnapshot
  binding := h.binding
  readBinding := h.readBinding
  snapshots := by
    intro ref
    by_cases href : ref = snapshot.snapshotRef
    · subst href
      simp [MemoryCollaborationStore.put, MemoryCollaborationStore.get]
    · simpa [MemoryCollaborationStore.put, MemoryCollaborationStore.get, OrdMap.get?_set_ne _ _ href] using
        h.snapshots ref
  readSnapshot := by
    intro ref s hs
    by_cases href : ref = snapshot.snapshotRef
    · subst href
      simp only [MemoryCollaborationStore.put, MemoryCollaborationStore.get, OrdMap.get?_set_self,
        Option.some.injEq] at hs
      subst hs
      exact hsnapshot
    · simp only [MemoryCollaborationStore.put, MemoryCollaborationStore.get, OrdMap.get?_set_ne _ _ href] at hs
      exact h.readSnapshot ref s hs
  changes := h.changes
  sorted := h.sorted
  seqBound := h.seqBound
  recipes := h.recipes
  readRecipe := h.readRecipe
  recipeIds := h.recipeIds

theorem Represents.putBinding (h : c.Represents jsonb db d) {binding : SchemaEpochBinding}
    (hbinding : binding.RoundTrips) :
    c.Represents jsonb
      { db with tables := { db.tables with epochBinding := some (jsonb (serializeSchemaBindingWire binding)) } }
      { d with activeBinding := some binding } :=
  { h with
    binding := rfl
    readBinding := by
      rintro b ⟨⟩
      exact hbinding }

theorem Represents.appendChange (hjsonb : Json.Reorders jsonb) (h : c.Represents jsonb db d)
    {change : CoordinationChange} {recipe : ReplayRecipe} {dto : ChangeWireDto}
    (hchange : change.RoundTrips recipe) (hdto : encodeChangeWithRecipe change recipe = .ok dto)
    (hrecipe : recipe.RoundTrips) :
    c.Represents jsonb
      { tables :=
          { db.tables with
            changes := db.tables.changes ++
              [{ seq := db.nextSeq, changeId := change.changeId, beforeRef := change.beforeRef
                 afterRef := change.afterRef, payload := jsonb dto.toJson }]
            recipes := db.tables.recipes.set change.changeId
              (jsonb (StoredRecipe.toJson (snapshotReplayRecipe recipe))) }
        nextSeq := db.nextSeq + 1 }
      { d with
        changelog := { changes := d.changelog.changes ++ [change] }
        sidecar := d.sidecar.put change.changeId recipe } where
  lease := h.lease
  head := h.head
  headNonempty := h.headNonempty
  binding := h.binding
  readBinding := h.readBinding
  snapshots := h.snapshots
  readSnapshot := h.readSnapshot
  changes := List.rel_append h.changes (.cons ⟨rfl, decodeStoredChange_jsonb hjsonb hchange hdto⟩ .nil)
  sorted := by
    refine List.pairwise_append.2 ⟨h.sorted, List.pairwise_singleton _ _, fun row hrow last hlast => ?_⟩
    rw [List.mem_singleton.1 hlast]
    exact h.seqBound row hrow
  seqBound := by
    intro row hrow
    rcases List.mem_append.1 hrow with hrow | hrow
    · exact Nat.lt_succ_of_lt (h.seqBound row hrow)
    · rw [List.mem_singleton.1 hrow]
      exact Nat.lt_succ_self _
  recipes := by
    intro id
    by_cases hid : id = change.changeId
    · subst hid
      simp [RecipeSidecar.put]
    · simpa [RecipeSidecar.put, OrdMap.get?_set_ne _ _ hid] using h.recipes id
  readRecipe := by
    intro id r hr
    by_cases hid : id = change.changeId
    · subst hid
      simp only [RecipeSidecar.put, OrdMap.get?_set_self, Option.some.injEq] at hr
      subst hr
      exact ⟨hrecipe, snapshotReplayRecipe_idem recipe⟩
    · simp only [RecipeSidecar.put, OrdMap.get?_set_ne _ _ hid] at hr
      exact h.readRecipe id r hr
  recipeIds := by
    intro id
    have hids := h.recipeIds id
    rw [List.any_append, ← hids]
    by_cases hid : id = change.changeId
    · subst hid
      simp [RecipeSidecar.put, OrdMap.has]
    · simp [RecipeSidecar.put, OrdMap.has, OrdMap.get?_set_ne _ _ hid, Ne.symm hid]

theorem returns_casHead (h : c.Represents jsonb db d) {expected : SnapshotRef} {snapshot : CollaborationSnapshot}
    {binding : Option SchemaEpochBinding} (hsnapshot : Reloads snapshot) (hbinding : ∀ b ∈ binding, b.RoundTrips) :
    Returns (PgDb.Acts jsonb) (db = ·) (casHead expected snapshot binding) fun swapped db' =>
      if d.store.headRef = some expected then
        swapped = true ∧ c.Represents jsonb db'
          { d with store := d.store.put snapshot, activeBinding := binding.or d.activeBinding }
      else swapped = false ∧ db = db' := by
  rintro _ out t rfl hexec
  obtain ⟨_, _, ⟨rfl, rfl⟩, hexec⟩ := (returns_loadHead h).of_bind rfl hexec
  by_cases hhead : d.store.headRef = some expected
  · simp only [hhead, ne_eq, not_true_eq_false, if_false, if_true] at hexec ⊢
    rw [exec_execute rfl] at hexec
    have hexec := (exec_execute (run_writeHead (by exact h.head.trans hhead) _)).1 hexec
    have hput := h.putHead hsnapshot
    cases binding with
    | none =>
        obtain ⟨rfl, rfl⟩ := exec_done.1 hexec
        exact ⟨_, rfl, rfl, hput⟩
    | some b =>
        rw [exec_execute rfl] at hexec
        obtain ⟨rfl, rfl⟩ := exec_done.1 hexec
        exact ⟨_, rfl, rfl, hput.putBinding (hbinding b rfl)⟩
  · simp only [hhead, ne_eq, not_false_eq_true, if_true, if_false] at hexec ⊢
    obtain ⟨rfl, rfl⟩ := exec_done.1 hexec
    exact ⟨_, rfl, rfl, rfl⟩

/-! ## Commit -/

theorem returns_validateCommitChain (hjsonb : Json.Reorders jsonb) (h : c.Represents jsonb db d)
    (input : DurableCommitInput) :
    Returns (PgDb.Acts jsonb) (db = ·) (validateCommitChain localeCompare input) fun continues db' =>
      continues = d.continuesLog localeCompare input ∧ db = db' := by
  rintro _ out t rfl hexec
  obtain ⟨_, _, ⟨rfl, rfl⟩, hexec⟩ := (returns_loadLastChange h).of_bind rfl hexec
  unfold MemoryDurableCoordinator.continuesLog
  cases hlast : d.changelog.changes.getLast? with
  | none =>
      simp only [hlast] at hexec
      obtain ⟨rfl, rfl⟩ := exec_done.1 hexec
      exact ⟨_, rfl, rfl, rfl⟩
  | some last =>
      simp only [hlast] at hexec
      dsimp only
      rw [← changeContinuesChain_congr (reloaded_rel h.readSnapshot)]
      exact returns_loadContinuesChain (returns_loadSnapshot hjsonb h) last input.change _ out t rfl hexec

theorem exec_commitInTransaction (hjsonb : Json.Reorders jsonb) (h : c.Represents jsonb db d)
    {input : DurableCommitInput} (hafter : Reloads input.after) (hchange : input.change.RoundTrips input.recipe)
    (hrecipe : input.recipe.RoundTrips) {out : Except DurableThrown DurableCommitResult}
    (hexec : Exec (PgDb.Acts jsonb) (commitInTransaction localeCompare input) db out t) :
    (∃ reason, out = .error (.abort reason) ∧ t = db ∧ d.commit localeCompare input = (.error reason, d)) ∨
      out = .ok (.ok ()) ∧ (d.commit localeCompare input).1 = .ok () ∧
        c.Represents jsonb t (d.commit localeCompare input).2 := by
  rw [MemoryDurableCoordinator.commit_eq]
  obtain ⟨_, _, ⟨rfl, rfl⟩, hexec⟩ := (returns_loadHead h).of_bind rfl hexec
  by_cases hhead : d.store.headRef = some input.expectedHead
  case neg =>
    simp only [ne_eq, hhead, not_false_eq_true, if_true] at hexec ⊢
    obtain ⟨rfl, rfl⟩ := exec_fail.1 hexec
    exact .inl ⟨_, rfl, rfl, rfl⟩
  simp only [ne_eq, hhead, not_true_eq_false, if_false] at hexec ⊢
  obtain ⟨_, _, ⟨rfl, rfl⟩, hexec⟩ := (returns_changeIdExists h _).of_bind rfl hexec
  by_cases hknown : (d.changelog.changes.any fun change => change.changeId = input.change.changeId) = true
  case pos =>
    simp only [hknown, if_true] at hexec ⊢
    obtain ⟨rfl, rfl⟩ := exec_fail.1 hexec
    exact .inl ⟨_, rfl, rfl, rfl⟩
  simp only [hknown, if_false, Bool.false_eq_true] at hexec ⊢
  obtain ⟨_, _, ⟨rfl, rfl⟩, hexec⟩ := (returns_validateCommitChain hjsonb h input).of_bind rfl hexec
  by_cases hchain : d.continuesLog localeCompare input = false
  case pos =>
    simp only [hchain, Bool.not_false, if_true] at hexec ⊢
    obtain ⟨rfl, rfl⟩ := exec_fail.1 hexec
    exact .inl ⟨_, rfl, rfl, rfl⟩
  simp only [Bool.not_eq_false] at hchain
  simp only [hchain, Bool.not_true, Bool.false_eq_true, if_false] at hexec ⊢
  have hstored : db.tables.snapshots.has input.after.snapshotRef = d.store.snapshots.has input.after.snapshotRef := by
    rw [OrdMap.has, h.snapshots, Option.isSome_map]
    rfl
  by_cases hcollision : d.store.snapshots.has input.after.snapshotRef = true
  case pos =>
    have hrun : db.run jsonb (.insertSnapshot input.after.snapshotRef (snapshotPayload input.after)) = (.ok 0, db) := by
      simp [PgDb.run, hstored, hcollision]
    obtain ⟨_, _, ⟨rfl, rfl⟩, hexec⟩ := (returns_query hrun fun rowCount => decide (rowCount > 0)).of_bind rfl hexec
    simp only [hcollision, if_true]
    obtain ⟨rfl, rfl⟩ := exec_fail.1 hexec
    exact .inl ⟨_, rfl, rfl, rfl⟩
  simp only [hcollision, if_false, Bool.false_eq_true]
  rw [Bool.not_eq_true, ← hstored] at hcollision
  obtain ⟨_, _, ⟨rfl, rfl⟩, hexec⟩ :=
    (returns_query (run_insertSnapshot hcollision) fun rowCount => decide (rowCount > 0)).of_bind rfl hexec
  obtain ⟨dto, _, hdto, _⟩ := id hchange
  have hnew : (db.tables.changes.any fun row => row.changeId = input.change.changeId) = false := by
    rw [any_changeId h, Bool.eq_false_iff]
    exact hknown
  have hnewRecipe : db.tables.recipes.has input.change.changeId = false := by
    rw [OrdMap.has, h.recipes, Option.isSome_map, ← OrdMap.has, h.recipeIds, Bool.eq_false_iff]
    exact hknown
  unfold insertChange at hexec
  simp only [hdto] at hexec
  obtain ⟨_, _, ⟨rfl, rfl⟩, hexec⟩ :=
    (returns_query (run_insertChange (by exact hnew)) fun rowCount => decide (rowCount > 0)).of_bind rfl hexec
  have hexec := (exec_execute (run_insertRecipe (by exact hnewRecipe))).1 hexec
  have hexec := (exec_execute (run_writeHead (by exact h.head.trans hhead) _)).1 hexec
  obtain ⟨rfl, rfl⟩ := exec_done.1 hexec
  exact .inr ⟨rfl, rfl, (h.appendChange hjsonb hchange hdto hrecipe).putHead hafter⟩

/-! ## Calls -/

/-- The same result; of a snapshot, messages count up to the order of their members, and of a recipe, scalar inputs
up to theirs. -/
def Alike : DurableResult → DurableResult → Prop
  | .snapshot found, .snapshot found' => Option.Rel SameSnapshot found found'
  | .recipe found, .recipe found' => Option.Rel SameRecipe found found'
  | result, result' => result = result'

variable (hjsonb : Json.Reorders jsonb) (howner : c.leaseOwner ≠ "") (htoken : c.leaseToken ≠ "")

include hjsonb howner htoken

theorem serves_call (h : c.Represents jsonb db d) {x : DurableCall} (hx : x.RoundTrips)
    {out : Except DurableThrown (Option DurableResult)} (hserves : c.Serves jsonb localeCompare db (.call x, out) t) :
    ∃ result, out = .ok (some result) ∧ Alike result (d.call localeCompare x).1 ∧
      c.Represents jsonb t (d.call localeCompare x).2 := by
  obtain ⟨ended, ⟨ran, hexec, rfl⟩, rfl⟩ := hserves
  cases x with
  | get ref =>
      obtain ⟨_, _, ⟨rfl, rfl⟩, hexec⟩ := (returns_loadSnapshot hjsonb h ref).of_bind rfl hexec
      obtain ⟨rfl, rfl⟩ := exec_done.1 hexec
      refine ⟨_, rfl, ?_, h⟩
      have hrel := reloaded_rel h.readSnapshot ref
      change Option.Rel SameSnapshot (d.reloaded ref) (d.store.get ref)
      generalize d.reloaded ref = found, d.store.get ref = put at hrel ⊢
      cases hrel with
      | none => exact .none
      | some hsame => exact .some hsame.1
  | head =>
      obtain ⟨_, _, ⟨rfl, rfl⟩, hexec⟩ := (returns_loadHead h).of_bind rfl hexec
      obtain ⟨rfl, rfl⟩ := exec_done.1 hexec
      exact ⟨_, rfl, rfl, h⟩
  | activeBinding =>
      obtain ⟨_, _, ⟨rfl, rfl⟩, hexec⟩ := (returns_loadBinding hjsonb h).of_bind rfl hexec
      obtain ⟨rfl, rfl⟩ := exec_done.1 hexec
      exact ⟨_, rfl, rfl, h⟩
  | compareAndSwapHead expected snapshot =>
      obtain ⟨_, _, rfl, hexec⟩ := (returns_assertWriter h howner htoken).of_bind rfl hexec
      obtain ⟨swapped, _, hswapped, hexec⟩ :=
        (returns_casHead h hx (by rintro b ⟨⟩) : Returns _ _ (casHead expected snapshot none) _).of_bind rfl hexec
      obtain ⟨rfl, rfl⟩ := exec_done.1 hexec
      refine ⟨_, rfl, ?_⟩
      simp only [MemoryDurableCoordinator.call, MemoryDurableCoordinator.compareAndSwapHead,
        MemoryCollaborationStore.compareAndSwapHead]
      by_cases hhead : d.store.headRef = some expected
      · simp only [hhead, if_true] at hswapped
        obtain ⟨rfl, hnext⟩ := hswapped
        simp only [hhead, ne_eq, not_true_eq_false, if_false]
        exact ⟨rfl, hnext⟩
      · simp only [hhead, if_false] at hswapped
        obtain ⟨rfl, rfl⟩ := hswapped
        simp only [hhead, ne_eq, not_false_eq_true, if_true]
        exact ⟨rfl, h⟩
  | compareAndSwapHeadWithBinding expected snapshot binding =>
      obtain ⟨hsnapshot, hbinding⟩ := hx
      obtain ⟨_, _, rfl, hexec⟩ := (returns_assertWriter h howner htoken).of_bind rfl hexec
      obtain ⟨swapped, _, hswapped, hexec⟩ :=
        (returns_casHead h hsnapshot (by rintro b ⟨⟩; exact hbinding) :
          Returns _ _ (casHead expected snapshot (some binding)) _).of_bind rfl hexec
      obtain ⟨rfl, rfl⟩ := exec_done.1 hexec
      refine ⟨_, rfl, ?_⟩
      simp only [MemoryDurableCoordinator.call, MemoryDurableCoordinator.compareAndSwapHeadWithBinding,
        MemoryCollaborationStore.compareAndSwapHead]
      by_cases hhead : d.store.headRef = some expected
      · simp only [hhead, if_true] at hswapped
        obtain ⟨rfl, hnext⟩ := hswapped
        simp only [hhead, ne_eq, not_true_eq_false, if_false, if_true]
        exact ⟨rfl, hnext⟩
      · simp only [hhead, if_false] at hswapped
        obtain ⟨rfl, rfl⟩ := hswapped
        simp only [hhead, ne_eq, not_false_eq_true, if_true, Bool.false_eq_true, if_false]
        exact ⟨rfl, h⟩
  | commit input =>
      obtain ⟨hafter, hchange, hrecipe⟩ := hx
      obtain ⟨_, _, rfl, hexec⟩ := (returns_assertWriter h howner htoken).of_bind rfl hexec
      rcases exec_bind.1 hexec with ⟨_, _, hcommit, hexec⟩ | ⟨e, hcommit, rfl⟩
      · obtain ⟨rfl, rfl⟩ := exec_done.1 hexec
        rcases exec_commitInTransaction hjsonb h hafter hchange hrecipe hcommit with ⟨_, ⟨⟩, _⟩ | ⟨hok, hresult, hnext⟩
        cases hok
        exact ⟨_, rfl, congrArg DurableResult.committed hresult.symm, hnext⟩
      · rcases exec_commitInTransaction hjsonb h hafter hchange hrecipe hcommit with ⟨_, hout, rfl, hresult⟩ | ⟨⟨⟩, _⟩
        cases hout
        refine ⟨_, rfl, ?_⟩
        simp only [MemoryDurableCoordinator.call, hresult]
        exact ⟨rfl, h⟩
  | changes =>
      obtain ⟨_, _, ⟨rfl, rfl⟩, hexec⟩ := (returns_loadChanges h).of_bind rfl hexec
      obtain ⟨rfl, rfl⟩ := exec_done.1 hexec
      exact ⟨_, rfl, rfl, h⟩
  | since fromRef =>
      obtain ⟨_, _, ⟨rfl, rfl⟩, hexec⟩ := (returns_loadChanges h).of_bind rfl hexec
      obtain ⟨_, _, ⟨rfl, rfl⟩, hexec⟩ :=
        (returns_loadChangesSince (returns_loadSnapshot hjsonb h) fromRef _).of_bind rfl hexec
      obtain ⟨rfl, rfl⟩ := exec_done.1 hexec
      refine ⟨_, rfl, ?_, h⟩
      change DurableResult.changes _ = .changes (d.since localeCompare fromRef)
      rw [MemoryDurableCoordinator.since_eq, ← changesSince_congr (reloaded_rel h.readSnapshot)]
  | recipeForChange change =>
      obtain ⟨found, _, ⟨hfound, rfl⟩, hexec⟩ := (returns_loadRecipe hjsonb h change.changeId).of_bind rfl hexec
      have hcopy : (d.call localeCompare (.recipeForChange change)).1 =
          .recipe (some (d.sidecar.recipeForChange change)) := rfl
      rw [hcopy, RecipeSidecar.recipeForChange]
      cases hr : d.sidecar.recipes.get? change.changeId with
      | none =>
          rw [hr] at hfound
          cases hfound
          obtain ⟨rfl, rfl⟩ := exec_done.1 hexec
          exact ⟨_, rfl, .some ⟨_, rfl, fun _ => rfl⟩, h⟩
      | some r =>
          rw [hr] at hfound
          cases hfound with
          | some hsame =>
              obtain ⟨rfl, rfl⟩ := exec_done.1 hexec
              refine ⟨_, rfl, .some ?_, h⟩
              rw [Option.getD_some, (h.readRecipe _ r hr).2]
              exact hsame

omit hjsonb howner htoken

/-- There is nothing in the tables but, maybe, a lease. -/
def Fresh (db : PgDb) : Prop := ∃ lease, db.tables = { PgTables.empty with lease }

theorem returns_ensureTables : Returns (PgDb.Acts jsonb) (db = ·) ensureTables fun _ db' => db = db' := by
  unfold ensureTables
  generalize 7 = n
  induction n with
  | zero => exact returns_done fun _ hs => hs
  | succ n ih =>
      rintro _ out t rfl hexec
      rw [List.replicate_succ, List.forM_eq_forM, List.forM_cons] at hexec
      exact ih _ out t rfl ((exec_execute rfl).1 hexec)

theorem represents_named (h : Fresh db) : c.Represents jsonb
    { db with tables := { db.tables with lease := some (c.leaseOwner, c.leaseToken) } } (.init none) := by
  obtain ⟨lease, htables⟩ := h
  simp only [htables]
  exact {
    lease := rfl
    head := rfl
    headNonempty := by rintro ref ⟨⟩
    binding := rfl
    readBinding := by rintro b ⟨⟩
    snapshots := fun ref => rfl
    readSnapshot := by rintro ref s ⟨⟩
    changes := .nil
    sorted := .nil
    seqBound := by rintro row ⟨⟩
    recipes := fun id => rfl
    readRecipe := by rintro id r ⟨⟩
    recipeIds := fun id => rfl }

theorem serves_create (h : Fresh db) {initial : Option CollaborationSnapshot}
    (hinitial : ∀ s ∈ initial, Reloads s) {out : Except DurableThrown (Option DurableResult)}
    (hserves : c.Serves jsonb localeCompare db (.create initial, out) t) :
    out = .ok none ∧ c.Represents jsonb t (.init initial) := by
  obtain ⟨ended, ⟨ran, hexec, rfl⟩, rfl⟩ := hserves
  obtain ⟨_, _, rfl, hexec⟩ := returns_ensureTables.of_bind rfl hexec
  have hexec := (exec_execute rfl).1 hexec
  have hnamed : c.Represents jsonb _ (.init none) := represents_named h
  cases initial with
  | none =>
      obtain ⟨rfl, rfl⟩ := exec_done.1 hexec
      exact ⟨rfl, hnamed⟩
  | some s =>
      obtain ⟨lease, htables⟩ := h
      have hnew : db.tables.snapshots.has s.snapshotRef = false := by
        rw [htables]
        rfl
      have hheadless : db.tables.head = none := by
        rw [htables]
        rfl
      have hexec := (exec_execute (run_insertSnapshot (by exact hnew))).1 hexec
      have hexec := (exec_query (run_seedHead (by exact hheadless) _)).1 hexec
      obtain ⟨rfl, rfl⟩ := exec_done.1 hexec
      exact ⟨rfl, hnamed.putHead (hinitial s rfl)⟩

/-! ## Sequences of calls -/

theorem exists_serves (jsonb : Json → Json) (localeCompare : LocaleCompare) (c : PostgresDurableCoordinator)
    (call : PgCall) (db : PgDb) : ∃ out db', c.Serves jsonb localeCompare db (call, out) db' := by
  have hacts : ∀ (db : PgDb) r, ∃ resp db', PgDb.Acts jsonb db r resp db' := fun db r => ⟨_, _, rfl⟩
  cases call with
  | create initial =>
      obtain ⟨ended, ran, hexec⟩ := exec_exists hacts (c.initializeWork initial) db
      exact ⟨_, _, ended, ⟨ran, hexec, rfl⟩, rfl⟩
  | call x =>
      obtain ⟨ended, ran, hexec⟩ := exec_exists hacts (c.work localeCompare x) db
      exact ⟨_, _, ended, ⟨ran, hexec, rfl⟩, rfl⟩

theorem exists_run (jsonb : Json → Json) (localeCompare : LocaleCompare) (c : PostgresDurableCoordinator)
    (calls : List PgCall) (db : PgDb) :
    ∃ served db', served.map Prod.fst = calls ∧ Run (c.Serves jsonb localeCompare) db served db' := by
  induction calls generalizing db with
  | nil => exact ⟨[], db, rfl, .nil db⟩
  | cons call calls ih =>
      obtain ⟨out, db', hserves⟩ := exists_serves jsonb localeCompare c call db
      obtain ⟨served, db'', hcalls, r⟩ := ih db'
      exact ⟨(call, out) :: served, db'', by rw [List.map_cons, hcalls], .cons hserves r⟩

theorem served_alike (hjsonb : Json.Reorders jsonb) (howner : c.leaseOwner ≠ "") (htoken : c.leaseToken ≠ "")
    {calls : List DurableCall} (hcalls : ∀ x ∈ calls, x.RoundTrips) (h : c.Represents jsonb db d)
    {served : List (PgCall × Except DurableThrown (Option DurableResult))}
    (hserved : served.map Prod.fst = calls.map .call) (r : Run (c.Serves jsonb localeCompare) db served db') :
    ∃ results, served.map Prod.snd = results.map (fun result => .ok (some result)) ∧
      List.Forall₂ Alike results (d.results localeCompare calls) := by
  induction calls generalizing db d served with
  | nil =>
      rw [List.map_nil, List.map_eq_nil_iff] at hserved
      subst hserved
      exact ⟨[], rfl, .nil⟩
  | cons x xs ih =>
      cases served with
      | nil => cases hserved
      | cons s ss =>
          obtain ⟨call, out⟩ := s
          rw [List.map_cons, List.map_cons, List.cons.injEq] at hserved
          obtain ⟨rfl, hserved⟩ := hserved
          obtain ⟨m, hserves, hrun⟩ := Run.cons_iff.1 r
          rw [List.forall_mem_cons] at hcalls
          obtain ⟨result, rfl, hsame, hnext⟩ := serves_call hjsonb howner htoken h hcalls.1 hserves
          obtain ⟨results, hresults, hall⟩ := ih hcalls.2 hnext hserved hrun
          exact ⟨result :: results, by rw [List.map_cons, List.map_cons, hresults], .cons hsame hall⟩

def AnswersAsMemory (jsonb : Json → Json) (localeCompare : LocaleCompare) (c : PostgresDurableCoordinator) (db : PgDb)
    (initial : Option CollaborationSnapshot) (calls : List DurableCall) : Prop :=
  (∃ served db', served.map Prod.fst = .create initial :: calls.map .call ∧
    Run (c.Serves jsonb localeCompare) db served db') ∧
  ∀ served db', served.map Prod.fst = .create initial :: calls.map .call →
    Run (c.Serves jsonb localeCompare) db served db' →
    ∃ results, served.map Prod.snd = .ok none :: results.map (fun result => .ok (some result)) ∧
      List.Forall₂ Alike results ((MemoryDurableCoordinator.init initial).results localeCompare calls)

theorem answersAsMemory (hjsonb : Json.Reorders jsonb) (howner : c.leaseOwner ≠ "") (htoken : c.leaseToken ≠ "")
    (h : Fresh db) {initial : Option CollaborationSnapshot} (hinitial : ∀ s ∈ initial, Reloads s)
    {calls : List DurableCall} (hcalls : ∀ x ∈ calls, x.RoundTrips) :
    c.AnswersAsMemory jsonb localeCompare db initial calls := by
  refine ⟨exists_run jsonb localeCompare c _ db, fun served db' hserved r => ?_⟩
  cases served with
  | nil => cases hserved
  | cons s ss =>
      obtain ⟨call, out⟩ := s
      rw [List.map_cons, List.cons.injEq] at hserved
      obtain ⟨rfl, hserved⟩ := hserved
      obtain ⟨m, hserves, hrun⟩ := Run.cons_iff.1 r
      obtain ⟨rfl, hnamed⟩ := serves_create h hinitial hserves
      obtain ⟨results, hresults, hall⟩ := served_alike hjsonb howner htoken hcalls hnamed hserved hrun
      exact ⟨results, by rw [List.map_cons, hresults], hall⟩

/-! ## Fencing -/

def selects : SqlQuery → Bool
  | .selectLease | .selectHead | .selectSnapshot _ | .selectChanges | .selectLastChange | .selectChangeId _
  | .selectRecipe _ | .selectBinding => true
  | _ => false

def keepsLease : SqlQuery → Bool
  | .upsertLease _ _ => false
  | _ => true

theorem run_selects {r : SqlQuery} (h : selects r = true) : (db.run jsonb r).2 = db := by
  cases r <;> first | rfl | cases h

theorem run_keepsLease {r : SqlQuery} (h : keepsLease r = true) :
    (db.run jsonb r).2.tables.lease = db.tables.lease := by
  cases r with
  | upsertLease owner token => cases h
  | seedHead ref =>
      simp only [PgDb.run]
      split <;> rfl
  | insertSnapshot ref payload =>
      simp only [PgDb.run]
      split <;> rfl
  | insertChange id beforeRef afterRef payload =>
      simp only [PgDb.run]
      split <;> rfl
  | insertRecipe id payload =>
      simp only [PgDb.run]
      split <;> rfl
  | _ => rfl

variable {P : SqlQuery → Prop}

theorem asks_query {r : SqlQuery} (h : P r) : (query r).Asks P := by
  refine Asks.bind (asks_request h) fun resp => ?_
  cases resp <;> trivial

theorem asks_execute {r : SqlQuery} (h : P r) : (execute r).Asks P := Asks.bind (asks_query h) fun _ => trivial

theorem asks_select {α : Type} {r : SqlQuery} (h : P r) (decode : r.Rows → Except DurableThrown α) :
    (do ofExcept (decode (← query r))).Asks P := Asks.bind (asks_query h) fun _ => asks_ofExcept

def writes : DurableCall → Bool
  | .compareAndSwapHead _ _ | .compareAndSwapHeadWithBinding _ _ _ | .commit _ => true
  | _ => false

theorem asks_read (hP : ∀ r, selects r = true → P r) {x : DurableCall}
    (hx : writes x = false) : (c.work localeCompare x).Asks P := by
  have hload : ∀ ref, (loadSnapshot ref).Asks P := fun ref => asks_select (hP _ rfl) _
  cases x with
  | get ref => exact Asks.bind (hload ref) fun _ => trivial
  | head => exact Asks.bind (asks_select (hP _ rfl) _) fun _ => trivial
  | activeBinding => exact Asks.bind (asks_select (hP _ rfl) _) fun _ => trivial
  | changes => exact Asks.bind (asks_select (hP _ rfl) _) fun _ => trivial
  | since fromRef =>
      exact Asks.bind (asks_select (hP _ rfl) _) fun all =>
        Asks.bind (asks_loadChangesSince hload fromRef all) fun _ => trivial
  | recipeForChange change =>
      refine Asks.bind (asks_select (hP _ rfl) _) fun found => ?_
      cases found <;> trivial
  | compareAndSwapHead expected snapshot => cases hx
  | compareAndSwapHeadWithBinding expected snapshot binding => cases hx
  | commit input => cases hx

theorem asks_casHead (hP : ∀ r, keepsLease r = true → P r) (expected : SnapshotRef) (snapshot : CollaborationSnapshot)
    (binding : Option SchemaEpochBinding) : (casHead expected snapshot binding).Asks P := by
  refine Asks.bind (asks_select (hP _ rfl) _) fun head => ?_
  split
  · trivial
  · refine Asks.bind (asks_execute (hP _ rfl)) fun _ => Asks.bind (asks_execute (hP _ rfl)) fun _ => ?_
    cases binding with
    | none => trivial
    | some b => exact Asks.bind (asks_execute (hP _ rfl)) fun _ => trivial

theorem asks_commitInTransaction (hP : ∀ r, keepsLease r = true → P r) (input : DurableCommitInput) :
    (commitInTransaction localeCompare input).Asks P := by
  have hload : ∀ ref, (loadSnapshot ref).Asks P := fun ref => asks_select (hP _ rfl) _
  refine Asks.bind (asks_select (hP _ rfl) _) fun head => ?_
  split
  · trivial
  refine Asks.bind (Asks.bind (asks_query (hP _ rfl)) fun _ => trivial) fun known => ?_
  split
  · trivial
  have hchain : (validateCommitChain localeCompare input).Asks P := by
    refine Asks.bind (asks_select (hP _ rfl) _) fun last => ?_
    cases last with
    | none => trivial
    | some last => exact asks_loadContinuesChain hload last input.change
  refine Asks.bind hchain fun continues => ?_
  split
  · trivial
  refine Asks.bind (Asks.bind (asks_query (hP _ rfl)) fun _ => trivial) fun inserted => ?_
  split
  · trivial
  have hinsert : (insertChange input).Asks P := by
    unfold insertChange
    split
    · trivial
    · exact Asks.bind (asks_query (hP _ rfl)) fun _ => trivial
  refine Asks.bind hinsert fun appended => ?_
  split
  · trivial
  exact Asks.bind (asks_execute (hP _ rfl)) fun _ => Asks.bind (asks_execute (hP _ rfl)) fun _ => trivial

theorem asks_work (hP : ∀ r, keepsLease r = true → P r) (x : DurableCall) : (c.work localeCompare x).Asks P := by
  have hselects : ∀ r, selects r = true → P r := fun r hr => hP r (by cases r <;> first | rfl | cases hr)
  have hwriter : c.assertWriter.Asks P := by
    refine Asks.bind (asks_select (hP _ rfl) _) fun lease => ?_
    split <;> trivial
  cases x with
  | compareAndSwapHead expected snapshot =>
      exact Asks.bind hwriter fun _ => Asks.bind (asks_casHead hP _ _ _) fun _ => trivial
  | compareAndSwapHeadWithBinding expected snapshot binding =>
      exact Asks.bind hwriter fun _ => Asks.bind (asks_casHead hP _ _ _) fun _ => trivial
  | commit input => exact Asks.bind hwriter fun _ => Asks.bind (asks_commitInTransaction hP input) fun _ => trivial
  | _ => exact asks_read hselects rfl

def NamesAnother (c : PostgresDurableCoordinator) (db : PgDb) : Prop :=
  ∃ name, db.tables.lease = some name ∧ name ≠ (c.leaseOwner, c.leaseToken)

theorem NamesAnother.transacts {α : Type} {work : PgProgram α} {out : Except DurableThrown α}
    (h : c.NamesAnother db) (hwork : work.Asks fun r => keepsLease r = true) (htransacts : db.Transacts jsonb work out t) :
    c.NamesAnother t := by
  obtain ⟨ran, hexec, rfl⟩ := htransacts
  have hlease : ran.tables.lease = db.tables.lease := by
    refine hexec.invariant (I := fun s => s.tables.lease = db.tables.lease) hwork ?_ rfl
    intro s r resp s' hr hact hs
    have hkeeps := @run_keepsLease jsonb s r hr
    rw [hact] at hkeeps
    exact hkeeps.trans hs
  obtain ⟨name, hname, hne⟩ := h
  cases out with
  | ok a => exact ⟨name, hlease.trans hname, hne⟩
  | error e => exact ⟨name, hname, hne⟩

theorem decodeLease_cases (row : String × String) : decodeLease row = .ok row ∨ ∃ e, decodeLease row = .error e := by
  obtain ⟨owner, token⟩ := row
  unfold decodeLease asString
  by_cases howner : owner = ""
  · exact .inr ⟨_, by rw [if_pos howner]; rfl⟩
  · by_cases htoken : token = ""
    · exact .inr ⟨_, by rw [if_neg howner, if_pos htoken]; rfl⟩
    · exact .inl (by rw [if_neg howner, if_neg htoken]; rfl)

theorem exec_refused {name : String × String} (hname : db.tables.lease = some name)
    (hne : decodeLease name ≠ .ok (c.leaseOwner, c.leaseToken)) {α : Type} {next : Unit → PgProgram α}
    {out : Except DurableThrown α} (hexec : Exec (PgDb.Acts jsonb) (c.assertWriter >>= next) db out t) :
    (∃ e, out = .error e) ∧ t = db := by
  have hrows : db.run jsonb .selectLease = (.ok [name], db) := by
    rw [PgDb.run, hname]
    rfl
  have hthrows : ∀ ended m, Exec (PgDb.Acts jsonb) c.assertWriter db ended m → (∃ e, ended = .error e) ∧ m = db := by
    intro ended m hwriter
    cases hdecode : decodeLease name with
    | ok row =>
        have hload : Returns (PgDb.Acts jsonb) (db = ·) loadLease fun found db' => found = some row ∧ db = db' := by
          refine returns_select hrows ?_
          simp only [decodeFirst, List.head?_cons, hdecode]
          rfl
        obtain ⟨_, _, ⟨rfl, rfl⟩, hrest⟩ := hload.of_bind rfl hwriter
        rw [if_neg fun heq => hne (hdecode.trans (congrArg Except.ok (Option.some.inj heq)))] at hrest
        obtain ⟨rfl, rfl⟩ := exec_fail.1 hrest
        exact ⟨⟨_, rfl⟩, rfl⟩
    | error e =>
        have hfails : ∀ ended m, Exec (PgDb.Acts jsonb) loadLease db ended m → ended = .error e ∧ m = db := by
          intro ended m hload
          have hends := (exec_query hrows).1 hload
          simp only [decodeFirst, List.head?_cons, hdecode] at hends
          exact exec_fail.1 hends
        rcases exec_bind.1 hwriter with ⟨found, m', hload, _⟩ | ⟨e', hload, rfl⟩
        · obtain ⟨⟨⟩, _⟩ := hfails _ _ hload
        · exact ⟨⟨_, rfl⟩, (hfails _ _ hload).2⟩
  rcases exec_bind.1 hexec with ⟨_, m, hwriter, _⟩ | ⟨e, hwriter, rfl⟩
  · obtain ⟨⟨e, ⟨⟩⟩, _⟩ := hthrows _ _ hwriter
  · exact ⟨⟨e, rfl⟩, (hthrows _ _ hwriter).2⟩

theorem NamesAnother.assertWriter (h : c.NamesAnother db) {α : Type} {next : Unit → PgProgram α}
    {out : Except DurableThrown α} (hexec : Exec (PgDb.Acts jsonb) (c.assertWriter >>= next) db out t) :
    (∃ e, out = .error e) ∧ t = db := by
  obtain ⟨name, hname, hne⟩ := h
  refine exec_refused hname (fun hdecode => ?_) hexec
  rcases decodeLease_cases name with hname | ⟨e, hname⟩
  · exact hne (Except.ok.inj (hname.symm.trans hdecode))
  · cases hname.symm.trans hdecode

theorem NamesAnother.serves (h : c.NamesAnother db) {x : DurableCall}
    {out : Except DurableThrown (Option DurableResult)} (hserves : c.Serves jsonb localeCompare db (.call x, out) t) :
    t = db := by
  obtain ⟨ended, ⟨ran, hexec, rfl⟩, rfl⟩ := hserves
  cases hwrites : writes x with
  | false =>
      have hran : ran = db := by
        refine hexec.invariant (I := fun s => s = db) (asks_read (P := fun r => selects r = true) (fun _ hr => hr) hwrites)
          ?_ rfl
        rintro s r resp s' hr hact rfl
        have hselects := @run_selects jsonb s r hr
        rw [hact] at hselects
        exact hselects
      subst hran
      cases ended <;> rfl
  | true =>
      have hfails : (∃ e, ended = .error e) ∧ ran = db := by
        cases x with
        | compareAndSwapHead expected snapshot => exact h.assertWriter hexec
        | compareAndSwapHeadWithBinding expected snapshot binding => exact h.assertWriter hexec
        | commit input => exact h.assertWriter hexec
        | _ => cases hwrites
      obtain ⟨⟨e, rfl⟩, rfl⟩ := hfails
      rfl

/-! ## Several writers -/

def ServesOf {ι : Type} (jsonb : Json → Json) (localeCompare : LocaleCompare) (writers : ι → PostgresDurableCoordinator)
    (db : PgDb) (served : ι × PgCall × Except DurableThrown (Option DurableResult)) (db' : PgDb) : Prop :=
  (writers served.1).Serves jsonb localeCompare db served.2 db'

/-- Once the instance `b` has initialized, a call of the instance `a`, which does not initialize again, leaves the
tables as they are. -/
def Fenced {ι : Type} (jsonb : Json → Json) (localeCompare : LocaleCompare) (writers : ι → PostgresDurableCoordinator)
    (a b : ι) : Prop :=
  ∀ db initial db₁ served db₂ x out db₃, ServesOf jsonb localeCompare writers db (b, .create initial, .ok none) db₁ →
    Run (ServesOf jsonb localeCompare writers) db₁ served db₂ → (∀ initial out, (a, .create initial, out) ∉ served) →
    ServesOf jsonb localeCompare writers db₂ (a, .call x, out) db₃ → db₃.tables = db₂.tables

theorem serves_create_lease {initial : Option CollaborationSnapshot}
    {out : Except DurableThrown (Option DurableResult)}
    (hserves : c.Serves jsonb localeCompare db (.create initial, out) t) :
    t.tables.lease = some (c.leaseOwner, c.leaseToken) ∨ (∃ e, out = .error e) ∧ t.tables = db.tables := by
  obtain ⟨ended, ⟨ran, hexec, rfl⟩, rfl⟩ := hserves
  cases ended with
  | error e => exact .inr ⟨⟨e, rfl⟩, rfl⟩
  | ok done =>
      obtain ⟨_, _, rfl, hexec⟩ := returns_ensureTables.of_bind rfl hexec
      have hexec := (exec_execute rfl).1 hexec
      refine .inl (hexec.invariant (P := fun r => keepsLease r = true)
        (I := fun s => s.tables.lease = some (c.leaseOwner, c.leaseToken)) ?_ ?_ rfl)
      · cases initial with
        | none => trivial
        | some s => exact Asks.bind (asks_execute rfl) fun _ => asks_execute rfl
      intro s r resp s' hr hact hs
      have hkeeps := @run_keepsLease jsonb s r hr
      rw [hact] at hkeeps
      exact hkeeps.trans hs

theorem name_ne {c c' : PostgresDurableCoordinator} (h : c ≠ c') :
    (c.leaseOwner, c.leaseToken) ≠ (c'.leaseOwner, c'.leaseToken) := by
  intro heq
  obtain ⟨owner, token⟩ := c
  obtain ⟨owner', token'⟩ := c'
  cases heq
  exact h rfl

variable {ι : Type} {writers : ι → PostgresDurableCoordinator} {a b : ι}

theorem namesAnother_step (hname : ∀ i, i ≠ a → writers i ≠ writers a) {i : ι} {call : PgCall}
    {out : Except DurableThrown (Option DurableResult)} (hcreate : ∀ initial, (i, call) ≠ (a, .create initial))
    (hserves : ServesOf jsonb localeCompare writers db (i, call, out) t) (h : (writers a).NamesAnother db) :
    (writers a).NamesAnother t := by
  cases call with
  | create initial =>
      have hi : i ≠ a := fun heq => hcreate initial (by rw [heq])
      rcases serves_create_lease hserves with hlease | ⟨_, htables⟩
      · exact ⟨_, hlease, name_ne (hname i hi)⟩
      · obtain ⟨name, hlease, hne⟩ := h
        exact ⟨name, by rw [htables, hlease], hne⟩
  | call x =>
      obtain ⟨ended, htransacts, _⟩ := hserves
      exact h.transacts (asks_work (fun _ hr => hr) x) htransacts

theorem fenced (hname : ∀ i, i ≠ a → writers i ≠ writers a) (hba : b ≠ a) :
    Fenced jsonb localeCompare writers a b := by
  intro db initial db₁ served db₂ x out db₃ hb r hcreate ha
  have hnamed : (writers a).NamesAnother db₁ := by
    rcases serves_create_lease hb with hlease | ⟨⟨e, ⟨⟩⟩, _⟩
    exact ⟨_, hlease, name_ne (hname b hba)⟩
  have hkept : (writers a).NamesAnother db₂ := by
    refine r.invariant_of_mem (fun db served db' hmem hserves hdb => ?_) hnamed
    obtain ⟨i, call, out⟩ := served
    refine namesAnother_step hname (fun initial heq => ?_) hserves hdb
    obtain ⟨rfl, rfl⟩ := Prod.mk.inj heq
    exact hcreate initial out hmem
  rw [hkept.serves ha]

/-! ## Both -/

/-- A coordinator that is created on empty tables answers every sequence of calls as the coordinator in memory with
the same first snapshot does, and an instance is fenced off once another one has initialized. -/
theorem refines_memory_and_fences (hjsonb : Json.Reorders jsonb) (localeCompare : LocaleCompare) :
    (∀ (c : PostgresDurableCoordinator) db initial calls, c.leaseOwner ≠ "" → c.leaseToken ≠ "" → Fresh db →
      (∀ s ∈ initial, Reloads s) → (∀ x ∈ calls, DurableCall.RoundTrips x) →
      c.AnswersAsMemory jsonb localeCompare db initial calls) ∧
    ∀ (ι : Type) (writers : ι → PostgresDurableCoordinator) (a b : ι), (∀ i, i ≠ a → writers i ≠ writers a) → b ≠ a →
      Fenced jsonb localeCompare writers a b :=
  ⟨fun _ _ _ _ howner htoken h hinitial hcalls => answersAsMemory hjsonb howner htoken h hinitial hcalls,
    fun _ _ _ _ hname hba => fenced hname hba⟩

/-- The commit goes through as in memory, and a second writer fences the first one off. -/
theorem named_writers_serve :
    AnswersAsMemory byNameLength codePointCompare ⟨"writer", "t1"⟩ { tables := .empty, nextSeq := 1 } (some firstWorld)
      [.commit doneCommit, .head, .recipeForChange doneChange] ∧
    Fenced byNameLength codePointCompare (fun second => ⟨"writer", if second then "t2" else "t1"⟩) false true := by
  obtain ⟨hanswers, hfences⟩ := @refines_memory_and_fences byNameLength byNameLength_reorders codePointCompare
  refine ⟨hanswers _ _ _ _ (by decide) (by decide) ⟨none, rfl⟩ ?_ ?_, hfences _ _ _ _ (by decide) (by decide)⟩
  · rintro s ⟨⟩
    exact firstWorld_reloads
  · simp only [List.forall_mem_cons, List.not_mem_nil, false_implies, implies_true, and_true]
    exact ⟨doneCommit_roundTrips, trivial, trivial⟩

theorem not_answersAsMemory (hdecode : decodeLease (c.leaseOwner, c.leaseToken) ≠ .ok (c.leaseOwner, c.leaseToken))
    {initial : Option CollaborationSnapshot} {expected : SnapshotRef} {snapshot : CollaborationSnapshot} :
    ¬ c.AnswersAsMemory jsonb localeCompare db initial [.compareAndSwapHead expected snapshot] := by
  rintro ⟨⟨served, db', hserved, r⟩, hall⟩
  obtain ⟨results, hresults, _⟩ := hall served db' hserved r
  cases served with
  | nil => cases hserved
  | cons first rest =>
      obtain ⟨call₁, out₁⟩ := first
      cases rest with
      | nil => simp at hserved
      | cons second rest =>
          obtain ⟨call₂, out₂⟩ := second
          simp only [List.map_cons, List.map_nil, List.cons.injEq] at hserved hresults
          obtain ⟨rfl, rfl, _⟩ := hserved
          obtain ⟨rfl, hresults⟩ := hresults
          obtain ⟨db₁, hcreate, hrun⟩ := Run.cons_iff.1 r
          obtain ⟨db₂, ⟨ended, ⟨ran, hexec, _⟩, rfl⟩, _⟩ := Run.cons_iff.1 hrun
          have hlease : db₁.tables.lease = some (c.leaseOwner, c.leaseToken) := by
            rcases serves_create_lease hcreate with hlease | ⟨⟨e, ⟨⟩⟩, _⟩
            exact hlease
          obtain ⟨⟨e, rfl⟩, _⟩ := exec_refused hlease hdecode hexec
          cases results with
          | nil => cases hresults
          | cons result rest => cases (List.cons.inj hresults).1

/-- Without an owner the coordinator cannot read its own name back, and throws where the one in memory moves its
head. -/
theorem nameless_writer_throws :
    (∀ s ∈ some firstWorld, Reloads s) ∧ (DurableCall.compareAndSwapHead "s0" secondWorld).RoundTrips ∧
    ¬ AnswersAsMemory byNameLength codePointCompare ⟨"", "t1"⟩ { tables := .empty, nextSeq := 1 } (some firstWorld)
      [.compareAndSwapHead "s0" secondWorld] := by
  refine ⟨?_, secondWorld_reloads, not_answersAsMemory ?_⟩
  · rintro s ⟨⟩
    exact firstWorld_reloads
  · simp [decodeLease, asString, Bind.bind, Except.bind]

end PostgresDurableCoordinator

end Cantilune
