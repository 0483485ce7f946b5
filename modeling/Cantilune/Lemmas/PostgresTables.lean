import Cantilune.Lemmas.MemberOrder
import Cantilune.Lemmas.StoredValues
import Cantilune.Runtime.PostgresDurable

/-!
# The coordinator in memory, as tables

How the tables represent the state of a coordinator in memory while the lease row names the writer, and what every
load then finds.
-/

namespace Cantilune

/-- A statement is answered as the database runs it. -/
def PgDb.Acts (jsonb : Json → Json) (db : PgDb) (r : SqlQuery) (resp : r.Resp) (db' : PgDb) : Prop :=
  db.run jsonb r = (resp, db')

namespace PostgresDurableCoordinator

open Program

variable {jsonb : Json → Json} {localeCompare : LocaleCompare} {c : PostgresDurableCoordinator} {db db' t : PgDb}
  {d : MemoryDurableCoordinator}

/-! ## Statements -/

theorem exec_query {α : Type} {r : SqlQuery} {rows : r.Rows} (h : db.run jsonb r = (.ok rows, db'))
    {next : r.Rows → PgProgram α} {out : Except DurableThrown α} :
    Exec (PgDb.Acts jsonb) (query r >>= next) db out t ↔ Exec (PgDb.Acts jsonb) (next rows) db' out t := by
  change Exec (PgDb.Acts jsonb) (.ask r _) db out t ↔ _
  rw [exec_ask]
  constructor
  · rintro ⟨resp, m, hact, hexec⟩
    cases h.symm.trans hact
    exact hexec
  · exact fun hexec => ⟨_, _, h, hexec⟩

theorem exec_execute {α : Type} {r : SqlQuery} {rows : r.Rows} (h : db.run jsonb r = (.ok rows, db'))
    {next : Unit → PgProgram α} {out : Except DurableThrown α} :
    Exec (PgDb.Acts jsonb) (execute r >>= next) db out t ↔ Exec (PgDb.Acts jsonb) (next ()) db' out t := by
  have hquery : execute r >>= next = query r >>= fun _ => next () := by
    change Program.ask r _ = Program.ask r _
    congr 1
    funext resp
    cases resp <;> rfl
  rw [hquery]
  exact exec_query h

theorem returns_query {α : Type} {r : SqlQuery} {rows : r.Rows} (h : db.run jsonb r = (.ok rows, db'))
    (f : r.Rows → α) : Returns (PgDb.Acts jsonb) (db = ·) (do return f (← query r)) fun a t => a = f rows ∧ db' = t := by
  rintro _ out t rfl hexec
  rw [exec_query h] at hexec
  obtain ⟨rfl, rfl⟩ := exec_done.1 hexec
  exact ⟨_, rfl, rfl, rfl⟩

theorem run_insertSnapshot {ref : SnapshotRef} (h : db.tables.snapshots.has ref = false) {payload : Json} :
    db.run jsonb (.insertSnapshot ref payload) =
      (.ok 1, { db with tables := { db.tables with snapshots := db.tables.snapshots.set ref (jsonb payload) } }) := by
  rw [PgDb.run, h]
  rfl

theorem run_insertChange {id : ChangeId} (h : (db.tables.changes.any fun row => row.changeId = id) = false)
    {beforeRef afterRef : SnapshotRef} {payload : Json} :
    db.run jsonb (.insertChange id beforeRef afterRef payload) =
      (.ok 1,
        { tables :=
            { db.tables with
              changes := db.tables.changes ++
                [{ seq := db.nextSeq, changeId := id, beforeRef, afterRef, payload := jsonb payload }] }
          nextSeq := db.nextSeq + 1 }) := by
  rw [PgDb.run, h]
  rfl

theorem run_insertRecipe {id : ChangeId} (h : db.tables.recipes.has id = false) {payload : Json} :
    db.run jsonb (.insertRecipe id payload) =
      (.ok 1, { db with tables := { db.tables with recipes := db.tables.recipes.set id (jsonb payload) } }) := by
  rw [PgDb.run, h]
  rfl

theorem run_seedHead (h : db.tables.head = none) (ref : SnapshotRef) :
    db.run jsonb (.seedHead ref) = (.ok 1, { db with tables := { db.tables with head := some ref } }) := by
  rw [PgDb.run, h]
  rfl

theorem run_writeHead {expected : SnapshotRef} (h : db.tables.head = some expected) (ref : SnapshotRef) :
    db.run jsonb (.writeHead ref) = (.ok 1, { db with tables := { db.tables with head := some ref } }) := by
  rw [PgDb.run, h]
  rfl

/-- The tables hold the state of the coordinator in memory, with this writer, and all of it can be read. -/
structure Represents (jsonb : Json → Json) (c : PostgresDurableCoordinator) (db : PgDb)
    (d : MemoryDurableCoordinator) : Prop where
  lease : db.tables.lease = some (c.leaseOwner, c.leaseToken)
  head : db.tables.head = d.store.headRef
  headNonempty : ∀ ref, d.store.headRef = some ref → ref ≠ ""
  binding : db.tables.epochBinding = d.activeBinding.map fun b => jsonb (serializeSchemaBindingWire b)
  readBinding : ∀ b, d.activeBinding = some b → b.RoundTrips
  snapshots : ∀ ref, db.tables.snapshots.get? ref = (d.store.get ref).map fun s => jsonb (snapshotPayload s)
  readSnapshot : ∀ ref s, d.store.get ref = some s → Reloads s
  changes : List.Forall₂ (fun row change => row.changeId = change.changeId ∧ decodeStoredChange row.payload = .ok change)
    db.tables.changes d.changelog.changes
  sorted : db.tables.changes.Pairwise fun a b => a.seq < b.seq
  seqBound : ∀ row ∈ db.tables.changes, row.seq < db.nextSeq
  recipes : ∀ id, db.tables.recipes.get? id = (d.sidecar.recipes.get? id).map fun r => jsonb (StoredRecipe.toJson r)
  readRecipe : ∀ id r, d.sidecar.recipes.get? id = some r →
    StoredRecipe.fromJson (StoredRecipe.toJson r) = some r ∧ snapshotReplayRecipe r = r
  recipeIds : ∀ id, d.sidecar.recipes.has id = d.changelog.changes.any fun change => change.changeId = id

/-! ## Payloads -/

section Payloads
variable (hjsonb : Json.Reorders jsonb)

include hjsonb

theorem asJsonPayload_obj (members : List (String × Json)) :
    asJsonPayload (jsonb (.obj members)) = .ok (jsonb (.obj members)) := by
  obtain ⟨ns, hns, _⟩ := hjsonb.obj members
  rw [hns]
  rfl

theorem decodeStoredSnapshot_jsonb {snapshot found : CollaborationSnapshot}
    (h : decodeSnapshotFromUnknown (encodeSnapshot snapshot).toJson = .ok found) :
    decodeStoredSnapshot (jsonb (snapshotPayload snapshot)) = .ok found := by
  have hpayload : asJsonPayload (jsonb (snapshotPayload snapshot)) = .ok (jsonb (snapshotPayload snapshot)) :=
    asJsonPayload_obj hjsonb _
  have hdecode : decodeSnapshotFromUnknown (jsonb (snapshotPayload snapshot)) = .ok found :=
    hjsonb.decodeSnapshotFromUnknown.trans h
  simp [decodeStoredSnapshot, hpayload, Bind.bind, Except.bind, hdecode]

theorem decodeStoredBinding_jsonb {binding : SchemaEpochBinding} (h : binding.RoundTrips) :
    decodeStoredBinding (jsonb (serializeSchemaBindingWire binding)) = .ok binding := by
  have hpayload : asJsonPayload (jsonb (serializeSchemaBindingWire binding)) =
      .ok (jsonb (serializeSchemaBindingWire binding)) := asJsonPayload_obj hjsonb _
  have hread : parseSchemaBindingWire (jsonb (serializeSchemaBindingWire binding)) = .ok binding :=
    hjsonb.parseSchemaBindingWire.trans h
  simp [decodeStoredBinding, hpayload, Bind.bind, Except.bind, hread]

theorem decodeStoredChange_jsonb {change : CoordinationChange} {recipe : ReplayRecipe} {dto : ChangeWireDto}
    (h : change.RoundTrips recipe) (hdto : encodeChangeWithRecipe change recipe = .ok dto) :
    decodeStoredChange (jsonb dto.toJson) = .ok change := by
  obtain ⟨dto', recipe', hdto', hread⟩ := h
  rw [hdto] at hdto'
  cases hdto'
  have hpayload : asJsonPayload (jsonb dto.toJson) = .ok (jsonb dto.toJson) := asJsonPayload_obj hjsonb _
  obtain ⟨recipe'', hread'⟩ := hjsonb.decodeChangeFromUnknown hread
  simp [decodeStoredChange, hpayload, Bind.bind, Except.bind, hread']

theorem decodeStoredRecipe_jsonb {recipe : ReplayRecipe}
    (h : StoredRecipe.fromJson (StoredRecipe.toJson recipe) = some recipe)
    (hcopy : snapshotReplayRecipe recipe = recipe) :
    ∃ found, decodeStoredRecipe (jsonb (StoredRecipe.toJson recipe)) = .ok found ∧ SameRecipe found recipe := by
  have hpayload : asJsonPayload (jsonb (StoredRecipe.toJson recipe)) = .ok (jsonb (StoredRecipe.toJson recipe)) :=
    asJsonPayload_obj hjsonb _
  obtain ⟨read, hread, hsame⟩ := StoredRecipe.fromJson_reordered hjsonb recipe h
  refine ⟨snapshotReplayRecipe read, by simp [decodeStoredRecipe, hpayload, Bind.bind, Except.bind, hread], ?_⟩
  have hcopied := hsame.snapshotReplayRecipe
  rw [hcopy] at hcopied
  exact hcopied

end Payloads

/-! ## Loads -/

theorem decodeFirst_toList {α β γ : Type} {decode : β → Except DurableThrown γ} {encode : α → β} {row : Option β}
    {x : Option α} {y : Option γ} (hrow : row = x.map encode)
    (hread : Option.Rel (fun a b => decode (encode a) = .ok b) x y) : decodeFirst decode row.toList = .ok y := by
  subst hrow
  cases hread with
  | none => rfl
  | some hdecode =>
      simp only [decodeFirst, Option.map_some, Option.toList_some, List.head?_cons, hdecode]
      rfl

theorem returns_select {α : Type} {r : SqlQuery} {rows : r.Rows} (h : db.run jsonb r = (.ok rows, db))
    {decode : r.Rows → Except DurableThrown α} {a : α} (hdecode : decode rows = .ok a) :
    Returns (PgDb.Acts jsonb) (db = ·) (do ofExcept (decode (← query r))) fun found db' => found = a ∧ db = db' := by
  rintro _ out t rfl hexec
  rw [exec_query h, hdecode] at hexec
  obtain ⟨rfl, rfl⟩ := exec_done.1 hexec
  exact ⟨_, rfl, rfl, rfl⟩

section Answers
variable (hjsonb : Json.Reorders jsonb) (h : c.Represents jsonb db d)

include h

theorem returns_assertWriter (howner : c.leaseOwner ≠ "") (htoken : c.leaseToken ≠ "") :
    Returns (PgDb.Acts jsonb) (db = ·) c.assertWriter fun _ db' => db = db' := by
  have hdecode : decodeFirst decodeLease db.tables.lease.toList = .ok (some (c.leaseOwner, c.leaseToken)) := by
    rw [h.lease]
    simp [decodeFirst, decodeLease, asString, howner, htoken, Bind.bind, Except.bind, Pure.pure, Except.pure, Except.map]
  have hload : Returns (PgDb.Acts jsonb) (db = ·) loadLease fun found db' =>
      found = some (c.leaseOwner, c.leaseToken) ∧ db = db' := returns_select rfl hdecode
  rintro _ out t rfl hexec
  obtain ⟨_, _, ⟨rfl, rfl⟩, hexec⟩ := hload.of_bind rfl hexec
  rw [if_pos rfl] at hexec
  obtain ⟨rfl, rfl⟩ := exec_done.1 hexec
  exact ⟨(), rfl, rfl⟩

theorem returns_loadHead : Returns (PgDb.Acts jsonb) (db = ·) loadHead fun found db' =>
    found = d.store.headRef ∧ db = db' := by
  have hhead : db.tables.head = d.store.headRef.map id := by rw [Option.map_id, h.head]; rfl
  refine returns_select rfl (decodeFirst_toList hhead ?_)
  cases href : d.store.headRef with
  | none => exact .none
  | some ref => exact .some (if_neg (h.headNonempty ref href))

include hjsonb

theorem returns_loadSnapshot (ref : SnapshotRef) :
    Returns (PgDb.Acts jsonb) (db = ·) (loadSnapshot ref) fun found db' => found = d.reloaded ref ∧ db = db' := by
  refine returns_select rfl (decodeFirst_toList (h.snapshots ref) ?_)
  unfold MemoryDurableCoordinator.reloaded
  cases hs : d.store.get ref with
  | none => exact .none
  | some s =>
      obtain ⟨found, hdecode, _⟩ := exists_reload (h.readSnapshot ref s hs)
      rw [Option.bind_some, reload, hdecode]
      exact .some (decodeStoredSnapshot_jsonb hjsonb hdecode)

theorem returns_loadBinding : Returns (PgDb.Acts jsonb) (db = ·) loadBinding fun found db' =>
    found = d.activeBinding ∧ db = db' := by
  refine returns_select rfl (decodeFirst_toList h.binding ?_)
  cases hb : d.activeBinding with
  | none => exact .none
  | some b => exact .some (decodeStoredBinding_jsonb hjsonb (h.readBinding b hb))

theorem returns_loadRecipe (id : ChangeId) : Returns (PgDb.Acts jsonb) (db = ·) (loadRecipe id) fun found db' =>
    Option.Rel SameRecipe found (d.sidecar.recipes.get? id) ∧ db = db' := by
  have hfound : ∃ found, decodeFirst decodeStoredRecipe (db.tables.recipes.get? id).toList = .ok found ∧
      Option.Rel SameRecipe found (d.sidecar.recipes.get? id) := by
    have hrow := h.recipes id
    cases hr : d.sidecar.recipes.get? id with
    | none => exact ⟨none, decodeFirst_toList hrow (by rw [hr]; exact .none), .none⟩
    | some r =>
        obtain ⟨hread, hcopy⟩ := h.readRecipe id r hr
        obtain ⟨found, hdecode, hsame⟩ := decodeStoredRecipe_jsonb hjsonb hread hcopy
        exact ⟨some found, decodeFirst_toList hrow (by rw [hr]; exact .some hdecode), .some hsame⟩
  obtain ⟨found, hdecode, hsame⟩ := hfound
  exact Returns.weaken (returns_select rfl hdecode) fun _ _ hfound => ⟨hfound.1 ▸ hsame, hfound.2⟩

/-! ### The change log -/

omit hjsonb in
theorem any_changeId (id : ChangeId) : (db.tables.changes.any fun row => row.changeId = id) =
    d.changelog.changes.any fun change => change.changeId = id := by
  have hrows := h.changes
  generalize db.tables.changes = rows, d.changelog.changes = changes at hrows
  induction hrows with
  | nil => rfl
  | cons hrow _ ih => rw [List.any_cons, List.any_cons, ih, hrow.1]

omit hjsonb in
theorem decode_payloads : (db.tables.changes.map (·.payload)).mapM decodeStoredChange = .ok d.changelog.changes := by
  have hrows := h.changes
  generalize db.tables.changes = rows, d.changelog.changes = changes at hrows
  induction hrows with
  | nil => rfl
  | cons hrow _ ih =>
      rw [List.map_cons, List.mapM_cons, hrow.2, ih]
      rfl

omit hjsonb in
theorem returns_changeIdExists (id : ChangeId) : Returns (PgDb.Acts jsonb) (db = ·) (changeIdExists id)
    fun found db' => found = (d.changelog.changes.any fun change => change.changeId = id) ∧ db = db' := by
  rintro _ out t rfl hexec
  rw [changeIdExists, exec_query rfl] at hexec
  obtain ⟨rfl, rfl⟩ := exec_done.1 hexec
  refine ⟨_, rfl, ?_, rfl⟩
  rw [← any_changeId h id, Bool.eq_iff_iff, decide_eq_true_eq, List.any_eq_true, gt_iff_lt, List.countP_pos_iff]

omit hjsonb in
theorem returns_loadChanges : Returns (PgDb.Acts jsonb) (db = ·) loadChanges fun changes db' =>
    changes = d.changelog.changes ∧ db = db' := by
  refine returns_select rfl ?_
  have hsorted : db.tables.changes.insertionSort (fun a b => a.seq ≤ b.seq) = db.tables.changes :=
    (h.sorted.imp fun hlt => hlt.le).insertionSort_eq
  rw [hsorted]
  exact decode_payloads h

omit hjsonb in
theorem returns_loadLastChange : Returns (PgDb.Acts jsonb) (db = ·) loadLastChange fun last db' =>
    last = d.changelog.changes.getLast? ∧ db = db' := by
  refine returns_select rfl ?_
  have hreversed : db.tables.changes.insertionSort (fun a b => b.seq ≤ a.seq) = db.tables.changes.reverse := by
    refine insertionSort_eq_of_perm (List.reverse_perm _).symm (List.pairwise_reverse.2 ?_)
    exact h.sorted.imp fun hlt => ⟨hlt.le, hlt.not_ge⟩
  have hhead : (((db.tables.changes.insertionSort fun a b => b.seq ≤ a.seq).map (·.payload)).take 1).head? =
      (db.tables.changes.map (·.payload)).getLast? := by
    rw [hreversed, List.head?_take, if_neg (by decide), List.map_reverse, List.head?_reverse]
  rw [decodeFirst, hhead]
  rcases getLast?_of_mapM (decode_payloads h) with ⟨hnone, hlast⟩ | ⟨payload, change, hsome, hdecode, hlast⟩
  · rw [hnone, hlast]
  · rw [hsome, hlast]
    simp only [hdecode]
    rfl

end Answers

end PostgresDurableCoordinator

end Cantilune
