import Cantilune.Base.Rows
import Cantilune.Lemmas.RaftRequests
import Cantilune.Lemmas.StoredValues

/-!
# The coordinator in memory, stored

How the store represents the state of a coordinator in memory while the writer holds its lease, and what every
load then finds.
-/

namespace Cantilune

namespace RaftDurableCoordinator

open Program

/-! ## Requests of a writer whose lease is alive -/

def LeaseAlive (c : RaftDurableCoordinator) (kv : MemoryRaftKv StoredValue) (now : ℚ) : Prop :=
  ∀ stored leaseId, kv.store.get? (c.key .lease) = some stored → stored.leaseId = some leaseId →
    kv.leaseExpired now leaseId = false

def ActsAlive (localeCompare : LocaleCompare) (c : RaftDurableCoordinator) (kv : MemoryRaftKv StoredValue)
    (r : KvRequest StoredValue) (resp : r.Resp) (kv' : MemoryRaftKv StoredValue) : Prop :=
  ∃ now, c.LeaseAlive kv now ∧ kv.run localeCompare now r = (resp, kv')

/-- Nothing below the root of the coordinator has changed. -/
def SameKeys («namespace» : String) (kv kv' : MemoryRaftKv StoredValue) : Prop :=
  ∀ key, (durableRoot «namespace»).toList <+: key.toList → kv'.store.get? key = kv.store.get? key

variable {localeCompare : LocaleCompare} {c : RaftDurableCoordinator} {kv kv₀ kv' : MemoryRaftKv StoredValue}
  {now : ℚ} {r : KvRequest StoredValue} {resp : r.Resp}

theorem sameKeys_expireLeases (hunleased : DataUnleased c.namespace kv) (halive : c.LeaseAlive kv now) :
    SameKeys c.namespace kv (kv.expireLeases now) := by
  intro key hroot
  by_cases hkey : key = c.key .lease
  · subst hkey
    rw [MemoryRaftKv.get?_expireLeases]
    cases hstored : kv.store.get? (c.key .lease) with
    | none => rfl
    | some stored =>
        have hall : stored.leaseId.all (fun leaseId => !kv.leaseExpired now leaseId) = true := by
          cases hlease : stored.leaseId with
          | none => rfl
          | some leaseId => simp [halive stored leaseId hstored hlease]
        exact Option.filter_some_pos hall
  · exact sameData_expireLeases hunleased key ⟨hroot, hkey⟩

theorem SameKeys.trans {kv₁ kv₂ kv₃ : MemoryRaftKv StoredValue} {«namespace» : String}
    (h : SameKeys «namespace» kv₁ kv₂) (h' : SameKeys «namespace» kv₂ kv₃) : SameKeys «namespace» kv₁ kv₃ :=
  fun key hroot => (h' key hroot).trans (h key hroot)

theorem SameKeys.dataUnleased {«namespace» : String} (h : SameKeys «namespace» kv kv')
    (hunleased : DataUnleased «namespace» kv) : DataUnleased «namespace» kv' := by
  intro key stored hkey hstored
  rw [h key hkey.1] at hstored
  exact hunleased key stored hkey hstored

theorem SameKeys.get? (h : SameKeys c.namespace kv kv') (k : RaftKey) :
    kv'.store.get? (c.key k) = kv.store.get? (c.key k) :=
  h _ (RaftKey.root_prefix_text _ _)

/-- A state of the store that still holds what `kv₀` held. -/
def Unchanged (c : RaftDurableCoordinator) (kv₀ kv : MemoryRaftKv StoredValue) : Prop :=
  DataUnleased c.namespace kv₀ ∧ SameKeys c.namespace kv₀ kv

theorem unchanged_expireLeases (h : c.Unchanged kv₀ kv) (halive : c.LeaseAlive kv now) :
    c.Unchanged kv₀ (kv.expireLeases now) :=
  ⟨h.1, h.2.trans (sameKeys_expireLeases (h.2.dataUnleased h.1) halive)⟩

theorem unchanged_of_store (h : c.Unchanged kv₀ kv) (hstore : kv'.store = kv.store) : c.Unchanged kv₀ kv' := by
  refine ⟨h.1, fun key hroot => ?_⟩
  rw [hstore]
  exact h.2 key hroot

theorem returns_get (k : RaftKey) : Returns (c.ActsAlive localeCompare) (c.Unchanged kv₀) (c.get k) fun entry kv =>
    entry = kv₀.store.get? (c.key k) ∧ c.Unchanged kv₀ kv := by
  refine returns_request fun kv entry kv' hkv hact => ?_
  obtain ⟨now, halive, hrun⟩ := hact
  have hnext := unchanged_expireLeases hkv halive
  have hresult : ((kv.expireLeases now).store.get? (c.key k), kv.expireLeases now) = (entry, kv') := hrun
  cases hresult
  exact ⟨hnext.2.get? k, hnext⟩

theorem returns_refreshLease : Returns (c.ActsAlive localeCompare) (c.Unchanged kv₀) c.refreshLease fun _ kv =>
    c.Unchanged kv₀ kv := by
  intro kv out kv' hkv hexec
  obtain ⟨entry, kv, ⟨rfl, hkv⟩, hexec⟩ := (returns_get .fencingLease).of_bind hkv hexec
  cases hlease : (kv₀.store.get? (c.key .fencingLease)).bind (·.value.text?) with
  | none =>
      simp only [hlease] at hexec
      obtain ⟨rfl, rfl⟩ := exec_done.1 hexec
      exact ⟨_, rfl, hkv⟩
  | some leaseId =>
      simp only [hlease] at hexec
      have hkeep : Returns (c.ActsAlive localeCompare) (c.Unchanged kv₀) (send (.keepAlive leaseId)) fun _ kv =>
          c.Unchanged kv₀ kv := by
        refine returns_request fun kv kept kv' hkv hact => ?_
        obtain ⟨now, halive, hrun⟩ := hact
        have hstore := @MemoryRaftKv.run_store _ kv now localeCompare _ (.keepAlive leaseId) rfl
        rw [hrun] at hstore
        exact unchanged_of_store (unchanged_expireLeases hkv halive) hstore
      obtain ⟨_, kv, hkv, hexec⟩ := hkeep.of_bind hkv hexec
      obtain ⟨rfl, rfl⟩ := exec_done.1 hexec
      exact ⟨_, rfl, hkv⟩

/-! ## What is stored -/

def valueAt (c : RaftDurableCoordinator) (kv : MemoryRaftKv StoredValue) (k : RaftKey) : Option StoredValue :=
  (kv.store.get? (c.key k)).map (·.value)

theorem valueAt_put (k : RaftKey) (value : StoredValue) (leaseId : Option LeaseId) :
    c.valueAt (kv.put (c.key k) value leaseId) = Function.update (c.valueAt kv) k (some value) := by
  funext l
  unfold valueAt
  by_cases hlk : l = k
  · subst hlk
    rw [MemoryRaftKv.get?_put_self, Function.update_self]
    rfl
  · have hne : c.key l ≠ c.key k := fun heq => hlk ((RaftKey.text_inj).1 heq)
    rw [MemoryRaftKv.get?_put_ne hne, Function.update_of_ne hlk]

theorem isSome_valueAt (k : RaftKey) : (c.valueAt kv k).isSome = (kv.store.get? (c.key k)).isSome :=
  Option.isSome_map

structure Image (c : RaftDurableCoordinator) (values : RaftKey → Option StoredValue) (d : MemoryDurableCoordinator) :
    Prop where
  lease : values .lease = some (encodeLease c.leaseOwner c.leaseToken)
  head : values .head = d.store.headRef.map .text
  headNonempty : ∀ ref, d.store.headRef = some ref → ref ≠ ""
  binding : values .binding = d.activeBinding.map fun b => .json (serializeSchemaBindingWire b)
  readBinding : ∀ b, d.activeBinding = some b → b.RoundTrips
  snapshots : ∀ ref, values (.snapshot ref) = (d.store.get ref).map fun s => .json (encodeSnapshot s).toJson
  readSnapshot : ∀ ref s, d.store.get ref = some s → Reloads s
  changes : ∀ n change, d.changelog.changes[n]? = some change →
    ∃ value, values (.change (n + 1)) = some value ∧ decodeStoredChange value = .ok change
  changeBound : ∀ n, (values (.change n)).isSome → 0 < n ∧ n ≤ d.changelog.changes.length
  seq : (((values .seq).bind StoredValue.text?).bind decimalValue).getD 0 = d.changelog.changes.length
  changeIds : ∀ id, (values (.changeId id)).isSome = d.changelog.changes.any fun change => change.changeId = id
  recipes : ∀ id, values (.recipe id) = (d.sidecar.recipes.get? id).map fun r => .json (StoredRecipe.toJson r)
  readRecipe : ∀ id r, d.sidecar.recipes.get? id = some r →
    StoredRecipe.fromJson (StoredRecipe.toJson r) = some r ∧ snapshotReplayRecipe r = r

def OnlyChangeKeys (c : RaftDurableCoordinator) (kv : MemoryRaftKv StoredValue) : Prop :=
  ∀ key stored, (changePrefix c.namespace).toList <+: key.toList → kv.store.get? key = some stored →
    ∃ n, key = c.key (.change n)

structure Represents (c : RaftDurableCoordinator) (kv : MemoryRaftKv StoredValue) (d : MemoryDurableCoordinator) :
    Prop extends Image c (c.valueAt kv) d where
  changeKeys : c.OnlyChangeKeys kv
  unleased : DataUnleased c.namespace kv

variable {d : MemoryDurableCoordinator}

theorem root_starts_changePrefix {key : String} (h : (changePrefix c.namespace).toList <+: key.toList) :
    (durableRoot c.namespace).toList <+: key.toList := by
  refine List.IsPrefix.trans ?_ h
  rw [changePrefix, String.toList_append]
  exact List.prefix_append _ _

theorem Represents.congr (h : c.Represents kv₀ d) (hkv : c.Unchanged kv₀ kv) : c.Represents kv d := by
  have hvalues : c.valueAt kv = c.valueAt kv₀ := funext fun k => by rw [valueAt, valueAt, hkv.2.get? k]
  refine { toImage := hvalues ▸ h.toImage, changeKeys := ?_, unleased := hkv.2.dataUnleased hkv.1 }
  intro key stored hstarts hstored
  rw [hkv.2 key (root_starts_changePrefix hstarts)] at hstored
  exact h.changeKeys key stored hstarts hstored

theorem onlyChangeKeys_put {k : RaftKey} {value : StoredValue} {leaseId : Option LeaseId} (h : c.OnlyChangeKeys kv) :
    c.OnlyChangeKeys (kv.put (c.key k) value leaseId) := by
  intro key stored hstarts hstored
  by_cases hkey : key = c.key k
  · subst hkey
    obtain ⟨n, hn⟩ := RaftKey.changePrefix_prefix_text.1 hstarts
    exact ⟨n, by rw [hn]⟩
  · rw [MemoryRaftKv.get?_put_ne hkey] at hstored
    exact h key stored hstarts hstored

/-! ## Loads -/

theorem decodeEntry_rel {α β : Type} {decode : StoredValue → Except DurableThrown β} {encode : α → StoredValue}
    {entry : Option (StoredEntry StoredValue)} {x : Option α} {y : Option β}
    (hvalue : entry.map (·.value) = x.map encode) (hread : Option.Rel (fun a b => decode (encode a) = .ok b) x y) :
    decodeEntry decode entry = .ok y := by
  cases hread with
  | none =>
      rw [Option.map_none, Option.map_eq_none_iff] at hvalue
      subst hvalue
      rfl
  | some hdecode =>
      obtain ⟨stored, rfl, hstored⟩ := Option.map_eq_some_iff.1 hvalue
      simp only [decodeEntry, hstored, hdecode]
      rfl

theorem decodeEntry_eq {α : Type} {decode : StoredValue → Except DurableThrown α} {encode : α → StoredValue}
    {entry : Option (StoredEntry StoredValue)} {x : Option α} (hvalue : entry.map (·.value) = x.map encode)
    (hread : ∀ a, x = some a → decode (encode a) = .ok a) : decodeEntry decode entry = .ok x := by
  refine decodeEntry_rel hvalue ?_
  cases x with
  | none => exact .none
  | some a => exact .some (hread a rfl)

theorem decodeStoredSnapshot_encode {snapshot found : CollaborationSnapshot}
    (h : decodeSnapshotFromUnknown (encodeSnapshot snapshot).toJson = .ok found) :
    decodeStoredSnapshot (.json (encodeSnapshot snapshot).toJson) = .ok found := by
  simp [decodeStoredSnapshot, parseJson, Bind.bind, Except.bind, h]

theorem decodeStoredBinding_encode {binding : SchemaEpochBinding} (h : binding.RoundTrips) :
    decodeStoredBinding (.json (serializeSchemaBindingWire binding)) = .ok binding := by
  have hread : parseSchemaBindingWire (serializeSchemaBindingWire binding) = .ok binding := h
  simp [decodeStoredBinding, parseJson, Bind.bind, Except.bind, hread]

theorem decodeStoredRecipe_encode {recipe : ReplayRecipe}
    (h : StoredRecipe.fromJson (StoredRecipe.toJson recipe) = some recipe) (hcopy : snapshotReplayRecipe recipe = recipe) :
    decodeStoredRecipe (.json (StoredRecipe.toJson recipe)) = .ok recipe := by
  simp [decodeStoredRecipe, parseJson, Bind.bind, Except.bind, h, hcopy]

theorem decodeStoredChange_encode {change : CoordinationChange} {recipe : ReplayRecipe} {dto : ChangeWireDto}
    (h : change.RoundTrips recipe) (hdto : encodeChangeWithRecipe change recipe = .ok dto) :
    decodeStoredChange (.json dto.toJson) = .ok change := by
  obtain ⟨dto', recipe', hdto', hread⟩ := h
  rw [hdto] at hdto'
  cases hdto'
  simp [decodeStoredChange, parseJson, Bind.bind, Except.bind, hread]

theorem decodeLease_encode {owner token : String} (howner : owner ≠ "") (htoken : token ≠ "") :
    decodeLease (encodeLease owner token) = .ok (owner, token) := by
  simp [decodeLease, encodeLease, parseJson, Bind.bind, Except.bind, Pure.pure, Except.pure, asString, Json.get?, List.lookup_cons,
    howner, htoken]

def OrdersChangeKeys (localeCompare : LocaleCompare) («namespace» : String) (bound : Nat) : Prop :=
  ∀ m n, m < n → n ≤ bound →
    localeCompare (RaftKey.text «namespace» (.change m)) (RaftKey.text «namespace» (.change n)) ≤ 0 ∧
      ¬ localeCompare (RaftKey.text «namespace» (.change n)) (RaftKey.text «namespace» (.change m)) ≤ 0

def changeEntry (c : RaftDurableCoordinator) (kv : MemoryRaftKv StoredValue) (n : Nat) :
    Option (RaftKvEntry StoredValue) :=
  (kv.store.get? (c.key (.change (n + 1)))).map (MemoryRaftKv.toEntry (c.key (.change (n + 1))))

theorem changeEntry_key {n : Nat} {entry : RaftKvEntry StoredValue} (h : c.changeEntry kv n = some entry) :
    entry.key = c.key (.change (n + 1)) := by
  obtain ⟨stored, _, rfl⟩ := Option.map_eq_some_iff.1 h
  rfl

theorem rangeEntries_eq (h : c.Represents kv d)
    (horder : OrdersChangeKeys localeCompare c.namespace d.changelog.changes.length) :
    kv.rangeEntries localeCompare (changePrefix c.namespace) =
      (List.range d.changelog.changes.length).filterMap (c.changeEntry kv) := by
  refine insertionSort_eq_of_perm ?_ ?_
  · refine (List.perm_ext_iff_of_nodup ?_ ?_).2 fun entry => ?_
    · have hnodup : (kv.store.entries.map fun e => e.1).Nodup := kv.store.nodupKeys
      have hkeys : (((kv.store.entries.filter fun e => (changePrefix c.namespace).toList.isPrefixOf e.1.toList).map
          fun e => MemoryRaftKv.toEntry e.1 e.2).map (·.key)).Nodup := by
        rw [List.map_map]
        exact hnodup.sublist (List.filter_sublist.map _)
      exact List.Nodup.of_map _ hkeys
    · rw [List.nodup_iff_pairwise_ne, List.pairwise_filterMap]
      refine List.pairwise_lt_range.imp fun {m n} hlt a ha b hb hab => ?_
      have hkeys : c.key (.change (m + 1)) = c.key (.change (n + 1)) := by
        rw [← changeEntry_key ha, ← changeEntry_key hb, hab]
      have hmn := (RaftKey.text_inj).1 hkeys
      cases hmn
      exact absurd hlt (Nat.lt_irrefl _)
    · simp only [List.mem_map, List.mem_filter, List.isPrefixOf_iff_prefix, List.mem_filterMap, List.mem_range]
      constructor
      · rintro ⟨⟨key, stored⟩, ⟨hmem, hstarts⟩, rfl⟩
        have hstored : kv.store.get? key = some stored := OrdMap.mem_entries.1 hmem
        obtain ⟨n, rfl⟩ := h.changeKeys key stored hstarts hstored
        obtain ⟨hpos, hbound⟩ := h.changeBound n (by rw [isSome_valueAt, hstored]; rfl)
        obtain ⟨m, rfl⟩ := Nat.exists_eq_succ_of_ne_zero hpos.ne'
        exact ⟨m, hbound, by rw [changeEntry, hstored]; rfl⟩
      · rintro ⟨n, hn, hentry⟩
        obtain ⟨stored, hstored, rfl⟩ := Option.map_eq_some_iff.1 hentry
        exact ⟨(c.key (.change (n + 1)), stored),
          ⟨OrdMap.mem_entries.2 hstored, RaftKey.changePrefix_prefix_text.2 ⟨n + 1, rfl⟩⟩, rfl⟩
  · rw [List.pairwise_filterMap]
    refine (List.pairwise_lt_range.and (List.pairwise_iff_forall_sublist.2 fun {m n} hsub => ?_)).imp
      (R := fun m n => m < n ∧ n < d.changelog.changes.length) fun {m n} hlt a ha b hb => ?_
    · exact List.mem_range.1 (hsub.subset (by simp))
    · rw [changeEntry_key ha, changeEntry_key hb]
      exact horder (m + 1) (n + 1) (Nat.succ_lt_succ hlt.1) hlt.2

theorem decode_rangeEntries (h : c.Represents kv d)
    (horder : OrdersChangeKeys localeCompare c.namespace d.changelog.changes.length) :
    (kv.rangeEntries localeCompare (changePrefix c.namespace)).mapM (fun entry => decodeStoredChange entry.value) =
      .ok d.changelog.changes := by
  rw [rangeEntries_eq h horder]
  refine mapM_filterMap_range fun n change hn => ?_
  obtain ⟨value, hvalue, hdecode⟩ := h.changes n change hn
  obtain ⟨stored, hstored, rfl⟩ := Option.map_eq_some_iff.1 hvalue
  exact ⟨_, by rw [changeEntry, hstored]; rfl, hdecode⟩

section Answers
variable (h : c.Represents kv₀ d)

include h

theorem returns_loadHead : Returns (c.ActsAlive localeCompare) (c.Unchanged kv₀) c.loadHead fun ref kv =>
    ref = d.store.headRef ∧ c.Unchanged kv₀ kv := by
  intro kv out kv' hkv hexec
  obtain ⟨_, kv, ⟨rfl, hkv⟩, hexec⟩ := (returns_get .head).of_bind hkv hexec
  obtain ⟨rfl, rfl⟩ := exec_done.1 hexec
  refine ⟨_, rfl, ?_, hkv⟩
  have htext : (kv₀.store.get? (c.key .head)).bind (fun stored => stored.value.text?) = d.store.headRef := by
    have hhead := congrArg (fun v => Option.bind v StoredValue.text?) h.head
    simp only [valueAt, Option.bind_map] at hhead
    rw [Function.comp_def] at hhead
    refine hhead.trans ?_
    cases d.store.headRef <;> rfl
  rw [headOf, htext]
  cases href : d.store.headRef with
  | none => rfl
  | some ref => exact Option.filter_some_pos (by simpa using h.headNonempty ref href)

theorem returns_loadSnapshot (ref : SnapshotRef) :
    Returns (c.ActsAlive localeCompare) (c.Unchanged kv₀) (c.loadSnapshot ref) fun found kv =>
      found = d.reloaded ref ∧ c.Unchanged kv₀ kv := by
  intro kv out kv' hkv hexec
  obtain ⟨_, kv, ⟨rfl, hkv⟩, hexec⟩ := (returns_get (.snapshot ref)).of_bind hkv hexec
  refine returns_ofExcept (decodeEntry_rel (h.snapshots ref) ?_) kv out kv' hkv hexec
  unfold MemoryDurableCoordinator.reloaded
  cases hs : d.store.get ref with
  | none => exact .none
  | some s =>
      obtain ⟨found, hdecode, _⟩ := exists_reload (h.readSnapshot ref s hs)
      rw [Option.bind_some, reload, hdecode]
      exact .some (decodeStoredSnapshot_encode hdecode)

theorem returns_loadBinding : Returns (c.ActsAlive localeCompare) (c.Unchanged kv₀) c.loadBinding fun found kv =>
    found = d.activeBinding ∧ c.Unchanged kv₀ kv := by
  intro kv out kv' hkv hexec
  obtain ⟨_, kv, ⟨rfl, hkv⟩, hexec⟩ := (returns_get .binding).of_bind hkv hexec
  refine returns_ofExcept (decodeEntry_eq h.binding fun b hb => ?_) kv out kv' hkv hexec
  exact decodeStoredBinding_encode (h.readBinding b hb)

theorem returns_loadRecipe (id : ChangeId) :
    Returns (c.ActsAlive localeCompare) (c.Unchanged kv₀) (c.loadRecipe id) fun found kv =>
      found = d.sidecar.recipes.get? id ∧ c.Unchanged kv₀ kv := by
  intro kv out kv' hkv hexec
  obtain ⟨_, kv, ⟨rfl, hkv⟩, hexec⟩ := (returns_get (.recipe id)).of_bind hkv hexec
  refine returns_ofExcept (decodeEntry_eq (h.recipes id) fun r hr => ?_) kv out kv' hkv hexec
  obtain ⟨hread, hcopy⟩ := h.readRecipe id r hr
  exact decodeStoredRecipe_encode hread hcopy

theorem returns_changeIdExists (id : ChangeId) :
    Returns (c.ActsAlive localeCompare) (c.Unchanged kv₀) (c.changeIdExists id) fun found kv =>
      found = (d.changelog.changes.any fun change => change.changeId = id) ∧ c.Unchanged kv₀ kv := by
  intro kv out kv' hkv hexec
  obtain ⟨_, kv, ⟨rfl, hkv⟩, hexec⟩ := (returns_get (.changeId id)).of_bind hkv hexec
  obtain ⟨rfl, rfl⟩ := exec_done.1 hexec
  exact ⟨_, rfl, (isSome_valueAt _).symm.trans (h.changeIds id), hkv⟩

theorem returns_leaseOwned (howner : c.leaseOwner ≠ "") (htoken : c.leaseToken ≠ "") :
    Returns (c.ActsAlive localeCompare) (c.Unchanged kv₀) c.leaseOwned fun owned kv =>
      owned = true ∧ c.Unchanged kv₀ kv := by
  have hload : Returns (c.ActsAlive localeCompare) (c.Unchanged kv₀) c.loadLease fun lease kv =>
      lease = some (c.leaseOwner, c.leaseToken) ∧ c.Unchanged kv₀ kv := by
    intro kv out kv' hkv hexec
    obtain ⟨_, kv, ⟨rfl, hkv⟩, hexec⟩ := (returns_get .lease).of_bind hkv hexec
    have hvalue : (kv₀.store.get? (c.key .lease)).map (·.value) =
        (some (c.leaseOwner, c.leaseToken)).map fun name => encodeLease name.1 name.2 := h.lease
    refine returns_ofExcept (decodeEntry_eq hvalue fun name hname => ?_) kv out kv' hkv hexec
    cases hname
    exact decodeLease_encode howner htoken
  intro kv out kv' hkv hexec
  obtain ⟨_, kv, ⟨rfl, hkv⟩, hexec⟩ := hload.of_bind hkv hexec
  obtain ⟨rfl, rfl⟩ := exec_done.1 hexec
  exact ⟨_, rfl, by simp, hkv⟩

theorem returns_assertWriter (howner : c.leaseOwner ≠ "") (htoken : c.leaseToken ≠ "") :
    Returns (c.ActsAlive localeCompare) (c.Unchanged kv₀) c.assertWriter fun _ kv => c.Unchanged kv₀ kv := by
  intro kv out kv' hkv hexec
  obtain ⟨_, kv, ⟨rfl, hkv⟩, hexec⟩ := (returns_leaseOwned h howner htoken).of_bind hkv hexec
  obtain ⟨rfl, rfl⟩ := exec_done.1 hexec
  exact ⟨_, rfl, hkv⟩

variable (horder : OrdersChangeKeys localeCompare c.namespace d.changelog.changes.length)

include horder

theorem returns_range : Returns (c.ActsAlive localeCompare) (c.Unchanged kv₀)
    (send (.range (changePrefix c.namespace))) fun (rows : List (RaftKvEntry StoredValue)) kv =>
      rows.mapM (fun entry => decodeStoredChange entry.value) = .ok d.changelog.changes ∧ c.Unchanged kv₀ kv := by
  refine returns_request fun kv rows kv' hkv hact => ?_
  obtain ⟨now, halive, hrun⟩ := hact
  have hnext := unchanged_expireLeases hkv halive
  have hresult : ((kv.expireLeases now).rangeEntries localeCompare (changePrefix c.namespace),
      kv.expireLeases now) = (rows, kv') := hrun
  cases hresult
  exact ⟨decode_rangeEntries (h.congr hnext) horder, hnext⟩

theorem returns_loadChanges : Returns (c.ActsAlive localeCompare) (c.Unchanged kv₀) c.loadChanges fun changes kv =>
    changes = d.changelog.changes ∧ c.Unchanged kv₀ kv := by
  intro kv out kv' hkv hexec
  obtain ⟨rows, kv, ⟨hrows, hkv⟩, hexec⟩ := (returns_range h horder).of_bind hkv hexec
  exact returns_ofExcept hrows kv out kv' hkv hexec

theorem returns_loadLastChange :
    Returns (c.ActsAlive localeCompare) (c.Unchanged kv₀) c.loadLastChange fun last kv =>
      last = d.changelog.changes.getLast? ∧ c.Unchanged kv₀ kv := by
  intro kv out kv' hkv hexec
  obtain ⟨rows, kv, ⟨hrows, hkv⟩, hexec⟩ := (returns_range h horder).of_bind hkv hexec
  rcases getLast?_of_mapM hrows with ⟨hnone, hlast⟩ | ⟨entry, change, hsome, hdecode, hlast⟩
  · simp only [hnone] at hexec
    obtain ⟨rfl, rfl⟩ := exec_done.1 hexec
    exact ⟨_, rfl, hlast.symm, hkv⟩
  · simp only [hsome, hdecode] at hexec
    obtain ⟨rfl, rfl⟩ := exec_done.1 hexec
    exact ⟨_, rfl, hlast.symm, hkv⟩

end Answers

end RaftDurableCoordinator

end Cantilune
