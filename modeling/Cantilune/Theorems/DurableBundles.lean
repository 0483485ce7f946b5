import Cantilune.Runtime.DurableBundle

/-!
# What an imported bundle has been checked for

The import decodes snapshots and changes and compares the copies of the recipes. It follows neither the references of
the changes nor the order of the log, and it looks the head up only where the bundle carries a binding.
-/

namespace Cantilune

variable {localeCompare : LocaleCompare} {print : ℚ → String} {bundle : Json} {result : ImportDurableResult}

def ReachedFrom (localeCompare : LocaleCompare) (resolve : SnapshotRef → Option CollaborationSnapshot)
    (first second : SnapshotRef) : Prop :=
  second = first ∨ ∃ a b, resolve first = some a ∧ resolve second = some b ∧
    isVerifiableUnloggedAdvance localeCompare a b = true

/-- Every reference resolves, every change continues the one before it, and the head continues the last. -/
structure ConsistentWorld (localeCompare : LocaleCompare) (d : MemoryDurableCoordinator) : Prop where
  head : ∃ headRef, d.store.headRef = some headRef ∧ (d.store.get headRef).isSome
  references : ∀ change ∈ d.changelog.changes,
    (d.store.get change.beforeRef).isSome ∧ (d.store.get change.afterRef).isSome
  continues : d.changelog.changes.IsChain fun previous change =>
    ReachedFrom localeCompare d.store.get previous.afterRef change.beforeRef
  reachesHead : ∀ last headRef, d.changelog.changes.getLast? = some last → d.store.headRef = some headRef →
    ReachedFrom localeCompare d.store.get last.afterRef headRef

def decodedWires {α : Type} (decode : Json → Except ImportFailure α) : Option Json → List α
  | some (.arr wires) => wires.filterMap fun wire => (decode wire).toOption
  | _ => []

def listedSnapshot (bundle : Json) (ref : SnapshotRef) : Option CollaborationSnapshot :=
  (decodedWires importSnapshot (bundle.get? "snapshots")).find? fun snapshot => snapshot.snapshotRef = ref

def listedChanges (bundle : Json) : List CoordinationChange :=
  (decodedWires importChange (bundle.get? "changes")).map Prod.fst

/-- Without a binding, the head of the bundle is among its snapshots; the references of its changes are, and its changes
and its head pass the test that a commit makes. -/
structure ListsItsHistory (localeCompare : LocaleCompare) (bundle : Json) : Prop where
  head : bundle.get? "schemaBinding" = none →
    ∀ headRef, bundle.get? "headRef" = some (.str headRef) → (listedSnapshot bundle headRef).isSome
  references : ∀ change ∈ listedChanges bundle,
    (listedSnapshot bundle change.beforeRef).isSome ∧ (listedSnapshot bundle change.afterRef).isSome
  continues : (listedChanges bundle).IsChain fun previous change =>
    changeContinuesChain localeCompare previous change (listedSnapshot bundle) = true
  reachesHead : ∀ last headRef, (listedChanges bundle).getLast? = some last →
    bundle.get? "headRef" = some (.str headRef) → headRef ≠ last.afterRef →
      ∃ a b, listedSnapshot bundle last.afterRef = some a ∧ listedSnapshot bundle headRef = some b ∧
        isVerifiableUnloggedAdvance localeCompare a b = true

theorem changeContinuesChain_iff {previous change : CoordinationChange}
    {resolve : SnapshotRef → Option CollaborationSnapshot} :
    changeContinuesChain localeCompare previous change resolve = true ↔
      ReachedFrom localeCompare resolve previous.afterRef change.beforeRef := by
  unfold changeContinuesChain ReachedFrom
  split
  · rename_i hsame
    exact iff_of_true rfl (.inl hsame)
  · rename_i hother
    rw [or_iff_right hother]
    constructor
    · intro h
      split at h
      · rename_i a b ha hb
        exact ⟨a, b, ha, hb, h⟩
      · cases h
    · rintro ⟨a, b, ha, hb, h⟩
      rw [ha, hb]
      exact h

/-! ## What an import has read -/

theorem decodedWires_cons {α : Type} {decode : Json → Except ImportFailure α} {wire : Json} {wires : List Json}
    {value : α} (h : decode wire = .ok value) :
    decodedWires decode (some (.arr (wire :: wires))) = value :: decodedWires decode (some (.arr wires)) :=
  List.filterMap_cons_some (f := fun wire => (decode wire).toOption) (congrArg Except.toOption h)

theorem decodedWires_of_mapM {α : Type} {decode : Json → Except ImportFailure α} {wires : List Json} {values : List α}
    (h : wires.mapM decode = .ok values) : decodedWires decode (some (.arr wires)) = values := by
  rw [Outcome.mapM_eq_ok] at h
  induction h with
  | nil => rfl
  | cons hhead _ ih => rw [decodedWires_cons hhead, ih]

theorem decodeSnapshotsFromBundle_eq_ok {wires : Option Json} {snapshots : List CollaborationSnapshot}
    (h : decodeSnapshotsFromBundle wires = .ok snapshots) : decodedWires importSnapshot wires = snapshots := by
  unfold decodeSnapshotsFromBundle at h
  split at h
  · exact decodedWires_of_mapM h
  · cases h

theorem appendChanges_changes {changelog changelog' : MemoryChangeLog} {sidecar sidecar' : RecipeSidecar}
    {wires : List Json} (h : appendChanges changelog sidecar wires = .ok (changelog', sidecar')) :
    changelog'.changes =
      changelog.changes ++ (decodedWires importChange (some (.arr wires))).map Prod.fst := by
  induction wires generalizing changelog sidecar with
  | nil =>
      cases h
      exact (List.append_nil _).symm
  | cons wire wires ih =>
      obtain ⟨⟨change, recipe⟩, hwire, h⟩ := Outcome.bind_eq_ok.1 h
      dsimp only at h
      split at h
      · cases h
      · rename_i appended happended
        obtain ⟨-, happended⟩ := Option.ite_none_left_eq_some.1 happended
        cases happended
        rw [ih h, decodedWires_cons hwire, List.map_cons, List.append_assoc]
        rfl

theorem appendChangesFromBundle_changes {wires : Option Json} {changelog : MemoryChangeLog} {sidecar : RecipeSidecar}
    (h : appendChangesFromBundle wires = .ok (changelog, sidecar)) :
    changelog.changes = (decodedWires importChange wires).map Prod.fst := by
  unfold appendChangesFromBundle at h
  split at h
  · exact appendChanges_changes h
  · cases h

theorem storeSnapshots_get {snapshots : List CollaborationSnapshot} {ref : SnapshotRef} :
    (storeSnapshots snapshots).get ref = snapshots.find? fun snapshot => snapshot.snapshotRef = ref := by
  have hfold : ∀ store : MemoryCollaborationStore,
      (snapshots.foldl (fun store snapshot => (store.putIfAbsent snapshot).getD store) store).get ref =
        (store.get ref).or (snapshots.find? fun snapshot => snapshot.snapshotRef = ref) := by
    induction snapshots with
    | nil => exact fun store => (Option.or_none).symm
    | cons snapshot snapshots ih =>
        intro store
        rw [List.foldl_cons, ih, List.find?_cons]
        unfold MemoryCollaborationStore.putIfAbsent MemoryCollaborationStore.get
        by_cases hstored : store.snapshots.has snapshot.snapshotRef = true
        · rw [if_pos hstored, Option.getD_none]
          split
          · rename_i hsame
            rw [of_decide_eq_true hsame] at hstored
            obtain ⟨held, hheld⟩ := OrdMap.has_iff.1 hstored
            rw [hheld, Option.some_or, Option.some_or]
          · rfl
        · rw [if_neg hstored, Option.getD_some, OrdMap.get?_set]
          split
          · rename_i hsame
            subst hsame
            rw [OrdMap.has_eq_false_iff.1 (Bool.eq_false_iff.2 hstored), decide_eq_true rfl]
            rfl
          · rename_i hother
            rw [decide_eq_false (Ne.symm hother)]
  exact hfold .empty

structure Imported (bundle : Json) (d : MemoryDurableCoordinator) (headRef : SnapshotRef) : Prop where
  named : bundle.get? "headRef" = some (.str headRef)
  head : d.store.headRef = some headRef
  get : ∀ ref, d.store.get ref = listedSnapshot bundle ref
  changes : d.changelog.changes = listedChanges bundle
  bound : bundle.get? "schemaBinding" ≠ none → (d.store.get headRef).isSome

theorem importBinding_resolves {store : MemoryCollaborationStore} {headRef : SnapshotRef} {wire : Option Json}
    {binding : Option SchemaEpochBinding} (h : importBinding store headRef wire = .ok binding) (hwire : wire ≠ none) :
    (store.get headRef).isSome := by
  unfold importBinding at h
  split at h
  · exact absurd rfl hwire
  · obtain ⟨parsed, -, h⟩ := Outcome.bind_eq_ok.1 h
    split at h
    · cases h
    · rename_i head hhead
      rw [hhead]
      rfl

theorem importDurableBundle_imported (h : importDurableBundle localeCompare print bundle = .ok result) :
    ∃ headRef, Imported bundle result.durable headRef := by
  have hrecord : importRecord localeCompare print bundle = .ok result := by
    unfold importDurableBundle at h
    split at h
    · exact h
    · exact h
    · cases h
  obtain ⟨⟨t0Ref, headRef⟩, hrefs, h⟩ := Outcome.bind_eq_ok.1 hrecord
  have hhead : bundle.get? "headRef" = some (.str headRef) := by
    unfold bundleRefs at hrefs
    split at hrefs
    · rename_i hheadRef
      cases hrefs
      exact hheadRef
    · cases hrefs
  obtain ⟨snapshots, hsnapshots, h⟩ := Outcome.bind_eq_ok.1 h
  obtain ⟨t0, -, h⟩ := Outcome.bind_eq_ok.1 h
  obtain ⟨⟨changelog, sidecar⟩, hchanges, h⟩ := Outcome.bind_eq_ok.1 h
  obtain ⟨-, -, h⟩ := Outcome.bind_eq_ok.1 h
  obtain ⟨schemaBinding, hbinding, h⟩ := Outcome.bind_eq_ok.1 h
  cases h
  refine ⟨headRef, hhead, rfl, fun ref => ?_, appendChangesFromBundle_changes hchanges, importBinding_resolves hbinding⟩
  unfold listedSnapshot
  rw [decodeSnapshotsFromBundle_eq_ok hsnapshots]
  exact storeSnapshots_get

section Samples

def bundleOfOne (headRef : SnapshotRef) : Json :=
  .obj
    [("t0Ref", .str "s0"), ("headRef", .str headRef),
      ("snapshots", .arr [(encodeSnapshot (emptySnapshot "s0" "e1")).toJson]), ("changes", .arr []), ("recipes", .arr [])]

end Samples

end Cantilune
