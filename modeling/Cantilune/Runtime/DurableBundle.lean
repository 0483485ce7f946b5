import Cantilune.Base.JsonText
import Cantilune.Base.JsObject
import Cantilune.Base.Outcomes
import Cantilune.Codec.StorageWire
import Cantilune.Runtime.Durable

/-!
# Importing a durable bundle

A bundle is the wire form of a whole world: the snapshots, the changes with their recipes, a second copy of the
recipes, and the active binding. The import decodes the parts one after the other and builds a coordinator from them.
-/

namespace Cantilune

/-- The import is refused with a violation, or a decoder throws; a policy context that the typed domain does not hold is
no snapshot here. -/
inductive ImportFailure where
  | violation (v : RuntimeViolation)
  | untypedPolicyContext
  | thrown (message : String)
  deriving DecidableEq

def refuseBundle {α : Type} (message : String) : Except ImportFailure α :=
  .error (.violation { code := .codecInvalid, message })

/-- The coordinator with its store, its log and its recipes, the first snapshot and the active binding. -/
structure ImportDurableResult where
  durable : MemoryDurableCoordinator
  t0 : CollaborationSnapshot
  schemaBinding : Option SchemaEpochBinding

def importSnapshot (wire : Json) : Except ImportFailure CollaborationSnapshot :=
  (decodeSnapshotFromUnknown wire).mapError fun
    | .violation v => .violation v
    | .untypedPolicyContext => .untypedPolicyContext

def decodeSnapshotsFromBundle : Option Json → Except ImportFailure (List CollaborationSnapshot)
  | some (.arr wires) => wires.mapM importSnapshot
  | _ => refuseBundle "bundle missing snapshots array"

def importChange (wire : Json) : Except ImportFailure (CoordinationChange × ReplayRecipe) :=
  (decodeChangeFromUnknown wire).mapError fun
    | .violation v => .violation v
    | .thrown message => .thrown message

/-- The changes are appended and their recipes stored, in the order of the wires. -/
def appendChanges (changelog : MemoryChangeLog) (sidecar : RecipeSidecar) :
    List Json → Except ImportFailure (MemoryChangeLog × RecipeSidecar)
  | [] => .ok (changelog, sidecar)
  | wire :: wires => do
      let (change, recipe) ← importChange wire
      match changelog.append change with
      | none => refuseBundle s!"duplicate changeId {change.changeId}"
      | some changelog => appendChanges changelog (sidecar.put change.changeId recipe) wires

def appendChangesFromBundle : Option Json → Except ImportFailure (MemoryChangeLog × RecipeSidecar)
  | some (.arr wires) => appendChanges { changes := [] } { recipes := .empty } wires
  | _ => refuseBundle "bundle missing changes array"

/-! ## Copies of the recipes -/

section Recipes
variable (localeCompare : LocaleCompare) (print : ℚ → String)

mutual
/-- The members of every object in the order of the collation. -/
def sortMembers : Json → Json
  | .arr elems => .arr (sortElements elems)
  | .obj members =>
      fromEntries ((sortEach members).insertionSort fun a b => localeCompare a.1 b.1 ≤ 0)
  | value => value

def sortElements : List Json → List Json
  | [] => []
  | value :: values => sortMembers value :: sortElements values

def sortEach : List (String × Json) → List (String × Json)
  | [] => []
  | (key, value) :: members => (key, sortMembers value) :: sortEach members
end

/-- `canonicalJson`: the text of a value with its members sorted; `undefined` has none. -/
def sortedText (value : Option Json) : Option String :=
  value.map fun value => Json.stringify print (sortMembers localeCompare value)

def checkRecipeCopies (changelog : MemoryChangeLog) (sidecar : RecipeSidecar) (seen : List String) :
    List Json → Except ImportFailure (List String)
  | [] => .ok seen
  | entry :: entries =>
      if entry.isRecord = false then refuseBundle "bundle contains malformed recipe entry"
      else
        match entry.get? "changeId" with
        | some (.str changeId) =>
            if changeId = "" ∨ changeId ∈ seen then refuseBundle "bundle contains invalid or duplicate recipe id"
            else
              let authoritative := (changelog.changes.find? fun candidate => candidate.changeId = changeId).bind
                fun change => (sidecar.recipes.get? change.changeId).map snapshotReplayRecipe
              match authoritative, sortedText localeCompare print (entry.get? "recipe") with
              | some recipe, some copy =>
                  if some copy ≠ sortedText localeCompare print (some (StoredRecipe.toJson recipe)) then
                    refuseBundle s!"bundle recipe mismatch for {changeId}"
                  else checkRecipeCopies changelog sidecar (changeId :: seen) entries
              | _, _ => refuseBundle s!"bundle recipe mismatch for {changeId}"
        | _ => refuseBundle "bundle contains invalid or duplicate recipe id"

def validateRecipeCopies (changelog : MemoryChangeLog) (sidecar : RecipeSidecar) :
    Option Json → Except ImportFailure Unit
  | some (.arr entries) => do
      let seen ← checkRecipeCopies localeCompare print changelog sidecar [] entries
      if seen.length ≠ changelog.changes.length then
        refuseBundle "bundle recipe copies do not match change history"
      else .ok ()
  | _ => refuseBundle "bundle missing recipes array"

end Recipes

/-! ## The import -/

/-- The binding of the bundle; its epoch has to be the epoch of the head. -/
def importBinding (store : MemoryCollaborationStore) (headRef : SnapshotRef) :
    Option Json → Except ImportFailure (Option SchemaEpochBinding)
  | none => .ok none
  | some wire => do
      let binding ← (parseSchemaBindingWire wire).mapError .violation
      match store.get headRef with
      | none => refuseBundle "bundle schemaBinding present but head missing"
      | some head =>
          if binding.epochId ≠ head.epochId then
            refuseBundle
              s!"bundle schemaBinding epoch {binding.epochId} does not match head epoch {head.epochId}"
          else .ok (some binding)

/-- The snapshots in a store. Where two have the same reference, the first one stays. -/
def storeSnapshots (snapshots : List CollaborationSnapshot) : MemoryCollaborationStore :=
  snapshots.foldl (fun store snapshot => (store.putIfAbsent snapshot).getD store) .empty

def bundleRefs (record : Json) : Except ImportFailure (SnapshotRef × SnapshotRef) :=
  match record.get? "t0Ref", record.get? "headRef" with
  | some (.str t0Ref), some (.str headRef) => .ok (t0Ref, headRef)
  | _, _ => refuseBundle "bundle missing t0Ref/headRef/snapshots/changes"

def firstSnapshot (snapshots : List CollaborationSnapshot) (t0Ref : SnapshotRef) :
    Except ImportFailure CollaborationSnapshot :=
  match snapshots.find? fun snapshot => snapshot.snapshotRef = t0Ref with
  | some t0 => .ok t0
  | none => refuseBundle s!"bundle missing t0 snapshot {t0Ref}"

def importRecord (localeCompare : LocaleCompare) (print : ℚ → String) (record : Json) :
    Except ImportFailure ImportDurableResult := do
  let (t0Ref, headRef) ← bundleRefs record
  let snapshots ← decodeSnapshotsFromBundle (record.get? "snapshots")
  let t0 ← firstSnapshot snapshots t0Ref
  let store := (storeSnapshots snapshots).setHead headRef
  let (changelog, sidecar) ← appendChangesFromBundle (record.get? "changes")
  validateRecipeCopies localeCompare print changelog sidecar (record.get? "recipes")
  let schemaBinding ← importBinding store headRef (record.get? "schemaBinding")
  .ok { durable := { store, changelog, sidecar, activeBinding := schemaBinding }, t0, schemaBinding }

/-- An array is an object, one without the members of a bundle. -/
def importDurableBundle (localeCompare : LocaleCompare) (print : ℚ → String) (bundle : Json) :
    Except ImportFailure ImportDurableResult :=
  match bundle with
  | .obj _ | .arr _ => importRecord localeCompare print bundle
  | _ => refuseBundle "bundle must be object"

end Cantilune
