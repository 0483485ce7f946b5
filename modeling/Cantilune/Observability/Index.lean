import Cantilune.Base.Rebuild
import Cantilune.Observability.Cut
import Cantilune.Observability.Lenses

/-!
# The observation index

The window of a cut is projected event by event, folded into four views at the head, and checked across the
views. Changes that are administrative have no entry in the views. The diagnostic summary and the evidence
are left out: the first is derived from the views, the second is attached on demand and only checks more.
-/

namespace Cantilune

/-! ## The observed world -/

abbrev SnapshotReader := SnapshotRef → Option CollaborationSnapshot

/-- The copy that the observability side works on; the log of heartbeats, the namespaces and the transcripts
do not come along. -/
def cloneSnapshotForObservation (snapshot : CollaborationSnapshot) : CollaborationSnapshot where
  snapshotRef := snapshot.snapshotRef
  epochId := snapshot.epochId
  participants := snapshot.participants
  artifacts := snapshot.artifacts
  links := snapshot.links
  sessions := snapshot.sessions
  capabilities := snapshot.capabilities
  policyContext := snapshot.policyContext
  auditTail := snapshot.auditTail
  retiredEntities := snapshot.retiredEntities
  heartbeatLog := []
  namespaces := withDefaultNamespace .empty
  transcripts := .empty
  transcriptAccessRequests := .empty
  defaultRegistered := noNamespaces_has

structure ObservationWorld where
  snapshotRef : SnapshotRef
  snapshot : CollaborationSnapshot
  validatedHistory : ValidatedRunHistory
  orderedChanges : List CoordinationChange
  changeIndex : OrdMap ChangeId CoordinationChange
  sinceRef : SnapshotRef

def indexChanges (changes : List CoordinationChange) : Observed (OrdMap ChangeId CoordinationChange) :=
  OrdMap.addAll (fun _ change => .error ("duplicate changeId " ++ change.changeId ++ " in observation world"))
    CoordinationChange.changeId changes .empty

def requiresHistoricalSnapshots (input : ObservationInput) : Bool :=
  input.changes.any fun change => change.beforeRef ≠ input.headRef ∨ change.afterRef ≠ input.headRef

def assembleObservationWorld (input : ObservationInput) (snapshotReader : Option SnapshotReader) :
    Observed ObservationWorld := do
  validateObservationCut input
  throwUnless (¬ (requiresHistoricalSnapshots input ∧ snapshotReader.isNone))
    (invalidInput "snapshotReader required when observation window references historical snapshots"
      "snapshotReader")
  let changeIndex ← indexChanges input.changes
  return {
    snapshotRef := input.headRef
    snapshot := cloneSnapshotForObservation input.snapshot
    validatedHistory := input.validatedHistory
    orderedChanges := input.changes
    changeIndex
    sinceRef := input.sinceRef }

/-- The head under its own reference, everything else from the reader. -/
def createSnapshotResolver (head : CollaborationSnapshot) (snapshotReader : Option SnapshotReader) :
    SnapshotReader := fun ref =>
  let frozenHead := cloneSnapshotForObservation head
  if frozenHead.snapshotRef = ref then some frozenHead
  else (snapshotReader.bind fun reader => reader ref).map cloneSnapshotForObservation

def resolveSnapshotStrict (resolver : SnapshotReader) (ref : SnapshotRef) (path : String) :
    Observed CollaborationSnapshot :=
  match resolver ref with
  | none =>
      .error (.readOnly
        { code := .snapshotUnavailable, message := "snapshot " ++ ref ++ " unavailable", path := some path })
  | some snapshot =>
      if snapshot.snapshotRef ≠ ref then
        .error (.readOnly
          { code := .snapshotUnavailable
            message := "snapshot resolver returned " ++ snapshot.snapshotRef ++ " for requested " ++ ref
            path := some path })
      else .ok snapshot

/-! ## Slices by event -/

def deriveEventSlice (resolver : SnapshotReader) (event : SourceEvent) : Observed ProjectionSlice := do
  let before ← resolveSnapshotStrict resolver event.change.beforeRef "beforeRef"
  let after ← resolveSnapshotStrict resolver event.change.afterRef "afterRef"
  return sliceBetween event before after

def deriveAllEventSlices (resolver : SnapshotReader) (events : EventSpine) : Observed (List ProjectionSlice) :=
  events.mapM (deriveEventSlice resolver)

/-- Values by event, under the change id. -/
structure EventTagIndex (T : Type) where
  byKey : OrdMap ChangeId (EventTag × T)

def duplicateEventTag {T : Type} (existing entry : EventTag × T) : ObservationError :=
  if existing.1 ≠ entry.1 then
    .readOnly (invalidInput ("duplicate EventTag metadata for changeId " ++ entry.1.changeId) "byEvent")
  else .readOnly (invalidInput ("duplicate EventTag index entry for changeId " ++ entry.1.changeId) "byEvent")

def createEventTagIndex {T : Type} (entries : List (EventTag × T)) : Observed (EventTagIndex T) := do
  let byKey ← OrdMap.addAll duplicateEventTag (fun entry => eventTagKey entry.1) entries .empty
  return { byKey }

namespace EventTagIndex

variable {T : Type}

def get (index : EventTagIndex T) (tag : EventTag) : Observed (Option T) :=
  match index.byKey.get? (eventTagKey tag) with
  | none => .ok none
  | some stored =>
      if stored.1 ≠ tag then
        .error (.readOnly (invalidInput ("EventTag metadata mismatch for changeId " ++ tag.changeId) "byEvent"))
      else .ok (some stored.2)

def getByChangeId (index : EventTagIndex T) (changeId : ChangeId) : Option T :=
  (index.byKey.get? changeId).map (·.2)

def tags (index : EventTagIndex T) : List EventTag := index.byKey.values.map (·.1)

end EventTagIndex

/-! ## The four views -/

structure DependencyView where
  links : List CollaborationLink
  byEvent : EventTagIndex DependencyDelta

structure ResourceView where
  capabilities : List ScopedCapability
  byEvent : EventTagIndex ResourceDelta

structure CommunicationView where
  sessions : List CommunicationSession
  byEvent : EventTagIndex CommunicationDelta

structure StructureView where
  composition : DerivedDiagnosticView
  structuralLinks : List CollaborationLink
  byEvent : EventTagIndex StructureDelta

structure FoldedViews where
  dependency : DependencyView
  resource : ResourceView
  communication : CommunicationView
  «structure» : StructureView

section Folding
variable (localeCompare : LocaleCompare)

def sortStrings (xs : List String) : List String := xs.insertionSort fun a b => localeCompare a b ≤ 0

def sortById {α : Type} (key : α → String) (items : List α) : List α :=
  items.insertionSort fun left right => localeCompare (key left) (key right) ≤ 0

def compositionFromSnapshot (snapshot : CollaborationSnapshot) : DerivedDiagnosticView :=
  match sortById localeCompare Participant.actorId snapshot.participants.values with
  | [] => .box none none
  | [participant] => participantBox participant.actorId
  | participants => .parallel (participants.map fun participant => participantBox participant.actorId)

def foldStructureComposition (steps : List DerivedDiagnosticView) (snapshot : CollaborationSnapshot) :
    DerivedDiagnosticView :=
  match steps with
  | [] => compositionFromSnapshot localeCompare snapshot
  | [step] => step
  | steps => .serial steps

def includeInReadAngles (change : CoordinationChange) : Bool := change.visibility ≠ .administrative

def isVisibleSlice (world : ObservationWorld) (slice : ProjectionSlice) : Bool :=
  (world.changeIndex.get? slice.eventTag.changeId).any includeInReadAngles

def foldFourViews (world : ObservationWorld) (slices : List ProjectionSlice) : Observed FoldedViews := do
  let visibleSlices := slices.filter (isVisibleSlice world)
  let dependency ← createEventTagIndex (visibleSlices.map fun slice => (slice.eventTag, slice.dependency))
  let resource ← createEventTagIndex (visibleSlices.map fun slice => (slice.eventTag, slice.resource))
  let communication ← createEventTagIndex (visibleSlices.map fun slice => (slice.eventTag, slice.communication))
  let «structure» ← createEventTagIndex (visibleSlices.map fun slice => (slice.eventTag, slice.structure))
  let structureSteps := visibleSlices.map fun slice => slice.structure.step
  let frozenSnapshot := cloneSnapshotForObservation world.snapshot
  return {
    dependency :=
      { links := filterLinksByKind localeCompare frozenSnapshot.links isDependencyLinkKind
        byEvent := dependency }
    resource :=
      { capabilities := sortById localeCompare ScopedCapability.capabilityId frozenSnapshot.capabilities.values
        byEvent := resource }
    communication :=
      { sessions := sortById localeCompare CommunicationSession.sessionId frozenSnapshot.sessions.values
        byEvent := communication }
    «structure» :=
      { composition := foldStructureComposition localeCompare structureSteps frozenSnapshot
        structuralLinks := filterLinksByKind localeCompare frozenSnapshot.links isStructuralLinkKind
        byEvent := «structure» } }

end Folding

/-! ## The bundle and what is checked across its views -/

structure FourViewBundle where
  spine : EventSpine
  dependency : DependencyView
  resource : ResourceView
  communication : CommunicationView
  «structure» : StructureView

section Invariants
variable (localeCompare : LocaleCompare)

def crossViewMismatch (message path : String) : ReadOnlyViolation :=
  { code := .crossViewMismatch, message, path := some path }

def violationUnless (c : Prop) [Decidable c] (violation : ReadOnlyViolation) : List ReadOnlyViolation :=
  if c then [] else [violation]

def linkIds (links : List CollaborationLink) : List String := sortStrings localeCompare (links.map (·.linkId))

def indexTagKeys (bundle : FourViewBundle) : List String :=
  sortStrings localeCompare (bundle.dependency.byEvent.tags.map eventTagKey)

def spineTagKeys (bundle : FourViewBundle) : List String :=
  sortStrings localeCompare (bundle.spine.map fun event => eventTagKey event.eventTag)

def capabilitiesMatchSnapshot (snapshotCaps : OrdMap CapabilityId ScopedCapability)
    (viewCaps : List ScopedCapability) : Bool :=
  snapshotCaps.size = viewCaps.length &&
    viewCaps.all fun capability => snapshotCaps.get? capability.capabilityId = some capability

def spineEventViolations (bundle : FourViewBundle) (event : SourceEvent) : Observed (List ReadOnlyViolation) := do
  let tag := event.eventTag
  let dep ← bundle.dependency.byEvent.get tag
  let res ← bundle.resource.byEvent.get tag
  let comm ← bundle.communication.byEvent.get tag
  let str ← bundle.structure.byEvent.get tag
  match dep, res, comm, str with
  | some dependency, some resource, some communication, some «structure» =>
      return violationUnless
        (sliceHasProjectionActivity { eventTag := tag, dependency, resource, communication, «structure» })
        (crossViewMismatch ("event " ++ tag.changeId ++ " has empty projection activity") "E1_event_coverage")
  | _, _, _, _ =>
      return [crossViewMismatch ("missing projection slice for event " ++ tag.changeId) "E1_event_coverage"]

def structureStepViolations (bundle : FourViewBundle) (event : SourceEvent) : Observed (List ReadOnlyViolation) := do
  match ← bundle.structure.byEvent.get event.eventTag with
  | none => return []
  | some structureDelta =>
      return violationUnless ((diagnosticStepFromChange event.change).toJson = structureDelta.step.toJson)
        (crossViewMismatch ("structure step mismatch for " ++ event.eventTag.changeId) "E5_«structure»reuses_derive")

/-- The checks in the order of the source. No record of these types has a field that schedules, so the last
check of the source, a search for the names of such fields, finds none. -/
def validateCrossViewInvariants (bundle : FourViewBundle) (world : ObservationWorld) :
    Observed (List ReadOnlyViolation) := do
  let tags := violationUnless (spineTagKeys localeCompare bundle = indexTagKeys localeCompare bundle)
    (crossViewMismatch "spine EventTag set !== byEvent index tag set" "E1_index_spine_equality")
  let events ← bundle.spine.mapM (spineEventViolations bundle)
  let sessions := violationUnless
    (sortStrings localeCompare (bundle.communication.sessions.map (·.sessionId)) =
      sortStrings localeCompare world.snapshot.sessions.keys)
    (crossViewMismatch "communication view sessions !== terminal snapshot sessions" "E2_session_bijection")
  let capabilities := violationUnless
    (capabilitiesMatchSnapshot world.snapshot.capabilities bundle.resource.capabilities)
    (crossViewMismatch "resource view capabilities do not match terminal snapshot"
      "E3_capability_matches_snapshot")
  let dependencyLinks := violationUnless
    (linkIds localeCompare bundle.dependency.links =
      linkIds localeCompare (filterLinksByKind localeCompare world.snapshot.links isDependencyLinkKind))
    (crossViewMismatch "dependency view link set !== terminal snapshot dependency links"
      "E4_dependency_link_equality")
  let structuralLinks := violationUnless
    (linkIds localeCompare bundle.structure.structuralLinks =
      linkIds localeCompare (filterLinksByKind localeCompare world.snapshot.links isStructuralLinkKind))
    (crossViewMismatch "structure view link set !== terminal snapshot structural links"
      "E4_structural_link_equality")
  let steps ← bundle.spine.mapM (structureStepViolations bundle)
  return tags ++ events.flatten ++ sessions ++ capabilities ++ dependencyLinks ++ structuralLinks ++ steps.flatten

structure ObservationIndexOptions where
  snapshotReader : Option SnapshotReader := none
  validateInvariants : Bool := true

def throwOnViolations (bundle : FourViewBundle) (world : ObservationWorld) (options : ObservationIndexOptions) :
    Observed Unit :=
  if options.validateInvariants then do
    let violations ← validateCrossViewInvariants localeCompare bundle world
    throwUnless (violations = [])
      { code := .crossViewMismatch, message := "; ".intercalate (violations.map (·.message)) }
  else .ok ()

def projectWorld (world : ObservationWorld) (options : ObservationIndexOptions)
    (snapshotReader : Option SnapshotReader) : Observed FourViewBundle := do
  let resolver := createSnapshotResolver world.snapshot snapshotReader
  let spine := buildEventSpine world.orderedChanges
  let slices ← deriveAllEventSlices resolver spine
  let views ← foldFourViews localeCompare world slices
  let bundle : FourViewBundle :=
    { spine
      dependency := views.dependency
      resource := views.resource
      communication := views.communication
      «structure» := views.structure }
  throwOnViolations localeCompare bundle world options
  return bundle

def resolveSnapshotReader (ports : Nat → ObservationReadPorts) (options : ObservationIndexOptions) : SnapshotReader :=
  options.snapshotReader.getD (ports (8 * defaultCutAttempts)).getSnapshot

/-- The bundle of the window from a reference to the head. -/
def observeCommitted (ports : Nat → ObservationReadPorts) (sinceRef : SnapshotRef)
    (options : ObservationIndexOptions := {}) : Observed FourViewBundle := do
  let input ← readObservationCutFromPorts ports sinceRef
  let reader := resolveSnapshotReader ports options
  let world ← assembleObservationWorld input (some reader)
  projectWorld localeCompare world options (some reader)

end Invariants

end Cantilune
