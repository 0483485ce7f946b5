import Cantilune.Base.JsString
import Cantilune.Core.Change
import Cantilune.Core.Snapshot

/-!
# The four lenses

What one committed change did, read off the snapshots before and after it: links by their kind on the
dependency and the structure lens, capabilities on the resource lens, sessions on the communication lens.
Each lens decides with a comparison of its own which entries changed.
-/

namespace Cantilune

/-! ## Events -/

/-- The join key of the projections. Only the change id identifies an event. -/
structure EventTag where
  changeId : ChangeId
  epochId : EpochId
  operationTypeId : OperationTypeId
  recordedAt : Timestamp
  deriving DecidableEq

def eventTagFromChange (change : CoordinationChange) : EventTag :=
  { changeId := change.changeId
    epochId := change.epochId
    operationTypeId := change.operationTypeId
    recordedAt := change.recordedAt }

def eventTagKey (tag : EventTag) : ChangeId := tag.changeId

structure SourceEvent where
  eventTag : EventTag
  change : CoordinationChange
  deriving DecidableEq

def sourceEventFromChange (change : CoordinationChange) : SourceEvent :=
  { eventTag := eventTagFromChange change, change }

abbrev EventSpine := List SourceEvent

def buildEventSpine (changes : List CoordinationChange) : EventSpine := changes.map sourceEventFromChange

/-- A node of the structure projection. -/
inductive DerivedDiagnosticView where
  | serial (parts : List DerivedDiagnosticView)
  | parallel (parts : List DerivedDiagnosticView)
  | nest (inner : DerivedDiagnosticView) (label : String)
  | box (participantId : Option ActorId) (artifactId : Option ArtifactId)

mutual
def DerivedDiagnosticView.toJson : DerivedDiagnosticView → Json
  | .serial parts => .obj [("kind", .str "serial"), ("parts", .arr (DerivedDiagnosticView.listJson parts))]
  | .parallel parts => .obj [("kind", .str "parallel"), ("parts", .arr (DerivedDiagnosticView.listJson parts))]
  | .nest inner label => .obj [("kind", .str "nest"), ("inner", inner.toJson), ("label", .str label)]
  | .box participantId artifactId =>
      .obj ([("kind", .str "box")] ++ (participantId.map fun id => ("participantId", .str id)).toList ++
        (artifactId.map fun id => ("artifactId", .str id)).toList)

def DerivedDiagnosticView.listJson : List DerivedDiagnosticView → List Json
  | [] => []
  | part :: parts => part.toJson :: DerivedDiagnosticView.listJson parts
end

def participantBox (actorId : ActorId) : DerivedDiagnosticView := .box (some actorId) none

def diagnosticStepFromChange (change : CoordinationChange) : DerivedDiagnosticView :=
  let participantTargets := targetIds change.targets .participant
  if change.operationTypeId = "create_session" then
    let inner : DerivedDiagnosticView :=
      if participantTargets.length ≤ 1 then
        participantBox (participantTargets.head?.getD change.initiator.actorId)
      else .parallel (participantTargets.map participantBox)
    .nest inner (change.createdSessionRefs.head?.getD "session")
  else if change.operationTypeId = "fork_branch" then
    let branchIds := if participantTargets.length > 0 then participantTargets else [change.initiator.actorId]
    .parallel (branchIds.map participantBox)
  else .box participantTargets.head? (targetIds change.targets .artifact).head?

/-! ## Links by kind -/

def dependencyLinkKinds : List LinkKind := [.dependsOn, .waitsFor, .supplies, .reviews, .delegatesTo]

def structuralLinkKinds : List LinkKind := [.nestedIn, .parallelWith]

def isDependencyLinkKind (kind : LinkKind) : Bool := dependencyLinkKinds.contains kind

def isStructuralLinkKind (kind : LinkKind) : Bool := structuralLinkKinds.contains kind

def addedLinks (before after : OrdMap LinkId CollaborationLink) (kindFilter : LinkKind → Bool) :
    List CollaborationLink :=
  after.entries.filterMap fun (linkId, link) =>
    if ¬ before.has linkId ∧ kindFilter link.kind then some link else none

def updatedLinks (before after : OrdMap LinkId CollaborationLink) (kindFilter : LinkKind → Bool) :
    List CollaborationLink :=
  after.entries.filterMap fun (linkId, afterLink) =>
    match before.get? linkId with
    | some beforeLink => if kindFilter afterLink.kind ∧ beforeLink ≠ afterLink then some afterLink else none
    | none => none

def removedLinkIds (before after : OrdMap LinkId CollaborationLink) (kindFilter : LinkKind → Bool) : List LinkId :=
  before.entries.filterMap fun (linkIdKey, link) =>
    if ¬ after.has linkIdKey ∧ kindFilter link.kind then some linkIdKey else none

def filterLinksByKind (localeCompare : LocaleCompare) (links : OrdMap LinkId CollaborationLink)
    (kindFilter : LinkKind → Bool) : List CollaborationLink :=
  (links.values.filter fun link => kindFilter link.kind).insertionSort fun left right =>
    localeCompare left.linkId right.linkId ≤ 0

/-! ## Deltas -/

structure DependencyDelta where
  eventTag : EventTag
  addedLinks : List CollaborationLink
  updatedLinks : List CollaborationLink
  removedLinkIds : List LinkId

structure ResourceDelta where
  eventTag : EventTag
  updatedCapabilities : List ScopedCapability
  removedCapabilityIds : List CapabilityId

structure CommunicationDelta where
  eventTag : EventTag
  openedSessions : List CommunicationSession
  closedSessionIds : List SessionId
  updatedSessions : List CommunicationSession

structure StructureDelta where
  eventTag : EventTag
  step : DerivedDiagnosticView
  structuralLinks : List CollaborationLink
  updatedStructuralLinks : List CollaborationLink
  removedStructuralLinkIds : List LinkId

structure ProjectionSlice where
  eventTag : EventTag
  dependency : DependencyDelta
  resource : ResourceDelta
  communication : CommunicationDelta
  «structure» : StructureDelta

def interpretDependencyDelta (eventTag : EventTag) (before after : CollaborationSnapshot) : DependencyDelta where
  eventTag := eventTag
  addedLinks := addedLinks before.links after.links isDependencyLinkKind
  updatedLinks := updatedLinks before.links after.links isDependencyLinkKind
  removedLinkIds := removedLinkIds before.links after.links isDependencyLinkKind

def interpretStructureDelta (eventTag : EventTag) (before after : CollaborationSnapshot)
    (change : CoordinationChange) : StructureDelta where
  eventTag := eventTag
  step := diagnosticStepFromChange change
  structuralLinks := addedLinks before.links after.links isStructuralLinkKind
  updatedStructuralLinks := updatedLinks before.links after.links isStructuralLinkKind
  removedStructuralLinkIds := removedLinkIds before.links after.links isStructuralLinkKind

/-- Whether two scopes are of one kind and name different entities; only artifacts and sessions are looked at. -/
def scopeExchanged : CapabilityScope → CapabilityScope → Bool
  | .artifact before, .artifact after => before ≠ after
  | .session before, .session after => before ≠ after
  | _, _ => false

def CapabilityScope.kindName : CapabilityScope → String
  | .artifact _ => "artifact"
  | .session _ => "session"
  | .transcript _ _ => "transcript"

def capabilityChanged (before : Option ScopedCapability) (after : ScopedCapability) : Bool :=
  match before with
  | none => true
  | some before =>
      before.holder ≠ after.holder || before.kind ≠ after.kind ||
        before.scope.kindName ≠ after.scope.kindName || scopeExchanged before.scope after.scope

def removedCapabilityIds (before after : CollaborationSnapshot) : List CapabilityId :=
  before.capabilities.keys.filter fun capabilityId => ¬ after.capabilities.has capabilityId

def interpretResourceDelta (eventTag : EventTag) (before after : CollaborationSnapshot) : ResourceDelta where
  eventTag := eventTag
  updatedCapabilities := after.capabilities.entries.filterMap fun (capabilityId, capability) =>
    if capabilityChanged (before.capabilities.get? capabilityId) capability then some capability else none
  removedCapabilityIds := removedCapabilityIds before after

def sessionChanged (before after : CommunicationSession) : Bool :=
  if before.controller ≠ after.controller ∨ before.visibility ≠ after.visibility then true
  else if before.participants.length ≠ after.participants.length then true
  else (before.participants.zip after.participants).any fun e => e.1 ≠ e.2

def addCreated (after : CollaborationSnapshot) (opened : List CommunicationSession) (sessionId : SessionId) :
    List CommunicationSession :=
  match after.sessions.get? sessionId with
  | some session => if opened.any fun found => found.sessionId = sessionId then opened else opened ++ [session]
  | none => opened

def openedSessions (before after : CollaborationSnapshot) (change : CoordinationChange) :
    List CommunicationSession :=
  let opened := after.sessions.values.filter fun session => ¬ before.sessions.has session.sessionId
  if change.operationTypeId = "create_session" then
    change.createdSessionRefs.foldl (addCreated after) opened
  else opened

def interpretCommunicationDelta (eventTag : EventTag) (before after : CollaborationSnapshot)
    (change : CoordinationChange) : CommunicationDelta where
  eventTag := eventTag
  openedSessions := openedSessions before after change
  closedSessionIds := before.sessions.keys.filter fun sessionId => ¬ after.sessions.has sessionId
  updatedSessions := after.sessions.entries.filterMap fun (sessionId, afterSession) =>
    match before.sessions.get? sessionId with
    | some beforeSession => if sessionChanged beforeSession afterSession then some afterSession else none
    | none => none

def sliceBetween (event : SourceEvent) (before after : CollaborationSnapshot) : ProjectionSlice where
  eventTag := event.eventTag
  dependency := interpretDependencyDelta event.eventTag before after
  resource := interpretResourceDelta event.eventTag before after
  communication := interpretCommunicationDelta event.eventTag before after event.change
  «structure» := interpretStructureDelta event.eventTag before after event.change

/-- Whether a structure step is more than an empty box. -/
def stepIsActive : DerivedDiagnosticView → Bool
  | .box participantId artifactId => participantId.isSome || artifactId.isSome
  | _ => true

def sliceHasProjectionActivity (slice : ProjectionSlice) : Bool :=
  if slice.dependency.addedLinks.length > 0 ∨ slice.dependency.updatedLinks.length > 0 ∨
      slice.dependency.removedLinkIds.length > 0 ∨ slice.resource.updatedCapabilities.length > 0 ∨
      slice.resource.removedCapabilityIds.length > 0 ∨ slice.communication.openedSessions.length > 0 ∨
      slice.communication.closedSessionIds.length > 0 ∨ slice.communication.updatedSessions.length > 0 ∨
      slice.structure.structuralLinks.length > 0 ∨ slice.structure.updatedStructuralLinks.length > 0 ∨
      slice.structure.removedStructuralLinkIds.length > 0 then true
  else stepIsActive slice.structure.step

end Cantilune
