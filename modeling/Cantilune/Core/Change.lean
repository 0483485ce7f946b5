import Cantilune.Core.Nodes

/-!
# Changes, intents and footprints

Match bindings and the targets derived from them, the intent an actor submits, the change that a commit
records, and the set of entities either of them touches.
-/

namespace Cantilune

/-! ## Bindings and targets -/

inductive TargetKind where
  | artifact | participant | session | capability | link
  deriving DecidableEq, Repr

def TargetKind.name : TargetKind → String
  | .artifact => "artifact"
  | .participant => "participant"
  | .session => "session"
  | .capability => "capability"
  | .link => "link"

structure TargetRef where
  kind : TargetKind
  id : String
  deriving DecidableEq

inductive MatchBindingRole where
  | task | artifact | «from» | «to» | delegator | delegatee | participant | capability | session | link
  deriving DecidableEq, Repr

def MatchBindingRole.name : MatchBindingRole → String
  | .task => "task"
  | .artifact => "artifact"
  | .from => "from"
  | .to => "to"
  | .delegator => "delegator"
  | .delegatee => "delegatee"
  | .participant => "participant"
  | .capability => "capability"
  | .session => "session"
  | .link => "link"

/-- A named binding. The source names the id field after the role; the role alone decides it. -/
structure MatchBinding where
  role : MatchBindingRole
  id : String
  deriving DecidableEq

def findRole (bindings : List MatchBinding) (role : MatchBindingRole) : Option String :=
  (bindings.find? fun b => b.role = role).map (·.id)

def boundIds (bindings : List MatchBinding) (role : MatchBindingRole) : List String :=
  (bindings.filter fun b => b.role = role).map (·.id)

def MatchBindingRole.targetKind : MatchBindingRole → TargetKind
  | .task | .artifact => .artifact
  | .from | .to | .delegator | .delegatee | .participant => .participant
  | .capability => .capability
  | .session => .session
  | .link => .link

def bindingToTargetRef (binding : MatchBinding) : TargetRef :=
  { kind := binding.role.targetKind, id := binding.id }

def targetsFromMatchBindings (bindings : List MatchBinding) : List TargetRef :=
  bindings.map bindingToTargetRef

theorem mem_of_findRole {bindings : List MatchBinding} {role : MatchBindingRole} {id : String}
    (h : findRole bindings role = some id) : ⟨role, id⟩ ∈ bindings := by
  obtain ⟨b, hb, rfl⟩ := Option.map_eq_some_iff.1 h
  have hr := List.find?_some hb
  simp only [decide_eq_true_eq] at hr
  subst hr
  exact List.mem_of_find?_eq_some hb

theorem mem_boundIds {bindings : List MatchBinding} {role : MatchBindingRole} {id : String} :
    id ∈ boundIds bindings role ↔ ⟨role, id⟩ ∈ bindings := by
  simp only [boundIds, List.mem_map, List.mem_filter, decide_eq_true_eq]
  constructor
  · rintro ⟨b, ⟨hb, rfl⟩, rfl⟩
    exact hb
  · intro h
    exact ⟨_, ⟨h, rfl⟩, rfl⟩

/-! ## Evidence, templates, scalars -/

inductive EvidenceKind where
  | policy | approval | observation | receipt
  deriving DecidableEq, Repr

def EvidenceKind.name : EvidenceKind → String
  | .policy => "policy"
  | .approval => "approval"
  | .observation => "observation"
  | .receipt => "receipt"

structure EvidenceRef where
  evidenceId : EvidenceId
  kind : EvidenceKind
  contentRef : ContentRef
  deriving DecidableEq

structure OperationTemplateRef where
  operationTypeId : OperationTypeId
  revision : String
  deriving DecidableEq

inductive ChangeVisibility where
  | internal | external | administrative
  deriving DecidableEq, Repr

def ChangeVisibility.name : ChangeVisibility → String
  | .internal => "internal"
  | .external => "external"
  | .administrative => "administrative"

/-- A number of the source; the finite ones keep their exact value. -/
inductive JsNumber where
  | finite (q : ℚ)
  | nan
  | infinity (negative : Bool)
  deriving DecidableEq

def maxSafeInteger : Nat := 2 ^ 53 - 1

/-- `Number.isSafeInteger n && n >= 0`, with the natural number it then is. -/
def JsNumber.safeNat? : JsNumber → Option Nat
  | .finite q => if q.den = 1 ∧ 0 ≤ q.num ∧ q.num ≤ maxSafeInteger then some q.num.toNat else none
  | _ => none

inductive OperationScalarValue where
  | string (s : String)
  | number (n : JsNumber)
  | boolean (b : Bool)
  deriving DecidableEq

abbrev OperationScalarInputs := OrdMap String OperationScalarValue

structure CoordinationIntent where
  initiator : ActorRef
  operationTypeId : OperationTypeId
  matchBindings : List MatchBinding
  targets : List TargetRef
  inputContentRefs : Option (List ContentRef)
  scalarInputs : Option OperationScalarInputs
  external : Option (List EvidenceRef)
  deriving DecidableEq

def coordinationIntent (initiator : ActorRef) (operationTypeId : OperationTypeId)
    (matchBindings : List MatchBinding) (external : Option (List EvidenceRef) := none)
    (inputContentRefs : Option (List ContentRef) := none)
    (scalarInputs : Option OperationScalarInputs := none) : CoordinationIntent :=
  { initiator, operationTypeId, matchBindings, targets := targetsFromMatchBindings matchBindings,
    inputContentRefs, scalarInputs, external }

/-- A committed, auditable step. -/
structure CoordinationChange where
  changeId : ChangeId
  recordedAt : Timestamp
  epochId : EpochId
  operationTypeId : OperationTypeId
  templateRef : Option OperationTemplateRef
  beforeRef : SnapshotRef
  afterRef : SnapshotRef
  matchBindings : List MatchBinding
  targets : List TargetRef
  initiator : ActorRef
  involved : List ActorRef
  authorization : List EvidenceRef
  external : List EvidenceRef
  createdSessionRefs : List SessionId
  visibility : ChangeVisibility
  deriving DecidableEq

/-! ## Footprints -/

/-- The entities one intent or change touches; each set is given by a list of its members. -/
structure Footprint where
  artifactIds : List ArtifactId
  participantIds : List ActorId
  sessionIds : List SessionId
  capabilityIds : List CapabilityId
  linkIds : List LinkId
  deriving DecidableEq

def targetIds (targets : List TargetRef) (kind : TargetKind) : List String :=
  (targets.filter fun t => t.kind = kind).map (·.id)

def footprintFromTargets (targets : List TargetRef) : Footprint where
  artifactIds := targetIds targets .artifact
  participantIds := targetIds targets .participant
  sessionIds := targetIds targets .session
  capabilityIds := targetIds targets .capability
  linkIds := targetIds targets .link

def setsOverlap (a b : List String) : Bool := a.any fun x => b.contains x

def footprintsOverlap (a b : Footprint) : Bool :=
  setsOverlap a.artifactIds b.artifactIds || setsOverlap a.participantIds b.participantIds ||
    setsOverlap a.sessionIds b.sessionIds || setsOverlap a.capabilityIds b.capabilityIds ||
    setsOverlap a.linkIds b.linkIds

theorem setsOverlap_iff {a b : List String} : setsOverlap a b = true ↔ ∃ x, x ∈ a ∧ x ∈ b := by
  simp [setsOverlap]

theorem setsOverlap_comm (a b : List String) : setsOverlap a b = setsOverlap b a := by
  rw [Bool.eq_iff_iff, setsOverlap_iff, setsOverlap_iff]
  exact exists_congr fun x => and_comm

theorem footprintsOverlap_comm (a b : Footprint) : footprintsOverlap a b = footprintsOverlap b a := by
  simp only [footprintsOverlap, setsOverlap_comm a.artifactIds, setsOverlap_comm a.participantIds,
    setsOverlap_comm a.sessionIds, setsOverlap_comm a.capabilityIds, setsOverlap_comm a.linkIds]

theorem mem_targetIds {bindings : List MatchBinding} {kind : TargetKind} {id : String} :
    id ∈ targetIds (targetsFromMatchBindings bindings) kind ↔
      ∃ b ∈ bindings, b.role.targetKind = kind ∧ b.id = id := by
  simp only [targetIds, targetsFromMatchBindings, List.mem_map, List.mem_filter, decide_eq_true_eq]
  constructor
  · rintro ⟨_, ⟨⟨b, hb, rfl⟩, hk⟩, rfl⟩
    exact ⟨b, hb, hk, rfl⟩
  · rintro ⟨b, hb, hk, rfl⟩
    exact ⟨_, ⟨⟨b, hb, rfl⟩, hk⟩, rfl⟩

end Cantilune
