import Cantilune.Base.Outcomes
import Cantilune.Base.JsString
import Cantilune.Base.Runs
import Cantilune.Core.Nodes

/-!
# The namespace registry

Namespaces with the role of each of their members. Whoever registers a namespace becomes its admin; roles are
assigned by admins, and the last admin cannot be demoted.
-/

/-!
## Violations of the control plane

What a refused call of the control plane returns: a code, the phase that refused, a text, and where they
apply the path of the offending field with its expected and actual value.
-/

namespace Cantilune

inductive ControlPlaneViolationCode where
  | schemaNotFound | schemaInvalid | revisionConflict | digestMismatch | codecInvalid | nonMonotoneExtension
  | declarationDeleted | declarationRedefined | portContractChanged | structuralModeChanged | templateMissing
  | handlerManifestMismatch | epochNotAdvanced | staleActiveBinding | runtimeHeadChanged
  | activeAdmissionsPresent | resourcesNotClear | sessionsNotQuiescent | conformanceMissing
  | conformanceInvalid | qualificationFailed | authorizationDenied | separationOfDutiesViolation
  | preparationExpired | commitConflict | idempotencyConflict | controlPlaneFrozen | invalidInput
  deriving DecidableEq, Repr

inductive ControlPlanePhase where
  | register | validate | qualify | authorize | prepare | commit | activate | query
  deriving DecidableEq, Repr

structure ControlPlaneViolation where
  code : ControlPlaneViolationCode
  phase : ControlPlanePhase
  message : String
  path : Option String
  expected : Option String
  actual : Option String
  retryable : Bool
  deriving DecidableEq, Repr

def controlPlaneViolation (code : ControlPlaneViolationCode) (phase : ControlPlanePhase) (message : String)
    (path : Option String := none) (expected : Option String := none) (actual : Option String := none)
    (retryable : Bool := false) : ControlPlaneViolation :=
  { code, phase, message, path, expected, actual, retryable }

def denyIf (refused : Prop) [Decidable refused] (violation : ControlPlaneViolation) :
    Except ControlPlaneViolation Unit :=
  if refused then .error violation else .ok ()

theorem denyIf_bind_eq_error {α : Type} {refused : Prop} [Decidable refused] {violation e : ControlPlaneViolation}
    {f : Unit → Except ControlPlaneViolation α} :
    denyIf refused violation >>= f = .error e ↔ (refused ∧ violation = e) ∨ (¬ refused ∧ f () = .error e) := by
  unfold denyIf
  split <;> simp_all [Bind.bind, Except.bind]

/-- The violation of a text that is blank where `phase` needs one. -/
def requireNonEmpty (value path : String) (phase : ControlPlanePhase) : Except ControlPlaneViolation Unit :=
  if JsString.trim value = "" then
    .error (controlPlaneViolation .invalidInput phase s!"{path} is required" (some path))
  else
    .ok ()

end Cantilune

namespace Cantilune

inductive NamespaceRbacRole where
  | admin | member | observer
  deriving DecidableEq, Repr

def NamespaceRbacRole.name : NamespaceRbacRole → String
  | .admin => "admin"
  | .member => "member"
  | .observer => "observer"

/-- `isNamespaceRbacRole`, with the role that the text names. -/
def NamespaceRbacRole.ofName? (value : String) : Option NamespaceRbacRole :=
  [NamespaceRbacRole.admin, .member, .observer].find? fun role => role.name = value

structure NamespaceMembership where
  actorId : ActorId
  role : NamespaceRbacRole
  deriving DecidableEq

structure NamespaceRecord where
  «namespace» : CollaborationNamespace
  memberships : List NamespaceMembership
  deriving DecidableEq

structure RegisterNamespaceInput where
  namespaceId : NamespaceId
  displayName : String
  actorId : ActorId

structure AssignNamespaceRoleInput where
  namespaceId : NamespaceId
  actorId : ActorId
  role : String
  assignedBy : ActorId

structure StoredNamespace where
  displayName : String
  memberships : OrdMap ActorId NamespaceRbacRole
  deriving DecidableEq

abbrev NamespaceRegistry := OrdMap NamespaceId StoredNamespace

def snapshotRecord (localeCompare : LocaleCompare) (namespaceId : NamespaceId) (stored : StoredNamespace) :
    NamespaceRecord :=
  let memberships := (stored.memberships.entries.map fun e => NamespaceMembership.mk e.1 e.2).insertionSort
    fun left right => localeCompare left.actorId right.actorId ≤ 0
  let adminPrincipals := (memberships.filter fun m => m.role = .admin).map NamespaceMembership.actorId
  { «namespace» := { namespaceId, displayName := stored.displayName, adminPrincipals }, memberships }

def StoredNamespace.adminCount (stored : StoredNamespace) : Nat :=
  (stored.memberships.values.filter fun role => role = .admin).length

namespace NamespaceRegistry

/-- `createNamespaceRegistry`: the default namespace, without members. -/
def create : NamespaceRegistry :=
  OrdMap.empty.set defaultNamespaceId { displayName := defaultNamespace.displayName, memberships := .empty }

variable (localeCompare : LocaleCompare)

def registerNamespace (namespaces : NamespaceRegistry) (input : RegisterNamespaceInput) :
    Except ControlPlaneViolation NamespaceRecord × NamespaceRegistry :=
  match (do
    requireNonEmpty input.namespaceId "namespaceId" .register
    requireNonEmpty input.displayName "displayName" .register
    requireNonEmpty input.actorId "actorId" .register) with
  | .error violation => (.error violation, namespaces)
  | .ok _ =>
      if (namespaces.get? input.namespaceId).any fun existing => existing.memberships.size > 0 then
        (.error (controlPlaneViolation .revisionConflict .register "namespace already registered"
          (some "namespaceId") none (some input.namespaceId)), namespaces)
      else
        let stored : StoredNamespace :=
          { displayName := JsString.trim input.displayName
            memberships := OrdMap.empty.set input.actorId .admin }
        (.ok (snapshotRecord localeCompare input.namespaceId stored), namespaces.set input.namespaceId stored)

def assignRefused (stored : StoredNamespace) (input : AssignNamespaceRoleInput) (role : NamespaceRbacRole) :
    Option ControlPlaneViolation :=
  if stored.adminCount = 0 ∧ role ≠ .admin then
    some (controlPlaneViolation .authorizationDenied .authorize
      "namespace has no admin; first assignment must be admin")
  else if stored.adminCount ≠ 0 ∧ stored.memberships.get? input.assignedBy ≠ some .admin then
    some (controlPlaneViolation .authorizationDenied .authorize "only a namespace admin may assign roles")
  else if stored.memberships.get? input.actorId = some .admin ∧ role ≠ .admin ∧ stored.adminCount = 1 then
    some (controlPlaneViolation .invalidInput .authorize "cannot demote the last namespace admin"
      (some "actorId"))
  else
    none

def assignRole (namespaces : NamespaceRegistry) (input : AssignNamespaceRoleInput) :
    Except ControlPlaneViolation NamespaceRecord × NamespaceRegistry :=
  match NamespaceRbacRole.ofName? input.role with
  | none =>
      (.error (controlPlaneViolation .invalidInput .authorize "unknown namespace RBAC role" (some "role") none
        (some input.role)), namespaces)
  | some role =>
      match namespaces.get? input.namespaceId with
      | none =>
          (.error (controlPlaneViolation .invalidInput .authorize "namespace not registered"
            (some "namespaceId") none (some input.namespaceId)), namespaces)
      | some stored =>
          match assignRefused stored input role with
          | some violation => (.error violation, namespaces)
          | none =>
              let stored := { stored with memberships := stored.memberships.set input.actorId role }
              (.ok (snapshotRecord localeCompare input.namespaceId stored),
                namespaces.set input.namespaceId stored)

end NamespaceRegistry

/-- The calls that may change the registry, with the actor in whose name they are made. -/
inductive NamespaceCall where
  | registerNamespace (input : RegisterNamespaceInput)
  | assignRole (input : AssignNamespaceRoleInput)

namespace NamespaceCall

def actor : NamespaceCall → ActorId
  | .registerNamespace input => input.actorId
  | .assignRole input => input.assignedBy

def namespaceId : NamespaceCall → NamespaceId
  | .registerNamespace input => input.namespaceId
  | .assignRole input => input.namespaceId

def run (localeCompare : LocaleCompare) (namespaces : NamespaceRegistry) :
    NamespaceCall → Except ControlPlaneViolation NamespaceRecord × NamespaceRegistry
  | .registerNamespace input => namespaces.registerNamespace localeCompare input
  | .assignRole input => namespaces.assignRole localeCompare input

def Step (localeCompare : LocaleCompare) (s : NamespaceRegistry) (call : NamespaceCall) (t : NamespaceRegistry) :
    Prop := t = (call.run localeCompare s).2

end NamespaceCall

end Cantilune
