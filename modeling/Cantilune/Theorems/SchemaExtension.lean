import Cantilune.ControlPlane.SchemaExtension
import Cantilune.Runtime.Admission

/-!
# What an accepted extension keeps

The validator compares declarations with declarations, and of the templates only the first of each declared
operation, without its roles, visibility and session flag. Admission works with the template that the schema
resolves.
-/

namespace Cantilune

/-- Two templates ask the same of an operation. -/
structure SameObligations (t u : OperationTemplate) : Prop where
  requiredRoles : u.requiredRoles = t.requiredRoles
  requires : u.requires = t.requires
  ensures : u.ensures = t.ensures
  defaultVisibility : u.defaultVisibility = t.defaultVisibility
  mayCreateSessions : u.mayCreateSessions = t.mayCreateSessions

def Conservative (fromSchema toSchema : OrchestrationSchema) : Prop :=
  ∀ operationTypeId revision t, resolveTemplate fromSchema operationTypeId revision = some t →
    ∃ u, resolveTemplate toSchema operationTypeId revision = some u ∧ SameObligations t u

def Compared (fromSchema toSchema : OrchestrationSchema) (t u : OperationTemplate) : Prop :=
  fromSchema.operationTypes.has t.operationTypeId = true ∧
    firstTemplate fromSchema t.operationTypeId = some t ∧ firstTemplate toSchema t.operationTypeId = some u

/-- The templates agree in what the validator does not look at: each template that the current schema resolves
by its revision has a successor with its roles, visibility and session flag, and also with its conditions where
the two are not the pair that the validator compares. -/
def KeepsUncompared (fromSchema toSchema : OrchestrationSchema) : Prop :=
  ∀ t ∈ fromSchema.templates,
    resolveTemplate fromSchema t.operationTypeId (some t.templateRef.revision) = some t →
      ∃ u, resolveTemplate toSchema t.operationTypeId (some t.templateRef.revision) = some u ∧
        u.requiredRoles = t.requiredRoles ∧ u.defaultVisibility = t.defaultVisibility ∧
        u.mayCreateSessions = t.mayCreateSessions ∧
        (¬ Compared fromSchema toSchema t u → u.requires = t.requires ∧ u.ensures = t.ensures)

/-! ## What the checks say -/

variable {fromSchema toSchema : OrchestrationSchema}

theorem checkOperationType_eq_none {operationTypeId : OperationTypeId} {declaration : OperationTypeDeclaration}
    (h : checkOperationType fromSchema toSchema operationTypeId declaration = none) :
    ∃ next, toSchema.operationTypes.get? operationTypeId = some next ∧
      next.templateRef.revision = declaration.templateRef.revision ∧
      ∀ t u, firstTemplate fromSchema operationTypeId = some t → firstTemplate toSchema operationTypeId = some u →
        u.requires = t.requires ∧ u.ensures = t.ensures := by
  unfold checkOperationType at h
  cases hnext : toSchema.operationTypes.get? operationTypeId with
  | none =>
      rw [hnext] at h
      cases h
  | some next =>
      rw [hnext] at h
      obtain ⟨hdeclaration, htemplate⟩ := Option.or_eq_none_iff.1 h
      refine ⟨next, rfl, ?_, ?_⟩
      · unfold checkDeclarationUnchanged at hdeclaration
        split at hdeclaration
        · cases hdeclaration
        split at hdeclaration
        · cases hdeclaration
        · rename_i hrevision
          exact not_not.1 hrevision
      · intro t u ht hu
        unfold checkTemplateSnapshotUnchanged at htemplate
        rw [ht, hu] at htemplate
        simp only at htemplate
        split at htemplate
        · cases htemplate
        rename_i hrequires
        split at htemplate
        · cases htemplate
        rename_i hensures
        exact ⟨(not_not.1 hrequires).symm, (not_not.1 hensures).symm⟩

theorem resolveTemplate_some_iff {schema : OrchestrationSchema} {operationTypeId : OperationTypeId}
    {revision : String} {t : OperationTemplate}
    (h : resolveTemplate schema operationTypeId (some revision) = some t) :
    t ∈ schema.templates ∧ t.operationTypeId = operationTypeId ∧ t.templateRef.revision = revision := by
  unfold resolveTemplate at h
  have hfound := List.find?_some h
  simp only [decide_eq_true_eq] at hfound
  exact ⟨List.mem_of_find?_eq_some h, hfound⟩

theorem resolveTemplate_none {schema : OrchestrationSchema} {operationTypeId : OperationTypeId} :
    resolveTemplate schema operationTypeId none =
      (schema.operationTypes.get? operationTypeId).bind fun declaration =>
        resolveTemplate schema operationTypeId (some declaration.templateRef.revision) := by
  unfold resolveTemplate
  cases schema.operationTypes.get? operationTypeId <;> rfl

theorem conservative_of_revisions {fromRef toRef : SchemaRef} {plan : SchemaExtensionPlan}
    (h : computeMonotoneExtensionPlan fromSchema toSchema fromRef toRef = .ok plan)
    (hrevisions : ∀ operationTypeId revision t,
      resolveTemplate fromSchema operationTypeId (some revision) = some t →
        ∃ u, resolveTemplate toSchema operationTypeId (some revision) = some u ∧ SameObligations t u) :
    Conservative fromSchema toSchema := by
  intro operationTypeId revision t ht
  cases revision with
  | some revision => exact hrevisions operationTypeId revision t ht
  | none =>
      rw [resolveTemplate_none] at ht
      obtain ⟨declaration, hdeclared, ht⟩ := Option.bind_eq_some_iff.1 ht
      obtain ⟨next, hnext, hrevision, -⟩ := checkOperationType_eq_none
        (computeMonotoneExtensionPlan_operations h operationTypeId declaration hdeclared)
      rw [resolveTemplate_none, hnext, Option.bind_some, hrevision]
      exact hrevisions operationTypeId _ t ht

theorem conservative_iff {fromRef toRef : SchemaRef} {plan : SchemaExtensionPlan}
    (h : computeMonotoneExtensionPlan fromSchema toSchema fromRef toRef = .ok plan) :
    Conservative fromSchema toSchema ↔ KeepsUncompared fromSchema toSchema := by
  constructor
  · intro hconservative t _ hresolved
    obtain ⟨u, hu, hsame⟩ := hconservative _ _ t hresolved
    exact ⟨u, hu, hsame.requiredRoles, hsame.defaultVisibility, hsame.mayCreateSessions,
      fun _ => ⟨hsame.requires, hsame.ensures⟩⟩
  · intro hkeeps
    refine conservative_of_revisions h fun operationTypeId revision t ht => ?_
    obtain ⟨hmem, rfl, rfl⟩ := resolveTemplate_some_iff ht
    obtain ⟨u, hu, hroles, hvisibility, hsessions, hrest⟩ := hkeeps t hmem ht
    have hconditions : u.requires = t.requires ∧ u.ensures = t.ensures := by
      by_cases hcompared : Compared fromSchema toSchema t u
      · obtain ⟨hdeclared, hfirst, hnext⟩ := hcompared
        obtain ⟨declaration, hdeclared⟩ := OrdMap.has_iff.1 hdeclared
        obtain ⟨-, -, -, hsame⟩ := checkOperationType_eq_none
          (computeMonotoneExtensionPlan_operations h _ declaration hdeclared)
        exact hsame t u hfirst hnext
      · exact hrest hcompared
    exact ⟨u, hu, ⟨hroles, hconditions.1, hconditions.2, hvisibility, hsessions⟩⟩

/-! ## Admission under the new schema -/

def ReadsObligations (policy : PolicyEvaluator) : Prop :=
  ∀ snapshot intent t u footprint revision, SameObligations t u →
    policy snapshot intent u footprint revision = policy snapshot intent t footprint revision

/-- The same intent was found admissible, with the same obligations. -/
structure SameAdmission (c d : CheckedIntent) : Prop where
  intent : d.intent = c.intent
  beforeRef : d.beforeRef = c.beforeRef
  beforeSnapshot : d.beforeSnapshot = c.beforeSnapshot
  template : SameObligations c.template d.template
  authorization : d.authorization = c.authorization

theorem checkIntent_of_conservative {fromRef toRef : SchemaRef} {plan : SchemaExtensionPlan}
    (h : computeMonotoneExtensionPlan fromSchema toSchema fromRef toRef = .ok plan)
    (hconservative : Conservative fromSchema toSchema) {policy : PolicyEvaluator} (hpolicy : ReadsObligations policy)
    {get : SnapshotRef → Option CollaborationSnapshot} {head : Option SnapshotRef} {epochId : EpochId}
    {binding binding' : Option SchemaEpochBinding} {input : AdmissionInput} {c : CheckedIntent}
    (hadmitted : checkIntent get head { epochId, schema := fromSchema, binding } policy input = .ok c) :
    ∃ d, checkIntent get head { epochId, schema := toSchema, binding := binding' } policy input = .ok d ∧
      SameAdmission c d := by
  unfold checkIntent at hadmitted ⊢
  simp only [Outcome.bind_eq_ok, rejectIf_eq_ok, orReject_eq_ok] at hadmitted
  obtain ⟨_, hprincipal, ref, href, snapshot, hsnapshot, _, hintegrity, _, hepoch, _, hallowed, t, ht, _, hroles, _,
    hrequires, hdecision⟩ := hadmitted
  obtain ⟨u, hu, hsame⟩ := hconservative _ _ t ht
  simp only [Outcome.bind_eq_ok, rejectIf_eq_ok, orReject_eq_ok]
  have hdeclared : (normalizeCoordinationIntent input.intent).operationTypeId ∈ toSchema.operationTypes.keys := by
    split at hallowed
    · cases hallowed
    · rename_i hmem
      obtain ⟨declaration, hdeclaration⟩ := OrdMap.has_iff.1 (OrdMap.mem_keys.1 (not_not.1 hmem))
      obtain ⟨next, hnext, -⟩ := checkOperationType_eq_none
        (computeMonotoneExtensionPlan_operations h _ declaration hdeclaration)
      exact OrdMap.mem_keys.2 (OrdMap.has_of_get? hnext)
  have hpermitted := hpolicy snapshot (normalizeCoordinationIntent input.intent) t u
    (footprintFromTargets (targetsFromMatchBindings (normalizeCoordinationIntent input.intent).matchBindings)) epochId
    hsame
  split at hdecision
  · cases hdecision
  · rename_i authorization hallow
    cases hdecision
    refine ⟨{ intent := normalizeCoordinationIntent input.intent, beforeRef := ref, beforeSnapshot := snapshot
              template := u, authorization }, ?_, ⟨rfl, rfl, rfl, hsame, rfl⟩⟩
    refine ⟨(), hprincipal, ref, href, snapshot, hsnapshot, (), hintegrity, (), hepoch, (), ?_, u, hu, (), ?_, (), ?_, ?_⟩
    · exact if_neg (not_not.2 hdeclared)
    · rw [hsame.requiredRoles]
      exact hroles
    · rw [hsame.requires]
      exact hrequires
    · rw [show effectiveFootprintForAdmission (normalizeCoordinationIntent input.intent) u =
        footprintFromTargets (targetsFromMatchBindings (normalizeCoordinationIntent input.intent).matchBindings)
        from rfl, hpermitted]
      rw [show effectiveFootprintForAdmission (normalizeCoordinationIntent input.intent) t =
        footprintFromTargets (targetsFromMatchBindings (normalizeCoordinationIntent input.intent).matchBindings)
        from rfl] at hallow
      rw [hallow]

/-- For an accepted candidate, every operation that the current schema resolves is resolved with the same
obligations if and only if the templates agree in what the validator does not compare; then every intent
admitted under the current schema is admitted under the candidate with the same obligations. -/
theorem extension_conservative_iff {fromRef toRef : SchemaRef} {plan : SchemaExtensionPlan}
    (h : computeMonotoneExtensionPlan fromSchema toSchema fromRef toRef = .ok plan) :
    (Conservative fromSchema toSchema ↔ KeepsUncompared fromSchema toSchema) ∧
      (KeepsUncompared fromSchema toSchema → ∀ policy, ReadsObligations policy →
        ∀ get head epochId binding binding' input c,
          checkIntent get head { epochId, schema := fromSchema, binding } policy input = .ok c →
            ∃ d, checkIntent get head { epochId, schema := toSchema, binding := binding' } policy input = .ok d ∧
              SameAdmission c d) :=
  ⟨conservative_iff h, fun hkeeps _ hpolicy _ _ _ _ _ _ _ hadmitted =>
    checkIntent_of_conservative h ((conservative_iff h).2 hkeeps) hpolicy hadmitted⟩

def delegationSchema : OrchestrationSchema := buildOrchestrationSchema "delegation" [delegateTemplate]

/-- The same declarations, with a template that requires no roles. -/
def rolelessSchema : OrchestrationSchema :=
  { delegationSchema with templates := [{ delegateTemplate with requiredRoles := [] }] }

def delegationRef (revisionId : String) : SchemaRef := { schemaId := "delegation", revisionId, digest := revisionId }

theorem extension_conservative_iff_same :
    ∃ plan, computeMonotoneExtensionPlan delegationSchema delegationSchema (delegationRef "1") (delegationRef "2")
        = .ok plan ∧
      (Conservative delegationSchema delegationSchema ↔ KeepsUncompared delegationSchema delegationSchema) :=
  ⟨_, rfl, (@extension_conservative_iff delegationSchema delegationSchema (delegationRef "1") (delegationRef "2") _ rfl).1⟩

/-- The candidate drops the roles of the template; the validator, which compares those of the declarations,
accepts it. -/
theorem extension_drops_required_roles :
    ¬ ∀ (fromSchema toSchema : OrchestrationSchema) (fromRef toRef : SchemaRef) (plan : SchemaExtensionPlan),
        computeMonotoneExtensionPlan fromSchema toSchema fromRef toRef = .ok plan →
          Conservative fromSchema toSchema := by
  intro hall
  obtain ⟨u, hu, hsame⟩ := hall delegationSchema rolelessSchema (delegationRef "1") (delegationRef "2") _ rfl
    delegateTemplate.operationTypeId none delegateTemplate rfl
  cases hu
  exact absurd hsame.requiredRoles (by decide)

end Cantilune
