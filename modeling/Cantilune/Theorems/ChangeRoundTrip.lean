import Cantilune.Codec.ChangeWire
import Cantilune.Runtime.Admission

/-!
# Changes on the wire

What the committer persists is a change together with the recipe that it was made from. The parser reads
back what the encoder wrote exactly when no role is bound twice and no text in it is empty.
-/

namespace Cantilune

/-! ## What the parser accepts -/

@[simp] theorem parseRole_name {a b : MatchBindingRole} {path message : String} :
    parseName MatchBindingRole.all MatchBindingRole.name (some (.str a.name)) path message = .ok b ↔ a = b :=
  parseName_name

@[simp] theorem parseTargetKind_name {a b : TargetKind} {path message : String} :
    parseName TargetKind.all TargetKind.name (some (.str a.name)) path message = .ok b ↔ a = b :=
  parseName_name

@[simp] theorem parseVisibility_name {a b : ChangeVisibility} {path message : String} :
    parseName ChangeVisibility.all ChangeVisibility.name (some (.str a.name)) path message = .ok b ↔ a = b :=
  parseName_name

theorem role_name_ne_empty (role : MatchBindingRole) : role.name ≠ "" := by cases role <;> decide

theorem targetKind_name_ne_empty (kind : TargetKind) : kind.name ≠ "" := by cases kind <;> decide

theorem parseMatchBinding_toJson {b b' : MatchBinding} {path : String} :
    parseMatchBinding (some b.toJson) path = .ok b' ↔ b = b' ∧ b.id ≠ "" := by
  obtain ⟨role, id⟩ := b
  obtain ⟨role', id'⟩ := b'
  simp only [parseMatchBinding, MatchBinding.toJson, Outcome.bind_eq_ok, requireRecord_obj, exists_eq_left',
    requireString_eq_ok, Json.get?, List.lookup_cons]
  constructor
  · rintro ⟨_, ⟨h₁, _⟩, _, h₂, _, ⟨h₃, h₄⟩, h⟩
    cases h₁; cases h₃; cases h
    exact ⟨by rw [parseRole_name.1 h₂], h₄⟩
  · rintro ⟨h, hid⟩
    cases h
    exact ⟨_, ⟨rfl, role_name_ne_empty role⟩, _, parseRole_name.2 rfl, _, ⟨rfl, hid⟩, rfl⟩

theorem parseTarget_toJson {t t' : TargetRef} {path : String} :
    parseTarget (some t.toJson) path = .ok t' ↔ t = t' ∧ t.id ≠ "" := by
  obtain ⟨kind, id⟩ := t
  obtain ⟨kind', id'⟩ := t'
  simp only [parseTarget, TargetRef.toJson, Outcome.bind_eq_ok, requireRecord_obj, exists_eq_left',
    requireString_eq_ok, Json.get?, List.lookup_cons]
  constructor
  · rintro ⟨_, ⟨h₁, _⟩, _, h₂, _, ⟨h₃, h₄⟩, h⟩
    cases h₁; cases h₃; cases h
    exact ⟨by rw [parseTargetKind_name.1 h₂], h₄⟩
  · rintro ⟨h, hid⟩
    cases h
    exact ⟨_, ⟨rfl, targetKind_name_ne_empty kind⟩, _, parseTargetKind_name.2 rfl, _, ⟨rfl, hid⟩, rfl⟩

theorem parseMatchBindings_map {bs bs' : List MatchBinding} {index : Nat} {seenRoles : List MatchBindingRole} :
    parseMatchBindings index seenRoles (bs.map MatchBinding.toJson) = .ok bs' ↔
      bs = bs' ∧ (∀ b ∈ bs, b.id ≠ "") ∧ (bs.map (·.role)).Nodup ∧ ∀ b ∈ bs, b.role ∉ seenRoles := by
  induction bs generalizing index seenRoles bs' with
  | nil => simp [parseMatchBindings]
  | cons b bs ih =>
      simp only [List.map_cons, parseMatchBindings, Outcome.bind_eq_ok, parseMatchBinding_toJson,
        List.forall_mem_cons, List.nodup_cons, List.mem_map, not_exists, not_and]
      constructor
      · rintro ⟨_, ⟨rfl, hid⟩, h⟩
        split at h
        · cases h
        · rename_i hseen
          obtain ⟨_, htail, h⟩ := Outcome.bind_eq_ok.1 h
          cases h
          obtain ⟨rfl, hids, hnodup, hfresh⟩ := ih.1 htail
          simp only [List.mem_cons, not_or] at hfresh
          exact ⟨rfl, ⟨hid, hids⟩, ⟨fun x hx => (hfresh x hx).1, hnodup⟩, hseen, fun x hx => (hfresh x hx).2⟩
      · rintro ⟨rfl, ⟨hid, hids⟩, ⟨hnew, hnodup⟩, hseen, hfresh⟩
        refine ⟨b, ⟨rfl, hid⟩, ?_⟩
        rw [if_neg hseen]
        refine Outcome.bind_eq_ok.2 ⟨bs, ih.2 ⟨rfl, hids, hnodup, fun x hx => ?_⟩, rfl⟩
        simp only [List.mem_cons, not_or]
        exact ⟨hnew x hx, hfresh x hx⟩

theorem parseTemplateRef_toJson {ref ref' : OperationTemplateRef} {path : String} :
    parseTemplateRef (some ref.toJson) path = .ok ref' ↔ ref = ref' ∧ ref.operationTypeId ≠ "" ∧ ref.revision ≠ "" := by
  obtain ⟨op, revision⟩ := ref
  obtain ⟨op', revision'⟩ := ref'
  simp [parseTemplateRef, OperationTemplateRef.toJson, Outcome.bind_eq_ok, Json.get?, List.lookup_cons]
  grind

theorem parseMatchWitnessField_toJson {w w' : MatchWitness} :
    parseMatchWitnessField (some w.toJson) = .ok w' ↔ w = w' := by
  obtain ⟨domain, codomain, embedding⟩ := w
  obtain ⟨domain', codomain', embedding'⟩ := w'
  have harray : ∀ xs path, parseArrayOf "expected embedding array" (parseNumber "expected number")
      (some (.arr (embedding.map .num))) path = .ok xs ↔ embedding = xs ∧ ∀ q ∈ embedding, True := fun xs path =>
    parseArrayOf_exact fun x y path => by simp
  simp [parseMatchWitnessField, MatchWitness.toJson, Outcome.bind_eq_ok, Json.get?, List.lookup_cons, harray]

def OperationScalarValue.Wirable : OperationScalarValue → Prop
  | .string s => s ≠ ""
  | .number n => ∃ q, n = .finite q
  | .boolean _ => True

instance : DecidablePred OperationScalarValue.Wirable
  | .string s => inferInstanceAs (Decidable (s ≠ ""))
  | .number (.finite q) => isTrue ⟨q, rfl⟩
  | .number .nan => isFalse (by simp [OperationScalarValue.Wirable])
  | .number (.infinity _) => isFalse (by simp [OperationScalarValue.Wirable])
  | .boolean _ => isTrue trivial

theorem scalarFromWire_toJson {v v' : OperationScalarValue} :
    scalarFromWire v.toJson = some v' ↔ v = v' ∧ v.Wirable := by
  cases v with
  | string s => by_cases h : s = "" <;> simp [OperationScalarValue.toJson, scalarFromWire, OperationScalarValue.Wirable, h]
  | number n => cases n <;> simp [OperationScalarValue.toJson, scalarFromWire, OperationScalarValue.Wirable]
  | boolean b => simp [OperationScalarValue.toJson, scalarFromWire, OperationScalarValue.Wirable]

theorem parseScalarEntries_map {es es' : List (String × OperationScalarValue)} {path : String} :
    parseScalarEntries path (es.map fun e => (e.1, e.2.toJson)) = .ok es' ↔
      es = es' ∧ ∀ e ∈ es, e.1 ≠ "" ∧ e.2.Wirable := by
  induction es generalizing es' with
  | nil => simp [parseScalarEntries]
  | cons e es ih =>
      obtain ⟨name, v⟩ := e
      simp only [List.map_cons, parseScalarEntries, List.forall_mem_cons]
      by_cases hname : name = ""
      · simp [hname]
      · rw [if_neg hname]
        cases hv : scalarFromWire v.toJson with
        | none =>
            have hnot : ¬ v.Wirable := fun h => by
              rw [scalarFromWire_toJson.2 ⟨rfl, h⟩] at hv
              cases hv
            simp [hnot]
        | some v' =>
            obtain ⟨rfl, hwirable⟩ := scalarFromWire_toJson.1 hv
            simp only [Outcome.bind_eq_ok, ih]
            constructor
            · rintro ⟨_, ⟨rfl, htail⟩, h⟩
              cases h
              exact ⟨rfl, ⟨hname, hwirable⟩, htail⟩
            · rintro ⟨rfl, _, htail⟩
              exact ⟨es, ⟨rfl, htail⟩, rfl⟩

theorem parseScalarInputs_toJson {inputs inputs' : OperationScalarInputs} {path : String} :
    parseScalarInputs (some (scalarInputsToJson inputs)) path = .ok inputs' ↔
      inputs = inputs' ∧ ∀ e ∈ inputs.entries, e.1 ≠ "" ∧ e.2.Wirable := by
  simp only [parseScalarInputs, scalarInputsToJson, Outcome.bind_eq_ok, parseScalarEntries_map]
  constructor
  · rintro ⟨_, ⟨rfl, hentries⟩, h⟩
    cases h
    exact ⟨(OrdMap.ofList_entries inputs).symm, hentries⟩
  · rintro ⟨rfl, hentries⟩
    exact ⟨inputs.entries, ⟨rfl, hentries⟩, by rw [OrdMap.ofList_entries]⟩

theorem parseOptional_map {α : Type} {encode : α → Json} {parse : Option Json → String → CodecParse α}
    {Ok : α → Prop} (hparse : ∀ x y path, parse (some (encode x)) path = .ok y ↔ x = y ∧ Ok x)
    {o o' : Option α} {path : String} :
    parseOptional parse (o.map encode) path = .ok o' ↔ o = o' ∧ ∀ x ∈ o, Ok x := by
  cases o with
  | none => simp only [Option.map_none, parseOptional, Except.ok.injEq]; simp
  | some x =>
      rw [parseOptional_eq_ok]
      constructor
      · rintro (⟨h, _⟩ | ⟨_, y, h, hy, rfl⟩)
        · cases h
        · cases h
          obtain ⟨rfl, hok⟩ := (hparse _ _ _).1 hy
          exact ⟨rfl, by simpa using hok⟩
      · rintro ⟨rfl, hok⟩
        exact .inr ⟨_, x, rfl, (hparse _ _ _).2 ⟨rfl, hok x rfl⟩, rfl⟩

/-! ## The whole wire value -/

section Members
variable (dto : ChangeWireDto)

theorem get?_string_members :
    dto.toJson.get? "changeId" = some (.str dto.changeId) ∧
      dto.toJson.get? "recordedAt" = some (.str dto.recordedAt) ∧
      dto.toJson.get? "epochId" = some (.str dto.epochId) ∧
      dto.toJson.get? "operationTypeId" = some (.str dto.operationTypeId) ∧
      dto.toJson.get? "beforeRef" = some (.str dto.beforeRef) ∧
      dto.toJson.get? "afterRef" = some (.str dto.afterRef) := by
  simp [ChangeWireDto.toJson]

theorem get?_required_members :
    dto.toJson.get? "matchBindings" = some (.arr (dto.matchBindings.map MatchBinding.toJson)) ∧
      dto.toJson.get? "targets" = some (.arr (dto.targets.map TargetRef.toJson)) ∧
      dto.toJson.get? "initiator" = some dto.initiator.toJson ∧
      dto.toJson.get? "involved" = some (.arr (dto.involved.map ActorRef.toJson)) ∧
      dto.toJson.get? "authorization" = some (.arr (dto.authorization.map EvidenceRef.toJson)) ∧
      dto.toJson.get? "external" = some (.arr (dto.external.map EvidenceRef.toJson)) ∧
      dto.toJson.get? "createdSessionRefs" = some (stringsToJson dto.createdSessionRefs) ∧
      dto.toJson.get? "visibility" = some (.str dto.visibility.name) ∧
      dto.toJson.get? "matchWitness" = some dto.matchWitness.toJson := by
  simp [ChangeWireDto.toJson]

theorem get?_optional_members :
    dto.toJson.get? "complementTag" = dto.complementTag.map .num ∧
      dto.toJson.get? "freshLinkRefs" = dto.freshLinkRefs.map stringsToJson ∧
      dto.toJson.get? "inputContentRefs" = dto.inputContentRefs.map stringsToJson ∧
      dto.toJson.get? "scalarInputs" = dto.scalarInputs.map scalarInputsToJson ∧
      dto.toJson.get? "emittedAt" = dto.emittedAt.map .str ∧
      dto.toJson.get? "templateRef" = dto.templateRef.map OperationTemplateRef.toJson := by
  simp [ChangeWireDto.toJson]

end Members

/-- No text of the wire value is empty, no role comes twice, and the targets are those of the bindings. -/
structure ChangeWireDto.Readable (dto : ChangeWireDto) : Prop where
  changeId : dto.changeId ≠ ""
  recordedAt : dto.recordedAt ≠ ""
  epochId : dto.epochId ≠ ""
  operationTypeId : dto.operationTypeId ≠ ""
  beforeRef : dto.beforeRef ≠ ""
  afterRef : dto.afterRef ≠ ""
  bindings : ∀ b ∈ dto.matchBindings, b.id ≠ ""
  roles : (dto.matchBindings.map (·.role)).Nodup
  targets : ∀ t ∈ dto.targets, t.id ≠ ""
  derived : targetsMatchBindings dto.matchBindings dto.targets = true
  initiator : dto.initiator.actorId ≠ ""
  involved : ∀ a ∈ dto.involved, a.actorId ≠ ""
  authorization : ∀ e ∈ dto.authorization, e.evidenceId ≠ "" ∧ e.contentRef ≠ ""
  external : ∀ e ∈ dto.external, e.evidenceId ≠ "" ∧ e.contentRef ≠ ""
  createdSessionRefs : ∀ id ∈ dto.createdSessionRefs, id ≠ ""
  templateRef : ∀ r ∈ dto.templateRef, r.operationTypeId ≠ "" ∧ r.revision ≠ ""
  freshLinkRefs : ∀ ids ∈ dto.freshLinkRefs, ∀ id ∈ ids, id ≠ ""
  inputContentRefs : ∀ refs ∈ dto.inputContentRefs, ∀ ref ∈ refs, ref ≠ ""
  scalarInputs : ∀ inputs ∈ dto.scalarInputs, ∀ e ∈ inputs.entries, e.1 ≠ "" ∧ e.2.Wirable
  emittedAt : ∀ t ∈ dto.emittedAt, t ≠ ""
  heartbeat : ¬ (dto.operationTypeId = "emit_heartbeat" ∧ dto.emittedAt = none)

theorem parseChangeMatchBindingsSection_toJson {dto : ChangeWireDto} {bs : List MatchBinding}
    {ts : List TargetRef} :
    parseChangeMatchBindingsSection dto.toJson = .ok (bs, ts) ↔
      dto.matchBindings = bs ∧ dto.targets = ts ∧ (∀ b ∈ dto.matchBindings, b.id ≠ "") ∧
        (dto.matchBindings.map (·.role)).Nodup ∧ (∀ t ∈ dto.targets, t.id ≠ "") ∧
          targetsMatchBindings dto.matchBindings dto.targets = true := by
  obtain ⟨hbindings, htargets, _⟩ := get?_required_members dto
  simp only [parseChangeMatchBindingsSection, hbindings, htargets, Outcome.bind_eq_ok, parseMatchBindings_map]
  have harray : ∀ ts, parseArrayOf "expected targets array" parseTarget
      (some (.arr (dto.targets.map TargetRef.toJson))) "change.targets" = .ok ts ↔
        dto.targets = ts ∧ ∀ t ∈ dto.targets, t.id ≠ "" := fun ts =>
    parseArrayOf_exact fun _ _ _ => parseTarget_toJson
  constructor
  · rintro ⟨_, ⟨rfl, hids, hnodup, _⟩, _, htargets, h⟩
    obtain ⟨rfl, htargetIds⟩ := (harray _).1 htargets
    split at h
    · cases h
      exact ⟨rfl, rfl, hids, hnodup, htargetIds, by assumption⟩
    · cases h
  · rintro ⟨rfl, rfl, hids, hnodup, htargetIds, hderived⟩
    refine ⟨_, ⟨rfl, hids, hnodup, by simp⟩, _, (harray _).2 ⟨rfl, htargetIds⟩, ?_⟩
    rw [if_pos hderived]

theorem parseChangeWire_toJson {dto dto' : ChangeWireDto} :
    parseChangeWire dto.toJson = .ok dto' ↔ dto = dto' ∧ dto.Readable := by
  obtain ⟨h₁, h₂, h₃, h₄, h₅, h₆⟩ := get?_string_members dto
  obtain ⟨_, _, h₇, h₈, h₉, h₁₀, h₁₁, h₁₂, h₁₃⟩ := get?_required_members dto
  obtain ⟨h₁₄, h₁₅, h₁₆, h₁₇, h₁₈, h₁₉⟩ := get?_optional_members dto
  have hinvolved : ∀ as, parseArrayOf "expected involved array" parseActorRef
      (some (.arr (dto.involved.map ActorRef.toJson))) "change.involved" = .ok as ↔
        dto.involved = as ∧ ∀ a ∈ dto.involved, a.actorId ≠ "" := fun as =>
    parseArrayOf_exact fun _ _ _ => parseActorRef_toJson
  have hrecord : ∀ r, requireRecord (some dto.toJson) "change" "expected change wire object" = .ok r ↔
      dto.toJson = r := fun r => requireRecord_obj
  have htemplate : ∀ r, parseOptional parseTemplateRef (dto.templateRef.map OperationTemplateRef.toJson)
      "change.templateRef" = .ok r ↔ dto.templateRef = r ∧
        ∀ r ∈ dto.templateRef, r.operationTypeId ≠ "" ∧ r.revision ≠ "" := fun r =>
    parseOptional_map fun _ _ _ => parseTemplateRef_toJson
  have hcomplement : ∀ q, parseOptional (parseNumber "expected number") (dto.complementTag.map .num)
      "change.complementTag" = .ok q ↔ dto.complementTag = q ∧ ∀ q ∈ dto.complementTag, True := fun q =>
    parseOptional_map fun _ _ _ => by simp
  have hstrings : ∀ (o o' : Option (List String)) path,
      parseOptional parseStringArray (o.map stringsToJson) path = .ok o' ↔
        o = o' ∧ ∀ xs ∈ o, ∀ x ∈ xs, x ≠ "" := fun o o' path =>
    parseOptional_map fun _ _ _ => parseStringArray_map
  have hscalars : ∀ i, parseOptional parseScalarInputs (dto.scalarInputs.map scalarInputsToJson)
      "change.scalarInputs" = .ok i ↔ dto.scalarInputs = i ∧
        ∀ i ∈ dto.scalarInputs, ∀ e ∈ i.entries, e.1 ≠ "" ∧ e.2.Wirable := fun i =>
    parseOptional_map fun _ _ _ => parseScalarInputs_toJson
  have hemitted : ∀ t, parseOptional parseNonEmptyString (dto.emittedAt.map .str) "change.emittedAt" = .ok t ↔
      dto.emittedAt = t ∧ ∀ t ∈ dto.emittedAt, t ≠ "" := fun t =>
    parseOptional_map fun _ _ _ => parseNonEmptyString_str
  simp only [parseChangeWire, Outcome.bind_eq_ok, hrecord, exists_eq_left', requireString_eq_ok, h₁, h₂, h₃, h₄,
    h₅, h₆, h₇, h₈, h₉, h₁₀, h₁₁, h₁₂, h₁₃, h₁₄, h₁₅, h₁₆, h₁₇, h₁₈, h₁₉, parseActorRef_toJson,
    hinvolved, parseEvidenceArray_map, htemplate, hcomplement, hstrings, hscalars, hemitted,
    parseVisibility_name, parseMatchWitnessField_toJson, stringsToJson, parseStringArray_map,
    Option.some.injEq, Json.str.injEq]
  constructor
  · rintro ⟨_, ⟨rfl, c₁⟩, _, ⟨rfl, c₂⟩, _, ⟨rfl, c₃⟩, _, ⟨rfl, c₄⟩, _, ⟨rfl, c₅⟩, _, ⟨rfl, c₆⟩, ⟨bs, ts⟩,
      hbindings, _, ⟨rfl, c₇⟩, _, ⟨rfl, c₈⟩, _, ⟨rfl, c₉⟩, _, ⟨rfl, c₁₀⟩, _, ⟨rfl, c₁₁⟩, _, ⟨rfl, c₁₂⟩,
      _, ⟨rfl, _⟩, _, ⟨rfl, c₁₃⟩, _, ⟨rfl, c₁₄⟩, _, ⟨rfl, c₁₅⟩, _, ⟨rfl, c₁₆⟩, h⟩
    obtain ⟨rfl, rfl, b₁, b₂, b₃, b₄⟩ := parseChangeMatchBindingsSection_toJson.1 hbindings
    dsimp only at h
    split at h
    · cases h
    · cases h
      exact ⟨rfl, c₁, c₂, c₃, c₄, c₅, c₆, b₁, b₂, b₃, b₄, c₇, c₈, c₉, c₁₀, c₁₁, c₁₂, c₁₃, c₁₄, c₁₅, c₁₆,
        by assumption⟩
  · rintro ⟨rfl, hr⟩
    refine ⟨_, ⟨rfl, hr.changeId⟩, _, ⟨rfl, hr.recordedAt⟩, _, ⟨rfl, hr.epochId⟩, _,
      ⟨rfl, hr.operationTypeId⟩, _, ⟨rfl, hr.beforeRef⟩, _, ⟨rfl, hr.afterRef⟩, (_, _),
      parseChangeMatchBindingsSection_toJson.2 ⟨rfl, rfl, hr.bindings, hr.roles, hr.targets, hr.derived⟩, _,
      ⟨rfl, hr.initiator⟩, _, ⟨rfl, hr.involved⟩, _, ⟨rfl, hr.authorization⟩, _, ⟨rfl, hr.external⟩, _,
      ⟨rfl, hr.createdSessionRefs⟩, _, ⟨rfl, hr.templateRef⟩, _, ⟨rfl, by simp⟩, _,
      ⟨rfl, hr.freshLinkRefs⟩, _, ⟨rfl, hr.inputContentRefs⟩, _, ⟨rfl, hr.scalarInputs⟩, _,
      ⟨rfl, hr.emittedAt⟩, ?_⟩
    dsimp only
    rw [if_neg hr.heartbeat]

/-! ## What is decoded -/

section Present
variable {α : Type} {ids : List α}

@[simp] theorem presentIf_length_getD : (presentIf (ids.length > 0) ids).getD [] = ids := by
  cases ids <;> simp [presentIf]

@[simp] theorem forall_mem_presentIf_length {P : α → Prop} :
    (∀ xs ∈ presentIf (ids.length > 0) ids, ∀ x ∈ xs, P x) ↔ ∀ x ∈ ids, P x := by
  cases ids <;> simp [presentIf]

theorem presentIf_size_getD (inputs : OperationScalarInputs) :
    (presentIf (inputs.size > 0) inputs).getD .empty = inputs := by
  by_cases h : inputs.size > 0
  · simp [presentIf, h]
  · have hnil : inputs.entries = [] := List.length_eq_zero_iff.1 (by simpa [OrdMap.size] using h)
    rw [presentIf, if_neg h, ← OrdMap.ofList_entries inputs, hnil]
    rfl

theorem forall_mem_presentIf_size {inputs : OperationScalarInputs}
    {P : String × OperationScalarValue → Prop} :
    (∀ i ∈ presentIf (inputs.size > 0) inputs, ∀ e ∈ i.entries, P e) ↔ ∀ e ∈ inputs.entries, P e := by
  by_cases h : inputs.size > 0
  · simp [presentIf, h]
  · have hnil : inputs.entries = [] := List.length_eq_zero_iff.1 (by simpa [OrdMap.size] using h)
    simp [presentIf, h, hnil]

end Present

theorem targetKey_bindingToTargetRef (b : MatchBinding) : targetKey (bindingToTargetRef b) = bindingToTargetKey b :=
  rfl

@[simp] theorem targetsMatchBindings_derived (bs : List MatchBinding) :
    targetsMatchBindings bs (targetsFromMatchBindings bs) = true := by
  have hkeys : (targetsFromMatchBindings bs).map targetKey = bs.map bindingToTargetKey := by
    simp [targetsFromMatchBindings, Function.comp_def, targetKey_bindingToTargetRef]
  simp [targetsMatchBindings, hkeys]

@[simp] theorem assertTargetsDerivedFromBindings_derived (bs : List MatchBinding) :
    assertTargetsDerivedFromBindings bs (targetsFromMatchBindings bs) = true := by
  simp only [assertTargetsDerivedFromBindings, decide_true, Bool.true_and, List.all_eq_true,
    List.contains_iff_mem, imp_self, implies_true]

section Decode
variable {recipe : ReplayRecipe} {changeId : ChangeId} {recordedAt : Timestamp} {beforeRef afterRef : SnapshotRef}
  {initiator : ActorRef} {involved : List ActorRef} {change : CoordinationChange} {dto : ChangeWireDto}

theorem decodeChangeWithRecipe_encoded (hkind : recipe.kind = eventKindFromVisibility recipe.visibility)
    (hchange : change = coordinationChangeFromCommit recipe changeId recordedAt beforeRef afterRef initiator involved)
    (h : encodeChangeWithRecipe change recipe = .ok dto) :
    decodeChangeWithRecipe dto = .ok (change, recipe) := by
  subst hchange
  unfold encodeChangeWithRecipe at h
  split at h
  · cases h
  · rename_i hheartbeat
    cases h
    obtain ⟨epochId, operationTypeId, templateRef, bindings, witness, tag, kind, authorization, external,
      sessions, links, contents, scalars, emittedAt, visibility⟩ := recipe
    cases hkind
    simp only [coordinationChangeFromCommit] at hheartbeat
    simp only [decodeChangeWithRecipe, coordinationChangeFromCommit, assertTargetsDerivedFromBindings_derived,
      replayRecipeFromChange, replayRecipe, Bool.true_eq_false, if_false, Option.getD_some,
      presentIf_length_getD, presentIf_size_getD, Option.or_none, if_neg hheartbeat]
    rfl

structure TextsPresent (change : CoordinationChange) (recipe : ReplayRecipe) : Prop where
  changeId : change.changeId ≠ ""
  recordedAt : change.recordedAt ≠ ""
  epochId : recipe.epochId ≠ ""
  operationTypeId : recipe.operationTypeId ≠ ""
  beforeRef : change.beforeRef ≠ ""
  afterRef : change.afterRef ≠ ""
  initiator : change.initiator.actorId ≠ ""
  involved : ∀ a ∈ change.involved, a.actorId ≠ ""
  authorization : ∀ e ∈ recipe.authorization, e.evidenceId ≠ "" ∧ e.contentRef ≠ ""
  external : ∀ e ∈ recipe.external, e.evidenceId ≠ "" ∧ e.contentRef ≠ ""
  createdSessionRefs : ∀ id ∈ recipe.createdSessionRefs, id ≠ ""
  templateRef : ∀ r ∈ recipe.templateRef, r.operationTypeId ≠ "" ∧ r.revision ≠ ""
  freshLinkRefs : ∀ id ∈ recipe.freshLinkRefs, id ≠ ""
  inputContentRefs : ∀ ref ∈ recipe.inputContentRefs, ref ≠ ""
  scalarInputs : ∀ e ∈ recipe.scalarInputs.entries, e.1 ≠ "" ∧ e.2.Wirable
  emittedAt : ∀ t ∈ recipe.emittedAt, t ≠ ""

theorem readable_encoded
    (hchange : change = coordinationChangeFromCommit recipe changeId recordedAt beforeRef afterRef initiator involved)
    (h : encodeChangeWithRecipe change recipe = .ok dto) :
    dto.Readable ↔ (∀ b ∈ recipe.matchBindings, b.id ≠ "") ∧ (recipe.matchBindings.map (·.role)).Nodup ∧
      TextsPresent change recipe := by
  subst hchange
  unfold encodeChangeWithRecipe at h
  split at h
  · cases h
  · rename_i hheartbeat
    cases h
    constructor
    · intro hr
      refine ⟨hr.bindings, hr.roles, hr.changeId, hr.recordedAt, hr.epochId, hr.operationTypeId, hr.beforeRef,
        hr.afterRef, hr.initiator, hr.involved, hr.authorization, hr.external, hr.createdSessionRefs,
        hr.templateRef, forall_mem_presentIf_length.1 hr.freshLinkRefs,
        forall_mem_presentIf_length.1 hr.inputContentRefs, forall_mem_presentIf_size.1 hr.scalarInputs,
        hr.emittedAt⟩
    · rintro ⟨hids, hroles, ht⟩
      refine ⟨ht.changeId, ht.recordedAt, ht.epochId, ht.operationTypeId, ht.beforeRef, ht.afterRef, hids, hroles,
        fun t ht => ?_, targetsMatchBindings_derived _, ht.initiator, ht.involved, ht.authorization, ht.external,
        ht.createdSessionRefs, ht.templateRef, forall_mem_presentIf_length.2 ht.freshLinkRefs,
        forall_mem_presentIf_length.2 ht.inputContentRefs, forall_mem_presentIf_size.2 ht.scalarInputs,
        ht.emittedAt, hheartbeat⟩
      obtain ⟨b, hb, rfl⟩ := List.mem_map.1 ht
      exact hids b hb

end Decode

/-! ## What the committer persists -/

/-- All that the committer makes a change and its recipe of: the admitted intent with its template, epoch
and authorization, and what it draws and reads itself. -/
structure PersistedChange where
  intent : CoordinationIntent
  template : OperationTemplate
  epochId : EpochId
  authorization : List EvidenceRef
  idGen : IdGenerator
  drawn : Nat
  changeId : ChangeId
  recordedAt : Timestamp
  beforeRef : SnapshotRef
  afterRef : SnapshotRef
  involved : List ActorRef

namespace PersistedChange

def recipe (p : PersistedChange) : ReplayRecipe :=
  (replayAuthority (admittedRecipe p.intent p.template p.epochId p.authorization) p.intent.operationTypeId
    p.recordedAt p.idGen p.drawn).1

def change (p : PersistedChange) : CoordinationChange :=
  coordinationChangeFromCommit p.recipe p.changeId p.recordedAt p.beforeRef p.afterRef p.intent.initiator p.involved

/-- What is read of the JSON image of the wire value, where the encoder does not throw. -/
def reload (p : PersistedChange) : Except String (Except ChangeDecodeFailure (CoordinationChange × ReplayRecipe)) :=
  (encodeChangeWithRecipe p.change p.recipe).map fun dto => decodeChangeFromUnknown dto.toJson

def RoundTrips (p : PersistedChange) : Prop := p.reload = .ok (.ok (p.change, p.recipe))

variable (p : PersistedChange)

theorem recipe_eq : ∃ links sessions emittedAt, p.recipe =
    { admittedRecipe p.intent p.template p.epochId p.authorization with
      freshLinkRefs := links, createdSessionRefs := sessions, emittedAt } ∧
    ¬ (p.intent.operationTypeId = "emit_heartbeat" ∧ emittedAt = none) := by
  unfold recipe replayAuthority allocateFreshRefsForRecipe
  dsimp only
  split_ifs with hheartbeat <;>
    first
      | exact ⟨_, _, some p.recordedAt, rfl, by simp⟩
      | exact ⟨_, _, none, rfl, fun h => hheartbeat h.1⟩

theorem recipe_matchBindings : p.recipe.matchBindings = p.intent.matchBindings := by
  obtain ⟨_, _, _, h, _⟩ := p.recipe_eq
  rw [h]
  rfl

theorem recipe_kind : p.recipe.kind = eventKindFromVisibility p.recipe.visibility := by
  obtain ⟨_, _, _, h, _⟩ := p.recipe_eq
  rw [h]
  rfl

theorem encodes : ∃ dto, encodeChangeWithRecipe p.change p.recipe = .ok dto := by
  obtain ⟨links, sessions, emittedAt, h, hheartbeat⟩ := p.recipe_eq
  unfold encodeChangeWithRecipe
  rw [if_neg]
  · exact ⟨_, rfl⟩
  · simp only [change, h]
    exact hheartbeat

end PersistedChange

/-- A persisted change is read back with its recipe exactly when no role is bound twice and no text of it is
empty. -/
theorem change_round_trip (p : PersistedChange) (hids : ∀ b ∈ p.intent.matchBindings, b.id ≠ "") :
    p.RoundTrips ↔ (p.intent.matchBindings.map (·.role)).Nodup ∧ TextsPresent p.change p.recipe := by
  obtain ⟨dto, hencode⟩ := p.encodes
  have hchange : p.change = coordinationChangeFromCommit p.recipe p.changeId p.recordedAt p.beforeRef p.afterRef
      p.intent.initiator p.involved := rfl
  have hreadable := readable_encoded hchange hencode
  rw [p.recipe_matchBindings] at hreadable
  have hdecode := decodeChangeWithRecipe_encoded p.recipe_kind hchange hencode
  have hreload : p.reload = .ok (decodeChangeFromUnknown dto.toJson) := by
    rw [PersistedChange.reload, hencode]
    rfl
  rw [PersistedChange.RoundTrips, hreload, Except.ok.injEq, decodeChangeFromUnknown]
  cases hparse : parseChangeWire dto.toJson with
  | error v =>
      constructor
      · intro h
        cases h
      · intro hpresent
        rw [parseChangeWire_toJson.2 ⟨rfl, hreadable.2 ⟨hids, hpresent⟩⟩] at hparse
        cases hparse
  | ok parsed =>
      obtain ⟨rfl, hr⟩ := parseChangeWire_toJson.1 hparse
      dsimp only
      rw [hdecode]
      exact ⟨fun _ => (hreadable.1 hr).2, fun _ => rfl⟩

/-! ## A session of three -/

def numberedIds : IdGenerator where
  changeId n := "c" ++ toString n
  snapshotRef n := "s" ++ toString n
  linkId n := "l" ++ toString n
  sessionId n := "t" ++ toString n

def openSession (targets : List TargetRef) : PersistedChange where
  intent := coordinationIntent { actorId := "ann", kind := .agent } "create_session"
    (bindingsForCreateSession targets "ann")
  template := createSessionTemplate
  epochId := "e0"
  authorization := []
  idGen := numberedIds
  drawn := 1
  changeId := "c9"
  recordedAt := "2024-01-01T00:00:00.000Z"
  beforeRef := "s0"
  afterRef := "s1"
  involved := [{ actorId := "ann", kind := .agent }]

def withBob : PersistedChange := openSession [⟨.participant, "ann"⟩, ⟨.participant, "bob"⟩]

def withBobAndCho : PersistedChange :=
  openSession [⟨.participant, "ann"⟩, ⟨.participant, "bob"⟩, ⟨.participant, "cho"⟩]

theorem withBob_roundTrips : withBob.RoundTrips :=
  (change_round_trip withBob (by decide +kernel)).2
    ⟨by decide +kernel, by constructor <;> decide +kernel⟩

/-- Both of the others are bound as participants, and the parser refuses the second. -/
theorem withBobAndCho_not_roundTrips : (∀ b ∈ withBobAndCho.intent.matchBindings, b.id ≠ "") ∧
    ¬ withBobAndCho.RoundTrips := by
  have hreload : withBobAndCho.reload = .ok (.error (.violation
      { code := .codecInvalid, message := "duplicate role: participant"
        path := some "change.matchBindings[2].role" })) := by decide +kernel
  constructor
  · decide +kernel
  · rw [PersistedChange.RoundTrips, hreload]
    simp

end Cantilune
