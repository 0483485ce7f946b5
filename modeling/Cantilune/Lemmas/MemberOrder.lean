import Cantilune.Base.Rows
import Cantilune.Codec.StorageWire

/-!
# Values whose members come back in another order

A store that keeps JSON values may list the members of an object in an order of its own. The parsers look members
up by name, so they read the same out of the reordered value; only the scalar inputs of a recipe follow the order.
-/

namespace Cantilune

/-- The values are kept, and the members of objects too, up to their order. -/
structure Json.Reorders (f : Json → Json) : Prop where
  null : f .null = .null
  bool : ∀ b, f (.bool b) = .bool b
  num : ∀ q, f (.num q) = .num q
  str : ∀ s, f (.str s) = .str s
  arr : ∀ xs, f (.arr xs) = .arr (xs.map f)
  obj : ∀ ms, ∃ ns, f (.obj ms) = .obj ns ∧ ns.Perm (ms.map fun m => (m.1, f m.2)) ∧
    ∀ k, ns.lookup k = (ms.lookup k).map f

namespace Json.Reorders

variable {α β ε : Type} {f : Json → Json} {value : Option Json} {record j : Json} {key path message : String}

theorem map_bind (x : Except ε α) (g : α → β) {γ : Type} (k : β → Except ε γ) :
    (x.map g >>= k) = x >>= fun a => k (g a) := by
  cases x <;> rfl

variable (h : Json.Reorders f)

include h

/-! ## Readers -/

theorem get? (k : String) : (f j).get? k = (j.get? k).map f := by
  cases j with
  | null => rw [h.null]; rfl
  | bool b => rw [h.bool]; rfl
  | num q => rw [h.num]; rfl
  | str s => rw [h.str]; rfl
  | arr xs => rw [h.arr]; rfl
  | obj ms =>
      obtain ⟨ns, hns, _, hlookup⟩ := h.obj ms
      rw [hns]
      exact hlookup k

theorem map_cases (value : Option Json) : value.map f = value ∨
    (∃ xs, value = some (.arr xs) ∧ value.map f = some (.arr (xs.map f))) ∨
    ∃ ms ns, value = some (.obj ms) ∧ f (.obj ms) = .obj ns ∧ value.map f = some (.obj ns) := by
  cases value with
  | none => exact .inl rfl
  | some j =>
      cases j with
      | null => exact .inl (congrArg some h.null)
      | bool b => exact .inl (congrArg some (h.bool b))
      | num q => exact .inl (congrArg some (h.num q))
      | str s => exact .inl (congrArg some (h.str s))
      | arr xs => exact .inr (.inl ⟨xs, rfl, congrArg some (h.arr xs)⟩)
      | obj ms =>
          obtain ⟨ns, hns, _⟩ := h.obj ms
          exact .inr (.inr ⟨ms, ns, rfl, hns, congrArg some hns⟩)

theorem requireRecord : requireRecord (value.map f) path message = (requireRecord value path message).map f := by
  rcases h.map_cases value with hsame | ⟨xs, rfl, hmap⟩ | ⟨ms, ns, rfl, hns, hmap⟩
  · rw [hsame]
    cases hrecord : Cantilune.requireRecord value path message with
    | error v => rfl
    | ok record =>
        obtain ⟨members, rfl, rfl⟩ := requireRecord_eq_ok.1 hrecord
        exact congrArg Except.ok (Option.some.inj hsame).symm
  · rw [hmap]
    rfl
  · rw [hmap]
    exact congrArg Except.ok hns.symm

theorem scalar {R : Option Json → β} {b : β} (harr : ∀ xs, R (some (.arr xs)) = b)
    (hobj : ∀ ms, R (some (.obj ms)) = b) : R (value.map f) = R value := by
  rcases h.map_cases value with hsame | ⟨xs, rfl, hmap⟩ | ⟨ms, ns, rfl, _, hmap⟩
  · rw [hsame]
  · rw [hmap, harr, harr]
  · rw [hmap, hobj, hobj]

theorem requireString : requireString (f record) key path = requireString record key path := by
  unfold Cantilune.requireString
  rw [h.get?]
  rcases h.map_cases (record.get? key) with hsame | ⟨xs, hkey, hmap⟩ | ⟨ms, ns, hkey, _, hmap⟩
  · rw [hsame]
  · rw [hmap, hkey]
  · rw [hmap, hkey]

theorem parseName {all : List α} {name : α → String} :
    parseName all name (value.map f) path message = parseName all name value path message :=
  h.scalar (R := fun value => Cantilune.parseName all name value path message) (fun _ => rfl) fun _ => rfl

theorem parseText : parseText message (value.map f) path = parseText message value path :=
  h.scalar (R := fun value => Cantilune.parseText message value path) (fun _ => rfl) fun _ => rfl

theorem parseOptionalText : parseOptionalText message (value.map f) path = parseOptionalText message value path :=
  h.scalar (R := fun value => Cantilune.parseOptionalText message value path) (fun _ => rfl) fun _ => rfl

theorem parseNonEmptyString : parseNonEmptyString (value.map f) path = parseNonEmptyString value path :=
  h.scalar (R := fun value => Cantilune.parseNonEmptyString value path) (fun _ => rfl) fun _ => rfl

theorem parseNumber : parseNumber message (value.map f) path = parseNumber message value path :=
  h.scalar (R := fun value => Cantilune.parseNumber message value path) (fun _ => rfl) fun _ => rfl

theorem parseNat : parseNat (value.map f) path message = parseNat value path message :=
  h.scalar (R := fun value => Cantilune.parseNat value path message) (fun _ => rfl) fun _ => rfl

omit h in
theorem parseItems {item : Option Json → String → CodecParse α}
    (hitem : ∀ value path, item (value.map f) path = item value path) {index : Nat} {values : List Json} :
    parseItems item path index (values.map f) = parseItems item path index values := by
  induction values generalizing index with
  | nil => rfl
  | cons j values ih =>
      have hj := hitem (some j) s!"{path}[{index}]"
      rw [Option.map_some] at hj
      rw [List.map_cons, Cantilune.parseItems, Cantilune.parseItems, hj, ih]

theorem parseArrayOf {item : Option Json → String → CodecParse α}
    (hitem : ∀ value path, item (value.map f) path = item value path) :
    parseArrayOf message item (value.map f) path = parseArrayOf message item value path := by
  rcases h.map_cases value with hsame | ⟨xs, rfl, hmap⟩ | ⟨ms, ns, rfl, _, hmap⟩
  · rw [hsame]
  · rw [hmap]
    exact parseItems hitem
  · rw [hmap]
    rfl

theorem parseEntityArray {item : Option Json → String → CodecParse α}
    (hitem : ∀ value path, item (value.map f) path = item value path) :
    parseEntityArray (value.map f) path item = parseEntityArray value path item :=
  h.parseArrayOf hitem

theorem parseStringArray : parseStringArray (value.map f) path = parseStringArray value path :=
  h.parseArrayOf fun _ _ => h.parseNonEmptyString

omit h in
theorem parseOptional {read : Option Json → String → CodecParse α}
    (hread : ∀ value path, read (value.map f) path = read value path) :
    parseOptional read (value.map f) path = parseOptional read value path := by
  cases value with
  | none => rfl
  | some j =>
      have hj := hread (some j) path
      rw [Option.map_some] at hj
      rw [Option.map_some, Cantilune.parseOptional, Cantilune.parseOptional, hj]

theorem orEmptyArray : orEmptyArray (value.map f) = (orEmptyArray value).map f := by
  have hempty : (some (Json.arr [])).map f = some (.arr []) := congrArg some (h.arr [])
  rcases h.map_cases value with hsame | ⟨xs, rfl, hmap⟩ | ⟨ms, ns, rfl, _, hmap⟩
  · rw [hsame]
    cases value with
    | none => exact hempty.symm
    | some j =>
        cases j with
        | null => exact hempty.symm
        | _ => exact hsame.symm
  · rw [hmap]
    exact hmap.symm
  · rw [hmap]
    exact hmap.symm

/-! ## References and entities -/

theorem parseActorRef : parseActorRef (value.map f) path = parseActorRef value path := by
  simp only [Cantilune.parseActorRef, h.requireRecord, map_bind, h.requireString, h.get?, h.parseName]

theorem parseEvidence : parseEvidence (value.map f) path = parseEvidence value path := by
  simp only [Cantilune.parseEvidence, h.requireRecord, map_bind, h.requireString, h.get?, h.parseName]

theorem parseEvidenceArray : parseEvidenceArray (value.map f) path = parseEvidenceArray value path :=
  h.parseArrayOf fun _ _ => h.parseEvidence

theorem parseParticipantWire : parseParticipantWire (value.map f) path = parseParticipantWire value path := by
  simp only [Cantilune.parseParticipantWire, h.requireRecord, map_bind, h.requireString, h.get?, h.parseName,
    h.parseOptionalText]

theorem parseWorkArtifactWire : parseWorkArtifactWire (value.map f) path = parseWorkArtifactWire value path := by
  simp only [Cantilune.parseWorkArtifactWire, h.requireRecord, map_bind, h.requireString, h.get?, h.parseName,
    h.parseActorRef]

theorem parseLinkEndpointWire : parseLinkEndpointWire (value.map f) path = parseLinkEndpointWire value path := by
  simp only [Cantilune.parseLinkEndpointWire, h.requireRecord, map_bind, h.requireString, h.get?]
  refine bind_congr fun record => ?_
  rcases h.map_cases (record.get? "kind") with hsame | ⟨xs, hkind, hmap⟩ | ⟨ms, ns, hkind, _, hmap⟩
  · rw [hsame]
  · rw [hmap, hkind]
  · rw [hmap, hkind]

theorem parseCollaborationLinkWire :
    parseCollaborationLinkWire (value.map f) path = parseCollaborationLinkWire value path := by
  simp only [Cantilune.parseCollaborationLinkWire, h.requireRecord, map_bind, h.requireString, h.get?, h.parseName,
    h.parseLinkEndpointWire]

theorem parseCommunicationSessionWire :
    parseCommunicationSessionWire (value.map f) path = parseCommunicationSessionWire value path := by
  simp only [Cantilune.parseCommunicationSessionWire, h.requireRecord, map_bind, h.requireString, h.get?,
    h.parseName, h.parseStringArray]

theorem parseCapabilityScope : parseCapabilityScope (value.map f) path = parseCapabilityScope value path := by
  simp only [Cantilune.parseCapabilityScope, h.requireRecord, map_bind, h.requireString, h.get?]
  refine bind_congr fun record => ?_
  rcases h.map_cases (record.get? "kind") with hsame | ⟨xs, hkind, hmap⟩ | ⟨ms, ns, hkind, _, hmap⟩
  · rw [hsame]
  · rw [hmap, hkind]
  · rw [hmap, hkind]

theorem parseScopedCapabilityWire :
    parseScopedCapabilityWire (value.map f) path = parseScopedCapabilityWire value path := by
  simp only [Cantilune.parseScopedCapabilityWire, h.requireRecord, map_bind, h.requireString, h.get?, h.parseName,
    h.parseCapabilityScope]

theorem parseObservationEntryWire :
    parseObservationEntryWire (value.map f) path = parseObservationEntryWire value path := by
  simp only [Cantilune.parseObservationEntryWire, h.requireRecord, map_bind, h.requireString, h.get?, h.parseNat,
    h.parseActorRef]

theorem parseHeartbeatEntryWire :
    parseHeartbeatEntryWire (value.map f) path = parseHeartbeatEntryWire value path := by
  simp only [Cantilune.parseHeartbeatEntryWire, h.requireRecord, map_bind, h.requireString, h.get?, h.parseNat]

theorem parseEntityTombstoneWire :
    parseEntityTombstoneWire (value.map f) path = parseEntityTombstoneWire value path := by
  simp only [Cantilune.parseEntityTombstoneWire, h.requireRecord, map_bind, h.requireString, h.get?, h.parseName,
    parseOptional fun _ _ => h.parseText]

theorem parseNamespaceWire : parseNamespaceWire (value.map f) path = parseNamespaceWire value path := by
  simp only [Cantilune.parseNamespaceWire, h.requireRecord, map_bind, h.requireString, h.get?, h.orEmptyArray,
    h.parseStringArray]

theorem parseTranscriptAccessRequestWire :
    parseTranscriptAccessRequestWire (value.map f) path = parseTranscriptAccessRequestWire value path := by
  simp only [Cantilune.parseTranscriptAccessRequestWire, h.requireRecord, map_bind, h.requireString, h.get?,
    h.parseName, h.parseActorRef, parseOptional fun _ _ => h.parseActorRef]

theorem parseTranscriptToolCall :
    parseTranscriptToolCall (value.map f) path = parseTranscriptToolCall value path := by
  simp only [Cantilune.parseTranscriptToolCall, h.requireRecord, map_bind, h.requireString, h.get?, h.parseText]

theorem parseTranscriptToolCalls :
    parseTranscriptToolCalls (value.map f) path = parseTranscriptToolCalls value path :=
  parseOptional fun _ _ => h.parseArrayOf fun _ _ => h.parseTranscriptToolCall

theorem parseTranscriptMessageWire :
    parseTranscriptMessageWire (value.map f) path = parseTranscriptMessageWire value path := by
  simp only [Cantilune.parseTranscriptMessageWire, Cantilune.parseTranscriptRow, h.requireRecord, map_bind,
    h.requireString, h.get?, h.parseText, h.parseTranscriptToolCalls]

theorem parseTranscriptWire : parseTranscriptWire (value.map f) path = parseTranscriptWire value path := by
  simp only [Cantilune.parseTranscriptWire, h.requireRecord, map_bind, h.requireString, h.get?, h.parseNat,
    h.parseEntityArray fun _ _ => h.parseTranscriptMessageWire]

/-! ## Snapshots -/

omit h in
theorem bind_map {γ : Type} (x : Except ε α) (g : β → γ) (k : α → Except ε β) :
    (x >>= k).map g = x >>= fun a => (k a).map g := by
  cases x <;> rfl

theorem parsePolicyContextWire :
    parsePolicyContextWire (value.map f) path = (parsePolicyContextWire value path).map f := by
  simp only [Cantilune.parsePolicyContextWire, h.requireRecord, map_bind, h.get?, bind_map]
  refine bind_congr fun record => bind_congr fun approval => bind_congr fun retry => ?_
  rcases h.map_cases (approval.get? "kind") with hsame | ⟨xs, hkind, hmap⟩ | ⟨ms, ns, hkind, _, hmap⟩
  · rw [hsame]
    generalize approval.get? "kind" = kind
    rcases h.map_cases (retry.get? "kind") with hsame' | ⟨xs, hkind', hmap'⟩ | ⟨ms, ns, hkind', _, hmap'⟩
    · rw [hsame']
      split <;> rfl
    · rw [hmap', hkind']
      rcases kind with _ | kind
      · rfl
      · cases kind <;> rfl
    · rw [hmap', hkind']
      rcases kind with _ | kind
      · rfl
      · cases kind <;> rfl
  · rw [hmap, hkind]
    rfl
  · rw [hmap, hkind]
    rfl

theorem str?_map : (value.map f).bind Json.str? = value.bind Json.str? :=
  h.scalar (R := fun value => value.bind Json.str?) (fun _ => rfl) fun _ => rfl

theorem stringsOf? (xs : List Json) : stringsOf? (xs.map f) = stringsOf? xs := by
  induction xs with
  | nil => rfl
  | cons x xs ih =>
      rw [List.map_cons]
      rcases h.map_cases (some x) with hsame | ⟨xs, hx, hmap⟩ | ⟨ms, ns, hx, _, hmap⟩
      · rw [Option.some.inj hsame]
        cases x <;> simp [Cantilune.stringsOf?, ih]
      · rw [Option.some.inj hmap, Option.some.inj hx]
        rfl
      · rw [Option.some.inj hmap, Option.some.inj hx]
        rfl

theorem approvalStateOf? : approvalStateOf? (f j) = approvalStateOf? j := by
  simp only [Cantilune.approvalStateOf?, h.get?, h.str?_map]
  rcases h.map_cases (j.get? "kind") with hsame | ⟨xs, hkind, hmap⟩ | ⟨ms, ns, hkind, _, hmap⟩
  · rw [hsame]
    rcases h.map_cases (j.get? "reviewers") with hsame' | ⟨xs, hlist, hmap'⟩ | ⟨ms, ns, hlist, _, hmap'⟩
    · rw [hsame']
    · rw [hmap', hlist]
      simp only [h.stringsOf?]
    · rw [hmap', hlist]
  · rw [hmap, hkind]
  · rw [hmap, hkind]

theorem retryStateOf? : retryStateOf? (f j) = retryStateOf? j := by
  simp only [Cantilune.retryStateOf?, h.get?]
  rcases h.map_cases (j.get? "kind") with hsame | ⟨xs, hkind, hmap⟩ | ⟨ms, ns, hkind, _, hmap⟩
  · rw [hsame]
    rcases h.map_cases (j.get? "attempt") with hsame' | ⟨xs, hattempt, hmap'⟩ | ⟨ms, ns, hattempt, _, hmap'⟩
    · rw [hsame']
    · rw [hmap', hattempt]
    · rw [hmap', hattempt]
  · rw [hmap, hkind]
  · rw [hmap, hkind]

theorem clonePolicyContext? : clonePolicyContext? (f j) = clonePolicyContext? j := by
  simp only [Cantilune.clonePolicyContext?, h.get?, Option.bind_map, Function.comp_def, h.approvalStateOf?,
    h.retryStateOf?]

theorem parseSnapshotWire : parseSnapshotWire (f j) =
    (parseSnapshotWire j).map fun dto => { dto with policyContext := f dto.policyContext } := by
  have hj : some (f j) = (some j).map f := rfl
  simp only [Cantilune.parseSnapshotWire, hj, h.requireRecord, map_bind, h.requireString, h.get?, h.orEmptyArray,
    h.parseEntityArray fun _ _ => h.parseParticipantWire, h.parseEntityArray fun _ _ => h.parseWorkArtifactWire,
    h.parseEntityArray fun _ _ => h.parseCollaborationLinkWire,
    h.parseEntityArray fun _ _ => h.parseCommunicationSessionWire,
    h.parseEntityArray fun _ _ => h.parseScopedCapabilityWire,
    h.parseEntityArray fun _ _ => h.parseObservationEntryWire,
    h.parseEntityArray fun _ _ => h.parseEntityTombstoneWire, h.parsePolicyContextWire,
    h.parseEntityArray fun _ _ => h.parseHeartbeatEntryWire, h.parseEntityArray fun _ _ => h.parseNamespaceWire,
    h.parseEntityArray fun _ _ => h.parseTranscriptWire,
    h.parseEntityArray fun _ _ => h.parseTranscriptAccessRequestWire, bind_map]
  rfl

theorem decodeSnapshotFromUnknown : decodeSnapshotFromUnknown (f j) = decodeSnapshotFromUnknown j := by
  rw [Cantilune.decodeSnapshotFromUnknown, h.parseSnapshotWire, Cantilune.decodeSnapshotFromUnknown]
  cases Cantilune.parseSnapshotWire j with
  | error v => rfl
  | ok dto =>
      change decodeSnapshot _ = decodeSnapshot dto
      simp only [decodeSnapshot, h.clonePolicyContext?]

theorem requireNumber : requireNumber (f record) key path = requireNumber record key path := by
  simp only [Cantilune.requireNumber, h.get?, h.parseNat]

theorem parseSchemaBindingWire : parseSchemaBindingWire (f j) = parseSchemaBindingWire j := by
  have hj : some (f j) = (some j).map f := rfl
  simp only [Cantilune.parseSchemaBindingWire, hj, h.requireRecord, map_bind, h.requireString, h.get?,
    h.requireNumber]
  refine bind_congr fun record => ?_
  iterate 8 refine bind_congr fun _ => ?_
  cases record.get? "previousBindingGeneration" <;> rfl

/-! ## Changes -/

theorem parseMatchBinding : parseMatchBinding (value.map f) path = parseMatchBinding value path := by
  simp only [Cantilune.parseMatchBinding, h.requireRecord, map_bind, h.requireString]

theorem parseTarget : parseTarget (value.map f) path = parseTarget value path := by
  simp only [Cantilune.parseTarget, h.requireRecord, map_bind, h.requireString]

theorem parseMatchBindings {index : Nat} {seenRoles : List MatchBindingRole} {values : List Json} :
    parseMatchBindings index seenRoles (values.map f) = parseMatchBindings index seenRoles values := by
  induction values generalizing index seenRoles with
  | nil => rfl
  | cons j values ih =>
      have hj : some (f j) = (some j).map f := rfl
      rw [List.map_cons, Cantilune.parseMatchBindings, Cantilune.parseMatchBindings, hj, h.parseMatchBinding]
      simp only [ih]

theorem parseChangeMatchBindingsSection :
    parseChangeMatchBindingsSection (f j) = parseChangeMatchBindingsSection j := by
  simp only [Cantilune.parseChangeMatchBindingsSection, h.get?]
  rcases h.map_cases (j.get? "matchBindings") with hsame | ⟨xs, hlist, hmap⟩ | ⟨ms, ns, hlist, _, hmap⟩
  · rw [hsame]
    simp only [h.parseArrayOf fun _ _ => h.parseTarget]
  · rw [hmap, hlist]
    simp only [h.parseMatchBindings, h.parseArrayOf fun _ _ => h.parseTarget]
  · rw [hmap, hlist]

theorem parseTemplateRef : parseTemplateRef (value.map f) path = parseTemplateRef value path := by
  simp only [Cantilune.parseTemplateRef, h.requireRecord, map_bind, h.requireString]

theorem parseMatchWitnessField : parseMatchWitnessField (value.map f) = parseMatchWitnessField value := by
  cases value with
  | none => rfl
  | some j =>
      have hj : some (f j) = (some j).map f := rfl
      rw [Option.map_some, Cantilune.parseMatchWitnessField, Cantilune.parseMatchWitnessField]
      simp only [hj, h.requireRecord, map_bind, h.get?, h.parseNumber, h.parseArrayOf fun _ _ => h.parseNumber]

theorem scalarFromWire : scalarFromWire (f j) = scalarFromWire j := by
  have hread := @scalar _ f (some j) h (fun value => value.bind Cantilune.scalarFromWire) none (fun _ => rfl)
    fun _ => rfl
  exact hread

theorem parseScalarEntries_map {members : List (String × Json)} :
    parseScalarEntries path (members.map fun m => (m.1, f m.2)) = parseScalarEntries path members := by
  induction members with
  | nil => rfl
  | cons m members ih =>
      obtain ⟨name, scalar⟩ := m
      simp only [List.map_cons, parseScalarEntries, h.scalarFromWire, ih]

omit h in
theorem parseScalarEntries_perm {ms ns : List (String × Json)} (hp : ms.Perm ns)
    {entries : List (String × OperationScalarValue)} (hms : parseScalarEntries path ms = .ok entries) :
    ∃ entries', parseScalarEntries path ns = .ok entries' := by
  have hok : ∀ ls : List (String × Json), (∃ es, parseScalarEntries path ls = .ok es) ↔
      ∀ m ∈ ls, m.1 ≠ "" ∧ Cantilune.scalarFromWire m.2 ≠ none := by
    intro ls
    induction ls with
    | nil => simp [parseScalarEntries]
    | cons m ls ih =>
        obtain ⟨name, scalar⟩ := m
        rw [List.forall_mem_cons, ← ih, parseScalarEntries]
        by_cases hname : name = ""
        · simp [hname]
        · cases Cantilune.scalarFromWire scalar with
          | none => simp [hname]
          | some value => simp [hname, Outcome.bind_eq_ok]
  exact (hok ns).2 fun m hm => (hok ms).1 ⟨_, hms⟩ m (hp.mem_iff.2 hm)

theorem parseScalarInputs {inputs : OperationScalarInputs} (hvalue : parseScalarInputs value path = .ok inputs) :
    ∃ inputs', parseScalarInputs (value.map f) path = .ok inputs' := by
  rcases h.map_cases value with hsame | ⟨xs, rfl, hmap⟩ | ⟨ms, ns, rfl, hns, hmap⟩
  · rw [hsame]
    exact ⟨_, hvalue⟩
  · cases hvalue
  · obtain ⟨ns', hns', hperm, _⟩ := h.obj ms
    cases hns.symm.trans hns'
    obtain ⟨entries, hentries, _⟩ := Outcome.bind_eq_ok.1 hvalue
    rw [← h.parseScalarEntries_map] at hentries
    obtain ⟨entries', hentries'⟩ := parseScalarEntries_perm hperm.symm hentries
    rw [hmap]
    exact ⟨_, Outcome.bind_eq_ok.2 ⟨entries', hentries', rfl⟩⟩

/-- What succeeds on the one side succeeds on the other, with a related result. -/
def Carries (R : α → β → Prop) (x : Except ε α) (y : Except ε β) : Prop := ∀ a, x = .ok a → ∃ b, y = .ok b ∧ R a b

omit h in
theorem Carries.bind {α' β' : Type} {Q : α' → β' → Prop} {R : α → β → Prop} {x : Except ε α'} {y : Except ε β'}
    {k : α' → Except ε α} {l : β' → Except ε β} (hx : Carries Q x y) (hk : ∀ a b, Q a b → Carries R (k a) (l b)) :
    Carries R (x >>= k) (y >>= l) := by
  intro c hc
  cases hxa : x with
  | error e =>
      rw [hxa] at hc
      cases hc
  | ok a =>
      rw [hxa] at hc
      obtain ⟨b, hb, hq⟩ := hx a hxa
      obtain ⟨d, hd, hr⟩ := hk a b hq c hc
      exact ⟨d, by rw [hb]; exact hd, hr⟩

omit h in
theorem Carries.same {α' : Type} {R : α → β → Prop} {x : Except ε α'} {k : α' → Except ε α} {l : α' → Except ε β}
    (hk : ∀ a, Carries R (k a) (l a)) : Carries R (x >>= k) (x >>= l) :=
  Carries.bind (Q := Eq) (fun a ha => ⟨a, ha, rfl⟩) (by rintro a _ rfl; exact hk a)

theorem parseChangeWire : Carries (fun dto dto' => ∃ inputs, dto' = { dto with scalarInputs := inputs })
    (parseChangeWire j) (parseChangeWire (f j)) := by
  have hj : some (f j) = (some j).map f := rfl
  have hinputs : ∀ value, Carries (fun _ _ => True)
      (Cantilune.parseOptional Cantilune.parseScalarInputs value "change.scalarInputs")
      (Cantilune.parseOptional Cantilune.parseScalarInputs (value.map f) "change.scalarInputs") := by
    intro value inputs hvalue
    cases value with
    | none => exact ⟨none, rfl, trivial⟩
    | some v =>
        rcases parseOptional_eq_ok.1 hvalue with ⟨hnone, _⟩ | ⟨w, x, hw, hx, rfl⟩
        · cases hnone
        · cases hw
          obtain ⟨inputs', hinputs'⟩ := h.parseScalarInputs hx
          exact ⟨some inputs', parseOptional_eq_ok.2 (.inr ⟨_, _, rfl, hinputs', rfl⟩), trivial⟩
  simp only [Cantilune.parseChangeWire, hj, h.requireRecord, map_bind, h.requireString, h.get?, h.parseActorRef,
    h.parseChangeMatchBindingsSection, h.parseArrayOf fun _ _ => h.parseActorRef, h.parseEvidenceArray,
    h.parseStringArray, h.parseName, parseOptional fun _ _ => h.parseTemplateRef, h.parseMatchWitnessField,
    parseOptional fun _ _ => h.parseNumber, parseOptional fun _ _ => h.parseStringArray,
    parseOptional fun _ _ => h.parseNonEmptyString]
  refine .same fun input => ?_
  iterate 6 refine .same fun _ => ?_
  refine .same fun section_ => ?_
  obtain ⟨matchBindings, targets⟩ := section_
  iterate 11 refine .same fun _ => ?_
  refine .bind (hinputs _) fun inputs inputs' _ => ?_
  refine .same fun emittedAt dto hdto => ?_
  split at hdto
  · cases hdto
  · rename_i hok
    cases hdto
    rw [if_neg hok]
    exact ⟨_, rfl, inputs', rfl⟩

theorem decodeChangeFromUnknown {change : CoordinationChange} {recipe : ReplayRecipe}
    (hj : decodeChangeFromUnknown j = .ok (change, recipe)) :
    ∃ recipe', decodeChangeFromUnknown (f j) = .ok (change, recipe') := by
  unfold Cantilune.decodeChangeFromUnknown at hj ⊢
  cases hparse : Cantilune.parseChangeWire j with
  | error v =>
      rw [hparse] at hj
      cases hj
  | ok dto =>
      rw [hparse] at hj
      obtain ⟨_, hparse', inputs, rfl⟩ := h.parseChangeWire dto hparse
      rw [hparse']
      simp only [decodeChangeWithRecipe] at hj ⊢
      split at hj
      · cases hj
      · rename_i hdecode
        split at hdecode
        · cases hdecode
        · rename_i htargets
          split at hdecode
          · cases hdecode
          · rename_i hemitted
            cases hdecode
            cases hj
            rw [if_neg htargets, if_neg hemitted]
            exact ⟨_, rfl⟩

end Json.Reorders

/-! ## Recipes -/

def SameRecipe (found put : ReplayRecipe) : Prop :=
  ∃ inputs, found = { put with scalarInputs := inputs } ∧ ∀ name, inputs.get? name = put.scalarInputs.get? name

theorem SameRecipe.snapshotReplayRecipe {found put : ReplayRecipe} (h : SameRecipe found put) :
    SameRecipe (snapshotReplayRecipe found) (snapshotReplayRecipe put) := by
  obtain ⟨inputs, rfl, hinputs⟩ := h
  refine ⟨snapshotScalarInputs inputs, rfl, fun name => ?_⟩
  simp only [Cantilune.snapshotReplayRecipe, snapshotScalarInputs, OrdMap.get?_filterKeys, hinputs]

namespace StoredRecipe

variable {α : Type} {f : Json → Json} {value : Option Json} {j : Json} (h : Json.Reorders f)

include h

theorem text_map : text (value.map f) = text value := h.str?_map

theorem number_map : number (value.map f) = number value :=
  h.scalar (R := fun value => number value) (fun _ => rfl) fun _ => rfl

theorem name_map {all : List α} {nameOf : α → String} : name all nameOf (value.map f) = name all nameOf value := by
  simp only [name, text_map h]

theorem items_map {item : Json → Option α} (hitem : ∀ j, item (f j) = item j) :
    items item (value.map f) = items item value := by
  rcases h.map_cases value with hsame | ⟨xs, rfl, hmap⟩ | ⟨ms, ns, rfl, _, hmap⟩
  · rw [hsame]
  · have hsame : item ∘ f = item := funext hitem
    rw [hmap]
    simp only [items, List.mapM_map, hsame]
  · rw [hmap]
    rfl

omit h in
theorem optional_map {read : Option Json → Option α} (hread : ∀ value, read (value.map f) = read value) :
    optional read (value.map f) = optional read value := by
  cases value with
  | none => rfl
  | some j =>
      have hj := hread (some j)
      rw [Option.map_some] at hj
      rw [Option.map_some, optional, optional, hj]

theorem str?_eq : (f j).str? = j.str? := by
  have hread := @text_map f (some j) h
  exact hread

theorem templateRef_map : templateRef (value.map f) = templateRef value := by
  cases value with
  | none => rfl
  | some j => simp only [templateRef, Option.map_some, h.get?, text_map h, Option.bind_eq_bind, Option.bind_some]

theorem binding_eq : binding (f j) = binding j := by
  simp only [binding, h.get?, name_map h, text_map h]

theorem witness_map : witness (value.map f) = witness value := by
  cases value with
  | none => rfl
  | some j =>
      have hitems : ∀ value, items (fun v => number (some v)) (value.map f) = items (fun v => number (some v)) value :=
        fun value => items_map h fun j => @number_map f (some j) h
      simp only [witness, Option.map_some, h.get?, number_map h, hitems, Option.bind_eq_bind, Option.bind_some]

theorem evidence_eq : evidence (f j) = evidence j := by
  simp only [evidence, h.get?, name_map h, text_map h]

theorem scalar_eq : scalar (f j) = scalar j := by
  have hread := @Json.Reorders.scalar _ f (some j) h (fun value => value.bind scalar) none (fun _ => rfl)
    fun _ => rfl
  exact hread

theorem scalarInputs_map {inputs inputs' : OperationScalarInputs}
    (hread : scalarInputs (some (scalarInputsToJson inputs)) = some inputs') :
    ∃ found, scalarInputs ((some (scalarInputsToJson inputs)).map f) = some found ∧
      ∀ name, found.get? name = inputs'.get? name := by
  obtain ⟨ns, hns, hperm, _⟩ := h.obj (inputs.entries.map fun e => (e.1, e.2.toJson))
  obtain ⟨es, hes, rfl⟩ := Option.map_eq_some_iff.1 hread
  have hkeys : es.map Prod.fst = inputs.entries.map Prod.fst := by
    rw [keys_of_mapM (fun m e he => ?_) hes, List.map_map]
    · rfl
    · obtain ⟨_, _, rfl⟩ := Option.map_eq_some_iff.1 he
      rfl
  have hread' : (inputs.entries.map fun e => (e.1, f e.2.toJson)).mapM
      (fun m : String × Json => (scalar m.2).map fun v => (m.1, v)) = some es := by
    rw [List.mapM_map] at hes ⊢
    simpa only [Function.comp_def, scalar_eq h] using hes
  rw [List.map_map] at hperm
  obtain ⟨es', hes', hperm'⟩ := mapM_perm hperm.symm hread'
  have hnodup : (es.map Prod.fst).Nodup := by
    rw [hkeys]
    exact inputs.nodupKeys
  have hnodup' : (es'.map Prod.fst).Nodup := (hperm'.map Prod.fst).nodup_iff.1 hnodup
  refine ⟨.ofList es', ?_, fun name => ?_⟩
  · change scalarInputs (some (f (.obj _))) = _
    rw [hns]
    exact Option.map_eq_some_iff.2 ⟨es', hes', rfl⟩
  · rw [OrdMap.get?, OrdMap.get?, OrdMap.entries_ofList hnodup, OrdMap.entries_ofList hnodup']
    ext v
    rw [← Entries.mem_iff_lookup hnodup, ← Entries.mem_iff_lookup hnodup', hperm'.mem_iff]

omit h in
theorem carries_bind {β γ δ : Type} {x : Option β} {k : β → Option γ} {l : β → Option δ} {R : γ → δ → Prop}
    (hk : ∀ b c, k b = some c → ∃ d, l b = some d ∧ R c d) (c : γ) (hc : x.bind k = some c) :
    ∃ d, x.bind l = some d ∧ R c d := by
  obtain ⟨b, rfl, hb⟩ := Option.bind_eq_some_iff.1 hc
  exact hk b c hb

theorem fromJson_reordered {recipe : ReplayRecipe} : ∀ read, fromJson (toJson recipe) = some read →
    ∃ found, fromJson (f (toJson recipe)) = some found ∧ SameRecipe found read := by
  have hinputs : (toJson recipe).get? "scalarInputs" = some (scalarInputsToJson recipe.scalarInputs) := by
    simp [toJson]
  have htemplate : ∀ value, optional templateRef (value.map f) = optional templateRef value :=
    fun _ => optional_map fun _ => templateRef_map h
  have hemitted : ∀ value, optional text (value.map f) = optional text value :=
    fun _ => optional_map fun _ => text_map h
  unfold fromJson
  simp only [h.get?, hinputs, text_map h, number_map h, name_map h, htemplate, hemitted, witness_map h,
    items_map h fun _ => binding_eq h, items_map h fun _ => evidence_eq h, items_map h fun _ => str?_eq h]
  iterate 12 refine carries_bind fun _ => ?_
  intro read hrest
  obtain ⟨inputs, hscalar, hread⟩ := Option.bind_eq_some_iff.1 hrest
  obtain ⟨found, hfound, hsame⟩ := scalarInputs_map h hscalar
  rw [hfound, Option.bind_eq_bind, Option.bind_some]
  clear hrest
  revert read
  iterate 2 refine carries_bind fun _ => ?_
  rintro read ⟨⟩
  exact ⟨_, rfl, found, rfl, hsame⟩

end StoredRecipe

/-! ## Members sorted by the length of their names -/

def nameBefore (a b : String × Json) : Prop :=
  a.1.utf8ByteSize < b.1.utf8ByteSize ∨ a.1.utf8ByteSize = b.1.utf8ByteSize ∧ a.1 ≤ b.1

instance : DecidableRel nameBefore := fun a b => by unfold nameBefore; infer_instance

mutual
def byNameLength : Json → Json
  | .arr xs => .arr (byNameLengthList xs)
  | .obj ms => .obj ((byNameLengthMembers ms).insertionSort nameBefore)
  | j => j

def byNameLengthList : List Json → List Json
  | [] => []
  | x :: xs => byNameLength x :: byNameLengthList xs

def byNameLengthMembers : List (String × Json) → List (String × Json)
  | [] => []
  | (k, x) :: xs => (k, byNameLength x) :: byNameLengthMembers xs
end

theorem byNameLengthList_eq_map (xs : List Json) : byNameLengthList xs = xs.map byNameLength := by
  induction xs with
  | nil => rfl
  | cons x xs ih => rw [byNameLengthList, ih, List.map_cons]

theorem byNameLengthMembers_eq_map (ms : List (String × Json)) :
    byNameLengthMembers ms = ms.map fun m => (m.1, byNameLength m.2) := by
  induction ms with
  | nil => rfl
  | cons m ms ih =>
      obtain ⟨k, x⟩ := m
      rw [byNameLengthMembers, ih, List.map_cons]

theorem lookup_orderedInsert (m : String × Json) (ms : List (String × Json)) (k : String) :
    (ms.orderedInsert nameBefore m).lookup k = (m :: ms).lookup k := by
  induction ms with
  | nil => rfl
  | cons n ms ih =>
      rw [List.orderedInsert_cons]
      split
      · rfl
      · rename_i hbefore
        have hne : m.1 ≠ n.1 := by
          intro heq
          exact hbefore (.inr ⟨heq ▸ rfl, heq ▸ String.le_refl m.1⟩)
        obtain ⟨a, x⟩ := m
        obtain ⟨b, y⟩ := n
        rw [List.lookup_cons, ih, List.lookup_cons, List.lookup_cons, List.lookup_cons]
        by_cases hk : k = b
        · subst hk
          have hother : (k == a) = false := beq_false_of_ne fun heq => hne heq.symm
          simp only [hother, beq_self_eq_true]
        · simp only [beq_false_of_ne hk]

theorem lookup_insertionSort (ms : List (String × Json)) (k : String) :
    (ms.insertionSort nameBefore).lookup k = ms.lookup k := by
  induction ms with
  | nil => rfl
  | cons m ms ih =>
      obtain ⟨a, x⟩ := m
      rw [List.insertionSort_cons, lookup_orderedInsert, List.lookup_cons, List.lookup_cons, ih]

theorem byNameLength_reorders : Json.Reorders byNameLength where
  null := by rw [byNameLength.eq_def]
  bool b := by rw [byNameLength.eq_def]
  num q := by rw [byNameLength.eq_def]
  str s := by rw [byNameLength.eq_def]
  arr xs := by
    rw [byNameLength.eq_def]
    simp only [byNameLengthList_eq_map]
  obj ms := by
    refine ⟨_, by rw [byNameLength.eq_def], ?_, fun k => ?_⟩
    · rw [byNameLengthMembers_eq_map]
      exact List.perm_insertionSort _ _
    · rw [lookup_insertionSort, byNameLengthMembers_eq_map, OrdMap.lookup_mapValues]

end Cantilune
