import Cantilune.Conformance.RecipeChain

/-!
# What the digest of a chain of recipes binds

The portable copy of a recipe has neither its scalar inputs nor its instant of emission, both of which replay uses.
So two chains of one digest have the same changes, and recipes that agree in everything else that replay uses; they
agree in these two exactly where chains that are otherwise alike do.
-/

namespace Cantilune.Conformance

/-! ## What replay uses, and what is copied -/

/-- The recipes agree in the fields that replay uses. -/
structure ReplaysAlike (recipe recipe' : ReplayRecipe) : Prop where
  epochId : recipe.epochId = recipe'.epochId
  operationTypeId : recipe.operationTypeId = recipe'.operationTypeId
  templateRef : recipe.templateRef = recipe'.templateRef
  matchBindings : recipe.matchBindings = recipe'.matchBindings
  matchWitness : recipe.matchWitness = recipe'.matchWitness
  createdSessionRefs : recipe.createdSessionRefs = recipe'.createdSessionRefs
  freshLinkRefs : recipe.freshLinkRefs = recipe'.freshLinkRefs
  inputContentRefs : recipe.inputContentRefs = recipe'.inputContentRefs
  scalarInputs : recipe.scalarInputs.Equiv recipe'.scalarInputs
  emittedAt : recipe.emittedAt = recipe'.emittedAt

/-- The recipes agree in what is copied of them: of evidence only how many references there are. -/
structure CopiedAlike (recipe recipe' : ReplayRecipe) : Prop where
  epochId : recipe.epochId = recipe'.epochId
  operationTypeId : recipe.operationTypeId = recipe'.operationTypeId
  templateRef : recipe.templateRef = recipe'.templateRef
  matchBindings : recipe.matchBindings = recipe'.matchBindings
  matchWitness : recipe.matchWitness = recipe'.matchWitness
  complementTag : recipe.complementTag = recipe'.complementTag
  kind : recipe.kind = recipe'.kind
  authorization : recipe.authorization.length = recipe'.authorization.length
  external : recipe.external.length = recipe'.external.length
  createdSessionRefs : recipe.createdSessionRefs = recipe'.createdSessionRefs
  freshLinkRefs : recipe.freshLinkRefs = recipe'.freshLinkRefs
  inputContentRefs : recipe.inputContentRefs = recipe'.inputContentRefs
  visibility : recipe.visibility = recipe'.visibility

theorem bindingWire_injective : Function.Injective bindingWire := by
  rintro ⟨role, id⟩ ⟨role', id'⟩ h
  have hid : id = id' := congrArg BindingWire.id h
  have hname : role.name = role'.name := congrArg BindingWire.role h
  have hrole : role = role' := by
    revert hname
    cases role <;> cases role' <;> decide
  rw [hrole, hid]

theorem visibility_name_injective : Function.Injective ChangeVisibility.name := by
  intro a b
  cases a <;> cases b <;> decide

theorem map_evidenceString (refs : List EvidenceRef) :
    refs.map evidenceString = List.replicate refs.length "[object Object]" :=
  List.map_const'

theorem snapshot_eq_iff {change change' : CoordinationChange} {recipe recipe' : ReplayRecipe} :
    replayRecipeToSnapshot change recipe = replayRecipeToSnapshot change' recipe' ↔ CopiedAlike recipe recipe' := by
  simp only [replayRecipeToSnapshot, replayRecipeSnapshotFromChange, ReplayRecipeSnapshot.mk.injEq, map_evidenceString,
    List.replicate_inj, visibility_name_injective.eq_iff, (List.map_injective_iff.2 bindingWire_injective).eq_iff]
  constructor
  · rintro ⟨h1, h2, h3, h4, h5, h6, h7, h8, h9, h10, h11, h12, h13⟩
    exact ⟨h1, h2, h3, h4, h5, h6, h7, h8.1, h9.1, h10, h11, h12, h13⟩
  · intro h
    exact ⟨h.epochId, h.operationTypeId, h.templateRef, h.matchBindings, h.matchWitness, h.complementTag, h.kind,
      ⟨h.authorization, .inr trivial⟩, ⟨h.external, .inr trivial⟩, h.createdSessionRefs, h.freshLinkRefs, h.inputContentRefs,
      h.visibility⟩

/-! ## Snapshots and their objects -/

section Fields

variable {members members' : List (String × Option Json)}

theorem field_eq (h : (Json.record members).canon = (Json.record members').canon) (hnodup : (members'.map Prod.fst).Nodup)
    (k : String) : ((Json.record members).get? k).map Json.canon = ((Json.record members').get? k).map Json.canon :=
  (Json.get?_of_canon_record hnodup h).2 k

end Fields

theorem canon_strs (texts : List String) : (strs texts).canon = strs texts := by
  simp [strs, Json.canon_arr]

theorem strs_inj {texts texts' : List String} : strs texts = strs texts' ↔ texts = texts' := by
  rw [strs, strs, Json.arr.injEq]
  exact (List.map_injective_iff.2 fun a b h => Json.str.inj h).eq_iff

theorem bindingJson_injective : Function.Injective fun binding : BindingWire => binding.json.canon := by
  rintro ⟨role, id⟩ ⟨role', id'⟩ h
  have hfield := field_eq h (show ["role", "id"].Nodup by decide)
  have hrole := hfield "role"
  have hid := hfield "id"
  simp at hrole hid
  rw [hrole, hid]

theorem templateJson_injective :
    Function.Injective fun template : OperationTemplateRef => (templateJson template).canon := by
  rintro ⟨operationTypeId, revision⟩ ⟨operationTypeId', revision'⟩ h
  have hfield := field_eq h (show ["operationTypeId", "revision"].Nodup by decide)
  have hoperation := hfield "operationTypeId"
  have hrevision := hfield "revision"
  simp at hoperation hrevision
  rw [hoperation, hrevision]

theorem canon_comp_num : Json.canon ∘ Json.num = Json.num := funext Json.canon_num

theorem witnessJson_injective : Function.Injective fun witness : MatchWitness => (witnessJson witness).canon := by
  rintro ⟨domainSize, codomainSize, embedding⟩ ⟨domainSize', codomainSize', embedding'⟩ h
  have hfield := field_eq h (show ["domainSize", "codomainSize", "embedding"].Nodup by decide)
  have hdomain := hfield "domainSize"
  have hcodomain := hfield "codomainSize"
  have hembedding := hfield "embedding"
  simp at hdomain hcodomain
  simp [Json.canon_arr, canon_comp_num] at hembedding
  rw [hdomain, hcodomain, List.map_injective_iff.2 (fun a b => Json.num.inj) hembedding]

theorem snapshotJson_injective : Function.Injective fun snapshot : ReplayRecipeSnapshot => snapshot.json.canon := by
  intro s s' h
  have hfield := field_eq h (show ["epochId", "operationTypeId", "templateRef", "matchBindings", "matchWitness",
    "complementTag", "kind", "authorization", "external", "createdSessionRefs", "freshLinkRefs", "inputContentRefs",
    "visibility"].Nodup by decide)
  have hepoch := hfield "epochId"
  have hoperation := hfield "operationTypeId"
  have htemplate := hfield "templateRef"
  have hbindings := hfield "matchBindings"
  have hwitness := hfield "matchWitness"
  have htag := hfield "complementTag"
  have hkind := hfield "kind"
  have hauthorization := hfield "authorization"
  have hexternal := hfield "external"
  have hcreated := hfield "createdSessionRefs"
  have hfresh := hfield "freshLinkRefs"
  have hinput := hfield "inputContentRefs"
  have hvisibility := hfield "visibility"
  clear hfield h
  simp at hepoch hoperation htag hkind hvisibility
  simp [canon_strs, strs_inj] at hauthorization hexternal hcreated hfresh hinput
  simp only [Json.get?_record_cons, Json.get?_record_nil] at htemplate hbindings hwitness
  simp [Json.canon_arr] at htemplate hbindings hwitness
  have htemplate' := Option.map_injective templateJson_injective htemplate
  have hbindings' := List.map_injective_iff.2 bindingJson_injective hbindings
  have hwitness' := witnessJson_injective hwitness
  cases s
  cases s'
  simp_all

/-! ## Every snapshot has a digest -/

section Encoding

variable {localeCompare : LocaleCompare} {depth : Nat}

theorem encodes_strs (hdepth : depth + 1 ≤ maxDepth) (texts : List String) : Encodes localeCompare depth (strs texts) := by
  refine encodes_arr (Nat.le_of_succ_le hdepth) fun x hx => ?_
  obtain ⟨s, _, rfl⟩ := List.mem_map.1 hx
  exact encodes_str hdepth s

theorem encodes_bindingJson (hdepth : depth + 1 ≤ maxDepth) (binding : BindingWire) :
    Encodes localeCompare depth binding.json := by
  refine encodes_record (Nat.le_of_succ_le hdepth) (show 2 ≤ maxKeys by decide) (show ["role", "id"].Nodup by decide)
    (show "__proto__" ∉ ["role", "id"] by decide) fun k x hx => ?_
  simp at hx
  rcases hx with ⟨_, rfl⟩ | ⟨_, rfl⟩ <;> exact encodes_str hdepth _

theorem encodes_templateJson (hdepth : depth + 1 ≤ maxDepth) (template : OperationTemplateRef) :
    Encodes localeCompare depth (templateJson template) := by
  refine encodes_record (Nat.le_of_succ_le hdepth) (show 2 ≤ maxKeys by decide)
    (show ["operationTypeId", "revision"].Nodup by decide)
    (show "__proto__" ∉ ["operationTypeId", "revision"] by decide) fun k x hx => ?_
  simp at hx
  rcases hx with ⟨_, rfl⟩ | ⟨_, rfl⟩ <;> exact encodes_str hdepth _

theorem encodes_witnessJson (hdepth : depth + 2 ≤ maxDepth) (witness : MatchWitness) :
    Encodes localeCompare depth (witnessJson witness) := by
  refine encodes_record (by omega) (show 3 ≤ maxKeys by decide)
    (show ["domainSize", "codomainSize", "embedding"].Nodup by decide)
    (show "__proto__" ∉ ["domainSize", "codomainSize", "embedding"] by decide) fun k x hx => ?_
  simp at hx
  rcases hx with ⟨_, rfl⟩ | ⟨_, rfl⟩ | ⟨_, rfl⟩
  · exact encodes_num (by omega) _
  · exact encodes_num (by omega) _
  · refine encodes_arr (by omega) fun y hy => ?_
    obtain ⟨q, _, rfl⟩ := List.mem_map.1 hy
    exact encodes_num hdepth q

theorem encodes_snapshotJson (hdepth : depth + 3 ≤ maxDepth) (snapshot : ReplayRecipeSnapshot) :
    Encodes localeCompare depth snapshot.json := by
  have hstr : ∀ s, Encodes localeCompare (depth + 1) (.str s) := encodes_str (by omega)
  have hstrs : ∀ texts, Encodes localeCompare (depth + 1) (strs texts) := encodes_strs (by omega)
  refine encodes_record (by omega) (show 13 ≤ maxKeys by decide)
    (show ["epochId", "operationTypeId", "templateRef", "matchBindings", "matchWitness", "complementTag", "kind",
      "authorization", "external", "createdSessionRefs", "freshLinkRefs", "inputContentRefs", "visibility"].Nodup by
        decide)
    (show "__proto__" ∉ ["epochId", "operationTypeId", "templateRef", "matchBindings", "matchWitness", "complementTag",
      "kind", "authorization", "external", "createdSessionRefs", "freshLinkRefs", "inputContentRefs", "visibility"] by
        decide) fun k x hx => ?_
  simp at hx
  rcases hx with ⟨_, rfl⟩ | ⟨_, rfl⟩ | ⟨_, htemplate⟩ | ⟨_, rfl⟩ | ⟨_, rfl⟩ | ⟨_, rfl⟩ | ⟨_, rfl⟩ | ⟨_, rfl⟩ | ⟨_, rfl⟩ |
    ⟨_, rfl⟩ | ⟨_, rfl⟩ | ⟨_, rfl⟩ | ⟨_, rfl⟩
  · exact hstr _
  · exact hstr _
  · obtain ⟨template, _, rfl⟩ := htemplate
    exact encodes_templateJson (by omega) template
  · refine encodes_arr (by omega) fun y hy => ?_
    obtain ⟨binding, _, rfl⟩ := List.mem_map.1 hy
    exact encodes_bindingJson (by omega) binding
  · exact encodes_witnessJson (by omega) _
  · exact encodes_num (by omega) _
  · exact hstr _
  · exact hstrs _
  · exact hstrs _
  · exact hstrs _
  · exact hstrs _
  · exact hstrs _
  · exact hstr _

theorem encodes_recipeEvidence (snapshot : ReplayRecipeSnapshot) : Encodes localeCompare 0 (recipeEvidence snapshot) := by
  refine encodes_record (by decide) (show 2 ≤ maxKeys by decide) (show ["kind", "recipe"].Nodup by decide)
    (show "__proto__" ∉ ["kind", "recipe"] by decide) fun k x hx => ?_
  simp at hx
  rcases hx with ⟨_, rfl⟩ | ⟨_, rfl⟩
  · exact encodes_str (by decide) _
  · exact encodes_snapshotJson (by decide) snapshot

theorem encodes_chainEvidence {entries : List Json} (h : ∀ entry ∈ entries, Encodes localeCompare 2 entry) :
    Encodes localeCompare 0 (chainEvidence entries) := by
  refine encodes_record (by decide) (show 2 ≤ maxKeys by decide) (show ["kind", "entries"].Nodup by decide)
    (show "__proto__" ∉ ["kind", "entries"] by decide) fun k x hx => ?_
  simp at hx
  rcases hx with ⟨_, rfl⟩ | ⟨_, rfl⟩
  · exact encodes_str (by decide) _
  · exact encodes_arr (by decide) h

end Encoding

/-! ## Chains of one digest -/

section Chains

variable {host : EvidenceHost}

theorem snapshot_of_digest (hhash : Function.Injective host.sha256) (hprint : Json.PrintsNumbers host.print)
    {snapshot snapshot' : ReplayRecipeSnapshot} {digest : String}
    (h : computeReplayRecipeDigest host snapshot = some digest)
    (h' : computeReplayRecipeDigest host snapshot' = some digest) : snapshot = snapshot' := by
  have hencodes : ∀ s, Encodes host.localeCompare 0 (recipeEvidence s) := encodes_recipeEvidence
  have hcanon := canon_eq_of_digest_eq hhash hprint (hencodes snapshot).plain (hencodes snapshot').plain h h'
  have hrecipe := field_eq hcanon (show ["kind", "recipe"].Nodup by decide) "recipe"
  simp at hrecipe
  exact snapshotJson_injective hrecipe

theorem chainEntry_eq_some {change : CoordinationChange} {snapshot : ReplayRecipeSnapshot} {entry : Json} :
    chainEntry host change snapshot = some entry ↔ ∃ digest, computeReplayRecipeDigest host snapshot = some digest ∧
      entry = .record [("changeId", some (.str change.changeId)), ("recipeDigest", some (.str digest))] := by
  rw [chainEntry, Option.map_eq_some_iff]
  exact exists_congr fun digest => and_congr_right fun _ => eq_comm

theorem exists_chainEntry (change : CoordinationChange) (snapshot : ReplayRecipeSnapshot) :
    ∃ entry, chainEntry host change snapshot = some entry := by
  have hencodes : Encodes host.localeCompare 0 (recipeEvidence snapshot) := encodes_recipeEvidence snapshot
  obtain ⟨digest, hdigest⟩ := hencodes.digest
  exact ⟨_, chainEntry_eq_some.2 ⟨digest, hdigest, rfl⟩⟩

theorem encodes_chainEntry {localeCompare : LocaleCompare} {change : CoordinationChange}
    {snapshot : ReplayRecipeSnapshot} {entry : Json} (h : chainEntry host change snapshot = some entry) :
    Encodes localeCompare 2 entry := by
  obtain ⟨digest, _, rfl⟩ := chainEntry_eq_some.1 h
  refine encodes_record (by decide) (show 2 ≤ maxKeys by decide) (show ["changeId", "recipeDigest"].Nodup by decide)
    (show "__proto__" ∉ ["changeId", "recipeDigest"] by decide) fun k x hx => ?_
  simp at hx
  rcases hx with ⟨_, rfl⟩ | ⟨_, rfl⟩ <;> exact encodes_str (by decide) _

theorem chainEntry_inj (hhash : Function.Injective host.sha256) (hprint : Json.PrintsNumbers host.print)
    {change change' : CoordinationChange} {snapshot snapshot' : ReplayRecipeSnapshot} {entry entry' : Json}
    (h : chainEntry host change snapshot = some entry) (h' : chainEntry host change' snapshot' = some entry')
    (hcanon : entry.canon = entry'.canon) : change.changeId = change'.changeId ∧ snapshot = snapshot' := by
  obtain ⟨digest, hdigest, rfl⟩ := chainEntry_eq_some.1 h
  obtain ⟨digest', hdigest', rfl⟩ := chainEntry_eq_some.1 h'
  have hfield := field_eq hcanon (show ["changeId", "recipeDigest"].Nodup by decide)
  have hid := hfield "changeId"
  have hrecipe := hfield "recipeDigest"
  simp at hid hrecipe
  subst hrecipe
  exact ⟨hid, snapshot_of_digest hhash hprint hdigest hdigest'⟩

variable {changes changes' : List CoordinationChange} {resolve resolve' : CoordinationChange → ReplayRecipeSnapshot}

def chainEntries (host : EvidenceHost) (changes : List CoordinationChange)
    (resolve : CoordinationChange → ReplayRecipeSnapshot) : Option (List Json) :=
  changes.mapM fun change => chainEntry host change (resolve change)

theorem chainEntries_cons {change : CoordinationChange} {entries : List Json} :
    chainEntries host (change :: changes) resolve = some entries ↔ ∃ entry rest,
      chainEntry host change (resolve change) = some entry ∧ chainEntries host changes resolve = some rest ∧
        entries = entry :: rest := by
  rw [chainEntries, List.mapM_cons]
  constructor
  · intro h
    obtain ⟨entry, hentry, h⟩ := Option.bind_eq_some_iff.1 h
    obtain ⟨rest, hrest, h⟩ := Option.bind_eq_some_iff.1 h
    cases h
    exact ⟨entry, rest, hentry, hrest, rfl⟩
  · rintro ⟨entry, rest, hentry, hrest, rfl⟩
    rw [hentry]
    show (chainEntries host changes resolve >>= fun rest => pure (entry :: rest)) = _
    rw [hrest]
    rfl

def SameChain (changes changes' : List CoordinationChange) (resolve resolve' : CoordinationChange → ReplayRecipeSnapshot) :
    Prop :=
  List.Forall₂ (fun change change' => change.changeId = change'.changeId ∧ resolve change = resolve' change')
    changes changes'

theorem exists_chainEntries (changes : List CoordinationChange) (resolve : CoordinationChange → ReplayRecipeSnapshot) :
    ∃ entries, chainEntries host changes resolve = some entries ∧
      ∀ entry ∈ entries, Encodes host.localeCompare 2 entry := by
  induction changes with
  | nil => exact ⟨[], rfl, fun entry hentry => nomatch hentry⟩
  | cons change changes ih =>
      obtain ⟨entry, hentry⟩ := @exists_chainEntry host change (resolve change)
      obtain ⟨entries, hentries, hall⟩ := ih
      refine ⟨entry :: entries, chainEntries_cons.2 ⟨entry, entries, hentry, hentries, rfl⟩, fun e he => ?_⟩
      rcases List.mem_cons.1 he with rfl | he
      · exact encodes_chainEntry hentry
      · exact hall e he

theorem sameChain_of_entries (hhash : Function.Injective host.sha256) (hprint : Json.PrintsNumbers host.print)
    {entries entries' : List Json} (h : chainEntries host changes resolve = some entries)
    (h' : chainEntries host changes' resolve' = some entries') (hcanon : entries.map Json.canon = entries'.map Json.canon) :
    SameChain changes changes' resolve resolve' := by
  induction changes generalizing changes' entries entries' with
  | nil =>
      cases h
      cases changes' with
      | nil => exact .nil
      | cons change' changes' =>
          obtain ⟨entry', rest', _, _, rfl⟩ := chainEntries_cons.1 h'
          cases hcanon
  | cons change changes ih =>
      obtain ⟨entry, rest, hentry, hrest, rfl⟩ := chainEntries_cons.1 h
      cases changes' with
      | nil =>
          cases h'
          cases hcanon
      | cons change' changes' =>
          obtain ⟨entry', rest', hentry', hrest', rfl⟩ := chainEntries_cons.1 h'
          rw [List.map_cons, List.map_cons, List.cons.injEq] at hcanon
          exact .cons (chainEntry_inj hhash hprint hentry hentry' hcanon.1) (ih hrest hrest' hcanon.2)

theorem chainEntries_congr (hsame : SameChain changes changes' resolve resolve') :
    chainEntries host changes resolve = chainEntries host changes' resolve' := by
  induction hsame with
  | nil => rfl
  | @cons change change' changes changes' hhead htail ih =>
      have hentry : chainEntry host change (resolve change) = chainEntry host change' (resolve' change') := by
        rw [chainEntry, chainEntry, hhead.1, hhead.2]
      show List.mapM _ _ = List.mapM _ _
      rw [List.mapM_cons, List.mapM_cons, hentry]
      congr 1
      funext entry
      congr 1

theorem chainDigest_eq_iff (hhash : Function.Injective host.sha256) (hprint : Json.PrintsNumbers host.print) :
    (∃ digest, computeReplayRecipeChainDigest host changes resolve = some digest ∧
      computeReplayRecipeChainDigest host changes' resolve' = some digest) ↔
        SameChain changes changes' resolve resolve' := by
  obtain ⟨entries, hentries, hall⟩ := @exists_chainEntries host changes resolve
  obtain ⟨entries', hentries', hall'⟩ := @exists_chainEntries host changes' resolve'
  have hdigest : computeReplayRecipeChainDigest host changes resolve =
      computeEvidenceDigest host (chainEvidence entries) := by
    show (chainEntries host changes resolve).bind _ = _
    rw [hentries]
    rfl
  have hdigest' : computeReplayRecipeChainDigest host changes' resolve' =
      computeEvidenceDigest host (chainEvidence entries') := by
    show (chainEntries host changes' resolve').bind _ = _
    rw [hentries']
    rfl
  rw [hdigest, hdigest']
  constructor
  · rintro ⟨digest, h, h'⟩
    have hcanon := canon_eq_of_digest_eq hhash hprint (encodes_chainEvidence hall).plain
      (encodes_chainEvidence hall').plain h h'
    have hfield := field_eq hcanon (show ["kind", "entries"].Nodup by decide) "entries"
    simp [Json.canon_arr] at hfield
    exact sameChain_of_entries hhash hprint hentries hentries' hfield
  · intro hsame
    have heq : chainEntries host changes resolve = chainEntries host changes' resolve' := chainEntries_congr hsame
    rw [hentries, hentries'] at heq
    cases heq
    obtain ⟨digest, h⟩ := (encodes_chainEvidence hall).digest
    exact ⟨digest, h, h⟩

end Chains

/-! ## Chains with their recipes -/

section Recipes

variable {host : EvidenceHost} {changes changes' : List CoordinationChange}
  {recipeFor recipeFor' : CoordinationChange → ReplayRecipe}

def recipeChainDigest (host : EvidenceHost) (changes : List CoordinationChange)
    (recipeFor : CoordinationChange → ReplayRecipe) : Option String :=
  computeReplayRecipeChainDigest host changes fun change => replayRecipeToSnapshot change (recipeFor change)

def DigestBinds (host : EvidenceHost) (changes changes' : List CoordinationChange)
    (recipeFor recipeFor' : CoordinationChange → ReplayRecipe) : Prop :=
  ∀ digest, recipeChainDigest host changes recipeFor = some digest →
    recipeChainDigest host changes' recipeFor' = some digest →
      List.Forall₂ (fun change change' => change.changeId = change'.changeId ∧
        ReplaysAlike (recipeFor change) (recipeFor' change')) changes changes'

def InputsFollow (changes changes' : List CoordinationChange) (recipeFor recipeFor' : CoordinationChange → ReplayRecipe) :
    Prop :=
  List.Forall₂ (fun change change' => change.changeId = change'.changeId ∧
    CopiedAlike (recipeFor change) (recipeFor' change')) changes changes' →
      List.Forall₂ (fun change change' => (recipeFor change).scalarInputs.Equiv (recipeFor' change').scalarInputs ∧
        (recipeFor change).emittedAt = (recipeFor' change').emittedAt) changes changes'

theorem CopiedAlike.replaysAlike {recipe recipe' : ReplayRecipe} (h : CopiedAlike recipe recipe')
    (hscalar : recipe.scalarInputs.Equiv recipe'.scalarInputs) (hemitted : recipe.emittedAt = recipe'.emittedAt) :
    ReplaysAlike recipe recipe' :=
  ⟨h.epochId, h.operationTypeId, h.templateRef, h.matchBindings, h.matchWitness, h.createdSessionRefs, h.freshLinkRefs,
    h.inputContentRefs, hscalar, hemitted⟩

theorem sameChain_iff :
    SameChain changes changes' (fun change => replayRecipeToSnapshot change (recipeFor change))
      (fun change => replayRecipeToSnapshot change (recipeFor' change)) ↔
        List.Forall₂ (fun change change' => change.changeId = change'.changeId ∧
          CopiedAlike (recipeFor change) (recipeFor' change')) changes changes' := by
  have hrel : (fun change change' : CoordinationChange => change.changeId = change'.changeId ∧
      replayRecipeToSnapshot change (recipeFor change) = replayRecipeToSnapshot change' (recipeFor' change')) =
        fun change change' => change.changeId = change'.changeId ∧ CopiedAlike (recipeFor change) (recipeFor' change') := by
    funext change change'
    rw [snapshot_eq_iff]
  rw [SameChain, hrel]

/-- The digest binds what replay uses exactly where scalar inputs and instants follow from what is copied. -/
theorem digest_binds_iff (hhash : Function.Injective host.sha256) (hprint : Json.PrintsNumbers host.print)
    (changes changes' : List CoordinationChange) (recipeFor recipeFor' : CoordinationChange → ReplayRecipe) :
    DigestBinds host changes changes' recipeFor recipeFor' ↔ InputsFollow changes changes' recipeFor recipeFor' := by
  constructor
  · intro h hcopied
    obtain ⟨digest, hdigest, hdigest'⟩ := (chainDigest_eq_iff hhash hprint).2 (sameChain_iff.2 hcopied)
    exact (h digest hdigest hdigest').imp fun change change' hsame => ⟨hsame.2.scalarInputs, hsame.2.emittedAt⟩
  · intro h digest hdigest hdigest'
    have hcopied := sameChain_iff.1 ((chainDigest_eq_iff hhash hprint).1 ⟨digest, hdigest, hdigest'⟩)
    refine List.Forall₂.mp (fun change change' hcopied hinputs => ?_) hcopied (h hcopied)
    exact ⟨hcopied.1, hcopied.2.replaysAlike hinputs.1 hinputs.2⟩

end Recipes

/-! ## Two heartbeats -/

def spellBytes (bytes : ByteArray) : String :=
  String.ofList (bytes.data.toList.map fun b => Char.ofNat b.toNat)

theorem spellBytes_injective : Function.Injective spellBytes := by
  intro a b h
  have hbyte : Function.Injective fun b : UInt8 => Char.ofNat b.toNat := by
    intro x y hxy
    have hvalid : ∀ z : UInt8, (Char.ofNat z.toNat).toNat = z.toNat := by
      intro z
      have hlt := z.toNat_lt
      have hvalid : z.toNat.isValidChar := Or.inl (by omega)
      rw [Char.ofNat, dif_pos hvalid]
      rfl
    exact UInt8.toNat_inj.1 (by rw [← hvalid x, ← hvalid y]; exact congrArg Char.toNat hxy)
  have hlists := List.map_injective_iff.2 hbyte (String.ofList_injective h)
  exact ByteArray.ext (Array.toList_inj.1 hlists)

def spellingHost : EvidenceHost where
  localeCompare a b := if JsString.lt a b then -1 else if JsString.lt b a then 1 else 0
  print := Json.printExact
  sha256 := spellBytes

def heartbeatChange : CoordinationChange where
  changeId := "change"
  recordedAt := "monday"
  epochId := "epoch"
  operationTypeId := "emit_heartbeat"
  templateRef := none
  beforeRef := "before"
  afterRef := "after"
  matchBindings := [⟨.from, "agent"⟩]
  targets := [⟨.participant, "agent"⟩]
  initiator := ⟨"agent", .agent⟩
  involved := []
  authorization := []
  external := []
  createdSessionRefs := []
  visibility := .internal

def heartbeatRecipe (turnCount : ℚ) : ReplayRecipe :=
  withHeartbeatEmittedAt
    { replayRecipeFromChange heartbeatChange with
      scalarInputs := OrdMap.ofList [("turnCount", .number (.finite turnCount)), ("lastAction", .string "wait")] } "monday"

theorem heartbeats_copied_alike (n m : ℚ) : CopiedAlike (heartbeatRecipe n) (heartbeatRecipe m) := by
  constructor <;> rfl

/-- Heartbeats of different turns have one digest. -/
theorem heartbeat_turns_unbound : Function.Injective spellingHost.sha256 ∧ Json.PrintsNumbers spellingHost.print ∧
    ¬ DigestBinds spellingHost [heartbeatChange] [heartbeatChange] (fun _ => heartbeatRecipe 1)
      (fun _ => heartbeatRecipe 2) := by
  refine ⟨spellBytes_injective, Json.printsNumbers_printExact, fun h => ?_⟩
  have hcopied : List.Forall₂ (fun change change' => change.changeId = change'.changeId ∧
      CopiedAlike ((fun _ => heartbeatRecipe 1) change) ((fun _ => heartbeatRecipe 2) change'))
        [heartbeatChange] [heartbeatChange] := .cons ⟨rfl, heartbeats_copied_alike 1 2⟩ .nil
  obtain ⟨digest, hdigest, hdigest'⟩ := (chainDigest_eq_iff (show Function.Injective spellingHost.sha256 from
    spellBytes_injective) Json.printsNumbers_printExact).2 (sameChain_iff.2 hcopied)
  cases h digest hdigest hdigest' with
  | cons hhead htail =>
      have hturn := hhead.2.scalarInputs "turnCount"
      exact absurd hturn (by decide +kernel)

def approvedHeartbeat (approval : String) : ReplayRecipe :=
  withRecipeAuthorization (heartbeatRecipe 1) [⟨approval, .approval, "content"⟩]

/-- Heartbeats that differ in their approvals have one digest, and replay uses the same of them. -/
theorem approved_heartbeats_bound : DigestBinds spellingHost [heartbeatChange] [heartbeatChange]
    (fun _ => approvedHeartbeat "first") (fun _ => approvedHeartbeat "second") :=
  (digest_binds_iff (show Function.Injective spellingHost.sha256 from spellBytes_injective)
    (show Json.PrintsNumbers spellingHost.print from Json.printsNumbers_printExact) _ _ _ _).2 fun _ =>
      .cons ⟨OrdMap.Equiv.refl _, rfl⟩ .nil

end Cantilune.Conformance
