import Cantilune.Lemmas.Observation

/-!
# What the lenses show

Under which ids the deltas of a step have an entry: for links under those that changed, whatever their kind,
for capabilities under those that changed but for the transcript of their scope, for sessions under those that
changed or that the change says it created.
-/

namespace Cantilune

/-! ## Links -/

section Links
variable {before after : OrdMap LinkId CollaborationLink} {kindFilter : LinkKind → Bool} {id : LinkId}

theorem link_kind_covered (kind : LinkKind) : isDependencyLinkKind kind = true ∨ isStructuralLinkKind kind = true := by
  cases kind <;> decide

theorem mem_addedLinks {link : CollaborationLink} : link ∈ addedLinks before after kindFilter ↔
    ∃ id, after.get? id = some link ∧ before.get? id = none ∧ kindFilter link.kind = true := by
  simp only [addedLinks, List.mem_filterMap, Prod.exists, OrdMap.mem_entries, Option.ite_none_right_eq_some,
    Option.some.injEq, Bool.not_eq_true, OrdMap.has_eq_false_iff]
  constructor
  · rintro ⟨id, _, hafter, ⟨hbefore, hkind⟩, rfl⟩
    exact ⟨id, hafter, hbefore, hkind⟩
  · rintro ⟨id, hafter, hbefore, hkind⟩
    exact ⟨id, link, hafter, ⟨hbefore, hkind⟩, rfl⟩

theorem mem_updatedLinks {link : CollaborationLink} : link ∈ updatedLinks before after kindFilter ↔
    ∃ id old, after.get? id = some link ∧ before.get? id = some old ∧ old ≠ link ∧ kindFilter link.kind = true := by
  simp only [updatedLinks, List.mem_filterMap, Prod.exists, OrdMap.mem_entries]
  constructor
  · rintro ⟨id, found, hafter, hlink⟩
    cases hbefore : before.get? id with
    | none => simp [hbefore] at hlink
    | some old =>
        simp only [hbefore, Option.ite_none_right_eq_some, Option.some.injEq] at hlink
        obtain ⟨⟨hkind, hne⟩, rfl⟩ := hlink
        exact ⟨id, old, hafter, hbefore, hne, hkind⟩
  · rintro ⟨id, old, hafter, hbefore, hne, hkind⟩
    exact ⟨id, link, hafter, by simp [hbefore, hkind, hne]⟩

theorem mem_removedLinkIds : id ∈ removedLinkIds before after kindFilter ↔
    ∃ link, before.get? id = some link ∧ after.get? id = none ∧ kindFilter link.kind = true := by
  simp only [removedLinkIds, List.mem_filterMap, Prod.exists, OrdMap.mem_entries, Option.ite_none_right_eq_some,
    Option.some.injEq, Bool.not_eq_true, OrdMap.has_eq_false_iff]
  constructor
  · rintro ⟨_, link, hbefore, ⟨hafter, hkind⟩, rfl⟩
    exact ⟨link, hbefore, hafter, hkind⟩
  · rintro ⟨link, hbefore, hafter, hkind⟩
    exact ⟨id, link, hbefore, ⟨hafter, hkind⟩, rfl⟩

theorem links_shown_iff (hafter : ∀ k l, after.get? k = some l → l.linkId = k) :
    (id ∈ (addedLinks before after kindFilter ++ updatedLinks before after kindFilter).map (·.linkId) ∨
        id ∈ removedLinkIds before after kindFilter) ↔
      before.get? id ≠ after.get? id ∧ ((∃ link, after.get? id = some link ∧ kindFilter link.kind = true) ∨
        after.get? id = none ∧ ∃ link, before.get? id = some link ∧ kindFilter link.kind = true) := by
  constructor
  · rintro (hset | hremoved)
    · obtain ⟨link, hlink, rfl⟩ := List.mem_map.1 hset
      rcases List.mem_append.1 hlink with hadded | hupdated
      · obtain ⟨id, hlink, hbefore, hkind⟩ := mem_addedLinks.1 hadded
        rw [hafter id link hlink]
        exact ⟨by simp [hlink, hbefore], .inl ⟨link, hlink, hkind⟩⟩
      · obtain ⟨id, old, hlink, hbefore, hne, hkind⟩ := mem_updatedLinks.1 hupdated
        rw [hafter id link hlink]
        exact ⟨by simp [hlink, hbefore, hne], .inl ⟨link, hlink, hkind⟩⟩
    · obtain ⟨link, hbefore, hnone, hkind⟩ := mem_removedLinkIds.1 hremoved
      exact ⟨by simp [hbefore, hnone], .inr ⟨hnone, link, hbefore, hkind⟩⟩
  · rintro ⟨hne, ⟨link, hlink, hkind⟩ | ⟨hnone, link, hbefore, hkind⟩⟩
    · refine .inl (List.mem_map.2 ⟨link, List.mem_append.2 ?_, hafter id link hlink⟩)
      cases hbefore : before.get? id with
      | none => exact .inl (mem_addedLinks.2 ⟨id, hlink, hbefore, hkind⟩)
      | some old =>
          exact .inr (mem_updatedLinks.2 ⟨id, old, hlink, hbefore, by simpa [hlink, hbefore] using hne, hkind⟩)
    · exact .inr (mem_removedLinkIds.2 ⟨link, hbefore, hnone, hkind⟩)

theorem links_held (hafter : ∀ k l, after.get? k = some l → l.linkId = k) :
    ∀ link ∈ addedLinks before after kindFilter ++ updatedLinks before after kindFilter,
      after.get? link.linkId = some link := by
  intro link hlink
  rcases List.mem_append.1 hlink with hadded | hupdated
  · obtain ⟨id, hlink, -⟩ := mem_addedLinks.1 hadded
    rwa [hafter id link hlink]
  · obtain ⟨id, _, hlink, -⟩ := mem_updatedLinks.1 hupdated
    rwa [hafter id link hlink]

end Links

/-! ## Capabilities -/

/-- A capability as the resource lens sees it: of a transcript scope only the kind. -/
def ScopedCapability.seen (capability : ScopedCapability) : ScopedCapability :=
  match capability.scope with
  | .transcript _ _ => { capability with scope := .transcript "" "" }
  | _ => capability

theorem capabilityChanged_iff {before : Option ScopedCapability} {after : ScopedCapability}
    (hid : ∀ c ∈ before, c.capabilityId = after.capabilityId) :
    capabilityChanged before after = true ↔ before.map (·.seen) ≠ some after.seen := by
  cases before with
  | none => simp [capabilityChanged]
  | some before =>
      obtain ⟨id, kind, holder, scope⟩ := before
      obtain ⟨id', kind', holder', scope'⟩ := after
      have hid : id = id' := hid _ rfl
      subst hid
      cases scope <;> cases scope' <;>
        simp [capabilityChanged, ScopedCapability.seen, CapabilityScope.kindName, scopeExchanged] <;> tauto

theorem mem_updatedCapabilities {step : CommittedStep} {capability : ScopedCapability} :
    capability ∈ step.slice.resource.updatedCapabilities ↔ ∃ id, step.after.capabilities.get? id = some capability ∧
      capabilityChanged (step.before.capabilities.get? id) capability = true := by
  have hupdated : step.slice.resource.updatedCapabilities =
      step.after.capabilities.entries.filterMap fun entry =>
        if capabilityChanged (step.before.capabilities.get? entry.1) entry.2 then some entry.2 else none := rfl
  rw [hupdated]
  simp only [List.mem_filterMap, Prod.exists, OrdMap.mem_entries, Option.ite_none_right_eq_some,
    Option.some.injEq]
  constructor
  · rintro ⟨id, _, hafter, hchanged, rfl⟩
    exact ⟨id, hafter, hchanged⟩
  · rintro ⟨id, hafter, hchanged⟩
    exact ⟨id, capability, hafter, hchanged, rfl⟩

theorem mem_removedCapabilityIds {step : CommittedStep} {id : CapabilityId} :
    id ∈ step.slice.resource.removedCapabilityIds ↔
      step.before.capabilities.has id = true ∧ step.after.capabilities.get? id = none := by
  have hremoved : step.slice.resource.removedCapabilityIds = removedCapabilityIds step.before step.after := rfl
  simp [hremoved, removedCapabilityIds, OrdMap.mem_keys, OrdMap.has_eq_false_iff]

theorem updatedCapabilities_held {step : CommittedStep} (hafter : EntriesKeyed step.after) :
    ∀ capability ∈ step.slice.resource.updatedCapabilities,
      step.after.capabilities.get? capability.capabilityId = some capability := by
  intro capability hcapability
  obtain ⟨id, hid, -⟩ := mem_updatedCapabilities.1 hcapability
  rwa [hafter.capabilities id capability hid]

/-- Under which ids the resource lens shows something. -/
theorem capabilities_shown_iff {step : CommittedStep} {id : CapabilityId} (hbefore : EntriesKeyed step.before)
    (hafter : EntriesKeyed step.after) :
    (id ∈ step.slice.resource.updatedCapabilities.map ScopedCapability.capabilityId ∨
        id ∈ step.slice.resource.removedCapabilityIds) ↔
      (step.before.capabilities.get? id).map (·.seen) ≠ (step.after.capabilities.get? id).map (·.seen) := by
  cases hid : step.after.capabilities.get? id with
  | some capability =>
      have hkey := hafter.capabilities id capability hid
      have hsameId : ∀ c ∈ step.before.capabilities.get? id, c.capabilityId = capability.capabilityId :=
        fun c hc => (hbefore.capabilities id c hc).trans hkey.symm
      rw [Option.map_some, ← capabilityChanged_iff hsameId]
      constructor
      · rintro (hupdated | hgone)
        · obtain ⟨other, hother, hotherId⟩ := List.mem_map.1 hupdated
          obtain ⟨id', hid', hchanged⟩ := mem_updatedCapabilities.1 hother
          obtain rfl : id' = id := (hafter.capabilities id' other hid').symm.trans hotherId
          cases hid.symm.trans hid'
          exact hchanged
        · exact absurd ((mem_removedCapabilityIds.1 hgone).2) (by simp [hid])
      · intro hchanged
        exact .inl (List.mem_map.2 ⟨capability, mem_updatedCapabilities.2 ⟨id, hid, hchanged⟩, hkey⟩)
  | none =>
      have hnotUpdated : id ∉ step.slice.resource.updatedCapabilities.map ScopedCapability.capabilityId := by
        intro hupdated
        obtain ⟨other, hother, rfl⟩ := List.mem_map.1 hupdated
        exact absurd (updatedCapabilities_held hafter other hother) (by simp [hid])
      rw [Option.map_none, mem_removedCapabilityIds]
      simp only [hnotUpdated, false_or, hid, and_true, OrdMap.has]
      cases step.before.capabilities.get? id <;> simp

/-! ## Sessions -/

theorem sessionChanged_iff {before after : CommunicationSession} (hid : before.sessionId = after.sessionId) :
    sessionChanged before after = true ↔ before ≠ after := by
  obtain ⟨id, controller, participants, visibility⟩ := before
  obtain ⟨id', controller', participants', visibility'⟩ := after
  subst hid
  have hmembers : ∀ xs ys : List ActorId, xs.length = ys.length →
      ((xs.zip ys).any (fun e => e.1 ≠ e.2) = true ↔ xs ≠ ys) := by
    intro xs
    induction xs with
    | nil => simp [eq_comm]
    | cons x xs ih =>
        rintro (_ | ⟨y, ys⟩) hlength
        · simp at hlength
        · have hrest := ih ys (by simpa using hlength)
          simp only [List.zip_cons_cons, List.any_cons, Bool.or_eq_true, hrest, ne_eq, List.cons.injEq,
            decide_eq_true_eq]
          tauto
  unfold sessionChanged
  by_cases hlength : participants.length = participants'.length
  · have hsame := hmembers participants participants' hlength
    simp only [hlength, ne_eq, not_true_eq_false, if_false, CommunicationSession.mk.injEq, true_and]
    split
    · simp_all
      tauto
    · rw [hsame]
      simp_all
  · have hne : participants ≠ participants' := fun h => hlength (by rw [h])
    simp [hlength, hne]

theorem mem_updatedSessions {step : CommittedStep} {session : CommunicationSession} :
    session ∈ step.slice.communication.updatedSessions ↔ ∃ id old, step.after.sessions.get? id = some session ∧
      step.before.sessions.get? id = some old ∧ sessionChanged old session = true := by
  have hupdated : step.slice.communication.updatedSessions =
      step.after.sessions.entries.filterMap fun entry => (step.before.sessions.get? entry.1).bind fun old =>
        if sessionChanged old entry.2 then some entry.2 else none := by
    refine List.filterMap_congr fun entry _ => ?_
    obtain ⟨sessionId, afterSession⟩ := entry
    dsimp only
    cases step.before.sessions.get? sessionId <;> rfl
  rw [hupdated]
  simp only [List.mem_filterMap, Prod.exists, OrdMap.mem_entries]
  constructor
  · rintro ⟨id, found, hafter, hsession⟩
    cases hbefore : step.before.sessions.get? id with
    | none => simp [hbefore] at hsession
    | some old =>
        simp only [hbefore, Option.bind_some, Option.ite_none_right_eq_some, Option.some.injEq] at hsession
        obtain ⟨hchanged, rfl⟩ := hsession
        exact ⟨id, old, hafter, hbefore, hchanged⟩
  · rintro ⟨id, old, hafter, hbefore, hchanged⟩
    exact ⟨id, session, hafter, by simp [hbefore, hchanged]⟩

theorem mem_closedSessionIds {step : CommittedStep} {id : SessionId} :
    id ∈ step.slice.communication.closedSessionIds ↔
      step.before.sessions.has id = true ∧ step.after.sessions.get? id = none := by
  have hclosed : step.slice.communication.closedSessionIds =
      step.before.sessions.keys.filter fun sessionId => ¬ step.after.sessions.has sessionId := rfl
  simp [hclosed, OrdMap.mem_keys, OrdMap.has_eq_false_iff]

theorem mem_addCreated {after : CollaborationSnapshot} {refs : List SessionId} {opened : List CommunicationSession}
    (hafter : EntriesKeyed after) (hopened : ∀ s ∈ opened, after.sessions.get? s.sessionId = some s)
    {session : CommunicationSession} :
    session ∈ refs.foldl (addCreated after) opened ↔
      session ∈ opened ∨ after.sessions.get? session.sessionId = some session ∧ session.sessionId ∈ refs := by
  induction refs generalizing opened with
  | nil => simp
  | cons ref refs ih =>
      rw [List.foldl_cons, addCreated]
      cases hfound : after.sessions.get? ref with
      | none =>
          have hne : after.sessions.get? session.sessionId = some session → session.sessionId ≠ ref := by
            rintro hsession rfl
            rw [hfound] at hsession
            cases hsession
          rw [ih hopened]
          simp only [List.mem_cons]
          tauto
      | some found =>
          have hkey := hafter.sessions ref found hfound
          have hsame : after.sessions.get? session.sessionId = some session → session.sessionId = ref →
              session = found := by
            rintro hsession rfl
            exact Option.some.inj (hsession.symm.trans hfound)
          dsimp only
          by_cases hthere : (opened.any fun s => s.sessionId = ref) = true
          · rw [if_pos hthere, ih hopened]
            obtain ⟨other, hother, hotherId⟩ := List.any_eq_true.1 hthere
            have hotherId : other.sessionId = ref := by simpa using hotherId
            have hotherFound : other = found :=
              Option.some.inj ((hopened other hother).symm.trans (hotherId ▸ hfound))
            subst hotherFound
            simp only [List.mem_cons]
            constructor
            · tauto
            · rintro (hmem | ⟨hsession, hid | hid⟩)
              · exact .inl hmem
              · exact .inl (hsame hsession hid ▸ hother)
              · exact .inr ⟨hsession, hid⟩
          · rw [if_neg hthere, ih fun s hs => ?_]
            · simp only [List.mem_append, List.mem_cons, List.not_mem_nil, or_false]
              constructor
              · rintro ((hmem | rfl) | ⟨hsession, hid⟩)
                · exact .inl hmem
                · exact .inr ⟨by rw [hkey, hfound], .inl hkey⟩
                · exact .inr ⟨hsession, .inr hid⟩
              · rintro (hmem | ⟨hsession, hid | hid⟩)
                · exact .inl (.inl hmem)
                · exact .inl (.inr (hsame hsession hid))
                · exact .inr ⟨hsession, hid⟩
            · rcases List.mem_append.1 hs with hs | hs
              · exact hopened s hs
              · rw [List.mem_singleton.1 hs, hkey, hfound]

/-- The sessions that count as opened: the new ones, and those that a `create_session` names. -/
theorem mem_openedSessions {before after : CollaborationSnapshot} {change : CoordinationChange}
    {session : CommunicationSession} (hafter : EntriesKeyed after) :
    session ∈ openedSessions before after change ↔ after.sessions.get? session.sessionId = some session ∧
      (before.sessions.get? session.sessionId = none ∨
        change.operationTypeId = "create_session" ∧ session.sessionId ∈ change.createdSessionRefs) := by
  have hvalues : ∀ s, s ∈ after.sessions.values ↔ after.sessions.get? s.sessionId = some s := by
    intro s
    rw [OrdMap.mem_values]
    constructor
    · rintro ⟨id, hid⟩
      rwa [hafter.sessions id s hid]
    · intro hs
      exact ⟨_, hs⟩
  have hnew : ∀ s, s ∈ after.sessions.values.filter (fun session => ¬ before.sessions.has session.sessionId) ↔
      after.sessions.get? s.sessionId = some s ∧ before.sessions.get? s.sessionId = none := by
    intro s
    simp [List.mem_filter, hvalues, OrdMap.has_eq_false_iff]
  unfold openedSessions
  dsimp only
  split
  · rename_i hcreate
    rw [mem_addCreated hafter fun s hs => ((hnew s).1 hs).1, hnew]
    simp only [hcreate, true_and]
    tauto
  · rename_i hother
    rw [hnew]
    simp only [hother, false_and, or_false]

theorem openedSessions_held {step : CommittedStep} (hafter : EntriesKeyed step.after) :
    ∀ session ∈ step.slice.communication.openedSessions ++ step.slice.communication.updatedSessions,
      step.after.sessions.get? session.sessionId = some session := by
  have hopened : step.slice.communication.openedSessions = openedSessions step.before step.after step.change := rfl
  intro session hsession
  rcases List.mem_append.1 hsession with hsession | hsession
  · rw [hopened, mem_openedSessions hafter] at hsession
    exact hsession.1
  · obtain ⟨id, _, hid, -⟩ := mem_updatedSessions.1 hsession
    rwa [hafter.sessions id session hid]

theorem sessions_shown_iff {step : CommittedStep} {id : SessionId} (hbefore : EntriesKeyed step.before)
    (hafter : EntriesKeyed step.after) :
    (id ∈ (step.slice.communication.openedSessions ++ step.slice.communication.updatedSessions).map
          CommunicationSession.sessionId ∨ id ∈ step.slice.communication.closedSessionIds) ↔
      step.before.sessions.get? id ≠ step.after.sessions.get? id ∨
        (step.change.operationTypeId = "create_session" ∧ id ∈ step.change.createdSessionRefs) ∧
          step.after.sessions.has id = true := by
  have hopened : step.slice.communication.openedSessions = openedSessions step.before step.after step.change := rfl
  cases hid : step.after.sessions.get? id with
  | some session =>
      have hkey := hafter.sessions id session hid
      have hnotClosed : id ∉ step.slice.communication.closedSessionIds := fun hmem =>
        absurd ((mem_closedSessionIds.1 hmem).2) (by simp [hid])
      have hhas : step.after.sessions.has id = true := OrdMap.has_of_get? hid
      have hset : id ∈ (step.slice.communication.openedSessions ++
            step.slice.communication.updatedSessions).map CommunicationSession.sessionId ↔
          session ∈ step.slice.communication.openedSessions ∨ session ∈ step.slice.communication.updatedSessions := by
        rw [← List.mem_append]
        constructor
        · intro hmem
          obtain ⟨other, hother, rfl⟩ := List.mem_map.1 hmem
          have hsame : other = session := Option.some.inj ((openedSessions_held hafter other hother).symm.trans hid)
          exact hsame ▸ hother
        · intro hmem
          exact List.mem_map.2 ⟨session, hmem, hkey⟩
      have hupdated : session ∈ step.slice.communication.updatedSessions ↔
          ∃ old, step.before.sessions.get? id = some old ∧ old ≠ session := by
        rw [mem_updatedSessions]
        constructor
        · rintro ⟨id', old, hid', hold, hchanged⟩
          obtain rfl : id' = id := (hafter.sessions id' session hid').symm.trans hkey
          exact ⟨old, hold, (sessionChanged_iff ((hbefore.sessions _ _ hold).trans hkey.symm)).1 hchanged⟩
        · rintro ⟨old, hold, hne⟩
          exact ⟨id, old, hid, hold, (sessionChanged_iff ((hbefore.sessions _ _ hold).trans hkey.symm)).2 hne⟩
      rw [hset, hupdated, hopened, mem_openedSessions hafter, hkey]
      simp only [hnotClosed, or_false, hid, true_and, hhas, and_true]
      cases step.before.sessions.get? id with
      | none => simp
      | some old => simp [or_comm]
  | none =>
      have hnotSet : id ∉ (step.slice.communication.openedSessions ++
          step.slice.communication.updatedSessions).map CommunicationSession.sessionId := by
        intro hmem
        obtain ⟨other, hother, rfl⟩ := List.mem_map.1 hmem
        exact absurd (openedSessions_held hafter other hother) (by simp [hid])
      rw [mem_closedSessionIds]
      simp only [hnotSet, false_or, hid, and_true, OrdMap.has]
      cases step.before.sessions.get? id <;> simp

/-! ## Activity -/

def ShowsSomething (step : CommittedStep) : Prop :=
  (∃ id, step.before.links.get? id ≠ step.after.links.get? id) ∨
    (∃ id, (step.before.capabilities.get? id).map (·.seen) ≠ (step.after.capabilities.get? id).map (·.seen)) ∨
    (∃ id, step.before.sessions.get? id ≠ step.after.sessions.get? id) ∨
    step.change.operationTypeId = "create_session" ∨ step.change.operationTypeId = "fork_branch" ∨
    ∃ target ∈ step.change.targets, target.kind = .participant ∨ target.kind = .artifact

theorem targetIds_head?_isSome {targets : List TargetRef} {kind : TargetKind} :
    (targetIds targets kind).head?.isSome = true ↔ ∃ target ∈ targets, target.kind = kind := by
  rw [List.isSome_head?, ← List.length_pos_iff, List.length_pos_iff_exists_mem]
  simp only [targetIds, List.mem_map, List.mem_filter, decide_eq_true_eq]
  constructor
  · rintro ⟨_, target, ⟨hmem, hkind⟩, rfl⟩
    exact ⟨target, hmem, hkind⟩
  · rintro ⟨target, hmem, hkind⟩
    exact ⟨_, target, ⟨hmem, hkind⟩, rfl⟩

theorem stepIsActive_iff {change : CoordinationChange} : stepIsActive (diagnosticStepFromChange change) = true ↔
    change.operationTypeId = "create_session" ∨ change.operationTypeId = "fork_branch" ∨
      ∃ target ∈ change.targets, target.kind = .participant ∨ target.kind = .artifact := by
  unfold diagnosticStepFromChange
  by_cases hcreate : change.operationTypeId = "create_session"
  · simp [hcreate, stepIsActive]
  · by_cases hfork : change.operationTypeId = "fork_branch"
    · simp [hfork, stepIsActive]
    · simp only [hcreate, hfork, if_false, stepIsActive, Bool.or_eq_true, targetIds_head?_isSome, false_or]
      constructor
      · rintro (⟨target, hmem, hkind⟩ | ⟨target, hmem, hkind⟩)
        · exact ⟨target, hmem, .inl hkind⟩
        · exact ⟨target, hmem, .inr hkind⟩
      · rintro ⟨target, hmem, hkind | hkind⟩
        · exact .inl ⟨target, hmem, hkind⟩
        · exact .inr ⟨target, hmem, hkind⟩

theorem exists_mem_or_iff {α K : Type} {key : α → K} {entries : List α} {removed : List K} :
    (entries.length > 0 ∨ removed.length > 0) ↔ ∃ k, k ∈ entries.map key ∨ k ∈ removed := by
  rw [exists_or]
  cases entries <;> cases removed <;> simp

theorem sliceHasProjectionActivity_eq {slice : ProjectionSlice} : sliceHasProjectionActivity slice = true ↔
    (((slice.dependency.addedLinks ++ slice.dependency.updatedLinks).length > 0 ∨
        slice.dependency.removedLinkIds.length > 0) ∨
      ((slice.structure.structuralLinks ++ slice.structure.updatedStructuralLinks).length > 0 ∨
        slice.structure.removedStructuralLinkIds.length > 0)) ∨
    (slice.resource.updatedCapabilities.length > 0 ∨ slice.resource.removedCapabilityIds.length > 0) ∨
    ((slice.communication.openedSessions ++ slice.communication.updatedSessions).length > 0 ∨
      slice.communication.closedSessionIds.length > 0) ∨ stepIsActive slice.structure.step = true := by
  unfold sliceHasProjectionActivity
  simp only [List.length_append, gt_iff_lt, Nat.add_pos_iff_pos_or_pos]
  split
  · rename_i hlists
    simp only [true_iff]
    tauto
  · rename_i hlists
    simp only [not_or] at hlists
    simp only [hlists, false_or, or_self]

theorem links_active_iff {step : CommittedStep} (hafter : EntriesKeyed step.after) :
    (((step.slice.dependency.addedLinks ++ step.slice.dependency.updatedLinks).length > 0 ∨
        step.slice.dependency.removedLinkIds.length > 0) ∨
      ((step.slice.structure.structuralLinks ++ step.slice.structure.updatedStructuralLinks).length > 0 ∨
        step.slice.structure.removedStructuralLinkIds.length > 0)) ↔
      ∃ id, step.before.links.get? id ≠ step.after.links.get? id := by
  have hshown : ∀ kindFilter, ((addedLinks step.before.links step.after.links kindFilter ++
          updatedLinks step.before.links step.after.links kindFilter).length > 0 ∨
        (removedLinkIds step.before.links step.after.links kindFilter).length > 0) ↔ ∃ id, _ := fun kindFilter =>
    exists_mem_or_iff.trans (exists_congr fun id => links_shown_iff hafter.links)
  refine (or_congr (hshown isDependencyLinkKind) (hshown isStructuralLinkKind)).trans ?_
  constructor
  · rintro (⟨id, hne, -⟩ | ⟨id, hne, -⟩) <;> exact ⟨id, hne⟩
  · rintro ⟨id, hne⟩
    cases hlink : step.after.links.get? id with
    | some link =>
        rcases link_kind_covered link.kind with h | h
        · exact .inl ⟨id, hne, .inl ⟨link, hlink, h⟩⟩
        · exact .inr ⟨id, hne, .inl ⟨link, hlink, h⟩⟩
    | none =>
        cases hold : step.before.links.get? id with
        | none => exact absurd (hold.trans hlink.symm) hne
        | some link =>
            rcases link_kind_covered link.kind with h | h
            · exact .inl ⟨id, hne, .inr ⟨hlink, link, hold, h⟩⟩
            · exact .inr ⟨id, hne, .inr ⟨hlink, link, hold, h⟩⟩

theorem sliceHasProjectionActivity_iff {step : CommittedStep} (hbefore : EntriesKeyed step.before)
    (hafter : EntriesKeyed step.after) : sliceHasProjectionActivity step.slice = true ↔ ShowsSomething step := by
  have hcapabilities : (step.slice.resource.updatedCapabilities.length > 0 ∨
      step.slice.resource.removedCapabilityIds.length > 0) ↔ ∃ id,
        (step.before.capabilities.get? id).map (·.seen) ≠ (step.after.capabilities.get? id).map (·.seen) :=
    exists_mem_or_iff.trans (exists_congr fun id => capabilities_shown_iff hbefore hafter)
  have hsessions : ((step.slice.communication.openedSessions ++ step.slice.communication.updatedSessions).length > 0 ∨
      step.slice.communication.closedSessionIds.length > 0) ↔ ∃ id,
        step.before.sessions.get? id ≠ step.after.sessions.get? id ∨
          (step.change.operationTypeId = "create_session" ∧ id ∈ step.change.createdSessionRefs) ∧
            step.after.sessions.has id = true :=
    exists_mem_or_iff.trans (exists_congr fun id => sessions_shown_iff hbefore hafter)
  have hstep : stepIsActive step.slice.structure.step = true ↔ _ := @stepIsActive_iff step.change
  rw [sliceHasProjectionActivity_eq, links_active_iff hafter, hcapabilities, hsessions, hstep]
  constructor
  · rintro (hlinks | hcapabilities | ⟨id, hne | ⟨⟨hcreate, -⟩, -⟩⟩ | hnamed)
    · exact .inl hlinks
    · exact .inr (.inl hcapabilities)
    · exact .inr (.inr (.inl ⟨id, hne⟩))
    · exact .inr (.inr (.inr (.inl hcreate)))
    · exact .inr (.inr (.inr hnamed))
  · rintro (hlinks | hcapabilities | ⟨id, hne⟩ | hnamed)
    · exact .inl hlinks
    · exact .inr (.inl hcapabilities)
    · exact .inr (.inr (.inl ⟨id, .inl hne⟩))
    · exact .inr (.inr (.inr hnamed))

end Cantilune
