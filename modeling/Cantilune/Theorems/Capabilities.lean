import Cantilune.Base.Runs
import Cantilune.Lemmas.Ownership

/-!
# Capabilities and their holders

A capability is a linear resource: an operation keeps it, with its kind and scope, and only a delegation
by its holder moves it. The handlers keep this up as long as a task that is brought in does not take the
id of a capability in use. The owner of an artifact is the holder of its write lock as long as, besides,
tasks are delegated by their write locks.
-/

namespace Cantilune

def LinearStep (s : CollaborationSnapshot) (o : Operation) (t : CollaborationSnapshot) : Prop :=
  ∀ id c, s.capabilities.get? id = some c → ∃ c', t.capabilities.get? id = some c' ∧ c'.kind = c.kind ∧
    c'.scope = c.scope ∧ (c'.holder ≠ c.holder → o.Delegates id c.holder)

def LockIdFree (s : CollaborationSnapshot) (o : Operation) : Prop :=
  ∀ taskId, o.Introduces taskId → s.capabilities.has (o.writeLockId taskId) = false

/-! ### A world to try operations on -/

/-- Two active participants; `ann` owns the plan and holds its write lock and its budget slot. -/
def workshop : CollaborationSnapshot :=
  { emptySnapshot "s0" "e1" with
    participants := .ofList [("ann", participant "ann" .human), ("bob", participant "bob" .agent)]
    artifacts := .ofList
      [("plan", { artifactId := "plan", kind := "Task", contentRef := "c1", owner := ⟨"ann", .human⟩,
                  lifecycle := .active })]
    capabilities := .ofList
      [("plan-lock", ⟨"plan-lock", .writeLock, "ann", .artifact "plan"⟩),
        ("plan-budget", ⟨"plan-budget", .budgetSlot, "ann", .artifact "plan"⟩)] }

def workshopOperation (kind : BuiltinOperation) (bindings : List MatchBinding)
    (inputContentRefs : List ContentRef := []) (scalarInputs : OperationScalarInputs := .empty) : Operation where
  kind := kind
  afterRef := "s1"
  recipe :=
    { replayRecipe "e1" kind.typeId (some kind.template.templateRef) bindings kind.template.defaultVisibility with
      inputContentRefs, scalarInputs, createdSessionRefs := ["session-1"], freshLinkRefs := ["link-1"] }

/-- `ann` brings in a task and binds the id of the lock she holds on the plan. -/
def introduceOverLock : Operation :=
  workshopOperation .introduceArtifact [⟨.task, "draft"⟩, ⟨.from, "ann"⟩, ⟨.capability, "plan-lock"⟩] ["c2"]

variable {s t : CollaborationSnapshot} {o : Operation} {ops : List Operation}

theorem linearStep_of_eq (h : t.capabilities = s.capabilities) : LinearStep s o t := fun id c hc =>
  ⟨c, by rw [h, hc], rfl, rfl, fun hne => absurd rfl hne⟩

theorem linearStep_iff (h : Operation.Performs s o t) : LinearStep s o t ↔ LockIdFree s o := by
  obtain ⟨_, hin, _, _⟩ := o.perform_eq_some h
  cases ownershipStep h with
  | frame _ hCapabilities hIntroduces _ =>
      exact ⟨fun _ taskId hi => absurd hi (hIntroduces taskId), fun _ => linearStep_of_eq hCapabilities⟩
  | publish _ _ hCapabilities hKind =>
      refine ⟨fun _ taskId hi => ?_, fun _ => linearStep_of_eq hCapabilities⟩
      have := hi.1
      simp [hKind] at this
  | @introduce taskId content owner hIntroduces hNew _ hCapabilities =>
      constructor
      · intro hlin taskId' hi
        cases hIntroduces.2.symm.trans hi.2
        rw [OrdMap.has_eq_false_iff]
        by_contra hused
        obtain ⟨c, hc⟩ := Option.ne_none_iff_exists'.1 hused
        -- the scope of the capability in use names a live artifact, that of the new lock does not
        obtain ⟨c', hc', _, hscope, _⟩ := hlin _ c hc
        rw [hCapabilities, OrdMap.get?_set_self] at hc'
        cases hc'
        have hlive := (hin.capabilities _ c hc).2.2
        rw [← hscope] at hlive
        exact absurd (hlive.symm.trans hNew) (by simp)
      · intro hfree id c hc
        have hne : id ≠ o.writeLockId taskId := by
          rintro rfl
          have hused := OrdMap.has_of_get? hc
          rw [hfree taskId hIntroduces] at hused
          cases hused
        exact ⟨c, by rw [hCapabilities, OrdMap.get?_set_ne _ _ hne, hc], rfl, rfl, fun h => absurd rfl h⟩
  | @delegate taskId fromId capabilityId task lock owner hKind _ hFrom _ hCapability _ hLock hHolder _ _
      hCapabilities =>
      refine ⟨fun _ taskId' hi => ?_, fun _ id c hc => ?_⟩
      · have := hi.1
        simp [hKind] at this
      · by_cases hid : id = capabilityId
        · subst hid
          cases hLock.symm.trans hc
          refine ⟨withCapabilityHolder lock owner.actorId, ?_, rfl, rfl, fun _ => ⟨hKind, hCapability, ?_⟩⟩
          · rw [hCapabilities, OrdMap.get?_set_self]
          · rw [hHolder, hFrom]
        · exact ⟨c, by rw [hCapabilities, OrdMap.get?_set_ne _ _ hid, hc], rfl, rfl, fun h => absurd rfl h⟩

def LinearRunStep (s : CollaborationSnapshot) (o : Operation) (t : CollaborationSnapshot) : Prop :=
  Operation.Performs s o t ∧ LockIdFree s o

theorem linear_of_run (r : Run LinearRunStep s ops t) {id : CapabilityId} {c : ScopedCapability}
    (hc : s.capabilities.get? id = some c) :
    ∃ c', t.capabilities.get? id = some c' ∧ c'.kind = c.kind ∧ c'.scope = c.scope ∧
      (c'.holder ≠ c.holder → ∃ pre o post m held, ops = pre ++ o :: post ∧ Run LinearRunStep s pre m ∧
        m.capabilities.get? id = some held ∧ held.holder = c.holder ∧ o.Delegates id c.holder) := by
  have hkeep : ∀ {ops u}, Run LinearRunStep s ops u → ∃ c', u.capabilities.get? id = some c' ∧
      c'.kind = c.kind ∧ c'.scope = c.scope := fun r => by
    refine r.invariant (I := fun m => ∃ c', m.capabilities.get? id = some c' ∧ c'.kind = c.kind ∧
      c'.scope = c.scope) (fun m o m' hstep hm => ?_) ⟨c, hc, rfl, rfl⟩
    obtain ⟨d, hd, hk, hs⟩ := hm
    obtain ⟨d', hd', hk', hs', _⟩ := (linearStep_iff hstep.1).2 hstep.2 id d hd
    exact ⟨d', hd', hk'.trans hk, hs'.trans hs⟩
  obtain ⟨c', hc', hk, hs⟩ := hkeep r
  refine ⟨c', hc', hk, hs, fun hne => ?_⟩
  obtain ⟨pre, o, post, m, m', rfl, hpre, hstep, _, hm, d', hd', hne'⟩ :=
    r.exists_step_of_gain (P := fun m => ∃ d, m.capabilities.get? id = some d ∧ d.holder ≠ c.holder)
      (by rintro ⟨d, hd, hne⟩; cases hc.symm.trans hd; exact hne rfl) ⟨c', hc', hne⟩
  obtain ⟨d, hd, _⟩ := hkeep hpre
  have hholder : d.holder = c.holder := by
    by_contra hh
    exact hm ⟨d, hd, hh⟩
  obtain ⟨d'', hd'', _, _, hdel⟩ := (linearStep_iff hstep.1).2 hstep.2 id d hd
  cases hd'.symm.trans hd''
  exact ⟨pre, o, post, m, d, rfl, hpre, hd, hholder, hholder ▸ hdel (hholder ▸ hne')⟩

/-- Capabilities are linear exactly at the steps that bring in tasks under free lock ids, and throughout
the runs of such steps a holder loses a capability only by delegating it. -/
theorem capability_linearity (s : CollaborationSnapshot) :
    (∀ o t, Operation.Performs s o t → (LinearStep s o t ↔ LockIdFree s o)) ∧
    (∀ ops t, Run LinearRunStep s ops t → ∀ id c, s.capabilities.get? id = some c →
      ∃ c', t.capabilities.get? id = some c' ∧ c'.kind = c.kind ∧ c'.scope = c.scope ∧
        (c'.holder ≠ c.holder → ∃ pre o post m held, ops = pre ++ o :: post ∧ Run LinearRunStep s pre m ∧
          m.capabilities.get? id = some held ∧ held.holder = c.holder ∧ o.Delegates id c.holder)) :=
  ⟨fun _ _ h => linearStep_iff h, fun _ _ r _ _ hc => linear_of_run r hc⟩

/-- The operation succeeds, and the write lock of the plan is gone. -/
theorem introduceOverLock_not_linear :
    ∃ t, Operation.Performs workshop introduceOverLock t ∧ ¬ LinearStep workshop introduceOverLock t := by
  have hlock : (introduceOverLock.perform workshop).map (fun t => t.capabilities.get? "plan-lock")
      = some (some ⟨"plan-lock", .writeLock, "ann", .artifact "draft"⟩) := by decide +kernel
  obtain ⟨t, ht, hlock⟩ := Option.map_eq_some_iff.1 hlock
  refine ⟨t, ht, fun hlin => ?_⟩
  obtain ⟨c', hc', _, hscope, _⟩ := hlin "plan-lock" ⟨"plan-lock", .writeLock, "ann", .artifact "plan"⟩
    (by decide +kernel)
  cases hlock.symm.trans hc'
  simp at hscope

/-- `ann` delegates the plan to `bob` by the given capability. -/
def delegatePlan (capabilityId : CapabilityId) : Operation :=
  workshopOperation .delegate
    [⟨.task, "plan"⟩, ⟨.from, "ann"⟩, ⟨.to, "bob"⟩, ⟨.capability, capabilityId⟩]

theorem delegatePlan_linear : ∃ t, Operation.Performs workshop (delegatePlan "plan-lock") t ∧
    LinearStep workshop (delegatePlan "plan-lock") t := by
  have hsome : ((delegatePlan "plan-lock").perform workshop).isSome = true := by decide +kernel
  obtain ⟨t, ht⟩ := Option.isSome_iff_exists.1 hsome
  refine ⟨t, ht, ((capability_linearity workshop).1 _ _ ht).2 fun taskId hi => ?_⟩
  exact absurd hi.1 (by simp [delegatePlan, workshopOperation])

/-! ## The writer of an artifact -/

def ScopedCapability.Locks (c : ScopedCapability) (artifactId : ArtifactId) : Prop :=
  c.kind = .writeLock ∧ c.scope = .artifact artifactId

/-- Each artifact has exactly one write lock scoped to it, and the owner of the artifact holds it. -/
def SingleWriter (s : CollaborationSnapshot) : Prop :=
  ∀ id a, s.artifacts.get? id = some a → ∃ k c, s.capabilities.get? k = some c ∧ c.Locks id ∧
    c.holder = a.owner.actorId ∧ ∀ k' c', s.capabilities.get? k' = some c' → c'.Locks id → k' = k

instance (c : ScopedCapability) (artifactId : ArtifactId) : Decidable (c.Locks artifactId) :=
  inferInstanceAs (Decidable (_ ∧ _))

instance (s : CollaborationSnapshot) : Decidable (SingleWriter s) :=
  decidable_of_iff
    (∀ a ∈ s.artifacts.entries, ∃ c ∈ s.capabilities.entries, c.2.Locks a.1 ∧ c.2.holder = a.2.owner.actorId ∧
      ∀ d ∈ s.capabilities.entries, d.2.Locks a.1 → d.1 = c.1)
    (by simp only [SingleWriter, Prod.forall, Prod.exists, OrdMap.mem_entries])

def BindsFreeIds (s : CollaborationSnapshot) (o : Operation) : Prop :=
  ∀ taskId, o.Introduces taskId → ∀ id, findRole o.bindings .capability = some id →
    s.capabilities.has id = false

/-- A task that is brought in takes no id of an artifact's write lock, and a task is delegated by its
write lock, or to the one who owns it already. -/
structure KeepsWriters (s : CollaborationSnapshot) (o : Operation) : Prop where
  introduces : ∀ taskId, o.Introduces taskId → ∀ c, s.capabilities.get? (o.writeLockId taskId) = some c →
    ∀ artifactId, ¬ c.Locks artifactId
  delegates : o.kind = .delegate → ∀ taskId task k c, findRole o.bindings .task = some taskId →
    s.artifacts.get? taskId = some task → findRole o.bindings .capability = some k →
    s.capabilities.get? k = some c →
    c.kind = .writeLock ∨ findRole o.bindings .to = some task.owner.actorId

def OwnerChangesByHolder (s : CollaborationSnapshot) (o : Operation) (t : CollaborationSnapshot) : Prop :=
  ∀ id a a', s.artifacts.get? id = some a → t.artifacts.get? id = some a' →
    a'.owner.actorId ≠ a.owner.actorId →
    findRole o.bindings .task = some id ∧
      ∃ k c, s.capabilities.get? k = some c ∧ c.Locks id ∧ o.Delegates k c.holder

theorem SingleWriter.of_owners (hs : SingleWriter s) (hCapabilities : t.capabilities = s.capabilities)
    (hOwners : ∀ id a', t.artifacts.get? id = some a' →
      ∃ a, s.artifacts.get? id = some a ∧ a.owner.actorId = a'.owner.actorId) : SingleWriter t := by
  intro id a' ha'
  obtain ⟨a, ha, howner⟩ := hOwners id a' ha'
  rw [hCapabilities, ← howner]
  exact hs id a ha

theorem singleWriter_introduce_iff {taskId : ArtifactId} {task : WorkArtifact} {lockId : CapabilityId}
    {lock : ScopedCapability} (hin : Integrity s) (hs : SingleWriter s) (hNew : s.artifacts.has taskId = false)
    (hLock : lock.Locks taskId) (hHolder : lock.holder = task.owner.actorId)
    (hArtifacts : t.artifacts = s.artifacts.set taskId task)
    (hCapabilities : t.capabilities = s.capabilities.set lockId lock) :
    SingleWriter t ↔ ∀ c, s.capabilities.get? lockId = some c → ∀ artifactId, ¬ c.Locks artifactId := by
  have hlive : ∀ {k c id}, s.capabilities.get? k = some c → c.Locks id → s.artifacts.has id = true := by
    intro k c id hc hl
    have := (hin.capabilities k c hc).2.2
    rwa [hl.2] at this
  have hne : ∀ {k c id}, s.capabilities.get? k = some c → c.Locks id → id ≠ taskId := by
    rintro k c id hc hl rfl
    exact absurd ((hlive hc hl).symm.trans hNew) (by simp)
  constructor
  · intro ht c hc id hl
    obtain ⟨a, ha⟩ := OrdMap.has_iff.1 (hlive hc hl)
    obtain ⟨k, d, hd, hdl, _, _⟩ := ht id a (by rw [hArtifacts, OrdMap.get?_set_ne _ _ (hne hc hl), ha])
    obtain ⟨k₀, _, _, _, _, huniq⟩ := hs id a ha
    by_cases hk : k = lockId
    · subst hk
      rw [hCapabilities, OrdMap.get?_set_self] at hd
      cases hd
      exact hne hc hl (by simpa using hdl.2.symm.trans hLock.2)
    · rw [hCapabilities, OrdMap.get?_set_ne _ _ hk] at hd
      exact hk ((huniq k d hd hdl).trans (huniq lockId c hc hl).symm)
  · intro hfree id a ha
    rw [hCapabilities]
    by_cases hid : id = taskId
    · subst hid
      rw [hArtifacts, OrdMap.get?_set_self] at ha
      cases ha
      refine ⟨lockId, lock, OrdMap.get?_set_self .., hLock, hHolder, fun k' c' hc' hl' => ?_⟩
      by_contra hk
      rw [OrdMap.get?_set_ne _ _ hk] at hc'
      exact hne hc' hl' rfl
    · rw [hArtifacts, OrdMap.get?_set_ne _ _ hid] at ha
      obtain ⟨k, c, hc, hl, hh, huniq⟩ := hs id a ha
      have hk : k ≠ lockId := by
        rintro rfl
        exact hfree c hc id hl
      refine ⟨k, c, by rw [OrdMap.get?_set_ne _ _ hk, hc], hl, hh, fun k' c' hc' hl' => ?_⟩
      by_cases hk' : k' = lockId
      · subst hk'
        rw [OrdMap.get?_set_self] at hc'
        cases hc'
        exact absurd (by simpa using hl'.2.symm.trans hLock.2) hid
      · exact huniq k' c' (by rwa [OrdMap.get?_set_ne _ _ hk'] at hc') hl'

theorem singleWriter_delegate_iff {taskId : ArtifactId} {task : WorkArtifact} {lockId : CapabilityId}
    {lock : ScopedCapability} {owner : ActorRef} (hs : SingleWriter s)
    (hTask : s.artifacts.get? taskId = some task) (hLock : s.capabilities.get? lockId = some lock)
    (hScope : lock.scope = .artifact taskId)
    (hArtifacts : t.artifacts = s.artifacts.set taskId (withArtifactOwner task owner))
    (hCapabilities : t.capabilities = s.capabilities.set lockId (withCapabilityHolder lock owner.actorId)) :
    SingleWriter t ↔ lock.kind = .writeLock ∨ owner.actorId = task.owner.actorId := by
  obtain ⟨k₀, c₀, hc₀, hl₀, hh₀, huniq₀⟩ := hs taskId task hTask
  constructor
  · intro ht
    obtain ⟨k, c, hc, hl, hh, _⟩ := ht taskId _ (by rw [hArtifacts, OrdMap.get?_set_self])
    by_cases hk : k = lockId
    · subst hk
      rw [hCapabilities, OrdMap.get?_set_self] at hc
      cases hc
      exact .inl hl.1
    · rw [hCapabilities, OrdMap.get?_set_ne _ _ hk] at hc
      cases huniq₀ k c hc hl
      cases hc.symm.trans hc₀
      exact .inr (hh.symm.trans hh₀)
  · intro hkeep id a ha
    rw [hCapabilities]
    by_cases hid : id = taskId
    · subst hid
      rw [hArtifacts, OrdMap.get?_set_self] at ha
      cases ha
      by_cases hwrite : lock.kind = .writeLock
      · cases huniq₀ lockId lock hLock ⟨hwrite, hScope⟩
        refine ⟨lockId, _, OrdMap.get?_set_self .., ⟨hwrite, hScope⟩, rfl, fun k' c' hc' hl' => ?_⟩
        by_contra hk
        rw [OrdMap.get?_set_ne _ _ hk] at hc'
        exact hk (huniq₀ k' c' hc' hl')
      · have hk₀ : k₀ ≠ lockId := by
          rintro rfl
          cases hLock.symm.trans hc₀
          exact hwrite hl₀.1
        refine ⟨k₀, c₀, by rw [OrdMap.get?_set_ne _ _ hk₀, hc₀], hl₀,
          hh₀.trans (hkeep.resolve_left hwrite).symm, fun k' c' hc' hl' => ?_⟩
        by_cases hk' : k' = lockId
        · subst hk'
          rw [OrdMap.get?_set_self] at hc'
          cases hc'
          exact absurd hl'.1 hwrite
        · exact huniq₀ k' c' (by rwa [OrdMap.get?_set_ne _ _ hk'] at hc') hl'
    · rw [hArtifacts, OrdMap.get?_set_ne _ _ hid] at ha
      obtain ⟨k, c, hc, hl, hh, huniq⟩ := hs id a ha
      have hk : k ≠ lockId := by
        rintro rfl
        cases hLock.symm.trans hc
        exact hid (by simpa using hl.2.symm.trans hScope)
      refine ⟨k, c, by rw [OrdMap.get?_set_ne _ _ hk, hc], hl, hh, fun k' c' hc' hl' => ?_⟩
      by_cases hk' : k' = lockId
      · subst hk'
        rw [OrdMap.get?_set_self] at hc'
        cases hc'
        exact absurd (by simpa using hl'.2.symm.trans hScope) hid
      · exact huniq k' c' (by rwa [OrdMap.get?_set_ne _ _ hk'] at hc') hl'

theorem singleWriter_step_iff (hs : SingleWriter s) (h : Operation.Performs s o t) :
    SingleWriter t ↔ KeepsWriters s o := by
  obtain ⟨_, hin, _, _⟩ := o.perform_eq_some h
  cases ownershipStep h with
  | frame hArtifacts hCapabilities hIntroduces hKind =>
      refine ⟨fun _ => ⟨fun taskId hi => absurd hi (hIntroduces taskId), fun hk => absurd hk hKind⟩, fun _ => ?_⟩
      exact hs.of_owners hCapabilities fun id a' ha' => ⟨a', by rwa [hArtifacts] at ha', rfl⟩
  | @publish artifactId artifact hArtifact hArtifacts hCapabilities hKind =>
      refine ⟨fun _ => ⟨fun taskId hi => ?_, fun hk => ?_⟩, fun _ => hs.of_owners hCapabilities fun id a' ha' => ?_⟩
      · have := hi.1
        simp [hKind] at this
      · simp [hKind] at hk
      · by_cases hid : id = artifactId
        · subst hid
          rw [hArtifacts, OrdMap.get?_set_self] at ha'
          cases ha'
          exact ⟨artifact, hArtifact, rfl⟩
        · rw [hArtifacts, OrdMap.get?_set_ne _ _ hid] at ha'
          exact ⟨a', ha', rfl⟩
  | @introduce taskId content owner hIntroduces hNew hArtifacts hCapabilities =>
      rw [singleWriter_introduce_iff hin hs hNew ⟨rfl, rfl⟩ rfl hArtifacts hCapabilities]
      refine ⟨fun hfree => ⟨fun taskId' hi => ?_, fun hk => ?_⟩, fun hkeep => hkeep.introduces taskId hIntroduces⟩
      · cases hIntroduces.2.symm.trans hi.2
        exact hfree
      · have := hIntroduces.1
        simp [hk] at this
  | @delegate taskId fromId capabilityId task lock owner hKind hTaskId _ hTo hCapability hTask hLock _ hScope
      hArtifacts hCapabilities =>
      rw [singleWriter_delegate_iff hs hTask hLock hScope hArtifacts hCapabilities]
      constructor
      · refine fun hkeep => ⟨fun taskId' hi => ?_, fun _ taskId' task' k c ht' htask' hk hc => ?_⟩
        · have := hi.1
          simp [hKind] at this
        · cases hTaskId.symm.trans ht'
          cases hTask.symm.trans htask'
          cases hCapability.symm.trans hk
          cases hLock.symm.trans hc
          exact hkeep.imp_right fun (howner : owner.actorId = task.owner.actorId) => by rw [hTo, howner]
      · intro hkeep
        refine (hkeep.delegates hKind taskId task capabilityId lock hTaskId hTask hCapability hLock).imp_right ?_
        intro hto
        simpa using hTo.symm.trans hto

theorem ownerChangesByHolder (h : Operation.Performs s o t) (hkeep : KeepsWriters s o) :
    OwnerChangesByHolder s o t := by
  intro id a a' ha ha' hne
  cases ownershipStep h with
  | frame hArtifacts _ _ _ =>
      rw [hArtifacts] at ha'
      cases ha.symm.trans ha'
      exact absurd rfl hne
  | @publish artifactId artifact hArtifact hArtifacts _ _ =>
      by_cases hid : id = artifactId
      · subst hid
        rw [hArtifacts, OrdMap.get?_set_self] at ha'
        cases ha'
        cases hArtifact.symm.trans ha
        exact absurd rfl hne
      · rw [hArtifacts, OrdMap.get?_set_ne _ _ hid] at ha'
        cases ha.symm.trans ha'
        exact absurd rfl hne
  | @introduce taskId content owner _ hNew hArtifacts _ =>
      have hid : id ≠ taskId := by
        rintro rfl
        exact absurd ((OrdMap.has_of_get? ha).symm.trans hNew) (by simp)
      rw [hArtifacts, OrdMap.get?_set_ne _ _ hid] at ha'
      cases ha.symm.trans ha'
      exact absurd rfl hne
  | @delegate taskId fromId capabilityId task lock owner hKind hTaskId hFrom hTo hCapability hTask hLock hHolder
      hScope hArtifacts _ =>
      by_cases hid : id = taskId
      · subst hid
        rw [hArtifacts, OrdMap.get?_set_self] at ha'
        cases ha'
        cases hTask.symm.trans ha
        have hwrite : lock.kind = .writeLock := by
          refine (hkeep.delegates hKind id _ capabilityId lock hTaskId hTask hCapability hLock).resolve_right ?_
          intro hto
          exact hne (Option.some.inj (hTo.symm.trans hto))
        exact ⟨hTaskId, capabilityId, lock, hLock, ⟨hwrite, hScope⟩, hKind, hCapability, by rw [hHolder, hFrom]⟩
      · rw [hArtifacts, OrdMap.get?_set_ne _ _ hid] at ha'
        cases ha.symm.trans ha'
        exact absurd rfl hne

def WriterRunStep (s : CollaborationSnapshot) (o : Operation) (t : CollaborationSnapshot) : Prop :=
  Operation.Performs s o t ∧ KeepsWriters s o

/-- Each artifact keeps its single writer exactly at the steps that meet the condition; along a run of
such steps it has one in every world, and changes hands only by a delegation of its lock's holder. -/
theorem single_writer (s : CollaborationSnapshot) (hs : SingleWriter s) :
    (∀ o t, Operation.Performs s o t → (SingleWriter t ↔ KeepsWriters s o)) ∧
    (∀ ops t, Run WriterRunStep s ops t →
      SingleWriter t ∧ ∀ o u, WriterRunStep t o u → OwnerChangesByHolder t o u) := by
  refine ⟨fun _ _ h => singleWriter_step_iff hs h, fun ops t r => ?_⟩
  have ht : SingleWriter t :=
    r.invariant (fun _ _ _ h hs => (singleWriter_step_iff hs h.1).2 h.2) hs
  exact ⟨ht, fun _ _ h => ownerChangesByHolder h.1 h.2⟩

/-- `ann` delegates the plan by its budget slot: `bob` owns it, and `ann` still holds the write lock. -/
theorem delegatePlan_by_budget_not_singleWriter : SingleWriter workshop ∧
    ∃ t, Run (fun s o t => Operation.Performs s o t ∧ BindsFreeIds s o) workshop [delegatePlan "plan-budget"] t ∧
      ¬ SingleWriter t := by
  have hlost : ((delegatePlan "plan-budget").perform workshop).map (fun t => decide (SingleWriter t))
      = some false := by decide +kernel
  obtain ⟨t, ht, hnot⟩ := Option.map_eq_some_iff.1 hlost
  refine ⟨by decide +kernel, t, .single ⟨ht, fun taskId hi => ?_⟩, by simpa using hnot⟩
  exact absurd hi.1 (by simp [delegatePlan, workshopOperation])

/-- Delegated by its write lock, the plan goes to `bob` with the lock. -/
theorem delegatePlan_singleWriter : ∃ t, Run WriterRunStep workshop [delegatePlan "plan-lock"] t ∧
    SingleWriter t := by
  have hsome : ((delegatePlan "plan-lock").perform workshop).isSome = true := by decide +kernel
  obtain ⟨t, ht⟩ := Option.isSome_iff_exists.1 hsome
  have hkeep : KeepsWriters workshop (delegatePlan "plan-lock") := by
    refine ⟨fun taskId hi => ?_, fun _ taskId task k c _ _ hk hc => .inl ?_⟩
    · exact absurd hi.1 (by simp [delegatePlan, workshopOperation])
    · cases (show findRole (delegatePlan "plan-lock").bindings .capability = some "plan-lock" by decide).symm.trans hk
      cases (show workshop.capabilities.get? "plan-lock" =
        some ⟨"plan-lock", .writeLock, "ann", .artifact "plan"⟩ by decide +kernel).symm.trans hc
      rfl
  have r : Run WriterRunStep workshop [delegatePlan "plan-lock"] t := .single ⟨ht, hkeep⟩
  exact ⟨t, r, ((single_writer workshop (by decide +kernel)).2 _ t r).1⟩

end Cantilune
