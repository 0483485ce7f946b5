import Cantilune.Base.Runs
import Cantilune.Lemmas.Writes
import Cantilune.Theorems.Capabilities

/-!
# Operations with disjoint footprints

Admission lets two operations proceed side by side when the footprints of their bindings are disjoint. They
then can be applied in either order, unless both claim one write lock: a task brought in without a
capability binding takes the lock id derived from the task, which no footprint mentions.
-/

namespace Cantilune

/-! ## Statement -/

/-- The entities that the bindings name, as admission computes them. -/
def Operation.footprint (o : Operation) : Footprint :=
  footprintFromTargets (targetsFromMatchBindings o.bindings)

/-- The references that the committer drew for one operation are unknown to the other. -/
structure FreshApart (o₁ o₂ : Operation) : Prop where
  links : ∀ id ∈ o₁.recipe.freshLinkRefs, id ∉ o₂.recipe.freshLinkRefs
  sessions : ∀ id ∈ o₁.recipe.createdSessionRefs, id ∉ o₂.recipe.createdSessionRefs
  left : ∀ id ∈ o₁.recipe.createdSessionRefs, ¬ o₂.Binds .session id
  right : ∀ id ∈ o₂.recipe.createdSessionRefs, ¬ o₁.Binds .session id

/-- The recipe has the references that the committer draws before it applies it. -/
structure Operation.Freshened (o : Operation) : Prop where
  links : freshLinkCount o.recipe o.kind.typeId ≤ o.recipe.freshLinkRefs.length
  sessions : o.kind = .delegate ∨ o.kind = .createSession → o.recipe.createdSessionRefs ≠ []

/-- Equal in every collection, up to the order of the heartbeats. -/
structure SameUpToLogOrder (s t : CollaborationSnapshot) : Prop where
  participants : s.participants.Equiv t.participants
  artifacts : s.artifacts.Equiv t.artifacts
  links : s.links.Equiv t.links
  sessions : s.sessions.Equiv t.sessions
  capabilities : s.capabilities.Equiv t.capabilities
  transcripts : s.transcripts.Equiv t.transcripts
  heartbeatLog : s.heartbeatLog.Perm t.heartbeatLog
  rest : SameRest s t

/-- Both orders succeed or fail alike, and lead to the same world. -/
structure Commute (s : CollaborationSnapshot) (o₁ o₂ : Operation) : Prop where
  alike : (∃ t, Run Operation.Applies s [o₁, o₂] t) ↔ ∃ t, Run Operation.Applies s [o₂, o₁] t
  same : ∀ t u, Run Operation.Applies s [o₁, o₂] t → Run Operation.Applies s [o₂, o₁] u → SameUpToLogOrder t u

def Operation.BringsIn (o : Operation) (s : CollaborationSnapshot) (taskId : ArtifactId) : Prop :=
  o.Introduces taskId ∧ s.artifacts.has taskId = false ∧ o.recipe.inputContentRefs ≠ []

def Operation.ClaimsLock (o : Operation) (s : CollaborationSnapshot) (id : CapabilityId) : Prop :=
  (∃ taskId, o.BringsIn s taskId ∧ o.writeLockId taskId = id) ∨
    o.kind = .delegate ∧ findRole o.bindings .capability = some id

variable {s t u : CollaborationSnapshot} {o o₁ o₂ : Operation}

theorem SameRest.symm (h : SameRest s t) : SameRest t s :=
  ⟨h.1.symm, h.2.symm, h.3.symm, h.4.symm, h.5.symm, h.6.symm⟩

theorem SameRest.trans (h : SameRest s t) (k : SameRest t u) : SameRest s u :=
  ⟨h.1.trans k.1, h.2.trans k.2, h.3.trans k.3, h.4.trans k.4, h.5.trans k.5, h.6.trans k.6⟩

theorem heartbeats_perm {log log' : List HeartbeatEntry}
    (h : ∀ agentId, (log.filter fun e => e.agentId = agentId) = log'.filter fun e => e.agentId = agentId) :
    log.Perm log' := by
  rw [List.perm_iff_count]
  intro e
  have hcount : ∀ l : List HeartbeatEntry, (l.filter fun x => x.agentId = e.agentId).count e = l.count e :=
    fun l => List.count_filter (by simp)
  rw [← hcount log, ← hcount log', h]

theorem sameUpToLogOrder_of_view (h : ∀ l, view s l = view t l) (hrest : SameRest s t) :
    SameUpToLogOrder s t where
  participants id := h (.participant id)
  artifacts id := h (.artifact id)
  links id := h (.link id)
  sessions id := h (.session id)
  capabilities id := h (.capability id)
  transcripts id := h (.transcript id)
  heartbeatLog := heartbeats_perm fun agentId => h (.heartbeats agentId)
  rest := hrest

theorem applies_deterministic (s : CollaborationSnapshot) (o : Operation) (t u : CollaborationSnapshot)
    (h : Operation.Applies s o t) (k : Operation.Applies s o u) : t = u :=
  Option.some.inj (h.symm.trans k)

theorem swap_run (hs : KeysMatch s) (hdis : Disjoint o₁.writes o₂.writes)
    (r : Run Operation.Applies s [o₁, o₂] t) :
    ∃ u, Run Operation.Applies s [o₂, o₁] u ∧ SameUpToLogOrder t u := by
  obtain ⟨m, h₁, r⟩ := Run.cons_iff.1 r
  obtain ⟨_, h₂, r⟩ := Run.cons_iff.1 r
  cases Run.nil_iff.1 r
  have hm := keysMatch_applies hs h₁
  obtain ⟨ws, rfl, hws⟩ := Operation.acts_of_applies hs h₁
  obtain ⟨vs, rfl, hvs⟩ := Operation.acts_of_applies hm h₂
  rw [Operation.acts_withSnapshotRef] at hvs
  obtain ⟨hvs', hws'⟩ := o₁.confined.swap o₂.confined (hdis.mono_right o₂.reads_subset_writes)
    (hdis.symm.mono_right o₁.reads_subset_writes) hws hvs
  refine ⟨_, .cons (Operation.applies_of_acts hvs')
    (.single (Operation.applies_of_acts ((Operation.acts_withSnapshotRef _).2 hws'))), ?_⟩
  refine sameUpToLogOrder_of_view (fun l => ?_) ?_
  · calc view (cells.writeAll (withSnapshotRef (cells.writeAll s ws) o₁.afterRef) vs) l
        = view (cells.writeAll (cells.writeAll s ws) vs) l := Cells.view_writeAll_congr (c := cells) vs rfl
      _ = view (cells.writeAll (cells.writeAll s vs) ws) l :=
          Cells.view_writeAll_comm (c := cells) hws.locs hvs.locs hdis l
      _ = view (cells.writeAll (withSnapshotRef (cells.writeAll s vs) o₂.afterRef) ws) l :=
          Cells.view_writeAll_congr (c := cells) ws rfl
  · have hrest : ∀ {s t : CollaborationSnapshot} (ref : SnapshotRef), SameRest s t →
        SameRest s (withSnapshotRef t ref) := fun _ h => ⟨h.1, h.2, h.3, h.4, h.5, h.6⟩
    have hall : ∀ ws vs r r', SameRest s (withSnapshotRef (cells.writeAll
        (withSnapshotRef (cells.writeAll s ws) r) vs) r') := fun ws vs r r' =>
      hrest r' ((hrest r (sameRest_writeAll s ws)).trans (sameRest_writeAll _ vs))
    exact (hall ws vs _ _).symm.trans (hall vs ws _ _)

theorem commute_of_disjoint (hs : KeysMatch s) (hdis : Disjoint o₁.writes o₂.writes) : Commute s o₁ o₂ where
  alike :=
    ⟨fun ⟨_, r⟩ => (swap_run hs hdis r).imp fun _ h => h.1,
      fun ⟨_, r⟩ => (swap_run hs hdis.symm r).imp fun _ h => h.1⟩
  same t u r q := by
    obtain ⟨u', q', hsame⟩ := swap_run hs hdis r
    cases q.deterministic applies_deterministic q'
    exact hsame

theorem binds_apart (h : footprintsOverlap o₁.footprint o₂.footprint = false) {kind : TargetKind} {id : String}
    (h₁ : o₁.Binds kind id) : ¬ o₂.Binds kind id := by
  intro h₂
  have hover := setsOverlap_iff.2 ⟨id, h₁, h₂⟩
  simp only [footprintsOverlap, Bool.or_eq_false_iff, Operation.footprint, footprintFromTargets] at h
  cases kind with
  | artifact => exact absurd hover (by simp [h])
  | participant => exact absurd hover (by simp [h])
  | session => exact absurd hover (by simp [h])
  | capability => exact absurd hover (by simp [h])
  | link => exact absurd hover (by simp [h])

theorem writes_disjoint (h : footprintsOverlap o₁.footprint o₂.footprint = false) (hfresh : FreshApart o₁ o₂)
    (hlock : ∀ id, o₁.TakesLock id → ¬ o₂.TakesLock id) : Disjoint o₁.writes o₂.writes := by
  rw [Set.disjoint_left]
  intro l h₁ h₂
  cases l with
  | participant id => exact binds_apart h h₁ h₂
  | artifact id => exact binds_apart h h₁ h₂
  | link id => exact hfresh.links id h₁ h₂
  | session id =>
      rcases h₁ with h₁ | h₁
      · rcases h₂ with h₂ | h₂
        · exact binds_apart h h₁ h₂
        · exact hfresh.right id h₂ h₁
      · rcases h₂ with h₂ | h₂
        · exact hfresh.left id h₁ h₂
        · exact hfresh.sessions id h₁ h₂
  | capability id => exact hlock id h₁ h₂
  | transcript id => exact binds_apart h h₁ h₂
  | heartbeats id => exact binds_apart h h₁ h₂

/-! ## Who claims a lock -/

theorem ne_nil_of_first {l : List ContentRef} {c : ContentRef} (h : l[0]? = some c) : l ≠ [] := by
  rintro rfl
  simp at h

theorem bringsIn_of_applies (h : Operation.Applies s o t) {taskId : ArtifactId} (hi : o.Introduces taskId) :
    o.BringsIn s taskId := by
  obtain ⟨_, _, heff⟩ := Operation.applies_iff.1 h
  refine ⟨hi, ?_⟩
  obtain ⟨kind, recipe, afterRef⟩ := o
  obtain ⟨hkind, hrole⟩ := hi
  cases heff with
  | introduceArtifact hTask _ hNew hContent _ =>
      cases hTask.symm.trans hrole
      exact ⟨hNew, ne_nil_of_first hContent⟩
  | forkBranchTask _ hTask hNew hContent _ _ =>
      cases hTask.symm.trans hrole
      exact ⟨hNew, ne_nil_of_first hContent⟩
  | forkBranch _ hTask _ _ _ => cases hTask.symm.trans hrole
  | _ => simp at hkind

theorem claimsLock_of_applies (h : Operation.Applies s o t) {id : CapabilityId} (hl : o.TakesLock id) :
    o.ClaimsLock s id := by
  rcases hl with ⟨taskId, hi, hid⟩ | hdel
  · exact .inl ⟨taskId, bringsIn_of_applies h hi, hid⟩
  · exact .inr hdel

theorem artifacts_of_applies (hs : KeysMatch s) (h : Operation.Applies s o₁ t)
    (hfoot : footprintsOverlap o₁.footprint o₂.footprint = false) {id : ArtifactId}
    (hid : o₂.Binds .artifact id) : t.artifacts.get? id = s.artifacts.get? id := by
  obtain ⟨ws, rfl, hws⟩ := Operation.acts_of_applies hs h
  refine Cells.view_writeAll_of_notMem (c := cells) (l := .artifact id) fun w hw heq => ?_
  have hmem := hws.locs w hw
  rw [show w.loc = .artifact id from heq] at hmem
  exact binds_apart hfoot hmem hid

theorem claimsLock_of_run (hs : KeysMatch s) (hfoot : footprintsOverlap o₁.footprint o₂.footprint = false)
    (r : Run Operation.Applies s [o₁, o₂] t) {id : CapabilityId} (h₁ : o₁.TakesLock id) (h₂ : o₂.TakesLock id) :
    o₁.ClaimsLock s id ∧ o₂.ClaimsLock s id := by
  obtain ⟨m, hm, r⟩ := Run.cons_iff.1 r
  obtain ⟨_, hn, _⟩ := Run.cons_iff.1 r
  refine ⟨claimsLock_of_applies hm h₁, ?_⟩
  rcases claimsLock_of_applies hn h₂ with ⟨taskId, ⟨hi, hnew, hcontent⟩, hid⟩ | hdel
  · have hget := artifacts_of_applies hs hm hfoot (Operation.binds_of_findRole hi.2)
    exact .inl ⟨taskId, ⟨hi, by rwa [OrdMap.has, ← hget], hcontent⟩, hid⟩
  · exact .inr hdel

theorem commute_of_claims (hs : KeysMatch s) (hfoot : footprintsOverlap o₁.footprint o₂.footprint = false)
    (hfresh : FreshApart o₁ o₂) (hclaims : ∀ id, o₁.ClaimsLock s id → ¬ o₂.ClaimsLock s id) :
    Commute s o₁ o₂ := by
  by_cases hlock : ∀ id, o₁.TakesLock id → ¬ o₂.TakesLock id
  · exact commute_of_disjoint hs (writes_disjoint hfoot hfresh hlock)
  · -- both take one lock, but one of them does not get as far as claiming it: neither order succeeds
    push Not at hlock
    obtain ⟨id, h₁, h₂⟩ := hlock
    have hleft : ∀ t, ¬ Run Operation.Applies s [o₁, o₂] t := fun t r =>
      hclaims id (claimsLock_of_run hs hfoot r h₁ h₂).1 (claimsLock_of_run hs hfoot r h₁ h₂).2
    have hright : ∀ t, ¬ Run Operation.Applies s [o₂, o₁] t := fun t r => by
      have hclaim := claimsLock_of_run hs ((footprintsOverlap_comm ..).trans hfoot) r h₂ h₁
      exact hclaims id hclaim.2 hclaim.1
    exact ⟨⟨fun ⟨t, r⟩ => absurd r (hleft t), fun ⟨t, r⟩ => absurd r (hright t)⟩,
      fun t _ r => absurd r (hleft t)⟩

theorem length_pairwise (ids : List ActorId) : (pairwise ids).length = ids.length * (ids.length - 1) / 2 := by
  induction ids with
  | nil => rfl
  | cons x xs ih =>
      have hstep : (xs.length + 1) * xs.length = xs.length * (xs.length - 1) + xs.length * 2 := by
        cases xs.length with
        | zero => rfl
        | succ n =>
            simp only [Nat.add_sub_cancel, Nat.mul_succ, Nat.succ_mul]
            omega
      rw [pairwise, List.length_append, List.length_map, ih, List.length_cons, Nat.add_sub_cancel, hstep,
        Nat.add_mul_div_right _ _ (by omega), Nat.add_comm]

theorem freshLinkCount_forkBranch (recipe : ReplayRecipe) :
    freshLinkCount recipe BuiltinOperation.forkBranch.typeId = countForkLinks recipe := by
  simp [freshLinkCount, BuiltinOperation.typeId, BuiltinOperation.template, forkBranchTemplate, defaultTemplate]

theorem pairwise_le_freshLinkRefs {recipe : ReplayRecipe} {afterRef : SnapshotRef} {controllerId : ActorId}
    (h : Operation.Freshened ⟨.forkBranch, recipe, afterRef⟩)
    (hfrom : findRole recipe.matchBindings .from = some controllerId) :
    (pairwise (sessionParticipants recipe controllerId)).length ≤ recipe.freshLinkRefs.length := by
  refine le_trans (le_of_eq ?_) h.links
  rw [length_pairwise, freshLinkCount_forkBranch, countForkLinks, hfrom]
  simp only [sessionParticipants]
  split
  · rename_i hlt
    rcases Nat.lt_succ_iff.1 hlt |>.eq_or_lt with hone | hzero
    · rw [hone]
    · rw [Nat.lt_one_iff.1 hzero]
  · rfl

theorem freshened_allocate (kind : BuiltinOperation) (recipe : ReplayRecipe) (idGen : IdGenerator) (drawn : Nat)
    (afterRef : SnapshotRef) :
    Operation.Freshened ⟨kind, (allocateFreshRefsForRecipe recipe kind.typeId idGen drawn).1, afterRef⟩ := by
  unfold allocateFreshRefsForRecipe
  constructor
  · simp only
    split
    · simp [freshLinkCount, countDelegateReviewerLinks, countCreateSessionLinks, countForkLinks]
    · split
      · simp [freshLinkCount, countDelegateReviewerLinks, countCreateSessionLinks, countForkLinks]
      · simp [freshLinkCount, countDelegateReviewerLinks, countCreateSessionLinks, countForkLinks]
  · simp only
    rintro (rfl | rfl)
    · split
      · rename_i hlen
        exact List.length_pos_iff.1 hlen
      · simp [BuiltinOperation.typeId, BuiltinOperation.template, delegateTemplate, defaultTemplate]
    · split
      · rename_i hlen
        exact List.length_pos_iff.1 hlen
      · simp [BuiltinOperation.typeId, BuiltinOperation.template, createSessionTemplate, defaultTemplate]

/-! ## Two claims on one lock -/

theorem boundAnd_eq_true {id : Option String} {test : String → Bool} :
    boundAnd id test = true ↔ ∃ x, id = some x ∧ test x = true := by
  cases id <;> simp [boundAnd]

/-- What `delegator.holds` says of an operation that names a capability: it is there, with its holder. -/
theorem holder_of_capabilityHeldBy {bs : List MatchBinding} {id : CapabilityId}
    (hcap : findRole bs .capability = some id) (h : evaluateCondition s bs (capabilityHeldBy .from) = true) :
    ∃ fromId lock, findRole bs .from = some fromId ∧ s.capabilities.get? id = some lock ∧
      lock.holder = fromId := by
  change evaluateDelegatorHolds s bs (capabilityHeldBy .from) = true at h
  have htask : idFromRole bs .artifact ((capabilityHeldBy .from).role "task" .task) = findRole bs .task := rfl
  have hfrom : idFromRole bs .participant ((capabilityHeldBy .from).role "from" .from) = findRole bs .from := rfl
  have hcap' : idFromRole bs .capability ((capabilityHeldBy .from).role "capability" .capability) = some id :=
    hcap
  simp only [evaluateDelegatorHolds, htask, hfrom, hcap'] at h
  split at h
  · rename_i taskId fromId _ hf
    split at h
    · rename_i lock hlock
      simp only [Bool.and_eq_true, decide_eq_true_eq] at h
      exact ⟨fromId, lock, hf, hlock, h.1⟩
    · cases h
  · cases h

theorem findRole_of_registered {bs : List MatchBinding} {role : MatchBindingRole}
    (hrole : role.targetKind = .participant) (h : evaluateCondition s bs (participantRegistered role) = true) :
    ∃ id, findRole bs role = some id ∧ s.participants.has id = true := by
  have hid : idFromRole bs .participant ((participantRegistered role).role "participant" .from) =
      findRole bs role := by
    change idFromRole bs .participant role = _
    rw [idFromRole, if_pos hrole]
  change boundAnd (idFromRole bs .participant ((participantRegistered role).role "participant" .from))
    s.participants.has = true at h
  rw [hid] at h
  exact boundAnd_eq_true.1 h

theorem initiator_of_introduces (h : o.Admitted s) {taskId : ArtifactId} (hi : o.Introduces taskId) :
    ∃ id, findRole o.bindings .from = some id ∧ s.participants.has id = true := by
  refine findRole_of_registered rfl (requires_of_admitted h ?_)
  rcases hi.1 with hk | hk
  · rw [hk]; decide
  · rw [hk]; decide

theorem bringsIn_applies {taskId : ArtifactId} {fromId : ActorId} (hfresh : o.Freshened)
    (h : o.BringsIn s taskId) (hfrom : findRole o.bindings .from = some fromId)
    (hp : s.participants.has fromId = true) :
    ∃ t, Operation.Applies s o t ∧ t.participants = s.participants ∧
      t.capabilities.get? (o.writeLockId taskId) =
        some ⟨o.writeLockId taskId, .writeLock, fromId, .artifact taskId⟩ := by
  obtain ⟨⟨hkind, htask⟩, hnew, hcontent⟩ := h
  obtain ⟨p, hp⟩ := OrdMap.has_iff.1 hp
  obtain ⟨kind, recipe, afterRef⟩ := o
  obtain ⟨content, hfirst⟩ : ∃ content, recipe.inputContentRefs[0]? = some content := by
    cases hrefs : recipe.inputContentRefs with
    | nil => exact absurd hrefs hcontent
    | cons c cs => exact ⟨c, rfl⟩
  rcases hkind with rfl | rfl
  · exact ⟨_, Operation.applies_iff.2 ⟨_, rfl, .introduceArtifact htask hfrom hnew hfirst hp⟩, rfl,
      OrdMap.get?_set_self ..⟩
  · exact ⟨_, Operation.applies_iff.2 ⟨_, rfl, .forkBranchTask hfrom htask hnew hfirst hp
      (pairwise_le_freshLinkRefs hfresh hfrom)⟩, rfl, OrdMap.get?_set_self ..⟩

theorem linkReviewer_has {recipe : ReplayRecipe} {fromId toId id : ActorId}
    (h : s.participants.has id = true) : (linkReviewer s recipe fromId toId).participants.has id = true := by
  unfold linkReviewer
  split
  · simp only
    split
    · exact h
    · simp [withLink, withParticipant, OrdMap.has_set, h]
  · exact h

theorem delegate_ready (h : o.Admitted s) (hkind : o.kind = .delegate) {id : CapabilityId}
    (hcap : findRole o.bindings .capability = some id) :
    ∃ b, delegateBindings o.recipe = some b ∧ b.capabilityId = id ∧ s.artifacts.has b.taskId = true ∧
      s.capabilities.has id = true ∧ s.participants.has b.toId = true ∧ s.participants.has b.fromId = true := by
  have hin := validateSnapshotIntegrityResult_eq_none.1 h.integrity
  have htask := requires_of_admitted h (c := taskExists) (by rw [hkind]; decide)
  have hholds := requires_of_admitted h (c := capabilityHeldBy .from) (by rw [hkind]; decide)
  have haccept := requires_of_admitted h (c := { kind := .delegateeCanAccept, bindings := [("to", .to)] })
    (by rw [hkind]; decide)
  change boundAnd (findRole o.bindings .task) s.artifacts.has = true at htask
  change boundAnd (findRole o.bindings .to) s.participants.has = true at haccept
  obtain ⟨taskId, ht, htask⟩ := boundAnd_eq_true.1 htask
  obtain ⟨toId, hto, haccept⟩ := boundAnd_eq_true.1 haccept
  obtain ⟨fromId, lock, hfrom, hlock, hholder⟩ := holder_of_capabilityHeldBy hcap hholds
  refine ⟨⟨taskId, fromId, toId, id⟩, delegateBindings_eq_some.2 ⟨ht, hfrom, hto, hcap⟩, rfl, htask,
    OrdMap.has_of_get? hlock, haccept, ?_⟩
  exact hholder ▸ (hin.capabilities _ _ hlock).2.1

theorem delegate_applies {b : DelegateBindings} (hs : KeysMatch s) (hfresh : o.Freshened)
    (hkind : o.kind = .delegate) (hb : delegateBindings o.recipe = some b)
    (htask : s.artifacts.has b.taskId = true) (hlock : s.capabilities.has b.capabilityId = true)
    (hto : s.participants.has b.toId = true) (hfrom : s.participants.has b.fromId = true) :
    ∃ t c, Operation.Applies s o t ∧ (∀ id, s.participants.has id = true → t.participants.has id = true) ∧
      t.capabilities.get? b.capabilityId = some c ∧ c.holder = b.toId := by
  obtain ⟨task, htask⟩ := OrdMap.has_iff.1 htask
  obtain ⟨lock, hlock⟩ := OrdMap.has_iff.1 hlock
  obtain ⟨p, hto⟩ := OrdMap.has_iff.1 hto
  have hsession := hfresh.sessions (.inl hkind)
  obtain ⟨kind, recipe, afterRef⟩ := o
  cases hkind
  obtain ⟨session, hfirst⟩ : ∃ session, recipe.createdSessionRefs[0]? = some session := by
    cases hrefs : recipe.createdSessionRefs with
    | nil => exact absurd hrefs hsession
    | cons c cs => exact ⟨c, rfl⟩
  refine ⟨_, withCapabilityHolder lock b.toId,
    Operation.applies_iff.2 ⟨_, rfl, .delegate hb htask hlock hto hfrom hfirst⟩, ?_, ?_, rfl⟩
  · exact fun id hid => linkReviewer_has hid
  · change (linkReviewer _ _ _ _).capabilities.get? _ = _
    rw [linkReviewer_capabilities, hs.capabilities _ _ hlock]
    exact OrdMap.get?_set_self ..

theorem claim_applies {m : CollaborationSnapshot} {id : CapabilityId} (hm : KeysMatch m) (hadm : o.Admitted s)
    (hfresh : o.Freshened) (h : o.ClaimsLock s id)
    (hartifacts : ∀ a, o.Binds .artifact a → m.artifacts.get? a = s.artifacts.get? a)
    (hparticipants : ∀ p, s.participants.has p = true → m.participants.has p = true)
    (hlock : s.capabilities.has id = true → m.capabilities.has id = true) :
    ∃ t c, Operation.Applies m o t ∧ (∀ p, m.participants.has p = true → t.participants.has p = true) ∧
      t.capabilities.get? id = some c ∧ o.Binds .participant c.holder := by
  rcases h with ⟨taskId, ⟨hi, hnew, hcontent⟩, rfl⟩ | ⟨hkind, hcap⟩
  · obtain ⟨fromId, hfrom, hp⟩ := initiator_of_introduces hadm hi
    have hnew' : m.artifacts.has taskId = false := by
      rwa [OrdMap.has, hartifacts taskId (Operation.binds_of_findRole hi.2)]
    obtain ⟨t, happlies, hpart, hget⟩ :=
      bringsIn_applies hfresh ⟨hi, hnew', hcontent⟩ hfrom (hparticipants _ hp)
    exact ⟨t, _, happlies, fun p hp => by rwa [hpart], hget, Operation.binds_of_findRole hfrom⟩
  · obtain ⟨b, hb, rfl, htask, hcap', hto, hfrom⟩ := delegate_ready hadm hkind hcap
    obtain ⟨ht, _, hbto, _⟩ := delegateBindings_eq_some.1 hb
    have htask' : m.artifacts.has b.taskId = true := by
      rwa [OrdMap.has, hartifacts _ (Operation.binds_of_findRole ht)]
    obtain ⟨t, c, happlies, hpart, hget, hholder⟩ := delegate_applies hm hfresh hkind hb htask' (hlock hcap')
      (hparticipants _ hto) (hparticipants _ hfrom)
    exact ⟨t, c, happlies, hpart, hget, hholder ▸ Operation.binds_of_findRole hbto⟩

theorem claims_run (hs : KeysMatch s) (hadm₁ : o₁.Admitted s) (hadm₂ : o₂.Admitted s)
    (hfresh₁ : o₁.Freshened) (hfresh₂ : o₂.Freshened)
    (hfoot : footprintsOverlap o₁.footprint o₂.footprint = false) {id : CapabilityId}
    (h₁ : o₁.ClaimsLock s id) (h₂ : o₂.ClaimsLock s id) :
    ∃ t c, Run Operation.Applies s [o₁, o₂] t ∧ t.capabilities.get? id = some c ∧
      o₂.Binds .participant c.holder := by
  obtain ⟨m, c, happlies, hpart, hget, _⟩ :=
    claim_applies hs hadm₁ hfresh₁ h₁ (fun _ _ => rfl) (fun _ h => h) (fun h => h)
  obtain ⟨t, c', happlies', _, hget', hbinds⟩ := claim_applies (keysMatch_applies hs happlies) hadm₂ hfresh₂ h₂
    (fun a ha => artifacts_of_applies hs happlies hfoot ha) hpart (fun _ => OrdMap.has_of_get? hget)
  exact ⟨t, c', .cons happlies (.single happlies'), hget', hbinds⟩

theorem not_commute_of_claims (hs : KeysMatch s) (hadm₁ : o₁.Admitted s) (hadm₂ : o₂.Admitted s)
    (hfresh₁ : o₁.Freshened) (hfresh₂ : o₂.Freshened)
    (hfoot : footprintsOverlap o₁.footprint o₂.footprint = false) {id : CapabilityId}
    (h₁ : o₁.ClaimsLock s id) (h₂ : o₂.ClaimsLock s id) : ¬ Commute s o₁ o₂ := by
  intro hcommute
  obtain ⟨t, c, r, hget, hbinds⟩ := claims_run hs hadm₁ hadm₂ hfresh₁ hfresh₂ hfoot h₁ h₂
  obtain ⟨u, c', q, hget', hbinds'⟩ := claims_run hs hadm₂ hadm₁ hfresh₂ hfresh₁
    ((footprintsOverlap_comm ..).trans hfoot) h₂ h₁
  have hsame := (hcommute.same t u r q).capabilities id
  rw [hget, hget'] at hsame
  cases hsame
  exact binds_apart hfoot hbinds' hbinds

/-- Two admitted operations with disjoint footprints and distinct fresh references can be applied in either
order exactly when they claim no lock in common. -/
theorem independence (s : CollaborationSnapshot) (o₁ o₂ : Operation) (hadm₁ : o₁.Admitted s)
    (hadm₂ : o₂.Admitted s) (hfresh₁ : o₁.Freshened) (hfresh₂ : o₂.Freshened) (hapart : FreshApart o₁ o₂)
    (hfoot : footprintsOverlap o₁.footprint o₂.footprint = false) :
    Commute s o₁ o₂ ↔ ∀ id, o₁.ClaimsLock s id → ¬ o₂.ClaimsLock s id := by
  have hs := (validateSnapshotIntegrityResult_eq_none.1 hadm₁.integrity).keysMatch
  exact ⟨fun hcommute id h₁ h₂ => not_commute_of_claims hs hadm₁ hadm₂ hfresh₁ hfresh₂ hfoot h₁ h₂ hcommute,
    commute_of_claims hs hfoot hapart⟩

/-! ### Two tasks in the workshop -/

def bringIn (actorId : ActorId) (taskId : ArtifactId) (lock : List MatchBinding) : Operation where
  kind := .introduceArtifact
  afterRef := s!"after-{taskId}"
  recipe :=
    { replayRecipe "e1" "introduce_artifact" (some introduceArtifactTemplate.templateRef)
        ([⟨.task, taskId⟩, ⟨.from, actorId⟩] ++ lock) .external with inputContentRefs := ["c2"] }

theorem bringIn_freshened (actorId : ActorId) (taskId : ArtifactId) (lock : List MatchBinding) :
    (bringIn actorId taskId lock).Freshened :=
  ⟨by simp [bringIn, freshLinkCount, BuiltinOperation.typeId, BuiltinOperation.template,
    introduceArtifactTemplate, defaultTemplate], by simp [bringIn]⟩

theorem bringIn_freshApart (actorId₁ actorId₂ : ActorId) (taskId₁ taskId₂ : ArtifactId)
    (lock₁ lock₂ : List MatchBinding) :
    FreshApart (bringIn actorId₁ taskId₁ lock₁) (bringIn actorId₂ taskId₂ lock₂) :=
  ⟨by simp [bringIn, replayRecipe], by simp [bringIn, replayRecipe], by simp [bringIn, replayRecipe],
    by simp [bringIn, replayRecipe]⟩

/-- `ann` brings in a draft under the derived lock id; `bob` binds that same id for the memo's lock. -/
theorem draft_memo_not_commute :
    ((bringIn "ann" "draft" []).Admitted workshop ∧
      (bringIn "bob" "memo" [⟨.capability, "write-lock-draft"⟩]).Admitted workshop ∧
      FreshApart (bringIn "ann" "draft" []) (bringIn "bob" "memo" [⟨.capability, "write-lock-draft"⟩]) ∧
      footprintsOverlap (bringIn "ann" "draft" []).footprint
        (bringIn "bob" "memo" [⟨.capability, "write-lock-draft"⟩]).footprint = false) ∧
    ¬ Commute workshop (bringIn "ann" "draft" []) (bringIn "bob" "memo" [⟨.capability, "write-lock-draft"⟩]) := by
  have hadm₁ : (bringIn "ann" "draft" []).Admitted workshop := by decide +kernel
  have hadm₂ : (bringIn "bob" "memo" [⟨.capability, "write-lock-draft"⟩]).Admitted workshop := by decide +kernel
  have hfoot : footprintsOverlap (bringIn "ann" "draft" []).footprint
      (bringIn "bob" "memo" [⟨.capability, "write-lock-draft"⟩]).footprint = false := by decide +kernel
  refine ⟨⟨hadm₁, hadm₂, bringIn_freshApart .., hfoot⟩, ?_⟩
  have hs := (validateSnapshotIntegrityResult_eq_none.1 hadm₁.integrity).keysMatch
  have h₁ : (bringIn "ann" "draft" []).ClaimsLock workshop "write-lock-draft" :=
    .inl ⟨"draft", ⟨⟨.inl rfl, by decide +kernel⟩, by decide +kernel, by decide +kernel⟩, by decide +kernel⟩
  have h₂ : (bringIn "bob" "memo" [⟨.capability, "write-lock-draft"⟩]).ClaimsLock workshop "write-lock-draft" :=
    .inl ⟨"memo", ⟨⟨.inl rfl, by decide +kernel⟩, by decide +kernel, by decide +kernel⟩, by decide +kernel⟩
  exact not_commute_of_claims hs hadm₁ hadm₂ (bringIn_freshened ..) (bringIn_freshened ..) hfoot h₁ h₂

/-- Under lock ids of their own, the two tasks can be brought in in either order. -/
theorem draft_memo_commute : Commute workshop (bringIn "ann" "draft" []) (bringIn "bob" "memo" []) := by
  refine (independence workshop (bringIn "ann" "draft" []) (bringIn "bob" "memo" []) (by decide +kernel)
    (by decide +kernel) (bringIn_freshened ..) (bringIn_freshened ..) (bringIn_freshApart ..)
    (by decide +kernel)).2 ?_
  rintro id (⟨taskId, ⟨⟨_, htask⟩, _⟩, rfl⟩ | ⟨hkind, _⟩) (⟨taskId', ⟨⟨_, htask'⟩, _⟩, hid⟩ | ⟨hkind', _⟩)
  · cases htask
    cases htask'
    exact absurd hid (by decide +kernel)
  · cases hkind'
  · cases hkind
  · cases hkind

end Cantilune
