import Cantilune.Lemmas.Reload
import Cantilune.Theorems.Capabilities

/-!
# Reloading over runs

Operations, observations and epochs each add texts to a snapshot that can be loaded. The snapshot after
the step can be loaded exactly when these texts are there and the rows of a committed transcript are well
formed.
-/

namespace Cantilune

/-! ## Writes -/

/-- The texts of the entity written. -/
def Write.Wirable : Write → Prop
  | .participant p => p.Wirable
  | .artifact a => a.Wirable
  | .link l => l.Wirable
  | .session c => c.Wirable
  | .capability c => c.Wirable
  | .transcript t => t.Wirable
  | .heartbeat e => e.Wirable

/-- Heartbeats are appended; every other entity takes the place of the one before it. -/
def Write.Replaces : Write → Prop
  | .heartbeat _ => False
  | _ => True

/-- Loadable but for the entries at the locations given. -/
@[mk_iff loadableOff_iff]
structure LoadableOff (L : Set Loc) (s : CollaborationSnapshot) : Prop where
  snapshotRef : s.snapshotRef ≠ ""
  epochId : s.epochId ≠ ""
  participants : s.participants.ForAll fun id p => .participant id ∉ L → p.actorId = id ∧ p.Wirable
  artifacts : s.artifacts.ForAll fun id a => .artifact id ∉ L → a.artifactId = id ∧ a.Wirable
  links : s.links.ForAll fun id l => .link id ∉ L → l.linkId = id ∧ l.Wirable
  sessions : s.sessions.ForAll fun id c => .session id ∉ L → c.sessionId = id ∧ c.Wirable
  capabilities : s.capabilities.ForAll fun id c => .capability id ∉ L → c.capabilityId = id ∧ c.Wirable
  auditTail : ∀ e ∈ s.auditTail, e.Wirable
  retiredEntities : ∀ t ∈ s.retiredEntities, t.Wirable
  heartbeatLog : ∀ e ∈ s.heartbeatLog, e.Wirable
  namespaces : s.namespaces.ForAll fun id n => n.namespaceId = id ∧ n.Wirable
  transcripts : s.transcripts.ForAll fun id t => .transcript id ∉ L → t.actorId = id ∧ t.Wirable
  requests : s.transcriptAccessRequests.ForAll fun id r => r.requestId = id ∧ r.Wirable

variable {s t : CollaborationSnapshot} {o : Operation}

theorem loadableOff_empty : LoadableOff ∅ s ↔ Loadable s := by
  constructor
  · intro h
    exact ⟨h.1, h.2, fun k v hv => h.3 k v hv id, fun k v hv => h.4 k v hv id, fun k v hv => h.5 k v hv id,
      fun k v hv => h.6 k v hv id, fun k v hv => h.7 k v hv id, h.8, h.9, h.10, h.11,
      fun k v hv => h.12 k v hv id, h.13⟩
  · intro h
    exact ⟨h.1, h.2, fun k v hv _ => h.3 k v hv, fun k v hv _ => h.4 k v hv, fun k v hv _ => h.5 k v hv,
      fun k v hv _ => h.6 k v hv, fun k v hv _ => h.7 k v hv, h.8, h.9, h.10, h.11,
      fun k v hv _ => h.12 k v hv, h.13⟩

theorem Loadable.off (h : Loadable s) (L : Set Loc) : LoadableOff L s :=
  ⟨h.1, h.2, fun k v hv _ => h.3 k v hv, fun k v hv _ => h.4 k v hv, fun k v hv _ => h.5 k v hv,
    fun k v hv _ => h.6 k v hv, fun k v hv _ => h.7 k v hv, h.8, h.9, h.10, h.11,
    fun k v hv _ => h.12 k v hv, h.13⟩

/-- Setting an entry leaves a collection loadable off `L` when the rest is and the new entry is, unless it
lies in `L` itself. -/
theorem forAll_set_off {V : Type} (key : V → String) (loc : String → Loc) (hloc : ∀ i j, loc i = loc j → i = j)
    {Ok : V → Prop} {L : Set Loc} {m : OrdMap String V} {v : V} :
    ((m.set (key v) v).ForAll fun id w => loc id ∉ L → key w = id ∧ Ok w) ↔
      (loc (key v) ∈ L ∨ Ok v) ∧ m.ForAll fun id w => loc id ∉ insert (loc (key v)) L → key w = id ∧ Ok w := by
  rw [OrdMap.forAll_set]
  refine and_congr ?_ (forall_congr' fun k => forall_congr' fun w => forall_congr' fun hw => ?_)
  · by_cases h : loc (key v) ∈ L <;> simp [h]
  · have heq : loc k = loc (key v) ↔ k = key v := ⟨hloc k (key v), congrArg loc⟩
    simp only [Set.mem_insert_iff, heq, not_or]
    exact ⟨fun h hk => h hk.1 hk.2, fun h h₁ h₂ => h ⟨h₁, h₂⟩⟩

/-- After a write the snapshot is loadable off `L` if it was off `L` and the location written, and the entity
written has its texts or lies in `L`. -/
theorem loadableOff_write {L : Set Loc} {w : Write} :
    LoadableOff L (write s w) ↔
      (w.Replaces ∧ w.loc ∈ L ∨ w.Wirable) ∧ LoadableOff (insert w.loc L) s := by
  rw [loadableOff_iff, loadableOff_iff]
  cases w with
  | participant p =>
      simp only [write, withParticipant, Write.loc, Write.Replaces, Write.Wirable, true_and,
        forAll_set_off Participant.actorId .participant fun _ _ => Loc.participant.inj]
      simp only [Set.mem_insert_iff, reduceCtorEq, false_or]
      tauto
  | artifact a =>
      simp only [write, withArtifact, Write.loc, Write.Replaces, Write.Wirable, true_and,
        forAll_set_off WorkArtifact.artifactId .artifact fun _ _ => Loc.artifact.inj]
      simp only [Set.mem_insert_iff, reduceCtorEq, false_or]
      tauto
  | link l =>
      simp only [write, withLink, Write.loc, Write.Replaces, Write.Wirable, true_and,
        forAll_set_off CollaborationLink.linkId .link fun _ _ => Loc.link.inj]
      simp only [Set.mem_insert_iff, reduceCtorEq, false_or]
      tauto
  | session c =>
      simp only [write, withSession, Write.loc, Write.Replaces, Write.Wirable, true_and,
        forAll_set_off CommunicationSession.sessionId .session fun _ _ => Loc.session.inj]
      simp only [Set.mem_insert_iff, reduceCtorEq, false_or]
      tauto
  | capability c =>
      simp only [write, withCapability, Write.loc, Write.Replaces, Write.Wirable, true_and,
        forAll_set_off ScopedCapability.capabilityId .capability fun _ _ => Loc.capability.inj]
      simp only [Set.mem_insert_iff, reduceCtorEq, false_or]
      tauto
  | transcript t =>
      simp only [write, withTranscript, Write.loc, Write.Replaces, Write.Wirable, true_and,
        forAll_set_off ParticipantTranscript.actorId .transcript fun _ _ => Loc.transcript.inj]
      simp only [Set.mem_insert_iff, reduceCtorEq, false_or]
      tauto
  | heartbeat e =>
      simp only [write, appendHeartbeat, Write.loc, Write.Replaces, Write.Wirable, false_and, false_or,
        List.forall_mem_append, List.forall_mem_singleton, Set.mem_insert_iff, reduceCtorEq]
      tauto

def LastWirable : List Write → Prop
  | [] => True
  | w :: ws => (w.Replaces ∧ (∃ w' ∈ ws, w'.loc = w.loc) ∨ w.Wirable) ∧ LastWirable ws

theorem loadableOff_writeAll {ws : List Write} :
    Loadable (cells.writeAll s ws) ↔ LoadableOff {l | ∃ w ∈ ws, w.loc = l} s ∧ LastWirable ws := by
  induction ws generalizing s with
  | nil =>
      have hempty : {l | ∃ w ∈ ([] : List Write), w.loc = l} = ∅ := by simp
      rw [hempty, loadableOff_empty]
      exact (and_iff_left trivial).symm
  | cons w ws ih =>
      have hinsert : insert w.loc {l | ∃ w' ∈ ws, w'.loc = l} = {l | ∃ w' ∈ w :: ws, w'.loc = l} := by
        ext l
        simp [eq_comm]
      refine (ih (s := write s w)).trans ?_
      rw [loadableOff_write, hinsert, LastWirable]
      exact ⟨fun ⟨⟨hw, hoff⟩, hws⟩ => ⟨hoff, hw, hws⟩, fun ⟨hoff, hw, hws⟩ => ⟨⟨hw, hoff⟩, hws⟩⟩

theorem loadable_writeAll (hs : Loadable s) {ws : List Write} :
    Loadable (cells.writeAll s ws) ↔ LastWirable ws :=
  loadableOff_writeAll.trans (and_iff_right (hs.off _))

/-! ## What an operation brings in -/

def LinksWirable : List ((ActorId × ActorId) × LinkId) → Prop
  | [] => True
  | e :: es => ((∃ e' ∈ es, e'.2 = e.2) ∨ e.2 ≠ "" ∧ e.1.1 ≠ "" ∧ e.1.2 ≠ "") ∧ LinksWirable es

theorem lastWirable_links {kind : LinkKind} {es : List ((ActorId × ActorId) × LinkId)} :
    LastWirable (es.map fun e => .link (collaborationLink e.2 kind (.participant e.1.1) (.participant e.1.2))) ↔
      LinksWirable es := by
  induction es with
  | nil => simp [LastWirable, LinksWirable]
  | cons e es ih =>
      simp only [List.map_cons, LastWirable, LinksWirable, ih]
      refine and_congr (or_congr ?_ Iff.rfl) Iff.rfl
      simp [Write.Replaces, Write.loc, collaborationLink]

def Operation.TaskTexts (o : Operation) (taskId : ArtifactId) : Prop :=
  taskId ≠ "" ∧ (∀ content ∈ o.recipe.inputContentRefs[0]?, content ≠ "") ∧
    ∀ id ∈ findRole o.bindings .capability, id ≠ ""

def Operation.BringsTexts (o : Operation) : Prop :=
  match o.kind with
  | .introduceArtifact => ∀ taskId ∈ findRole o.bindings .task, o.TaskTexts taskId
  | .delegate =>
      (∀ id ∈ o.recipe.createdSessionRefs[0]?, id ≠ "") ∧
        ∀ b ∈ delegateBindings o.recipe, ∀ reviewerId ∈ reviewerParticipantId o.recipe b.fromId b.toId,
          ∀ linkRef ∈ o.recipe.freshLinkRefs[0]?, reviewerId ≠ "" ∧ linkRef ≠ ""
  | .createSession =>
      (∀ id ∈ o.recipe.createdSessionRefs[0]?.or (findRole o.bindings .session), id ≠ "") ∧
        ∀ controllerId ∈ findRole o.bindings .from,
          LinksWirable ((((sessionParticipants o.recipe controllerId).filter fun m => m ≠ controllerId).map
            fun m => (controllerId, m)).zip o.recipe.freshLinkRefs)
  | .forkBranch =>
      (∀ taskId ∈ findRole o.bindings .task, o.TaskTexts taskId) ∧
        ∀ controllerId ∈ findRole o.bindings .from,
          LinksWirable ((pairwise (sessionParticipants o.recipe controllerId)).zip o.recipe.freshLinkRefs)
  | .registerParticipant => ∀ id ∈ findRole o.bindings .participant, id ≠ ""
  | .activateParticipant => ∀ manifestRef ∈ o.recipe.inputContentRefs[0]?, manifestRef ≠ ""
  | .emitHeartbeat => ∀ emittedAt ∈ o.recipe.emittedAt, emittedAt ≠ ""
  | .commitTranscript =>
      ∀ text ∈ nonEmptyStringInput o.recipe.scalarInputs "messagesJson", ∀ parsed ∈ Json.parse text,
        ∀ rows ∈ transcriptRows parsed, ∀ m ∈ rows, WellFormedMessage m
  | .publishArtifact | .transferSession | .signalDone | .retireParticipant => True

theorem Loadable.participant_ne_empty (hs : Loadable s) {id : ActorId} (h : s.participants.has id = true) :
    id ≠ "" := by
  obtain ⟨p, hp⟩ := OrdMap.has_iff.1 h
  obtain ⟨rfl, hwirable⟩ := hs.participants id p hp
  exact hwirable.1

theorem loadable_write (hs : Loadable s) {w : Write} : Loadable (write s w) ↔ w.Wirable := by
  have h : Loadable (cells.writeAll s [w]) ↔ LastWirable [w] := loadable_writeAll hs
  simp only [LastWirable, List.not_mem_nil, false_and, exists_false, and_false, false_or, and_true] at h
  exact h

theorem writeLockId_ne_empty {taskId : ArtifactId} :
    o.writeLockId taskId ≠ "" ↔ ∀ id ∈ findRole o.bindings .capability, id ≠ "" := by
  unfold Operation.writeLockId
  cases findRole o.bindings .capability with
  | none =>
      constructor
      · intro _ id hid
        cases hid
      · intro _ hempty
        simp only [defaultWriteLockId, Option.getD_none, String.append_eq_empty_iff] at hempty
        exact absurd hempty.1 (by decide)
  | some id => simp

theorem lastWirable_cons {w : Write} {ws : List Write} (h : ∀ w' ∈ ws, w'.loc ≠ w.loc) :
    LastWirable (w :: ws) ↔ w.Wirable ∧ LastWirable ws := by
  have hnone : ¬ ∃ w' ∈ ws, w'.loc = w.loc := fun ⟨w', hw', heq⟩ => h w' hw' heq
  rw [LastWirable]
  simp only [hnone, and_false, false_or]

theorem lastWirable_task {taskId : ArtifactId} {content : ContentRef} {owner : ActorRef} {ws : List Write}
    (hlinks : ∀ w ∈ ws, ∃ l, w = .link l) (howner : owner.actorId ≠ "")
    (hcontent : o.recipe.inputContentRefs[0]? = some content) :
    LastWirable ([.artifact { artifactId := taskId, kind := "Task", contentRef := content, owner, lifecycle := .active },
        .capability { capabilityId := o.writeLockId taskId, kind := .writeLock, holder := owner.actorId,
                      scope := .artifact taskId }] ++ ws) ↔ o.TaskTexts taskId ∧ LastWirable ws := by
  have hkind : "Task" ≠ "" := by decide
  rw [List.cons_append, lastWirable_cons, List.cons_append, lastWirable_cons, List.nil_append]
  · simp only [Write.Wirable, WorkArtifact.Wirable, ScopedCapability.Wirable, CapabilityScope.Wirable,
      Operation.TaskTexts, writeLockId_ne_empty, hcontent, Option.mem_some_iff, forall_eq']
    tauto
  · intro w hw
    obtain ⟨l, rfl⟩ := hlinks w (by simpa using hw)
    rintro ⟨⟩
  · intro w hw
    rcases List.mem_cons.1 hw with rfl | hw
    · rintro ⟨⟩
    · obtain ⟨l, rfl⟩ := hlinks w (by simpa using hw)
      rintro ⟨⟩

theorem lastWirable_reviewer {recipe : ReplayRecipe} {fromId toId : ActorId} (hs : Loadable s) (hto : toId ≠ "") :
    LastWirable (reviewerWrites s recipe fromId toId) ↔
      ∀ reviewerId ∈ reviewerParticipantId recipe fromId toId, ∀ linkRef ∈ recipe.freshLinkRefs[0]?,
        reviewerId ≠ "" ∧ linkRef ≠ "" := by
  unfold reviewerWrites
  cases reviewerParticipantId recipe fromId toId with
  | none => simp [LastWirable]
  | some reviewerId =>
      cases recipe.freshLinkRefs[0]? with
      | none => simp [LastWirable]
      | some linkRef =>
          have hlink : ∀ l, LastWirable [.link l] ↔ l.Wirable := fun l => by
            rw [lastWirable_cons (by simp)]
            exact and_iff_left trivial
          by_cases h : s.participants.has reviewerId = true
          · have hreviewer := hs.participant_ne_empty h
            simp [h, hlink, CollaborationLink.Wirable, LinkEndpoint.Wirable, collaborationLink, hto, hreviewer]
          · simp only [h, if_false, List.singleton_append, Bool.false_eq_true]
            rw [lastWirable_cons (by simp [Write.loc]), hlink]
            simp [Write.Wirable, Participant.Wirable, participant, defaultNamespaceId, CollaborationLink.Wirable,
              LinkEndpoint.Wirable, collaborationLink, hto]
            tauto

theorem reviewerWrites_shape {recipe : ReplayRecipe} {fromId toId : ActorId} :
    ∀ w ∈ reviewerWrites s recipe fromId toId, (∃ p, w = .participant p) ∨ ∃ l, w = .link l := by
  intro w hw
  unfold reviewerWrites at hw
  split at hw
  · rcases List.mem_append.1 hw with hw | hw
    · split at hw
      · cases hw
      · exact .inl ⟨_, List.mem_singleton.1 hw⟩
    · exact .inr ⟨_, List.mem_singleton.1 hw⟩
  · cases hw

theorem effect_loadable (hs : Loadable s) (heff : Effect s o.recipe o.kind t) : Loadable t ↔ o.BringsTexts := by
  obtain ⟨kind, recipe, afterRef⟩ := o
  cases heff with
  | @introduceArtifact taskId fromId content p hTask hFrom hNew hContent hOwner =>
      have howner := hs.participant_ne_empty (OrdMap.has_of_get? hOwner)
      have hwrites : introduceTask s recipe taskId content ⟨fromId, p.kind⟩ = _ :=
        introduceTask_eq_writeAll s ⟨.introduceArtifact, recipe, afterRef⟩ taskId content ⟨fromId, p.kind⟩
      rw [hwrites, loadable_writeAll hs, ← List.append_nil [_, _],
        lastWirable_task (by simp) howner hContent]
      have htask : findRole recipe.matchBindings .task = some taskId := hTask
      simp [Operation.BringsTexts, Operation.bindings, LastWirable, htask]
  | @delegate b task lock p sessionId hBindings hTask hLock hTo hFrom hSession =>
      have hto := hs.participant_ne_empty (OrdMap.has_of_get? hTo)
      have hfrom := hs.participant_ne_empty hFrom
      obtain ⟨_, hartifact⟩ := hs.artifacts _ _ hTask
      obtain ⟨_, hcapability⟩ := hs.capabilities _ _ hLock
      have hshape := @reviewerWrites_shape s recipe b.fromId b.toId
      rw [delegate_eq_writeAll, loadable_writeAll hs, List.cons_append, lastWirable_cons, List.cons_append,
        lastWirable_cons, List.cons_append, lastWirable_cons, List.nil_append, lastWirable_reviewer hs hto]
      · have hbindings : delegateBindings recipe = some b := hBindings
        have hsession : recipe.createdSessionRefs[0]? = some sessionId := hSession
        simp only [Write.Wirable, WorkArtifact.Wirable, withArtifactOwner, withCapabilityHolder,
          ScopedCapability.Wirable, CommunicationSession.Wirable, communicationSession, Operation.BringsTexts,
          hbindings, hsession, Option.mem_some_iff, forall_eq']
        have hmembers : ∀ id ∈ [b.toId, b.fromId], id ≠ "" := by simp [hto, hfrom]
        obtain ⟨h₁, h₂, h₃, _⟩ := hartifact
        obtain ⟨h₄, _, h₅⟩ := hcapability
        tauto
      · intro w hw
        rcases hshape w hw with ⟨q, rfl⟩ | ⟨l, rfl⟩ <;> rintro ⟨⟩
      · intro w hw
        rcases List.mem_cons.1 hw with rfl | hw
        · rintro ⟨⟩
        · rcases hshape w hw with ⟨q, rfl⟩ | ⟨l, rfl⟩ <;> rintro ⟨⟩
      · intro w hw
        rcases List.mem_cons.1 hw with rfl | hw
        · rintro ⟨⟩
        · rcases List.mem_cons.1 hw with rfl | hw
          · rintro ⟨⟩
          · rcases hshape w hw with ⟨q, rfl⟩ | ⟨l, rfl⟩ <;> rintro ⟨⟩
  | @createSession controllerId sessionId hFrom hSession hNew hMembers hLinks =>
      have hfrom : findRole recipe.matchBindings .from = some controllerId := hFrom
      have hsession : recipe.createdSessionRefs[0]?.or (findRole recipe.matchBindings .session)
        = some sessionId := hSession
      have hmember := fun id hid => hs.participant_ne_empty (hMembers id hid)
      have hcontroller : controllerId ≠ "" := by
        refine hmember _ ?_
        rw [sessionParticipants, mem_uniqueIds]
        exact List.mem_cons_self
      rw [sessionLinks_eq_writeAll, loadable_writeAll hs, lastWirable_cons, lastWirable_links]
      · simp only [Write.Wirable, CommunicationSession.Wirable, communicationSession, Operation.BringsTexts,
          Operation.bindings, hfrom, hsession, Option.mem_some_iff, forall_eq']
        tauto
      · intro w hw
        obtain ⟨e, _, rfl⟩ := List.mem_map.1 hw
        rintro ⟨⟩
  | @forkBranch controllerId hFrom hTask hContent hController hLinks =>
      have hfrom : findRole recipe.matchBindings .from = some controllerId := hFrom
      have htask : findRole recipe.matchBindings .task = none := hTask
      rw [withPairLinks_eq_writeAll, loadable_writeAll hs, lastWirable_links]
      simp [Operation.BringsTexts, Operation.bindings, hfrom, htask]
  | @forkBranchTask controllerId taskId content p hFrom hTask hNew hContent hOwner hLinks =>
      have howner := hs.participant_ne_empty (OrdMap.has_of_get? hOwner)
      have hfrom : findRole recipe.matchBindings .from = some controllerId := hFrom
      have htask : findRole recipe.matchBindings .task = some taskId := hTask
      have hwrites := forkTask_eq_writeAll s ⟨.forkBranch, recipe, afterRef⟩ taskId content ⟨controllerId, p.kind⟩
        .parallelWith ((pairwise (sessionParticipants recipe controllerId)).zip recipe.freshLinkRefs)
      have hlinks : ∀ w ∈ ((pairwise (sessionParticipants recipe controllerId)).zip recipe.freshLinkRefs).map
          fun e => Write.link (collaborationLink e.2 .parallelWith (.participant e.1.1) (.participant e.1.2)),
          ∃ l, w = .link l := by
        intro w hw
        obtain ⟨e, _, rfl⟩ := List.mem_map.1 hw
        exact ⟨_, rfl⟩
      refine (congrArg Loadable hwrites).to_iff.trans ?_
      rw [loadable_writeAll hs, lastWirable_task hlinks howner hContent, lastWirable_links]
      simp [Operation.BringsTexts, Operation.bindings, hfrom, htask]
  | @publishArtifact artifactId artifact hTask hArtifact hFrom =>
      obtain ⟨_, hwirable⟩ := hs.artifacts _ _ hArtifact
      exact (loadable_write hs (w := .artifact _)).trans (iff_of_true hwirable trivial)
  | @transferSession sessionId toId session hSessionId hToId hSession hController hFrom hTo =>
      obtain ⟨_, hid, _, hmembers⟩ := hs.sessions _ _ hSession
      have hto := hs.participant_ne_empty hTo
      refine (loadable_write hs (w := .session _)).trans (iff_of_true ⟨hid, hto, ?_⟩ trivial)
      intro id hmem
      simp only [communicationSession] at hmem
      split at hmem
      · exact hmembers id hmem
      · rcases List.mem_append.1 hmem with hmem | hmem
        · exact hmembers id hmem
        · rwa [List.mem_singleton.1 hmem]
  | @registerParticipant fromId participantId p hFrom hParticipant hInitiator hActive hNew =>
      refine (loadable_write hs (w := .participant _)).trans ?_
      simp [Write.Wirable, Participant.Wirable, participant, defaultNamespaceId, Operation.BringsTexts,
        Operation.bindings, hParticipant]
  | @activateParticipant fromId participantId p target hFrom hParticipant hInitiator hActive hTarget hTransition
      hManifest =>
      have hid := hs.participant_ne_empty (OrdMap.has_of_get? hTarget)
      refine (loadable_write hs (w := .participant _)).trans ?_
      simp [Write.Wirable, Participant.Wirable, participant, defaultNamespaceId, Operation.BringsTexts, hid]
  | @signalDone fromId current hFrom hCurrent hTransition =>
      have hid := hs.participant_ne_empty (OrdMap.has_of_get? hCurrent)
      refine (loadable_write hs (w := .participant _)).trans (iff_of_true ?_ trivial)
      simp [Write.Wirable, Participant.Wirable, participant, defaultNamespaceId, hid]
  | @retireParticipant fromId targetId current hFrom hTarget hCurrent hTransition hInitiator =>
      have hid := hs.participant_ne_empty (OrdMap.has_of_get? hCurrent)
      refine (loadable_write hs (w := .participant _)).trans (iff_of_true ?_ trivial)
      simp [Write.Wirable, Participant.Wirable, participant, defaultNamespaceId, hid]
  | @emitHeartbeat fromId p emittedAt turnCount lastAction hFrom hLiving hEmitted hNames hTurn hAction =>
      have hid := hs.participant_ne_empty (livingParticipant_has hLiving)
      have haction := (Option.filter_eq_some_iff.1 hAction).2
      simp only [decide_eq_true_eq] at haction
      refine (loadable_write hs (w := .heartbeat _)).trans ?_
      have hnew : recipe.emittedAt = some emittedAt := hEmitted
      simp [Write.Wirable, HeartbeatEntry.Wirable, Operation.BringsTexts, hid, haction, hnew]
  | @commitTranscript fromId current messagesJson parsed rows hFrom hLiving hInput hParsed hRows =>
      have hid := hs.participant_ne_empty (livingParticipant_has hLiving)
      obtain ⟨_, _, hnamespace, _⟩ := hs.participants _ _ (Option.filter_eq_some_iff.1 hLiving).1
      refine (loadable_write hs (w := .transcript _)).trans ?_
      simp [Write.Wirable, ParticipantTranscript.Wirable, participantTranscript, Operation.BringsTexts, hid,
        hnamespace, hInput, hParsed, hRows]

/-! ## Steps of a world -/

theorem WorldStep.applies_operate : WorldStep.Applies s (.operate o) t ↔ Operation.Applies s o t := Iff.rfl

def WorldStep.BringsTexts : WorldStep → Prop
  | .operate o => o.afterRef ≠ "" ∧ o.BringsTexts
  | .observe source payloadRef receivedAt nextRef =>
      nextRef ≠ "" ∧ source.actorId ≠ "" ∧ payloadRef ≠ "" ∧ receivedAt ≠ ""
  | .advanceEpoch afterRef targetEpochId => afterRef ≠ "" ∧ targetEpochId ≠ ""

theorem Loadable.keysMatch (hs : Loadable s) : KeysMatch s :=
  ⟨fun k a ha => (hs.artifacts k a ha).1.symm, fun k c hc => (hs.sessions k c hc).1.symm,
    fun k c hc => (hs.capabilities k c hc).1.symm⟩

theorem writeAll_snapshotRef (ws : List Write) : (cells.writeAll s ws).snapshotRef = s.snapshotRef := by
  induction ws generalizing s with
  | nil => rfl
  | cons w ws ih =>
      have hw : (write s w).snapshotRef = s.snapshotRef := by cases w <;> rfl
      exact ih.trans hw

theorem loadable_withSnapshotRef (hs : s.snapshotRef ≠ "") {ref : SnapshotRef} :
    Loadable (withSnapshotRef s ref) ↔ ref ≠ "" ∧ Loadable s :=
  ⟨fun h => ⟨h.snapshotRef, { h with snapshotRef := hs }⟩, fun h => { h.2 with snapshotRef := h.1 }⟩

theorem loadable_appendObservation (hs : Loadable s) {source : ActorRef} {payloadRef : ContentRef}
    {receivedAt : Timestamp} : Loadable (appendObservation s source payloadRef receivedAt) ↔
      source.actorId ≠ "" ∧ payloadRef ≠ "" ∧ receivedAt ≠ "" := by
  constructor
  · exact fun h => h.auditTail _ (List.mem_append_right _ (List.mem_singleton_self _))
  · intro h
    refine { hs with auditTail := fun e he => ?_ }
    rcases List.mem_append.1 he with he | he
    · exact hs.auditTail e he
    · rw [List.mem_singleton.1 he]
      exact h

theorem loadable_advancedEpoch (hs : Loadable s) {afterRef : SnapshotRef} {targetEpochId : EpochId} :
    Loadable (snapshotWithAdvancedEpoch s afterRef targetEpochId) ↔ afterRef ≠ "" ∧ targetEpochId ≠ "" :=
  ⟨fun h => ⟨h.snapshotRef, h.epochId⟩, fun h => { hs with snapshotRef := h.1, epochId := h.2 }⟩

theorem step_loadable (hs : Loadable s) {e : WorldStep} (h : WorldStep.Applies s e t) :
    Loadable t ↔ e.BringsTexts := by
  cases e with
  | operate o =>
      obtain ⟨result, rfl, heff⟩ := Operation.applies_iff.1 h
      obtain ⟨ws, rfl, _⟩ := effect_local hs.keysMatch heff
      have href : (cells.writeAll s ws).snapshotRef ≠ "" := by
        rw [writeAll_snapshotRef]
        exact hs.snapshotRef
      rw [loadable_withSnapshotRef href, effect_loadable hs heff]
      rfl
  | observe source payloadRef receivedAt nextRef =>
      cases h
      have href : (appendObservation s source payloadRef receivedAt).snapshotRef ≠ "" := hs.snapshotRef
      rw [loadable_withSnapshotRef href, loadable_appendObservation hs]
      rfl
  | advanceEpoch afterRef targetEpochId =>
      cases h
      exact loadable_advancedEpoch hs

/-- From a snapshot that can be loaded again, the snapshot after a step can be loaded again exactly when the
step brings its texts; along runs of such steps, every snapshot reached can. -/
theorem snapshot_round_trip (s : CollaborationSnapshot) (hs : Reloads s) :
    (∀ e t, WorldStep.Applies s e t → (Reloads t ↔ e.BringsTexts)) ∧
      ∀ es t, Run (fun s e t => WorldStep.Applies s e t ∧ e.BringsTexts) s es t → Reloads t := by
  refine ⟨fun e t h => ?_, fun es t r => ?_⟩
  · rw [reloads_iff]
    exact step_loadable (reloads_iff.1 hs) h
  · exact r.invariant (fun _ _ _ h hs => reloads_iff.2 ((step_loadable (reloads_iff.1 hs) h.1).2 h.2)) hs

/-! ## A transcript that is not read back -/

/-- `ann` commits a transcript of the rows given as text. -/
def commitRows (messagesJson : String) : Operation :=
  workshopOperation .commitTranscript [⟨.from, "ann"⟩] [] (.ofList [("messagesJson", .string messagesJson)])

/-- A tool result that names no call. -/
def unansweredRow : String := "[\x7b\"role\":\"tool\",\"toolCallId\":\"\",\"content\":\"done\"\x7d]"

def answeredRow : String := "[\x7b\"role\":\"tool\",\"content\":\"done\",\"toolCallId\":\"call-1\"\x7d]"

theorem workshop_reloads : Reloads workshop := by
  have hdecode : decodeSnapshotFromUnknown (encodeSnapshot workshop).toJson = .ok workshop := by decide +kernel
  exact ⟨workshop, hdecode, rfl, .refl _⟩

/-- `ann` may commit the row that names no call, and the snapshot that holds it cannot be loaded. -/
theorem unansweredRow_not_reloads : Reloads workshop ∧
    ∃ t, Operation.Performs workshop (commitRows unansweredRow) t ∧ ¬ Reloads t := by
  have hfails : ((commitRows unansweredRow).perform workshop).map
      (fun t => (decodeSnapshotFromUnknown (encodeSnapshot t).toJson).toOption) = some none := by decide +kernel
  obtain ⟨t, ht, hnone⟩ := Option.map_eq_some_iff.1 hfails
  refine ⟨workshop_reloads, t, ht, fun ⟨s', hs', _⟩ => ?_⟩
  rw [hs'] at hnone
  cases hnone

/-- A row that names its call is read back, in whatever order its members come. -/
theorem answeredRow_reloads : ∃ t, Operation.Applies workshop (commitRows answeredRow) t ∧ Reloads t := by
  have hsome : ((commitRows answeredRow).apply workshop).isSome = true := by decide +kernel
  obtain ⟨t, ht⟩ := Option.isSome_iff_exists.1 hsome
  have hstep := (snapshot_round_trip workshop workshop_reloads).1 (.operate (commitRows answeredRow)) t
    (WorldStep.applies_operate.2 ht)
  have href : (commitRows answeredRow).afterRef ≠ "" := by decide
  refine ⟨t, ht, hstep.2 ⟨href, ?_⟩⟩
  have hrow : (TranscriptRow.tool "call-1" "done").Wirable := by
    unfold TranscriptRow.Wirable
    decide
  have hrows : ((nonEmptyStringInput (commitRows answeredRow).recipe.scalarInputs "messagesJson").bind
      fun text => (Json.parse text).bind transcriptRows) =
        some [.obj [("role", .str "tool"), ("content", .str "done"), ("toolCallId", .str "call-1")]] := by
    decide +kernel
  intro text htext parsed hparsed rows hmem m hm
  rw [Option.mem_def.1 htext, Option.bind_some, Option.mem_def.1 hparsed, Option.bind_some,
    Option.mem_def.1 hmem] at hrows
  cases hrows
  rw [List.mem_singleton.1 hm]
  exact ⟨.tool "call-1" "done", hrow, by decide +kernel⟩

end Cantilune
