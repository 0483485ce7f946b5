import Cantilune.Base.Locality
import Cantilune.Lemmas.Ownership

/-!
# Operations as actions on cells

The entries of a snapshot are cells; every effect of a handler is a list of writes to them. The cells that
an operation reads are those of the entities it binds and of the sessions it may create, and it writes
there, to its fresh links, and to the capability of the lock it takes.
-/

namespace Cantilune

/-! ## Cells of a snapshot -/

inductive Loc where
  | participant (id : ActorId)
  | artifact (id : ArtifactId)
  | link (id : LinkId)
  | session (id : SessionId)
  | capability (id : CapabilityId)
  | transcript (id : ActorId)
  | heartbeats (agentId : ActorId)
  deriving DecidableEq

/-- What a cell holds; the heartbeats of an agent are a cell of their own. -/
def Loc.Val : Loc → Type
  | .participant _ => Option Participant
  | .artifact _ => Option WorkArtifact
  | .link _ => Option CollaborationLink
  | .session _ => Option CommunicationSession
  | .capability _ => Option ScopedCapability
  | .transcript _ => Option ParticipantTranscript
  | .heartbeats _ => List HeartbeatEntry

def view (s : CollaborationSnapshot) : (l : Loc) → l.Val
  | .participant id => s.participants.get? id
  | .artifact id => s.artifacts.get? id
  | .link id => s.links.get? id
  | .session id => s.sessions.get? id
  | .capability id => s.capabilities.get? id
  | .transcript id => s.transcripts.get? id
  | .heartbeats agentId => s.heartbeatLog.filter fun e => e.agentId = agentId

inductive Write where
  | participant (p : Participant)
  | artifact (a : WorkArtifact)
  | link (l : CollaborationLink)
  | session (c : CommunicationSession)
  | capability (c : ScopedCapability)
  | transcript (t : ParticipantTranscript)
  | heartbeat (e : HeartbeatEntry)

def write (s : CollaborationSnapshot) : Write → CollaborationSnapshot
  | .participant p => withParticipant s p
  | .artifact a => withArtifact s a
  | .link l => withLink s l
  | .session c => withSession s c
  | .capability c => withCapability s c
  | .transcript t => withTranscript s t
  | .heartbeat e => appendHeartbeat s e

def Write.loc : Write → Loc
  | .participant p => .participant p.actorId
  | .artifact a => .artifact a.artifactId
  | .link l => .link l.linkId
  | .session c => .session c.sessionId
  | .capability c => .capability c.capabilityId
  | .transcript t => .transcript t.actorId
  | .heartbeat e => .heartbeats e.agentId

theorem view_write_frame (s : CollaborationSnapshot) (w : Write) (l : Loc) (h : l ≠ w.loc) :
    view (write s w) l = view s l := by
  cases w <;> cases l <;> try rfl
  all_goals simp only [Write.loc, ne_eq, Loc.participant.injEq, Loc.artifact.injEq, Loc.link.injEq,
    Loc.session.injEq, Loc.capability.injEq, Loc.transcript.injEq, Loc.heartbeats.injEq] at h
  case heartbeat.heartbeats e a =>
      simp only [view, write, appendHeartbeat, List.filter_append, List.filter_cons, Ne.symm h, decide_false,
        List.filter_nil]
      exact List.append_nil _
  all_goals exact OrdMap.get?_set_ne _ _ h

theorem view_write_local (s t : CollaborationSnapshot) (w : Write) (h : view s w.loc = view t w.loc) :
    view (write s w) w.loc = view (write t w) w.loc := by
  cases w with
  | heartbeat e =>
      simp only [view, write, Write.loc, appendHeartbeat, List.filter_append] at h ⊢
      rw [h]
  | participant p => exact (OrdMap.get?_set_self ..).trans (OrdMap.get?_set_self ..).symm
  | artifact a => exact (OrdMap.get?_set_self ..).trans (OrdMap.get?_set_self ..).symm
  | link l => exact (OrdMap.get?_set_self ..).trans (OrdMap.get?_set_self ..).symm
  | session c => exact (OrdMap.get?_set_self ..).trans (OrdMap.get?_set_self ..).symm
  | capability c => exact (OrdMap.get?_set_self ..).trans (OrdMap.get?_set_self ..).symm
  | transcript t => exact (OrdMap.get?_set_self ..).trans (OrdMap.get?_set_self ..).symm

def cells : Cells CollaborationSnapshot Loc Write Loc.Val where
  view := view
  write := write
  loc := Write.loc
  frame := view_write_frame
  local_write := view_write_local

/-! ## Fields that no write touches -/

/-- The part of a snapshot that is not made of cells. -/
structure SameRest (s t : CollaborationSnapshot) : Prop where
  epochId : s.epochId = t.epochId
  policyContext : s.policyContext = t.policyContext
  auditTail : s.auditTail = t.auditTail
  retiredEntities : s.retiredEntities = t.retiredEntities
  namespaces : s.namespaces = t.namespaces
  requests : s.transcriptAccessRequests = t.transcriptAccessRequests

theorem sameRest_writeAll (s : CollaborationSnapshot) (ws : List Write) : SameRest s (cells.writeAll s ws) := by
  induction ws generalizing s with
  | nil => exact ⟨rfl, rfl, rfl, rfl, rfl, rfl⟩
  | cons w ws ih =>
      have h := ih (write s w)
      cases w <;> exact ⟨h.1, h.2, h.3, h.4, h.5, h.6⟩

/-- The entries whose own id an operation writes back under are stored under that id. -/
structure KeysMatch (s : CollaborationSnapshot) : Prop where
  artifacts : ∀ k a, s.artifacts.get? k = some a → k = a.artifactId
  sessions : ∀ k c, s.sessions.get? k = some c → k = c.sessionId
  capabilities : ∀ k c, s.capabilities.get? k = some c → k = c.capabilityId

theorem Integrity.keysMatch {s : CollaborationSnapshot} (h : Integrity s) : KeysMatch s :=
  ⟨fun k a ha => (h.artifacts k a ha).1, fun k c hc => (h.sessions k c hc).1,
    fun k c hc => (h.capabilities k c hc).1⟩

theorem keysMatch_write (s : CollaborationSnapshot) (w : Write) (h : KeysMatch s) : KeysMatch (write s w) := by
  have hset : ∀ {V : Type} (key : V → String) {m : OrdMap String V} {v : V},
      (∀ k a, m.get? k = some a → k = key a) → ∀ k a, (m.set (key v) v).get? k = some a → k = key a := by
    intro V key m v hm k a ha
    rw [OrdMap.get?_set] at ha
    split at ha
    · cases ha
      assumption
    · exact hm k a ha
  cases w with
  | artifact a => exact ⟨hset WorkArtifact.artifactId h.artifacts, h.sessions, h.capabilities⟩
  | session c => exact ⟨h.artifacts, hset CommunicationSession.sessionId h.sessions, h.capabilities⟩
  | capability c => exact ⟨h.artifacts, h.sessions, hset ScopedCapability.capabilityId h.capabilities⟩
  | participant p => exact ⟨h.artifacts, h.sessions, h.capabilities⟩
  | link l => exact ⟨h.artifacts, h.sessions, h.capabilities⟩
  | transcript t => exact ⟨h.artifacts, h.sessions, h.capabilities⟩
  | heartbeat e => exact ⟨h.artifacts, h.sessions, h.capabilities⟩

theorem keysMatch_writeAll {s : CollaborationSnapshot} (h : KeysMatch s) (ws : List Write) :
    KeysMatch (cells.writeAll s ws) := by
  induction ws generalizing s with
  | nil => exact h
  | cons w ws ih => exact ih (keysMatch_write s w h)

/-! ## What an operation reads and writes -/

def Operation.Binds (o : Operation) (kind : TargetKind) (id : String) : Prop :=
  id ∈ targetIds (targetsFromMatchBindings o.bindings) kind

def Operation.TakesLock (o : Operation) (id : CapabilityId) : Prop :=
  (∃ taskId, o.Introduces taskId ∧ o.writeLockId taskId = id) ∨
    o.kind = .delegate ∧ findRole o.bindings .capability = some id

def Operation.reads (o : Operation) : Set Loc := {l | match l with
  | .participant id => o.Binds .participant id
  | .transcript id => o.Binds .participant id
  | .heartbeats id => o.Binds .participant id
  | .artifact id => o.Binds .artifact id
  | .session id => o.Binds .session id ∨ id ∈ o.recipe.createdSessionRefs
  | .capability id => o.kind = .delegate ∧ findRole o.bindings .capability = some id
  | .link _ => False}

def Operation.writes (o : Operation) : Set Loc := {l | match l with
  | .capability id => o.TakesLock id
  | .link id => id ∈ o.recipe.freshLinkRefs
  | l => l ∈ o.reads}

variable {s t after : CollaborationSnapshot} {o : Operation}

theorem Operation.binds_of_mem {role : MatchBindingRole} {id : String} (h : ⟨role, id⟩ ∈ o.bindings) :
    o.Binds role.targetKind id :=
  mem_targetIds.2 ⟨_, h, rfl, rfl⟩

theorem Operation.binds_of_participant {id : ActorId} (h : ⟨.participant, id⟩ ∈ o.bindings) :
    o.Binds .participant id :=
  Operation.binds_of_mem h

theorem Operation.binds_of_findRole {role : MatchBindingRole} {id : String}
    (h : findRole o.bindings role = some id) : o.Binds role.targetKind id :=
  Operation.binds_of_mem (mem_of_findRole h)

theorem mem_uniqueIds {ids : List ActorId} {id : ActorId} : id ∈ uniqueIds ids ↔ id ∈ ids := by
  induction ids with
  | nil => simp [uniqueIds]
  | cons x xs ih =>
      simp only [uniqueIds, List.mem_cons, List.mem_filter, ih, decide_eq_true_eq]
      by_cases h : id = x
      · simp [h]
      · simp [h]

theorem Operation.binds_of_mem_sessionParticipants {controllerId id : ActorId}
    (h : findRole o.bindings .from = some controllerId) (hid : id ∈ sessionParticipants o.recipe controllerId) :
    o.Binds .participant id := by
  rw [sessionParticipants, mem_uniqueIds, List.mem_cons, mem_boundIds] at hid
  rcases hid with rfl | hid
  · exact Operation.binds_of_findRole h
  · exact Operation.binds_of_mem hid

theorem nextHeartbeatSeq_filter (log : List HeartbeatEntry) (agentId : ActorId) :
    nextHeartbeatSeq (log.filter fun e => e.agentId = agentId) agentId = nextHeartbeatSeq log agentId := by
  have hfold : ∀ most, (log.filter fun e => e.agentId = agentId).foldl (fun most entry =>
      if entry.agentId = agentId ∧ entry.sequenceNo > most then entry.sequenceNo else most) most =
      log.foldl (fun most entry =>
        if entry.agentId = agentId ∧ entry.sequenceNo > most then entry.sequenceNo else most) most := by
    induction log with
    | nil => intro most; rfl
    | cons e log ih =>
        intro most
        by_cases h : e.agentId = agentId
        · simp only [List.filter_cons, h, decide_true, if_true, List.foldl_cons]
          exact ih _
        · simp only [List.filter_cons, h, decide_false, List.foldl_cons, false_and, if_false]
          exact ih _
  unfold nextHeartbeatSeq
  rw [hfold]

theorem withPairLinks_eq_writeAll (kind : LinkKind) (s : CollaborationSnapshot)
    (pairs : List ((ActorId × ActorId) × LinkId)) :
    withPairLinks kind s pairs = cells.writeAll s (pairs.map fun e =>
      .link (collaborationLink e.2 kind (.participant e.1.1) (.participant e.1.2))) := by
  induction pairs generalizing s with
  | nil => rfl
  | cons e pairs ih =>
      exact ih (withLink s (collaborationLink e.2 kind (.participant e.1.1) (.participant e.1.2)))

theorem mem_freshLinks {kind : LinkKind} {pairs : List (ActorId × ActorId)} :
    ∀ w ∈ (pairs.zip o.recipe.freshLinkRefs).map fun e =>
      Write.link (collaborationLink e.2 kind (.participant e.1.1) (.participant e.1.2)), w.loc ∈ o.writes := by
  intro w hw
  obtain ⟨e, he, rfl⟩ := List.mem_map.1 hw
  exact (List.of_mem_zip he).2

/-! ## Effects are local -/

theorem introduceTask_eq_writeAll (s : CollaborationSnapshot) (o : Operation) (taskId : ArtifactId)
    (content : ContentRef) (owner : ActorRef) :
    introduceTask s o.recipe taskId content owner = cells.writeAll s
      [.artifact { artifactId := taskId, kind := "Task", contentRef := content, owner, lifecycle := .active },
        .capability { capabilityId := o.writeLockId taskId, kind := .writeLock, holder := owner.actorId,
                      scope := .artifact taskId }] := rfl

theorem introduceTask_locs {taskId : ArtifactId} {content : ContentRef} {owner : ActorRef}
    (h : o.Introduces taskId) : ∀ w ∈
      [Write.artifact { artifactId := taskId, kind := "Task", contentRef := content, owner, lifecycle := .active },
        Write.capability { capabilityId := o.writeLockId taskId, kind := .writeLock, holder := owner.actorId,
                           scope := .artifact taskId }], w.loc ∈ o.writes := by
  intro w hw
  rcases List.mem_cons.1 hw with rfl | hw
  · exact Operation.binds_of_findRole h.2
  · rw [List.mem_singleton.1 hw]
    exact .inl ⟨taskId, h, rfl⟩

def reviewerWrites (s : CollaborationSnapshot) (recipe : ReplayRecipe) (fromId toId : ActorId) : List Write :=
  match reviewerParticipantId recipe fromId toId, recipe.freshLinkRefs[0]? with
  | some reviewerId, some linkRef =>
      (if s.participants.has reviewerId then [] else [.participant (participant reviewerId .reviewer)]) ++
        [.link (collaborationLink linkRef .waitsFor (.participant reviewerId) (.participant toId))]
  | _, _ => []

theorem linkReviewer_eq_writeAll (s : CollaborationSnapshot) (recipe : ReplayRecipe) (fromId toId : ActorId) :
    linkReviewer s recipe fromId toId = cells.writeAll s (reviewerWrites s recipe fromId toId) := by
  unfold linkReviewer reviewerWrites
  cases reviewerParticipantId recipe fromId toId with
  | none => rfl
  | some reviewerId =>
      cases recipe.freshLinkRefs[0]? with
      | none => rfl
      | some linkRef =>
          by_cases h : s.participants.has reviewerId = true
          · simp only [h, if_true]
            rfl
          · simp only [h]
            rfl

theorem reviewerParticipantId_mem {recipe : ReplayRecipe} {fromId toId id : ActorId}
    (h : reviewerParticipantId recipe fromId toId = some id) : ⟨.participant, id⟩ ∈ recipe.matchBindings :=
  mem_boundIds.1 (List.mem_of_find?_eq_some h)

theorem reviewerWrites_locs {fromId toId : ActorId} :
    ∀ w ∈ reviewerWrites s o.recipe fromId toId, w.loc ∈ o.writes := by
  intro w hw
  unfold reviewerWrites at hw
  split at hw
  · rename_i reviewerId linkRef hreviewer hlink
    rcases List.mem_append.1 hw with hw | hw
    · split at hw
      · cases hw
      · rw [List.mem_singleton.1 hw]
        exact Operation.binds_of_participant (reviewerParticipantId_mem hreviewer)
    · rw [List.mem_singleton.1 hw]
      exact List.mem_of_getElem? hlink
  · cases hw

theorem delegate_eq_writeAll (s : CollaborationSnapshot) (recipe : ReplayRecipe) (fromId toId : ActorId)
    (task : WorkArtifact) (lock : ScopedCapability) (owner : ActorRef) (session : CommunicationSession) :
    linkReviewer (withSession (transferTask s task lock owner) session) recipe fromId toId =
      cells.writeAll s ([.artifact (withArtifactOwner task owner),
        .capability (withCapabilityHolder lock owner.actorId), .session session] ++
          reviewerWrites s recipe fromId toId) := by
  rw [linkReviewer_eq_writeAll, Cells.writeAll_append]
  rfl

theorem sessionLinks_eq_writeAll (s : CollaborationSnapshot) (session : CommunicationSession) (kind : LinkKind)
    (pairs : List ((ActorId × ActorId) × LinkId)) :
    withPairLinks kind (withSession s session) pairs = cells.writeAll s (.session session :: pairs.map fun e =>
      .link (collaborationLink e.2 kind (.participant e.1.1) (.participant e.1.2))) :=
  withPairLinks_eq_writeAll kind (withSession s session) pairs

theorem forkTask_eq_writeAll (s : CollaborationSnapshot) (o : Operation) (taskId : ArtifactId)
    (content : ContentRef) (owner : ActorRef) (kind : LinkKind) (pairs : List ((ActorId × ActorId) × LinkId)) :
    withPairLinks kind (introduceTask s o.recipe taskId content owner) pairs = cells.writeAll s
      ([.artifact { artifactId := taskId, kind := "Task", contentRef := content, owner, lifecycle := .active },
        .capability { capabilityId := o.writeLockId taskId, kind := .writeLock, holder := owner.actorId,
                      scope := .artifact taskId }] ++ pairs.map fun e =>
      .link (collaborationLink e.2 kind (.participant e.1.1) (.participant e.1.2))) := by
  rw [withPairLinks_eq_writeAll, introduceTask_eq_writeAll, Cells.writeAll_append]

/-! ### What an agreeing state shows -/

section Agree
variable (h : cells.AgreeOn o.reads s t) {id : String}
include h

theorem agree_participant (hid : o.Binds .participant id) : t.participants.get? id = s.participants.get? id :=
  (h (.participant id) hid).symm

theorem agree_has (hid : o.Binds .participant id) (hp : s.participants.has id = true) :
    t.participants.has id = true := by
  rwa [OrdMap.has, agree_participant h hid]

theorem agree_artifact (hid : o.Binds .artifact id) : t.artifacts.get? id = s.artifacts.get? id :=
  (h (.artifact id) hid).symm

theorem agree_new (hid : o.Binds .artifact id) (hp : s.artifacts.has id = false) :
    t.artifacts.has id = false := by
  rwa [OrdMap.has, agree_artifact h hid]

theorem agree_session (hid : o.Binds .session id ∨ id ∈ o.recipe.createdSessionRefs) :
    t.sessions.get? id = s.sessions.get? id :=
  (h (.session id) hid).symm

theorem agree_transcript (hid : o.Binds .participant id) : t.transcripts.get? id = s.transcripts.get? id :=
  (h (.transcript id) hid).symm

theorem agree_heartbeatSeq (hid : o.Binds .participant id) :
    nextHeartbeatSeq t.heartbeatLog id = nextHeartbeatSeq s.heartbeatLog id := by
  rw [← nextHeartbeatSeq_filter t.heartbeatLog, ← nextHeartbeatSeq_filter s.heartbeatLog]
  exact congrArg (nextHeartbeatSeq · id) (h (.heartbeats id) hid).symm

theorem agree_living {p : Participant} (hid : o.Binds .participant id) (hp : livingParticipant s id = some p) :
    livingParticipant t id = some p := by
  rwa [livingParticipant, agree_participant h hid]

theorem reviewerWrites_congr (fromId toId : ActorId) :
    reviewerWrites s o.recipe fromId toId = reviewerWrites t o.recipe fromId toId := by
  unfold reviewerWrites
  cases hreviewer : reviewerParticipantId o.recipe fromId toId with
  | none => rfl
  | some reviewerId =>
      have hview := agree_participant h (Operation.binds_of_participant (reviewerParticipantId_mem hreviewer))
      have hhas : s.participants.has reviewerId = t.participants.has reviewerId := by
        simp only [OrdMap.has, hview]
      cases o.recipe.freshLinkRefs[0]? with
      | none => rfl
      | some linkRef => simp only [hhas]

end Agree

theorem loc_mem_singleton {A : Set Loc} {w : Write} (h : w.loc ∈ A) : ∀ w' ∈ [w], w'.loc ∈ A := fun w' hw' => by
  rwa [List.mem_singleton.1 hw']

theorem effect_local (hs : KeysMatch s) (heff : Effect s o.recipe o.kind after) :
    ∃ ws, after = cells.writeAll s ws ∧
      (∀ t, cells.AgreeOn o.reads s t → Effect t o.recipe o.kind (cells.writeAll t ws)) ∧
        ∀ w ∈ ws, w.loc ∈ o.writes := by
  have hbind : ∀ {role id}, findRole o.bindings role = some id → o.Binds role.targetKind id :=
    fun hid => Operation.binds_of_findRole hid
  obtain ⟨kind, recipe, afterRef⟩ := o
  cases heff with
  | @introduceArtifact taskId fromId content p hTask hFrom hNew hContent hOwner =>
      refine ⟨_, introduceTask_eq_writeAll s ⟨_, recipe, afterRef⟩ .., fun t h => ?_,
        introduceTask_locs ⟨.inl rfl, hTask⟩⟩
      exact .introduceArtifact hTask hFrom (agree_new h (hbind hTask) hNew) hContent
        ((agree_participant h (hbind hFrom)).trans hOwner)
  | @delegate b task lock p sessionId hBindings hTask hLock hTo hFrom hSession =>
      obtain ⟨ht, hf, hto, hc⟩ := delegateBindings_eq_some.1 hBindings
      refine ⟨_, delegate_eq_writeAll .., fun t h => ?_, ?_⟩
      · have hcap : t.capabilities.get? b.capabilityId = s.capabilities.get? b.capabilityId :=
          (h (.capability b.capabilityId) ⟨rfl, hc⟩).symm
        rw [reviewerWrites_congr h, ← delegate_eq_writeAll]
        exact .delegate hBindings ((agree_artifact h (hbind ht)).trans hTask) (hcap.trans hLock)
          ((agree_participant h (hbind hto)).trans hTo) (agree_has h (hbind hf) hFrom) hSession
      · have hown := hbind ht
        intro w hw
        rcases List.mem_append.1 hw with hw | hw
        · simp only [List.mem_cons, List.not_mem_nil, or_false] at hw
          rcases hw with rfl | rfl | rfl
          · rw [hs.artifacts _ _ hTask] at hown
            exact hown
          · rw [hs.capabilities _ _ hLock] at hc
            exact .inr ⟨rfl, hc⟩
          · exact .inr (List.mem_of_getElem? hSession)
        · exact reviewerWrites_locs w hw
  | @createSession controllerId sessionId hFrom hSession hNew hMembers hLinks =>
      have hid : Operation.Binds ⟨.createSession, recipe, afterRef⟩ .session sessionId ∨
          sessionId ∈ recipe.createdSessionRefs := by
        rcases Option.or_eq_some_iff.1 hSession with hr | ⟨_, hr⟩
        · exact .inr (List.mem_of_getElem? hr)
        · exact .inl (hbind hr)
      have hmem := fun (id : ActorId) (hid : id ∈ sessionParticipants recipe controllerId) => Operation.binds_of_mem_sessionParticipants
        (o := ⟨.createSession, recipe, afterRef⟩) hFrom hid
      refine ⟨_, sessionLinks_eq_writeAll .., fun t h => ?_, ?_⟩
      · rw [← sessionLinks_eq_writeAll]
        exact .createSession hFrom hSession (by rwa [OrdMap.has, agree_session h hid])
          (fun id hid => agree_has h (hmem id hid) (hMembers id hid)) hLinks
      · intro w hw
        rcases List.mem_cons.1 hw with rfl | hw
        · exact hid
        · exact mem_freshLinks w hw
  | @forkBranch controllerId hFrom hTask hContent hController hLinks =>
      refine ⟨_, withPairLinks_eq_writeAll .., fun t h => ?_, mem_freshLinks⟩
      rw [← withPairLinks_eq_writeAll]
      exact .forkBranch hFrom hTask hContent (agree_has h (hbind hFrom) hController) hLinks
  | @forkBranchTask controllerId taskId content p hFrom hTask hNew hContent hOwner hLinks =>
      refine ⟨_, forkTask_eq_writeAll s ⟨.forkBranch, recipe, afterRef⟩ .., fun t h => ?_, ?_⟩
      · rw [← forkTask_eq_writeAll]
        exact .forkBranchTask hFrom hTask (agree_new h (hbind hTask) hNew) hContent
          ((agree_participant h (hbind hFrom)).trans hOwner) hLinks
      · intro w hw
        rcases List.mem_append.1 hw with hw | hw
        · exact introduceTask_locs ⟨.inr rfl, hTask⟩ w hw
        · exact mem_freshLinks w hw
  | @publishArtifact artifactId artifact hTask hArtifact hFrom =>
      have hid : Operation.Binds ⟨.publishArtifact, recipe, afterRef⟩ .artifact artifactId := by
        rcases Option.or_eq_some_iff.1 hTask with hr | ⟨_, hr⟩
        · exact hbind hr
        · exact hbind hr
      refine ⟨[.artifact (withArtifactLifecycle artifact .published)], rfl, fun t h => ?_, loc_mem_singleton ?_⟩
      · exact .publishArtifact hTask ((agree_artifact h hid).trans hArtifact)
          fun id hid => agree_has h (hbind hid) (hFrom id hid)
      · rw [hs.artifacts _ _ hArtifact] at hid
        exact hid
  | @transferSession sessionId toId session hSessionId hToId hSession hController hFrom hTo =>
      have hid := hbind hSessionId
      refine ⟨[.session _], rfl, fun t h => ?_, loc_mem_singleton ?_⟩
      · exact .transferSession hSessionId hToId ((agree_session h (.inl hid)).trans hSession) hController
          (fun id hid => agree_has h (hbind hid) (hFrom id hid)) (agree_has h (hbind hToId) hTo)
      · rw [hs.sessions _ _ hSession] at hid
        exact .inl hid
  | @registerParticipant fromId participantId p hFrom hParticipant hInitiator hActive hNew =>
      refine ⟨[.participant _], rfl, fun t h => ?_, loc_mem_singleton (hbind hParticipant)⟩
      exact .registerParticipant hFrom hParticipant ((agree_participant h (hbind hFrom)).trans hInitiator) hActive
        (by rwa [OrdMap.has, agree_participant h (hbind hParticipant)])
  | @activateParticipant fromId participantId p target hFrom hParticipant hInitiator hActive hTarget hTransition
      hManifest =>
      refine ⟨[.participant _], rfl, fun t h => ?_, loc_mem_singleton (hbind hParticipant)⟩
      exact .activateParticipant hFrom hParticipant ((agree_participant h (hbind hFrom)).trans hInitiator) hActive
        ((agree_participant h (hbind hParticipant)).trans hTarget) hTransition hManifest
  | @signalDone fromId current hFrom hCurrent hTransition =>
      refine ⟨[.participant _], rfl, fun t h => ?_, loc_mem_singleton (hbind hFrom)⟩
      exact .signalDone hFrom ((agree_participant h (hbind hFrom)).trans hCurrent) hTransition
  | @retireParticipant fromId targetId current hFrom hTarget hCurrent hTransition hInitiator =>
      have hid : Operation.Binds ⟨.retireParticipant, recipe, afterRef⟩ .participant targetId := by
        cases hp : findRole recipe.matchBindings .participant with
        | none =>
            rw [hp] at hTarget
            exact hTarget ▸ hbind hFrom
        | some id =>
            rw [hp] at hTarget
            exact hTarget ▸ hbind hp
      refine ⟨[.participant _], rfl, fun t h => ?_, loc_mem_singleton hid⟩
      exact .retireParticipant hFrom hTarget ((agree_participant h hid).trans hCurrent) hTransition
        (agree_has h (hbind hFrom) hInitiator)
  | @emitHeartbeat fromId p emittedAt turnCount lastAction hFrom hLiving hEmitted hNames hTurn hAction =>
      refine ⟨[.heartbeat _], rfl, fun t h => ?_, loc_mem_singleton (hbind hFrom)⟩
      have heff := Effect.emitHeartbeat hFrom (agree_living h (hbind hFrom) hLiving) hEmitted hNames hTurn hAction
      rwa [agree_heartbeatSeq h (hbind hFrom)] at heff
  | @commitTranscript fromId current messagesJson parsed rows hFrom hLiving hInput hParsed hRows =>
      refine ⟨[.transcript _], rfl, fun t h => ?_, loc_mem_singleton (hbind hFrom)⟩
      have heff := Effect.commitTranscript hFrom (agree_living h (hbind hFrom) hLiving) hInput hParsed hRows
      rwa [agree_transcript h (hbind hFrom)] at heff

/-! ## Operations as confined actions -/

/-- The writes are what the operation does, here and wherever it reads the same. -/
structure Operation.Acts (o : Operation) (s : CollaborationSnapshot) (ws : List Write) : Prop where
  effect : ∀ t, cells.AgreeOn o.reads s t → Effect t o.recipe o.kind (cells.writeAll t ws)
  locs : ∀ w ∈ ws, w.loc ∈ o.writes

theorem Operation.confined (o : Operation) : cells.Confined o.reads o.writes o.Acts where
  reads _ _ _ h hacts := ⟨fun u hu => hacts.effect u (h.trans hu), hacts.locs⟩
  writes _ _ hacts := hacts.locs

theorem Operation.acts_withSnapshotRef {ws : List Write} (ref : SnapshotRef) :
    o.Acts (withSnapshotRef s ref) ws ↔ o.Acts s ws :=
  ⟨o.confined.reads _ _ _ fun _ _ => rfl, o.confined.reads _ _ _ fun _ _ => rfl⟩

theorem Operation.reads_subset_writes (o : Operation) : o.reads ⊆ o.writes := by
  intro l hl
  cases l with
  | capability id => exact .inr hl
  | link id => exact hl.elim
  | participant id => exact hl
  | artifact id => exact hl
  | session id => exact hl
  | transcript id => exact hl
  | heartbeats id => exact hl

theorem Operation.applies_iff : Operation.Applies s o t ↔
    ∃ result, t = withSnapshotRef result o.afterRef ∧ Effect s o.recipe o.kind result := by
  constructor
  · exact Operation.effect_of_applies
  · rintro ⟨result, rfl, heff⟩
    obtain ⟨r, hr, rfl⟩ := handler_of_effect { template := o.kind.template } heff
    simp only [Operation.Applies, Operation.apply, hr]

theorem Operation.acts_of_applies (hs : KeysMatch s) (h : Operation.Applies s o t) :
    ∃ ws, t = withSnapshotRef (cells.writeAll s ws) o.afterRef ∧ o.Acts s ws := by
  obtain ⟨result, rfl, heff⟩ := Operation.applies_iff.1 h
  obtain ⟨ws, rfl, heffect, hlocs⟩ := effect_local hs heff
  exact ⟨ws, rfl, heffect, hlocs⟩

theorem Operation.applies_of_acts {ws : List Write} (h : o.Acts s ws) :
    Operation.Applies s o (withSnapshotRef (cells.writeAll s ws) o.afterRef) :=
  Operation.applies_iff.2 ⟨_, rfl, h.effect s fun _ _ => rfl⟩

theorem keysMatch_applies (hs : KeysMatch s) (h : Operation.Applies s o t) : KeysMatch t := by
  obtain ⟨ws, rfl, _⟩ := Operation.acts_of_applies hs h
  exact ⟨(keysMatch_writeAll hs ws).1, (keysMatch_writeAll hs ws).2, (keysMatch_writeAll hs ws).3⟩

end Cantilune
