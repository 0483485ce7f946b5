import Cantilune.Runtime.Handlers

/-!
# What the handlers do

`Effect before recipe op after` lists, one constructor for each way a handler can succeed, the guards that
held and the world it returns. `handler_effect` reads it off the handlers, so that later proofs split on
effects and unfold no handler.
-/

namespace Cantilune

def withPairLinks (kind : LinkKind) (s : CollaborationSnapshot) (pairs : List ((ActorId × ActorId) × LinkId)) :
    CollaborationSnapshot :=
  { s with
    links := pairs.foldl (fun links e =>
      links.set e.2 (collaborationLink e.2 kind (.participant e.1.1) (.participant e.1.2))) s.links }

theorem linkPairs_eq_ok {kind : LinkKind} {reason : String} {s after : CollaborationSnapshot}
    {pairs : List (ActorId × ActorId)} {refs : List LinkId} :
    linkPairs kind reason s pairs refs = .ok after ↔
      pairs.length ≤ refs.length ∧ withPairLinks kind s (pairs.zip refs) = after := by
  induction pairs generalizing s refs with
  | nil => simp [linkPairs, withPairLinks]
  | cons p pairs ih =>
      cases refs with
      | nil => simp [linkPairs]
      | cons ref refs =>
          simp only [linkPairs, ih, List.length_cons, Nat.add_le_add_iff_right, List.zip_cons_cons]
          rfl

theorem actorRefFromSnapshot_eq_ok {s : CollaborationSnapshot} {id : ActorId} {ref : ActorRef} :
    actorRefFromSnapshot s id = .ok ref ↔ ∃ p, s.participants.get? id = some p ∧ ⟨id, p.kind⟩ = ref := by
  unfold actorRefFromSnapshot
  cases s.participants.get? id <;> simp

theorem actorRefsFromSnapshot_ok {s : CollaborationSnapshot} {ids : List ActorId} {refs : List ActorRef}
    (h : actorRefsFromSnapshot s ids = .ok refs) :
    refs.map (·.actorId) = ids ∧ ∀ id ∈ ids, s.participants.has id = true := by
  induction ids generalizing refs with
  | nil =>
      cases h
      simp
  | cons id ids ih =>
      simp only [actorRefsFromSnapshot, Outcome.bind_eq_ok, actorRefFromSnapshot_eq_ok] at h
      obtain ⟨_, ⟨p, hp, rfl⟩, refs', hrefs, h⟩ := h
      cases h
      obtain ⟨hids, hmem⟩ := ih hrefs
      simpa [hids, OrdMap.has_of_get? hp] using hmem

/-! ## Effects -/

def withLifecycle (before : CollaborationSnapshot) (id : ActorId) (kind : ActorKind)
    (status : ParticipationStatus) (manifestRef : Option ContentRef) : CollaborationSnapshot :=
  withParticipant before (participant id kind status manifestRef)

def transferTask (before : CollaborationSnapshot) (task : WorkArtifact) (lock : ScopedCapability)
    (owner : ActorRef) : CollaborationSnapshot :=
  withCapability (withArtifact before (withArtifactOwner task owner)) (withCapabilityHolder lock owner.actorId)

inductive Effect (before : CollaborationSnapshot) (recipe : ReplayRecipe) :
    BuiltinOperation → CollaborationSnapshot → Prop where
  | introduceArtifact {taskId fromId content p}
      (hTask : findRole recipe.matchBindings .task = some taskId)
      (hFrom : findRole recipe.matchBindings .from = some fromId)
      (hNew : before.artifacts.has taskId = false)
      (hContent : recipe.inputContentRefs[0]? = some content)
      (hOwner : before.participants.get? fromId = some p) :
      Effect before recipe .introduceArtifact (introduceTask before recipe taskId content ⟨fromId, p.kind⟩)
  | delegate {b task lock p sessionId}
      (hBindings : delegateBindings recipe = some b)
      (hTask : before.artifacts.get? b.taskId = some task)
      (hLock : before.capabilities.get? b.capabilityId = some lock)
      (hTo : before.participants.get? b.toId = some p)
      (hFrom : before.participants.has b.fromId = true)
      (hSession : recipe.createdSessionRefs[0]? = some sessionId) :
      Effect before recipe .delegate
        (linkReviewer
          (withSession (transferTask before task lock ⟨b.toId, p.kind⟩)
            (communicationSession sessionId b.toId [b.toId, b.fromId]))
          recipe b.fromId b.toId)
  | createSession {controllerId sessionId}
      (hFrom : findRole recipe.matchBindings .from = some controllerId)
      (hSession : recipe.createdSessionRefs[0]?.or (findRole recipe.matchBindings .session) = some sessionId)
      (hNew : before.sessions.has sessionId = false)
      (hMembers : ∀ id ∈ sessionParticipants recipe controllerId, before.participants.has id = true)
      (hLinks : ((sessionParticipants recipe controllerId).filter fun m => m ≠ controllerId).length
        ≤ recipe.freshLinkRefs.length) :
      Effect before recipe .createSession
        (withPairLinks .nestedIn
          (withSession before
            (communicationSession sessionId controllerId (sessionParticipants recipe controllerId)))
          ((((sessionParticipants recipe controllerId).filter fun m => m ≠ controllerId).map
            fun m => (controllerId, m)).zip recipe.freshLinkRefs))
  | forkBranch {controllerId}
      (hFrom : findRole recipe.matchBindings .from = some controllerId)
      (hTask : findRole recipe.matchBindings .task = none)
      (hContent : recipe.inputContentRefs = [])
      (hController : before.participants.has controllerId = true)
      (hLinks : (pairwise (sessionParticipants recipe controllerId)).length ≤ recipe.freshLinkRefs.length) :
      Effect before recipe .forkBranch
        (withPairLinks .parallelWith before
          ((pairwise (sessionParticipants recipe controllerId)).zip recipe.freshLinkRefs))
  | forkBranchTask {controllerId taskId content p}
      (hFrom : findRole recipe.matchBindings .from = some controllerId)
      (hTask : findRole recipe.matchBindings .task = some taskId)
      (hNew : before.artifacts.has taskId = false)
      (hContent : recipe.inputContentRefs[0]? = some content)
      (hOwner : before.participants.get? controllerId = some p)
      (hLinks : (pairwise (sessionParticipants recipe controllerId)).length ≤ recipe.freshLinkRefs.length) :
      Effect before recipe .forkBranch
        (withPairLinks .parallelWith
          (introduceTask before recipe taskId content ⟨controllerId, p.kind⟩)
          ((pairwise (sessionParticipants recipe controllerId)).zip recipe.freshLinkRefs))
  | publishArtifact {artifactId artifact}
      (hTask : (findRole recipe.matchBindings .task).or (findRole recipe.matchBindings .artifact)
        = some artifactId)
      (hArtifact : before.artifacts.get? artifactId = some artifact)
      (hFrom : ∀ id ∈ findRole recipe.matchBindings .from, before.participants.has id = true) :
      Effect before recipe .publishArtifact (withArtifact before (withArtifactLifecycle artifact .published))
  | transferSession {sessionId toId session}
      (hSessionId : findRole recipe.matchBindings .session = some sessionId)
      (hToId : findRole recipe.matchBindings .to = some toId)
      (hSession : before.sessions.get? sessionId = some session)
      (hController : ∀ id ∈ findRole recipe.matchBindings .from, session.controller = id)
      (hFrom : ∀ id ∈ findRole recipe.matchBindings .from, before.participants.has id = true)
      (hTo : before.participants.has toId = true) :
      Effect before recipe .transferSession
        (withSession before
          (communicationSession session.sessionId toId
            (if session.participants.contains toId then session.participants
              else session.participants ++ [toId])
            session.visibility))
  | registerParticipant {fromId participantId p}
      (hFrom : findRole recipe.matchBindings .from = some fromId)
      (hParticipant : findRole recipe.matchBindings .participant = some participantId)
      (hInitiator : before.participants.get? fromId = some p)
      (hActive : p.status = .active)
      (hNew : before.participants.has participantId = false) :
      Effect before recipe .registerParticipant (withLifecycle before participantId .agent .registered none)
  | activateParticipant {fromId participantId p target}
      (hFrom : findRole recipe.matchBindings .from = some fromId)
      (hParticipant : findRole recipe.matchBindings .participant = some participantId)
      (hInitiator : before.participants.get? fromId = some p)
      (hActive : p.status = .active)
      (hTarget : before.participants.get? participantId = some target)
      (hTransition : validateTransition target.status .active = true)
      (hManifest : target.kind = .agent ↔ recipe.inputContentRefs[0]? ≠ none) :
      Effect before recipe .activateParticipant
        (withLifecycle before participantId target.kind .active recipe.inputContentRefs[0]?)
  | signalDone {fromId current}
      (hFrom : findRole recipe.matchBindings .from = some fromId)
      (hCurrent : before.participants.get? fromId = some current)
      (hTransition : validateTransition current.status .done = true) :
      Effect before recipe .signalDone (withLifecycle before fromId current.kind .done none)
  | retireParticipant {fromId targetId current}
      (hFrom : findRole recipe.matchBindings .from = some fromId)
      (hTarget : (findRole recipe.matchBindings .participant).getD fromId = targetId)
      (hCurrent : before.participants.get? targetId = some current)
      (hTransition : validateTransition current.status .retired = true)
      (hInitiator : before.participants.has fromId = true) :
      Effect before recipe .retireParticipant (withLifecycle before targetId current.kind .retired none)
  | emitHeartbeat {fromId p emittedAt turnCount lastAction}
      (hFrom : findRole recipe.matchBindings .from = some fromId)
      (hLiving : livingParticipant before fromId = some p)
      (hEmitted : recipe.emittedAt = some emittedAt)
      (hNames : recipe.scalarInputs.size = 2 ∧ recipe.scalarInputs.has "turnCount" = true ∧
        recipe.scalarInputs.has "lastAction" = true)
      (hTurn : (recipe.scalarInputs.get? "turnCount").bind (·.safeNat?) = some turnCount)
      (hAction : nonEmptyStringInput recipe.scalarInputs "lastAction" = some lastAction) :
      Effect before recipe .emitHeartbeat
        (appendHeartbeat before
          { agentId := fromId, sequenceNo := nextHeartbeatSeq before.heartbeatLog fromId, emittedAt,
            turnCount, lastAction })
  | commitTranscript {fromId current messagesJson parsed rows}
      (hFrom : findRole recipe.matchBindings .from = some fromId)
      (hLiving : livingParticipant before fromId = some current)
      (hInput : nonEmptyStringInput recipe.scalarInputs "messagesJson" = some messagesJson)
      (hParsed : Json.parse messagesJson = some parsed)
      (hRows : transcriptRows parsed = some rows) :
      Effect before recipe .commitTranscript
        (withTranscript before
          (participantTranscript fromId rows current.namespaceId
            (((recipe.scalarInputs.get? "revision").bind (·.safeNat?)).getD
              (((before.transcripts.get? fromId).map (·.revision)).getD 0 + 1))))

/-! ## From the handlers to their effects -/

variable {before : CollaborationSnapshot} {recipe : ReplayRecipe} {ctx : ApplyContext} {r : Applied}
  {op : BuiltinOperation}

theorem delegateBindings_eq_some {b : DelegateBindings} : delegateBindings recipe = some b ↔
    findRole recipe.matchBindings .task = some b.taskId ∧ findRole recipe.matchBindings .from = some b.fromId ∧
      findRole recipe.matchBindings .to = some b.toId ∧
        findRole recipe.matchBindings .capability = some b.capabilityId := by
  obtain ⟨t, f, d, c⟩ := b
  simp only [delegateBindings, Option.bind_eq_some_iff, Option.map_eq_some_iff]
  constructor
  · rintro ⟨_, ht, _, hf, _, hd, _, hc, h⟩
    cases h
    exact ⟨ht, hf, hd, hc⟩
  · rintro ⟨ht, hf, hd, hc⟩
    exact ⟨t, ht, f, hf, d, hd, c, hc, rfl⟩

theorem handler_effect (h : op.handler before recipe ctx = .ok r) : Effect before recipe op r.after := by
  cases op with
  | introduceArtifact =>
      simp only [BuiltinOperation.handler, introduceArtifactHandler, Outcome.bind_eq_ok, required_eq_ok, refuseIf_eq_ok,
        Prod.exists, Option.bind_eq_some_iff, Option.map_eq_some_iff, actorRefFromSnapshot_eq_ok,
        Bool.not_eq_true] at h
      obtain ⟨_, _, ⟨taskId, hTask, fromId, hFrom, h₁⟩, _, hNew, content, hContent, owner, ⟨p, hp, h₂⟩, _, _, h⟩ := h
      cases h₁; cases h₂; cases h
      exact .introduceArtifact hTask hFrom hNew hContent hp
  | delegate =>
      simp only [BuiltinOperation.handler, delegateHandler, Outcome.bind_eq_ok, required_eq_ok, Prod.exists,
        Option.bind_eq_some_iff, Option.map_eq_some_iff, actorRefFromSnapshot_eq_ok] at h
      obtain ⟨b, hb, _, _, ⟨task, hTask, lock, hLock, h₁⟩, _, ⟨p, hp, h₂⟩, sessionId, hSession, _, hi, h⟩ := h
      cases h₁; cases h₂; cases h
      exact .delegate hb hTask hLock hp ((actorRefsFromSnapshot_ok hi).2 _ (by simp)) hSession
  | createSession =>
      simp only [BuiltinOperation.handler, createSessionHandler, Outcome.bind_eq_ok, required_eq_ok, refuseIf_eq_ok,
        Bool.not_eq_true, linkPairs_eq_ok, List.length_map] at h
      obtain ⟨controllerId, hFrom, sessionId, hSession, _, hNew, _, ⟨hLinks, h₁⟩, _, hi, h⟩ := h
      cases h₁; cases h
      exact .createSession hFrom hSession hNew (actorRefsFromSnapshot_ok hi).2 hLinks
  | forkBranch =>
      simp only [BuiltinOperation.handler, forkBranchHandler, applyTaskArtifact, Outcome.bind_eq_ok, required_eq_ok,
        linkPairs_eq_ok] at h
      obtain ⟨controllerId, hFrom, _, hTask, _, ⟨hLinks, h₁⟩, _, hi, h⟩ := h
      cases h₁; cases h
      cases htask : findRole recipe.matchBindings .task with
      | none =>
          simp only [htask, Outcome.bind_eq_ok, refuseIf_eq_ok] at hTask
          obtain ⟨_, hContent, h⟩ := hTask
          cases h
          exact .forkBranch hFrom htask (by simpa using hContent) ((actorRefsFromSnapshot_ok hi).2 _ (by simp)) hLinks
      | some taskId =>
          simp only [htask, Outcome.bind_eq_ok, refuseIf_eq_ok, required_eq_ok, actorRefFromSnapshot_eq_ok,
            Bool.not_eq_true] at hTask
          obtain ⟨_, hNew, content, hContent, _, ⟨p, hp, h₁⟩, h⟩ := hTask
          cases h₁; cases h
          exact .forkBranchTask hFrom htask hNew hContent hp hLinks
  | publishArtifact =>
      simp only [BuiltinOperation.handler, publishArtifactHandler, Outcome.bind_eq_ok, required_eq_ok] at h
      obtain ⟨artifactId, hTask, artifact, hArtifact, _, hi, h⟩ := h
      cases h
      exact .publishArtifact hTask hArtifact fun id hid =>
        (actorRefsFromSnapshot_ok hi).2 id (by simpa using hid)
  | transferSession =>
      simp only [BuiltinOperation.handler, transferSessionHandler, Outcome.bind_eq_ok, required_eq_ok, refuseIf_eq_ok,
        Prod.exists, Option.bind_eq_some_iff, Option.map_eq_some_iff] at h
      obtain ⟨_, _, ⟨sessionId, hSessionId, toId, hToId, h₁⟩, session, hSession, _, hController, _, hi, h⟩ := h
      cases h₁; cases h
      have hmem := (actorRefsFromSnapshot_ok hi).2
      refine .transferSession hSessionId hToId hSession ?_ (fun id hid => hmem id ?_) (hmem _ (by simp))
      · intro id hid
        rw [Option.mem_def] at hid
        simpa [hid] using hController
      · simp [Option.mem_def.1 hid]
  | registerParticipant =>
      simp only [BuiltinOperation.handler, registerParticipantHandler, Outcome.bind_eq_ok, required_eq_ok, refuseIf_eq_ok,
        Bool.not_eq_true, not_not] at h
      obtain ⟨fromId, hFrom, participantId, hParticipant, p, hp, _, hActive, _, hNew, _, hi, h⟩ := h
      cases h
      exact .registerParticipant hFrom hParticipant hp hActive hNew
  | activateParticipant =>
      simp only [BuiltinOperation.handler, activateParticipantHandler, Outcome.bind_eq_ok, required_eq_ok, refuseIf_eq_ok,
        Bool.not_eq_false, not_not] at h
      obtain ⟨fromId, hFrom, participantId, hParticipant, p, hp, _, hActive, target, hTarget, _, hTransition, _, h₁,
        _, h₂, _, hi, h⟩ := h
      cases h
      refine .activateParticipant hFrom hParticipant hp hActive hTarget hTransition ?_
      tauto
  | signalDone =>
      simp only [BuiltinOperation.handler, signalDoneHandler, Outcome.bind_eq_ok, required_eq_ok, refuseIf_eq_ok,
        Bool.not_eq_false] at h
      obtain ⟨fromId, hFrom, current, hCurrent, _, hTransition, _, hi, h⟩ := h
      cases h
      exact .signalDone hFrom hCurrent hTransition
  | retireParticipant =>
      simp only [BuiltinOperation.handler, retireParticipantHandler, Outcome.bind_eq_ok, required_eq_ok, refuseIf_eq_ok,
        Bool.not_eq_false] at h
      obtain ⟨fromId, hFrom, current, hCurrent, _, hTransition, _, hi, h⟩ := h
      cases h
      exact .retireParticipant hFrom rfl hCurrent hTransition ((actorRefsFromSnapshot_ok hi).2 _ (by simp))
  | emitHeartbeat =>
      simp only [BuiltinOperation.handler, emitHeartbeatHandler, Outcome.bind_eq_ok, required_eq_ok, refuseIf_eq_ok,
        not_or, not_not, Bool.not_eq_false] at h
      obtain ⟨fromId, hFrom, p, hLiving, emittedAt, hEmitted, _, hNames, turnCount, hTurn, lastAction, hAction, _, hi, h⟩ := h
      cases h
      exact .emitHeartbeat hFrom hLiving hEmitted hNames hTurn hAction
  | commitTranscript =>
      simp only [BuiltinOperation.handler, commitTranscriptHandler, Outcome.bind_eq_ok, required_eq_ok] at h
      obtain ⟨fromId, hFrom, current, hLiving, messagesJson, hInput, parsed, hParsed, rows, hRows, _, hi, h⟩ := h
      cases h
      exact .commitTranscript hFrom hLiving hInput hParsed hRows

/-! ## From effects to the handlers -/

theorem actorRefFromSnapshot_of_has {s : CollaborationSnapshot} {id : ActorId}
    (h : s.participants.has id = true) : ∃ ref, actorRefFromSnapshot s id = .ok ref := by
  obtain ⟨p, hp⟩ := OrdMap.has_iff.1 h
  exact ⟨_, actorRefFromSnapshot_eq_ok.2 ⟨p, hp, rfl⟩⟩

theorem actorRefsFromSnapshot_of_has (s : CollaborationSnapshot) (ids : List ActorId)
    (h : ∀ id ∈ ids, s.participants.has id = true) : ∃ refs, actorRefsFromSnapshot s ids = .ok refs := by
  induction ids with
  | nil => exact ⟨[], rfl⟩
  | cons id ids ih =>
      obtain ⟨ref, href⟩ := actorRefFromSnapshot_of_has (h id (by simp))
      obtain ⟨refs, hrefs⟩ := ih fun id' hid => h id' (by simp [hid])
      exact ⟨ref :: refs, by simp only [actorRefsFromSnapshot, Outcome.bind_eq_ok]; exact ⟨_, href, _, hrefs, rfl⟩⟩

theorem livingParticipant_has {s : CollaborationSnapshot} {id : ActorId} {p : Participant}
    (h : livingParticipant s id = some p) : s.participants.has id = true :=
  OrdMap.has_of_get? (Option.filter_eq_some_iff.1 h).1

theorem handler_of_effect (ctx : ApplyContext) (h : Effect before recipe op after) :
    ∃ r, op.handler before recipe ctx = .ok r ∧ r.after = after := by
  cases h with
  | @introduceArtifact taskId fromId content p hTask hFrom hNew hContent hOwner =>
      have hhas := OrdMap.has_of_get? hOwner
      obtain ⟨refs, hrefs⟩ := actorRefsFromSnapshot_of_has before [fromId] (by simpa using hhas)
      refine ⟨⟨_, refs, []⟩, ?_, rfl⟩
      simp only [BuiltinOperation.handler, introduceArtifactHandler, Outcome.bind_eq_ok, required_eq_ok, refuseIf_eq_ok,
        Option.bind_eq_some_iff, Option.map_eq_some_iff, actorRefFromSnapshot_eq_ok]
      exact ⟨(taskId, fromId), ⟨_, hTask, _, hFrom, rfl⟩, (), by simpa using hNew, _, hContent,
        _, ⟨p, hOwner, rfl⟩, _, hrefs, rfl⟩
  | @delegate b task lock p sessionId hBindings hTask hLock hTo hFrom hSession =>
      have hhas := OrdMap.has_of_get? hTo
      obtain ⟨refs, hrefs⟩ := actorRefsFromSnapshot_of_has before [b.fromId, b.toId]
        (by simp [hFrom, hhas])
      refine ⟨⟨_, refs, [sessionId]⟩, ?_, rfl⟩
      simp only [BuiltinOperation.handler, delegateHandler, Outcome.bind_eq_ok, required_eq_ok, Option.bind_eq_some_iff,
        Option.map_eq_some_iff, actorRefFromSnapshot_eq_ok]
      exact ⟨b, hBindings, (task, lock), ⟨_, hTask, _, hLock, rfl⟩, _, ⟨p, hTo, rfl⟩, _, hSession, _, hrefs, rfl⟩
  | @createSession controllerId sessionId hFrom hSession hNew hMembers hLinks =>
      obtain ⟨refs, hrefs⟩ := actorRefsFromSnapshot_of_has before _ hMembers
      refine ⟨⟨_, refs, [sessionId]⟩, ?_, rfl⟩
      simp only [BuiltinOperation.handler, createSessionHandler, Outcome.bind_eq_ok, required_eq_ok, refuseIf_eq_ok,
        linkPairs_eq_ok, List.length_map]
      exact ⟨_, hFrom, _, hSession, (), by simp [hNew], _, ⟨hLinks, rfl⟩, _, hrefs, rfl⟩
  | @forkBranch controllerId hFrom hTask hContent hController hLinks =>
      obtain ⟨refs, hrefs⟩ := actorRefsFromSnapshot_of_has before [controllerId]
        (by simpa using hController)
      refine ⟨⟨_, refs, []⟩, ?_, rfl⟩
      simp only [BuiltinOperation.handler, forkBranchHandler, applyTaskArtifact, hTask, Outcome.bind_eq_ok, required_eq_ok,
        refuseIf_eq_ok, linkPairs_eq_ok]
      exact ⟨_, hFrom, _, ⟨(), by simp [hContent], rfl⟩, _, ⟨hLinks, rfl⟩, _, hrefs, rfl⟩
  | @forkBranchTask controllerId taskId content p hFrom hTask hNew hContent hOwner hLinks =>
      have hhas := OrdMap.has_of_get? hOwner
      obtain ⟨refs, hrefs⟩ := actorRefsFromSnapshot_of_has before [controllerId]
        (by simpa using hhas)
      refine ⟨⟨_, refs, []⟩, ?_, rfl⟩
      simp only [BuiltinOperation.handler, forkBranchHandler, applyTaskArtifact, hTask, Outcome.bind_eq_ok, required_eq_ok,
        refuseIf_eq_ok, linkPairs_eq_ok, actorRefFromSnapshot_eq_ok]
      exact ⟨_, hFrom, _, ⟨(), by simp [hNew], _, hContent, _, ⟨_, hOwner, rfl⟩, rfl⟩, _, ⟨hLinks, rfl⟩, _, hrefs, rfl⟩
  | @publishArtifact artifactId artifact hTask hArtifact hFrom =>
      obtain ⟨refs, hrefs⟩ := actorRefsFromSnapshot_of_has before
        (findRole recipe.matchBindings .from).toList (by simpa using hFrom)
      refine ⟨⟨_, refs, []⟩, ?_, rfl⟩
      simp only [BuiltinOperation.handler, publishArtifactHandler, Outcome.bind_eq_ok, required_eq_ok]
      exact ⟨_, hTask, _, hArtifact, _, hrefs, rfl⟩
  | @transferSession sessionId toId session hSessionId hToId hSession hController hFrom hTo =>
      obtain ⟨refs, hrefs⟩ := actorRefsFromSnapshot_of_has before
        ((findRole recipe.matchBindings .from).toList ++ [toId])
        (by simpa [or_imp, forall_and, hTo] using hFrom)
      refine ⟨⟨_, refs, []⟩, ?_, rfl⟩
      simp only [BuiltinOperation.handler, transferSessionHandler, Outcome.bind_eq_ok, required_eq_ok, refuseIf_eq_ok,
        Option.bind_eq_some_iff, Option.map_eq_some_iff]
      refine ⟨(sessionId, toId), ⟨_, hSessionId, _, hToId, rfl⟩, _, hSession, (), ?_, _, hrefs, rfl⟩
      simpa [Option.any_eq_true] using hController
  | @registerParticipant fromId participantId p hFrom hParticipant hInitiator hActive hNew =>
      obtain ⟨refs, hrefs⟩ := actorRefsFromSnapshot_of_has
        (withLifecycle before participantId .agent .registered none) [fromId, participantId]
        (by simp [withLifecycle, withParticipant, participant, OrdMap.has_set, OrdMap.has_of_get? hInitiator])
      refine ⟨⟨_, refs, []⟩, ?_, rfl⟩
      simp only [BuiltinOperation.handler, registerParticipantHandler, Outcome.bind_eq_ok, required_eq_ok, refuseIf_eq_ok]
      exact ⟨_, hFrom, _, hParticipant, p, hInitiator, (), by simp [hActive], (), by simp [hNew], _, hrefs, rfl⟩
  | @activateParticipant fromId participantId p target hFrom hParticipant hInitiator hActive hTarget hTransition
      hManifest =>
      obtain ⟨refs, hrefs⟩ := actorRefsFromSnapshot_of_has
        (withLifecycle before participantId target.kind .active recipe.inputContentRefs[0]?)
        [fromId, participantId]
        (by simp [withLifecycle, withParticipant, participant, OrdMap.has_set, OrdMap.has_of_get? hInitiator])
      refine ⟨⟨_, refs, []⟩, ?_, rfl⟩
      simp only [BuiltinOperation.handler, activateParticipantHandler, Outcome.bind_eq_ok, required_eq_ok, refuseIf_eq_ok]
      refine ⟨_, hFrom, _, hParticipant, p, hInitiator, (), by simp [hActive], target, hTarget, (),
        by simp [hTransition], (), ?_, (), ?_, _, hrefs, rfl⟩
      · tauto
      · tauto
  | @signalDone fromId current hFrom hCurrent hTransition =>
      have hhas := OrdMap.has_of_get? hCurrent
      obtain ⟨refs, hrefs⟩ := actorRefsFromSnapshot_of_has before [fromId] (by simpa using hhas)
      refine ⟨⟨_, refs, []⟩, ?_, rfl⟩
      simp only [BuiltinOperation.handler, signalDoneHandler, Outcome.bind_eq_ok, required_eq_ok, refuseIf_eq_ok]
      exact ⟨_, hFrom, _, hCurrent, (), by simp [hTransition], _, hrefs, rfl⟩
  | @retireParticipant fromId targetId current hFrom hTarget hCurrent hTransition hInitiator =>
      have hhas := OrdMap.has_of_get? hCurrent
      obtain ⟨refs, hrefs⟩ := actorRefsFromSnapshot_of_has before [fromId, targetId]
        (by simp [hInitiator, hhas])
      refine ⟨⟨_, refs, []⟩, ?_, rfl⟩
      simp only [BuiltinOperation.handler, retireParticipantHandler, Outcome.bind_eq_ok, required_eq_ok, refuseIf_eq_ok]
      refine ⟨_, hFrom, ?_⟩
      rw [hTarget]
      exact ⟨_, hCurrent, (), by simp [hTransition], _, hrefs, rfl⟩
  | @emitHeartbeat fromId p emittedAt turnCount lastAction hFrom hLiving hEmitted hNames hTurn hAction =>
      obtain ⟨refs, hrefs⟩ := actorRefsFromSnapshot_of_has before [fromId]
        (by simpa using livingParticipant_has hLiving)
      refine ⟨⟨_, refs, []⟩, ?_, rfl⟩
      simp only [BuiltinOperation.handler, emitHeartbeatHandler, Outcome.bind_eq_ok, required_eq_ok, refuseIf_eq_ok]
      exact ⟨_, hFrom, _, hLiving, _, hEmitted, (), by simp [hNames], _, hTurn, _, hAction, _, hrefs, rfl⟩
  | @commitTranscript fromId current messagesJson parsed rows hFrom hLiving hInput hParsed hRows =>
      obtain ⟨refs, hrefs⟩ := actorRefsFromSnapshot_of_has before [fromId]
        (by simpa using livingParticipant_has hLiving)
      refine ⟨⟨_, refs, []⟩, ?_, rfl⟩
      simp only [BuiltinOperation.handler, commitTranscriptHandler, Outcome.bind_eq_ok, required_eq_ok]
      exact ⟨_, hFrom, _, hLiving, _, hInput, _, hParsed, _, hRows, _, hrefs, rfl⟩

end Cantilune
