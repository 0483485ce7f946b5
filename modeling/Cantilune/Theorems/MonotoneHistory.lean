import Cantilune.Theorems.Namespaces
import Cantilune.Theorems.SnapshotRoundTrip
import Mathlib.Logic.Relation

/-!
# Monotone history

What a later head keeps of an earlier one: its logs, its entities and the direction of its lifecycles.
Both logs are numbered by the entries before, so numbers have no gap and no repeat.
-/

namespace Cantilune

variable {s t u : CollaborationSnapshot} {o : Operation} {e : WorldStep}

/-! ## Numbers -/

def auditNumbers (s : CollaborationSnapshot) : List Nat := s.auditTail.map (·.sequenceNo)

def heartbeatNumbers (s : CollaborationSnapshot) (agentId : ActorId) : List Nat :=
  (s.heartbeatLog.filter fun entry => entry.agentId = agentId).map (·.sequenceNo)

/-- The list `1, 2, …` of some length. -/
def Numbered (ns : List Nat) : Prop := ns = List.range' 1 ns.length

instance (ns : List Nat) : Decidable (Numbered ns) := inferInstanceAs (Decidable (_ = _))

structure NumberedLogs (s : CollaborationSnapshot) : Prop where
  auditTail : Numbered (auditNumbers s)
  heartbeats : ∀ agentId, Numbered (heartbeatNumbers s agentId)

theorem Numbered.snoc {ns : List Nat} (h : Numbered ns) : Numbered (ns ++ [ns.length + 1]) := by
  have hlast : List.range' 1 (ns.length + 1) = List.range' 1 ns.length ++ [1 + 1 * ns.length] :=
    List.range'_concat
  unfold Numbered
  rw [List.length_append, List.length_singleton, hlast, ← h]
  simp [Nat.add_comm]

theorem Numbered.getLast? {ns : List Nat} {n : Nat} (h : Numbered ns) (hlast : ns.getLast? = some n) :
    n = ns.length := by
  rw [h, List.getLast?_range'] at hlast
  split at hlast
  · cases hlast
  · cases hlast
    omega

theorem nextSequenceNo_eq (h : Numbered (auditNumbers s)) :
    nextSequenceNo s.auditTail = (auditNumbers s).length + 1 := by
  unfold nextSequenceNo
  cases hlast : s.auditTail.getLast? with
  | none =>
      have hnil := List.getLast?_eq_none_iff.1 hlast
      simp [auditNumbers, hnil]
  | some entry =>
      have hnumber : (auditNumbers s).getLast? = some entry.sequenceNo := by
        simp [auditNumbers, List.getLast?_map, hlast]
      simp [h.getLast? hnumber]

theorem foldl_most_eq (log : List HeartbeatEntry) (agentId : ActorId) (most : Nat) :
    log.foldl (fun most entry =>
      if entry.agentId = agentId ∧ entry.sequenceNo > most then entry.sequenceNo else most) most =
    ((log.filter fun entry => entry.agentId = agentId).map (·.sequenceNo)).foldl max most := by
  induction log generalizing most with
  | nil => rfl
  | cons entry log ih =>
      rw [List.foldl_cons, ih]
      by_cases hagent : entry.agentId = agentId
      · have hmax : (if entry.agentId = agentId ∧ entry.sequenceNo > most then entry.sequenceNo else most) =
            max most entry.sequenceNo := by
          simp only [hagent, true_and]
          split <;> omega
        rw [hmax]
        simp [hagent]
      · simp [hagent]

theorem foldl_max_range' (n : Nat) : (List.range' 1 n).foldl max 0 = n := by
  induction n with
  | zero => rfl
  | succ n ih =>
      rw [List.range'_concat, List.foldl_append, ih]
      simp [Nat.add_comm]

theorem nextHeartbeatSeq_eq {agentId : ActorId} (h : Numbered (heartbeatNumbers s agentId)) :
    nextHeartbeatSeq s.heartbeatLog agentId = (heartbeatNumbers s agentId).length + 1 := by
  have hfold : nextHeartbeatSeq s.heartbeatLog agentId = (heartbeatNumbers s agentId).foldl max 0 + 1 :=
    congrArg (· + 1) (foldl_most_eq s.heartbeatLog agentId 0)
  rw [hfold, h, foldl_max_range', List.length_range']

def StatusStep (before after : ParticipationStatus) : Prop :=
  after = before ∨ validateTransition before after = true

/-- One registered transition after another. -/
def StatusPath : ParticipationStatus → ParticipationStatus → Prop :=
  Relation.ReflTransGen fun before after => validateTransition before after = true

theorem StatusStep.path {a b : ParticipationStatus} (h : StatusStep a b) : StatusPath a b := by
  rcases h with rfl | h
  · exact .refl
  · exact .single h

theorem not_validateTransition_retired (status : ParticipationStatus) :
    validateTransition .retired status = false := by
  cases status <;> rfl

theorem StatusPath.retired {status : ParticipationStatus} (h : StatusPath .retired status) : status = .retired := by
  induction h with
  | refl => rfl
  | tail _ hstep ih =>
      rw [ih, not_validateTransition_retired] at hstep
      cases hstep

/-! ## One operation -/

/-- Every participant is still there, with the status it had or the next one. -/
def StatusesStep (s t : CollaborationSnapshot) : Prop :=
  ∀ id p, s.participants.get? id = some p →
    ∃ p', t.participants.get? id = some p' ∧ StatusStep p.status p'.status

theorem statusesStep_of_eq (h : t.participants = s.participants) : StatusesStep s t := fun _ p hp =>
  ⟨p, by rw [h, hp], .inl rfl⟩

theorem statusesStep_of_new {id : ActorId} {p : Participant} (hNew : s.participants.get? id = none)
    (h : t.participants = s.participants.set id p) : StatusesStep s t := by
  intro id' q hq
  have hne : id' ≠ id := by
    rintro rfl
    rw [hNew] at hq
    cases hq
  exact ⟨q, by rw [h, OrdMap.get?_set_ne _ _ hne, hq], .inl rfl⟩

theorem statusesStep_of_transition {id : ActorId} {p p' : Participant} (hOld : s.participants.get? id = some p)
    (h : t.participants = s.participants.set id p') (htr : validateTransition p.status p'.status = true) :
    StatusesStep s t := by
  intro id' q hq
  by_cases hid : id' = id
  · subst hid
    cases hOld.symm.trans hq
    exact ⟨p', by rw [h, OrdMap.get?_set_self], .inr htr⟩
  · exact ⟨q, by rw [h, OrdMap.get?_set_ne _ _ hid, hq], .inl rfl⟩

def Kept {K V : Type} [DecidableEq K] (m n : OrdMap K V) : Prop := ∀ k, m.has k = true → n.has k = true

theorem kept_set {K V : Type} [DecidableEq K] (m : OrdMap K V) (k : K) (v : V) : Kept m (m.set k v) := by
  intro j hj
  rw [OrdMap.has_set, hj, Bool.or_true]

theorem kept_foldl_set {K V E : Type} [DecidableEq K] (key : E → K) (value : E → V) (es : List E)
    (m : OrdMap K V) : Kept m (es.foldl (fun m e => m.set (key e) (value e)) m) := by
  induction es generalizing m with
  | nil => exact fun _ hj => hj
  | cons e es ih => exact fun j hj => ih _ j (kept_set m _ _ j hj)

/-- No artifact, link or session is gone. -/
structure EntitiesKept (s t : CollaborationSnapshot) : Prop where
  artifacts : Kept s.artifacts t.artifacts
  links : Kept s.links t.links
  sessions : Kept s.sessions t.sessions

theorem entitiesKept_of_eq (hArtifacts : t.artifacts = s.artifacts) (hLinks : t.links = s.links)
    (hSessions : t.sessions = s.sessions) : EntitiesKept s t := by
  refine ⟨?_, ?_, ?_⟩
  · rw [hArtifacts]
    exact fun _ h => h
  · rw [hLinks]
    exact fun _ h => h
  · rw [hSessions]
    exact fun _ h => h

theorem EntitiesKept.refl (s : CollaborationSnapshot) : EntitiesKept s s := entitiesKept_of_eq rfl rfl rfl

theorem EntitiesKept.trans (h : EntitiesKept s t) (k : EntitiesKept t u) : EntitiesKept s u :=
  ⟨fun id hid => k.1 id (h.1 id hid), fun id hid => k.2 id (h.2 id hid), fun id hid => k.3 id (h.3 id hid)⟩

theorem entitiesKept_withArtifact (s : CollaborationSnapshot) (a : WorkArtifact) :
    EntitiesKept s (withArtifact s a) :=
  ⟨kept_set _ _ _, fun _ h => h, fun _ h => h⟩

theorem entitiesKept_withLink (s : CollaborationSnapshot) (l : CollaborationLink) : EntitiesKept s (withLink s l) :=
  ⟨fun _ h => h, kept_set _ _ _, fun _ h => h⟩

theorem entitiesKept_withSession (s : CollaborationSnapshot) (c : CommunicationSession) :
    EntitiesKept s (withSession s c) :=
  ⟨fun _ h => h, fun _ h => h, kept_set _ _ _⟩

theorem entitiesKept_introduceTask (s : CollaborationSnapshot) (recipe : ReplayRecipe) (taskId : ArtifactId)
    (content : ContentRef) (owner : ActorRef) : EntitiesKept s (introduceTask s recipe taskId content owner) :=
  ⟨kept_set _ _ _, fun _ h => h, fun _ h => h⟩

theorem entitiesKept_transferTask (s : CollaborationSnapshot) (task : WorkArtifact) (lock : ScopedCapability)
    (owner : ActorRef) : EntitiesKept s (transferTask s task lock owner) :=
  ⟨kept_set _ _ _, fun _ h => h, fun _ h => h⟩

theorem entitiesKept_withPairLinks (kind : LinkKind) (s : CollaborationSnapshot)
    (pairs : List ((ActorId × ActorId) × LinkId)) : EntitiesKept s (withPairLinks kind s pairs) :=
  ⟨fun _ h => h, kept_foldl_set _ _ _ _, fun _ h => h⟩

theorem entitiesKept_linkReviewer (s : CollaborationSnapshot) (recipe : ReplayRecipe) (fromId toId : ActorId) :
    EntitiesKept s (linkReviewer s recipe fromId toId) := by
  unfold linkReviewer
  split
  · split
    · exact entitiesKept_withLink _ _
    · exact ⟨fun _ h => h, kept_set _ _ _, fun _ h => h⟩
  · exact .refl s

theorem linkReviewer_logs (s : CollaborationSnapshot) (recipe : ReplayRecipe) (fromId toId : ActorId) :
    (linkReviewer s recipe fromId toId).auditTail = s.auditTail ∧
      (linkReviewer s recipe fromId toId).heartbeatLog = s.heartbeatLog := by
  unfold linkReviewer
  split
  · split <;> exact ⟨rfl, rfl⟩
  · exact ⟨rfl, rfl⟩

def HeartbeatStep (s t : CollaborationSnapshot) : Prop :=
  t.heartbeatLog = s.heartbeatLog ∨ ∃ entry : HeartbeatEntry,
    t.heartbeatLog = s.heartbeatLog ++ [entry] ∧ entry.sequenceNo = nextHeartbeatSeq s.heartbeatLog entry.agentId

structure OperationHistory (s t : CollaborationSnapshot) : Prop where
  statuses : StatusesStep s t
  entities : EntitiesKept s t
  auditTail : t.auditTail = s.auditTail
  heartbeats : HeartbeatStep s t

theorem operationHistory_of_effect {recipe : ReplayRecipe} {op : BuiltinOperation} (h : Effect s recipe op t) :
    OperationHistory s t := by
  cases h with
  | introduceArtifact => exact ⟨statusesStep_of_eq rfl, entitiesKept_introduceTask _ _ _ _ _, rfl, .inl rfl⟩
  | @delegate b task lock p sessionId =>
      have hkept := (entitiesKept_transferTask s task lock ⟨b.toId, p.kind⟩).trans
        (entitiesKept_withSession (transferTask s task lock ⟨b.toId, p.kind⟩)
          (communicationSession sessionId b.toId [b.toId, b.fromId]))
      obtain ⟨haudit, hbeats⟩ := linkReviewer_logs
        (withSession (transferTask s task lock ⟨b.toId, p.kind⟩)
          (communicationSession sessionId b.toId [b.toId, b.fromId])) recipe b.fromId b.toId
      refine ⟨?_, hkept.trans (entitiesKept_linkReviewer _ _ _ _), haudit, .inl hbeats⟩
      rcases linkReviewer_participants
        (withSession (transferTask s task lock ⟨b.toId, p.kind⟩)
          (communicationSession sessionId b.toId [b.toId, b.fromId])) recipe b.fromId b.toId with heq | ⟨id, hid, heq⟩
      · exact statusesStep_of_eq heq
      · exact statusesStep_of_new hid heq
  | createSession =>
      exact ⟨statusesStep_of_eq rfl, (entitiesKept_withSession _ _).trans (entitiesKept_withPairLinks _ _ _), rfl,
        .inl rfl⟩
  | forkBranch => exact ⟨statusesStep_of_eq rfl, entitiesKept_withPairLinks _ _ _, rfl, .inl rfl⟩
  | forkBranchTask =>
      exact ⟨statusesStep_of_eq rfl, (entitiesKept_introduceTask _ _ _ _ _).trans (entitiesKept_withPairLinks _ _ _),
        rfl, .inl rfl⟩
  | publishArtifact => exact ⟨statusesStep_of_eq rfl, entitiesKept_withArtifact _ _, rfl, .inl rfl⟩
  | transferSession => exact ⟨statusesStep_of_eq rfl, entitiesKept_withSession _ _, rfl, .inl rfl⟩
  | registerParticipant _ _ _ _ hNew =>
      exact ⟨statusesStep_of_new (OrdMap.has_eq_false_iff.1 hNew) rfl, entitiesKept_of_eq rfl rfl rfl, rfl, .inl rfl⟩
  | activateParticipant _ _ _ _ hTarget hTransition _ =>
      exact ⟨statusesStep_of_transition hTarget rfl hTransition, entitiesKept_of_eq rfl rfl rfl, rfl, .inl rfl⟩
  | signalDone _ hCurrent hTransition =>
      exact ⟨statusesStep_of_transition hCurrent rfl hTransition, entitiesKept_of_eq rfl rfl rfl, rfl, .inl rfl⟩
  | retireParticipant _ _ hCurrent hTransition _ =>
      exact ⟨statusesStep_of_transition hCurrent rfl hTransition, entitiesKept_of_eq rfl rfl rfl, rfl, .inl rfl⟩
  | emitHeartbeat => exact ⟨statusesStep_of_eq rfl, entitiesKept_of_eq rfl rfl rfl, rfl, .inr ⟨_, rfl, rfl⟩⟩
  | commitTranscript => exact ⟨statusesStep_of_eq rfl, entitiesKept_of_eq rfl rfl rfl, rfl, .inl rfl⟩

/-! ## One step of the world -/

def AuditStep (s t : CollaborationSnapshot) : Prop :=
  t.auditTail = s.auditTail ∨ ∃ entry : ObservationEntry,
    t.auditTail = s.auditTail ++ [entry] ∧ entry.sequenceNo = nextSequenceNo s.auditTail

structure HistoryStep (s t : CollaborationSnapshot) : Prop where
  statuses : StatusesStep s t
  entities : EntitiesKept s t
  auditTail : AuditStep s t
  heartbeats : HeartbeatStep s t

theorem historyStep (h : WorldStep.Applies s e t) : HistoryStep s t := by
  cases e with
  | operate o =>
      obtain ⟨result, rfl, heff⟩ := Operation.effect_of_applies h
      have hop := operationHistory_of_effect heff
      exact ⟨hop.1, ⟨hop.2.1, hop.2.2, hop.2.3⟩, .inl hop.3, hop.4⟩
  | observe source payloadRef receivedAt nextRef =>
      cases h
      exact ⟨statusesStep_of_eq rfl, entitiesKept_of_eq rfl rfl rfl, .inr ⟨_, rfl, rfl⟩, .inl rfl⟩
  | advanceEpoch afterRef targetEpochId =>
      cases h
      exact ⟨statusesStep_of_eq rfl, entitiesKept_of_eq rfl rfl rfl, .inl rfl, .inl rfl⟩

theorem AuditStep.numbered (h : AuditStep s t) (hs : Numbered (auditNumbers s)) : Numbered (auditNumbers t) := by
  rcases h with heq | ⟨entry, heq, hnumber⟩
  · rwa [auditNumbers, heq]
  · have happ : auditNumbers t = auditNumbers s ++ [(auditNumbers s).length + 1] := by
      rw [← nextSequenceNo_eq hs, ← hnumber]
      simp [auditNumbers, heq]
    rw [happ]
    exact hs.snoc

theorem HeartbeatStep.numbered (h : HeartbeatStep s t) (hs : ∀ agentId, Numbered (heartbeatNumbers s agentId))
    (agentId : ActorId) : Numbered (heartbeatNumbers t agentId) := by
  rcases h with heq | ⟨entry, heq, hnumber⟩
  · rw [heartbeatNumbers, heq]
    exact hs agentId
  · by_cases hagent : entry.agentId = agentId
    · subst hagent
      have happ : heartbeatNumbers t entry.agentId =
          heartbeatNumbers s entry.agentId ++ [(heartbeatNumbers s entry.agentId).length + 1] := by
        rw [← nextHeartbeatSeq_eq (hs entry.agentId), ← hnumber]
        simp [heartbeatNumbers, heq]
      rw [happ]
      exact (hs entry.agentId).snoc
    · have hframe : heartbeatNumbers t agentId = heartbeatNumbers s agentId := by
        simp [heartbeatNumbers, heq, hagent]
      rw [hframe]
      exact hs agentId

theorem HistoryStep.numberedLogs (h : HistoryStep s t) (hs : NumberedLogs s) : NumberedLogs t :=
  ⟨h.auditTail.numbered hs.auditTail, h.heartbeats.numbered hs.heartbeats⟩

/-! ## Runs -/

/-- A later head of the same history. -/
structure Continues (s t : CollaborationSnapshot) : Prop where
  auditTail : s.auditTail <+: t.auditTail
  heartbeatLog : s.heartbeatLog <+: t.heartbeatLog
  statuses : ∀ id p, s.participants.get? id = some p →
    ∃ p', t.participants.get? id = some p' ∧ StatusPath p.status p'.status
  entities : EntitiesKept s t

theorem Continues.refl (s : CollaborationSnapshot) : Continues s s :=
  ⟨List.prefix_rfl, List.prefix_rfl, fun _ p hp => ⟨p, hp, .refl⟩, .refl s⟩

theorem Continues.trans (h : Continues s t) (k : Continues t u) : Continues s u := by
  refine ⟨h.auditTail.trans k.auditTail, h.heartbeatLog.trans k.heartbeatLog, ?_, h.entities.trans k.entities⟩
  intro id p hp
  obtain ⟨q, hq, hpq⟩ := h.statuses id p hp
  obtain ⟨r, hr, hqr⟩ := k.statuses id q hq
  exact ⟨r, hr, Relation.ReflTransGen.trans hpq hqr⟩

theorem HistoryStep.continues (h : HistoryStep s t) : Continues s t := by
  refine ⟨?_, ?_, ?_, h.entities⟩
  · rcases h.auditTail with heq | ⟨entry, heq, _⟩
    · exact heq ▸ List.prefix_rfl
    · rw [heq]
      exact List.prefix_append _ _
  · rcases h.heartbeats with heq | ⟨entry, heq, _⟩
    · exact heq ▸ List.prefix_rfl
    · rw [heq]
      exact List.prefix_append _ _
  · intro id p hp
    obtain ⟨p', hp', hstep⟩ := h.statuses id p hp
    exact ⟨p', hp', hstep.path⟩

theorem continues_of_run {es : List WorldStep} (r : Run WorldStep.Applies s es t) : Continues s t :=
  r.related Continues.refl (fun _ _ _ => Continues.trans) fun _ _ _ h => (historyStep h).continues

theorem numberedLogs_of_run {es : List WorldStep} (r : Run WorldStep.Applies s es t) (hs : NumberedLogs s) :
    NumberedLogs t :=
  r.invariant (fun _ _ _ h => (historyStep h).numberedLogs) hs

theorem Continues.retired (h : Continues s t) {id : ActorId} {p : Participant}
    (hp : s.participants.get? id = some p) (hretired : p.status = .retired) :
    ∃ p', t.participants.get? id = some p' ∧ p'.status = .retired := by
  obtain ⟨p', hp', hpath⟩ := h.statuses id p hp
  rw [hretired] at hpath
  exact ⟨p', hp', hpath.retired⟩

/-- Of any two heads of a run, the later continues the history of the earlier, and no step takes a participant
further than one transition. Logs that are numbered where the run starts are numbered at both heads. -/
theorem monotone_history {start : CollaborationSnapshot} {es es' : List WorldStep}
    (r : Run WorldStep.Applies start es s) (r' : Run WorldStep.Applies s es' t) :
    Continues s t ∧ (NumberedLogs start → NumberedLogs s ∧ NumberedLogs t) ∧
      (∀ id p, s.participants.get? id = some p → p.status = .retired →
        ∃ p', t.participants.get? id = some p' ∧ p'.status = .retired) ∧
      ∀ e u, WorldStep.Applies t e u → StatusesStep t u := by
  have hcont := continues_of_run r'
  refine ⟨hcont, fun hstart => ?_, fun _ _ hp hretired => hcont.retired hp hretired,
    fun _ _ h => (historyStep h).statuses⟩
  have hs := numberedLogs_of_run r hstart
  exact ⟨hs, numberedLogs_of_run r' hs⟩

/-- `ann` sends a heartbeat. -/
def annBeats : Operation :=
  let beat := workshopOperation .emitHeartbeat [⟨.from, "ann"⟩] []
    (.ofList [("turnCount", .number (.finite 1)), ("lastAction", .string "plan")])
  { beat with recipe := withHeartbeatEmittedAt beat.recipe "t1" }

def annDone : Operation := workshopOperation .signalDone [⟨.from, "ann"⟩]

/-- The world after an observation and the advance of the epoch. -/
def overnight (s : CollaborationSnapshot) : CollaborationSnapshot :=
  snapshotWithAdvancedEpoch (withSnapshotRef (appendObservation s ⟨"bob", .agent⟩ "c1" "t2") "s2") "s3" "e2"

/-- An observation comes in, the epoch advances and `ann` is done. -/
def workshopDay : List WorldStep :=
  [.observe ⟨"bob", .agent⟩ "c1" "t2" "s2", .advanceEpoch "s3" "e2", .operate annDone]

theorem workshopDay_continues : ∃ s t, Run WorldStep.Applies workshop [.operate annBeats] s ∧
    Run WorldStep.Applies s workshopDay t ∧ Continues s t ∧ NumberedLogs t := by
  have hsome : ((annBeats.apply workshop).bind fun s => (annDone.apply (overnight s)).map fun t => (s, t)).isSome =
      true := by decide +kernel
  obtain ⟨⟨s, t⟩, hst⟩ := Option.isSome_iff_exists.1 hsome
  obtain ⟨s', hs, hmap⟩ := Option.bind_eq_some_iff.1 hst
  obtain ⟨t', ht, heq⟩ := Option.map_eq_some_iff.1 hmap
  cases heq
  have r : Run WorldStep.Applies workshop [.operate annBeats] s := .single (WorldStep.applies_operate.2 hs)
  have r' : Run WorldStep.Applies s workshopDay t :=
    .cons rfl (.cons rfl (.single (WorldStep.applies_operate.2 ht)))
  have hstart : NumberedLogs workshop := ⟨rfl, fun _ => rfl⟩
  obtain ⟨hcont, hnumbered, _⟩ := monotone_history r r'
  exact ⟨s, t, r, r', hcont, (hnumbered hstart).2⟩

end Cantilune
