import Cantilune.Observability.Redaction

/-!
# What a redaction shows

For a subject of another namespace without a grant the reader gets an outline, and the outline is all that the
redacted bundle depends on.
-/

namespace Cantilune

variable {s s' : CollaborationSnapshot} {access : ObservationAccessContext} {reader subject actorId : ActorId}
  {transcripts : OrdMap ActorId TranscriptVisibility}

/-! ## Outlines -/

/-- Two rows with the same role, call id and length of content. Bodies, tool calls and all else may differ. -/
structure SameOutline (m n : TranscriptMessage) : Prop where
  role : ∃ role, m.get? "role" = some (.str role) ∧ n.get? "role" = some (.str role)
  toolCallId : m.get? "toolCallId" = n.get? "toolCallId"
  content : ∃ text text', m.get? "content" = some (.str text) ∧ n.get? "content" = some (.str text') ∧
    utf16Length text = utf16Length text'

theorem summarizeMessage_eq {m n : TranscriptMessage} (h : SameOutline m n) :
    summarizeMessage m = summarizeMessage n := by
  obtain ⟨⟨role, hm, hn⟩, hid, ⟨text, text', hmt, hnt, hlength⟩⟩ := h
  simp [summarizeMessage, hm, hn, hid, hmt, hnt, Json.str?, hlength]

theorem summarizeMessages_eq {ms ns : List TranscriptMessage} (h : List.Forall₂ SameOutline ms ns) :
    ns.map summarizeMessage = ms.map summarizeMessage := by
  induction h with
  | nil => rfl
  | cons h _ ih => rw [List.map_cons, List.map_cons, ih, summarizeMessage_eq h]

theorem summarizeTranscript_eq {t t' : ParticipantTranscript} (hactor : t'.actorId = t.actorId)
    (hnamespace : t'.namespaceId = t.namespaceId) (hrevision : t'.revision = t.revision)
    (hmessages : List.Forall₂ SameOutline t.messages t'.messages) :
    summarizeTranscript t' = summarizeTranscript t := by
  simp only [summarizeTranscript, hactor, hnamespace, hrevision, summarizeMessages_eq hmessages]

def DifferInBodies (subject : ActorId) (s s' : CollaborationSnapshot) : Prop :=
  ∃ t t', s.transcripts.get? subject = some t ∧ s' = { s with transcripts := s.transcripts.set subject t' } ∧
    t'.actorId = t.actorId ∧ t'.namespaceId = t.namespaceId ∧ t'.revision = t.revision ∧
    List.Forall₂ SameOutline t.messages t'.messages

theorem mem_foldl_addSubject {ids subjects : List ActorId} :
    actorId ∈ ids.foldl addSubject subjects ↔ actorId ∈ subjects ∨ actorId ∈ ids := by
  induction ids generalizing subjects with
  | nil => simp
  | cons id ids ih =>
      rw [List.foldl_cons, ih, addSubject]
      split
      · rename_i hmem
        rw [List.mem_cons]
        refine ⟨fun h => h.imp_right .inr, fun h => ?_⟩
        rcases h with h | rfl | h
        · exact .inl h
        · exact .inl hmem
        · exact .inr h
      · simp [or_assoc]

theorem covers_of_mem_subjectActorIds (h : actorId ∈ subjectActorIds s access) : access.covers actorId = true := by
  unfold subjectActorIds at h
  dsimp only at h
  split at h
  · rw [mem_foldl_addSubject, mem_foldl_addSubject] at h
    rcases h with (h | h) | h
    · cases h
    · exact (List.mem_filter.1 h).2
    · simp [ObservationAccessContext.covers, h]
  · rw [mem_foldl_addSubject] at h
    rcases h with h | h
    · cases h
    · exact (List.mem_filter.1 h).2

theorem get?_foldl_redacted {subjects : List ActorId} (f : ActorId → TranscriptVisibility)
    (hactor : actorId ∉ subjects) :
    (subjects.foldl (fun m subject => m.set subject (f subject)) transcripts).get? actorId =
      transcripts.get? actorId := by
  induction subjects generalizing transcripts with
  | nil => rfl
  | cons subject subjects ih =>
      rw [List.mem_cons, not_or] at hactor
      rw [List.foldl_cons, ih hactor.2, OrdMap.get?_set_ne _ _ hactor.1]

theorem get?_visible_of_none (h : transcripts.get? actorId = none) :
    (snapshotWithVisibleTranscripts s transcripts).transcripts.get? actorId = none := by
  by_contra hsome
  obtain ⟨transcript, hget⟩ := Option.ne_none_iff_exists'.1 hsome
  obtain ⟨entry, hentry, hmap⟩ := List.mem_filterMap.1 (OrdMap.mem_of_get?_ofList hget)
  obtain ⟨_, -, heq⟩ := Option.map_eq_some_iff.1 hmap
  cases heq
  rw [OrdMap.mem_entries.1 hentry] at h
  cases h

theorem redactedTranscript_eq (hdiffer : DifferInBodies subject s s')
    (hforeign : namespaceOf s reader ≠ namespaceOf s subject)
    (hnogrant : hasApprovedTranscriptRead s reader subject = false) (actorId : ActorId) :
    redactedTranscript s' reader actorId = redactedTranscript s reader actorId := by
  obtain ⟨t, t', ht, rfl, hactor, hnamespace, hrevision, hmessages⟩ := hdiffer
  by_cases hsame : actorId = subject
  · subst hsame
    have hnotsame : reader ≠ actorId := fun h => hforeign (h ▸ rfl)
    have hsummary : ∀ (u : CollaborationSnapshot) (transcript : ParticipantTranscript),
        u.transcripts.get? actorId = some transcript → namespaceOf u reader ≠ namespaceOf u actorId →
        hasApprovedTranscriptRead u reader actorId = false →
          redactedTranscript u reader actorId = .summary (summarizeTranscript transcript) := by
      intro u transcript hget hne hno
      simp [redactedTranscript, visibleTranscript, hget, hnotsame, hne, hno]
    rw [hsummary s t ht hforeign hnogrant,
      hsummary { s with transcripts := s.transcripts.set actorId t' } t' (OrdMap.get?_set_self _ _ _) hforeign
        hnogrant, summarizeTranscript_eq hactor hnamespace hrevision hmessages]
  · have hget : (s.transcripts.set subject t').get? actorId = s.transcripts.get? actorId :=
      OrdMap.get?_set_ne _ _ hsame
    unfold redactedTranscript visibleTranscript
    rw [hget]
    rfl

theorem subjectActorIds_eq (hdiffer : DifferInBodies subject s s') :
    subjectActorIds s' access = subjectActorIds s access := by
  obtain ⟨t, t', ht, rfl, -⟩ := hdiffer
  simp only [subjectActorIds, OrdMap.keys_set_of_has (OrdMap.has_of_get? ht)]

/-- Of a subject in another namespace that granted nothing, no body reaches the reader: two worlds that differ in its
bodies only give the same bundle, and outside the scope its transcript is not there at all. -/
theorem redaction_noninterfering {FourViewBundle : Type} (bundle : FourViewBundle)
    (access : ObservationAccessContext) (s : CollaborationSnapshot) (subject : ActorId)
    (hforeign : namespaceOf s access.principal.actorId ≠ namespaceOf s subject)
    (hnogrant : hasApprovedTranscriptRead s access.principal.actorId subject = false) :
    ∃ redacted, redactFourViewBundle bundle (some access) s = .ok redacted ∧
      (∀ s', DifferInBodies subject s s' → ∃ redacted', redactFourViewBundle bundle (some access) s' = .ok redacted' ∧
        redacted'.transcripts = redacted.transcripts ∧ redacted'.snapshot = redacted.snapshot) ∧
      (access.covers subject = false →
        redacted.transcripts.get? subject = none ∧ redacted.snapshot.transcripts.get? subject = none) := by
  refine ⟨_, rfl, fun s' hdiffer => ⟨_, rfl, ?_, ?_⟩, fun hscope => ?_⟩
  · simp only [subjectActorIds_eq hdiffer, redactedTranscript_eq hdiffer hforeign hnogrant]
  · simp only [subjectActorIds_eq hdiffer, redactedTranscript_eq hdiffer hforeign hnogrant]
    obtain ⟨t, t', -, rfl, -⟩ := hdiffer
    rfl
  · have hout : subject ∉ subjectActorIds s access := fun hmem => by
      rw [covers_of_mem_subjectActorIds hmem] at hscope
      cases hscope
    have hnone := @get?_foldl_redacted _ .empty _ (redactedTranscript s access.principal.actorId) hout
    exact ⟨hnone, get?_visible_of_none hnone⟩

/-- The writer has a plan, in another namespace than the outsider. -/
def secretWorld : CollaborationSnapshot :=
  withTranscript
    (withParticipant (withParticipant (emptySnapshot "s0" "e1") { participant "writer" .agent with namespaceId := "a" })
      { participant "outsider" .agent with namespaceId := "b" })
    (participantTranscript "writer" [.obj [("role", .str "assistant"), ("content", .str "secret plan")]] "a")

def outsiderAccess : ObservationAccessContext where
  principal := { actorId := "outsider", kind := .agent }
  participantIds := ["outsider"]

theorem redaction_noninterfering_outsider :
    ∃ redacted, redactFourViewBundle () (some outsiderAccess) secretWorld = .ok redacted ∧
      (∀ s', DifferInBodies "writer" secretWorld s' →
        ∃ redacted', redactFourViewBundle () (some outsiderAccess) s' = .ok redacted' ∧
          redacted'.transcripts = redacted.transcripts ∧ redacted'.snapshot = redacted.snapshot) ∧
      (outsiderAccess.covers "writer" = false →
        redacted.transcripts.get? "writer" = none ∧ redacted.snapshot.transcripts.get? "writer" = none) :=
  redaction_noninterfering () outsiderAccess secretWorld "writer" (by decide) (by decide)

end Cantilune
