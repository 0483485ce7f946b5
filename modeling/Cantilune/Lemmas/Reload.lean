import Cantilune.Codec.SnapshotWire
import Cantilune.Lemmas.Writes

/-!
# Snapshots that can be loaded

For every entity the exact condition under which the parser reads back what was written, and from these
the condition on a whole snapshot: the texts are there, every entity is stored under its own id, and the
rows of the transcripts are well formed.
-/

namespace Cantilune

/-! ## Names -/

section Names
variable {α : Type} {all : List α} {name : α → String}

/-- Every value is listed, and no two of them have one name. -/
class NamesEach (all : List α) (name : α → String) : Prop where
  mem_all : ∀ a, a ∈ all
  name_inj : ∀ a b, name a = name b → a = b

@[simp] theorem parseName_of_namesEach [NamesEach all name] {a b : α} {path message : String} :
    parseName all name (some (.str (name a))) path message = .ok b ↔ a = b :=
  parseName_name (NamesEach.mem_all name) (NamesEach.name_inj all)

instance : NamesEach ParticipationStatus.all ParticipationStatus.name :=
  ⟨by intro a; cases a <;> decide, by intro a b; cases a <;> cases b <;> decide⟩

instance : NamesEach ArtifactLifecycle.all ArtifactLifecycle.name :=
  ⟨by intro a; cases a <;> decide, by intro a b; cases a <;> cases b <;> decide⟩

instance : NamesEach LinkKind.all LinkKind.name :=
  ⟨by intro a; cases a <;> decide, by intro a b; cases a <;> cases b <;> decide⟩

instance : NamesEach SessionVisibility.all SessionVisibility.name :=
  ⟨by intro a; cases a <;> decide, by intro a b; cases a <;> cases b <;> decide⟩

instance : NamesEach CapabilityKind.all CapabilityKind.name :=
  ⟨by intro a; cases a <;> decide, by intro a b; cases a <;> cases b <;> decide⟩

instance : NamesEach RetiredEntityKind.all RetiredEntityKind.name :=
  ⟨by intro a; cases a <;> decide, by intro a b; cases a <;> cases b <;> decide⟩

instance : NamesEach TranscriptAccessStatus.all TranscriptAccessStatus.name :=
  ⟨by intro a; cases a <;> decide, by intro a b; cases a <;> cases b <;> decide⟩

end Names

/-! ## Entities -/

section Entities
variable {path message : String}

@[simp] theorem requireRecord_record {members : List (String × Option Json)} {record : Json} :
    requireRecord (some (.record members)) path message = .ok record ↔ .record members = record := by
  simp [Json.record]

@[simp] theorem parseText_str {s t : String} : parseText message (some (.str s)) path = .ok t ↔ s = t := by
  simp [parseText]

@[simp] theorem parseOptionalText_map {o o' : Option String} :
    parseOptionalText message (o.map .str) path = .ok o' ↔ o = o' ∧ ∀ s ∈ o, s ≠ "" := by
  cases o with
  | none => simp [parseOptionalText]
  | some s => by_cases h : s = "" <;> simp [parseOptionalText, h]

@[simp] theorem parseOptionalText_str {s : String} {o : Option String} :
    parseOptionalText message (some (.str s)) path = .ok o ↔ some s = o ∧ s ≠ "" := by
  by_cases h : s = "" <;> simp [parseOptionalText, h]

def Participant.Wirable (p : Participant) : Prop :=
  p.actorId ≠ "" ∧ p.namespaceId ≠ "" ∧ ∀ ref ∈ p.manifestRef, ref ≠ ""

theorem parseParticipantWire_toJson {p q : Participant} :
    parseParticipantWire (some p.toJson) path = .ok q ↔ p = q ∧ p.Wirable := by
  obtain ⟨actorId, kind, status, namespaceId, manifestRef⟩ := p
  obtain ⟨actorId', kind', status', namespaceId', manifestRef'⟩ := q
  simp [parseParticipantWire, Participant.toJson, Outcome.bind_eq_ok, Participant.Wirable]
  grind

def WorkArtifact.Wirable (a : WorkArtifact) : Prop :=
  a.artifactId ≠ "" ∧ a.kind ≠ "" ∧ a.contentRef ≠ "" ∧ a.owner.actorId ≠ ""

theorem parseWorkArtifactWire_toJson {a b : WorkArtifact} :
    parseWorkArtifactWire (some a.toJson) path = .ok b ↔ a = b ∧ a.Wirable := by
  obtain ⟨artifactId, kind, contentRef, owner, lifecycle⟩ := a
  obtain ⟨artifactId', kind', contentRef', owner', lifecycle'⟩ := b
  simp [parseWorkArtifactWire, WorkArtifact.toJson, Outcome.bind_eq_ok, WorkArtifact.Wirable]
  grind

def LinkEndpoint.Wirable : LinkEndpoint → Prop
  | .participant actorId => actorId ≠ ""
  | .artifact artifactId => artifactId ≠ ""

theorem parseLinkEndpointWire_toJson {e f : LinkEndpoint} :
    parseLinkEndpointWire (some e.toJson) path = .ok f ↔ e = f ∧ e.Wirable := by
  cases e <;> simp [parseLinkEndpointWire, LinkEndpoint.toJson, Outcome.bind_eq_ok, LinkEndpoint.Wirable, and_comm]

def CollaborationLink.Wirable (l : CollaborationLink) : Prop :=
  l.linkId ≠ "" ∧ l.from.Wirable ∧ l.to.Wirable

theorem parseCollaborationLinkWire_toJson {l k : CollaborationLink} :
    parseCollaborationLinkWire (some l.toJson) path = .ok k ↔ l = k ∧ l.Wirable := by
  obtain ⟨linkId, kind, source, target⟩ := l
  obtain ⟨linkId', kind', source', target'⟩ := k
  simp [parseCollaborationLinkWire, CollaborationLink.toJson, Outcome.bind_eq_ok, parseLinkEndpointWire_toJson,
    CollaborationLink.Wirable]
  grind

def CommunicationSession.Wirable (c : CommunicationSession) : Prop :=
  c.sessionId ≠ "" ∧ c.controller ≠ "" ∧ ∀ id ∈ c.participants, id ≠ ""

theorem parseCommunicationSessionWire_toJson {c d : CommunicationSession} :
    parseCommunicationSessionWire (some c.toJson) path = .ok d ↔ c = d ∧ c.Wirable := by
  obtain ⟨sessionId, controller, participants, visibility⟩ := c
  obtain ⟨sessionId', controller', participants', visibility'⟩ := d
  simp [parseCommunicationSessionWire, CommunicationSession.toJson, Outcome.bind_eq_ok,
    CommunicationSession.Wirable]
  grind

def CapabilityScope.Wirable : CapabilityScope → Prop
  | .artifact artifactId => artifactId ≠ ""
  | .session sessionId => sessionId ≠ ""
  | .transcript actorId namespaceId => actorId ≠ "" ∧ namespaceId ≠ ""

theorem parseCapabilityScope_toJson {c d : CapabilityScope} :
    parseCapabilityScope (some c.toJson) path = .ok d ↔ c = d ∧ c.Wirable := by
  cases c <;> simp [parseCapabilityScope, CapabilityScope.toJson, Outcome.bind_eq_ok, CapabilityScope.Wirable]
  all_goals grind

def ScopedCapability.Wirable (c : ScopedCapability) : Prop :=
  c.capabilityId ≠ "" ∧ c.holder ≠ "" ∧ c.scope.Wirable

theorem parseScopedCapabilityWire_toJson {c d : ScopedCapability} :
    parseScopedCapabilityWire (some c.toJson) path = .ok d ↔ c = d ∧ c.Wirable := by
  obtain ⟨capabilityId, kind, holder, scope⟩ := c
  obtain ⟨capabilityId', kind', holder', scope'⟩ := d
  simp [parseScopedCapabilityWire, ScopedCapability.toJson, Outcome.bind_eq_ok, parseCapabilityScope_toJson,
    ScopedCapability.Wirable]
  grind

def ObservationEntry.Wirable (e : ObservationEntry) : Prop :=
  e.source.actorId ≠ "" ∧ e.payloadRef ≠ "" ∧ e.receivedAt ≠ ""

theorem parseObservationEntryWire_toJson {e f : ObservationEntry} :
    parseObservationEntryWire (some e.toJson) path = .ok f ↔ e = f ∧ e.Wirable := by
  obtain ⟨sequenceNo, source, payloadRef, receivedAt⟩ := e
  obtain ⟨sequenceNo', source', payloadRef', receivedAt'⟩ := f
  simp [parseObservationEntryWire, ObservationEntry.toJson, Outcome.bind_eq_ok, ObservationEntry.Wirable]
  grind

def HeartbeatEntry.Wirable (e : HeartbeatEntry) : Prop :=
  e.agentId ≠ "" ∧ e.emittedAt ≠ "" ∧ e.lastAction ≠ ""

theorem parseHeartbeatEntryWire_toJson {e f : HeartbeatEntry} :
    parseHeartbeatEntryWire (some e.toJson) path = .ok f ↔ e = f ∧ e.Wirable := by
  obtain ⟨agentId, sequenceNo, emittedAt, turnCount, lastAction⟩ := e
  obtain ⟨agentId', sequenceNo', emittedAt', turnCount', lastAction'⟩ := f
  simp [parseHeartbeatEntryWire, HeartbeatEntry.toJson, Outcome.bind_eq_ok, HeartbeatEntry.Wirable]
  grind

def EntityTombstone.Wirable (t : EntityTombstone) : Prop := t.entityId ≠ "" ∧ t.retiredAt ≠ ""

theorem parseEntityTombstoneWire_toJson {t u : EntityTombstone} :
    parseEntityTombstoneWire (some t.toJson) path = .ok u ↔ t = u ∧ t.Wirable := by
  obtain ⟨entityId, entityKind, retiredAt, reasonRef⟩ := t
  obtain ⟨entityId', entityKind', retiredAt', reasonRef'⟩ := u
  cases reasonRef <;> simp [parseEntityTombstoneWire, EntityTombstone.toJson, Outcome.bind_eq_ok,
    EntityTombstone.Wirable]
  all_goals grind

def CollaborationNamespace.Wirable (n : CollaborationNamespace) : Prop :=
  n.namespaceId ≠ "" ∧ n.displayName ≠ "" ∧ ∀ id ∈ n.adminPrincipals, id ≠ ""

theorem parseNamespaceWire_toJson {m n : CollaborationNamespace} :
    parseNamespaceWire (some m.toJson) path = .ok n ↔ m = n ∧ m.Wirable := by
  obtain ⟨namespaceId, displayName, adminPrincipals⟩ := m
  obtain ⟨namespaceId', displayName', adminPrincipals'⟩ := n
  simp [parseNamespaceWire, CollaborationNamespace.toJson, Outcome.bind_eq_ok, orEmptyArray,
    CollaborationNamespace.Wirable]
  grind

def TranscriptAccessRequest.Wirable (r : TranscriptAccessRequest) : Prop :=
  r.requestId ≠ "" ∧ r.requester.actorId ≠ "" ∧ r.subjectActorId ≠ "" ∧ r.subjectNamespaceId ≠ "" ∧
    ∀ d ∈ r.decidedBy, d.actorId ≠ ""

theorem parseTranscriptAccessRequestWire_toJson {q r : TranscriptAccessRequest} :
    parseTranscriptAccessRequestWire (some q.toJson) path = .ok r ↔ q = r ∧ q.Wirable := by
  obtain ⟨requestId, requester, subjectActorId, subjectNamespaceId, status, decidedBy⟩ := q
  obtain ⟨requestId', requester', subjectActorId', subjectNamespaceId', status', decidedBy'⟩ := r
  cases decidedBy <;> simp [parseTranscriptAccessRequestWire, TranscriptAccessRequest.toJson, Outcome.bind_eq_ok,
    TranscriptAccessRequest.Wirable]
  all_goals grind

end Entities

/-! ## Transcript messages -/

def TranscriptToolCall.Wirable (c : TranscriptToolCall) : Prop := c.id ≠ "" ∧ c.name ≠ ""

def TranscriptRow.Wirable : TranscriptRow → Prop
  | .system _ => True
  | .user _ => True
  | .assistant _ toolCalls => ∀ calls ∈ toolCalls, ∀ c ∈ calls, c.Wirable
  | .tool toolCallId _ => toolCallId ≠ ""

/-- A message is a row of its role and nothing more, in whatever order its members come. -/
def WellFormedMessage (m : TranscriptMessage) : Prop :=
  ∃ row : TranscriptRow, row.Wirable ∧ m.canon = row.toJson.canon

section Messages
variable {path : String} {x : Json}

theorem parseTranscriptToolCall_eq_ok {c : TranscriptToolCall} :
    parseTranscriptToolCall (some x) path = .ok c → c.Wirable := by
  simp only [parseTranscriptToolCall, Outcome.bind_eq_ok, requireString_eq_ok]
  rintro ⟨_, _, id, ⟨_, hid⟩, name, ⟨_, hname⟩, _, _, h⟩
  cases h
  exact ⟨hid, hname⟩

theorem parseTranscriptToolCall_of_canon {c : TranscriptToolCall} (hc : c.Wirable)
    (h : x.canon = c.toJson.canon) : parseTranscriptToolCall (some x) path = .ok c := by
  have hid : x.get? "id" = some (.str c.id) := Json.get?_str_of_canon_record (by simp) h (by simp)
  have hname : x.get? "name" = some (.str c.name) := Json.get?_str_of_canon_record (by simp) h (by simp)
  have harguments : x.get? "arguments" = some (.str c.arguments) :=
    Json.get?_str_of_canon_record (by simp) h (by simp)
  obtain ⟨ms, rfl⟩ := (Json.get?_of_canon_record (by simp) h).1
  simp only [parseTranscriptToolCall, Outcome.bind_eq_ok, requireRecord_obj, exists_eq_left', requireString_eq_ok]
  exact ⟨c.id, ⟨hid, hc.1⟩, c.name, ⟨hname, hc.2⟩, c.arguments, by rw [harguments, parseText_str], rfl⟩

theorem parseItems_toolCalls {calls : List TranscriptToolCall} {index : Nat} {values : List Json}
    (h : parseItems parseTranscriptToolCall path index values = .ok calls) : ∀ c ∈ calls, c.Wirable := by
  induction values generalizing index calls with
  | nil =>
      cases h
      simp
  | cons v values ih =>
      simp only [parseItems, Outcome.bind_eq_ok] at h
      obtain ⟨c, hc, cs, hcs, h⟩ := h
      cases h
      simpa using ⟨parseTranscriptToolCall_eq_ok hc, ih hcs⟩

theorem parseItems_toolCalls_of_canon {calls : List TranscriptToolCall} {index : Nat} {values : List Json}
    (hcalls : ∀ c ∈ calls, c.Wirable)
    (h : values.map Json.canon = calls.map fun c => c.toJson.canon) :
    parseItems parseTranscriptToolCall path index values = .ok calls := by
  induction calls generalizing index values with
  | nil =>
      rw [List.map_nil, List.map_eq_nil_iff] at h
      subst h
      rfl
  | cons c calls ih =>
      cases values with
      | nil => cases h
      | cons v values =>
          rw [List.map_cons, List.map_cons, List.cons.injEq] at h
          simp only [List.forall_mem_cons] at hcalls
          simp only [parseItems, Outcome.bind_eq_ok]
          exact ⟨c, parseTranscriptToolCall_of_canon hcalls.1 h.1, calls, ih hcalls.2 h.2, rfl⟩

theorem parseTranscriptRow_eq_ok {row : TranscriptRow} :
    parseTranscriptRow (some x) path = .ok row → row.Wirable := by
  simp only [parseTranscriptRow, Outcome.bind_eq_ok]
  rintro ⟨_, _, role, _, h⟩
  split at h
  · cases h
  · obtain ⟨content, _, h⟩ := Outcome.bind_eq_ok.1 h
    split_ifs at h
    · obtain ⟨toolCallId, hid, h⟩ := Outcome.bind_eq_ok.1 h
      cases h
      exact (requireString_eq_ok.1 hid).2
    · obtain ⟨toolCalls, hcalls, h⟩ := Outcome.bind_eq_ok.1 h
      cases h
      intro calls hmem
      rw [Option.mem_def] at hmem
      subst hmem
      rcases parseOptional_eq_ok.1 hcalls with ⟨_, h⟩ | ⟨v, calls', _, hv, h⟩
      · cases h
      · cases h
        unfold parseArrayOf at hv
        split at hv
        · exact parseItems_toolCalls hv
        · cases hv
    · cases h
      trivial
    · cases h
      trivial

theorem parseTranscriptRow_of_canon {row : TranscriptRow} (hrow : row.Wirable)
    (h : x.canon = row.toJson.canon) : parseTranscriptRow (some x) path = .ok row := by
  cases row with
  | system content =>
      have hrole : x.get? "role" = some (.str "system") := Json.get?_str_of_canon_record (by simp) h (by simp)
      have hcontent : x.get? "content" = some (.str content) := Json.get?_str_of_canon_record (by simp) h (by simp)
      obtain ⟨ms, rfl⟩ := (Json.get?_of_canon_record (by simp) h).1
      simp [parseTranscriptRow, Outcome.bind_eq_ok, hrole, hcontent]
  | user content =>
      have hrole : x.get? "role" = some (.str "user") := Json.get?_str_of_canon_record (by simp) h (by simp)
      have hcontent : x.get? "content" = some (.str content) := Json.get?_str_of_canon_record (by simp) h (by simp)
      obtain ⟨ms, rfl⟩ := (Json.get?_of_canon_record (by simp) h).1
      simp [parseTranscriptRow, Outcome.bind_eq_ok, hrole, hcontent]
  | tool toolCallId content =>
      have hrole : x.get? "role" = some (.str "tool") := Json.get?_str_of_canon_record (by simp) h (by simp)
      have hcontent : x.get? "content" = some (.str content) := Json.get?_str_of_canon_record (by simp) h (by simp)
      have hid : x.get? "toolCallId" = some (.str toolCallId) := Json.get?_str_of_canon_record (by simp) h (by simp)
      obtain ⟨ms, rfl⟩ := (Json.get?_of_canon_record (by simp) h).1
      simpa [parseTranscriptRow, Outcome.bind_eq_ok, hrole, hcontent, hid, TranscriptRow.Wirable] using hrow
  | assistant content toolCalls =>
      have hrole : x.get? "role" = some (.str "assistant") := Json.get?_str_of_canon_record (by simp) h (by simp)
      have hcontent : x.get? "content" = some (.str content) := Json.get?_str_of_canon_record (by simp) h (by simp)
      have hcalls := (Json.get?_of_canon_record (by simp) h).2 "toolCalls"
      have hparse : parseTranscriptToolCalls (x.get? "toolCalls") s!"{path}.toolCalls" = .ok toolCalls := by
        cases toolCalls with
        | none =>
            have hnone : x.get? "toolCalls" = none := by simpa using hcalls
            rw [hnone]
            rfl
        | some calls =>
            have hsome : (x.get? "toolCalls").map Json.canon =
                some (Json.arr (calls.map TranscriptToolCall.toJson)).canon := by simpa using hcalls
            obtain ⟨v, hv, hcanon⟩ := Option.map_eq_some_iff.1 hsome
            rw [Json.canon_arr, List.map_map] at hcanon
            obtain ⟨values, rfl, hvalues⟩ := Json.canon_eq_arr hcanon
            rw [hv]
            exact parseOptional_eq_ok.2 (.inr ⟨_, _, rfl, parseItems_toolCalls_of_canon (hrow calls rfl) hvalues, rfl⟩)
      obtain ⟨ms, rfl⟩ := (Json.get?_of_canon_record (by simp) h).1
      simpa [parseTranscriptRow, Outcome.bind_eq_ok, hrole, hcontent] using hparse

theorem parseTranscriptMessageWire_canon {m : TranscriptMessage} {path : String} :
    (∃ m', parseTranscriptMessageWire (some m) path = .ok m' ∧ m'.canon = m.canon) ↔ WellFormedMessage m := by
  constructor
  · rintro ⟨m', hparse, hcanon⟩
    unfold parseTranscriptMessageWire at hparse
    cases hrow : parseTranscriptRow (some m) path with
    | error v =>
        rw [hrow] at hparse
        cases hparse
    | ok row =>
        rw [hrow] at hparse
        cases hparse
        exact ⟨row, parseTranscriptRow_eq_ok hrow, hcanon.symm⟩
  · rintro ⟨row, hrow, hcanon⟩
    refine ⟨row.toJson, ?_, hcanon.symm⟩
    rw [parseTranscriptMessageWire, parseTranscriptRow_of_canon hrow hcanon]
    rfl

end Messages

/-! ## Transcripts -/

def ParticipantTranscript.canon (t : ParticipantTranscript) : ParticipantTranscript :=
  { t with messages := t.messages.map Json.canon }

theorem ParticipantTranscript.actorId_of_canon {t u : ParticipantTranscript} (h : t.canon = u.canon) :
    t.actorId = u.actorId := by
  have hactor : t.canon.actorId = u.canon.actorId := by rw [h]
  exact hactor

def ParticipantTranscript.Wirable (t : ParticipantTranscript) : Prop :=
  t.actorId ≠ "" ∧ t.namespaceId ≠ "" ∧ ∀ m ∈ t.messages, WellFormedMessage m

theorem forall₂_map_eq {α β : Type} {f : α → β} {xs ys : List α} :
    List.Forall₂ (fun x y => f x = f y) xs ys ↔ xs.map f = ys.map f := by
  rw [← List.forall₂_eq_eq_eq, List.forall₂_map_left_iff, List.forall₂_map_right_iff]

theorem parseTranscriptMessages_canon {ms : List TranscriptMessage} {path : String} :
    (∃ ms', parseEntityArray (some (.arr ms)) path parseTranscriptMessageWire = .ok ms' ∧
      ms'.map Json.canon = ms.map Json.canon) ↔ ∀ m ∈ ms, WellFormedMessage m := by
  have h : (∃ ms', parseEntityArray (some (.arr (ms.map id))) path parseTranscriptMessageWire = .ok ms' ∧
      List.Forall₂ (fun m' m => m'.canon = m.canon) ms' ms) ↔ ∀ m ∈ ms, WellFormedMessage m :=
    parseArrayOf_map fun m path => parseTranscriptMessageWire_canon
  simp only [List.map_id, forall₂_map_eq] at h
  exact h

theorem parseTranscriptWire_eq_ok {t t' : ParticipantTranscript} {path : String} :
    parseTranscriptWire (some t.toJson) path = .ok t' ↔
      t.actorId ≠ "" ∧ t.namespaceId ≠ "" ∧ ∃ ms,
        parseEntityArray (some (.arr t.messages)) s!"{path}.messages" parseTranscriptMessageWire = .ok ms ∧
          t' = { t with messages := ms } := by
  obtain ⟨actorId, namespaceId, messages, revision⟩ := t
  obtain ⟨actorId', namespaceId', messages', revision'⟩ := t'
  simp [parseTranscriptWire, ParticipantTranscript.toJson, Outcome.bind_eq_ok]
  grind

theorem parseTranscriptWire_canon {t : ParticipantTranscript} {path : String} :
    (∃ t', parseTranscriptWire (some t.toJson) path = .ok t' ∧ t'.canon = t.canon) ↔ t.Wirable := by
  rw [ParticipantTranscript.Wirable, ← @parseTranscriptMessages_canon t.messages s!"{path}.messages"]
  constructor
  · rintro ⟨t', hparse, hcanon⟩
    obtain ⟨hactor, hnamespace, ms, hms, rfl⟩ := parseTranscriptWire_eq_ok.1 hparse
    exact ⟨hactor, hnamespace, ms, hms, congrArg ParticipantTranscript.messages hcanon⟩
  · rintro ⟨hactor, hnamespace, ms, hms, hcanon⟩
    refine ⟨{ t with messages := ms }, parseTranscriptWire_eq_ok.2 ⟨hactor, hnamespace, ms, hms, rfl⟩, ?_⟩
    simp only [ParticipantTranscript.canon, hcanon]

/-! ## Whole snapshots -/

@[simp] theorem parsePolicyContextWire_toJson {c : PolicyContext} {path : String} {value : Json} :
    parsePolicyContextWire (some c.toJson) path = .ok value ↔ c.toJson = value := by
  obtain ⟨approvalState, retryState⟩ := c
  cases approvalState <;> cases retryState <;>
    simp [parsePolicyContextWire, PolicyContext.toJson, ApprovalState.toJson, RetryState.toJson, Outcome.bind_eq_ok]

theorem stringsOf?_map (ss : List String) : stringsOf? (ss.map .str) = some ss := by
  induction ss with
  | nil => rfl
  | cons s ss ih => simp [stringsOf?, ih]

@[simp] theorem clonePolicyContext?_toJson (c : PolicyContext) : clonePolicyContext? c.toJson = some c := by
  obtain ⟨approvalState, retryState⟩ := c
  have happroval : approvalStateOf? approvalState.toJson = some approvalState := by
    cases approvalState <;> simp [approvalStateOf?, ApprovalState.toJson, stringsOf?_map, Json.str?]
  have hretry : retryStateOf? retryState.toJson = some retryState := by
    cases retryState <;> simp [retryStateOf?, RetryState.toJson]
  simp [clonePolicyContext?, PolicyContext.toJson, happroval, hretry]

/-- The part of a snapshot that the parser checks text by text; the transcripts are apart. -/
structure TextsReadable (s : CollaborationSnapshot) : Prop where
  snapshotRef : s.snapshotRef ≠ ""
  epochId : s.epochId ≠ ""
  participants : ∀ p ∈ s.participants.values, p.Wirable
  artifacts : ∀ a ∈ s.artifacts.values, a.Wirable
  links : ∀ l ∈ s.links.values, l.Wirable
  sessions : ∀ c ∈ s.sessions.values, c.Wirable
  capabilities : ∀ c ∈ s.capabilities.values, c.Wirable
  auditTail : ∀ e ∈ s.auditTail, e.Wirable
  retiredEntities : ∀ t ∈ s.retiredEntities, t.Wirable
  heartbeatLog : ∀ e ∈ s.heartbeatLog, e.Wirable
  namespaces : ∀ n ∈ s.namespaces.values, n.Wirable
  requests : ∀ r ∈ s.transcriptAccessRequests.values, r.Wirable

section Members
variable (dto : SnapshotWireDto)

theorem get?_entity_members :
    dto.toJson.get? "participants" = some (.arr (dto.participants.map Participant.toJson)) ∧
      dto.toJson.get? "artifacts" = some (.arr (dto.artifacts.map WorkArtifact.toJson)) ∧
      dto.toJson.get? "links" = some (.arr (dto.links.map CollaborationLink.toJson)) ∧
      dto.toJson.get? "sessions" = some (.arr (dto.sessions.map CommunicationSession.toJson)) ∧
      dto.toJson.get? "capabilities" = some (.arr (dto.capabilities.map ScopedCapability.toJson)) := by
  simp [SnapshotWireDto.toJson]

theorem get?_log_members :
    dto.toJson.get? "snapshotRef" = some (.str dto.snapshotRef) ∧
      dto.toJson.get? "epochId" = some (.str dto.epochId) ∧
      dto.toJson.get? "policyContext" = some dto.policyContext ∧
      dto.toJson.get? "auditTail" = some (.arr (dto.auditTail.map ObservationEntry.toJson)) ∧
      dto.toJson.get? "retiredEntities" = some (.arr (dto.retiredEntities.map EntityTombstone.toJson)) := by
  simp [SnapshotWireDto.toJson]

theorem get?_optional_lists :
    dto.toJson.get? "heartbeatLog" = some (.arr (dto.heartbeatLog.map HeartbeatEntry.toJson)) ∧
      dto.toJson.get? "namespaces" = some (.arr (dto.namespaces.map CollaborationNamespace.toJson)) ∧
      dto.toJson.get? "transcripts" = some (.arr (dto.transcripts.map ParticipantTranscript.toJson)) ∧
      dto.toJson.get? "transcriptAccessRequests" =
        some (.arr (dto.transcriptAccessRequests.map TranscriptAccessRequest.toJson)) := by
  simp [SnapshotWireDto.toJson]

end Members

theorem parseSnapshotWire_encoded {s : CollaborationSnapshot} {dto : SnapshotWireDto} :
    parseSnapshotWire (encodeSnapshot s).toJson = .ok dto ↔
      TextsReadable s ∧ ∃ ts, parseEntityArray (some (.arr (s.transcripts.values.map ParticipantTranscript.toJson)))
        "snapshot.transcripts" parseTranscriptWire = .ok ts ∧ { encodeSnapshot s with transcripts := ts } = dto := by
  obtain ⟨h₁, h₂, h₃, h₄, h₅⟩ := get?_entity_members (encodeSnapshot s)
  obtain ⟨h₆, h₇, h₈, h₉, h₁₀⟩ := get?_log_members (encodeSnapshot s)
  obtain ⟨h₁₁, h₁₂, h₁₃, h₁₄⟩ := get?_optional_lists (encodeSnapshot s)
  have harray : ∀ {α : Type} {encode : α → Json} {parse : Option Json → String → CodecParse α} {Ok : α → Prop}
      (_ : ∀ x y path, parse (some (encode x)) path = .ok y ↔ x = y ∧ Ok x) (path : String) (xs ys : List α),
      parseEntityArray (some (.arr (xs.map encode))) path parse = .ok ys ↔ xs = ys ∧ ∀ x ∈ xs, Ok x :=
    fun h path xs ys => parseArrayOf_exact h
  have hrecord : ∀ {path message r}, requireRecord (some (encodeSnapshot s).toJson) path message = .ok r ↔
      (encodeSnapshot s).toJson = r := requireRecord_record
  have hpolicy : ∀ {path value}, parsePolicyContextWire (some (encodeSnapshot s).policyContext) path = .ok value ↔
      s.policyContext.toJson = value := parsePolicyContextWire_toJson
  have horEmpty : ∀ xs, orEmptyArray (some (.arr xs)) = some (.arr xs) := fun xs => rfl
  simp only [parseSnapshotWire, Outcome.bind_eq_ok, hrecord, exists_eq_left', requireString_eq_ok, h₁, h₂, h₃, h₄,
    h₅, h₆, h₇, h₈, h₉, h₁₀, h₁₁, h₁₂, h₁₃, h₁₄, horEmpty, hpolicy,
    harray fun _ _ _ => parseParticipantWire_toJson, harray fun _ _ _ => parseWorkArtifactWire_toJson,
    harray fun _ _ _ => parseCollaborationLinkWire_toJson,
    harray fun _ _ _ => parseCommunicationSessionWire_toJson, harray fun _ _ _ => parseScopedCapabilityWire_toJson,
    harray fun _ _ _ => parseObservationEntryWire_toJson, harray fun _ _ _ => parseEntityTombstoneWire_toJson,
    harray fun _ _ _ => parseHeartbeatEntryWire_toJson, harray fun _ _ _ => parseNamespaceWire_toJson,
    harray fun _ _ _ => parseTranscriptAccessRequestWire_toJson, Option.some.injEq, Json.str.injEq]
  constructor
  · rintro ⟨_, ⟨rfl, c₁⟩, _, ⟨rfl, c₂⟩, _, ⟨rfl, c₃⟩, _, ⟨rfl, c₄⟩, _, ⟨rfl, c₅⟩, _, ⟨rfl, c₆⟩, _, ⟨rfl, c₇⟩, _,
      ⟨rfl, c₈⟩, _, ⟨rfl, c₉⟩, _, ⟨rfl, c₁₀⟩, _, ⟨rfl, c₁₁⟩, ts, hts, _, ⟨rfl, c₁₂⟩, h⟩
    cases h
    exact ⟨⟨c₁, c₂, c₃, c₄, c₅, c₆, c₇, c₈, c₉, c₁₀, c₁₁, c₁₂⟩, ts, hts, rfl⟩
  · rintro ⟨c, ts, hts, rfl⟩
    exact ⟨_, ⟨rfl, c.snapshotRef⟩, _, ⟨rfl, c.epochId⟩, _, ⟨rfl, c.participants⟩, _, ⟨rfl, c.artifacts⟩, _,
      ⟨rfl, c.links⟩, _, ⟨rfl, c.sessions⟩, _, ⟨rfl, c.capabilities⟩, _, ⟨rfl, c.auditTail⟩, _,
      ⟨rfl, c.retiredEntities⟩, _, ⟨rfl, c.heartbeatLog⟩, _, ⟨rfl, c.namespaces⟩, ts, hts, _, ⟨rfl, c.requests⟩,
      rfl⟩

def CollaborationSnapshot.canon (s : CollaborationSnapshot) : CollaborationSnapshot :=
  { s with transcripts := s.transcripts.mapValues ParticipantTranscript.canon }

/-- Equal in every field, the reference included; messages count up to the order of their members. -/
structure SameSnapshot (s t : CollaborationSnapshot) : Prop where
  snapshotRef : s.snapshotRef = t.snapshotRef
  world : SameWorld s.canon t.canon

def Reloads (s : CollaborationSnapshot) : Prop :=
  ∃ s', decodeSnapshotFromUnknown (encodeSnapshot s).toJson = .ok s' ∧ SameSnapshot s' s

/-- Every entity is stored under its own id and has its texts, and so have the entries of the logs. -/
structure Loadable (s : CollaborationSnapshot) : Prop where
  snapshotRef : s.snapshotRef ≠ ""
  epochId : s.epochId ≠ ""
  participants : s.participants.ForAll fun id p => p.actorId = id ∧ p.Wirable
  artifacts : s.artifacts.ForAll fun id a => a.artifactId = id ∧ a.Wirable
  links : s.links.ForAll fun id l => l.linkId = id ∧ l.Wirable
  sessions : s.sessions.ForAll fun id c => c.sessionId = id ∧ c.Wirable
  capabilities : s.capabilities.ForAll fun id c => c.capabilityId = id ∧ c.Wirable
  auditTail : ∀ e ∈ s.auditTail, e.Wirable
  retiredEntities : ∀ t ∈ s.retiredEntities, t.Wirable
  heartbeatLog : ∀ e ∈ s.heartbeatLog, e.Wirable
  namespaces : s.namespaces.ForAll fun id n => n.namespaceId = id ∧ n.Wirable
  transcripts : s.transcripts.ForAll fun id t => t.actorId = id ∧ t.Wirable
  requests : s.transcriptAccessRequests.ForAll fun id r => r.requestId = id ∧ r.Wirable

theorem forAll_and_values {V : Type} {key : V → String} {Ok : V → Prop} {m : OrdMap String V} :
    (m.ForAll fun id v => key v = id ∧ Ok v) ↔ m.ForAll (fun id v => key v = id) ∧ ∀ v ∈ m.values, Ok v := by
  rw [← OrdMap.forAll_values]
  exact ⟨fun h => ⟨fun k v hv => (h k v hv).1, fun k v hv => (h k v hv).2⟩,
    fun h k v hv => ⟨h.1 k v hv, h.2 k v hv⟩⟩

theorem keys_of_keyedBy_equiv {V : Type} {key : V → String} {m : OrdMap String V}
    (h : (OrdMap.keyedBy key m.values).Equiv m) : m.ForAll fun id v => key v = id := fun k _ hv =>
  (OrdMap.keyedBy_get? ((h k).trans hv)).1

theorem keyedBy_equiv {V : Type} {key : V → String} {m : OrdMap String V}
    (h : m.ForAll fun id v => key v = id) : (OrdMap.keyedBy key m.values).Equiv m := by
  rw [OrdMap.keyedBy_values h]
  exact .refl _

theorem withDefault_keyedBy_equiv {m : OrdMap NamespaceId CollaborationNamespace}
    (hdefault : m.has defaultNamespaceId = true) (h : m.ForAll fun id n => n.namespaceId = id) :
    (withDefaultNamespace (OrdMap.keyedBy (·.namespaceId) m.values)).Equiv m := by
  rw [OrdMap.keyedBy_values h, withDefaultNamespace_of_has hdefault]
  exact .refl _

theorem keys_of_withDefault_equiv {m : OrdMap NamespaceId CollaborationNamespace}
    (h : (withDefaultNamespace (OrdMap.keyedBy (·.namespaceId) m.values)).Equiv m) :
    m.ForAll fun id n => n.namespaceId = id := by
  intro k n hn
  have hk := (h k).trans hn
  unfold withDefaultNamespace at hk
  split at hk
  · exact (OrdMap.keyedBy_get? hk).1
  · rw [OrdMap.get?_set] at hk
    split at hk
    · rename_i hdefault
      cases hk
      exact hdefault.symm
    · exact (OrdMap.keyedBy_get? hk).1

theorem transcripts_of_reread {m : OrdMap ActorId ParticipantTranscript} {ts : List ParticipantTranscript}
    {path : String}
    (hts : parseEntityArray (some (.arr (m.values.map ParticipantTranscript.toJson))) path parseTranscriptWire = .ok ts)
    (hsame : ((OrdMap.keyedBy (·.actorId) ts).mapValues ParticipantTranscript.canon).Equiv
      (m.mapValues ParticipantTranscript.canon)) :
    m.ForAll fun id t => t.actorId = id ∧ t.Wirable := by
  have hread : ∀ id t, m.get? id = some t → t.actorId = id ∧
      ∃ t' u itemPath, t'.canon = t.canon ∧ u ∈ m.values ∧ parseTranscriptWire (some u.toJson) itemPath = .ok t' := by
    intro id t ht
    have hid := hsame id
    rw [OrdMap.get?_mapValues, OrdMap.get?_mapValues, ht, Option.map_some] at hid
    obtain ⟨t', ht', hcanon⟩ := Option.map_eq_some_iff.1 hid
    obtain ⟨hkey, hmem⟩ := OrdMap.keyedBy_get? ht'
    obtain ⟨u, hu, itemPath, hparse⟩ := parseArrayOf_mem hts t' hmem
    have hactor := ParticipantTranscript.actorId_of_canon hcanon
    exact ⟨hactor.symm.trans hkey, t', u, itemPath, hcanon, hu, hparse⟩
  intro id t ht
  obtain ⟨hkey, t', u, itemPath, hcanon, hu, hparse⟩ := hread id t ht
  refine ⟨hkey, ?_⟩
  obtain ⟨j, hj⟩ := OrdMap.mem_values.1 hu
  -- the transcript that was read is the one stored here, since both carry the same id
  obtain ⟨_, _, ms, hms, rfl⟩ := parseTranscriptWire_eq_ok.1 hparse
  have hactor : u.actorId = t.actorId := (ParticipantTranscript.actorId_of_canon hcanon :)
  have hju : id = j := by rw [← hkey, ← hactor, (hread j u hj).1]
  subst hju
  cases hj.symm.trans ht
  exact parseTranscriptWire_canon.1 ⟨_, hparse, hcanon⟩

theorem exists_reread {m : OrdMap ActorId ParticipantTranscript} (path : String)
    (h : m.ForAll fun id t => t.actorId = id ∧ t.Wirable) :
    ∃ ts, parseEntityArray (some (.arr (m.values.map ParticipantTranscript.toJson))) path parseTranscriptWire
      = .ok ts ∧ ((OrdMap.keyedBy (·.actorId) ts).mapValues ParticipantTranscript.canon).Equiv
        (m.mapValues ParticipantTranscript.canon) := by
  obtain ⟨hkeys, hwirable⟩ := forAll_and_values.1 h
  obtain ⟨ts, hts, hsame⟩ := (parseArrayOf_map fun t path => parseTranscriptWire_canon).2 hwirable
  have hkeyed : ∀ us, (OrdMap.keyedBy (·.actorId) us).mapValues ParticipantTranscript.canon =
      OrdMap.keyedBy (·.actorId) (us.map ParticipantTranscript.canon) :=
    OrdMap.mapValues_keyedBy fun _ => rfl
  refine ⟨ts, hts, ?_⟩
  rw [hkeyed, forall₂_map_eq.1 hsame, ← hkeyed, OrdMap.keyedBy_values hkeys]
  exact .refl _

theorem reloads_iff {s : CollaborationSnapshot} : Reloads s ↔ Loadable s := by
  constructor
  · rintro ⟨s', hdecode, hsame⟩
    unfold decodeSnapshotFromUnknown at hdecode
    cases hparse : parseSnapshotWire (encodeSnapshot s).toJson with
    | error v =>
        rw [hparse] at hdecode
        cases hdecode
    | ok dto =>
        rw [hparse] at hdecode
        obtain ⟨texts, ts, hts, rfl⟩ := parseSnapshotWire_encoded.1 hparse
        simp only [decodeSnapshot, encodeSnapshot, clonePolicyContext?_toJson, Except.ok.injEq] at hdecode
        subst hdecode
        have hworld := hsame.world
        exact
          { snapshotRef := texts.snapshotRef
            epochId := texts.epochId
            participants := forAll_and_values.2 ⟨keys_of_keyedBy_equiv hworld.participants, texts.participants⟩
            artifacts := forAll_and_values.2 ⟨keys_of_keyedBy_equiv hworld.artifacts, texts.artifacts⟩
            links := forAll_and_values.2 ⟨keys_of_keyedBy_equiv hworld.links, texts.links⟩
            sessions := forAll_and_values.2 ⟨keys_of_keyedBy_equiv hworld.sessions, texts.sessions⟩
            capabilities := forAll_and_values.2 ⟨keys_of_keyedBy_equiv hworld.capabilities, texts.capabilities⟩
            auditTail := texts.auditTail
            retiredEntities := texts.retiredEntities
            heartbeatLog := texts.heartbeatLog
            namespaces := forAll_and_values.2 ⟨keys_of_withDefault_equiv hworld.namespaces, texts.namespaces⟩
            transcripts := transcripts_of_reread hts hworld.transcripts
            requests := forAll_and_values.2 ⟨keys_of_keyedBy_equiv hworld.transcriptAccessRequests, texts.requests⟩ }
  · intro h
    obtain ⟨ts, hts, htranscripts⟩ := exists_reread "snapshot.transcripts" h.transcripts
    have texts : TextsReadable s :=
      { snapshotRef := h.snapshotRef
        epochId := h.epochId
        participants := (forAll_and_values.1 h.participants).2
        artifacts := (forAll_and_values.1 h.artifacts).2
        links := (forAll_and_values.1 h.links).2
        sessions := (forAll_and_values.1 h.sessions).2
        capabilities := (forAll_and_values.1 h.capabilities).2
        auditTail := h.auditTail
        retiredEntities := h.retiredEntities
        heartbeatLog := h.heartbeatLog
        namespaces := (forAll_and_values.1 h.namespaces).2
        requests := (forAll_and_values.1 h.requests).2 }
    have hparse := parseSnapshotWire_encoded.2 ⟨texts, ts, hts, rfl⟩
    unfold Reloads decodeSnapshotFromUnknown
    rw [hparse]
    simp only [decodeSnapshot, encodeSnapshot, clonePolicyContext?_toJson, Except.ok.injEq, exists_eq_left']
    exact ⟨rfl, rfl, keyedBy_equiv (forAll_and_values.1 h.participants).1,
      keyedBy_equiv (forAll_and_values.1 h.artifacts).1, keyedBy_equiv (forAll_and_values.1 h.links).1,
      keyedBy_equiv (forAll_and_values.1 h.sessions).1, keyedBy_equiv (forAll_and_values.1 h.capabilities).1,
      rfl, rfl, rfl, rfl, withDefault_keyedBy_equiv s.defaultRegistered (forAll_and_values.1 h.namespaces).1,
      htranscripts, keyedBy_equiv (forAll_and_values.1 h.requests).1⟩

end Cantilune
