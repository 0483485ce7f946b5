import Cantilune.Core.Snapshot

/-!
# Redaction of transcripts

A reader gets the transcripts in scope as far as they are visible to it, and the snapshot with these transcripts in
place of its own. The views of the bundle are passed through.
-/

namespace Cantilune

/-- Who reads; `participantIds` is the part of the scope that names participants, in its order. -/
structure ObservationAccessContext where
  principal : ActorRef
  participantIds : List ActorId

structure RedactedFourViewBundle (FourViewBundle : Type) where
  bundle : FourViewBundle
  transcripts : OrdMap ActorId TranscriptVisibility
  snapshot : CollaborationSnapshot

def requireAccessContext (context : Option ObservationAccessContext) : Except String ObservationAccessContext :=
  match context with
  | none =>
      .error "ObservationAccessContext is required for production-facing observability reads (ADR-0005)"
  | some context => .ok context

/-- `subjects.add(actorId)` -/
def addSubject (subjects : List ActorId) (actorId : ActorId) : List ActorId :=
  if actorId ∈ subjects then subjects else subjects ++ [actorId]

/-- No participants in the scope restrict nothing. -/
def ObservationAccessContext.covers (access : ObservationAccessContext) (actorId : ActorId) : Bool :=
  access.participantIds.length = 0 ∨ actorId ∈ access.participantIds

def subjectActorIds (snapshot : CollaborationSnapshot) (access : ObservationAccessContext) : List ActorId :=
  let subjects := (snapshot.transcripts.keys.filter access.covers).foldl addSubject []
  if access.participantIds.length > 0 then access.participantIds.foldl addSubject subjects else subjects

def redactedTranscript (snapshot : CollaborationSnapshot) (reader subject : ActorId) : TranscriptVisibility :=
  match visibleTranscript snapshot reader subject, snapshot.transcripts.get? subject with
  | .summary _, some original => .summary (summarizeTranscript original)
  | visibility, _ => visibility

def TranscriptVisibility.transcript? : TranscriptVisibility → Option ParticipantTranscript
  | .absent => none
  | .full transcript | .summary transcript => some transcript

def snapshotWithVisibleTranscripts (snapshot : CollaborationSnapshot)
    (transcripts : OrdMap ActorId TranscriptVisibility) : CollaborationSnapshot :=
  { snapshot with
    transcripts := .ofList (transcripts.entries.filterMap fun entry =>
      entry.2.transcript?.map fun transcript => (entry.1, transcript)) }

def redactFourViewBundle {FourViewBundle : Type} (bundle : FourViewBundle)
    (access : Option ObservationAccessContext) (snapshot : CollaborationSnapshot) :
    Except String (RedactedFourViewBundle FourViewBundle) := do
  let context ← requireAccessContext access
  let reader := context.principal.actorId
  let transcripts := (subjectActorIds snapshot context).foldl
    (fun transcripts subject => transcripts.set subject (redactedTranscript snapshot reader subject)) .empty
  .ok { bundle, transcripts, snapshot := snapshotWithVisibleTranscripts snapshot transcripts }

end Cantilune
