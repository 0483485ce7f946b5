import Cantilune.Base.Runs
import Cantilune.Codec.Canonical

/-!
# Unlogged advances as sequences

The head advances without a change when an observation is ingested or an epoch is activated. What a sequence of
such steps can reach, and what the test for unlogged advances compares instead.
-/

namespace Cantilune

/-- A step of the head that writes no change. -/
inductive UnloggedStep where
  | observe (source : ActorRef) (payloadRef : ContentRef) (receivedAt : Timestamp) (nextRef : SnapshotRef)
  | activate (epochId : EpochId) (nextRef : SnapshotRef)

/-- An activation changes the epoch. -/
inductive UnloggedStep.Leads : CollaborationSnapshot → UnloggedStep → CollaborationSnapshot → Prop where
  | observe {s : CollaborationSnapshot} {source : ActorRef} {payloadRef : ContentRef} {receivedAt : Timestamp}
      {nextRef : SnapshotRef} :
      Leads s (.observe source payloadRef receivedAt nextRef)
        (withSnapshotRef (appendObservation s source payloadRef receivedAt) nextRef)
  | activate {s : CollaborationSnapshot} {epochId : EpochId} {nextRef : SnapshotRef} (changes : s.epochId ≠ epochId) :
      Leads s (.activate epochId nextRef) (snapshotWithAdvancedEpoch s nextRef epochId)

/-- The world of one snapshot comes out of another by observations and activations alone. -/
def UnloggedAdvance («from» «to» : CollaborationSnapshot) : Prop :=
  ∃ steps last, steps ≠ [] ∧ Run UnloggedStep.Leads «from» steps last ∧ SameWorld last «to»

/-- The audit tail goes on with observations, each numbered anew. -/
def AuditExtends («from» «to» : CollaborationSnapshot) : Prop :=
  ∃ entries, «to».auditTail = (appendObservations «from» entries).auditTail

/-- The audit tail or the epoch went on, and the epoch never without the reference. -/
structure Moved («from» «to» : CollaborationSnapshot) : Prop where
  onward : «from».auditTail.length < «to».auditTail.length ∨ «from».epochId ≠ «to».epochId
  renamed : «from».epochId ≠ «to».epochId → «from».snapshotRef ≠ «to».snapshotRef

variable {localeCompare : LocaleCompare} {s t u : CollaborationSnapshot} {entries more : List ObservationEntry}
  {steps : List UnloggedStep}

/-! ## Appended observations -/

theorem auditTail_appendObservations (h : s.auditTail = t.auditTail) :
    (appendObservations s entries).auditTail = (appendObservations t entries).auditTail := by
  induction entries generalizing s t with
  | nil => exact h
  | cons e entries ih =>
      refine ih ?_
      simp only [appendObservation, h]

/-- What is appended of an entry; the number is not. -/
def ObservationEntry.content (e : ObservationEntry) : ActorRef × ContentRef × Timestamp :=
  (e.source, e.payloadRef, e.receivedAt)

theorem appendObservations_congr (h : entries.map ObservationEntry.content = more.map ObservationEntry.content) :
    appendObservations s entries = appendObservations s more := by
  induction entries generalizing s more with
  | nil => rw [List.map_eq_nil_iff.1 h.symm]
  | cons e entries ih =>
      cases more with
      | nil => cases h
      | cons e' more =>
          obtain ⟨hhead, hrest⟩ := List.cons.inj h
          simp only [ObservationEntry.content, Prod.mk.injEq] at hhead
          simp only [appendObservations, List.foldl_cons, hhead]
          exact ih hrest

theorem appendObservations_cons (e : ObservationEntry) : appendObservations s (e :: entries) =
    appendObservations (appendObservation s e.source e.payloadRef e.receivedAt) entries := rfl

theorem appendObservations_eq :
    appendObservations s entries = { s with auditTail := (appendObservations s entries).auditTail } := by
  induction entries generalizing s with
  | nil => rfl
  | cons e entries ih =>
      rw [appendObservations_cons, ih]
      rfl

theorem exists_auditTail_append : ∃ numbered, (appendObservations s entries).auditTail = s.auditTail ++ numbered ∧
    numbered.map ObservationEntry.content = entries.map ObservationEntry.content := by
  induction entries generalizing s with
  | nil => exact ⟨[], (List.append_nil _).symm, rfl⟩
  | cons e entries ih =>
      obtain ⟨numbered, htail, hcontent⟩ := @ih (appendObservation s e.source e.payloadRef e.receivedAt)
      refine ⟨⟨nextSequenceNo s.auditTail, e.source, e.payloadRef, e.receivedAt⟩ :: numbered, ?_, ?_⟩
      · rw [appendObservations_cons, htail, appendObservation, List.append_assoc]
        rfl
      · rw [List.map_cons, hcontent]
        rfl

theorem auditExtends_iff : AuditExtends s t ↔
    (appendObservations s (t.auditTail.drop s.auditTail.length)).auditTail = t.auditTail := by
  constructor
  · rintro ⟨entries, h⟩
    obtain ⟨numbered, htail, hcontent⟩ := @exists_auditTail_append s entries
    rw [h, htail, List.drop_left, appendObservations_congr hcontent, htail]
  · intro h
    exact ⟨_, h.symm⟩

theorem auditExtends_of_eq (h : s.auditTail = t.auditTail) : AuditExtends s t := ⟨[], h.symm⟩

/-- An audit tail that goes on and is not longer is the same. -/
theorem AuditExtends.eq_of_length_le (h : AuditExtends s t) (hlength : t.auditTail.length ≤ s.auditTail.length) :
    s.auditTail = t.auditTail := by
  rw [auditExtends_iff, List.drop_eq_nil_of_le hlength] at h
  exact h

/-! ## What the test compares -/

def movedTo (s : CollaborationSnapshot) (snapshotRef : SnapshotRef) (epochId : EpochId)
    (auditTail : List ObservationEntry) : CollaborationSnapshot :=
  { s with snapshotRef, epochId, auditTail }

section MovedTo
variable {ref : SnapshotRef} {epochId : EpochId} {auditTail : List ObservationEntry}

theorem withSnapshotRef_appendObservations : withSnapshotRef (appendObservations s entries) ref =
    movedTo s ref s.epochId (appendObservations s entries).auditTail := by
  rw [appendObservations_eq]
  rfl

theorem comparedAlike_movedTo :
    ComparedAlike localeCompare (movedTo s ref epochId auditTail) t ↔ ComparedAlike localeCompare s t :=
  ⟨fun ⟨h1, h2, h3, h4, h5, h6, h7, h8⟩ => ⟨h1, h2, h3, h4, h5, h6, h7, h8⟩,
    fun ⟨h1, h2, h3, h4, h5, h6, h7, h8⟩ => ⟨h1, h2, h3, h4, h5, h6, h7, h8⟩⟩

theorem keysLineUp_movedTo :
    KeysLineUp localeCompare (movedTo s ref epochId auditTail) t ↔ KeysLineUp localeCompare s t :=
  ⟨fun ⟨h1, h2, h3, h4, h5⟩ => ⟨h1, h2, h3, h4, h5⟩, fun ⟨h1, h2, h3, h4, h5⟩ => ⟨h1, h2, h3, h4, h5⟩⟩

theorem blindFieldsAgree_movedTo : BlindFieldsAgree (movedTo s ref epochId auditTail) t ↔ BlindFieldsAgree s t :=
  ⟨fun ⟨h1, h2, h3, h4, h5⟩ => ⟨h1, h2, h3, h4, h5⟩, fun ⟨h1, h2, h3, h4, h5⟩ => ⟨h1, h2, h3, h4, h5⟩⟩

theorem canonicallyEqual_movedTo : snapshotsCanonicallyEqual localeCompare (movedTo s ref epochId auditTail) t = true ↔
    epochId = t.epochId ∧ auditTail = t.auditTail ∧ ComparedAlike localeCompare s t ∧ KeysLineUp localeCompare s t := by
  rw [snapshotsCanonicallyEqual_iff, comparedAlike_movedTo, keysLineUp_movedTo]
  exact Iff.rfl

end MovedTo

theorem isObservationOnlyAdvance_iff : isObservationOnlyAdvance localeCompare s t = true ↔
    s.auditTail.length < t.auditTail.length ∧ s.epochId = t.epochId ∧ AuditExtends s t ∧
      ComparedAlike localeCompare s t ∧ KeysLineUp localeCompare s t := by
  unfold isObservationOnlyAdvance
  by_cases hlength : t.auditTail.length ≤ s.auditTail.length
  · rw [if_pos hlength]
    exact ⟨nofun, fun h => absurd h.1 (Nat.not_lt.2 hlength)⟩
  · rw [if_neg hlength, auditExtends_iff, and_iff_right (Nat.lt_of_not_le hlength)]
    dsimp only
    rw [withSnapshotRef_appendObservations]
    exact canonicallyEqual_movedTo

theorem isEpochOnlyAdvance_iff : isEpochOnlyAdvance localeCompare s t = true ↔
    s.snapshotRef ≠ t.snapshotRef ∧ s.epochId ≠ t.epochId ∧ s.auditTail = t.auditTail ∧
      ComparedAlike localeCompare s t ∧ KeysLineUp localeCompare s t := by
  unfold isEpochOnlyAdvance
  by_cases hsame : s.snapshotRef = t.snapshotRef ∨ s.epochId = t.epochId
  · rw [if_pos hsame]
    exact ⟨nofun, fun h => (not_or.2 ⟨h.1, h.2.1⟩ hsame).elim⟩
  · obtain ⟨href, hepoch⟩ := not_or.1 hsame
    rw [if_neg hsame, snapshotsCanonicallyEqual_iff, and_iff_right href, and_iff_right hepoch]
    exact ⟨fun ⟨_, haudit, ⟨h1, h2, h3, h4, h5, h6, h7, h8⟩, k1, k2, k3, k4, k5⟩ =>
        ⟨haudit, ⟨h1, h2, h3, h4, h5, h6, h7, h8⟩, k1, k2, k3, k4, k5⟩,
      fun ⟨haudit, ⟨h1, h2, h3, h4, h5, h6, h7, h8⟩, k1, k2, k3, k4, k5⟩ =>
        ⟨rfl, haudit, ⟨h1, h2, h3, h4, h5, h6, h7, h8⟩, k1, k2, k3, k4, k5⟩⟩

theorem isObservationAndEpochOnlyAdvance_iff : isObservationAndEpochOnlyAdvance localeCompare s t = true ↔
    s.snapshotRef ≠ t.snapshotRef ∧ s.epochId ≠ t.epochId ∧ s.auditTail.length < t.auditTail.length ∧
      AuditExtends s t ∧ ComparedAlike localeCompare s t ∧ KeysLineUp localeCompare s t := by
  unfold isObservationAndEpochOnlyAdvance
  by_cases hsame : s.snapshotRef = t.snapshotRef ∨ s.epochId = t.epochId ∨
      t.auditTail.length ≤ s.auditTail.length
  · rw [if_pos hsame]
    refine ⟨nofun, fun ⟨href, hepoch, hlength, _⟩ => ?_⟩
    rcases hsame with h | h | h
    · exact absurd h href
    · exact absurd h hepoch
    · exact absurd h (Nat.not_le.2 hlength)
  · obtain ⟨href, hrest⟩ := not_or.1 hsame
    obtain ⟨hepoch, hlength⟩ := not_or.1 hrest
    rw [if_neg hsame, and_iff_right href, and_iff_right hepoch, and_iff_right (Nat.lt_of_not_le hlength), auditExtends_iff]
    dsimp only
    rw [withSnapshotRef_appendObservations]
    show snapshotsCanonicallyEqual localeCompare (movedTo s t.snapshotRef t.epochId _) t = true ↔ _
    rw [canonicallyEqual_movedTo, and_iff_right rfl]
    exact Iff.rfl

theorem isVerifiableUnloggedAdvance_iff : isVerifiableUnloggedAdvance localeCompare s t = true ↔
    Moved s t ∧ AuditExtends s t ∧ ComparedAlike localeCompare s t ∧ KeysLineUp localeCompare s t := by
  rw [isVerifiableUnloggedAdvance, Bool.or_eq_true, Bool.or_eq_true, isObservationOnlyAdvance_iff,
    isEpochOnlyAdvance_iff, isObservationAndEpochOnlyAdvance_iff]
  constructor
  · rintro ((⟨hlength, hepoch, h⟩ | ⟨href, hepoch, haudit, h⟩) | ⟨href, hepoch, hlength, h⟩)
    · exact ⟨⟨.inl hlength, fun hne => absurd hepoch hne⟩, h⟩
    · exact ⟨⟨.inr hepoch, fun _ => href⟩, auditExtends_of_eq haudit, h⟩
    · exact ⟨⟨.inl hlength, fun _ => href⟩, h⟩
  · rintro ⟨⟨honward, hrenamed⟩, haudit, h⟩
    by_cases hepoch : s.epochId = t.epochId
    · exact .inl (.inl ⟨honward.resolve_right fun hne => hne hepoch, hepoch, haudit, h⟩)
    · by_cases hlength : s.auditTail.length < t.auditTail.length
      · exact .inr ⟨hrenamed hepoch, hepoch, hlength, haudit, h⟩
      · exact .inl (.inr ⟨hrenamed hepoch, hepoch, haudit.eq_of_length_le (Nat.le_of_not_lt hlength), h⟩)

/-! ## What a sequence reaches -/

theorem movedTo_of_run (r : Run UnloggedStep.Leads s steps t) :
    ∃ entries, t = movedTo s t.snapshotRef t.epochId (appendObservations s entries).auditTail := by
  induction r with
  | nil s => exact ⟨[], rfl⟩
  | @cons s m t step steps head tail ih =>
      obtain ⟨entries, ht⟩ := ih
      cases head with
      | @observe source payloadRef receivedAt nextRef =>
          refine ⟨⟨0, source, payloadRef, receivedAt⟩ :: entries, ht.trans ?_⟩
          rw [appendObservations_cons]
          exact congrArg (movedTo s t.snapshotRef t.epochId) (auditTail_appendObservations rfl)
      | @activate epochId nextRef changes =>
          refine ⟨entries, ht.trans ?_⟩
          exact congrArg (movedTo s t.snapshotRef t.epochId) (auditTail_appendObservations rfl)

theorem exists_run_observations (entries : List ObservationEntry) (s : CollaborationSnapshot) :
    ∃ steps, Run UnloggedStep.Leads s steps (appendObservations s entries) := by
  induction entries generalizing s with
  | nil => exact ⟨[], .nil s⟩
  | cons e entries ih =>
      obtain ⟨steps, hrun⟩ := ih (appendObservation s e.source e.payloadRef e.receivedAt)
      exact ⟨.observe e.source e.payloadRef e.receivedAt s.snapshotRef :: steps, .cons .observe hrun⟩

theorem exists_other_epoch (epochId : EpochId) : ∃ other : EpochId, epochId ≠ other := by
  refine ⟨epochId ++ "x", fun h => ?_⟩
  have hlength := congrArg String.length h
  simp at hlength

theorem exists_run_activations (s : CollaborationSnapshot) (epochId : EpochId) :
    ∃ steps, steps ≠ [] ∧ Run UnloggedStep.Leads s steps (withEpoch s epochId) := by
  by_cases hepoch : s.epochId = epochId
  · obtain ⟨other, hother⟩ := exists_other_epoch s.epochId
    exact ⟨[.activate other s.snapshotRef, .activate epochId s.snapshotRef], List.cons_ne_nil _ _,
      .cons (.activate hother) (.single (.activate fun h => hother (hepoch.trans h.symm)))⟩
  · exact ⟨[.activate epochId s.snapshotRef], List.cons_ne_nil _ _, .single (.activate hepoch)⟩

theorem unloggedAdvance_iff : UnloggedAdvance s t ↔
    AuditExtends s t ∧ ComparedAlike localeCompare s t ∧ BlindFieldsAgree s t := by
  constructor
  · rintro ⟨steps, last, -, hrun, hsame⟩
    obtain ⟨entries, hlast⟩ := movedTo_of_run hrun
    rw [hlast] at hsame
    obtain ⟨-, haudit, halike, hblind⟩ := sameWorld_iff.1 hsame
    exact ⟨⟨entries, haudit.symm⟩, comparedAlike_movedTo.1 halike, blindFieldsAgree_movedTo.1 hblind⟩
  · rintro ⟨⟨entries, haudit⟩, halike, hblind⟩
    obtain ⟨observations, hobserve⟩ := exists_run_observations entries s
    obtain ⟨activations, hne, hactivate⟩ := exists_run_activations (appendObservations s entries) t.epochId
    refine ⟨observations ++ activations, _, fun h => hne (List.append_eq_nil_iff.1 h).2, hobserve.append hactivate, ?_⟩
    have hworld : SameWorld (movedTo s s.snapshotRef t.epochId (appendObservations s entries).auditTail) t :=
      sameWorld_iff.2 ⟨rfl, haudit.symm, comparedAlike_movedTo.2 halike, blindFieldsAgree_movedTo.2 hblind⟩
    rw [appendObservations_eq]
    exact hworld

theorem isVerifiableUnloggedAdvance_eq_iff :
    (isVerifiableUnloggedAdvance localeCompare s t = true ↔ UnloggedAdvance s t) ↔
      (AuditExtends s t → ComparedAlike localeCompare s t →
        (Moved s t ∧ KeysLineUp localeCompare s t ↔ BlindFieldsAgree s t)) := by
  rw [isVerifiableUnloggedAdvance_iff, @unloggedAdvance_iff localeCompare]
  constructor
  · intro h haudit halike
    exact ⟨fun ⟨hmoved, hkeys⟩ => (h.1 ⟨hmoved, haudit, halike, hkeys⟩).2.2, fun hblind =>
      have ⟨hmoved, _, _, hkeys⟩ := h.2 ⟨haudit, halike, hblind⟩
      ⟨hmoved, hkeys⟩⟩
  · intro h
    exact ⟨fun ⟨hmoved, haudit, halike, hkeys⟩ => ⟨haudit, halike, (h haudit halike).1 ⟨hmoved, hkeys⟩⟩,
      fun ⟨haudit, halike, hblind⟩ =>
        have ⟨hmoved, hkeys⟩ := (h haudit halike).2 hblind
        ⟨hmoved, haudit, halike, hkeys⟩⟩

end Cantilune
