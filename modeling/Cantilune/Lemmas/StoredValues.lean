import Cantilune.Lemmas.Reload
import Cantilune.Runtime.DurableLoads

/-!
# Snapshots out of a store

A snapshot that round-trips comes back with the members of its messages in the parser's order, and is otherwise
the same. No comparison of worlds looks at messages, so chain and suffix come out alike.
-/

namespace Cantilune

def withTranscripts (s : CollaborationSnapshot) (transcripts : OrdMap ActorId ParticipantTranscript) :
    CollaborationSnapshot :=
  { s with transcripts }

/-! ## Comparisons -/

variable {localeCompare : LocaleCompare} {s t : CollaborationSnapshot}
  {ts us : OrdMap ActorId ParticipantTranscript}

theorem appendObservations_withTranscripts (entries : List ObservationEntry) :
    appendObservations (withTranscripts s ts) entries = withTranscripts (appendObservations s entries) ts := by
  induction entries generalizing s with
  | nil => rfl
  | cons entry entries ih =>
      change appendObservations (withTranscripts (appendObservation s entry.source entry.payloadRef entry.receivedAt)
        ts) entries = _
      exact ih

theorem isVerifiableUnloggedAdvance_withTranscripts :
    isVerifiableUnloggedAdvance localeCompare (withTranscripts s ts) (withTranscripts t us) =
      isVerifiableUnloggedAdvance localeCompare s t := by
  have hobservation : isObservationOnlyAdvance localeCompare (withTranscripts s ts) (withTranscripts t us) =
      isObservationOnlyAdvance localeCompare s t := by
    simp only [isObservationOnlyAdvance, appendObservations_withTranscripts]
    rfl
  have hepoch : isEpochOnlyAdvance localeCompare (withTranscripts s ts) (withTranscripts t us) =
      isEpochOnlyAdvance localeCompare s t := rfl
  have hboth : isObservationAndEpochOnlyAdvance localeCompare (withTranscripts s ts) (withTranscripts t us) =
      isObservationAndEpochOnlyAdvance localeCompare s t := by
    simp only [isObservationAndEpochOnlyAdvance, appendObservations_withTranscripts]
    rfl
  rw [isVerifiableUnloggedAdvance, hobservation, hepoch, hboth, isVerifiableUnloggedAdvance]

def SameButMessages (found put : CollaborationSnapshot) : Prop :=
  SameSnapshot found put ∧ ∃ ts, found = withTranscripts put ts

section Resolvers
variable {resolve resolve' : SnapshotRef → Option CollaborationSnapshot}
  (h : ∀ ref, Option.Rel SameButMessages (resolve ref) (resolve' ref))

include h

theorem changeContinuesChain_congr (previous change : CoordinationChange) :
    changeContinuesChain localeCompare previous change resolve =
      changeContinuesChain localeCompare previous change resolve' := by
  unfold changeContinuesChain
  split
  · rfl
  · have hprevious := h previous.afterRef
    have hchange := h change.beforeRef
    generalize resolve previous.afterRef = «from», resolve' previous.afterRef = from' at hprevious ⊢
    generalize resolve change.beforeRef = «to», resolve' change.beforeRef = to' at hchange ⊢
    cases hprevious with
    | none => rfl
    | some hfrom =>
        cases hchange with
        | none => rfl
        | some hto =>
            obtain ⟨_, ts, rfl⟩ := hfrom
            obtain ⟨_, us, rfl⟩ := hto
            exact isVerifiableUnloggedAdvance_withTranscripts

theorem changesSince_congr (fromRef : SnapshotRef) (all : List CoordinationChange) :
    changesSince localeCompare fromRef all resolve = changesSince localeCompare fromRef all resolve' := by
  have hbridge : ∀ s ts, bridgedSuffix localeCompare resolve (withTranscripts s ts) (anchorAfter fromRef all) all =
      bridgedSuffix localeCompare resolve' s (anchorAfter fromRef all) all := by
    intro s ts
    unfold bridgedSuffix
    congr 1
    funext change
    have hchange := h change.beforeRef
    generalize resolve change.beforeRef = before, resolve' change.beforeRef = before' at hchange ⊢
    cases hchange with
    | none => rfl
    | some hbefore =>
        obtain ⟨_, us, rfl⟩ := hbefore
        simp only [Option.any_some, isVerifiableUnloggedAdvance_withTranscripts]
  unfold changesSince
  simp only
  split
  · rfl
  · have hfromRef := h fromRef
    generalize resolve fromRef = «from», resolve' fromRef = from' at hfromRef ⊢
    cases hfromRef with
    | none => rfl
    | some hfrom =>
        obtain ⟨_, ts, rfl⟩ := hfrom
        exact hbridge _ ts

end Resolvers

/-! ## Loads -/

def reload (s : CollaborationSnapshot) : Option CollaborationSnapshot :=
  (decodeSnapshotFromUnknown (encodeSnapshot s).toJson).toOption

theorem exists_reload (h : Reloads s) :
    ∃ found, decodeSnapshotFromUnknown (encodeSnapshot s).toJson = .ok found ∧ SameButMessages found s := by
  obtain ⟨found, hdecode, hsame⟩ := h
  refine ⟨found, hdecode, hsame, found.transcripts, ?_⟩
  have hloadable := reloads_iff.1 ⟨found, hdecode, hsame⟩
  unfold decodeSnapshotFromUnknown at hdecode
  cases hparse : parseSnapshotWire (encodeSnapshot s).toJson with
  | error v =>
      rw [hparse] at hdecode
      cases hdecode
  | ok dto =>
      rw [hparse] at hdecode
      obtain ⟨_, ts, _, rfl⟩ := parseSnapshotWire_encoded.1 hparse
      simp only [decodeSnapshot, encodeSnapshot, clonePolicyContext?_toJson, Except.ok.injEq] at hdecode
      subst hdecode
      simp only [withTranscripts, OrdMap.keyedBy_values (forAll_and_values.1 hloadable.participants).1,
        OrdMap.keyedBy_values (forAll_and_values.1 hloadable.artifacts).1,
        OrdMap.keyedBy_values (forAll_and_values.1 hloadable.links).1,
        OrdMap.keyedBy_values (forAll_and_values.1 hloadable.sessions).1,
        OrdMap.keyedBy_values (forAll_and_values.1 hloadable.capabilities).1,
        OrdMap.keyedBy_values (forAll_and_values.1 hloadable.namespaces).1,
        OrdMap.keyedBy_values (forAll_and_values.1 hloadable.requests).1,
        withDefaultNamespace_of_has s.defaultRegistered]

theorem reloads_ref_ne (h : Reloads s) : s.snapshotRef ≠ "" := (reloads_iff.1 h).snapshotRef

theorem reload_rel (h : Reloads s) : Option.Rel SameButMessages (reload s) (some s) := by
  obtain ⟨found, hdecode, hsame⟩ := exists_reload h
  rw [reload, hdecode]
  exact .some hsame

def MemoryDurableCoordinator.reloaded (d : MemoryDurableCoordinator) (ref : SnapshotRef) :
    Option CollaborationSnapshot :=
  (d.store.get ref).bind reload

theorem reloaded_rel {d : MemoryDurableCoordinator} (h : ∀ ref s, d.store.get ref = some s → Reloads s)
    (ref : SnapshotRef) : Option.Rel SameButMessages (d.reloaded ref) (d.store.get ref) := by
  unfold MemoryDurableCoordinator.reloaded
  cases hs : d.store.get ref with
  | none => exact .none
  | some s => exact reload_rel (h ref s hs)

theorem snapshotReplayRecipe_idem (recipe : ReplayRecipe) :
    snapshotReplayRecipe (snapshotReplayRecipe recipe) = snapshotReplayRecipe recipe := by
  have hinputs : snapshotScalarInputs (snapshotScalarInputs recipe.scalarInputs) =
      snapshotScalarInputs recipe.scalarInputs := by
    refine OrdMap.ext_entries ?_
    simp [snapshotScalarInputs, OrdMap.filterKeys]
  simp only [snapshotReplayRecipe, hinputs]

def DurableCall.RoundTrips : DurableCall → Prop
  | .compareAndSwapHead _ snapshot => Reloads snapshot
  | .compareAndSwapHeadWithBinding _ snapshot binding => Reloads snapshot ∧ binding.RoundTrips
  | .commit input => Reloads input.after ∧ input.change.RoundTrips input.recipe ∧ input.recipe.RoundTrips
  | _ => True

def DurableResult.Same : DurableResult → DurableResult → Prop
  | .snapshot found, .snapshot found' => Option.Rel SameSnapshot found found'
  | result, result' => result = result'

/-! ## A commit that round-trips -/

def firstWorld : CollaborationSnapshot := emptySnapshot "s0" "e1"

def secondWorld : CollaborationSnapshot := emptySnapshot "s1" "e1"

/-- `ann` signals that she is done. -/
def doneChange : CoordinationChange where
  changeId := "c1"
  recordedAt := "2024-01-01T00:00:00.000Z"
  epochId := "e1"
  operationTypeId := "signal_done"
  templateRef := none
  beforeRef := "s0"
  afterRef := "s1"
  matchBindings := [⟨.from, "ann"⟩]
  targets := [⟨.participant, "ann"⟩]
  initiator := { actorId := "ann", kind := .agent }
  involved := []
  authorization := []
  external := []
  createdSessionRefs := []
  visibility := .internal

def doneCommit : DurableCommitInput where
  expectedHead := "s0"
  after := secondWorld
  change := doneChange
  recipe := replayRecipeFromChange doneChange

def codePointCompare (s t : String) : Int := if s < t then -1 else if t < s then 1 else 0

theorem reloads_of_decode {s : CollaborationSnapshot}
    (h : decodeSnapshotFromUnknown (encodeSnapshot s).toJson = .ok s) : Reloads s :=
  ⟨s, h, rfl, .refl _⟩

theorem firstWorld_reloads : Reloads firstWorld := reloads_of_decode (by decide +kernel)

theorem secondWorld_reloads : Reloads secondWorld := reloads_of_decode (by decide +kernel)

theorem doneCommit_roundTrips : (DurableCall.commit doneCommit).RoundTrips := by
  have hreload : (encodeChangeWithRecipe doneChange doneCommit.recipe).toOption.bind (fun dto =>
      (decodeChangeFromUnknown dto.toJson).toOption) = some (doneChange, doneCommit.recipe) := by decide +kernel
  refine ⟨secondWorld_reloads, ?_, by unfold ReplayRecipe.RoundTrips; decide +kernel⟩
  cases hdto : encodeChangeWithRecipe doneChange doneCommit.recipe with
  | error message =>
      rw [hdto] at hreload
      cases hreload
  | ok dto =>
      rw [hdto] at hreload
      change (decodeChangeFromUnknown dto.toJson).toOption = _ at hreload
      cases hdecode : decodeChangeFromUnknown dto.toJson with
      | error failure =>
          rw [hdecode] at hreload
          cases hreload
      | ok decoded =>
          rw [hdecode] at hreload
          exact ⟨dto, doneCommit.recipe, hdto, hdecode.trans (congrArg Except.ok (Option.some.inj hreload))⟩

end Cantilune
