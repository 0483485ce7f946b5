import Cantilune.Codec.UnloggedAdvance
import Cantilune.Runtime.Durable

/-!
# The criterion for unlogged advances

The test by which a commit is let through behind a head that moved without a change, against what observations
and activations can do to a world.
-/

namespace Cantilune

variable {localeCompare : LocaleCompare} {d : MemoryDurableCoordinator} {input : DurableCommitInput}
  {«from» «to» : CollaborationSnapshot}

/-- A commit on a head that moved since the last logged change, its id new. -/
structure CommitsAcross (d : MemoryDurableCoordinator) (input : DurableCommitInput)
    («from» «to» : CollaborationSnapshot) : Prop where
  last : ∃ previous, d.changelog.changes.getLast? = some previous ∧ previous.afterRef = «from».snapshotRef
  logged : d.store.get «from».snapshotRef = some «from»
  head : d.store.headRef = some «to».snapshotRef
  stored : d.store.get «to».snapshotRef = some «to»
  moved : «from».snapshotRef ≠ «to».snapshotRef
  expected : input.expectedHead = «to».snapshotRef
  before : input.change.beforeRef = «to».snapshotRef
  fresh : d.changelog.changes.any (fun change => change.changeId = input.change.changeId) = false

/-- The test tells what observations and activations reach, and of commits it refuses those on other worlds. -/
def AdvanceCriterion (localeCompare : LocaleCompare) («from» «to» : CollaborationSnapshot) : Prop :=
  (isVerifiableUnloggedAdvance localeCompare «from» «to» = true ↔ UnloggedAdvance «from» «to») ∧
    ∀ d input, CommitsAcross d input «from» «to» →
      ((d.commit localeCompare input).1 = .error "chain_broken" ↔ ¬ UnloggedAdvance «from» «to»)

theorem CommitsAcross.continuesLog (h : CommitsAcross d input «from» «to») :
    d.continuesLog localeCompare input = isVerifiableUnloggedAdvance localeCompare «from» «to» := by
  obtain ⟨previous, hlast, hafter⟩ := h.last
  rw [MemoryDurableCoordinator.continuesLog, hlast]
  dsimp only
  rw [changeContinuesChain, hafter, h.before, if_neg fun heq => h.moved heq.symm, h.logged, h.stored]

theorem CommitsAcross.chain_broken_iff (h : CommitsAcross d input «from» «to») :
    (d.commit localeCompare input).1 = .error "chain_broken" ↔
      ¬ isVerifiableUnloggedAdvance localeCompare «from» «to» = true := by
  rw [MemoryDurableCoordinator.commit_eq, if_neg (not_not.2 (h.head.trans (congrArg some h.expected.symm))),
    if_neg (Bool.eq_false_iff.1 h.fresh), h.continuesLog]
  cases isVerifiableUnloggedAdvance localeCompare «from» «to» with
  | false => exact ⟨fun _ => Bool.false_ne_true, fun _ => rfl⟩
  | true =>
      refine ⟨fun hbroken => ?_, fun hne => absurd rfl hne⟩
      rw [if_neg (Bool.eq_false_iff.1 · rfl)] at hbroken
      split at hbroken
      · exact absurd (Except.error.inj hbroken) (by decide)
      · cases hbroken

/-- The criterion is met exactly if, on worlds that compare alike, the head moved and the keys line up just when
the fields that are not compared agree. -/
theorem advance_criterion_iff (localeCompare : LocaleCompare) («from» «to» : CollaborationSnapshot) :
    AdvanceCriterion localeCompare «from» «to» ↔
      (AuditExtends «from» «to» → ComparedAlike localeCompare «from» «to» →
        (Moved «from» «to» ∧ KeysLineUp localeCompare «from» «to» ↔ BlindFieldsAgree «from» «to»)) := by
  rw [AdvanceCriterion, isVerifiableUnloggedAdvance_eq_iff]
  refine and_iff_left_of_imp fun h d input hcommit => ?_
  rw [hcommit.chain_broken_iff, isVerifiableUnloggedAdvance_eq_iff.2 h]

/-- A participant moves to another namespace while an observation comes in: the test is passed, although no
observation and no activation moves a participant. -/
theorem moved_participant_unseen : ¬ ∀ localeCompare «from» «to», AdvanceCriterion localeCompare «from» «to» := by
  intro hall
  let before := withParticipant (emptySnapshot "s0" "e1") (participant "alice" .agent)
  let after := withSnapshotRef (appendObservation
    (withParticipant (emptySnapshot "s0" "e1") (participant "alice" .agent .active none "other"))
    ⟨"alice", .agent⟩ "p" "t1") "s1"
  have hadvance : UnloggedAdvance before after :=
    (hall (fun _ _ => 0) before after).1.1 (by decide +kernel)
  obtain ⟨-, -, hblind⟩ := (@unloggedAdvance_iff (fun _ _ => 0) _ _).1 hadvance
  have hnamespace := (hblind.participants "alice" _ _ rfl rfl).1
  exact absurd hnamespace (by decide)

end Cantilune
