import Cantilune.Core.Snapshot
import Cantilune.Theorems.Capabilities

/-!
# Namespaces and transcripts

A participant stays in its namespace, so that a reader of another namespace keeps the restricted view of a
transcript. The lifecycle handlers build the record of the participant anew and put it in the default
namespace, so this holds exactly while they are used on participants of the default namespace.
-/

namespace Cantilune

variable {s t : CollaborationSnapshot} {o : Operation} {ops : List Operation}

def Operation.lifecycleTarget (o : Operation) : Option ActorId :=
  match o.kind with
  | .activateParticipant => findRole o.bindings .participant
  | .signalDone => findRole o.bindings .from
  | .retireParticipant => (findRole o.bindings .participant).or (findRole o.bindings .from)
  | _ => none

inductive ParticipantStep (s : CollaborationSnapshot) (o : Operation) (t : CollaborationSnapshot) : Prop where
  | frame (hParticipants : t.participants = s.participants) (hTarget : o.lifecycleTarget = none)
  | register {id kind status} (hNew : s.participants.get? id = none)
      (hParticipants : t.participants = s.participants.set id (participant id kind status))
      (hTarget : o.lifecycleTarget = none)
  | lifecycle {id p status manifestRef} (hOld : s.participants.get? id = some p)
      (hParticipants : t.participants = s.participants.set id (participant id p.kind status manifestRef))
      (hTarget : o.lifecycleTarget = some id)

theorem linkReviewer_participants (s : CollaborationSnapshot) (recipe : ReplayRecipe) (fromId toId : ActorId) :
    (linkReviewer s recipe fromId toId).participants = s.participants ∨
      ∃ id, s.participants.get? id = none ∧
        (linkReviewer s recipe fromId toId).participants = s.participants.set id (participant id .reviewer) := by
  unfold linkReviewer
  split
  · rename_i id _ _ _
    by_cases h : s.participants.has id = true
    · exact .inl (by simp [h, withLink])
    · refine .inr ⟨id, OrdMap.has_eq_false_iff.1 (by simpa using h), ?_⟩
      simp only [h]
      rfl
  · exact .inl rfl

theorem participantStep (h : Operation.Applies s o t) : ParticipantStep s o t := by
  obtain ⟨result, rfl, heff⟩ := Operation.effect_of_applies h
  obtain ⟨kind, recipe, afterRef⟩ := o
  cases heff with
  | introduceArtifact => exact .frame rfl rfl
  | @delegate b task lock p sessionId _ _ _ _ _ _ =>
      rcases linkReviewer_participants
        (withSession (transferTask s task lock ⟨b.toId, p.kind⟩)
          (communicationSession sessionId b.toId [b.toId, b.fromId])) recipe b.fromId b.toId with heq | ⟨id, hid, heq⟩
      · exact .frame heq rfl
      · exact .register hid heq rfl
  | createSession => exact .frame rfl rfl
  | forkBranch => exact .frame rfl rfl
  | forkBranchTask => exact .frame rfl rfl
  | publishArtifact => exact .frame rfl rfl
  | transferSession => exact .frame rfl rfl
  | registerParticipant _ _ _ _ hNew => exact .register (OrdMap.has_eq_false_iff.1 hNew) rfl rfl
  | activateParticipant _ hParticipant _ _ hTarget _ _ => exact .lifecycle hTarget rfl hParticipant
  | signalDone hFrom hCurrent _ => exact .lifecycle hCurrent rfl hFrom
  | retireParticipant hFrom hTarget hCurrent _ _ =>
      refine .lifecycle hCurrent rfl ?_
      cases hp : findRole recipe.matchBindings .participant <;>
        simp_all [Operation.lifecycleTarget, Operation.bindings]
  | emitHeartbeat => exact .frame rfl rfl
  | commitTranscript => exact .frame rfl rfl

/-! ## Namespaces -/

/-- Every participant is still there, in the namespace it was in. -/
def NamespacesKept (s t : CollaborationSnapshot) : Prop :=
  ∀ id p, s.participants.get? id = some p →
    ∃ p', t.participants.get? id = some p' ∧ p'.namespaceId = p.namespaceId

def LifecycleInDefault (s : CollaborationSnapshot) (o : Operation) : Prop :=
  ∀ id p, o.lifecycleTarget = some id → s.participants.get? id = some p → p.namespaceId = defaultNamespaceId

theorem namespacesKept_iff (h : Operation.Applies s o t) : NamespacesKept s t ↔ LifecycleInDefault s o := by
  cases participantStep h with
  | frame hParticipants hTarget =>
      refine ⟨fun _ id p hid => ?_, fun _ id p hp => ⟨p, by rw [hParticipants, hp], rfl⟩⟩
      rw [hTarget] at hid
      cases hid
  | @register id kind status hNew hParticipants hTarget =>
      refine ⟨fun _ id p hid => ?_, fun _ id' p hp => ⟨p, ?_, rfl⟩⟩
      · rw [hTarget] at hid
        cases hid
      · have hne : id' ≠ id := by
          rintro rfl
          rw [hNew] at hp
          cases hp
        rw [hParticipants, OrdMap.get?_set_ne _ _ hne, hp]
  | @lifecycle id p status manifestRef hOld hParticipants hTarget =>
      constructor
      · intro hkept id' q hid hq
        cases hTarget.symm.trans hid
        obtain ⟨p', hp', hns⟩ := hkept id q hq
        rw [hParticipants, OrdMap.get?_set_self] at hp'
        cases hp'
        exact hns.symm
      · intro hdef id' q hq
        by_cases hid : id' = id
        · subst hid
          exact ⟨_, by rw [hParticipants, OrdMap.get?_set_self], (hdef id' q hTarget hq).symm⟩
        · exact ⟨q, by rw [hParticipants, OrdMap.get?_set_ne _ _ hid, hq], rfl⟩

theorem namespaceOf_step (h : Operation.Applies s o t) (hdef : LifecycleInDefault s o) (id : ActorId) :
    namespaceOf t id = namespaceOf s id := by
  unfold namespaceOf
  cases hp : s.participants.get? id with
  | some p =>
      obtain ⟨p', hp', hns⟩ := (namespacesKept_iff h).2 hdef id p hp
      simp [hp', hns]
  | none =>
      cases participantStep h with
      | frame hParticipants _ => simp [hParticipants, hp]
      | @register id' kind status _ hParticipants _ =>
          by_cases hid : id = id'
          · subst hid
            simp [hParticipants, participant]
          · simp [hParticipants, OrdMap.get?_set_ne _ _ hid, hp]
      | @lifecycle id' p' status manifestRef hOld hParticipants _ =>
          have hne : id ≠ id' := by
            rintro rfl
            rw [hp] at hOld
            cases hOld
          simp [hParticipants, OrdMap.get?_set_ne _ _ hne, hp]

def NamespaceRunStep (s : CollaborationSnapshot) (o : Operation) (t : CollaborationSnapshot) : Prop :=
  Operation.Applies s o t ∧ LifecycleInDefault s o

theorem namespacesKept_of_run (r : Run NamespaceRunStep s ops t) : NamespacesKept s t :=
  r.related (fun _ _ p hp => ⟨p, hp, rfl⟩)
    (fun _ _ _ h₁ h₂ id p hp => by
      obtain ⟨q, hq, hpq⟩ := h₁ id p hp
      obtain ⟨q', hq', hqq⟩ := h₂ id q hq
      exact ⟨q', hq', hqq.trans hpq⟩)
    fun _ _ _ h => (namespacesKept_iff h.1).2 h.2

theorem namespaceOf_of_run (r : Run NamespaceRunStep s ops t) (id : ActorId) :
    namespaceOf t id = namespaceOf s id :=
  r.related (R := fun s t => namespaceOf t id = namespaceOf s id) (fun _ => rfl)
    (fun _ _ _ h₁ h₂ => h₂.trans h₁) fun _ _ _ h => namespaceOf_step h.1 h.2 id

/-- Participants keep their namespaces exactly at the steps that meet the condition. Along runs of such
steps no reader of another namespace ever sees a transcript in full without a grant. -/
theorem transcript_confidentiality (s : CollaborationSnapshot) :
    (∀ o t, Operation.Applies s o t → (NamespacesKept s t ↔ LifecycleInDefault s o)) ∧
    (∀ ops t, Run NamespaceRunStep s ops t → NamespacesKept s t ∧
      ∀ reader subject, namespaceOf s reader ≠ namespaceOf s subject →
        (visibleTranscript t reader subject).isFull = true →
        hasApprovedTranscriptRead t reader subject = true) := by
  refine ⟨fun _ _ h => namespacesKept_iff h, fun ops t r => ⟨namespacesKept_of_run r, ?_⟩⟩
  intro reader subject hne hfull
  obtain ⟨_, hsame | hns | hgrant⟩ := visibleTranscript_isFull.1 hfull
  · exact absurd (congrArg (namespaceOf s) hsame) hne
  · rw [namespaceOf_of_run r, namespaceOf_of_run r] at hns
    exact absurd hns hne
  · exact hgrant

/-- The workshop with a transcript of `ann`, and with `eve` as an active participant of another namespace. -/
def guestWorkshop : CollaborationSnapshot :=
  { workshop with
    participants := workshop.participants.set "eve" (participant "eve" .agent .active none "guests")
    namespaces := workshop.namespaces.set "guests" ⟨"guests", "guests", []⟩
    transcripts := .ofList
      [("ann", participantTranscript "ann" [.obj [("role", .str "user"), ("content", .str "secret")]])]
    defaultRegistered := by decide +kernel }

def guestSignalsDone : Operation := workshopOperation .signalDone [⟨.from, "eve"⟩]

/-- `eve` signals that she is done, moves to the default namespace with that, and reads the secret. -/
theorem guestSignalsDone_exposes : Integrity guestWorkshop ∧
    namespaceOf guestWorkshop "eve" ≠ namespaceOf guestWorkshop "ann" ∧
    (visibleTranscript guestWorkshop "eve" "ann").isFull = false ∧
    ∃ t, Run Operation.Applies guestWorkshop [guestSignalsDone] t ∧ ¬ NamespacesKept guestWorkshop t ∧
      (visibleTranscript t "eve" "ann").isFull = true ∧ hasApprovedTranscriptRead t "eve" "ann" = false := by
  refine ⟨by decide +kernel, by decide +kernel, by decide +kernel, ?_⟩
  have hrun : Operation.Applies guestWorkshop guestSignalsDone
      (withSnapshotRef (withLifecycle guestWorkshop "eve" .agent .done none) "s1") := by
    unfold Operation.Applies
    decide +kernel
  refine ⟨_, .single hrun, fun hkept => ?_, by decide +kernel, by decide +kernel⟩
  have hguest := (namespacesKept_iff hrun).1 hkept "eve" (participant "eve" .agent .active none "guests")
    (by decide +kernel) (by decide +kernel)
  exact absurd hguest (by decide)

def publishPlan : Operation := workshopOperation .publishArtifact [⟨.task, "plan"⟩, ⟨.from, "ann"⟩]

/-- `ann` publishes the plan, and nobody changes places. -/
theorem publishPlan_kept : ∃ t, Run NamespaceRunStep guestWorkshop [publishPlan] t ∧
    NamespacesKept guestWorkshop t := by
  have hsome : (publishPlan.apply guestWorkshop).isSome = true := by decide +kernel
  obtain ⟨t, ht⟩ := Option.isSome_iff_exists.1 hsome
  have r : Run NamespaceRunStep guestWorkshop [publishPlan] t :=
    .single ⟨ht, fun id p hid _ => by cases hid⟩
  exact ⟨t, r, ((transcript_confidentiality guestWorkshop).2 _ _ r).1⟩

end Cantilune
