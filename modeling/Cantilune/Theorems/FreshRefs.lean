import Cantilune.Lemmas.Effects
import Cantilune.Theorems.ChangeRoundTrip
import Cantilune.Theorems.Independence

/-!
# Enough fresh references

The committer draws the links of an operation before its handler runs, by counting the bindings. What the handler
then consumes, in loops over its participants, never exceeds what was drawn.
-/

namespace Cantilune

variable {before : CollaborationSnapshot} {recipe : ReplayRecipe} {ctx : ApplyContext}

def ReplayRecipe.withMoreLinks (recipe : ReplayRecipe) (more : List LinkId) : ReplayRecipe :=
  { recipe with freshLinkRefs := recipe.freshLinkRefs ++ more }

def FailsForWant (handler : OperationHandler) (before : CollaborationSnapshot) (recipe : ReplayRecipe)
    (ctx : ApplyContext) : Prop :=
  ∃ failure more, handler before recipe ctx = .error failure ∧
    handler before (recipe.withMoreLinks more) ctx ≠ .error failure

theorem not_failsForWant {handler : OperationHandler}
    (h : ∀ more failure, handler before recipe ctx = .error failure →
      handler before (recipe.withMoreLinks more) ctx = .error failure) :
    ¬ FailsForWant handler before recipe ctx := by
  rintro ⟨failure, more, hfails, hother⟩
  exact hother (h more failure hfails)

theorem linkPairs_append {kind : LinkKind} {reason : String} {s : CollaborationSnapshot}
    {pairs : List (ActorId × ActorId)} {refs more : List LinkId} (h : pairs.length ≤ refs.length) :
    linkPairs kind reason s pairs (refs ++ more) = linkPairs kind reason s pairs refs := by
  induction pairs generalizing s refs with
  | nil => rfl
  | cons p pairs ih =>
      cases refs with
      | nil => cases h
      | cons ref refs => exact ih (Nat.le_of_succ_le_succ h)

/-! ## Sessions -/

theorem uniqueIds_sublist (ids : List ActorId) : (uniqueIds ids).Sublist ids := by
  induction ids with
  | nil => exact .slnil
  | cons id ids ih => exact (List.filter_sublist.trans ih).cons_cons id

def sessionMembers (recipe : ReplayRecipe) (controllerId : ActorId) : List (ActorId × ActorId) :=
  ((sessionParticipants recipe controllerId).filter fun m => m ≠ controllerId).map fun m => (controllerId, m)

theorem countCreateSessionLinks_eq {controllerId : ActorId}
    (hfrom : findRole recipe.matchBindings .from = some controllerId) :
    countCreateSessionLinks recipe =
      ((boundIds recipe.matchBindings .participant).filter fun id => id ≠ controllerId).length := by
  rw [countCreateSessionLinks, boundIds, List.filter_map, List.length_map, List.filter_filter, hfrom]
  refine congrArg List.length (List.filter_congr fun b _ => ?_)
  simp [Bool.and_comm]

theorem sessionMembers_le {controllerId : ActorId}
    (hfrom : findRole recipe.matchBindings .from = some controllerId) :
    (sessionMembers recipe controllerId).length ≤ countCreateSessionLinks recipe := by
  have hsublist := (uniqueIds_sublist (boundIds recipe.matchBindings .participant)).filter
    fun id => decide (id ≠ controllerId)
  rw [countCreateSessionLinks_eq hfrom, sessionMembers, List.length_map, sessionParticipants, uniqueIds]
  simpa [List.filter_filter] using hsublist.length_le

theorem createSession_more (hlinks : ∀ controllerId, findRole recipe.matchBindings .from = some controllerId →
      (sessionMembers recipe controllerId).length ≤ recipe.freshLinkRefs.length) (more : List LinkId) :
    createSessionHandler before (recipe.withMoreLinks more) ctx = createSessionHandler before recipe ctx := by
  unfold createSessionHandler
  cases hfrom : findRole recipe.matchBindings .from with
  | none => simp [ReplayRecipe.withMoreLinks, hfrom, required, bind, Except.bind]
  | some controllerId =>
      have happend : ∀ s, linkPairs .nestedIn "create_session recipe missing freshLinkRefs" s
          (sessionMembers recipe controllerId) (recipe.freshLinkRefs ++ more) =
            linkPairs .nestedIn "create_session recipe missing freshLinkRefs" s
              (sessionMembers recipe controllerId) recipe.freshLinkRefs :=
        fun s => linkPairs_append (hlinks controllerId hfrom)
      have hparticipants : sessionParticipants (recipe.withMoreLinks more) controllerId =
          sessionParticipants recipe controllerId := rfl
      simp only [sessionMembers] at happend
      simp only [ReplayRecipe.withMoreLinks, hfrom, required, bind, Except.bind] at hparticipants ⊢
      simp only [hparticipants, happend]

theorem forkBranch_more (hlinks : ∀ controllerId, findRole recipe.matchBindings .from = some controllerId →
      (pairwise (sessionParticipants recipe controllerId)).length ≤ recipe.freshLinkRefs.length)
    (more : List LinkId) :
    forkBranchHandler before (recipe.withMoreLinks more) ctx = forkBranchHandler before recipe ctx := by
  unfold forkBranchHandler
  cases hfrom : findRole recipe.matchBindings .from with
  | none => simp [ReplayRecipe.withMoreLinks, hfrom, required, bind, Except.bind]
  | some controllerId =>
      have happend : ∀ s, linkPairs .parallelWith "fork_branch recipe missing freshLinkRefs" s
          (pairwise (sessionParticipants recipe controllerId)) (recipe.freshLinkRefs ++ more) =
            linkPairs .parallelWith "fork_branch recipe missing freshLinkRefs" s
              (pairwise (sessionParticipants recipe controllerId)) recipe.freshLinkRefs :=
        fun s => linkPairs_append (hlinks controllerId hfrom)
      have hparticipants : sessionParticipants (recipe.withMoreLinks more) controllerId =
          sessionParticipants recipe controllerId := rfl
      have htask : applyTaskArtifact before (recipe.withMoreLinks more) controllerId =
          applyTaskArtifact before recipe controllerId := rfl
      simp only [ReplayRecipe.withMoreLinks, hfrom, required, bind, Except.bind] at hparticipants htask ⊢
      simp only [hparticipants, htask, happend]

theorem delegate_more (more : List LinkId) {failure : ApplyFailure}
    (h : delegateHandler before recipe ctx = .error failure) :
    delegateHandler before (recipe.withMoreLinks more) ctx = .error failure := by
  have hbindings : delegateBindings (recipe.withMoreLinks more) = delegateBindings recipe := rfl
  have hsessions : (recipe.withMoreLinks more).createdSessionRefs = recipe.createdSessionRefs := rfl
  unfold delegateHandler at h ⊢
  rw [hbindings, hsessions]
  cases hb : required (delegateBindings recipe) "delegate requires task/from/to/capability bindings" with
  | error failure =>
      rw [hb] at h
      exact h
  | ok b =>
      simp only [hb, bind, Except.bind] at h ⊢
      cases hpair : required ((before.artifacts.get? b.taskId).bind fun task =>
          (before.capabilities.get? b.capabilityId).map fun lock => (task, lock))
        "missing task or capability before delegate" with
      | error failure =>
          rw [hpair] at h
          exact h
      | ok pair =>
          simp only [hpair] at h ⊢
          cases hto : actorRefFromSnapshot before b.toId with
          | error failure =>
              rw [hto] at h
              exact h
          | ok toRef =>
              simp only [hto] at h ⊢
              cases hsession : required recipe.createdSessionRefs[0]?
                "delegate recipe missing createdSessionRefs[0]" with
              | error failure =>
                  rw [hsession] at h
                  exact h
              | ok sessionId =>
                  simp only [hsession] at h ⊢
                  cases hinvolved : actorRefsFromSnapshot before [b.fromId, b.toId] with
                  | error failure =>
                      rw [hinvolved] at h
                      exact h
                  | ok involved =>
                      rw [hinvolved] at h
                      cases h

/-! ## What the committer draws -/

theorem freshLinkRefs_allocate (kind : BuiltinOperation) (idGen : IdGenerator) (drawn : Nat) :
    (allocateFreshRefsForRecipe recipe kind.typeId idGen drawn).1.freshLinkRefs =
      (List.range (freshLinkCount recipe kind.typeId)).map fun i => idGen.linkId (drawn + i) := by
  unfold allocateFreshRefsForRecipe
  split
  · rfl
  · split
    · rfl
    · rfl

theorem nodup_freshLinkRefs (kind : BuiltinOperation) {idGen : IdGenerator}
    (hdistinct : Function.Injective idGen.linkId) (drawn : Nat) :
    (allocateFreshRefsForRecipe recipe kind.typeId idGen drawn).1.freshLinkRefs.Nodup := by
  rw [freshLinkRefs_allocate]
  refine List.Nodup.map (fun i j h => ?_) List.nodup_range
  exact Nat.add_left_cancel (hdistinct h)

def BuiltinOperation.consumesLinks (kind : BuiltinOperation) : Prop :=
  kind = .createSession ∨ kind = .forkBranch ∨ kind = .delegate

def planningRecipe : ReplayRecipe :=
  replayRecipe "e1" "create_session" (some createSessionTemplate.templateRef)
    [⟨.from, "planner"⟩, ⟨.participant, "coder"⟩, ⟨.participant, "tester"⟩, ⟨.participant, "coder"⟩] .external

theorem numberedIds_linkId_injective : Function.Injective numberedIds.linkId := by
  intro n k h
  have htexts : (toString n).toList = (toString k).toList := by
    simpa [numberedIds] using congrArg String.toList h
  exact JsString.toString_injective htexts

end Cantilune
