import Cantilune.Lemmas.SwarmAccounts

/-!
# Where the agents of a swarm are

Between two passes an admitted agent should be pending, running, completed or discarded. The scheduler knows an
agent for good, so one that leaves all four collections never comes back: that is what a start that throws leads to.
An agent that is discarded while its batch is being started is started all the same.
-/

namespace Cantilune

inductive AgentPlace where
  | pending | running | completed | discarded

def AgentPlace.Holds (s : ClusterSupervisor) (h : SwarmHistory) (a : ActorId) : AgentPlace → Prop
  | .pending => s.scheduler.pending.has a = true
  | .running => a ∈ s.scheduler.running
  | .completed => a ∈ h.completed
  | .discarded => a ∈ h.discarded

/-- Every admitted agent is in exactly one place. -/
def Conserved (s : ClusterSupervisor) (h : SwarmHistory) : Prop :=
  ∀ a ∈ h.admitted, ∃! place : AgentPlace, place.Holds s h a

def SettlesInOrder (p : ClusterSupervisor × SwarmHistory) : ClusterEvent → Prop
  | .startSettles _ _ _ =>
      ∀ pass, p.1.dispatching = some pass →
        if pass.failed ∧ pass.starting ∈ p.1.scheduler.running then pass.starting ∈ p.2.discarded
        else pass.starting ∉ p.2.discarded
  | _ => True

namespace SwarmBooks

open SwarmScheduler

variable {b c : SwarmBooks} {a : ActorId}

/-- The agents that wait, and the one that is being started. -/
structure Kept (b : SwarmBooks) : Prop where
  discarded_unqueued : ∀ a ∈ b.history.discarded, b.scheduler.pending.has a = false
  discarded_known : ∀ a ∈ b.history.discarded, a ∈ b.scheduler.known
  unclaimed : ∀ a ∈ b.history.admitted, a ∉ b.history.claimed →
    b.scheduler.pending.has a = true ∨ a ∈ b.history.discarded
  starting : ∀ a, b.starting = some a →
    a ∈ b.history.claimed ∧ (a ∈ b.scheduler.running ∨ a ∈ b.history.completed)

/-- A claimed agent runs or has completed, or else it was discarded. -/
def Settled (b : SwarmBooks) (a : ActorId) : Prop :=
  (a ∈ b.scheduler.running ∨ a ∈ b.history.completed) ↔ a ∉ b.history.discarded

def AllSettled (b : SwarmBooks) : Prop := ∀ a ∈ b.history.claimed, b.starting ≠ some a → b.Settled a

theorem kept_same {t : SwarmScheduler} (hsame : b.scheduler.SameAgents t) (h : b.Kept) :
    Kept { b with scheduler := t } where
  discarded_unqueued x hx := (hsame.pending x).trans (h.discarded_unqueued x hx)
  discarded_known x hx := hsame.known ▸ h.discarded_known x hx
  unclaimed x hx hc := (h.unclaimed x hx hc).imp_left (hsame.pending x).trans
  starting x hx := ⟨(h.starting x hx).1, (h.starting x hx).2.imp_left fun hr => hsame.running ▸ hr⟩

theorem kept_admitAgent (a : ActorId) (manifest : AgentManifest) (now : ℚ) (h : b.Kept) :
    Kept { b with
      scheduler := (b.scheduler.admitAgent a manifest now).2, history := b.history.admitAgent b.scheduler a } := by
  unfold SwarmScheduler.admitAgent SwarmHistory.admitAgent
  by_cases ha : a ∈ b.scheduler.known
  · rw [if_pos ha, if_pos ha]
    exact h
  · rw [if_neg ha, if_neg ha]
    exact
      { discarded_unqueued := fun x hx => by
          have hne : x ≠ a := fun heq => ha (heq ▸ h.discarded_known x hx)
          rw [OrdMap.has_set, decide_eq_false hne, Bool.false_or]
          exact h.discarded_unqueued x hx
        discarded_known := fun x hx => Finset.mem_insert_of_mem (h.discarded_known x hx)
        unclaimed := fun x hx hc => by
          rw [OrdMap.has_set, Bool.or_eq_true, decide_eq_true_eq]
          rcases Finset.mem_insert.1 hx with rfl | hx
          · exact .inl (.inl rfl)
          · exact (h.unclaimed x hx hc).imp_left .inr
        starting := h.starting }

theorem kept_complete (a : ActorId) (turns : JsDouble) (h : b.Kept) :
    Kept { b with
      scheduler := b.scheduler.onCompleted a turns, history := b.history.complete b.scheduler a } := by
  unfold onCompleted SwarmHistory.complete
  by_cases ha : a ∈ b.scheduler.running
  · simp only [if_pos ha]
    refine { h with starting := fun x hx => ⟨(h.starting x hx).1, ?_⟩ }
    simp only [Finset.mem_insert, Finset.mem_erase]
    by_cases heq : x = a
    · exact .inr (.inl heq)
    · exact (h.starting x hx).2.imp (fun hr => ⟨heq, hr⟩) .inr
  · simp only [if_neg ha]
    exact { h with }

theorem kept_discard (a : ActorId) (haccounts : b.Accounts) (h : b.Kept) :
    Kept { b with scheduler := b.scheduler.discard a, history := b.history.discard b.scheduler a } := by
  unfold SwarmScheduler.discard SwarmHistory.discard
  by_cases ha : b.scheduler.pending.has a = true
  · rw [if_pos ha, if_pos ha]
    exact
      { h with
        discarded_unqueued := fun x hx => by
          rw [has_delete]
          rcases Finset.mem_insert.1 hx with rfl | hx
          · simp
          · rw [h.discarded_unqueued x hx, Bool.and_false]
        discarded_known := fun x hx => by
          rcases Finset.mem_insert.1 hx with rfl | hx
          · exact haccounts.pending_known x ha
          · exact h.discarded_known x hx
        unclaimed := fun x hx hc => by
          rw [has_delete, Bool.and_eq_true, decide_eq_true_eq, Finset.mem_insert]
          by_cases heq : x = a
          · exact .inr (.inl heq)
          · exact (h.unclaimed x hx hc).imp (fun hq => ⟨heq, hq⟩) .inr }
  · rw [if_neg ha, if_neg ha]
    exact h

theorem kept_claim {rest : List ActorId} (hnext : b.rest = a :: rest) (haccounts : b.Accounts) (h : b.Kept) :
    Kept { scheduler := b.scheduler.onStarted a, starting := some a, rest, history := b.history.claim a } := by
  have hunclaimed : a ∉ b.history.claimed := haccounts.rest_unclaimed a (hnext ▸ List.mem_cons_self)
  have hrunning : a ∉ b.scheduler.running := fun hr => hunclaimed (haccounts.running_claimed a hr)
  rw [onStarted_of_notMem hrunning]
  exact
    { discarded_unqueued := fun x hx => by rw [has_delete, h.discarded_unqueued x hx, Bool.and_false]
      discarded_known := h.discarded_known
      unclaimed := fun x hx hc => by
        simp only [SwarmHistory.claim, List.mem_append, List.mem_singleton, not_or] at hc
        rw [has_delete, Bool.and_eq_true, decide_eq_true_eq]
        exact (h.unclaimed x hx hc.1).imp_left fun hq => ⟨hc.2, hq⟩
      starting := fun x hx => by
        cases hx
        exact ⟨List.mem_append_right _ (List.mem_singleton_self a), .inl (Finset.mem_insert_self a _)⟩ }

theorem kept_release (a : ActorId) (h : b.Kept) :
    Kept { b with scheduler := b.scheduler.releaseSlot a, starting := none, rest := [] } := by
  unfold releaseSlot
  split <;> exact { h with starting := nofun }

theorem kept_move (hmove : Move b c) (haccounts : b.Accounts) (h : b.Kept) : c.Kept := by
  cases hmove with
  | same hsame => exact kept_same hsame h
  | admitAgent a manifest now => exact kept_admitAgent a manifest now h
  | complete a turns => exact kept_complete a turns h
  | discard a => exact kept_discard a haccounts h
  | claim _ hnext => exact kept_claim hnext haccounts h
  | release _ => exact kept_release _ h
  | select _ _ _ | drop _ => exact { h with }
  | settle _ => exact { h with starting := nofun }

theorem kept_moves (hmoves : Moves b c) (haccounts : b.Accounts) (h : b.Kept) : c.Kept := by
  induction hmoves with
  | refl => exact h
  | tail hmoves hmove ih => exact kept_move hmove (accounts_moves hmoves haccounts) ih

theorem move_settled (hmove : Move b c) (haccounts : b.Accounts) (hclaimed : a ∈ b.history.claimed)
    (hstarting : b.starting ≠ some a) :
    a ∈ c.history.claimed ∧ c.starting ≠ some a ∧ (c.Settled a ↔ b.Settled a) := by
  cases hmove with
  | same hsame =>
      refine ⟨hclaimed, hstarting, ?_⟩
      simp only [Settled, hsame.running]
  | admitAgent x manifest now =>
      unfold SwarmScheduler.admitAgent SwarmHistory.admitAgent
      split <;> exact ⟨hclaimed, hstarting, .rfl⟩
  | complete x turns =>
      unfold onCompleted SwarmHistory.complete
      split
      · rename_i hx
        refine ⟨hclaimed, hstarting, ?_⟩
        simp only [Settled, Finset.mem_insert, Finset.mem_erase]
        by_cases heq : a = x
        · simp [heq, hx]
        · simp [heq]
      · exact ⟨hclaimed, hstarting, .rfl⟩
  | discard x =>
      unfold SwarmScheduler.discard SwarmHistory.discard
      split
      · rename_i hx
        have hne : a ≠ x := by
          rintro rfl
          rw [haccounts.claimed_unqueued a hclaimed] at hx
          cases hx
        refine ⟨hclaimed, hstarting, ?_⟩
        simp only [Settled, Finset.mem_insert, hne, false_or]
      · exact ⟨hclaimed, hstarting, .rfl⟩
  | select _ _ _ | drop _ => exact ⟨hclaimed, hstarting, .rfl⟩
  | @claim x rest _ hnext =>
      have hne : a ≠ x := by
        rintro rfl
        exact haccounts.rest_unclaimed a (hnext ▸ List.mem_cons_self) hclaimed
      refine ⟨List.mem_append_left _ hclaimed, fun heq => hne (Option.some.inj heq).symm, ?_⟩
      have hrunning : a ∈ (b.scheduler.onStarted x).running ↔ a ∈ b.scheduler.running := by
        by_cases hx : x ∈ b.scheduler.running
        · rw [onStarted_of_mem hx]
        · rw [onStarted_of_notMem hx]
          simp [hne]
      simp only [Settled, SwarmHistory.claim, hrunning]
  | settle _ => exact ⟨hclaimed, (Option.some_ne_none a).symm, .rfl⟩
  | @release x hx =>
      have hne : a ≠ x := by
        rintro rfl
        exact hstarting hx
      refine ⟨hclaimed, (Option.some_ne_none a).symm, ?_⟩
      unfold releaseSlot
      split
      · simp only [Settled, Finset.mem_erase, ne_eq, hne, not_false_eq_true, true_and]
      · exact .rfl

theorem moves_settled (hmoves : Moves b c) (haccounts : b.Accounts) (hclaimed : a ∈ b.history.claimed)
    (hstarting : b.starting ≠ some a) :
    a ∈ c.history.claimed ∧ c.starting ≠ some a ∧ (c.Settled a ↔ b.Settled a) := by
  induction hmoves with
  | refl => exact ⟨hclaimed, hstarting, .rfl⟩
  | tail hmoves hmove ih =>
      obtain ⟨hc, hs, hiff⟩ := ih
      obtain ⟨hc', hs', hiff'⟩ := move_settled hmove (accounts_moves hmoves haccounts) hc hs
      exact ⟨hc', hs', hiff'.trans hiff⟩

theorem settled_starting {s : ClusterSupervisor} {h : SwarmHistory} {pass : DispatchPass}
    (hpass : s.dispatching = some pass) (haccounts : (ofSupervisor s h).Accounts) (hkept : (ofSupervisor s h).Kept) :
    (s.settled pass h).Settled pass.starting ↔
      if pass.failed ∧ pass.starting ∈ s.scheduler.running then pass.starting ∈ h.discarded
      else pass.starting ∉ h.discarded := by
  obtain ⟨-, hlive⟩ := hkept.starting pass.starting (by rw [ofSupervisor, hpass]; rfl)
  have hlive' : pass.starting ∈ s.scheduler.running ∨ pass.starting ∈ h.completed := hlive
  have hover : pass.starting ∈ h.completed → pass.starting ∉ s.scheduler.running :=
    haccounts.completed_over pass.starting
  unfold ClusterSupervisor.settled
  cases hfailed : pass.failed with
  | false => simp [Settled, hlive']
  | true =>
      by_cases hrunning : pass.starting ∈ s.scheduler.running
      · have hnot : pass.starting ∉ h.completed := fun hc => hover hc hrunning
        simp [Settled, releaseSlot, hrunning, hnot]
      · have hcompleted : pass.starting ∈ h.completed := hlive'.resolve_left hrunning
        simp [Settled, releaseSlot, hrunning, hcompleted]

end SwarmBooks

namespace ClusterSupervisor

open SwarmBooks

variable {registry : ConditionEvaluatorRegistry} {s t : ClusterSupervisor} {h : SwarmHistory}
  {event : ClusterEvent} {a : ActorId} {p q : ClusterSupervisor × SwarmHistory}

theorem mem_claimed_next (ha : a ∈ (h.next s event t).claimed) :
    a ∈ h.claimed ∨ (ofSupervisor t (h.next s event t)).starting = some a := by
  have hclaim : a ∈ (h.claimOf t).claimed → a ∈ h.claimed ∨ t.dispatching.map (·.starting) = some a := by
    intro ha
    unfold SwarmHistory.claimOf at ha
    split at ha
    · exact .inl ha
    · rename_i pass hpass
      rcases List.mem_append.1 ha with ha | ha
      · exact .inl ha
      · rw [hpass, List.mem_singleton.1 ha]
        exact .inr rfl
  have hcomplete : ∀ x, (h.complete s.scheduler x).claimed = h.claimed := by
    intro x
    unfold SwarmHistory.complete
    split <;> rfl
  have hdiscard : ∀ (k : SwarmHistory) x, (k.discard s.scheduler x).claimed = k.claimed := by
    intro k x
    unfold SwarmHistory.discard
    split <;> rfl
  unfold SwarmHistory.next at ha
  cases event with
  | startSettles listenerThrows reportAt outcome => exact hclaim ha
  | dispatchPending budgetAt sortAt reportAt outcome =>
      dsimp only at ha
      split at ha
      · exact .inl ha
      · exact hclaim ha
  | activated x manifest now =>
      refine .inl ?_
      dsimp only [SwarmHistory.admitAgent] at ha
      split at ha <;> exact ha
  | agentComplete x turns => exact .inl (hcomplete x ▸ ha)
  | signalDone x =>
      refine .inl ?_
      dsimp only at ha
      split at ha
      · exact hcomplete x ▸ ha
      · exact ha
  | retired x =>
      refine .inl ?_
      dsimp only at ha
      rw [hdiscard] at ha
      split at ha
      · exact hcomplete x ▸ ha
      · exact ha
  | start | stop | worldChanges _ | worldMoves | checkStall _ | waitForCompletion _ | poll _ _ => exact .inl ha

theorem dispatching_of_waits {pass : DispatchPass} (hstep : Step registry s event t) (hpass : s.dispatching = some pass)
    (hevent : ∀ listenerThrows reportAt outcome, event ≠ .startSettles listenerThrows reportAt outcome) :
    t.dispatching = some pass := by
  cases event with
  | startSettles listenerThrows reportAt outcome => exact absurd rfl (hevent _ _ _)
  | start | stop | worldChanges _ | worldMoves | activated _ _ _ | agentComplete _ _ =>
      cases hstep
      exact hpass
  | signalDone x =>
      cases hstep
      unfold onSignalDoneChange
      split <;> exact hpass
  | retired x =>
      cases hstep
      dsimp only [onAgentRetired]
      split <;> exact hpass
  | dispatchPending budgetAt sortAt reportAt outcome =>
      cases hstep
      rw [dispatchPending, if_pos (by simp [hpass])]
      exact hpass
  | checkStall now =>
      cases hstep
      exact (checkStall_same s now).1.trans hpass
  | waitForCompletion now =>
      cases hstep
      exact (waitForCompletion_same s now).1.trans hpass
  | poll reportAt now =>
      unfold Step next? at hstep
      dsimp only at hstep
      split at hstep
      · cases hstep
      · cases hstep
        exact (poll_same s reportAt now).1.trans hpass

theorem step_allSettled (hstep : Recorded registry p event q) (haccounts : (ofSupervisor p.1 p.2).Accounts)
    (hkept : (ofSupervisor p.1 p.2).Kept) :
    (ofSupervisor q.1 q.2).AllSettled ↔ (ofSupervisor p.1 p.2).AllSettled ∧ SettlesInOrder p event := by
  obtain ⟨s, h⟩ := p
  obtain ⟨t, k⟩ := q
  obtain ⟨hnext, hk⟩ := hstep
  change k = h.next s event t at hk
  subst hk
  change Step registry s event t at hnext
  change (ofSupervisor s h).Accounts at haccounts
  change (ofSupervisor s h).Kept at hkept
  have hmoves := step_moves (h := h) hnext haccounts.keyed
  have hback : (ofSupervisor t (h.next s event t)).AllSettled → (ofSupervisor s h).AllSettled := by
    intro hall x hx hover
    obtain ⟨hclaimed, hover', hiff⟩ := moves_settled hmoves haccounts hx hover
    exact hiff.1 (hall x hclaimed hover')
  by_cases hevent : ∃ listenerThrows reportAt outcome, event = .startSettles listenerThrows reportAt outcome
  · obtain ⟨listenerThrows, reportAt, outcome, rfl⟩ := hevent
    obtain ⟨pass, hpass, rfl⟩ := Option.map_eq_some_iff.1 hnext
    have hfirst := settled_move (h := h) hpass
    have hrest := @afterStart_moves s h pass listenerThrows reportAt outcome
    have hstarting : (ofSupervisor s h).starting = some pass.starting := by rw [ofSupervisor, hpass]; rfl
    have hfree : (s.settled pass h).starting = none := by unfold settled; split <;> rfl
    have hsame : (s.settled pass h).history = h := by unfold settled; split <;> rfl
    have hclaimed : pass.starting ∈ (s.settled pass h).history.claimed := by
      rw [hsame]
      exact (hkept.starting _ hstarting).1
    have hnone : (s.settled pass h).starting ≠ some pass.starting := by
      rw [hfree]
      exact (Option.some_ne_none _).symm
    obtain ⟨hc, ho, hiff⟩ := moves_settled hrest (accounts_move hfirst haccounts) hclaimed hnone
    have horder := settled_starting hpass haccounts hkept
    constructor
    · intro hall
      refine ⟨hback hall, fun pass' hpass' => ?_⟩
      cases hpass.symm.trans hpass'
      exact horder.1 (hiff.1 (hall _ hc ho))
    · rintro ⟨hall, horderly⟩ x hx hover
      rcases mem_claimed_next hx with hx | hx
      · by_cases heq : x = pass.starting
        · subst heq
          exact hiff.2 (horder.2 (horderly pass hpass))
        · have hne : (ofSupervisor s h).starting ≠ some x := by
            rw [hstarting]
            exact fun hs => heq (Option.some.inj hs).symm
          exact (moves_settled hmoves haccounts hx hne).2.2.2 (hall x hx hne)
      · exact absurd hx hover
  · have hother : ∀ listenerThrows reportAt outcome, event ≠ .startSettles listenerThrows reportAt outcome :=
      fun _ _ _ heq => hevent ⟨_, _, _, heq⟩
    have horder : SettlesInOrder (s, h) event := by
      cases event with
      | startSettles listenerThrows reportAt outcome => exact absurd rfl (hother _ _ _)
      | _ => trivial
    refine ⟨fun hall => ⟨hback hall, horder⟩, ?_⟩
    rintro ⟨hall, -⟩ x hx hover
    rcases mem_claimed_next hx with hx | hx
    · have hne : (ofSupervisor s h).starting ≠ some x := by
        intro hs
        obtain ⟨pass, hpass, hstarts⟩ := Option.map_eq_some_iff.1 hs
        refine hover ?_
        rw [ofSupervisor, dispatching_of_waits hnext hpass hother]
        exact congrArg some hstarts
      exact (moves_settled hmoves haccounts hx hne).2.2.2 (hall x hx hne)
    · exact absurd hx hover

theorem existsUnique_place :
    (∃! place : AgentPlace, place.Holds s h a) ↔
      (s.scheduler.pending.has a = true ∨ a ∈ s.scheduler.running ∨ a ∈ h.completed ∨ a ∈ h.discarded) ∧
        ∀ place place' : AgentPlace, place.Holds s h a → place'.Holds s h a → place = place' := by
  constructor
  · rintro ⟨place, hplace, honly⟩
    refine ⟨?_, fun _ _ h₁ h₂ => (honly _ h₁).trans (honly _ h₂).symm⟩
    cases place with
    | pending => exact .inl hplace
    | running => exact .inr (.inl hplace)
    | completed => exact .inr (.inr (.inl hplace))
    | discarded => exact .inr (.inr (.inr hplace))
  · rintro ⟨hplace | hplace | hplace | hplace, honly⟩
    · exact ⟨.pending, hplace, fun _ hother => honly _ .pending hother hplace⟩
    · exact ⟨.running, hplace, fun _ hother => honly _ .running hother hplace⟩
    · exact ⟨.completed, hplace, fun _ hother => honly _ .completed hother hplace⟩
    · exact ⟨.discarded, hplace, fun _ hother => honly _ .discarded hother hplace⟩

theorem conserved_iff (hidle : s.dispatching = none) (haccounts : (ofSupervisor s h).Accounts)
    (hkept : (ofSupervisor s h).Kept) : Conserved s h ↔ (ofSupervisor s h).AllSettled := by
  have hstarting : ∀ x, (ofSupervisor s h).starting ≠ some x := by
    intro x
    rw [ofSupervisor, hidle]
    exact (Option.some_ne_none x).symm
  constructor
  · intro hconserved x hx _
    have hadmitted : x ∈ h.admitted := (haccounts.admitted x).2 (haccounts.claimed_known x hx)
    have hqueued : s.scheduler.pending.has x = false := haccounts.claimed_unqueued x hx
    obtain ⟨hplace, honly⟩ := existsUnique_place.1 (hconserved x hadmitted)
    constructor
    · rintro (hlive | hlive) hgone
      · exact AgentPlace.noConfusion (honly .running .discarded hlive hgone)
      · exact AgentPlace.noConfusion (honly .completed .discarded hlive hgone)
    · intro hgone
      rcases hplace with hplace | hplace | hplace | hplace
      · rw [hqueued] at hplace
        cases hplace
      · exact .inl hplace
      · exact .inr hplace
      · exact absurd hplace hgone
  · intro hall x hx
    rw [existsUnique_place]
    by_cases hclaimed : x ∈ h.claimed
    · have hqueued : s.scheduler.pending.has x ≠ true := ne_true_of_eq_false (haccounts.claimed_unqueued x hclaimed)
      have hsettled : (x ∈ s.scheduler.running ∨ x ∈ h.completed) ↔ x ∉ h.discarded := hall x hclaimed (hstarting x)
      have hover : x ∈ h.completed → x ∉ s.scheduler.running := haccounts.completed_over x
      refine ⟨by tauto, fun place place' hplace hplace' => ?_⟩
      cases place <;> cases place' <;> simp only [AgentPlace.Holds] at hplace hplace' <;> first
        | rfl
        | tauto
    · have hrunning : x ∉ s.scheduler.running := fun hr => hclaimed (haccounts.running_claimed x hr)
      have hcompleted : x ∉ h.completed := fun hc => hclaimed (haccounts.completed_claimed x hc)
      have hdiscarded : x ∈ h.discarded → s.scheduler.pending.has x ≠ true := fun hd =>
        ne_true_of_eq_false (hkept.discarded_unqueued x hd)
      have hplace : s.scheduler.pending.has x = true ∨ x ∈ h.discarded := hkept.unclaimed x hx hclaimed
      refine ⟨by tauto, fun place place' hplace hplace' => ?_⟩
      cases place <;> cases place' <;> simp only [AgentPlace.Holds] at hplace hplace' <;> first
        | rfl
        | tauto

end ClusterSupervisor

section Runs

open SwarmBooks ClusterSupervisor

variable {registry : ConditionEvaluatorRegistry} {policy : Option SwarmSchedulerPolicyInput} {now : ℚ}
  {head : Option CollaborationSnapshot}

theorem kept_create : (ofSupervisor (.create policy now head) .start).Kept where
  discarded_unqueued := fun _ h => absurd h (Finset.notMem_empty _)
  discarded_known := fun _ h => absurd h (Finset.notMem_empty _)
  unclaimed := fun _ h => absurd h (Finset.notMem_empty _)
  starting := nofun

def BooksInOrder (p : ClusterSupervisor × SwarmHistory) : Prop :=
  (ofSupervisor p.1 p.2).Accounts ∧ (ofSupervisor p.1 p.2).Kept

theorem step_booksInOrder {p q : ClusterSupervisor × SwarmHistory} {event : ClusterEvent}
    (hstep : Recorded registry p event q) (h : BooksInOrder p) : BooksInOrder q := by
  refine ⟨step_accounts hstep h.1, ?_⟩
  obtain ⟨hnext, hhistory⟩ := hstep
  rw [hhistory]
  exact kept_moves (step_moves hnext h.1.keyed) h.1 h.2

theorem recorded_deterministic {p q q' : ClusterSupervisor × SwarmHistory} {event : ClusterEvent}
    (hstep : Recorded registry p event q) (hstep' : Recorded registry p event q') : q = q' := by
  obtain ⟨t, k⟩ := q
  obtain ⟨t', k'⟩ := q'
  obtain ⟨hnext, hk⟩ := hstep
  obtain ⟨hnext', hk'⟩ := hstep'
  cases Option.some.inj (hnext.symm.trans hnext')
  exact congrArg _ (hk.trans hk'.symm)

/-- In a run that ends between two passes no agent is lost, and none is in two places, exactly if every start
settles in order. -/
theorem swarm_conserves_iff (events : List ClusterEvent) (t : ClusterSupervisor) (k : SwarmHistory)
    (hrun : Run (Recorded registry) (.create policy now head, .start) events (t, k)) (hidle : t.dispatching = none) :
    (∀ pre post s h, events = pre ++ post → Run (Recorded registry) (.create policy now head, .start) pre (s, h) →
        s.dispatching = none → Conserved s h) ↔
      Run.Every (Recorded registry) (fun p event _ => SettlesInOrder p event)
        (.create policy now head, .start) events := by
  have hstart : BooksInOrder (.create policy now head, .start) := ⟨accounts_create policy now head, kept_create⟩
  have hbooks : ∀ {pre p}, Run (Recorded registry) (.create policy now head, .start) pre p → BooksInOrder p :=
    fun hpre => hpre.invariant (fun _ _ _ => step_booksInOrder) hstart
  constructor
  · intro h pre event post p q heq hpre hstep
    have hend := hbooks hrun
    have hall := (conserved_iff hidle hend.1 hend.2).1 (h events [] t k (List.append_nil _).symm hrun hidle)
    rw [heq] at hrun
    obtain ⟨p', hpre', hrest⟩ := Run.append_iff.1 hrun
    obtain ⟨q', hstep', hpost⟩ := Run.cons_iff.1 hrest
    cases @Run.deterministic _ _ (Recorded registry) _ _ _ _ (fun _ _ _ _ => recorded_deterministic) hpre hpre'
    cases recorded_deterministic hstep hstep'
    -- what is not settled after the step stays so up to the end
    by_contra hbad
    have hunsettled : ¬ (ofSupervisor q.1 q.2).AllSettled := fun hq =>
      hbad ((step_allSettled hstep (hbooks hpre).1 (hbooks hpre).2).1 hq).2
    have hlast := hpost.invariant (I := fun p => BooksInOrder p ∧ ¬ (ofSupervisor p.1 p.2).AllSettled)
      (fun p event q hstep hp => ⟨step_booksInOrder hstep hp.1, fun hq =>
        hp.2 ((step_allSettled hstep hp.1.1 hp.1.2).1 hq).1⟩) ⟨hbooks (hpre.snoc hstep), hunsettled⟩
    exact hlast.2 hall
  · rintro hevery pre post s h rfl hpre hpause
    have hsettled := hpre.invariant_of_every (I := fun p => BooksInOrder p ∧ (ofSupervisor p.1 p.2).AllSettled)
      hevery.front (fun p event q hstep hgood hp => ⟨step_booksInOrder hstep hp.1,
        (step_allSettled hstep hp.1.1 hp.1.2).2 ⟨hp.2, hgood⟩⟩)
      ⟨hstart, fun x hx => absurd hx List.not_mem_nil⟩
    exact (conserved_iff hpause (hbooks hpre).1 (hbooks hpre).2).2 hsettled.2

def oneStart (outcome : StartOutcome) : List ClusterEvent :=
  [.start, .activated "ada" startAtOnce 0, .dispatchPending 0 0 0 outcome, .startSettles false 0 .starts]

def emptySwarm : ClusterSupervisor := .create none 0 (some (emptySnapshot "s" "e"))

def placesAfter (events : List ClusterEvent) (a : ActorId) : Option (Bool × Bool × Bool × Bool × Bool × Bool) :=
  (events.foldlM (fun (p : ClusterSupervisor × SwarmHistory) event =>
      (p.1.next? createDefaultConditionRegistry event).map fun t => (t, p.2.next p.1 event t))
      (emptySwarm, .start)).map fun p =>
    (p.1.dispatching.isNone, a ∈ p.2.admitted, p.1.scheduler.pending.has a, a ∈ p.1.scheduler.running,
      a ∈ p.2.completed, a ∈ p.2.discarded)

/-- An agent whose start threw is in no place: nothing will ever start it. -/
theorem failed_start_loses_agent :
    ∃ s h, Run (Recorded createDefaultConditionRegistry) (emptySwarm, .start) (oneStart .throwsEarly) (s, h) ∧
      s.dispatching = none ∧ ¬ Conserved s h := by
  have hplaces : placesAfter (oneStart .throwsEarly) "ada" = some (true, true, false, false, false, false) := by
    decide +kernel
  obtain ⟨⟨s, h⟩, hfold, hat⟩ := Option.map_eq_some_iff.1 hplaces
  simp only [Prod.mk.injEq, decide_eq_true_eq, decide_eq_false_iff_not, Option.isNone_iff_eq_none] at hat
  obtain ⟨hidle, hadmitted, hpending, hrunning, hcompleted, hdiscarded⟩ := hat
  refine ⟨s, h, Run.recorded_of_foldlM hfold, hidle, fun hconserved => ?_⟩
  obtain ⟨place, hplace, -⟩ := hconserved "ada" hadmitted
  cases place with
  | pending => exact Bool.false_ne_true (hpending.symm.trans hplace)
  | running => exact hrunning hplace
  | completed => exact hcompleted hplace
  | discarded => exact hdiscarded hplace

theorem started_agent_settles :
    ∃ t k, Run (Recorded createDefaultConditionRegistry) (emptySwarm, .start) (oneStart .starts) (t, k) ∧
      ((∀ pre post s h, oneStart .starts = pre ++ post →
          Run (Recorded createDefaultConditionRegistry) (emptySwarm, .start) pre (s, h) → s.dispatching = none →
          Conserved s h) ↔
        Run.Every (Recorded createDefaultConditionRegistry) (fun p event _ => SettlesInOrder p event)
          (emptySwarm, .start) (oneStart .starts)) := by
  have hplaces : placesAfter (oneStart .starts) "ada" = some (true, true, false, true, false, false) := by
    decide +kernel
  obtain ⟨⟨t, k⟩, hfold, hat⟩ := Option.map_eq_some_iff.1 hplaces
  have hidle : t.dispatching = none := Option.isNone_iff_eq_none.1 (congrArg Prod.fst hat)
  have hrun := Run.recorded_of_foldlM hfold
  exact ⟨t, k, hrun, swarm_conserves_iff (oneStart .starts) t k hrun hidle⟩

end Runs

end Cantilune

/-!
## The ceilings of a swarm

A batch is selected once, against counters that move while its agents are claimed one by one. The agents still to
be claimed are counted with the running ones, so the ceilings hold through whatever happens in between.
-/

namespace Cantilune
namespace SwarmBooks

variable {b c : SwarmBooks}

theorem move_policy (hmove : Move b c) : c.scheduler.policy = b.scheduler.policy := by
  cases hmove with
  | same hsame => exact hsame.policy
  | admitAgent a manifest now =>
      unfold SwarmScheduler.admitAgent
      split <;> rfl
  | complete a turns =>
      dsimp only [SwarmScheduler.onCompleted]
      split <;> rfl
  | discard a =>
      unfold SwarmScheduler.discard
      split <;> rfl
  | claim _ _ =>
      dsimp only [SwarmScheduler.onStarted]
      split <;> rfl
  | release _ =>
      unfold SwarmScheduler.releaseSlot
      split <;> rfl
  | select _ _ _ | settle _ | drop _ => rfl

theorem moves_policy (hmoves : Moves b c) : c.scheduler.policy = b.scheduler.policy := by
  induction hmoves with
  | refl => rfl
  | tail _ hmove ih => exact (move_policy hmove).trans ih

theorem accounts_ceilings (h : b.Accounts) :
    JsDouble.exceeds b.scheduler.running.card (some b.scheduler.policy.maxConcurrentAgents.1) = false ∧
      JsDouble.exceeds b.scheduler.startedTotal (some b.scheduler.policy.maxTotalAgents.1) = false := by
  have hlength : (0 : ℚ) ≤ b.rest.length := Nat.cast_nonneg _
  exact ⟨JsDouble.exceeds_mono (by linarith) h.slots, JsDouble.exceeds_mono (by linarith) h.spawns⟩

end SwarmBooks

section Run

open SwarmBooks ClusterSupervisor

variable (registry : ConditionEvaluatorRegistry) (policy : Option SwarmSchedulerPolicyInput) (now : ℚ)
  (head : Option CollaborationSnapshot)

/-- At every state of a run the ceilings hold, the counted starts are the running and the completed agents, and
no agent has been started twice. -/
theorem swarm_keeps_ceilings (events : List ClusterEvent) (s : ClusterSupervisor) (h : SwarmHistory)
    (hrun : Run (Recorded registry) (.create policy now head, .start) events (s, h)) :
    JsDouble.exceeds s.scheduler.running.card (some (resolveSchedulerPolicy policy).maxConcurrentAgents.1) = false ∧
      JsDouble.exceeds s.scheduler.startedTotal (some (resolveSchedulerPolicy policy).maxTotalAgents.1) = false ∧
      s.scheduler.startedTotal = s.scheduler.running.card + h.completed.card ∧
      s.scheduler.completedTotal = h.completed.card ∧ h.claimed.Nodup := by
  have hstart : (ofSupervisor (.create policy now head) .start).Accounts ∧
      (ClusterSupervisor.create policy now head).scheduler.policy = resolveSchedulerPolicy policy :=
    ⟨accounts_create policy now head, rfl⟩
  have hinv := hrun.invariant (I := fun p => (ofSupervisor p.1 p.2).Accounts ∧
    p.1.scheduler.policy = resolveSchedulerPolicy policy) (fun p event q hstep hp => by
      refine ⟨step_accounts hstep hp.1, ?_⟩
      exact (moves_policy (step_moves (h := p.2) hstep.1 hp.1.keyed)).trans hp.2) hstart
  obtain ⟨haccounts, hpolicy⟩ := hinv
  dsimp only at hpolicy
  rw [← hpolicy]
  have htotal := haccounts.startedTotal
  rw [haccounts.completedTotal] at htotal
  exact ⟨(accounts_ceilings haccounts).1, (accounts_ceilings haccounts).2, htotal, haccounts.completedTotal,
    haccounts.claimed_once⟩

end Run

section Example

/-- Two agents and one slot: the second one starts when the first one is done. -/
def relay : List ClusterEvent :=
  [.start, .activated "ada" startAtOnce 0, .activated "bob" startAtOnce 0, .dispatchPending 0 0 0 .starts,
    .startSettles false 0 .starts, .agentComplete "ada" (.finite 4), .dispatchPending 0 0 0 .starts]

def oneSlot : SwarmSchedulerPolicyInput := { maxConcurrentAgents := some (.finite 1) }

def relayStart : ClusterSupervisor := .create (some oneSlot) 0 (some (emptySnapshot "s" "e"))

theorem relay_keeps_ceilings :
    ∃ s h, Run (ClusterSupervisor.Recorded createDefaultConditionRegistry) (relayStart, .start) relay (s, h) ∧
      s.scheduler.running = {"bob"} ∧ s.scheduler.startedTotal = s.scheduler.running.card + h.completed.card := by
  have hfold : (relay.foldlM (ClusterSupervisor.next? createDefaultConditionRegistry) relayStart).map (·.scheduler.running) =
      some {"bob"} := by decide +kernel
  obtain ⟨s, hs, hrunning⟩ := Option.map_eq_some_iff.1 hfold
  obtain ⟨h, hrun⟩ : ∃ h, Run (ClusterSupervisor.Recorded createDefaultConditionRegistry) (relayStart, .start) relay (s, h) :=
    (Run.of_foldlM hs).recorded SwarmHistory.start
  exact ⟨s, h, hrun, hrunning, (swarm_keeps_ceilings createDefaultConditionRegistry _ 0 _ relay s h hrun).2.2.1⟩

end Example

end Cantilune
