import Cantilune.Lemmas.SwarmScheduler
import Mathlib.Logic.Relation

/-!
# The books of a swarm

What a run of the supervisor has done with its agents, and the moves that its sections are made of: a section
admits, completes or discards an agent, selects a batch, claims the next agent of it, or settles a start.
-/

namespace Cantilune

/-- What has happened to the agents, the claims in their order. -/
structure SwarmHistory where
  admitted : Finset ActorId
  claimed : List ActorId
  completed : Finset ActorId
  discarded : Finset ActorId

namespace SwarmHistory

def start : SwarmHistory := { admitted := ∅, claimed := [], completed := ∅, discarded := ∅ }

variable (scheduler : SwarmScheduler) (h : SwarmHistory)

def admitAgent (a : ActorId) : SwarmHistory :=
  if a ∈ scheduler.known then h else { h with admitted := insert a h.admitted }

def complete (a : ActorId) : SwarmHistory :=
  if a ∈ scheduler.running then { h with completed := insert a h.completed } else h

def discard (a : ActorId) : SwarmHistory :=
  if scheduler.pending.has a then { h with discarded := insert a h.discarded } else h

def claim (a : ActorId) : SwarmHistory := { h with claimed := h.claimed ++ [a] }

def claimOf (t : ClusterSupervisor) : SwarmHistory :=
  match t.dispatching with
  | none => h
  | some pass => h.claim pass.starting

def next (s : ClusterSupervisor) (event : ClusterEvent) (t : ClusterSupervisor) (h : SwarmHistory) : SwarmHistory :=
  match event with
  | .activated a _ _ => h.admitAgent s.scheduler a
  | .agentComplete a _ => h.complete s.scheduler a
  | .signalDone a => if a ∈ s.agents then h.complete s.scheduler a else h
  | .retired a => (if a ∈ s.agents then h.complete s.scheduler a else h).discard s.scheduler a
  | .dispatchPending _ _ _ _ => if s.dispatching.isSome then h else h.claimOf t
  | .startSettles _ _ _ => h.claimOf t
  | _ => h

end SwarmHistory

/-- The scheduler with the agent that is being started, the rest of its batch, and the history. -/
structure SwarmBooks where
  scheduler : SwarmScheduler
  starting : Option ActorId
  rest : List ActorId
  history : SwarmHistory

namespace SwarmBooks

open SwarmScheduler

def ofSupervisor (s : ClusterSupervisor) (history : SwarmHistory) : SwarmBooks where
  scheduler := s.scheduler
  starting := s.dispatching.map (·.starting)
  rest := (s.dispatching.map fun pass => pass.rest.map (·.agentId)).getD []
  history := history

structure Batch (scheduler : SwarmScheduler) (batch : List ActorId) : Prop where
  nodup : batch.Nodup
  pending : ∀ a ∈ batch, scheduler.pending.has a = true
  slots : JsDouble.exceeds (scheduler.running.card + batch.length) (some scheduler.policy.maxConcurrentAgents.1) = false
  spawns : JsDouble.exceeds (scheduler.startedTotal + batch.length) (some scheduler.policy.maxTotalAgents.1) = false

inductive Move : SwarmBooks → SwarmBooks → Prop where
  | same {b : SwarmBooks} {t : SwarmScheduler} (same : b.scheduler.SameAgents t) : Move b { b with scheduler := t }
  | admitAgent {b : SwarmBooks} (a : ActorId) (manifest : AgentManifest) (now : ℚ) :
      Move b { b with
        scheduler := (b.scheduler.admitAgent a manifest now).2, history := b.history.admitAgent b.scheduler a }
  | complete {b : SwarmBooks} (a : ActorId) (turns : JsDouble) :
      Move b { b with
        scheduler := b.scheduler.onCompleted a turns, history := b.history.complete b.scheduler a }
  | discard {b : SwarmBooks} (a : ActorId) :
      Move b { b with scheduler := b.scheduler.discard a, history := b.history.discard b.scheduler a }
  | select {b : SwarmBooks} {batch : List ActorId} (idle : b.starting = none) (finished : b.rest = [])
      (ok : Batch b.scheduler batch) : Move b { b with rest := batch }
  | claim {b : SwarmBooks} {a : ActorId} {rest : List ActorId} (idle : b.starting = none) (next : b.rest = a :: rest) :
      Move b { scheduler := b.scheduler.onStarted a, starting := some a, rest, history := b.history.claim a }
  | settle {b : SwarmBooks} {a : ActorId} (starting : b.starting = some a) : Move b { b with starting := none }
  | release {b : SwarmBooks} {a : ActorId} (starting : b.starting = some a) :
      Move b { b with scheduler := b.scheduler.releaseSlot a, starting := none, rest := [] }
  | drop {b : SwarmBooks} (idle : b.starting = none) : Move b { b with rest := [] }

abbrev Moves := Relation.ReflTransGen Move

end SwarmBooks

/-! ## The moves of a section -/

namespace ClusterSupervisor

open SwarmBooks SwarmScheduler

variable {registry : ConditionEvaluatorRegistry} {s t : ClusterSupervisor} {event : ClusterEvent} {h : SwarmHistory}

theorem onCompleted_pending (scheduler : SwarmScheduler) (a : ActorId) (turns : JsDouble) :
    (scheduler.onCompleted a turns).pending = scheduler.pending := by
  dsimp only [onCompleted]
  split <;> rfl

theorem reportBudgetIfExhausted_scheduler (s : ClusterSupervisor) (now : ℚ) :
    (s.reportBudgetIfExhausted now).scheduler = s.scheduler := by
  unfold reportBudgetIfExhausted
  split <;> rfl

theorem reportBudgetIfExhausted_dispatching (s : ClusterSupervisor) (now : ℚ) :
    (s.reportBudgetIfExhausted now).dispatching = s.dispatching := by
  unfold reportBudgetIfExhausted
  split <;> rfl

theorem observeStall_sameAgents (scheduler : SwarmScheduler) (now : ℚ) :
    scheduler.SameAgents (scheduler.observeStall now).2 := by
  dsimp only [observeStall]
  split
  · exact ⟨rfl, fun _ => rfl, rfl, rfl, rfl, rfl, id⟩
  · split <;> exact ⟨rfl, fun _ => rfl, rfl, rfl, rfl, rfl, id⟩

theorem claimNext_scheduler (s : ClusterSupervisor) (decision : DispatchDecision) (rest : List DispatchDecision)
    (outcome : StartOutcome) :
    (s.claimNext decision rest outcome).scheduler = s.scheduler.onStarted decision.agentId := by
  unfold claimNext startAgent
  dsimp only
  split
  · rfl
  · cases outcome with
    | throwsEarly => rfl
    | throwsLate => exact onStarted_onStarted _ _
    | starts => exact onStarted_onStarted _ _

theorem claimOf_of_none (hnone : t.dispatching = none) : h.claimOf t = h := by
  rw [SwarmHistory.claimOf, hnone]

theorem claimNext_move (s : ClusterSupervisor) (decision : DispatchDecision) (rest : List DispatchDecision)
    (outcome : StartOutcome) (h : SwarmHistory) :
    Move { scheduler := s.scheduler, starting := none
           rest := decision.agentId :: rest.map (·.agentId), history := h }
      (ofSupervisor (s.claimNext decision rest outcome) (h.claimOf (s.claimNext decision rest outcome))) := by
  have hbooks : ofSupervisor (s.claimNext decision rest outcome) (h.claimOf (s.claimNext decision rest outcome)) =
      { scheduler := s.scheduler.onStarted decision.agentId, starting := some decision.agentId
        rest := rest.map (·.agentId), history := h.claim decision.agentId } := by
    rw [ofSupervisor, claimNext_scheduler]
    rfl
  rw [hbooks]
  exact .claim rfl rfl

theorem resolveTerminationReason_same (s : ClusterSupervisor) (now : ℚ) :
    (s.resolveTerminationReason now).2.dispatching = s.dispatching ∧
      s.scheduler.SameAgents (s.resolveTerminationReason now).2.scheduler := by
  unfold resolveTerminationReason
  split
  · exact ⟨rfl, .refl _⟩
  · split
    · exact ⟨rfl, .refl _⟩
    · split
      · exact ⟨rfl, .refl _⟩
      · exact ⟨rfl, observeStall_sameAgents _ _⟩

theorem leave_same (s : ClusterSupervisor) (now : ℚ) :
    (s.leave now).dispatching = s.dispatching ∧ s.scheduler.SameAgents (s.leave now).scheduler :=
  resolveTerminationReason_same s now

theorem waitForCompletion_same (s : ClusterSupervisor) (now : ℚ) :
    (s.waitForCompletion now).dispatching = s.dispatching ∧ s.scheduler.SameAgents (s.waitForCompletion now).scheduler := by
  unfold waitForCompletion
  split
  · exact ⟨rfl, .refl _⟩
  · exact leave_same s now

theorem poll_same (s : ClusterSupervisor) (reportAt now : ℚ) :
    (s.poll reportAt now).dispatching = s.dispatching ∧ s.scheduler.SameAgents (s.poll reportAt now).scheduler := by
  have hdispatching := reportBudgetIfExhausted_dispatching s reportAt
  have hscheduler := reportBudgetIfExhausted_scheduler s reportAt
  dsimp only [poll]
  split
  · exact ⟨hdispatching, hscheduler ▸ .refl _⟩
  · have hleave := leave_same { s.reportBudgetIfExhausted reportAt with
      waiters := (s.reportBudgetIfExhausted reportAt).waiters - 1 } now
    exact ⟨hleave.1.trans hdispatching, .trans (hscheduler ▸ .refl _) hleave.2⟩

theorem checkStall_same (s : ClusterSupervisor) (now : ℚ) :
    (s.checkStall now).dispatching = s.dispatching ∧ s.scheduler.SameAgents (s.checkStall now).scheduler := by
  have hobserve := observeStall_sameAgents s.scheduler now
  unfold checkStall
  split
  · exact ⟨rfl, .refl _⟩
  · dsimp only
    split <;> exact ⟨rfl, hobserve⟩

theorem moves_of_same (hsame : t.dispatching = s.dispatching ∧ s.scheduler.SameAgents t.scheduler) :
    Moves (ofSupervisor s h) (ofSupervisor t h) := by
  have hbooks : ofSupervisor t h = { ofSupervisor s h with scheduler := t.scheduler } := by
    rw [ofSupervisor, hsame.1]
    rfl
  rw [hbooks]
  exact .single (.same hsame.2)

theorem onAgentComplete_moves (a : ActorId) (turns : JsDouble) :
    Moves (ofSupervisor s h) (ofSupervisor (s.onAgentComplete a turns) (h.complete s.scheduler a)) :=
  .single (.complete (b := ofSupervisor s h) a turns)

theorem onSignalDoneChange_moves (a : ActorId) :
    Moves (ofSupervisor s h)
      (ofSupervisor (s.onSignalDoneChange a) (if a ∈ s.agents then h.complete s.scheduler a else h)) := by
  unfold onSignalDoneChange
  split
  · exact onAgentComplete_moves a _
  · exact .refl

theorem onAgentRetired_moves (a : ActorId) :
    Moves (ofSupervisor s h)
      (ofSupervisor (s.onAgentRetired a)
        ((if a ∈ s.agents then h.complete s.scheduler a else h).discard s.scheduler a)) := by
  have hretired : s.onAgentRetired a =
      { s.onSignalDoneChange a with scheduler := (s.onSignalDoneChange a).scheduler.discard a } := rfl
  have hpending : (s.onSignalDoneChange a).scheduler.pending = s.scheduler.pending := by
    unfold onSignalDoneChange
    split
    · exact onCompleted_pending _ _ _
    · rfl
  have hdiscard : ∀ k : SwarmHistory, k.discard s.scheduler a = k.discard (s.onSignalDoneChange a).scheduler a := by
    intro k
    rw [SwarmHistory.discard, SwarmHistory.discard, hpending]
  rw [hretired, hdiscard]
  exact (onSignalDoneChange_moves a).tail (.discard (b := ofSupervisor (s.onSignalDoneChange a) _) a)

theorem dispatchPending_moves {budgetAt sortAt reportAt : ℚ} {outcome : StartOutcome}
    (hkeyed : Keyed s.scheduler.pending) :
    Moves (ofSupervisor s h) (ofSupervisor (s.dispatchPending registry budgetAt sortAt reportAt outcome)
      (if s.dispatching.isSome then h
        else h.claimOf (s.dispatchPending registry budgetAt sortAt reportAt outcome))) := by
  unfold dispatchPending
  by_cases hidle : s.dispatching.isSome = true
  · rw [if_pos (by simp [hidle]), if_pos hidle]
  · have hnone : s.dispatching = none := by simpa using hidle
    rw [if_neg hidle]
    by_cases hrunning : s.running = true
    · rw [if_neg (by simp [hrunning, hnone])]
      cases hselect : s.scheduler.selectDispatchable registry s.head budgetAt sortAt with
      | mk batch scheduler =>
          obtain ⟨hsame, hbatch⟩ := selectDispatchable_spec hkeyed hselect
          have hselected : Moves (ofSupervisor s h) (ofSupervisor { s with scheduler } h) := .single (.same hsame)
          match batch, hbatch with
          | none, _ =>
              dsimp only
              rw [claimOf_of_none (t := { s with scheduler }) hnone]
              exact hselected
          | some [], _ =>
              have hdispatching := reportBudgetIfExhausted_dispatching { s with scheduler } reportAt
              dsimp only
              rw [claimOf_of_none (hdispatching.trans hnone)]
              refine hselected.trans (moves_of_same ⟨hdispatching, ?_⟩)
              rw [reportBudgetIfExhausted_scheduler]
              exact .refl _
          | some (decision :: rest), hbatch =>
              obtain ⟨hnodup, hpending, hslots, hspawns⟩ := hbatch _ rfl (List.cons_ne_nil _ _)
              have hbooks : ofSupervisor { s with scheduler } h =
                  { scheduler, starting := none, rest := [], history := h } := by
                rw [ofSupervisor, hnone]
                rfl
              have hfits : Batch scheduler ((decision :: rest).map (·.agentId)) := by
                refine ⟨hnodup, fun a ha => ?_, ?_, ?_⟩
                · obtain ⟨d, hd, rfl⟩ := List.mem_map.1 ha
                  exact (hsame.pending _).trans (hpending d hd)
                · rw [hsame.running, hsame.policy, List.length_map]
                  exact hslots
                · rw [hsame.startedTotal, hsame.policy, List.length_map]
                  exact hspawns
              rw [hbooks] at hselected
              exact (hselected.tail (.select rfl rfl hfits)).tail
                (claimNext_move { s with scheduler } decision rest outcome h)
    · rw [if_pos (by simp [hrunning]), claimOf_of_none hnone]

def settled (s : ClusterSupervisor) (pass : DispatchPass) (h : SwarmHistory) : SwarmBooks :=
  if pass.failed then
    { scheduler := s.scheduler.releaseSlot pass.starting, starting := none, rest := [], history := h }
  else { scheduler := s.scheduler, starting := none, rest := pass.rest.map (·.agentId), history := h }

theorem settled_move {pass : DispatchPass} (hpass : s.dispatching = some pass) :
    Move (ofSupervisor s h) (s.settled pass h) := by
  have hbooks : ofSupervisor s h =
      { scheduler := s.scheduler, starting := some pass.starting, rest := pass.rest.map (·.agentId), history := h } := by
    rw [ofSupervisor, hpass]
    rfl
  rw [hbooks, settled]
  split
  · exact .release rfl
  · exact .settle rfl

theorem afterStart_moves {pass : DispatchPass} {listenerThrows : Bool} {reportAt : ℚ} {outcome : StartOutcome} :
    Moves (s.settled pass h) (ofSupervisor (s.afterStart pass listenerThrows reportAt outcome)
      (h.claimOf (s.afterStart pass listenerThrows reportAt outcome))) := by
  unfold settled afterStart
  split
  · exact .refl
  · split
    · exact .single (.drop rfl)
    · split
      · rename_i hrest
        have hbooks : ofSupervisor { s.reportBudgetIfExhausted reportAt with dispatching := none }
            (h.claimOf { s.reportBudgetIfExhausted reportAt with dispatching := none }) =
              { scheduler := s.scheduler, starting := none, rest := [], history := h } := by
          rw [ofSupervisor, reportBudgetIfExhausted_scheduler]
          rfl
        rw [hbooks, hrest]
        exact .refl
      · rename_i decision rest hrest
        rw [hrest]
        exact .single (claimNext_move s decision rest outcome h)

theorem step_moves (hstep : Step registry s event t) (hkeyed : Keyed s.scheduler.pending) :
    Moves (ofSupervisor s h) (ofSupervisor t (h.next s event t)) := by
  cases event with
  | start | stop | worldChanges =>
      cases hstep
      exact .refl
  | worldMoves =>
      cases hstep
      exact .single (.same (b := ofSupervisor s h) ⟨rfl, fun _ => rfl, rfl, rfl, rfl, rfl, id⟩)
  | activated a manifest now =>
      cases hstep
      exact .single (.admitAgent (b := ofSupervisor s h) a manifest now)
  | agentComplete a turns =>
      cases hstep
      exact onAgentComplete_moves a turns
  | signalDone a =>
      cases hstep
      exact onSignalDoneChange_moves a
  | retired a =>
      cases hstep
      exact onAgentRetired_moves a
  | dispatchPending budgetAt sortAt reportAt outcome =>
      cases hstep
      exact dispatchPending_moves hkeyed
  | startSettles listenerThrows reportAt outcome =>
      obtain ⟨pass, hpass, rfl⟩ := Option.map_eq_some_iff.1 hstep
      exact .head (settled_move hpass) afterStart_moves
  | checkStall now =>
      cases hstep
      exact moves_of_same (checkStall_same s now)
  | waitForCompletion now =>
      cases hstep
      exact moves_of_same (waitForCompletion_same s now)
  | poll reportAt now =>
      unfold Step next? at hstep
      dsimp only at hstep
      split at hstep
      · cases hstep
      · cases hstep
        exact moves_of_same (poll_same s reportAt now)

end ClusterSupervisor

end Cantilune
