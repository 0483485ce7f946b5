import Cantilune.Lemmas.SwarmBooks

/-!
# The verdict on the budget

The verdict that the ceiling of agents ended the swarm is set as soon as a report reads the counter of starts at the
ceiling, whether or not an agent is left that the ceiling keeps from starting. It is justified exactly in the runs
in which no such report finds the queue without an agent that was refused.
-/

namespace Cantilune

def SwarmScheduler.selectedAgents (scheduler : SwarmScheduler) (registry : ConditionEvaluatorRegistry)
    (head : Option CollaborationSnapshot) (budgetAt sortAt : ℚ) : List ActorId :=
  ((scheduler.selectDispatchable registry head budgetAt sortAt).1.getD []).map (·.agentId)

def SwarmScheduler.withoutCeiling (scheduler : SwarmScheduler) : SwarmScheduler :=
  { scheduler with policy := { scheduler.policy with maxTotalAgents := ⟨.infinity, rfl⟩ } }

def SwarmScheduler.refusedAgents (scheduler : SwarmScheduler) (registry : ConditionEvaluatorRegistry)
    (head : Option CollaborationSnapshot) (budgetAt sortAt : ℚ) : Finset ActorId :=
  ((scheduler.withoutCeiling.selectedAgents registry head budgetAt sortAt).filter
    fun a => a ∉ scheduler.selectedAgents registry head budgetAt sortAt).toFinset

/-- The agents that were refused because of the ceiling, and whether one of them was pending when the verdict on
that ceiling was set. -/
structure VerdictHistory where
  refused : Finset ActorId
  justified : Bool

namespace ClusterSupervisor

def OverAgents (s : ClusterSupervisor) : Bool :=
  match s.terminal with
  | some (.budgetExhausted .agents _) => true
  | _ => false

def RefusesPending (s : ClusterSupervisor) (refused : Finset ActorId) : Prop :=
  ∃ a ∈ refused, s.scheduler.pending.has a = true

instance (s : ClusterSupervisor) (refused : Finset ActorId) : Decidable (s.RefusesPending refused) :=
  inferInstanceAs (Decidable (∃ a ∈ refused, _))

end ClusterSupervisor

namespace VerdictHistory

def start : VerdictHistory := { refused := ∅, justified := false }

def refusedAfter (registry : ConditionEvaluatorRegistry) (s : ClusterSupervisor) (event : ClusterEvent)
    (h : VerdictHistory) : Finset ActorId :=
  match event with
  | .dispatchPending budgetAt sortAt _ _ =>
      if !s.running || s.dispatching.isSome then h.refused
      else h.refused ∪ s.scheduler.refusedAgents registry s.head budgetAt sortAt
  | _ => h.refused

def next (registry : ConditionEvaluatorRegistry) (s : ClusterSupervisor) (event : ClusterEvent)
    (t : ClusterSupervisor) (h : VerdictHistory) : VerdictHistory where
  refused := h.refusedAfter registry s event
  justified :=
    if !s.OverAgents && t.OverAgents then decide (s.RefusesPending (h.refusedAfter registry s event)) else h.justified

end VerdictHistory

namespace ClusterSupervisor

open SwarmScheduler

variable {registry : ConditionEvaluatorRegistry} {s t : ClusterSupervisor} {event : ClusterEvent}
  {h : VerdictHistory} {p q : ClusterSupervisor × VerdictHistory}

def VerdictJustified (s : ClusterSupervisor) (h : VerdictHistory) : Prop :=
  ∀ detail, s.terminal = some (.budgetExhausted .agents detail) ∨
    .terminal (.budgetExhausted .agents detail) ∈ s.ended → h.justified = true

def Reports (registry : ConditionEvaluatorRegistry) (s : ClusterSupervisor) : ClusterEvent → Prop
  | .poll _ _ => s.waiters ≠ 0
  | .dispatchPending budgetAt sortAt _ _ =>
      s.running = true ∧ s.dispatching = none ∧
        (s.scheduler.selectDispatchable registry s.head budgetAt sortAt).1 = some []
  | .startSettles listenerThrows _ _ =>
      ∃ pass, s.dispatching = some pass ∧ pass.failed = false ∧ listenerThrows = false ∧ pass.rest = []
  | _ => False

/-- A report that is the first to find the ceiling reached finds a refused agent pending. -/
def ReportsRefusal (registry : ConditionEvaluatorRegistry) (p : ClusterSupervisor × VerdictHistory)
    (event : ClusterEvent) : Prop :=
  p.1.Reports registry event → p.1.terminal = none →
    JsDouble.reaches p.1.scheduler.startedTotal (some p.1.scheduler.policy.maxTotalAgents.1) = true →
    p.1.RefusesPending (p.2.refusedAfter registry p.1 event)

/-! ## Reports -/

def AtCeiling (s : ClusterSupervisor) : Prop :=
  JsDouble.reaches s.scheduler.startedTotal (some s.scheduler.policy.maxTotalAgents.1) = true

theorem overAgents_iff : s.OverAgents = true ↔ ∃ detail, s.terminal = some (.budgetExhausted .agents detail) := by
  unfold OverAgents
  constructor
  · intro hover
    split at hover
    · rename_i detail hterminal
      exact ⟨detail, hterminal⟩
    · cases hover
  · rintro ⟨detail, hterminal⟩
    rw [hterminal]

theorem report_overAgents (now : ℚ) :
    (s.reportBudgetIfExhausted now).OverAgents = true ↔ s.OverAgents = true ∨ (s.terminal = none ∧ s.AtCeiling) := by
  unfold reportBudgetIfExhausted
  cases hterminal : s.terminal with
  | some verdict => simp [OverAgents, hterminal]
  | none =>
      have hnot : s.OverAgents = false := by rw [OverAgents, hterminal]
      unfold budget
      by_cases hceiling : s.AtCeiling
      · have hreaches : JsDouble.reaches s.scheduler.startedTotal (some s.scheduler.policy.maxTotalAgents.1) = true :=
          hceiling
        simp [hreaches, hceiling, OverAgents]
      · have hreaches : ¬ JsDouble.reaches s.scheduler.startedTotal (some s.scheduler.policy.maxTotalAgents.1) = true :=
          hceiling
        rw [if_neg hreaches]
        simp only [hceiling, and_false, or_false, hnot]
        split
        · rename_i hverdict
          split at hverdict
          · cases hverdict
            simp [OverAgents]
          · split at hverdict
            · cases hverdict
              simp [OverAgents]
            · cases hverdict
        · simp [hnot]

theorem report_ended (now : ℚ) : (s.reportBudgetIfExhausted now).ended = s.ended := by
  unfold reportBudgetIfExhausted
  split <;> rfl

theorem report_terminal {now : ℚ} {verdict : ClusterVerdict} (hterminal : s.terminal = some verdict) :
    (s.reportBudgetIfExhausted now).terminal = some verdict := by
  unfold reportBudgetIfExhausted
  rw [hterminal]
  exact hterminal

/-! ## Sections -/

theorem blockEligible_counters (scheduler : SwarmScheduler) (eligible : List MutablePending) :
    (scheduler.blockEligible eligible).startedTotal = scheduler.startedTotal ∧
      (scheduler.blockEligible eligible).policy = scheduler.policy := ⟨rfl, rfl⟩

theorem selectDispatchable_counters (registry : ConditionEvaluatorRegistry) (scheduler : SwarmScheduler) (head : Option CollaborationSnapshot)
    (budgetAt sortAt : ℚ) :
    (scheduler.selectDispatchable registry head budgetAt sortAt).2.startedTotal = scheduler.startedTotal ∧
      (scheduler.selectDispatchable registry head budgetAt sortAt).2.policy = scheduler.policy := by
  unfold selectDispatchable
  split
  · exact ⟨rfl, rfl⟩
  · dsimp only
    split
    · exact ⟨rfl, rfl⟩
    · exact ⟨rfl, rfl⟩
    · split
      · exact ⟨rfl, rfl⟩
      · exact blockEligible_counters _ _

def SameVerdict (s t : ClusterSupervisor) : Prop := t.terminal = s.terminal ∧ t.ended = s.ended

theorem sameVerdict_overAgents (hsame : s.SameVerdict t) : t.OverAgents = s.OverAgents := by
  rw [OverAgents, OverAgents, hsame.1]

theorem startAgent_sameVerdict (s : ClusterSupervisor) (a : ActorId) (outcome : StartOutcome) :
    s.SameVerdict (s.startAgent a outcome).2 := by
  unfold startAgent
  split
  · exact ⟨rfl, rfl⟩
  · cases outcome <;> exact ⟨rfl, rfl⟩

theorem claimNext_sameVerdict (s : ClusterSupervisor) (decision : DispatchDecision) (rest : List DispatchDecision)
    (outcome : StartOutcome) : s.SameVerdict (s.claimNext decision rest outcome) :=
  startAgent_sameVerdict { s with scheduler := s.scheduler.onStarted decision.agentId } decision.agentId outcome

theorem onSignalDoneChange_sameVerdict (s : ClusterSupervisor) (a : ActorId) :
    s.SameVerdict (s.onSignalDoneChange a) := by
  unfold onSignalDoneChange
  split <;> exact ⟨rfl, rfl⟩

theorem resolveTerminationReason_spec (now : ℚ) :
    s.SameVerdict (s.resolveTerminationReason now).2 ∧
      ∀ detail, (s.resolveTerminationReason now).1 = .terminal (.budgetExhausted .agents detail) →
        s.terminal = some (.budgetExhausted .agents detail) := by
  unfold resolveTerminationReason
  split
  · exact ⟨⟨rfl, rfl⟩, nofun⟩
  · split
    · rename_i verdict hterminal
      refine ⟨⟨rfl, rfl⟩, fun detail heq => ?_⟩
      exact hterminal.trans (congrArg some (ClusterTerminationReason.terminal.inj heq))
    · split
      · exact ⟨⟨rfl, rfl⟩, nofun⟩
      · exact ⟨⟨rfl, rfl⟩, nofun⟩

theorem leave_spec (now : ℚ) :
    (s.leave now).terminal = s.terminal ∧
      ∀ detail, .terminal (.budgetExhausted .agents detail) ∈ (s.leave now).ended →
        .terminal (.budgetExhausted .agents detail) ∈ s.ended ∨
          s.terminal = some (.budgetExhausted .agents detail) := by
  obtain ⟨⟨hterminal, hended⟩, hreason⟩ := @resolveTerminationReason_spec s now
  refine ⟨hterminal, fun detail hmem => ?_⟩
  rcases List.mem_append.1 (show _ ∈ (s.resolveTerminationReason now).2.ended ++
    [(s.resolveTerminationReason now).1] from hmem) with hmem | hmem
  · exact .inl (hended ▸ hmem)
  · exact .inr (hreason detail (List.mem_singleton.1 hmem).symm)

/-- What a section does to the verdict on the ceiling of agents and to the waiters. -/
structure VerdictStep (registry : ConditionEvaluatorRegistry) (s : ClusterSupervisor) (event : ClusterEvent)
    (t : ClusterSupervisor) : Prop where
  agents : t.OverAgents = true ↔ s.OverAgents = true ∨ (s.Reports registry event ∧ s.terminal = none ∧ s.AtCeiling)
  kept : ∀ verdict, s.terminal = some verdict → t.terminal = some verdict
  ended : ∀ detail, .terminal (.budgetExhausted .agents detail) ∈ t.ended →
    .terminal (.budgetExhausted .agents detail) ∈ s.ended ∨ t.terminal = some (.budgetExhausted .agents detail)

theorem verdictStep_of_same (hsame : s.SameVerdict t) (hreports : ¬ s.Reports registry event) :
    VerdictStep registry s event t where
  agents := by simp [sameVerdict_overAgents hsame, hreports]
  kept := fun _ h => hsame.1.trans h
  ended := fun _ h => .inl (hsame.2 ▸ h)

theorem verdictStep_of_report {now : ℚ} (hterminal : t.terminal = (s.reportBudgetIfExhausted now).terminal)
    (hended : t.ended = s.ended) (hreports : s.Reports registry event) : VerdictStep registry s event t where
  agents := by
    have hover : t.OverAgents = (s.reportBudgetIfExhausted now).OverAgents := by rw [OverAgents, OverAgents, hterminal]
    rw [hover, report_overAgents]
    simp [hreports]
  kept := fun _ h => hterminal.trans (report_terminal h)
  ended := fun _ h => .inl (hended ▸ h)

theorem dispatchPending_verdict {budgetAt sortAt reportAt : ℚ} {outcome : StartOutcome} :
    VerdictStep registry s (.dispatchPending budgetAt sortAt reportAt outcome)
      (s.dispatchPending registry budgetAt sortAt reportAt outcome) := by
  unfold dispatchPending
  split
  · rename_i hguard
    refine verdictStep_of_same ⟨rfl, rfl⟩ fun hreports => ?_
    simp [hreports.1, hreports.2.1] at hguard
  · rename_i hguard
    have hopen : s.running = true ∧ s.dispatching = none := by simpa using hguard
    obtain ⟨htotal, hpolicy⟩ := selectDispatchable_counters registry s.scheduler s.head budgetAt sortAt
    cases hselect : s.scheduler.selectDispatchable registry s.head budgetAt sortAt with
    | mk batch scheduler =>
        rw [hselect] at htotal hpolicy
        dsimp only at htotal hpolicy
        match batch with
        | none =>
            refine verdictStep_of_same ⟨rfl, rfl⟩ fun hreports => ?_
            have hbatch := hreports.2.2
            rw [hselect] at hbatch
            cases hbatch
        | some [] =>
            have hceiling : AtCeiling { s with scheduler } ↔ s.AtCeiling := by
              unfold AtCeiling
              dsimp only
              rw [htotal, hpolicy]
            have hreports : s.Reports registry (.dispatchPending budgetAt sortAt reportAt outcome) :=
              ⟨hopen.1, hopen.2, by rw [hselect]⟩
            constructor
            · dsimp only
              rw [report_overAgents, hceiling]
              simp [hreports, OverAgents]
            · exact fun verdict h => report_terminal h
            · intro detail hmem
              dsimp only at hmem
              rw [report_ended] at hmem
              exact .inl hmem
        | some (decision :: rest) =>
            refine verdictStep_of_same (claimNext_sameVerdict _ _ _ _) fun hreports => ?_
            have hbatch := hreports.2.2
            rw [hselect] at hbatch
            cases hbatch

theorem afterStart_verdict {pass : DispatchPass} {listenerThrows : Bool} {reportAt : ℚ} {outcome : StartOutcome}
    (hpass : s.dispatching = some pass) :
    VerdictStep registry s (.startSettles listenerThrows reportAt outcome)
      (s.afterStart pass listenerThrows reportAt outcome) := by
  have hreports : s.Reports registry (.startSettles listenerThrows reportAt outcome) ↔
      pass.failed = false ∧ listenerThrows = false ∧ pass.rest = [] := by
    constructor
    · rintro ⟨pass', hpass', h⟩
      cases hpass.symm.trans hpass'
      exact h
    · exact fun h => ⟨pass, hpass, h⟩
  unfold afterStart
  split
  · rename_i hfailed
    exact verdictStep_of_same ⟨rfl, rfl⟩ (by rw [hreports, hfailed]; simp)
  · rename_i hfailed
    split
    · rename_i hthrows
      exact verdictStep_of_same ⟨rfl, rfl⟩ (by rw [hreports, hthrows]; simp)
    · rename_i hthrows
      split
      · rename_i hrest
        refine @verdictStep_of_report _ s _ _ reportAt rfl (report_ended reportAt) ?_
        exact hreports.2 ⟨by simpa using hfailed, by simpa using hthrows, hrest⟩
      · rename_i decision rest hrest
        exact verdictStep_of_same (claimNext_sameVerdict _ _ _ _) (by rw [hreports, hrest]; simp)

theorem poll_verdict {reportAt now : ℚ} (hwaiters : s.waiters ≠ 0) :
    VerdictStep registry s (.poll reportAt now) (s.poll reportAt now) := by
  dsimp only [poll]
  split
  · exact verdictStep_of_report rfl (report_ended reportAt) hwaiters
  · obtain ⟨hterminal, hended⟩ := @leave_spec { s.reportBudgetIfExhausted reportAt with
      waiters := (s.reportBudgetIfExhausted reportAt).waiters - 1 } now
    have hreport := @verdictStep_of_report registry s { s.reportBudgetIfExhausted reportAt with
      waiters := (s.reportBudgetIfExhausted reportAt).waiters - 1 } (.poll reportAt now) reportAt rfl
      (report_ended reportAt) hwaiters
    constructor
    · rw [← hreport.agents, OverAgents, OverAgents, hterminal]
    · exact fun verdict h => hterminal.trans (hreport.kept verdict h)
    · intro detail hmem
      rcases hended detail hmem with hmem | hmem
      · exact (hreport.ended detail hmem).imp_right hterminal.trans
      · exact .inr (hterminal.trans hmem)

theorem step_verdict (hstep : Step registry s event t) : VerdictStep registry s event t := by
  cases event with
  | start | stop | worldChanges _ | worldMoves | activated _ _ _ | agentComplete _ _ =>
      cases hstep
      exact verdictStep_of_same ⟨rfl, rfl⟩ id
  | signalDone a =>
      cases hstep
      exact verdictStep_of_same (onSignalDoneChange_sameVerdict s a) id
  | retired a =>
      cases hstep
      exact verdictStep_of_same (onSignalDoneChange_sameVerdict s a) id
  | dispatchPending budgetAt sortAt reportAt outcome =>
      cases hstep
      exact dispatchPending_verdict
  | startSettles listenerThrows reportAt outcome =>
      obtain ⟨pass, hpass, rfl⟩ := Option.map_eq_some_iff.1 hstep
      exact afterStart_verdict hpass
  | checkStall now =>
      cases hstep
      unfold checkStall
      split
      · exact verdictStep_of_same ⟨rfl, rfl⟩ id
      · rename_i hterminal
        dsimp only
        split
        · constructor
          · simp [OverAgents, hterminal, Reports]
          · exact fun verdict h => by rw [hterminal] at h; cases h
          · exact fun detail h => .inl h
        · exact verdictStep_of_same ⟨rfl, rfl⟩ id
  | waitForCompletion now =>
      cases hstep
      unfold waitForCompletion
      split
      · exact verdictStep_of_same ⟨rfl, rfl⟩ id
      · obtain ⟨hterminal, hended⟩ := @leave_spec s now
        constructor
        · simp [OverAgents, hterminal, Reports]
        · exact fun verdict h => hterminal.trans h
        · exact fun detail h => (hended detail h).imp_right hterminal.trans
  | poll reportAt now =>
      unfold Step next? at hstep
      dsimp only at hstep
      split at hstep
      · cases hstep
      · rename_i hwaiters
        cases hstep
        exact poll_verdict hwaiters

/-! ## Runs -/

abbrev Judged (registry : ConditionEvaluatorRegistry) :
    ClusterSupervisor × VerdictHistory → ClusterEvent → ClusterSupervisor × VerdictHistory → Prop :=
  Run.Recorded (Step registry) (VerdictHistory.next registry)

def LeftWithVerdict (s : ClusterSupervisor) : Prop :=
  ∀ detail, .terminal (.budgetExhausted .agents detail) ∈ s.ended →
    s.terminal = some (.budgetExhausted .agents detail)

theorem step_leftWithVerdict (hstep : VerdictStep registry s event t) (h : s.LeftWithVerdict) : t.LeftWithVerdict := by
  intro detail hmem
  rcases hstep.ended detail hmem with hmem | hterminal
  · exact hstep.kept _ (h detail hmem)
  · exact hterminal

theorem verdictJustified_iff (hleft : s.LeftWithVerdict) :
    s.VerdictJustified h ↔ (s.OverAgents = true → h.justified = true) := by
  rw [overAgents_iff]
  constructor
  · rintro hjustified ⟨detail, hterminal⟩
    exact hjustified detail (.inl hterminal)
  · rintro hjustified detail (hterminal | hmem)
    · exact hjustified ⟨detail, hterminal⟩
    · exact hjustified ⟨detail, hleft detail hmem⟩

theorem step_verdictJustified_iff (hstep : Judged registry p event q) (hleft : p.1.LeftWithVerdict)
    (hjustified : p.1.VerdictJustified p.2) : q.1.VerdictJustified q.2 ↔ ReportsRefusal registry p event := by
  obtain ⟨hnext, hhistory⟩ := hstep
  have hverdict := step_verdict hnext
  rw [verdictJustified_iff (step_leftWithVerdict hverdict hleft), hhistory, VerdictHistory.next]
  rw [verdictJustified_iff hleft] at hjustified
  cases hover : p.1.OverAgents with
  | true =>
      have hterminal : p.1.terminal ≠ none := by
        obtain ⟨detail, h⟩ := overAgents_iff.1 hover
        rw [h]
        nofun
      simp only [ReportsRefusal, hterminal, false_implies, implies_true, iff_true, Bool.not_true, Bool.false_and]
      exact fun _ => hjustified hover
  | false =>
      simp only [Bool.not_false, Bool.true_and, hverdict.agents, hover, Bool.false_eq_true, false_or]
      constructor
      · intro h hreports hterminal hceiling
        have hq := hverdict.agents.2 (.inr ⟨hreports, hterminal, hceiling⟩)
        have hdecided := h ⟨hreports, hterminal, hceiling⟩
        simp only [hq, Bool.not_false, Bool.and_self, if_true, decide_eq_true_eq] at hdecided
        exact hdecided
      · rintro h ⟨hreports, hterminal, hceiling⟩
        have hq := hverdict.agents.2 (.inr ⟨hreports, hterminal, hceiling⟩)
        simp only [hq, Bool.not_false, Bool.and_self, if_true, decide_eq_true_eq]
        exact h hreports hterminal hceiling

end ClusterSupervisor

section Exact

open ClusterSupervisor

def oneAgent : SwarmSchedulerPolicyInput := { maxTotalAgents := some (.finite 1) }

def soleParticipant (status : ParticipationStatus) : CollaborationSnapshot :=
  withParticipant (emptySnapshot "s" "e") (participant "ada" .agent status)

def soleAgent : ClusterSupervisor := .create (some oneAgent) 0 (some (soleParticipant .active))

/-- The one agent that the ceiling allows is started, and later done; no other agent is there. -/
def soleRun : List ClusterEvent :=
  [.start, .activated "ada" startAtOnce 0, .waitForCompletion 0, .dispatchPending 0 0 0 .starts,
    .startSettles false 0 .starts, .poll 0 0, .agentComplete "ada" (.finite 3),
    .worldChanges (some (soleParticipant .done))]

end Exact

end Cantilune
