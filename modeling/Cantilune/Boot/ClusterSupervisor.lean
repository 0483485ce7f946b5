import Cantilune.Boot.SwarmScheduler
import Cantilune.Base.Runs

/-!
# The cluster supervisor

The supervisor feeds the scheduler from the committed changes and starts the agents of a batch one after the other.
A section of its code runs up to the next `await`: what happens in between, the activations, completions and
retirements, the stall checks and the waiters, comes in as other events.
-/

namespace Cantilune

inductive ClusterVerdict where
  | stalled (detail : String)
  | budgetExhausted (limit : SwarmBudgetLimit) (detail : BudgetDetail)
  deriving DecidableEq

inductive ClusterTerminationReason where
  | completed
  | terminal (verdict : ClusterVerdict)
  | stopped
  deriving DecidableEq

/-- A pass that waits for the start of an agent. -/
structure DispatchPass where
  starting : ActorId
  failed : Bool
  rest : List DispatchDecision

structure ClusterSupervisor where
  scheduler : SwarmScheduler
  agents : Finset ActorId
  running : Bool
  dispatching : Option DispatchPass
  terminal : Option ClusterVerdict
  head : Option CollaborationSnapshot
  waiters : Nat
  ended : List ClusterTerminationReason

/-- How a start goes: it throws before the agent claims its slot again, or after that, or it does not throw. -/
inductive StartOutcome where
  | throwsEarly | throwsLate | starts
  deriving DecidableEq

namespace ClusterSupervisor

def create (policy : Option SwarmSchedulerPolicyInput) (now : ℚ) (head : Option CollaborationSnapshot) :
    ClusterSupervisor where
  scheduler := .create policy now
  agents := ∅
  running := false
  dispatching := none
  terminal := none
  head := head
  waiters := 0
  ended := []

variable (s : ClusterSupervisor)

/-! ## Dispatch -/

/-- The start of an agent, with whether it returns without an exception. -/
def startAgent (agentId : ActorId) (outcome : StartOutcome) : Bool × ClusterSupervisor :=
  if agentId ∈ s.agents then (true, s)
  else
    match outcome with
    | .throwsEarly => (false, s)
    | .throwsLate =>
        (false, { s with agents := insert agentId s.agents, scheduler := s.scheduler.onStarted agentId })
    | .starts =>
        (true, { s with agents := insert agentId s.agents, scheduler := s.scheduler.onStarted agentId })

/-- One round of the loop over the batch, up to the `await` of the start. -/
def claimNext (decision : DispatchDecision) (rest : List DispatchDecision) (outcome : StartOutcome) :
    ClusterSupervisor :=
  let s := { s with scheduler := s.scheduler.onStarted decision.agentId }
  let (started, s) := s.startAgent decision.agentId outcome
  { s with dispatching := some { starting := decision.agentId, failed := !started, rest } }

def reportBudgetIfExhausted (now : ℚ) : ClusterSupervisor :=
  match s.terminal, s.scheduler.budget now with
  | none, .exhausted limit detail => { s with terminal := some (.budgetExhausted limit detail) }
  | _, _ => s

/-- A pass up to its first `await`, or to its end. -/
def dispatchPending (registry : ConditionEvaluatorRegistry) (budgetAt sortAt reportAt : ℚ) (outcome : StartOutcome) :
    ClusterSupervisor :=
  if !s.running || s.dispatching.isSome then s
  else
    match s.scheduler.selectDispatchable registry s.head budgetAt sortAt with
    | (none, scheduler) => { s with scheduler }
    | (some [], scheduler) => { s with scheduler }.reportBudgetIfExhausted reportAt
    | (some (decision :: rest), scheduler) => { s with scheduler }.claimNext decision rest outcome

/-- A pass from the `await` of a start to that of the next one, or to its end. A start that threw ends the pass;
so does a listener that throws. -/
def afterStart (pass : DispatchPass) (listenerThrows : Bool) (reportAt : ℚ) (outcome : StartOutcome) :
    ClusterSupervisor :=
  if pass.failed then { s with scheduler := s.scheduler.releaseSlot pass.starting, dispatching := none }
  else if listenerThrows then { s with dispatching := none }
  else
    match pass.rest with
    | [] => { s.reportBudgetIfExhausted reportAt with dispatching := none }
    | decision :: rest => s.claimNext decision rest outcome

/-- The end of an agent's run, after its completion was submitted. -/
def onAgentComplete (agentId : ActorId) (turns : JsDouble) : ClusterSupervisor :=
  { s with agents := s.agents.erase agentId, scheduler := s.scheduler.onCompleted agentId turns }

def onSignalDoneChange (agentId : ActorId) : ClusterSupervisor :=
  if agentId ∈ s.agents then s.onAgentComplete agentId (.finite 0) else s

def onAgentRetired (agentId : ActorId) : ClusterSupervisor :=
  let s := if agentId ∈ s.agents then s.onAgentComplete agentId (.finite 0) else s
  { s with scheduler := s.scheduler.discard agentId }

/-! ## Waiting for the end -/

/-- No participant is active, registered or waiting. -/
def isClusterComplete : Bool :=
  match s.head with
  | none => true
  | some head =>
      head.participants.values.all fun p => p.status ≠ .active && p.status ≠ .registered && p.status ≠ .waiting

def resolveTerminationReason (now : ℚ) : ClusterTerminationReason × ClusterSupervisor :=
  if s.isClusterComplete then (.completed, s)
  else
    match s.terminal with
    | some verdict => (.terminal verdict, s)
    | none =>
        if !s.running then (.stopped, s)
        else
          let (verdict, scheduler) := s.scheduler.observeStall now
          (.terminal (.stalled verdict.detail), { s with scheduler })

/-- The condition of the loop in which a waiter polls. -/
def keepsWaiting : Bool := s.running && s.terminal.isNone && !s.isClusterComplete

/-- A waiter leaves with the reason. -/
def leave (now : ℚ) : ClusterSupervisor :=
  let (reason, s) := s.resolveTerminationReason now
  { s with ended := s.ended ++ [reason] }

def waitForCompletion (now : ℚ) : ClusterSupervisor :=
  if s.keepsWaiting then { s with waiters := s.waiters + 1 } else s.leave now

def poll (reportAt now : ℚ) : ClusterSupervisor :=
  let s := s.reportBudgetIfExhausted reportAt
  if s.keepsWaiting then s else { s with waiters := s.waiters - 1 }.leave now

def checkStall (now : ℚ) : ClusterSupervisor :=
  match s.terminal with
  | some _ => s
  | none =>
      let (verdict, scheduler) := s.scheduler.observeStall now
      if verdict.stalled then { s with scheduler, terminal := some (.stalled verdict.detail) }
      else { s with scheduler }

end ClusterSupervisor

inductive ClusterEvent where
  | start
  | stop
  | worldChanges (head : Option CollaborationSnapshot)
  | worldMoves
  | activated (agentId : ActorId) (manifest : AgentManifest) (now : ℚ)
  | agentComplete (agentId : ActorId) (turns : JsDouble)
  | signalDone (agentId : ActorId)
  | retired (agentId : ActorId)
  | dispatchPending (budgetAt sortAt reportAt : ℚ) (outcome : StartOutcome)
  | startSettles (listenerThrows : Bool) (reportAt : ℚ) (outcome : StartOutcome)
  | checkStall (now : ℚ)
  | waitForCompletion (now : ℚ)
  | poll (reportAt now : ℚ)

namespace ClusterSupervisor

/-- The section of an event. A start settles only in a pass, and only a waiter polls. -/
def next? (registry : ConditionEvaluatorRegistry) (s : ClusterSupervisor) : ClusterEvent → Option ClusterSupervisor
  | .start => some { s with running := true }
  | .stop => some { s with running := false }
  | .worldChanges head => some { s with head }
  | .worldMoves => some { s with scheduler := s.scheduler.noteWorldMovement }
  | .activated agentId manifest now => some { s with scheduler := (s.scheduler.admitAgent agentId manifest now).2 }
  | .agentComplete agentId turns => some (s.onAgentComplete agentId turns)
  | .signalDone agentId => some (s.onSignalDoneChange agentId)
  | .retired agentId => some (s.onAgentRetired agentId)
  | .dispatchPending budgetAt sortAt reportAt outcome =>
      some (s.dispatchPending registry budgetAt sortAt reportAt outcome)
  | .startSettles listenerThrows reportAt outcome =>
      s.dispatching.map fun pass => s.afterStart pass listenerThrows reportAt outcome
  | .checkStall now => some (s.checkStall now)
  | .waitForCompletion now => some (s.waitForCompletion now)
  | .poll reportAt now => if s.waiters = 0 then none else some (s.poll reportAt now)

def Step (registry : ConditionEvaluatorRegistry) (s : ClusterSupervisor) (event : ClusterEvent)
    (t : ClusterSupervisor) : Prop :=
  s.next? registry event = some t

end ClusterSupervisor

end Cantilune
