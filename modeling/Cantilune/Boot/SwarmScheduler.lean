import Cantilune.Base.JsDouble
import Cantilune.Core.StartCondition
import Mathlib.Data.Finset.Card
import Mathlib.Data.List.Sort

/-!
# The swarm scheduler

Activated participants are admitted to a queue, and their start conditions are asked again on every pass. A pass
selects a batch against the free slots and the remaining starts; the batch is then claimed one agent after the
other. The readings of the clock come in as arguments.
-/

namespace Cantilune

/-! ## The policy -/

/-- A limit is positive; infinity opts out. -/
abbrev SchedulerLimit := { x : JsDouble // x.Positive }

structure SwarmSchedulerPolicy where
  maxConcurrentAgents : SchedulerLimit
  maxTotalAgents : SchedulerLimit
  maxTotalTurns : SchedulerLimit
  maxWallClockMs : SchedulerLimit
  agingIntervalMs : SchedulerLimit
  stallTicksBeforeDeadlock : SchedulerLimit

structure SwarmSchedulerPolicyInput where
  maxConcurrentAgents : Option JsDouble := none
  maxTotalAgents : Option JsDouble := none
  maxTotalTurns : Option JsDouble := none
  maxWallClockMs : Option JsDouble := none
  agingIntervalMs : Option JsDouble := none
  stallTicksBeforeDeadlock : Option JsDouble := none

def schedulerLimit (n : Nat) (h : 0 < n := by decide) : SchedulerLimit :=
  ⟨.finite n, decide_eq_true (Nat.cast_pos.2 h)⟩

def defaultSchedulerPolicy : SwarmSchedulerPolicy where
  maxConcurrentAgents := schedulerLimit 8
  maxTotalAgents := schedulerLimit 256
  maxTotalTurns := schedulerLimit 10000
  maxWallClockMs := schedulerLimit 3600000
  agingIntervalMs := schedulerLimit 30000
  stallTicksBeforeDeadlock := schedulerLimit 3

def positiveOr (value : Option JsDouble) (fallback : SchedulerLimit) : SchedulerLimit :=
  match value with
  | none => fallback
  | some value => if h : value.Positive then ⟨value, h⟩ else fallback

def resolveSchedulerPolicy : Option SwarmSchedulerPolicyInput → SwarmSchedulerPolicy
  | none => defaultSchedulerPolicy
  | some input =>
      { maxConcurrentAgents := positiveOr input.maxConcurrentAgents defaultSchedulerPolicy.maxConcurrentAgents
        maxTotalAgents := positiveOr input.maxTotalAgents defaultSchedulerPolicy.maxTotalAgents
        maxTotalTurns := positiveOr input.maxTotalTurns defaultSchedulerPolicy.maxTotalTurns
        maxWallClockMs := positiveOr input.maxWallClockMs defaultSchedulerPolicy.maxWallClockMs
        agingIntervalMs := positiveOr input.agingIntervalMs defaultSchedulerPolicy.agingIntervalMs
        stallTicksBeforeDeadlock :=
          positiveOr input.stallTicksBeforeDeadlock defaultSchedulerPolicy.stallTicksBeforeDeadlock }

/-! ## The queue -/

/-- The fields of a manifest that scheduling reads. -/
structure AgentManifest where
  startCondition : StartConditionExpression
  priority : Option JsDouble

/-- A manifest without a condition or a priority of its own. -/
def startAtOnce : AgentManifest := { startCondition := alwaysCondition, priority := none }

def defaultAgentPriority : ℚ := 0

def manifestPriority (manifest : AgentManifest) : ℚ :=
  match manifest.priority with
  | some (.finite declared) => declared
  | _ => defaultAgentPriority

inductive PendingBlockReason where
  | conditionUnmet | slotUnavailable | budgetExhausted
  deriving DecidableEq

def PendingBlockReason.name : PendingBlockReason → String
  | .conditionUnmet => "condition_unmet"
  | .slotUnavailable => "slot_unavailable"
  | .budgetExhausted => "budget_exhausted"

structure MutablePending where
  agentId : ActorId
  manifest : AgentManifest
  enqueuedAt : ℚ
  basePriority : ℚ
  sequence : Nat
  blockedBy : PendingBlockReason
  evaluations : Nat

structure DispatchDecision where
  agentId : ActorId
  manifest : AgentManifest

inductive SwarmBudgetLimit where
  | agents | turns | wallClock
  deriving DecidableEq

/-- The numbers in the text of an exhausted budget: what was used, and the ceiling. -/
structure BudgetDetail where
  used : ℚ
  ceiling : JsDouble
  deriving DecidableEq

def BudgetDetail.text (print : JsDouble → String) (detail : BudgetDetail) : SwarmBudgetLimit → String
  | .agents => "started " ++ print (.finite detail.used) ++ " agents, ceiling is " ++ print detail.ceiling
  | .turns => "consumed " ++ print (.finite detail.used) ++ " turns, ceiling is " ++ print detail.ceiling
  | .wallClock => "elapsed " ++ print (.finite detail.used) ++ "ms, ceiling is " ++ print detail.ceiling ++ "ms"

inductive SwarmBudgetVerdict where
  | withinBudget
  | exhausted (limit : SwarmBudgetLimit) (detail : BudgetDetail)
  deriving DecidableEq

structure StallVerdict where
  stalled : Bool
  blocked : List MutablePending
  detail : String

/-- The counter of starts goes down as well, so it is an integer. -/
structure SwarmScheduler where
  policy : SwarmSchedulerPolicy
  startedAt : ℚ
  pending : OrdMap ActorId MutablePending
  running : Finset ActorId
  known : Finset ActorId
  sequenceCounter : Nat
  startedTotal : Int
  completedTotal : Nat
  consumedTurns : ℚ
  stallTicks : Nat
  worldMoved : Bool

namespace SwarmScheduler

def create (policy : Option SwarmSchedulerPolicyInput) (now : ℚ) : SwarmScheduler where
  policy := resolveSchedulerPolicy policy
  startedAt := now
  pending := .empty
  running := ∅
  known := ∅
  sequenceCounter := 0
  startedTotal := 0
  completedTotal := 0
  consumedTurns := 0
  stallTicks := 0
  worldMoved := false

variable (s : SwarmScheduler)

/-- Admits an agent once; `false` for one that is already known. -/
def admitAgent (agentId : ActorId) (manifest : AgentManifest) (now : ℚ) : Bool × SwarmScheduler :=
  if agentId ∈ s.known then (false, s)
  else
    (true,
      { s with
        known := insert agentId s.known
        pending := s.pending.set agentId
          { agentId, manifest, enqueuedAt := now, basePriority := manifestPriority manifest
            sequence := s.sequenceCounter, blockedBy := .conditionUnmet, evaluations := 0 }
        sequenceCounter := s.sequenceCounter + 1
        worldMoved := true })

/-- Drops a pending agent. It stays known. -/
def discard (agentId : ActorId) : SwarmScheduler :=
  if s.pending.has agentId then { s with pending := s.pending.delete agentId, worldMoved := true } else s

/-- Claims a slot; a repeated claim changes nothing. -/
def onStarted (agentId : ActorId) : SwarmScheduler :=
  let s := { s with pending := s.pending.delete agentId }
  if agentId ∈ s.running then s
  else
    { s with
      running := insert agentId s.running
      startedTotal := s.startedTotal + 1
      worldMoved := true }

def releaseSlot (agentId : ActorId) : SwarmScheduler :=
  if agentId ∈ s.running then
    { s with running := s.running.erase agentId, startedTotal := s.startedTotal - 1 }
  else s

/-- The turns that are charged: a finite positive number, or nothing. -/
def chargedTurns : JsDouble → ℚ
  | .finite turns => if 0 < turns then turns else 0
  | _ => 0

def onCompleted (agentId : ActorId) (turns : JsDouble) : SwarmScheduler :=
  let s := if agentId ∈ s.running then
      { s with running := s.running.erase agentId, completedTotal := s.completedTotal + 1 }
    else s
  { s with consumedTurns := s.consumedTurns + chargedTurns turns, worldMoved := true }

def noteWorldMovement : SwarmScheduler := { s with worldMoved := true }

def budget (now : ℚ) : SwarmBudgetVerdict :=
  if JsDouble.reaches s.startedTotal (some s.policy.maxTotalAgents.1) then
    .exhausted .agents { used := s.startedTotal, ceiling := s.policy.maxTotalAgents.1 }
  else if JsDouble.reaches s.consumedTurns (some s.policy.maxTotalTurns.1) then
    .exhausted .turns { used := s.consumedTurns, ceiling := s.policy.maxTotalTurns.1 }
  else if JsDouble.reaches (now - s.startedAt) (some s.policy.maxWallClockMs.1) then
    .exhausted .wallClock { used := now - s.startedAt, ceiling := s.policy.maxWallClockMs.1 }
  else .withinBudget

def availableSlots : JsDouble := s.policy.maxConcurrentAgents.1.room s.running.card

def remainingSpawns : JsDouble := s.policy.maxTotalAgents.1.room s.startedTotal

/-- The declared priority, raised by one for every completed aging interval. -/
def effectivePriority (entry : MutablePending) (now : ℚ) : ℚ :=
  let waited := now - entry.enqueuedAt
  match s.policy.agingIntervalMs.1 with
  | .finite interval => if waited ≤ 0 then entry.basePriority else entry.basePriority + ⌊waited / interval⌋
  | _ => entry.basePriority

def compareForDispatch (a b : MutablePending) (now : ℚ) : ℚ :=
  let byPriority := s.effectivePriority b now - s.effectivePriority a now
  if byPriority ≠ 0 then byPriority else a.sequence - b.sequence

def sortForDispatch (entries : List MutablePending) (now : ℚ) : List MutablePending :=
  entries.insertionSort fun a b => s.compareForDispatch a b now ≤ 0

/-- Asks the start conditions one after the other and marks the entries; the eligible entries, or `none` where
a condition throws. -/
def evaluateEntries (registry : ConditionEvaluatorRegistry) (snapshot : CollaborationSnapshot)
    (budget : SwarmBudgetVerdict) :
    List (ActorId × MutablePending) → OrdMap ActorId MutablePending →
      Option (List MutablePending) × OrdMap ActorId MutablePending
  | [], pending => (some [], pending)
  | (key, entry) :: entries, pending =>
      let entry := { entry with evaluations := entry.evaluations + 1 }
      match registry.evaluate snapshot entry.agentId entry.manifest.startCondition with
      | none => (none, pending.set key entry)
      | some false =>
          evaluateEntries registry snapshot budget entries
            (pending.set key { entry with blockedBy := .conditionUnmet })
      | some true =>
          match budget with
          | .exhausted _ _ =>
              evaluateEntries registry snapshot budget entries
                (pending.set key { entry with blockedBy := .budgetExhausted })
          | .withinBudget =>
              let entry := { entry with blockedBy := .slotUnavailable }
              let (eligible, pending) := evaluateEntries registry snapshot budget entries (pending.set key entry)
              (eligible.map (entry :: ·), pending)

/-- Marks the entries that no slot or no start is left for. -/
def blockEligible (eligible : List MutablePending) : SwarmScheduler :=
  let blockedBy : PendingBlockReason :=
    if s.remainingSpawns.Positive then .slotUnavailable else .budgetExhausted
  { s with
    pending := eligible.foldl (fun pending entry => pending.set entry.agentId { entry with blockedBy }) s.pending }

/-- The batch of a pass; `none` where a start condition throws. -/
def selectDispatchable (registry : ConditionEvaluatorRegistry) (snapshot : Option CollaborationSnapshot)
    (budgetAt sortAt : ℚ) : Option (List DispatchDecision) × SwarmScheduler :=
  match snapshot with
  | none => (some [], s)
  | some snapshot =>
      let (eligible, pending) :=
        evaluateEntries registry snapshot (s.budget budgetAt) s.pending.entries s.pending
      let s := { s with pending }
      match eligible with
      | none => (none, s)
      | some [] => (some [], s)
      | some eligible =>
          let batchSize := s.availableSlots.min s.remainingSpawns
          if batchSize.Positive then
            let batch := (s.sortForDispatch eligible sortAt).take (batchSize.sliceEnd eligible.length)
            (some (batch.map fun entry => { agentId := entry.agentId, manifest := entry.manifest }), s)
          else (some [], s.blockEligible eligible)

def pendingSnapshot (now : ℚ) : List MutablePending := s.sortForDispatch s.pending.values now

/-- Counts the observations in which nothing runs, something waits and the world stands still. -/
def observeStall (now : ℚ) : StallVerdict × SwarmScheduler :=
  let moved := s.worldMoved
  let s := { s with worldMoved := false }
  if moved || s.running.card ≠ 0 || s.pending.size = 0 then
    ({ stalled := false, blocked := [], detail := "" }, { s with stallTicks := 0 })
  else
    let s := { s with stallTicks := s.stallTicks + 1 }
    let blocked := s.pendingSnapshot now
    if s.policy.stallTicksBeforeDeadlock.1.gt (.finite s.stallTicks) then
      ({ stalled := false, blocked, detail := "" }, s)
    else
      let names := ", ".intercalate (blocked.map fun entry => entry.agentId ++ "(" ++ entry.blockedBy.name ++ ")")
      ({ stalled := true, blocked
         detail := "No agent is running and no pending agent can start after " ++ toString s.stallTicks ++
          " consecutive checks: " ++ names }, s)

end SwarmScheduler

end Cantilune
