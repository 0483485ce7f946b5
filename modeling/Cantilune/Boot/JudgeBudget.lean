import Cantilune.Base.JsDouble
import Cantilune.Base.OrdMap

/-!
# The budget of the judge

Before a call of the judge its capacity is reserved, and afterwards the reservation is reconciled with what the
call used. Reservations are numbered by a counter of the module, which every policy of the process advances. The
readings of the clock come in as arguments.
-/

namespace Cantilune

structure JudgeBudgetLimits where
  maxJudgeCalls : Option JsDouble
  maxTokens : Option JsDouble
  maxCostUsd : Option JsDouble
  maxWallMs : Option JsDouble
  hardKillEnabled : Option Bool

structure JudgeBudgetReservation where
  reservationId : String
  reservedAt : ℚ
  estimatedTokens : ℚ
  estimatedCostUsd : ℚ
  deriving DecidableEq

structure JudgeBudgetReconcile where
  reservationId : String
  actualTokens : ℚ
  actualCostUsd : ℚ
  wallMs : ℚ
  deriving DecidableEq

structure JudgeBudgetEstimate where
  tokens : Option ℚ
  costUsd : Option ℚ
  deriving DecidableEq

/-- Why a reservation is refused, with the bound where one is named. -/
inductive ExhaustedReason where
  | hardKilled
  | maxJudgeCallsExceeded (bound : JsDouble)
  | maxJudgeCallsReached (bound : JsDouble)
  | maxTokensExceeded (bound : JsDouble)
  | maxCostUsdExceeded (bound : JsDouble)
  | maxWallMsExceeded (bound : JsDouble)
  deriving DecidableEq

/-- The text of a reason; the host prints the numbers. -/
def ExhaustedReason.text (print : JsDouble → String) : ExhaustedReason → String
  | .hardKilled => "judge budget hard-killed"
  | .maxJudgeCallsExceeded bound => "maxJudgeCalls " ++ print bound ++ " exceeded"
  | .maxJudgeCallsReached bound => "maxJudgeCalls " ++ print bound ++ " reached"
  | .maxTokensExceeded bound => "maxTokens " ++ print bound ++ " exceeded"
  | .maxCostUsdExceeded bound => "maxCostUsd " ++ print bound ++ " exceeded"
  | .maxWallMsExceeded bound => "maxWallMs " ++ print bound ++ " exceeded"

/-- The variables of a policy, and the counter of the module. -/
structure JudgeBudgetPolicy where
  reservationSeq : Nat
  calls : Nat
  tokens : ℚ
  costUsd : ℚ
  wallMs : ℚ
  hardKilled : Bool
  exhaustedReason : Option ExhaustedReason
  startedAt : ℚ
  openReservations : OrdMap String JudgeBudgetReservation

def createJudgeBudgetPolicy (reservationSeq : Nat) (now : ℚ) : JudgeBudgetPolicy where
  reservationSeq := reservationSeq
  calls := 0
  tokens := 0
  costUsd := 0
  wallMs := 0
  hardKilled := false
  exhaustedReason := none
  startedAt := now
  openReservations := .empty

namespace JudgeBudgetPolicy

variable (limits : JudgeBudgetLimits) (policy : JudgeBudgetPolicy)

def maybeHardKill (reason : ExhaustedReason) : JudgeBudgetPolicy :=
  if limits.hardKillEnabled = some false then policy
  else { policy with hardKilled := true, exhaustedReason := some reason }

def checkSpendCeilings (nextTokens nextCost now : ℚ) : Option ExhaustedReason :=
  if JsDouble.exceeds nextTokens limits.maxTokens then limits.maxTokens.map .maxTokensExceeded
  else if JsDouble.exceeds nextCost limits.maxCostUsd then limits.maxCostUsd.map .maxCostUsdExceeded
  else if JsDouble.exceeds (now - policy.startedAt) limits.maxWallMs then limits.maxWallMs.map .maxWallMsExceeded
  else none

/-- Reserves capacity. The clock is read for the ceilings and once more for the reservation. -/
def reserve (estimate : Option JudgeBudgetEstimate) (checkedAt reservedAt : ℚ) :
    Except ExhaustedReason JudgeBudgetReservation × JudgeBudgetPolicy :=
  if policy.hardKilled then
    (.error (policy.exhaustedReason.getD .hardKilled), policy)
  else if JsDouble.reaches policy.calls limits.maxJudgeCalls then
    let reason := (limits.maxJudgeCalls.map .maxJudgeCallsExceeded).getD .hardKilled
    (.error reason, policy.maybeHardKill limits reason)
  else
    let estTokens := (estimate.bind (·.tokens)).getD 0
    let estCost := (estimate.bind (·.costUsd)).getD 0
    match policy.checkSpendCeilings limits (policy.tokens + estTokens) (policy.costUsd + estCost) checkedAt with
    | some spendReason => (.error spendReason, policy.maybeHardKill limits spendReason)
    | none =>
        let reservationSeq := policy.reservationSeq + 1
        let reservation : JudgeBudgetReservation :=
          { reservationId := "jbud-" ++ toString reservationSeq, reservedAt
            estimatedTokens := estTokens, estimatedCostUsd := estCost }
        (.ok reservation,
          { policy with
            reservationSeq
            openReservations := policy.openReservations.set reservation.reservationId reservation })

/-- Counts a call and what it used. The reservation is dropped without a look at it. -/
def reconcile (input : JudgeBudgetReconcile) (checkedAt : ℚ) : JudgeBudgetPolicy :=
  let policy : JudgeBudgetPolicy :=
    { policy with
      openReservations := policy.openReservations.delete input.reservationId
      calls := policy.calls + 1
      tokens := policy.tokens + input.actualTokens
      costUsd := policy.costUsd + input.actualCostUsd
      wallMs := policy.wallMs + input.wallMs }
  let policy :=
    if JsDouble.reaches policy.calls limits.maxJudgeCalls then
      policy.maybeHardKill limits ((limits.maxJudgeCalls.map .maxJudgeCallsReached).getD .hardKilled)
    else policy
  match policy.checkSpendCeilings limits policy.tokens policy.costUsd checkedAt with
  | some spendReason => policy.maybeHardKill limits spendReason
  | none => policy

def isHardKilled (checkedAt : ℚ) : Bool × JudgeBudgetPolicy :=
  if policy.hardKilled then (true, policy)
  else if JsDouble.exceeds (checkedAt - policy.startedAt) limits.maxWallMs then
    (true, policy.maybeHardKill limits ((limits.maxWallMs.map .maxWallMsExceeded).getD .hardKilled))
  else (policy.hardKilled, policy)

end JudgeBudgetPolicy

/-! ## Callers of a policy -/

inductive JudgeBudgetCall where
  | reserve (estimate : Option JudgeBudgetEstimate) (checkedAt reservedAt : ℚ)
  | reconcile (input : JudgeBudgetReconcile) (checkedAt : ℚ)
  | isHardKilled (checkedAt : ℚ)
  /-- Another policy of the process grants a reservation. -/
  | reserveElsewhere
  deriving DecidableEq

/-- A policy with the reservations that it granted and the calls reconciled so far, the oldest first. -/
structure JudgeBudgetUse where
  policy : JudgeBudgetPolicy
  granted : List JudgeBudgetReservation
  reconciled : List JudgeBudgetReconcile

namespace JudgeBudgetUse

def fresh (reservationSeq : Nat) (startedAt : ℚ) : JudgeBudgetUse :=
  { policy := createJudgeBudgetPolicy reservationSeq startedAt, granted := [], reconciled := [] }

/-- The granted reservations that have not been reconciled. -/
def outstanding (s : JudgeBudgetUse) : List JudgeBudgetReservation :=
  s.granted.filter fun r => r.reservationId ∉ s.reconciled.map (·.reservationId)

/-- A reservation that was granted is reconciled at most once, with no more than its estimate. -/
inductive Step (limits : JudgeBudgetLimits) : JudgeBudgetUse → JudgeBudgetCall → JudgeBudgetUse → Prop where
  | granted {s : JudgeBudgetUse} {estimate : Option JudgeBudgetEstimate} {checkedAt reservedAt : ℚ}
      {reservation : JudgeBudgetReservation} {policy : JudgeBudgetPolicy}
      (ok : s.policy.reserve limits estimate checkedAt reservedAt = (.ok reservation, policy)) :
      Step limits s (.reserve estimate checkedAt reservedAt)
        { s with policy, granted := s.granted ++ [reservation] }
  | refused {s : JudgeBudgetUse} {estimate : Option JudgeBudgetEstimate} {checkedAt reservedAt : ℚ}
      {reason : ExhaustedReason} {policy : JudgeBudgetPolicy}
      (error : s.policy.reserve limits estimate checkedAt reservedAt = (.error reason, policy)) :
      Step limits s (.reserve estimate checkedAt reservedAt) { s with policy }
  | reconcile {s : JudgeBudgetUse} {reservation : JudgeBudgetReservation} {input : JudgeBudgetReconcile}
      {checkedAt : ℚ} (outstanding : reservation ∈ s.outstanding)
      (id : input.reservationId = reservation.reservationId)
      (tokens : input.actualTokens ≤ reservation.estimatedTokens)
      (cost : input.actualCostUsd ≤ reservation.estimatedCostUsd) :
      Step limits s (.reconcile input checkedAt)
        { s with policy := s.policy.reconcile limits input checkedAt, reconciled := s.reconciled ++ [input] }
  | isHardKilled {s : JudgeBudgetUse} {checkedAt : ℚ} :
      Step limits s (.isHardKilled checkedAt) { s with policy := (s.policy.isHardKilled limits checkedAt).2 }
  | reserveElsewhere {s : JudgeBudgetUse} :
      Step limits s .reserveElsewhere
        { s with policy := { s.policy with reservationSeq := s.policy.reservationSeq + 1 } }

end JudgeBudgetUse

end Cantilune
