import Mathlib.Data.List.Sort
import Mathlib.Data.Rat.Defs
import Mathlib.Algebra.Order.Field.Rat
import Mathlib.Data.Rat.Cast.Order
import Cantilune.Base.JsDouble
import Cantilune.Base.OrdMap

/-!
# Metric observations

The rows of a metric, and the pairs of a candidate's and a baseline's value that an analysis takes from them. Values
are rationals: no difference rounds.
-/

/-!
## Multiple comparison

The correction of p-values for several tests. The numbers are rationals: no operation rounds.
-/

namespace Cantilune

inductive MultipleComparisonMethod where
  | holm | bonferroni | none
  deriving DecidableEq

structure AdjustedTest where
  index : Nat
  rawP : ℚ
  adjustedP : ℚ
  rejected : Bool
  deriving DecidableEq

/-- A p-value with its place in the input. -/
structure RankedP where
  p : ℚ
  index : Nat
  deriving DecidableEq

/-- `a.p - b.p || a.index - b.index` -/
def RankedP.compare (a b : RankedP) : ℚ :=
  if a.p - b.p ≠ 0 then a.p - b.p else (a.index : ℚ) - (b.index : ℚ)

def RankedP.before (a b : RankedP) : Prop := a.compare b ≤ 0

instance : DecidableRel RankedP.before := fun a b => inferInstanceAs (Decidable (a.compare b ≤ 0))

def rankedPs (rawP : List ℚ) : List RankedP := rawP.zipIdx.map fun entry => ⟨entry.1, entry.2⟩

def holmOrder (rawP : List ℚ) : List RankedP := (rankedPs rawP).insertionSort RankedP.before

/-- The first loop, from rank `i` on: `running` is the largest candidate so far. -/
def adjustLoop (m : Nat) : List RankedP → Nat → ℚ → List (Option ℚ) → List (Option ℚ)
  | [], _, _, adjustedByIndex => adjustedByIndex
  | test :: order, i, running, adjustedByIndex =>
      let factor : ℚ := (m : ℚ) - (i : ℚ)
      let candidate := min 1 (test.p * factor)
      let running := max running candidate
      adjustLoop m order (i + 1) running (adjustedByIndex.set test.index (some running))

/-- The second loop, from rank `i` on. -/
def rejectLoop (m : Nat) (alpha : ℚ) : List RankedP → Nat → Bool → List Bool → List Bool
  | [], _, _, rejectedByIndex => rejectedByIndex
  | test :: order, i, reject, rejectedByIndex =>
      let threshold := alpha / ((m : ℚ) - (i : ℚ))
      if reject ∧ test.p ≤ threshold then
        rejectLoop m alpha order (i + 1) reject (rejectedByIndex.set test.index true)
      else rejectLoop m alpha order (i + 1) false rejectedByIndex

def adjustPvalues (rawP : List ℚ) (method : MultipleComparisonMethod) (alpha : ℚ) : List AdjustedTest :=
  let m := rawP.length
  if m = 0 then []
  else
    match method with
    | .none =>
        (rankedPs rawP).map fun test =>
          { index := test.index, rawP := test.p, adjustedP := test.p, rejected := decide (test.p ≤ alpha) }
    | .bonferroni =>
        (rankedPs rawP).map fun test =>
          let adjustedP := min 1 (test.p * (m : ℚ))
          { index := test.index, rawP := test.p, adjustedP, rejected := decide (adjustedP ≤ alpha) }
    | .holm =>
        let order := holmOrder rawP
        let adjustedByIndex := adjustLoop m order 0 0 (List.replicate m none)
        let rejectedByIndex := rejectLoop m alpha order 0 true (List.replicate m false)
        (rankedPs rawP).map fun test =>
          { index := test.index, rawP := test.p
            adjustedP := (adjustedByIndex[test.index]?.join).getD test.p
            rejected := (rejectedByIndex[test.index]?).getD false }

end Cantilune

namespace Cantilune

inductive MetricObservationStatus where
  | valid | invalid | missing | quarantined
  deriving DecidableEq

structure MetricObservation where
  metricRef : String
  caseRef : String
  subjectRef : String
  rawValue : Option JsDouble
  normalizedValue : Option JsDouble
  status : MetricObservationStatus
  deriving DecidableEq

def isObservationUsable (obs : MetricObservation) : Bool := obs.status = .valid

def finiteValue : Option JsDouble → Option ℚ
  | some (.finite value) => some value
  | _ => none

def numericValue (obs : MetricObservation) : Option ℚ :=
  (finiteValue obs.normalizedValue).or (finiteValue obs.rawValue)

/-- What a case has of each of the two subjects. -/
structure PairRow (V : Type) where
  baseline : Option V := none
  candidate : Option V := none

section PairByCase

variable {V : Type} (read : MetricObservation → Option V) (baselineRef candidateRef : String)

def recordObservation (byCase : OrdMap String (PairRow V)) (obs : MetricObservation) :
    OrdMap String (PairRow V) :=
  if isObservationUsable obs then
    match read obs with
    | none => byCase
    | some value =>
        let row := (byCase.get? obs.caseRef).getD {}
        let row := if obs.subjectRef = baselineRef then { row with baseline := some value } else row
        let row := if obs.subjectRef = candidateRef then { row with candidate := some value } else row
        byCase.set obs.caseRef row
  else byCase

def rowsByCase (observations : List MetricObservation) : OrdMap String (PairRow V) :=
  observations.foldl (recordObservation read baselineRef candidateRef) .empty

def completeRows (byCase : OrdMap String (PairRow V)) : List (String × V × V) :=
  byCase.entries.filterMap fun entry =>
    entry.2.baseline.bind fun baseline => entry.2.candidate.map fun candidate => (entry.1, baseline, candidate)

end PairByCase

structure CasePair where
  caseRef : String
  difference : ℚ
  deriving DecidableEq

def pairByCase (observations : List MetricObservation) (baselineRef candidateRef : String) : List CasePair :=
  (completeRows (rowsByCase numericValue baselineRef candidateRef observations)).map fun row =>
    { caseRef := row.1, difference := row.2.2 - row.2.1 }

structure AnalyzeObservationsInput where
  observations : List MetricObservation
  candidateSubjectRef : Option String
  baselineSubjectRef : Option String

def AnalyzeObservationsInput.pairs (input : AnalyzeObservationsInput) : List CasePair :=
  let usableRows := input.observations.filter isObservationUsable
  match input.baselineSubjectRef, input.candidateSubjectRef with
  | some baselineRef, some candidateRef => pairByCase usableRows baselineRef candidateRef
  | _, _ => []

end Cantilune
