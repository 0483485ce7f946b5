import Cantilune.Base.JsString
import Cantilune.Codec.Canonical
import Cantilune.Petri.Net

/-!
# Place invariants

The incidence matrix of a net, and the elimination that computes weights of places whose weighted tokens
are meant to stay the same.
-/

namespace Cantilune.Petri

structure WeightedPlace where
  placeId : String
  weight : Int
  deriving DecidableEq

structure PlaceInvariant where
  places : List WeightedPlace
  label : String
  deriving DecidableEq

abbrev Row := List Int

/-- One more for each arc out to the place with this index, one less for each arc in from there. An id that
several places have counts for the first of them. -/
def incidence (net : PetriNet) (transitionId : String) (index : Nat) : Int :=
  match classifyArcsForTransition net transitionId with
  | .error _ => 0
  | .ok classified =>
      (classified.outputs.countP fun arc => net.placeIds.idxOf arc.placeId = index : Nat) -
        (classified.inputs.countP fun arc => net.placeIds.idxOf arc.placeId = index : Nat)

def incidenceMatrix (net : PetriNet) : List Row :=
  (List.range net.places.length).map fun i => net.transitions.map fun t => incidence net t.id i

def dotColumn (row : Row) (A : List Row) (j : Nat) : Int :=
  ((List.range A.length).map fun k => row.getD k 0 * (A.getD k []).getD j 0).sum

def numTransitions (A : List Row) : Nat := (A.head?.map List.length).getD 0

def rowIsInvariant (row : Row) (A : List Row) : Bool :=
  if A.length = 0 then true
  else (List.range (numTransitions A)).all fun j => dotColumn row A j = 0

/-! ## The elimination -/

def seedIdentity (m : Nat) : List Row :=
  (List.range m).map fun i => (List.replicate m 0).set i 1

structure SignPartition where
  positives : List Nat
  negatives : List Nat
  zeros : List Nat

def partitionBySign (signed : List Int) : SignPartition where
  positives := (List.range signed.length).filter fun i => 0 < signed.getD i 0
  negatives := (List.range signed.length).filter fun i => signed.getD i 0 < 0
  zeros := (List.range signed.length).filter fun i => signed.getD i 0 = 0

/-- One row for each pair of a positive and a negative one, weighted so that the column cancels. -/
def combineOppositeSigned (B : List Row) (signed : List Int) (positives negatives : List Nat) (m : Nat) :
    List Row × List Nat :=
  let pairs := positives.flatMap fun pos => negatives.map fun neg => (pos, neg)
  (pairs.map fun e => (List.range m).map fun k =>
      (B.getD e.1 []).getD k 0 * (signed.getD e.2 0).natAbs + (B.getD e.2 []).getD k 0 * (signed.getD e.1 0).natAbs,
    pairs.flatMap fun e => [e.1, e.2])

def keepUnusedZeros (B : List Row) (zeros used : List Nat) : List Row :=
  (zeros.filter fun i => !used.contains i).map fun i => B.getD i []

/-- The quotient of two entries of a row, where it is a whole number above zero. -/
def wholeRatio (av bv : Int) : Option Int := if bv ∣ av ∧ 0 < av / bv then some (av / bv) else none

/-- Goes through two rows, with the ratio of the entries so far. -/
def sameRatio : List (Int × Int) → Option Int → Bool
  | [], ratio => ratio.isSome
  | (av, bv) :: rest, ratio =>
      if decide (av = 0) ≠ decide (bv = 0) then false
      else if av = 0 ∧ bv = 0 then sameRatio rest ratio
      else
        match wholeRatio av bv with
        | none => false
        | some r =>
            match ratio with
            | none => sameRatio rest (some r)
            | some known => if r = known then sameRatio rest (some known) else false

/-- Whether the first row is the second times a whole number above zero. -/
def isScalarMultiple (a b : Row) : Bool :=
  let aNonzero := a.filter (· ≠ 0)
  let bNonzero := b.filter (· ≠ 0)
  if aNonzero.length = 0 ∨ bNonzero.length = 0 then false
  else if aNonzero.length ≠ bNonzero.length then false
  else sameRatio ((List.range a.length).map fun i => (a.getD i 0, b.getD i 0)) none

/-- Drops a row that is a multiple of one kept, and the rows kept that are multiples of a new one. -/
def reduceRow (result : List Row) (row : Row) : List Row :=
  if result.any fun kept => isScalarMultiple row kept then result
  else (result.filter fun kept => !isScalarMultiple kept row) ++ [row]

def reduceRows (rows : List Row) : List Row := rows.foldl reduceRow []

/-- The candidate rows after one more column. -/
def eliminateColumn (A : List Row) (m : Nat) (B : List Row) (j : Nat) : List Row :=
  let signed := B.map fun row => dotColumn row A j
  let signs := partitionBySign signed
  if signs.positives.length = 0 ∨ signs.negatives.length = 0 then signs.zeros.map fun i => B.getD i []
  else
    let combined := combineOppositeSigned B signed signs.positives signs.negatives m
    reduceRows (keepUnusedZeros B signs.zeros combined.2 ++ combined.1)

def rowToInvariant (row : Row) (placeIds : List String) (placeNames : OrdMap String String) :
    Option PlaceInvariant :=
  let places := ((List.range placeIds.length).filter fun i => 0 < row.getD i 0).map fun i =>
    { placeId := placeIds.getD i "", weight := row.getD i 0 : WeightedPlace }
  if places.length = 0 then none
  else
    some
      { places
        label := " + ".intercalate (places.map fun p => (placeNames.get? p.placeId).getD p.placeId) }

section
variable (localeCompare : LocaleCompare)

/-- The weighted places in the order of their ids, as one text. -/
def signature (inv : PlaceInvariant) : String :=
  (String.singleton '|').intercalate
    ((inv.places.insertionSort fun a b => localeCompare a.placeId b.placeId ≤ 0).map fun p =>
      s!"{p.placeId}:{p.weight}")

/-- Takes an invariant up, unless its signature was seen before. -/
def dedupInvariant (state : List String × List PlaceInvariant) (inv : PlaceInvariant) :
    List String × List PlaceInvariant :=
  if state.1.contains (signature localeCompare inv) then state
  else (state.1 ++ [signature localeCompare inv], state.2 ++ [inv])

def dedupInvariants (invariants : List PlaceInvariant) : List PlaceInvariant :=
  (invariants.foldl (dedupInvariant localeCompare) ([], [])).2

def placeInvariants (net : PetriNet) : List PlaceInvariant :=
  let placeIds := net.placeIds
  let placeNames := OrdMap.ofList (net.places.map fun p => (p.id, p.name))
  if placeIds.length = 0 then []
  else
    let A := incidenceMatrix net
    let m := placeIds.length
    let B := (List.range (numTransitions A)).foldl (eliminateColumn A m) (seedIdentity m)
    let rows := B.filter fun row => !(row.all fun w => w = 0) && rowIsInvariant row A
    dedupInvariants localeCompare (rows.filterMap fun row => rowToInvariant row placeIds placeNames)

/-! ## Transition invariants -/

structure WeightedTransition where
  transitionId : String
  weight : Int
  deriving DecidableEq

structure TransitionInvariant where
  transitions : List WeightedTransition
  label : String
  deriving DecidableEq

/-- An invariant over the ids of transitions. The source writes the loop that collects the weights, the label and
the signature a second time for them. -/
def PlaceInvariant.overTransitions (inv : PlaceInvariant) : TransitionInvariant where
  transitions := inv.places.map fun p => { transitionId := p.placeId, weight := p.weight }
  label := inv.label

/-- A row for each of the `n` columns, with an entry for each row. -/
def transpose (n : Nat) (A : List Row) : List Row :=
  (List.range n).map fun j => (List.range A.length).map fun i => (A.getD i []).getD j 0

def PetriNet.transitionIds (net : PetriNet) : List String := net.transitions.map (·.id)

def transitionInvariants (net : PetriNet) : List TransitionInvariant :=
  let transitionIds := net.transitionIds
  let transitionNames := OrdMap.ofList (net.transitions.map fun t => (t.id, t.name))
  if transitionIds.length = 0 then []
  else
    let n := transitionIds.length
    let At := transpose n (incidenceMatrix net)
    let B := (List.range (numTransitions At)).foldl (eliminateColumn At n) (seedIdentity n)
    let rows := B.filter fun row => !(row.all fun w => w = 0) && rowIsInvariant row At
    (dedupInvariants localeCompare (rows.filterMap fun row => rowToInvariant row transitionIds transitionNames)).map
      PlaceInvariant.overTransitions

end

end Cantilune.Petri
