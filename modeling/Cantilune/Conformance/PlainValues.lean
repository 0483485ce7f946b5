import Cantilune.Conformance.CanonicalEncoding
import Cantilune.Syscall.ToolJournal

/-!
# Plain values

The values that are encoded, which unlike those of a JSON text may have members that are `undefined`. The encoding of
evidence leaves such members out; the normal form of tool arguments refuses them.
-/

namespace Cantilune

inductive PlainValue where
  | null
  | bool (b : Bool)
  | num (q : ℚ)
  | str (s : String)
  | arr (elems : List PlainValue)
  | obj (members : List (String × Option PlainValue))

namespace PlainValue

mutual
/-- The value without its members that are `undefined`. -/
def json : PlainValue → Json
  | .null => .null
  | .bool b => .bool b
  | .num q => .num q
  | .str s => .str s
  | .arr xs => .arr (jsonElems xs)
  | .obj ms => .obj (jsonMembers ms)

def jsonElems : List PlainValue → List Json
  | [] => []
  | x :: xs => x.json :: jsonElems xs

def jsonMembers : List (String × Option PlainValue) → List (String × Json)
  | [] => []
  | (_, none) :: ms => jsonMembers ms
  | (k, some x) :: ms => (k, x.json) :: jsonMembers ms
end

mutual
/-- No object names a member twice. -/
def Distinct : PlainValue → Prop
  | .arr xs => DistinctElems xs
  | .obj ms => (ms.map Prod.fst).Nodup ∧ DistinctMembers ms
  | _ => True

def DistinctElems : List PlainValue → Prop
  | [] => True
  | x :: xs => x.Distinct ∧ DistinctElems xs

def DistinctMembers : List (String × Option PlainValue) → Prop
  | [] => True
  | (_, none) :: ms => DistinctMembers ms
  | (_, some x) :: ms => x.Distinct ∧ DistinctMembers ms
end

mutual
/-- No member is `undefined`. -/
def Defined : PlainValue → Prop
  | .arr xs => DefinedElems xs
  | .obj ms => DefinedMembers ms
  | _ => True

def DefinedElems : List PlainValue → Prop
  | [] => True
  | x :: xs => x.Defined ∧ DefinedElems xs

def DefinedMembers : List (String × Option PlainValue) → Prop
  | [] => True
  | (_, none) :: _ => False
  | (_, some x) :: ms => x.Defined ∧ DefinedMembers ms
end

mutual
def WithinLimits (depth : Nat) : PlainValue → Prop
  | .arr xs => depth ≤ Conformance.maxDepth ∧ WithinLimitsElems (depth + 1) xs
  | .obj ms =>
      depth ≤ Conformance.maxDepth ∧ ms.length ≤ Conformance.maxKeys ∧ WithinLimitsMembers (depth + 1) ms
  | _ => depth ≤ Conformance.maxDepth

def WithinLimitsElems (depth : Nat) : List PlainValue → Prop
  | [] => True
  | x :: xs => x.WithinLimits depth ∧ WithinLimitsElems depth xs

def WithinLimitsMembers (depth : Nat) : List (String × Option PlainValue) → Prop
  | [] => True
  | (_, none) :: ms => WithinLimitsMembers depth ms
  | (_, some x) :: ms => x.WithinLimits depth ∧ WithinLimitsMembers depth ms
end

end PlainValue

/-- The entries whose value is not `undefined`. -/
def definedEntries (entries : List (String × Option Json)) : List (String × Json) :=
  entries.filterMap fun m => m.2.map fun x => (m.1, x)

namespace Conformance

mutual
/-- `canonicalizeJson` of a value with members that may be `undefined`, which count as keys and are then left out. -/
def canonicalizeValue (localeCompare : LocaleCompare) (depth : Nat) : PlainValue → Option Json
  | .null => if maxDepth < depth then none else some .null
  | .bool b => if maxDepth < depth then none else some (.bool b)
  | .num q => if maxDepth < depth then none else some (.num q)
  | .str s => if maxDepth < depth then none else some (.str s)
  | .arr xs =>
      if maxDepth < depth then none
      else (canonicalizeValues localeCompare (depth + 1) xs).map .arr
  | .obj ms =>
      if maxDepth < depth then none
      else if maxKeys < ms.length then none
      else
        (canonicalizeEntries localeCompare (depth + 1) ms).map fun ns =>
          assignMembers (definedEntries (ns.insertionSort fun a b => localeCompare a.1 b.1 ≤ 0))

def canonicalizeValues (localeCompare : LocaleCompare) (depth : Nat) : List PlainValue → Option (List Json)
  | [] => some []
  | x :: xs => do return (← canonicalizeValue localeCompare depth x) :: (← canonicalizeValues localeCompare depth xs)

def canonicalizeEntries (localeCompare : LocaleCompare) (depth : Nat) :
    List (String × Option PlainValue) → Option (List (String × Option Json))
  | [] => some []
  | (k, none) :: ms => do return (k, none) :: (← canonicalizeEntries localeCompare depth ms)
  | (k, some x) :: ms => do
      return (k, some (← canonicalizeValue localeCompare depth x)) :: (← canonicalizeEntries localeCompare depth ms)
end

/-- `canonicalJsonBytes` of such a value. -/
def canonicalValueBytes (host : EvidenceHost) (value : PlainValue) : Option ByteArray :=
  (canonicalizeValue host.localeCompare 0 value).map fun canonical => (canonical.stringify host.print).toUTF8

end Conformance

mutual
/-- `canonicalJson` of a value with members that may be `undefined`; `none` where it throws. -/
def normalizeValue (localeCompare : LocaleCompare) : PlainValue → Option Json
  | .null => some .null
  | .bool b => some (.bool b)
  | .num q => some (.num q)
  | .str s => some (.str s)
  | .arr xs => (normalizeValues localeCompare xs).map .arr
  | .obj ms =>
      (normalizeEntries localeCompare ms).map fun ns =>
        fromEntries (ns.insertionSort fun a b => localeCompare a.1 b.1 ≤ 0)

def normalizeValues (localeCompare : LocaleCompare) : List PlainValue → Option (List Json)
  | [] => some []
  | x :: xs => do return (← normalizeValue localeCompare x) :: (← normalizeValues localeCompare xs)

def normalizeEntries (localeCompare : LocaleCompare) : List (String × Option PlainValue) → Option (List (String × Json))
  | [] => some []
  | (_, none) :: _ => none
  | (k, some x) :: ms => do
      return (k, ← normalizeValue localeCompare x) :: (← normalizeEntries localeCompare ms)
end

/-- The text whose hash is the digest of tool arguments. -/
def normalizedText (localeCompare : LocaleCompare) (print : ℚ → String) (value : PlainValue) : Option String :=
  (normalizeValue localeCompare value).map fun normalized => normalized.stringify print

end Cantilune
