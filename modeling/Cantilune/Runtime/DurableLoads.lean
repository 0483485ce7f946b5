import Cantilune.Base.Program
import Cantilune.Codec.StorageWire
import Cantilune.Runtime.Durable

/-!
# Chain and suffix over a store

A coordinator over a store loads the snapshots that it compares, one request each. Where every load answers with
the snapshot of one resolver, the answers are those of the coordinator in memory.
-/

namespace Cantilune

/-- What a coordinator over a store throws: the abort that a commit turns into its result, or another error. -/
inductive DurableThrown where
  | abort (reason : String)
  | error (message : String)
  deriving DecidableEq, Repr

variable {Req : Type} {Resp : Req → Type} {E : Type} (localeCompare : LocaleCompare)
  (load : SnapshotRef → Program Req Resp E (Option CollaborationSnapshot))

def loadContinuesChain (previous change : CoordinationChange) : Program Req Resp E Bool :=
  if change.beforeRef = previous.afterRef then pure true
  else do
    let «from» ← load previous.afterRef
    let «to» ← load change.beforeRef
    match «from», «to» with
    | some «from», some «to» => pure (isVerifiableUnloggedAdvance localeCompare «from» «to»)
    | _, _ => pure false

/-- The suffix that starts with the first change whose world before proves an unlogged advance. -/
def loadBridgedSuffix («from» : CollaborationSnapshot) :
    List CoordinationChange → Program Req Resp E (List CoordinationChange)
  | [] => pure []
  | change :: rest => do
      let before ← load change.beforeRef
      if before.any fun before => isVerifiableUnloggedAdvance localeCompare «from» before then
        pure (change :: rest)
      else loadBridgedSuffix «from» rest

def loadChangesSince (fromRef : SnapshotRef) (all : List CoordinationChange) :
    Program Req Resp E (List CoordinationChange) :=
  let direct := all.dropWhile fun change => change.beforeRef ≠ fromRef
  if direct.length > 0 then pure direct
  else do
    match ← load fromRef with
    | none => pure []
    | some «from» => loadBridgedSuffix localeCompare load «from» (all.drop (anchorAfter fromRef all))

variable {localeCompare load} {P : Req → Prop}

theorem asks_loadContinuesChain (hload : ∀ ref, (load ref).Asks P) (previous change : CoordinationChange) :
    (loadContinuesChain localeCompare load previous change).Asks P := by
  unfold loadContinuesChain
  split
  · trivial
  · refine Program.Asks.bind (hload _) fun «from» => Program.Asks.bind (hload _) fun «to» => ?_
    split <;> trivial

theorem asks_loadBridgedSuffix (hload : ∀ ref, (load ref).Asks P) («from» : CollaborationSnapshot)
    (changes : List CoordinationChange) : (loadBridgedSuffix localeCompare load «from» changes).Asks P := by
  induction changes with
  | nil => trivial
  | cons change rest ih =>
      refine Program.Asks.bind (hload _) fun before => ?_
      split
      · trivial
      · exact ih

theorem asks_loadChangesSince (hload : ∀ ref, (load ref).Asks P) (fromRef : SnapshotRef)
    (all : List CoordinationChange) : (loadChangesSince localeCompare load fromRef all).Asks P := by
  unfold loadChangesSince
  simp only
  split
  · trivial
  · refine Program.Asks.bind (hload _) fun «from» => ?_
    split
    · trivial
    · exact asks_loadBridgedSuffix hload _ _

/-! ## Answers -/

section Answers
open Program
variable {S : Type} {act : S → (r : Req) → Resp r → S → Prop} {I : S → Prop}
  {resolve : SnapshotRef → Option CollaborationSnapshot}
  (hload : ∀ ref, Returns act I (load ref) fun found s => found = resolve ref ∧ I s)

include hload

theorem returns_loadContinuesChain (previous change : CoordinationChange) :
    Returns act I (loadContinuesChain localeCompare load previous change) fun b s =>
      b = changeContinuesChain localeCompare previous change resolve ∧ I s := by
  unfold loadContinuesChain changeContinuesChain
  by_cases hdirect : change.beforeRef = previous.afterRef
  · simp only [hdirect, if_true]
    exact returns_done fun s hs => ⟨rfl, hs⟩
  · simp only [hdirect, if_false]
    intro s out t hs hexec
    obtain ⟨_, s, ⟨rfl, hs⟩, hexec⟩ := (hload _).of_bind hs hexec
    obtain ⟨_, s, ⟨rfl, hs⟩, hexec⟩ := (hload _).of_bind hs hexec
    cases hfrom : resolve previous.afterRef with
    | none =>
        simp only [hfrom] at hexec ⊢
        obtain ⟨rfl, rfl⟩ := exec_done.1 hexec
        exact ⟨_, rfl, rfl, hs⟩
    | some «from» =>
        cases hto : resolve change.beforeRef with
        | none =>
            simp only [hfrom, hto] at hexec ⊢
            obtain ⟨rfl, rfl⟩ := exec_done.1 hexec
            exact ⟨_, rfl, rfl, hs⟩
        | some «to» =>
            simp only [hfrom, hto] at hexec ⊢
            obtain ⟨rfl, rfl⟩ := exec_done.1 hexec
            exact ⟨_, rfl, rfl, hs⟩

theorem returns_loadBridgedSuffix («from» : CollaborationSnapshot) (changes : List CoordinationChange) :
    Returns act I (loadBridgedSuffix localeCompare load «from» changes) fun found s =>
      found = (changes.dropWhile fun change =>
        !(resolve change.beforeRef).any fun before => isVerifiableUnloggedAdvance localeCompare «from» before) ∧
      I s := by
  induction changes with
  | nil => exact returns_done fun s hs => ⟨rfl, hs⟩
  | cons change rest ih =>
      intro s out t hs hexec
      obtain ⟨_, s, ⟨rfl, hs⟩, hexec⟩ := (hload _).of_bind hs hexec
      cases hany : (resolve change.beforeRef).any fun before =>
          isVerifiableUnloggedAdvance localeCompare «from» before with
      | true =>
          simp only [hany, if_true] at hexec
          obtain ⟨rfl, rfl⟩ := exec_done.1 hexec
          exact ⟨_, rfl, by simp [hany], hs⟩
      | false =>
          simp only [hany, Bool.false_eq_true, if_false] at hexec
          obtain ⟨found, rfl, rfl, ht⟩ := ih s out t hs hexec
          exact ⟨_, rfl, by simp [hany], ht⟩

theorem returns_loadChangesSince (fromRef : SnapshotRef) (all : List CoordinationChange) :
    Returns act I (loadChangesSince localeCompare load fromRef all) fun found s =>
      found = changesSince localeCompare fromRef all resolve ∧ I s := by
  unfold loadChangesSince changesSince
  simp only
  split
  · exact returns_done fun s hs => ⟨rfl, hs⟩
  · intro s out t hs hexec
    obtain ⟨_, s, ⟨rfl, hs⟩, hexec⟩ := (hload _).of_bind hs hexec
    cases hfrom : resolve fromRef with
    | none =>
        simp only [hfrom] at hexec
        obtain ⟨rfl, rfl⟩ := exec_done.1 hexec
        exact ⟨_, rfl, rfl, hs⟩
    | some «from» =>
        simp only [hfrom] at hexec
        exact returns_loadBridgedSuffix hload «from» _ s out t hs hexec

end Answers

end Cantilune
