import Mathlib.Algebra.GroupWithZero.Nat
import Cantilune.Base.Runs

/-!
# Bounded breadth-first search

A search over a labelled transition system whose states are told apart by a key. The search takes one state
after the other from a queue, tries its successors in order, drops those whose key was seen before, and
stops at the first one that meets the goal.

States that no goal can tell apart are related by a bisimulation. Where the keys tell the others apart, as
far as the bound allows to go, the search is complete and its traces are as short as possible; and only there.
-/

namespace Search

/-- The successors of a state in the order they are tried, and the key by which a state counts as seen. -/
structure Space (State Label Key : Type) where
  next : State → List (Label × State)
  key : State → Key

abbrev Trace (State Label : Type) := List (State × Label)

structure Progress (State Label Key : Type) where
  visited : List Key
  queue : List (State × Trace State Label)
  explored : Nat

structure Found (State Label : Type) where
  trace : Trace State Label
  last : State
  explored : Nat

variable {State Label Key : Type}

section Search
variable [DecidableEq Key] (S : Space State Label Key) (goal : State → Bool)

/-- Tries the successors of one state, and leaves at the first that meets the goal. -/
def visit (s : State) (trace : Trace State Label) :
    List (Label × State) → Progress State Label Key → Found State Label ⊕ Progress State Label Key
  | [], p => .inr p
  | (l, t) :: rest, p =>
      if S.key t ∈ p.visited then visit s trace rest p
      else if goal t then .inl ⟨trace ++ [(s, l)], t, p.explored + 1⟩
      else visit s trace rest ⟨S.key t :: p.visited, p.queue ++ [(t, trace ++ [(s, l)])], p.explored + 1⟩

/-- Takes states from the queue until it is empty; the number is what is left when nothing was found. -/
def loop (maxSteps : Nat) : Nat → Progress State Label Key → Option (Found State Label ⊕ Nat)
  | 0, _ => none
  | fuel + 1, p =>
      match p.queue with
      | [] => some (.inr p.explored)
      | (s, trace) :: queue =>
          if maxSteps ≤ trace.length then loop maxSteps fuel { p with queue }
          else
            match visit S goal s trace (S.next s) { p with queue } with
            | .inl found => some (.inl found)
            | .inr p => loop maxSteps fuel p

def start (init : State) : Progress State Label Key := ⟨[S.key init], [(init, [])], 1⟩

/-- The number of turns that a queued state with `steps` steps left can cause, when no state has more than
`branching` successors. -/
def turns (branching : Nat) : Nat → Nat
  | 0 => 1
  | steps + 1 => 1 + branching * turns branching steps

def search (branching maxSteps : Nat) (init : State) : Option (Found State Label ⊕ Nat) :=
  loop S goal maxSteps (turns branching maxSteps + 1) (start S init)

end Search

variable {S : Space State Label Key} {goal : State → Bool} {s t u init : State} {l : Label}
  {trace : Trace State Label} {rest : List (Label × State)} {p q : Progress State Label Key}
  {n k d branching fuel : Nat}

/-! ## The search ends -/

section Termination
variable [DecidableEq Key]

def queueTurns (branching n : Nat) (queue : List (State × Trace State Label)) : Nat :=
  (queue.map fun e => turns branching (n - e.2.length)).sum

theorem visit_queueTurns (branching n : Nat) (h : visit S goal s trace rest p = .inr q) :
    queueTurns branching n q.queue ≤
      queueTurns branching n p.queue + rest.length * turns branching (n - (trace.length + 1)) := by
  induction rest generalizing p with
  | nil =>
      cases h
      simp
  | cons e rest ih =>
      rw [visit] at h
      rw [List.length_cons, Nat.add_mul, Nat.one_mul]
      split at h
      · have hle := ih h
        omega
      · split at h
        · cases h
        · have hle := ih h
          simp only [queueTurns, List.map_append, List.sum_append, List.map_cons, List.map_nil, List.sum_cons,
            List.sum_nil, List.length_append, List.length_singleton, Nat.add_zero] at hle ⊢
          omega

theorem loop_isSome (hbranching : ∀ s, (S.next s).length ≤ branching)
    (hfuel : queueTurns branching n p.queue < fuel) : (loop S goal n fuel p).isSome = true := by
  induction fuel generalizing p with
  | zero => exact absurd hfuel (Nat.not_lt_zero _)
  | succ fuel ih =>
      rw [loop]
      split
      · rfl
      · rename_i s trace queue hqueue
        simp only [hqueue, queueTurns, List.map_cons, List.sum_cons] at hfuel
        have hpos : 0 < turns branching (n - trace.length) := by
          cases n - trace.length with
          | zero => exact Nat.one_pos
          | succ steps => exact Nat.lt_of_lt_of_le Nat.one_pos (Nat.le_add_right _ _)
        split
        · exact ih (show queueTurns branching n queue < fuel by unfold queueTurns; omega)
        · rename_i hlt
          split
          · rfl
          · rename_i q hvisit
            have hle := visit_queueTurns branching n hvisit
            have hstep : turns branching (n - trace.length) =
                1 + branching * turns branching (n - (trace.length + 1)) := by
              rw [show n - trace.length = n - (trace.length + 1) + 1 by omega]
              rfl
            have hmul := Nat.mul_le_mul_right (turns branching (n - (trace.length + 1))) (hbranching s)
            refine ih ?_
            simp only [queueTurns] at hle hfuel ⊢
            omega

theorem search_isSome (hbranching : ∀ s, (S.next s).length ≤ branching) :
    (search S goal branching n init).isSome = true :=
  loop_isSome hbranching (by simp [start, queueTurns])

end Termination

/-! ## Traces -/

def Space.Step (S : Space State Label Key) (s : State) (l : Label) (t : State) : Prop := (l, t) ∈ S.next s

inductive TraceTo (S : Space State Label Key) : State → Trace State Label → State → Prop where
  | nil (s : State) : TraceTo S s [] s
  | cons {s t u : State} {l : Label} {trace : Trace State Label} (head : S.Step s l t)
      (tail : TraceTo S t trace u) : TraceTo S s ((s, l) :: trace) u

theorem TraceTo.run (h : TraceTo S s trace t) : Run S.Step s (trace.map Prod.snd) t := by
  induction h with
  | nil s => exact .nil s
  | cons head _ ih => exact .cons head ih

theorem TraceTo.snoc (h : TraceTo S s trace t) (hstep : S.Step t l u) : TraceTo S s (trace ++ [(t, l)]) u := by
  induction h with
  | nil s => exact .cons hstep (.nil u)
  | cons head _ ih => exact .cons head (ih hstep)

/-- Reached in at most `k` steps. -/
def Within (S : Space State Label Key) (init : State) (k : Nat) (t : State) : Prop :=
  ∃ labels, labels.length ≤ k ∧ Run S.Step init labels t

theorem Within.mono (h : Within S init k t) (hk : k ≤ n) : Within S init n t := by
  obtain ⟨labels, hlength, r⟩ := h
  exact ⟨labels, Nat.le_trans hlength hk, r⟩

theorem TraceTo.within (h : TraceTo S init trace t) : Within S init trace.length t :=
  ⟨trace.map Prod.snd, by simp, h.run⟩

theorem run_snoc_split {labels : List Label} (r : Run S.Step s labels t) :
    labels = [] ∧ s = t ∨ ∃ pre l m, labels = pre ++ [l] ∧ Run S.Step s pre m ∧ S.Step m l t := by
  induction r with
  | nil s => exact .inl ⟨rfl, rfl⟩
  | @cons s m t a as head tail ih =>
      rcases ih with ⟨rfl, rfl⟩ | ⟨pre, l, m', rfl, r', hstep⟩
      · exact .inr ⟨[], a, s, rfl, .nil s, head⟩
      · exact .inr ⟨a :: pre, l, m', rfl, .cons head r', hstep⟩

theorem Within.cases (h : Within S init k t) : init = t ∨ ∃ j, j + 1 ≤ k ∧ ∃ m l, Within S init j m ∧ S.Step m l t := by
  obtain ⟨labels, hlength, r⟩ := h
  rcases run_snoc_split r with ⟨_, rfl⟩ | ⟨pre, l, m, rfl, r', hstep⟩
  · exact .inl rfl
  · refine .inr ⟨pre.length, ?_, m, l, ⟨pre, Nat.le_refl _, r'⟩, hstep⟩
    simpa using hlength

/-- Related states have related successors under the same labels, and the same key. -/
structure Bisimulation (S : Space State Label Key) (Same : State → State → Prop) : Prop where
  equiv : Equivalence Same
  step : ∀ s s' l t, Same s s' → S.Step s l t → ∃ t', S.Step s' l t' ∧ Same t t'
  key : ∀ s t, Same s t → S.key s = S.key t

/-- Up to the bound, states of one key are related. -/
def Separated (S : Space State Label Key) (Same : State → State → Prop) (init : State) (n : Nat) : Prop :=
  ∀ s t, Within S init n s → Within S init n t → S.key s = S.key t → Same s t

/-- The goal does not tell related states apart. -/
def Respects (goal : State → Bool) (Same : State → State → Prop) : Prop :=
  ∀ s t, Same s t → goal s = goal t

/-! ## What the search has seen -/

section Correctness
variable {Same : State → State → Prop} {V : List Key}

structure Reached (S : Space State Label Key) (goal : State → Bool) (Same : State → State → Prop) (init : State)
    (n : Nat) (t : State) (trace : Trace State Label) : Prop where
  leads : TraceTo S init trace t
  bound : trace.length ≤ n
  missed : goal t = false
  shortest : ∀ k u, Within S init k u → Same u t → trace.length ≤ k

/-- All successors have been seen. -/
def Closed (S : Space State Label Key) (V : List Key) (s : State) : Prop :=
  ∀ l t, S.Step s l t → S.key t ∈ V

/-- The state of the search while it is at depth `d`. The states of `opened` are being expanded. -/
structure Inv (S : Space State Label Key) (goal : State → Bool) (Same : State → State → Prop) (init : State)
    (n d : Nat) (opened : List State) (p : Progress State Label Key) : Prop where
  root : S.key init ∈ p.visited
  seen : ∀ k ∈ p.visited, ∃ t trace, S.key t = k ∧ Reached S goal Same init n t trace ∧
    ((t, trace) ∈ p.queue ∨ t ∈ opened ∨ Closed S p.visited t ∨ trace.length = n)
  queued : ∀ e ∈ p.queue, Reached S goal Same init n e.1 e.2
  depth : ∀ e ∈ p.queue, d ≤ e.2.length ∧ e.2.length ≤ d + 1
  sorted : p.queue.Pairwise fun e f => e.2.length ≤ f.2.length
  level : ∀ t, Within S init d t → S.key t ∈ p.visited

theorem Reached.within (h : Reached S goal Same init n t trace) : Within S init n t := h.leads.within.mono h.bound

theorem Closed.mono {W : List Key} (h : Closed S V s) (hsub : ∀ k ∈ V, k ∈ W) : Closed S W s := fun l t hstep =>
  hsub _ (h l t hstep)

variable {opened : List State} (hbisim : Bisimulation S Same) (hgoal : Respects goal Same)
  (hsep : Separated S Same init n)

include hgoal hsep in
theorem Inv.missed (h : Inv S goal Same init n d opened p) (ht : Within S init n t) (hkey : S.key t ∈ p.visited) :
    goal t = false := by
  obtain ⟨u, trace, hu, hreached, _⟩ := h.seen _ hkey
  rw [hgoal t u (hsep t u ht hreached.within hu.symm)]
  exact hreached.missed

include hbisim hsep in
theorem Inv.step_seen (h : Inv S goal Same init n d [] p) (hs : Within S init k s) (hk : k < n)
    (hkey : S.key s ∈ p.visited) (hqueue : ∀ e ∈ p.queue, k < e.2.length) (hstep : S.Step s l t) :
    S.key t ∈ p.visited := by
  obtain ⟨s', trace, hs', hreached, hplace⟩ := h.seen _ hkey
  have hsame : Same s s' := hsep s s' (hs.mono (Nat.le_of_lt hk)) hreached.within hs'.symm
  have hshort : trace.length ≤ k := hreached.shortest k s hs hsame
  obtain ⟨t', hstep', ht'⟩ := hbisim.step s s' l t hsame hstep
  rw [hbisim.key t t' ht']
  rcases hplace with hmem | hmem | hclosed | hlength
  · have hlt : k < trace.length := hqueue _ hmem
    exact absurd hshort (Nat.not_le.2 hlt)
  · cases hmem
  · exact hclosed l t' hstep'
  · omega

include hbisim hsep in
/-- Once all that is queued is at the next depth, the search is at that depth. -/
theorem Inv.advance (h : Inv S goal Same init n d [] p) (hd : d < n) (hqueue : ∀ e ∈ p.queue, e.2.length = d + 1) :
    Inv S goal Same init n (d + 1) [] p where
  root := h.root
  seen := h.seen
  queued := h.queued
  depth e he := by
    have hlength := hqueue e he
    omega
  sorted := h.sorted
  level t ht := by
    rcases ht.cases with rfl | ⟨j, hj, m, l, hm, hstep⟩
    · exact h.root
    · have hmd : Within S init d m := hm.mono (by omega)
      refine h.step_seen hbisim hsep hmd hd (h.level m hmd) (fun e he => ?_) hstep
      have hlength := hqueue e he
      omega

theorem Inv.dequeue {queue : List (State × Trace State Label)} (h : Inv S goal Same init n d [] p)
    (hqueue : p.queue = (s, trace) :: queue) (hs : s ∈ opened ∨ trace.length = n) :
    Inv S goal Same init n d opened { p with queue } where
  root := h.root
  seen k hk := by
    obtain ⟨t, trace', ht, hreached, hplace⟩ := h.seen k hk
    refine ⟨t, trace', ht, hreached, ?_⟩
    rcases hplace with hmem | hmem | hplace
    · rw [hqueue, List.mem_cons] at hmem
      rcases hmem with heq | hmem
      · cases heq
        rcases hs with hs | hs
        · exact .inr (.inl hs)
        · exact .inr (.inr (.inr hs))
      · exact .inl hmem
    · cases hmem
    · exact .inr (.inr hplace)
  queued e he := h.queued e (by simp [hqueue, he])
  depth e he := h.depth e (by simp [hqueue, he])
  sorted := by
    have hsorted := h.sorted
    rw [hqueue] at hsorted
    exact (List.pairwise_cons.1 hsorted).2
  level := h.level

/-- A state is done with, once its successors have been seen. -/
theorem Inv.close (h : Inv S goal Same init n d [s] p) (hclosed : Closed S p.visited s) :
    Inv S goal Same init n d [] p where
  root := h.root
  seen k hk := by
    obtain ⟨t, trace', ht, hreached, hplace⟩ := h.seen k hk
    refine ⟨t, trace', ht, hreached, ?_⟩
    rcases hplace with hmem | hmem | hplace
    · exact .inl hmem
    · rw [List.mem_singleton.1 hmem]
      exact .inr (.inr (.inl hclosed))
    · exact .inr (.inr hplace)
  queued := h.queued
  depth := h.depth
  sorted := h.sorted
  level := h.level

include hbisim in
theorem Inv.discover (h : Inv S goal Same init n d opened p) (hs : Reached S goal Same init n s trace)
    (hlength : trace.length = d) (hd : d < n) (hstep : S.Step s l t) (hnew : S.key t ∉ p.visited)
    (hmissed : goal t = false) : Reached S goal Same init n t (trace ++ [(s, l)]) where
  leads := hs.leads.snoc hstep
  bound := by
    rw [List.length_append, List.length_singleton, hlength]
    exact hd
  missed := hmissed
  shortest k u hu hsame := by
    rw [List.length_append, List.length_singleton, hlength]
    by_contra hlt
    refine hnew ?_
    rw [← hbisim.key u t hsame]
    exact h.level u (hu.mono (by omega))

theorem Inv.enqueue (h : Inv S goal Same init n d opened p)
    (ht : Reached S goal Same init n t (trace ++ [(s, l)])) (hlength : trace.length = d) :
    Inv S goal Same init n d opened
      ⟨S.key t :: p.visited, p.queue ++ [(t, trace ++ [(s, l)])], p.explored + 1⟩ where
  root := List.mem_cons_of_mem _ h.root
  seen k hk := by
    rcases List.mem_cons.1 hk with rfl | hk
    · exact ⟨t, _, rfl, ht, .inl (by simp)⟩
    · obtain ⟨u, trace', hu, hreached, hplace⟩ := h.seen k hk
      refine ⟨u, trace', hu, hreached, ?_⟩
      rcases hplace with hmem | hmem | hclosed | hbound
      · exact .inl (List.mem_append_left _ hmem)
      · exact .inr (.inl hmem)
      · exact .inr (.inr (.inl (hclosed.mono fun k hk => List.mem_cons_of_mem _ hk)))
      · exact .inr (.inr (.inr hbound))
  queued e he := by
    rcases List.mem_append.1 he with he | he
    · exact h.queued e he
    · rw [List.mem_singleton.1 he]
      exact ht
  depth e he := by
    rcases List.mem_append.1 he with he | he
    · exact h.depth e he
    · rw [List.mem_singleton.1 he]
      simp [hlength]
  sorted := by
    rw [List.pairwise_append]
    refine ⟨h.sorted, List.pairwise_singleton _ _, fun e he f hf => ?_⟩
    rw [List.mem_singleton.1 hf]
    have hdepth := (h.depth e he).2
    simpa [hlength] using hdepth
  level u hu := List.mem_cons_of_mem _ (h.level u hu)

/-! ## What the search finds -/

/-- The trace leads to a state that meets the goal, within the bound, and no way to such a state is shorter. -/
structure Found.Correct (S : Space State Label Key) (goal : State → Bool) (init : State) (n : Nat)
    (f : Found State Label) : Prop where
  leads : TraceTo S init f.trace f.last
  bound : f.trace.length ≤ n
  met : goal f.last = true
  shortest : ∀ k u, Within S init k u → goal u = true → f.trace.length ≤ k

variable [DecidableEq Key]

include hbisim hgoal hsep in
theorem Inv.visit (hs : Reached S goal Same init n s trace) (hlength : trace.length = d) (hd : d < n)
    (h : Inv S goal Same init n d [s] p) (hrest : ∀ e ∈ rest, S.Step s e.1 e.2) :
    (∃ f, visit S goal s trace rest p = .inl f ∧ f.Correct S goal init n) ∨
      ∃ q, visit S goal s trace rest p = .inr q ∧ Inv S goal Same init n d [s] q ∧
        (∀ k ∈ p.visited, k ∈ q.visited) ∧ ∀ e ∈ rest, S.key e.2 ∈ q.visited := by
  induction rest generalizing p with
  | nil => exact .inr ⟨p, rfl, h, fun _ hk => hk, by simp⟩
  | cons e rest ih =>
      obtain ⟨l, t⟩ := e
      have hstep : S.Step s l t := hrest (l, t) List.mem_cons_self
      have hrest' : ∀ e ∈ rest, S.Step s e.1 e.2 := fun e he => hrest e (List.mem_cons_of_mem _ he)
      rw [Search.visit]
      split
      · rename_i hseen
        rcases ih h hrest' with hfound | ⟨q, hq, hinv, hsub, hmem⟩
        · exact .inl hfound
        · refine .inr ⟨q, hq, hinv, hsub, fun e he => ?_⟩
          rcases List.mem_cons.1 he with rfl | he
          · exact hsub _ hseen
          · exact hmem e he
      · rename_i hnew
        split
        · rename_i hmet
          refine .inl ⟨_, rfl, hs.leads.snoc hstep, ?_, hmet, fun k u hu hmet' => ?_⟩
          · rw [List.length_append, List.length_singleton, hlength]
            exact hd
          · rw [List.length_append, List.length_singleton, hlength]
            by_contra hlt
            have hud : Within S init d u := hu.mono (by omega)
            have hmissed := h.missed hgoal hsep (hud.mono (Nat.le_of_lt hd)) (h.level u hud)
            rw [hmissed] at hmet'
            cases hmet'
        · rename_i hmissed
          have ht := h.discover hbisim hs hlength hd hstep hnew (by simpa using hmissed)
          rcases ih (h.enqueue ht hlength) hrest' with hfound | ⟨q, hq, hinv, hsub, hmem⟩
          · exact .inl hfound
          · refine .inr ⟨q, hq, hinv, fun k hk => hsub k (List.mem_cons_of_mem _ hk), fun e he => ?_⟩
            rcases List.mem_cons.1 he with rfl | he
            · exact hsub _ List.mem_cons_self
            · exact hmem e he

include hbisim hsep in
theorem Inv.exhausted (h : Inv S goal Same init n d [] p) (hqueue : p.queue = []) (ht : Within S init k t)
    (hk : k ≤ n) : S.key t ∈ p.visited := by
  induction k generalizing t with
  | zero =>
      rcases ht.cases with rfl | ⟨j, hj, _⟩
      · exact h.root
      · omega
  | succ k ih =>
      rcases ht.cases with rfl | ⟨j, hj, m, l, hm, hstep⟩
      · exact h.root
      · have hmk : Within S init k m := hm.mono (by omega)
        refine h.step_seen hbisim hsep hmk hk (ih hmk (by omega)) (fun e he => ?_) hstep
        rw [hqueue] at he
        cases he

include hbisim hgoal hsep in
theorem loop_correct (h : Inv S goal Same init n d [] p) :
    (∀ f, loop S goal n fuel p = some (.inl f) → f.Correct S goal init n) ∧
      ∀ explored, loop S goal n fuel p = some (.inr explored) → ∀ t, Within S init n t → goal t = false := by
  induction fuel generalizing p d with
  | zero => exact ⟨fun _ hf => (nomatch hf), fun _ he => (nomatch he)⟩
  | succ fuel ih =>
      rw [loop]
      split
      · rename_i hqueue
        refine ⟨fun _ hf => (nomatch hf), fun _ _ t ht => ?_⟩
        exact h.missed hgoal hsep ht (h.exhausted hbisim hsep hqueue ht (Nat.le_refl n))
      · rename_i s trace queue hqueue
        have hmem : (s, trace) ∈ p.queue := by simp [hqueue]
        have hs : Reached S goal Same init n s trace := h.queued _ hmem
        split
        · rename_i hbound
          exact ih (h.dequeue hqueue (.inr (Nat.le_antisymm hs.bound hbound)))
        · rename_i hbound
          have hlt : trace.length < n := Nat.not_le.1 hbound
          -- the state at the front sets the depth
          have hfront : Inv S goal Same init n trace.length [] p := by
            have hdepth : d ≤ trace.length ∧ trace.length ≤ d + 1 := h.depth _ hmem
            by_cases hd : trace.length = d
            · rw [hd]
              exact h
            · have hnext : trace.length = d + 1 := by omega
              rw [hnext]
              refine h.advance hbisim hsep (by omega) fun e he => ?_
              have hle := (h.depth e he).2
              have hsorted := h.sorted
              rw [hqueue] at hsorted he
              rcases List.mem_cons.1 he with rfl | he
              · exact hnext
              · have hge := (List.pairwise_cons.1 hsorted).1 e he
                simp only at hge
                omega
          have hopened : Inv S goal Same init n trace.length [s] { p with queue } :=
            hfront.dequeue hqueue (.inl (List.mem_singleton_self s))
          have hnext : ∀ e ∈ S.next s, S.Step s e.1 e.2 := fun e he => he
          rcases hopened.visit hbisim hgoal hsep hs rfl hlt hnext with
            ⟨f, hf, hcorrect⟩ | ⟨q, hq, hinv, _, hclosed⟩
          · rw [hf]
            refine ⟨fun f' hf' => ?_, fun _ he => (nomatch he)⟩
            cases hf'
            exact hcorrect
          · rw [hq]
            exact ih (hinv.close fun l t hstep => hclosed (l, t) hstep)

theorem inv_start (h : goal init = false) : Inv S goal Same init n 0 [] (start S init) := by
  have hreached : Reached S goal Same init n init [] := ⟨.nil init, Nat.zero_le n, h, fun k _ _ _ => Nat.zero_le k⟩
  refine
    { root := List.mem_singleton_self _
      seen := fun k hk => ⟨init, [], (List.mem_singleton.1 hk).symm, hreached, .inl (List.mem_singleton_self _)⟩
      queued := fun e he => ?_
      depth := fun e he => ?_
      sorted := List.pairwise_singleton _ _
      level := fun t ht => ?_ }
  · rw [List.mem_singleton.1 he]
    exact hreached
  · rw [List.mem_singleton.1 he]
    exact ⟨Nat.le_refl 0, Nat.zero_le 1⟩
  · rcases ht.cases with rfl | ⟨j, hj, _⟩
    · exact List.mem_singleton_self _
    · omega

include hbisim hgoal hsep in
theorem search_found (h : goal init = false) {f : Found State Label}
    (hf : search S goal branching n init = some (.inl f)) : f.Correct S goal init n :=
  (loop_correct hbisim hgoal hsep (inv_start h)).1 f hf

include hbisim hgoal hsep in
theorem search_exhausted (h : goal init = false) {explored : Nat}
    (he : search S goal branching n init = some (.inr explored)) (ht : Within S init n t) : goal t = false :=
  (loop_correct hbisim hgoal hsep (inv_start h)).2 explored he t ht

end Correctness

/-! ## Two goals in one search -/

section TwoGoals
variable [DecidableEq Key] {goal₁ goal₂ : State → Bool} {f₂ : Found State Label}

theorem visit_visited (h : visit S goal s trace rest p = .inr q) : ∀ k ∈ p.visited, k ∈ q.visited := by
  induction rest generalizing p with
  | nil =>
      cases h
      exact fun _ hk => hk
  | cons e rest ih =>
      rw [visit] at h
      split at h
      · exact ih h
      · split at h
        · cases h
        · exact fun k hk => ih h k (List.mem_cons_of_mem _ hk)

theorem visit_new (h : visit S goal s trace rest p = .inl f₂) :
    S.key f₂.last ∉ p.visited ∧ goal f₂.last = true := by
  induction rest generalizing p with
  | nil => cases h
  | cons e rest ih =>
      rw [visit] at h
      split at h
      · exact ih h
      · rename_i hnew
        split at h
        · rename_i hmet
          cases h
          exact ⟨hnew, hmet⟩
        · exact ⟨fun hk => (ih h).1 (List.mem_cons_of_mem _ hk), (ih h).2⟩

theorem loop_new (h : loop S goal n fuel p = some (.inl f₂)) :
    S.key f₂.last ∉ p.visited ∧ goal f₂.last = true := by
  induction fuel generalizing p with
  | zero => cases h
  | succ fuel ih =>
      rw [loop] at h
      split at h
      · cases h
      · split at h
        · exact ⟨fun hk => (ih h).1 hk, (ih h).2⟩
        · split at h
          · rename_i hvisit
            cases h
            have hnew := visit_new hvisit
            exact hnew
          · rename_i hvisit
            exact ⟨fun hk => (ih h).1 (visit_visited hvisit _ hk), (ih h).2⟩

theorem visit_either (goal₁ goal₂ : State → Bool) (rest : List (Label × State)) (p : Progress State Label Key) :
    (∃ f, visit S (fun s => goal₁ s || goal₂ s) s trace rest p = .inl f ∧
      (goal₁ f.last || goal₂ f.last) = true ∧
      ((∀ q, visit S goal₂ s trace rest p = .inr q → S.key f.last ∈ q.visited) ∧
        ∀ f₂, visit S goal₂ s trace rest p = .inl f₂ → f.last = f₂.last ∨ S.key f.last ≠ S.key f₂.last)) ∨
    ∃ q, visit S (fun s => goal₁ s || goal₂ s) s trace rest p = .inr q ∧ visit S goal₂ s trace rest p = .inr q := by
  induction rest generalizing p with
  | nil => exact .inr ⟨p, rfl, rfl⟩
  | cons e rest ih =>
      obtain ⟨l, t⟩ := e
      simp only [visit]
      split
      · exact ih p
      · by_cases h₂ : goal₂ t = true
        · refine .inl ⟨⟨trace ++ [(s, l)], t, p.explored + 1⟩, by simp [h₂], by simp [h₂], ?_, ?_⟩
          · intro q hq
            simp [h₂] at hq
          · intro f₂ hf₂
            simp only [h₂, if_true, Sum.inl.injEq] at hf₂
            exact .inl (by rw [← hf₂])
        · by_cases h₁ : goal₁ t = true
          · refine .inl ⟨⟨trace ++ [(s, l)], t, p.explored + 1⟩, by simp [h₁], by simp [h₁], ?_, ?_⟩
            · intro q hq
              simp only [h₂] at hq
              exact visit_visited hq _ List.mem_cons_self
            · intro f₂ hf₂
              simp only [h₂] at hf₂
              refine .inr fun hkey => (visit_new hf₂).1 ?_
              rw [← hkey]
              exact List.mem_cons_self
          · simp only [h₁, h₂, Bool.or_self, Bool.false_eq_true, if_false]
            exact ih _

theorem loop_either (goal₁ : State → Bool) (h : loop S goal₂ n fuel p = some (.inl f₂)) :
    ∃ f, loop S (fun s => goal₁ s || goal₂ s) n fuel p = some (.inl f) ∧ (goal₁ f.last || goal₂ f.last) = true ∧
      (f.last = f₂.last ∨ S.key f.last ≠ S.key f₂.last) := by
  induction fuel generalizing p with
  | zero => cases h
  | succ fuel ih =>
      rw [loop] at h ⊢
      split at h
      · cases h
      · rename_i s trace queue hqueue
        split at h
        · rename_i hbound
          rw [if_pos hbound]
          exact ih h
        · rename_i hbound
          rw [if_neg hbound]
          rcases visit_either goal₁ goal₂ (S.next s) { p with queue } with ⟨f, hf, hmet, hmore, hfound⟩ | ⟨q, hq, hq₂⟩
          · rw [hf]
            refine ⟨f, rfl, hmet, ?_⟩
            split at h
            · rename_i hvisit
              cases h
              exact hfound _ hvisit
            · rename_i q hvisit
              refine .inr fun hkey => (loop_new h).1 ?_
              rw [← hkey]
              exact hmore q hvisit
          · rw [hq₂] at h
            rw [hq]
            exact ih h

theorem last_eq_of_key {f₁ : Found State Label}
    (h₁ : search S goal₁ branching n init = some (.inl f₁)) (h₂ : search S goal₂ branching n init = some (.inl f₂))
    (hkey : ∀ t, goal₁ t = true ∨ goal₂ t = true → S.key t = S.key f₁.last) : f₁.last = f₂.last := by
  obtain ⟨f, hf, hf', hlast⟩ := loop_either goal₁ h₂
  obtain ⟨f', hfound, _, hlast'⟩ := loop_either goal₂ h₁
  have hor : (fun s => goal₂ s || goal₁ s) = fun s => goal₁ s || goal₂ s := by
    funext s
    exact Bool.or_comm _ _
  rw [hor, hf] at hfound
  cases hfound
  have hkey₁ := hkey f.last (by simpa using hf')
  have hkey₂ := hkey f₂.last (.inr (loop_new h₂).2)
  rcases hlast' with h | h
  · rcases hlast with h' | h'
    · rw [← h, ← h']
    · exact absurd (hkey₁.trans hkey₂.symm) h'
  · exact absurd hkey₁ h

end TwoGoals

end Search
