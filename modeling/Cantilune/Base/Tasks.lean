import Cantilune.Base.Runs
import Mathlib.Algebra.BigOperators.Group.Finset.Basic
import Mathlib.Logic.Function.Basic

/-!
# Cooperative tasks

A call runs without interruption up to the first thing it waits for, and goes on, again without interruption,
when the response is there. In between every other call may run. A call is given by its sections: the one that
starts it, and for each wait the one that follows the response.
-/

/-- The sections of the calls of a component over a shared world. A section ends in the next wait of its call or
in the call's outcome. -/
structure Sections (World Call : Type) where
  Wait : Call → Type
  Resp : (call : Call) → Wait call → Type
  Out : Call → Type
  start : (call : Call) → World → (Wait call ⊕ Out call) × World
  resume : (call : Call) → (wait : Wait call) → Resp call wait → World → (Wait call ⊕ Out call) × World

def Sections.sum {World Call Call' : Type} (code : Sections World Call) (code' : Sections World Call') :
    Sections World (Call ⊕ Call') where
  Wait
    | .inl call => code.Wait call
    | .inr call => code'.Wait call
  Resp
    | .inl call => code.Resp call
    | .inr call => code'.Resp call
  Out
    | .inl call => code.Out call
    | .inr call => code'.Out call
  start
    | .inl call => code.start call
    | .inr call => code'.start call
  resume
    | .inl call => code.resume call
    | .inr call => code'.resume call

def Sections.comap {World Call Call' : Type} (code : Sections World Call) (f : Call' → Call) :
    Sections World Call' where
  Wait call := code.Wait (f call)
  Resp call := code.Resp (f call)
  Out call := code.Out (f call)
  start call := code.start (f call)
  resume call := code.resume (f call)

/-- A client starts a call, or what it waits for in a call is there. -/
inductive TaskLabel {World Call : Type} (code : Sections World Call) (ι : Type) where
  | start (client : ι) (call : Call)
  | resume (client : ι) (call : Call) (wait : code.Wait call) (resp : code.Resp call wait)

namespace Sections

variable {World Call ι : Type}

/-- A world with its clients, each idle or waiting in a call, and the outcomes of the calls that have ended, the
oldest first. -/
structure Tasks (code : Sections World Call) (ι : Type) where
  world : World
  waiting : ι → Option (Σ call, code.Wait call)
  ended : List (Σ call, code.Out call)

def Tasks.idle (code : Sections World Call) (ι : Type) (world : World) : Tasks code ι :=
  { world, waiting := fun _ => none, ended := [] }

variable [DecidableEq ι] {code : Sections World Call} {s t : Tasks code ι} {l : TaskLabel code ι}

def Tasks.after (s : Tasks code ι) (client : ι) (call : Call) (result : (code.Wait call ⊕ code.Out call) × World) :
    Tasks code ι :=
  match result with
  | (.inl wait, world) =>
      { s with world, waiting := Function.update s.waiting client (some ⟨call, wait⟩) }
  | (.inr out, world) =>
      { world, waiting := Function.update s.waiting client none, ended := s.ended ++ [⟨call, out⟩] }

/-- Only an idle client starts a call, and only what a client waits for can be there. -/
inductive Step (code : Sections World Call) : Tasks code ι → TaskLabel code ι → Tasks code ι → Prop where
  | start {s : Tasks code ι} {client : ι} {call : Call} (idle : s.waiting client = none) :
      Step code s (.start client call) (s.after client call (code.start call s.world))
  | resume {s : Tasks code ι} {client : ι} {call : Call} {wait : code.Wait call} {resp : code.Resp call wait}
      (waits : s.waiting client = some ⟨call, wait⟩) :
      Step code s (.resume client call wait resp) (s.after client call (code.resume call wait resp s.world))

@[simp] theorem after_world {client : ι} {call : Call} {result : (code.Wait call ⊕ code.Out call) × World} :
    (s.after client call result).world = result.2 := by
  obtain ⟨wait | out, world⟩ := result <;> rfl

def outcome? {call : Call} : (code.Wait call ⊕ code.Out call) × World → Option (Σ call, code.Out call)
  | (.inl _, _) => none
  | (.inr out, _) => some ⟨call, out⟩

def pending? {call : Call} : (code.Wait call ⊕ code.Out call) × World → Option (Σ call, code.Wait call)
  | (.inl wait, _) => some ⟨call, wait⟩
  | (.inr _, _) => none

theorem after_waiting {client : ι} {call : Call} {result : (code.Wait call ⊕ code.Out call) × World} :
    (s.after client call result).waiting = Function.update s.waiting client (pending? result) := by
  obtain ⟨wait | out, world⟩ := result <;> rfl

theorem after_ended {client : ι} {call : Call} {result : (code.Wait call ⊕ code.Out call) × World} :
    (s.after client call result).ended = s.ended ++ (outcome? result).toList := by
  obtain ⟨wait | out, world⟩ := result
  · exact (List.append_nil _).symm
  · rfl

theorem waiting_after {client client' : ι} {call : Call} {result : (code.Wait call ⊕ code.Out call) × World}
    {pending : Σ call, code.Wait call} (h : (s.after client call result).waiting client' = some pending) :
    (client' = client ∧ ∃ wait, result.1 = .inl wait ∧ pending = ⟨call, wait⟩) ∨
      (client' ≠ client ∧ s.waiting client' = some pending) := by
  rw [after_waiting] at h
  by_cases hclient : client' = client
  · subst hclient
    rw [Function.update_self] at h
    obtain ⟨wait | out, world⟩ := result
    · cases h
      exact .inl ⟨rfl, wait, rfl, rfl⟩
    · cases h
  · rw [Function.update_of_ne hclient] at h
    exact .inr ⟨hclient, h⟩

theorem mem_ended_after {client : ι} {call : Call} {result : (code.Wait call ⊕ code.Out call) × World}
    {ended : Σ call, code.Out call} (h : ended ∈ (s.after client call result).ended) :
    ended ∈ s.ended ∨ ∃ out, result.1 = .inr out ∧ ended = ⟨call, out⟩ := by
  rw [after_ended] at h
  rcases List.mem_append.1 h with h | h
  · exact .inl h
  · obtain ⟨wait | out, world⟩ := result
    · cases h
    · exact .inr ⟨out, rfl, List.mem_singleton.1 h⟩

/-! ## One call -/

inductive CallSection (code : Sections World Call) (call : Call) where
  | start (world : World)
  | resume (wait : code.Wait call) (resp : code.Resp call wait) (world : World)

namespace CallSection

variable {call : Call}

def before : CallSection code call → World
  | .start world => world
  | .resume _ _ world => world

def result : CallSection code call → (code.Wait call ⊕ code.Out call) × World
  | .start world => code.start call world
  | .resume wait resp world => code.resume call wait resp world

def after (step : CallSection code call) : World := step.result.2

end CallSection

inductive Course (code : Sections World Call) (call : Call) :
    List (CallSection code call) → code.Wait call ⊕ code.Out call → Prop where
  | start {world : World} : Course code call [.start world] (code.start call world).1
  | resume {steps : List (CallSection code call)} {wait : code.Wait call} {resp : code.Resp call wait} {world : World}
      (waits : Course code call steps (.inl wait)) :
      Course code call (steps ++ [.resume wait resp world]) (code.resume call wait resp world).1

def alone (code : Sections World Call) (call : Call) (answer : (wait : code.Wait call) → code.Resp call wait) :
    Nat → World → List (CallSection code call) × (code.Wait call ⊕ code.Out call) × World
  | 0, world => ([.start world], code.start call world)
  | n + 1, world =>
      match alone code call answer n world with
      | (steps, .inl wait, world) =>
          (steps ++ [.resume wait (answer wait) world], code.resume call wait (answer wait) world)
      | ended => ended

omit [DecidableEq ι] in
theorem alone_course {call : Call} {answer : (wait : code.Wait call) → code.Resp call wait} {n : Nat} {world : World} :
    Course code call (alone code call answer n world).1 (alone code call answer n world).2.1 := by
  induction n with
  | zero => exact .start
  | succ n ih =>
      unfold alone
      cases hrun : alone code call answer n world with
      | mk steps ended =>
          rw [hrun] at ih
          obtain ⟨wait | out, world'⟩ := ended
          · exact .resume ih
          · exact ih

section Total
variable [Fintype ι]

def Tasks.total (s : Tasks code ι) (weight : (Σ call, code.Wait call) → Nat) : Nat :=
  ∑ client, ((s.waiting client).map weight).getD 0

theorem total_after (s : Tasks code ι) (weight : (Σ call, code.Wait call) → Nat) (client : ι) (call : Call)
    (result : (code.Wait call ⊕ code.Out call) × World) :
    (s.after client call result).total weight + ((s.waiting client).map weight).getD 0 =
      s.total weight + ((pending? result).map weight).getD 0 := by
  unfold Tasks.total
  rw [after_waiting, ← Finset.add_sum_erase _ _ (Finset.mem_univ client),
    ← Finset.add_sum_erase _ (fun c => ((s.waiting c).map weight).getD 0) (Finset.mem_univ client),
    Function.update_self]
  have hothers : ∑ c ∈ Finset.univ.erase client,
      ((Function.update s.waiting client (pending? result) c).map weight).getD 0 =
        ∑ c ∈ Finset.univ.erase client, ((s.waiting c).map weight).getD 0 :=
    Finset.sum_congr rfl fun c hc => by rw [Function.update_of_ne (Finset.ne_of_mem_erase hc)]
  rw [hothers]
  omega

omit [DecidableEq ι] in
theorem total_idle {weight : (Σ call, code.Wait call) → Nat} (hidle : ∀ client, s.waiting client = none) :
    s.total weight = 0 :=
  Finset.sum_eq_zero fun client _ => by rw [hidle client]; rfl

end Total

/-! ## Steps that are computed -/

/-- What a client does next: it starts a call, or goes on with the answer to whatever it waits for. -/
inductive Move (code : Sections World Call) where
  | start (call : Call)
  | resume (answer : (call : Call) → (wait : code.Wait call) → code.Resp call wait)

def Tasks.next? (s : Tasks code ι) : ι × Move code → Option (Tasks code ι)
  | (client, .start call) =>
      match s.waiting client with
      | some _ => none
      | none => some (s.after client call (code.start call s.world))
  | (client, .resume answer) =>
      match s.waiting client with
      | none => none
      | some ⟨call, wait⟩ => some (s.after client call (code.resume call wait (answer call wait) s.world))

theorem step_of_next? {move : ι × Move code} (h : s.next? move = some t) : ∃ l, Step code s l t := by
  obtain ⟨client, call | answer⟩ := move
  · simp only [Tasks.next?] at h
    split at h
    · cases h
    · rename_i hidle
      cases h
      exact ⟨_, .start hidle⟩
  · simp only [Tasks.next?] at h
    split at h
    · cases h
    · rename_i call wait hwaits
      cases h
      exact ⟨_, .resume hwaits⟩

theorem run_of_next? {moves : List (ι × Move code)} (h : moves.foldlM Tasks.next? s = some t) :
    ∃ labels, Run (Step code) s labels t := by
  induction moves generalizing s with
  | nil =>
      cases h
      exact ⟨[], .nil _⟩
  | cons move moves ih =>
      rw [List.foldlM_cons] at h
      obtain ⟨m, hm, h⟩ := Option.bind_eq_some_iff.1 h
      obtain ⟨l, hl⟩ := step_of_next? hm
      obtain ⟨labels, hrun⟩ := ih h
      exact ⟨l :: labels, .cons hl hrun⟩

theorem step_deterministic {t' : Tasks code ι} (h : Step code s l t) (h' : Step code s l t') : t = t' := by
  cases h <;> cases h' <;> rfl

def Tasks.move? (s : Tasks code ι) : ι × Move code → Option (TaskLabel code ι × Tasks code ι)
  | (client, .start call) =>
      match s.waiting client with
      | some _ => none
      | none => some (.start client call, s.after client call (code.start call s.world))
  | (client, .resume answer) =>
      match s.waiting client with
      | none => none
      | some ⟨call, wait⟩ =>
          some (.resume client call wait (answer call wait),
            s.after client call (code.resume call wait (answer call wait) s.world))

theorem step_of_move? {move : ι × Move code} (h : s.move? move = some (l, t)) : Step code s l t := by
  obtain ⟨client, call | answer⟩ := move
  · simp only [Tasks.move?] at h
    split at h
    · cases h
    · rename_i hidle
      cases h
      exact .start hidle
  · simp only [Tasks.move?] at h
    split at h
    · cases h
    · rename_i call wait hwaits
      cases h
      exact .resume hwaits

/-- The labels of the moves and the state at their end, if each of the steps is as `ok` says. -/
def Tasks.trace? (ok : Tasks code ι → TaskLabel code ι → Bool) (s : Tasks code ι) :
    List (ι × Move code) → Option (List (TaskLabel code ι) × Tasks code ι)
  | [] => some ([], s)
  | move :: moves =>
      match s.move? move with
      | none => none
      | some (l, t) =>
          if ok s l then (t.trace? ok moves).map fun rest => (l :: rest.1, rest.2) else none

/-- The moves make a run, and all its steps are as `ok` says. -/
theorem run_of_trace? {ok : Tasks code ι → TaskLabel code ι → Bool} {moves : List (ι × Move code)}
    {labels : List (TaskLabel code ι)} (h : s.trace? ok moves = some (labels, t)) :
    Run (Step code) s labels t ∧ Run.Every (Step code) (fun s l _ => ok s l = true) s labels := by
  induction moves generalizing s labels with
  | nil =>
      cases h
      exact ⟨.nil _, Run.every_nil⟩
  | cons move moves ih =>
      simp only [Tasks.trace?] at h
      split at h
      · cases h
      · rename_i l m hmove
        split at h
        · rename_i hok
          obtain ⟨⟨rest, u⟩, hrest, heq⟩ := Option.map_eq_some_iff.1 h
          cases heq
          obtain ⟨hrun, hevery⟩ := ih hrest
          have hstep := step_of_move? hmove
          refine ⟨.cons hstep hrun, Run.every_cons fun m' hstep' => ?_⟩
          cases step_deterministic hstep hstep'
          exact ⟨hok, hevery⟩
        · cases h

end Sections
