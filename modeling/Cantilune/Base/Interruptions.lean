import Cantilune.Base.Program

/-!
# Programs that are interrupted at their waits

A call runs without interruption up to the first thing it waits for. What is left of it then is a wait; the program
that goes on from there runs, again without interruption, up to the next wait or to the end. In between the other
clients go on.
-/

structure Interruptible (Req : Type) (Resp : Req → Type) (E Call Wait : Type) where
  start : Call → Program Req Resp E (Option Wait)
  resume : Wait → Program Req Resp E (Option Wait)

/-- A world with its clients, each between calls or waiting in one. -/
structure Interrupted (ι Wait S : Type) where
  world : S
  waiting : ι → Option Wait

inductive InterruptedLabel (ι Call Wait : Type) where
  | start (client : ι) (call : Call)
  | resume (client : ι) (wait : Wait)

namespace Interruptible

variable {Req : Type} {Resp : Req → Type} {E Call Wait ι S : Type} (code : Interruptible Req Resp E Call Wait)

def goOn (rest : Wait → Program Req Resp E Unit) : Option Wait → Program Req Resp E Unit
  | none => .done ()
  | some wait => rest wait

def unrolled : Nat → Wait → Program Req Resp E Unit
  | 0, _ => .done ()
  | n + 1, wait => code.resume wait >>= goOn (unrolled n)

/-- A call that is not interrupted, up to this many waits. -/
def whole (n : Nat) (call : Call) : Program Req Resp E Unit := code.start call >>= goOn (code.unrolled n)

/-! ## Calls that interleave -/

section Steps
variable [DecidableEq ι] (act : S → (r : Req) → Resp r → S → Prop)

/-- What a client waits for after a section with this outcome. An exception ends the call. -/
def pending : Except E (Option Wait) → Option Wait
  | .ok wait => wait
  | .error _ => none

/-- A client starts a call, or its call goes on. -/
inductive Step : Interrupted ι Wait S → InterruptedLabel ι Call Wait → Interrupted ι Wait S → Prop where
  | start {s : Interrupted ι Wait S} {client : ι} {call : Call} {out : Except E (Option Wait)} {world : S}
      (idle : s.waiting client = none) (runs : Program.Exec act (code.start call) s.world out world) :
      Step s (.start client call) { world, waiting := Function.update s.waiting client (pending out) }
  | resume {s : Interrupted ι Wait S} {client : ι} {wait : Wait} {out : Except E (Option Wait)} {world : S}
      (waits : s.waiting client = some wait) (runs : Program.Exec act (code.resume wait) s.world out world) :
      Step s (.resume client wait) { world, waiting := Function.update s.waiting client (pending out) }

variable {code act} {s t : Interrupted ι Wait S} {l : InterruptedLabel ι Call Wait}

/-- The world has a property, and so has whatever the clients wait for. -/
structure Sound (I : S → Prop) (J : Wait → Prop) (s : Interrupted ι Wait S) : Prop where
  world : I s.world
  waiting : ∀ client wait, s.waiting client = some wait → J wait

def Lands (I : S → Prop) (J : Wait → Prop) (out : Except E (Option Wait)) (world : S) : Prop :=
  I world ∧ ∀ wait, pending out = some wait → J wait

theorem Sound.update {I : S → Prop} {J : Wait → Prop} (h : Sound I J s) {client : ι} {out : Except E (Option Wait)}
    {world : S} (hlands : Lands I J out world) :
    Sound I J { world, waiting := Function.update s.waiting client (pending out) } where
  world := hlands.1
  waiting other wait hwaiting := by
    dsimp only at hwaiting
    by_cases hother : other = client
    · subst hother
      rw [Function.update_self] at hwaiting
      exact hlands.2 wait hwaiting
    · rw [Function.update_of_ne hother] at hwaiting
      exact h.waiting other wait hwaiting

theorem Sound.step {I : S → Prop} {J : Wait → Prop} (h : Sound I J s) (hstep : Step code act s l t)
    (hstart : ∀ client call out world, l = .start client call →
      Program.Exec act (code.start call) s.world out world → Lands I J out world)
    (hresume : ∀ client wait out world, l = .resume client wait → J wait →
      Program.Exec act (code.resume wait) s.world out world → Lands I J out world) : Sound I J t := by
  cases hstep with
  | start idle runs => exact h.update (hstart _ _ _ _ rfl runs)
  | resume waits runs => exact h.update (hresume _ _ _ _ rfl (h.waiting _ _ waits) runs)

end Steps

/-! ## Steps that are computed -/

section Computed
variable [DecidableEq ι] (answer : S → (r : Req) → Option (Resp r × S))

def next? (s : Interrupted ι Wait S) : ι × Option Call → Option (Interrupted ι Wait S)
  | (client, some call) =>
      if (s.waiting client).isSome then none
      else ((code.start call).eval? answer s.world).map fun ended =>
        { world := ended.2, waiting := Function.update s.waiting client (pending ended.1) }
  | (client, none) => (s.waiting client).bind fun wait =>
      ((code.resume wait).eval? answer s.world).map fun ended =>
        { world := ended.2, waiting := Function.update s.waiting client (pending ended.1) }

def label? (s : Interrupted ι Wait S) : ι × Option Call → Option (InterruptedLabel ι Call Wait)
  | (client, some call) => some (.start client call)
  | (client, none) => (s.waiting client).map (.resume client)

def allowed? (allows : Interrupted ι Wait S → InterruptedLabel ι Call Wait → Bool) (s : Interrupted ι Wait S)
    (move : ι × Option Call) : Option (Interrupted ι Wait S) :=
  (label? s move).bind fun l => if allows s l then code.next? answer s move else none

variable {code answer} {act : S → (r : Req) → Resp r → S → Prop} {s t : Interrupted ι Wait S}

theorem step_of_next? (hanswer : ∀ s r answered, answer s r = some answered → act s r answered.1 answered.2)
    {move : ι × Option Call} {l : InterruptedLabel ι Call Wait} (hlabel : label? s move = some l)
    (h : code.next? answer s move = some t) : Step code act s l t := by
  obtain ⟨client, _ | call⟩ := move
  · obtain ⟨wait, hwaits, h⟩ := Option.bind_eq_some_iff.1 h
    obtain ⟨⟨out, world⟩, heval, rfl⟩ := Option.map_eq_some_iff.1 h
    obtain ⟨wait', hwaits', rfl⟩ := Option.map_eq_some_iff.1 hlabel
    cases hwaits.symm.trans hwaits'
    exact .resume hwaits (Program.exec_of_eval? hanswer heval)
  · cases hlabel
    simp only [next?] at h
    split at h
    · cases h
    · rename_i hidle
      obtain ⟨⟨out, world⟩, heval, rfl⟩ := Option.map_eq_some_iff.1 h
      exact .start (Option.not_isSome_iff_eq_none.1 hidle) (Program.exec_of_eval? hanswer heval)

theorem run_of_allowed? {allows : Interrupted ι Wait S → InterruptedLabel ι Call Wait → Bool}
    (hanswer : ∀ s r answered, answer s r = some answered → act s r answered.1 answered.2)
    {moves : List (ι × Option Call)} (h : moves.foldlM (code.allowed? answer allows) s = some t) :
    ∃ labels, Run (fun m l m' => Step code act m l m' ∧ allows m l = true) s labels t := by
  induction moves generalizing s with
  | nil =>
      cases h
      exact ⟨[], .nil _⟩
  | cons move moves ih =>
      rw [List.foldlM_cons] at h
      obtain ⟨m, hm, h⟩ := Option.bind_eq_some_iff.1 h
      obtain ⟨l, hlabel, hm⟩ := Option.bind_eq_some_iff.1 hm
      obtain ⟨hallows, hm⟩ := Option.ite_none_right_eq_some.1 hm
      obtain ⟨labels, hrun⟩ := ih h
      exact ⟨l :: labels, .cons ⟨step_of_next? hanswer hlabel hm, hallows⟩ hrun⟩

end Computed

end Interruptible
