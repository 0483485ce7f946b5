import Cantilune.Base.Runs
import Mathlib.Logic.Function.Basic

/-!
# Programs over a shared store

A program asks a store one request after the other and goes on with the responses; it ends with a value or an
exception. Run on its own it is a relation on the states of the store. Several programs interleave request by
request, and what all their requests keep up, every interleaving keeps up.
-/

/-- A program over the requests `Req`, whose responses have the types `Resp`. -/
inductive Program (Req : Type) (Resp : Req → Type) (E α : Type) : Type where
  | done (a : α)
  | fail (e : E)
  | ask (r : Req) (next : Resp r → Program Req Resp E α)

namespace Program

variable {Req : Type} {Resp : Req → Type} {E α β : Type}

def bind (p : Program Req Resp E α) (f : α → Program Req Resp E β) : Program Req Resp E β :=
  match p with
  | done a => f a
  | fail e => fail e
  | ask r next => ask r fun resp => (next resp).bind f

instance : Monad (Program Req Resp E) where
  pure := done
  bind := bind

/-- Goes on after an exception. -/
def handle (p : Program Req Resp E α) (f : E → Program Req Resp E α) : Program Req Resp E α :=
  match p with
  | done a => done a
  | fail e => f e
  | ask r next => ask r fun resp => (next resp).handle f

def request (r : Req) : Program Req Resp E (Resp r) := ask r done

def ofExcept : Except E α → Program Req Resp E α
  | .ok a => done a
  | .error e => fail e

theorem bind_eq (p : Program Req Resp E α) (f : α → Program Req Resp E β) : (p >>= f) = p.bind f := rfl

theorem bind_assoc {γ : Type} (p : Program Req Resp E α) (f : α → Program Req Resp E β)
    (g : β → Program Req Resp E γ) : (p >>= f) >>= g = p >>= fun a => f a >>= g := by
  induction p with
  | done a => rfl
  | fail e => rfl
  | ask r next ih => exact congrArg (ask r) (funext ih)

theorem bind_done (p : Program Req Resp E Unit) : (p >>= fun _ => done ()) = p := by
  induction p with
  | done a => rfl
  | fail e => rfl
  | ask r next ih => exact congrArg (ask r) (funext ih)

theorem handle_fail (p : Program Req Resp E α) : (p.handle fun e => fail e) = p := by
  induction p with
  | done a => rfl
  | fail e => rfl
  | ask r next ih => exact congrArg (ask r) (funext ih)

/-- The exceptions of a sequence are renamed part by part. -/
theorem handle_fail_bind (p : Program Req Resp E α) (f : α → Program Req Resp E β) (rename : E → E) :
    (p >>= f).handle (fun e => fail (rename e)) =
      p.handle (fun e => fail (rename e)) >>= fun a => (f a).handle fun e => fail (rename e) := by
  induction p with
  | done a => rfl
  | fail e => rfl
  | ask r next ih => exact congrArg (ask r) (funext ih)

/-! ## Requests -/

/-- Whatever the responses, every request that the program makes has the property. -/
def Asks (P : Req → Prop) : Program Req Resp E α → Prop
  | done _ => True
  | fail _ => True
  | ask r next => P r ∧ ∀ resp, (next resp).Asks P

variable {P Q : Req → Prop} {p : Program Req Resp E α}

theorem Asks.mono (hPQ : ∀ r, P r → Q r) (h : p.Asks P) : p.Asks Q := by
  induction p with
  | done a => trivial
  | fail e => trivial
  | ask r next ih => exact ⟨hPQ r h.1, fun resp => ih resp (h.2 resp)⟩

theorem Asks.bind {f : α → Program Req Resp E β} (h : p.Asks P) (hf : ∀ a, (f a).Asks P) : (p >>= f).Asks P := by
  induction p with
  | done a => exact hf a
  | fail e => trivial
  | ask r next ih => exact ⟨h.1, fun resp => ih resp (h.2 resp)⟩

theorem Asks.handle {f : E → Program Req Resp E α} (h : p.Asks P) (hf : ∀ e, (f e).Asks P) :
    (p.handle f).Asks P := by
  induction p with
  | done a => trivial
  | fail e => exact hf e
  | ask r next ih => exact ⟨h.1, fun resp => ih resp (h.2 resp)⟩

theorem asks_ofExcept {x : Except E α} : (ofExcept x : Program Req Resp E α).Asks P := by
  cases x <;> trivial

theorem asks_request {r : Req} (h : P r) : (request r : Program Req Resp E (Resp r)).Asks P :=
  ⟨h, fun _ => trivial⟩

/-- As long as the responses are as `ok` says, every request that the program makes has the property, and its
value has the property `Q`. -/
def AsksIf (ok : (r : Req) → Resp r → Prop) (P : Req → Prop) (Q : α → Prop) : Program Req Resp E α → Prop
  | done a => Q a
  | fail _ => True
  | ask r next => P r ∧ ∀ resp, ok r resp → (next resp).AsksIf ok P Q

section AsksIf
variable {ok : (r : Req) → Resp r → Prop} {post : α → Prop} {post' : β → Prop}

theorem Asks.asksIf (h : p.Asks P) : p.AsksIf ok P fun _ => True := by
  induction p with
  | done a => trivial
  | fail e => trivial
  | ask r next ih => exact ⟨h.1, fun resp _ => ih resp (h.2 resp)⟩

theorem AsksIf.bind {f : α → Program Req Resp E β} (h : p.AsksIf ok P post)
    (hf : ∀ a, post a → (f a).AsksIf ok P post') : (p >>= f).AsksIf ok P post' := by
  induction p with
  | done a => exact hf a h
  | fail e => trivial
  | ask r next ih => exact ⟨h.1, fun resp hok => ih resp (h.2 resp hok)⟩

/-- A first part whose value does not matter. -/
theorem AsksIf.after {f : α → Program Req Resp E β} (h : p.Asks P) (hf : ∀ a, (f a).AsksIf ok P post') :
    (p >>= f).AsksIf ok P post' :=
  h.asksIf.bind fun a _ => hf a

theorem asksIf_bind_request {r : Req} {f : Resp r → Program Req Resp E β} (h : P r)
    (hf : ∀ resp, ok r resp → (f resp).AsksIf ok P post') : (request r >>= f).AsksIf ok P post' :=
  ⟨h, hf⟩

end AsksIf

/-- Whatever the responses, the program makes a request with the property before it ends. -/
def Must (P : Req → Prop) : Program Req Resp E α → Prop
  | done _ => False
  | fail _ => False
  | ask r next => P r ∨ ∀ resp, (next resp).Must P

/-- Whatever the responses, the program ends without an exception, and every request it makes has the property. -/
def AsksOnly (P : Req → Prop) : Program Req Resp E α → Prop
  | done _ => True
  | fail _ => False
  | ask r next => P r ∧ ∀ resp, (next resp).AsksOnly P

theorem AsksOnly.asks (h : p.AsksOnly P) : p.Asks P := by
  induction p with
  | done a => trivial
  | fail e => trivial
  | ask r next ih => exact ⟨h.1, fun resp => ih resp (h.2 resp)⟩

theorem AsksOnly.bind {f : α → Program Req Resp E β} (h : p.AsksOnly P) (hf : ∀ a, (f a).AsksOnly P) :
    (p >>= f).AsksOnly P := by
  induction p with
  | done a => exact hf a
  | fail e => cases h
  | ask r next ih => exact ⟨h.1, fun resp => ih resp (h.2 resp)⟩

/-! ## A program on its own -/

section Exec
variable {S : Type} (act : S → (r : Req) → Resp r → S → Prop)

/-- The program runs from one state of the store to another, with this outcome. -/
inductive Exec : Program Req Resp E α → S → Except E α → S → Prop where
  | done (a : α) (s : S) : Exec (.done a) s (.ok a) s
  | fail (e : E) (s : S) : Exec (.fail e) s (.error e) s
  | ask {r : Req} {next : Resp r → Program Req Resp E α} {resp : Resp r} {s t u : S} {out : Except E α}
      (head : act s r resp t) (tail : Exec (next resp) t out u) : Exec (.ask r next) s out u

variable {act} {s t : S} {out : Except E α}

theorem exec_done {a : α} : Exec act (.done a : Program Req Resp E α) s out t ↔ out = .ok a ∧ t = s := by
  constructor
  · rintro ⟨⟩
    exact ⟨rfl, rfl⟩
  · rintro ⟨rfl, rfl⟩
    exact .done a t

theorem exec_fail {e : E} : Exec act (.fail e : Program Req Resp E α) s out t ↔ out = .error e ∧ t = s := by
  constructor
  · rintro ⟨⟩
    exact ⟨rfl, rfl⟩
  · rintro ⟨rfl, rfl⟩
    exact .fail e t

theorem exec_ask {r : Req} {next : Resp r → Program Req Resp E α} :
    Exec act (.ask r next) s out t ↔ ∃ resp m, act s r resp m ∧ Exec act (next resp) m out t := by
  constructor
  · rintro (_ | _ | ⟨head, tail⟩)
    exact ⟨_, _, head, tail⟩
  · rintro ⟨resp, m, head, tail⟩
    exact .ask head tail

/-- A sequence ends at the first exception, or runs on from where its first part ended. -/
theorem exec_bind {f : α → Program Req Resp E β} {out : Except E β} : Exec act (p >>= f) s out t ↔
    (∃ a m, Exec act p s (.ok a) m ∧ Exec act (f a) m out t) ∨
      ∃ e, Exec act p s (.error e) t ∧ out = .error e := by
  induction p generalizing s with
  | done a =>
      simp only [exec_done, Except.ok.injEq, reduceCtorEq, false_and, exists_false, or_false]
      constructor
      · exact fun h => ⟨a, s, ⟨rfl, rfl⟩, h⟩
      · rintro ⟨_, _, ⟨rfl, rfl⟩, h⟩
        exact h
  | fail e =>
      have hbind : ((fail e : Program Req Resp E α) >>= f) = fail e := rfl
      simp only [hbind, exec_fail, Except.error.injEq, reduceCtorEq, false_and, exists_false, false_or]
      constructor
      · rintro ⟨rfl, rfl⟩
        exact ⟨e, ⟨rfl, rfl⟩, rfl⟩
      · rintro ⟨_, ⟨rfl, rfl⟩, rfl⟩
        exact ⟨rfl, rfl⟩
  | ask r next ih =>
      have hbind : (ask r next >>= f) = ask r fun resp => next resp >>= f := rfl
      simp only [hbind, exec_ask, ih]
      constructor
      · rintro ⟨resp, m, hact, ⟨a, m', h, h'⟩ | ⟨e, h, rfl⟩⟩
        · exact .inl ⟨a, m', ⟨resp, m, hact, h⟩, h'⟩
        · exact .inr ⟨e, ⟨resp, m, hact, h⟩, rfl⟩
      · rintro (⟨a, m', ⟨resp, m, hact, h⟩, h'⟩ | ⟨e, ⟨resp, m, hact, h⟩, rfl⟩)
        · exact ⟨resp, m, hact, .inl ⟨a, m', h, h'⟩⟩
        · exact ⟨resp, m, hact, .inr ⟨e, h, rfl⟩⟩

theorem exec_handle {f : E → Program Req Resp E α} : Exec act (p.handle f) s out t ↔
    (∃ a, Exec act p s (.ok a) t ∧ out = .ok a) ∨ ∃ e m, Exec act p s (.error e) m ∧ Exec act (f e) m out t := by
  induction p generalizing s with
  | done a =>
      have hhandle : (done a : Program Req Resp E α).handle f = done a := rfl
      simp only [hhandle, exec_done, Except.ok.injEq, reduceCtorEq, false_and, exists_false, or_false]
      constructor
      · rintro ⟨rfl, rfl⟩
        exact ⟨a, ⟨rfl, rfl⟩, rfl⟩
      · rintro ⟨_, ⟨rfl, rfl⟩, rfl⟩
        exact ⟨rfl, rfl⟩
  | fail e =>
      have hhandle : (fail e : Program Req Resp E α).handle f = f e := rfl
      simp only [hhandle, exec_fail, Except.error.injEq, reduceCtorEq, false_and, exists_false, false_or]
      constructor
      · exact fun h => ⟨e, s, ⟨rfl, rfl⟩, h⟩
      · rintro ⟨_, _, ⟨rfl, rfl⟩, h⟩
        exact h
  | ask r next ih =>
      have hhandle : (ask r next).handle f = ask r fun resp => (next resp).handle f := rfl
      simp only [hhandle, exec_ask, ih]
      constructor
      · rintro ⟨resp, m, hact, ⟨a, h, rfl⟩ | ⟨e, m', h, h'⟩⟩
        · exact .inl ⟨a, ⟨resp, m, hact, h⟩, rfl⟩
        · exact .inr ⟨e, m', ⟨resp, m, hact, h⟩, h'⟩
      · rintro (⟨a, ⟨resp, m, hact, h⟩, rfl⟩ | ⟨e, m', ⟨resp, m, hact, h⟩, h'⟩)
        · exact ⟨resp, m, hact, .inl ⟨a, h, rfl⟩⟩
        · exact ⟨resp, m, hact, .inr ⟨e, m', h, h'⟩⟩

theorem exec_request {r : Req} {out : Except E (Resp r)} :
    Exec act (request r : Program Req Resp E (Resp r)) s out t ↔ ∃ resp, act s r resp t ∧ out = .ok resp := by
  unfold request
  simp only [exec_ask, exec_done]
  constructor
  · rintro ⟨resp, m, hact, rfl, rfl⟩
    exact ⟨resp, hact, rfl⟩
  · rintro ⟨resp, hact, rfl⟩
    exact ⟨resp, t, hact, rfl, rfl⟩

theorem exec_exists (hact : ∀ s r, ∃ resp t, act s r resp t) (p : Program Req Resp E α) (s : S) :
    ∃ out t, Exec act p s out t := by
  induction p generalizing s with
  | done a => exact ⟨.ok a, s, .done a s⟩
  | fail e => exact ⟨.error e, s, .fail e s⟩
  | ask r next ih =>
      obtain ⟨resp, m, head⟩ := hact s r
      obtain ⟨out, t, tail⟩ := ih resp m
      exact ⟨out, t, .ask head tail⟩

/-- Where the program ends when a function answers its requests, if it answers them all. -/
def eval? (answer : S → (r : Req) → Option (Resp r × S)) : Program Req Resp E α → S → Option (Except E α × S)
  | .done a, s => some (.ok a, s)
  | .fail e, s => some (.error e, s)
  | .ask r next, s => (answer s r).bind fun answered => (next answered.1).eval? answer answered.2

theorem exec_of_eval? {answer : S → (r : Req) → Option (Resp r × S)}
    (hanswer : ∀ s r answered, answer s r = some answered → act s r answered.1 answered.2)
    (h : p.eval? answer s = some (out, t)) : Exec act p s out t := by
  induction p generalizing s with
  | done a =>
      cases h
      exact .done a _
  | fail e =>
      cases h
      exact .fail e _
  | ask r next ih =>
      obtain ⟨answered, hanswered, h⟩ := Option.bind_eq_some_iff.1 h
      exact .ask (hanswer s r answered hanswered) (ih answered.1 h)

/-- What every request of the program keeps up holds where the program ends. -/
theorem Exec.invariant {I : S → Prop} (h : Exec act p s out t) (hp : p.Asks P)
    (hact : ∀ s r resp t, P r → act s r resp t → I s → I t) (hs : I s) : I t := by
  induction h with
  | done => exact hs
  | fail => exact hs
  | ask head _ ih => exact ih (hp.2 _) (hact _ _ _ _ hp.1 head hs)

/-- Up to the first request that is told by `stop`, every request of the program has the property. -/
def AsksUntil (stop P : Req → Prop) : Program Req Resp E α → Prop
  | done _ => True
  | fail _ => True
  | ask r next => stop r ∨ P r ∧ ∀ resp, (next resp).AsksUntil stop P

section AsksUntil
variable {stop : Req → Prop}

theorem AsksUntil.bind {f : α → Program Req Resp E β} (h : p.AsksUntil stop P) (hf : ∀ a, (f a).AsksUntil stop P) :
    (p >>= f).AsksUntil stop P := by
  induction p with
  | done a => exact hf a
  | fail e => trivial
  | ask r next ih =>
      rcases h with hstop | ⟨hr, h⟩
      · exact .inl hstop
      · exact .inr ⟨hr, fun resp => ih resp (h resp)⟩

theorem asksUntil_request {r : Req} (h : stop r ∨ P r) :
    (request r : Program Req Resp E (Resp r)).AsksUntil stop P :=
  h.imp id fun h => ⟨h, fun _ => trivial⟩

end AsksUntil

theorem Exec.keeps {I : S → Prop} (h : Exec act p s out t) (hact : ∀ s r resp t, act s r resp t → I s → I t)
    (hs : I s) : I t := by
  induction h with
  | done => exact hs
  | fail => exact hs
  | ask head _ ih => exact ih (hact _ _ _ _ head hs)

/-- Where the program ends, it has made a request of those told by `stop`, or what the others keep up holds. -/
theorem Exec.invariant_until {stop : Req → Prop} (stopped I : S → Prop) (h : Exec act p s out t)
    (hp : p.AsksUntil stop P) (hstop : ∀ s r resp t, stop r → act s r resp t → stopped t)
    (hstopped : ∀ s r resp t, act s r resp t → stopped s → stopped t)
    (hact : ∀ s r resp t, P r → act s r resp t → I s → I t) (hs : I s) : stopped t ∨ I t := by
  induction h with
  | done => exact .inr hs
  | fail => exact .inr hs
  | ask head tail ih =>
      rcases hp with hr | ⟨hr, hp⟩
      · exact .inl (tail.keeps hstopped (hstop _ _ _ _ hr head))
      · exact ih (hp _) (hact _ _ _ _ hr head hs)

theorem Exec.invariant_of_asksIf {ok : (r : Req) → Resp r → Prop} {Q : α → Prop} {I : S → Prop}
    (h : Exec act p s out t) (hp : p.AsksIf ok P Q) (hact : ∀ s r resp t, P r → act s r resp t → I s → ok r resp ∧ I t) (hs : I s) : I t := by
  induction h with
  | done => exact hs
  | fail => exact hs
  | ask head _ ih =>
      obtain ⟨hok, ht⟩ := hact _ _ _ _ hp.1 head hs
      exact ih (hp.2 _ hok) ht

theorem Exec.value_of_asksIf {ok : (r : Req) → Resp r → Prop} {Q : α → Prop} {I : S → Prop} {a : α}
    (h : Exec act p s (.ok a) t) (hp : p.AsksIf ok P Q)
    (hact : ∀ s r resp t, P r → act s r resp t → I s → ok r resp ∧ I t) (hs : I s) : Q a := by
  generalize hout : Except.ok a = out at h
  induction h with
  | done =>
      cases hout
      exact hp
  | fail => cases hout
  | ask head _ ih =>
      obtain ⟨hok, ht⟩ := hact _ _ _ _ hp.1 head hs
      exact ih (hp.2 _ hok) ht hout

/-- Wherever the program ends, its value is as `post` says of the state it leaves, its exception as `fails` says. -/
def Ensures (act : S → (r : Req) → Resp r → S → Prop) (fails : E → S → Prop) (post : α → S → Prop) :
    Program Req Resp E α → S → Prop
  | .done a, s => post a s
  | .fail e, s => fails e s
  | .ask r next, s => ∀ resp t, act s r resp t → (next resp).Ensures act fails post t

section Ensures
variable {fails : E → S → Prop} {mid : α → S → Prop} {post : β → S → Prop}

theorem Ensures.bind {f : α → Program Req Resp E β} (h : p.Ensures act fails mid s)
    (hf : ∀ a t, mid a t → (f a).Ensures act fails post t) : (p >>= f).Ensures act fails post s := by
  induction p generalizing s with
  | done a => exact hf a s h
  | fail e => exact h
  | ask r next ih => exact fun resp t head => ih resp (h resp t head)

/-- Where every response leads on, what follows a first part counts for the values alone that it ends with. -/
theorem Ensures.bind_congr {f g : α → Program Req Resp E β} (hact : ∀ s r resp, ∃ t, act s r resp t)
    (h : p.Ensures act fails mid s) (hfg : ∀ a t, mid a t → f a = g a) : (p >>= f) = (p >>= g) := by
  induction p generalizing s with
  | done a => exact hfg a s h
  | fail e => rfl
  | ask r next ih =>
      apply congrArg (ask r)
      funext resp
      obtain ⟨t, head⟩ := hact s r resp
      exact ih resp (h resp t head)

/-- A part whose requests leave the state alone. -/
theorem AsksIf.ensures {Q : α → Prop} (h : p.AsksIf (fun _ _ => True) P Q)
    (hact : ∀ r resp t, P r → act s r resp t → t = s) (hfails : ∀ e, fails e s) :
    p.Ensures act fails (fun a t => t = s ∧ Q a) s := by
  induction p with
  | done a => exact ⟨rfl, h⟩
  | fail e => exact hfails e
  | ask r next ih =>
      intro resp t head
      obtain rfl := hact r resp t h.1 head
      exact ih resp (h.2 resp trivial)

end Ensures

/-! ## Stopping on the way -/

variable (act) in
/-- The program, started in one state, may be stopped in the other, between any two of its requests. -/
inductive Stops : Program Req Resp E α → S → S → Prop where
  | here (p : Program Req Resp E α) (s : S) : Stops p s s
  | ask {r : Req} {next : Resp r → Program Req Resp E α} {resp : Resp r} {s t u : S} (head : act s r resp t)
      (tail : Stops (next resp) t u) : Stops (.ask r next) s u

theorem stops_bind {f : α → Program Req Resp E β} (h : Stops act (p >>= f) s t) :
    Stops act p s t ∨ ∃ a m, Exec act p s (.ok a) m ∧ Stops act (f a) m t := by
  induction p generalizing s with
  | done a => exact .inr ⟨a, s, .done a s, h⟩
  | fail e =>
      cases h with
      | here => exact .inl (.here _ _)
  | ask r next ih =>
      cases h with
      | here => exact .inl (.here _ _)
      | ask head tail =>
          rcases ih _ tail with hstop | ⟨a, m, hexec, hstop⟩
          · exact .inl (.ask head hstop)
          · exact .inr ⟨a, m, .ask head hexec, hstop⟩

theorem stops_bind_request {r : Req} {f : Resp r → Program Req Resp E β} (h : Stops act (request r >>= f) s t) :
    t = s ∨ ∃ resp m, act s r resp m ∧ Stops act (f resp) m t := by
  cases h with
  | here => exact .inl rfl
  | ask head tail => exact .inr ⟨_, _, head, tail⟩

theorem Stops.invariant_of_asksIf {ok : (r : Req) → Resp r → Prop} {Q : α → Prop} {I : S → Prop}
    (h : Stops act p s t) (hp : p.AsksIf ok P Q)
    (hact : ∀ s r resp t, P r → act s r resp t → I s → ok r resp ∧ I t) (hs : I s) : I t := by
  induction h with
  | here => exact hs
  | ask head _ ih =>
      obtain ⟨hok, ht⟩ := hact _ _ _ _ hp.1 head hs
      exact ih (hp.2 _ hok) ht

theorem Stops.invariant {I : S → Prop} (h : Stops act p s t) (hp : p.Asks P)
    (hact : ∀ s r resp t, P r → act s r resp t → I s → I t) (hs : I s) : I t :=
  h.invariant_of_asksIf (hp.asksIf : p.AsksIf (fun _ _ => True) P _)
    (fun s r resp t hP hstep hI => ⟨trivial, hact s r resp t hP hstep hI⟩) hs

/-- Where the program is after this many requests, if a function answers them. -/
def stop? (answer : S → (r : Req) → Option (Resp r × S)) : Nat → Program Req Resp E α → S → Option S
  | 0, _, s => some s
  | _ + 1, .done _, _ => none
  | _ + 1, .fail _, _ => none
  | n + 1, .ask r next, s => (answer s r).bind fun answered => stop? answer n (next answered.1) answered.2

theorem stops_of_stop? {answer : S → (r : Req) → Option (Resp r × S)}
    (hanswer : ∀ s r answered, answer s r = some answered → act s r answered.1 answered.2) {n : Nat}
    (h : p.stop? answer n s = some t) : Stops act p s t := by
  induction n generalizing p s with
  | zero =>
      cases h
      exact .here p _
  | succ n ih =>
      cases p with
      | done a => cases h
      | fail e => cases h
      | ask r next =>
          obtain ⟨answered, hanswered, h⟩ := Option.bind_eq_some_iff.1 h
          exact .ask (hanswer s r answered hanswered) (ih h)

/-! ## Conditions before and after -/

variable (act)

/-- Run from a state with `pre`, the program ends with an outcome and in a state that have `post`. -/
def Triple (pre : S → Prop) (p : Program Req Resp E α) (post : Except E α → S → Prop) : Prop :=
  ∀ s out t, pre s → Exec act p s out t → post out t

/-- The program ends without an exception. -/
def Returns (pre : S → Prop) (p : Program Req Resp E α) (post : α → S → Prop) : Prop :=
  Triple act pre p fun out t => ∃ a, out = .ok a ∧ post a t

variable {act} {pre : S → Prop} {post : Except E α → S → Prop}

theorem triple_done {a : α} (h : ∀ s, pre s → post (.ok a) s) : Triple act pre (.done a) post := by
  intro s out t hs hexec
  obtain ⟨rfl, rfl⟩ := exec_done.1 hexec
  exact h t hs

theorem triple_fail {e : E} (h : ∀ s, pre s → post (.error e) s) : Triple act pre (.fail e) post := by
  intro s out t hs hexec
  obtain ⟨rfl, rfl⟩ := exec_fail.1 hexec
  exact h t hs

theorem Triple.weaken {post' : Except E α → S → Prop} (h : Triple act pre p post)
    (hpost : ∀ out t, post out t → post' out t) : Triple act pre p post' := by
  intro s out t hs hexec
  exact hpost out t (h s out t hs hexec)

theorem Triple.handle {f : E → Program Req Resp E α} {mid : Except E α → S → Prop}
    (hp : Triple act pre p mid) (hok : ∀ a s, mid (.ok a) s → post (.ok a) s)
    (herror : ∀ e, Triple act (mid (.error e)) (f e) post) : Triple act pre (p.handle f) post := by
  intro s out t hs hexec
  rcases exec_handle.1 hexec with ⟨a, hhead, rfl⟩ | ⟨e, m, hhead, htail⟩
  · exact hok a t (hp s _ t hs hhead)
  · exact herror e m out t (hp s _ m hs hhead) htail

/-- A run of a sequence passes through the end of its first part. -/
theorem Returns.of_bind {f : α → Program Req Resp E β} {mid : α → S → Prop} {out : Except E β}
    (hp : Returns act pre p mid) (hs : pre s) (hexec : Exec act (p >>= f) s out t) :
    ∃ a m, mid a m ∧ Exec act (f a) m out t := by
  rcases exec_bind.1 hexec with ⟨a, m, hhead, htail⟩ | ⟨e, hhead, rfl⟩
  · obtain ⟨b, hb, hmid⟩ := hp s _ m hs hhead
    cases hb
    exact ⟨a, m, hmid, htail⟩
  · obtain ⟨b, hb, _⟩ := hp s _ t hs hhead
    cases hb

theorem Returns.weaken {post post' : α → S → Prop} (h : Returns act pre p post)
    (hpost : ∀ a t, post a t → post' a t) : Returns act pre p post' := by
  refine Triple.weaken h ?_
  rintro out t ⟨a, rfl, ha⟩
  exact ⟨a, rfl, hpost a t ha⟩

theorem returns_done {a : α} {post : α → S → Prop} (h : ∀ s, pre s → post a s) :
    Returns act pre (.done a : Program Req Resp E α) post :=
  triple_done fun s hs => ⟨a, rfl, h s hs⟩

theorem returns_request {r : Req} {post : Resp r → S → Prop} (h : ∀ s resp t, pre s → act s r resp t → post resp t) :
    Returns act pre (request r : Program Req Resp E (Resp r)) post := by
  intro s out t hs hexec
  obtain ⟨resp, hact, rfl⟩ := exec_request.1 hexec
  exact ⟨resp, rfl, h s resp t hs hact⟩

/-- A program that does not throw, all of whose requests keep the invariant up. -/
theorem AsksOnly.returns {I : S → Prop} (hp : p.AsksOnly P) (hact : ∀ s r resp t, P r → act s r resp t → I s → I t) :
    Returns act I p fun _ t => I t := by
  intro s out t hs hexec
  induction hexec with
  | done a s => exact ⟨a, rfl, hs⟩
  | fail => cases hp
  | ask head _ ih => exact ih (hp.2 _) (hact _ _ _ _ hp.1 head hs)

theorem returns_ofExcept {x : Except E α} {a : α} (hx : x = .ok a) :
    Returns act pre (ofExcept x : Program Req Resp E α) fun b s => b = a ∧ pre s := by
  subst hx
  exact returns_done fun s hs => ⟨rfl, hs⟩

variable (act) in
/-- The program keeps the invariant up, and a value that it ends with has the property. -/
def Upholds (I : S → Prop) (p : Program Req Resp E α) (V : α → Prop) : Prop :=
  Triple act I p fun out t => I t ∧ ∀ a, out = .ok a → V a

section Upholds
variable {I : S → Prop} {V : α → Prop} {W : β → Prop}

theorem upholds_done {a : α} (h : V a) : Upholds act I (.done a : Program Req Resp E α) V := by
  refine triple_done fun s hs => ⟨hs, ?_⟩
  rintro b ⟨⟩
  exact h

theorem upholds_fail {e : E} : Upholds act I (.fail e : Program Req Resp E α) V := by
  refine triple_fail fun s hs => ⟨hs, ?_⟩
  rintro b ⟨⟩

theorem Upholds.bind {f : α → Program Req Resp E β} (hp : Upholds act I p V)
    (hf : ∀ a, V a → Upholds act I (f a) W) : Upholds act I (p >>= f) W := by
  intro s out t hs hexec
  rcases exec_bind.1 hexec with ⟨a, m, hhead, htail⟩ | ⟨e, hhead, rfl⟩
  · obtain ⟨hm, hvalue⟩ := hp s _ m hs hhead
    exact hf a (hvalue a rfl) m out t hm htail
  · refine ⟨(hp s _ t hs hhead).1, ?_⟩
    rintro b ⟨⟩

theorem Upholds.handle {f : E → Program Req Resp E α} (hp : Upholds act I p V)
    (hf : ∀ e, Upholds act I (f e) V) : Upholds act I (p.handle f) V := by
  intro s out t hs hexec
  rcases exec_handle.1 hexec with ⟨a, hhead, rfl⟩ | ⟨e, m, hhead, htail⟩
  · exact hp s _ t hs hhead
  · exact hf e m out t (hp s _ m hs hhead).1 htail

theorem upholds_request {r : Req} {V : Resp r → Prop} (h : ∀ s resp t, I s → act s r resp t → I t ∧ V resp) :
    Upholds act I (request r : Program Req Resp E (Resp r)) V := by
  intro s out t hs hexec
  obtain ⟨resp, hact, rfl⟩ := exec_request.1 hexec
  obtain ⟨ht, hvalue⟩ := h s resp t hs hact
  refine ⟨ht, ?_⟩
  rintro _ ⟨⟩
  exact hvalue

end Upholds

end Exec

/-! ## Programs that interleave -/

section Interleaving
variable {ι S Call : Type} [DecidableEq ι]

/-- A store with its clients, each between calls or in the middle of one. -/
structure System (ι Req : Type) (Resp : Req → Type) (E α S : Type) where
  store : S
  running : ι → Option (Program Req Resp E α)

inductive SystemLabel (ι Call : Type) where
  | invoke (client : ι) (call : Call)
  | step (client : ι)

/-- A client starts a call, makes its next request, or ends. -/
inductive SystemStep (act : S → (r : Req) → Resp r → S → Prop) (code : ι → Call → Program Req Resp E α) :
    System ι Req Resp E α S → SystemLabel ι Call → System ι Req Resp E α S → Prop where
  | invoke {s : System ι Req Resp E α S} {client : ι} {call : Call} (idle : s.running client = none) :
      SystemStep act code s (.invoke client call)
        { s with running := Function.update s.running client (some (code client call)) }
  | ask {s : System ι Req Resp E α S} {client : ι} {r : Req} {next : Resp r → Program Req Resp E α}
      {resp : Resp r} {store : S} (busy : s.running client = some (.ask r next)) (head : act s.store r resp store) :
      SystemStep act code s (.step client)
        { store, running := Function.update s.running client (some (next resp)) }
  | done {s : System ι Req Resp E α S} {client : ι} {a : α} (busy : s.running client = some (.done a)) :
      SystemStep act code s (.step client) { s with running := Function.update s.running client none }
  | fail {s : System ι Req Resp E α S} {client : ι} {e : E} (busy : s.running client = some (.fail e)) :
      SystemStep act code s (.step client) { s with running := Function.update s.running client none }

variable {act : S → (r : Req) → Resp r → S → Prop} {code : ι → Call → Program Req Resp E α}
  {s t : System ι Req Resp E α S}

/-- Every client in the middle of a call has only requests of its own kind before it. -/
def System.AllAsk (P : ι → Req → Prop) (s : System ι Req Resp E α S) : Prop :=
  ∀ client p, s.running client = some p → p.Asks (P client)

theorem allAsk_update {P : ι → Req → Prop} (h : s.AllAsk P) {client : ι} {q : Option (Program Req Resp E α)}
    (hq : ∀ p, q = some p → p.Asks (P client)) {store : S} :
    System.AllAsk P { store, running := Function.update s.running client q } := by
  intro other p hp
  by_cases hc : other = client
  · subst hc
    simp only [Function.update_self] at hp
    exact hq p hp
  · simp only [Function.update_of_ne hc] at hp
    exact h other p hp

theorem allAsk_step {P : ι → Req → Prop} {l : SystemLabel ι Call} (hstep : SystemStep act code s l t)
    (hcode : ∀ client call, l = .invoke client call → (code client call).Asks (P client)) (h : s.AllAsk P) :
    t.AllAsk P := by
  cases hstep with
  | @invoke client call idle =>
      refine allAsk_update h fun p hp => ?_
      cases hp
      exact hcode client call rfl
  | @ask client r next resp store busy head =>
      refine allAsk_update h fun p hp => ?_
      cases hp
      exact (h client _ busy).2 resp
  | done => exact allAsk_update h fun p hp => by cases hp
  | fail => exact allAsk_update h fun p hp => by cases hp

theorem must_step {P : Req → Prop} {client : ι} {l : SystemLabel ι Call} {p : Program Req Resp E α}
    (hstep : SystemStep act code s l t) (hbusy : s.running client = some p) (hmust : p.Must P) :
    (∃ p', t.running client = some p' ∧ p'.Must P) ∨ ∃ r resp, P r ∧ act s.store r resp t.store := by
  have hother : ∀ {other : ι} {q : Option (Program Req Resp E α)}, client ≠ other →
      Function.update s.running other q client = some p := by
    intro other q hne
    rw [Function.update_of_ne hne, hbusy]
  cases hstep with
  | @invoke other call idle =>
      refine .inl ⟨p, hother ?_, hmust⟩
      rintro rfl
      rw [idle] at hbusy
      cases hbusy
  | @ask other r next resp store busy head =>
      by_cases hc : client = other
      · subst hc
        rw [busy] at hbusy
        cases hbusy
        rcases hmust with hP | hnext
        · exact .inr ⟨r, resp, hP, head⟩
        · exact .inl ⟨next resp, Function.update_self _ _ _, hnext resp⟩
      · exact .inl ⟨p, hother hc, hmust⟩
  | @done other a busy =>
      refine .inl ⟨p, hother ?_, hmust⟩
      rintro rfl
      rw [busy] at hbusy
      cases hbusy
      exact hmust
  | @fail other e busy =>
      refine .inl ⟨p, hother ?_, hmust⟩
      rintro rfl
      rw [busy] at hbusy
      cases hbusy
      exact hmust

/-- A client that is done has made the request it could not end without, and what that request brought about
holds where every later step keeps it up; `J` is what the steps preserve in any case. -/
theorem holds_of_must {P : Req → Prop} {I : S → Prop} {J : System ι Req Resp E α S → Prop} {client : ι}
    {labels : List (SystemLabel ι Call)} {p : Program Req Resp E α} (r : Run (SystemStep act code) s labels t)
    (hbusy : s.running client = some p) (hmust : p.Must P) (hidle : t.running client = none)
    (hmade : ∀ s r resp t, P r → act s r resp t → I t)
    (hinv : ∀ u l v, l ∈ labels → SystemStep act code u l v → J u → J v)
    (hkeep : ∀ u l v, l ∈ labels → SystemStep act code u l v → J u → I u.store → I v.store) (hs : J s) :
    I t.store := by
  have hreached : J t ∧ ((∃ p', t.running client = some p' ∧ p'.Must P) ∨ I t.store) := by
    refine Run.invariant_of_mem (I := fun u => J u ∧ ((∃ p', u.running client = some p' ∧ p'.Must P) ∨ I u.store)) r ?_
      ⟨hs, .inl ⟨p, hbusy, hmust⟩⟩
    rintro u l v hl hstep ⟨hu, ⟨p', hbusy', hmust'⟩ | hI⟩
    · rcases must_step hstep hbusy' hmust' with hnext | ⟨r, resp, hP, hact⟩
      · exact ⟨hinv u l v hl hstep hu, .inl hnext⟩
      · exact ⟨hinv u l v hl hstep hu, .inr (hmade _ r resp _ hP hact)⟩
    · exact ⟨hinv u l v hl hstep hu, .inr (hkeep u l v hl hstep hu hI)⟩
  rcases hreached.2 with ⟨p', hbusy', _⟩ | hI
  · rw [hidle] at hbusy'
    cases hbusy'
  · exact hI

theorem store_step {P : ι → Req → Prop} {I : S → Prop} {l : SystemLabel ι Call} (hstep : SystemStep act code s l t)
    (hask : s.AllAsk P) (hact : ∀ client s r resp t, P client r → act s r resp t → I s → I t) (h : I s.store) :
    I t.store := by
  cases hstep with
  | invoke => exact h
  | @ask client r next resp store busy head => exact hact client _ r resp _ (hask client _ busy).1 head h
  | done => exact h
  | fail => exact h

/-! ## Steps that are computed -/

section Computed
variable {N : Type} (answer : S → N → (r : Req) → Resp r × S)

/-- The step that a label names, with the reading at which a request takes effect. -/
def System.next? (code : ι → Call → Program Req Resp E α) (s : System ι Req Resp E α S) :
    SystemLabel ι Call × N → Option (System ι Req Resp E α S)
  | (.invoke client call, _) =>
      match s.running client with
      | some _ => none
      | none => some { s with running := Function.update s.running client (some (code client call)) }
  | (.step client, now) =>
      match s.running client with
      | none => none
      | some (.ask r next) =>
          let (resp, store) := answer s.store now r
          some { store, running := Function.update s.running client (some (next resp)) }
      | some (.done _) => some { s with running := Function.update s.running client none }
      | some (.fail _) => some { s with running := Function.update s.running client none }

variable {answer}

theorem systemStep_of_next {l : SystemLabel ι Call × N} (h : s.next? answer code l = some t) :
    SystemStep (fun s r resp t => ∃ now, answer s now r = (resp, t)) code s l.1 t := by
  obtain ⟨l, now⟩ := l
  cases l with
  | invoke client call =>
      simp only [System.next?] at h
      split at h
      · cases h
      · rename_i hidle
        cases h
        exact .invoke hidle
  | step client =>
      simp only [System.next?] at h
      split at h
      · cases h
      · rename_i r next hbusy
        cases h
        exact .ask hbusy ⟨now, rfl⟩
      · rename_i hbusy
        cases h
        exact .done hbusy
      · rename_i hbusy
        cases h
        exact .fail hbusy

theorem run_of_next {ls : List (SystemLabel ι Call × N)} (h : ls.foldlM (System.next? answer code) s = some t) :
    Run (SystemStep (fun s r resp t => ∃ now, answer s now r = (resp, t)) code) s (ls.map Prod.fst) t := by
  revert s
  induction ls with
  | nil =>
      intro s h
      cases h
      exact .nil _
  | cons l ls ih =>
      intro s h
      rw [List.foldlM_cons] at h
      obtain ⟨m, hm, h⟩ := Option.bind_eq_some_iff.1 h
      exact .cons (systemStep_of_next hm) (ih h)

end Computed

end Interleaving

end Program
