import Mathlib.Data.List.Basic
import Mathlib.Data.List.Induction

/-!
# Runs of a labelled step relation

A run takes one step after another, each with its label. What every step preserves, a run preserves; where
a run ends with a difference that no step may make silently, one of its steps made it.
-/

inductive Run {State Label : Type} (step : State → Label → State → Prop) : State → List Label → State → Prop where
  | nil (s : State) : Run step s [] s
  | cons {s t u : State} {a : Label} {as : List Label} (head : step s a t) (tail : Run step t as u) :
      Run step s (a :: as) u

namespace Run

variable {State Label : Type} {step step' : State → Label → State → Prop} {s t u : State} {as bs : List Label}

theorem mono (h : ∀ s a t, step s a t → step' s a t) (r : Run step s as t) : Run step' s as t := by
  induction r with
  | nil s => exact .nil s
  | cons head _ ih => exact .cons (h _ _ _ head) ih

theorem map {State' Label' : Type} {move : State' → Label' → State' → Prop} {f : State → State'} {g : Label → Label'}
    (h : ∀ s a t, step s a t → move (f s) (g a) (f t)) (r : Run step s as t) : Run move (f s) (as.map g) (f t) := by
  induction r with
  | nil s => exact .nil (f s)
  | cons head _ ih => exact .cons (h _ _ _ head) ih

theorem single {a : Label} (h : step s a t) : Run step s [a] t := .cons h (.nil t)

theorem append (r : Run step s as t) (q : Run step t bs u) : Run step s (as ++ bs) u := by
  induction r with
  | nil => exact q
  | cons head _ ih => exact .cons head (ih q)

theorem snoc {a : Label} (r : Run step s as t) (h : step t a u) : Run step s (as ++ [a]) u :=
  r.append (single h)

theorem cons_iff {a : Label} : Run step s (a :: as) t ↔ ∃ m, step s a m ∧ Run step m as t := by
  constructor
  · rintro (_ | ⟨head, tail⟩)
    exact ⟨_, head, tail⟩
  · rintro ⟨m, head, tail⟩
    exact .cons head tail

theorem append_iff : Run step s (as ++ bs) t ↔ ∃ m, Run step s as m ∧ Run step m bs t := by
  constructor
  · intro r
    induction as generalizing s with
    | nil => exact ⟨s, .nil s, r⟩
    | cons a as ih =>
        obtain ⟨m, head, tail⟩ := cons_iff.1 r
        obtain ⟨n, hfirst, hsecond⟩ := ih tail
        exact ⟨n, .cons head hfirst, hsecond⟩
  · rintro ⟨m, hfirst, hsecond⟩
    exact hfirst.append hsecond

theorem nil_iff : Run step s [] t ↔ s = t := by
  constructor
  · rintro ⟨⟩
    rfl
  · rintro rfl
    exact .nil s

theorem deterministic (hstep : ∀ s a t t', step s a t → step s a t' → t = t') (r : Run step s as t)
    (q : Run step s as u) : t = u := by
  induction r with
  | nil => exact nil_iff.1 q
  | cons head _ ih =>
      obtain ⟨m, head', tail'⟩ := cons_iff.1 q
      cases hstep _ _ _ _ head head'
      exact ih tail'

theorem invariant {I : State → Prop} (hstep : ∀ s a t, step s a t → I s → I t) (r : Run step s as t)
    (hs : I s) : I t := by
  induction r with
  | nil => exact hs
  | cons head _ ih => exact ih (hstep _ _ _ head hs)

theorem invariant_of_mem {I : State → Prop} (r : Run step s as t)
    (hstep : ∀ s a t, a ∈ as → step s a t → I s → I t) (hs : I s) : I t := by
  induction r with
  | nil => exact hs
  | cons head _ ih =>
      refine ih (fun s a t ha => hstep s a t (List.mem_cons_of_mem _ ha)) ?_
      exact hstep _ _ _ List.mem_cons_self head hs

theorem related {R : State → State → Prop} (hrefl : ∀ s, R s s) (htrans : ∀ s t u, R s t → R t u → R s u)
    (hstep : ∀ s a t, step s a t → R s t) (r : Run step s as t) : R s t := by
  induction r with
  | nil s => exact hrefl s
  | cons head _ ih => exact htrans _ _ _ (hstep _ _ _ head) ih

theorem exists_step_of_gain {P : State → Prop} (r : Run step s as t) (hs : ¬ P s) (ht : P t) :
    ∃ pre a post m m', as = pre ++ a :: post ∧ Run step s pre m ∧ step m a m' ∧ Run step m' post t ∧
      ¬ P m ∧ P m' := by
  induction r with
  | nil => exact absurd ht hs
  | @cons s m t a as head tail ih =>
      by_cases hm : P m
      · exact ⟨[], a, as, s, m, rfl, .nil s, head, tail, hs, hm⟩
      · obtain ⟨pre, b, post, n, n', rfl, hpre, hb, hpost, hn, hn'⟩ := ih hm ht
        exact ⟨a :: pre, b, post, n, n', rfl, .cons head hpre, hb, hpost, hn, hn'⟩

/-- Every step of the run is as `P` says. -/
def Every (step : State → Label → State → Prop) (P : State → Label → State → Prop) (s : State)
    (as : List Label) : Prop :=
  ∀ pre a post m m', as = pre ++ a :: post → Run step s pre m → step m a m' → P m a m'

theorem Every.mono {P Q : State → Label → State → Prop}
    (h : ∀ pre m a m', Run step s pre m → step m a m' → P m a m' → Q m a m') (hevery : Every step P s as) :
    Every step Q s as :=
  fun pre a post m m' heq hrun hstep => h pre m a m' hrun hstep (hevery pre a post m m' heq hrun hstep)

/-- Two properties that agree on the steps from states with an invariant agree on the runs from such states. -/
theorem every_congr {P Q : State → Label → State → Prop} {I : State → Prop}
    (hinv : ∀ s a t, step s a t → I s → I t) (hs : I s)
    (h : ∀ m a m', I m → step m a m' → (P m a m' ↔ Q m a m')) : Every step P s as ↔ Every step Q s as :=
  ⟨.mono fun _ _ _ _ hrun hstep => (h _ _ _ (hrun.invariant hinv hs) hstep).1,
    .mono fun _ _ _ _ hrun hstep => (h _ _ _ (hrun.invariant hinv hs) hstep).2⟩

theorem every_and {P Q : State → Label → State → Prop} :
    Every step (fun m a m' => P m a m' ∧ Q m a m') s as ↔ Every step P s as ∧ Every step Q s as :=
  ⟨fun h => ⟨h.mono fun _ _ _ _ _ _ => And.left, h.mono fun _ _ _ _ _ _ => And.right⟩,
    fun h pre a post m m' heq hrun hstep =>
      ⟨h.1 pre a post m m' heq hrun hstep, h.2 pre a post m m' heq hrun hstep⟩⟩

theorem Every.tail {P : State → Label → State → Prop} {a : Label} (head : step s a t)
    (hevery : Every step P s (a :: as)) : Every step P t as :=
  fun pre b post m m' heq hrun hstep =>
    hevery (a :: pre) b post m m' (by rw [heq, List.cons_append]) (.cons head hrun) hstep

theorem Every.head {P : State → Label → State → Prop} {a : Label} (head : step s a t)
    (hevery : Every step P s (a :: as)) : P s a t :=
  hevery [] a as s t rfl (.nil s) head

theorem every_nil {P : State → Label → State → Prop} : Every step P s [] := by
  intro pre a post m m' heq
  simp at heq

theorem every_cons {P : State → Label → State → Prop} {a : Label}
    (h : ∀ t, step s a t → P s a t ∧ Every step P t as) : Every step P s (a :: as) := by
  intro pre b post m m' heq hrun hstep
  cases pre with
  | nil =>
      cases heq
      cases nil_iff.1 hrun
      exact (h m' hstep).1
  | cons c pre =>
      cases heq
      obtain ⟨n, hhead, htail⟩ := cons_iff.1 hrun
      exact (h n hhead).2 pre b post m m' rfl htail hstep

theorem every_single {P : State → Label → State → Prop} {a : Label} (h : ∀ t, step s a t → P s a t) :
    Every step P s [a] := by
  intro pre b post m m' heq hrun hstep
  cases pre with
  | nil =>
      cases heq
      cases hrun
      exact h m' hstep
  | cons c pre => simp at heq

/-- What the steps allowed by `P` preserve holds at the end of a run of such steps. -/
theorem invariant_of_every {P : State → Label → State → Prop} {I : State → Prop} (r : Run step s as t)
    (hevery : Every step P s as) (hstep : ∀ s a t, step s a t → P s a t → I s → I t) (hs : I s) : I t := by
  induction r with
  | nil => exact hs
  | cons head _ ih => exact ih (hevery.tail head) (hstep _ _ _ head (hevery.head head) hs)

theorem Every.front {P : State → Label → State → Prop} (hevery : Every step P s (as ++ bs)) : Every step P s as :=
  fun pre a post m m' heq hrun hstep =>
    hevery pre a (post ++ bs) m m' (by rw [heq, List.append_assoc, List.cons_append]) hrun hstep

theorem Every.rest {P : State → Label → State → Prop} (hevery : Every step P s (as ++ bs)) (r : Run step s as t) :
    Every step P t bs :=
  fun pre a post m m' heq hrun hstep =>
    hevery (as ++ pre) a post m m' (by rw [heq, List.append_assoc]) (r.append hrun) hstep

theorem invariant_along {P : State → Label → State → Prop} {I : List Label → State → Prop} (r : Run step s as t)
    (hevery : Every step P s as) (hnil : I [] s)
    (hstep : ∀ pre m a m', step m a m' → P m a m' → I pre m → I (pre ++ [a]) m') : I as t := by
  induction as using List.reverseRecOn generalizing t with
  | nil => exact nil_iff.1 r ▸ hnil
  | append_singleton as a ih =>
      obtain ⟨m, hrun, hlast⟩ := append_iff.1 r
      obtain ⟨m', hhead, htail⟩ := cons_iff.1 hlast
      obtain rfl := nil_iff.1 htail
      exact hstep as m a m' hhead (hevery as a [] m m' rfl hrun hhead) (ih hrun hevery.front)

theorem every_congr_of_preserved {P Q : State → Label → State → Prop} {I : State → Prop} (hs : I s)
    (h : ∀ m a m', step m a m' → I m → (P m a m' ↔ Q m a m') ∧ (Q m a m' → I m')) :
    Every step P s as ↔ Every step Q s as := by
  constructor
  · intro hevery pre a post m m' heq hrun hstep
    subst heq
    have hm : I m := hrun.invariant_of_every hevery.front
      (fun n b n' hstep hP hn => (h n b n' hstep hn).2 ((h n b n' hstep hn).1.1 hP)) hs
    exact (h m a m' hstep hm).1.1 (hevery pre a post m m' rfl hrun hstep)
  · intro hevery pre a post m m' heq hrun hstep
    subst heq
    have hm : I m := hrun.invariant_of_every hevery.front (fun n b n' hstep hQ hn => (h n b n' hstep hn).2 hQ) hs
    exact (h m a m' hstep hm).1.2 (hevery pre a post m m' rfl hrun hstep)

/-- Where a step keeps an invariant exactly if it is as `P` says, all states of a run have it exactly if all
its steps are. -/
theorem forall_states_iff {P : State → Label → State → Prop} {I : State → Prop} (hs : I s)
    (hstep : ∀ s a t, step s a t → I s → (I t ↔ P s a t)) :
    (∀ pre post m, as = pre ++ post → Run step s pre m → I m) ↔ Every step P s as := by
  constructor
  · intro h pre a post m m' heq hrun hhead
    have hm' := h (pre ++ [a]) post m' (by rw [heq, List.append_assoc, List.singleton_append]) (hrun.snoc hhead)
    exact (hstep m a m' hhead (h pre (a :: post) m heq hrun)).1 hm'
  · rintro hevery pre post m rfl hrun
    exact hrun.invariant_of_every hevery.front (fun s a t hhead hP hs => (hstep s a t hhead hs).2 hP) hs

def Recorded {History : Type} (step : State → Label → State → Prop)
    (next : State → Label → State → History → History) : State × History → Label → State × History → Prop :=
  fun p a q => step p.1 a q.1 ∧ q.2 = next p.1 a q.1 p.2

theorem recorded {History : Type} {next : State → Label → State → History → History} (r : Run step s as t)
    (h : History) : ∃ h', Run (Recorded step next) (s, h) as (t, h') := by
  induction r generalizing h with
  | nil s => exact ⟨h, .nil _⟩
  | cons head _ ih =>
      obtain ⟨h', hrun⟩ := ih (next _ _ _ h)
      exact ⟨h', .cons ⟨head, rfl⟩ hrun⟩

/-- The runs of a step function are its folds. -/
theorem of_foldlM {f : State → Label → Option State} (h : as.foldlM f s = some t) :
    Run (fun s a t => f s a = some t) s as t := by
  revert s
  induction as with
  | nil =>
      intro s h
      cases h
      exact .nil _
  | cons a as ih =>
      intro s h
      rw [List.foldlM_cons] at h
      obtain ⟨m, hm, h⟩ := Option.bind_eq_some_iff.1 h
      exact .cons hm (ih h)

theorem recorded_of_foldlM {History : Type} {f : State → Label → Option State}
    {next : State → Label → State → History → History} {p q : State × History}
    (h : as.foldlM (fun p a => (f p.1 a).map fun t => (t, next p.1 a t p.2)) p = some q) :
    Run (Recorded (fun s a t => f s a = some t) next) p as q := by
  refine (of_foldlM h).mono fun p a q hq => ?_
  obtain ⟨t, ht, rfl⟩ := Option.map_eq_some_iff.1 hq
  exact ⟨ht, rfl⟩

/-- One of the labels is as `P` says of it and the labels before it. -/
def Happened {Label : Type} (P : List Label → Label → Prop) (as : List Label) : Prop :=
  ∃ pre a post, as = pre ++ a :: post ∧ P pre a

theorem not_happened_nil {Label : Type} {P : List Label → Label → Prop} : ¬ Happened P [] := by
  rintro ⟨pre, a, post, h, _⟩
  simp at h

theorem Happened.append {Label : Type} {P : List Label → Label → Prop} {as : List Label} (h : Happened P as)
    (bs : List Label) : Happened P (as ++ bs) := by
  obtain ⟨pre, a, post, rfl, hP⟩ := h
  exact ⟨pre, a, post ++ bs, by rw [List.append_assoc, List.cons_append], hP⟩

theorem happened_snoc {Label : Type} {P : List Label → Label → Prop} {as : List Label} {a : Label} :
    Happened P (as ++ [a]) ↔ Happened P as ∨ P as a := by
  constructor
  · rintro ⟨pre, b, post, heq, hP⟩
    rcases List.eq_nil_or_concat post with rfl | ⟨post, c, rfl⟩
    · obtain ⟨rfl, rfl⟩ := List.append_singleton_inj.1 heq
      exact .inr hP
    · rw [List.concat_eq_append, ← List.cons_append, ← List.append_assoc] at heq
      obtain ⟨rfl, rfl⟩ := List.append_singleton_inj.1 heq
      exact .inl ⟨pre, b, post, rfl, hP⟩
  · rintro (h | hP)
    · exact h.append [a]
    · exact ⟨as, a, [], rfl, hP⟩

end Run
