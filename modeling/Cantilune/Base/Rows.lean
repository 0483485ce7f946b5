import Mathlib.Data.List.Sort

/-!
# Rows

Lists as a store hands them out: sorted by some order of its own, and decoded one row after the other.
-/

namespace Cantilune

variable {α β ε : Type} {r : α → α → Prop} [DecidableRel r]

theorem orderedInsert_between {x : α} {before after : List α} (hbefore : ∀ b ∈ before, ¬ r x b)
    (hafter : ∀ a ∈ after, r x a) : (before ++ after).orderedInsert r x = before ++ x :: after := by
  induction before with
  | nil =>
      cases after with
      | nil => rfl
      | cons a after => exact List.orderedInsert_cons_of_le r _ (hafter a List.mem_cons_self)
  | cons b before ih =>
      have hb : ¬ r x b := hbefore b List.mem_cons_self
      have hrest := ih fun b' hb' => hbefore b' (List.mem_cons_of_mem _ hb')
      rw [List.cons_append, List.orderedInsert_cons, if_neg hb, hrest, List.cons_append]

theorem insertionSort_eq_of_perm {xs ys : List α} (h : xs.Perm ys) (hs : ys.Pairwise fun a b => r a b ∧ ¬ r b a) :
    xs.insertionSort r = ys := by
  induction xs generalizing ys with
  | nil => exact (List.nil_perm.1 h).symm ▸ rfl
  | cons x xs ih =>
      obtain ⟨before, after, rfl⟩ := List.append_of_mem (h.mem_iff.1 List.mem_cons_self)
      have hrest : xs.Perm (before ++ after) := (h.trans List.perm_middle).cons_inv
      obtain ⟨hbefore, hafter, hcross⟩ := List.pairwise_append.1 hs
      have hsorted : (before ++ after).Pairwise fun a b => r a b ∧ ¬ r b a :=
        List.pairwise_append.2 ⟨hbefore, (List.pairwise_cons.1 hafter).2, fun b hb a ha =>
          hcross b hb a (List.mem_cons_of_mem _ ha)⟩
      rw [List.insertionSort_cons, ih hrest hsorted]
      refine orderedInsert_between (fun b hb => ?_) fun a ha => ?_
      · exact (hcross b hb x List.mem_cons_self).2
      · exact ((List.pairwise_cons.1 hafter).1 a ha).1

/-- Entries that are found and decoded one by one are decoded together. -/
theorem mapM_filterMap_range {f : Nat → Option α} {g : α → Except ε β} {ys : List β}
    (h : ∀ n y, ys[n]? = some y → ∃ x, f n = some x ∧ g x = .ok y) :
    ((List.range ys.length).filterMap f).mapM g = .ok ys := by
  induction ys generalizing f with
  | nil => rfl
  | cons y ys ih =>
      obtain ⟨x, hx, hy⟩ := h 0 y rfl
      have hrest := @ih (fun n => f (n + 1)) fun n z hz => h (n + 1) z hz
      rw [List.length_cons, List.range_succ_eq_map, List.filterMap_cons, hx, List.filterMap_map, List.mapM_cons, hy]
      have hcomp : (f ∘ Nat.succ) = fun n => f (n + 1) := rfl
      rw [hcomp]
      change (((List.range ys.length).filterMap fun n => f (n + 1)).mapM g >>= fun ys => .ok (y :: ys)) = _
      rw [hrest]
      rfl

theorem getLast?_of_mapM {g : α → Except ε β} {xs : List α} {ys : List β} (h : xs.mapM g = .ok ys) :
    (xs.getLast? = none ∧ ys.getLast? = none) ∨
      ∃ x y, xs.getLast? = some x ∧ g x = .ok y ∧ ys.getLast? = some y := by
  rcases List.eq_nil_or_concat xs with rfl | ⟨init, x, rfl⟩
  · cases h
    exact .inl ⟨rfl, rfl⟩
  · rw [List.concat_eq_append, List.mapM_append] at h
    cases hinit : init.mapM g with
    | error e =>
        rw [hinit] at h
        cases h
    | ok zs =>
        cases hx : g x with
        | error e =>
            rw [hinit, List.mapM_cons, hx] at h
            cases h
        | ok y =>
            rw [hinit, List.mapM_cons, hx] at h
            cases h
            exact .inr ⟨x, y, by simp, hx, by simp⟩

theorem mapM_perm {β γ : Type} {g : β → Option γ} {xs ys : List β} (hp : xs.Perm ys) {zs : List γ}
    (hxs : xs.mapM g = some zs) : ∃ zs', ys.mapM g = some zs' ∧ zs.Perm zs' := by
  induction hp generalizing zs with
  | nil => exact ⟨zs, hxs, .refl _⟩
  | cons x _ ih =>
      simp only [List.mapM_cons, Option.bind_eq_bind, Option.bind_eq_some_iff, Option.pure_def,
        Option.some.injEq] at hxs ⊢
      obtain ⟨z, hz, rest, hrest, rfl⟩ := hxs
      obtain ⟨rest', hrest', hperm⟩ := ih hrest
      exact ⟨z :: rest', ⟨z, hz, rest', hrest', rfl⟩, hperm.cons z⟩
  | swap x y l =>
      simp only [List.mapM_cons, Option.bind_eq_bind, Option.bind_eq_some_iff, Option.pure_def,
        Option.some.injEq] at hxs ⊢
      obtain ⟨z, hz, _, ⟨w, hw, rest, hrest, rfl⟩, rfl⟩ := hxs
      exact ⟨w :: z :: rest, ⟨w, hw, _, ⟨z, hz, rest, hrest, rfl⟩, rfl⟩, .swap _ _ _⟩
  | trans _ _ ih₁ ih₂ =>
      obtain ⟨zs₁, hzs₁, hp₁⟩ := ih₁ hxs
      obtain ⟨zs₂, hzs₂, hp₂⟩ := ih₂ hzs₁
      exact ⟨zs₂, hzs₂, hp₁.trans hp₂⟩

theorem keys_of_mapM {β γ : Type} {g : String × β → Option (String × γ)} (hg : ∀ m e, g m = some e → e.1 = m.1)
    {ms : List (String × β)} {es : List (String × γ)} (hms : ms.mapM g = some es) :
    es.map Prod.fst = ms.map Prod.fst := by
  induction ms generalizing es with
  | nil =>
      cases hms
      rfl
  | cons m ms ih =>
      simp only [List.mapM_cons, Option.bind_eq_bind, Option.bind_eq_some_iff, Option.pure_def,
        Option.some.injEq] at hms
      obtain ⟨e, he, rest, hrest, rfl⟩ := hms
      rw [List.map_cons, List.map_cons, hg m e he, ih hrest]

end Cantilune
