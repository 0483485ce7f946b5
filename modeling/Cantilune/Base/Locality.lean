import Mathlib.Data.Set.Basic
import Mathlib.Data.Set.BooleanAlgebra
import Mathlib.Order.Disjoint
import Mathlib.Order.BooleanAlgebra.Set
import Mathlib.Order.CompletePartialOrder

/-!
# Actions that read and write cells

A state is seen as a family of cells, and a write changes one of them. An action that reads only certain
cells, and writes only certain cells, is not disturbed by the writes to other cells; two actions that do
not touch each other's cells can be taken in either order, and leave the same cells.
-/

/-- The cells of a state, with writes to one cell each. The value written may depend on what is there. -/
structure Cells (State Loc Write : Type) (Val : Loc → Type) where
  view : State → (l : Loc) → Val l
  write : State → Write → State
  loc : Write → Loc
  frame : ∀ s w l, l ≠ loc w → view (write s w) l = view s l
  local_write : ∀ s t w, view s (loc w) = view t (loc w) → view (write s w) (loc w) = view (write t w) (loc w)

namespace Cells

variable {State Loc Write : Type} {Val : Loc → Type} (c : Cells State Loc Write Val)

def writeAll (s : State) (ws : List Write) : State := ws.foldl c.write s

def AgreeOn (A : Set Loc) (s t : State) : Prop := ∀ l ∈ A, c.view s l = c.view t l

variable {c} {s t u : State} {ws vs : List Write} {A B R R' W W' : Set Loc}

theorem writeAll_append (s : State) (ws vs : List Write) :
    c.writeAll s (ws ++ vs) = c.writeAll (c.writeAll s ws) vs := List.foldl_append

theorem AgreeOn.symm (h : c.AgreeOn A s t) : c.AgreeOn A t s := fun l hl => (h l hl).symm

theorem AgreeOn.trans (h : c.AgreeOn A s t) (k : c.AgreeOn A t u) : c.AgreeOn A s u :=
  fun l hl => (h l hl).trans (k l hl)

theorem view_writeAll_of_notMem {l : Loc} (h : ∀ w ∈ ws, c.loc w ≠ l) :
    c.view (c.writeAll s ws) l = c.view s l := by
  induction ws generalizing s with
  | nil => rfl
  | cons w ws ih =>
      have htail := ih (s := c.write s w) fun w' hw' => h w' (by simp [hw'])
      exact htail.trans (c.frame s w l (Ne.symm (h w (by simp))))

theorem view_write_congr {l : Loc} (w : Write) (h : c.view s l = c.view t l) :
    c.view (c.write s w) l = c.view (c.write t w) l := by
  by_cases hl : l = c.loc w
  · subst hl
    exact c.local_write s t w h
  · rw [c.frame s w l hl, c.frame t w l hl, h]

theorem view_writeAll_congr {l : Loc} (ws : List Write) (h : c.view s l = c.view t l) :
    c.view (c.writeAll s ws) l = c.view (c.writeAll t ws) l := by
  induction ws generalizing s t with
  | nil => exact h
  | cons w ws ih => exact ih (view_write_congr w h)

/-- Writes outside a set of cells leave the state as it was there. -/
theorem agreeOn_writeAll (hW : ∀ w ∈ ws, c.loc w ∈ W) (hdis : Disjoint W R) :
    c.AgreeOn R s (c.writeAll s ws) := fun _ hl =>
  (view_writeAll_of_notMem fun w hw heq => Set.disjoint_left.1 hdis (heq ▸ hW w hw) hl).symm

/-- Writes to different cells can be made in either order. -/
theorem view_writeAll_comm (hW : ∀ w ∈ ws, c.loc w ∈ W) (hW' : ∀ w ∈ vs, c.loc w ∈ W') (hdis : Disjoint W W')
    (l : Loc) : c.view (c.writeAll (c.writeAll s ws) vs) l = c.view (c.writeAll (c.writeAll s vs) ws) l := by
  by_cases hl : l ∈ W
  · have hvs : ∀ w ∈ vs, c.loc w ≠ l := fun w hw heq =>
      Set.disjoint_left.1 hdis hl (heq ▸ hW' w hw)
    rw [view_writeAll_of_notMem hvs]
    exact view_writeAll_congr ws (view_writeAll_of_notMem hvs).symm
  · have hws : ∀ w ∈ ws, c.loc w ≠ l := fun w hw heq => hl (heq ▸ hW w hw)
    rw [view_writeAll_of_notMem (s := c.writeAll s vs) hws]
    exact view_writeAll_congr vs (view_writeAll_of_notMem hws)

/-- An action, given by the writes it may make in a state, that looks at the cells of `R` and writes to
those of `W`. -/
structure Confined (c : Cells State Loc Write Val) (R W : Set Loc) (act : State → List Write → Prop) :
    Prop where
  reads : ∀ s t ws, c.AgreeOn R s t → act s ws → act t ws
  writes : ∀ s ws, act s ws → ∀ w ∈ ws, c.loc w ∈ W

variable {act act' : State → List Write → Prop}

/-- An action is possible after the writes of another exactly when it was before. -/
theorem Confined.after_iff (h : c.Confined R W act) (h' : c.Confined R' W' act') (hdis : Disjoint W R')
    (hws : act s ws) : act' (c.writeAll s ws) vs ↔ act' s vs := by
  have hagree : c.AgreeOn R' s (c.writeAll s ws) := agreeOn_writeAll (h.writes s ws hws) hdis
  exact ⟨h'.reads _ _ _ hagree.symm, h'.reads _ _ _ hagree⟩

/-- Neither writes what the other reads: each order of the two actions can be turned into the other. -/
theorem Confined.swap (h : c.Confined R W act) (h' : c.Confined R' W' act') (hdis : Disjoint W R')
    (hdis' : Disjoint W' R) (hws : act s ws) (hvs : act' (c.writeAll s ws) vs) :
    act' s vs ∧ act (c.writeAll s vs) ws := by
  have hvs' := (h.after_iff h' hdis hws).1 hvs
  exact ⟨hvs', (h'.after_iff h hdis' hvs').2 hws⟩

end Cells
