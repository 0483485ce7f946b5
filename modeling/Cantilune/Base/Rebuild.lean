import Cantilune.Base.OrdMap
import Cantilune.Base.Runs

/-!
# Maps rebuilt from shown changes

A map goes through steps, and each step shows under which keys it changed. An observer that starts from the
first map and takes over what the steps show has the last map exactly if, under every key, the steps after
the last one that shows it lead back to where they began.
-/

/-- A step of a map: its values before and after, and the keys under which a change is shown. -/
structure MapStep (K V : Type) where
  before : K → Option V
  after : K → Option V
  shows : K → Bool

namespace MapStep

variable {K V : Type} {start last : K → Option V} {steps : List (MapStep K V)} {k : K}

def Moves (m : K → Option V) (s : MapStep K V) (m' : K → Option V) : Prop := s.before = m ∧ s.after = m'

def rebuild (start : K → Option V) (steps : List (MapStep K V)) : K → Option V :=
  steps.foldl (fun m s k => if s.shows k then s.after k else m k) start

def endOf (start : K → Option V) (steps : List (MapStep K V)) : K → Option V :=
  (steps.getLast?.map after).getD start

/-- The steps after the last one that shows a change under the key lead back to where they began. -/
def Settles (start last : K → Option V) (steps : List (MapStep K V)) (k : K) : Prop :=
  ∀ shown unshown, steps = shown ++ unshown → (∀ s ∈ shown.getLast?, s.shows k = true) →
    (∀ s ∈ unshown, s.shows k = false) → endOf start shown k = last k

@[simp] theorem rebuild_nil : rebuild start [] = start := rfl

@[simp] theorem rebuild_cons {s : MapStep K V} :
    rebuild start (s :: steps) = rebuild (fun k => if s.shows k then s.after k else start k) steps := rfl

theorem rebuild_append {more : List (MapStep K V)} :
    rebuild start (steps ++ more) = rebuild (rebuild start steps) more := List.foldl_append

theorem rebuild_unshown (h : ∀ s ∈ steps, s.shows k = false) : rebuild start steps k = start k := by
  induction steps generalizing start with
  | nil => rfl
  | cons s rest ih =>
      have hrest : rebuild (fun k => if s.shows k then s.after k else start k) rest k = _ :=
        ih fun t ht => h t (List.mem_cons_of_mem _ ht)
      rw [rebuild_cons, hrest, h s List.mem_cons_self]
      simp

theorem rebuild_split {shown unshown : List (MapStep K V)} (hlast : ∀ s ∈ shown.getLast?, s.shows k = true)
    (hunshown : ∀ s ∈ unshown, s.shows k = false) :
    rebuild start (shown ++ unshown) k = endOf start shown k := by
  rw [rebuild_append, rebuild_unshown hunshown]
  rcases List.eq_nil_or_concat shown with rfl | ⟨init, s, rfl⟩
  · rfl
  · have hs : s.shows k = true := hlast s (by simp)
    simp [rebuild_append, endOf, hs]

theorem exists_split (steps : List (MapStep K V)) (k : K) :
    ∃ shown unshown, steps = shown ++ unshown ∧ (∀ s ∈ shown.getLast?, s.shows k = true) ∧
      ∀ s ∈ unshown, s.shows k = false := by
  induction steps using List.reverseRecOn with
  | nil => exact ⟨[], [], rfl, by simp, by simp⟩
  | append_singleton init s ih =>
      obtain ⟨shown, unshown, rfl, hlast, hunshown⟩ := ih
      by_cases hs : s.shows k = true
      · exact ⟨shown ++ unshown ++ [s], [], by simp, by simp [hs], by simp⟩
      · refine ⟨shown, unshown ++ [s], by simp, hlast, fun t ht => ?_⟩
        rcases List.mem_append.1 ht with ht | ht
        · exact hunshown t ht
        · rw [List.mem_singleton.1 ht]
          simpa using hs

theorem rebuild_eq_iff : rebuild start steps k = last k ↔ Settles start last steps k := by
  constructor
  · rintro h shown unshown rfl hlast hunshown
    rwa [rebuild_split hlast hunshown] at h
  · intro h
    obtain ⟨shown, unshown, rfl, hlast, hunshown⟩ := exists_split steps k
    rw [rebuild_split hlast hunshown]
    exact h shown unshown rfl hlast hunshown

theorem read_foldl {E S : Type} (read : S → K → Option V) {apply : S → E → S} {toStep : E → MapStep K V}
    {events : List E} (h : ∀ e ∈ events, ∀ state k,
      read (apply state e) k = if (toStep e).shows k then (toStep e).after k else read state k) (state : S) :
    read (events.foldl apply state) = rebuild (read state) (events.map toStep) := by
  induction events generalizing state with
  | nil => rfl
  | cons e events ih =>
      rw [List.foldl_cons, ih fun e' he' => h e' (List.mem_cons_of_mem _ he'), List.map_cons, rebuild_cons]
      congr 1
      funext k
      exact h e List.mem_cons_self state k

theorem eq_endOf (r : Run Moves start steps last) : last = endOf start steps := by
  rcases List.eq_nil_or_concat steps with rfl | ⟨init, s, rfl⟩
  · exact (Run.nil_iff.1 r).symm
  · obtain ⟨m, -, hs⟩ := Run.append_iff.1 (by simpa using r)
    obtain ⟨_, ⟨-, rfl⟩, hnil⟩ := Run.cons_iff.1 hs
    simpa [endOf] using (Run.nil_iff.1 hnil).symm

theorem eq_of_unchanged (r : Run Moves start steps last) (h : ∀ s ∈ steps, s.after k = s.before k) :
    last k = start k := by
  induction r with
  | nil => rfl
  | cons head _ ih =>
      obtain ⟨rfl, rfl⟩ := head
      rw [ih fun s hs => h s (List.mem_cons_of_mem _ hs), h _ List.mem_cons_self]

theorem settles_of_shown (r : Run Moves start steps last)
    (h : ∀ s ∈ steps, s.shows k = false → s.after k = s.before k) : Settles start last steps k := by
  rintro shown unshown rfl - hunshown
  obtain ⟨m, hshown, hrest⟩ := Run.append_iff.1 r
  rw [← eq_endOf hshown]
  exact (eq_of_unchanged hrest fun s hs => h s (List.mem_append_right _ hs) (hunshown s hs)).symm

end MapStep

namespace OrdMap

variable {K V : Type} [DecidableEq K] {m after : OrdMap K V} {key : V → K} {k : K}

def applyDelta (m : OrdMap K V) (key : V → K) (entries : List V) (removed : List K) : OrdMap K V :=
  removed.foldl delete (entries.foldl (fun m v => m.set (key v) v) m)

theorem get?_foldl_delete {removed : List K} :
    (removed.foldl delete m).get? k = if k ∈ removed then none else m.get? k := by
  induction removed generalizing m with
  | nil => simp
  | cons j removed ih =>
      rw [List.foldl_cons, ih, get?_delete]
      by_cases hk : k = j
      · simp [hk]
      · simp [hk]

theorem get?_foldl_set_of_held {entries : List V} (h : ∀ v ∈ entries, after.get? (key v) = some v) :
    (entries.foldl (fun m v => m.set (key v) v) m).get? k =
      if k ∈ entries.map key then after.get? k else m.get? k := by
  induction entries generalizing m with
  | nil => simp
  | cons v entries ih =>
      rw [List.foldl_cons, ih fun w hw => h w (List.mem_cons_of_mem _ hw), get?_set]
      by_cases hk : k = key v
      · subst hk
        simp [h v List.mem_cons_self]
      · simp [hk]

theorem get?_applyDelta {entries : List V} {removed : List K}
    (hentries : ∀ v ∈ entries, after.get? (key v) = some v) (hremoved : ∀ j ∈ removed, after.get? j = none) :
    (m.applyDelta key entries removed).get? k =
      if k ∈ entries.map key ∨ k ∈ removed then after.get? k else m.get? k := by
  rw [applyDelta, get?_foldl_delete, get?_foldl_set_of_held hentries]
  by_cases hk : k ∈ removed
  · simp [hk, hremoved k hk]
  · simp [hk]

/-- The values are stored under their keys; a key that is taken ends with the error for the two values. -/
def addAll {E : Type} (clash : V → V → E) (key : V → K) : List V → OrdMap K V → Except E (OrdMap K V)
  | [], m => .ok m
  | v :: values, m =>
      match m.get? (key v) with
      | some existing => .error (clash existing v)
      | none => addAll clash key values (m.set (key v) v)

theorem addAll_eq_ok {E : Type} {clash : V → V → E} {values : List V} {m' : OrdMap K V} :
    addAll clash key values m = .ok m' ↔ (values.map key).Nodup ∧ (∀ v ∈ values, m.has (key v) = false) ∧
      m' = (values.map fun v => (key v, v)).foldl (fun m e => m.set e.1 e.2) m := by
  induction values generalizing m with
  | nil =>
      simp only [addAll, Except.ok.injEq, List.map_nil, List.nodup_nil, List.foldl_nil, true_and]
      exact ⟨fun h => ⟨by simp, h.symm⟩, fun h => h.2.symm⟩
  | cons v values ih =>
      unfold addAll
      cases hfound : m.get? (key v) with
      | some existing =>
          have hhas : m.has (key v) = true := has_of_get? hfound
          simp [hhas]
      | none =>
          have hhas : m.has (key v) = false := has_eq_false_iff.2 hfound
          simp only [ih, List.map_cons, List.nodup_cons, List.forall_mem_cons, hhas, true_and, List.foldl_cons,
            has_set, Bool.or_eq_false_iff, decide_eq_false_iff_not]
          constructor
          · rintro ⟨hnodup, hnew, rfl⟩
            refine ⟨⟨fun hmem => ?_, hnodup⟩, fun w hw => (hnew w hw).2, rfl⟩
            obtain ⟨w, hw, heq⟩ := List.mem_map.1 hmem
            exact (hnew w hw).1 heq
          · rintro ⟨⟨hnotMem, hnodup⟩, hnew, rfl⟩
            exact ⟨hnodup, fun w hw => ⟨fun heq => hnotMem (List.mem_map.2 ⟨w, hw, heq⟩), hnew w hw⟩, rfl⟩

theorem addAll_empty_eq_ok {E : Type} {clash : V → V → E} {values : List V} {m' : OrdMap K V} :
    addAll clash key values .empty = .ok m' ↔ (values.map key).Nodup ∧ m' = keyedBy key values := by
  rw [addAll_eq_ok]
  simp [keyedBy, ofList, has]

theorem get?_keyedBy {values : List V} (h : (values.map key).Nodup) {v : V} :
    (keyedBy key values).get? k = some v ↔ v ∈ values ∧ key v = k := by
  have hkeys : ((values.map fun v => (key v, v)).map Prod.fst).Nodup := by rwa [List.map_map]
  rw [keyedBy, ← mem_entries, entries_ofList hkeys]
  simp only [List.mem_map, Prod.mk.injEq]
  constructor
  · rintro ⟨_, hv, rfl, rfl⟩
    exact ⟨hv, rfl⟩
  · rintro ⟨hv, rfl⟩
    exact ⟨v, hv, rfl, rfl⟩

end OrdMap
