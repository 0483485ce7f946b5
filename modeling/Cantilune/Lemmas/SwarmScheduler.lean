import Cantilune.Boot.ClusterSupervisor
import Mathlib.Data.Finset.Lattice.Basic

/-!
# What the operations of the scheduler change
-/

namespace Cantilune

namespace SwarmScheduler

variable {s t : SwarmScheduler} {a : ActorId} {registry : ConditionEvaluatorRegistry}

/-- Every entry of the queue is filed under its agent. -/
def Keyed (pending : OrdMap ActorId MutablePending) : Prop := pending.ForAll fun key entry => entry.agentId = key

/-- The agents, the counters and the limits are the same; the marks on the queue may differ. -/
structure SameAgents (s t : SwarmScheduler) : Prop where
  policy : t.policy = s.policy
  pending : ∀ a, t.pending.has a = s.pending.has a
  running : t.running = s.running
  known : t.known = s.known
  startedTotal : t.startedTotal = s.startedTotal
  completedTotal : t.completedTotal = s.completedTotal
  keyed : Keyed s.pending → Keyed t.pending

theorem SameAgents.refl (s : SwarmScheduler) : s.SameAgents s := ⟨rfl, fun _ => rfl, rfl, rfl, rfl, rfl, id⟩

theorem SameAgents.trans {u : SwarmScheduler} (h : s.SameAgents t) (k : t.SameAgents u) : s.SameAgents u :=
  ⟨k.policy.trans h.policy, fun a => (k.pending a).trans (h.pending a), k.running.trans h.running,
    k.known.trans h.known, k.startedTotal.trans h.startedTotal, k.completedTotal.trans h.completedTotal,
    fun hs => k.keyed (h.keyed hs)⟩

/-! ## One operation after the other -/

theorem onStarted_of_mem (ha : a ∈ s.running) : s.onStarted a = { s with pending := s.pending.delete a } :=
  if_pos ha

theorem onStarted_of_notMem (ha : a ∉ s.running) :
    s.onStarted a =
      { s with
        pending := s.pending.delete a, running := insert a s.running, startedTotal := s.startedTotal + 1
        worldMoved := true } :=
  if_neg ha

theorem delete_delete (pending : OrdMap ActorId MutablePending) (a : ActorId) :
    (pending.delete a).delete a = pending.delete a := by
  apply OrdMap.ext_entries
  simp [OrdMap.delete, OrdMap.filterKeys, List.filter_filter]

theorem onStarted_onStarted (s : SwarmScheduler) (a : ActorId) : (s.onStarted a).onStarted a = s.onStarted a := by
  by_cases ha : a ∈ s.running
  · rw [onStarted_of_mem ha, onStarted_of_mem (s := { s with pending := s.pending.delete a }) ha, delete_delete]
  · rw [onStarted_of_notMem ha, onStarted_of_mem (Finset.mem_insert_self a _), delete_delete]

theorem has_delete (pending : OrdMap ActorId MutablePending) (a b : ActorId) :
    (pending.delete a).has b = (decide (b ≠ a) && pending.has b) := by
  rw [OrdMap.has, OrdMap.get?_delete]
  by_cases h : b = a <;> simp [h, OrdMap.has]

theorem keyed_delete {pending : OrdMap ActorId MutablePending} (h : Keyed pending) (a : ActorId) :
    Keyed (pending.delete a) := by
  intro key entry hentry
  rw [OrdMap.get?_delete] at hentry
  split at hentry
  · cases hentry
  · exact h key entry hentry

theorem keyed_set {pending : OrdMap ActorId MutablePending} {entry : MutablePending} (h : Keyed pending)
    (hkey : entry.agentId = a) : Keyed (pending.set a entry) :=
  OrdMap.forAll_set.2 ⟨hkey, fun key entry hentry _ => h key entry hentry⟩

/-! ## The selection -/

variable {snapshot : CollaborationSnapshot} {verdict : SwarmBudgetVerdict}
  {entries : List (ActorId × MutablePending)} {pending : OrdMap ActorId MutablePending}

theorem has_set_of_has {entry : MutablePending} (ha : pending.has a = true) (b : ActorId) :
    (pending.set a entry).has b = pending.has b := by
  rw [OrdMap.has_set]
  by_cases h : b = a <;> simp [h, ha]

theorem evaluateEntries_spec (hmem : ∀ e ∈ entries, pending.has e.1 = true ∧ e.2.agentId = e.1)
    (hkeyed : Keyed pending) :
    (∀ b, (evaluateEntries registry snapshot verdict entries pending).2.has b = pending.has b) ∧
      Keyed (evaluateEntries registry snapshot verdict entries pending).2 ∧
      ∀ eligible, (evaluateEntries registry snapshot verdict entries pending).1 = some eligible →
        (eligible.map (·.agentId)).Sublist (entries.map Prod.fst) ∧
          (eligible ≠ [] → verdict = .withinBudget) := by
  induction entries generalizing pending with
  | nil =>
      refine ⟨fun _ => rfl, hkeyed, ?_⟩
      rintro eligible ⟨⟩
      exact ⟨.refl _, fun h => absurd rfl h⟩
  | cons e entries ih =>
      obtain ⟨key, entry⟩ := e
      obtain ⟨hkey, hagent⟩ := hmem _ List.mem_cons_self
      have hrest : ∀ marked : MutablePending, marked.agentId = key →
          Keyed (pending.set key marked) ∧
            ∀ e ∈ entries, (pending.set key marked).has e.1 = true ∧ e.2.agentId = e.1 := by
        intro marked hmarked
        refine ⟨keyed_set hkeyed hmarked, fun e he => ?_⟩
        rw [has_set_of_has hkey]
        exact hmem e (List.mem_cons_of_mem _ he)
      have hskip : ∀ marked : MutablePending, marked.agentId = key →
          (∀ b, (evaluateEntries registry snapshot verdict entries (pending.set key marked)).2.has b =
              pending.has b) ∧
            Keyed (evaluateEntries registry snapshot verdict entries (pending.set key marked)).2 ∧
            ∀ eligible, (evaluateEntries registry snapshot verdict entries (pending.set key marked)).1 = some eligible →
              (eligible.map (·.agentId)).Sublist (entries.map Prod.fst) ∧ (eligible ≠ [] → verdict = .withinBudget) := by
        intro marked hmarked
        obtain ⟨hset, hother⟩ := hrest marked hmarked
        obtain ⟨hhas, hk, heligible⟩ := ih hother hset
        exact ⟨fun b => (hhas b).trans (has_set_of_has hkey b), hk, heligible⟩
      simp only [evaluateEntries]
      split
      · refine ⟨has_set_of_has hkey, keyed_set hkeyed hagent, ?_⟩
        rintro eligible ⟨⟩
      · obtain ⟨hhas, hk, heligible⟩ := hskip { entry with
          evaluations := entry.evaluations + 1, blockedBy := .conditionUnmet } hagent
        exact ⟨hhas, hk, fun eligible h => ⟨(heligible eligible h).1.cons _, (heligible eligible h).2⟩⟩
      · split
        · obtain ⟨hhas, hk, heligible⟩ := hskip { entry with
            evaluations := entry.evaluations + 1, blockedBy := .budgetExhausted } hagent
          exact ⟨hhas, hk, fun eligible h => ⟨(heligible eligible h).1.cons _, (heligible eligible h).2⟩⟩
        · obtain ⟨hhas, hk, heligible⟩ := hskip { entry with
            evaluations := entry.evaluations + 1, blockedBy := .slotUnavailable } hagent
          refine ⟨hhas, hk, fun eligible h => ?_⟩
          obtain ⟨rest, hrest', rfl⟩ := Option.map_eq_some_iff.1 h
          refine ⟨?_, fun _ => rfl⟩
          rw [List.map_cons, List.map_cons, show entry.agentId = key from hagent]
          exact (heligible rest hrest').1.cons_cons _

theorem blockEligible_sameAgents {eligible : List MutablePending}
    (hmem : ∀ entry ∈ eligible, s.pending.has entry.agentId = true) : s.SameAgents (s.blockEligible eligible) := by
  have hfold : ∀ (mark : MutablePending → MutablePending), (∀ entry, (mark entry).agentId = entry.agentId) →
      ∀ pending : OrdMap ActorId MutablePending, (∀ entry ∈ eligible, pending.has entry.agentId = true) →
        (∀ b, (eligible.foldl (fun pending entry => pending.set entry.agentId (mark entry)) pending).has b =
            pending.has b) ∧
          (Keyed pending → Keyed (eligible.foldl (fun pending entry => pending.set entry.agentId (mark entry)) pending)) := by
    intro mark hmark
    clear hmem
    induction eligible with
    | nil => exact fun pending _ => ⟨fun _ => rfl, id⟩
    | cons entry eligible ih =>
        intro pending hpending
        have hentry := hpending entry List.mem_cons_self
        obtain ⟨hhas, hkeyed⟩ := ih (pending.set entry.agentId (mark entry)) fun e he => by
          rw [has_set_of_has hentry]
          exact hpending e (List.mem_cons_of_mem _ he)
        exact ⟨fun b => (hhas b).trans (has_set_of_has hentry b), fun h => hkeyed (keyed_set h (hmark entry))⟩
  obtain ⟨hhas, hkeyed⟩ := hfold (fun entry => { entry with blockedBy :=
    if s.remainingSpawns.Positive then .slotUnavailable else .budgetExhausted }) (fun _ => rfl) s.pending hmem
  exact ⟨rfl, hhas, rfl, rfl, rfl, rfl, hkeyed⟩

theorem sortForDispatch_perm (s : SwarmScheduler) (entries : List MutablePending) (now : ℚ) :
    (s.sortForDispatch entries now).Perm entries :=
  List.perm_insertionSort _ _

theorem exceeds_batch {n length : Nat} (hpositive : (s.availableSlots.min s.remainingSpawns).Positive)
    (hn : n ≤ (s.availableSlots.min s.remainingSpawns).sliceEnd length) :
    JsDouble.exceeds (s.running.card + n) (some s.policy.maxConcurrentAgents.1) = false ∧
      JsDouble.exceeds (s.startedTotal + n) (some s.policy.maxTotalAgents.1) = false := by
  obtain ⟨hslots, hspawns, hfree, hleft⟩ := JsDouble.min_cases hpositive
  have hcast : (n : ℚ) ≤ (s.availableSlots.min s.remainingSpawns).sliceEnd length := Nat.cast_le.2 hn
  constructor
  · refine JsDouble.exceeds_mono ?_ (JsDouble.exceeds_room length hslots hfree)
    exact add_le_add_right hcast _
  · refine JsDouble.exceeds_mono ?_ (JsDouble.exceeds_room length hspawns hleft)
    exact add_le_add_right hcast _

theorem selectDispatchable_spec {head : Option CollaborationSnapshot} {budgetAt sortAt : ℚ}
    {batch : Option (List DispatchDecision)} (hkeyed : Keyed s.pending)
    (h : s.selectDispatchable registry head budgetAt sortAt = (batch, t)) :
    s.SameAgents t ∧ ∀ decisions, batch = some decisions → decisions ≠ [] →
      (decisions.map (·.agentId)).Nodup ∧ (∀ d ∈ decisions, s.pending.has d.agentId = true) ∧
        JsDouble.exceeds (s.running.card + decisions.length) (some s.policy.maxConcurrentAgents.1) = false ∧
        JsDouble.exceeds (s.startedTotal + decisions.length) (some s.policy.maxTotalAgents.1) = false := by
  cases head with
  | none =>
      cases h
      refine ⟨.refl s, ?_⟩
      rintro decisions ⟨⟩ hne
      exact absurd rfl hne
  | some snapshot =>
      have hmem : ∀ e ∈ s.pending.entries, s.pending.has e.1 = true ∧ e.2.agentId = e.1 := fun e he =>
        ⟨OrdMap.has_of_get? (OrdMap.mem_entries.1 he), hkeyed _ _ (OrdMap.mem_entries.1 he)⟩
      obtain ⟨hhas, hk, heligible⟩ := @evaluateEntries_spec registry snapshot (s.budget budgetAt) _ _ hmem hkeyed
      simp only [selectDispatchable] at h
      generalize evaluateEntries registry snapshot (s.budget budgetAt) s.pending.entries s.pending = result
        at h hhas hk heligible
      obtain ⟨eligible, pending⟩ := result
      have hsame : s.SameAgents { s with pending } := ⟨rfl, hhas, rfl, rfl, rfl, rfl, fun _ => hk⟩
      match eligible, heligible with
      | none, _ =>
          cases h
          exact ⟨hsame, nofun⟩
      | some [], _ =>
          cases h
          refine ⟨hsame, ?_⟩
          rintro decisions ⟨⟩ hne
          exact absurd rfl hne
      | some (entry :: entries), heligible =>
          have hsublist := (heligible _ rfl).1
          have hpending : ∀ e ∈ entry :: entries, s.pending.has e.agentId = true := fun e he =>
            OrdMap.mem_keys.1 (hsublist.subset (List.mem_map_of_mem he))
          dsimp only at h
          split at h
          · rename_i hpositive
            cases h
            refine ⟨hsame, ?_⟩
            rintro decisions ⟨⟩ -
            have hperm := sortForDispatch_perm { s with pending } (entry :: entries) sortAt
            rw [List.map_map, List.length_map]
            refine ⟨?_, fun d hd => ?_, ?_⟩
            · have hnodup : ((entry :: entries).map (·.agentId)).Nodup := s.pending.nodupKeys.sublist hsublist
              exact ((hperm.map _).nodup_iff.2 hnodup).sublist ((List.take_sublist _ _).map _)
            · obtain ⟨e, he, rfl⟩ := List.mem_map.1 hd
              exact hpending e (hperm.mem_iff.1 (List.mem_of_mem_take he))
            · exact exceeds_batch hpositive (List.length_take_le _ _)
          · cases h
            refine ⟨hsame.trans (blockEligible_sameAgents fun e he => ?_), ?_⟩
            · exact (hhas _).trans (hpending e he)
            · rintro decisions ⟨⟩ hne
              exact absurd rfl hne

end SwarmScheduler

end Cantilune
