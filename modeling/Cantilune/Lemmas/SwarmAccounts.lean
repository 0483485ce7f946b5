import Cantilune.Lemmas.SwarmBooks
import Mathlib.Tactic.Linarith

/-!
# The accounts of a swarm

An agent is claimed once: a claimed agent is known, so it never comes back to the queue, and it is in no batch any
more. The starts that are counted are the running and the completed agents, and a batch that is being started has
its slots and its starts left.
-/

namespace Cantilune
namespace SwarmBooks

open SwarmScheduler

structure Accounts (b : SwarmBooks) : Prop where
  keyed : Keyed b.scheduler.pending
  admitted : ∀ a, a ∈ b.history.admitted ↔ a ∈ b.scheduler.known
  pending_known : ∀ a, b.scheduler.pending.has a = true → a ∈ b.scheduler.known
  claimed_known : ∀ a ∈ b.history.claimed, a ∈ b.scheduler.known
  claimed_unqueued : ∀ a ∈ b.history.claimed, b.scheduler.pending.has a = false
  claimed_once : b.history.claimed.Nodup
  running_claimed : ∀ a ∈ b.scheduler.running, a ∈ b.history.claimed
  completed_claimed : ∀ a ∈ b.history.completed, a ∈ b.history.claimed
  completed_over : ∀ a ∈ b.history.completed, a ∉ b.scheduler.running
  rest_nodup : b.rest.Nodup
  rest_known : ∀ a ∈ b.rest, a ∈ b.scheduler.known
  rest_unclaimed : ∀ a ∈ b.rest, a ∉ b.history.claimed
  startedTotal : b.scheduler.startedTotal = b.scheduler.running.card + b.scheduler.completedTotal
  completedTotal : b.scheduler.completedTotal = b.history.completed.card
  slots : JsDouble.exceeds (b.scheduler.running.card + b.rest.length)
    (some b.scheduler.policy.maxConcurrentAgents.1) = false
  spawns : JsDouble.exceeds (b.scheduler.startedTotal + b.rest.length)
    (some b.scheduler.policy.maxTotalAgents.1) = false

variable {b c : SwarmBooks} {a : ActorId}

theorem exceeds_positive (bound : SchedulerLimit) : JsDouble.exceeds ((0 : Nat) + (0 : Nat)) (some bound.1) = false := by
  obtain ⟨q | _ | _ | _, hpos⟩ := bound
  · simp only [JsDouble.Positive, JsDouble.gt, decide_eq_true_eq] at hpos
    simp only [JsDouble.exceeds, JsDouble.gt, Nat.cast_zero, add_zero, decide_eq_false_iff_not, not_lt]
    exact hpos.le
  · rfl
  · cases hpos
  · rfl

theorem accounts_same {t : SwarmScheduler} (hsame : b.scheduler.SameAgents t) (h : b.Accounts) :
    Accounts { b with scheduler := t } where
  keyed := hsame.keyed h.keyed
  admitted a := by rw [h.admitted, hsame.known]
  pending_known a ha := hsame.known ▸ h.pending_known a ((hsame.pending a).symm.trans ha)
  claimed_known a ha := hsame.known ▸ h.claimed_known a ha
  claimed_unqueued a ha := (hsame.pending a).trans (h.claimed_unqueued a ha)
  claimed_once := h.claimed_once
  running_claimed a ha := h.running_claimed a (hsame.running ▸ ha)
  completed_claimed := h.completed_claimed
  completed_over a ha := hsame.running ▸ h.completed_over a ha
  rest_nodup := h.rest_nodup
  rest_known a ha := hsame.known ▸ h.rest_known a ha
  rest_unclaimed := h.rest_unclaimed
  startedTotal := by rw [hsame.startedTotal, hsame.running, hsame.completedTotal, h.startedTotal]
  completedTotal := hsame.completedTotal.trans h.completedTotal
  slots := by rw [hsame.running, hsame.policy]; exact h.slots
  spawns := by rw [hsame.startedTotal, hsame.policy]; exact h.spawns

theorem accounts_admitAgent (a : ActorId) (manifest : AgentManifest) (now : ℚ) (h : b.Accounts) :
    Accounts { b with
      scheduler := (b.scheduler.admitAgent a manifest now).2, history := b.history.admitAgent b.scheduler a } := by
  unfold SwarmScheduler.admitAgent SwarmHistory.admitAgent
  by_cases ha : a ∈ b.scheduler.known
  · rw [if_pos ha, if_pos ha]
    exact h
  · rw [if_neg ha, if_neg ha]
    have hunclaimed : a ∉ b.history.claimed := fun hc => ha (h.claimed_known a hc)
    exact
      { h with
        keyed := keyed_set h.keyed rfl
        admitted := fun x => by rw [Finset.mem_insert, Finset.mem_insert, h.admitted]
        pending_known := fun x hx => by
          rw [OrdMap.has_set, Bool.or_eq_true, decide_eq_true_eq] at hx
          rcases hx with rfl | hx
          · exact Finset.mem_insert_self _ _
          · exact Finset.mem_insert_of_mem (h.pending_known x hx)
        claimed_known := fun x hx => Finset.mem_insert_of_mem (h.claimed_known x hx)
        claimed_unqueued := fun x hx => by
          have hne : x ≠ a := fun heq => hunclaimed (heq ▸ hx)
          rw [OrdMap.has_set, decide_eq_false hne, Bool.false_or]
          exact h.claimed_unqueued x hx
        rest_known := fun x hx => Finset.mem_insert_of_mem (h.rest_known x hx) }

theorem exceeds_slots_erase (h : b.Accounts) (a : ActorId) {n : Nat} (hn : n ≤ b.rest.length) :
    JsDouble.exceeds ((b.scheduler.running.erase a).card + n) (some b.scheduler.policy.maxConcurrentAgents.1) = false := by
  refine JsDouble.exceeds_mono ?_ h.slots
  have hcard : ((b.scheduler.running.erase a).card : ℚ) ≤ b.scheduler.running.card :=
    Nat.cast_le.2 (Finset.card_erase_le)
  have hlength : (n : ℚ) ≤ b.rest.length := Nat.cast_le.2 hn
  linarith

theorem accounts_complete (a : ActorId) (turns : JsDouble) (h : b.Accounts) :
    Accounts { b with
      scheduler := b.scheduler.onCompleted a turns, history := b.history.complete b.scheduler a } := by
  unfold onCompleted SwarmHistory.complete
  by_cases ha : a ∈ b.scheduler.running
  · simp only [if_pos ha]
    have hnew : a ∉ b.history.completed := fun hc => h.completed_over a hc ha
    exact
      { h with
        running_claimed := fun x hx => h.running_claimed x (Finset.mem_of_mem_erase hx)
        completed_claimed := fun x hx => by
          rcases Finset.mem_insert.1 hx with rfl | hx
          · exact h.running_claimed x ha
          · exact h.completed_claimed x hx
        completed_over := fun x hx hrun => by
          rcases Finset.mem_insert.1 hx with rfl | hx
          · exact Finset.notMem_erase x _ hrun
          · exact h.completed_over x hx (Finset.mem_of_mem_erase hrun)
        startedTotal := by
          have hpos := Finset.card_pos.2 ⟨a, ha⟩
          have htotal := h.startedTotal
          simp only [Finset.card_erase_of_mem ha]
          omega
        completedTotal := by
          rw [Finset.card_insert_of_notMem hnew, h.completedTotal]
        slots := exceeds_slots_erase h a le_rfl }
  · simp only [if_neg ha]
    exact { h with }

theorem accounts_discard (a : ActorId) (h : b.Accounts) :
    Accounts { b with scheduler := b.scheduler.discard a, history := b.history.discard b.scheduler a } := by
  unfold SwarmScheduler.discard SwarmHistory.discard
  by_cases ha : b.scheduler.pending.has a = true
  · rw [if_pos ha, if_pos ha]
    exact
      { h with
        keyed := keyed_delete h.keyed a
        pending_known := fun x hx => by
          rw [has_delete, Bool.and_eq_true] at hx
          exact h.pending_known x hx.2
        claimed_unqueued := fun x hx => by rw [has_delete, h.claimed_unqueued x hx, Bool.and_false] }
  · rw [if_neg ha, if_neg ha]
    exact h

theorem accounts_select {batch : List ActorId} (ok : Batch b.scheduler batch) (h : b.Accounts) :
    Accounts { b with rest := batch } :=
  { h with
    rest_nodup := ok.nodup
    rest_known := fun x hx => h.pending_known x (ok.pending x hx)
    rest_unclaimed := fun x hx hc => by
      have hqueued := ok.pending x hx
      rw [h.claimed_unqueued x hc] at hqueued
      cases hqueued
    slots := ok.slots
    spawns := ok.spawns }

theorem accounts_claim {rest : List ActorId} (hnext : b.rest = a :: rest) (h : b.Accounts) :
    Accounts { scheduler := b.scheduler.onStarted a, starting := some a, rest, history := b.history.claim a } := by
  have hunclaimed : a ∉ b.history.claimed := h.rest_unclaimed a (hnext ▸ List.mem_cons_self)
  have hrunning : a ∉ b.scheduler.running := fun hr => hunclaimed (h.running_claimed a hr)
  have hrest : ∀ x ∈ rest, x ∈ b.rest := fun x hx => hnext ▸ List.mem_cons_of_mem a hx
  have hnodup : a ∉ rest ∧ rest.Nodup := List.nodup_cons.1 (hnext ▸ h.rest_nodup)
  have hlength : (b.rest.length : ℚ) = rest.length + 1 := by rw [hnext, List.length_cons, Nat.cast_succ]
  rw [onStarted_of_notMem hrunning]
  exact
    { keyed := keyed_delete h.keyed a
      admitted := h.admitted
      pending_known := fun x hx => by
        rw [has_delete, Bool.and_eq_true] at hx
        exact h.pending_known x hx.2
      claimed_known := fun x hx => by
        rcases List.mem_append.1 hx with hx | hx
        · exact h.claimed_known x hx
        · exact List.mem_singleton.1 hx ▸ h.rest_known a (hnext ▸ List.mem_cons_self)
      claimed_unqueued := fun x hx => by
        rw [has_delete]
        rcases List.mem_append.1 hx with hx | hx
        · rw [h.claimed_unqueued x hx, Bool.and_false]
        · simp [List.mem_singleton.1 hx]
      claimed_once := List.nodup_append.2 ⟨h.claimed_once, List.nodup_singleton a, fun x hx y hy heq =>
        hunclaimed (by rwa [heq, List.mem_singleton.1 hy] at hx)⟩
      running_claimed := fun x hx => by
        rcases Finset.mem_insert.1 hx with rfl | hx
        · exact List.mem_append_right _ (List.mem_singleton_self x)
        · exact List.mem_append_left _ (h.running_claimed x hx)
      completed_claimed := fun x hx => List.mem_append_left _ (h.completed_claimed x hx)
      completed_over := fun x hx hrun => by
        rcases Finset.mem_insert.1 hrun with rfl | hrun
        · exact hunclaimed (h.completed_claimed x hx)
        · exact h.completed_over x hx hrun
      rest_nodup := hnodup.2
      rest_known := fun x hx => h.rest_known x (hrest x hx)
      rest_unclaimed := fun x hx hc => by
        rcases List.mem_append.1 hc with hc | hc
        · exact h.rest_unclaimed x (hrest x hx) hc
        · exact hnodup.1 (List.mem_singleton.1 hc ▸ hx)
      startedTotal := by
        have htotal := h.startedTotal
        simp only [Finset.card_insert_of_notMem hrunning]
        omega
      completedTotal := h.completedTotal
      slots := by
        refine JsDouble.exceeds_mono (le_of_eq ?_) h.slots
        simp only [Finset.card_insert_of_notMem hrunning, hlength, Nat.cast_succ]
        ring
      spawns := by
        refine JsDouble.exceeds_mono (le_of_eq ?_) h.spawns
        simp only [hlength, Int.cast_add, Int.cast_one]
        ring }

theorem accounts_settle (h : b.Accounts) : Accounts { b with starting := none } := { h with }

theorem accounts_drop (h : b.Accounts) : Accounts { b with rest := [] } :=
  { h with
    rest_nodup := List.nodup_nil
    rest_known := fun _ hx => absurd hx List.not_mem_nil
    rest_unclaimed := fun _ hx => absurd hx List.not_mem_nil
    slots := JsDouble.exceeds_mono (add_le_add_right (Nat.cast_le.2 (Nat.zero_le _)) _) h.slots
    spawns := JsDouble.exceeds_mono (add_le_add_right (Nat.cast_le.2 (Nat.zero_le _)) _) h.spawns }

theorem accounts_release (a : ActorId) (h : b.Accounts) :
    Accounts { b with scheduler := b.scheduler.releaseSlot a, starting := none, rest := [] } := by
  have hdrop := accounts_settle (accounts_drop h)
  unfold releaseSlot
  by_cases ha : a ∈ b.scheduler.running
  · rw [if_pos ha]
    exact
      { hdrop with
        running_claimed := fun x hx => h.running_claimed x (Finset.mem_of_mem_erase hx)
        completed_over := fun x hx hrun => h.completed_over x hx (Finset.mem_of_mem_erase hrun)
        startedTotal := by
          have hpos := Finset.card_pos.2 ⟨a, ha⟩
          have htotal := h.startedTotal
          simp only [Finset.card_erase_of_mem ha]
          omega
        slots := exceeds_slots_erase h a (Nat.zero_le _)
        spawns := by
          refine JsDouble.exceeds_mono ?_ hdrop.spawns
          simp only [Int.cast_sub, Int.cast_one]
          linarith }
  · rw [if_neg ha]
    exact hdrop

theorem accounts_move (hmove : Move b c) (h : b.Accounts) : c.Accounts := by
  cases hmove with
  | same hsame => exact accounts_same hsame h
  | admitAgent a manifest now => exact accounts_admitAgent a manifest now h
  | complete a turns => exact accounts_complete a turns h
  | discard a => exact accounts_discard a h
  | select _ _ ok => exact accounts_select ok h
  | claim _ hnext => exact accounts_claim hnext h
  | settle _ => exact accounts_settle h
  | release _ => exact accounts_release _ h
  | drop _ => exact accounts_drop h

theorem accounts_moves (hmoves : Moves b c) (h : b.Accounts) : c.Accounts := by
  induction hmoves with
  | refl => exact h
  | tail _ hmove ih => exact accounts_move hmove ih

theorem accounts_create (policy : Option SwarmSchedulerPolicyInput) (now : ℚ) (head : Option CollaborationSnapshot) :
    (ofSupervisor (.create policy now head) .start).Accounts where
  keyed := fun _ _ h => by cases h
  admitted := fun _ => by simp [ofSupervisor, SwarmHistory.start, ClusterSupervisor.create, SwarmScheduler.create]
  pending_known := fun _ h => by cases h
  claimed_known := fun _ h => absurd h List.not_mem_nil
  claimed_unqueued := fun _ h => absurd h List.not_mem_nil
  claimed_once := List.nodup_nil
  running_claimed := fun _ h => absurd h (Finset.notMem_empty _)
  completed_claimed := fun _ h => absurd h (Finset.notMem_empty _)
  completed_over := fun _ h => absurd h (Finset.notMem_empty _)
  rest_nodup := List.nodup_nil
  rest_known := fun _ h => absurd h List.not_mem_nil
  rest_unclaimed := fun _ h => absurd h List.not_mem_nil
  startedTotal := rfl
  completedTotal := rfl
  slots := exceeds_positive (resolveSchedulerPolicy policy).maxConcurrentAgents
  spawns := exceeds_positive (resolveSchedulerPolicy policy).maxTotalAgents

end SwarmBooks

namespace ClusterSupervisor

variable {registry : ConditionEvaluatorRegistry}

abbrev Recorded (registry : ConditionEvaluatorRegistry) :
    ClusterSupervisor × SwarmHistory → ClusterEvent → ClusterSupervisor × SwarmHistory → Prop :=
  Run.Recorded (Step registry) SwarmHistory.next

theorem step_accounts {p q : ClusterSupervisor × SwarmHistory} {event : ClusterEvent}
    (hstep : Recorded registry p event q) (h : (SwarmBooks.ofSupervisor p.1 p.2).Accounts) :
    (SwarmBooks.ofSupervisor q.1 q.2).Accounts := by
  obtain ⟨hnext, hhistory⟩ := hstep
  rw [hhistory]
  exact SwarmBooks.accounts_moves (step_moves hnext h.keyed) h

end ClusterSupervisor
end Cantilune
