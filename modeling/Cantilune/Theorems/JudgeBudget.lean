import Cantilune.Boot.JudgeBudget
import Cantilune.Base.Runs
import Cantilune.Base.JsString
import Mathlib.Algebra.BigOperators.Group.List.Basic
import Mathlib.Algebra.Order.BigOperators.Group.List
import Mathlib.Tactic.Linarith

/-!
# What the judge is granted

The ceilings are compared with the calls that were reconciled. A reservation that is still open counts nowhere, so
the policy keeps to its limits exactly as long as no reservation is granted that fits only without the open ones.
-/

namespace Cantilune
namespace JudgeBudgetPolicy

variable {limits : JudgeBudgetLimits} {policy policy' : JudgeBudgetPolicy} {estimate : Option JudgeBudgetEstimate}
  {checkedAt reservedAt : ℚ} {reservation : JudgeBudgetReservation} {reason : ExhaustedReason}

def estTokens (estimate : Option JudgeBudgetEstimate) : ℚ := (estimate.bind (·.tokens)).getD 0

def estCost (estimate : Option JudgeBudgetEstimate) : ℚ := (estimate.bind (·.costUsd)).getD 0

def PassesCeilings (limits : JudgeBudgetLimits) (policy : JudgeBudgetPolicy)
    (estimate : Option JudgeBudgetEstimate) (checkedAt : ℚ) : Prop :=
  policy.hardKilled = false ∧ JsDouble.reaches policy.calls limits.maxJudgeCalls = false ∧
    policy.checkSpendCeilings limits (policy.tokens + estTokens estimate) (policy.costUsd + estCost estimate)
      checkedAt = none

def openTokens (policy : JudgeBudgetPolicy) : ℚ := (policy.openReservations.values.map (·.estimatedTokens)).sum

def openCost (policy : JudgeBudgetPolicy) : ℚ := (policy.openReservations.values.map (·.estimatedCostUsd)).sum

def FitsBesideOpen (limits : JudgeBudgetLimits) (policy : JudgeBudgetPolicy)
    (estimate : Option JudgeBudgetEstimate) : Prop :=
  JsDouble.exceeds (policy.calls + policy.openReservations.size + 1 : Nat) limits.maxJudgeCalls = false ∧
    JsDouble.exceeds (policy.tokens + policy.openTokens + estTokens estimate) limits.maxTokens = false ∧
    JsDouble.exceeds (policy.costUsd + policy.openCost + estCost estimate) limits.maxCostUsd = false

/-! ## The calls of the policy -/

@[simp] theorem maybeHardKill_reservationSeq :
    (policy.maybeHardKill limits reason).reservationSeq = policy.reservationSeq := by
  unfold maybeHardKill
  split <;> rfl

@[simp] theorem maybeHardKill_calls : (policy.maybeHardKill limits reason).calls = policy.calls := by
  unfold maybeHardKill
  split <;> rfl

@[simp] theorem maybeHardKill_tokens : (policy.maybeHardKill limits reason).tokens = policy.tokens := by
  unfold maybeHardKill
  split <;> rfl

@[simp] theorem maybeHardKill_costUsd : (policy.maybeHardKill limits reason).costUsd = policy.costUsd := by
  unfold maybeHardKill
  split <;> rfl

@[simp] theorem maybeHardKill_openReservations :
    (policy.maybeHardKill limits reason).openReservations = policy.openReservations := by
  unfold maybeHardKill
  split <;> rfl

/-- The counters and the open reservations are the same; only the latch may differ. -/
structure SameCounts (policy policy' : JudgeBudgetPolicy) : Prop where
  reservationSeq : policy'.reservationSeq = policy.reservationSeq
  calls : policy'.calls = policy.calls
  tokens : policy'.tokens = policy.tokens
  costUsd : policy'.costUsd = policy.costUsd
  openReservations : policy'.openReservations = policy.openReservations

theorem sameCounts_refl : policy.SameCounts policy := ⟨rfl, rfl, rfl, rfl, rfl⟩

theorem sameCounts_maybeHardKill : policy.SameCounts (policy.maybeHardKill limits reason) :=
  ⟨by simp, by simp, by simp, by simp, by simp⟩

theorem reserve_ok (h : policy.reserve limits estimate checkedAt reservedAt = (.ok reservation, policy')) :
    policy.PassesCeilings limits estimate checkedAt ∧
      reservation = ⟨"jbud-" ++ toString (policy.reservationSeq + 1), reservedAt, estTokens estimate,
        estCost estimate⟩ ∧
      policy' = { policy with
        reservationSeq := policy.reservationSeq + 1
        openReservations := policy.openReservations.set reservation.reservationId reservation } := by
  unfold reserve at h
  split at h
  · cases h
  · rename_i hkilled
    split at h
    · cases h
    · rename_i hcalls
      cases hspend : policy.checkSpendCeilings limits (policy.tokens + estTokens estimate)
        (policy.costUsd + estCost estimate) checkedAt with
      | some spendReason =>
          unfold estTokens estCost at hspend
          simp only [hspend] at h
          cases h
      | none =>
          refine ⟨⟨Bool.eq_false_iff.2 hkilled, Bool.eq_false_iff.2 hcalls, hspend⟩, ?_⟩
          unfold estTokens estCost at hspend
          simp only [hspend] at h
          cases h
          exact ⟨rfl, rfl⟩

theorem reserve_error (h : policy.reserve limits estimate checkedAt reservedAt = (.error reason, policy')) :
    ¬ policy.PassesCeilings limits estimate checkedAt ∧ policy.SameCounts policy' := by
  unfold reserve at h
  split at h
  · rename_i hkilled
    cases h
    refine ⟨fun hpass => ?_, sameCounts_refl⟩
    rw [hpass.1] at hkilled
    cases hkilled
  · split at h
    · rename_i hcalls
      cases h
      refine ⟨fun hpass => ?_, sameCounts_maybeHardKill⟩
      rw [hpass.2.1] at hcalls
      cases hcalls
    · cases hspend : policy.checkSpendCeilings limits (policy.tokens + estTokens estimate)
        (policy.costUsd + estCost estimate) checkedAt with
      | some spendReason =>
          refine ⟨fun hpass => ?_, ?_⟩
          · rw [hpass.2.2] at hspend
            cases hspend
          · unfold estTokens estCost at hspend
            simp only [hspend] at h
            cases h
            exact sameCounts_maybeHardKill
      | none =>
          unfold estTokens estCost at hspend
          simp only [hspend] at h
          cases h

theorem reconcile_counts (input : JudgeBudgetReconcile) :
    SameCounts { policy with
        openReservations := policy.openReservations.delete input.reservationId
        calls := policy.calls + 1
        tokens := policy.tokens + input.actualTokens
        costUsd := policy.costUsd + input.actualCostUsd }
      (policy.reconcile limits input checkedAt) := by
  dsimp only [reconcile]
  split <;> split <;> constructor <;> simp only [maybeHardKill_reservationSeq, maybeHardKill_calls,
    maybeHardKill_tokens, maybeHardKill_costUsd, maybeHardKill_openReservations]

theorem isHardKilled_counts : policy.SameCounts (policy.isHardKilled limits checkedAt).2 := by
  unfold isHardKilled
  split
  · exact sameCounts_refl
  · split
    · exact sameCounts_maybeHardKill
    · exact sameCounts_refl

end JudgeBudgetPolicy

/-! ## The books of a policy -/

namespace JudgeBudgetUse

variable {limits : JudgeBudgetLimits} {s t : JudgeBudgetUse} {call : JudgeBudgetCall}

def usedTokens (s : JudgeBudgetUse) : ℚ := (s.reconciled.map (·.actualTokens)).sum

def usedCost (s : JudgeBudgetUse) : ℚ := (s.reconciled.map (·.actualCostUsd)).sum

def reservedTokens (s : JudgeBudgetUse) : ℚ := (s.outstanding.map (·.estimatedTokens)).sum

def reservedCost (s : JudgeBudgetUse) : ℚ := (s.outstanding.map (·.estimatedCostUsd)).sum

/-- The granted reservations, and the usage of the reconciled ones with the estimates of the others, stay within
the limits. -/
structure WithinLimits (limits : JudgeBudgetLimits) (s : JudgeBudgetUse) : Prop where
  calls : JsDouble.exceeds s.granted.length limits.maxJudgeCalls = false
  tokens : JsDouble.exceeds (s.usedTokens + s.reservedTokens) limits.maxTokens = false
  cost : JsDouble.exceeds (s.usedCost + s.reservedCost) limits.maxCostUsd = false

/-- What the variables of the policy say about the calls that were made. -/
structure Ledger (s : JudgeBudgetUse) : Prop where
  calls : s.policy.calls = s.reconciled.length
  tokens : s.policy.tokens = s.usedTokens
  cost : s.policy.costUsd = s.usedCost
  values : s.policy.openReservations.values = s.outstanding
  keyed : s.policy.openReservations.ForAll fun id r => r.reservationId = id
  settles : ∀ input ∈ s.reconciled, input.reservationId ∈ s.granted.map (·.reservationId)
  numbered : ∀ r ∈ s.granted, ∃ n ≤ s.policy.reservationSeq, r.reservationId = "jbud-" ++ toString n
  distinct : (s.granted.map (·.reservationId)).Nodup
  balance : s.granted.length = s.reconciled.length + s.outstanding.length

theorem ledger_fresh (reservationSeq : Nat) (startedAt : ℚ) : (fresh reservationSeq startedAt).Ledger where
  calls := rfl
  tokens := rfl
  cost := rfl
  values := rfl
  keyed := fun _ _ h => by cases h
  settles := fun _ h => by cases h
  numbered := fun _ h => by cases h
  distinct := List.nodup_nil
  balance := rfl

theorem ledger_of_sameCounts {policy : JudgeBudgetPolicy} (hsame : s.policy.SameCounts policy) (h : s.Ledger) :
    Ledger { s with policy } where
  calls := hsame.calls.trans h.calls
  tokens := hsame.tokens.trans h.tokens
  cost := hsame.costUsd.trans h.cost
  values := (congrArg OrdMap.values hsame.openReservations).trans h.values
  keyed := by
    rw [hsame.openReservations]
    exact h.keyed
  settles := h.settles
  numbered := by
    rw [hsame.reservationSeq]
    exact h.numbered
  distinct := h.distinct
  balance := h.balance

theorem ledger_advance (h : s.Ledger) :
    Ledger { s with policy := { s.policy with reservationSeq := s.policy.reservationSeq + 1 } } :=
  { h with
    numbered := fun r hr =>
      let ⟨n, hn, hid⟩ := h.numbered r hr
      ⟨n, Nat.le_succ_of_le hn, hid⟩ }

theorem jbud_injective {n k : Nat} (h : "jbud-" ++ toString n = "jbud-" ++ toString k) : n = k := by
  have htoList := congrArg String.toList h
  rw [String.toList_append, String.toList_append] at htoList
  exact JsString.toString_injective (List.append_cancel_left htoList)

/-! ### A reservation is granted -/

section Grant

variable {reservation : JudgeBudgetReservation}
  (h : s.Ledger) (hid : reservation.reservationId = "jbud-" ++ toString (s.policy.reservationSeq + 1))
include h hid

theorem fresh_id : reservation.reservationId ∉ s.granted.map (·.reservationId) := by
  intro hmem
  obtain ⟨r, hr, heq⟩ := List.mem_map.1 hmem
  obtain ⟨n, hn, hrid⟩ := h.numbered r hr
  have hnumber := jbud_injective (hrid.symm.trans (heq.trans hid))
  exact Nat.not_succ_le_self _ (hnumber ▸ hn)

theorem outstanding_grant (policy : JudgeBudgetPolicy) :
    outstanding { s with policy, granted := s.granted ++ [reservation] } = s.outstanding ++ [reservation] := by
  have hunsettled : reservation.reservationId ∉ s.reconciled.map (·.reservationId) := by
    intro hmem
    obtain ⟨input, hinput, heq⟩ := List.mem_map.1 hmem
    exact fresh_id h hid (heq ▸ h.settles input hinput)
  unfold outstanding
  rw [List.filter_append, List.filter_cons, if_pos (decide_eq_true hunsettled), List.filter_nil]

theorem values_grant :
    (s.policy.openReservations.set reservation.reservationId reservation).values = s.outstanding ++ [reservation] := by
  have hnew : s.policy.openReservations.has reservation.reservationId = false := by
    rw [OrdMap.has_eq_false_iff, Option.eq_none_iff_forall_not_mem]
    intro r hr
    have hmem : r ∈ s.outstanding := h.values ▸ OrdMap.mem_values.2 ⟨_, hr⟩
    exact fresh_id h hid (h.keyed _ _ hr ▸ List.mem_map_of_mem (List.mem_of_mem_filter hmem))
  rw [OrdMap.values, OrdMap.entries_set_of_has_false hnew, List.map_append, List.map_singleton]
  exact congrArg (· ++ [reservation]) h.values

theorem ledger_grant :
    Ledger
      { s with
        policy := { s.policy with
          reservationSeq := s.policy.reservationSeq + 1
          openReservations := s.policy.openReservations.set reservation.reservationId reservation }
        granted := s.granted ++ [reservation] } where
  calls := h.calls
  tokens := h.tokens
  cost := h.cost
  values := (values_grant h hid).trans (outstanding_grant h hid _).symm
  keyed := OrdMap.forAll_set.2 ⟨rfl, fun id r hr _ => h.keyed id r hr⟩
  settles := fun input hinput => by
    rw [List.map_append]
    exact List.mem_append_left _ (h.settles input hinput)
  numbered := fun r hr => by
    rcases List.mem_append.1 hr with hr | hr
    · obtain ⟨n, hn, hrid⟩ := h.numbered r hr
      exact ⟨n, Nat.le_succ_of_le hn, hrid⟩
    · exact ⟨_, Nat.le_refl _, List.mem_singleton.1 hr ▸ hid⟩
  distinct := by
    rw [List.map_append, List.map_singleton]
    exact List.nodup_append.2 ⟨h.distinct, List.nodup_singleton _, fun a ha b hb heq =>
      fresh_id h hid (by rwa [heq, List.mem_singleton.1 hb] at ha)⟩
  balance := by
    rw [outstanding_grant h hid, List.length_append, List.length_append, h.balance, Nat.add_assoc]

theorem withinLimits_grant {estimate : Option JudgeBudgetEstimate} (policy : JudgeBudgetPolicy)
    (htokens : reservation.estimatedTokens = JudgeBudgetPolicy.estTokens estimate)
    (hcost : reservation.estimatedCostUsd = JudgeBudgetPolicy.estCost estimate) :
    WithinLimits limits { s with policy, granted := s.granted ++ [reservation] } ↔
      s.policy.FitsBesideOpen limits estimate := by
  have hopen : s.policy.openReservations.size = s.outstanding.length := by
    rw [← h.values, OrdMap.values, List.length_map]
    rfl
  have hcalls : (s.granted ++ [reservation]).length =
      s.policy.calls + s.policy.openReservations.size + 1 := by
    rw [List.length_append, h.balance, h.calls, hopen]
    rfl
  have hreserved : reservedTokens { s with policy, granted := s.granted ++ [reservation] } =
      s.policy.openTokens + JudgeBudgetPolicy.estTokens estimate := by
    rw [reservedTokens, outstanding_grant h hid, List.map_append, List.sum_append, JudgeBudgetPolicy.openTokens,
      h.values, List.map_singleton, List.sum_singleton, htokens]
  have hreservedCost : reservedCost { s with policy, granted := s.granted ++ [reservation] } =
      s.policy.openCost + JudgeBudgetPolicy.estCost estimate := by
    rw [reservedCost, outstanding_grant h hid, List.map_append, List.sum_append, JudgeBudgetPolicy.openCost,
      h.values, List.map_singleton, List.sum_singleton, hcost]
  unfold JudgeBudgetPolicy.FitsBesideOpen
  rw [← hcalls, add_assoc s.policy.tokens, add_assoc s.policy.costUsd, ← hreserved, ← hreservedCost, h.tokens, h.cost]
  exact ⟨fun hw => ⟨hw.calls, hw.tokens, hw.cost⟩, fun hf => ⟨hf.1, hf.2.1, hf.2.2⟩⟩

end Grant

/-! ### A reservation is reconciled -/

section Reconcile

variable {reservation : JudgeBudgetReservation} {input : JudgeBudgetReconcile} {checkedAt : ℚ}
  (h : s.Ledger) (hmem : reservation ∈ s.outstanding) (hid : input.reservationId = reservation.reservationId)
include h hmem hid

theorem erase_outstanding :
    s.outstanding.erase reservation = s.outstanding.filter fun r => r.reservationId ≠ input.reservationId := by
  have hids : (s.outstanding.map (·.reservationId)).Nodup := h.distinct.sublist (List.filter_sublist.map _)
  rw [(List.Nodup.of_map _ hids).erase_eq_filter]
  refine List.filter_congr fun r hr => ?_
  have hsame : r.reservationId = input.reservationId ↔ r = reservation := by
    rw [hid]
    exact ⟨fun heq => List.inj_on_of_nodup_map hids hr hmem heq, fun heq => heq ▸ rfl⟩
  rw [Bool.eq_iff_iff]
  simp [hsame]

theorem outstanding_reconcile (policy : JudgeBudgetPolicy) :
    outstanding { s with policy, reconciled := s.reconciled ++ [input] } = s.outstanding.erase reservation := by
  rw [erase_outstanding h hmem hid]
  unfold outstanding
  rw [List.filter_filter]
  refine List.filter_congr fun r _ => ?_
  simp [Bool.and_comm, not_or]

theorem values_reconcile :
    (s.policy.openReservations.delete input.reservationId).values = s.outstanding.erase reservation := by
  rw [erase_outstanding h hmem hid, ← h.values, OrdMap.values, OrdMap.values, List.filter_map]
  refine congrArg _ (List.filter_congr fun e he => ?_)
  have hkey := h.keyed e.1 e.2 (OrdMap.mem_entries.1 he)
  simp [hkey]

theorem ledger_reconcile :
    Ledger { s with policy := s.policy.reconcile limits input checkedAt, reconciled := s.reconciled ++ [input] } := by
  refine ledger_of_sameCounts (s := { s with policy := _, reconciled := s.reconciled ++ [input] })
    (JudgeBudgetPolicy.reconcile_counts input) ?_
  constructor
  · rw [List.length_append, h.calls]
    rfl
  · simp only [usedTokens, List.map_append, List.sum_append, List.map_singleton, List.sum_singleton, h.tokens]
  · simp only [usedCost, List.map_append, List.sum_append, List.map_singleton, List.sum_singleton, h.cost]
  · exact (values_reconcile h hmem hid).trans (outstanding_reconcile h hmem hid _).symm
  · intro id r hr
    rw [OrdMap.get?_delete] at hr
    split at hr
    · cases hr
    · exact h.keyed id r hr
  · intro i hi
    rcases List.mem_append.1 hi with hi | hi
    · exact h.settles i hi
    · rw [List.mem_singleton.1 hi, hid]
      exact List.mem_map_of_mem (List.mem_of_mem_filter hmem)
  · exact h.numbered
  · exact h.distinct
  · rw [outstanding_reconcile h hmem hid, List.length_append, List.length_erase_of_mem hmem, h.balance]
    have hpos := List.length_pos_of_mem hmem
    change _ = _ + 1 + (_ - 1)
    omega

theorem withinLimits_reconcile (policy : JudgeBudgetPolicy) (htokens : input.actualTokens ≤ reservation.estimatedTokens)
    (hcost : input.actualCostUsd ≤ reservation.estimatedCostUsd) (hw : s.WithinLimits limits) :
    WithinLimits limits { s with policy, reconciled := s.reconciled ++ [input] } := by
  refine ⟨hw.calls, JsDouble.exceeds_mono ?_ hw.tokens, JsDouble.exceeds_mono ?_ hw.cost⟩
  · have hsum := List.sum_map_erase (·.estimatedTokens) hmem
    simp only [usedTokens, reservedTokens, outstanding_reconcile h hmem hid, List.map_append, List.sum_append,
      List.map_singleton, List.sum_singleton]
    linarith
  · have hsum := List.sum_map_erase (·.estimatedCostUsd) hmem
    simp only [usedCost, reservedCost, outstanding_reconcile h hmem hid, List.map_append, List.sum_append,
      List.map_singleton, List.sum_singleton]
    linarith

end Reconcile

/-! ## Runs -/

theorem step_ledger (hstep : Step limits s call t) (h : s.Ledger) : t.Ledger := by
  cases hstep with
  | granted ok =>
      obtain ⟨-, hreservation, rfl⟩ := JudgeBudgetPolicy.reserve_ok ok
      exact ledger_grant h (congrArg (·.reservationId) hreservation)
  | refused error => exact ledger_of_sameCounts (JudgeBudgetPolicy.reserve_error error).2 h
  | reconcile hmem hid _ _ => exact ledger_reconcile h hmem hid
  | isHardKilled => exact ledger_of_sameCounts JudgeBudgetPolicy.isHardKilled_counts h
  | reserveElsewhere => exact ledger_advance h

def CountsOpen (limits : JudgeBudgetLimits) (s : JudgeBudgetUse) (call : JudgeBudgetCall) : Prop :=
  ∀ estimate checkedAt reservedAt, call = .reserve estimate checkedAt reservedAt →
    s.policy.PassesCeilings limits estimate checkedAt → s.policy.FitsBesideOpen limits estimate

theorem step_withinLimits_iff (hstep : Step limits s call t) (h : s.Ledger) (hw : s.WithinLimits limits) :
    t.WithinLimits limits ↔ s.CountsOpen limits call := by
  cases hstep with
  | granted ok =>
      obtain ⟨hpass, hreservation, -⟩ := JudgeBudgetPolicy.reserve_ok ok
      have hid := congrArg JudgeBudgetReservation.reservationId hreservation
      have htokens := congrArg JudgeBudgetReservation.estimatedTokens hreservation
      have hcost := congrArg JudgeBudgetReservation.estimatedCostUsd hreservation
      rw [withinLimits_grant h hid _ htokens hcost]
      constructor
      · rintro hfits _ _ _ ⟨⟩ -
        exact hfits
      · exact fun hcounts => hcounts _ _ _ rfl hpass
  | refused error =>
      refine ⟨?_, fun _ => ⟨hw.calls, hw.tokens, hw.cost⟩⟩
      rintro - _ _ _ ⟨⟩ hpass
      exact absurd hpass (JudgeBudgetPolicy.reserve_error error).1
  | reconcile hmem hid htokens hcost =>
      refine ⟨fun _ => nofun, fun _ => ?_⟩
      exact withinLimits_reconcile h hmem hid _ htokens hcost hw
  | isHardKilled => exact ⟨fun _ => nofun, fun _ => ⟨hw.calls, hw.tokens, hw.cost⟩⟩
  | reserveElsewhere => exact ⟨fun _ => nofun, fun _ => ⟨hw.calls, hw.tokens, hw.cost⟩⟩

end JudgeBudgetUse

section Concurrent

def oneCall : JudgeBudgetLimits where
  maxJudgeCalls := some (.finite 1)
  maxTokens := none
  maxCostUsd := none
  maxWallMs := none
  hardKillEnabled := none

end Concurrent

end Cantilune
