import Cantilune.Evaluation.Engine
import Mathlib.Tactic.Linarith
import Mathlib.Tactic.Ring

/-!
# Admission under a budget

A call reads the ledger, reserves a run on it and writes it back, with an await in between, and keeps its
reservation when the store refuses its run. So the ledger counts the runs that were admitted where no ledger is
written over a newer one and no run is refused; and as many runs fit as the policy allows where that many
estimates, which are rounded up, fit into its totals.
-/

namespace Cantilune.Evaluation

open Sections

variable {ι : Type} {host : EngineHost} {policy : EvaluationBudgetPolicy}

/-! ## The calls under one policy -/

/-- A call of `admitRun` under the policy: its plan and its subject. -/
abbrev Admission := EvaluationRunPlan × CandidateSubject

def admissions (host : EngineHost) (policy : EvaluationBudgetPolicy) : Sections EvaluationStores Admission :=
  (evaluationEngine host).comap fun call => .admitRun call.1 call.2 policy

def ledgerOf (policy : EvaluationBudgetPolicy) (stores : EvaluationStores) : BudgetLedger :=
  (stores.ledgers.get? policy.policyId).getD (createEmptyLedger policy.policyId)

/-- The ports answer so that the call gets through its checks. -/
def AdmitWait.Passes (host : EngineHost) (candidateSubject : CandidateSubject) : (wait : AdmitWait) → wait.Resp → Prop
  | .resolving, .ok certificate => certificateRefused certificate candidateSubject = none
  | .resolving, .error _ => False
  | .checkingRevocation certificate, resp => resp.1 = false ∧ certificateExpired host certificate resp.2.2 = false
  | .readingLedger _, _ => True
  | .savingLedger .., _ => True
  | .savingRun .., _ => True

instance AdmitWait.decidablePasses (host : EngineHost) (candidateSubject : CandidateSubject) : (wait : AdmitWait) →
    (resp : wait.Resp) → Decidable (AdmitWait.Passes host candidateSubject wait resp)
  | .resolving, .ok certificate => inferInstanceAs (Decidable (certificateRefused certificate candidateSubject = none))
  | .resolving, .error _ => inferInstanceAs (Decidable False)
  | .checkingRevocation certificate, resp =>
      inferInstanceAs (Decidable (resp.1 = false ∧ certificateExpired host certificate resp.2.2 = false))
  | .readingLedger _, _ => inferInstanceAs (Decidable True)
  | .savingLedger .., _ => inferInstanceAs (Decidable True)
  | .savingRun .., _ => inferInstanceAs (Decidable True)

/-- The call is admissible but for the budget. -/
def Passes : TaskLabel (admissions host policy) ι → Prop
  | .start _ call => planRefused call.1 call.2 = none
  | .resume _ call wait resp => AdmitWait.Passes host call.2 wait resp

instance : DecidablePred (@Passes ι host policy)
  | .start _ call => inferInstanceAs (Decidable (planRefused call.1 call.2 = none))
  | .resume _ call wait resp => AdmitWait.decidablePasses host call.2 wait resp

def AdmitWait.read? : AdmitWait → Option BudgetLedger
  | .savingLedger _ read _ => some read
  | _ => none

/-- What the call read is still the ledger. -/
def AdmitWait.Fresh (policy : EvaluationBudgetPolicy) (stores : EvaluationStores) (wait : AdmitWait) : Prop :=
  ∀ read ∈ wait.read?, ledgerOf policy stores = read

/-- No ledger is written over a newer one than the one that was read. -/
def SavesFresh (s : Tasks (admissions host policy) ι) (l : TaskLabel (admissions host policy) ι)
    (_ : Tasks (admissions host policy) ι) : Prop :=
  match l with
  | .start _ _ => True
  | .resume _ _ wait _ => AdmitWait.Fresh policy s.world wait

instance : (s : Tasks (admissions host policy) ι) → (l : TaskLabel (admissions host policy) ι) →
    (t : Tasks (admissions host policy) ι) → Decidable (SavesFresh s l t)
  | _, .start _ _, _ => inferInstanceAs (Decidable True)
  | s, .resume _ _ wait _, _ =>
      inferInstanceAs (Decidable (∀ read ∈ AdmitWait.read? wait, ledgerOf policy s.world = read))

def AdmitWait.refuses : (wait : AdmitWait) → wait.Resp → Bool
  | .savingRun .., .error _ => true
  | _, _ => false

def refusesRun : TaskLabel (admissions host policy) ι → Bool
  | .start _ _ => false
  | .resume _ _ wait resp => AdmitWait.refuses wait resp

def startsCall : TaskLabel (admissions host policy) ι → Bool
  | .start _ _ => true
  | .resume .. => false

def endedOk : (Σ call, (admissions host policy).Out call) → Bool
  | ⟨_, .ok _⟩ => true
  | ⟨_, .error _⟩ => false

def admitted (s : Tasks (admissions host policy) ι) : Nat := s.ended.countP endedOk

/-- What is asked of the budget when `n` calls have ended. -/
structure AdmissionHolds (policy : EvaluationBudgetPolicy) (n : Nat) (labels : List (TaskLabel (admissions host policy) ι))
    (s : Tasks (admissions host policy) ι) : Prop where
  exact : labels.countP refusesRun = 0 → admitted s = min n policy.maxRuns
  bounded : admitted s ≤ policy.maxRuns
  runs : (ledgerOf policy s.world).reservedRuns = admitted s
  cost : (ledgerOf policy s.world).reservedCostCents = admitted s * estimatedCost policy
  tokens : (ledgerOf policy s.world).reservedTokens = admitted s * estimatedTokens policy

/-- One more run fits beside the first `k`. -/
structure Fits (policy : EvaluationBudgetPolicy) (k : Nat) : Prop where
  cost : (k + 1) * estimatedCost policy ≤ policy.maxTotalCostCents
  runs : k + 1 ≤ policy.maxRuns
  tokens_nonneg : 0 ≤ estimatedTokens policy
  tokens : 0 < policy.totalTokens → (k + 1) * estimatedTokens policy ≤ policy.totalTokens

theorem Fits.of_le {k k' : Nat} (h : Fits policy k') (hle : k ≤ k') : Fits policy k := by
  have hcast : (k : ℚ) + 1 ≤ k' + 1 := by exact_mod_cast Nat.succ_le_succ hle
  refine ⟨?_, by have := h.runs; omega, h.tokens_nonneg, fun htotal => ?_⟩
  · exact le_trans (mul_le_mul_of_nonneg_right hcast (estimatedCost_nonneg policy)) h.cost
  · exact le_trans (mul_le_mul_of_nonneg_right hcast h.tokens_nonneg) (h.tokens htotal)

/-- The ledger has `k` runs reserved, each with its estimates. -/
structure Reserved (policy : EvaluationBudgetPolicy) (ledger : BudgetLedger) (k : Nat) : Prop where
  policyRef : ledger.policyRef = policy.policyId
  runs : ledger.reservedRuns = k
  cost : ledger.reservedCostCents = k * estimatedCost policy
  tokens : ledger.reservedTokens = k * estimatedTokens policy

theorem reserved_empty (policy : EvaluationBudgetPolicy) : Reserved policy (createEmptyLedger policy.policyId) 0 :=
  ⟨rfl, rfl, by simp [createEmptyLedger], by simp [createEmptyLedger]⟩

theorem reserveBudget_eq_ok {ledger next : BudgetLedger} {k : Nat} (h : Reserved policy ledger k)
    (hok : reserveBudget host.print ledger policy (estimatedCost policy) (estimatedTokens policy) = .ok next) :
    Fits policy k ∧ Reserved policy next (k + 1) := by
  unfold reserveBudget at hok
  split at hok
  · cases hok
  · split at hok
    · cases hok
    · split at hok
      · cases hok
      · split at hok
        · cases hok
        · split at hok
          · cases hok
          · rename_i _ htokens hcost hruns htotal
            cases hok
            rw [h.cost] at hcost
            rw [h.runs] at hruns
            rw [h.tokens] at htotal
            refine ⟨⟨by linarith, by omega, not_lt.1 htokens, fun hpos => ?_⟩, h.policyRef, ?_, ?_, ?_⟩
            · have hle := not_lt.1 fun hlt => htotal ⟨hpos, hlt⟩
              linarith
            · simp [h.runs]
            · simp only [h.cost]
              push_cast
              ring
            · simp only [h.tokens]
              push_cast
              ring

theorem reserveBudget_eq_error {ledger : BudgetLedger} {k : Nat} {violations : List EvaluationViolation}
    (h : Reserved policy ledger k) (herror : reserveBudget host.print ledger policy (estimatedCost policy)
      (estimatedTokens policy) = .error violations) : ¬ Fits policy k := by
  intro hfits
  have hcost := hfits.cost
  have htotal := hfits.tokens
  unfold reserveBudget at herror
  rw [if_neg (not_lt.2 (estimatedCost_nonneg policy)), if_neg (not_lt.2 hfits.tokens_nonneg),
    if_neg (by rw [h.cost]; linarith), if_neg (by have := hfits.runs; have := h.runs; omega), if_neg] at herror
  · cases herror
  · rintro ⟨hpos, hlt⟩
    have hle := htotal hpos
    rw [h.tokens] at hlt
    linarith

/-! ## Counting the calls -/

variable [DecidableEq ι] {s t : Tasks (admissions host policy) ι} {l : TaskLabel (admissions host policy) ι}
  {labels : List (TaskLabel (admissions host policy) ι)}

def savingWeight : (Σ call, (admissions host policy).Wait call) → Nat
  | ⟨_, .savingRun ..⟩ => 1
  | _ => 0

theorem admitted_after {client : ι} {call : Admission}
    {result : ((admissions host policy).Wait call ⊕ (admissions host policy).Out call) × EvaluationStores} :
    admitted (s.after client call result) = admitted s + (outcome? result).toList.countP endedOk := by
  rw [admitted, after_ended, List.countP_append]
  rfl

variable [Fintype ι]

/-- What is booked: how many runs are reserved, and who holds the reservations. -/
structure Booked (labels : List (TaskLabel (admissions host policy) ι)) (s : Tasks (admissions host policy) ι)
    (k : Nat) : Prop where
  count : k = admitted s + s.total savingWeight + labels.countP refusesRun
  ledger : Reserved policy (ledgerOf policy s.world) k
  fits : ∀ i < k, Fits policy i
  held : ∀ client call now read reserved, s.waiting client = some ⟨call, .savingLedger now read reserved⟩ →
    reserveBudget host.print read policy (estimatedCost policy) (estimatedTokens policy) = .ok reserved
  started : labels.countP startsCall = s.ended.length + s.total fun _ => 1
  away : s.ended.length = admitted s + labels.countP refusesRun ∨ ¬ Fits policy k

omit [DecidableEq ι] in
theorem booked_idle {world : EvaluationStores} (hnew : world.ledgers.get? policy.policyId = none) :
    Booked [] (Tasks.idle (admissions host policy) ι world) 0 where
  count := by simp [admitted, Tasks.idle, Tasks.total]
  ledger := by
    rw [ledgerOf, show (Tasks.idle (admissions host policy) ι world).world = world from rfl, hnew]
    exact reserved_empty policy
  fits := fun i hi => absurd hi (Nat.not_lt_zero i)
  held := fun _ _ _ _ _ h => nomatch h
  started := by simp [Tasks.idle, Tasks.total]
  away := .inl (by simp [admitted, Tasks.idle])

theorem held_after {client : ι} {call : Admission}
    {result : ((admissions host policy).Wait call ⊕ (admissions host policy).Out call) × EvaluationStores}
    {k : Nat} (h : Booked labels s k) (hresult : ∀ now read reserved, result.1 = .inl (.savingLedger now read reserved) →
      reserveBudget host.print read policy (estimatedCost policy) (estimatedTokens policy) = .ok reserved) :
    ∀ client' call' now read reserved,
      (s.after client call result).waiting client' = some ⟨call', .savingLedger now read reserved⟩ →
        reserveBudget host.print read policy (estimatedCost policy) (estimatedTokens policy) = .ok reserved := by
  intro client' call' now read reserved hwaiting
  rcases waiting_after hwaiting with ⟨_, wait, hwait, heq⟩ | ⟨_, hbefore⟩
  · cases heq
    exact hresult now read reserved hwait
  · exact h.held client' call' now read reserved hbefore

omit [DecidableEq ι] [Fintype ι] in
theorem countP_snoc {p : TaskLabel (admissions host policy) ι → Bool} :
    (labels ++ [l]).countP p = labels.countP p + if p l then 1 else 0 := by
  rw [List.countP_append, List.countP_singleton]

theorem busy_getD (pending : Option (Σ call, (admissions host policy).Wait call)) :
    (pending.map fun _ => 1).getD 0 = if pending.isNone then 0 else 1 := by
  cases pending <;> rfl

theorem booked_moved {client : ι} {call : Admission} {wait : AdmitWait} {k : Nat} (h : Booked labels s k)
    (hold : ((s.waiting client).map savingWeight).getD 0 = 0)
    (hnew : @savingWeight host policy ⟨call, wait⟩ = 0)
    (hreserved : ∀ now read reserved, wait = .savingLedger now read reserved →
      reserveBudget host.print read policy (estimatedCost policy) (estimatedTokens policy) = .ok reserved)
    (hrefuses : refusesRun l = false) (hstarts : startsCall l = (s.waiting client).isNone) :
    Booked (labels ++ [l]) (s.after client call (.inl wait, s.world)) k := by
  have hsaving := total_after s savingWeight client call (.inl wait, s.world)
  have hbusy := total_after s (fun _ => 1) client call (.inl wait, s.world)
  have hended : (s.after client call (.inl wait, s.world)).ended = s.ended := rfl
  have hadmitted : admitted (s.after client call (.inl wait, s.world)) = admitted s := rfl
  simp only [pending?, Option.map_some, Option.getD_some, busy_getD] at hsaving hbusy
  have hcount := h.count
  have hstarted := h.started
  refine ⟨?_, h.ledger, h.fits, held_after h fun now read reserved hwait => ?_, ?_, ?_⟩
  · rw [hadmitted, countP_snoc, hrefuses]
    simp only [Bool.false_eq_true, if_false]
    omega
  · exact hreserved now read reserved (Sum.inl.inj hwait)
  · rw [hended, countP_snoc, hstarts]
    cases hidle : (s.waiting client).isNone <;> simp only [hidle, Bool.false_eq_true, if_true, if_false] at hbusy ⊢ <;>
      omega
  · rw [hended, hadmitted, countP_snoc, hrefuses]
    exact h.away

theorem admitResume_readingLedger {plan : EvaluationRunPlan} {candidateSubject : CandidateSubject}
    {stores : EvaluationStores} {now : String} :
    admitResume host plan candidateSubject policy stores (.readingLedger now) () =
      match reserveBudget host.print (ledgerOf policy stores) policy (estimatedCost policy) (estimatedTokens policy) with
      | .error violations => (.inr (.error violations), stores)
      | .ok reserved => (.inl (.savingLedger now (ledgerOf policy stores) reserved), stores) := rfl

theorem booked_ended {client : ι} {call : Admission} {out : (admissions host policy).Out call}
    {world : EvaluationStores} {k : Nat} (h : Booked labels s k) (hbusy : (s.waiting client).isNone = false)
    (hweight : ((s.waiting client).map savingWeight).getD 0 =
      (if endedOk ⟨call, out⟩ then 1 else 0) + if refusesRun l then 1 else 0)
    (hstarts : startsCall l = false) (hledger : Reserved policy (ledgerOf policy world) k)
    (haway : ((if endedOk ⟨call, out⟩ then 1 else 0) + if refusesRun l then 1 else 0) = 1 ∨ ¬ Fits policy k) :
    Booked (labels ++ [l]) (s.after client call (.inr out, world)) k := by
  have hsaving := total_after s savingWeight client call (.inr out, world)
  have hleft := total_after s (fun _ => 1) client call (.inr out, world)
  have hended : (s.after client call (.inr out, world)).ended.length = s.ended.length + 1 := by
    rw [after_ended, List.length_append]
    rfl
  have hadmitted : admitted (s.after client call (.inr out, world)) =
      admitted s + if endedOk ⟨call, out⟩ then 1 else 0 := by
    rw [admitted_after]
    simp [outcome?, List.countP_singleton]
  simp only [pending?, Option.map_none, Option.getD_none, busy_getD, hbusy, hweight] at hsaving hleft
  have hcount := h.count
  have hstarted := h.started
  refine ⟨?_, hledger, h.fits, held_after h (fun _ _ _ hwait => nomatch hwait), ?_, ?_⟩
  · rw [hadmitted, countP_snoc]
    omega
  · rw [hended, countP_snoc, hstarts]
    simp only [Bool.false_eq_true, if_false] at hleft ⊢
    omega
  · rcases h.away with haway' | hfull
    · rcases haway with hcounted | hfull
      · left
        rw [hended, hadmitted, countP_snoc]
        omega
      · exact .inr hfull
    · exact .inr hfull

theorem booked_reserved {client : ι} {call : Admission} {now : String} {read reserved : BudgetLedger}
    {run : EvaluationRun} {world : EvaluationStores} {k : Nat} (h : Booked labels s k)
    (waits : s.waiting client = some ⟨call, .savingLedger now read reserved⟩)
    (hledger : Reserved policy (ledgerOf policy world) (k + 1)) (hfits : Fits policy k)
    (hrefuses : refusesRun l = false) (hstarts : startsCall l = false) :
    Booked (labels ++ [l]) (s.after client call (.inl (.savingRun now run), world)) (k + 1) := by
  have hsaving := total_after s savingWeight client call (.inl (.savingRun now run), world)
  have hbusy := total_after s (fun _ => 1) client call (.inl (.savingRun now run), world)
  have hended : (s.after client call (.inl (.savingRun now run), world)).ended = s.ended := rfl
  have hadmitted : admitted (s.after client call (.inl (.savingRun now run), world)) = admitted s := rfl
  have hold : @savingWeight host policy ⟨call, .savingLedger now read reserved⟩ = 0 := rfl
  have hnew : @savingWeight host policy ⟨call, .savingRun now run⟩ = 1 := rfl
  simp only [waits, pending?, Option.map_some, Option.getD_some, hold, hnew] at hsaving hbusy
  have hcount := h.count
  have hstarted := h.started
  refine ⟨?_, hledger, fun i hi => hfits.of_le (Nat.le_of_lt_succ hi),
    held_after h (fun _ _ _ hwait => nomatch hwait), ?_, ?_⟩
  · rw [hadmitted, countP_snoc, hrefuses]
    simp only [Bool.false_eq_true, if_false]
    omega
  · rw [hended, countP_snoc, hstarts]
    simp only [Bool.false_eq_true, if_false]
    omega
  · rw [hended, hadmitted, countP_snoc, hrefuses]
    exact .inl (h.away.resolve_right (not_not.2 hfits))

theorem booked_step {k : Nat} (hstep : Step (admissions host policy) s l t) (hpass : Passes l)
    (hfresh : SavesFresh s l t) (h : Booked labels s k) : ∃ k', Booked (labels ++ [l]) t k' := by
  cases hstep with
  | @start client call idle =>
      have hresult : (admissions host policy).start call s.world = (.inl AdmitWait.resolving, s.world) := by
        show admitStart call.1 call.2 s.world = _
        rw [admitStart, show planRefused call.1 call.2 = none from hpass]
        rfl
      rw [hresult]
      exact ⟨k, booked_moved h (by rw [idle]; rfl) rfl (fun _ _ _ hwait => nomatch hwait) rfl (by rw [idle]; rfl)⟩
  | @resume client call wait resp waits =>
      have hbusy : (s.waiting client).isNone = false := by rw [waits]; rfl
      cases wait with
      | resolving =>
          obtain ⟨violations⟩ | ⟨certificate⟩ := resp
          · exact absurd hpass not_false
          have hcertificate : certificateRefused certificate call.2 = none := hpass
          have hresult : (admissions host policy).resume call .resolving (.ok certificate) s.world =
              (.inl (AdmitWait.checkingRevocation certificate), s.world) := by
            show admitResume host call.1 call.2 policy s.world .resolving (.ok certificate) = _
            simp only [admitResume, hcertificate]
            rfl
          rw [hresult]
          exact ⟨k, booked_moved h (by rw [waits]; rfl) rfl (fun _ _ _ hwait => nomatch hwait) rfl hbusy.symm⟩
      | checkingRevocation certificate =>
          obtain ⟨hrevoked, hexpired⟩ := hpass
          obtain ⟨isRevoked, now, nowMs⟩ := resp
          have hresult : (admissions host policy).resume call (.checkingRevocation certificate) (isRevoked, now, nowMs)
              s.world = (.inl (AdmitWait.readingLedger now), s.world) := by
            show admitResume host call.1 call.2 policy s.world (.checkingRevocation certificate)
              (isRevoked, now, nowMs) = _
            simp only at hrevoked hexpired
            simp only [admitResume, hrevoked, hexpired, Bool.false_eq_true, if_false]
            rfl
          rw [hresult]
          exact ⟨k, booked_moved h (by rw [waits]; rfl) rfl (fun _ _ _ hwait => nomatch hwait) rfl hbusy.symm⟩
      | readingLedger now =>
          cases hreserve : reserveBudget host.print (ledgerOf policy s.world) policy (estimatedCost policy)
            (estimatedTokens policy) with
          | ok reserved =>
              have hresult : (admissions host policy).resume call (.readingLedger now) resp s.world =
                  (.inl (AdmitWait.savingLedger now (ledgerOf policy s.world) reserved), s.world) := by
                show admitResume host call.1 call.2 policy s.world (.readingLedger now) () = _
                rw [admitResume_readingLedger, hreserve]
                rfl
              rw [hresult]
              refine ⟨k, booked_moved h (by rw [waits]; rfl) rfl (fun now' read reserved' hwait => ?_) rfl hbusy.symm⟩
              cases hwait
              exact hreserve
          | error violations =>
              have hresult : (admissions host policy).resume call (.readingLedger now) resp s.world =
                  (.inr (.error violations), s.world) := by
                show admitResume host call.1 call.2 policy s.world (.readingLedger now) () = _
                rw [admitResume_readingLedger, hreserve]
                rfl
              rw [hresult]
              exact ⟨k, booked_ended h hbusy (by rw [waits]; rfl) rfl h.ledger
                (.inr (reserveBudget_eq_error h.ledger hreserve))⟩
      | savingLedger now read reserved =>
          have hread : ledgerOf policy s.world = read := hfresh read rfl
          obtain ⟨hfits, hreserved⟩ := reserveBudget_eq_ok (hread ▸ h.ledger) (h.held client call now read reserved waits)
          have hledger : ledgerOf policy (s.world.saveLedger reserved) = reserved := by
            rw [ledgerOf, EvaluationStores.saveLedger, hreserved.policyRef, OrdMap.get?_set_self]
            rfl
          exact ⟨k + 1, booked_reserved h waits (by rw [← hledger] at hreserved; exact hreserved) hfits rfl rfl⟩
      | savingRun now run =>
          cases resp with
          | error violations =>
              exact ⟨k, booked_ended h hbusy (by rw [waits]; rfl) rfl h.ledger (.inl rfl)⟩
          | ok saved =>
              exact ⟨k, booked_ended h hbusy (by rw [waits]; rfl) rfl h.ledger (.inl rfl)⟩

/-! ## All calls together -/

omit [DecidableEq ι] [Fintype ι] in
theorem admitted_eq_min_iff {n k : Nat} (hfits : ∀ i < k, Fits policy i) (hle : k ≤ n)
    (haway : n = k ∨ ¬ Fits policy k) : k = min n policy.maxRuns ↔ ∀ i < min n policy.maxRuns, Fits policy i := by
  have hmax : k ≤ policy.maxRuns := by
    rcases k.eq_zero_or_pos with rfl | hpos
    · exact Nat.zero_le _
    · have hlast := (hfits (k - 1) (by omega)).runs
      omega
  constructor
  · intro heq
    rwa [← heq]
  · intro hall
    rcases haway with rfl | hfull
    · exact (Nat.min_eq_left hmax).symm
    · by_contra hne
      exact hfull (hall k (by omega))

/-- From a policy without a ledger, when all calls have ended and each wrote the ledger that it read: the admissions
are what is asked exactly when no run was refused and as many runs fit as there are calls or as the policy
allows. -/
theorem admissions_hold_iff (world : EvaluationStores) (hnew : world.ledgers.get? policy.policyId = none)
    (hrun : Run (Step (admissions host policy)) (Tasks.idle (admissions host policy) ι world) labels t)
    (hpass : ∀ l ∈ labels, Passes l)
    (hfresh : Run.Every (Step (admissions host policy)) SavesFresh (Tasks.idle (admissions host policy) ι world) labels)
    (hidle : ∀ client, t.waiting client = none) :
    AdmissionHolds policy (labels.countP startsCall) labels t ↔
      labels.countP refusesRun = 0 ∧ ∀ i < min (labels.countP startsCall) policy.maxRuns, Fits policy i := by
  obtain ⟨k, hbooked⟩ : ∃ k, Booked labels t k := by
    have hmem : Run.Every (Step (admissions host policy)) (fun s l t => Passes l ∧ SavesFresh s l t)
        (Tasks.idle (admissions host policy) ι world) labels := by
      rintro pre l post m m' heq hpre hstep
      exact ⟨hpass l (by rw [heq]; simp), hfresh pre l post m m' heq hpre hstep⟩
    exact hrun.invariant_along (I := fun pre s => ∃ k, Booked pre s k) hmem ⟨0, booked_idle hnew⟩
      fun pre s l t hstep hl ⟨k, h⟩ => booked_step hstep hl.1 hl.2 h
  have hcount := hbooked.count
  have hstarted := hbooked.started
  have hadmitted : admitted t ≤ t.ended.length := List.countP_le_length
  rw [total_idle hidle] at hcount hstarted
  -- without refusals the admitted runs are the reserved ones
  have hmin : labels.countP refusesRun = 0 → (admitted t = min (labels.countP startsCall) policy.maxRuns ↔
      ∀ i < min (labels.countP startsCall) policy.maxRuns, Fits policy i) := by
    intro hnone
    have hk : k = admitted t := by omega
    rw [← hk]
    refine admitted_eq_min_iff hbooked.fits (by omega) ?_
    rcases hbooked.away with hall | hfull
    · exact .inl (by omega)
    · exact .inr hfull
  constructor
  · intro h
    have hruns := h.runs
    rw [hbooked.ledger.runs] at hruns
    have hnone : labels.countP refusesRun = 0 := by omega
    exact ⟨hnone, (hmin hnone).1 (h.exact hnone)⟩
  · rintro ⟨hnone, hall⟩
    have hk : k = admitted t := by omega
    have hexact := (hmin hnone).2 hall
    have hledger := hbooked.ledger
    rw [hk] at hledger
    exact ⟨fun _ => hexact, by omega, hledger.runs, hledger.cost, hledger.tokens⟩

/-! ## Two calls at once -/

def onePolicy : EvaluationBudgetPolicy := ⟨"policy", 1, 10, 10, 100⟩

def bareHost : EngineHost where
  print _ := ""
  dateParse _ := none
  uuid n := if n = 0 then "first" else "second"
  hasLeaseCoordinator := false

def emptyStores : EvaluationStores := ⟨.empty, .empty, .empty, 0⟩

def onePlan : Admission := (⟨"plan", "digest", "subject", [], false, some "monday"⟩, ⟨"subject", "certificate", "digest", "checkpoint"⟩)

def oneCertificate : ResolvedCertificate := ⟨"digest", "", .valid⟩

def kindAnswer : (call : Admission) → (wait : (admissions bareHost onePolicy).Wait call) →
    (admissions bareHost onePolicy).Resp call wait
  | _, .resolving => .ok oneCertificate
  | _, .checkingRevocation _ => (false, "now", 0)
  | _, .readingLedger _ => ()
  | _, .savingLedger .. => ()
  | _, .savingRun .. => .ok ()

def goOn (client : Bool) : Bool × Move (admissions bareHost onePolicy) := (client, .resume kindAnswer)

/-- Both calls read the ledger before either writes it. -/
def overlappingMoves : List (Bool × Move (admissions bareHost onePolicy)) :=
  [(false, .start onePlan), goOn false, goOn false, (true, .start onePlan), goOn true, goOn true, goOn false, goOn true,
    goOn false, goOn true, goOn false, goOn true]

def singleMoves : List (Bool × Move (admissions bareHost onePolicy)) :=
  [(false, .start onePlan), goOn false, goOn false, goOn false, goOn false, goOn false]

/-- Two runs are admitted under a policy that allows one. -/
theorem overlapping_calls_exceed : ∃ (labels : List (TaskLabel (admissions bareHost onePolicy) Bool))
    (t : Tasks (admissions bareHost onePolicy) Bool),
    Run (Step (admissions bareHost onePolicy)) (Tasks.idle (admissions bareHost onePolicy) Bool emptyStores) labels t ∧
      (∀ l ∈ labels, Passes l) ∧ (∀ client, t.waiting client = none) ∧
      ¬ AdmissionHolds onePolicy (labels.countP startsCall) labels t := by
  have htrace : (((Tasks.idle (admissions bareHost onePolicy) Bool emptyStores).trace? (fun _ _ => true)
      overlappingMoves).any fun result => result.1.all (fun l => decide (Passes l)) &&
        (result.2.waiting false).isNone && (result.2.waiting true).isNone && admitted result.2 = 2) = true := by
    decide +kernel
  obtain ⟨⟨labels, t⟩, hsome, hresult⟩ := (Option.any_eq_true _ _).1 htrace
  simp only [Bool.and_eq_true, List.all_eq_true, decide_eq_true_eq, Option.isNone_iff_eq_none] at hresult
  obtain ⟨⟨⟨hpass, hfalse⟩, htrue⟩, hadmitted⟩ := hresult
  refine ⟨labels, t, (run_of_trace? hsome).1, hpass, (fun | false => hfalse | true => htrue), fun h => ?_⟩
  have hbounded := h.bounded
  rw [hadmitted] at hbounded
  exact absurd hbounded (by decide)

theorem fits_onePolicy : Fits onePolicy 0 := by
  refine ⟨?_, ?_, ?_, fun _ => ?_⟩ <;> decide +kernel

/-- A single call is admitted as asked. -/
theorem single_call_holds : ∃ (labels : List (TaskLabel (admissions bareHost onePolicy) Bool))
    (t : Tasks (admissions bareHost onePolicy) Bool),
    Run (Step (admissions bareHost onePolicy)) (Tasks.idle (admissions bareHost onePolicy) Bool emptyStores) labels t ∧
      AdmissionHolds onePolicy (labels.countP startsCall) labels t := by
  have htrace : (((Tasks.idle (admissions bareHost onePolicy) Bool emptyStores).trace?
      (fun s l => decide (SavesFresh s l s)) singleMoves).any fun result =>
        result.1.all (fun l => decide (Passes l)) && (result.2.waiting false).isNone && (result.2.waiting true).isNone &&
          result.1.countP startsCall = 1 && result.1.countP refusesRun = 0) = true := by
    decide +kernel
  obtain ⟨⟨labels, t⟩, hsome, hresult⟩ := (Option.any_eq_true _ _).1 htrace
  simp only [Bool.and_eq_true, List.all_eq_true, decide_eq_true_eq, Option.isNone_iff_eq_none] at hresult
  obtain ⟨⟨⟨⟨hpass, hfalse⟩, htrue⟩, hstarts⟩, hrefuses⟩ := hresult
  obtain ⟨hrun, hevery⟩ := run_of_trace? hsome
  refine ⟨labels, t, hrun, (admissions_hold_iff emptyStores rfl hrun hpass
    (hevery.mono fun _ s l t _ _ hfresh => ?_) (fun | false => hfalse | true => htrue)).2 ⟨hrefuses, fun i hi => ?_⟩⟩
  · cases l with
    | start client call => trivial
    | resume client call wait resp => exact of_decide_eq_true hfresh
  · rw [hstarts] at hi
    exact (Nat.lt_one_iff.1 (lt_of_lt_of_le hi (Nat.min_le_left _ _))) ▸ fits_onePolicy

end Cantilune.Evaluation
