import Cantilune.Lemmas.SwarmScheduler
import Mathlib.Data.Prod.Lex

/-!
# Bounded overtaking

The queue of every scheduler that its calls lead to records who was admitted when, and in which order. The dispatch
order is then strict and total on it, and one priority step is worth one aging interval of waiting.
-/

namespace Cantilune

inductive SchedulerCall where
  | admitAgent (agentId : ActorId) (manifest : AgentManifest) (now : ℚ)
  | discard (agentId : ActorId)
  | onStarted (agentId : ActorId)
  | releaseSlot (agentId : ActorId)
  | onCompleted (agentId : ActorId) (turns : JsDouble)
  | noteWorldMovement
  | selectDispatchable (registry : ConditionEvaluatorRegistry) (snapshot : Option CollaborationSnapshot)
      (budgetAt sortAt : ℚ)
  | observeStall (now : ℚ)

def SchedulerCall.readings : SchedulerCall → List ℚ
  | admitAgent _ _ now | observeStall now => [now]
  | selectDispatchable _ _ budgetAt sortAt => [budgetAt, sortAt]
  | _ => []

namespace SwarmScheduler

variable {s t : SwarmScheduler} {p q : OrdMap ActorId MutablePending} {registry : ConditionEvaluatorRegistry}
  {snapshot : CollaborationSnapshot} {verdict : SwarmBudgetVerdict} {clock : ℚ} {counter : Nat}
  {entries : List (ActorId × MutablePending)}

def perform (s : SwarmScheduler) : SchedulerCall → SwarmScheduler
  | .admitAgent agentId manifest now => (s.admitAgent agentId manifest now).2
  | .discard agentId => s.discard agentId
  | .onStarted agentId => s.onStarted agentId
  | .releaseSlot agentId => s.releaseSlot agentId
  | .onCompleted agentId turns => s.onCompleted agentId turns
  | .noteWorldMovement => s.noteWorldMovement
  | .selectDispatchable registry snapshot budgetAt sortAt =>
      (s.selectDispatchable registry snapshot budgetAt sortAt).2
  | .observeStall now => (s.observeStall now).2

def after (policy : Option SwarmSchedulerPolicyInput) (start : ℚ) (calls : List SchedulerCall) : SwarmScheduler :=
  calls.foldl perform (create policy start)

/-! ## Marks -/

def admission (entry : MutablePending) : MutablePending :=
  { entry with blockedBy := .conditionUnmet, evaluations := 0 }

theorem admission_eq {e f : MutablePending} (h : admission e = admission f) :
    e.agentId = f.agentId ∧ e.manifest = f.manifest ∧ e.enqueuedAt = f.enqueuedAt ∧
      e.basePriority = f.basePriority ∧ e.sequence = f.sequence := by
  simpa [admission] using h

/-- The same agents wait, admitted in the same way. -/
def SameQueue (p q : OrdMap ActorId MutablePending) : Prop := ∀ a, (q.get? a).map admission = (p.get? a).map admission

theorem SameQueue.refl (p : OrdMap ActorId MutablePending) : SameQueue p p := fun _ => rfl

theorem SameQueue.trans {r : OrdMap ActorId MutablePending} (h : SameQueue p q) (k : SameQueue q r) :
    SameQueue p r := fun a => (k a).trans (h a)

theorem sameQueue_set {a : ActorId} {entry : MutablePending}
    (h : (p.get? a).map admission = some (admission entry)) : SameQueue p (p.set a entry) := by
  intro b
  rw [OrdMap.get?_set]
  split
  · subst b
    exact h.symm
  · rfl

def satisfied (registry : ConditionEvaluatorRegistry) (snapshot : CollaborationSnapshot) (entry : MutablePending) :
    Bool :=
  decide (registry.evaluate snapshot entry.agentId entry.manifest.startCondition = some true)

def offered (entry : MutablePending) : MutablePending :=
  { entry with evaluations := entry.evaluations + 1, blockedBy := .slotUnavailable }

def allowed (registry : ConditionEvaluatorRegistry) (snapshot : CollaborationSnapshot) (verdict : SwarmBudgetVerdict)
    (entries : List MutablePending) : List MutablePending :=
  if verdict = .withinBudget then entries.filter (satisfied registry snapshot) else []

theorem evaluateEntries_marks (hmem : ∀ e ∈ entries, (p.get? e.1).map admission = some (admission e.2)) :
    SameQueue p (evaluateEntries registry snapshot verdict entries p).2 ∧
      ∀ eligible, (evaluateEntries registry snapshot verdict entries p).1 = some eligible →
        eligible = (allowed registry snapshot verdict (entries.map Prod.snd)).map offered := by
  induction entries generalizing p with
  | nil =>
      refine ⟨.refl p, ?_⟩
      rintro eligible ⟨⟩
      simp [allowed]
  | cons e entries ih =>
      obtain ⟨key, entry⟩ := e
      have hkey := hmem _ List.mem_cons_self
      have hskip : ∀ marked : MutablePending, admission marked = admission entry →
          SameQueue p (evaluateEntries registry snapshot verdict entries (p.set key marked)).2 ∧
            ∀ eligible, (evaluateEntries registry snapshot verdict entries (p.set key marked)).1 = some eligible →
              eligible = (allowed registry snapshot verdict (entries.map Prod.snd)).map offered := by
        intro marked hmarked
        have hset : SameQueue p (p.set key marked) := sameQueue_set (hkey.trans (congrArg some hmarked.symm))
        have hrest := @ih (p.set key marked) fun e he => (hset e.1).trans (hmem e (List.mem_cons_of_mem _ he))
        exact ⟨hset.trans hrest.1, hrest.2⟩
      simp only [evaluateEntries]
      split
      · refine ⟨sameQueue_set hkey, ?_⟩
        rintro eligible ⟨⟩
      · rename_i hfalse
        have hunsat : satisfied registry snapshot entry = false := by simp [satisfied, hfalse]
        obtain ⟨hsame, heligible⟩ := hskip { entry with
          evaluations := entry.evaluations + 1, blockedBy := .conditionUnmet } rfl
        refine ⟨hsame, fun eligible h => ?_⟩
        rw [heligible eligible h, List.map_cons, allowed, allowed, List.filter_cons_of_neg (by simp [hunsat])]
      · rename_i htrue
        have hsat : satisfied registry snapshot entry = true := by simp [satisfied, htrue]
        split
        · obtain ⟨hsame, heligible⟩ := hskip { entry with
            evaluations := entry.evaluations + 1, blockedBy := .budgetExhausted } rfl
          refine ⟨hsame, fun eligible h => ?_⟩
          rw [heligible eligible h]
          simp [allowed]
        · obtain ⟨hsame, heligible⟩ := hskip (offered entry) rfl
          refine ⟨hsame, fun eligible h => ?_⟩
          obtain ⟨rest, hrest, rfl⟩ := Option.map_eq_some_iff.1 h
          rw [heligible rest hrest]
          simp [allowed, hsat, offered]

/-- The entries that the next pass may start. -/
def eligible (s : SwarmScheduler) (registry : ConditionEvaluatorRegistry) (snapshot : CollaborationSnapshot)
    (budgetAt : ℚ) : List MutablePending :=
  allowed registry snapshot (s.budget budgetAt) s.pending.values

theorem evaluateEntries_pending (s : SwarmScheduler) (registry : ConditionEvaluatorRegistry)
    (snapshot : CollaborationSnapshot) (budgetAt : ℚ) :
    SameQueue s.pending (evaluateEntries registry snapshot (s.budget budgetAt) s.pending.entries s.pending).2 ∧
      ∀ eligible, (evaluateEntries registry snapshot (s.budget budgetAt) s.pending.entries s.pending).1 =
          some eligible → eligible = (s.eligible registry snapshot budgetAt).map offered :=
  evaluateEntries_marks fun _ he => congrArg (Option.map admission) (OrdMap.mem_entries.1 he)

theorem blockEligible_queue {eligible : List MutablePending}
    (hmem : ∀ e ∈ eligible, (s.pending.get? e.agentId).map admission = some (admission e)) :
    SameQueue s.pending (s.blockEligible eligible).pending := by
  have hfold : ∀ (blockedBy : PendingBlockReason) (p : OrdMap ActorId MutablePending),
      (∀ e ∈ eligible, (p.get? e.agentId).map admission = some (admission e)) →
        SameQueue p (eligible.foldl (fun p entry => p.set entry.agentId { entry with blockedBy }) p) := by
    intro blockedBy
    clear hmem
    induction eligible with
    | nil => exact fun p _ => .refl p
    | cons e eligible ih =>
        intro p hp
        have hset : SameQueue p (p.set e.agentId { e with blockedBy }) := sameQueue_set (hp e List.mem_cons_self)
        exact hset.trans (ih _ fun f hf => (hset f.agentId).trans (hp f (List.mem_cons_of_mem _ hf)))
  exact hfold _ s.pending hmem

theorem mem_allowed {entry : MutablePending} {values : List MutablePending}
    (h : entry ∈ allowed registry snapshot verdict values) : entry ∈ values := by
  unfold allowed at h
  split at h
  · exact List.mem_of_mem_filter h
  · cases h

/-! ## The batch -/

def dispatchDecision (entry : MutablePending) : DispatchDecision :=
  { agentId := entry.agentId, manifest := entry.manifest }

/-- How many of that many eligible agents fit the free slots and the remaining starts. -/
def batchSize (s : SwarmScheduler) (length : Nat) : Nat := (s.availableSlots.min s.remainingSpawns).sliceEnd length

theorem sortForDispatch_offered (s : SwarmScheduler) (entries : List MutablePending) (now : ℚ) :
    s.sortForDispatch (entries.map offered) now = (s.sortForDispatch entries now).map offered :=
  (List.map_insertionSort _ _ offered entries fun _ _ _ _ => Iff.rfl).symm

theorem batchSize_of_not_positive (h : ¬ (s.availableSlots.min s.remainingSpawns).Positive) (length : Nat) :
    s.batchSize length = 0 :=
  JsDouble.sliceEnd_min_room h length

theorem selectDispatchable_batch (hkeyed : Keyed s.pending) {budgetAt sortAt : ℚ} :
    SameQueue s.pending (s.selectDispatchable registry (some snapshot) budgetAt sortAt).2.pending ∧
      (s.selectDispatchable registry (some snapshot) budgetAt sortAt).2.sequenceCounter = s.sequenceCounter ∧
      ∀ batch, (s.selectDispatchable registry (some snapshot) budgetAt sortAt).1 = some batch →
        batch = ((s.sortForDispatch (s.eligible registry snapshot budgetAt) sortAt).take
          (s.batchSize (s.eligible registry snapshot budgetAt).length)).map dispatchDecision := by
  obtain ⟨hsame, heligible⟩ := evaluateEntries_pending s registry snapshot budgetAt
  simp only [selectDispatchable]
  generalize evaluateEntries registry snapshot (s.budget budgetAt) s.pending.entries s.pending = result
    at hsame heligible
  obtain ⟨offers, pending⟩ := result
  cases offers with
  | none =>
      refine ⟨hsame, rfl, ?_⟩
      rintro batch ⟨⟩
  | some offers =>
      cases offers with
      | nil =>
          have hnone : s.eligible registry snapshot budgetAt = [] := List.map_eq_nil_iff.1 (heligible [] rfl).symm
          refine ⟨hsame, rfl, ?_⟩
          rintro batch ⟨⟩
          simp [hnone, sortForDispatch]
      | cons entry entries =>
          have hoffers := heligible _ rfl
          have hlength := congrArg List.length hoffers
          rw [List.length_map] at hlength
          dsimp only
          split
          · refine ⟨hsame, rfl, ?_⟩
            rintro batch ⟨⟩
            have hsort := sortForDispatch_offered s (s.eligible registry snapshot budgetAt) sortAt
            rw [← hoffers] at hsort
            have hdecision : ∀ l : List MutablePending,
                (l.map offered).map dispatchDecision = l.map dispatchDecision := fun l => by
              rw [List.map_map]
              rfl
            calc ((s.sortForDispatch (entry :: entries) sortAt).take
                  (s.batchSize (entry :: entries).length)).map dispatchDecision
                = (((s.sortForDispatch (s.eligible registry snapshot budgetAt) sortAt).take
                    (s.batchSize (s.eligible registry snapshot budgetAt).length)).map offered).map dispatchDecision := by
                  rw [hsort, hlength, ← List.map_take]
              _ = _ := hdecision _
          · rename_i hfull
            refine ⟨hsame.trans (blockEligible_queue fun e he => ?_), rfl, ?_⟩
            · rw [hoffers] at he
              obtain ⟨e, hmem, rfl⟩ := List.mem_map.1 he
              obtain ⟨key, hget⟩ := OrdMap.mem_values.1 (mem_allowed hmem)
              have hkey : e.agentId = key := hkeyed key e hget
              calc (pending.get? e.agentId).map admission = (s.pending.get? e.agentId).map admission := hsame _
                _ = some (admission e) := by rw [hkey, hget]; rfl
            · rintro batch ⟨⟩
              rw [batchSize_of_not_positive (s := s) hfull]
              rfl

/-! ## The queue of a run -/

/-- Every waiting agent was admitted by the time of the clock, with a number of its own. -/
structure Waiting (s : SwarmScheduler) (clock : ℚ) : Prop where
  admitted : s.pending.ForAll fun key e => e.agentId = key ∧ e.sequence < s.sequenceCounter ∧ e.enqueuedAt ≤ clock ∧
    e.basePriority = manifestPriority e.manifest
  distinct : ∀ a b e f, s.pending.get? a = some e → s.pending.get? b = some f → e.sequence = f.sequence → a = b

theorem Waiting.keyed (h : s.Waiting clock) : Keyed s.pending := fun key e hget => (h.admitted key e hget).1

theorem Waiting.of_sub (h : s.Waiting clock) (hcounter : t.sequenceCounter = s.sequenceCounter)
    (hsub : ∀ a e, t.pending.get? a = some e → ∃ f, s.pending.get? a = some f ∧ admission f = admission e) :
    t.Waiting clock where
  admitted := by
    intro a e he
    obtain ⟨f, hf, hsame⟩ := hsub a e he
    obtain ⟨hkey, hseq, htime, hprio⟩ := h.admitted a f hf
    obtain ⟨hid, hmanifest, henqueued, hbase, hsequence⟩ := admission_eq hsame
    refine ⟨hid ▸ hkey, ?_, ?_, ?_⟩
    · rwa [hcounter, ← hsequence]
    · rwa [← henqueued]
    · rwa [← hbase, ← hmanifest]
  distinct := by
    intro a b e f he hf hseq
    obtain ⟨e', he', hsame⟩ := hsub a e he
    obtain ⟨f', hf', hsame'⟩ := hsub b f hf
    apply h.distinct a b e' f' he' hf'
    calc e'.sequence = e.sequence := (admission_eq hsame).2.2.2.2
      _ = f.sequence := hseq
      _ = f'.sequence := (admission_eq hsame').2.2.2.2.symm

theorem Waiting.of_sameQueue (h : s.Waiting clock) (hcounter : t.sequenceCounter = s.sequenceCounter)
    (hsame : SameQueue s.pending t.pending) : t.Waiting clock :=
  h.of_sub hcounter fun a e he => by
    have hmap := hsame a
    rw [he, Option.map_some] at hmap
    exact Option.map_eq_some_iff.1 hmap.symm

theorem Waiting.of_delete (h : s.Waiting clock) (a : ActorId) (hcounter : t.sequenceCounter = s.sequenceCounter)
    (hpending : t.pending = s.pending.delete a) : t.Waiting clock :=
  h.of_sub hcounter fun b e he => by
    rw [hpending, OrdMap.get?_delete] at he
    split at he
    · cases he
    · exact ⟨e, he, rfl⟩

theorem Waiting.admitAgent (h : s.Waiting clock) {now : ℚ} (hnow : now ≤ clock) (agentId : ActorId)
    (manifest : AgentManifest) : (s.admitAgent agentId manifest now).2.Waiting clock := by
  unfold SwarmScheduler.admitAgent
  split
  · exact h.of_sameQueue rfl (.refl _)
  · refine ⟨OrdMap.forAll_set.2 ⟨⟨rfl, Nat.lt_succ_self _, hnow, rfl⟩, fun key e he _ => ?_⟩, ?_⟩
    · obtain ⟨hkey, hseq, htime, hprio⟩ := h.admitted key e he
      exact ⟨hkey, Nat.lt_succ_of_lt hseq, htime, hprio⟩
    · intro a b e f he hf hseq
      rw [OrdMap.get?_set] at he hf
      have hless : ∀ c g, s.pending.get? c = some g → g.sequence ≠ s.sequenceCounter := fun c g hg =>
        (h.admitted c g hg).2.1.ne
      split at he
      · split at hf
        · rw [‹a = agentId›, ‹b = agentId›]
        · cases he
          exact absurd hseq.symm (hless b f hf)
      · split at hf
        · cases hf
          exact absurd hseq (hless a e he)
        · exact h.distinct a b e f he hf hseq

theorem waiting_create (policy : Option SwarmSchedulerPolicyInput) (start clock : ℚ) :
    (create policy start).Waiting clock where
  admitted := fun _ _ h => by cases h
  distinct := fun _ _ _ _ h => by cases h

theorem Waiting.perform (h : s.Waiting clock) {call : SchedulerCall} (hreadings : ∀ now ∈ call.readings, now ≤ clock) :
    (s.perform call).Waiting clock := by
  cases call with
  | admitAgent agentId manifest now =>
      exact h.admitAgent (hreadings now List.mem_cons_self) agentId manifest
  | discard agentId =>
      change (s.discard agentId).Waiting clock
      unfold SwarmScheduler.discard
      split
      · exact h.of_delete agentId rfl rfl
      · exact h.of_sameQueue rfl (.refl _)
  | onStarted agentId =>
      change (s.onStarted agentId).Waiting clock
      by_cases hrunning : agentId ∈ s.running
      · rw [onStarted_of_mem hrunning]
        exact h.of_delete agentId rfl rfl
      · rw [onStarted_of_notMem hrunning]
        exact h.of_delete agentId rfl rfl
  | releaseSlot agentId =>
      change (s.releaseSlot agentId).Waiting clock
      unfold SwarmScheduler.releaseSlot
      split
      · exact h.of_sameQueue rfl (.refl _)
      · exact h.of_sameQueue rfl (.refl _)
  | onCompleted agentId turns =>
      change (s.onCompleted agentId turns).Waiting clock
      unfold SwarmScheduler.onCompleted
      split
      · exact h.of_sameQueue rfl (.refl _)
      · exact h.of_sameQueue rfl (.refl _)
  | noteWorldMovement => exact h.of_sameQueue rfl (.refl _)
  | selectDispatchable registry snapshot budgetAt sortAt =>
      cases snapshot with
      | none => exact h.of_sameQueue rfl (.refl _)
      | some snapshot =>
          have hselect := @selectDispatchable_batch _ registry snapshot h.keyed budgetAt sortAt
          exact h.of_sameQueue hselect.2.1 hselect.1
  | observeStall now =>
      change (s.observeStall now).2.Waiting clock
      simp only [SwarmScheduler.observeStall]
      split
      · exact h.of_sameQueue rfl (.refl _)
      · split
        · exact h.of_sameQueue rfl (.refl _)
        · exact h.of_sameQueue rfl (.refl _)

theorem waiting_after (policy : Option SwarmSchedulerPolicyInput) (start : ℚ) (calls : List SchedulerCall)
    (hreadings : ∀ now ∈ calls.flatMap (·.readings), now ≤ clock) : (after policy start calls).Waiting clock := by
  have hrun : ∀ s : SwarmScheduler, s.Waiting clock → (calls.foldl perform s).Waiting clock := by
    induction calls with
    | nil => exact fun s h => h
    | cons call calls ih =>
        intro s h
        rw [List.flatMap_cons, List.forall_mem_append] at hreadings
        exact ih hreadings.2 _ (h.perform hreadings.1)
  exact hrun _ (waiting_create policy start clock)

/-! ## The order of dispatch -/

/-- `a` goes before `b`. -/
def DispatchesBefore (s : SwarmScheduler) (now : ℚ) (a b : MutablePending) : Prop := s.compareForDispatch a b now < 0

variable {a b : MutablePending} {now : ℚ}

/-- What the order looks at: the effective priority, the higher the earlier, and then the number of admission. -/
def dispatchKey (s : SwarmScheduler) (now : ℚ) (entry : MutablePending) : ℚ ×ₗ Nat :=
  toLex (-s.effectivePriority entry now, entry.sequence)

theorem compareForDispatch_nonpos :
    s.compareForDispatch a b now ≤ 0 ↔ s.dispatchKey now a ≤ s.dispatchKey now b := by
  unfold compareForDispatch dispatchKey
  by_cases h : s.effectivePriority a now = s.effectivePriority b now
  · simp [Prod.Lex.toLex_le_toLex, h]
  · simp [Prod.Lex.toLex_le_toLex, sub_ne_zero.2 (Ne.symm h), h, lt_iff_le_and_ne]

theorem dispatchesBefore_iff_key : s.DispatchesBefore now a b ↔ s.dispatchKey now a < s.dispatchKey now b := by
  unfold DispatchesBefore compareForDispatch dispatchKey
  by_cases h : s.effectivePriority a now = s.effectivePriority b now
  · simp [Prod.Lex.toLex_lt_toLex, h]
  · simp [Prod.Lex.toLex_lt_toLex, sub_ne_zero.2 (Ne.symm h), h]

theorem dispatchesBefore_iff :
    s.DispatchesBefore now a b ↔ s.effectivePriority b now < s.effectivePriority a now ∨
      s.effectivePriority a now = s.effectivePriority b now ∧ a.sequence < b.sequence := by
  rw [dispatchesBefore_iff_key, dispatchKey, dispatchKey, Prod.Lex.toLex_lt_toLex, neg_lt_neg_iff, neg_inj]

structure StrictTotalOn {α : Type} (r : α → α → Prop) (l : List α) : Prop where
  irrefl : ∀ a ∈ l, ¬ r a a
  trans : ∀ a ∈ l, ∀ b ∈ l, ∀ c ∈ l, r a b → r b c → r a c
  total : ∀ a ∈ l, ∀ b ∈ l, a ≠ b → r a b ∨ r b a

theorem not_dispatchesBefore_symm (h : s.DispatchesBefore now a b) : ¬ s.DispatchesBefore now b a := by
  rw [dispatchesBefore_iff_key] at h ⊢
  exact lt_asymm h

theorem dispatchesBefore_of_nonpos (h : s.compareForDispatch a b now ≤ 0) (hne : a.sequence ≠ b.sequence) :
    s.DispatchesBefore now a b := by
  rw [dispatchesBefore_iff_key]
  apply lt_of_le_of_ne (compareForDispatch_nonpos.1 h)
  intro hkey
  exact hne (congrArg (fun key : ℚ ×ₗ Nat => (ofLex key).2) hkey)

theorem strictTotalOn_dispatchesBefore {l : List MutablePending}
    (hdistinct : ∀ a ∈ l, ∀ b ∈ l, a.sequence = b.sequence → a = b) :
    StrictTotalOn (s.DispatchesBefore now) l where
  irrefl := fun a _ h => not_dispatchesBefore_symm h h
  trans := by
    intro a _ b _ c _ hab hbc
    rw [dispatchesBefore_iff_key] at hab hbc ⊢
    exact hab.trans hbc
  total := by
    intro a ha b hb hne
    have hseq : a.sequence ≠ b.sequence := fun h => hne (hdistinct a ha b hb h)
    rcases le_total (s.dispatchKey now a) (s.dispatchKey now b) with h | h
    · exact .inl (dispatchesBefore_of_nonpos (compareForDispatch_nonpos.2 h) hseq)
    · exact .inr (dispatchesBefore_of_nonpos (compareForDispatch_nonpos.2 h) hseq.symm)

theorem sortForDispatch_sorted (s : SwarmScheduler) (entries : List MutablePending) (now : ℚ) :
    (s.sortForDispatch entries now).Pairwise fun a b => s.compareForDispatch a b now ≤ 0 := by
  have htotal : Std.Total fun a b : MutablePending => s.compareForDispatch a b now ≤ 0 := ⟨fun a b => by
    rw [compareForDispatch_nonpos, compareForDispatch_nonpos]
    exact le_total _ _⟩
  have htrans : IsTrans MutablePending fun a b => s.compareForDispatch a b now ≤ 0 := ⟨fun a b c hab hbc => by
    rw [compareForDispatch_nonpos] at hab hbc ⊢
    exact hab.trans hbc⟩
  exact List.pairwise_insertionSort _ _

theorem effectivePriority_of_finite {interval : ℚ} (hinterval : s.policy.agingIntervalMs.1 = .finite interval)
    (hadmitted : a.enqueuedAt ≤ now) :
    s.effectivePriority a now = a.basePriority + ⌊(now - a.enqueuedAt) / interval⌋ := by
  unfold effectivePriority
  rw [hinterval]
  dsimp only
  split
  · have hzero : now - a.enqueuedAt = 0 := le_antisymm ‹_› (sub_nonneg.2 hadmitted)
    simp [hzero]
  · rfl

theorem dispatchesBefore_of_headStart {interval : ℚ} (hinterval : s.policy.agingIntervalMs.1 = .finite interval)
    (hpos : 0 < interval) {pa pb : ℤ} (ha : a.basePriority = pa) (hb : b.basePriority = pb)
    (hstart : a.enqueuedAt + max 0 ((pb : ℚ) - pa) * interval ≤ b.enqueuedAt) (hadmitted : b.enqueuedAt ≤ now)
    (hseq : a.sequence < b.sequence) : s.DispatchesBefore now a b := by
  have hcast : max 0 ((pb : ℚ) - pa) = ((max 0 (pb - pa) : ℤ) : ℚ) := by push_cast; rfl
  have hgap : 0 ≤ max 0 ((pb : ℚ) - pa) * interval := mul_nonneg (le_max_left _ _) hpos.le
  have hwaited : (now - b.enqueuedAt) / interval + ((max 0 (pb - pa) : ℤ) : ℚ) ≤ (now - a.enqueuedAt) / interval := by
    rw [← hcast, div_add' _ _ _ hpos.ne', div_le_div_iff_of_pos_right hpos]
    linarith
  have hfloor : ⌊(now - b.enqueuedAt) / interval⌋ + max 0 (pb - pa) ≤ ⌊(now - a.enqueuedAt) / interval⌋ := by
    rw [← Int.floor_add_intCast]
    exact Int.floor_le_floor hwaited
  have hraised : pb + ⌊(now - b.enqueuedAt) / interval⌋ ≤ pa + ⌊(now - a.enqueuedAt) / interval⌋ := by
    have hmax := le_max_right 0 (pb - pa)
    omega
  have heffective : s.effectivePriority b now ≤ s.effectivePriority a now := by
    rw [effectivePriority_of_finite hinterval hadmitted, effectivePriority_of_finite hinterval (by linarith), ha, hb]
    exact_mod_cast hraised
  rw [dispatchesBefore_iff]
  rcases heffective.lt_or_eq with h | h
  · exact .inl h
  · exact .inr ⟨h.symm, hseq⟩

/-- The one agent stands before the other. -/
def PlacedBefore (batch : List DispatchDecision) (a b : MutablePending) : Prop :=
  [a.agentId, b.agentId].Sublist (batch.map (·.agentId))

theorem placedBefore_of_sorted {l : List MutablePending} (hsorted : l.Pairwise (s.DispatchesBefore now))
    (hids : (l.map (·.agentId)).Nodup) (ha : a ∈ l) (hb : b ∈ l) (hab : s.DispatchesBefore now a b) (size : Nat) :
    ¬ PlacedBefore ((l.take size).map dispatchDecision) b a ∧
      (b.agentId ∈ ((l.take size).map dispatchDecision).map (·.agentId) →
        PlacedBefore ((l.take size).map dispatchDecision) a b) := by
  have hdecisions : ((l.take size).map dispatchDecision).map (·.agentId) = (l.take size).map (·.agentId) := by
    rw [List.map_map]
    rfl
  have hinj : ∀ x ∈ l, ∀ y ∈ l, x.agentId = y.agentId → x = y := fun x hx y hy =>
    List.inj_on_of_nodup_map hids hx hy
  unfold PlacedBefore
  rw [hdecisions]
  refine ⟨fun hplaced => ?_, fun hplaced => ?_⟩
  · obtain ⟨l', hl', hmap⟩ := List.sublist_map_iff.1 hplaced
    obtain ⟨x, rest, rfl, hx, hrest⟩ := List.map_eq_cons_iff.1 hmap.symm
    obtain ⟨y, rest, rfl, hy, -⟩ := List.map_eq_cons_iff.1 hrest
    have hl := hl'.trans (List.take_sublist size l)
    rw [hinj x (hl.subset List.mem_cons_self) b hb hx,
      hinj y (hl.subset (List.mem_cons_of_mem _ List.mem_cons_self)) a ha hy] at hl
    exact not_dispatchesBefore_symm hab (List.rel_of_pairwise_cons (hsorted.sublist hl) List.mem_cons_self)
  · obtain ⟨x, hx, hid⟩ := List.mem_map.1 hplaced
    rw [hinj x (List.mem_of_mem_take hx) b hb hid] at hx
    obtain ⟨before, after, hsplit⟩ := List.append_of_mem hx
    have hl : before ++ b :: (after ++ l.drop size) = l := by
      rw [← List.cons_append, ← List.append_assoc, ← hsplit, List.take_append_drop]
    have hmem : a ∈ before := by
      rw [← hl] at ha hsorted
      rcases List.mem_append.1 ha with hbefore | hafter
      · exact hbefore
      · rcases List.mem_cons.1 hafter with rfl | hlater
        · exact absurd hab (fun h => not_dispatchesBefore_symm h h)
        · have hpair := (List.pairwise_append.1 hsorted).2.1
          exact absurd (List.rel_of_pairwise_cons hpair hlater) (not_dispatchesBefore_symm hab)
    rw [hsplit, List.map_append, List.map_cons]
    exact (List.singleton_sublist.2 (List.mem_map_of_mem hmem)).append
      (List.singleton_sublist.2 List.mem_cons_self)

/-! ## Every run -/

theorem Waiting.eligible_distinct (h : s.Waiting clock) {budgetAt : ℚ} :
    ∀ a ∈ s.eligible registry snapshot budgetAt, ∀ b ∈ s.eligible registry snapshot budgetAt,
      a.sequence = b.sequence → a = b := by
  intro a ha b hb hseq
  obtain ⟨key, hget⟩ := OrdMap.mem_values.1 (mem_allowed ha)
  obtain ⟨key', hget'⟩ := OrdMap.mem_values.1 (mem_allowed hb)
  rw [h.distinct key key' a b hget hget' hseq, hget'] at hget
  exact (Option.some.inj hget).symm

theorem Waiting.eligible_ids (h : s.Waiting clock) {budgetAt : ℚ} :
    ((s.eligible registry snapshot budgetAt).map (·.agentId)).Nodup := by
  have hvalues : s.pending.values.map (·.agentId) = s.pending.keys := by
    rw [OrdMap.values, OrdMap.keys, List.map_map]
    refine List.map_congr_left fun e he => ?_
    exact h.keyed e.1 e.2 (OrdMap.mem_entries.1 he)
  have hsublist : (s.eligible registry snapshot budgetAt).Sublist s.pending.values := by
    unfold eligible allowed
    split
    · exact List.filter_sublist
    · exact List.nil_sublist _
  have hnodup : (s.pending.values.map (·.agentId)).Nodup := hvalues ▸ s.pending.nodupKeys
  exact hnodup.sublist (hsublist.map _)

def urgentManifest : AgentManifest := { startAtOnce with priority := some (.finite 2) }

/-- `ann` comes in first; `bob`, two steps more urgent, two intervals later. -/
def headStartCalls : List SchedulerCall := [.admitAgent "ann" startAtOnce 0, .admitAgent "bob" urgentManifest 60000]

def annWaits : MutablePending where
  agentId := "ann"
  manifest := startAtOnce
  enqueuedAt := 0
  basePriority := 0
  sequence := 0
  blockedBy := .conditionUnmet
  evaluations := 0

def bobWaits : MutablePending where
  agentId := "bob"
  manifest := urgentManifest
  enqueuedAt := 60000
  basePriority := 2
  sequence := 1
  blockedBy := .conditionUnmet
  evaluations := 0

theorem headStart_eligible : (after none 0 headStartCalls).eligible createDefaultConditionRegistry
    (emptySnapshot "s0" "e1") 60000 = [annWaits, bobWaits] := by
  have hbudget : (after none 0 headStartCalls).budget 60000 = .withinBudget := by decide +kernel
  have hvalues : (after none 0 headStartCalls).pending.values = [annWaits, bobWaits] := rfl
  rw [eligible, hbudget, hvalues]
  rfl

end SwarmScheduler

end Cantilune
