import Cantilune.Lemmas.ReconnectSections

/-!
# Reconnects that fail

A commit switches the binding of its session before the runtime is asked. When the runtime then refuses, the
generation has moved on, and every later recovery of the plan finds it moved on: the plan is never completed, and
the generation counts a move that was not made. So reconnects are recoverable on the runs in which the runtime
accepts every commit that it is asked for.
-/

namespace Cantilune

open Sections ReconnectCoordinator

variable {ι : Type} {host : ReconnectHost}

def CommsWorld.withoutPlans (w : CommsWorld) : CommsWorld :=
  { w with store := { w.store with reconnects := .empty } }

/-! ## What is asked of a reconnect -/

def Accepts (answer : Settled PortResult) : Prop := ∃ receiptRef, answer = .resolved (.ok receiptRef)

def StillNames (store : CommsStore) (commit : CommitWait) : Prop :=
  ∃ binding, store.getSessionBinding commit.record.plan.sessionId = some binding ∧
    binding.endpointRef = commit.binding.endpointRef ∧ binding.channelGeneration = commit.binding.channelGeneration

def Completed (store : CommsStore) (plan : AdmissionReconnectPlan) : Prop :=
  ∃ record, store.getReconnect plan.planId = some record ∧ record.plan = plan ∧ record.state = .completed

def RuntimeFails (l : TaskLabel (reconnectServices host) ι) : Prop :=
  ∃ commit answer, labelAnswer l = some (commit, answer) ∧ ¬ Accepts answer

def completesFor (sessionId : SessionId) (l : TaskLabel (reconnectServices host) ι) : Bool :=
  match labelAnswer l with
  | some (commit, .resolved (.ok _)) => commit.record.plan.sessionId = sessionId
  | _ => false

def completions (sessionId : SessionId) (labels : List (TaskLabel (reconnectServices host) ι)) : Nat :=
  labels.countP (completesFor sessionId)

def GenerationCounts (world : CommsWorld) (labels : List (TaskLabel (reconnectServices host) ι))
    (s : Tasks (reconnectServices host) ι) : Prop :=
  ∀ sessionId binding, world.store.getSessionBinding sessionId = some binding →
    (∀ client commit, inFlight s client = some commit → commit.record.plan.sessionId ≠ sessionId) →
    ∃ binding', s.world.store.getSessionBinding sessionId = some binding' ∧
      binding'.channelGeneration = binding.channelGeneration + completions sessionId labels

variable [DecidableEq ι]

def LaterCompletes (s : Tasks (reconnectServices host) ι) (plan : AdmissionReconnectPlan) : Prop :=
  ∃ labels t, Run (Sections.Step (reconnectServices host)) s labels t ∧ Completed t.world.store plan

/-- A call that is refused before the runtime is asked leaves the bindings alone, and one that the runtime fails
leaves that of its session as it was or can be completed later. -/
structure FailsSafely (s : Tasks (reconnectServices host) ι) (l : TaskLabel (reconnectServices host) ι)
    (t : Tasks (reconnectServices host) ι) : Prop where
  atOnce : labelAnswer l = none → inFlight t (labelClient l) = none → t.world.store.sessions = s.world.store.sessions
  answered : ∀ commit answer, labelAnswer l = some (commit, answer) → ¬ Accepts answer →
    StillNames t.world.store commit ∨ LaterCompletes t commit.record.plan

/-! ## Generations that are spent -/

def Spent (store : CommsStore) (plan : AdmissionReconnectPlan) : Prop :=
  ∃ binding, store.getSessionBinding plan.sessionId = some binding ∧
    plan.expectedChannelGeneration < binding.channelGeneration

def SameMove (plan plan' : AdmissionReconnectPlan) : Prop :=
  plan.sessionId = plan'.sessionId ∧ plan.expectedChannelGeneration = plan'.expectedChannelGeneration

section Effects
variable {store store' : CommsStore} {written : Option ReconnectCoordinatorRecord}
  {answer : Option (CommitWait × Settled PortResult)} {next : Option CommitWait}

theorem SectionEffect.binding_grows (h : SectionEffect store written answer next store') {sessionId : SessionId}
    {binding : SessionTransportBinding} (hbinding : store.getSessionBinding sessionId = some binding) :
    ∃ binding', store'.getSessionBinding sessionId = some binding' ∧
      binding.channelGeneration ≤ binding'.channelGeneration := by
  have hkept : store'.sessions = store.sessions → ∃ binding', store'.getSessionBinding sessionId = some binding' ∧
      binding.channelGeneration ≤ binding'.channelGeneration := by
    intro hsessions
    refine ⟨binding, ?_, Nat.le_refl _⟩
    unfold CommsStore.getSessionBinding
    rw [hsessions]
    exact hbinding
  cases h with
  | kept sessions reconnects => exact hkept sessions
  | wrote record state sessions reconnects => exact hkept sessions
  | rejected commit reason sessions reconnects => exact hkept sessions
  | refused commit violation record plan state sessions reconnects => exact hkept sessions
  | completed commit receiptRef sessions record plan state reconnects => exact hkept sessions
  | switched record found next checked generation sessions reconnects =>
      unfold CommsStore.getSessionBinding
      rw [sessions, OrdMap.get?_set]
      split
      · rename_i hsession
        subst hsession
        have hfound := (committable_eq_ok checked).1
        rw [hbinding] at hfound
        cases hfound
        exact ⟨next, rfl, by omega⟩
      · exact ⟨binding, hbinding, Nat.le_refl _⟩

theorem Spent.mono {plan : AdmissionReconnectPlan} (hspent : Spent store plan)
    (h : SectionEffect store written answer next store') : Spent store' plan := by
  obtain ⟨binding, hbinding, hlt⟩ := hspent
  obtain ⟨binding', hbinding', hle⟩ := h.binding_grows hbinding
  exact ⟨binding', hbinding', Nat.lt_of_lt_of_le hlt hle⟩

theorem Spent.not_sameMove {plan : AdmissionReconnectPlan} {record : ReconnectCoordinatorRecord}
    {binding : SessionTransportBinding} (hspent : Spent store plan) (hchecked : committable store record = .ok binding) :
    ¬ SameMove plan record.plan := by
  rintro ⟨hsession, hgeneration⟩
  obtain ⟨found, hfound, hlt⟩ := hspent
  obtain ⟨hbinding, hexpected⟩ := committable_eq_ok hchecked
  rw [hsession, hbinding] at hfound
  cases hfound
  omega

end Effects

/-- Every commit in flight and every completed plan has spent a generation, each another one. -/
structure Orderly (s : Tasks (reconnectServices host) ι) : Prop where
  flying : ∀ client commit, inFlight s client = some commit → Spent s.world.store commit.record.plan ∧
    commit.binding.channelGeneration = commit.record.plan.expectedChannelGeneration
  done : ∀ planId record, s.world.store.getReconnect planId = some record → record.state = .completed →
    Spent s.world.store record.plan
  apart : ∀ client client' commit commit', client ≠ client' → inFlight s client = some commit →
    inFlight s client' = some commit' → ¬ SameMove commit.record.plan commit'.record.plan
  undone : ∀ client commit planId record, inFlight s client = some commit →
    s.world.store.getReconnect planId = some record → record.state = .completed →
    ¬ SameMove commit.record.plan record.plan

variable {s t : Tasks (reconnectServices host) ι} {l : TaskLabel (reconnectServices host) ι}

omit [DecidableEq ι] in
theorem orderly_idle {w : CommsWorld} (h : w.store.reconnects = .empty) :
    Orderly (.idle (reconnectServices host) ι w) := by
  have hnone : ∀ planId record, w.store.getReconnect planId = some record → False := by
    intro planId record hget
    unfold CommsStore.getReconnect at hget
    rw [h] at hget
    cases hget
  exact ⟨fun _ _ hflying => (by cases hflying), fun _ _ hget _ => (hnone _ _ hget).elim,
    fun _ _ _ _ _ hflying => (by cases hflying), fun _ _ _ _ hflying => (by cases hflying)⟩

/-! ## Steps -/

section Effects
variable {store store' : CommsStore} {written : Option ReconnectCoordinatorRecord}
  {answer : Option (CommitWait × Settled PortResult)} {next : Option CommitWait}

theorem SectionEffect.completed_cases (h : SectionEffect store written answer next store')
    {planId : ReconnectRecordId} {record : ReconnectCoordinatorRecord}
    (hget : store'.getReconnect planId = some record) (hstate : record.state = .completed) :
    store.getReconnect planId = some record ∨
      ∃ commit receiptRef, answer = some (commit, .resolved (.ok receiptRef)) ∧ record.plan = commit.record.plan := by
  unfold CommsStore.getReconnect at hget ⊢
  cases h with
  | kept sessions reconnects => exact .inl (reconnects ▸ hget)
  | switched found binding next checked generation sessions reconnects => exact .inl (reconnects ▸ hget)
  | rejected commit reason sessions reconnects => exact .inl (reconnects ▸ hget)
  | wrote new state sessions reconnects =>
      rw [reconnects, OrdMap.get?_set] at hget
      split at hget
      · cases hget
        exact absurd hstate state
      · exact .inl hget
  | refused commit violation new plan state sessions reconnects =>
      rw [reconnects, OrdMap.get?_set] at hget
      split at hget
      · cases hget
        rw [state] at hstate
        cases hstate
      · exact .inl hget
  | completed commit receiptRef sessions new plan state reconnects =>
      split at reconnects
      · exact .inl (reconnects ▸ hget)
      · rw [reconnects, OrdMap.get?_set] at hget
        split at hget
        · cases hget
          exact .inr ⟨commit, receiptRef, rfl, plan⟩
        · exact .inl hget

theorem SectionEffect.next_checked (h : SectionEffect store written answer next store') {commit : CommitWait}
    (hnext : next = some commit) :
    committable store commit.record = .ok commit.binding ∧ Spent store' commit.record.plan := by
  cases h with
  | switched record binding new checked generation sessions reconnects =>
      cases hnext
      refine ⟨checked, new, ?_, ?_⟩
      · unfold CommsStore.getSessionBinding
        rw [sessions, OrdMap.get?_set_self]
      · have hexpected := (committable_eq_ok checked).2
        simp only
        omega
  | kept => cases hnext
  | wrote => cases hnext
  | rejected => cases hnext
  | refused => cases hnext
  | completed => cases hnext

theorem SectionEffect.next_of_answer {answered : CommitWait × Settled PortResult}
    (h : SectionEffect store written (some answered) next store') : next = none := by
  cases h <;> rfl

end Effects

theorem inFlight_cases {next : Option CommitWait} {client : ι} {commit : CommitWait}
    (hflying : inFlight t = Function.update (inFlight s) (labelClient l) next)
    (h : inFlight t client = some commit) :
    (client = labelClient l ∧ next = some commit) ∨ (client ≠ labelClient l ∧ inFlight s client = some commit) := by
  rw [hflying] at h
  by_cases hclient : client = labelClient l
  · subst hclient
    rw [Function.update_self] at h
    exact .inl ⟨rfl, h⟩
  · rw [Function.update_of_ne hclient] at h
    exact .inr ⟨hclient, h⟩

theorem step_orderly (hstep : Sections.Step (reconnectServices host) s l t) (hs : Orderly s) : Orderly t := by
  obtain ⟨next, heffect, hflying, hanswered⟩ := step_effect hstep
  have hspent : ∀ planId record, t.world.store.getReconnect planId = some record → record.state = .completed →
      Spent s.world.store record.plan ∧ ∀ client commit, client ≠ labelClient l → inFlight s client = some commit →
        ¬ SameMove commit.record.plan record.plan := by
    intro planId record hget hstate
    rcases heffect.completed_cases hget hstate with hbefore | ⟨commit, receiptRef, hanswer, hplan⟩
    · exact ⟨hs.done planId record hbefore hstate,
        fun client commit _ hcommit => hs.undone client commit planId record hcommit hbefore hstate⟩
    · have hcommit : inFlight s (labelClient l) = some commit := by
        rw [hanswered, hanswer]
        rfl
      rw [hplan]
      exact ⟨(hs.flying _ _ hcommit).1, fun client commit' hclient hcommit' =>
        hs.apart client (labelClient l) commit' commit hclient hcommit' hcommit⟩
  constructor
  · intro client commit hcommit
    rcases inFlight_cases hflying hcommit with ⟨_, hnext⟩ | ⟨_, hbefore⟩
    · obtain ⟨hchecked, hnew⟩ := heffect.next_checked hnext
      exact ⟨hnew, (committable_eq_ok hchecked).2⟩
    · exact ⟨(hs.flying client commit hbefore).1.mono heffect, (hs.flying client commit hbefore).2⟩
  · exact fun planId record hget hstate => (hspent planId record hget hstate).1.mono heffect
  · intro client client' commit commit' hne hcommit hcommit' hsame
    rcases inFlight_cases hflying hcommit with ⟨hclient, hnext⟩ | ⟨_, hbefore⟩
    · rcases inFlight_cases hflying hcommit' with ⟨hclient', _⟩ | ⟨_, hbefore'⟩
      · exact hne (hclient.trans hclient'.symm)
      · exact (hs.flying client' commit' hbefore').1.not_sameMove (heffect.next_checked hnext).1
          ⟨hsame.1.symm, hsame.2.symm⟩
    · rcases inFlight_cases hflying hcommit' with ⟨_, hnext'⟩ | ⟨_, hbefore'⟩
      · exact (hs.flying client commit hbefore).1.not_sameMove (heffect.next_checked hnext').1 hsame
      · exact hs.apart client client' commit commit' hne hbefore hbefore' hsame
  · intro client commit planId record hcommit hget hstate hsame
    obtain ⟨hrecord, hothers⟩ := hspent planId record hget hstate
    rcases inFlight_cases hflying hcommit with ⟨_, hnext⟩ | ⟨hclient, hbefore⟩
    · exact hrecord.not_sameMove (heffect.next_checked hnext).1 ⟨hsame.1.symm, hsame.2.symm⟩
    · exact hothers client commit hclient hbefore hsame

/-- The generation that the plan expects is over, and the plan is neither completed nor in flight. -/
structure Stranded (plan : AdmissionReconnectPlan) (s : Tasks (reconnectServices host) ι) : Prop where
  spent : Spent s.world.store plan
  undone : ∀ planId record, s.world.store.getReconnect planId = some record → record.state = .completed →
    record.plan ≠ plan
  landed : ∀ client commit, inFlight s client = some commit → commit.record.plan ≠ plan

theorem step_stranded {plan : AdmissionReconnectPlan} (hstep : Sections.Step (reconnectServices host) s l t)
    (hs : Stranded plan s) : Stranded plan t := by
  obtain ⟨next, heffect, hflying, hanswered⟩ := step_effect hstep
  refine ⟨hs.spent.mono heffect, fun planId record hget hstate hplan => ?_, fun client commit hcommit hplan => ?_⟩
  · rcases heffect.completed_cases hget hstate with hbefore | ⟨commit, receiptRef, hanswer, hcommit⟩
    · exact hs.undone planId record hbefore hstate hplan
    · refine hs.landed (labelClient l) commit ?_ (hcommit.symm.trans hplan)
      rw [hanswered, hanswer]
      rfl
  · rcases inFlight_cases hflying hcommit with ⟨_, hnext⟩ | ⟨_, hbefore⟩
    · exact hs.spent.not_sameMove (heffect.next_checked hnext).1 ⟨by rw [hplan], by rw [hplan]⟩
    · exact hs.landed client commit hbefore hplan

theorem Stranded.not_laterCompletes {plan : AdmissionReconnectPlan} (hs : Stranded plan s) :
    ¬ LaterCompletes s plan := by
  rintro ⟨labels, u, hrun, record, hget, hplan, hstate⟩
  have hu : Stranded plan u := hrun.invariant (fun _ _ _ => step_stranded) hs
  exact hu.undone plan.planId record hget hstate hplan

theorem step_strands {commit : CommitWait} {answer : Settled PortResult}
    (hstep : Sections.Step (reconnectServices host) s l t) (hs : Orderly s)
    (hanswer : labelAnswer l = some (commit, answer)) (hfails : ¬ Accepts answer) :
    Stranded commit.record.plan t := by
  obtain ⟨next, heffect, hflying, hanswered⟩ := step_effect hstep
  have hcommit : inFlight s (labelClient l) = some commit := by
    rw [hanswered, hanswer]
    rfl
  have hsame : ∀ {plan : AdmissionReconnectPlan}, plan = commit.record.plan → SameMove commit.record.plan plan :=
    fun hplan => ⟨by rw [hplan], by rw [hplan]⟩
  refine ⟨(hs.flying _ _ hcommit).1.mono heffect, fun planId record hget hstate hplan => ?_,
    fun client commit' hcommit' hplan => ?_⟩
  · rcases heffect.completed_cases hget hstate with hbefore | ⟨commit', receiptRef, hanswer', _⟩
    · exact hs.undone _ _ planId record hcommit hbefore hstate (hsame hplan)
    · rw [hanswer] at hanswer'
      cases hanswer'
      exact hfails ⟨receiptRef, rfl⟩
  · rcases inFlight_cases hflying hcommit' with ⟨_, hnext⟩ | ⟨hclient, hbefore⟩
    · rw [hanswer] at heffect
      rw [heffect.next_of_answer] at hnext
      cases hnext
    · exact hs.apart (labelClient l) client commit commit' hclient.symm hcommit hbefore (hsame hplan)

/-! ## Counting generations -/

def Flying (s : Tasks (reconnectServices host) ι) (sessionId : SessionId) (clients : List ι) : Prop :=
  clients.Nodup ∧ ∀ client, client ∈ clients ↔
    ∃ commit, inFlight s client = some commit ∧ commit.record.plan.sessionId = sessionId

omit [DecidableEq ι] in
theorem flying_idle {w : CommsWorld} {sessionId : SessionId} :
    Flying (.idle (reconnectServices host) ι w) sessionId [] := by
  refine ⟨List.nodup_nil, fun client => ⟨fun h => absurd h List.not_mem_nil, ?_⟩⟩
  rintro ⟨commit, hcommit, _⟩
  cases hcommit

section Flights
variable {sessionId : SessionId} {clients : List ι} {next : Option CommitWait}

theorem Flying.same (h : Flying s sessionId clients)
    (hflying : inFlight t = Function.update (inFlight s) (labelClient l) next)
    (hbefore : ∀ commit, inFlight s (labelClient l) = some commit → commit.record.plan.sessionId ≠ sessionId)
    (hnext : ∀ commit, next = some commit → commit.record.plan.sessionId ≠ sessionId) :
    Flying t sessionId clients := by
  refine ⟨h.1, fun client => ?_⟩
  rw [h.2 client, hflying]
  by_cases hclient : client = labelClient l
  · subst hclient
    rw [Function.update_self]
    exact ⟨fun ⟨commit, hcommit, hsession⟩ => absurd hsession (hbefore commit hcommit),
      fun ⟨commit, hcommit, hsession⟩ => absurd hsession (hnext commit hcommit)⟩
  · rw [Function.update_of_ne hclient]

theorem Flying.takeOff {commit : CommitWait} (h : Flying s sessionId clients)
    (hflying : inFlight t = Function.update (inFlight s) (labelClient l) (some commit))
    (hbefore : inFlight s (labelClient l) = none) (hsession : commit.record.plan.sessionId = sessionId) :
    Flying t sessionId (labelClient l :: clients) := by
  have hnew : labelClient l ∉ clients := by
    intro hmem
    obtain ⟨found, hfound, _⟩ := (h.2 _).1 hmem
    rw [hbefore] at hfound
    cases hfound
  refine ⟨List.nodup_cons.2 ⟨hnew, h.1⟩, fun client => ?_⟩
  rw [hflying, List.mem_cons, h.2 client]
  by_cases hclient : client = labelClient l
  · subst hclient
    rw [Function.update_self]
    exact ⟨fun _ => ⟨commit, rfl, hsession⟩, fun _ => .inl rfl⟩
  · rw [Function.update_of_ne hclient]
    exact ⟨fun hmem => hmem.resolve_left hclient, .inr⟩

theorem Flying.land (h : Flying s sessionId clients)
    (hflying : inFlight t = Function.update (inFlight s) (labelClient l) none) :
    Flying t sessionId (clients.erase (labelClient l)) := by
  refine ⟨h.1.erase _, fun client => ?_⟩
  rw [hflying, h.1.mem_erase_iff, h.2 client]
  by_cases hclient : client = labelClient l
  · subst hclient
    rw [Function.update_self]
    exact ⟨fun hmem => absurd rfl hmem.1, fun ⟨_, hcommit, _⟩ => (by cases hcommit)⟩
  · rw [Function.update_of_ne hclient]
    exact ⟨And.right, fun hmem => ⟨hclient, hmem⟩⟩

end Flights

theorem step_counts {sessionId : SessionId} {clients : List ι} {binding : SessionTransportBinding}
    (hstep : Sections.Step (reconnectServices host) s l t) (haccepts : ¬ RuntimeFails l)
    (hclients : Flying s sessionId clients) (hbinding : s.world.store.getSessionBinding sessionId = some binding) :
    ∃ clients' binding', Flying t sessionId clients' ∧ t.world.store.getSessionBinding sessionId = some binding' ∧
      binding'.channelGeneration + clients.length =
        binding.channelGeneration + completions sessionId [l] + clients'.length := by
  obtain ⟨next, heffect, hflying, hanswered⟩ := step_effect hstep
  have hcount : completions sessionId [l] = if completesFor sessionId l then 1 else 0 := by
    unfold completions
    rw [List.countP_cons, List.countP_nil, Nat.zero_add]
  have hsame : t.world.store.sessions = s.world.store.sessions →
      t.world.store.getSessionBinding sessionId = some binding := by
    intro hsessions
    unfold CommsStore.getSessionBinding
    rw [hsessions]
    exact hbinding
  unfold completesFor at hcount
  generalize hl : labelAnswer l = answer at heffect hanswered hcount
  generalize labelWritten s l = written at heffect
  cases heffect with
  | kept sessions reconnects =>
      refine ⟨clients, binding, hclients.same hflying ?_ fun _ h => (by cases h), hsame sessions, by simp [hcount]⟩
      intro commit hcommit
      rw [hanswered] at hcommit
      cases hcommit
  | wrote record state sessions reconnects =>
      refine ⟨clients, binding, hclients.same hflying ?_ fun _ h => (by cases h), hsame sessions, by simp [hcount]⟩
      intro commit hcommit
      rw [hanswered] at hcommit
      cases hcommit
  | rejected commit reason sessions reconnects =>
      exact absurd ⟨commit, _, hl, fun ⟨_, h⟩ => (by cases h)⟩ haccepts
  | refused commit violation record plan state sessions reconnects =>
      exact absurd ⟨commit, _, hl, fun ⟨_, h⟩ => (by cases h)⟩ haccepts
  | switched record found new checked generation sessions reconnects =>
      by_cases hsession : record.plan.sessionId = sessionId
      · refine ⟨labelClient l :: clients, new, hclients.takeOff hflying hanswered hsession, ?_, ?_⟩
        · unfold CommsStore.getSessionBinding
          rw [sessions, ← hsession, OrdMap.get?_set_self]
        · have hfound := (committable_eq_ok checked).1
          rw [hsession, hbinding] at hfound
          cases hfound
          simp only [hcount, Bool.false_eq_true, if_false, List.length_cons]
          omega
      · refine ⟨clients, binding, hclients.same hflying ?_ ?_, ?_, by simp [hcount]⟩
        · intro commit hcommit
          rw [hanswered] at hcommit
          cases hcommit
        · intro commit hcommit
          cases hcommit
          exact hsession
        · unfold CommsStore.getSessionBinding
          rw [sessions, OrdMap.get?_set_ne _ _ (Ne.symm hsession)]
          exact hbinding
  | completed commit receiptRef sessions record plan state reconnects =>
      have hcommit : inFlight s (labelClient l) = some commit := hanswered
      by_cases hsession : commit.record.plan.sessionId = sessionId
      · have hmem : labelClient l ∈ clients := (hclients.2 _).2 ⟨commit, hcommit, hsession⟩
        refine ⟨clients.erase (labelClient l), binding, hclients.land hflying, hsame sessions, ?_⟩
        have hlength := List.length_erase_of_mem hmem
        have hpos := List.length_pos_of_mem hmem
        simp only [hcount, hsession, decide_true, if_true]
        omega
      · refine ⟨clients, binding, hclients.same hflying ?_ fun _ h => (by cases h), hsame sessions, ?_⟩
        · intro commit' hcommit'
          rw [hcommit] at hcommit'
          cases hcommit'
          exact hsession
        · simp [hcount, hsession]

theorem run_counts {sessionId : SessionId} {labels : List (TaskLabel (reconnectServices host) ι)}
    (hrun : Run (Sections.Step (reconnectServices host)) s labels t)
    (haccepts : Run.Every (Sections.Step (reconnectServices host)) (fun _ l _ => ¬ RuntimeFails l) s labels)
    {clients : List ι} {binding : SessionTransportBinding} (hclients : Flying s sessionId clients)
    (hbinding : s.world.store.getSessionBinding sessionId = some binding) :
    ∃ clients' binding', Flying t sessionId clients' ∧ t.world.store.getSessionBinding sessionId = some binding' ∧
      binding'.channelGeneration + clients.length =
        binding.channelGeneration + completions sessionId labels + clients'.length := by
  induction hrun generalizing clients binding with
  | nil s => exact ⟨clients, binding, hclients, hbinding, by simp [completions]⟩
  | @cons s m t l labels head tail ih =>
      obtain ⟨clients', binding', hclients', hbinding', hstep⟩ :=
        step_counts head (haccepts.head head) hclients hbinding
      obtain ⟨clients'', binding'', hclients'', hbinding'', hrest⟩ := ih (haccepts.tail head) hclients' hbinding'
      refine ⟨clients'', binding'', hclients'', hbinding'', ?_⟩
      have hsplit : completions sessionId (l :: labels) = completions sessionId [l] + completions sessionId labels := by
        unfold completions
        rw [← List.countP_append, List.singleton_append]
      omega

/-! ## Runs -/

theorem step_failsSafely_iff (hstep : Sections.Step (reconnectServices host) s l t) (hs : Orderly s) :
    FailsSafely s l t ↔ ¬ RuntimeFails l := by
  constructor
  · rintro h ⟨commit, answer, hanswer, hfails⟩
    have hstranded := step_strands hstep hs hanswer hfails
    rcases h.answered commit answer hanswer hfails with ⟨binding, hbinding, _, hgeneration⟩ | hlater
    · obtain ⟨binding', hbinding', hspent⟩ := hstranded.spent
      rw [hbinding] at hbinding'
      cases hbinding'
      obtain ⟨next, _, _, hanswered⟩ := step_effect hstep
      have hcommit : inFlight s (labelClient l) = some commit := by
        rw [hanswered, hanswer]
        rfl
      have hfound := (hs.flying _ _ hcommit).2
      omega
    · exact hstranded.not_laterCompletes hlater
  · intro haccepts
    refine ⟨fun hnone hlanded => ?_, fun commit answer hanswer hfails => ?_⟩
    · obtain ⟨next, heffect, hflying, _⟩ := step_effect hstep
      have hnext : next = none := by
        rw [hflying, Function.update_self] at hlanded
        exact hlanded
      rw [hnone, hnext] at heffect
      generalize labelWritten s l = written at heffect
      cases heffect with
      | kept sessions reconnects => exact sessions
      | wrote record state sessions reconnects => exact sessions
    · exact absurd ⟨commit, answer, hanswer, hfails⟩ haccepts

/-- In the runs from a store without plans, every reconnect that fails leaves the binding of its session or can be
completed later, and the generation of a session counts its completed plans, exactly if the runtime accepts every
commit that it is asked for. -/
theorem reconnects_recoverable_iff (world : CommsWorld) (labels : List (TaskLabel (reconnectServices host) ι)) :
    (Run.Every (Sections.Step (reconnectServices host)) FailsSafely
        (.idle _ ι world.withoutPlans) labels ∧
      ∀ pre post m, labels = pre ++ post →
        Run (Sections.Step (reconnectServices host)) (.idle _ ι world.withoutPlans) pre m →
        GenerationCounts world pre m) ↔
      Run.Every (Sections.Step (reconnectServices host)) (fun _ l _ => ¬ RuntimeFails l)
        (.idle _ ι world.withoutPlans) labels := by
  have hs : Orderly (.idle (reconnectServices host) ι world.withoutPlans) := orderly_idle rfl
  have hsafely := @Run.every_congr _ _ (Sections.Step (reconnectServices host)) _ labels FailsSafely
    (fun _ l _ => ¬ RuntimeFails l) Orderly (fun _ _ _ => step_orderly) hs fun _ _ _ hm hstep =>
      step_failsSafely_iff hstep hm
  constructor
  · exact fun h => hsafely.1 h.1
  · intro haccepts
    refine ⟨hsafely.2 haccepts, ?_⟩
    rintro pre post m rfl hrun sessionId binding hbinding hlanded
    obtain ⟨clients, binding', hclients, hbinding', hcount⟩ := run_counts hrun haccepts.front flying_idle hbinding
    have hnone : clients = [] := by
      refine List.eq_nil_iff_forall_not_mem.2 fun client hmem => ?_
      obtain ⟨commit, hcommit, hsession⟩ := (hclients.2 client).1 hmem
      exact hlanded client commit hcommit hsession
    subst hnone
    refine ⟨binding', hbinding', ?_⟩
    simpa using hcount

/-- The runtime refuses the commit of a plan: the plan is lost, and its session stays switched. -/
theorem refused_reconnect_is_stranded : ∃ labels s l t,
    Run (Sections.Step (reconnectServices sampleReconnectHost)) (.idle _ Unit sessionWorld.withoutPlans) labels s ∧
      Sections.Step (reconnectServices sampleReconnectHost) s l t ∧ ¬ FailsSafely s l t := by
  have hwaits : (commitMoves.foldlM Tasks.next?
      (.idle (reconnectServices sampleReconnectHost) Unit sessionWorld.withoutPlans)).map (inFlight · ()) =
      some (some { record := sampleRecord .peerAccepted (some "digest"), binding := sampleSessionBinding }) := by
    decide +kernel
  obtain ⟨s, hs, hflying⟩ := Option.map_eq_some_iff.1 hwaits
  obtain ⟨labels, hrun⟩ := run_of_next? hs
  obtain ⟨l, t, hstep, hanswer⟩ :=
    exists_answer hflying (.resolved (.error (commsViolation .runtimeCommitFailed .reconnect "refused")))
  have horderly : Orderly s := hrun.invariant (fun _ _ _ => step_orderly) (orderly_idle rfl)
  refine ⟨labels, s, l, t, hrun, hstep, fun hsafe => (step_failsSafely_iff hstep horderly).1 hsafe ?_⟩
  exact ⟨_, _, hanswer, fun ⟨_, haccepts⟩ => (by cases haccepts)⟩

end Cantilune
