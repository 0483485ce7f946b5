import Cantilune.Base.Runs
import Cantilune.Lemmas.ToolCalls

/-!
# At most once, or only after the outcome is known

Calls that share a key run one after the other, and each may be stopped at any of its waits. What a call goes by is
the entry that it reads; where it reads none though the tool was executed, the tool is executed once more.
-/

namespace Cantilune

variable {host : ContentHost}

/-! ## A sequence of calls -/

/-- What is known of a call that has ended or was stopped: whether an approver was configured, and its entries. -/
structure ToolCallLog where
  gated : Bool
  entries : List ToolEntry

structure ToolWorld where
  store : ContentStore
  calls : List ToolCallLog

def logEntries (calls : List ToolCallLog) : List ToolEntry := calls.flatMap (·.entries)

def ToolWorld.Step (host : ContentHost) (argumentHost : ArgumentHost) (key : ToolInvocationKey)
    (tier : ToolExecutionTier) (w : ToolWorld) (invocation : ToolInvocation) (w' : ToolWorld) : Prop :=
  invocation.key? argumentHost = some key ∧
    (∀ executor, invocation.toolExecutor = some executor → executor.tierOf invocation.call.toolName = tier) ∧
    ∃ d, ToolStops host (useTool host argumentHost invocation) ⟨w.store, []⟩ d ∧
      w' = ⟨d.store, w.calls ++ [⟨invocation.gated, d.entries⟩]⟩

def TwoExecutions (entries mid : List ToolEntry) : Prop :=
  ∃ before x y after, entries = before ++ x :: (mid ++ y :: after) ∧ x.isExecute = true ∧ y.isExecute = true

def Approved (key : ToolInvocationKey) (calls : List ToolCallLog) : Prop :=
  ∀ earlier now later before e rest, calls = earlier ++ now :: later → now.entries = before ++ e :: rest →
    e.isExecute = true → (∀ c ∈ earlier ++ [now], c.gated = true) →
    ∃ a ∈ logEntries earlier ++ before, a.allows key = true

/-- At most one execution of a tool that is not idempotent; another one of an idempotent tool only after an answer
that it is unknown; and none that has an effect without the approver, where it is configured. -/
structure JournalHolds (key : ToolInvocationKey) (tier : ToolExecutionTier) (calls : List ToolCallLog) : Prop where
  once : tier = .nonIdempotent → ∀ mid, ¬ TwoExecutions (logEntries calls) mid
  again : tier = .idempotent → ∀ mid, TwoExecutions (logEntries calls) mid → ∃ u ∈ mid, u.isUnknown = true
  approved : tier ≠ .read → Approved key calls

def Unsettled (tier : ToolExecutionTier) (entries : List ToolEntry) : Prop :=
  ∃ before x after, entries = before ++ x :: after ∧ x.isExecute = true ∧ (tier = .idempotent → NoneUnknown after)

def MissExecutesNothing (host : ContentHost) (key : ToolInvocationKey) (tier : ToolExecutionTier) (w : ToolWorld)
    (_ : ToolInvocation) (w' : ToolWorld) : Prop :=
  tier ≠ .read → Unsettled tier (logEntries w.calls) → ∀ call, w'.calls = w.calls ++ [call] →
    Misses host (intentRef host key .dispatched) call.entries → Silent call.entries

/-! ## Executions in a log -/

theorem split_append {α : Type} {first second pre post : List α} {x : α} (h : first ++ second = pre ++ x :: post) :
    (∃ mid, first = pre ++ x :: mid ∧ post = mid ++ second) ∨
      ∃ mid, pre = first ++ mid ∧ second = mid ++ x :: post := by
  rcases List.append_eq_append_iff.1 h with ⟨mid, hpre, hsecond⟩ | ⟨mid, hfirst, hsecond⟩
  · exact .inr ⟨mid, hpre, hsecond⟩
  · cases mid with
    | nil => exact .inr ⟨[], by simpa using hfirst.symm, by simpa using hsecond.symm⟩
    | cons y mid =>
        obtain ⟨rfl, rfl⟩ := List.cons.inj hsecond
        exact .inl ⟨mid, hfirst, rfl⟩

theorem Silent.not_split {entries pre post : List ToolEntry} {x : ToolEntry} (h : Silent entries)
    (heq : entries = pre ++ x :: post) : x.isExecute = false :=
  h x (heq ▸ List.mem_append_right _ List.mem_cons_self)

theorem one_execution {before rest pre post : List ToolEntry} {e x : ToolEntry} (hbefore : Silent before)
    (hrest : Silent rest) (hx : x.isExecute = true) (heq : before ++ e :: rest = pre ++ x :: post) :
    pre = before ∧ post = rest := by
  rcases split_append heq with ⟨mid, hmid, -⟩ | ⟨mid, rfl, hmid⟩
  · rw [hbefore.not_split hmid] at hx
    cases hx
  · cases mid with
    | nil =>
        obtain ⟨-, rfl⟩ := List.cons.inj hmid
        exact ⟨List.append_nil _, rfl⟩
    | cons y mid =>
        obtain ⟨-, htail⟩ := List.cons.inj hmid
        rw [hrest.not_split htail] at hx
        cases hx

theorem twoExecutions_silent {entries more mid : List ToolEntry} (hmore : Silent more)
    (h : TwoExecutions (entries ++ more) mid) : TwoExecutions entries mid := by
  obtain ⟨pre, x, y, post, heq, hx, hy⟩ := h
  rcases split_append heq with ⟨after, rfl, hafter⟩ | ⟨after, -, hafter⟩
  · rcases split_append hafter.symm with ⟨post', rfl, -⟩ | ⟨post', -, hpost'⟩
    · exact ⟨pre, x, y, post', rfl, hx, hy⟩
    · rw [hmore.not_split hpost'] at hy
      cases hy
  · rw [hmore.not_split hafter] at hx
    cases hx

theorem twoExecutions_one {entries before rest mid : List ToolEntry} {e : ToolEntry} (hbefore : Silent before)
    (hrest : Silent rest) (h : TwoExecutions (entries ++ (before ++ e :: rest)) mid) :
    TwoExecutions entries mid ∨
      ∃ pre x after, entries = pre ++ x :: after ∧ x.isExecute = true ∧ mid = after ++ before := by
  obtain ⟨pre, x, y, post, heq, hx, hy⟩ := h
  rcases split_append heq with ⟨after, rfl, hafter⟩ | ⟨after, -, hafter⟩
  · rcases split_append hafter.symm with ⟨post', rfl, -⟩ | ⟨post', hmid, hpost'⟩
    · exact .inl ⟨pre, x, y, post', rfl, hx, hy⟩
    · obtain ⟨rfl, -⟩ := one_execution hbefore hrest hy hpost'
      exact .inr ⟨pre, x, after, rfl, hx, hmid⟩
  · obtain ⟨-, hpost⟩ := one_execution hbefore hrest hx hafter
    rw [hrest.not_split hpost.symm] at hy
    cases hy

/-! ## What the store knows of the calls -/

/-- What was executed has taken the ref; and the journal holds the entry only if the calls were authorized. -/
structure JournalKnows (host : ContentHost) (key : ToolInvocationKey) (w : ToolWorld) : Prop where
  taken : (∃ e ∈ logEntries w.calls, e.isExecute = true) → w.store.has (intentRef host key .dispatched) = true
  authorized : Holds host key w.store → (∀ c ∈ w.calls, c.gated = true) →
    ∃ a ∈ logEntries w.calls, a.allows key = true

theorem logEntries_snoc (calls : List ToolCallLog) (call : ToolCallLog) :
    logEntries (calls ++ [call]) = logEntries calls ++ call.entries := by
  simp [logEntries]

variable {argumentHost : ArgumentHost} {key : ToolInvocationKey} {tier : ToolExecutionTier}
  {invocation : ToolInvocation} {w w' : ToolWorld}

theorem ToolWorld.Step.does (h : ToolWorld.Step host argumentHost key tier w invocation w') :
    ∃ d, w' = ⟨d.store, w.calls ++ [⟨invocation.gated, d.entries⟩]⟩ ∧ StoreGrows w.store d.store ∧
      (Holds host key d.store → Holds host key w.store ∨ Authorized key invocation.gated d.entries) ∧
      CallDoes host key tier invocation.gated w.store d := by
  obtain ⟨hkey, htier, d, hstops, rfl⟩ := h
  exact ⟨d, rfl, useTool_does hstops hkey htier⟩

theorem step_journalKnows (h : ToolWorld.Step host argumentHost key tier w invocation w')
    (hw : JournalKnows host key w) : JournalKnows host key w' := by
  obtain ⟨d, rfl, hgrows, hwrites, hdoes⟩ := h.does
  refine ⟨?_, ?_⟩
  · rintro ⟨e, he, hexecutes⟩
    dsimp only at he ⊢
    rw [logEntries_snoc] at he
    rcases List.mem_append.1 he with he | he
    · exact has_grows hgrows (hw.taken ⟨e, he, hexecutes⟩)
    · cases hdoes with
      | nothing silent =>
          rw [silent e he] at hexecutes
          cases hexecutes
      | fresh before x rest entries silentBefore executes silentAfter noneUnknown authorized taken missed => exact taken
      | again before x rest entries silentBefore executes silentAfter holds found known =>
          refine has_grows hgrows ?_
          unfold Holds at holds
          cases hget : w.store.get? (intentRef host key .dispatched) with
          | none =>
              rw [hget] at holds
              cases holds
          | some blob => exact OrdMap.has_of_get? hget
  · intro hholds hgated
    dsimp only at hgated ⊢
    rw [logEntries_snoc]
    rcases hwrites hholds with hbefore | hauthorized
    · obtain ⟨a, ha, hallows⟩ := hw.authorized hbefore fun c hc => hgated c (List.mem_append_left _ hc)
      exact ⟨a, List.mem_append_left _ ha, hallows⟩
    · obtain ⟨a, ha, hallows⟩ := hauthorized (hgated _ (List.mem_append_right _ (List.mem_singleton_self _)))
      exact ⟨a, List.mem_append_right _ ha, hallows⟩

theorem step_approved (h : ToolWorld.Step host argumentHost key tier w invocation w') (hw : JournalKnows host key w)
    (happroved : Approved key w.calls) : Approved key w'.calls := by
  intro earlier now later before e rest hcalls hentries hexecutes hgated
  obtain ⟨d, rfl, hgrows, hwrites, hdoes⟩ := h.does
  rcases split_append hcalls with ⟨mid, hmid, -⟩ | ⟨mid, hearlier, hmid⟩
  · exact happroved earlier now mid before e rest hmid hentries hexecutes hgated
  · cases mid with
    | cons c mid => cases mid <;> cases hmid
    | nil =>
        rw [List.append_nil] at hearlier
        subst hearlier
        cases hmid
        dsimp only at hentries
        cases hdoes with
        | nothing silent =>
            rw [silent.not_split hentries] at hexecutes
            cases hexecutes
        | fresh before' x rest' entries silentBefore executes silentAfter noneUnknown authorized taken missed =>
            obtain ⟨rfl, -⟩ := one_execution silentBefore silentAfter hexecutes (entries.symm.trans hentries)
            obtain ⟨a, ha, hallows⟩ := authorized (hgated _ (List.mem_append_right _ (List.mem_singleton_self _)))
            exact ⟨a, List.mem_append_right _ ha, hallows⟩
        | again before' x rest' entries silentBefore executes silentAfter holds found known =>
            obtain ⟨a, ha, hallows⟩ := hw.authorized holds fun c hc => hgated c (List.mem_append_left _ hc)
            exact ⟨a, List.mem_append_left _ ha, hallows⟩

theorem step_twoExecutions (h : ToolWorld.Step host argumentHost key tier w invocation w')
    (hw : JournalKnows host key w) (hmiss : MissExecutesNothing host key tier w invocation w') (htier : tier ≠ .read)
    {mid : List ToolEntry} (htwo : TwoExecutions (logEntries w'.calls) mid) :
    TwoExecutions (logEntries w.calls) mid ∨ tier = .idempotent ∧ ∃ u ∈ mid, u.isUnknown = true := by
  obtain ⟨d, rfl, hgrows, hwrites, hdoes⟩ := h.does
  dsimp only at htwo
  rw [logEntries_snoc] at htwo
  dsimp only at htwo
  cases hdoes with
  | nothing silent => exact .inl (twoExecutions_silent silent htwo)
  | again before e rest entries silentBefore executes silentAfter holds found known =>
      rw [entries] at htwo
      rcases twoExecutions_one silentBefore silentAfter htwo with htwo | ⟨pre, x, after, -, -, rfl⟩
      · exact .inl htwo
      · rcases known with hread | ⟨hidempotent, u, hu, hunknown⟩
        · exact absurd hread htier
        · exact .inr ⟨hidempotent, u, List.mem_append_right _ hu, hunknown⟩
  | fresh before e rest entries silentBefore executes silentAfter noneUnknown authorized taken missed =>
      rw [entries] at htwo
      rcases twoExecutions_one silentBefore silentAfter htwo with htwo | ⟨pre, x, after, hlog, hx, rfl⟩
      · exact .inl htwo
      · -- The ref was taken at the first execution, so the read missed the entry.
        have hmissed := missed (hw.taken ⟨x, hlog ▸ List.mem_append_right _ List.mem_cons_self, hx⟩)
        have hin : e ∈ d.entries := entries ▸ List.mem_append_right _ List.mem_cons_self
        by_cases hunsettled : tier = .idempotent → NoneUnknown after
        · have hsilent := hmiss htier ⟨pre, x, after, hlog, hx, hunsettled⟩ _ rfl hmissed
          rw [hsilent e hin] at executes
          cases executes
        · simp only [Classical.not_imp, NoneUnknown, not_forall, Bool.not_eq_false] at hunsettled
          obtain ⟨hidempotent, u, hu, hunknown⟩ := hunsettled
          exact .inr ⟨hidempotent, u, List.mem_append_left _ hu, hunknown⟩

theorem step_journalHolds_iff (h : ToolWorld.Step host argumentHost key tier w invocation w')
    (hw : JournalKnows host key w) (hlaw : JournalHolds key tier w.calls) :
    JournalHolds key tier w'.calls ↔ MissExecutesNothing host key tier w invocation w' := by
  constructor
  · intro hlaw' htier hunsettled call hcalls hmiss
    obtain ⟨d, rfl, hgrows, hwrites, hdoes⟩ := h.does
    obtain rfl : (⟨invocation.gated, d.entries⟩ : ToolCallLog) = call :=
      List.singleton_inj.1 (List.append_cancel_left hcalls)
    cases hdoes with
    | nothing silent => exact silent
    | again before e rest entries silentBefore executes silentAfter holds found known => exact absurd hmiss found
    | fresh before e rest entries silentBefore executes silentAfter noneUnknown authorized taken missed =>
        obtain ⟨pre, x, after, hlog, hx, hafter⟩ := hunsettled
        have htwo : TwoExecutions (logEntries (w.calls ++ [⟨invocation.gated, d.entries⟩])) (after ++ before) := by
          refine ⟨pre, x, e, rest, ?_, hx, executes⟩
          rw [logEntries_snoc]
          dsimp only
          rw [hlog, entries, List.append_assoc, List.cons_append, List.append_assoc]
        cases tier with
        | read => exact absurd rfl htier
        | nonIdempotent => exact absurd htwo (hlaw'.once rfl _)
        | idempotent =>
            obtain ⟨u, hu, hunknown⟩ := hlaw'.again rfl _ htwo
            rw [(hafter rfl).append noneUnknown u hu] at hunknown
            cases hunknown
  · intro hmiss
    refine ⟨fun htier mid htwo => ?_, fun htier mid htwo => ?_, fun htier => step_approved h hw (hlaw.approved htier)⟩
    · rcases step_twoExecutions h hw hmiss (by rw [htier]; nofun) htwo with htwo | ⟨hidempotent, -⟩
      · exact hlaw.once htier mid htwo
      · rw [htier] at hidempotent
        cases hidempotent
    · rcases step_twoExecutions h hw hmiss (by rw [htier]; nofun) htwo with htwo | ⟨-, hknown⟩
      · exact hlaw.again htier mid htwo
      · exact hknown

/-- The law of the journal holds all along a sequence of calls of one key if and only if, while an execution may have
had its effect, no call that misses the entry gets to an execution. -/
theorem tool_journal_holds_iff {store : ContentStore} (hfree : ¬ Holds host key store)
    (invocations : List ToolInvocation) :
    (∀ pre post w, invocations = pre ++ post →
        Run (ToolWorld.Step host argumentHost key tier) ⟨store, []⟩ pre w → JournalHolds key tier w.calls) ↔
      Run.Every (ToolWorld.Step host argumentHost key tier) (MissExecutesNothing host key tier) ⟨store, []⟩
        invocations := by
  have hknows : JournalKnows host key ⟨store, []⟩ := ⟨by simp [logEntries], fun h => absurd h hfree⟩
  have hempty : JournalHolds key tier [] := by
    refine ⟨?_, ?_, fun _ earlier now later _ _ _ h => by simp at h⟩
    · rintro _ mid ⟨_, _, _, _, h, _⟩
      simp [logEntries] at h
    · rintro _ mid ⟨_, _, _, _, h, _⟩
      simp [logEntries] at h
  have hiff := @Run.forall_states_iff _ _ (ToolWorld.Step host argumentHost key tier) ⟨store, []⟩ invocations
    (MissExecutesNothing host key tier) (fun w => JournalKnows host key w ∧ JournalHolds key tier w.calls)
    ⟨hknows, hempty⟩ fun w invocation w' hstep hw =>
      ⟨fun hw' => (step_journalHolds_iff hstep hw.1 hw.2).1 hw'.2, fun hmiss =>
        ⟨step_journalKnows hstep hw.1, (step_journalHolds_iff hstep hw.1 hw.2).2 hmiss⟩⟩
  rw [← hiff]
  constructor
  · exact fun h pre post w heq hrun =>
      ⟨hrun.invariant (fun _ _ _ hstep hw => step_journalKnows hstep hw) hknows, h pre post w heq hrun⟩
  · exact fun h pre post w heq hrun => (h pre post w heq hrun).2

/-! ### A call after a failed read -/

def statusHost : ContentHost where
  hasher content :=
    match content with
    | .text text => "text " ++ text
    | .json value => if value.get? "status" = some (.str "dispatched") then "dispatched" else "completed"
  byteLength _ := 1

def plainArguments : ArgumentHost where
  localeCompare _ _ := 0
  sha256 _ := "0"

def transferCall : ToolInvocation where
  principal := { actorId := "a", kind := "agent" }
  toolExecutor := some { tier := none, tierFor := fun _ => none, hasReconcile := false }
  call := { callId := "c", toolName := "transfer", args := .obj [] }
  toolApprover := none

def transferKey : ToolInvocationKey := invocationKey transferCall.principal "transfer" "sha256:0" "c"

def answers? (host : ContentHost) (getFails : Bool) (s : ToolCallState) (r : ToolRequest) :
    Option (r.Response × ToolCallState) :=
  match r with
  | .get ref =>
      let response : Except String (Option ContentBlob) :=
        if getFails then .error "unavailable" else .ok (s.store.get? ref)
      some (response, ⟨s.store, s.entries ++ [⟨.get ref, response⟩]⟩)
  | .put content options =>
      some (.ok (host.hasher content),
        ⟨s.store.put host content options, s.entries ++ [⟨.put content options, .ok (host.hasher content)⟩]⟩)
  | .execute toolName args =>
      let response : Except String (Option Json) := .ok (some (.obj [("ok", .bool true), ("output", .str "sent")]))
      some (response, ⟨s.store, s.entries ++ [⟨.execute toolName args, response⟩]⟩)
  | _ => none

theorem toolAnswers_of_answers? {getFails : Bool} {c : ToolCallState} {r : ToolRequest}
    {answered : r.Response × ToolCallState} (h : answers? host getFails c r = some answered) :
    ToolAnswers host c r answered.1 answered.2 := by
  cases r with
  | get ref =>
      cases h
      refine ⟨?_, rfl⟩
      cases getFails with
      | true => exact .getFails _ _ _
      | false => exact .get _ _
  | put content options =>
      cases h
      exact ⟨.put _ _ _, rfl⟩
  | execute toolName args =>
      cases h
      exact ⟨.execute _ _ _ _, rfl⟩
  | _ => cases h

def afterCall? (getFails : Bool) (requests : Nat) (w : ToolWorld) : Option ToolWorld :=
  (Program.stop? (answers? statusHost getFails) requests (useTool statusHost plainArguments transferCall)
    ⟨w.store, []⟩).map fun d => ⟨d.store, w.calls ++ [⟨transferCall.gated, d.entries⟩]⟩

theorem step_of_afterCall? {getFails : Bool} {requests : Nat} (h : afterCall? getFails requests w = some w') :
    ToolWorld.Step statusHost plainArguments transferKey .nonIdempotent w transferCall w' := by
  obtain ⟨d, hd, rfl⟩ := Option.map_eq_some_iff.1 h
  refine ⟨rfl, ?_, d, Program.stops_of_stop? (fun _ _ _ hanswer => toolAnswers_of_answers? hanswer) hd, rfl⟩
  intro executor hexecutor
  cases hexecutor
  rfl

theorem statusHost_free : ¬ Holds statusHost transferKey .empty := by
  simp [Holds]

/-- A first call, up to the execution and beyond: the law holds. -/
theorem single_transfer_holds : ∃ w, Run (ToolWorld.Step statusHost plainArguments transferKey .nonIdempotent)
    ⟨.empty, []⟩ [transferCall] w ∧ JournalHolds transferKey .nonIdempotent w.calls ∧
      (logEntries w.calls).map (·.isExecute) = [false, false, true, false] := by
  have hcall : (afterCall? false 4 ⟨.empty, []⟩).map (fun w => (logEntries w.calls).map (·.isExecute)) =
      some [false, false, true, false] := by decide +kernel
  obtain ⟨w, hw, hentries⟩ := Option.map_eq_some_iff.1 hcall
  have hrun := Run.single (step_of_afterCall? hw)
  refine ⟨w, hrun, (tool_journal_holds_iff statusHost_free [transferCall]).2 ?_ [transferCall] [] w rfl hrun,
    hentries⟩
  intro pre a post m m' heq hpre hstep htier hunsettled
  cases pre with
  | nil =>
      cases hpre
      obtain ⟨before, x, after, hlog, -⟩ := hunsettled
      simp [logEntries] at hlog
  | cons b pre => cases pre <;> cases heq

/-- A call is stopped after its execution, the next one cannot read the entry, and the tool, which is not idempotent,
is executed again. -/
theorem transfer_executed_twice : ∃ w mid, Run (ToolWorld.Step statusHost plainArguments transferKey .nonIdempotent)
    ⟨.empty, []⟩ [transferCall, transferCall] w ∧ ¬ Holds statusHost transferKey .empty ∧
      TwoExecutions (logEntries w.calls) mid := by
  have hcalls : ((afterCall? false 3 ⟨.empty, []⟩).bind (afterCall? true 3)).map
      (fun w => (logEntries w.calls).map (·.isExecute)) = some [false, false, true, false, false, true] := by
    decide +kernel
  obtain ⟨w, hw, hentries⟩ := Option.map_eq_some_iff.1 hcalls
  obtain ⟨m, hm, hw⟩ := Option.bind_eq_some_iff.1 hw
  have hrun := (Run.single (step_of_afterCall? hm)).snoc (step_of_afterCall? hw)
  simp only [List.map_eq_cons_iff, List.map_eq_nil_iff] at hentries
  obtain ⟨a, _, hlog, -, b, _, rfl, -, x, _, rfl, hx, c, _, rfl, -, d, _, rfl, -, y, _, rfl, hy, rfl⟩ := hentries
  exact ⟨w, [c, d], hrun, statusHost_free, [a, b], x, y, [], hlog, hx, hy⟩

end Cantilune
