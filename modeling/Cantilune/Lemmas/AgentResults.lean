import Cantilune.Boot.AgentLoop
import Cantilune.Lemmas.AgentCompaction

/-!
# The results of tool calls

However the calls of a response end, the transcript grows by one result for each call, in the order of the calls.
-/

namespace Cantilune.AgentLoop

/-! ## Growing transcripts -/

def numberFrom : Nat → List LlmMessage → List MessageObject
  | _, [] => []
  | identity, message :: messages => { identity, message } :: numberFrom (identity + 1) messages

variable {s t u : ToolExecutionState} {ms ns : List LlmMessage} {k : Nat}

@[simp] theorem texts_numberFrom : texts (numberFrom k ms) = ms := by
  induction ms generalizing k with
  | nil => rfl
  | cons m ms ih => rw [numberFrom, texts_cons, ih]

@[simp] theorem length_numberFrom : (numberFrom k ms).length = ms.length := by
  rw [← List.length_map (f := MessageObject.message), ← texts, texts_numberFrom]

theorem numberFrom_append : numberFrom k (ms ++ ns) = numberFrom k ms ++ numberFrom (k + ms.length) ns := by
  induction ms generalizing k with
  | nil => rfl
  | cons m ms ih =>
      rw [List.cons_append, numberFrom, ih, numberFrom, List.cons_append, List.length_cons, Nat.add_right_comm,
        Nat.add_assoc]

theorem mem_numberFrom {m : MessageObject} (h : m ∈ numberFrom k ms) :
    m.message ∈ ms ∧ k ≤ m.identity ∧ m.identity < k + ms.length := by
  induction ms generalizing k with
  | nil => cases h
  | cons n ms ih =>
      rw [List.length_cons]
      rcases List.mem_cons.1 h with rfl | h
      · exact ⟨List.mem_cons_self, Nat.le_refl k, by simp⟩
      · obtain ⟨hmem, hle, hlt⟩ := ih h
        exact ⟨List.mem_cons_of_mem n hmem, by omega, by omega⟩

theorem pairwise_numberFrom : (numberFrom k ms).Pairwise fun m n => m.identity < n.identity := by
  induction ms generalizing k with
  | nil => exact .nil
  | cons m ms ih => exact .cons (fun n hn => (mem_numberFrom hn).2.1) ih

/-- The transcript has grown by these messages. -/
def Grows (s : ToolExecutionState) (ms : List LlmMessage) (t : ToolExecutionState) : Prop :=
  t.messages = s.messages ++ numberFrom s.objects ms ∧ t.objects = s.objects + ms.length

theorem Grows.refl (s : ToolExecutionState) : Grows s [] s := ⟨(List.append_nil _).symm, rfl⟩

theorem grows_push (s : ToolExecutionState) (m : LlmMessage) : Grows s [m] (s.push m) := ⟨rfl, rfl⟩

theorem Grows.trans (h : Grows s ms t) (h' : Grows t ns u) : Grows s (ms ++ ns) u := by
  obtain ⟨hmessages, hobjects⟩ := h
  obtain ⟨hmessages', hobjects'⟩ := h'
  constructor
  · rw [hmessages', hmessages, hobjects, numberFrom_append, List.append_assoc]
  · rw [hobjects', hobjects, List.length_append, Nat.add_assoc]

/-! ## Answered calls -/

def answeredId : LlmMessage → Option String
  | .tool toolCallId _ => some toolCallId
  | _ => none

def Answers (calls : List LlmToolCallResult) (results : List LlmMessage) : Prop :=
  results.map answeredId = calls.map fun c => some c.id

variable {calls calls' : List LlmToolCallResult} {results results' : List LlmMessage}

theorem Answers.append (h : Answers calls results) (h' : Answers calls' results') :
    Answers (calls ++ calls') (results ++ results') := by
  unfold Answers at h h' ⊢
  rw [List.map_append, List.map_append, h, h']

theorem answers_single (call : LlmToolCallResult) (output : String) : Answers [call] [.tool call.id output] := rfl

theorem Answers.isTool (h : Answers calls results) : ∀ m ∈ results, m.isTool = true := by
  intro m hm
  have hmem : answeredId m ∈ calls.map fun c => some c.id := h ▸ List.mem_map_of_mem hm
  obtain ⟨c, -, hc⟩ := List.mem_map.1 hmem
  cases m with
  | tool => rfl
  | _ => cases hc

theorem Answers.isCompleteGroup (h : Answers calls results) (f : LlmToolCallResult → LlmToolCall)
    (hf : ∀ c, (f c).id = c.id) : isCompleteGroup (calls.map f) results = true := by
  induction results generalizing calls with
  | nil =>
      cases calls with
      | nil => rfl
      | cons => cases h
  | cons m results ih =>
      cases calls with
      | nil => cases h
      | cons c calls =>
          obtain ⟨hm, htail⟩ := List.cons.inj h
          rw [List.map_cons, isCompleteGroup_cons, ih htail, Bool.and_true]
          cases m with
          | tool toolCallId content =>
              cases hm
              simp [LlmMessage.answers, hf]
          | _ => cases hm

theorem isCompleted_iff {c : LlmToolCallResult} (h : Answers calls results) :
    isCompleted (numberFrom k results) c = true ↔ c.id ∈ calls.map (·.id) := by
  have hmem : some c.id ∈ results.map answeredId ↔ c.id ∈ calls.map (·.id) := by
    rw [h]
    simp
  rw [← hmem, isCompleted, List.any_eq_true]
  constructor
  · rintro ⟨m, hm, hc⟩
    apply List.mem_map.2
    refine ⟨m.message, (mem_numberFrom hm).1, ?_⟩
    split at hc
    · rename_i heq
      rw [heq, ← of_decide_eq_true hc]
      rfl
    · cases hc
  · intro hc
    obtain ⟨m, hm, hid⟩ := List.mem_map.1 hc
    rw [← @texts_numberFrom results k] at hm
    obtain ⟨o, ho, rfl⟩ := List.mem_map.1 hm
    refine ⟨o, ho, ?_⟩
    generalize o.message = message at hid
    cases message with
    | tool toolCallId content =>
        cases hid
        exact decide_eq_true rfl
    | _ => cases hid

theorem completeTerminatedToolGroup_grows (ctx : ToolExecutionContext) (terminalCall : LlmToolCallResult)
    {before rest : List LlmToolCallResult} (hnodup : ((before ++ rest).map (·.id)).Nodup) (hgrows : Grows s results t)
    (hanswers : Answers before results) :
    ∃ skipped, Grows t skipped (completeTerminatedToolGroup ctx (before ++ rest) terminalCall s.messages.length t) ∧
      Answers rest skipped := by
  have hdrop : t.messages.drop s.messages.length = numberFrom s.objects results := by
    rw [hgrows.1, List.drop_left]
  have hrest : ((before ++ rest).filter fun c => !isCompleted (t.messages.drop s.messages.length) c) = rest := by
    rw [List.map_append, List.nodup_append] at hnodup
    rw [hdrop, List.filter_append, List.filter_eq_nil_iff.2, List.filter_eq_self.2, List.nil_append]
    · intro c hc
      rw [Bool.not_eq_true', Bool.eq_false_iff]
      exact fun h => hnodup.2.2 _ ((isCompleted_iff hanswers).1 h) _ (List.mem_map_of_mem hc) rfl
    · intro c hc
      rw [(isCompleted_iff hanswers).2 (List.mem_map_of_mem hc)]
      simp
  unfold completeTerminatedToolGroup
  dsimp only
  rw [hrest]
  clear hnodup hgrows hanswers hdrop hrest
  induction rest generalizing t with
  | nil => exact ⟨[], .refl t, rfl⟩
  | cons c rest ih =>
      rw [List.foldl_cons]
      obtain ⟨skipped, hskipped, hanswers⟩ := ih
      exact ⟨_ :: skipped, Grows.trans (grows_push _ _) hskipped, (answers_single c _).append hanswers⟩

/-! ## The calls of a response -/

theorem requireResponseCalls_nodup {host : LoopHost} {ids : List String} {entries : List Json}
    {calls : List LlmToolCallResult} (h : requireResponseCalls host ids entries = .ok calls) :
    (calls.map (·.id)).Nodup ∧ ∀ c ∈ calls, c.id ∉ ids := by
  induction entries generalizing ids calls with
  | nil =>
      cases h
      exact ⟨List.nodup_nil, nofun⟩
  | cons entry entries ih =>
      unfold requireResponseCalls at h
      split at h
      · rename_i id name members _ _ _
        split at h
        · cases h
        · rename_i hvalid
          obtain ⟨tail, htail, h⟩ := Outcome.bind_eq_ok.1 h
          cases h
          obtain ⟨hnodup, hnew⟩ := ih htail
          constructor
          · rw [List.map_cons, List.nodup_cons]
            refine ⟨fun hmem => ?_, hnodup⟩
            obtain ⟨c, hc, hid⟩ := List.mem_map.1 hmem
            exact hnew c hc (hid ▸ List.mem_cons_self)
          · intro c hc
            rcases List.mem_cons.1 hc with rfl | hc
            · exact fun hmem => hvalid (.inr (.inl hmem))
            · exact fun hmem => hnew c hc (List.mem_cons_of_mem _ hmem)
      · cases h

theorem requireLlmResponse_nodup {host : LoopHost} {value : Option Json} {response : LlmChatResponse}
    (h : requireLlmResponse host value = .ok response) : (response.toolCalls.map (·.id)).Nodup := by
  unfold requireLlmResponse at h
  obtain ⟨record, -, h⟩ := Outcome.bind_eq_ok.1 h
  split at h
  · obtain ⟨calls, hcalls, h⟩ := Outcome.bind_eq_ok.1 h
    obtain ⟨-, -, h⟩ := Outcome.bind_eq_ok.1 h
    split at h
    · cases h
    · cases h
      exact (requireResponseCalls_nodup hcalls).1
  · cases h

theorem perm_orderToolCallsForExecution (calls : List LlmToolCallResult) :
    (orderToolCallsForExecution calls).Perm calls := by
  unfold orderToolCallsForExecution
  split
  · exact List.Perm.refl _
  · have hsplit := List.filter_append_perm (fun c : LlmToolCallResult => decide (c.name ≠ "done")) calls
    simpa using hsplit

theorem orderToolCallsForExecution_nodup {calls : List LlmToolCallResult} (h : (calls.map (·.id)).Nodup) :
    ((orderToolCallsForExecution calls).map (·.id)).Nodup :=
  ((perm_orderToolCallsForExecution calls).map _).nodup_iff.2 h

theorem orderToolCallsForExecution_ne_nil {calls : List LlmToolCallResult} (h : calls ≠ []) :
    orderToolCallsForExecution calls ≠ [] := fun hnil =>
  h (List.nil_perm.1 (hnil ▸ perm_orderToolCallsForExecution calls))

def LoopRequest.isChat : LoopRequest → Bool
  | .chat _ _ => true
  | _ => false

def LoopRequest.isSilent : LoopRequest → Bool
  | .chat _ _ | .emit _ | .askUser _ | .writeHistory _ _ => false
  | _ => true

theorem LoopRequest.isChat_of_isSilent {r : LoopRequest} (h : r.isSilent = true) : r.isChat = false := by
  cases r with
  | chat => cases h
  | _ => rfl

/-- The requests of the program are as `P` says, and its value is as `post` says. -/
abbrev Yields {α : Type} (P : LoopRequest → Prop) (p : LoopProgram α) (post : α → Prop) : Prop :=
  p.AsksIf (fun _ _ => True) P post

section Calls

variable {P : LoopRequest → Prop} {ctx : ToolExecutionContext} {toolCall : LlmToolCallResult} {α : Type}

theorem yields_request_bind {r : LoopRequest} {f : r.Response → LoopProgram α} {post : α → Prop} (hr : P r)
    (hf : ∀ resp, Yields P (f resp) post) : Yields P (Program.request r >>= f) post :=
  Program.asksIf_bind_request hr fun resp _ => hf resp

theorem Yields.mono {p : LoopProgram α} {post post' : α → Prop} (h : Yields P p post) (hpost : ∀ a, post a → post' a) :
    Yields P p post' := by
  induction p with
  | done a => exact hpost a h
  | fail e => trivial
  | ask r next ih => exact ⟨h.1, fun resp hok => ih resp (h.2 resp hok)⟩

theorem Yields.asks {p : LoopProgram α} {post : α → Prop} (h : Yields P p post) :
    p.Asks P := by
  induction p with
  | done => trivial
  | fail => trivial
  | ask r next ih => exact ⟨h.1, fun resp => ih resp (h.2 resp trivial)⟩

abbrev Silent (p : LoopProgram α) : Prop := p.AsksOnly fun r => r.isSilent = true

theorem Silent.asks {p : LoopProgram α} (h : Silent p) (hP : ∀ r, r.isChat = false → P r) : p.Asks P :=
  (Program.AsksOnly.asks h).mono fun r hr => hP r (LoopRequest.isChat_of_isSilent hr)

theorem dispatchToolCall_silent (host : LoopHost) (ledger : OperationLedger) (toolCall : LlmToolCallResult) :
    Silent (dispatchToolCall host ledger toolCall) := by
  have hone : ∀ {r : LoopRequest} {f : r.Response → Dispatched}, r.isSilent = true →
      Silent (Program.request r >>= fun resp => pure (f resp)) :=
    fun hr => ⟨hr, fun _ => trivial⟩
  have hretry : ∀ recovery, Silent (retryStoredToolObservation recovery) := fun _ => hone rfl
  unfold dispatchToolCall
  split
  · trivial
  · split
    · unfold dispatchReadContentToolCall
      dsimp only
      split
      · trivial
      · exact hone rfl
    · split
      · unfold dispatchWriteContentToolCall
        dsimp only
        split
        · trivial
        · exact hone rfl
      · split
        · unfold dispatchRetryToolObservation
          split
          · trivial
          · split
            · exact hretry _
            · trivial
        · split
          · unfold dispatchExternalToolCall
            dsimp only
            split
            · exact hretry _
            · split
              · trivial
              · split
                · trivial
                · exact hone rfl
          · unfold dispatchActToolCall
            dsimp only
            split
            · trivial
            · exact hone rfl

theorem checkRunLimits_silent (host : LoopHost) (maxTimeMs : ℚ) (maxTurns turns : Nat) (startTime : ℚ)
    (s : ToolExecutionState) : Silent (checkRunLimits host maxTimeMs maxTurns turns startTime s) := by
  refine ⟨rfl, fun resp => ?_⟩
  change Program.AsksOnly _ (if _ then _ else _)
  split
  · trivial
  · split
    · trivial
    · split
      · trivial
      · trivial

theorem evaluateController_silent (state : MutableAgentLoopState) (llmDoneSignal : Bool) :
    Silent (evaluateController state llmDoneSignal) := by
  refine ⟨rfl, fun perceived => ?_⟩
  dsimp only [Program.bind]
  cases perceived.bind requirePerception with
  | error => trivial
  | ok =>
      refine ⟨rfl, fun _ => ⟨rfl, fun verdict => ?_⟩⟩
      cases verdict with
      | error => trivial
      | ok => trivial

theorem checkpointAgentLoopHistory_silent (ctx : AgentLoopExecutionContext) (state : MutableAgentLoopState) :
    Silent (checkpointAgentLoopHistory ctx state) := by
  unfold checkpointAgentLoopHistory
  split
  · trivial
  · refine ⟨rfl, fun answer => ?_⟩
    cases answer with
    | ok => trivial
    | error => trivial

theorem callBeforeTurn_silent (ctx : AgentLoopExecutionContext) (state : MutableAgentLoopState) :
    Silent (callBeforeTurn ctx state) := by
  unfold callBeforeTurn
  split
  · exact ⟨rfl, fun _ => trivial⟩
  · trivial

theorem prepareTurn_silent (ctx : AgentLoopExecutionContext) (state : MutableAgentLoopState) :
    Silent (prepareTurn ctx state) := by
  unfold prepareTurn
  apply (callBeforeTurn_silent ctx state).bind
  intro hook
  cases hook with
  | error => trivial
  | ok =>
      refine ⟨rfl, fun perceived => ?_⟩
      dsimp only [Program.bind]
      cases perceived.bind requirePerception with
      | error => trivial
      | ok =>
          refine ⟨rfl, fun available => ?_⟩
          dsimp only [Program.bind]
          cases available.bind (requireActions ctx.host) with
          | error => trivial
          | ok => trivial

theorem turnRequestFailure_silent (ctx : AgentLoopExecutionContext) (state : MutableAgentLoopState)
    (failure : ChatFailure) : Silent (turnRequestFailure ctx state failure) := by
  unfold turnRequestFailure
  dsimp only
  split
  · trivial
  · trivial
  · refine ⟨rfl, fun resp => ?_⟩
    change Program.AsksOnly _ (if _ then _ else _)
    split
    · trivial
    · trivial

def GrowsByResult (s : ToolExecutionState) (toolCall : LlmToolCallResult) (t : ToolExecutionState) : Prop :=
  ∃ output, Grows s [.tool toolCall.id output] t

theorem answerCall_yields (hP : ∀ r, r.isChat = false → P r) (ok : Bool) (output : String) :
    Yields P (answerCall ctx s toolCall ok output) (GrowsByResult s toolCall) :=
  ⟨hP _ rfl, fun _ _ => ⟨output, grows_push s _⟩⟩

def CallEnds (s : ToolExecutionState) (toolCall : LlmToolCallResult) (isLast : Bool) :
    ToolRunOutcome × ToolExecutionState → Prop
  | (.next, t) => GrowsByResult s toolCall t
  | (.doneSignaled _, t) => GrowsByResult s toolCall t ∧ isLast = true
  | (.terminal _, t) => Grows s [] t ∨ GrowsByResult s toolCall t

theorem processDoneDispatch_yields (hP : ∀ r, r.isChat = false → P r) (result : ToolDispatchResult) (isLast : Bool) :
    Yields P (processDoneDispatch ctx s toolCall result isLast) (CallEnds s toolCall isLast) := by
  unfold processDoneDispatch
  split
  · exact (answerCall_yields hP _ _).bind fun t ht => .inr ht
  · rename_i hlast
    split
    · exact (answerCall_yields hP _ _).bind fun t ht => ht
    · exact (answerCall_yields hP _ _).bind fun t ht => ⟨ht, by simpa using hlast⟩

theorem executeOneToolCall_yields (hP : ∀ r, r.isChat = false → P r) (isLast : Bool) :
    Yields P (executeOneToolCall ctx s toolCall isLast) (CallEnds s toolCall isLast) := by
  unfold executeOneToolCall
  apply Program.AsksIf.after ((checkRunLimits_silent _ _ _ _ _ _).asks hP)
  intro limitResult
  cases limitResult with
  | some limitResult => exact .inl (.refl s)
  | none =>
      apply Program.AsksIf.after (Program.asks_request (hP _ rfl))
      intro _
      apply Program.AsksIf.after ((dispatchToolCall_silent _ _ _).asks hP)
      intro dispatched
      cases dispatched with
      | error message => exact (answerCall_yields hP _ _).bind fun t ht => .inr ht
      | ok dispatched =>
          dsimp only
          split
          · refine (processDoneDispatch_yields hP _ _).mono ?_
            rintro ⟨outcome, t⟩ hends
            cases outcome with
            | _ => exact hends
          · refine (answerCall_yields hP _ _).bind fun t ht => ?_
            split
            · exact .inr ht
            · exact ht

def GrowsByGroup (s : ToolExecutionState) (calls : List LlmToolCallResult) (t : ToolExecutionState) : Prop :=
  ∃ results, Grows s results t ∧ Answers calls results

theorem executeCallsFrom_yields (hP : ∀ r, r.isChat = false → P r) {before rest : List LlmToolCallResult}
    (hnodup : ((before ++ rest).map (·.id)).Nodup) (hgrows : GrowsByGroup s before t) :
    Yields P (executeCallsFrom ctx (before ++ rest) s.messages.length rest t) fun p =>
      GrowsByGroup s (before ++ rest) p.2 := by
  induction rest generalizing before t with
  | nil =>
      rw [List.append_nil]
      exact hgrows
  | cons toolCall rest ih =>
      obtain ⟨results, hresults, hanswers⟩ := hgrows
      have hnext : ∀ {u}, GrowsByResult t toolCall u → GrowsByGroup s (before ++ [toolCall]) u := by
        rintro u ⟨output, hu⟩
        exact ⟨_, hresults.trans hu, hanswers.append (answers_single toolCall output)⟩
      have hcalls : before ++ toolCall :: rest = before ++ [toolCall] ++ rest := by simp
      refine (executeOneToolCall_yields hP _).bind ?_
      rintro ⟨outcome, u⟩ hends
      cases outcome with
      | next =>
          rw [hcalls] at hnodup ⊢
          exact ih hnodup (hnext hends)
      | doneSignaled summary =>
          obtain ⟨hu, hlast⟩ := hends
          rw [List.isEmpty_iff.1 hlast]
          exact hnext hu
      | terminal result =>
          rcases hends with hu | hu
          · have hresults := hresults.trans hu
            rw [List.append_nil] at hresults
            obtain ⟨skipped, hskipped, hskip⟩ :=
              completeTerminatedToolGroup_grows ctx toolCall hnodup hresults hanswers
            exact ⟨_, hresults.trans hskipped, hanswers.append hskip⟩
          · obtain ⟨results', hresults', hanswers'⟩ := hnext hu
            rw [hcalls] at hnodup ⊢
            obtain ⟨skipped, hskipped, hskip⟩ :=
              completeTerminatedToolGroup_grows ctx toolCall hnodup hresults' hanswers'
            exact ⟨_, hresults'.trans hskipped, hanswers'.append hskip⟩

theorem executeToolCalls_yields (hP : ∀ r, r.isChat = false → P r) {toolCalls : List LlmToolCallResult}
    (hnodup : (toolCalls.map (·.id)).Nodup) :
    Yields P (executeToolCalls ctx s toolCalls) fun p => GrowsByGroup s toolCalls p.2 :=
  @executeCallsFrom_yields s s P ctx hP [] toolCalls hnodup ⟨[], .refl s, rfl⟩

end Calls

def plainLoopHost : LoopHost where
  argumentHost := { localeCompare := fun _ _ => 0, sha256 := fun _ => "0" }
  stringify := fun _ => "null"
  print := fun _ => "0"

end Cantilune.AgentLoop
