import Cantilune.Syscall.UseTool

/-!
# What a call of a tool does

A call may be stopped at any of its waits. Wherever that is, the store has only grown, and the executions among the
call's entries are none, one after the entry that it wrote itself, or one after the entry that it found.
-/

namespace Cantilune

/-! ## Logs -/

/-- A request with the answer that came. -/
structure ToolEntry where
  request : ToolRequest
  response : request.Response

namespace ToolEntry

def isExecute (e : ToolEntry) : Bool :=
  match e with
  | ⟨.execute _ _, _⟩ => true
  | _ => false

def isUnknown (e : ToolEntry) : Bool :=
  match e with
  | ⟨.reconcile _, .ok .unknown⟩ => true
  | _ => false

def allows (key : ToolInvocationKey) (e : ToolEntry) : Bool :=
  match e with
  | ⟨.requestApproval request, .ok .allowed⟩ => request.key = key
  | _ => false

def misses (host : ContentHost) (ref : ContentRef) (e : ToolEntry) : Bool :=
  match e with
  | ⟨.get r, .error _⟩ => r = ref
  | ⟨.get r, .ok (some blob)⟩ => r = ref && (blobIntent host ref blob).isNone
  | _ => false

end ToolEntry

structure ToolCallState where
  store : ContentStore
  entries : List ToolEntry

/-- What the store may do on a request: a read and a write may fail, and a write that fails may have been done. -/
inductive StoreAnswers (host : ContentHost) : ContentStore → (r : ToolRequest) → r.Response → ContentStore → Prop where
  | get (store : ContentStore) (ref : ContentRef) : StoreAnswers host store (.get ref) (.ok (store.get? ref)) store
  | getFails (store : ContentStore) (ref : ContentRef) (message : String) :
      StoreAnswers host store (.get ref) (.error message) store
  | put (store : ContentStore) (content : StoredContent) (options : ContentPutOptions) :
      StoreAnswers host store (.put content options) (.ok (host.hasher content)) (store.put host content options)
  | putFails (store : ContentStore) (content : StoredContent) (options : ContentPutOptions) (message : String) :
      StoreAnswers host store (.put content options) (.error message) store
  | putFailsLate (store : ContentStore) (content : StoredContent) (options : ContentPutOptions) (message : String) :
      StoreAnswers host store (.put content options) (.error message) (store.put host content options)
  | requestApproval (store : ContentStore) (request : ToolApprovalRequest)
      (response : Except String ToolApprovalDecision) :
      StoreAnswers host store (.requestApproval request) response store
  | reconcile (store : ContentStore) (key : ToolInvocationKey) (response : Except String ToolReconcileResult) :
      StoreAnswers host store (.reconcile key) response store
  | execute (store : ContentStore) (toolName : String) (args : Json) (response : Except String (Option Json)) :
      StoreAnswers host store (.execute toolName args) response store
  | observe (store : ContentStore) (payloadRef : ContentRef) (response : Except String (Option Json)) :
      StoreAnswers host store (.observe payloadRef) response store

def ToolAnswers (host : ContentHost) (s : ToolCallState) (r : ToolRequest) (response : r.Response)
    (t : ToolCallState) : Prop :=
  StoreAnswers host s.store r response t.store ∧ t.entries = s.entries ++ [⟨r, response⟩]

/-! ## What is stored stays -/

variable {host : ContentHost} {s t u : ContentStore}

def StoreGrows (s t : ContentStore) : Prop := ∀ ref blob, s.get? ref = some blob → t.get? ref = some blob

theorem StoreGrows.refl (s : ContentStore) : StoreGrows s s := fun _ _ h => h

theorem StoreGrows.trans (h : StoreGrows s t) (h' : StoreGrows t u) : StoreGrows s u := fun ref blob hblob =>
  h' ref blob (h ref blob hblob)

theorem put_grows (content : StoredContent) (options : ContentPutOptions) :
    StoreGrows s (s.put host content options) := by
  intro ref blob hblob
  unfold ContentStore.put
  split
  · exact hblob
  · rename_i habsent
    have hne : ref ≠ host.hasher content := by
      rintro rfl
      exact habsent (OrdMap.has_of_get? hblob)
    rw [OrdMap.get?_set_ne _ _ hne]
    exact hblob

theorem storeAnswers_grows {r : ToolRequest} {response : r.Response} (h : StoreAnswers host s r response t) :
    StoreGrows s t := by
  cases h with
  | put => exact put_grows _ _
  | putFailsLate => exact put_grows _ _
  | _ => exact StoreGrows.refl _

theorem storeAnswers_requestApproval {request : ToolApprovalRequest} {response : Except String ToolApprovalDecision}
    (h : StoreAnswers host s (.requestApproval request) response t) : t = s := by
  cases h
  rfl

theorem storeAnswers_put {content : StoredContent} {options : ContentPutOptions} {ref : ContentRef}
    (h : StoreAnswers host s (.put content options) (.ok ref) t) : t = s.put host content options := by
  cases h
  rfl

theorem storeAnswers_get {ref : ContentRef} {response : Except String (Option ContentBlob)}
    (h : StoreAnswers host s (.get ref) response t) : t = s ∧ ∀ found, response = .ok found → found = s.get? ref := by
  cases h with
  | get => exact ⟨rfl, fun found heq => (Except.ok.inj heq).symm⟩
  | getFails => exact ⟨rfl, nofun⟩

def Holds (host : ContentHost) (key : ToolInvocationKey) (store : ContentStore) : Prop :=
  ((store.get? (intentRef host key .dispatched)).bind (blobIntent host (intentRef host key .dispatched))).isSome

/-! ## One call on its way -/

section Call

variable {principal : SyscallPrincipal} {call : ToolCall} {arguments : CanonicalArguments} {key : ToolInvocationKey}
  {output : String} {c d : ToolCallState}

abbrev ToolStops (host : ContentHost) {α : Type} (p : ToolProgram α) (s t : ToolCallState) : Prop :=
  Program.Stops (ToolAnswers host) p s t

theorem toolAnswers_grows {r : ToolRequest} {response : r.Response} (h : ToolAnswers host c r response d) :
    StoreGrows c.store d.store := storeAnswers_grows h.1

def ToolRequest.isStorage : ToolRequest → Bool
  | .put _ _ => true
  | .observe _ => true
  | _ => false

/-- Nothing but the store and the runtime was asked. -/
structure StoresOnly (c d : ToolCallState) : Prop where
  grows : StoreGrows c.store d.store
  entries : ∃ more, d.entries = c.entries ++ more ∧ ∀ e ∈ more, e.request.isStorage = true

theorem StoresOnly.refl (c : ToolCallState) : StoresOnly c c := ⟨.refl _, [], by simp, nofun⟩

theorem StoresOnly.step {b : ToolCallState} (h : StoresOnly b c) {r : ToolRequest} {response : r.Response}
    (hr : r.isStorage = true) (hanswer : ToolAnswers host c r response d) : StoresOnly b d := by
  obtain ⟨more, hmore, hall⟩ := h.entries
  refine ⟨h.grows.trans (toolAnswers_grows hanswer), more ++ [⟨r, response⟩], ?_, ?_⟩
  · rw [hanswer.2, hmore, List.append_assoc]
  · intro e he
    rcases List.mem_append.1 he with he | he
    · exact hall e he
    · cases List.mem_singleton.1 he
      exact hr

theorem storesOnly_of_asks {α : Type} {p : ToolProgram α} (hp : p.Asks fun r => r.isStorage = true)
    (h : ToolStops host p c d) : StoresOnly c d :=
  h.invariant hp (fun _ _ _ _ hr hanswer hquiet => hquiet.step hr hanswer) (.refl c)

theorem asks_put (content : StoredContent) (options : ContentPutOptions) :
    (ToolProgram.put content options).Asks fun r => r.isStorage = true :=
  ⟨rfl, fun _ => Program.asks_ofExcept⟩

theorem asks_writeIntent (status : IntentStatus) (outputRef : Option ContentRef) :
    (writeIntent host key status outputRef).Asks fun r => r.isStorage = true :=
  (asks_put _ _).bind fun _ => trivial

theorem asks_commitReconciledOutput :
    (commitReconciledOutput host principal call arguments key output).Asks fun r => r.isStorage = true := by
  refine (asks_put _ _).bind fun ref => ?_
  have hrecovery : (createObservationRecovery principal call arguments ref).Asks fun r => r.isStorage = true := by
    unfold createObservationRecovery
    split
    · trivial
    · exact (asks_put _ _).bind fun _ => trivial
  refine hrecovery.bind fun recovery => (asks_writeIntent _ _).bind fun _ =>
    Program.Asks.bind (p := ToolProgram.observe ref) ⟨rfl, fun _ => trivial⟩ fun observed => ?_
  dsimp only
  split
  · trivial
  · split
    · trivial
    · trivial

theorem stops_dispatchAndCommit (h : ToolStops host (dispatchAndCommit host principal call arguments key) c d) :
    d = c ∨ ∃ m e, StoreGrows c.store m.store ∧ m.entries = c.entries ++ [e] ∧ e.isExecute = true ∧ StoresOnly m d := by
  rcases Program.stops_bind_request h with rfl | ⟨response, m, hanswer, htail⟩
  · exact .inl rfl
  · refine .inr ⟨m, ⟨.execute call.toolName arguments.args, response⟩, toolAnswers_grows hanswer, hanswer.2, rfl, ?_⟩
    refine storesOnly_of_asks ?_ htail
    cases response with
    | error message => trivial
    | ok value =>
        dsimp only
        split
        · trivial
        · split
          · exact asks_commitReconciledOutput
          · trivial

/-- No execution. -/
def Silent (entries : List ToolEntry) : Prop := ∀ e ∈ entries, e.isExecute = false

def NoneUnknown (entries : List ToolEntry) : Prop := ∀ e ∈ entries, e.isUnknown = false

theorem isExecute_of_storage {e : ToolEntry} (h : e.request.isStorage = true) :
    e.isExecute = false ∧ e.isUnknown = false := by
  obtain ⟨request, response⟩ := e
  cases request with
  | put => exact ⟨rfl, rfl⟩
  | observe => exact ⟨rfl, rfl⟩
  | _ => cases h

theorem StoresOnly.silent (h : StoresOnly c d) :
    ∃ more, d.entries = c.entries ++ more ∧ Silent more ∧ NoneUnknown more := by
  obtain ⟨more, hmore, hall⟩ := h.entries
  exact ⟨more, hmore, fun e he => (isExecute_of_storage (hall e he)).1, fun e he => (isExecute_of_storage (hall e he)).2⟩

/-- The call has added entries among which there is no execution, or one after such a beginning. -/
inductive Adds (c d : ToolCallState) (begins : List ToolEntry → Prop) : Prop where
  | none (more : List ToolEntry) (entries : d.entries = c.entries ++ more) (silent : Silent more)
  | one (before : List ToolEntry) (e : ToolEntry) (rest : List ToolEntry)
      (entries : d.entries = c.entries ++ (before ++ e :: rest)) (silentBefore : Silent before)
      (executes : e.isExecute = true) (silentAfter : Silent rest) (begins : begins before)

theorem adds_of_quiet {begins : List ToolEntry → Prop} (h : StoresOnly c d) : Adds c d begins := by
  obtain ⟨more, hmore, hsilent, -⟩ := h.silent
  exact .none more hmore hsilent

theorem Adds.after {b : ToolCallState} {begins begins' : List ToolEntry → Prop} (h : Adds c d begins)
    {first : List ToolEntry} (hfirst : c.entries = b.entries ++ first) (hsilent : Silent first)
    (hbegins : ∀ before, begins before → begins' (first ++ before)) : Adds b d begins' := by
  have hjoin : ∀ more, Silent more → Silent (first ++ more) := fun more hmore e he => by
    rcases List.mem_append.1 he with he | he
    · exact hsilent e he
    · exact hmore e he
  cases h with
  | none more entries silent =>
      exact .none (first ++ more) (by rw [entries, hfirst, List.append_assoc]) (hjoin more silent)
  | one before e rest entries silentBefore executes silentAfter begins =>
      exact .one (first ++ before) e rest (by rw [entries, hfirst, List.append_assoc, List.append_assoc])
        (hjoin before silentBefore) executes silentAfter (hbegins before begins)

theorem dispatchAndCommit_adds (h : ToolStops host (dispatchAndCommit host principal call arguments key) c d) :
    StoreGrows c.store d.store ∧ Adds c d (· = []) := by
  rcases stops_dispatchAndCommit h with rfl | ⟨m, e, hgrows, hentries, hexecutes, hquiet⟩
  · exact ⟨.refl _, .none [] (by simp) nofun⟩
  · obtain ⟨more, hmore, hsilent, -⟩ := hquiet.silent
    refine ⟨hgrows.trans hquiet.grows, .one [] e more ?_ nofun hexecutes hsilent rfl⟩
    rw [hmore, hentries, List.nil_append, List.append_assoc, List.singleton_append]

theorem recoverDispatchedInvocation_adds {executor : ToolExecutor} {tier : ToolExecutionTier}
    (h : ToolStops host (recoverDispatchedInvocation host principal call arguments key executor tier) c d) :
    StoreGrows c.store d.store ∧ Adds c d fun before =>
      tier = .read ∨ tier = .idempotent ∧ ∃ u ∈ before, u.isUnknown = true := by
  cases tier with
  | read =>
      obtain ⟨hgrows, hadds⟩ := dispatchAndCommit_adds h
      exact ⟨hgrows, hadds.after (show c.entries = c.entries ++ [] by simp) nofun fun _ _ => .inl rfl⟩
  | nonIdempotent =>
      cases h
      exact ⟨.refl _, .none [] (by simp) nofun⟩
  | idempotent =>
      unfold recoverDispatchedInvocation at h
      dsimp only at h
      split at h
      · rcases Program.stops_bind_request h with rfl | ⟨response, m, hanswer, htail⟩
        · exact ⟨.refl _, .none [] (by simp) nofun⟩
        · have hgrows := toolAnswers_grows hanswer
          have hfirst : Silent [⟨.reconcile key, response⟩] := by
            intro e he
            cases List.mem_singleton.1 he
            rfl
          match response with
          | .error message =>
              cases htail
              exact ⟨hgrows, .none _ hanswer.2 hfirst⟩
          | .ok (.known output) =>
              have hquiet := storesOnly_of_asks asks_commitReconciledOutput htail
              have hadds : Adds m d fun _ => False := adds_of_quiet hquiet
              exact ⟨hgrows.trans hquiet.grows, hadds.after hanswer.2 hfirst fun _ => False.elim⟩
          | .ok .unknown =>
              obtain ⟨hgrows', hadds⟩ := dispatchAndCommit_adds htail
              refine ⟨hgrows.trans hgrows', hadds.after hanswer.2 hfirst fun before hbefore => .inr ⟨rfl, ?_⟩⟩
              exact ⟨_, List.mem_append_left before (List.mem_singleton_self _), rfl⟩
      · cases h
        exact ⟨.refl _, .none [] (by simp) nofun⟩

/-- What the approval leaves behind: where it is needed and given, the approver's answer. -/
structure Approval (key : ToolInvocationKey) (gated : Bool) (c d : ToolCallState) (allowed : Bool)
    (more : List ToolEntry) : Prop where
  store : d.store = c.store
  entries : d.entries = c.entries ++ more
  silent : Silent more
  noneUnknown : NoneUnknown more
  allows : allowed = true → gated = true → ∃ a ∈ more, a.allows key = true

theorem requestToolApproval_spec {approver : Option ToolApprover} {request : ToolApprovalRequest} :
    (∀ {d}, ToolStops host (requestToolApproval approver request) c d →
        ∃ more, Approval request.key (ToolApprover.gates approver request.tier) c d false more) ∧
      ∀ {d decision}, Program.Exec (ToolAnswers host) (requestToolApproval approver request) c (.ok decision) d →
        ∃ more, Approval request.key (ToolApprover.gates approver request.tier) c d
          (match decision with | .allowed => true | .denied _ => false) more := by
  have hsingle : ∀ response : Except String ToolApprovalDecision,
      Silent [⟨.requestApproval request, response⟩] ∧ NoneUnknown [⟨.requestApproval request, response⟩] := by
    intro response
    constructor <;>
      · intro e he
        cases List.mem_singleton.1 he
        rfl
  unfold requestToolApproval
  split
  · rename_i hgates
    constructor
    · intro d h
      rcases Program.stops_bind_request h with rfl | ⟨response, m, hanswer, htail⟩
      · exact ⟨[], rfl, by simp, nofun, nofun, nofun⟩
      · have hd : d = m := by
          cases response <;> (cases htail; rfl)
        subst hd
        have hstore : d.store = c.store := storeAnswers_requestApproval hanswer.1
        exact ⟨_, hstore, hanswer.2, (hsingle response).1, (hsingle response).2, nofun⟩
    · intro d decision h
      obtain ⟨response, m, hanswer, htail⟩ := Program.exec_ask.1 h
      have hstore : m.store = c.store := storeAnswers_requestApproval hanswer.1
      have hentries := hanswer.2
      match response with
      | .ok decided =>
          obtain ⟨hdecision, rfl⟩ := Program.exec_done.1 htail
          cases hdecision
          refine ⟨_, hstore, hentries, (hsingle _).1, (hsingle _).2, fun hallowed _ => ⟨_, List.mem_singleton_self _, ?_⟩⟩
          cases decision with
          | allowed => exact decide_eq_true rfl
          | denied reason => cases hallowed
      | .error message =>
          obtain ⟨hdecision, rfl⟩ := Program.exec_done.1 htail
          cases hdecision
          exact ⟨_, hstore, hentries, (hsingle _).1, (hsingle _).2, nofun⟩
  · rename_i hgates
    constructor
    · intro d h
      cases h
      exact ⟨[], rfl, by simp, nofun, nofun, nofun⟩
    · intro d decision h
      obtain ⟨hdecision, rfl⟩ := Program.exec_done.1 h
      cases hdecision
      exact ⟨[], rfl, by simp, nofun, nofun, fun _ hgated => absurd hgated hgates⟩

theorem exec_writeIntent {ref : ContentRef}
    (h : Program.Exec (ToolAnswers host) (writeIntent host key .dispatched none) c (.ok ref) d) :
    d.store.has (intentRef host key .dispatched) = true := by
  unfold writeIntent at h
  rcases Program.exec_bind.1 h with ⟨stored, m, hput, hdone⟩ | ⟨e, -, herror⟩
  · obtain ⟨-, rfl⟩ := Program.exec_done.1 hdone
    obtain ⟨response, n, hanswer, hresponse⟩ := Program.exec_ask.1 hput
    match response with
    | .error message =>
        obtain ⟨hbad, -⟩ := Program.exec_fail.1 hresponse
        cases hbad
    | .ok putRef =>
        obtain ⟨-, rfl⟩ := Program.exec_done.1 hresponse
        have hstore : d.store = c.store.put host (.json (intentText (key.intent .dispatched none)))
            { mimeType := some TOOL_INVOCATION_INTENT_MIME, createdBy := some TOOL_INVOCATION_INTENT_CREATOR } :=
          storeAnswers_put hanswer.1
        rw [hstore]
        unfold ContentStore.put
        split
        · rename_i hhas
          exact hhas
        · rw [OrdMap.has_set, intentRef]
          simp
  · cases herror

theorem storesOnly_of_exec {α : Type} {p : ToolProgram α} {out : Except String α} (hp : p.Asks fun r => r.isStorage = true)
    (h : Program.Exec (ToolAnswers host) p c out d) : StoresOnly c d :=
  h.invariant hp (fun _ _ _ _ hr hanswer hquiet => hquiet.step hr hanswer) (.refl c)

theorem exec_writeIntent_quiet {status : IntentStatus} {outputRef : Option ContentRef} {out : Except String ContentRef}
    (h : Program.Exec (ToolAnswers host) (writeIntent host key status outputRef) c out d) : StoresOnly c d :=
  storesOnly_of_exec (asks_writeIntent _ _) h

theorem has_grows {ref : ContentRef} (h : StoreGrows s t) (hs : s.has ref = true) : t.has ref = true := by
  obtain ⟨blob, hblob⟩ := OrdMap.has_iff.1 hs
  exact OrdMap.has_iff.2 ⟨blob, h ref blob hblob⟩

theorem Silent.append {first second : List ToolEntry} (h : Silent first) (h' : Silent second) :
    Silent (first ++ second) := by
  intro e he
  rcases List.mem_append.1 he with he | he
  · exact h e he
  · exact h' e he

theorem NoneUnknown.append {first second : List ToolEntry} (h : NoneUnknown first) (h' : NoneUnknown second) :
    NoneUnknown (first ++ second) := by
  intro e he
  rcases List.mem_append.1 he with he | he
  · exact h e he
  · exact h' e he

def Authorized (key : ToolInvocationKey) (gated : Bool) (entries : List ToolEntry) : Prop :=
  gated = true → ∃ a ∈ entries, a.allows key = true

theorem Authorized.mono {gated : Bool} {first second : List ToolEntry} (h : Authorized key gated first)
    (hsub : ∀ e ∈ first, e ∈ second) : Authorized key gated second := by
  intro hgated
  obtain ⟨a, ha, hallows⟩ := h hgated
  exact ⟨a, hsub a ha, hallows⟩

theorem dispatchFresh_adds {approver : Option ToolApprover} {tier : ToolExecutionTier}
    (h : ToolStops host (dispatchFresh host principal call arguments key approver tier) c d) :
    StoreGrows c.store d.store ∧
      (Holds host key d.store →
        Holds host key c.store ∨ Authorized key (ToolApprover.gates approver tier) d.entries) ∧
      Adds c d fun before => NoneUnknown before ∧ Authorized key (ToolApprover.gates approver tier) before ∧
        d.store.has (intentRef host key .dispatched) = true := by
  rcases Program.stops_bind h with hstop | ⟨decision, m, hexec, htail⟩
  · obtain ⟨more, happroval⟩ := requestToolApproval_spec.1 hstop
    refine ⟨?_, fun hholds => .inl ?_, .none more happroval.entries happroval.silent⟩
    · rw [happroval.store]
      exact .refl _
    · rwa [happroval.store] at hholds
  · obtain ⟨more, happroval⟩ := requestToolApproval_spec.2 hexec
    cases decision with
    | denied reason =>
        cases htail
        refine ⟨?_, fun hholds => .inl ?_, .none more happroval.entries happroval.silent⟩
        · rw [happroval.store]
          exact .refl _
        · rwa [happroval.store] at hholds
    | allowed =>
        have hauthorized : Authorized key (ToolApprover.gates approver tier) more := happroval.allows rfl
        have hquietly : ∀ {n : ToolCallState}, StoresOnly m n →
            StoreGrows c.store n.store ∧
              ∃ first, n.entries = c.entries ++ first ∧ Silent first ∧ NoneUnknown first ∧
                Authorized key (ToolApprover.gates approver tier) first := by
          intro n hquiet
          obtain ⟨written, hwritten, hsilent, hnone⟩ := hquiet.silent
          refine ⟨?_, more ++ written, ?_, happroval.silent.append hsilent, happroval.noneUnknown.append hnone,
            hauthorized.mono fun e he => List.mem_append_left _ he⟩
          · rw [← happroval.store]
            exact hquiet.grows
          · rw [hwritten, happroval.entries, List.append_assoc]
        rcases Program.stops_bind htail with hwriting | ⟨ref, n, hwrite, hdispatch⟩
        · obtain ⟨hgrows, first, hfirst, hsilent, -, hfirstAuthorized⟩ :=
            hquietly (storesOnly_of_asks (asks_writeIntent _ _) hwriting)
          refine ⟨hgrows, fun _ => .inr (hfirstAuthorized.mono fun e he => ?_), .none first hfirst hsilent⟩
          rw [hfirst]
          exact List.mem_append_right _ he
        · obtain ⟨hgrows, first, hfirst, hsilent, hnone, hfirstAuthorized⟩ := hquietly (exec_writeIntent_quiet hwrite)
          obtain ⟨hgrows', hadds⟩ := dispatchAndCommit_adds hdispatch
          have htaken := has_grows hgrows' (exec_writeIntent hwrite)
          have hadds' : Adds c d fun before => NoneUnknown before ∧
              Authorized key (ToolApprover.gates approver tier) before ∧
                d.store.has (intentRef host key .dispatched) = true := by
            refine hadds.after hfirst hsilent fun before hbefore => ?_
            subst hbefore
            rw [List.append_nil]
            exact ⟨hnone, hfirstAuthorized, htaken⟩
          refine ⟨hgrows.trans hgrows', fun _ => .inr (hfirstAuthorized.mono fun e he => ?_), hadds'⟩
          have hin : e ∈ n.entries := by
            rw [hfirst]
            exact List.mem_append_right _ he
          cases hadds with
          | none more entries silent =>
              rw [entries]
              exact List.mem_append_left _ hin
          | one before e rest entries silentBefore executes silentAfter begins =>
              rw [entries]
              exact List.mem_append_left _ hin

/-! ## A call -/

def Misses (host : ContentHost) (ref : ContentRef) (entries : List ToolEntry) : Prop :=
  ∃ e ∈ entries.head?, e.misses host ref = true

theorem misses_cons {ref : ContentRef} {e : ToolEntry} {more : List ToolEntry} :
    Misses host ref (e :: more) ↔ e.misses host ref = true := by
  simp [Misses]

def answeredIntent (host : ContentHost) (ref : ContentRef) :
    Except String (Option ContentBlob) → Option ToolInvocationIntent
  | .ok (some blob) => blobIntent host ref blob
  | _ => none

structure JournalRead (host : ContentHost) (ref : ContentRef) (c d : ToolCallState) (found : Option ToolInvocationIntent)
    (e : ToolEntry) : Prop where
  store : d.store = c.store
  entries : d.entries = c.entries ++ [e]
  silent : Silent [e]
  noneUnknown : NoneUnknown [e]
  finds : found.isSome → e.misses host ref = false ∧ ((c.store.get? ref).bind (blobIntent host ref)).isSome
  missed : found = none → c.store.has ref = true → e.misses host ref = true

theorem readIntent_answer {ref : ContentRef} {response : Except String (Option ContentBlob)}
    (hanswer : ToolAnswers host c (.get ref) response d) :
    JournalRead host ref c d (answeredIntent host ref response) ⟨.get ref, response⟩ := by
  obtain ⟨hstore, hfound⟩ := storeAnswers_get hanswer.1
  have hsilent : Silent [⟨.get ref, response⟩] ∧ NoneUnknown [⟨.get ref, response⟩] := by
    constructor <;>
      · intro e he
        cases List.mem_singleton.1 he
        rfl
  refine ⟨hstore, hanswer.2, hsilent.1, hsilent.2, ?_, ?_⟩
  · intro hsome
    match response with
    | .error message => cases hsome
    | .ok none => cases hsome
    | .ok (some blob) =>
        have hget := hfound _ rfl
        refine ⟨?_, ?_⟩
        · have hblob : (blobIntent host ref blob).isSome = true := hsome
          simp [ToolEntry.misses, Option.isNone_eq_false_iff.2 hblob]
        · rw [← hget]
          exact hsome
  · intro hnone hhas
    match response with
    | .error message => exact decide_eq_true rfl
    | .ok none =>
        have habsent : c.store.has ref = false := OrdMap.has_eq_false_iff.2 (hfound _ rfl).symm
        rw [habsent] at hhas
        cases hhas
    | .ok (some blob) =>
        have hblob : blobIntent host ref blob = none := hnone
        simp [ToolEntry.misses, hblob]

theorem exec_readIntent {ref : ContentRef} {found : Option ToolInvocationIntent}
    (h : Program.Exec (ToolAnswers host) (readIntent host ref) c (.ok found) d) : ∃ e, JournalRead host ref c d found e := by
  obtain ⟨response, m, hanswer, htail⟩ := Program.exec_ask.1 h
  have hread := readIntent_answer hanswer
  match response with
  | .error message =>
      obtain ⟨hfound, rfl⟩ := Program.exec_done.1 htail
      cases hfound
      exact ⟨_, hread⟩
  | .ok none =>
      obtain ⟨hfound, rfl⟩ := Program.exec_done.1 htail
      cases hfound
      exact ⟨_, hread⟩
  | .ok (some blob) =>
      obtain ⟨hfound, rfl⟩ := Program.exec_done.1 htail
      cases hfound
      exact ⟨_, hread⟩

theorem stops_readIntent {ref : ContentRef} (h : ToolStops host (readIntent host ref) c d) :
    d = c ∨ ∃ found e, JournalRead host ref c d found e := by
  rcases Program.stops_bind_request h with rfl | ⟨response, m, hanswer, htail⟩
  · exact .inl rfl
  · have hd : d = m := by
      match response with
      | .error message =>
          cases htail
          rfl
      | .ok none =>
          cases htail
          rfl
      | .ok (some blob) =>
          cases htail
          rfl
    subst hd
    exact .inr ⟨_, _, readIntent_answer hanswer⟩

/-- What the executions of one call are: none, one after its own entry, or one after the entry that it found. -/
inductive CallDoes (host : ContentHost) (key : ToolInvocationKey) (tier : ToolExecutionTier) (gated : Bool)
    (s : ContentStore) (d : ToolCallState) : Prop where
  | nothing (silent : Silent d.entries)
  | fresh (before : List ToolEntry) (e : ToolEntry) (rest : List ToolEntry) (entries : d.entries = before ++ e :: rest)
      (silentBefore : Silent before) (executes : e.isExecute = true) (silentAfter : Silent rest)
      (noneUnknown : NoneUnknown before) (authorized : Authorized key gated before)
      (taken : d.store.has (intentRef host key .dispatched) = true)
      (missed : s.has (intentRef host key .dispatched) = true → Misses host (intentRef host key .dispatched) d.entries)
  | again (before : List ToolEntry) (e : ToolEntry) (rest : List ToolEntry) (entries : d.entries = before ++ e :: rest)
      (silentBefore : Silent before) (executes : e.isExecute = true) (silentAfter : Silent rest)
      (holds : Holds host key s) (found : ¬ Misses host (intentRef host key .dispatched) d.entries)
      (known : tier = .read ∨ tier = .idempotent ∧ ∃ u ∈ before, u.isUnknown = true)

end Call

def ToolInvocation.key? (argumentHost : ArgumentHost) (invocation : ToolInvocation) : Option ToolInvocationKey :=
  (canonicalToolArguments argumentHost invocation.call.args).map fun arguments =>
    invocationKey invocation.principal invocation.call.toolName arguments.digest invocation.call.callId

def ToolInvocation.gated (invocation : ToolInvocation) : Bool :=
  match invocation.toolExecutor with
  | none => false
  | some executor => ToolApprover.gates invocation.toolApprover (executor.tierOf invocation.call.toolName)

theorem useTool_does {argumentHost : ArgumentHost} {invocation : ToolInvocation} {key : ToolInvocationKey}
    {tier : ToolExecutionTier} {d : ToolCallState}
    (h : ToolStops host (useTool host argumentHost invocation) ⟨s, []⟩ d)
    (hkey : invocation.key? argumentHost = some key)
    (htier : ∀ executor, invocation.toolExecutor = some executor → executor.tierOf invocation.call.toolName = tier) :
    StoreGrows s d.store ∧
      (Holds host key d.store → Holds host key s ∨ Authorized key invocation.gated d.entries) ∧
      CallDoes host key tier invocation.gated s d := by
  have hstill : ∀ {e : ToolCallState}, e.store = s → Silent e.entries →
      StoreGrows s e.store ∧
        (Holds host key e.store → Holds host key s ∨ Authorized key invocation.gated e.entries) ∧
        CallDoes host key tier invocation.gated s e := by
    intro e hstore hsilent
    rw [hstore]
    exact ⟨.refl s, .inl, .nothing hsilent⟩
  obtain ⟨principal, toolExecutor, call, toolApprover⟩ := invocation
  unfold useTool at h
  dsimp only at h htier
  cases toolExecutor with
  | none =>
      cases h
      exact hstill rfl nofun
  | some executor =>
      cases hcanonical : canonicalToolArguments argumentHost call.args with
      | none =>
          rw [ToolInvocation.key?, hcanonical] at hkey
          cases hkey
      | some arguments =>
          rw [ToolInvocation.key?, hcanonical] at hkey
          obtain rfl := htier executor rfl
          cases hkey
          rw [hcanonical] at h
          dsimp only at h
          split at h
          · cases h
            exact hstill rfl nofun
          split at h
          · cases h
            exact hstill rfl nofun
          rcases Program.stops_bind h with hstop | ⟨found, m, hexec, htail⟩
          · rcases stops_readIntent hstop with rfl | ⟨found, e, hread⟩
            · exact hstill rfl nofun
            · refine hstill hread.store ?_
              rw [hread.entries]
              exact hread.silent
          · obtain ⟨e, hread⟩ := exec_readIntent hexec
            have hentries : m.entries = [e] := hread.entries
            cases found with
            | some intent =>
                obtain ⟨hgrows, hadds⟩ := recoverDispatchedInvocation_adds htail
                obtain ⟨hfound, hholds⟩ := hread.finds rfl
                rw [hread.store] at hgrows
                refine ⟨hgrows, fun _ => .inl hholds, ?_⟩
                cases hadds with
                | none more entries silent =>
                    rw [hentries] at entries
                    exact .nothing (entries ▸ hread.silent.append silent)
                | one before x rest entries silentBefore executes silentAfter begins =>
                    rw [hentries] at entries
                    refine .again (e :: before) x rest entries (hread.silent.append silentBefore) executes silentAfter
                      hholds ?_ ?_
                    · rw [entries, List.singleton_append, misses_cons, hfound]
                      exact Bool.false_ne_true
                    · rcases begins with hread' | ⟨htier, u, hu, hunknown⟩
                      · exact .inl hread'
                      · exact .inr ⟨htier, u, List.mem_cons_of_mem _ hu, hunknown⟩
            | none =>
                obtain ⟨hgrows, hwrites, hadds⟩ := dispatchFresh_adds htail
                rw [hread.store] at hgrows hwrites
                refine ⟨hgrows, hwrites, ?_⟩
                cases hadds with
                | none more entries silent =>
                    rw [hentries] at entries
                    exact .nothing (entries ▸ hread.silent.append silent)
                | one before x rest entries silentBefore executes silentAfter begins =>
                    rw [hentries] at entries
                    refine .fresh (e :: before) x rest entries (hread.silent.append silentBefore) executes silentAfter
                      (hread.noneUnknown.append begins.1) (begins.2.1.mono fun a ha => List.mem_cons_of_mem _ ha)
                      begins.2.2 fun hhas => ?_
                    rw [entries, List.singleton_append, misses_cons]
                    exact hread.missed rfl hhas

end Cantilune
