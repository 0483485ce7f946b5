import Cantilune.ControlPlane.TranscriptAccess

/-!
# The states of an access request

A decision is checked against the record it is about. Where that is the stored record the status moves along
the state machine; where the caller hands in a record, the stored one under its id is replaced unseen.
-/

namespace Cantilune

theorem canTransitionAccess_self (status : TranscriptAccessStatus) : canTransitionAccess status status = true := by
  cases status <;> rfl

theorem canTransitionAccess_final {a b : TranscriptAccessStatus} (ha : a = .denied ∨ a = .revoked)
    (h : canTransitionAccess a b = true) : b = a := by
  rcases ha with rfl | rfl <;> cases b <;> first | rfl | cases h

/-- What is stored under an id stays stored, with a status that the machine allows. -/
def FollowsAccess (before after : Option TranscriptAccessRequest) : Prop :=
  ∀ b, before = some b → ∃ a, after = some a ∧ canTransitionAccess b.status a.status = true

theorem FollowsAccess.refl (request : Option TranscriptAccessRequest) : FollowsAccess request request :=
  fun b hb => ⟨b, hb, canTransitionAccess_self b.status⟩

def PermitsDecision (request : TranscriptAccessRequest) (decidedBy : CallerRef) (status : TranscriptAccessStatus) :
    Prop :=
  JsString.trim decidedBy.actorId ≠ "" ∧ (decidedBy.actorRef?).isSome ∧
    canDecideTranscriptAccess request decidedBy.actorId = true ∧ canTransitionAccess request.status status = true

theorem decideTranscriptAccess_ok_iff {request : TranscriptAccessRequest} {decidedBy : CallerRef}
    {status : TranscriptAccessStatus} :
    (∃ decision, decideTranscriptAccess request decidedBy status = .ok decision) ↔
      PermitsDecision request decidedBy status := by
  unfold decideTranscriptAccess PermitsDecision requireNonEmpty requireActorKind
  by_cases hblank : JsString.trim decidedBy.actorId = ""
  · simp [hblank, Bind.bind, Except.bind]
  · cases hkind : decidedBy.actorRef? with
    | none => simp [hblank, Bind.bind, Except.bind]
    | some ref =>
        cases canDecideTranscriptAccess request decidedBy.actorId <;>
          cases canTransitionAccess request.status status <;> simp [hblank, Bind.bind, Except.bind]

theorem decideTranscriptAccess_request {request : TranscriptAccessRequest} {decidedBy : CallerRef}
    {status : TranscriptAccessStatus} {decision : TranscriptAccessDecision}
    (h : decideTranscriptAccess request decidedBy status = .ok decision) :
    decision.request.requestId = request.requestId ∧ decision.request.status = status := by
  unfold decideTranscriptAccess at h
  obtain ⟨_, -, h⟩ := Outcome.bind_eq_ok.1 h
  obtain ⟨decider, -, h⟩ := Outcome.bind_eq_ok.1 h
  split at h
  · cases h
  · split at h
    · cases h
    · cases h
      exact ⟨rfl, rfl⟩

theorem requestTranscriptAccess_requestId {input : RequestTranscriptAccessInput} {created : TranscriptAccessRequest}
    (h : requestTranscriptAccess input = .ok created) : created.requestId = input.requestId := by
  unfold requestTranscriptAccess at h
  obtain ⟨_, -, h⟩ := Outcome.bind_eq_ok.1 h
  obtain ⟨_, -, h⟩ := Outcome.bind_eq_ok.1 h
  obtain ⟨requester, -, h⟩ := Outcome.bind_eq_ok.1 h
  obtain ⟨_, -, h⟩ := Outcome.bind_eq_ok.1 h
  obtain ⟨_, -, h⟩ := Outcome.bind_eq_ok.1 h
  cases h
  rfl

/-! ## One call -/

def StoredPermits (workflow : TranscriptAccessWorkflow) : TranscriptAccessCall → Prop
  | .decide input => ∀ request, input.request = some request →
      PermitsDecision request input.decidedBy input.status →
        ∀ stored, workflow.requests.get? request.requestId = some stored →
          canTransitionAccess stored.status input.status = true
  | _ => True

def FollowsMachine (s t : TranscriptAccessWorkflow) : Prop :=
  ∀ id, FollowsAccess (s.requests.get? id) (t.requests.get? id)

variable {s t : TranscriptAccessWorkflow}

theorem followsMachine_of_requests_eq (h : t.requests = s.requests) : FollowsMachine s t := by
  intro id
  rw [h]
  exact .refl _

theorem followsMachine_set {request : TranscriptAccessRequest} :
    FollowsMachine s { s with requests := s.requests.set request.requestId request } ↔
      ∀ stored, s.requests.get? request.requestId = some stored →
        canTransitionAccess stored.status request.status = true := by
  constructor
  · intro h stored hstored
    obtain ⟨after, hafter, hmove⟩ := h request.requestId stored hstored
    rw [OrdMap.get?_set_self] at hafter
    cases hafter
    exact hmove
  · intro h id
    by_cases hid : id = request.requestId
    · subst hid
      intro stored hstored
      exact ⟨request, OrdMap.get?_set_self _ _ _, h stored hstored⟩
    · rw [OrdMap.get?_set_ne _ _ hid]
      exact .refl _

theorem requestTranscriptAccess_cases (s : TranscriptAccessWorkflow) (input : RequestTranscriptAccessInput) :
    (s.requestTranscriptAccess input).2 = s ∨
      ∃ created, s.requests.get? created.requestId = none ∧
        (s.requestTranscriptAccess input).2 =
          { s with requests := s.requests.set created.requestId created } := by
  unfold TranscriptAccessWorkflow.requestTranscriptAccess
  by_cases hhas : s.requests.has input.requestId = true
  · exact .inl (by rw [if_pos hhas])
  rw [if_neg hhas]
  by_cases hregistry : s.registry.any fun registry => registry.has input.subjectNamespaceId = false
  · exact .inl (by rw [if_pos hregistry])
  rw [if_neg hregistry]
  cases hcreated : requestTranscriptAccess input with
  | error violation => exact .inl rfl
  | ok created =>
      refine .inr ⟨created, ?_, rfl⟩
      rw [requestTranscriptAccess_requestId hcreated]
      exact OrdMap.has_eq_false_iff.1 (Bool.eq_false_iff.2 hhas)

theorem decideTranscriptAccess_cases (s : TranscriptAccessWorkflow) (input : DecideTranscriptAccessInput) :
    ((s.decideTranscriptAccess input).2 = s ∧
        ∀ request, input.request = some request → ¬ PermitsDecision request input.decidedBy input.status) ∨
      ∃ current decided, s.current input = some current ∧
        PermitsDecision current input.decidedBy input.status ∧ decided.requestId = current.requestId ∧
        decided.status = input.status ∧
        (s.decideTranscriptAccess input).2 =
          { s with requests := s.requests.set decided.requestId decided } := by
  cases hcurrent : s.current input with
  | none =>
      refine .inl ⟨by rw [TranscriptAccessWorkflow.decideTranscriptAccess, hcurrent], fun request hown => ?_⟩
      rw [TranscriptAccessWorkflow.current, hown] at hcurrent
      cases hcurrent
  | some current =>
      cases hdecide : decideTranscriptAccess current input.decidedBy input.status with
      | error violation =>
          refine .inl ⟨by rw [TranscriptAccessWorkflow.decideTranscriptAccess, hcurrent]; simp only [hdecide], ?_⟩
          intro request hown hpermits
          rw [TranscriptAccessWorkflow.current, hown] at hcurrent
          cases hcurrent
          obtain ⟨decision, hok⟩ := decideTranscriptAccess_ok_iff.2 hpermits
          rw [hdecide] at hok
          cases hok
      | ok decision =>
          obtain ⟨hid, hstatus⟩ := decideTranscriptAccess_request hdecide
          refine .inr ⟨current, decision.request, rfl, decideTranscriptAccess_ok_iff.1 ⟨decision, hdecide⟩, hid,
            hstatus, ?_⟩
          rw [TranscriptAccessWorkflow.decideTranscriptAccess, hcurrent]
          simp only [hdecide]

theorem requestTranscriptAccess_follows (input : RequestTranscriptAccessInput) :
    FollowsMachine s (s.requestTranscriptAccess input).2 := by
  rcases requestTranscriptAccess_cases s input with heq | ⟨created, hfresh, heq⟩
  · rw [heq]
    exact followsMachine_of_requests_eq rfl
  · rw [heq]
    refine followsMachine_set.2 fun stored hstored => ?_
    rw [hfresh] at hstored
    cases hstored

/-- Every request is stored under its own id. -/
def Keyed (workflow : TranscriptAccessWorkflow) : Prop :=
  workflow.requests.ForAll fun id request => request.requestId = id

theorem keyed_set {request : TranscriptAccessRequest} (hs : Keyed s) :
    Keyed { s with requests := s.requests.set request.requestId request } := by
  intro id stored hget
  simp only [OrdMap.get?_set] at hget
  split at hget
  · rename_i hid
    cases hget
    exact hid.symm
  · exact hs id stored hget

theorem decideTranscriptAccess_follows_iff (hs : Keyed s) (input : DecideTranscriptAccessInput) :
    FollowsMachine s (s.decideTranscriptAccess input).2 ↔ StoredPermits s (.decide input) := by
  rcases decideTranscriptAccess_cases s input with
    ⟨heq, hrefused⟩ | ⟨current, decided, hcurrent, hpermits, hid, hstatus, heq⟩
  · rw [heq]
    refine iff_of_true (followsMachine_of_requests_eq rfl) fun request hown hpermits => ?_
    exact absurd hpermits (hrefused request hown)
  · rw [heq, followsMachine_set, hid, hstatus]
    unfold TranscriptAccessWorkflow.current at hcurrent
    cases hown : input.request with
    | some request =>
        rw [hown] at hcurrent
        cases hcurrent
        refine ⟨fun h request heq _ => ?_, fun h => h _ hown hpermits⟩
        rw [hown] at heq
        cases heq
        exact h
    | none =>
        rw [hown] at hcurrent
        obtain ⟨id, -, hget⟩ := Option.bind_eq_some_iff.1 hcurrent
        refine iff_of_true (fun stored hstored => ?_) fun request heq => ?_
        · -- the record decided is the stored one
          rw [hs id current hget] at hstored
          cases hget.symm.trans hstored
          exact hpermits.2.2.2
        · rw [hown] at heq
          cases heq

namespace TranscriptAccessCall

variable {localeCompare : LocaleCompare} {call : TranscriptAccessCall}

theorem step_keyed (h : Step localeCompare s call t) (hs : Keyed s) : Keyed t := by
  cases h
  cases call with
  | request input =>
      show Keyed (s.requestTranscriptAccess input).2
      rcases requestTranscriptAccess_cases s input with heq | ⟨created, -, heq⟩
      · rw [heq]
        exact hs
      · rw [heq]
        exact keyed_set hs
  | decide input =>
      show Keyed (s.decideTranscriptAccess input).2
      rcases decideTranscriptAccess_cases s input with ⟨heq, -⟩ | ⟨current, decided, -, -, -, -, heq⟩
      · rw [heq]
        exact hs
      · rw [heq]
        exact keyed_set hs
  | «namespace» call => exact hs

theorem step_follows_iff (hs : Keyed s) (h : Step localeCompare s call t) :
    FollowsMachine s t ↔ StoredPermits s call := by
  cases h
  cases call with
  | request input => exact iff_of_true (requestTranscriptAccess_follows input) trivial
  | decide input => exact decideTranscriptAccess_follows_iff hs input
  | «namespace» call => exact iff_of_true (followsMachine_of_requests_eq rfl) trivial

end TranscriptAccessCall

/-! ## Runs -/

theorem final_of_follows {localeCompare : LocaleCompare} {calls : List TranscriptAccessCall}
    {id : TranscriptAccessRequestId} {status : TranscriptAccessStatus} (hfinal : status = .denied ∨ status = .revoked)
    (r : Run (TranscriptAccessCall.Step localeCompare) s calls t)
    (hfollows : Run.Every (TranscriptAccessCall.Step localeCompare) (fun m _ m' => FollowsMachine m m') s calls)
    (hs : ∃ request, s.requests.get? id = some request ∧ request.status = status) :
    ∃ request, t.requests.get? id = some request ∧ request.status = status := by
  refine r.invariant_of_every hfollows
    (I := fun m => ∃ request, m.requests.get? id = some request ∧ request.status = status) ?_ hs
  rintro m call m' - hmove ⟨request, hget, rfl⟩
  obtain ⟨after, hafter, hcan⟩ := hmove id request hget
  exact ⟨after, hafter, canTransitionAccess_final hfinal hcan⟩

/-- Along a run from the empty workflow the stored statuses move along the machine if and only if each
decision that hands in its own record, and that this record permits, is permitted by the stored record of the
same id too; in such a run a denied or revoked request stays so. -/
theorem access_requests_follow_machine_iff (localeCompare : LocaleCompare) (registry : Option NamespaceRegistry)
    (calls : List TranscriptAccessCall) :
    (Run.Every (TranscriptAccessCall.Step localeCompare) (fun m _ m' => FollowsMachine m m') (.create registry) calls ↔
      Run.Every (TranscriptAccessCall.Step localeCompare) (fun m call _ => StoredPermits m call) (.create registry)
        calls) ∧
    (Run.Every (TranscriptAccessCall.Step localeCompare) (fun m call _ => StoredPermits m call) (.create registry)
        calls →
      ∀ pre post m t id request, calls = pre ++ post →
        Run (TranscriptAccessCall.Step localeCompare) (.create registry) pre m →
        Run (TranscriptAccessCall.Step localeCompare) m post t →
        m.requests.get? id = some request → request.status = .denied ∨ request.status = .revoked →
        ∃ after, t.requests.get? id = some after ∧ after.status = request.status) := by
  have hkeyed : Keyed (.create registry) := by
    intro id request hget
    cases hget
  have hiff : Run.Every (TranscriptAccessCall.Step localeCompare) (fun m _ m' => FollowsMachine m m')
      (.create registry) calls ↔ _ :=
    Run.every_congr (I := Keyed) (fun _ _ _ => TranscriptAccessCall.step_keyed) hkeyed
      fun _ _ _ => TranscriptAccessCall.step_follows_iff
  refine ⟨hiff, ?_⟩
  rintro hpermits pre post m t id request rfl hpre hpost hget hfinal
  refine final_of_follows hfinal hpost ?_ ⟨request, hget, rfl⟩
  intro mid call rest n n' heq hrun hstep
  exact hiff.2 hpermits (pre ++ mid) call rest n n' (by rw [heq, List.append_assoc]) (hpre.append hrun) hstep

/-- A request of `bob` to read `ada`. -/
def sampleRequest : RequestTranscriptAccessInput :=
  { requestId := "req-1", requester := { actorId := "bob", kind := "agent" }, subjectActorId := "ada"
    subjectNamespaceId := "default" }

/-- The decision of `ada` about the request of that id, or about the record handed in. -/
def sampleDecision (status : TranscriptAccessStatus) (request : Option TranscriptAccessRequest) :
    DecideTranscriptAccessInput :=
  { decidedBy := { actorId := "ada", kind := "agent" }, status, requestId := some "req-1", request }

/-- The subject denies a request; the record as it was before, handed in with a second decision, is approved
and stored. -/
theorem denied_request_approved_from_stale_record :
    ¬ ∀ (localeCompare : LocaleCompare) (calls : List TranscriptAccessCall),
        Run.Every (TranscriptAccessCall.Step localeCompare) (fun m _ m' => FollowsMachine m m') (.create none)
          calls := by
  intro hall
  have hstep := hall (fun _ _ => 0)
    [.request sampleRequest, .decide (sampleDecision .denied none),
      .decide (sampleDecision .approved
        (some (transcriptAccessRequest "req-1" { actorId := "bob", kind := .agent } "ada" "default")))]
    [.request sampleRequest, .decide (sampleDecision .denied none)] _ [] _ _ rfl
    (.cons rfl (.cons rfl (.nil _))) rfl
  obtain ⟨after, hafter, hmove⟩ := hstep "req-1"
    { transcriptAccessRequest "req-1" { actorId := "bob", kind := .agent } "ada" "default" with
      status := .denied, decidedBy := some { actorId := "ada", kind := .agent } } (by decide)
  revert hmove
  revert after
  decide

end Cantilune
