import Cantilune.Theorems.CommitRecovery

/-!
# What a rejected commit leaves in the store

A commit is checked before and after it has used up the prepared admission that it names. What is rejected behind
that point has written, although the runtime was never called.
-/

namespace Cantilune

open ControlPlaneProgram

variable {R : Type} {host : ControlPlaneHost} {port : RuntimePort R} {clock : Nat → Nat}

/-! ## A call with its readings of the clock -/

structure CallProgress (R : Type) where
  world : ControlPlaneWorld R
  readings : Nat
  calledRuntime : Bool

def CallProgress.start (world : ControlPlaneWorld R) : CallProgress R :=
  { world, readings := 0, calledRuntime := false }

namespace ControlPlaneRequest

def callsRuntime : ControlPlaneRequest → Bool
  | prepareEpochTransition _ | commitEpochTransition _ | recoverEpochTransition _ => true
  | _ => false

variable (host port clock) in
def Progresses (s : CallProgress R) : (r : ControlPlaneRequest) → r.Response → CallProgress R → Prop
  | now, time, t => time = clock s.readings ∧ t = { s with readings := s.readings + 1 }
  | r, resp, t => r.Answers host port s.world resp t.world ∧ t.readings = s.readings ∧
      t.calledRuntime = (s.calledRuntime || r.callsRuntime)

variable {r : ControlPlaneRequest} {resp : r.Response} {s t : CallProgress R}

theorem Progresses.answers (h : r.Progresses host port clock s resp t) : r.Answers host port s.world resp t.world := by
  cases r with
  | now =>
      obtain ⟨-, rfl⟩ := h
      rfl
  | _ => exact h.1

theorem Progresses.calledRuntime (h : r.Progresses host port clock s resp t) :
    t.calledRuntime = (s.calledRuntime || r.callsRuntime) := by
  cases r with
  | now =>
      obtain ⟨-, rfl⟩ := h
      exact (Bool.or_false _).symm
  | _ => exact h.2.2

end ControlPlaneRequest

abbrev Progress {α : Type} (host : ControlPlaneHost) (port : RuntimePort R) (clock : Nat → Nat)
    (p : ControlPlaneProgram α) (s : CallProgress R) (out : Except ControlPlaneError α) (t : CallProgress R) : Prop :=
  Program.Exec (fun s r resp t => ControlPlaneRequest.Progresses host port clock s r resp t) p s out t

def RejectionKeepsStore {α : Type} (out : Except ControlPlaneError α) (s t : CallProgress R) : Prop :=
  ∀ violation, out = .error (.violation violation) → t.calledRuntime = false → t.world.store = s.world.store

structure TakesToken (host : ControlPlaneHost) (store : ControlPlaneStore) (command : CommitSchemaAdmissionCommand)
    (authorizedAt : Nat) (record : SchemaAdmissionRecord) (active : SchemaEpochBinding)
    (token : PreparedAdmissionRecord) : Prop where
  notFrozen : store.frozen = false
  stored : store.admissions.get? command.admissionId = some record
  prepared : record.state = .prepared
  bound : store.activeBindings.get? record.request.activationDomainId = some active
  evidence : ∃ qualification authorization subject, record.qualification = some qualification ∧
    record.authorization = some authorization ∧ buildAdmissionEvidenceSubject record active = some subject ∧
    verifyAuthorization host subject qualification authorization (administrationActorId command.context)
      authorizedAt = .ok ()
  named : store.preparedAdmissions.get? command.preparedHandle.preparedId = some token
  unconsumed : token.consumed = false

def DecisionBlocks (store : ControlPlaneStore) (admissionId : SchemaAdmissionId) : Prop :=
  ∃ decision, store.commitDecisions.get? admissionId = some decision ∧
    (decision.status = .finalized ∧ store.commitReceipts.get? admissionId = none ∨
      decision.status = .runtimeApplied ∧ decision.runtimeAfterRef = none)

/-- The token is for this commit, and nothing is in the way of the runtime: it may still be that the target epoch does
not advance, where the commit throws. -/
structure TokenServes (host : ControlPlaneHost) (store : ControlPlaneStore) (admissionId : SchemaAdmissionId)
    (checkedAt : Nat) (active : SchemaEpochBinding) (token : PreparedAdmissionRecord) : Prop where
  admission : token.admissionId = admissionId
  unexpired : ((host.dateParse token.expiresAt).any fun expiresAt => expiresAt < checkedAt) = false
  generation : token.expectedBindingGeneration = active.bindingGeneration
  decision : active.epochOrdinal < token.toEpochOrdinal → ¬ DecisionBlocks store admissionId

/-! ## The runtime is called -/

section Runtime
variable {α : Type} {p : ControlPlaneProgram α} {s t : CallProgress R} {out : Except ControlPlaneError α}

theorem Progress.calledRuntime (h : Progress host port clock p s out t) (hs : s.calledRuntime = true) :
    t.calledRuntime = true :=
  h.keeps (I := fun s => s.calledRuntime = true)
    (fun s r resp t hstep hs => by rw [hstep.calledRuntime, hs, Bool.true_or]) hs

theorem Progress.keepsStore (h : Progress host port clock p s out t)
    (hp : p.AsksUntil (fun r => r.callsRuntime = true) fun r => r.keepsStore = true) :
    t.calledRuntime = true ∨ t.world.store = s.world.store := by
  refine h.invariant_until (fun t => t.calledRuntime = true) (fun t => t.world.store = s.world.store) hp ?_ ?_ ?_ rfl
  · intro s r resp t hr hstep
    rw [hstep.calledRuntime, hr, Bool.or_true]
  · intro s r resp t hstep hs
    rw [hstep.calledRuntime, hs, Bool.true_or]
  · intro m r resp t hr hstep hm
    exact (r.answers_keepsStore hstep.answers hr).trans hm

theorem asksUntil_checked {stop P : ControlPlaneRequest → Prop} {x : Except ControlPlaneViolation α} :
    (checked x).AsksUntil stop P := by
  cases x <;> trivial

theorem asksUntil_orRefuse {stop P : ControlPlaneRequest → Prop} {x : Option α} {violation : ControlPlaneViolation} :
    (orRefuse x violation).AsksUntil stop P := by
  cases x <;> trivial

theorem asksUntil_ask {stop P : ControlPlaneRequest → Prop} {r : ControlPlaneRequest} (h : stop r ∨ P r) :
    (ask r).AsksUntil stop P := Program.asksUntil_request h

theorem recoverForwardCommit_asksUntil {admissionId : SchemaAdmissionId} :
    (recoverForwardCommit host admissionId).AsksUntil (fun r => r.callsRuntime = true)
      fun r => r.keepsStore = true := by
  unfold recoverForwardCommit
  refine .bind (asksUntil_ask (.inr rfl)) fun found => .bind asksUntil_orRefuse fun decision => ?_
  refine .bind asksUntil_orRefuse fun toBinding => .bind ?_ fun finished => ?_
  · unfold finishedReceipt
    split
    · exact asksUntil_ask (.inr rfl)
    · trivial
  · cases finished with
    | some receipt => trivial
    | none =>
        refine .bind asksUntil_checked fun _ => .bind (asksUntil_ask (.inr rfl)) fun found => ?_
        refine .bind asksUntil_orRefuse fun record => .bind (asksUntil_ask (.inr rfl)) fun binding => ?_
        exact .bind asksUntil_orRefuse fun active => .inl rfl

end Runtime

/-! ## The steps of a commit -/

section Steps
variable {α : Type} {s t : CallProgress R} {out : Except ControlPlaneError α}

def ControlPlaneRequest.reads : ControlPlaneRequest → Bool
  | .isFrozen | .getActiveBinding _ | .getAdmission _ | .getCommitDecision _ | .getCommitReceipt _ => true
  | _ => false

theorem progress_bind_read {r : ControlPlaneRequest} {f : r.Response → ControlPlaneProgram α} (hr : r.reads = true)
    (h : Progress host port clock (ask r >>= f) s out t) :
    ∃ resp, r.Answers host port s.world resp s.world ∧ Progress host port clock (f resp) s out t := by
  obtain ⟨resp, m, hstep, htail⟩ := exec_bind_ask.1 h
  have hworld : m.world = s.world := by
    cases r with
    | isFrozen | getActiveBinding | getAdmission | getCommitDecision | getCommitReceipt => exact hstep.1.2
    | _ => cases hr
  have hreadings : m.readings = s.readings := by
    cases r with
    | now => cases hr
    | _ => exact hstep.2.1
  have hcalled : m.calledRuntime = s.calledRuntime := by
    rw [hstep.calledRuntime]
    cases r with
    | isFrozen | getActiveBinding | getAdmission | getCommitDecision | getCommitReceipt => exact Bool.or_false _
    | _ => cases hr
  have hm : m = s := by
    cases m
    cases s
    simp_all only
  rw [hm] at htail
  have hanswers := hstep.answers
  rw [hm] at hanswers
  exact ⟨resp, hanswers, htail⟩

theorem progress_bind_now {f : Nat → ControlPlaneProgram α} (h : Progress host port clock (ask .now >>= f) s out t) :
    Progress host port clock (f (clock s.readings)) { s with readings := s.readings + 1 } out t := by
  obtain ⟨time, m, ⟨rfl, rfl⟩, h⟩ := exec_bind_ask.1 h
  exact h

theorem progress_bind_runtime {r : ControlPlaneRequest} {f : r.Response → ControlPlaneProgram α}
    (hr : r.callsRuntime = true) (h : Progress host port clock (ask r >>= f) s out t) : t.calledRuntime = true := by
  obtain ⟨resp, m, hstep, htail⟩ := exec_bind_ask.1 h
  have hcalled : m.calledRuntime = true := by rw [hstep.calledRuntime, hr, Bool.or_true]
  exact Progress.calledRuntime htail hcalled

theorem progress_refuse {violation : ControlPlaneViolation}
    (h : Progress host port clock (refuse violation : ControlPlaneProgram α) s out t) :
    out = .error (.violation violation) ∧ t = s := Program.exec_fail.1 h

def PassesOn (out : Except ControlPlaneError α) (t : CallProgress R) : Prop :=
  t.calledRuntime = true ∨ ∀ violation, out ≠ .error (.violation violation)

/-- The call is rejected without the runtime, and leaves the store alone. -/
structure Rejects (out : Except ControlPlaneError α) (s t : CallProgress R) : Prop where
  violation : ∃ violation, out = .error (.violation violation)
  store : t.world.store = s.world.store
  uncalled : t.calledRuntime = s.calledRuntime

def StatusBlocks (decision : CommitDecisionRecord) : Prop :=
  decision.status = .finalized ∨ decision.status = .runtimeApplied ∧ decision.runtimeAfterRef = none

theorem resolveRuntimeReceipt_progress {input : CommitAdmissionTransactionInput} {decision : CommitDecisionRecord}
    {toBinding : SchemaEpochBinding} {f : RuntimeEpochReceipt × CommitDecisionRecord → ControlPlaneProgram α}
    (h : Progress host port clock (resolveRuntimeReceipt host input decision toBinding >>= f) s out t) :
    StatusBlocks decision ∧ Rejects out s t ∨ ¬ StatusBlocks decision ∧ t.calledRuntime = true := by
  unfold resolveRuntimeReceipt at h
  by_cases happlied : decision.status = .runtimeApplied ∧ decision.runtimeAfterRef.isSome
  · rw [if_pos happlied] at h
    refine .inr ⟨?_, progress_bind_runtime (r := .recoverEpochTransition input.admissionId) rfl h⟩
    rintro (hstatus | ⟨-, hnone⟩)
    · cases happlied.1.symm.trans hstatus
    · rw [hnone] at happlied
      cases happlied.2
  · rw [if_neg happlied] at h
    by_cases hopen : decision.status = .decided ∨ decision.status = .recoveryRequired
    · rw [if_pos hopen] at h
      refine .inr ⟨?_, progress_bind_runtime (r := .commitEpochTransition _) rfl h⟩
      rintro (hstatus | ⟨hstatus, -⟩)
      · rw [hstatus] at hopen
        rcases hopen with hopen | hopen <;> cases hopen
      · rw [hstatus] at hopen
        rcases hopen with hopen | hopen <;> cases hopen
    · rw [if_neg hopen] at h
      obtain ⟨rfl, rfl⟩ := progress_refuse h
      refine .inl ⟨?_, ⟨_, rfl⟩, rfl, rfl⟩
      cases hstatus : decision.status with
      | decided => exact absurd (.inl hstatus) hopen
      | recoveryRequired => exact absurd (.inr hstatus) hopen
      | finalized => exact .inl hstatus
      | runtimeApplied =>
          refine .inr ⟨hstatus, ?_⟩
          cases hafter : decision.runtimeAfterRef with
          | none => rfl
          | some ref => exact absurd ⟨hstatus, by rw [hafter]; rfl⟩ happlied

def TransactionBlocks (input : CommitAdmissionTransactionInput) (store : ControlPlaneStore) : Prop :=
  input.active.epochOrdinal < input.preparedRecord.toEpochOrdinal ∧ DecisionBlocks store input.admissionId

theorem transactionBinding_ok {input : CommitAdmissionTransactionInput} {time : Timestamp}
    {binding : SchemaEpochBinding} (h : transactionBinding input time = .ok binding) :
    input.active.epochOrdinal < input.preparedRecord.toEpochOrdinal := by
  unfold transactionBinding createNextBinding at h
  by_contra hordinal
  rw [if_pos (Nat.not_lt.1 hordinal)] at h
  cases h

theorem transactionBinding_error {input : CommitAdmissionTransactionInput} {time : Timestamp} {message : String}
    (h : transactionBinding input time = .error message) :
    ¬ input.active.epochOrdinal < input.preparedRecord.toEpochOrdinal := by
  unfold transactionBinding createNextBinding at h
  intro hordinal
  rw [if_neg (Nat.not_le.2 hordinal)] at h
  cases h

theorem decided_progress {input : CommitAdmissionTransactionInput} {decision : CommitDecisionRecord}
    {toBinding : SchemaEpochBinding} {f : RuntimeEpochReceipt × CommitDecisionRecord → ControlPlaneProgram α}
    (h : Progress host port clock
      (if decision.status = .decided then
        ask (.putCommitDecision decision) >>= fun _ => resolveRuntimeReceipt host input decision toBinding >>= f
      else resolveRuntimeReceipt host input decision toBinding >>= f) s out t) :
    StatusBlocks decision ∧ Rejects out s t ∨ ¬ StatusBlocks decision ∧ t.calledRuntime = true := by
  by_cases hdecided : decision.status = .decided
  · rw [if_pos hdecided] at h
    obtain ⟨⟨⟩, m, -, h⟩ := exec_bind_ask.1 h
    have hnot : ¬ StatusBlocks decision := by
      rintro (hstatus | ⟨hstatus, -⟩) <;> cases hdecided.symm.trans hstatus
    rcases resolveRuntimeReceipt_progress h with ⟨hblocks, -⟩ | hcalled
    · exact absurd hblocks hnot
    · exact .inr hcalled
  · rw [if_neg hdecided] at h
    exact resolveRuntimeReceipt_progress h

theorem executeCommitAdmissionTransaction_progress {input : CommitAdmissionTransactionInput}
    {out : Except ControlPlaneError SchemaAdmissionReceipt}
    (h : Progress host port clock (executeCommitAdmissionTransaction host input) s out t) :
    TransactionBlocks input s.world.store ∧ Rejects out s t ∨
      ¬ TransactionBlocks input s.world.store ∧ PassesOn out t := by
  unfold executeCommitAdmissionTransaction at h
  obtain ⟨existingReceipt, ⟨hreceipt, -⟩, h⟩ := progress_bind_read (r := .getCommitReceipt _) rfl h
  obtain ⟨existingDecision, ⟨hdecision, -⟩, h⟩ := progress_bind_read (r := .getCommitDecision _) rfl h
  cases hfinished : existingReceipt.filter fun _ => existingDecision.any fun decision => decision.status = .finalized with
  | some receipt =>
      rw [hfinished] at h
      obtain ⟨rfl, rfl⟩ := Program.exec_done.1 h
      obtain ⟨hsome, hfinalized⟩ := Option.filter_eq_some_iff.1 hfinished
      refine .inr ⟨?_, .inr fun _ heq => nomatch heq⟩
      rintro ⟨-, decision, hget, hblocks⟩
      rw [hdecision, hget, Option.any_some, decide_eq_true_eq] at hfinalized
      rcases hblocks with ⟨-, hnone⟩ | ⟨hstatus, -⟩
      · rw [hreceipt, hnone] at hsome
        cases hsome
      · cases hfinalized.symm.trans hstatus
  | none =>
      rw [hfinished] at h
      replace h := progress_bind_now (show Progress host port clock (ask .now >>= _) _ _ _ from h)
      rcases exec_bind_orThrow.1 h with ⟨toBinding, hbinding, h⟩ | ⟨message, hbinding, rfl, -⟩
      · have hordinal := transactionBinding_ok hbinding
        replace h := progress_bind_now (show Progress host port clock (ask .now >>= _) _ _ _ from h)
        cases hfound : s.world.store.commitDecisions.get? input.admissionId with
        | none =>
            rw [hdecision, hfound] at h
            rcases decided_progress h with ⟨hblocks, -⟩ | ⟨-, hcalled⟩
            · rcases hblocks with hstatus | ⟨hstatus, -⟩ <;> cases hstatus
            · refine .inr ⟨?_, .inl hcalled⟩
              rintro ⟨-, decision, hget, -⟩
              cases hfound.symm.trans hget
        | some decision =>
            rw [hdecision, hfound] at h hfinished
            have hunfinished : decision.status = .finalized →
                s.world.store.commitReceipts.get? input.admissionId = none := by
              intro hstatus
              rw [hreceipt] at hfinished
              cases hreceipt' : s.world.store.commitReceipts.get? input.admissionId with
              | none => rfl
              | some receipt =>
                  rw [hreceipt', Option.filter_some, Option.any_some, if_pos (decide_eq_true hstatus)] at hfinished
                  cases hfinished
            rcases decided_progress h with ⟨hblocks, hrejects⟩ | ⟨hnot, hcalled⟩
            · refine .inl ⟨⟨hordinal, decision, hfound, ?_⟩, hrejects.violation, hrejects.store, hrejects.uncalled⟩
              exact hblocks.imp (fun hstatus => ⟨hstatus, hunfinished hstatus⟩) id
            · refine .inr ⟨?_, .inl hcalled⟩
              rintro ⟨-, other, hget, hblocks⟩
              cases hfound.symm.trans hget
              exact hnot (hblocks.imp And.left id)
      · exact .inr ⟨fun hblocks => transactionBinding_error hbinding hblocks.1, .inr fun _ heq => nomatch heq⟩

end Steps

/-! ## The commit -/

section Commit
variable {w : ControlPlaneWorld R} {s t : CallProgress R} {command : CommitSchemaAdmissionCommand}
  {record : SchemaAdmissionRecord} {active : SchemaEpochBinding} {token : PreparedAdmissionRecord}
  {out : Except ControlPlaneError SchemaAdmissionReceipt}

theorem TakesToken.unique {authorizedAt : Nat} {record' : SchemaAdmissionRecord} {active' : SchemaEpochBinding}
    {token' : PreparedAdmissionRecord} (h : TakesToken host w.store command authorizedAt record active token)
    (h' : TakesToken host w.store command authorizedAt record' active' token') : active = active' ∧ token = token' := by
  cases h.stored.symm.trans h'.stored
  cases h.bound.symm.trans h'.bound
  cases h.named.symm.trans h'.named
  exact ⟨rfl, rfl⟩

def commitWith (host : ControlPlaneHost) (command : CommitSchemaAdmissionCommand) (record : SchemaAdmissionRecord)
    (active : SchemaEpochBinding) (token : PreparedAdmissionRecord) : ControlPlaneProgram SchemaAdmissionReceipt := do
  checked (denyIf (token.admissionId ≠ command.admissionId)
    (controlPlaneViolation .invalidInput .commit "prepared token admission mismatch"))
  let now ← ask .now
  checked (denyIf ((host.dateParse token.expiresAt).any fun expiresAt => expiresAt < now)
    (controlPlaneViolation .preparationExpired .commit "preparation expired"))
  checked (denyIf (token.expectedBindingGeneration ≠ active.bindingGeneration)
    (controlPlaneViolation .staleActiveBinding .commit "binding generation drift"))
  executeCommitAdmissionTransaction host
    { admissionId := command.admissionId, preparedId := token.preparedId
      operator := administrationActorId command.context, record, active, preparedRecord := token }

theorem commitWith_progress (h : Progress host port clock (commitWith host command record active token) s out t) :
    ¬ TokenServes host s.world.store command.admissionId (clock s.readings) active token ∧ Rejects out s t ∨
      TokenServes host s.world.store command.admissionId (clock s.readings) active token ∧ PassesOn out t := by
  unfold commitWith at h
  rcases exec_bind_deny.1 h with ⟨hadmission, h⟩ | ⟨hadmission, rfl, rfl⟩
  rotate_left
  · exact .inl ⟨fun hserves => hadmission hserves.admission, ⟨_, rfl⟩, rfl, rfl⟩
  replace h := progress_bind_now h
  rcases exec_bind_deny.1 h with ⟨hexpired, h⟩ | ⟨hexpired, rfl, rfl⟩
  rotate_left
  · exact .inl ⟨fun hserves => Bool.false_ne_true (hserves.unexpired.symm.trans hexpired), ⟨_, rfl⟩, rfl, rfl⟩
  rcases exec_bind_deny.1 h with ⟨hgeneration, h⟩ | ⟨hgeneration, rfl, rfl⟩
  rotate_left
  · exact .inl ⟨fun hserves => hgeneration hserves.generation, ⟨_, rfl⟩, rfl, rfl⟩
  rcases executeCommitAdmissionTransaction_progress h with ⟨⟨hordinal, hblocks⟩, hrejects⟩ | ⟨hnot, hpasses⟩
  · exact .inl ⟨fun hserves => hserves.decision hordinal hblocks, hrejects.violation, hrejects.store,
      hrejects.uncalled⟩
  · exact .inr ⟨⟨not_not.1 hadmission, Bool.eq_false_iff.2 hexpired, not_not.1 hgeneration,
      fun hordinal hblocks => hnot ⟨hordinal, hblocks⟩⟩, hpasses⟩

def usedUp (store : ControlPlaneStore) (preparedId : PreparedAdmissionId) (token : PreparedAdmissionRecord) :
    ControlPlaneStore :=
  { store with preparedAdmissions := store.preparedAdmissions.set preparedId { token with consumed := true } }

/-- A commit takes no token and leaves the store alone unless it calls the runtime, or it goes on with its token. -/
inductive CommitCourse (host : ControlPlaneHost) (port : RuntimePort R) (clock : Nat → Nat)
    (command : CommitSchemaAdmissionCommand) (s : CallProgress R)
    (out : Except ControlPlaneError SchemaAdmissionReceipt) (t : CallProgress R) : Prop where
  | without (keeps : t.calledRuntime = true ∨ t.world.store = s.world.store)
      (untaken : ∀ record active token, ¬ TakesToken host s.world.store command (clock s.readings) record active token)
  | taken (record : SchemaAdmissionRecord) (active : SchemaEpochBinding) (token : PreparedAdmissionRecord)
      (m : CallProgress R) (takes : TakesToken host s.world.store command (clock s.readings) record active token)
      (store : m.world.store = usedUp s.world.store command.preparedHandle.preparedId token)
      (readings : m.readings = s.readings + 1) (uncalled : m.calledRuntime = s.calledRuntime)
      (rest : Progress host port clock (commitWith host command record active token) m out t)

theorem CommitCourse.stays (untaken : ∀ record active token,
    ¬ TakesToken host s.world.store command (clock s.readings) record active token) :
    CommitCourse host port clock command s out s := .without (.inr rfl) untaken

theorem commitPrepared_course (hstored : s.world.store.admissions.get? command.admissionId = some record)
    (hprepared : record.state = .prepared) (hfrozen : s.world.store.frozen = false)
    (h : Progress host port clock (commitPrepared host command record) s out t) :
    CommitCourse host port clock command s out t := by
  unfold commitPrepared at h
  rcases exec_bind_orRefuse.1 h with ⟨qualification, hqualification, h⟩ | ⟨hnone, -, rfl⟩
  rotate_left
  · refine .stays fun record' active token htakes => ?_
    cases hstored.symm.trans htakes.stored
    obtain ⟨qualification, _, _, hsome, -⟩ := htakes.evidence
    cases hnone.symm.trans hsome
  rcases exec_bind_orRefuse.1 h with ⟨authorization, hauthorization, h⟩ | ⟨hnone, -, rfl⟩
  rotate_left
  · refine .stays fun record' active token htakes => ?_
    cases hstored.symm.trans htakes.stored
    obtain ⟨_, authorization, _, -, hsome, -⟩ := htakes.evidence
    cases hnone.symm.trans hsome
  obtain ⟨binding, ⟨rfl, -⟩, h⟩ := progress_bind_read (r := .getActiveBinding _) rfl h
  rcases exec_bind_orRefuse.1 h with ⟨active, hactive, h⟩ | ⟨hnone, -, rfl⟩
  rotate_left
  · refine .stays fun record' active token htakes => ?_
    cases hstored.symm.trans htakes.stored
    cases hnone.symm.trans htakes.bound
  rcases exec_bind_orRefuse.1 h with ⟨subject, hsubject, h⟩ | ⟨hnone, -, rfl⟩
  rotate_left
  · refine .stays fun record' active' token htakes => ?_
    cases hstored.symm.trans htakes.stored
    cases hactive.symm.trans htakes.bound
    obtain ⟨_, _, subject, -, -, hsome, -⟩ := htakes.evidence
    cases hnone.symm.trans hsome
  replace h := progress_bind_now h
  rcases exec_bind_checked.1 h with ⟨⟨⟩, hverified, h⟩ | ⟨violation, hrefused, -, rfl⟩
  rotate_left
  · refine .without (.inr rfl) fun record' active' token htakes => ?_
    cases hstored.symm.trans htakes.stored
    cases hactive.symm.trans htakes.bound
    obtain ⟨_, _, _, hqualification', hauthorization', hsubject', hverified⟩ := htakes.evidence
    cases hqualification.symm.trans hqualification'
    cases hauthorization.symm.trans hauthorization'
    cases hsubject.symm.trans hsubject'
    cases hrefused.symm.trans hverified
  obtain ⟨consumed, m, ⟨hanswer, hreadings, hcalled⟩, h⟩ := exec_bind_ask.1 h
  obtain ⟨rfl, hworld⟩ := ControlPlaneWorld.answered_eq hanswer
  -- A token that is not there or used up leaves the commit to recovery.
  have hwithout : s.world.store.consumePrepared command.preparedHandle.preparedId = (none, s.world.store) →
      (∀ token, s.world.store.preparedAdmissions.get? command.preparedHandle.preparedId = some token →
        token.consumed = true) → CommitCourse host port clock command s out t := by
    intro hnone hused
    have hstore : m.world.store = s.world.store := by rw [hworld, hnone]
    rw [hnone] at h
    obtain ⟨existing, -, h⟩ := progress_bind_read (r := .getCommitDecision _) rfl h
    refine .without ?_ fun record' active' token htakes => ?_
    · split at h
      · exact (Progress.keepsStore h recoverForwardCommit_asksUntil).imp id fun hkeeps => hkeeps.trans hstore
      · obtain ⟨-, rfl⟩ := progress_refuse h
        exact .inr hstore
    · cases htakes.unconsumed.symm.trans (hused token htakes.named)
  cases htoken : s.world.store.preparedAdmissions.get? command.preparedHandle.preparedId with
  | none =>
      refine hwithout (by simp [ControlPlaneStore.consumePrepared, htoken]) fun token hget => ?_
      cases htoken.symm.trans hget
  | some token =>
      cases hconsumed : token.consumed with
      | true =>
          refine hwithout (by simp [ControlPlaneStore.consumePrepared, htoken, hconsumed]) fun other hget => ?_
          cases htoken.symm.trans hget
          exact hconsumed
      | false =>
          have hconsume : s.world.store.consumePrepared command.preparedHandle.preparedId =
              (some token, usedUp s.world.store command.preparedHandle.preparedId token) := by
            simp [ControlPlaneStore.consumePrepared, htoken, hconsumed, usedUp]
          rw [hconsume] at h
          refine .taken record active token m ?_ (by rw [hworld, hconsume]) hreadings (hcalled.trans (Bool.or_false _)) h
          exact ⟨hfrozen, hstored, hprepared, hactive,
            ⟨qualification, authorization, subject, hqualification, hauthorization, hsubject, hverified⟩, htoken,
            hconsumed⟩

theorem commitSchemaAdmission_course
    (h : Progress host port clock (commitSchemaAdmission host command) s out t) :
    CommitCourse host port clock command s out t := by
  unfold commitSchemaAdmission at h
  obtain ⟨frozen, ⟨hfrozen, -⟩, h⟩ := progress_bind_read (r := .isFrozen) rfl
    (show Progress host port clock (ask .isFrozen >>= fun _ => _) s out t from h)
  rcases exec_bind_deny.1 h with ⟨hnot, h⟩ | ⟨hrefused, -, rfl⟩
  rotate_left
  · refine .stays fun record active token htakes => ?_
    rw [hfrozen, htakes.notFrozen] at hrefused
    cases hrefused
  have hthawed : s.world.store.frozen = false := by
    rw [← hfrozen]
    exact Bool.eq_false_iff.2 hnot
  obtain ⟨found, ⟨rfl, -⟩, h⟩ := progress_bind_read (r := .getAdmission _) rfl h
  cases hprepared : (s.world.store.admissions.get? command.admissionId).filter fun record =>
      record.state = .prepared with
  | some record =>
      rw [hprepared] at h
      obtain ⟨hstored, hstate⟩ := Option.filter_eq_some_iff.1 hprepared
      exact commitPrepared_course hstored (of_decide_eq_true hstate) hthawed h
  | none =>
      rw [hprepared] at h
      refine .without ?_ fun record active token htakes => ?_
      · rcases Program.exec_handle.1 h with ⟨receipt, hrecover, -⟩ | ⟨e, m, hrecover, hrest⟩
        · exact Progress.keepsStore hrecover recoverForwardCommit_asksUntil
        · have hend : t = m := by
            cases e with
            | violation violation => exact (progress_refuse hrest).2
            | thrown message => exact (Program.exec_fail.1 hrest).2
          rw [hend]
          exact Progress.keepsStore hrecover recoverForwardCommit_asksUntil
      · rw [htakes.stored, Option.filter_some, if_pos (decide_eq_true htakes.prepared)] at hprepared
        cases hprepared

end Commit

/-- A commit that is rejected without the runtime leaves the store as it was exactly if it takes no token, or its token
serves it. -/
theorem commit_rejection_keeps_store_iff {command : CommitSchemaAdmissionCommand} {w : ControlPlaneWorld R}
    {out : Except ControlPlaneError SchemaAdmissionReceipt} {t : CallProgress R}
    (h : Progress host port clock (commitSchemaAdmission host command) (.start w) out t) :
    RejectionKeepsStore out (.start w) t ↔ ∀ record active token,
      TakesToken host w.store command (clock 0) record active token →
        TokenServes host w.store command.admissionId (clock 1) active token := by
  cases commitSchemaAdmission_course h with
  | without hkeeps huntaken =>
      refine iff_of_true (fun violation _ huncalled => ?_) fun record active token htakes =>
        absurd htakes (huntaken record active token)
      rcases hkeeps with hcalled | hkeeps
      · cases huncalled.symm.trans hcalled
      · exact hkeeps
  | taken record active token m htakes hstore hreadings huncalled hrest =>
      have hserves : (∀ record active token, TakesToken host w.store command (clock 0) record active token →
          TokenServes host w.store command.admissionId (clock 1) active token) ↔
            TokenServes host m.world.store command.admissionId (clock m.readings) active token := by
        rw [hreadings, hstore]
        constructor
        · intro hall
          obtain ⟨hadmission, hunexpired, hgeneration, hdecision⟩ := hall record active token htakes
          exact ⟨hadmission, hunexpired, hgeneration, hdecision⟩
        · rintro ⟨hadmission, hunexpired, hgeneration, hdecision⟩ record' active' token' htakes'
          obtain ⟨rfl, rfl⟩ := htakes.unique htakes'
          exact ⟨hadmission, hunexpired, hgeneration, hdecision⟩
      rw [hserves]
      rcases commitWith_progress hrest with ⟨hnot, hrejects⟩ | ⟨hserves, hpasses⟩
      · refine iff_of_false (fun hkeeps => ?_) hnot
        obtain ⟨violation, hout⟩ := hrejects.violation
        have hsame : usedUp w.store command.preparedHandle.preparedId token = w.store :=
          hstore.symm.trans (hrejects.store.symm.trans
            (hkeeps violation hout (hrejects.uncalled.trans huncalled)))
        have hnamed := htakes.named
        rw [show (CallProgress.start w).world.store = w.store from rfl, ← hsame, usedUp, OrdMap.get?_set_self] at hnamed
        have hconsumed := htakes.unconsumed
        rw [← Option.some.inj hnamed] at hconsumed
        cases hconsumed
      · refine iff_of_true (fun violation hout huncalled => ?_) hserves
        rcases hpasses with hcalled | hok
        · cases huncalled.symm.trans hcalled
        · exact absurd hout (hok violation)

/-! ## A commit with the token of another admission -/

section Sample

def ControlPlaneRequest.clockReadings : ControlPlaneRequest → Nat
  | .now => 1
  | _ => 0

def progress? (script : ScriptedRuntime R) (host : ControlPlaneHost) (s : CallProgress R) (r : ControlPlaneRequest) :
    Option (r.Response × CallProgress R) :=
  (script.answer? host s.world r).map fun answered =>
    (answered.1, { world := answered.2, readings := s.readings + r.clockReadings
                   calledRuntime := s.calledRuntime || r.callsRuntime })

theorem progresses_of_progress? {script : ScriptedRuntime R} {s : CallProgress R} {r : ControlPlaneRequest}
    {answered : r.Response × CallProgress R} (h : progress? script host s r = some answered) :
    r.Progresses host script.toPort (fun _ => script.now) s answered.1 answered.2 := by
  unfold progress? at h
  obtain ⟨answer, hanswer, rfl⟩ := Option.map_eq_some_iff.1 h
  cases r with
  | now =>
      cases hanswer
      refine ⟨rfl, ?_⟩
      rw [show ControlPlaneRequest.now.callsRuntime = false from rfl, Bool.or_false]
      rfl
  | _ => exact ⟨script.answers_of_answer? hanswer, rfl, rfl⟩

def digitHost : ControlPlaneHost :=
  { sampleHost with dateParse := fun text => some (text.toList.foldl (fun n c => 10 * n + (c.toNat - 48)) 0) }

def preparations (admissionId : SchemaAdmissionId) (key : IdempotencyKey) : List ControlPlaneCall :=
  [.submitSchemaAdmission (sampleSubmission admissionId key none),
    .approveSchemaAdmission { context := sampleAdministrator "bob", admissionId },
    .prepareSchemaAdmission
      { context := sampleAdministrator "bob"
        admissionId
        handlerManifest :=
          { manifestRef := sampleBinding.handlerManifestRef
            bindings := [{ operationTypeId := "delegate", artifactDigest := "artifact" }] } }]

def preparedWorld : ControlPlaneWorld (Option RuntimeEpochReceipt) :=
  (journalingRuntime.calls? digitHost (submissionWorld none)
    (preparations "adm-1" "key-1" ++ preparations "adm-2" "key-2")).getD (submissionWorld none)

def sampleCommit (admissionId : SchemaAdmissionId) (preparedId : PreparedAdmissionId) : CommitSchemaAdmissionCommand :=
  { context := sampleAdministrator "bob", admissionId, preparedHandle := { preparedId, expiresAt := "60000" } }

def commitProgress? (command : CommitSchemaAdmissionCommand) (w : ControlPlaneWorld (Option RuntimeEpochReceipt)) :
    Option (Except ControlPlaneError SchemaAdmissionReceipt × CallProgress (Option RuntimeEpochReceipt)) :=
  (commitSchemaAdmission digitHost command).eval? (progress? journalingRuntime digitHost) (.start w)

theorem progress_of_commitProgress? {command : CommitSchemaAdmissionCommand}
    {w : ControlPlaneWorld (Option RuntimeEpochReceipt)} {out : Except ControlPlaneError SchemaAdmissionReceipt}
    {t : CallProgress (Option RuntimeEpochReceipt)} (h : commitProgress? command w = some (out, t)) :
    Progress digitHost journalingRuntime.toPort (fun _ => 0) (commitSchemaAdmission digitHost command) (.start w)
      out t :=
  Program.exec_of_eval? (fun _ _ _ => progresses_of_progress?) h

def isViolation : Except ControlPlaneError SchemaAdmissionReceipt → Bool
  | .error (.violation _) => true
  | _ => false

theorem violation_of_isViolation {out : Except ControlPlaneError SchemaAdmissionReceipt} (h : isViolation out = true) :
    ∃ violation, out = .error (.violation violation) := by
  rcases out with (violation | message) | receipt
  · exact ⟨violation, rfl⟩
  · cases h
  · cases h

/-- A commit of the second admission with the token of the first is rejected and uses the token up: the first admission
is not committed with it any more. -/
theorem rejected_commit_uses_token_up : ∃ t t' out out',
    Progress digitHost journalingRuntime.toPort (fun _ => 0)
        (commitSchemaAdmission digitHost (sampleCommit "adm-2" "prep-3")) (.start preparedWorld) out t ∧
      ¬ RejectionKeepsStore out (.start preparedWorld) t ∧
      Progress digitHost journalingRuntime.toPort (fun _ => 0)
        (commitSchemaAdmission digitHost (sampleCommit "adm-1" "prep-3")) (.start t.world) out' t' ∧
      ∃ violation, out' = .error (.violation violation) := by
  have hrejected : (commitProgress? (sampleCommit "adm-2" "prep-3") preparedWorld).map (fun ended =>
      (isViolation ended.1, ended.2.calledRuntime, decide (ended.2.world.store = preparedWorld.store),
        (commitProgress? (sampleCommit "adm-1" "prep-3") ended.2.world).map fun later => isViolation later.1)) =
      some (true, false, false, some true) := by
    decide +kernel
  obtain ⟨⟨out, t⟩, hrun, hfacts⟩ := Option.map_eq_some_iff.1 hrejected
  obtain ⟨hviolation, hfacts⟩ := Prod.mk.inj hfacts
  obtain ⟨huncalled, hfacts⟩ := Prod.mk.inj hfacts
  obtain ⟨hstore, hlater⟩ := Prod.mk.inj hfacts
  obtain ⟨⟨out', t'⟩, hlater, hviolation'⟩ := Option.map_eq_some_iff.1 hlater
  refine ⟨t, t', out, out', progress_of_commitProgress? hrun, fun hkeeps => ?_, progress_of_commitProgress? hlater,
    violation_of_isViolation hviolation'⟩
  obtain ⟨violation, hout⟩ := violation_of_isViolation hviolation
  exact of_decide_eq_false hstore (hkeeps violation hout huncalled)

/-- A commit with a token that does not exist is rejected, and the store is as it was. -/
theorem unknown_token_keeps_store : ∃ out t,
    Progress digitHost journalingRuntime.toPort (fun _ => 0)
        (commitSchemaAdmission digitHost (sampleCommit "adm-1" "prep-none")) (.start preparedWorld) out t ∧
      RejectionKeepsStore out (.start preparedWorld) t := by
  have hruns : (commitProgress? (sampleCommit "adm-1" "prep-none") preparedWorld).isSome = true := by decide +kernel
  have hunknown : preparedWorld.store.preparedAdmissions.get? "prep-none" = none := by decide +kernel
  obtain ⟨⟨out, t⟩, hrun⟩ := Option.isSome_iff_exists.1 hruns
  have hprogress := progress_of_commitProgress? hrun
  refine ⟨out, t, hprogress, (commit_rejection_keeps_store_iff hprogress).2 fun record active token htakes => ?_⟩
  cases hunknown.symm.trans htakes.named

end Sample

end Cantilune
