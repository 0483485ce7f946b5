import Cantilune.Lemmas.ReconnectSections

/-!
# Completed reconnects

A completed plan is overwritten by every record with its id that a later call writes, whatever the store has, and
the receipt that a recovery makes of it takes a new number of the store. So a completed reconnect is final on the
runs in which nothing is written over one and none is recovered.
-/

namespace Cantilune

open Sections ReconnectCoordinator

variable {ι : Type} {host : ReconnectHost}

/-! ## What is asked of a completed plan -/

def IsCompleted (store : CommsStore) (planId : ReconnectRecordId) : Prop :=
  (store.getReconnect planId).map (·.state) = some .completed

def StaysCompleted (s : Tasks (reconnectServices host) ι) (_ : TaskLabel (reconnectServices host) ι)
    (t : Tasks (reconnectServices host) ι) : Prop :=
  ∀ planId record, s.world.store.getReconnect planId = some record → record.state = .completed →
    ∃ record', t.world.store.getReconnect planId = some record' ∧ record'.state = .completed ∧
      record'.runtimeReceiptRef = record.runtimeReceiptRef

def endedReceipt? : (Σ call, (reconnectServices host).Out call) → Option AdmissionReconnectReceipt
  | ⟨.runtimeCommit _, .resolved (.ok receipt)⟩ => some receipt
  | ⟨.recover _, .resolved (.ok receipt)⟩ => some receipt
  | _ => none

def ReturnsTheReceipt (s : Tasks (reconnectServices host) ι) (l : TaskLabel (reconnectServices host) ι)
    (_ : Tasks (reconnectServices host) ι) : Prop :=
  match l with
  | .start _ (.recover planId) => IsCompleted s.world.store planId →
      ∀ receipt, (recover host planId s.world).1 = .inr (.resolved (.ok receipt)) →
        ∃ ended ∈ s.ended, endedReceipt? ended = some receipt
  | _ => True

def writtenPlan? (s : Tasks (reconnectServices host) ι) (l : TaskLabel (reconnectServices host) ι) :
    Option ReconnectRecordId :=
  match labelAnswer l with
  | some (commit, .resolved (.error _)) => some commit.record.plan.planId
  | _ => (labelWritten s l).map (·.plan.planId)

/-- A record is about to be written over that of a completed plan. -/
def Overwrites (s : Tasks (reconnectServices host) ι) (l : TaskLabel (reconnectServices host) ι) : Prop :=
  ∃ planId, writtenPlan? s l = some planId ∧ IsCompleted s.world.store planId

def RecoversCompleted (s : Tasks (reconnectServices host) ι) : TaskLabel (reconnectServices host) ι → Prop
  | .start _ (.recover planId) => IsCompleted s.world.store planId
  | _ => False

/-! ## Records -/

variable [DecidableEq ι] {s t : Tasks (reconnectServices host) ι} {l : TaskLabel (reconnectServices host) ι}

theorem isCompleted_iff {store : CommsStore} {planId : ReconnectRecordId} :
    IsCompleted store planId ↔ ∃ record, store.getReconnect planId = some record ∧ record.state = .completed :=
  Option.map_eq_some_iff

theorem staysCompleted_of_kept {store store' : CommsStore} {planId : ReconnectRecordId}
    {record : ReconnectCoordinatorRecord} (hget : store.getReconnect planId = some record)
    (hstate : record.state = .completed) (hkept : store'.reconnects.get? planId = store.reconnects.get? planId) :
    ∃ record', store'.getReconnect planId = some record' ∧ record'.state = .completed ∧
      record'.runtimeReceiptRef = record.runtimeReceiptRef :=
  ⟨record, hkept.trans hget, hstate, rfl⟩

theorem step_staysCompleted_iff (hstep : Sections.Step (reconnectServices host) s l t) :
    StaysCompleted s l t ↔ ¬ Overwrites s l := by
  obtain ⟨next, heffect, _, _⟩ := step_effect hstep
  unfold StaysCompleted Overwrites writtenPlan?
  generalize labelAnswer l = answer at heffect
  generalize labelWritten s l = written at heffect
  have hnothing : t.world.store.reconnects = s.world.store.reconnects → ∀ planId record,
      s.world.store.getReconnect planId = some record → record.state = .completed →
      ∃ record', t.world.store.getReconnect planId = some record' ∧ record'.state = .completed ∧
        record'.runtimeReceiptRef = record.runtimeReceiptRef := by
    intro hreconnects planId record hget hstate
    exact staysCompleted_of_kept hget hstate (by rw [hreconnects])
  have hover : ∀ planId new, new.state ≠ ReconnectCoordinatorState.completed →
      t.world.store.reconnects = s.world.store.reconnects.set planId new →
      ((∀ planId record, s.world.store.getReconnect planId = some record → record.state = .completed →
        ∃ record', t.world.store.getReconnect planId = some record' ∧ record'.state = .completed ∧
          record'.runtimeReceiptRef = record.runtimeReceiptRef) ↔ ¬ IsCompleted s.world.store planId) := by
    intro planId new hnew hreconnects
    constructor
    · intro hstays hcompleted
      obtain ⟨record, hget, hstate⟩ := isCompleted_iff.1 hcompleted
      obtain ⟨record', hget', hstate', _⟩ := hstays planId record hget hstate
      unfold CommsStore.getReconnect at hget'
      rw [hreconnects, OrdMap.get?_set_self] at hget'
      cases hget'
      exact hnew hstate'
    · intro hopen planId' record hget hstate
      refine staysCompleted_of_kept hget hstate ?_
      rw [hreconnects, OrdMap.get?_set_ne]
      rintro rfl
      exact hopen (isCompleted_iff.2 ⟨record, hget, hstate⟩)
  cases heffect with
  | kept sessions reconnects => simpa using hnothing reconnects
  | switched record binding new checked generation sessions reconnects => simpa using hnothing reconnects
  | rejected commit reason sessions reconnects => simpa using hnothing reconnects
  | wrote record state sessions reconnects => simpa using hover record.plan.planId record state reconnects
  | refused commit violation record plan state sessions reconnects =>
      have hnew : record.state ≠ .completed := by
        rw [state]
        exact ReconnectCoordinatorState.noConfusion
      simpa using hover commit.record.plan.planId record hnew reconnects
  | completed commit receiptRef sessions record plan state reconnects =>
      suffices hstays : ∀ planId record, s.world.store.getReconnect planId = some record → record.state = .completed →
          ∃ record', t.world.store.getReconnect planId = some record' ∧ record'.state = .completed ∧
            record'.runtimeReceiptRef = record.runtimeReceiptRef by
        simpa using hstays
      intro planId old hget hstate
      split at reconnects
      · exact hnothing reconnects planId old hget hstate
      · rename_i hopen
        refine staysCompleted_of_kept hget hstate ?_
        rw [reconnects, OrdMap.get?_set_ne]
        rintro rfl
        exact hopen (isCompleted_iff.2 ⟨old, hget, hstate⟩)

/-! ## Numbers of receipts -/

section Sections
variable {w : CommsWorld} {record : ReconnectCoordinatorRecord}

/-- A section of a commit does not set the number of the store back, and its receipt has a number that is given out. -/
structure Numbers (w : CommsWorld) (result : (CommitWait ⊕ Settled CommitResult) × CommsWorld) : Prop where
  grows : w.store.sequence ≤ result.2.store.sequence
  receipt : ∀ receipt, result.1 = .inr (.resolved (.ok receipt)) → receipt.storeSequence ≤ result.2.store.sequence

theorem runtimeCommit_numbers : Numbers w (runtimeCommit host record w) := by
  cases hcheck : committable w.store record with
  | error violation =>
      rw [runtimeCommit_refused hcheck]
      exact ⟨Nat.le_refl _, fun _ h => (by cases h)⟩
  | ok binding =>
      rw [runtimeCommit_switched hcheck]
      exact ⟨Nat.le_refl _, fun _ h => (by cases h)⟩

theorem recover_numbers {planId : ReconnectRecordId} : Numbers w (recover host planId w) := by
  cases hget : w.store.getReconnect planId with
  | none =>
      rw [recover_missing hget]
      exact ⟨Nat.le_refl _, fun _ h => (by cases h)⟩
  | some record =>
      by_cases hstate : record.state = .completed
      · rw [recover_completed hget hstate]
        refine ⟨Nat.le_succ _, fun receipt h => ?_⟩
        cases h
        exact Nat.le_refl _
      · rw [recover_commits hget hstate]
        exact runtimeCommit_numbers

theorem resume_numbers {wait : CommitWait} {response : Settled PortResult} :
    Numbers w (ReconnectCoordinator.resume host wait response w) := by
  cases response with
  | rejected reason => exact ⟨Nat.le_refl _, fun _ h => (by cases h)⟩
  | resolved result =>
      cases result with
      | error violation => exact ⟨Nat.le_refl _, fun _ h => (by cases h)⟩
      | ok receiptRef =>
          obtain ⟨hend, hstore⟩ := @resume_ok host w wait receiptRef
          have hsequence : (w.store.nextSequence.2.finalizeReconnect (persisted host wait receiptRef w)).2.sequence =
              w.store.sequence + 1 := by
            unfold CommsStore.finalizeReconnect
            split <;> rfl
          refine ⟨?_, fun receipt h => ?_⟩
          · rw [hstore, hsequence]
            exact Nat.le_succ _
          · rw [hend] at h
            cases h
            rw [hstore, hsequence]
            exact Nat.le_refl _

end Sections

def ReceiptsNumbered (s : Tasks (reconnectServices host) ι) : Prop :=
  ∀ ended ∈ s.ended, ∀ receipt, endedReceipt? ended = some receipt → receipt.storeSequence ≤ s.world.store.sequence

theorem ReceiptsNumbered.after (hs : ReceiptsNumbered s) {client : ι} {call : ReconnectCall}
    {result : ((reconnectServices host).Wait call ⊕ (reconnectServices host).Out call) × CommsWorld}
    (hgrows : s.world.store.sequence ≤ result.2.store.sequence)
    (hreceipt : ∀ out receipt, result.1 = .inr out → endedReceipt? ⟨call, out⟩ = some receipt →
      receipt.storeSequence ≤ result.2.store.sequence) :
    ReceiptsNumbered (s.after client call result) := by
  intro ended hmem receipt hended
  rw [after_world]
  rcases mem_ended_after hmem with hbefore | ⟨out, hend, rfl⟩
  · exact Nat.le_trans (hs ended hbefore receipt hended) hgrows
  · exact hreceipt out receipt hend hended

omit [DecidableEq ι] in
theorem endedReceipt?_commit {record : ReconnectCoordinatorRecord} {out : Settled CommitResult}
    {receipt : AdmissionReconnectReceipt} (h : @endedReceipt? host ⟨.runtimeCommit record, out⟩ = some receipt) :
    out = .resolved (.ok receipt) := by
  rcases out with (violation | found) | reason <;> cases h
  rfl

theorem endedReceipt?_recover {planId : ReconnectRecordId} {out : Settled CommitResult}
    {receipt : AdmissionReconnectReceipt} (h : @endedReceipt? host ⟨.recover planId, out⟩ = some receipt) :
    out = .resolved (.ok receipt) := by
  rcases out with (violation | found) | reason <;> cases h
  rfl

theorem afterWrite_sequence {store : CommsStore} {written : Option ReconnectCoordinatorRecord} :
    (afterWrite store written).sequence = store.sequence := by
  cases written <;> rfl

theorem reconcile_grows {w : CommsWorld} :
    w.store.sequence ≤ (ReconnectRecovery.reconcile host w).2.store.sequence := by
  rcases @ReconnectRecovery.reconcile_cases host w with ⟨result, hrun⟩ | ⟨frame, planId, hrun⟩
  · rw [hrun]
  · rw [hrun]
    exact recover_numbers.grows

theorem resumeReconcile_grows_sequence {w : CommsWorld} {wait : RecoveryWait} {response : wait.Resp} :
    w.store.sequence ≤ (ReconnectRecovery.resume host wait response w).2.store.sequence := by
  cases wait with
  | recovering frame planId wait => exact (@resume_numbers host w wait response).grows
  | returned frame planId result =>
      obtain ⟨v, hstore, _, hrun⟩ := @ReconnectRecovery.returned_cases host w frame planId result
      change w.store.sequence ≤ (ReconnectRecovery.returned host frame planId result w).2.store.sequence
      rw [← hstore]
      rcases hrun with ⟨_, result', hrun⟩ | ⟨frame', planId', _, hrun⟩
      · rw [hrun]
      · rw [hrun]
        exact recover_numbers.grows

theorem step_receiptsNumbered (hstep : Sections.Step (reconnectServices host) s l t) (hs : ReceiptsNumbered s) : ReceiptsNumbered t := by
  cases hstep with
  | @start client call hidle =>
      cases call with
      | propose plan active =>
          refine hs.after ?_ fun _ _ _ h => (by cases h)
          exact (propose_store ▸ afterWrite_sequence).ge
      | authorize record =>
          refine hs.after ?_ fun _ _ _ h => (by cases h)
          exact (authorize_store ▸ afterWrite_sequence).ge
      | peerAccept record digest =>
          refine hs.after ?_ fun _ _ _ h => (by cases h)
          exact (peerAccept_store ▸ afterWrite_sequence).ge
      | runtimeCommit record =>
          exact hs.after runtimeCommit_numbers.grows fun out receipt hend h =>
            runtimeCommit_numbers.receipt receipt (endedReceipt?_commit h ▸ hend)
      | recover planId =>
          exact hs.after recover_numbers.grows fun out receipt hend h =>
            recover_numbers.receipt receipt (endedReceipt?_recover h ▸ hend)
      | reconcile => exact hs.after reconcile_grows fun _ _ _ h => (by cases h)
  | @resume client call wait response hwaits =>
      cases call with
      | propose plan active => exact Empty.elim wait
      | authorize record => exact Empty.elim wait
      | peerAccept record digest => exact Empty.elim wait
      | runtimeCommit record =>
          exact hs.after resume_numbers.grows fun out receipt hend h =>
            resume_numbers.receipt receipt (endedReceipt?_commit h ▸ hend)
      | recover planId =>
          exact hs.after resume_numbers.grows fun out receipt hend h =>
            resume_numbers.receipt receipt (endedReceipt?_recover h ▸ hend)
      | reconcile => exact hs.after resumeReconcile_grows_sequence fun _ _ _ h => (by cases h)

omit [DecidableEq ι] in
theorem receiptsNumbered_idle {w : CommsWorld} : ReceiptsNumbered (.idle (reconnectServices host) ι w) :=
  fun _ hmem => absurd hmem List.not_mem_nil

omit [DecidableEq ι] in
theorem returnsTheReceipt_iff (hs : ReceiptsNumbered s) : ReturnsTheReceipt s l t ↔ ¬ RecoversCompleted s l := by
  unfold ReturnsTheReceipt RecoversCompleted
  split
  · rename_i client planId
    constructor
    · intro h hcompleted
      obtain ⟨record, hget, hstate⟩ := isCompleted_iff.1 hcompleted
      obtain ⟨ended, hmem, hended⟩ := h hcompleted _ (by rw [recover_completed hget hstate])
      exact absurd (hs ended hmem _ hended) (Nat.not_succ_le_self _)
    · exact fun hopen hcompleted => absurd hcompleted hopen
  · exact iff_of_true trivial not_false

/-- A completed reconnect is final in the runs in which no record is written over that of a completed plan and no
completed plan is recovered, and in no others. -/
theorem reconnects_final_iff (world : CommsWorld) (labels : List (TaskLabel (reconnectServices host) ι)) :
    (Run.Every (Sections.Step (reconnectServices host)) StaysCompleted (.idle _ ι world) labels ∧
      Run.Every (Sections.Step (reconnectServices host)) ReturnsTheReceipt (.idle _ ι world) labels) ↔
      Run.Every (Sections.Step (reconnectServices host)) (fun s l _ => ¬ Overwrites s l ∧ ¬ RecoversCompleted s l)
        (.idle _ ι world) labels := by
  rw [← Run.every_and]
  exact Run.every_congr (I := ReceiptsNumbered) (fun _ _ _ => step_receiptsNumbered) receiptsNumbered_idle fun _ _ _ hs hstep =>
    and_congr (step_staysCompleted_iff hstep) (returnsTheReceipt_iff hs)

/-- A plan is completed. A stale authorization then takes the completion back, and a recovery returns a receipt that
the commit has not returned. -/
theorem completed_reconnect_is_not_final : ∃ labels s,
    Run (Sections.Step (reconnectServices sampleReconnectHost)) (.idle _ Unit sessionWorld) labels s ∧
      (∃ l t, Sections.Step (reconnectServices sampleReconnectHost) s l t ∧ ¬ StaysCompleted s l t) ∧
      ∃ l t, Sections.Step (reconnectServices sampleReconnectHost) s l t ∧ ¬ ReturnsTheReceipt s l t := by
  have hend : ((commitMoves ++ [((), reconnectAnswers (.resolved (.ok "receipt")))]).foldlM Tasks.next?
      (.idle (reconnectServices sampleReconnectHost) Unit sessionWorld)).map
        (fun s => ((s.waiting ()).isNone, (s.world.store.getReconnect "plan").map (·.state))) =
      some (true, some .completed) := by decide +kernel
  obtain ⟨s, hs, hend⟩ := Option.map_eq_some_iff.1 hend
  obtain ⟨labels, hrun⟩ := run_of_next? hs
  have hidle : s.waiting () = none := Option.isNone_iff_eq_none.1 (congrArg Prod.fst hend)
  have hcompleted : IsCompleted s.world.store "plan" := congrArg Prod.snd hend
  have hnumbered : ReceiptsNumbered s := hrun.invariant (fun _ _ _ => step_receiptsNumbered) receiptsNumbered_idle
  refine ⟨labels, s, hrun, ⟨.start () (.authorize (sampleRecord .proposed none)), _, .start hidle, fun hstays => ?_⟩,
    .start () (.recover "plan"), _, .start hidle, fun hreturns => ?_⟩
  · exact (step_staysCompleted_iff (.start hidle)).1 hstays ⟨"plan", rfl, hcompleted⟩
  · exact (returnsTheReceipt_iff (t := s.after () (.recover "plan") _) hnumbered).1 hreturns hcompleted

end Cantilune
