import Cantilune.Evaluation.Engine

/-!
# The books of an evaluation run

Each call reads the run, and writes a record that is made from what it read, an attempt after its execution. So the
attempts of a run are numbered apart and listed, and its status moves along its machine, where no record drops an
attempt or sets the status back, and no attempt is saved beside one that the run does not list: a failed attempt is
saved, and never listed.
-/

namespace Cantilune.Evaluation

open Sections

variable {ι : Type} {host : EngineHost} {runId : String}

/-! ## The calls on one run -/

inductive AttemptCall where
  | execute (caseRef : String) (seed : ℚ)
  | complete

def AttemptCall.call (runId : String) : AttemptCall → EngineCall
  | .execute caseRef seed => .executeAttempt runId caseRef seed
  | .complete => .completeRun runId

/-- `executeAttempt` and `completeRun` on one run. -/
def attemptCalls (host : EngineHost) (runId : String) : Sections EvaluationStores AttemptCall :=
  (evaluationEngine host).comap (AttemptCall.call runId)

def savedOf (runId : String) (stores : EvaluationStores) : List RunAttempt :=
  stores.attempts.values.filter fun a => a.runId = runId

def statusOf (runId : String) (stores : EvaluationStores) : Option RunStatus :=
  (stores.runs.get? runId).map (·.status)

/-- Each saved attempt has an order of its own; and when no call is under way, the run lists every successful attempt
exactly once. -/
structure BooksRight (runId : String) (s : Tasks (attemptCalls host runId) ι) : Prop where
  orders : ((savedOf runId s.world).map (·.executionOrder)).Nodup
  listed : (∀ client, s.waiting client = none) → ∀ a ∈ savedOf runId s.world, a.status = .succeeded →
    ∃ run, s.world.runs.get? runId = some run ∧ run.attemptIds.count a.attemptId = 1

def StatusMoves (runId : String) (stores stores' : EvaluationStores) : Prop :=
  ∀ status, statusOf runId stores = some status →
    ∃ status', statusOf runId stores' = some status' ∧ (status' = status ∨ status' ∈ runTransitions status)

structure KeepsBooks (start : Tasks (attemptCalls host runId) ι) (labels : List (TaskLabel (attemptCalls host runId) ι))
    [DecidableEq ι] : Prop where
  right : ∀ pre post s, labels = pre ++ post → Run (Step (attemptCalls host runId)) start pre s → BooksRight runId s
  moves : Run.Every (Step (attemptCalls host runId)) (fun s _ t => StatusMoves runId s.world t.world) start labels
  completed : ∀ pre mid post s t, labels = pre ++ mid ++ post → Run (Step (attemptCalls host runId)) start pre s →
    Run (Step (attemptCalls host runId)) s mid t → statusOf runId s.world = some .collecting →
      statusOf runId t.world ≠ some .running

/-! ## When they are -/

def StoredAs (runId : String) (stores : EvaluationStores) (copy : EvaluationRun) (statuses : List RunStatus) : Prop :=
  ∃ run, stores.runs.get? runId = some run ∧ run.attemptIds = copy.attemptIds ∧ run.status ∈ statuses

instance {stores : EvaluationStores} {copy : EvaluationRun} {statuses : List RunStatus} :
    Decidable (StoredAs runId stores copy statuses) :=
  decidable_of_iff (∃ run ∈ stores.runs.get? runId, run.attemptIds = copy.attemptIds ∧ run.status ∈ statuses) Iff.rfl

/-- The copy that a call of `executeAttempt` makes a record from has the attempts of the stored run, whose status is
the record's or the one before it; no attempt is saved that the run is then refused for; and when an attempt is
saved, the copy lists all attempts that are. -/
def ExecuteWait.Fresh (runId : String) (stores : EvaluationStores) : (wait : ExecuteWait) → wait.Resp → Prop
  | .savingQueued queued, .ok _ => StoredAs runId stores queued [.admitted, .queued]
  | .savingLeased leased, .ok _ => StoredAs runId stores leased [.queued, .leased]
  | .savingRunning running, .ok _ => StoredAs runId stores running [.leased, .running]
  | .savingFailed draft _ _, .ok _ => (savedOf runId stores).length = draft.currentRun.attemptIds.length
  | .savingAttempt draft _, .ok _ => (savedOf runId stores).length = draft.currentRun.attemptIds.length
  | .savingRun draft _ _, .ok _ => StoredAs runId stores draft.currentRun [.leased, .running]
  | .savingRun _ _ _, .error _ => False
  | _, _ => True

instance ExecuteWait.decidableFresh (runId : String) (stores : EvaluationStores) :
    (wait : ExecuteWait) → (resp : wait.Resp) → Decidable (ExecuteWait.Fresh runId stores wait resp)
  | .savingQueued queued, .ok _ => inferInstanceAs (Decidable (StoredAs runId stores queued [.admitted, .queued]))
  | .savingLeased leased, .ok _ => inferInstanceAs (Decidable (StoredAs runId stores leased [.queued, .leased]))
  | .savingRunning running, .ok _ => inferInstanceAs (Decidable (StoredAs runId stores running [.leased, .running]))
  | .savingFailed draft _ _, .ok _ =>
      inferInstanceAs (Decidable ((savedOf runId stores).length = draft.currentRun.attemptIds.length))
  | .savingAttempt draft _, .ok _ =>
      inferInstanceAs (Decidable ((savedOf runId stores).length = draft.currentRun.attemptIds.length))
  | .savingRun draft _ _, .ok _ =>
      inferInstanceAs (Decidable (StoredAs runId stores draft.currentRun [.leased, .running]))
  | .savingRun _ _ _, .error _ => inferInstanceAs (Decidable False)
  | .savingQueued _, .error _ => inferInstanceAs (Decidable True)
  | .savingLeased _, .error _ => inferInstanceAs (Decidable True)
  | .savingRunning _, .error _ => inferInstanceAs (Decidable True)
  | .savingFailed _ _ _, .error _ => inferInstanceAs (Decidable True)
  | .savingAttempt _ _, .error _ => inferInstanceAs (Decidable True)
  | .readingRun, _ => inferInstanceAs (Decidable True)
  | .readingAgain, _ => inferInstanceAs (Decidable True)
  | .readingCase _, _ => inferInstanceAs (Decidable True)
  | .acquiring _, _ => inferInstanceAs (Decidable True)
  | .validating _, _ => inferInstanceAs (Decidable True)
  | .executing _, _ => inferInstanceAs (Decidable True)
  | .releasing _ _ _, _ => inferInstanceAs (Decidable True)

def CompleteWait.Fresh (runId : String) (stores : EvaluationStores) : (wait : CompleteWait) → wait.Resp → Prop
  | .savingRun read _, .ok _ => StoredAs runId stores read [.running, .collecting]
  | _, _ => True

def WritesFresh (s : Tasks (attemptCalls host runId) ι) (l : TaskLabel (attemptCalls host runId) ι)
    (_ : Tasks (attemptCalls host runId) ι) : Prop :=
  match l with
  | .start _ _ => True
  | .resume _ (.execute _ _) wait resp => ExecuteWait.Fresh runId s.world wait resp
  | .resume _ .complete wait resp => CompleteWait.Fresh runId s.world wait resp

instance CompleteWait.decidableFresh (runId : String) (stores : EvaluationStores) :
    (wait : CompleteWait) → (resp : wait.Resp) → Decidable (CompleteWait.Fresh runId stores wait resp)
  | .savingRun read _, .ok _ => inferInstanceAs (Decidable (StoredAs runId stores read [.running, .collecting]))
  | .savingRun _ _, .error _ => inferInstanceAs (Decidable True)
  | .readingRun, _ => inferInstanceAs (Decidable True)

instance : (s : Tasks (attemptCalls host runId) ι) → (l : TaskLabel (attemptCalls host runId) ι) →
    (t : Tasks (attemptCalls host runId) ι) → Decidable (WritesFresh s l t)
  | _, .start _ _, _ => inferInstanceAs (Decidable True)
  | s, .resume _ (.execute _ _) wait resp, _ => ExecuteWait.decidableFresh runId s.world wait resp
  | s, .resume _ .complete wait resp, _ => CompleteWait.decidableFresh runId s.world wait resp

/-! ## What the calls hold -/

def ExecuteWait.attemptId? : ExecuteWait → Option String
  | .acquiring draft => some draft.attemptId
  | .validating draft => some draft.attemptId
  | .executing draft => some draft.attemptId
  | .releasing draft _ _ => some draft.attemptId
  | .savingFailed draft _ _ => some draft.attemptId
  | .savingAttempt draft _ => some draft.attemptId
  | .savingRun draft _ _ => some draft.attemptId
  | _ => none

def attemptId? : (Σ call, (attemptCalls host runId).Wait call) → Option String
  | ⟨.execute _ _, wait⟩ => ExecuteWait.attemptId? wait
  | ⟨.complete, _⟩ => none

def heldBy (s : Tasks (attemptCalls host runId) ι) (client : ι) : Option String :=
  (s.waiting client).bind attemptId?

/-- An identifier that was drawn, and that the run does not list. -/
structure Held (host : EngineHost) (runId : String) (stores : EvaluationStores) (id : String) : Prop where
  drawn : ∃ n < stores.drawn, id = host.uuid n
  unlisted : ∀ run, stores.runs.get? runId = some run → id ∉ run.attemptIds

structure Unsaved (host : EngineHost) (runId : String) (stores : EvaluationStores) (draft : AttemptDraft) : Prop
    extends Held host runId stores draft.attemptId where
  run : draft.currentRun.runId = runId
  unsaved : stores.attempts.get? draft.attemptId = none

structure MadeFrom (runId : String) (draft : AttemptDraft) (attempt : RunAttempt) : Prop where
  id : attempt.attemptId = draft.attemptId
  run : attempt.runId = runId
  order : attempt.executionOrder = draft.currentRun.attemptIds.length

/-- What a call of `executeAttempt` holds while it waits. -/
def ExecuteWait.Sound (host : EngineHost) (runId : String) (stores : EvaluationStores) : ExecuteWait → Prop
  | .readingRun => True
  | .savingQueued queued => queued.runId = runId ∧ queued.status = .queued
  | .savingLeased leased => leased.runId = runId ∧ leased.status = .leased
  | .savingRunning running => running.runId = runId ∧ running.status = .running
  | .readingAgain => True
  | .readingCase currentRun => currentRun.runId = runId
  | .acquiring draft => Unsaved host runId stores draft
  | .validating draft => Unsaved host runId stores draft
  | .executing draft => Unsaved host runId stores draft
  | .releasing draft _ _ => Unsaved host runId stores draft
  | .savingFailed draft attempt _ => Unsaved host runId stores draft ∧ MadeFrom runId draft attempt ∧
      attempt.status = .failed
  | .savingAttempt draft attempt => Unsaved host runId stores draft ∧ MadeFrom runId draft attempt
  | .savingRun draft _ run => Held host runId stores draft.attemptId ∧ run.runId = runId ∧ run.status = .running ∧
      run.attemptIds = draft.currentRun.attemptIds ++ [draft.attemptId]

def CompleteWait.Sound (runId : String) : CompleteWait → Prop
  | .readingRun => True
  | .savingRun read run => run.runId = runId ∧ run.status = .collecting ∧ run.attemptIds = read.attemptIds

def WaitSound (stores : EvaluationStores) : (Σ call, (attemptCalls host runId).Wait call) → Prop
  | ⟨.execute _ _, wait⟩ => ExecuteWait.Sound host runId stores wait
  | ⟨.complete, wait⟩ => CompleteWait.Sound runId wait

/-- The stores are in order, whatever is under way. -/
structure StoresSound (host : EngineHost) (runId : String) (stores : EvaluationStores) (run : EvaluationRun) :
    Prop where
  stored : stores.runs.get? runId = some run
  id : run.runId = runId
  nodup : run.attemptIds.Nodup
  listed : ∀ id ∈ run.attemptIds, ∃ n < stores.drawn, id = host.uuid n
  keyed : ∀ id a, stores.attempts.get? id = some a → a.runId = runId → a.attemptId = id
  unused : ∀ n, stores.drawn ≤ n → stores.attempts.get? (host.uuid n) = none
  orders : (savedOf runId stores).map (·.executionOrder) = List.range (savedOf runId stores).length

/-- The stores are in order, and so is what the calls under way hold. -/
structure BooksSound (s : Tasks (attemptCalls host runId) ι) (run : EvaluationRun) : Prop where
  stores : StoresSound host runId s.world run
  waits : ∀ client pending, s.waiting client = some pending → WaitSound s.world pending
  apart : ∀ client client' id, heldBy s client = some id → heldBy s client' = some id → client = client'
  listed : ∀ a ∈ savedOf runId s.world, a.status = .succeeded →
    a.attemptId ∈ run.attemptIds ∨ ∃ client, heldBy s client = some a.attemptId

/-! ## Between the sections of a call -/

structure Keeps (runId : String) (own : Option String) (stores stores' : EvaluationStores) : Prop where
  drawn : stores.drawn ≤ stores'.drawn
  attempts : ∀ id, some id ≠ own → stores'.attempts.get? id = stores.attempts.get? id
  listed : ∀ run', stores'.runs.get? runId = some run' → ∀ id ∈ run'.attemptIds, some id ≠ own →
    ∃ run, stores.runs.get? runId = some run ∧ id ∈ run.attemptIds

section Keeping

variable {stores stores' : EvaluationStores} {own : Option String}

theorem Held.keeps {id : String} (hkeeps : Keeps runId own stores stores') (hother : some id ≠ own)
    (h : Held host runId stores id) : Held host runId stores' id := by
  obtain ⟨n, hn, hid⟩ := h.drawn
  refine ⟨⟨n, lt_of_lt_of_le hn hkeeps.drawn, hid⟩, fun run' hrun' hmem => ?_⟩
  obtain ⟨run, hrun, hlisted⟩ := hkeeps.listed run' hrun' id hmem hother
  exact h.unlisted run hrun hlisted

theorem Unsaved.keeps {draft : AttemptDraft} (hkeeps : Keeps runId own stores stores')
    (hother : some draft.attemptId ≠ own) (h : Unsaved host runId stores draft) :
    Unsaved host runId stores' draft :=
  ⟨h.toHeld.keeps hkeeps hother, h.run, (hkeeps.attempts _ hother).trans h.unsaved⟩

theorem ExecuteWait.Sound.keeps {wait : ExecuteWait} (hkeeps : Keeps runId own stores stores')
    (hother : ∀ id, wait.attemptId? = some id → some id ≠ own) (h : ExecuteWait.Sound host runId stores wait) :
    ExecuteWait.Sound host runId stores' wait := by
  cases wait with
  | readingRun => exact h
  | savingQueued queued => exact h
  | savingLeased leased => exact h
  | savingRunning running => exact h
  | readingAgain => exact h
  | readingCase currentRun => exact h
  | acquiring draft => exact Unsaved.keeps hkeeps (hother _ rfl) h
  | validating draft => exact Unsaved.keeps hkeeps (hother _ rfl) h
  | executing draft => exact Unsaved.keeps hkeeps (hother _ rfl) h
  | releasing draft result endedAt => exact Unsaved.keeps hkeeps (hother _ rfl) h
  | savingFailed draft attempt violations => exact ⟨h.1.keeps hkeeps (hother _ rfl), h.2⟩
  | savingAttempt draft attempt => exact ⟨h.1.keeps hkeeps (hother _ rfl), h.2⟩
  | savingRun draft attempt run => exact ⟨h.1.keeps hkeeps (hother _ rfl), h.2⟩

theorem WaitSound.keeps {pending : Σ call, (attemptCalls host runId).Wait call}
    (hkeeps : Keeps runId own stores stores') (hother : ∀ id, attemptId? pending = some id → some id ≠ own)
    (h : WaitSound stores pending) : WaitSound stores' pending := by
  obtain ⟨_ | _, wait⟩ := pending
  · exact ExecuteWait.Sound.keeps hkeeps hother h
  · exact h

theorem WaitSound.drawn {pending : Σ call, (attemptCalls host runId).Wait call} {id : String}
    (h : WaitSound stores pending) (hid : attemptId? pending = some id) : Held host runId stores id := by
  obtain ⟨_ | _, wait⟩ := pending
  · cases wait with
    | readingRun => cases hid
    | savingQueued queued => cases hid
    | savingLeased leased => cases hid
    | savingRunning running => cases hid
    | readingAgain => cases hid
    | readingCase currentRun => cases hid
    | acquiring draft => cases hid; exact h.toHeld
    | validating draft => cases hid; exact h.toHeld
    | executing draft => cases hid; exact h.toHeld
    | releasing draft result endedAt => cases hid; exact h.toHeld
    | savingFailed draft attempt violations => cases hid; exact h.1.toHeld
    | savingAttempt draft attempt => cases hid; exact h.1.toHeld
    | savingRun draft attempt run => cases hid; exact h.1
  · cases hid

end Keeping

section Stepping

variable [DecidableEq ι] {s t : Tasks (attemptCalls host runId) ι} {run run' : EvaluationRun} {client : ι}
  {call : AttemptCall}
  {result : ((attemptCalls host runId).Wait call ⊕ (attemptCalls host runId).Out call) × EvaluationStores}

theorem heldBy_after (other : ι) : heldBy (s.after client call result) other =
    if other = client then (pending? result).bind attemptId? else heldBy s other := by
  unfold heldBy
  rw [after_waiting]
  by_cases h : other = client
  · rw [h, Function.update_self, if_pos rfl]
  · rw [Function.update_of_ne h, if_neg h]

omit [DecidableEq ι] in
theorem BooksSound.held {id : String} (h : BooksSound s run) (hheld : heldBy s client = some id) :
    Held host runId s.world id := by
  obtain ⟨pending, hpending, hid⟩ := Option.bind_eq_some_iff.1 hheld
  exact (h.waits client pending hpending).drawn hid

theorem sound_after (h : BooksSound s run) (hstores : StoresSound host runId result.2 run')
    (hkeeps : Keeps runId (heldBy s client) s.world result.2)
    (hwait : ∀ pending, pending? result = some pending → WaitSound result.2 pending)
    (hheld : ∀ id, (pending? result).bind attemptId? = some id →
      heldBy s client = some id ∨ ∀ other, heldBy s other ≠ some id)
    (hlisted : ∀ a ∈ savedOf runId result.2, a.status = .succeeded → a.attemptId ∈ run'.attemptIds ∨
      (pending? result).bind attemptId? = some a.attemptId ∨
        ∃ other, other ≠ client ∧ heldBy s other = some a.attemptId) :
    BooksSound (s.after client call result) run' := by
  refine ⟨?_, fun other pending hpending => ?_, fun other other' id hother hother' => ?_, fun a ha hsucceeded => ?_⟩
  · rw [after_world]
    exact hstores
  · rw [after_world]
    rw [after_waiting] at hpending
    by_cases hclient : other = client
    · rw [hclient, Function.update_self] at hpending
      exact hwait pending hpending
    · rw [Function.update_of_ne hclient] at hpending
      refine (h.waits other pending hpending).keeps hkeeps fun id hid hown => hclient ?_
      exact h.apart other client id (Option.bind_eq_some_iff.2 ⟨pending, hpending, hid⟩) hown.symm
  · rw [heldBy_after] at hother hother'
    -- the client holds what it held, or what nobody held
    have hmine : ∀ other, other ≠ client → (pending? result).bind attemptId? = some id → heldBy s other ≠ some id := by
      intro other hne hid hheldBy
      rcases hheld id hid with hold | hnew
      · exact hne (h.apart other client id hheldBy hold)
      · exact hnew other hheldBy
    by_cases hclient : other = client
    · by_cases hclient' : other' = client
      · rw [hclient, hclient']
      · rw [if_pos hclient] at hother
        rw [if_neg hclient'] at hother'
        exact absurd hother' (hmine other' hclient' hother)
    · rw [if_neg hclient] at hother
      by_cases hclient' : other' = client
      · rw [if_pos hclient'] at hother'
        exact absurd hother (hmine other hclient hother')
      · rw [if_neg hclient'] at hother'
        exact h.apart other other' id hother hother'
  · rw [after_world] at ha
    rcases hlisted a ha hsucceeded with hmem | hmine | ⟨other, hne, hother⟩
    · exact .inl hmem
    · exact .inr ⟨client, by rw [heldBy_after, if_pos rfl]; exact hmine⟩
    · exact .inr ⟨other, by rw [heldBy_after, if_neg hne]; exact hother⟩

theorem StoresSound.get?_saved {stores : EvaluationStores} {a : RunAttempt} (h : StoresSound host runId stores run)
    (ha : a ∈ savedOf runId stores) : stores.attempts.get? a.attemptId = some a := by
  obtain ⟨hvalue, hrun⟩ := List.mem_filter.1 ha
  obtain ⟨id, hid⟩ := OrdMap.mem_values.1 hvalue
  rw [h.keyed id a hid (of_decide_eq_true hrun)]
  exact hid

theorem sound_kept (h : BooksSound s run) (hdrawn : s.world.drawn ≤ result.2.drawn)
    (hattempts : result.2.attempts = s.world.attempts) (hstored : result.2.runs.get? runId = some run')
    (hid : run'.runId = runId) (hids : run'.attemptIds = run.attemptIds)
    (hwait : ∀ pending, pending? result = some pending → WaitSound result.2 pending)
    (hheld : ∀ id, (pending? result).bind attemptId? = some id →
      heldBy s client = some id ∨ ∀ other, heldBy s other ≠ some id)
    (hleft : ∀ id, heldBy s client = some id →
      (pending? result).bind attemptId? = some id ∨ s.world.attempts.get? id = none) :
    BooksSound (s.after client call result) run' := by
  have hsaved : savedOf runId result.2 = savedOf runId s.world := by rw [savedOf, savedOf, hattempts]
  have hstores := h.stores
  refine sound_after h ?_ ?_ hwait hheld fun a ha hsucceeded => ?_
  · refine ⟨hstored, hid, hids ▸ hstores.nodup, fun id hmem => ?_, ?_, fun n hn => ?_, ?_⟩
    · obtain ⟨n, hn, hn'⟩ := hstores.listed id (hids ▸ hmem)
      exact ⟨n, lt_of_lt_of_le hn hdrawn, hn'⟩
    · rw [hattempts]
      exact hstores.keyed
    · rw [hattempts]
      exact hstores.unused n (le_trans hdrawn hn)
    · rw [hsaved]
      exact hstores.orders
  · refine ⟨hdrawn, fun id _ => by rw [hattempts], fun run'' hrun'' id hmem _ => ?_⟩
    cases hstored.symm.trans hrun''
    exact ⟨run, hstores.stored, hids ▸ hmem⟩
  · rw [hsaved] at ha
    rw [hids]
    rcases h.listed a ha hsucceeded with hmem | ⟨other, hother⟩
    · exact .inl hmem
    · by_cases hclient : other = client
      · rw [hclient] at hother
        rcases hleft _ hother with hstays | hnone
        · exact .inr (.inl hstays)
        · rw [hstores.get?_saved ha] at hnone
          cases hnone
      · exact .inr (.inr ⟨other, hclient, hother⟩)

theorem savedOf_set {stores : EvaluationStores} {attempt : RunAttempt} (hrun : attempt.runId = runId)
    (hnew : stores.attempts.get? attempt.attemptId = none) :
    savedOf runId { stores with attempts := stores.attempts.set attempt.attemptId attempt } =
      savedOf runId stores ++ [attempt] := by
  have hentries := OrdMap.entries_set_of_has_false (v := attempt) (OrdMap.has_eq_false_iff.2 hnew)
  rw [savedOf, OrdMap.values, hentries, List.map_append, List.filter_append]
  simp [savedOf, OrdMap.values, hrun]

theorem sound_recorded {draft : AttemptDraft} {attempt : RunAttempt} (h : BooksSound s run)
    (hinjective : Function.Injective host.uuid) (hheld : heldBy s client = some draft.attemptId)
    (hdraft : Unsaved host runId s.world draft) (hmade : MadeFrom runId draft attempt)
    (hcount : (savedOf runId s.world).length = draft.currentRun.attemptIds.length)
    (hworld : result.2 = { s.world with attempts := s.world.attempts.set attempt.attemptId attempt })
    (hwait : ∀ pending, pending? result = some pending → WaitSound result.2 pending)
    (hnext : (pending? result).bind attemptId? = some draft.attemptId ∨
      (pending? result).bind attemptId? = none ∧ attempt.status = .failed) :
    BooksSound (s.after client call result) run := by
  have hstores := h.stores
  have hsaved : savedOf runId result.2 = savedOf runId s.world ++ [attempt] := by
    rw [hworld]
    exact savedOf_set hmade.run (hmade.id ▸ hdraft.unsaved)
  have hget : ∀ id, result.2.attempts.get? id =
      if id = draft.attemptId then some attempt else s.world.attempts.get? id := by
    intro id
    rw [hworld, ← hmade.id]
    exact OrdMap.get?_set _ _ _ _
  have hruns : result.2.runs = s.world.runs := by rw [hworld]
  have hdrawn : result.2.drawn = s.world.drawn := by rw [hworld]
  refine sound_after h ?_ ?_ hwait (fun id hid => ?_) fun a ha hsucceeded => ?_
  · refine ⟨by rw [hruns]; exact hstores.stored, hstores.id, hstores.nodup, ?_, fun id a ha hrun => ?_, ?_, ?_⟩
    · rw [hdrawn]
      exact hstores.listed
    · rw [hget] at ha
      split at ha
      · rename_i hid
        cases ha
        rw [hid]
        exact hmade.id
      · exact hstores.keyed id a ha hrun
    · intro n hn
      rw [hdrawn] at hn
      rw [hget]
      split
      · rename_i hid
        obtain ⟨m, hm, hid'⟩ := hdraft.drawn
        have heq := hinjective (hid.trans hid')
        omega
      · exact hstores.unused n hn
    · rw [hsaved, List.map_append, hstores.orders, List.length_append, List.length_singleton, List.range_succ,
        List.map_singleton, hmade.order, hcount]
  · refine ⟨le_of_eq hdrawn.symm, fun id hid => ?_, fun run' hrun' id hmem _ => ?_⟩
    · have hne : id ≠ draft.attemptId := fun heq => hid (by rw [heq, hheld])
      rw [hget, if_neg hne]
    · rw [hruns] at hrun'
      exact ⟨run', hrun', hmem⟩
  · rcases hnext with hstays | ⟨hends, _⟩
    · rw [hstays] at hid
      exact .inl (hheld.trans hid)
    · rw [hends] at hid
      cases hid
  · rw [hsaved, List.mem_append, List.mem_singleton] at ha
    rcases ha with hold | rfl
    · rcases h.listed a hold hsucceeded with hmem | ⟨other, hother⟩
      · exact .inl hmem
      · refine .inr (.inr ⟨other, fun hclient => ?_, hother⟩)
        rw [hclient, hheld] at hother
        have hsome := hstores.get?_saved hold
        rw [← Option.some.inj hother, hdraft.unsaved] at hsome
        cases hsome
    · rcases hnext with hstays | ⟨_, hfailed⟩
      · rw [hmade.id]
        exact .inr (.inl hstays)
      · rw [hfailed] at hsucceeded
        cases hsucceeded

theorem get?_set_of_eq {runs : OrdMap String EvaluationRun} {updated : EvaluationRun} (hrun : updated.runId = runId) :
    (runs.set updated.runId updated).get? runId = some updated := by
  rw [hrun]
  exact OrdMap.get?_set_self _ _ _

theorem sound_listed {id : String} {updated : EvaluationRun} (h : BooksSound s run)
    (hheld : heldBy s client = some id) (hrun : updated.runId = runId) (hids : updated.attemptIds = run.attemptIds ++ [id])
    (hworld : result.2 = { s.world with runs := s.world.runs.set updated.runId updated })
    (hends : pending? result = none) : BooksSound (s.after client call result) updated := by
  have hstores := h.stores
  have hmine := h.held hheld
  have hattempts : result.2.attempts = s.world.attempts := by rw [hworld]
  have hdrawn : result.2.drawn = s.world.drawn := by rw [hworld]
  have hstored : result.2.runs.get? runId = some updated := by
    rw [hworld]
    exact get?_set_of_eq hrun
  have hsaved : savedOf runId result.2 = savedOf runId s.world := by rw [savedOf, savedOf, hattempts]
  refine sound_after h ?_ ?_ (fun pending hpending => by rw [hends] at hpending; cases hpending)
    (fun id' hid' => by rw [hends] at hid'; cases hid') fun a ha hsucceeded => ?_
  · refine ⟨hstored, hrun, ?_, fun id' hmem => ?_, ?_, ?_, ?_⟩
    · rw [hids, ← List.concat_eq_append]
      exact List.Nodup.concat (hmine.unlisted run hstores.stored) hstores.nodup
    · rw [hids, List.mem_append, List.mem_singleton] at hmem
      rw [hdrawn]
      rcases hmem with hmem | rfl
      · exact hstores.listed id' hmem
      · exact hmine.drawn
    · rw [hattempts]
      exact hstores.keyed
    · rw [hattempts, hdrawn]
      exact hstores.unused
    · rw [hsaved]
      exact hstores.orders
  · refine ⟨le_of_eq hdrawn.symm, fun id' _ => by rw [hattempts], fun run' hrun' id' hmem hne => ?_⟩
    cases hstored.symm.trans hrun'
    rw [hids, List.mem_append, List.mem_singleton] at hmem
    rcases hmem with hmem | rfl
    · exact ⟨run, hstores.stored, hmem⟩
    · exact absurd hheld.symm hne
  · rw [hsaved] at ha
    rw [hids]
    rcases h.listed a ha hsucceeded with hmem | ⟨other, hother⟩
    · exact .inl (List.mem_append_left _ hmem)
    · by_cases hclient : other = client
      · rw [hclient, hheld] at hother
        rw [← Option.some.inj hother]
        exact .inl (List.mem_append_right _ List.mem_cons_self)
      · exact .inr (.inr ⟨other, hclient, hother⟩)

/-! ## Every section -/

theorem statusMoves_of_stored {stores stores' : EvaluationStores} (hstored : stores.runs.get? runId = some run)
    (hstored' : stores'.runs.get? runId = some run')
    (hstatus : run'.status = run.status ∨ run'.status ∈ runTransitions run.status) :
    StatusMoves runId stores stores' := by
  intro status h
  rw [statusOf, hstored] at h
  cases h
  exact ⟨run'.status, by rw [statusOf, hstored']; rfl, hstatus⟩

def Books (runId : String) (s t : Tasks (attemptCalls host runId) ι) : Prop :=
  (∃ run, BooksSound t run) ∧ StatusMoves runId s.world t.world

theorem books_same (h : BooksSound s run) (hworld : result.2 = s.world)
    (hwait : ∀ pending, pending? result = some pending → WaitSound s.world pending)
    (hheld : ∀ id, (pending? result).bind attemptId? = some id →
      heldBy s client = some id ∨ ∀ other, heldBy s other ≠ some id)
    (hleft : ∀ id, heldBy s client = some id →
      (pending? result).bind attemptId? = some id ∨ s.world.attempts.get? id = none) :
    Books runId s (s.after client call result) := by
  have hstored : result.2.runs.get? runId = some run := by rw [hworld]; exact h.stores.stored
  refine ⟨⟨run, sound_kept h (le_of_eq (by rw [hworld])) (by rw [hworld]) hstored h.stores.id rfl ?_ hheld hleft⟩, ?_⟩
  · rw [hworld]
    exact hwait
  · rw [after_world]
    exact statusMoves_of_stored h.stores.stored hstored (.inl rfl)

theorem books_idle (h : BooksSound s run) (hworld : result.2 = s.world) (hnone : heldBy s client = none)
    (hwait : ∀ pending, pending? result = some pending → WaitSound s.world pending)
    (hnext : (pending? result).bind attemptId? = none) : Books runId s (s.after client call result) := by
  refine books_same h hworld hwait (fun id hid => ?_) fun id hid => ?_
  · rw [hnext] at hid
    cases hid
  · rw [hnone] at hid
    cases hid

theorem books_saved {written : EvaluationRun} {saved : Saved} {statuses : List RunStatus} (h : BooksSound s run)
    (hnone : heldBy s client = none) (hrun : written.runId = runId)
    (hfresh : ∀ u, saved = .ok u → StoredAs runId s.world written statuses)
    (hmoves : ∀ status ∈ statuses, written.status = status ∨ written.status ∈ runTransitions status)
    (hworld : result.2 = s.world.saveRun written saved)
    (hwait : ∀ pending, pending? result = some pending → WaitSound result.2 pending)
    (hnext : (pending? result).bind attemptId? = none) : Books runId s (s.after client call result) := by
  cases saved with
  | error violations =>
      have hsame : result.2 = s.world := hworld
      rw [hsame] at hwait
      exact books_idle h hsame hnone hwait hnext
  | ok u =>
      have hworld' : result.2 = { s.world with runs := s.world.runs.set written.runId written } := hworld
      obtain ⟨run', hrun', hids, hstatus⟩ := hfresh u rfl
      cases h.stores.stored.symm.trans hrun'
      have hstored : result.2.runs.get? runId = some written := by
        rw [hworld']
        exact get?_set_of_eq hrun
      refine ⟨⟨written, sound_kept h (le_of_eq (by rw [hworld'])) (by rw [hworld']) hstored hrun hids.symm hwait ?_ ?_⟩,
        ?_⟩
      · intro id hid
        rw [hnext] at hid
        cases hid
      · intro id hid
        rw [hnone] at hid
        cases hid
      · rw [after_world]
        exact statusMoves_of_stored h.stores.stored hstored (hmoves run.status hstatus)

theorem books_unsaved {draft : AttemptDraft} (h : BooksSound s run) (hheld : heldBy s client = some draft.attemptId)
    (hdraft : Unsaved host runId s.world draft) (hworld : result.2 = s.world)
    (hwait : ∀ pending, pending? result = some pending → WaitSound s.world pending ∧
      attemptId? pending = some draft.attemptId) :
    Books runId s (s.after client call result) := by
  refine books_same h hworld (fun pending hpending => (hwait pending hpending).1) (fun id hid => .inl ?_)
    fun id hid => .inr ?_
  · obtain ⟨pending, hpending, hid⟩ := Option.bind_eq_some_iff.1 hid
    rw [hheld, ← hid, (hwait pending hpending).2]
  · rw [← Option.some.inj (hheld.symm.trans hid)]
    exact hdraft.unsaved

variable {caseRef : String} {seed : ℚ}

theorem books_recordResult {draft : AttemptDraft} {answer : EvaluationResult RunnerOutput} {endedAt : String}
    (h : BooksSound s run) (hheld : heldBy s client = some draft.attemptId)
    (hdraft : Unsaved host runId s.world draft) :
    Books runId s (s.after client (.execute caseRef seed)
      (recordResult host runId caseRef seed draft answer endedAt s.world :
        ((attemptCalls host runId).Wait (.execute caseRef seed) ⊕ (attemptCalls host runId).Out (.execute caseRef seed)) ×
          EvaluationStores)) := by
  cases answer with
  | error violations =>
      refine books_unsaved h hheld hdraft rfl fun pending hpending => ?_
      cases hpending
      exact ⟨⟨hdraft, ⟨rfl, rfl, rfl⟩, rfl⟩, rfl⟩
  | ok output =>
      refine books_unsaved h hheld hdraft rfl fun pending hpending => ?_
      cases hpending
      exact ⟨⟨hdraft, ⟨rfl, rfl, rfl⟩⟩, rfl⟩

theorem books_drawn (draft : AttemptDraft) (h : BooksSound s run) (hinjective : Function.Injective host.uuid)
    (hnone : heldBy s client = none) (hid : draft.attemptId = host.uuid s.world.drawn)
    (hrun : draft.currentRun.runId = runId) (hworld : result.2 = { s.world with drawn := s.world.drawn + 4 })
    (hwait : ∀ pending, pending? result = some pending → attemptId? pending = some draft.attemptId ∧
      (Unsaved host runId result.2 draft → WaitSound result.2 pending)) :
    Books runId s (s.after client call result) := by
  have hstored : result.2.runs.get? runId = some run := by rw [hworld]; exact h.stores.stored
  have hunsaved : Unsaved host runId result.2 draft := by
    rw [hworld]
    refine ⟨⟨⟨s.world.drawn, Nat.lt_add_of_pos_right (by decide), hid⟩, fun run' hrun' hmem => ?_⟩, hrun, ?_⟩
    · cases h.stores.stored.symm.trans hrun'
      obtain ⟨n, hn, heq⟩ := h.stores.listed _ hmem
      have := hinjective (hid.symm.trans heq)
      omega
    · rw [hid]
      exact h.stores.unused _ le_rfl
  refine ⟨⟨run, sound_kept h (by rw [hworld]; exact Nat.le_add_right _ _) (by rw [hworld]) hstored h.stores.id rfl
    (fun pending hpending => (hwait pending hpending).2 hunsaved) (fun id hpending => .inr fun other hother => ?_)
    fun id hid' => ?_⟩, ?_⟩
  · obtain ⟨pending, hpending, hid'⟩ := Option.bind_eq_some_iff.1 hpending
    rw [(hwait pending hpending).1] at hid'
    obtain ⟨n, hn, heq⟩ := (h.held hother).drawn
    have := hinjective (hid.symm.trans ((Option.some.inj hid').trans heq))
    omega
  · rw [hnone] at hid'
    cases hid'
  · rw [after_world]
    exact statusMoves_of_stored h.stores.stored hstored (.inl rfl)

theorem moveRun_ok {moved : EvaluationRun} {target : RunStatus} {saving : EvaluationRun → ExecuteWait}
    {stores : EvaluationStores} (h : target ∈ runTransitions moved.status) :
    moveRun moved target saving stores = (.inl (saving { moved with status := target }), stores) := by
  rw [moveRun, transitionRun, transition, if_pos h]

/-- What each section of `executeAttempt` does to the books. -/
theorem books_execute (hinjective : Function.Injective host.uuid) (h : BooksSound s run) {wait : ExecuteWait}
    {resp : wait.Resp} (waits : s.waiting client = some ⟨.execute caseRef seed, wait⟩)
    (hfresh : ExecuteWait.Fresh runId s.world wait resp) :
    Books runId s (s.after client (.execute caseRef seed)
      ((attemptCalls host runId).resume (.execute caseRef seed) wait resp s.world)) := by
  have hsound : ExecuteWait.Sound host runId s.world wait := h.waits client _ waits
  have hheld : heldBy s client = ExecuteWait.attemptId? wait := by rw [heldBy, waits]; rfl
  have hstored := h.stores.stored
  cases wait with
  | readingRun =>
      by_cases hadmitted : run.status = .admitted
      · have hresult : (attemptCalls host runId).resume (.execute caseRef seed) ExecuteWait.readingRun resp s.world =
            (.inl (ExecuteWait.savingQueued { run with status := .queued }), s.world) := by
          show executeResume host runId caseRef seed s.world .readingRun () = _
          simp only [executeResume, hstored, if_pos hadmitted]
          exact moveRun_ok (by rw [hadmitted]; decide)
        rw [hresult]
        refine books_idle h rfl hheld (fun pending hpending => ?_) rfl
        cases hpending
        exact ⟨h.stores.id, rfl⟩
      · by_cases hrunning : run.status = .running
        · have hresult : (attemptCalls host runId).resume (.execute caseRef seed) ExecuteWait.readingRun resp s.world =
              (.inl ExecuteWait.readingAgain, s.world) := by
            show executeResume host runId caseRef seed s.world .readingRun () = _
            simp only [executeResume, hstored, if_neg hadmitted]
            rw [if_neg (not_not.2 hrunning)]
            rfl
          rw [hresult]
          refine books_idle h rfl hheld (fun pending hpending => ?_) rfl
          cases hpending
          trivial
        · have hresult : (attemptCalls host runId).resume (.execute caseRef seed) ExecuteWait.readingRun resp s.world =
              (.inr (Settled.fulfilled (refuse .runNotAdmitted "run.status"
                s!"Run is not in executable state: {run.status.name}")), s.world) := by
            show executeResume host runId caseRef seed s.world .readingRun () = _
            simp only [executeResume, hstored, if_neg hadmitted]
            rw [if_pos hrunning]
            rfl
          rw [hresult]
          exact books_idle h rfl hheld (fun pending hpending => nomatch hpending) rfl
  | savingQueued queued =>
      obtain ⟨hrun, hstatus⟩ := hsound
      have hstoredAs : ∀ u, resp = Except.ok u → StoredAs runId s.world queued [.admitted, .queued] := by
        rintro u rfl
        exact hfresh
      have hresult : (attemptCalls host runId).resume (.execute caseRef seed) (ExecuteWait.savingQueued queued) resp
          s.world = (.inl (ExecuteWait.savingLeased { queued with status := .leased }), s.world.saveRun queued resp) :=
        moveRun_ok (by rw [hstatus]; decide)
      rw [hresult]
      refine books_saved h hheld hrun hstoredAs ?_ rfl (fun pending hpending => ?_) rfl
      · rw [hstatus]
        decide
      · cases hpending
        exact ⟨hrun, rfl⟩
  | savingLeased leased =>
      obtain ⟨hrun, hstatus⟩ := hsound
      have hstoredAs : ∀ u, resp = Except.ok u → StoredAs runId s.world leased [.queued, .leased] := by
        rintro u rfl
        exact hfresh
      have hresult : (attemptCalls host runId).resume (.execute caseRef seed) (ExecuteWait.savingLeased leased) resp
          s.world = (.inl (ExecuteWait.savingRunning { leased with status := .running }), s.world.saveRun leased resp) :=
        moveRun_ok (by rw [hstatus]; decide)
      rw [hresult]
      refine books_saved h hheld hrun hstoredAs ?_ rfl (fun pending hpending => ?_) rfl
      · rw [hstatus]
        decide
      · cases hpending
        exact ⟨hrun, rfl⟩
  | savingRunning running =>
      obtain ⟨hrun, hstatus⟩ := hsound
      have hstoredAs : ∀ u, resp = Except.ok u → StoredAs runId s.world running [.leased, .running] := by
        rintro u rfl
        exact hfresh
      refine books_saved h hheld hrun hstoredAs ?_ rfl (fun pending hpending => ?_) rfl
      · rw [hstatus]
        decide
      · cases hpending
        trivial
  | readingAgain =>
      have hresult : (attemptCalls host runId).resume (.execute caseRef seed) ExecuteWait.readingAgain resp s.world =
          (.inl (ExecuteWait.readingCase run), s.world) := by
        show executeResume host runId caseRef seed s.world .readingAgain () = _
        simp only [executeResume, hstored]
        rfl
      rw [hresult]
      refine books_idle h rfl hheld (fun pending hpending => ?_) rfl
      cases hpending
      exact h.stores.id
  | readingCase currentRun =>
      obtain ⟨benchmarkCase, now⟩ := resp
      refine books_drawn ⟨currentRun, runnerConfig currentRun caseRef seed benchmarkCase, now,
        host.uuid s.world.drawn, host.uuid (s.world.drawn + 1), host.uuid (s.world.drawn + 2),
        host.uuid (s.world.drawn + 3)⟩ h hinjective hheld rfl hsound rfl fun pending hpending => ?_
      cases hcoordinator : host.hasLeaseCoordinator
      · simp only [attemptCalls, comap, evaluationEngine, AttemptCall.call, executeResume, hcoordinator] at hpending
        cases hpending
        exact ⟨rfl, id⟩
      · simp only [attemptCalls, comap, evaluationEngine, AttemptCall.call, executeResume, hcoordinator] at hpending
        cases hpending
        exact ⟨rfl, id⟩
  | acquiring draft =>
      cases resp with
      | error violations => exact books_unsaved h hheld hsound rfl fun pending hpending => nomatch hpending
      | ok grant =>
          refine books_unsaved h hheld hsound rfl fun pending hpending => ?_
          cases hpending
          exact ⟨⟨hsound.toHeld, hsound.run, hsound.unsaved⟩, rfl⟩
  | validating draft =>
      cases resp with
      | true =>
          refine books_unsaved h hheld hsound rfl fun pending hpending => ?_
          cases hpending
          exact ⟨hsound, rfl⟩
      | false => exact books_unsaved h hheld hsound rfl fun pending hpending => nomatch hpending
  | executing draft =>
      obtain ⟨answer, endedAt⟩ := resp
      cases hcoordinator : host.hasLeaseCoordinator
      · have hresult : (attemptCalls host runId).resume (.execute caseRef seed) (ExecuteWait.executing draft)
            (answer, endedAt) s.world = recordResult host runId caseRef seed draft answer endedAt s.world := by
          show executeResume host runId caseRef seed s.world (.executing draft) (answer, endedAt) = _
          simp only [executeResume, hcoordinator, Bool.false_eq_true, if_false]
        rw [hresult]
        exact books_recordResult h hheld hsound
      · have hresult : (attemptCalls host runId).resume (.execute caseRef seed) (ExecuteWait.executing draft)
            (answer, endedAt) s.world = (.inl (ExecuteWait.releasing draft answer endedAt), s.world) := by
          show executeResume host runId caseRef seed s.world (.executing draft) (answer, endedAt) = _
          simp only [executeResume, hcoordinator, if_true]
          rfl
        rw [hresult]
        refine books_unsaved h hheld hsound rfl fun pending hpending => ?_
        cases hpending
        exact ⟨hsound, rfl⟩
  | releasing draft answer endedAt => exact books_recordResult h hheld hsound
  | savingFailed draft attempt violations =>
      obtain ⟨hdraft, hmade, hfailed⟩ := hsound
      cases resp with
      | error refused => exact books_unsaved h hheld hdraft rfl fun pending hpending => nomatch hpending
      | ok saved =>
          refine ⟨⟨run, sound_recorded h hinjective hheld hdraft hmade hfresh rfl
            (fun pending hpending => nomatch hpending) (.inr ⟨rfl, hfailed⟩)⟩, ?_⟩
          rw [after_world]
          exact statusMoves_of_stored hstored hstored (.inl rfl)
  | savingAttempt draft attempt =>
      obtain ⟨hdraft, hmade⟩ := hsound
      cases resp with
      | error refused => exact books_unsaved h hheld hdraft rfl fun pending hpending => nomatch hpending
      | ok saved =>
          refine ⟨⟨run, sound_recorded h hinjective hheld hdraft hmade hfresh rfl (fun pending hpending => ?_) (.inl rfl)⟩,
            ?_⟩
          · cases hpending
            exact ⟨⟨hdraft.drawn, hdraft.unlisted⟩, hdraft.run, rfl, rfl⟩
          · rw [after_world]
            exact statusMoves_of_stored hstored hstored (.inl rfl)
  | savingRun draft attempt updated =>
      obtain ⟨hmine, hrun, hstatus, hids⟩ := hsound
      cases resp with
      | error refused => exact absurd hfresh not_false
      | ok saved =>
          obtain ⟨run', hrun', hids', hmoves⟩ := hfresh
          cases hstored.symm.trans hrun'
          rw [← hids'] at hids
          refine ⟨⟨updated, sound_listed h hheld hrun hids rfl rfl⟩, ?_⟩
          rw [after_world]
          refine statusMoves_of_stored hstored (get?_set_of_eq hrun) ?_
          rw [hstatus]
          revert hmoves
          cases run.status <;> decide

/-- What each section of `completeRun` does to the books. -/
theorem books_complete (h : BooksSound s run) {wait : CompleteWait} {resp : wait.Resp}
    (waits : s.waiting client = some ⟨.complete, wait⟩) (hfresh : CompleteWait.Fresh runId s.world wait resp) :
    Books runId s (s.after client .complete ((attemptCalls host runId).resume .complete wait resp s.world)) := by
  have hsound : CompleteWait.Sound runId wait := h.waits client _ waits
  have hheld : heldBy s client = none := by rw [heldBy, waits]; rfl
  cases wait with
  | readingRun =>
      cases htransition : transitionRun run.status .collecting with
      | error violations =>
          have hresult : (attemptCalls host runId).resume .complete CompleteWait.readingRun resp s.world =
              (.inr (.error violations), s.world) := by
            show completeResume runId s.world .readingRun resp = _
            simp only [completeResume, h.stores.stored, htransition]
            rfl
          rw [hresult]
          exact books_idle h rfl hheld (fun pending hpending => nomatch hpending) rfl
      | ok status =>
          have hresult : (attemptCalls host runId).resume .complete CompleteWait.readingRun resp s.world =
              (.inl (CompleteWait.savingRun run { run with status, endedAt := some resp }), s.world) := by
            show completeResume runId s.world .readingRun resp = _
            simp only [completeResume, h.stores.stored, htransition]
            rfl
          rw [hresult]
          refine books_idle h rfl hheld (fun pending hpending => ?_) rfl
          cases hpending
          exact ⟨h.stores.id, (transition_eq_ok.1 htransition).2, rfl⟩
  | savingRun read written =>
      obtain ⟨hrun, hstatus, hids⟩ := hsound
      cases resp with
      | error refused => exact books_idle h rfl hheld (fun pending hpending => nomatch hpending) rfl
      | ok saved =>
          obtain ⟨run', hrun', hids', hmoves⟩ := hfresh
          refine books_saved h hheld hrun (fun u hu => ⟨run', hrun', hids'.trans hids.symm, hmoves⟩) ?_
            (show _ = s.world.saveRun written (.ok saved) from rfl) (fun pending hpending => nomatch hpending) rfl
          rw [hstatus]
          decide

theorem books_step {l : TaskLabel (attemptCalls host runId) ι} (hinjective : Function.Injective host.uuid)
    (h : BooksSound s run) (hstep : Step (attemptCalls host runId) s l t) (hfresh : WritesFresh s l t) :
    Books runId s t := by
  cases hstep with
  | @start client call idle =>
      have hheld : heldBy s client = none := by rw [heldBy, idle]; rfl
      cases call with
      | execute caseRef seed =>
          refine books_idle h rfl hheld (fun pending hpending => ?_) rfl
          cases hpending
          trivial
      | complete =>
          refine books_idle h rfl hheld (fun pending hpending => ?_) rfl
          cases hpending
          trivial
  | @resume client call wait resp waits =>
      cases call with
      | execute caseRef seed => exact books_execute hinjective h waits hfresh
      | complete => exact books_complete h waits hfresh

omit [DecidableEq ι] in
theorem BooksSound.right (h : BooksSound s run) : BooksRight runId s := by
  refine ⟨?_, fun hidle a ha hsucceeded => ⟨run, h.stores.stored, ?_⟩⟩
  · rw [h.stores.orders]
    exact List.nodup_range
  · rcases h.listed a ha hsucceeded with hmem | ⟨client, hclient⟩
    · exact List.count_eq_one_of_mem h.stores.nodup hmem
    · rw [heldBy, hidle client] at hclient
      cases hclient

end Stepping

/-! ## All runs -/

/-- The run is admitted, and nothing was done on it; identifiers that were not drawn are not used. -/
structure NewlyAdmitted (host : EngineHost) (runId : String) (stores : EvaluationStores) : Prop where
  admitted : ∃ run, stores.runs.get? runId = some run ∧ run.runId = runId ∧ run.status = .admitted ∧ run.attemptIds = []
  unsaved : savedOf runId stores = []
  unused : ∀ n, stores.drawn ≤ n → stores.attempts.get? (host.uuid n) = none

theorem books_idle_start {world : EvaluationStores} (h : NewlyAdmitted host runId world) :
    ∃ run, BooksSound (Tasks.idle (attemptCalls host runId) ι world) run := by
  obtain ⟨run, hstored, hid, _, hids⟩ := h.admitted
  refine ⟨run, ⟨hstored, hid, ?_, fun id hmem => ?_, fun id a ha hrun => ?_, h.unused, ?_⟩,
    (fun client pending hpending => nomatch hpending), (fun client client' id hheld => nomatch hheld), fun a ha => ?_⟩
  · rw [hids]
    exact List.nodup_nil
  · rw [hids] at hmem
    cases hmem
  · have hmem : a ∈ savedOf runId world :=
      List.mem_filter.2 ⟨OrdMap.mem_values.2 ⟨id, ha⟩, decide_eq_true hrun⟩
    rw [h.unsaved] at hmem
    cases hmem
  · show (savedOf runId world).map _ = List.range (savedOf runId world).length
    rw [h.unsaved]
    rfl
  · have hmem : a ∈ savedOf runId world := ha
    rw [h.unsaved] at hmem
    cases hmem

def AfterRunning (status : RunStatus) : Prop :=
  status ∉ [RunStatus.planned, .admitted, .queued, .leased, .running]

instance : DecidablePred AfterRunning := fun _ => inferInstanceAs (Decidable (_ ∉ _))

theorem AfterRunning.moves {status status' : RunStatus} (h : AfterRunning status)
    (hmoves : status' = status ∨ status' ∈ runTransitions status) : AfterRunning status' := by
  revert h hmoves
  cases status <;> cases status' <;> decide

theorem not_running_of_moves [DecidableEq ι] {s t : Tasks (attemptCalls host runId) ι}
    {labels : List (TaskLabel (attemptCalls host runId) ι)} (hrun : Run (Step (attemptCalls host runId)) s labels t)
    (hmoves : Run.Every (Step (attemptCalls host runId)) (fun s _ t => StatusMoves runId s.world t.world) s labels)
    (hcollecting : statusOf runId s.world = some .collecting) : statusOf runId t.world ≠ some .running := by
  have hafter : ∃ status, statusOf runId t.world = some status ∧ AfterRunning status := by
    have hstep : ∀ (s : Tasks (attemptCalls host runId) ι) (_ : TaskLabel (attemptCalls host runId) ι)
        (t : Tasks (attemptCalls host runId) ι), StatusMoves runId s.world t.world →
          (∃ status, statusOf runId s.world = some status ∧ AfterRunning status) →
            ∃ status, statusOf runId t.world = some status ∧ AfterRunning status := by
      rintro s _ t hmove ⟨status, hstatus, hafter⟩
      obtain ⟨status', hstatus', hmoved⟩ := hmove status hstatus
      exact ⟨status', hstatus', hafter.moves hmoved⟩
    exact hrun.invariant_of_every hmoves (fun s l t _ hmove => hstep s l t hmove) ⟨.collecting, hcollecting, by decide⟩
  obtain ⟨status, hstatus, hafter⟩ := hafter
  rw [hstatus]
  rintro ⟨rfl⟩
  exact absurd hafter (by decide)

/-- From a newly admitted run, on identifiers that are not drawn twice: calls that write no stale record keep its
books. -/
theorem books_kept [DecidableEq ι] {world : EvaluationStores} {labels : List (TaskLabel (attemptCalls host runId) ι)}
    (hinjective : Function.Injective host.uuid) (hadmitted : NewlyAdmitted host runId world)
    (hfresh : Run.Every (Step (attemptCalls host runId)) WritesFresh (Tasks.idle (attemptCalls host runId) ι world)
      labels) : KeepsBooks (Tasks.idle (attemptCalls host runId) ι world) labels := by
  have hstep : ∀ (s : Tasks (attemptCalls host runId) ι) (l : TaskLabel (attemptCalls host runId) ι)
      (t : Tasks (attemptCalls host runId) ι), Step (attemptCalls host runId) s l t → WritesFresh s l t →
        (∃ run, BooksSound s run) → ∃ run, BooksSound t run :=
    fun s l t hstep hl ⟨run, h⟩ => (books_step hinjective h hstep hl).1
  have hsound : ∀ pre post s, labels = pre ++ post →
      Run (Step (attemptCalls host runId)) (Tasks.idle (attemptCalls host runId) ι world) pre s →
        ∃ run, BooksSound s run := by
    rintro pre post s rfl hrun
    exact hrun.invariant_of_every hfresh.front hstep (books_idle_start hadmitted)
  have hmoves : Run.Every (Step (attemptCalls host runId)) (fun s _ t => StatusMoves runId s.world t.world)
      (Tasks.idle (attemptCalls host runId) ι world) labels := by
    rintro pre l post s t heq hrun hstep
    obtain ⟨run, h⟩ := hsound pre (l :: post) s heq hrun
    exact (books_step hinjective h hstep (hfresh pre l post s t heq hrun hstep)).2
  refine ⟨fun pre post s heq hrun => ?_, hmoves, ?_⟩
  · obtain ⟨run, h⟩ := hsound pre post s heq hrun
    exact h.right
  · rintro pre mid post s t rfl hrun hmid hcollecting
    exact not_running_of_moves hmid (hmoves.front.rest hrun) hcollecting

/-! ## A failed attempt and the next one -/

/-- The texts of one letter are told apart by their lengths. -/
def letters (n : Nat) : String := String.ofList (List.replicate n 'x')

theorem letters_injective : Function.Injective letters := by
  intro n m h
  have hlists := congrArg List.length (String.ofList_injective h)
  rwa [List.length_replicate, List.length_replicate] at hlists

def plainHost : EngineHost where
  print _ := ""
  dateParse _ := none
  uuid := letters
  hasLeaseCoordinator := false

def admittedRun : EvaluationRun := ⟨"run", "plan", "digest", "subject", .admitted, [], none, some "monday", none, "digest"⟩

def admittedStores : EvaluationStores := ⟨.empty, OrdMap.empty.set "run" admittedRun, .empty, 0⟩

theorem admittedStores_new : NewlyAdmitted plainHost "run" admittedStores :=
  ⟨⟨admittedRun, rfl, rfl, rfl, rfl⟩, rfl, fun _ _ => rfl⟩

def plainOutput : RunnerOutput := ⟨[], "trace", 1, ⟨0, 0, 0⟩, ⟨0, 0⟩, ⟨0, 0, 0, 0, "USD", []⟩, "done", "environment", "digest"⟩

def answering (answer : EvaluationResult RunnerOutput) : (call : AttemptCall) →
    (wait : (attemptCalls plainHost "run").Wait call) → (attemptCalls plainHost "run").Resp call wait
  | .execute _ _, .readingRun => ()
  | .execute _ _, .savingQueued _ => .ok ()
  | .execute _ _, .savingLeased _ => .ok ()
  | .execute _ _, .savingRunning _ => .ok ()
  | .execute _ _, .readingAgain => ()
  | .execute _ _, .readingCase _ => (none, "now")
  | .execute _ _, .acquiring _ => .error []
  | .execute _ _, .validating _ => true
  | .execute _ _, .executing _ => (answer, "then")
  | .execute _ _, .releasing .. => ()
  | .execute _ _, .savingFailed .. => .ok ()
  | .execute _ _, .savingAttempt .. => .ok ()
  | .execute _ _, .savingRun .. => .ok ()
  | .complete, .readingRun => "then"
  | .complete, .savingRun .. => .ok ()

/-- A call of `executeAttempt`, cut into `n` further sections. -/
def attemptMoves (answer : EvaluationResult RunnerOutput) (n : Nat) : List (Unit × Move (attemptCalls plainHost "run")) :=
  ((), .start (.execute "case" 1)) :: List.replicate n ((), .resume (answering answer))

def completeMoves : List (Unit × Move (attemptCalls plainHost "run")) :=
  ((), .start .complete) :: List.replicate 2 ((), .resume (answering (.error [])))

/-- An attempt fails, and the next one, on the same run, succeeds: both are the first in the order. -/
theorem failed_attempt_takes_order : ∃ labels : List (TaskLabel (attemptCalls plainHost "run") Unit),
    NewlyAdmitted plainHost "run" admittedStores ∧ Function.Injective plainHost.uuid ∧
      ¬ KeepsBooks (Tasks.idle (attemptCalls plainHost "run") Unit admittedStores) labels := by
  have htrace : (((Tasks.idle (attemptCalls plainHost "run") Unit admittedStores).trace? (fun _ _ => true)
      (attemptMoves (.error []) 8 ++ attemptMoves (.ok plainOutput) 6)).any fun result =>
        (savedOf "run" result.2.world).map (·.executionOrder) = [0, 0]) = true := by
    decide +kernel
  obtain ⟨⟨labels, t⟩, hsome, hresult⟩ := (Option.any_eq_true _ _).1 htrace
  refine ⟨labels, admittedStores_new, letters_injective, fun h => ?_⟩
  have horders := (h.right labels [] t (List.append_nil labels).symm (run_of_trace? hsome).1).orders
  rw [of_decide_eq_true hresult] at horders
  exact absurd horders (by decide)

/-- Two attempts and then the completion, one after the other. -/
theorem calls_in_turn_keep_books : ∃ (labels : List (TaskLabel (attemptCalls plainHost "run") Unit))
    (t : Tasks (attemptCalls plainHost "run") Unit),
    Run (Step (attemptCalls plainHost "run")) (Tasks.idle (attemptCalls plainHost "run") Unit admittedStores) labels t ∧
      statusOf "run" t.world = some .collecting ∧ (savedOf "run" t.world).length = 2 ∧
        KeepsBooks (Tasks.idle (attemptCalls plainHost "run") Unit admittedStores) labels := by
  have htrace : (((Tasks.idle (attemptCalls plainHost "run") Unit admittedStores).trace?
      (fun s l => decide (WritesFresh s l s))
      (attemptMoves (.ok plainOutput) 9 ++ attemptMoves (.ok plainOutput) 6 ++ completeMoves)).any fun result =>
        statusOf "run" result.2.world = some .collecting && (savedOf "run" result.2.world).length = 2) = true := by
    decide +kernel
  obtain ⟨⟨labels, t⟩, hsome, hresult⟩ := (Option.any_eq_true _ _).1 htrace
  simp only [Bool.and_eq_true, decide_eq_true_eq] at hresult
  obtain ⟨hrun, hevery⟩ := run_of_trace? hsome
  refine ⟨labels, t, hrun, hresult.1, hresult.2, books_kept letters_injective admittedStores_new
    (hevery.mono fun _ s l t _ _ hfresh => ?_)⟩
  cases l with
  | start client call => trivial
  | resume client call wait resp => cases call <;> exact of_decide_eq_true hfresh

end Cantilune.Evaluation
