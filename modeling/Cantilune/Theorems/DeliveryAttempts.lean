import Cantilune.Lemmas.DeliveryCounts

/-!
# Bounded delivery attempts

A record counts the attempts of the drains that the transport answers, and those of a send that succeeds; what else
was tried for it in vain no record counts. And where a message id is used again, two records of the outbox share one
place to be written to. So the attempts of a sequential run are bounded where message ids are new and no drain takes
up a record whose lost calls, with its attempts, make up its budget.
-/

namespace Cantilune

open Sections

variable {host : CommsHost}

/-! ## What is counted -/

/-- The calls of the transport for each record of the outbox, those of them that no attempt counts, and the records
that have been handed over or been dead. -/
structure Attempts where
  calls : Nat → Nat
  lost : Nat → Nat
  done : Set Nat

def Attempts.none : Attempts := { calls := fun _ => 0, lost := fun _ => 0, done := ∅ }

/-- The record that the call under way waits for the transport for. -/
def pendingIndex? (s : Tasks (commsServices host) Unit) : Option Nat :=
  match s.waiting () with
  | some ⟨call, wait⟩ => CommsCall.index? s.world.store call wait
  | .none => .none

def calledFor (s t : Tasks (commsServices host) Unit) : Option Nat :=
  if dispatchCalls s.world.log < dispatchCalls t.world.log then pendingIndex? t else .none

def lostBy (s : Tasks (commsServices host) Unit) : TaskLabel (commsServices host) Unit → Option Nat
  | .start .. => .none
  | .resume _ call wait response => CommsCall.lost? s.world.store call wait response

def doneRecords (store : CommsStore) : Set Nat := { i | ∃ delivery, store.outbox[i]? = some delivery ∧ delivery.isDone }

def Attempts.next (s : Tasks (commsServices host) Unit) (l : TaskLabel (commsServices host) Unit)
    (t : Tasks (commsServices host) Unit) (h : Attempts) : Attempts :=
  { calls := bump h.calls (calledFor s t), lost := bump h.lost (lostBy s l), done := h.done ∪ doneRecords t.world.store }

abbrev AttemptStep (host : CommsHost) :
    Tasks (commsServices host) Unit × Attempts → TaskLabel (commsServices host) Unit →
      Tasks (commsServices host) Unit × Attempts → Prop :=
  Run.Recorded (Sections.Step (commsServices host)) Attempts.next

/-- No record has more calls than its budget, and none is called for again once it is done. -/
structure WithinBudget (p : Tasks (commsServices host) Unit × Attempts) (_ : TaskLabel (commsServices host) Unit)
    (q : Tasks (commsServices host) Unit × Attempts) : Prop where
  bounded : ∀ i, q.2.calls i ≤ CommsLimits.maxRetryAttempts
  final : ∀ i, calledFor p.1 q.1 = some i → i ∉ p.2.done

def SendsNew (s : Tasks (commsServices host) Unit) : TaskLabel (commsServices host) Unit → Prop
  | .start _ call => ∀ envelope, newSend? host s.world call = some envelope →
      s.world.store.deliveries.get? envelope.messageId = .none
  | .resume .. => True

def drainsOn (s : Tasks (commsServices host) Unit) : TaskLabel (commsServices host) Unit → List DeliveryRecord
  | .start _ .dispatchPending | .start _ .reconcile => if s.world.frozen then [] else s.world.store.outbox
  | .start .. => []
  | .resume _ call wait _ => CommsCall.goesOn call wait

/-- A drain takes up a due record whose attempts and lost calls make up its budget. -/
def Overruns (p : Tasks (commsServices host) Unit × Attempts) (l : TaskLabel (commsServices host) Unit) : Prop :=
  RestOverruns p.1.world p.2.lost (drainsOn p.1 l)

/-! ## The steps -/

def CommsCall.Awaits : (call : CommsCall) → call.Wait → CommsStore → (Nat → Nat) → Prop
  | .executeSend input, wait => SendWait.Awaits input wait
  | .send input, wait => ServiceWait.Awaits input wait
  | .dispatchPending, wait => DrainWait.Awaits wait
  | .reconcile, wait => ReconcileWait.Awaits wait
  | .setFrozen _, _ => fun _ _ => False

/-- The history counts what the records and the call under way say. -/
structure Counted (p : Tasks (commsServices host) Unit × Attempts) : Prop where
  refs : DistinctRefs p.1.world.store.outbox
  delivered : ∀ delivery ∈ p.1.world.store.outbox,
    (p.1.world.store.deliveries.get? delivery.envelopeRef).isSome
  counts : ∀ i delivery, p.1.world.store.outbox[i]? = some delivery →
    p.2.calls i = delivery.attempt + p.2.lost i + if pendingIndex? p.1 = some i then 1 else 0
  unused : ∀ i, p.1.world.store.outbox.length ≤ i → p.2.calls i = 0 ∧ p.2.lost i = 0
  inside : ∀ i, pendingIndex? p.1 = some i → i < p.1.world.store.outbox.length
  done : p.2.done ⊆ doneRecords p.1.world.store
  bounded : ∀ i, p.2.calls i ≤ CommsLimits.maxRetryAttempts
  waits : ∀ call wait, p.1.waiting () = some ⟨call, wait⟩ → CommsCall.Awaits call wait p.1.world.store p.2.lost

theorem start_advances {w : CommsWorld} {lost : Nat → Nat} {call : CommsCall} (h : ReadyToSend host call w lost)
    (client : Unit) (s : Tasks (commsServices host) Unit) (hs : s.world = w) :
    CountsOn (CommsCall.Awaits call) (fun store => CommsCall.index? store call) lost
      (RestOverruns w lost (drainsOn s (.start client call))) none none w ((commsServices host).start call w) := by
  subst hs
  cases call with
  | executeSend input => exact executeSend_advances h
  | send input => exact send_advances h
  | dispatchPending => exact dispatchPending_advances
  | reconcile => exact reconcile_advances
  | setFrozen frozen => exact .ended rfl rfl id rfl

theorem resume_advances {w : CommsWorld} {lost : Nat → Nat} {call : CommsCall} {wait : call.Wait}
    {response : call.Resp wait} (hrefs : DistinctRefs w.store.outbox)
    (hdelivered : ∀ d ∈ w.store.outbox, (w.store.deliveries.get? d.envelopeRef).isSome)
    (h : CommsCall.Awaits call wait w.store lost) :
    CountsOn (CommsCall.Awaits call) (fun store => CommsCall.index? store call) lost
      (RestOverruns w lost (CommsCall.goesOn call wait)) (CommsCall.index? w.store call wait)
      (CommsCall.lost? w.store call wait response) w ((commsServices host).resume call wait response w) := by
  have hlast : ∀ {input : ExecuteSendInput} {frame : SendFrame}, HoldsLast input frame w.store lost →
      (w.store.deliveries.get? input.envelope.messageId).isSome := by
    intro input frame hlast
    obtain ⟨before, houtbox⟩ := hlast.last
    rw [← hlast.ref]
    refine hdelivered _ ?_
    rw [houtbox]
    exact List.mem_append_right _ (List.mem_singleton.2 rfl)
  cases call with
  | executeSend input => exact resumeSend_advances hrefs (hlast h) h
  | send input =>
      cases wait with
      | saga wait => exact @resumeService_advances host lost w input (.saga wait) response hrefs (hlast h) h
      | transport delivery event verifiedAt => exact h.elim
  | dispatchPending => exact resumeDrain_advances hrefs hdelivered h
  | reconcile => exact resumeReconcile_advances hrefs hdelivered h
  | setFrozen frozen => exact Empty.elim wait

variable {s t : Tasks (commsServices host) Unit} {l : TaskLabel (commsServices host) Unit} {h : Attempts}

structure StepCounts (s : Tasks (commsServices host) Unit) (l : TaskLabel (commsServices host) Unit)
    (t : Tasks (commsServices host) Unit) (h : Attempts) : Prop where
  counts : Counts h.lost (Overruns (s, h) l) s.world.store.outbox s.world.log t.world (pendingIndex? s) (lostBy s l)
    (pendingIndex? t)
  waits : ∀ call wait, t.waiting () = some ⟨call, wait⟩ →
    CommsCall.Awaits call wait t.world.store (bump h.lost (lostBy s l))
  messages : KeepsMessages s.world.store t.world.store

theorem stepCounts_after {call : CommsCall}
    {result : ((commsServices host).Wait call ⊕ (commsServices host).Out call) × CommsWorld}
    (hadvances : CountsOn (CommsCall.Awaits call) (fun store => CommsCall.index? store call) h.lost
      (Overruns (s, h) l) (pendingIndex? s) (lostBy s l) s.world result)
    (hkeeps : KeepsMessages s.world.store result.2.store) : StepCounts s l (s.after () call result) h := by
  obtain ⟨wait | out, world⟩ := result
  · refine ⟨?_, fun call' wait' hwaits => ?_, hkeeps⟩
    · have hpending : pendingIndex? (s.after () call (.inl wait, world)) = CommsCall.index? world.store call wait := by
        unfold pendingIndex? Tasks.after
        simp only [Function.update_self]
      rw [hpending]
      exact hadvances.counts
    · unfold Tasks.after at hwaits
      simp only [Function.update_self, Option.some.injEq] at hwaits
      cases hwaits
      exact hadvances.next wait rfl
  · refine ⟨?_, fun call' wait' hwaits => ?_, hkeeps⟩
    · have hpending : pendingIndex? (s.after () call (.inr out, world)) = none := by
        unfold pendingIndex? Tasks.after
        simp only [Function.update_self]
      rw [hpending]
      exact hadvances.counts
    · unfold Tasks.after at hwaits
      simp only [Function.update_self] at hwaits
      cases hwaits

theorem step_stepCounts (hstep : Sections.Step (commsServices host) s l t) (hs : Counted (s, h)) (hnew : SendsNew s l) :
    StepCounts s l t h := by
  cases hstep with
  | @start client call hidle =>
      have hready : ReadyToSend host call s.world h.lost :=
        ⟨hs.delivered, hnew, (hs.unused _ (Nat.le_refl _)).2⟩
      have hadvances := start_advances hready client s rfl
      have hpending : pendingIndex? s = none := by
        unfold pendingIndex?
        rw [hidle]
      refine stepCounts_after ?_ (start_moves sendsAlong_keepsMessages call s.world)
      rw [hpending]
      exact hadvances
  | @resume client call wait response hwaits =>
      have hadvances := @resume_advances host s.world h.lost call wait response hs.refs hs.delivered
        (hs.waits call wait hwaits)
      have hpending : pendingIndex? s = CommsCall.index? s.world.store call wait := by
        unfold pendingIndex?
        rw [hwaits]
      refine stepCounts_after ?_ (resumeComms_moves sendsAlong_keepsMessages call wait response s.world)
      rw [hpending]
      exact hadvances

/-! ## The counts are kept -/

theorem calledFor_none (hcalls : dispatchCalls t.world.log = dispatchCalls s.world.log) : calledFor s t = .none :=
  if_neg (by rw [hcalls]; exact Nat.lt_irrefl _)

theorem next_uncalled (hcalls : dispatchCalls t.world.log = dispatchCalls s.world.log) :
    (Attempts.next s l t h).calls = h.calls := by
  change bump h.calls (calledFor s t) = h.calls
  rw [calledFor_none hcalls]
  rfl

theorem withinBudget_uncalled (hcalls : dispatchCalls t.world.log = dispatchCalls s.world.log)
    (hs : Counted (s, h)) : WithinBudget (s, h) l (t, Attempts.next s l t h) := by
  refine ⟨fun i => ?_, fun i hcalled => ?_⟩
  · rw [next_uncalled hcalls]
    exact hs.bounded i
  · rw [calledFor_none hcalls] at hcalled
    cases hcalled

theorem done_next (hs : Counted (s, h)) (hdone : doneRecords s.world.store ⊆ doneRecords t.world.store) :
    (Attempts.next s l t h).done ⊆ doneRecords t.world.store :=
  Set.union_subset (hs.done.trans hdone) subset_rfl

theorem delivered_of_refs (hs : Counted (s, h)) (hkeeps : KeepsMessages s.world.store t.world.store)
    (hrefs : t.world.store.outbox.map (·.envelopeRef) = s.world.store.outbox.map (·.envelopeRef)) :
    ∀ delivery ∈ t.world.store.outbox, (t.world.store.deliveries.get? delivery.envelopeRef).isSome := by
  intro delivery hmem
  have hold : delivery.envelopeRef ∈ s.world.store.outbox.map (·.envelopeRef) := by
    rw [← hrefs]
    exact List.mem_map_of_mem hmem
  obtain ⟨old, hmem', href⟩ := List.mem_map.1 hold
  exact hkeeps.deliveries _ (href ▸ hs.delivered old hmem')

section Kept
variable (hs : Counted (s, h)) (hc : StepCounts s l t h)
include hs hc

theorem counted_kept (records : List.Forall₂ SameAttempts s.world.store.outbox t.world.store.outbox)
    (calls : dispatchCalls t.world.log = dispatchCalls s.world.log) (loses : lostBy s l = pendingIndex? s)
    (ends : pendingIndex? t = .none) : Counted (t, Attempts.next s l t h) := by
  have hat : ∀ (i : Nat) delivery, t.world.store.outbox[i]? = some delivery →
      ∃ old, s.world.store.outbox[i]? = some old ∧ SameAttempts old delivery := by
    intro i delivery hget
    obtain ⟨hlt, rfl⟩ := List.getElem?_eq_some_iff.1 hget
    have hlt' : i < s.world.store.outbox.length := records.length_eq ▸ hlt
    exact ⟨_, List.getElem?_eq_getElem hlt', (List.forall₂_iff_get.1 records).2 i hlt' hlt⟩
  constructor
  · change DistinctRefs t.world.store.outbox
    unfold DistinctRefs
    rw [refs_eq records]
    exact hs.refs
  · exact delivered_of_refs hs hc.messages (refs_eq records)
  · intro i delivery hget
    obtain ⟨old, hold, hsame⟩ := hat i delivery hget
    have hcount := hs.counts i old hold
    rw [next_uncalled calls, hsame.attempt]
    change h.calls i = old.attempt + bump h.lost (lostBy s l) i + if pendingIndex? t = some i then 1 else 0
    unfold bump
    rw [loses, ends]
    simpa [Nat.add_assoc] using hcount
  · intro i hlength
    have hlength' : s.world.store.outbox.length ≤ i := by
      rw [records.length_eq]
      exact hlength
    rw [next_uncalled calls]
    refine ⟨(hs.unused i hlength').1, ?_⟩
    change h.lost i + (if lostBy s l = some i then 1 else 0) = 0
    have hne : lostBy s l ≠ some i := fun hlost => Nat.not_lt.2 hlength' (hs.inside i (loses ▸ hlost))
    rw [if_neg hne]
    exact (hs.unused i hlength').2
  · intro i hpending
    change pendingIndex? t = some i at hpending
    rw [ends] at hpending
    cases hpending
  · refine done_next hs ?_
    rintro i ⟨delivery, hget, hdone⟩
    obtain ⟨hlt, rfl⟩ := List.getElem?_eq_some_iff.1 hget
    have hlt' : i < t.world.store.outbox.length := records.length_eq ▸ hlt
    exact ⟨_, List.getElem?_eq_getElem hlt', ((List.forall₂_iff_get.1 records).2 i hlt hlt').done hdone⟩
  · rw [next_uncalled calls]
    exact hs.bounded
  · exact hc.waits

theorem counted_appended {delivery : DeliveryRecord}
    (records : t.world.store.outbox = s.world.store.outbox ++ [delivery])
    (new : delivery.envelopeRef ∉ s.world.store.outbox.map (·.envelopeRef))
    (delivered : (t.world.store.deliveries.get? delivery.envelopeRef).isSome) (attempt : delivery.attempt = 0)
    (calls : dispatchCalls t.world.log = dispatchCalls s.world.log) (starts : pendingIndex? s = .none)
    (loses : lostBy s l = .none) (ends : pendingIndex? t = .none) : Counted (t, Attempts.next s l t h) := by
  have hlost : (Attempts.next s l t h).lost = h.lost := by
    change bump h.lost (lostBy s l) = h.lost
    rw [loses]
    rfl
  constructor
  · change (t.world.store.outbox.map (·.envelopeRef)).Nodup
    rw [records, List.map_append, List.map_singleton]
    exact List.nodup_append.2 ⟨hs.refs, List.nodup_singleton _, fun _ hold _ hmem hsame =>
      new (List.mem_singleton.1 hmem ▸ hsame ▸ hold)⟩
  · intro d hmem
    change d ∈ t.world.store.outbox at hmem
    rw [records] at hmem
    rcases List.mem_append.1 hmem with hmem | hmem
    · exact hc.messages.deliveries _ (hs.delivered d hmem)
    · rw [List.mem_singleton.1 hmem]
      exact delivered
  · intro i d hget
    change t.world.store.outbox[i]? = some d at hget
    rw [records] at hget
    rw [next_uncalled calls, hlost]
    change h.calls i = d.attempt + h.lost i + if pendingIndex? t = some i then 1 else 0
    rw [ends]
    by_cases hlt : i < s.world.store.outbox.length
    · rw [List.getElem?_append_left hlt] at hget
      have hcount := hs.counts i d hget
      rw [starts] at hcount
      exact hcount
    · have hunused := hs.unused i (Nat.le_of_not_lt hlt)
      rw [List.getElem?_append_right (Nat.le_of_not_lt hlt)] at hget
      cases List.mem_singleton.1 (List.mem_of_getElem? hget)
      change h.calls i = 0 ∧ h.lost i = 0 at hunused
      rw [hunused.1, hunused.2, attempt]
      rfl
  · intro i hlength
    change t.world.store.outbox.length ≤ i at hlength
    rw [records, List.length_append] at hlength
    rw [next_uncalled calls, hlost]
    exact hs.unused i (Nat.le_trans (Nat.le_add_right _ _) hlength)
  · intro i hpending
    change pendingIndex? t = some i at hpending
    rw [ends] at hpending
    cases hpending
  · refine done_next hs ?_
    rintro i ⟨d, hget, hdone⟩
    refine ⟨d, ?_, hdone⟩
    rw [records, List.getElem?_append_left (List.getElem?_eq_some_iff.1 hget).1]
    exact hget
  · rw [next_uncalled calls]
    exact hs.bounded
  · exact hc.waits

theorem counted_counted {index : Nat} {delivery next : DeliveryRecord}
    (found : s.world.store.outbox[index]? = some delivery) (isOpen : delivery.isOpen = true)
    (records : t.world.store.outbox = s.world.store.outbox.set index next)
    (ref : next.envelopeRef = delivery.envelopeRef) (attempt : next.attempt = delivery.attempt + 1)
    (calls : dispatchCalls t.world.log = dispatchCalls s.world.log) (waited : pendingIndex? s = some index)
    (loses : lostBy s l = .none) (ends : pendingIndex? t = .none) : Counted (t, Attempts.next s l t h) := by
  have hlost : (Attempts.next s l t h).lost = h.lost := by
    change bump h.lost (lostBy s l) = h.lost
    rw [loses]
    rfl
  obtain ⟨hlt, hdelivery⟩ := List.getElem?_eq_some_iff.1 found
  have hrefs : t.world.store.outbox.map (·.envelopeRef) = s.world.store.outbox.map (·.envelopeRef) := by
    rw [records, List.map_set, ref, ← hdelivery]
    refine List.ext_getElem (by simp) fun i _ _ => ?_
    rw [List.getElem_set]
    split
    · rename_i hindex
      subst hindex
      simp
    · rfl
  constructor
  · change (t.world.store.outbox.map (·.envelopeRef)).Nodup
    rw [hrefs]
    exact hs.refs
  · exact delivered_of_refs hs hc.messages hrefs
  · intro i d hget
    change t.world.store.outbox[i]? = some d at hget
    rw [records, List.getElem?_set] at hget
    rw [next_uncalled calls, hlost]
    change h.calls i = d.attempt + h.lost i + if pendingIndex? t = some i then 1 else 0
    rw [ends]
    by_cases hindex : index = i
    · subst hindex
      rw [if_pos rfl, if_pos hlt] at hget
      cases hget
      have hcount := hs.counts index delivery found
      rw [if_pos waited] at hcount
      simp only [reduceCtorEq, if_false]
      change h.calls index = delivery.attempt + h.lost index + 1 at hcount
      omega
    · rw [if_neg hindex] at hget
      have hcount := hs.counts i d hget
      have hne : pendingIndex? s ≠ some i := fun hpending => hindex (Option.some_inj.1 (waited.symm.trans hpending))
      rw [if_neg hne] at hcount
      exact hcount
  · intro i hlength
    change t.world.store.outbox.length ≤ i at hlength
    rw [records, List.length_set] at hlength
    rw [next_uncalled calls, hlost]
    exact hs.unused i hlength
  · intro i hpending
    change pendingIndex? t = some i at hpending
    rw [ends] at hpending
    cases hpending
  · refine done_next hs ?_
    rintro i ⟨d, hget, hdone⟩
    have hne : index ≠ i := by
      rintro rfl
      rw [found] at hget
      cases hget
      rw [DeliveryRecord.not_done_of_open isOpen] at hdone
      cases hdone
    refine ⟨d, ?_, hdone⟩
    rw [records, List.getElem?_set_ne hne]
    exact hget
  · rw [next_uncalled calls]
    exact hs.bounded
  · exact hc.waits

theorem counted_called {index : Nat} {delivery : DeliveryRecord}
    (records : t.world.store.outbox = s.world.store.outbox)
    (calls : dispatchCalls t.world.log = dispatchCalls s.world.log + 1) (starts : pendingIndex? s = .none)
    (loses : lostBy s l = .none) (waits : pendingIndex? t = some index)
    (found : s.world.store.outbox[index]? = some delivery) (isOpen : delivery.isOpen = true) :
    (WithinBudget (s, h) l (t, Attempts.next s l t h) ↔
        ¬ CommsLimits.maxRetryAttempts ≤ delivery.attempt + h.lost index) ∧
      (¬ CommsLimits.maxRetryAttempts ≤ delivery.attempt + h.lost index → Counted (t, Attempts.next s l t h)) := by
  have hcalled : calledFor s t = some index := by
    unfold calledFor
    rw [if_pos (by rw [calls]; exact Nat.lt_succ_self _)]
    exact waits
  have hcalls : ∀ i, (Attempts.next s l t h).calls i = h.calls i + if index = i then 1 else 0 := by
    intro i
    change bump h.calls (calledFor s t) i = _
    rw [hcalled]
    unfold bump
    simp only [Option.some.injEq]
  have hlost : (Attempts.next s l t h).lost = h.lost := by
    change bump h.lost (lostBy s l) = h.lost
    rw [loses]
    rfl
  have hcount : h.calls index = delivery.attempt + h.lost index := by
    have hcount := hs.counts index delivery found
    rw [starts] at hcount
    exact hcount
  have hbounded : (∀ i, (Attempts.next s l t h).calls i ≤ CommsLimits.maxRetryAttempts) ↔
      ¬ CommsLimits.maxRetryAttempts ≤ delivery.attempt + h.lost index := by
    constructor
    · intro hall
      have hindex := hall index
      rw [hcalls, if_pos rfl] at hindex
      omega
    · intro hleft i
      rw [hcalls]
      have hi := hs.bounded i
      change h.calls i ≤ _ at hi
      split
      · rename_i hindex
        subst hindex
        omega
      · exact hi
  have hdone : index ∉ h.done := by
    intro hmem
    obtain ⟨d, hget, hdone⟩ := hs.done hmem
    change s.world.store.outbox[index]? = some d at hget
    rw [found] at hget
    cases hget
    rw [DeliveryRecord.not_done_of_open isOpen] at hdone
    cases hdone
  refine ⟨⟨fun hwithin => hbounded.1 hwithin.bounded, fun hleft => ⟨hbounded.2 hleft, ?_⟩⟩, fun hleft => ?_⟩
  · intro i hi
    change calledFor s t = some i at hi
    rw [hcalled] at hi
    cases hi
    exact hdone
  · constructor
    · change DistinctRefs t.world.store.outbox
      rw [records]
      exact hs.refs
    · exact delivered_of_refs hs hc.messages (by rw [records])
    · intro i d hget
      change t.world.store.outbox[i]? = some d at hget
      rw [records] at hget
      have hi := hs.counts i d hget
      rw [starts] at hi
      change h.calls i = d.attempt + h.lost i at hi
      rw [hcalls, hlost, hi]
      change _ = d.attempt + h.lost i + if pendingIndex? t = some i then 1 else 0
      rw [waits]
      simp only [Option.some.injEq]
    · intro i hlength
      change t.world.store.outbox.length ≤ i at hlength
      rw [records] at hlength
      have hne : index ≠ i := by
        rintro rfl
        exact Nat.not_lt.2 hlength (List.getElem?_eq_some_iff.1 found).1
      rw [hcalls, if_neg hne, hlost]
      exact hs.unused i hlength
    · intro i hpending
      change pendingIndex? t = some i at hpending
      rw [waits] at hpending
      cases hpending
      change index < t.world.store.outbox.length
      rw [records]
      exact (List.getElem?_eq_some_iff.1 found).1
    · refine done_next hs ?_
      unfold doneRecords
      rw [records]
    · exact hbounded.2 hleft
    · exact hc.waits

end Kept

theorem step_withinBudget_iff (hstep : Sections.Step (commsServices host) s l t) (hs : Counted (s, h))
    (hnew : SendsNew s l) :
    (WithinBudget (s, h) l (t, Attempts.next s l t h) ↔ ¬ Overruns (s, h) l) ∧
      (¬ Overruns (s, h) l → Counted (t, Attempts.next s l t h)) := by
  have hc := step_stepCounts hstep hs hnew
  cases hc.counts with
  | kept records calls loses ends within =>
      exact ⟨iff_of_true (withinBudget_uncalled calls hs) within, fun _ => counted_kept hs hc records calls loses ends⟩
  | appended delivery records new delivered attempt calls starts loses ends within =>
      exact ⟨iff_of_true (withinBudget_uncalled calls hs) within, fun _ =>
        counted_appended hs hc records new delivered attempt calls starts loses ends⟩
  | counted index delivery next found isOpen records ref attempt calls waited loses ends within =>
      exact ⟨iff_of_true (withinBudget_uncalled calls hs) within, fun _ =>
        counted_counted hs hc found isOpen records ref attempt calls waited loses ends⟩
  | called index delivery records calls starts loses waits found isOpen overruns =>
      rw [overruns]
      exact counted_called hs hc records calls starts loses waits found isOpen

def CommsWorld.withoutOutbox (world : CommsWorld) : CommsWorld := { world with store := { world.store with outbox := [] } }

theorem counted_idle {world : CommsWorld} :
    Counted (.idle (commsServices host) Unit world.withoutOutbox, .none) where
  refs := List.nodup_nil
  delivered := fun _ h => absurd h List.not_mem_nil
  counts := fun _ _ h => nomatch h
  unused := fun _ _ => ⟨rfl, rfl⟩
  inside := fun _ h => nomatch h
  done := Set.empty_subset _
  bounded := fun _ => Nat.zero_le _
  waits := fun _ _ h => nomatch h

/-- Among the sequential runs in which every message id that is sent is new, those in which no record is called for
more often than its budget allows, and none once it is done, are the ones in which no drain takes up a due record
whose attempts and lost calls make up its budget. -/
theorem attempts_bounded_iff (host : CommsHost) (world : CommsWorld)
    (labels : List (TaskLabel (commsServices host) Unit)) :
    Run.Every (AttemptStep host) (fun p l q => SendsNew p.1 l ∧ WithinBudget p l q)
        (.idle _ Unit world.withoutOutbox, .none) labels ↔
      Run.Every (AttemptStep host) (fun p l _ => SendsNew p.1 l ∧ ¬ Overruns p l)
        (.idle _ Unit world.withoutOutbox, .none) labels := by
  refine Run.every_congr_of_preserved (I := Counted) counted_idle ?_
  rintro ⟨s, h⟩ l ⟨t, h'⟩ ⟨hstep, hnext⟩ hs
  change h' = Attempts.next s l t h at hnext
  subst hnext
  refine ⟨and_congr_right fun hnew => (step_withinBudget_iff hstep hs hnew).1, fun hright => ?_⟩
  exact (step_withinBudget_iff hstep hs hright.1).2 hright.2

/-! ## A message id that is used again -/

theorem run_notes_done {p q : Tasks (commsServices host) Unit × Attempts}
    {labels : List (TaskLabel (commsServices host) Unit)} (hrun : Run (AttemptStep host) p labels q)
    (hp : doneRecords p.1.world.store ⊆ p.2.done) : doneRecords q.1.world.store ⊆ q.2.done := by
  refine hrun.invariant (I := fun q => doneRecords q.1.world.store ⊆ q.2.done) (fun m l m' hstep _ => ?_) hp
  rw [hstep.2]
  exact Set.subset_union_right

theorem run_keeps_done {p q : Tasks (commsServices host) Unit × Attempts}
    {labels : List (TaskLabel (commsServices host) Unit)} (hrun : Run (AttemptStep host) p labels q) :
    p.2.done ⊆ q.2.done := by
  refine hrun.related (R := fun p q => p.2.done ⊆ q.2.done) (fun _ => subset_rfl) (fun _ _ _ => Set.Subset.trans) ?_
  intro m l m' hstep
  rw [hstep.2]
  exact Set.subset_union_left

/-- Two sends of one message id under two keys are persisted, and a drain hands the first of them over. -/
def firstMoves : List (Unit × Sections.Move (commsServices sampleCommsHost)) :=
  [((), .start (.executeSend sampleSend)), ((), portAnswers (.rejected "unreachable")),
    ((), .start (.executeSend { sampleSend with idempotencyKey := "k'" })), ((), portAnswers (.rejected "unreachable")),
    ((), .start .dispatchPending), ((), portAnswers (.resolved (.ok "attempt")))]

def secondMoves : List (Unit × Sections.Move (commsServices sampleCommsHost)) :=
  [((), portAnswers (.rejected "unused")),
    ((), portAnswers (.resolved (.error (commsViolation .transportFailed .send "refused")))),
    ((), portAnswers (.rejected "unused"))]

/-- The failure of the second record is written into the first, which the next drain hands over again. -/
theorem handed_over_record_is_called_again : ∃ labels p l q,
    Run (AttemptStep sampleCommsHost) (.idle _ Unit CommsWorld.empty.withoutOutbox, .none) labels p ∧
      AttemptStep sampleCommsHost p l q ∧ ¬ WithinBudget p l q := by
  have hfacts : ((firstMoves.foldlM Tasks.next?
      (.idle (commsServices sampleCommsHost) Unit CommsWorld.empty.withoutOutbox)).bind fun s =>
        (secondMoves.foldlM Tasks.next? s).bind fun m => (m.next? ((), .start .dispatchPending)).map fun t =>
          (s.world.store.outbox[0]?.map DeliveryRecord.isDone, calledFor m t)) = some (some true, some 0) := by
    decide +kernel
  obtain ⟨s, hs, hfacts⟩ := Option.bind_eq_some_iff.1 hfacts
  obtain ⟨m, hm, hfacts⟩ := Option.bind_eq_some_iff.1 hfacts
  obtain ⟨t, ht, hfacts⟩ := Option.map_eq_some_iff.1 hfacts
  obtain ⟨hdone, hcalled⟩ := Prod.mk.inj hfacts
  obtain ⟨labels, hfirst⟩ := run_of_next? hs
  obtain ⟨labels', hsecond⟩ := run_of_next? hm
  obtain ⟨l, hstep⟩ := step_of_next? ht
  obtain ⟨h, hfirst⟩ : ∃ h, Run (AttemptStep sampleCommsHost) (_, .none) labels (s, h) := hfirst.recorded _
  obtain ⟨h', hsecond⟩ : ∃ h', Run (AttemptStep sampleCommsHost) (s, h) labels' (m, h') := hsecond.recorded _
  have hnoted : 0 ∈ h'.done := by
    refine run_keeps_done hsecond (run_notes_done hfirst ?_ ?_)
    · rintro i ⟨d, hget, _⟩
      cases hget
    · obtain ⟨d, hget, hd⟩ := Option.map_eq_some_iff.1 hdone
      exact ⟨d, hget, hd⟩
  have hlast : AttemptStep sampleCommsHost (m, h') l (t, Attempts.next m l t h') := ⟨hstep, rfl⟩
  exact ⟨_, _, _, _, hfirst.append hsecond, hlast, fun hwithin => hwithin.final 0 hcalled hnoted⟩

end Cantilune
