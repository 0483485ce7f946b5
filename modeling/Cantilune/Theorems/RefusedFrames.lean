import Cantilune.Theorems.InboundConsumption

/-!
# What a refused frame leaves behind

The checks of the ingress refuse a frame before anything is recorded. Behind the replay protector the inbox, the
consumer and the limit of the backlog refuse too, and what was recorded by then stays.
-/

namespace Cantilune

open Sections StrictWireCodec

variable {host : IngressHost} {w w' : IngressWorld} {bytes : Option WireFrame} {context : TransportContext}
  {store : CommsStore}

/-! ## Traces -/

def IngressWorld.acknowledgements (w : IngressWorld) : List CommsEventEnvelope :=
  w.comms.emitted.filter fun event => event.kind = .messageAcknowledged

/-- What makes a frame that comes again look like a second one is as it was. -/
structure Traceless (w w' : IngressWorld) : Prop where
  seen : w'.seen = w.seen
  inbox : w'.comms.store.inbox = w.comms.store.inbox
  deliveries : w'.comms.store.deliveries = w.comms.store.deliveries
  idempotency : w'.comms.store.idempotency = w.comms.store.idempotency
  acknowledgements : w'.acknowledgements = w.acknowledgements

def RefusalTraceless {call : IngressCall} (steps : List (CallSection (ingressServices host) call))
    (result : Settled IngressResult) : Prop :=
  ∀ violation, result = .resolved (.error violation) → ∀ step ∈ steps, Traceless step.before step.after

def KeyFree (store : CommsStore) (envelope : CommunicationEnvelope) : Prop :=
  ∀ digest, store.idempotency.get? (inboxKey envelope) = some digest → digest = envelope.integrityDigest

def WithinBacklog (w : IngressWorld) : Prop := w.comms.store.inbox.length ≤ CommsLimits.maxInboxBacklog

/-- An envelope that has passed the checks is refused neither by the inbox nor for the backlog, nor by the
consumer. -/
def AcceptsRecorded (host : IngressHost) (w : IngressWorld) : (wait : IngressWait) → wait.Resp → Prop
  | .verifying object, response => ∀ peer, response = .resolved (.ok peer) → PassesChecks host w object peer →
      computeEnvelopeIntegrityDigest host.sha256 object ∉ w.seen →
        KeyFree w.comms.store object.envelope ∧ (FindsReplay w.comms.store object.envelope → WithinBacklog w)
  | .consuming _, response => (∀ violation, response ≠ .resolved (.error violation)) ∧
      (response = .resolved (.ok ()) → WithinBacklog w)
  | .unconsumed _, _ => WithinBacklog w

abbrev FrameSection (host : IngressHost) (bytes : Option WireFrame) (context : TransportContext) : Type :=
  CallSection (ingressServices host) (.acceptInboundFrame bytes context)

def SectionAccepts : FrameSection host bytes context → Prop
  | .start _ => True
  | .resume wait response w => AcceptsRecorded host w wait response

/-! ## The sections -/

section Store
variable {input : InboxAcceptInput}

theorem appendInbox_conflict_iff (hkey : input.idempotencyKey = inboxKey input.envelope) :
    (store.appendInbox input).1 = .conflict ↔ ¬ KeyFree store input.envelope := by
  unfold CommsStore.appendInbox CommsStore.claimIdempotency KeyFree
  rw [hkey]
  cases hget : store.idempotency.get? (inboxKey input.envelope) with
  | none => by_cases hdelivered : (store.deliveries.get? input.envelope.messageId).isSome <;> simp [hdelivered]
  | some digest => by_cases hdigest : digest = input.envelope.integrityDigest <;> simp [hdigest]

end Store

namespace CommsIngress

theorem refuse_traceless {violation : CommsViolation} : Traceless w (refuse host violation w).2 where
  seen := rfl
  inbox := rfl
  deliveries := rfl
  idempotency := rfl
  acknowledgements := by
    have hemitted : (refuse host violation w).2.comms.emitted = w.comms.emitted ++
        [{ eventId := "evt-sec-" ++ host.dateNow w.comms.readings, storeSequence := w.comms.store.sequence + 1
           kind := .securityRejected, occurredAt := host.clock w.comms.readings, correlationId := none
           occurrenceId := none, payload := [("reason", violation.code.name)] }] := rfl
    unfold IngressWorld.acknowledgements
    rw [hemitted, List.filter_append]
    exact List.append_nil _

theorem acceptInboundFrame_traceless : Traceless w (acceptInboundFrame host bytes context w).2 ∧
    ((∃ violation, (acceptInboundFrame host bytes context w).1 = .inr (.resolved (.error violation))) ∨
      ∃ object, (acceptInboundFrame host bytes context w).1 = .inl (.verifying object)) := by
  rcases @acceptInboundFrame_cases host w bytes context with ⟨violation, h⟩ | ⟨violation, h⟩ | ⟨_, object, -, -, h⟩
  · rw [h]
    exact ⟨⟨rfl, rfl, rfl, rfl, rfl⟩, .inl ⟨_, rfl⟩⟩
  · rw [h]
    exact ⟨refuse_traceless, .inl ⟨_, rfl⟩⟩
  · rw [h]
    exact ⟨⟨rfl, rfl, rfl, rfl, rfl⟩, .inr ⟨object, rfl⟩⟩

theorem acknowledge_error_iff {frame : InboxFrame} {inboxResult : PersistResult} :
    (∃ violation, (acknowledge host frame inboxResult w).1 = .inr (.resolved (.error violation))) ↔
      ¬ WithinBacklog w := by
  rw [acknowledge_notes.2.2.2, WithinBacklog, Nat.not_le]
  by_cases hbacklog : CommsLimits.maxInboxBacklog < w.comms.store.inbox.length
  · rw [if_pos hbacklog]
    exact iff_of_true ⟨_, rfl⟩ hbacklog
  · rw [if_neg hbacklog]
    exact iff_of_false (fun ⟨_, h⟩ => nomatch h) hbacklog

theorem received_seen {frame : InboxFrame} : (received host frame w).2.seen ≠ w.seen := by
  rw [received_enters.seen]
  intro h
  have hlength := congrArg List.length h
  rw [List.length_append, List.length_singleton] at hlength
  omega

theorem received_error_iff {frame : InboxFrame} :
    (∃ violation, (received host frame w).1 = .inr (.resolved (.error violation))) ↔
      ¬ (KeyFree w.comms.store frame.object.envelope ∧
        (FindsReplay w.comms.store frame.object.envelope → WithinBacklog w)) := by
  rw [received_eq]
  have hconflict : (inboxAnswer host frame w).1 = .conflict ↔ ¬ KeyFree w.comms.store frame.object.envelope :=
    appendInbox_conflict_iff rfl
  have hreplay := @inboxAnswer_replay_iff host w frame
  cases hanswer : (inboxAnswer host frame w).1 with
  | conflict => exact iff_of_true ⟨_, rfl⟩ fun h => hconflict.1 hanswer h.1
  | idempotentReplay =>
      rw [hanswer] at hconflict hreplay
      have hkey : KeyFree w.comms.store frame.object.envelope := by
        by_contra hkey
        exact nomatch hconflict.2 hkey
      have hinbox : WithinBacklog (afterInbox host frame w) ↔ WithinBacklog w := by
        unfold WithinBacklog afterInbox
        have hkeeps : (inboxAnswer host frame w).2.inbox = w.comms.store.inbox :=
          (appendInbox_uncommitted fun h => nomatch hanswer.symm.trans h).2
        rw [hkeeps]
      have herror := @acknowledge_error_iff host (afterInbox host frame w) frame .idempotentReplay
      refine herror.trans (not_congr (hinbox.trans ?_))
      exact ⟨fun h => ⟨hkey, fun _ => h⟩, fun h => h.2 (hreplay.1 rfl)⟩
  | committed =>
      rw [hanswer] at hconflict hreplay
      refine iff_of_false ?_ (not_not_intro ⟨?_, fun h => nomatch hreplay.2 h⟩)
      · rintro ⟨violation, h⟩
        unfold inboxAnswered at h
        cases hconsumer : host.runtimeConsumer with
        | true =>
            simp only [hconsumer, if_true] at h
            cases h
        | false =>
            simp only [hconsumer, Bool.false_eq_true, if_false] at h
            cases h
      · by_contra hkey
        exact nomatch hconflict.2 hkey

theorem received_waits {frame : InboxFrame} {wait : IngressWait} (h : (received host frame w).1 = .inl wait) :
    wait = .consuming frame ∨ wait = .unconsumed frame := by
  rcases received_enters.cases with ⟨_, _, _, violation, hout⟩ | ⟨_, _, _, out, hout⟩ |
    ⟨_, _, _, ⟨hout, _⟩ | ⟨hout, _⟩⟩
  · exact nomatch hout.symm.trans h
  · exact nomatch hout.symm.trans h
  · exact .inl (Sum.inl.inj (h.symm.trans hout))
  · exact .inr (Sum.inl.inj (h.symm.trans hout))

end CommsIngress

/-! ## The courses of a call -/

section Courses

open CommsIngress

/-- What a section does with a frame that has been decoded. -/
structure Resumed (host : IngressHost) (w : IngressWorld) (wait : IngressWait) (response : wait.Resp)
    (result : (IngressWait ⊕ Settled IngressResult) × IngressWorld) : Prop where
  /-- What was recorded before it is not refused. -/
  accepts : AcceptsRecorded host w wait response → (∃ violation, result.1 = .inr (.resolved (.error violation))) →
    (∃ object, wait = .verifying object) ∧ Traceless w result.2
  refuses : ¬ AcceptsRecorded host w wait response → ∃ violation, result.1 = .inr (.resolved (.error violation))
  records : (¬ AcceptsRecorded host w wait response ∨ ∃ next, result.1 = .inl next) →
    (∃ object, wait = .verifying object) → result.2.seen ≠ w.seen
  waits : ∀ next, result.1 = .inl next → AcceptsRecorded host w wait response ∧ ∀ object, next ≠ .verifying object

theorem resumed_of_acknowledge {frame : InboxFrame} {inboxResult : PersistResult} {wait : IngressWait}
    {response : wait.Resp} {w' : IngressWorld} (hwithin : WithinBacklog w' ↔ AcceptsRecorded host w wait response)
    (hwait : ∀ object, wait ≠ .verifying object) :
    Resumed host w wait response (acknowledge host frame inboxResult w') where
  accepts h hout := absurd (hwithin.2 h) (acknowledge_error_iff.1 hout)
  refuses h := acknowledge_error_iff.2 fun hbacklog => h (hwithin.1 hbacklog)
  records _ := fun ⟨object, h⟩ => absurd h (hwait object)
  waits next h := by
    rw [acknowledge_notes.2.2.2] at h
    cases h

theorem resumed_of_received {object : EnvelopeObject} {peer : AuthenticatedPeerContext}
    (hpasses : PassesChecks host w object peer) (hunseen : computeEnvelopeIntegrityDigest host.sha256 object ∉ w.seen) :
    Resumed host w (.verifying object) (.resolved (.ok peer))
      (received host (inboxFrame host object peer) (afterReading w)) := by
  have hseen := @received_seen host (afterReading w) (inboxFrame host object peer)
  have herror := @received_error_iff host (afterReading w) (inboxFrame host object peer)
  have haccepts : AcceptsRecorded host w (.verifying object) (.resolved (.ok peer)) ↔
      (KeyFree w.comms.store object.envelope ∧ (FindsReplay w.comms.store object.envelope → WithinBacklog w)) :=
    ⟨fun h => h peer rfl hpasses hunseen, fun h _ _ _ _ => h⟩
  have hwaits := @received_waits host (afterReading w) (inboxFrame host object peer)
  generalize received host (inboxFrame host object peer) (afterReading w) = result at hseen herror hwaits
  refine
    { accepts := fun h hout => absurd (haccepts.1 h) (herror.1 hout)
      refuses := fun h => herror.2 fun hmet => h (haccepts.2 hmet), records := fun _ _ => hseen
      waits := fun next h => ⟨?_, fun object' heq => ?_⟩ }
  · by_contra hnot
    obtain ⟨violation, hout⟩ := herror.2 fun hmet => hnot (haccepts.2 hmet)
    exact nomatch hout.symm.trans h
  · rcases hwaits h with rfl | rfl
    · cases heq
    · cases heq

theorem resumed (wait : IngressWait) (response : wait.Resp) :
    Resumed host w wait response (resume host wait response w) := by
  cases wait with
  | unconsumed frame =>
      unfold CommsIngress.resume consumed
      exact resumed_of_acknowledge Iff.rfl fun object h => by cases h
  | consuming frame =>
      rcases response with (violation | _) | reason
      · have hnot : ¬ AcceptsRecorded host w (.consuming frame) (.resolved (.error violation)) :=
          fun h => h.1 violation rfl
        exact
          { accepts := fun h => absurd h hnot, refuses := fun _ => ⟨violation, rfl⟩
            records := fun _ ⟨_, h⟩ => (nomatch h), waits := fun _ h => (nomatch h) }
      · have hwithin : AcceptsRecorded host w (.consuming frame) (.resolved (.ok ())) ↔ WithinBacklog w :=
          ⟨fun h => h.2 rfl, fun h => ⟨fun _ heq => (nomatch heq), fun _ => h⟩⟩
        have hrun : resume host (.consuming frame) (.resolved (.ok ())) w = consumed host frame (.ok ())
            { w with inbound := w.inbound ++ [.consumed frame.object.envelope (.resolved (.ok ()))] } := rfl
        rw [hrun]
        unfold consumed
        exact resumed_of_acknowledge hwithin.symm fun object h => by cases h
      · have haccepts : AcceptsRecorded host w (.consuming frame) (.rejected reason) :=
          ⟨fun _ heq => (nomatch heq), fun heq => (nomatch heq)⟩
        exact
          { accepts := fun _ ⟨_, h⟩ => (nomatch h), refuses := fun h => absurd haccepts h
            records := fun _ ⟨_, h⟩ => (nomatch h), waits := fun _ h => (nomatch h) }
  | verifying object =>
      cases @resume_verified host w object response with
      | rejected reason hresponse hresult =>
          subst hresponse
          have haccepts : AcceptsRecorded host w (.verifying object) (.rejected reason) := fun _ h => nomatch h
          rw [hresult]
          exact
            { accepts := fun _ ⟨_, h⟩ => (nomatch h), refuses := fun h => absurd haccepts h
              records := fun h => h.elim (fun h => absurd haccepts h) fun ⟨_, h⟩ => (nomatch h)
              waits := fun _ h => (nomatch h) }
      | refused violation w' hunchanged hresult hseen =>
          have haccepts : AcceptsRecorded host w (.verifying object) response :=
            fun peer hpeer hpasses hunseen => absurd (hseen peer hpeer hpasses) hunseen
          have htraceless : Traceless w (refuse host violation w').2 := by
            rcases hunchanged with rfl | rfl
            · exact refuse_traceless
            · have h := @refuse_traceless host (afterReading w) violation
              exact ⟨h.seen, h.inbox, h.deliveries, h.idempotency, h.acknowledgements⟩
          rw [hresult]
          exact
            { accepts := fun _ _ => ⟨⟨object, rfl⟩, htraceless⟩, refuses := fun h => absurd haccepts h
              records := fun h => h.elim (fun h => absurd haccepts h) fun ⟨_, h⟩ => (nomatch h)
              waits := fun _ h => (nomatch h) }
      | received peer hresponse hpasses hunseen hresult =>
          subst hresponse
          rw [hresult]
          exact resumed_of_received hpasses hunseen

structure Waits (steps : List (FrameSection host bytes context))
    (wait : IngressWait) : Prop where
  accepts : ∀ step ∈ steps, SectionAccepts step
  traceless : ∀ object, wait = .verifying object → ∀ step ∈ steps, Traceless step.before step.after
  recorded : (∀ object, wait ≠ .verifying object) → ∃ step ∈ steps, ¬ Traceless step.before step.after

/-- What holds of the sections of a call that has ended. -/
structure Ends (steps : List (FrameSection host bytes context))
    (result : Settled IngressResult) : Prop where
  traceless : (∀ step ∈ steps, SectionAccepts step) → RefusalTraceless steps result
  refused : ¬ (∀ step ∈ steps, SectionAccepts step) →
    (∃ violation, result = .resolved (.error violation)) ∧ ∃ step ∈ steps, ¬ Traceless step.before step.after

def CourseHolds (steps : List (FrameSection host bytes context)) :
    IngressWait ⊕ Settled IngressResult → Prop
  | .inl wait => Waits steps wait
  | .inr result => Ends steps result

theorem courseHolds_start : CourseHolds [(.start w : FrameSection host bytes context)]
    (acceptInboundFrame host bytes context w).1 := by
  obtain ⟨htraceless, hends⟩ := @acceptInboundFrame_traceless host w bytes context
  have haccepts : ∀ step ∈ [(.start w : FrameSection host bytes context)], SectionAccepts step := by
    intro step hmem
    rw [List.mem_singleton.1 hmem]
    exact trivial
  have hall : ∀ step ∈ [(.start w : FrameSection host bytes context)], Traceless step.before step.after := by
    intro step hmem
    rw [List.mem_singleton.1 hmem]
    exact htraceless
  rcases hends with ⟨violation, hout⟩ | ⟨object, hout⟩
  · rw [hout]
    exact { traceless := fun _ _ _ => hall, refused := fun h => absurd haccepts h }
  · rw [hout]
    exact { accepts := haccepts, traceless := fun _ _ => hall, recorded := fun h => absurd rfl (h object) }

theorem forall_mem_snoc {α : Type} {P : α → Prop} {l : List α} {a : α} (h : ∀ x ∈ l, P x) (ha : P a) :
    ∀ x ∈ l ++ [a], P x := by
  intro x hmem
  rcases List.mem_append.1 hmem with hmem | hmem
  · exact h x hmem
  · rw [List.mem_singleton.1 hmem]
    exact ha

theorem courseHolds_resume {steps : List (FrameSection host bytes context)} {wait : IngressWait} (h : Waits steps wait)
    (response : wait.Resp) :
    CourseHolds (steps ++ [.resume wait response w]) (resume host wait response w).1 := by
  obtain ⟨haccepts, hrefuses, hrecords, hwaits⟩ := @resumed host w wait response
  have hlast : (.resume wait response w : FrameSection host bytes context) ∈ steps ++ [.resume wait response w] :=
    List.mem_append_right _ (List.mem_singleton.2 rfl)
  -- A section behind the verification follows one that has recorded the frame.
  have hrecorded : (¬ AcceptsRecorded host w wait response ∨ ∃ next, (resume host wait response w).1 = .inl next) →
      ∃ step ∈ steps ++ [(.resume wait response w : FrameSection host bytes context)],
        ¬ Traceless step.before step.after := by
    intro hcase
    by_cases hwait : ∃ object, wait = .verifying object
    · exact ⟨_, hlast, fun htraceless => hrecords hcase hwait htraceless.seen⟩
    · obtain ⟨step, hmem, hstep⟩ := h.recorded fun object heq => hwait ⟨object, heq⟩
      exact ⟨step, List.mem_append_left _ hmem, hstep⟩
  cases hout : (resume host wait response w).1 with
  | inl next =>
      obtain ⟨haccepted, hnext⟩ := hwaits next hout
      exact
        { accepts := forall_mem_snoc h.accepts haccepted, traceless := fun object heq => absurd heq (hnext object)
          recorded := fun _ => hrecorded (.inr ⟨next, hout⟩) }
  | inr result =>
      refine { traceless := fun hall violation hresult => ?_, refused := fun hnot => ?_ }
      · obtain ⟨⟨object, hwait⟩, htraceless⟩ := haccepts (hall _ hlast) ⟨violation, by rw [hout, hresult]⟩
        exact forall_mem_snoc (h.traceless object hwait) htraceless
      · have hlate : ¬ AcceptsRecorded host w wait response :=
          fun haccepted => hnot (forall_mem_snoc h.accepts haccepted)
        obtain ⟨violation, hviolation⟩ := hrefuses hlate
        exact ⟨⟨violation, Sum.inr.inj (hout.symm.trans hviolation)⟩, hrecorded (.inl hlate)⟩

theorem courseHolds {steps : List (FrameSection host bytes context)} {ended : IngressWait ⊕ Settled IngressResult}
    (h : Course (ingressServices host) (.acceptInboundFrame bytes context) steps ended) : CourseHolds steps ended := by
  induction h with
  | start => exact courseHolds_start
  | resume _ ih => exact courseHolds_resume ih _

end Courses

/-- A refused frame has left no trace exactly if what its sections recorded was accepted: the key was free, the
consumer did not refuse, and the inbox was within its limit. -/
theorem refusal_traceless_iff {steps : List (FrameSection host bytes context)} {result : Settled IngressResult}
    (h : Course (ingressServices host) (.acceptInboundFrame bytes context) steps (.inr result)) :
    RefusalTraceless steps result ↔ ∀ step ∈ steps, SectionAccepts step := by
  have hends : Ends steps result := courseHolds h
  refine ⟨fun htraceless => ?_, hends.traceless⟩
  by_contra hnot
  obtain ⟨⟨violation, hresult⟩, step, hmem, hstep⟩ := hends.refused hnot
  exact hstep (htraceless violation hresult step hmem)

/-! ## A consumer that refuses -/

section Sample

def sampleRefusal : CommsViolation := commsViolation .runtimeCommitFailed .ingress "not now"

def refusingAnswers : (wait : IngressWait) → wait.Resp
  | .verifying _ => .resolved (.ok { runtimeInstanceId := "rt", principal := (sampleReply false).sender })
  | .consuming _ => .resolved (.error sampleRefusal)
  | .unconsumed _ => ()

def refusedCourse : List (CallSection (ingressServices sampleIngressHost) (sampleFrame (sampleReply false))) ×
    (IngressWait ⊕ Settled IngressResult) × IngressWorld :=
  alone (ingressServices sampleIngressHost) (sampleFrame (sampleReply false)) refusingAnswers 2
    { comms := .empty, seen := [], inbound := [] }

def refusalOf : IngressWait ⊕ Settled IngressResult → Option CommsViolation
  | .inr (.resolved (.error violation)) => some violation
  | _ => none

/-- The consumer refuses, the frame stays in the inbox, and the replay protector keeps its digest. -/
theorem refused_frame_leaves_trace : ∃ steps result,
    Course (ingressServices sampleIngressHost) (sampleFrame (sampleReply false)) steps (.inr result) ∧
      ¬ RefusalTraceless steps result := by
  have hrefused : refusalOf refusedCourse.2.1 = some sampleRefusal := by decide +kernel
  have hseen : (refusedCourse.1.any fun step => decide (step.after.seen ≠ step.before.seen)) = true := by
    decide +kernel
  have hcourse : Course (ingressServices sampleIngressHost) (sampleFrame (sampleReply false)) refusedCourse.1
      refusedCourse.2.1 := alone_course
  obtain ⟨step, hmem, hstep⟩ := List.any_eq_true.1 hseen
  rcases hended : refusedCourse.2.1 with wait | (violation | result) | reason
  · rw [hended] at hrefused
    cases hrefused
  · rw [hended] at hcourse
    exact ⟨_, _, hcourse, fun h => of_decide_eq_true hstep (h violation rfl step hmem).seen⟩
  · rw [hended] at hrefused
    cases hrefused
  · rw [hended] at hrefused
    cases hrefused

/-- In a frozen runtime a frame is refused before anything is recorded. -/
theorem frozen_refusal_traceless :
    RefusalTraceless
      [(.start { comms := { CommsWorld.empty with frozen := true }, seen := [], inbound := [] } :
        FrameSection sampleIngressHost none
          { peerDescriptor := none, credentialRef := none, channelBindingMaterial := none, tlsVerified := none })]
      (.resolved (.error (commsViolation .commsFrozen .ingress "comms E-Stop active"))) :=
  (refusal_traceless_iff .start).2 fun step hmem => by
    rw [List.mem_singleton.1 hmem]
    exact trivial

end Sample

end Cantilune
