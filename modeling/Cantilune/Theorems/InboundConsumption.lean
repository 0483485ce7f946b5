import Cantilune.Comms.Ingress
import Cantilune.Theorems.EnvelopeRoundTrip

/-!
# What the consumer takes

Every envelope is offered to the consumer at most once. A frame that enters the inbox as a replay is acknowledged
although nobody has consumed it, and a frame whose consumption failed is refused as a duplicate when it comes again:
the ingress is exact on the runs without such frames.
-/

namespace Cantilune

open Sections StrictWireCodec

/-! ## What is asked of the ingress -/

def Consumed (envelope : CommunicationEnvelope) (inbound : List InboundEvent) : Prop :=
  .consumed envelope (.resolved (.ok ())) ∈ inbound

def ConsumptionFailed (envelope : CommunicationEnvelope) (inbound : List InboundEvent) : Prop :=
  ∃ response, .consumed envelope response ∈ inbound ∧ response ≠ .resolved (.ok ())

def InboundEvent.takes (messageId : MessageId) : InboundEvent → Bool
  | .consumed envelope (.resolved (.ok ())) => envelope.messageId = messageId
  | _ => false

variable {ι : Type} [DecidableEq ι] {host : IngressHost} {w : IngressWorld}

def IngressCall.reportsAccepted (host : IngressHost) : (call : IngressCall) → call.Out → Option CommunicationEnvelope
  | .acceptInboundFrame (some rawBytes) _, .resolved (.ok _) =>
      match StrictWireCodec.parseCommunicationWireFrame host.sha256 rawBytes with
      | .ok object => some object.envelope
      | .error _ => none
  | _, _ => none

/-- Only what the consumer has taken is acknowledged and reported as accepted, and it takes no message id twice. -/
structure ExactlyOnce (s : Tasks (ingressServices host) ι) : Prop where
  acknowledged : ∀ envelope, .acknowledged envelope ∈ s.world.inbound → Consumed envelope s.world.inbound
  accepted : ∀ ended ∈ s.ended, ∀ envelope, IngressCall.reportsAccepted host ended.1 ended.2 = some envelope →
    Consumed envelope s.world.inbound
  once : ∀ messageId, s.world.inbound.countP (InboundEvent.takes messageId) ≤ 1

def inboxFrame (host : IngressHost) (object : EnvelopeObject) (peer : AuthenticatedPeerContext) : InboxFrame :=
  { object, peer, digest := StrictWireCodec.computeEnvelopeIntegrityDigest host.sha256 object }

structure PassesChecks (host : IngressHost) (w : IngressWorld) (object : EnvelopeObject)
    (peer : AuthenticatedPeerContext) : Prop where
  fresh : CommsIngress.envelopeExpired host object.envelope (host.clock w.comms.readings) = false
  authorized : host.authorize (w.comms.readings + 1)
    { action := "ingress.receive", peer, roles := ["session-member"]
      resource := object.envelope.metadata.sessionId } = .ok ()
  sender : object.envelope.sender.actorId = peer.principal.actorId

def OffersAgain (host : IngressHost) (w w' : IngressWorld) : (wait : IngressWait) → wait.Resp → Prop
  | .verifying object, response => ∀ peer, response = .resolved (.ok peer) → PassesChecks host w object peer →
      ConsumptionFailed object.envelope w.inbound → w'.inbound = w.inbound ++ [.offered object.envelope]
  | .consuming _, _ => True
  | .unconsumed _, _ => True

def inboxKey (envelope : CommunicationEnvelope) : String :=
  envelope.metadata.idempotencyKey.getD envelope.metadata.correlationId

def FindsReplay (store : CommsStore) (envelope : CommunicationEnvelope) : Prop :=
  match store.idempotency.get? (inboxKey envelope) with
  | some digest => digest = envelope.integrityDigest
  | none => (store.deliveries.get? envelope.messageId).isSome

/-- A frame that the replay protector has not seen is new to the inbox, and none goes on without a consumer. -/
def AdmitsNew (host : IngressHost) (w : IngressWorld) : (wait : IngressWait) → wait.Resp → Prop
  | .verifying object, response => ∀ peer, response = .resolved (.ok peer) → PassesChecks host w object peer →
      object.envelope.integrityDigest ∉ w.seen → ¬ FindsReplay w.comms.store object.envelope
  | .consuming _, _ => True
  | .unconsumed _, _ => False

/-- No envelope whose consumption failed comes again. -/
def AdmitsNoFailure (host : IngressHost) (w : IngressWorld) : (wait : IngressWait) → wait.Resp → Prop
  | .verifying object, response => ∀ peer, response = .resolved (.ok peer) → PassesChecks host w object peer →
      ¬ ConsumptionFailed object.envelope w.inbound
  | .consuming _, _ => True
  | .unconsumed _, _ => True

/-- What is asked of a step with which a frame goes on. -/
def WhenResumed (P : (wait : IngressWait) → wait.Resp → Prop) : TaskLabel (ingressServices host) ι → Prop
  | .resume _ (.acceptInboundFrame ..) wait response => P wait response
  | _ => True

/-! ## The sections -/

section Store
variable {store : CommsStore} {input : InboxAcceptInput}

theorem appendInbox_replay_iff (hkey : input.idempotencyKey = inboxKey input.envelope) :
    (store.appendInbox input).1 = .idempotentReplay ↔ FindsReplay store input.envelope := by
  unfold CommsStore.appendInbox CommsStore.claimIdempotency FindsReplay
  rw [hkey]
  cases hget : store.idempotency.get? (inboxKey input.envelope) with
  | none => by_cases hdelivered : (store.deliveries.get? input.envelope.messageId).isSome <;> simp [hdelivered]
  | some digest => by_cases hdigest : digest = input.envelope.integrityDigest <;> simp [hdigest]

theorem appendInbox_committed (h : (store.appendInbox input).1 = .committed) :
    store.deliveries.get? input.envelope.messageId = none ∧
      (store.appendInbox input).2.deliveries = store.deliveries.set input.envelope.messageId input.delivery := by
  unfold CommsStore.appendInbox CommsStore.claimIdempotency at h ⊢
  cases hget : store.idempotency.get? input.idempotencyKey with
  | none =>
      rw [hget] at h
      cases hdelivered : store.deliveries.get? input.envelope.messageId with
      | none => simp [hdelivered]
      | some delivery => simp [hdelivered] at h
  | some digest =>
      rw [hget] at h
      by_cases hdigest : digest = input.envelope.integrityDigest <;> simp [hdigest] at h

theorem appendInbox_uncommitted (h : (store.appendInbox input).1 ≠ .committed) :
    (store.appendInbox input).2.deliveries = store.deliveries ∧ (store.appendInbox input).2.inbox = store.inbox := by
  unfold CommsStore.appendInbox CommsStore.claimIdempotency at h ⊢
  cases hget : store.idempotency.get? input.idempotencyKey with
  | none =>
      rw [hget] at h
      by_cases hdelivered : (store.deliveries.get? input.envelope.messageId).isSome
      · simp [hdelivered]
      · simp [hdelivered] at h
  | some digest => by_cases hdigest : digest = input.envelope.integrityDigest <;> simp [hdigest]

end Store

namespace CommsIngress

/-- A section that leaves the seen digests, the exchange with the consumer and the deliveries alone. -/
structure Leaves (w w' : IngressWorld) : Prop where
  seen : w'.seen = w.seen
  inbound : w'.inbound = w.inbound
  deliveries : w'.comms.store.deliveries = w.comms.store.deliveries

theorem refuse_leaves {violation : CommsViolation} :
    (refuse host violation w).1 = .inr (.resolved (.error violation)) ∧ Leaves w (refuse host violation w).2 :=
  ⟨rfl, rfl, rfl, rfl⟩

theorem acknowledge_notes {frame : InboxFrame} {inboxResult : PersistResult} :
    (acknowledge host frame inboxResult w).2.seen = w.seen ∧
      (acknowledge host frame inboxResult w).2.inbound = w.inbound ++ [.acknowledged frame.object.envelope] ∧
      (acknowledge host frame inboxResult w).2.comms.store.deliveries = w.comms.store.deliveries ∧
      (acknowledge host frame inboxResult w).1 = .inr (.resolved
        (if CommsLimits.maxInboxBacklog < w.comms.store.inbox.length then
          .error (commsViolation .backpressure .ingress "inbox backlog exceeded" true)
        else .ok { frameDigest := frame.digest, messageId := frame.object.envelope.messageId, inboxResult })) := by
  have hsplit : ∀ (c : Prop) [Decidable c] (a b : IngressResult) (w' : IngressWorld),
      ((if c then (IngressM.finish a : IngressM (IngressWait ⊕ Settled IngressResult)) else IngressM.finish b) w') =
        (.inr (.resolved (if c then a else b)), w') := by
    intro c _ a b w'
    split <;> rfl
  unfold acknowledge
  simp only [bind, StateT.bind, hsplit]
  exact ⟨rfl, rfl, rfl, rfl⟩

def inboxAppend (host : IngressHost) (frame : InboxFrame) (w : IngressWorld) : InboxAcceptInput :=
  { envelope := frame.object.envelope, idempotencyKey := inboxKey frame.object.envelope
    delivery :=
      { deliveryId := "in-" ++ frame.object.envelope.messageId, envelopeRef := frame.object.envelope.messageId
        envelopeDigest := frame.object.envelope.integrityDigest, state := .received, attempt := 0
        nextAttemptAt := none, lastSafeError := none, createdAt := host.clock w.comms.readings, dispatchedAt := none
        ackAt := none, terminalAt := none }
    event := messageEvent "evt-in-" .messageReceived frame.object.envelope (w.comms.store.sequence + 1)
      (host.clock (w.comms.readings + 1)) }

def inboxAnswer (host : IngressHost) (frame : InboxFrame) (w : IngressWorld) : PersistResult × CommsStore :=
  w.comms.store.nextSequence.2.appendInbox (inboxAppend host frame w)

def afterInbox (host : IngressHost) (frame : InboxFrame) (w : IngressWorld) : IngressWorld :=
  { w with
    seen := w.seen ++ [frame.digest]
    comms := { w.comms with store := (inboxAnswer host frame w).2, readings := w.comms.readings + 2 } }

theorem received_eq {frame : InboxFrame} :
    received host frame w = inboxAnswered host frame (inboxAnswer host frame w).1 (afterInbox host frame w) := rfl

theorem inboxAnswer_replay_iff {frame : InboxFrame} :
    (inboxAnswer host frame w).1 = .idempotentReplay ↔ FindsReplay w.comms.store frame.object.envelope :=
  appendInbox_replay_iff rfl

/-- What the section after the verification of a peer does with a frame that the replay protector has not seen. -/
structure Enters (host : IngressHost) (frame : InboxFrame) (w : IngressWorld)
    (result : (IngressWait ⊕ Settled IngressResult) × IngressWorld) : Prop where
  seen : result.2.seen = w.seen ++ [frame.digest]
  /-- A conflict is refused, a replay is acknowledged, and a new envelope is offered, if there is a consumer. -/
  cases :
    (¬ FindsReplay w.comms.store frame.object.envelope ∧ result.2.inbound = w.inbound ∧
      result.2.comms.store.deliveries = w.comms.store.deliveries ∧ ∃ violation,
        result.1 = .inr (.resolved (.error violation))) ∨
    (FindsReplay w.comms.store frame.object.envelope ∧
      result.2.inbound = w.inbound ++ [.acknowledged frame.object.envelope] ∧
      result.2.comms.store.deliveries = w.comms.store.deliveries ∧ ∃ out, result.1 = .inr (.resolved out)) ∨
    (¬ FindsReplay w.comms.store frame.object.envelope ∧
      w.comms.store.deliveries.get? frame.object.envelope.messageId = none ∧
      (∃ delivery, result.2.comms.store.deliveries =
        w.comms.store.deliveries.set frame.object.envelope.messageId delivery) ∧
      (result.1 = .inl (.consuming frame) ∧ result.2.inbound = w.inbound ++ [.offered frame.object.envelope] ∨
        result.1 = .inl (.unconsumed frame) ∧ result.2.inbound = w.inbound))

theorem inboxAnswer_keeps {frame : InboxFrame} {answer : PersistResult} (hanswer : (inboxAnswer host frame w).1 = answer)
    (hne : answer ≠ .committed) : (inboxAnswer host frame w).2.deliveries = w.comms.store.deliveries :=
  (appendInbox_uncommitted fun h => hne (hanswer.symm.trans h)).1

theorem received_enters {frame : InboxFrame} : Enters host frame w (received host frame w) := by
  rw [received_eq]
  have hreplay := @inboxAnswer_replay_iff host w frame
  cases hanswer : (inboxAnswer host frame w).1 with
  | conflict =>
      rw [hanswer] at hreplay
      have hnot : ¬ FindsReplay w.comms.store frame.object.envelope := fun h => nomatch hreplay.2 h
      exact { seen := rfl, cases := .inl ⟨hnot, rfl, inboxAnswer_keeps hanswer nofun, _, rfl⟩ }
  | idempotentReplay =>
      obtain ⟨hseen, hinbound, hdeliveries, hout⟩ :=
        @acknowledge_notes host (afterInbox host frame w) frame .idempotentReplay
      exact
        { seen := hseen
          cases := .inr (.inl
            ⟨hreplay.1 hanswer, hinbound, hdeliveries.trans (inboxAnswer_keeps hanswer nofun), _, hout⟩) }
  | committed =>
      rw [hanswer] at hreplay
      obtain ⟨hnew, hset⟩ := appendInbox_committed (show (w.comms.store.nextSequence.2.appendInbox _).1 = _ from hanswer)
      have hnot : ¬ FindsReplay w.comms.store frame.object.envelope := fun h => nomatch hreplay.2 h
      cases hconsumer : host.runtimeConsumer with
      | true =>
          have hrun : inboxAnswered host frame .committed (afterInbox host frame w) =
              (.inl (.consuming frame), { afterInbox host frame w with
                inbound := w.inbound ++ [.offered frame.object.envelope] }) := by
            simp only [inboxAnswered, hconsumer, if_true]
            rfl
          rw [hrun]
          exact { seen := rfl, cases := .inr (.inr ⟨hnot, hnew, ⟨_, hset⟩, .inl ⟨rfl, rfl⟩⟩) }
      | false =>
          have hrun : inboxAnswered host frame .committed (afterInbox host frame w) =
              (.inl (.unconsumed frame), afterInbox host frame w) := by
            simp only [inboxAnswered, hconsumer, Bool.false_eq_true, if_false]
            rfl
          rw [hrun]
          exact { seen := rfl, cases := .inr (.inr ⟨hnot, hnew, ⟨_, hset⟩, .inr ⟨rfl, rfl⟩⟩) }

inductive Identified (host : IngressHost) (object : EnvelopeObject) (w : IngressWorld)
    (response : Settled (Except CommsViolation AuthenticatedPeerContext))
    (result : (IngressWait ⊕ Settled IngressResult) × IngressWorld) : Prop where
  /-- The frame is refused. -/
  | refused (leaves : Leaves w result.2) (out : ∀ receipt, result.1 ≠ .inr (.resolved (.ok receipt)))
      (waits : ∀ wait, result.1 ≠ .inl wait)
      (seen : ∀ peer, response = .resolved (.ok peer) → PassesChecks host w object peer →
        StrictWireCodec.computeEnvelopeIntegrityDigest host.sha256 object ∈ w.seen)
  | entered (peer : AuthenticatedPeerContext) (response_eq : response = .resolved (.ok peer))
      (passes : PassesChecks host w object peer)
      (unseen : StrictWireCodec.computeEnvelopeIntegrityDigest host.sha256 object ∉ w.seen)
      (enters : Enters host (inboxFrame host object peer) w result)

theorem refused_of_refuse {object : EnvelopeObject} {violation : CommsViolation} {w' : IngressWorld}
    {response : Settled (Except CommsViolation AuthenticatedPeerContext)} (hleaves : Leaves w w')
    (hseen : ∀ peer, response = .resolved (.ok peer) → PassesChecks host w object peer →
      StrictWireCodec.computeEnvelopeIntegrityDigest host.sha256 object ∈ w.seen) :
    Identified host object w response (refuse host violation w') := by
  obtain ⟨hout, hrefuse⟩ := @refuse_leaves host w' violation
  refine .refused ⟨hrefuse.1.trans hleaves.1, hrefuse.2.trans hleaves.2, hrefuse.3.trans hleaves.3⟩ ?_ ?_ hseen
  · intro receipt h
    rw [hout] at h
    cases h
  · intro wait h
    rw [hout] at h
    cases h

def afterReading (w : IngressWorld) : IngressWorld :=
  { w with comms := { w.comms with readings := w.comms.readings + 1 } }

/-- How the section after the verification of a peer ends: the promise was rejected, the frame is refused by a check,
or it has passed all of them. -/
inductive Verified (host : IngressHost) (object : EnvelopeObject) (w : IngressWorld)
    (response : Settled (Except CommsViolation AuthenticatedPeerContext))
    (result : (IngressWait ⊕ Settled IngressResult) × IngressWorld) : Prop where
  | rejected (reason : String) (response_eq : response = .rejected reason)
      (result_eq : result = (.inr (.rejected reason), w))
  | refused (violation : CommsViolation) (w' : IngressWorld) (unchanged : w' = w ∨ w' = afterReading w)
      (result_eq : result = refuse host violation w')
      (seen : ∀ peer, response = .resolved (.ok peer) → PassesChecks host w object peer →
        StrictWireCodec.computeEnvelopeIntegrityDigest host.sha256 object ∈ w.seen)
  | received (peer : AuthenticatedPeerContext) (response_eq : response = .resolved (.ok peer))
      (passes : PassesChecks host w object peer)
      (unseen : StrictWireCodec.computeEnvelopeIntegrityDigest host.sha256 object ∉ w.seen)
      (result_eq : result = received host (inboxFrame host object peer) (afterReading w))

theorem unreplayed_verified {object : EnvelopeObject} {peer : AuthenticatedPeerContext}
    (hfresh : envelopeExpired host object.envelope (host.clock w.comms.readings) = false)
    (hunseen : StrictWireCodec.computeEnvelopeIntegrityDigest host.sha256 object ∉ w.seen) :
    Verified host object w (.resolved (.ok peer))
      (unreplayed host (inboxFrame host object peer) (afterReading w)) := by
  unfold unreplayed
  simp only [bind, StateT.bind, IngressM.decide]
  cases hauthorize : host.authorize (afterReading w).comms.readings
      { action := "ingress.receive", peer := (inboxFrame host object peer).peer, roles := ["session-member"]
        resource := (inboxFrame host object peer).object.envelope.metadata.sessionId } with
  | error violation =>
      refine .refused violation (afterReading w) (.inr rfl) rfl fun peer' hpeer hpasses => ?_
      cases hpeer
      exact nomatch hauthorize.symm.trans hpasses.authorized
  | ok _ =>
      by_cases hsender : object.envelope.sender.actorId = peer.principal.actorId
      · have hne : ¬ (inboxFrame host object peer).object.envelope.sender.actorId ≠
            (inboxFrame host object peer).peer.principal.actorId := fun h => h hsender
        simp only [if_neg hne]
        exact .received peer rfl ⟨hfresh, hauthorize, hsender⟩ hunseen rfl
      · have hne : (inboxFrame host object peer).object.envelope.sender.actorId ≠
            (inboxFrame host object peer).peer.principal.actorId := hsender
        simp only [if_pos hne]
        refine .refused _ (afterReading w) (.inr rfl) rfl fun peer' hpeer hpasses => ?_
        cases hpeer
        exact absurd hpasses.sender hsender

theorem resume_verified {object : EnvelopeObject}
    {response : Settled (Except CommsViolation AuthenticatedPeerContext)} :
    Verified host object w response (resume host (.verifying object) response w) := by
  rcases response with (violation | peer) | reason
  · exact .refused violation w (.inl rfl) rfl fun _ h => nomatch h
  · have htimed : resume host (.verifying object) (.resolved (.ok peer)) w =
        timed host (inboxFrame host object peer) (host.clock w.comms.readings) (afterReading w) := rfl
    rw [htimed]
    unfold timed
    cases hexpired : envelopeExpired host (inboxFrame host object peer).object.envelope
        (host.clock w.comms.readings) with
    | true =>
        simp only [if_true]
        refine .refused _ (afterReading w) (.inr rfl) rfl fun peer' hpeer hpasses => ?_
        cases hpeer
        have hfresh := hpasses.fresh
        rw [show envelopeExpired host object.envelope _ = _ from hexpired] at hfresh
        cases hfresh
    | false =>
        simp only [Bool.false_eq_true, if_false, bind, StateT.bind, IngressM.checkReplay]
        by_cases hseen : (inboxFrame host object peer).digest ∈ (afterReading w).seen
        · simp only [if_pos hseen]
          exact .refused _ (afterReading w) (.inr rfl) rfl fun peer' hpeer hpasses => hseen
        · simp only [if_neg hseen]
          exact unreplayed_verified hexpired hseen
  · exact .rejected reason rfl rfl

theorem resume_verifying {object : EnvelopeObject}
    {response : Settled (Except CommsViolation AuthenticatedPeerContext)} :
    Identified host object w response (resume host (.verifying object) response w) := by
  cases @resume_verified host w object response with
  | rejected reason hresponse hresult =>
      subst hresponse
      rw [hresult]
      exact .refused ⟨rfl, rfl, rfl⟩ (fun _ h => nomatch h) (fun _ h => nomatch h) fun _ h => nomatch h
  | refused violation w' hunchanged hresult hseen =>
      rw [hresult]
      refine refused_of_refuse ?_ hseen
      rcases hunchanged with rfl | rfl
      · exact ⟨rfl, rfl, rfl⟩
      · exact ⟨rfl, rfl, rfl⟩
  | received peer hresponse hpasses hunseen hresult =>
      subst hresponse
      rw [hresult]
      obtain ⟨hseen, hcases⟩ := @received_enters host (afterReading w) (inboxFrame host object peer)
      exact .entered peer rfl hpasses hunseen ⟨hseen, hcases⟩

theorem resume_consuming {frame : InboxFrame} {response : Settled (Except CommsViolation Unit)} :
    (resume host (.consuming frame) response w).2.seen = w.seen ∧
      (resume host (.consuming frame) response w).2.comms.store.deliveries = w.comms.store.deliveries ∧
      (∃ out, (resume host (.consuming frame) response w).1 = .inr out) ∧
      ((response = .resolved (.ok ()) ∧ (resume host (.consuming frame) response w).2.inbound =
          w.inbound ++ [.consumed frame.object.envelope response, .acknowledged frame.object.envelope]) ∨
        (response ≠ .resolved (.ok ()) ∧ (resume host (.consuming frame) response w).2.inbound =
            w.inbound ++ [.consumed frame.object.envelope response] ∧
          ∀ receipt, (resume host (.consuming frame) response w).1 ≠ .inr (.resolved (.ok receipt)))) := by
  rcases response with (violation | _) | reason
  · exact ⟨rfl, rfl, ⟨_, rfl⟩, .inr ⟨nofun, rfl, nofun⟩⟩
  · obtain ⟨hseen, hinbound, hdeliveries, hresult⟩ := @acknowledge_notes host
      { w with inbound := w.inbound ++ [.consumed frame.object.envelope (.resolved (.ok ()))] } frame .committed
    refine ⟨hseen, hdeliveries, ⟨_, hresult⟩, .inl ⟨rfl, ?_⟩⟩
    refine hinbound.trans ?_
    rw [List.append_assoc]
    rfl
  · exact ⟨rfl, rfl, ⟨_, rfl⟩, .inr ⟨nofun, rfl, nofun⟩⟩

theorem resume_unconsumed {frame : InboxFrame} :
    (resume host (.unconsumed frame) () w).2.seen = w.seen ∧
      (resume host (.unconsumed frame) () w).2.inbound = w.inbound ++ [.acknowledged frame.object.envelope] ∧
      (resume host (.unconsumed frame) () w).2.comms.store.deliveries = w.comms.store.deliveries ∧
      ∃ result, (resume host (.unconsumed frame) () w).1 = .inr (.resolved result) :=
  have h := acknowledge_notes
  ⟨h.1, h.2.1, h.2.2.1, _, h.2.2.2⟩

theorem acceptInboundFrame_cases {bytes : Option WireFrame} {context : TransportContext} :
    (∃ violation, acceptInboundFrame host bytes context w = (.inr (.resolved (.error violation)), w)) ∨
      (∃ violation, acceptInboundFrame host bytes context w = refuse host violation w) ∨
        ∃ rawBytes object, bytes = some rawBytes ∧
          StrictWireCodec.parseCommunicationWireFrame host.sha256 rawBytes = .ok object ∧
          acceptInboundFrame host bytes context w = (.inl (.verifying object), w) := by
  unfold acceptInboundFrame
  simp only [bind, StateT.bind, IngressM.comms, CommsM.isFrozen]
  cases w.comms.frozen with
  | true => exact .inl ⟨_, rfl⟩
  | false =>
      simp only [Bool.false_eq_true, if_false]
      cases hcontext : validateInboundContext bytes context with
      | error violation => exact .inl ⟨_, rfl⟩
      | ok rawBytes =>
          cases hparse : StrictWireCodec.parseCommunicationWireFrame host.sha256 rawBytes with
          | error violation =>
              simp only [hparse, decoded]
              exact .inr (.inl ⟨_, rfl⟩)
          | ok object =>
              simp only [hparse, decoded]
              refine .inr (.inr ⟨rawBytes, object, ?_, hparse, rfl⟩)
              unfold validateInboundContext at hcontext
              cases bytes with
              | none => cases hcontext
              | some raw =>
                  simp only at hcontext
                  split at hcontext
                  · cases hcontext
                  · split at hcontext
                    · cases hcontext
                    · cases hcontext
                      rfl

theorem acceptInboundFrame_starts {bytes : Option WireFrame} {context : TransportContext} :
    Leaves w (acceptInboundFrame host bytes context w).2 ∧
      ((∃ violation, (acceptInboundFrame host bytes context w).1 = .inr (.resolved (.error violation))) ∨
        ∃ rawBytes object, bytes = some rawBytes ∧
          StrictWireCodec.parseCommunicationWireFrame host.sha256 rawBytes = .ok object ∧
          (acceptInboundFrame host bytes context w).1 = .inl (.verifying object)) := by
  rcases @acceptInboundFrame_cases host w bytes context with
    ⟨violation, h⟩ | ⟨violation, h⟩ | ⟨rawBytes, object, hbytes, hparse, h⟩
  · rw [h]
    exact ⟨⟨rfl, rfl, rfl⟩, .inl ⟨_, rfl⟩⟩
  · rw [h]
    exact ⟨refuse_leaves.2, .inl ⟨_, rfl⟩⟩
  · rw [h]
    exact ⟨⟨rfl, rfl, rfl⟩, .inr ⟨rawBytes, object, hbytes, hparse, rfl⟩⟩

end CommsIngress

/-! ## Frames under way -/

def IngressWait.object : IngressWait → EnvelopeObject
  | .verifying object => object
  | .consuming frame => frame.object
  | .unconsumed frame => frame.object

def IngressWait.held : IngressWait → Option InboxFrame
  | .verifying _ => none
  | .consuming frame => some frame
  | .unconsumed frame => some frame

def heldBy : (Σ call : IngressCall, call.Wait) → Option InboxFrame
  | ⟨.acceptInboundFrame .., wait⟩ => IngressWait.held wait
  | ⟨.setFrozen _, _⟩ => none

def WaitsForFrame (host : IngressHost) : (Σ call : IngressCall, call.Wait) → Prop
  | ⟨.acceptInboundFrame bytes _, wait⟩ => ∃ rawBytes, bytes = some rawBytes ∧
      StrictWireCodec.parseCommunicationWireFrame host.sha256 rawBytes = .ok (IngressWait.object wait) ∧
      ∀ frame ∈ IngressWait.held wait,
        frame.digest = StrictWireCodec.computeEnvelopeIntegrityDigest host.sha256 frame.object
  | ⟨.setFrozen _, _⟩ => True

/-- The message of this id has been delivered, and no envelope of this id was answered by the consumer. -/
structure Unanswered (frame : InboxFrame) (w : IngressWorld) : Prop where
  delivered : (w.comms.store.deliveries.get? frame.object.envelope.messageId).isSome
  seen : frame.digest ∈ w.seen
  unanswered : ∀ envelope response, .consumed envelope response ∈ w.inbound →
    envelope.messageId ≠ frame.object.envelope.messageId

/-- What holds of the frames under way and of the envelopes that the consumer has answered. -/
structure Underway (s : Tasks (ingressServices host) ι) : Prop where
  decodes : ∀ client pending, s.waiting client = some pending → WaitsForFrame host pending
  held : ∀ client pending frame, s.waiting client = some pending → heldBy pending = some frame →
    Unanswered frame s.world
  distinct : ∀ client pending frame client' pending' frame', s.waiting client = some pending →
    heldBy pending = some frame → s.waiting client' = some pending' → heldBy pending' = some frame' →
    frame.object.envelope.messageId = frame'.object.envelope.messageId → client = client'
  known : ∀ envelope response, .consumed envelope response ∈ s.world.inbound →
    (s.world.comms.store.deliveries.get? envelope.messageId).isSome ∧ envelope.integrityDigest ∈ s.world.seen
  once : ∀ messageId, s.world.inbound.countP (InboundEvent.takes messageId) ≤ 1
  reported : ∀ ended ∈ s.ended, ∀ envelope, IngressCall.reportsAccepted host ended.1 ended.2 = some envelope →
    .acknowledged envelope ∈ s.world.inbound

section After
variable {s : Tasks (ingressServices host) ι} {client : ι} {call : IngressCall}
  {result : ((ingressServices host).Wait call ⊕ (ingressServices host).Out call) × IngressWorld}

structure KeepsUnderway (s : Tasks (ingressServices host) ι) (client : ι) (call : IngressCall)
    (result : ((ingressServices host).Wait call ⊕ (ingressServices host).Out call) × IngressWorld) : Prop where
  delivered : ∀ messageId, (s.world.comms.store.deliveries.get? messageId).isSome →
    (result.2.comms.store.deliveries.get? messageId).isSome
  seen : s.world.seen ⊆ result.2.seen
  inbound : ∃ events, result.2.inbound = s.world.inbound ++ events ∧
    ∀ envelope response, .consumed envelope response ∈ events → ∃ pending frame,
      s.waiting client = some pending ∧ heldBy pending = some frame ∧ envelope = frame.object.envelope ∧
        envelope.integrityDigest = frame.digest
  once : ∀ messageId, result.2.inbound.countP (InboundEvent.takes messageId) ≤ 1
  decodes : ∀ wait, result.1 = .inl wait → WaitsForFrame host ⟨call, wait⟩
  held : ∀ wait frame, result.1 = .inl wait → heldBy ⟨call, wait⟩ = some frame →
    Unanswered frame result.2 ∧ ∀ client' pending' frame', s.waiting client' = some pending' →
      heldBy pending' = some frame' → frame.object.envelope.messageId ≠ frame'.object.envelope.messageId
  reported : ∀ out envelope, result.1 = .inr out → call.reportsAccepted host out = some envelope →
    .acknowledged envelope ∈ result.2.inbound

theorem Underway.after (hs : Underway s) (h : KeepsUnderway s client call result) :
    Underway (s.after client call result) := by
  obtain ⟨events, hinbound, hevents⟩ := h.inbound
  have hworld : (s.after client call result).world = result.2 := after_world
  have hother : ∀ client' pending frame, client' ≠ client → s.waiting client' = some pending →
      heldBy pending = some frame → Unanswered frame result.2 := by
    intro client' pending frame hne hwaiting hheld
    obtain ⟨hdelivered, hseen, hunanswered⟩ := hs.held client' pending frame hwaiting hheld
    refine ⟨h.delivered _ hdelivered, h.seen hseen, fun envelope response hmem => ?_⟩
    rw [hinbound, List.mem_append] at hmem
    rcases hmem with hmem | hmem
    · exact hunanswered envelope response hmem
    · obtain ⟨pending', frame', hwaiting', hheld', henvelope, _⟩ := hevents envelope response hmem
      rw [henvelope]
      exact fun heq => hne (hs.distinct _ _ _ _ _ _ hwaiting hheld hwaiting' hheld' heq.symm)
  constructor
  · intro client' pending hwaiting
    rcases waiting_after hwaiting with ⟨_, wait, hwait, rfl⟩ | ⟨_, hwaiting⟩
    · exact h.decodes wait hwait
    · exact hs.decodes client' pending hwaiting
  · intro client' pending frame hwaiting hheld
    rw [hworld]
    rcases waiting_after hwaiting with ⟨_, wait, hwait, rfl⟩ | ⟨hne, hwaiting⟩
    · exact (h.held wait frame hwait hheld).1
    · exact hother client' pending frame hne hwaiting hheld
  · intro c pending frame c' pending' frame' hwaiting hheld hwaiting' hheld' heq
    rcases waiting_after hwaiting with ⟨hc, wait, hwait, rfl⟩ | ⟨_, hbefore⟩
    · rcases waiting_after hwaiting' with ⟨hc', _⟩ | ⟨_, hbefore'⟩
      · rw [hc, hc']
      · exact absurd heq ((h.held wait frame hwait hheld).2 _ _ _ hbefore' hheld')
    · rcases waiting_after hwaiting' with ⟨_, wait', hwait', rfl⟩ | ⟨_, hbefore'⟩
      · exact absurd heq.symm ((h.held wait' frame' hwait' hheld').2 _ _ _ hbefore hheld)
      · exact hs.distinct _ _ _ _ _ _ hbefore hheld hbefore' hheld' heq
  · rw [hworld, hinbound]
    intro envelope response hmem
    rcases List.mem_append.1 hmem with hmem | hmem
    · obtain ⟨hdelivered, hseen⟩ := hs.known envelope response hmem
      exact ⟨h.delivered _ hdelivered, h.seen hseen⟩
    · obtain ⟨pending, frame, hwaiting, hheld, rfl, hdigest⟩ := hevents envelope response hmem
      obtain ⟨hdelivered, hseen, _⟩ := hs.held client pending frame hwaiting hheld
      rw [hdigest]
      exact ⟨h.delivered _ hdelivered, h.seen hseen⟩
  · rw [hworld]
    exact h.once
  · rw [hworld]
    intro ended hmem envelope hreports
    rcases mem_ended_after hmem with hmem | ⟨out, hout, rfl⟩
    · rw [hinbound]
      exact List.mem_append_left _ (hs.reported ended hmem envelope hreports)
    · exact h.reported out envelope hout hreports

omit [DecidableEq ι] in
theorem keepsUnderway_of_notes (hs : Underway s) {events : List InboundEvent}
    (hinbound : result.2.inbound = s.world.inbound ++ events)
    (hevents : ∀ event ∈ events, ∀ envelope response, event ≠ .consumed envelope response)
    (hdelivered : ∀ messageId, (s.world.comms.store.deliveries.get? messageId).isSome →
      (result.2.comms.store.deliveries.get? messageId).isSome)
    (hseen : s.world.seen ⊆ result.2.seen)
    (hdecodes : ∀ wait, result.1 = .inl wait → WaitsForFrame host ⟨call, wait⟩)
    (hheld : ∀ wait frame, result.1 = .inl wait → heldBy ⟨call, wait⟩ = some frame →
      Unanswered frame result.2 ∧ ∀ client' pending' frame', s.waiting client' = some pending' →
        heldBy pending' = some frame' → frame.object.envelope.messageId ≠ frame'.object.envelope.messageId)
    (hreported : ∀ out envelope, result.1 = .inr out → call.reportsAccepted host out = some envelope →
      .acknowledged envelope ∈ result.2.inbound) : KeepsUnderway s client call result where
  delivered := hdelivered
  seen := hseen
  inbound := ⟨events, hinbound, fun envelope response hmem => absurd rfl (hevents _ hmem envelope response)⟩
  once := by
    intro messageId
    have hzero : events.countP (InboundEvent.takes messageId) = 0 := by
      rw [List.countP_eq_zero]
      intro event hmem
      cases event with
      | consumed envelope response => exact absurd rfl (hevents _ hmem envelope response)
      | offered envelope => simp [InboundEvent.takes]
      | acknowledged envelope => simp [InboundEvent.takes]
    rw [hinbound, List.countP_append, hzero]
    exact hs.once messageId
  decodes := hdecodes
  held := hheld
  reported := hreported

omit [DecidableEq ι] in
theorem keepsUnderway_of_leaves (hs : Underway s) (h : CommsIngress.Leaves s.world result.2)
    (hdecodes : ∀ wait, result.1 = .inl wait → WaitsForFrame host ⟨call, wait⟩)
    (hheld : ∀ wait, result.1 = .inl wait → heldBy ⟨call, wait⟩ = none)
    (hreported : ∀ out, result.1 = .inr out → call.reportsAccepted host out = none) :
    KeepsUnderway s client call result := by
  have hinbound : result.2.inbound = s.world.inbound ++ [] := by rw [h.inbound, List.append_nil]
  refine keepsUnderway_of_notes hs hinbound (fun _ hmem => absurd hmem List.not_mem_nil) ?_ ?_ hdecodes ?_ ?_
  · intro messageId hdelivered
    rw [h.deliveries]
    exact hdelivered
  · rw [h.seen]
    exact List.Subset.refl _
  · intro wait frame hwait hframe
    rw [hheld wait hwait] at hframe
    cases hframe
  · intro out envelope hout hreports
    rw [hreported out hout] at hreports
    cases hreports

end After

/-! ## Steps -/

section Steps
variable {s t : Tasks (ingressServices host) ι} {l : TaskLabel (ingressServices host) ι}

theorem reportsAccepted_of_frame {bytes : Option WireFrame} {context : TransportContext} {rawBytes : WireFrame}
    {object : EnvelopeObject} {out : Settled IngressResult} {envelope : CommunicationEnvelope}
    (hbytes : bytes = some rawBytes)
    (hparse : StrictWireCodec.parseCommunicationWireFrame host.sha256 rawBytes = .ok object)
    (h : IngressCall.reportsAccepted host (.acceptInboundFrame bytes context) out = some envelope) :
    envelope = object.envelope := by
  subst hbytes
  rcases out with (violation | receipt) | reason
  · cases h
  · simp only [IngressCall.reportsAccepted, hparse, Option.some.injEq] at h
    exact h.symm
  · cases h

theorem reportsAccepted_eq_none {bytes : Option WireFrame} {context : TransportContext} {out : Settled IngressResult}
    (h : ∀ receipt, out ≠ .resolved (.ok receipt)) :
    IngressCall.reportsAccepted host (.acceptInboundFrame bytes context) out = none := by
  rcases out with (violation | receipt) | reason
  · cases bytes <;> rfl
  · exact absurd rfl (h receipt)
  · cases bytes <;> rfl

theorem reportsAccepted_error {bytes : Option WireFrame} {context : TransportContext} {violation : CommsViolation} :
    IngressCall.reportsAccepted host (.acceptInboundFrame bytes context) (.resolved (.error violation)) = none := by
  cases bytes <;> rfl

theorem waitsForFrame_verifying {bytes : Option WireFrame} {context : TransportContext} {rawBytes : WireFrame}
    {object : EnvelopeObject} (hbytes : bytes = some rawBytes)
    (hparse : StrictWireCodec.parseCommunicationWireFrame host.sha256 rawBytes = .ok object) :
    WaitsForFrame host ⟨.acceptInboundFrame bytes context, IngressWait.verifying object⟩ := by
  refine ⟨rawBytes, hbytes, hparse, fun frame hframe => ?_⟩
  simp [IngressWait.held] at hframe

theorem waitsForFrame_held {bytes : Option WireFrame} {context : TransportContext} {rawBytes : WireFrame}
    {object : EnvelopeObject} {wait : IngressWait} {peer : AuthenticatedPeerContext} (hbytes : bytes = some rawBytes)
    (hparse : StrictWireCodec.parseCommunicationWireFrame host.sha256 rawBytes = .ok object)
    (hobject : wait.object = object) (hheld : wait.held = some (inboxFrame host object peer)) :
    WaitsForFrame host ⟨.acceptInboundFrame bytes context, wait⟩ := by
  subst hobject
  refine ⟨rawBytes, hbytes, hparse, fun frame hframe => ?_⟩
  rw [hheld, Option.mem_some_iff] at hframe
  rw [← hframe]
  rfl

variable {client : ι} {bytes : Option WireFrame} {context : TransportContext}

omit [DecidableEq ι] in
theorem keepsUnderway_start (hs : Underway s) : KeepsUnderway s client (.acceptInboundFrame bytes context)
    (CommsIngress.acceptInboundFrame host bytes context s.world) := by
  obtain ⟨hleaves, hout⟩ := @CommsIngress.acceptInboundFrame_starts host s.world bytes context
  refine keepsUnderway_of_leaves hs hleaves ?_ ?_ ?_
  · intro wait hwait
    rcases hout with ⟨violation, hrefused⟩ | ⟨rawBytes, object, hbytes, hparse, hverifying⟩
    · rw [hrefused] at hwait
      cases hwait
    · rw [hverifying] at hwait
      cases hwait
      exact waitsForFrame_verifying hbytes hparse
  · intro wait hwait
    rcases hout with ⟨violation, hrefused⟩ | ⟨rawBytes, object, hbytes, hparse, hverifying⟩
    · rw [hrefused] at hwait
      cases hwait
    · rw [hverifying] at hwait
      cases hwait
      rfl
  · intro out hend
    rcases hout with ⟨violation, hrefused⟩ | ⟨rawBytes, object, hbytes, hparse, hverifying⟩
    · rw [hrefused] at hend
      cases hend
      exact reportsAccepted_error
    · rw [hverifying] at hend
      cases hend

omit [DecidableEq ι] in
theorem new_of_undelivered (hs : Underway s) {messageId : MessageId}
    (h : s.world.comms.store.deliveries.get? messageId = none) :
    (∀ envelope response, .consumed envelope response ∈ s.world.inbound → envelope.messageId ≠ messageId) ∧
      ∀ client pending frame, s.waiting client = some pending → heldBy pending = some frame →
        messageId ≠ frame.object.envelope.messageId := by
  constructor
  · rintro envelope response hmem rfl
    have hdelivered := (hs.known envelope response hmem).1
    rw [h] at hdelivered
    cases hdelivered
  · rintro client pending frame hwaiting hheld rfl
    have hdelivered := (hs.held client pending frame hwaiting hheld).delivered
    rw [h] at hdelivered
    cases hdelivered

omit [DecidableEq ι] in
theorem keepsUnderway_entered (hs : Underway s) {object : EnvelopeObject} {peer : AuthenticatedPeerContext}
    {result : (IngressWait ⊕ Settled IngressResult) × IngressWorld}
    (hdecodes : WaitsForFrame host ⟨.acceptInboundFrame bytes context, IngressWait.verifying object⟩)
    (h : CommsIngress.Enters host (inboxFrame host object peer) s.world result) :
    KeepsUnderway s client (.acceptInboundFrame bytes context) result := by
  obtain ⟨rawBytes, hbytes, hparse, _⟩ := hdecodes
  have hseen : s.world.seen ⊆ result.2.seen := by
    rw [h.seen]
    exact List.subset_append_left _ _
  rcases h.cases with ⟨_, hinbound, hdeliveries, violation, hout⟩ | ⟨_, hinbound, hdeliveries, out, hout⟩ |
    ⟨_, hnew, ⟨delivery, hdeliveries⟩, hnext⟩
  · refine keepsUnderway_of_notes hs (hinbound.trans (List.append_nil _).symm)
      (fun _ hmem => absurd hmem List.not_mem_nil) (fun _ hd => by rw [hdeliveries]; exact hd) hseen ?_ ?_ ?_
    · intro wait hwait
      rw [hout] at hwait
      cases hwait
    · intro wait frame hwait
      rw [hout] at hwait
      cases hwait
    · intro out envelope hend hreports
      rw [hout] at hend
      cases hend
      rw [reportsAccepted_error] at hreports
      cases hreports
  · refine keepsUnderway_of_notes hs hinbound ?_ (fun _ hd => by rw [hdeliveries]; exact hd) hseen ?_ ?_ ?_
    · intro event hmem
      cases List.mem_singleton.1 hmem
      exact fun _ _ h => InboundEvent.noConfusion h
    · intro wait hwait
      rw [hout] at hwait
      cases hwait
    · intro wait frame hwait
      rw [hout] at hwait
      cases hwait
    · intro out envelope hend hreports
      rw [reportsAccepted_of_frame hbytes hparse hreports, hinbound]
      exact List.mem_append_right _ (List.mem_singleton.2 rfl)
  · obtain ⟨hunanswered, hothers⟩ := new_of_undelivered hs hnew
    have hdelivered : ∀ messageId, (s.world.comms.store.deliveries.get? messageId).isSome →
        (result.2.comms.store.deliveries.get? messageId).isSome := by
      intro messageId hd
      rw [hdeliveries, OrdMap.get?_set]
      split
      · rfl
      · exact hd
    have hself : (result.2.comms.store.deliveries.get? object.envelope.messageId).isSome := by
      rw [hdeliveries]
      show ((s.world.comms.store.deliveries.set object.envelope.messageId delivery).get?
        object.envelope.messageId).isSome
      rw [OrdMap.get?_set_self]
      rfl
    have hseenSelf : (inboxFrame host object peer).digest ∈ result.2.seen := by
      rw [h.seen]
      exact List.mem_append_right _ (List.mem_singleton.2 rfl)
    obtain ⟨next, events, hnext, hobject, hheld, hinbound, hevents⟩ : ∃ (next : IngressWait) (events : List InboundEvent),
        result.1 = .inl next ∧ next.object = object ∧ next.held = some (inboxFrame host object peer) ∧
          result.2.inbound = s.world.inbound ++ events ∧
          ∀ event ∈ events, ∀ envelope response, event ≠ .consumed envelope response := by
      rcases hnext with ⟨hconsuming, hinbound⟩ | ⟨hunconsumed, hinbound⟩
      · refine ⟨_, _, hconsuming, rfl, rfl, hinbound, fun event hmem => ?_⟩
        cases List.mem_singleton.1 hmem
        exact fun _ _ heq => InboundEvent.noConfusion heq
      · exact ⟨_, [], hunconsumed, rfl, rfl, hinbound.trans (List.append_nil _).symm,
          fun _ hmem => absurd hmem List.not_mem_nil⟩
    refine keepsUnderway_of_notes hs hinbound hevents hdelivered hseen ?_ ?_ ?_
    · intro wait hwait
      rw [hnext] at hwait
      cases hwait
      exact waitsForFrame_held hbytes hparse hobject hheld
    · intro wait frame hwait hframe
      rw [hnext] at hwait
      cases hwait
      cases hheld.symm.trans hframe
      refine ⟨⟨hself, hseenSelf, fun envelope response hmem => ?_⟩, hothers⟩
      rw [hinbound] at hmem
      rcases List.mem_append.1 hmem with hmem | hmem
      · exact hunanswered envelope response hmem
      · exact absurd rfl (hevents _ hmem envelope response)
    · intro out envelope hend
      rw [hnext] at hend
      cases hend

omit [DecidableEq ι] in
theorem keepsUnderway_verifying (hs : Underway s) {object : EnvelopeObject}
    {response : Settled (Except CommsViolation AuthenticatedPeerContext)}
    (hwaiting : s.waiting client = some ⟨.acceptInboundFrame bytes context, IngressWait.verifying object⟩) :
    KeepsUnderway s client (.acceptInboundFrame bytes context)
      (CommsIngress.resume host (.verifying object) response s.world) := by
  have hdecodes := hs.decodes client _ hwaiting
  cases @CommsIngress.resume_verifying host s.world object response with
  | refused leaves out waits _ =>
      refine keepsUnderway_of_leaves hs leaves (fun wait hwait => absurd hwait (waits wait))
        (fun wait hwait => absurd hwait (waits wait)) fun outcome hend => ?_
      exact reportsAccepted_eq_none fun receipt heq => out receipt (hend.trans (congrArg Sum.inr heq))
  | entered peer _ _ _ enters => exact keepsUnderway_entered hs hdecodes enters

theorem countP_takes_le {w : IngressWorld} {frame : InboxFrame} {response : Settled (Except CommsViolation Unit)}
    {events : List InboundEvent} {messageId : MessageId} (hw : Unanswered frame w)
    (hevents : ∀ event ∈ events, ∃ envelope, event = .acknowledged envelope)
    (honce : w.inbound.countP (InboundEvent.takes messageId) ≤ 1) :
    (w.inbound ++ .consumed frame.object.envelope response :: events).countP (InboundEvent.takes messageId) ≤ 1 := by
  have hrest : events.countP (InboundEvent.takes messageId) = 0 := by
    rw [List.countP_eq_zero]
    intro event hmem
    obtain ⟨envelope, rfl⟩ := hevents event hmem
    simp [InboundEvent.takes]
  rw [List.countP_append, List.countP_cons, hrest]
  by_cases hid : frame.object.envelope.messageId = messageId
  · have hbefore : w.inbound.countP (InboundEvent.takes messageId) = 0 := by
      rw [List.countP_eq_zero]
      intro event hmem htakes
      cases event with
      | consumed envelope response' =>
          refine hw.unanswered envelope response' hmem ?_
          rw [hid]
          rcases response' with (violation | _) | reason
          · simp [InboundEvent.takes] at htakes
          · simpa [InboundEvent.takes] using htakes
          · simp [InboundEvent.takes] at htakes
      | offered envelope => simp [InboundEvent.takes] at htakes
      | acknowledged envelope => simp [InboundEvent.takes] at htakes
    rw [hbefore]
    split <;> omega
  · have hnot : InboundEvent.takes messageId (.consumed frame.object.envelope response) = false := by
      rcases response with (violation | _) | reason
      · rfl
      · simp [InboundEvent.takes, hid]
      · rfl
    rw [hnot]
    simpa using honce

omit [DecidableEq ι] in
theorem keepsUnderway_consuming (hs : Underway s) {frame : InboxFrame}
    {response : Settled (Except CommsViolation Unit)}
    (hwaiting : s.waiting client = some ⟨.acceptInboundFrame bytes context, IngressWait.consuming frame⟩) :
    KeepsUnderway s client (.acceptInboundFrame bytes context)
      (CommsIngress.resume host (.consuming frame) response s.world) := by
  obtain ⟨rawBytes, hbytes, hparse, hdigest⟩ := hs.decodes client _ hwaiting
  have hunanswered := hs.held client _ frame hwaiting rfl
  obtain ⟨hseen, hdeliveries, ⟨out, hout⟩, hcases⟩ := @CommsIngress.resume_consuming host s.world frame response
  obtain ⟨events, hinbound, hevents, hreported⟩ : ∃ events : List InboundEvent,
      (CommsIngress.resume host (.consuming frame) response s.world).2.inbound =
        s.world.inbound ++ .consumed frame.object.envelope response :: events ∧
      (∀ event ∈ events, ∃ envelope, event = .acknowledged envelope) ∧
      ∀ envelope, IngressCall.reportsAccepted host (.acceptInboundFrame bytes context) out = some envelope →
        .acknowledged envelope ∈ events := by
    rcases hcases with ⟨_, hinbound⟩ | ⟨_, hinbound, hnot⟩
    · refine ⟨_, hinbound, fun event hmem => ⟨_, List.mem_singleton.1 hmem⟩, fun envelope hreports => ?_⟩
      rw [reportsAccepted_of_frame hbytes hparse hreports]
      exact List.mem_singleton.2 rfl
    · refine ⟨[], hinbound, fun _ hmem => absurd hmem List.not_mem_nil, fun envelope hreports => ?_⟩
      rw [reportsAccepted_eq_none fun receipt heq => hnot receipt (hout.trans (congrArg Sum.inr heq))] at hreports
      cases hreports
  constructor
  · intro messageId hd
    rw [hdeliveries]
    exact hd
  · rw [hseen]
    exact List.Subset.refl _
  · refine ⟨_, hinbound, fun envelope response' hmem => ⟨_, frame, hwaiting, rfl, ?_⟩⟩
    rcases List.mem_cons.1 hmem with heq | hmem
    · cases heq
      refine ⟨rfl, ?_⟩
      rw [hdigest frame rfl]
      exact (StrictWireCodec.digest_of_parsed hparse).symm
    · obtain ⟨_, heq⟩ := hevents _ hmem
      cases heq
  · intro messageId
    rw [hinbound]
    exact countP_takes_le hunanswered hevents (hs.once messageId)
  · intro wait hwait
    rw [hout] at hwait
    cases hwait
  · intro wait frame hwait
    rw [hout] at hwait
    cases hwait
  · intro out' envelope hend hreports
    rw [hout] at hend
    cases hend
    rw [hinbound]
    exact List.mem_append_right _ (List.mem_cons_of_mem _ (hreported envelope hreports))

omit [DecidableEq ι] in
theorem keepsUnderway_unconsumed (hs : Underway s) {frame : InboxFrame}
    (hwaiting : s.waiting client = some ⟨.acceptInboundFrame bytes context, IngressWait.unconsumed frame⟩) :
    KeepsUnderway s client (.acceptInboundFrame bytes context)
      (CommsIngress.resume host (.unconsumed frame) () s.world) := by
  obtain ⟨rawBytes, hbytes, hparse, _⟩ := hs.decodes client _ hwaiting
  obtain ⟨hseen, hinbound, hdeliveries, out, hout⟩ := @CommsIngress.resume_unconsumed host s.world frame
  refine keepsUnderway_of_notes hs hinbound ?_ (fun _ hd => by rw [hdeliveries]; exact hd) ?_ ?_ ?_ ?_
  · intro event hmem
    cases List.mem_singleton.1 hmem
    exact fun _ _ h => InboundEvent.noConfusion h
  · rw [hseen]
    exact List.Subset.refl _
  · intro wait hwait
    rw [hout] at hwait
    cases hwait
  · intro wait frame hwait
    rw [hout] at hwait
    cases hwait
  · intro out' envelope hend hreports
    rw [reportsAccepted_of_frame hbytes hparse hreports, hinbound]
    exact List.mem_append_right _ (List.mem_singleton.2 rfl)

omit [DecidableEq ι] in
theorem keepsUnderway_resume (hs : Underway s) {wait : IngressWait} {response : wait.Resp}
    (hwaiting : s.waiting client = some ⟨.acceptInboundFrame bytes context, wait⟩) :
    KeepsUnderway s client (.acceptInboundFrame bytes context) (CommsIngress.resume host wait response s.world) := by
  cases wait with
  | verifying object => exact keepsUnderway_verifying hs hwaiting
  | consuming frame => exact keepsUnderway_consuming hs hwaiting
  | unconsumed frame => exact keepsUnderway_unconsumed hs hwaiting

theorem step_underway (hstep : Sections.Step (ingressServices host) s l t) (hs : Underway s) : Underway t := by
  cases hstep with
  | @start client call idle =>
      cases call with
      | acceptInboundFrame bytes context => exact hs.after (keepsUnderway_start hs)
      | setFrozen frozen =>
          refine hs.after (keepsUnderway_of_leaves hs ⟨rfl, rfl, rfl⟩ ?_ ?_ ?_)
          · intro wait hwait
            cases hwait
          · intro wait hwait
            cases hwait
          · intro out hend
            rfl
  | @resume client call wait resp waits =>
      cases call with
      | acceptInboundFrame bytes context => exact hs.after (keepsUnderway_resume hs waits)
      | setFrozen frozen => exact Empty.elim wait

def AcknowledgesConsumed (inbound : List InboundEvent) : Prop :=
  ∀ envelope, .acknowledged envelope ∈ inbound → Consumed envelope inbound

theorem AcknowledgesConsumed.append {inbound events : List InboundEvent} (h : AcknowledgesConsumed inbound)
    (hevents : ∀ envelope, .acknowledged envelope ∈ events → Consumed envelope events) :
    AcknowledgesConsumed (inbound ++ events) := by
  intro envelope hmem
  rcases List.mem_append.1 hmem with hmem | hmem
  · exact List.mem_append_left _ (h envelope hmem)
  · exact List.mem_append_right _ (hevents envelope hmem)

theorem not_acknowledgesConsumed {inbound : List InboundEvent} {envelope : CommunicationEnvelope}
    (h : ¬ Consumed envelope inbound) : ¬ AcknowledgesConsumed (inbound ++ [.acknowledged envelope]) := by
  intro hack
  rcases List.mem_append.1 (hack envelope (List.mem_append_right _ (List.mem_singleton.2 rfl))) with hmem | hmem
  · exact h hmem
  · exact InboundEvent.noConfusion (List.mem_singleton.1 hmem)

omit [DecidableEq ι] in
theorem acknowledgesConsumed_resume_iff (hs : Underway s) {wait : IngressWait} {response : wait.Resp}
    (hwaiting : s.waiting client = some ⟨.acceptInboundFrame bytes context, wait⟩)
    (hack : AcknowledgesConsumed s.world.inbound) :
    AcknowledgesConsumed (CommsIngress.resume host wait response s.world).2.inbound ↔
      AdmitsNew host s.world wait response := by
  cases wait with
  | verifying object =>
      obtain ⟨rawBytes, _, hparse, _⟩ := hs.decodes client _ hwaiting
      have hdigest : StrictWireCodec.computeEnvelopeIntegrityDigest host.sha256 object =
          object.envelope.integrityDigest := StrictWireCodec.digest_of_parsed hparse
      cases @CommsIngress.resume_verifying host s.world object response with
      | refused leaves _ _ seen =>
          rw [leaves.inbound]
          refine iff_of_true hack fun peer hresponse hpasses hunseen => ?_
          exact absurd (seen peer hresponse hpasses) (by rw [hdigest]; exact hunseen)
      | entered peer hresponse passes unseen enters =>
          rw [hdigest] at unseen
          have hadmits : ¬ FindsReplay s.world.comms.store object.envelope →
              AdmitsNew host s.world (.verifying object) response := fun h _ _ _ _ => h
          rcases enters.cases with ⟨hnew, hinbound, _⟩ | ⟨hreplay, hinbound, _⟩ | ⟨hnew, _, _, hnext⟩
          · rw [hinbound]
            exact iff_of_true hack (hadmits hnew)
          · rw [hinbound]
            refine iff_of_false (not_acknowledgesConsumed fun hconsumed => ?_) fun h => ?_
            · exact unseen (hs.known _ _ hconsumed).2
            · exact h peer hresponse passes unseen hreplay
          · refine iff_of_true ?_ (hadmits hnew)
            rcases hnext with ⟨_, hinbound⟩ | ⟨_, hinbound⟩
            · rw [hinbound]
              refine hack.append fun envelope hmem => ?_
              exact InboundEvent.noConfusion (List.mem_singleton.1 hmem)
            · rw [hinbound]
              exact hack
  | consuming frame =>
      obtain ⟨_, _, _, hcases⟩ := @CommsIngress.resume_consuming host s.world frame response
      refine iff_of_true ?_ trivial
      rcases hcases with ⟨hok, hinbound⟩ | ⟨_, hinbound, _⟩
      · rw [hinbound, hok]
        refine hack.append fun envelope hmem => ?_
        rcases List.mem_cons.1 hmem with heq | hmem
        · exact InboundEvent.noConfusion heq
        · cases List.mem_singleton.1 hmem
          exact List.mem_cons_self
      · rw [hinbound]
        refine hack.append fun envelope hmem => ?_
        exact InboundEvent.noConfusion (List.mem_singleton.1 hmem)
  | unconsumed frame =>
      have hunanswered := hs.held client _ frame hwaiting rfl
      rw [show (CommsIngress.resume host (.unconsumed frame) response s.world).2.inbound = _ from
        CommsIngress.resume_unconsumed.2.1]
      refine iff_of_false (not_acknowledgesConsumed fun hconsumed => ?_) id
      exact hunanswered.unanswered _ _ hconsumed rfl

omit [DecidableEq ι] in
theorem offersAgain_resume_iff (hs : Underway s) {wait : IngressWait} {response : wait.Resp}
    (hwaiting : s.waiting client = some ⟨.acceptInboundFrame bytes context, wait⟩) :
    OffersAgain host s.world (CommsIngress.resume host wait response s.world).2 wait response ↔
      AdmitsNoFailure host s.world wait response := by
  cases wait with
  | verifying object =>
      obtain ⟨rawBytes, _, hparse, _⟩ := hs.decodes client _ hwaiting
      have hdigest : StrictWireCodec.computeEnvelopeIntegrityDigest host.sha256 object =
          object.envelope.integrityDigest := StrictWireCodec.digest_of_parsed hparse
      constructor
      · intro hoffers peer hresponse hpasses hfailed
        have hinbound := hoffers peer hresponse hpasses hfailed
        obtain ⟨answer, hmem, _⟩ := hfailed
        have hseen := (hs.known _ _ hmem).2
        cases @CommsIngress.resume_verifying host s.world object response with
        | refused leaves _ _ _ =>
            rw [leaves.inbound] at hinbound
            have hlength := congrArg List.length hinbound
            simp at hlength
        | entered _ _ _ unseen _ =>
            rw [hdigest] at unseen
            exact unseen hseen
      · intro hnone peer hresponse hpasses hfailed
        exact absurd hfailed (hnone peer hresponse hpasses)
  | consuming frame => exact Iff.rfl
  | unconsumed frame => exact Iff.rfl

omit [DecidableEq ι] in
theorem exactlyOnce_iff (hs : Underway s) : ExactlyOnce s ↔ AcknowledgesConsumed s.world.inbound :=
  ⟨fun h => h.acknowledged, fun h =>
    { acknowledged := h
      accepted := fun ended hmem envelope hreports => h envelope (hs.reported ended hmem envelope hreports)
      once := hs.once }⟩

theorem step_acknowledgesConsumed_iff (hstep : Sections.Step (ingressServices host) s l t) (hs : Underway s)
    (hack : AcknowledgesConsumed s.world.inbound) :
    AcknowledgesConsumed t.world.inbound ↔ WhenResumed (AdmitsNew host s.world) l := by
  cases hstep with
  | @start client call idle =>
      rw [after_world]
      refine iff_of_true ?_ trivial
      cases call with
      | acceptInboundFrame bytes context =>
          rw [show ((ingressServices host).start (.acceptInboundFrame bytes context) s.world).2.inbound = _ from
            CommsIngress.acceptInboundFrame_starts.1.inbound]
          exact hack
      | setFrozen frozen => exact hack
  | @resume client call wait resp waits =>
      rw [after_world]
      cases call with
      | acceptInboundFrame bytes context => exact acknowledgesConsumed_resume_iff hs waits hack
      | setFrozen frozen => exact Empty.elim wait

def StepOffersAgain (s : Tasks (ingressServices host) ι) (l : TaskLabel (ingressServices host) ι)
    (t : Tasks (ingressServices host) ι) : Prop :=
  WhenResumed (OffersAgain host s.world t.world) l

theorem stepOffersAgain_iff (hstep : Sections.Step (ingressServices host) s l t) (hs : Underway s) :
    StepOffersAgain s l t ↔ WhenResumed (AdmitsNoFailure host s.world) l := by
  cases hstep with
  | @start client call idle => exact Iff.rfl
  | @resume client call wait resp waits =>
      unfold StepOffersAgain
      rw [after_world]
      cases call with
      | acceptInboundFrame bytes context => exact offersAgain_resume_iff hs waits
      | setFrozen frozen => exact Empty.elim wait

end Steps

omit [DecidableEq ι] in
theorem underway_idle {comms : CommsWorld} {seen : List IntegrityDigest} :
    Underway (.idle (ingressServices host) ι { comms, seen, inbound := [] }) where
  decodes := fun _ _ h => nomatch h
  held := fun _ _ _ h => nomatch h
  distinct := fun _ _ _ _ _ _ h => nomatch h
  known := fun _ _ h => absurd h List.not_mem_nil
  once := fun _ => Nat.zero_le 1
  reported := fun _ h => absurd h List.not_mem_nil

/-- Exactly-once consumption: in a run of inbound frames, over whatever store, the consumer takes no message id
twice, only what it has taken is acknowledged and reported as accepted, and failed envelopes are offered again when
they come again, exactly if no frame that the replay protector has not seen finds its key or its message id in use,
none goes on without a consumer, and no envelope whose consumption failed comes again. -/
theorem exactlyOnce_run_iff (host : IngressHost) (comms : CommsWorld) (seen : List IntegrityDigest)
    (labels : List (TaskLabel (ingressServices host) ι)) :
    ((∀ pre post m, labels = pre ++ post →
          Run (Sections.Step (ingressServices host)) (.idle _ ι { comms, seen, inbound := [] }) pre m →
          ExactlyOnce m) ∧
        Run.Every (Sections.Step (ingressServices host)) StepOffersAgain
          (.idle _ ι { comms, seen, inbound := [] }) labels) ↔
      Run.Every (Sections.Step (ingressServices host))
        (fun m l _ => WhenResumed (AdmitsNew host m.world) l ∧ WhenResumed (AdmitsNoFailure host m.world) l)
        (.idle _ ι { comms, seen, inbound := [] }) labels := by
  have hstates : (∀ pre post m, labels = pre ++ post →
      Run (Sections.Step (ingressServices host)) (.idle _ ι { comms, seen, inbound := [] }) pre m →
      Underway m ∧ ExactlyOnce m) ↔
        Run.Every (Sections.Step (ingressServices host)) (fun m l _ => WhenResumed (AdmitsNew host m.world) l)
          (.idle _ ι { comms, seen, inbound := [] }) labels := by
    refine Run.forall_states_iff ⟨underway_idle, (exactlyOnce_iff underway_idle).2 ?_⟩ ?_
    · exact fun _ h => absurd h List.not_mem_nil
    · rintro s l t hstep ⟨hs, hexact⟩
      have ht := step_underway hstep hs
      rw [and_iff_right ht, exactlyOnce_iff ht]
      exact step_acknowledgesConsumed_iff hstep hs hexact.acknowledged
  have hunderway : ∀ pre m,
      Run (Sections.Step (ingressServices host)) (.idle _ ι { comms, seen, inbound := [] }) pre m → Underway m :=
    fun pre m hrun => hrun.invariant (fun _ _ _ hstep hs => step_underway hstep hs) underway_idle
  rw [Run.every_and, ← hstates]
  refine and_congr ?_ (Run.every_congr (fun _ _ _ hstep hs => step_underway hstep hs) underway_idle
    fun m l m' hm hstep => stepOffersAgain_iff hstep hm)
  exact ⟨fun h pre post m heq hrun => ⟨hunderway pre m hrun, h pre post m heq hrun⟩,
    fun h pre post m heq hrun => (h pre post m heq hrun).2⟩

/-! ## Two frames of one message id -/

section Sample

def sampleSecond : CommunicationEnvelope :=
  { sampleReply false with
    metadata := { (StrictWireCodec.sampleReply false).metadata with correlationId := "corr-2" }
    integrityDigest := "3519ed76c62b57752e7036389a2190ac3a7fc5af51a41277c6c8b4a9f3b83b78" }

def sampleInboundSha256 (text : Json) : IntegrityDigest :=
  if (text.get? "metadata").bind (Json.get? "correlationId") = some (.str "corr-2") then sampleSecond.integrityDigest
  else (sampleReply false).integrityDigest

def sampleIngressHost : IngressHost :=
  { sampleReplyHost with
    sha256 := sampleInboundSha256, dateNow := fun _ => "1767225630000", authorize := fun _ _ => .ok ()
    runtimeConsumer := true }

def sampleFrame (envelope : CommunicationEnvelope) : IngressCall :=
  .acceptInboundFrame (some (encodeCommunicationWireFrame (fun _ => 721) (.literal envelope)))
    { peerDescriptor := some "peer", credentialRef := some "credential", channelBindingMaterial := some "material"
      tlsVerified := some true }

def idleIngress : Tasks (ingressServices sampleIngressHost) Unit :=
  .idle _ Unit { comms := .empty, seen := [], inbound := [] }

/-- The peer is identified, and the consumer takes what it is offered. -/
def ingressAnswers : Sections.Move (ingressServices sampleIngressHost) :=
  .resume fun call wait =>
    match call with
    | .acceptInboundFrame .. =>
        match (show IngressWait from wait) with
        | .verifying _ => .resolved (.ok { runtimeInstanceId := "rt", principal := (sampleReply false).sender })
        | .consuming _ => .resolved (.ok ())
        | .unconsumed _ => ()
    | .setFrozen _ => Empty.elim wait

def inboundMoves : List (Unit × Sections.Move (ingressServices sampleIngressHost)) :=
  [((), .start (sampleFrame (sampleReply false))), ((), ingressAnswers), ((), ingressAnswers),
    ((), .start (sampleFrame sampleSecond)), ((), ingressAnswers)]

/-- The second envelope is acknowledged, and nobody has consumed it. -/
theorem second_envelope_acknowledged_unconsumed : ∃ labels t,
    Run (Sections.Step (ingressServices sampleIngressHost)) idleIngress labels t ∧ ¬ ExactlyOnce t := by
  have hrun : (inboundMoves.foldlM Tasks.next? idleIngress).map (fun t => t.world.inbound) =
      some [.offered (sampleReply false), .consumed (sampleReply false) (.resolved (.ok ())),
        .acknowledged (sampleReply false), .acknowledged sampleSecond] := by decide +kernel
  obtain ⟨t, ht, hinbound⟩ := Option.map_eq_some_iff.1 hrun
  obtain ⟨labels, hrun⟩ := run_of_next? ht
  refine ⟨labels, t, hrun, fun h => ?_⟩
  have hconsumed : Consumed sampleSecond t.world.inbound := by
    refine h.acknowledged sampleSecond ?_
    rw [hinbound]
    simp
  rw [hinbound] at hconsumed
  unfold Consumed at hconsumed
  revert hconsumed
  decide +kernel

end Sample

end Cantilune
