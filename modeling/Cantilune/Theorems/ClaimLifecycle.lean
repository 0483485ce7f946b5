import Cantilune.Evaluation.ClaimRegistry

/-!
# The lifecycle of a claim

A reviewed claim was frozen by a protocol that names it, measured, decided by a decision about it and attested by
a decision about it with the same status. The registry takes claims of any status in, and an attestation is not
compared with the claim, so this holds exactly while claims that get attested started as proposed and each
attested decision is about its claim, with the status that the claim was decided with.
-/

namespace Cantilune.Evaluation

open Run

variable {r : ClaimRegistry} {op : RegistryOperation} {ops : List RegistryOperation} {id : String}
  {d : ClaimDecision}

def ClaimRegistry.run (ops : List RegistryOperation) : ClaimRegistry := ops.foldl ClaimRegistry.after .create

@[simp] theorem ClaimRegistry.run_snoc : ClaimRegistry.run (ops ++ [op]) = (ClaimRegistry.run ops).after op := by
  simp [ClaimRegistry.run]

/-! ## The moves of a claim -/

def Moves (r : ClaimRegistry) (op : RegistryOperation) (id : String) (before after : ClaimStatus) : Prop :=
  r.status? id = some before ∧ (r.after op).status? id = some after

def FreezesIn (r : ClaimRegistry) (op : RegistryOperation) (id : String) : Prop :=
  ∃ protocolId frozenAt protocol, op = .freezeProtocol protocolId frozenAt ∧
    r.protocols.get? protocolId = some protocol ∧ id ∈ protocol.claimRefs ∧ Moves r op id .proposed .protocolFrozen

def MeasuresIn (r : ClaimRegistry) (op : RegistryOperation) (id : String) : Prop :=
  ∃ analysisRef, op = .recordMeasurement id analysisRef ∧ Moves r op id .protocolFrozen .measured

def DecidesIn (r : ClaimRegistry) (op : RegistryOperation) (id : String) (d : ClaimDecision) : Prop :=
  op = .decideClaim id d ∧ d.claimRef = id ∧
    ∃ status, targetStatus d.status = some status ∧ Moves r op id .measured status

def AttestsIn (r : ClaimRegistry) (op : RegistryOperation) (id : String) (d : ClaimDecision) : Prop :=
  ∃ config status, op = .attestDecision id config d ∧ isDecisionPublishable d config = true ∧
    ClaimStatus.independentlyReviewed ∈ claimTransitions status ∧ Moves r op id status .independentlyReviewed

theorem FreezesIn.moves (h : FreezesIn r op id) : Moves r op id .proposed .protocolFrozen := by
  obtain ⟨_, _, _, _, _, _, hmoves⟩ := h
  exact hmoves

theorem MeasuresIn.moves (h : MeasuresIn r op id) : Moves r op id .protocolFrozen .measured := by
  obtain ⟨_, _, hmoves⟩ := h
  exact hmoves

theorem DecidesIn.moves (h : DecidesIn r op id d) :
    ∃ status, targetStatus d.status = some status ∧ Moves r op id .measured status := h.2.2

theorem AttestsIn.moves (h : AttestsIn r op id d) : ∃ status,
    ClaimStatus.independentlyReviewed ∈ claimTransitions status ∧ Moves r op id status .independentlyReviewed := by
  obtain ⟨_, status, _, _, hreviewable, hmoves⟩ := h
  exact ⟨status, hreviewable, hmoves⟩

inductive ClaimStep (r : ClaimRegistry) (op : RegistryOperation) (id : String) : Prop where
  | same (h : (r.after op).status? id = r.status? id)
  | registered (claim : EvaluationClaim) (hop : op = .registerClaim claim) (hid : claim.claimId = id)
      (hcode : claim.claimCode ∈ validClaimCodes) (hnew : r.status? id = none)
      (hafter : (r.after op).status? id = some claim.status)
  | frozen (h : FreezesIn r op id)
  | measured (h : MeasuresIn r op id)
  | decided (d : ClaimDecision) (h : DecidesIn r op id d)
  | attested (d : ClaimDecision) (h : AttestsIn r op id d)

/-! ## Single operations -/

theorem status?_setClaim (claimId : String) (claim : EvaluationClaim) :
    (r.setClaim claimId claim).status? id = if id = claimId then some claim.status else r.status? id := by
  unfold ClaimRegistry.status? ClaimRegistry.setClaim
  rw [OrdMap.get?_set]
  split <;> rfl

theorem status?_moveClaim {claim : EvaluationClaim} {claimId : String} (target : ClaimStatus)
    (hget : r.claims.get? claimId = some claim) :
    (r.moveClaim claimId claim target).2 = r ∨
      (r.status? claimId = some claim.status ∧ target ∈ claimTransitions claim.status ∧
        ∀ id, (r.moveClaim claimId claim target).2.status? id = if id = claimId then some target else r.status? id) := by
  unfold ClaimRegistry.moveClaim
  cases hmove : transitionClaim claim.status target with
  | error violations => exact .inl rfl
  | ok status =>
      obtain ⟨htarget, rfl⟩ := transition_eq_ok.1 hmove
      exact .inr ⟨by rw [ClaimRegistry.status?, hget]; rfl, htarget, fun id => status?_setClaim claimId _⟩

theorem status?_freezeClaim {claims : OrdMap String EvaluationClaim} {frozenAt claimRef : String} :
    ((freezeClaim frozenAt claims claimRef).get? id).map (·.status) =
      if id = claimRef ∧ (claims.get? id).map (·.status) = some .proposed then some .protocolFrozen
      else (claims.get? id).map (·.status) := by
  unfold freezeClaim
  cases hget : claims.get? claimRef with
  | none =>
      rw [if_neg]
      rintro ⟨rfl, hproposed⟩
      rw [hget] at hproposed
      cases hproposed
  | some claim =>
      dsimp only
      by_cases hproposed : claim.status = .proposed
      · rw [if_pos hproposed, hproposed]
        simp only [transitionClaim, transition, claimTransitions, List.mem_singleton, if_true]
        rw [OrdMap.get?_set]
        by_cases hid : id = claimRef
        · subst hid
          simp [hget, hproposed]
        · simp [hid]
      · rw [if_neg hproposed, if_neg]
        rintro ⟨rfl, h⟩
        rw [hget] at h
        exact hproposed (Option.some.inj h)

theorem status?_freezeClaims {frozenAt : String} (refs : List String) (claims : OrdMap String EvaluationClaim) :
    ((refs.foldl (freezeClaim frozenAt) claims).get? id).map (·.status) =
      if id ∈ refs ∧ (claims.get? id).map (·.status) = some .proposed then some .protocolFrozen
      else (claims.get? id).map (·.status) := by
  induction refs generalizing claims with
  | nil => simp
  | cons ref refs ih =>
      rw [List.foldl_cons, ih, status?_freezeClaim]
      by_cases hproposed : (claims.get? id).map (·.status) = some .proposed
      · by_cases hid : id = ref
        · have hfrozen : id = ref ∧ (claims.get? id).map (·.status) = some .proposed := ⟨hid, hproposed⟩
          have hnamed : id ∈ ref :: refs ∧ (claims.get? id).map (·.status) = some .proposed :=
            ⟨hid ▸ List.mem_cons_self, hproposed⟩
          rw [if_pos hfrozen, if_pos hnamed, if_neg (by simp)]
        · simp [hid, hproposed]
      · simp [hproposed]

theorem claimStep_move {claim : EvaluationClaim} {claimId : String} (target : ClaimStatus)
    (hget : r.claims.get? claimId = some claim) (hop : r.after op = (r.moveClaim claimId claim target).2)
    (hstep : target ∈ claimTransitions claim.status → Moves r op claimId claim.status target → ClaimStep r op claimId) :
    ClaimStep r op id := by
  rcases status?_moveClaim target hget with hsame | ⟨hbefore, htarget, hafter⟩
  · exact .same (by rw [hop, hsame])
  · by_cases hid : id = claimId
    · subst hid
      exact hstep htarget ⟨hbefore, by rw [hop, hafter, if_pos rfl]⟩
    · exact .same (by rw [hop, hafter, if_neg hid])

theorem status?_eq_none : r.status? id = none ↔ r.claims.has id = false := by
  rw [ClaimRegistry.status?, Option.map_eq_none_iff, OrdMap.has_eq_false_iff]

theorem after_registerClaim {claim : EvaluationClaim} (hcode : claim.claimCode ∈ validClaimCodes)
    (hnew : r.status? claim.claimId = none) : r.after (.registerClaim claim) = r.setClaim claim.claimId claim := by
  simp [ClaimRegistry.after, ClaimRegistry.registerClaim, status?_eq_none.1 hnew, hcode]

theorem status?_registerClaim {claim : EvaluationClaim} (hcode : claim.claimCode ∈ validClaimCodes)
    (hnew : r.status? claim.claimId = none) :
    (r.after (.registerClaim claim)).status? claim.claimId = some claim.status := by
  rw [after_registerClaim hcode hnew, status?_setClaim, if_pos rfl]

theorem claimStep (r : ClaimRegistry) (op : RegistryOperation) (id : String) : ClaimStep r op id := by
  cases op with
  | registerClaim claim =>
      by_cases hnew : r.status? claim.claimId = none
      · by_cases hcode : claim.claimCode ∈ validClaimCodes
        · by_cases hid : id = claim.claimId
          · subst hid
            exact .registered claim rfl rfl hcode hnew (status?_registerClaim hcode hnew)
          · exact .same (by rw [after_registerClaim hcode hnew, status?_setClaim, if_neg hid])
        · exact .same (by simp [ClaimRegistry.after, ClaimRegistry.registerClaim, status?_eq_none.1 hnew, hcode])
      · have hhas : r.claims.has claim.claimId = true := by
          rw [status?_eq_none] at hnew
          simpa using hnew
        exact .same (by simp [ClaimRegistry.after, ClaimRegistry.registerClaim, hhas])
  | registerProtocol protocol =>
      refine .same ?_
      simp only [ClaimRegistry.after, ClaimRegistry.registerProtocol]
      split <;> rfl
  | freezeProtocol protocolId frozenAt =>
      cases hget : r.protocols.get? protocolId with
      | none => exact .same (by simp [ClaimRegistry.after, ClaimRegistry.freezeProtocol, hget])
      | some protocol =>
          cases hfrozen : protocol.frozenAt with
          | some at' => exact .same (by simp [ClaimRegistry.after, ClaimRegistry.freezeProtocol, hget, hfrozen])
          | none =>
              by_cases hmissing : (protocol.claimRefs.filter fun claimRef => !r.claims.has claimRef).length > 0
              · refine .same ?_
                simp only [ClaimRegistry.after, ClaimRegistry.freezeProtocol, hget, hfrozen]
                rw [if_pos hmissing]
              · have hafter : (r.after (.freezeProtocol protocolId frozenAt)).claims =
                    protocol.claimRefs.foldl (freezeClaim frozenAt) r.claims := by
                  simp only [ClaimRegistry.after, ClaimRegistry.freezeProtocol, hget, hfrozen]
                  rw [if_neg hmissing]
                have hstatus : (r.after (.freezeProtocol protocolId frozenAt)).status? id =
                    if id ∈ protocol.claimRefs ∧ r.status? id = some .proposed then some .protocolFrozen
                    else r.status? id := by
                  unfold ClaimRegistry.status?
                  rw [hafter, status?_freezeClaims]
                by_cases hnamed : id ∈ protocol.claimRefs ∧ r.status? id = some .proposed
                · rw [if_pos hnamed] at hstatus
                  exact .frozen ⟨protocolId, frozenAt, protocol, rfl, hget, hnamed.1, hnamed.2, hstatus⟩
                · rw [if_neg hnamed] at hstatus
                  exact .same hstatus
  | recordMeasurement claimId analysisRef =>
      cases hget : r.claims.get? claimId with
      | none => exact .same (by simp [ClaimRegistry.after, ClaimRegistry.recordMeasurement, hget])
      | some claim =>
          by_cases href : analysisRef = ""
          · exact .same (by simp [ClaimRegistry.after, ClaimRegistry.recordMeasurement, hget, href])
          · refine claimStep_move .measured hget ?_ fun htarget hmoves => ?_
            · simp [ClaimRegistry.after, ClaimRegistry.recordMeasurement, hget, href]
            · have hstatus : claim.status = .protocolFrozen := by
                revert htarget
                cases claim.status <;> simp [claimTransitions]
              exact .measured ⟨analysisRef, rfl, hstatus ▸ hmoves⟩
  | decideClaim claimId decision =>
      cases hget : r.claims.get? claimId with
      | none => exact .same (by simp [ClaimRegistry.after, ClaimRegistry.decideClaim, hget])
      | some claim =>
          by_cases hclaim : decision.claimRef = claimId
          · by_cases hrefs : decision.analysisRefs.length = 0
            · refine .same ?_
              simp only [ClaimRegistry.after, ClaimRegistry.decideClaim, hget]
              rw [if_neg (not_not.2 hclaim), if_pos hrefs]
            · cases hdecided : targetStatus decision.status with
              | none =>
                  refine .same ?_
                  simp only [ClaimRegistry.after, ClaimRegistry.decideClaim, hget, hdecided]
                  rw [if_neg (not_not.2 hclaim), if_neg hrefs]
              | some target =>
                  refine claimStep_move target hget ?_ fun htarget hmoves => ?_
                  · simp only [ClaimRegistry.after, ClaimRegistry.decideClaim, hget, hdecided]
                    rw [if_neg (not_not.2 hclaim), if_neg hrefs]
                  · have hstatus : claim.status = .measured := by
                      revert htarget hdecided
                      cases decision.status <;> cases claim.status <;> simp [claimTransitions, targetStatus] <;>
                        rintro rfl <;> simp
                    exact .decided decision ⟨rfl, hclaim, target, hdecided, hstatus ▸ hmoves⟩
          · refine .same ?_
            simp only [ClaimRegistry.after, ClaimRegistry.decideClaim, hget]
            rw [if_pos hclaim]
  | attestDecision claimId config decision =>
      cases hget : r.claims.get? claimId with
      | none => exact .same (by simp [ClaimRegistry.after, ClaimRegistry.attestDecision, hget])
      | some claim =>
          by_cases hpublishable : isDecisionPublishable decision config = true
          · refine claimStep_move .independentlyReviewed hget ?_ fun htarget hmoves => ?_
            · simp [ClaimRegistry.after, ClaimRegistry.attestDecision, hget, hpublishable]
            · exact .attested decision ⟨config, claim.status, rfl, hpublishable, htarget, hmoves⟩
          · exact .same (by simp [ClaimRegistry.after, ClaimRegistry.attestDecision, hget, hpublishable])

/-! ## What happened to a claim -/

def StartedProposed (ops : List RegistryOperation) (id : String) : Prop :=
  Happened (fun pre op => ∃ claim, op = .registerClaim claim ∧ claim.claimId = id ∧ claim.status = .proposed ∧
    claim.claimCode ∈ validClaimCodes ∧ (ClaimRegistry.run pre).status? id = none) ops

def Frozen (ops : List RegistryOperation) (id : String) : Prop :=
  Happened (fun pre op => FreezesIn (.run pre) op id) ops

def Measured (ops : List RegistryOperation) (id : String) : Prop :=
  Happened (fun pre op => Frozen pre id ∧ MeasuresIn (.run pre) op id) ops

def Decided (ops : List RegistryOperation) (id : String) (d : ClaimDecision) : Prop :=
  Happened (fun pre op => Measured pre id ∧ DecidesIn (.run pre) op id d) ops

/-- The claim was frozen by a protocol that names it, later measured, later decided by a decision about it, and
later attested by a publishable decision about it, with the status that it was decided with. -/
def Reviewed (ops : List RegistryOperation) (id : String) : Prop :=
  Happened (fun pre op => ∃ d d', Decided pre id d ∧ AttestsIn (.run pre) op id d' ∧ d'.claimRef = id ∧
    d'.status = d.status) ops

def ReviewsInOrder (ops : List RegistryOperation) : Prop :=
  ∀ pre post id, ops = pre ++ post → (ClaimRegistry.run pre).status? id = some .independentlyReviewed → Reviewed pre id

/-- A claim may not be taken in as reviewed; and an attestation that the registry lets through is of a claim that
was taken in as proposed, by a decision about this claim with the status that the claim has. -/
def OperationInOrder (pre : List RegistryOperation) : RegistryOperation → Prop
  | .registerClaim claim => claim.status = .independentlyReviewed → claim.claimCode ∈ validClaimCodes →
      (ClaimRegistry.run pre).status? claim.claimId ≠ none
  | .attestDecision id config d => isDecisionPublishable d config = true →
      ∀ status, (ClaimRegistry.run pre).status? id = some status →
        ClaimStatus.independentlyReviewed ∈ claimTransitions status →
          StartedProposed pre id ∧ d.claimRef = id ∧ targetStatus d.status = some status
  | _ => True

def Known (ops : List RegistryOperation) (id : String) : ClaimStatus → Prop
  | .proposed => True
  | .protocolFrozen => Frozen ops id
  | .measured => Measured ops id
  | .supported => ∃ d, Decided ops id d ∧ d.status = .supported
  | .notSupported => ∃ d, Decided ops id d ∧ d.status = .notSupported
  | .inconclusive => ∃ d, Decided ops id d ∧ d.status = .inconclusive
  | _ => True

theorem known_of_decided {status : ClaimStatus} (h : Decided ops id d) (hstatus : targetStatus d.status = some status) :
    Known ops id status := by
  revert hstatus
  cases hd : d.status <;> simp only [targetStatus, Option.some.injEq, reduceCtorEq, false_implies] <;> rintro rfl <;>
    exact ⟨d, h, hd⟩

theorem known_of_reviewable {status : ClaimStatus} (h : Known ops id status)
    (hreviewable : ClaimStatus.independentlyReviewed ∈ claimTransitions status) :
    ∃ d, Decided ops id d ∧ targetStatus d.status = some status := by
  cases status <;> simp only [claimTransitions, List.mem_cons, List.not_mem_nil, or_false, reduceCtorEq] at hreviewable
  all_goals
    obtain ⟨d, hd, hstatus⟩ := h
    exact ⟨d, hd, by rw [hstatus]; rfl⟩

theorem Known.snoc {status : ClaimStatus} (h : Known ops id status) : Known (ops ++ [op]) id status := by
  cases status with
  | protocolFrozen => exact happened_snoc.2 (.inl h)
  | measured => exact happened_snoc.2 (.inl h)
  | supported => exact h.imp fun d => And.imp_left fun hd => happened_snoc.2 (.inl hd)
  | notSupported => exact h.imp fun d => And.imp_left fun hd => happened_snoc.2 (.inl hd)
  | inconclusive => exact h.imp fun d => And.imp_left fun hd => happened_snoc.2 (.inl hd)
  | _ => trivial

theorem targetStatus_injective {a b : ClaimDecisionStatus} {status : ClaimStatus} (ha : targetStatus a = some status)
    (hb : targetStatus b = some status) : a = b := by
  revert ha hb
  cases a <;> cases b <;> simp only [targetStatus, Option.some.injEq, reduceCtorEq, false_implies, implies_true] <;>
    rintro rfl <;> simp

/-! ## Runs -/

/-- The status of a claim tells what happened to it, for claims that were taken in as proposed. -/
structure Tracked (ops : List RegistryOperation) (id : String) : Prop where
  known : ∀ status, StartedProposed ops id → (ClaimRegistry.run ops).status? id = some status → Known ops id status
  started : (ClaimRegistry.run ops).status? id = some .proposed → StartedProposed ops id
  absent : (ClaimRegistry.run ops).status? id = none → ¬ StartedProposed ops id

theorem tracked (ops : List RegistryOperation) (id : String) : Tracked ops id := by
  induction ops using List.reverseRecOn with
  | nil => exact ⟨fun _ h => absurd h not_happened_nil, (nomatch ·), fun _ => not_happened_nil⟩
  | append_singleton ops op ih =>
      have hstarted : StartedProposed ops id → StartedProposed (ops ++ [op]) id := fun h => happened_snoc.2 (.inl h)
      -- nothing else than the registration of an unknown claim takes it in as proposed
      have hback : StartedProposed (ops ++ [op]) id → (ClaimRegistry.run ops).status? id ≠ none →
          StartedProposed ops id := by
        intro h hsome
        rcases happened_snoc.1 h with h | ⟨claim, _, _, _, _, hnone⟩
        · exact h
        · exact absurd hnone hsome
      have hmoved : ∀ before after, Moves (.run ops) op id before after → after ≠ .proposed →
          (StartedProposed ops id → Known (ops ++ [op]) id after) → Tracked (ops ++ [op]) id := by
        rintro before after ⟨hbefore, hafter⟩ hne hknown
        rw [← ClaimRegistry.run_snoc] at hafter
        refine ⟨fun status hproposed hstatus => ?_, fun h => ?_, fun h => ?_⟩
        · rw [hafter] at hstatus
          cases hstatus
          exact hknown (hback hproposed (by simp [hbefore]))
        · rw [hafter] at h
          exact absurd (Option.some.inj h) hne
        · rw [hafter] at h
          cases h
      cases claimStep (.run ops) op id with
      | same hsame =>
          rw [← ClaimRegistry.run_snoc] at hsame
          refine ⟨fun status hproposed hstatus => ?_, fun h => hstarted (ih.started (hsame ▸ h)), fun h => ?_⟩
          · rw [hsame] at hstatus
            exact (ih.known status (hback hproposed (by simp [hstatus])) hstatus).snoc
          · intro hproposed
            rcases happened_snoc.1 hproposed with hearlier | ⟨claim, rfl, rfl, _, hcode, hnone⟩
            · exact ih.absent (hsame ▸ h) hearlier
            · rw [ClaimRegistry.run_snoc, status?_registerClaim hcode hnone] at h
              cases h
      | registered claim hop hid hcode hnew hafter =>
          subst hop hid
          rw [← ClaimRegistry.run_snoc] at hafter
          refine ⟨fun status hproposed hstatus => ?_, fun h => ?_, fun h => ?_⟩
          · rw [hafter] at hstatus
            cases hstatus
            rcases happened_snoc.1 hproposed with hearlier | ⟨claim', hclaim, _, hstatus, _⟩
            · exact absurd hearlier (ih.absent hnew)
            · cases hclaim
              rw [hstatus]
              trivial
          · rw [hafter] at h
            exact happened_snoc.2 (.inr ⟨claim, rfl, rfl, Option.some.inj h, hcode, hnew⟩)
          · rw [hafter] at h
            cases h
      | frozen h =>
          exact hmoved _ _ h.moves (by simp) fun _ => happened_snoc.2 (.inr h)
      | measured h =>
          exact hmoved _ _ h.moves (by simp) fun hproposed =>
            happened_snoc.2 (.inr ⟨ih.known _ hproposed h.moves.1, h⟩)
      | decided d h =>
          obtain ⟨status, htarget, hmoves⟩ := h.moves
          refine hmoved _ _ hmoves ?_ fun hproposed =>
            known_of_decided (happened_snoc.2 (.inr ⟨ih.known _ hproposed hmoves.1, h⟩)) htarget
          rintro rfl
          cases hd : d.status <;> simp [hd, targetStatus] at htarget
      | attested d h =>
          obtain ⟨_, _, hmoves⟩ := h.moves
          exact hmoved _ _ hmoves (by simp) fun _ => trivial

theorem status?_after_reviewable {status : ClaimStatus} (h : r.status? id = some status)
    (hreviewable : ClaimStatus.independentlyReviewed ∈ claimTransitions status) :
    (r.after op).status? id = some status ∨ (r.after op).status? id = some .independentlyReviewed := by
  have hne : ∀ before after, Moves r op id before after →
      ClaimStatus.independentlyReviewed ∈ claimTransitions before := by
    rintro before after ⟨hbefore, _⟩
    cases hbefore.symm.trans h
    exact hreviewable
  cases claimStep r op id with
  | same hsame => exact .inl (hsame.trans h)
  | registered _ _ _ _ hnew _ => exact nomatch h.symm.trans hnew
  | frozen hstep => exact absurd (hne _ _ hstep.moves) (by decide)
  | measured hstep => exact absurd (hne _ _ hstep.moves) (by decide)
  | decided _ hstep =>
      obtain ⟨_, _, hmoves⟩ := hstep.moves
      exact absurd (hne _ _ hmoves) (by decide)
  | attested _ hstep =>
      obtain ⟨_, _, hmoves⟩ := hstep.moves
      exact .inr hmoves.2

theorem status?_after_reviewed (h : r.status? id = some .independentlyReviewed) :
    (r.after op).status? id = some .independentlyReviewed := by
  cases claimStep r op id with
  | same hsame => exact hsame.trans h
  | registered _ _ _ _ hnew _ => exact nomatch h.symm.trans hnew
  | frozen hstep => exact nomatch h.symm.trans hstep.moves.1
  | measured hstep => exact nomatch h.symm.trans hstep.moves.1
  | decided _ hstep =>
      obtain ⟨_, _, hmoves⟩ := hstep.moves
      exact nomatch h.symm.trans hmoves.1
  | attested _ hstep =>
      obtain ⟨_, _, hmoves⟩ := hstep.moves
      exact hmoves.2

theorem status?_of_reviewed (h : Reviewed ops id) :
    (ClaimRegistry.run ops).status? id = some .independentlyReviewed := by
  induction ops using List.reverseRecOn with
  | nil => exact absurd h not_happened_nil
  | append_singleton ops op ih =>
      rw [ClaimRegistry.run_snoc]
      rcases happened_snoc.1 h with hearlier | ⟨_, _, _, ⟨_, _, _, _, _, hmoves⟩, _⟩
      · exact status?_after_reviewed (ih hearlier)
      · exact hmoves.2

theorem reviewable_of_decided (h : Decided ops id d) : ∃ status, targetStatus d.status = some status ∧
    ClaimStatus.independentlyReviewed ∈ claimTransitions status := by
  obtain ⟨_, _, _, _, _, _, _, status, htarget, _⟩ := h
  refine ⟨status, htarget, ?_⟩
  revert htarget
  cases d.status <;> simp only [targetStatus, Option.some.injEq, reduceCtorEq, false_implies] <;> rintro rfl <;> decide

theorem status?_of_decided (h : Decided ops id d) :
    (ClaimRegistry.run ops).status? id = targetStatus d.status ∨
      (ClaimRegistry.run ops).status? id = some .independentlyReviewed := by
  induction ops using List.reverseRecOn with
  | nil => exact absurd h not_happened_nil
  | append_singleton ops op ih =>
      rw [ClaimRegistry.run_snoc]
      obtain ⟨status, htarget, hreviewable⟩ := reviewable_of_decided h
      rcases happened_snoc.1 h with hearlier | ⟨_, hstep⟩
      · rcases ih hearlier with hdecided | hreviewed
        · rw [htarget] at hdecided
          exact htarget ▸ status?_after_reviewable hdecided hreviewable
        · exact .inr (status?_after_reviewed hreviewed)
      · obtain ⟨_, hstatus, hmoves⟩ := hstep.moves
        exact .inl (hmoves.2.trans hstatus.symm)

theorem startedProposed_of_decided (h : Decided ops id d) : StartedProposed ops id := by
  obtain ⟨decided, _, _, rfl, ⟨measured, _, _, rfl, ⟨frozen, _, _, rfl, hfreezes⟩, _⟩, _⟩ := h
  simp only [List.append_assoc]
  exact ((tracked frozen id).started hfreezes.moves.1).append _

theorem status?_attestDecision {config : ReviewValidationConfig} {status : ClaimStatus}
    (hpublishable : isDecisionPublishable d config = true) (hstatus : r.status? id = some status)
    (hreviewable : ClaimStatus.independentlyReviewed ∈ claimTransitions status) :
    (r.after (.attestDecision id config d)).status? id = some .independentlyReviewed := by
  obtain ⟨claim, hget, rfl⟩ := Option.map_eq_some_iff.1 hstatus
  have hmove : transitionClaim claim.status .independentlyReviewed = .ok .independentlyReviewed :=
    transition_eq_ok.2 ⟨hreviewable, rfl⟩
  simp only [ClaimRegistry.after, ClaimRegistry.attestDecision, hget, hpublishable, not_true_eq_false, if_false,
    ClaimRegistry.moveClaim, hmove]
  rw [status?_setClaim, if_pos rfl]

/-- Claims are reviewed in order exactly while every registration and attestation is in order. -/
theorem claims_reviewed_in_order_iff (ops : List RegistryOperation) :
    ReviewsInOrder ops ↔ ∀ pre op post, ops = pre ++ op :: post → OperationInOrder pre op := by
  constructor
  · intro h pre op post heq
    have hreviewed : ∀ id, (ClaimRegistry.run (pre ++ [op])).status? id = some .independentlyReviewed →
        Reviewed (pre ++ [op]) id :=
      fun id => h (pre ++ [op]) post id (by rw [heq, List.append_assoc, List.singleton_append])
    cases op with
    | registerClaim claim =>
        intro hstatus hcode hnew
        rcases happened_snoc.1 (hreviewed claim.claimId
          (by rw [ClaimRegistry.run_snoc, status?_registerClaim hcode hnew, hstatus])) with hearlier | hnow
        · exact nomatch (status?_of_reviewed hearlier).symm.trans hnew
        · obtain ⟨_, _, _, ⟨_, _, hop, _⟩, _⟩ := hnow
          cases hop
    | attestDecision id config d =>
        intro hpublishable status hstatus hreviewable
        rcases happened_snoc.1 (hreviewed id
          (by rw [ClaimRegistry.run_snoc, status?_attestDecision hpublishable hstatus hreviewable])) with
          hearlier | ⟨d₀, d', hdecided, ⟨_, _, hop, _⟩, hclaim, hsame⟩
        · cases (status?_of_reviewed hearlier).symm.trans hstatus
          exact absurd hreviewable (by decide)
        · cases hop
          refine ⟨startedProposed_of_decided hdecided, hclaim, ?_⟩
          rw [hsame]
          rcases status?_of_decided hdecided with hcurrent | hcurrent
          · rw [← hcurrent, hstatus]
          · cases hcurrent.symm.trans hstatus
            exact absurd hreviewable (by decide)
    | _ => trivial
  · rintro h pre post id rfl hstatus
    induction pre using List.reverseRecOn generalizing post with
    | nil => exact nomatch hstatus
    | append_singleton pre op ih =>
        have hop : OperationInOrder pre op := h pre op post (by rw [List.append_assoc, List.singleton_append])
        have hearlier : (ClaimRegistry.run pre).status? id = some .independentlyReviewed → Reviewed (pre ++ [op]) id :=
          fun hbefore => happened_snoc.2 (.inl (ih (op :: post)
            (by rwa [List.append_assoc, List.singleton_append] at h) hbefore))
        rw [ClaimRegistry.run_snoc] at hstatus
        cases claimStep (.run pre) op id with
        | same hsame => exact hearlier (hsame ▸ hstatus)
        | registered claim hregister hid hcode hnew hafter =>
            subst hregister hid
            exact absurd hnew (hop (Option.some.inj (hafter.symm.trans hstatus)) hcode)
        | frozen hstep => exact nomatch hstatus.symm.trans hstep.moves.2
        | measured hstep => exact nomatch hstatus.symm.trans hstep.moves.2
        | decided d hstep =>
            obtain ⟨status, htarget, hmoves⟩ := hstep.moves
            cases hmoves.2.symm.trans hstatus
            cases hd : d.status <;> simp [hd, targetStatus] at htarget
        | attested d hstep =>
            obtain ⟨config, status, hattest, hpublishable, hreviewable, hmoves⟩ := hstep
            subst hattest
            obtain ⟨hproposed, hclaim, htarget⟩ := hop hpublishable status hmoves.1 hreviewable
            obtain ⟨d₀, hdecided, htarget₀⟩ :=
              known_of_reviewable ((tracked pre id).known status hproposed hmoves.1) hreviewable
            exact happened_snoc.2 (.inr ⟨d₀, d, hdecided, ⟨config, status, rfl, hpublishable, hreviewable, hmoves⟩,
              hclaim, targetStatus_injective htarget htarget₀⟩)

def reviewedDecision (claimRef : String) (status : ClaimDecisionStatus) : ClaimDecision where
  claimRef := claimRef
  analysisRefs := ["analysis"]
  status := status
  guardrailViolations := []
  evidenceRoot := "root"
  reviewerAttestations := [⟨"reviewer", "methods", .approve, "none", "signature"⟩]
  signatureRefs := ["signature"]

def foreignAttestation : List RegistryOperation :=
  [.registerClaim ⟨"claim", "evaluation.c1", .proposed, none⟩, .registerProtocol ⟨"protocol", ["claim"], "digest", none⟩,
    .freezeProtocol "protocol" "now", .recordMeasurement "claim" "analysis",
    .decideClaim "claim" (reviewedDecision "claim" .supported),
    .attestDecision "claim" ⟨["methods"], 1, true, "owner"⟩ (reviewedDecision "other" .notSupported)]

theorem foreign_decision_attests : ¬ ReviewsInOrder foreignAttestation := by
  intro h
  obtain ⟨pre, op, post, heq, _, d, _, ⟨config, _, rfl, _⟩, hclaim, _⟩ :=
    h foreignAttestation [] "claim" (List.append_nil _).symm (by decide +kernel)
  have hmem : RegistryOperation.attestDecision "claim" config d ∈ foreignAttestation := by
    rw [heq]
    exact List.mem_append_right _ List.mem_cons_self
  simp only [foreignAttestation, List.mem_cons, reduceCtorEq, RegistryOperation.attestDecision.injEq, false_or,
    List.not_mem_nil, or_false] at hmem
  obtain ⟨_, _, rfl⟩ := hmem
  exact absurd hclaim (by decide)

end Cantilune.Evaluation
