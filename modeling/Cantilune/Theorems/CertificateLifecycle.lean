import Cantilune.Base.Outcomes
import Cantilune.Conformance.Lifecycle

/-!
# The lifecycle of a certificate, in any order

A certificate that is revoked or superseded stays so, and one that is issued was verified by a machine and then
approved by a review of that same decision. A late decision of the machine that is invalid, or parsing the
manifest again, leads out of the final states; and no transition compares a review with the decision by which the
certificate was verified. The lifecycle holds exactly where neither happens.
-/

namespace Cantilune.Conformance

variable {op : LifecycleOperation} {ops : List LifecycleOperation}

/-! ## Histories -/

def CertificateLifecycleState.IsFinal (state : CertificateLifecycleState) : Prop :=
  state = .revoked ∨ state = .superseded

def CertificateLifecycleRecord.after (record : CertificateLifecycleRecord) (op : LifecycleOperation) :
    CertificateLifecycleRecord :=
  match record.transition op with
  | .ok next => if next.certificateId = record.certificateId then next else record
  | .error _ => record

/-- A record with the decision by which the certificate was verified last, and the review after it. -/
structure CertificateHistory where
  record : CertificateLifecycleRecord
  verified : Option VerificationDecision
  review : Option ReviewedDecision

variable {h : CertificateHistory}

namespace CertificateHistory

def after (h : CertificateHistory) (op : LifecycleOperation) : CertificateHistory :=
  let record := h.record.after op
  if record.state = h.record.state then { h with record }
  else
    match op with
    | .verify verified => ⟨record, some verified.decision, none⟩
    | .applyDecision decision =>
        if decision.machine = .verified then ⟨record, some decision, none⟩ else { h with record }
    | .review reviewed => { h with record, review := some reviewed }
    | _ => { h with record }

def start (certificateId updatedAt : String) : CertificateHistory :=
  ⟨⟨certificateId, initialLifecycleState, updatedAt⟩, none, none⟩

def run (certificateId updatedAt : String) (ops : List LifecycleOperation) : CertificateHistory :=
  ops.foldl after (start certificateId updatedAt)

@[simp] theorem run_snoc {certificateId updatedAt : String} :
    run certificateId updatedAt (ops ++ [op]) = (run certificateId updatedAt ops).after op := by
  simp [run]

def Approved (h : CertificateHistory) : Prop :=
  ∃ decision reviewed, h.verified = some decision ∧ decision.machine = .verified ∧ decision.violations = [] ∧
    h.review = some reviewed ∧ reviewed.branded = true ∧ reviewed.reviewDecision = .approved ∧
    reviewed.verified.decision = decision

/-- Once revoked or superseded, always so; and issued only as approved. -/
structure LifecycleHolds (certificateId updatedAt : String) (ops : List LifecycleOperation) : Prop where
  final : ∀ pre mid post, ops = pre ++ mid ++ post → (run certificateId updatedAt pre).record.state.IsFinal →
    (run certificateId updatedAt (pre ++ mid)).record.state = (run certificateId updatedAt pre).record.state
  issued : ∀ pre post, ops = pre ++ post → (run certificateId updatedAt pre).record.state = .issued →
    (run certificateId updatedAt pre).Approved

/-- In a final state the manifest is not parsed again and no decision is invalid; and what may be issued was
approved by a review of the decision by which it was verified. -/
def Allowed (h : CertificateHistory) : LifecycleOperation → Prop
  | .parse manifest _ => h.record.state.IsFinal → manifest.manifestSchemaVersion = 1 →
      manifest.evidenceRootDigest ≠ h.record.certificateId
  | .applyDecision decision => h.record.state.IsFinal → decision.machine ≠ .invalid
  | .issue certificate reviewed => h.record.state = .humanReviewed → reviewed.reviewDecision = .approved →
      certificate.certificateId = h.record.certificateId →
      ∃ review, h.review = some review ∧ review.reviewDecision = .approved ∧ h.verified = some review.verified.decision
  | _ => True

/-! ## Single transitions -/

inductive HistoryStep (h : CertificateHistory) : LifecycleOperation → CertificateHistory → Prop where
  | same {op : LifecycleOperation} : HistoryStep h op h
  | parsed {manifest : ConformanceTargetManifest} {now : String} (hschema : manifest.manifestSchemaVersion = 1)
      (hid : manifest.evidenceRootDigest = h.record.certificateId) :
      HistoryStep h (.parse manifest now) { h with record := ⟨h.record.certificateId, .parsed, now⟩ }
  | verified {op : LifecycleOperation} {decision : VerificationDecision} {verifiedAt : String}
      (hstate : h.record.state = .parsed ∨ h.record.state = .candidate)
      (hverified : decision.machine = .verified ∧ decision.violations = []) :
      HistoryStep h op ⟨⟨h.record.certificateId, .machineVerified, verifiedAt⟩, some decision, none⟩
  | reviewed {reviewed : ReviewedDecision} (hstate : h.record.state = .machineVerified)
      (hbranded : reviewed.branded = true) : HistoryStep h (.review reviewed)
        { h with record := ⟨h.record.certificateId, .humanReviewed, reviewed.reviewedAt⟩, review := some reviewed }
  | issued {certificate : PackageConformanceCertificate} {reviewed : ReviewedDecision}
      (hstate : h.record.state = .humanReviewed) (happroved : reviewed.reviewDecision = .approved)
      (hid : certificate.certificateId = h.record.certificateId) : HistoryStep h (.issue certificate reviewed)
        { h with record := ⟨h.record.certificateId, .issued, certificate.issuedAt⟩ }
  | reset {decision : VerificationDecision} (hinvalid : decision.machine = .invalid) :
      HistoryStep h (.applyDecision decision)
        { h with record := ⟨h.record.certificateId, .candidate, decision.decidedAt⟩ }
  | revoked {op : LifecycleOperation} {revokedAt : String} (hstate : ¬ h.record.state.IsFinal) :
      HistoryStep h op { h with record := ⟨h.record.certificateId, .revoked, revokedAt⟩ }
  | superseded {op : LifecycleOperation} {supersededAt : String} (hstate : ¬ h.record.state.IsFinal) :
      HistoryStep h op { h with record := ⟨h.record.certificateId, .superseded, supersededAt⟩ }

theorem after_of_error {violations : List ConformanceViolation} (herror : h.record.transition op = .error violations) :
    h.after op = h := by
  simp [after, CertificateLifecycleRecord.after, herror]

theorem record_after {next : CertificateLifecycleRecord} (hok : h.record.transition op = .ok next)
    (hid : next.certificateId = h.record.certificateId) : h.record.after op = next := by
  simp [CertificateLifecycleRecord.after, hok, hid]

theorem historyStep (h : CertificateHistory) (op : LifecycleOperation) : HistoryStep h op (h.after op) := by
  cases hresult : h.record.transition op with
  | error violations =>
      rw [after_of_error hresult]
      exact .same
  | ok next =>
      have hok := hresult
      cases op with
      | parse manifest now =>
          simp only [CertificateLifecycleRecord.transition, transitionParsed] at hresult
          split at hresult
          · cases hresult
          · cases hresult
            by_cases hid : manifest.evidenceRootDigest = h.record.certificateId
            · have hafter : h.after (.parse manifest now) =
                  { h with record := ⟨h.record.certificateId, .parsed, now⟩ } := by
                simp [after, record_after hok hid, hid]
              exact hafter ▸ .parsed (by simpa using ‹¬ manifest.manifestSchemaVersion ≠ 1›) hid
            · have hafter : h.after (.parse manifest now) = h := by
                simp [after, CertificateLifecycleRecord.after, hok, hid]
              rw [hafter]
              exact .same
      | verify verified =>
          simp only [CertificateLifecycleRecord.transition, transitionMachineVerified] at hresult
          split at hresult
          · cases hresult
          · rename_i hstate
            split at hresult
            · cases hresult
            · rename_i hbranded
              cases hresult
              have hstate' : h.record.state = .parsed ∨ h.record.state = .candidate := by
                by_contra hneither
                exact hstate (not_or.1 hneither)
              have hafter : h.after (.verify verified) =
                  ⟨⟨h.record.certificateId, .machineVerified, verified.verifiedAt⟩, some verified.decision, none⟩ := by
                rcases hstate' with hparsed | hcandidate
                · simp [after, record_after hok rfl, hparsed]
                · simp [after, record_after hok rfl, hcandidate]
              exact hafter ▸ .verified hstate' (verified.verified_of_branded (by simpa [isVerifiedDecision] using hbranded))
      | review reviewed =>
          simp only [CertificateLifecycleRecord.transition, transitionHumanReviewed] at hresult
          split at hresult
          · cases hresult
          · rename_i hstate
            split at hresult
            · cases hresult
            · rename_i hbranded
              cases hresult
              have hstate' : h.record.state = .machineVerified := not_not.1 hstate
              have hafter : h.after (.review reviewed) = { h with
                  record := ⟨h.record.certificateId, .humanReviewed, reviewed.reviewedAt⟩, review := some reviewed } := by
                simp [after, record_after hok rfl, hstate']
              exact hafter ▸ .reviewed hstate' (by simpa [isReviewedDecision] using hbranded)
      | issue certificate reviewed =>
          simp only [CertificateLifecycleRecord.transition, transitionIssued] at hresult
          split at hresult
          · cases hresult
          · split at hresult
            · cases hresult
            · split at hresult
              · cases hresult
              · rename_i hstate happroved hid
                cases hresult
                have hafter : h.after (.issue certificate reviewed) =
                    { h with record := ⟨h.record.certificateId, .issued, certificate.issuedAt⟩ } := by
                  simp [after, record_after hok rfl]
                exact hafter ▸ .issued (not_not.1 hstate) (not_not.1 happroved) (not_not.1 hid)
      | applyDecision decision =>
          simp only [CertificateLifecycleRecord.transition, applyVerificationDecision] at hresult
          split at hresult
          · rename_i hverified
            obtain ⟨hmachine, hviolations, hstate⟩ := hverified
            cases hresult
            have hafter : h.after (.applyDecision decision) =
                ⟨⟨h.record.certificateId, .machineVerified, decision.decidedAt⟩, some decision, none⟩ := by
              rcases hstate with hparsed | hcandidate
              · simp [after, record_after hok rfl, hparsed, hmachine]
              · simp [after, record_after hok rfl, hcandidate, hmachine]
            exact hafter ▸ .verified hstate ⟨hmachine, List.length_eq_zero_iff.1 hviolations⟩
          · split at hresult
            · rename_i hinvalid
              cases hresult
              have hafter : h.after (.applyDecision decision) =
                  { h with record := ⟨h.record.certificateId, .candidate, decision.decidedAt⟩ } := by
                simp [after, record_after hok rfl, hinvalid]
              exact hafter ▸ .reset hinvalid
            · cases hresult
              have hafter : h.after (.applyDecision decision) = h := by
                simp [after, record_after hok rfl]
              rw [hafter]
              exact .same
      | revoke input now =>
          obtain ⟨⟨record, revocation⟩, hrevoke, hrecord⟩ := Outcome.map_eq_ok.1 hresult
          simp only [revokeCertificate] at hrevoke
          split at hrevoke
          · cases hrevoke
          · rename_i hstate
            split at hrevoke
            · cases hrevoke
            · cases hrevoke
              subst hrecord
              have hafter : h.after (.revoke input now) =
                  { h with record := ⟨h.record.certificateId, .revoked, input.revokedAt.getD now⟩ } := by
                simp [after, record_after hok rfl]
              refine hafter ▸ .revoked ?_
              rintro (hfinal | hfinal)
              · exact hstate (by simp [hfinal])
              · exact hstate (by simp [hfinal])
      | supersede input now =>
          simp only [CertificateLifecycleRecord.transition, supersedeCertificate] at hresult
          split at hresult
          · cases hresult
          · rename_i hstate
            split at hresult
            · cases hresult
            · split at hresult
              · cases hresult
              · cases hresult
                have hafter : h.after (.supersede input now) =
                    { h with record := ⟨h.record.certificateId, .superseded, input.supersededAt.getD now⟩ } := by
                  simp [after, record_after hok rfl]
                refine hafter ▸ .superseded ?_
                rintro (hfinal | hfinal)
                · exact hstate (by simp [hfinal])
                · exact hstate (by simp [hfinal])

/-! ## What a history knows -/

/-- The state of a certificate tells how far it came. -/
structure Consistent (h : CertificateHistory) : Prop where
  machineVerified : h.record.state = .machineVerified ∨ h.record.state = .humanReviewed ∨ h.record.state = .issued →
    ∃ decision, h.verified = some decision ∧ decision.machine = .verified ∧ decision.violations = []
  humanReviewed : h.record.state = .humanReviewed ∨ h.record.state = .issued →
    ∃ reviewed, h.review = some reviewed ∧ reviewed.branded = true

theorem consistent_after (hh : h.Consistent) : (h.after op).Consistent := by
  obtain ⟨hverified, hreviewed⟩ := hh
  generalize hnext : h.after op = next
  have hstep := historyStep h op
  rw [hnext] at hstep
  cases hstep with
  | same => exact ⟨hverified, hreviewed⟩
  | parsed => exact ⟨by simp, by simp⟩
  | verified hstate hdecision => exact ⟨fun _ => ⟨_, rfl, hdecision⟩, by simp⟩
  | reviewed hstate hbranded => exact ⟨fun _ => hverified (.inl hstate), fun _ => ⟨_, rfl, hbranded⟩⟩
  | issued hstate => exact ⟨fun _ => hverified (.inr (.inl hstate)), fun _ => hreviewed (.inl hstate)⟩
  | reset => exact ⟨by simp, by simp⟩
  | revoked => exact ⟨by simp, by simp⟩
  | superseded => exact ⟨by simp, by simp⟩

theorem consistent_run (certificateId updatedAt : String) (ops : List LifecycleOperation) :
    (run certificateId updatedAt ops).Consistent := by
  induction ops using List.reverseRecOn with
  | nil => exact ⟨by simp [run, start, initialLifecycleState], by simp [run, start, initialLifecycleState]⟩
  | append_singleton ops op ih =>
      rw [run_snoc]
      exact consistent_after ih

theorem state_after_parse {manifest : ConformanceTargetManifest} {now : String}
    (hschema : manifest.manifestSchemaVersion = 1) (hid : manifest.evidenceRootDigest = h.record.certificateId) :
    (h.after (.parse manifest now)).record.state = .parsed := by
  have hok : h.record.transition (.parse manifest now) = .ok ⟨manifest.evidenceRootDigest, .parsed, now⟩ := by
    simp [CertificateLifecycleRecord.transition, transitionParsed, hschema]
  simp only [after, record_after hok hid]
  split <;> rfl

theorem state_after_invalid {decision : VerificationDecision} (hinvalid : decision.machine = .invalid) :
    (h.after (.applyDecision decision)).record.state = .candidate := by
  have hok : h.record.transition (.applyDecision decision) =
      .ok ⟨h.record.certificateId, .candidate, decision.decidedAt⟩ := by
    simp [CertificateLifecycleRecord.transition, applyVerificationDecision, hinvalid]
  simp [after, record_after hok rfl, hinvalid]

theorem state_after_issue {certificate : PackageConformanceCertificate} {reviewed : ReviewedDecision}
    (hstate : h.record.state = .humanReviewed) (happroved : reviewed.reviewDecision = .approved)
    (hid : certificate.certificateId = h.record.certificateId) : h.after (.issue certificate reviewed) =
      { h with record := ⟨h.record.certificateId, .issued, certificate.issuedAt⟩ } := by
  have hok : h.record.transition (.issue certificate reviewed) =
      .ok ⟨h.record.certificateId, .issued, certificate.issuedAt⟩ := by
    simp [CertificateLifecycleRecord.transition, transitionIssued, hstate, happroved, hid]
  simp [after, record_after hok rfl, hstate]

theorem state_after_final_iff (hfinal : h.record.state.IsFinal) :
    (h.after op).record.state = h.record.state ↔ h.Allowed op := by
  constructor
  · intro hsame
    cases op with
    | parse manifest now =>
        intro _ hschema hid
        rw [state_after_parse hschema hid] at hsame
        rcases hfinal with hfinal | hfinal <;> exact nomatch hsame.trans hfinal
    | applyDecision decision =>
        intro _ hinvalid
        rw [state_after_invalid hinvalid] at hsame
        rcases hfinal with hfinal | hfinal <;> exact nomatch hsame.trans hfinal
    | issue certificate reviewed =>
        intro hstate
        rcases hfinal with hfinal | hfinal <;> exact nomatch hstate.symm.trans hfinal
    | _ => trivial
  · intro hallowed
    have hne : ∀ state, ¬ state.IsFinal → h.record.state ≠ state := fun state hstate heq => hstate (heq ▸ hfinal)
    generalize hnext : h.after op = next
    have hstep := historyStep h op
    rw [hnext] at hstep
    cases hstep with
    | same => rfl
    | parsed hschema hid => exact absurd hid (hallowed hfinal hschema)
    | verified hstate =>
        rcases hstate with hstate | hstate
        · exact absurd hstate (hne _ (by simp [CertificateLifecycleState.IsFinal]))
        · exact absurd hstate (hne _ (by simp [CertificateLifecycleState.IsFinal]))
    | reviewed hstate => exact absurd hstate (hne _ (by simp [CertificateLifecycleState.IsFinal]))
    | issued hstate => exact absurd hstate (hne _ (by simp [CertificateLifecycleState.IsFinal]))
    | reset hinvalid => exact absurd hinvalid (hallowed hfinal)
    | revoked hstate => exact absurd hfinal hstate
    | superseded hstate => exact absurd hfinal hstate

theorem approved_after_iff (hh : h.Consistent) (hbefore : h.record.state = .issued → h.Approved)
    (hopen : ¬ h.record.state.IsFinal) :
    ((h.after op).record.state = .issued → (h.after op).Approved) ↔ h.Allowed op := by
  constructor
  · intro happroved
    cases op with
    | parse manifest now => exact fun hfinal => absurd hfinal hopen
    | applyDecision decision => exact fun hfinal => absurd hfinal hopen
    | issue certificate reviewed =>
        intro hstate hreview hid
        rw [state_after_issue hstate hreview hid] at happroved
        obtain ⟨decision, review, hverified, _, _, hreview, _, happroved, rfl⟩ := happroved rfl
        exact ⟨review, hreview, happroved, hverified⟩
    | _ => trivial
  · intro hallowed
    generalize hnext : h.after op = next
    have hstep := historyStep h op
    rw [hnext] at hstep
    cases hstep with
    | same => exact hbefore
    | issued hstate hreview hid =>
        intro _
        obtain ⟨review, hrecorded, happroved, hverified⟩ := hallowed hstate hreview hid
        obtain ⟨decision, hdecision, hmachine, hviolations⟩ := hh.machineVerified (.inr (.inl hstate))
        obtain ⟨recorded, hrecorded', hbranded⟩ := hh.humanReviewed (.inl hstate)
        cases hverified.symm.trans hdecision
        cases hrecorded.symm.trans hrecorded'
        exact ⟨_, _, hdecision, hmachine, hviolations, hrecorded, hbranded, happroved, rfl⟩
    | _ => simp

/-- The lifecycle holds exactly where every transition is allowed by the history before it. -/
theorem certificate_lifecycle_iff (certificateId updatedAt : String) (ops : List LifecycleOperation) :
    LifecycleHolds certificateId updatedAt ops ↔
      ∀ pre op post, ops = pre ++ op :: post → (run certificateId updatedAt pre).Allowed op := by
  constructor
  · intro h pre op post heq
    by_cases hfinal : (run certificateId updatedAt pre).record.state.IsFinal
    · have hsame := h.final pre [op] post (by rw [heq, List.append_assoc, List.singleton_append]) hfinal
      rw [run_snoc] at hsame
      exact (state_after_final_iff hfinal).1 hsame
    · have happroved := h.issued (pre ++ [op]) post (by rw [heq, List.append_assoc, List.singleton_append])
      rw [run_snoc] at happroved
      exact (approved_after_iff (consistent_run certificateId updatedAt pre)
        (h.issued pre (op :: post) heq) hfinal).1 happroved
  · intro h
    refine ⟨fun pre mid post heq hfinal => ?_, fun pre post heq => ?_⟩
    · subst heq
      induction mid using List.reverseRecOn generalizing post with
      | nil => rw [List.append_nil]
      | append_singleton mid op ih =>
          have hsplit : pre ++ (mid ++ [op]) ++ post = (pre ++ mid) ++ op :: post := by simp
          have hmid := ih (op :: post) (by rwa [hsplit] at h)
          rw [← List.append_assoc, run_snoc,
            (state_after_final_iff (hmid ▸ hfinal)).2 (h (pre ++ mid) op post hsplit), hmid]
    · subst heq
      induction pre using List.reverseRecOn generalizing post with
      | nil => exact (nomatch ·)
      | append_singleton pre op ih =>
          have hsplit : pre ++ [op] ++ post = pre ++ op :: post := by simp
          have hbefore := ih (op :: post) (by rwa [hsplit] at h)
          have hallowed := h pre op post hsplit
          rw [run_snoc]
          by_cases hfinal : (run certificateId updatedAt pre).record.state.IsFinal
          · intro hissued
            rw [(state_after_final_iff hfinal).2 hallowed] at hissued
            rcases hfinal with hfinal | hfinal <;> exact nomatch hissued.symm.trans hfinal
          · exact (approved_after_iff (consistent_run certificateId updatedAt pre) hbefore hfinal).2 hallowed

def lateDecision : List LifecycleOperation :=
  [.applyDecision ⟨"run", .verified, [], "certificate", "monday"⟩,
    .revoke ⟨"certificate", "compromised", "checkpoint", none⟩ "tuesday",
    .applyDecision ⟨"run", .invalid, [], "certificate", "wednesday"⟩]

theorem late_decision_revives : ¬ LifecycleHolds "certificate" "sunday" lateDecision := by
  intro h
  have hsame := h.final (lateDecision.take 2) (lateDecision.drop 2) [] rfl (.inl rfl)
  exact absurd hsame (by decide +kernel)

end CertificateHistory

end Cantilune.Conformance
