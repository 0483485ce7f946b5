import Cantilune.Base.Runs
import Cantilune.Runtime.Replay
import Cantilune.Theorems.Capabilities

/-!
# What a verified replay says about the stored snapshots

Each step of a replay that reports success recomputed its change from the stored world before it, and found
the stored world after it canonically equal. That leaves out the namespaces and manifests of participants,
the member lists of sessions, and the namespaces, transcripts and access requests of the world: those, and
nothing else, may differ.
-/

namespace Cantilune

variable {deps : ReplayVerifierDeps} {options : ReplayOptions} {state next terminal : CollaborationSnapshot}
  {change : CoordinationChange} {replayed : List ReplayedChange} {r : ReplayedChange}

/-! ## A replay as a run -/

/-- What the handler of the change makes of the source, under the recipe that the log holds for it. -/
def Recomputes (deps : ReplayVerifierDeps) (r : ReplayedChange) : Prop :=
  ∃ recipe template applied, deps.durable.recipeForChange r.change = some recipe ∧
    applyRecipe r.source recipe deps.handlers { template } = .ok applied ∧ r.recomputed = applied.after

structure ReplayStepFrom (deps : ReplayVerifierDeps) (state : CollaborationSnapshot) (r : ReplayedChange)
    (next : CollaborationSnapshot) : Prop where
  bridged : bridgeUnloggedAdvance deps state r.change = .ok r.source
  recomputes : Recomputes deps r
  compared : compareWithStore deps r.change r.recomputed = .ok next

theorem recomputeChange_eq_ok {schemaContext : ActiveSchemaContext} {recomputed : CollaborationSnapshot}
    (h : recomputeChange deps state change schemaContext = .ok recomputed) :
    Recomputes deps { source := state, change, recomputed } := by
  simp only [recomputeChange, Outcome.bind_eq_ok, orViolation_eq_ok, violationIf_eq_ok, replayResult_eq_ok] at h
  obtain ⟨_, _, recipe, hrecipe, _, _, _, _, template, _, result, hresult, h⟩ := h
  split at h
  · cases h
  · cases h
    exact ⟨recipe, template, _, hrecipe, hresult, rfl⟩

theorem replayChanges_run {Caches : Type}
    {contextFor : CoordinationChange → Caches → Except ReplayFailure (ActiveSchemaContext × Caches)}
    {toRef : Option SnapshotRef} {caches : Caches} {changes : List CoordinationChange}
    (h : replayChanges deps contextFor toRef state caches changes = .ok (terminal, replayed)) :
    Run (ReplayStepFrom deps) state replayed terminal ∧ replayed.map (·.change) <+: changes := by
  induction changes generalizing state caches replayed with
  | nil =>
      cases h
      exact ⟨.nil _, List.nil_prefix⟩
  | cons change rest ih =>
      simp only [replayChanges, Outcome.bind_eq_ok] at h
      obtain ⟨source, hsource, ⟨schemaContext, caches'⟩, _, recomputed, hrecomputed, next, hnext, h⟩ := h
      have hstep : ReplayStepFrom deps state { source, change, recomputed } next :=
        ⟨hsource, recomputeChange_eq_ok hrecomputed, hnext⟩
      split at h
      · cases h
        exact ⟨.single hstep, by simp⟩
      · simp only [Outcome.bind_eq_ok] at h
        obtain ⟨⟨terminal', replayed'⟩, htail, h⟩ := h
        cases h
        obtain ⟨hrun, hprefix⟩ := ih htail
        exact ⟨.cons hstep hrun, by simpa using hprefix⟩

theorem replay_run {Caches : Type}
    {contextFor : CoordinationChange → Caches → Except ReplayFailure (ActiveSchemaContext × Caches)}
    {caches : Caches} (h : replay deps contextFor caches options = .ok (terminal, replayed)) :
    ∃ start, deps.durable.get options.fromRef = some start ∧ Run (ReplayStepFrom deps) start replayed terminal ∧
      replayed.map (·.change) <+: options.changes.getD (deps.durable.since options.fromRef) := by
  simp only [replay, Outcome.bind_eq_ok, orViolation_eq_ok, replayTerminalResult, violationIf_eq_ok] at h
  obtain ⟨start, hstart, _, _, ⟨terminal', replayed'⟩, hchanges, _, _, h⟩ := h
  cases h
  obtain ⟨hrun, hprefix⟩ := replayChanges_run hchanges
  exact ⟨start, hstart, hrun, hprefix⟩

/-! ## Stored worlds -/

def StoredWorldsExact (deps : ReplayVerifierDeps) (replayed : List ReplayedChange) : Prop :=
  ∀ r ∈ replayed, ∀ stored, deps.durable.get r.change.afterRef = some stored → SameWorld r.recomputed stored

def StoredBlindFieldsExact (deps : ReplayVerifierDeps) (replayed : List ReplayedChange) : Prop :=
  ∀ r ∈ replayed, ∀ stored, deps.durable.get r.change.afterRef = some stored →
    BlindFieldsAgree r.recomputed stored

theorem canonicallyEqual_of_step (h : ReplayStepFrom deps state r next) {stored : CollaborationSnapshot}
    (hstored : deps.durable.get r.change.afterRef = some stored) :
    snapshotsCanonicallyEqual deps.localeCompare r.recomputed stored = true := by
  have hcompared := h.compared
  simp only [compareWithStore, hstored] at hcompared
  split at hcompared
  · assumption
  · cases hcompared

theorem canonicallyEqual_of_run {start : CollaborationSnapshot}
    (hrun : Run (ReplayStepFrom deps) start replayed terminal) (hr : r ∈ replayed)
    {stored : CollaborationSnapshot} (hstored : deps.durable.get r.change.afterRef = some stored) :
    snapshotsCanonicallyEqual deps.localeCompare r.recomputed stored = true := by
  induction hrun with
  | nil => cases hr
  | cons head _ ih =>
      rcases List.mem_cons.1 hr with rfl | hr
      · exact canonicallyEqual_of_step head hstored
      · exact ih hr

theorem storedWorldsExact_iff {start : CollaborationSnapshot}
    (hrun : Run (ReplayStepFrom deps) start replayed terminal) :
    StoredWorldsExact deps replayed ↔ StoredBlindFieldsExact deps replayed := by
  have hstep : ∀ r ∈ replayed, ∀ stored, deps.durable.get r.change.afterRef = some stored →
      (SameWorld r.recomputed stored ↔ BlindFieldsAgree r.recomputed stored) := fun r hr stored hstored =>
    sameWorld_iff_blindFieldsAgree (canonicallyEqual_of_run hrun hr hstored)
  exact forall₂_congr fun r hr => forall₂_congr fun stored hstored => hstep r hr stored hstored

/-- A replay that reports success followed the log by its handlers, and the stored worlds are the ones the
handlers made exactly if they agree with them on the fields that are not compared. -/
theorem replay_soundness (deps : ReplayVerifierDeps) (options : ReplayOptions) {verification : ReplayVerification}
    (h : verify deps options = .ok verification) :
    ∃ start replayed, deps.durable.get options.fromRef = some start ∧
      verifyReplaying deps options = .ok (verification.terminal, replayed) ∧
      Run (ReplayStepFrom deps) start replayed verification.terminal ∧
      verification.steps = replayed.map (·.step) ∧
      replayed.map (·.change) <+: options.changes.getD (deps.durable.since options.fromRef) ∧
      (StoredWorldsExact deps replayed ↔ StoredBlindFieldsExact deps replayed) := by
  simp only [verify, Outcome.bind_eq_ok] at h
  obtain ⟨⟨terminal, replayed⟩, hreplay, h⟩ := h
  cases h
  obtain ⟨start, hstart, hrun, hprefix⟩ := replay_run hreplay
  exact ⟨start, replayed, hstart, hreplay, hrun, rfl, hprefix, storedWorldsExact_iff hrun⟩

/-! ### A log of one change -/

/-- `ann` brings in a draft. -/
def introduceDraft : Operation :=
  workshopOperation .introduceArtifact [⟨.task, "draft"⟩, ⟨.from, "ann"⟩] ["c2"]

def draftChange : CoordinationChange :=
  coordinationChangeFromCommit introduceDraft.recipe "change-1" "t1" "s0" "s1" ⟨"ann", .human⟩ [⟨"ann", .human⟩]

def draftWorld : CollaborationSnapshot := (introduceDraft.apply workshop).getD workshop

def draftAudit (stored : CollaborationSnapshot) : ReplayVerifierDeps where
  durable :=
    { get := fun ref => if ref = "s0" then some workshop else if ref = "s1" then some stored else none
      since := fun _ => [draftChange]
      recipeForChange := fun _ => some introduceDraft.recipe }
  handlers := createDefaultHandlers
  schemaContext := { epochId := "e1", schema := buildOrchestrationSchema "default-v1", binding := none }
  localeCompare := fun a b => if a < b then -1 else if a = b then 0 else 1

def fromWorkshop : ReplayOptions := { fromRef := "s0", toRef := none, changes := none }

def forgedWorld : CollaborationSnapshot :=
  withTranscript draftWorld
    (participantTranscript "ann" [.obj [("role", .str "user"), ("content", .str "forged")]])

/-- The forged transcript passes the audit. -/
theorem forgedWorld_verifies : ∃ verification replayed,
    verify (draftAudit forgedWorld) fromWorkshop = .ok verification ∧
      verifyReplaying (draftAudit forgedWorld) fromWorkshop = .ok (verification.terminal, replayed) ∧
      ¬ StoredWorldsExact (draftAudit forgedWorld) replayed := by
  have hrun : (verifyReplaying (draftAudit forgedWorld) fromWorkshop).toOption.map
      (fun e => e.2.map fun r => (r.change.afterRef, r.recomputed.transcripts.has "ann")) =
        some [("s1", false)] := by decide +kernel
  cases hreplay : verifyReplaying (draftAudit forgedWorld) fromWorkshop with
  | error e => simp [hreplay, Except.toOption] at hrun
  | ok e =>
      obtain ⟨terminal, replayed⟩ := e
      simp only [hreplay, Except.toOption, Option.map_some, Option.some.injEq] at hrun
      obtain ⟨r, hr, hfields⟩ : ∃ r ∈ replayed, (r.change.afterRef, r.recomputed.transcripts.has "ann") =
          ("s1", false) := List.mem_map.1 (by rw [hrun]; simp)
      simp only [Prod.mk.injEq] at hfields
      refine ⟨replayVerification terminal replayed, replayed, ?_, rfl, fun hexact => ?_⟩
      · simp only [verify, hreplay]
        rfl
      · have hsame := hexact r hr forgedWorld (by rw [hfields.1]; rfl)
        have hhas := hsame.transcripts.has_eq "ann"
        rw [hfields.2] at hhas
        exact absurd hhas (by decide +kernel)

/-- The honest store passes the audit with the exact world. -/
theorem draftWorld_verifies : ∃ verification start replayed,
    verify (draftAudit draftWorld) fromWorkshop = .ok verification ∧
      Run (ReplayStepFrom (draftAudit draftWorld)) start replayed verification.terminal ∧
      (StoredWorldsExact (draftAudit draftWorld) replayed ↔
        StoredBlindFieldsExact (draftAudit draftWorld) replayed) := by
  have hok : (verify (draftAudit draftWorld) fromWorkshop).toOption.isSome = true := by decide +kernel
  cases hverify : verify (draftAudit draftWorld) fromWorkshop with
  | error e => simp [hverify, Except.toOption] at hok
  | ok verification =>
      obtain ⟨start, replayed, _, _, hrun, _, _, hiff⟩ :=
        replay_soundness (draftAudit draftWorld) fromWorkshop hverify
      exact ⟨verification, start, replayed, rfl, hrun, hiff⟩

end Cantilune
