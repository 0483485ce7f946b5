import Cantilune.Base.Tasks
import Cantilune.Evaluation.Status

/-!
# The evaluation engine

Runs are admitted under a budget, attempts are executed on them, and runs are completed. Each call is cut at its
awaits: what it asked for takes effect when it goes on. Identifiers are drawn from a generator, in the order of the
calls; the answers of the ports and the readings of the clock come with the steps.
-/

namespace Cantilune.Evaluation

/-! ## Records -/

structure EvaluationRunPlan where
  planId : String
  planDigest : String
  candidateSubjectRef : String
  baselineSubjectRefs : List String
  pairedExecution : Bool
  frozenAt : Option String

structure CandidateSubject where
  subjectId : String
  packageConformanceCertificateRef : String
  certificateDigest : String
  revocationCheckpoint : String

inductive CertificateValidity where
  | valid | expired | revoked | superseded
  deriving DecidableEq, Repr

def CertificateValidity.name : CertificateValidity → String
  | .valid => "valid"
  | .expired => "expired"
  | .revoked => "revoked"
  | .superseded => "superseded"

structure ResolvedCertificate where
  certificateDigest : String
  expiresAt : String
  status : CertificateValidity

structure EvaluationRun where
  runId : String
  planRef : String
  planDigest : String
  subjectRef : String
  status : RunStatus
  attemptIds : List String
  currentAttemptId : Option String
  startedAt : Option String
  endedAt : Option String
  runDigest : String
  deriving DecidableEq

structure AdmittedEvaluationRun where
  planDigest : String
  admittedAt : String
  deriving DecidableEq

structure BenchmarkCase where
  inputArtifactRefs : List String
  engineeringTimeout : ℚ
  networkPolicy : String
  filesystemPolicy : String
  requiredTools : List String

structure RunnerConfig where
  subjectRef : String
  caseRef : String
  inputRefs : List String
  seed : ℚ
  timeoutMs : ℚ
  networkPolicy : String
  filesystemPolicy : String
  toolManifest : List String
  environmentRef : String
  deriving DecidableEq

structure TokenUsage where
  inputTokens : ℚ
  outputTokens : ℚ
  totalTokens : ℚ
  deriving DecidableEq

structure ToolUsage where
  toolCalls : ℚ
  toolErrors : ℚ
  deriving DecidableEq

structure CostRecord where
  modelCostCents : ℚ
  toolCostCents : ℚ
  networkCostCents : ℚ
  totalCostCents : ℚ
  currency : String
  receiptRefs : List String
  deriving DecidableEq

structure RunnerOutput where
  outputRefs : List String
  traceRef : String
  wallTimeMs : ℚ
  tokenUsage : TokenUsage
  toolUsage : ToolUsage
  cost : CostRecord
  terminalDisposition : String
  environmentCaptureRef : String
  resultDigest : String
  deriving DecidableEq

structure LeaseGrant where
  leaseId : String
  fencingToken : String

inductive AttemptStatus where
  | queued | running | succeeded | failed | timedOut | cancelled
  deriving DecidableEq, Repr

structure RunAttempt where
  attemptId : String
  runId : String
  idempotencyKey : String
  planDigest : String
  subjectRef : String
  caseRef : String
  seed : ℚ
  executionOrder : Nat
  status : AttemptStatus
  workerId : String
  leaseId : String
  fencingToken : String
  startedAt : String
  endedAt : String
  inputRefs : List String
  outputRefs : List String
  traceEvidenceRef : Option String
  rawArtifactRefs : List String
  tokenUsage : TokenUsage
  toolUsage : ToolUsage
  wallTime : ℚ
  cost : CostRecord
  terminalDisposition : String
  failureCategory : Option String
  environmentCaptureRef : Option String
  resultDigest : String
  deriving DecidableEq

/-- The ledgers and the run store, both in memory, and how many identifiers were drawn. -/
structure EvaluationStores where
  ledgers : OrdMap String BudgetLedger
  runs : OrdMap String EvaluationRun
  attempts : OrdMap String RunAttempt
  drawn : Nat

/-- What the engine is given: how numbers are printed, how an instant is read off its text, the generator of
identifiers, and whether there is a lease coordinator. -/
structure EngineHost where
  print : ℚ → String
  dateParse : String → Option ℚ
  uuid : Nat → String
  hasLeaseCoordinator : Bool

/-! ## Calls -/

inductive EngineCall where
  | admitRun (plan : EvaluationRunPlan) (candidateSubject : CandidateSubject) (budgetPolicy : EvaluationBudgetPolicy)
  | executeAttempt (runId caseRef : String) (seed : ℚ)
  | completeRun (runId : String)

/-- What an attempt has collected before it is executed: the run as it was read, and its own identifiers. -/
structure AttemptDraft where
  currentRun : EvaluationRun
  config : RunnerConfig
  startedAt : String
  attemptId : String
  workerId : String
  leaseId : String
  fencingToken : String

inductive AdmitWait where
  | resolving
  | checkingRevocation (certificate : ResolvedCertificate)
  | readingLedger (now : String)
  | savingLedger (now : String) (read reserved : BudgetLedger)
  | savingRun (now : String) (run : EvaluationRun)

inductive ExecuteWait where
  | readingRun
  | savingQueued (queued : EvaluationRun)
  | savingLeased (leased : EvaluationRun)
  | savingRunning (running : EvaluationRun)
  | readingAgain
  | readingCase (currentRun : EvaluationRun)
  | acquiring (draft : AttemptDraft)
  | validating (draft : AttemptDraft)
  | executing (draft : AttemptDraft)
  | releasing (draft : AttemptDraft) (result : EvaluationResult RunnerOutput) (endedAt : String)
  | savingFailed (draft : AttemptDraft) (attempt : RunAttempt) (violations : List EvaluationViolation)
  | savingAttempt (draft : AttemptDraft) (attempt : RunAttempt)
  | savingRun (draft : AttemptDraft) (attempt : RunAttempt) (run : EvaluationRun)

inductive CompleteWait where
  | readingRun
  | savingRun (read run : EvaluationRun)

/-- A write to the store, which may be refused. -/
abbrev Saved := EvaluationResult Unit

/-- What an `executeAttempt` ends with: a result, or the exception for a run that is gone. -/
inductive Settled (α : Type) where
  | fulfilled (result : EvaluationResult α)
  | rejected

abbrev EngineCall.Wait : EngineCall → Type
  | .admitRun .. => AdmitWait
  | .executeAttempt .. => ExecuteWait
  | .completeRun _ => CompleteWait

abbrev AdmitWait.Resp : AdmitWait → Type
  | .resolving => EvaluationResult ResolvedCertificate
  -- whether it is revoked, and the two readings of the clock
  | .checkingRevocation _ => Bool × String × ℚ
  | .readingLedger _ => Unit
  | .savingLedger .. => Unit
  | .savingRun .. => Saved

abbrev ExecuteWait.Resp : ExecuteWait → Type
  | .readingRun => Unit
  | .savingQueued _ => Saved
  | .savingLeased _ => Saved
  | .savingRunning _ => Saved
  | .readingAgain => Unit
  -- the case, and the reading of the clock
  | .readingCase _ => Option BenchmarkCase × String
  | .acquiring _ => EvaluationResult LeaseGrant
  | .validating _ => Bool
  -- what the runner answers, and the reading of the clock
  | .executing _ => EvaluationResult RunnerOutput × String
  | .releasing .. => Unit
  | .savingFailed .. => Saved
  | .savingAttempt .. => Saved
  | .savingRun .. => Saved

abbrev CompleteWait.Resp : CompleteWait → Type
  -- the reading of the clock
  | .readingRun => String
  | .savingRun .. => Saved

abbrev EngineCall.Resp : (call : EngineCall) → call.Wait → Type
  | .admitRun .., wait => AdmitWait.Resp wait
  | .executeAttempt .., wait => ExecuteWait.Resp wait
  | .completeRun _, wait => CompleteWait.Resp wait

abbrev EngineCall.Out : EngineCall → Type
  | .admitRun .. => EvaluationResult (EvaluationRun × AdmittedEvaluationRun)
  | .executeAttempt .. => Settled RunAttempt
  | .completeRun _ => EvaluationResult EvaluationRun

namespace EvaluationStores

def saveRun (stores : EvaluationStores) (run : EvaluationRun) : Saved → EvaluationStores
  | .ok _ => { stores with runs := stores.runs.set run.runId run }
  | .error _ => stores

def saveAttempt (stores : EvaluationStores) (attempt : RunAttempt) : Saved → EvaluationStores
  | .ok _ => { stores with attempts := stores.attempts.set attempt.attemptId attempt }
  | .error _ => stores

def saveLedger (stores : EvaluationStores) (ledger : BudgetLedger) : EvaluationStores :=
  { stores with ledgers := stores.ledgers.set ledger.policyRef ledger }

end EvaluationStores

variable (host : EngineHost)

/-! ## Admission -/

abbrev AdmitStep := (AdmitWait ⊕ EvaluationResult (EvaluationRun × AdmittedEvaluationRun)) × EvaluationStores

/-- The checks of `admitRun` before the certificate is resolved. -/
def planRefused (plan : EvaluationRunPlan) (candidateSubject : CandidateSubject) : Option EvaluationViolation :=
  if plan.frozenAt = none then some (violation .planDigestMismatch "plan.frozenAt" "Plan is not frozen")
  else if plan.candidateSubjectRef ≠ candidateSubject.subjectId then
    some (violation .subjectDigestMismatch "plan.candidateSubjectRef"
      "Plan candidate subject does not match provided subject")
  else if plan.pairedExecution ∧ plan.baselineSubjectRefs.length = 0 then
    some (violation .invalidInput "plan.baselineSubjectRefs" "Paired execution requires at least one baseline subject")
  else none

def certificateRefused (certificate : ResolvedCertificate) (candidateSubject : CandidateSubject) :
    Option EvaluationViolation :=
  if certificate.status ≠ .valid then
    some (violation .subjectCertificateInvalid "certificate.status" s!"Certificate status: {certificate.status.name}"
      (some (.obj [("status", .str certificate.status.name)])))
  else if certificate.certificateDigest ≠ candidateSubject.certificateDigest then
    some (violation .subjectDigestMismatch "certificate.digest"
      "Certificate digest mismatch between subject and resolved certificate")
  else none

/-- A certificate without an expiry, or with one that is no instant, does not expire. -/
def certificateExpired (certificate : ResolvedCertificate) (nowMs : ℚ) : Bool :=
  certificate.expiresAt ≠ "" && (host.dateParse certificate.expiresAt).any fun expiresAt => expiresAt < nowMs

def admitStart (plan : EvaluationRunPlan) (candidateSubject : CandidateSubject) (stores : EvaluationStores) :
    AdmitStep :=
  match planRefused plan candidateSubject with
  | some v => (.inr (.error [v]), stores)
  | none => (.inl .resolving, stores)

def admitResume (plan : EvaluationRunPlan) (candidateSubject : CandidateSubject)
    (budgetPolicy : EvaluationBudgetPolicy) (stores : EvaluationStores) : (wait : AdmitWait) → wait.Resp → AdmitStep
  | .resolving, .error violations => (.inr (.error violations), stores)
  | .resolving, .ok certificate =>
      match certificateRefused certificate candidateSubject with
      | some v => (.inr (.error [v]), stores)
      | none => (.inl (.checkingRevocation certificate), stores)
  | .checkingRevocation certificate, (isRevoked, now, nowMs) =>
      if isRevoked then
        (.inr (refuse .subjectCertificateRevoked "certificate" "Certificate has been revoked"), stores)
      else if certificateExpired host certificate nowMs then
        (.inr (refuse .subjectCertificateExpired "certificate.expiresAt"
          s!"Certificate expired at {certificate.expiresAt}"), stores)
      else (.inl (.readingLedger now), stores)
  | .readingLedger now, _ =>
      let currentLedger := (stores.ledgers.get? budgetPolicy.policyId).getD (createEmptyLedger budgetPolicy.policyId)
      match reserveBudget host.print currentLedger budgetPolicy (estimatedCost budgetPolicy)
          (estimatedTokens budgetPolicy) with
      | .error violations => (.inr (.error violations), stores)
      | .ok reserved => (.inl (.savingLedger now currentLedger reserved), stores)
  | .savingLedger now _ reserved, _ =>
      let run : EvaluationRun :=
        { runId := host.uuid stores.drawn
          planRef := plan.planId
          planDigest := plan.planDigest
          subjectRef := candidateSubject.subjectId
          status := .admitted
          attemptIds := []
          currentAttemptId := none
          startedAt := some now
          endedAt := none
          runDigest := plan.planDigest }
      (.inl (.savingRun now run), { stores.saveLedger reserved with drawn := stores.drawn + 1 })
  | .savingRun _ _, .error violations => (.inr (.error violations), stores)
  | .savingRun now run, .ok saved =>
      (.inr (.ok (run, ⟨plan.planDigest, now⟩)), stores.saveRun run (.ok saved))

/-! ## Execution -/

abbrev ExecuteStep := (ExecuteWait ⊕ Settled RunAttempt) × EvaluationStores

/-- Moves the record that the call holds to another status, and saves it. -/
def moveRun (run : EvaluationRun) (target : RunStatus) (saving : EvaluationRun → ExecuteWait)
    (stores : EvaluationStores) : ExecuteStep :=
  match transitionRun run.status target with
  | .error violations => (.inr (.fulfilled (.error violations)), stores)
  | .ok status => (.inl (saving { run with status }), stores)

def runnerConfig (currentRun : EvaluationRun) (caseRef : String) (seed : ℚ) (benchmarkCase : Option BenchmarkCase) :
    RunnerConfig where
  subjectRef := currentRun.subjectRef
  caseRef := caseRef
  inputRefs := (benchmarkCase.map (·.inputArtifactRefs)).getD []
  seed := seed
  timeoutMs := (benchmarkCase.map (·.engineeringTimeout)).getD 60000
  networkPolicy := (benchmarkCase.map (·.networkPolicy)).getD "deny"
  filesystemPolicy := (benchmarkCase.map (·.filesystemPolicy)).getD "deny"
  toolManifest := (benchmarkCase.map (·.requiredTools)).getD []
  environmentRef := ""

def failedAttempt (draft : AttemptDraft) (runId caseRef : String) (seed : ℚ) (endedAt : String) : RunAttempt where
  attemptId := draft.attemptId
  runId := runId
  idempotencyKey := s!"{runId}-{caseRef}-{host.print seed}"
  planDigest := draft.currentRun.planDigest
  subjectRef := draft.currentRun.subjectRef
  caseRef := caseRef
  seed := seed
  executionOrder := draft.currentRun.attemptIds.length
  status := .failed
  workerId := draft.workerId
  leaseId := draft.leaseId
  fencingToken := draft.fencingToken
  startedAt := draft.startedAt
  endedAt := endedAt
  inputRefs := draft.config.inputRefs
  outputRefs := []
  traceEvidenceRef := none
  rawArtifactRefs := []
  tokenUsage := ⟨0, 0, 0⟩
  toolUsage := ⟨0, 0⟩
  wallTime := 0
  cost := ⟨0, 0, 0, 0, "USD", []⟩
  terminalDisposition := "failed"
  failureCategory := some "execution_error"
  environmentCaptureRef := none
  resultDigest := ""

def succeededAttempt (draft : AttemptDraft) (runId caseRef : String) (seed : ℚ) (endedAt : String)
    (output : RunnerOutput) : RunAttempt where
  attemptId := draft.attemptId
  runId := runId
  idempotencyKey := s!"{runId}-{caseRef}-{host.print seed}"
  planDigest := draft.currentRun.planDigest
  subjectRef := draft.currentRun.subjectRef
  caseRef := caseRef
  seed := seed
  executionOrder := draft.currentRun.attemptIds.length
  status := .succeeded
  workerId := draft.workerId
  leaseId := draft.leaseId
  fencingToken := draft.fencingToken
  startedAt := draft.startedAt
  endedAt := endedAt
  inputRefs := draft.config.inputRefs
  outputRefs := output.outputRefs
  traceEvidenceRef := some output.traceRef
  rawArtifactRefs := output.outputRefs
  tokenUsage := output.tokenUsage
  toolUsage := output.toolUsage
  wallTime := output.wallTimeMs
  cost := output.cost
  terminalDisposition := output.terminalDisposition
  failureCategory := none
  environmentCaptureRef := some output.environmentCaptureRef
  resultDigest := output.resultDigest

/-- After the runner has answered and the lease, if any, is released. -/
def recordResult (runId caseRef : String) (seed : ℚ) (draft : AttemptDraft) (result : EvaluationResult RunnerOutput)
    (endedAt : String) (stores : EvaluationStores) : ExecuteStep :=
  match result with
  | .error violations =>
      (.inl (.savingFailed draft (failedAttempt host draft runId caseRef seed endedAt) violations), stores)
  | .ok output =>
      (.inl (.savingAttempt draft (succeededAttempt host draft runId caseRef seed endedAt output)), stores)

def executeResume (runId caseRef : String) (seed : ℚ) (stores : EvaluationStores) :
    (wait : ExecuteWait) → wait.Resp → ExecuteStep
  | .readingRun, _ =>
      match stores.runs.get? runId with
      | none => (.inr (.fulfilled (refuse .invalidInput "run.runId" s!"Run not found: {runId}")), stores)
      | some run =>
          if run.status = .admitted then moveRun run .queued .savingQueued stores
          else if run.status ≠ .running then
            (.inr (.fulfilled (refuse .runNotAdmitted "run.status"
              s!"Run is not in executable state: {run.status.name}")), stores)
          else (.inl .readingAgain, stores)
  -- whether the status was saved is not looked at
  | .savingQueued queued, saved => moveRun queued .leased .savingLeased (stores.saveRun queued saved)
  | .savingLeased leased, saved => moveRun leased .running .savingRunning (stores.saveRun leased saved)
  | .savingRunning running, saved => (.inl .readingAgain, stores.saveRun running saved)
  | .readingAgain, _ =>
      match stores.runs.get? runId with
      | none => (.inr .rejected, stores)
      | some currentRun => (.inl (.readingCase currentRun), stores)
  | .readingCase currentRun, (benchmarkCase, now) =>
      let draft : AttemptDraft :=
        { currentRun
          config := runnerConfig currentRun caseRef seed benchmarkCase
          startedAt := now
          attemptId := host.uuid stores.drawn
          workerId := host.uuid (stores.drawn + 1)
          leaseId := host.uuid (stores.drawn + 2)
          fencingToken := host.uuid (stores.drawn + 3) }
      (.inl (if host.hasLeaseCoordinator then .acquiring draft else .executing draft),
        { stores with drawn := stores.drawn + 4 })
  | .acquiring _, .error violations =>
      (.inr (.fulfilled (refuse .runLeaseExpired "lease.acquire"
        ((violations.head?.map (·.message)).getD "Failed to acquire evaluation lease"))), stores)
  | .acquiring draft, .ok grant =>
      (.inl (.validating { draft with leaseId := grant.leaseId, fencingToken := grant.fencingToken }), stores)
  | .validating draft, fencingOk =>
      if fencingOk then (.inl (.executing draft), stores)
      else
        (.inr (.fulfilled (refuse .runFencingTokenStale "fencingToken"
          "Lease fencing token failed validation before attempt execution")), stores)
  | .executing draft, (result, endedAt) =>
      if host.hasLeaseCoordinator then (.inl (.releasing draft result endedAt), stores)
      else recordResult host runId caseRef seed draft result endedAt stores
  | .releasing draft result endedAt, _ => recordResult host runId caseRef seed draft result endedAt stores
  | .savingFailed _ _ _, .error refused => (.inr (.fulfilled (.error refused)), stores)
  | .savingFailed _ attempt violations, .ok saved =>
      (.inr (.fulfilled (.error violations)), stores.saveAttempt attempt (.ok saved))
  | .savingAttempt _ _, .error refused => (.inr (.fulfilled (.error refused)), stores)
  | .savingAttempt draft attempt, .ok saved =>
      let updatedRun : EvaluationRun :=
        { draft.currentRun with
          status := .running
          attemptIds := draft.currentRun.attemptIds ++ [draft.attemptId]
          currentAttemptId := some draft.attemptId }
      (.inl (.savingRun draft attempt updatedRun), stores.saveAttempt attempt (.ok saved))
  | .savingRun _ _ _, .error refused => (.inr (.fulfilled (.error refused)), stores)
  | .savingRun _ attempt run, .ok saved => (.inr (.fulfilled (.ok attempt)), stores.saveRun run (.ok saved))

abbrev CompleteStep := (CompleteWait ⊕ EvaluationResult EvaluationRun) × EvaluationStores

def completeResume (runId : String) (stores : EvaluationStores) : (wait : CompleteWait) → wait.Resp → CompleteStep
  | .readingRun, now =>
      match stores.runs.get? runId with
      | none => (.inr (refuse .invalidInput "run.runId" s!"Run not found: {runId}"), stores)
      | some run =>
          match transitionRun run.status .collecting with
          | .error violations => (.inr (.error violations), stores)
          | .ok status => (.inl (.savingRun run { run with status, endedAt := some now }), stores)
  | .savingRun _ _, .error refused => (.inr (.error refused), stores)
  | .savingRun _ run, .ok saved => (.inr (.ok run), stores.saveRun run (.ok saved))

/-- `createEvaluationEngine` -/
def evaluationEngine : Sections EvaluationStores EngineCall where
  Wait := EngineCall.Wait
  Resp := EngineCall.Resp
  Out := EngineCall.Out
  start
    | .admitRun plan candidateSubject _ => admitStart plan candidateSubject
    | .executeAttempt .. => fun stores => (.inl .readingRun, stores)
    | .completeRun _ => fun stores => (.inl .readingRun, stores)
  resume
    | .admitRun plan candidateSubject budgetPolicy, wait, response => fun stores =>
        admitResume host plan candidateSubject budgetPolicy stores wait response
    | .executeAttempt runId caseRef seed, wait, response => fun stores =>
        executeResume host runId caseRef seed stores wait response
    | .completeRun runId, wait, response => fun stores => completeResume runId stores wait response

end Cantilune.Evaluation
