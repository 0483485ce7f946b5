import Cantilune.Theorems.Namespaces
import Cantilune.Theorems.Independence
import Cantilune.Theorems.ReplaySoundness
import Cantilune.Theorems.ChangeRoundTrip
import Cantilune.Theorems.NamespaceGovernance
import Cantilune.Theorems.SchemaExtension
import Cantilune.Theorems.PolicyRevisions
import Cantilune.Theorems.SubmissionIdempotency
import Cantilune.Theorems.AdmissionRecords
import Cantilune.Theorems.CommitRecovery
import Cantilune.Theorems.CommitBeforeDispatch
import Cantilune.Theorems.SendSuccess
import Cantilune.Theorems.EnvelopeIntegrity
import Cantilune.Theorems.InboundConsumption
import Cantilune.Theorems.DeadLetters
import Cantilune.Theorems.ReconnectRecovery
import Cantilune.Theorems.ReconnectFinality
import Cantilune.Theorems.DeliveryAttempts
import Cantilune.Theorems.EmergencyStop
import Cantilune.Theorems.QuiescentClose
import Cantilune.Theorems.SnapshotRoundTrip
import Cantilune.Theorems.TranscriptAccess
import Cantilune.Theorems.Reachability
import Cantilune.Theorems.FiringCycles
import Cantilune.Theorems.PlaceInvariants
import Cantilune.Theorems.MonotoneHistory
import Cantilune.Theorems.LockTables
import Cantilune.Theorems.Fencing
import Cantilune.Theorems.RaftRefinement
import Cantilune.Theorems.PostgresRefinement
import Cantilune.Theorems.JudgeBudget
import Cantilune.Theorems.SwarmConservation
import Cantilune.Theorems.BudgetVerdict
import Cantilune.Theorems.TerminationDecision
import Cantilune.Theorems.A2ALifecycle
import Cantilune.Theorems.ToolJournal
import Cantilune.Theorems.TokenGame
import Cantilune.Theorems.ClaimLifecycle
import Cantilune.Theorems.CertificateLifecycle
import Cantilune.Evaluation.Engine
import Cantilune.Base.Selection
import Cantilune.Lemmas.AgentMessages
import Cantilune.Theorems.BudgetAdmission
import Cantilune.Theorems.RunBookkeeping
import Cantilune.Theorems.RecipeChainBinding
import Cantilune.Theorems.DeltaCompleteness
import Cantilune.Theorems.ObservableRuns
import Cantilune.Theorems.UnloggedAdvances
import Cantilune.Theorems.NetFraming
import Cantilune.Theorems.StartConditions
import Cantilune.Theorems.PolicyEvaluation
import Cantilune.Theorems.PeerBinding
import Cantilune.Theorems.RefusedFrames
import Cantilune.Theorems.CommitRejections
import Cantilune.Theorems.CommitNumbers
import Cantilune.Theorems.DurableBundles
import Cantilune.Theorems.IngressDecoders
import Cantilune.Theorems.FreshRefs
import Cantilune.Theorems.HolmCorrection
import Cantilune.Theorems.AgentRequests
import Cantilune.Theorems.AgentHistories
import Cantilune.Theorems.BoundedOvertaking
import Cantilune.Theorems.LiteralEdits
import Cantilune.Theorems.PairedComparisons
import Cantilune.Theorems.TaskPages
import Cantilune.Theorems.RedactedTranscripts
import Cantilune.Theorems.VerificationCache
import Cantilune.Conformance.PlainValues
import Cantilune.Lemmas.SortedMembers
import Cantilune.Theorems.CanonicalEncodings
import Cantilune.Theorems.EpochRecovery
import Cantilune.Theorems.ChangeCursors
import Cantilune.Theorems.AgentReports
