import Cantilune.Comms.Delivery

/-!
# Peers, session bindings and the plans for them

What the store of the comms keeps besides deliveries: the descriptors of peers, the transport binding of each
session with its handshake, the plans that move or end a session with their receipts, and the occurrences that
report a move.
-/

namespace Cantilune

abbrev DescriptorRef := String
abbrev RuntimeInstanceId := String
abbrev ReconnectRecordId := String
abbrev CloseRecordId := String

structure PeerEndpoint where
  endpointRef : DescriptorRef
  transport : String
  uri : String
  wireVersions : List Nat
  maxFrameBytes : Nat
  deriving DecidableEq

structure PeerDescriptor where
  descriptorRef : DescriptorRef
  digest : String
  runtimeInstanceId : RuntimeInstanceId
  activationDomainId : String
  actors : List ActorRef
  endpoints : List PeerEndpoint
  supportedWireVersions : List Nat
  supportedTransports : List String
  supportedFeatures : List String
  supportedOperations : List CommunicationOperationCode
  schemaBinding : SchemaRef
  issuedAt : Timestamp
  expiresAt : Timestamp
  evidenceRefs : List EvidenceRef
  provenance : String
  deriving DecidableEq

structure NegotiatedProtocol where
  wireVersion : Nat
  transport : String
  codecRef : String
  protocolVersion : String
  a2aProfile : String
  features : List String
  deriving DecidableEq

/-! ## Session bindings -/

inductive SessionTransportStatus where
  | proposed | negotiating | active | draining | quiescent | closed
  deriving DecidableEq, Repr

structure SessionTransportBinding where
  sessionId : SessionId
  authoritativeSnapshotRef : SnapshotRef
  localRuntimeInstanceId : RuntimeInstanceId
  remoteRuntimeInstanceId : RuntimeInstanceId
  channelId : ChannelId
  channelGeneration : Nat
  localEndpoint : DescriptorRef
  remoteEndpoint : DescriptorRef
  negotiated : NegotiatedProtocol
  schemaEpochId : String
  status : SessionTransportStatus
  outboundSequence : Nat
  inboundSequence : Nat
  leaseExpiresAt : Option Timestamp
  previousChannelId : Option ChannelId
  establishedAt : Timestamp
  updatedAt : Timestamp
  /-- The type does not declare it; a reconnect adds it. -/
  endpointRef : Option DescriptorRef
  deriving DecidableEq

structure SessionHandshake where
  sessionId : SessionId
  authoritativeSnapshotRef : SnapshotRef
  requester : RuntimeInstanceId
  acceptor : RuntimeInstanceId
  offeredProtocols : List NegotiatedProtocol
  selectedProtocol : Option NegotiatedProtocol
  endpointRef : DescriptorRef
  transcriptDigest : String
  authEvidenceRef : String
  metadata : StableCommunicationMetadata
  expiresAt : Timestamp
  deriving DecidableEq

inductive DeliveryAckLevel where
  | transportReceived | durablyAccepted | runtimeObserved | businessCommitted | rejected | expired
  deriving DecidableEq, Repr

inductive AckStatus where
  | accepted | rejected | expired
  deriving DecidableEq, Repr

structure DeliveryAcknowledgement where
  messageId : MessageId
  sessionId : SessionId
  channelId : ChannelId
  channelGeneration : Nat
  sequence : Nat
  envelopeDigest : String
  peerInstanceId : RuntimeInstanceId
  level : DeliveryAckLevel
  status : AckStatus
  reason : Option String
  receivedAt : Timestamp
  integrityDigest : String
  deriving DecidableEq

/-! ## Reconnects -/

/-- The receipt of an admission as a plan carries it: its digests and evidence are texts here. -/
structure CarriedAdmissionReceipt where
  admissionId : String
  activationDomainId : String
  fromBinding : SchemaEpochBinding
  toBinding : SchemaEpochBinding
  beforeSnapshotRef : SnapshotRef
  afterSnapshotRef : SnapshotRef
  extensionPlanRef : String
  fourViewEvidenceRef : Option String
  nativeOccurrenceEvidenceRef : Option String
  replayEvidenceRef : Option String
  qualificationEvidenceRef : Option String
  authorizationEvidenceRef : Option String
  runtimeReadinessEvidenceRef : Option String
  admissionTombstoneId : String
  committedBy : String
  committedAt : Timestamp
  storeSequence : Nat
  correlationId : String
  occurrenceId : String
  idempotencyKey : String
  planDigest : String
  deriving DecidableEq

structure AdmissionReconnectPlan where
  planId : ReconnectRecordId
  admissionReceipt : CarriedAdmissionReceipt
  admissionReceiptDigest : String
  fromBinding : SchemaEpochBinding
  toBinding : SchemaEpochBinding
  metadata : StableCommunicationMetadata
  sessionId : SessionId
  operationTemplateRef : OperationTemplateRef
  oldEndpointRef : DescriptorRef
  newEndpointRef : DescriptorRef
  expectedChannelGeneration : Nat
  expectedRuntimeHead : SnapshotRef
  authorizationRef : String
  planDigest : String
  expiresAt : Timestamp
  deriving DecidableEq

inductive ReconnectCoordinatorState where
  | proposed | validated | authorized | prepared | peerAccepted | runtimeCommitted | bindingSwitched
  | oldChannelDraining | completed | failed | recoveryRequired
  deriving DecidableEq, Repr

structure AdmissionReconnectReceipt where
  planId : ReconnectRecordId
  planDigest : String
  runtimeReceiptRef : Option String
  storeSequence : Nat
  newChannelGeneration : Nat
  committedAt : Timestamp
  deriving DecidableEq

structure ReconnectCoordinatorRecord where
  plan : AdmissionReconnectPlan
  state : ReconnectCoordinatorState
  peerAckDigest : Option String
  runtimeReceiptRef : Option String
  updatedAt : Timestamp
  deriving DecidableEq

structure QuiescentClosePlan where
  planId : CloseRecordId
  sessionId : SessionId
  channelId : ChannelId
  channelGeneration : Nat
  sendBarrierApplied : Bool
  pendingOutbox : Nat
  pendingInbox : Nat
  pendingInflight : Nat
  peerShutdownAckRef : Option String
  resourcesClearEvidenceRef : Option String
  sessionsQuiescentEvidenceRef : Option String
  authorizationRef : String
  expiresAt : Timestamp
  deriving DecidableEq

structure QuiescentCloseReceipt where
  planId : CloseRecordId
  tombstoneRef : String
  storeSequence : Nat
  closedAt : Timestamp
  deriving DecidableEq

structure ForceCloseRecord where
  planId : CloseRecordId
  sessionId : SessionId
  operatorRef : String
  reason : String
  forcedAt : Timestamp
  deriving DecidableEq

structure EndpointDelegationPlan where
  oldEndpointRef : DescriptorRef
  newEndpointRef : DescriptorRef
  oldChannelId : ChannelId
  newChannelId : ChannelId
  channelGeneration : Nat
  delegator : ActorRef
  delegatee : ActorRef
  authorizationRef : EvidenceRef
  oneTimeCapabilityRef : EvidenceRef
  metadata : StableCommunicationMetadata
  planDigest : String
  expiresAt : Timestamp
  deriving DecidableEq

structure EndpointDelegationReceipt where
  planDigest : String
  peerAckDigest : String
  delegatedAt : Timestamp
  oldEndpointTombstoneRef : String
  deriving DecidableEq

/-! ## Occurrences -/

inductive CommunicationProtocolPhase where
  | requested | sessionEstablished | admitted | reconnected | quiescentDeleted | completed
  deriving DecidableEq, Repr

inductive OccurrenceLifecycle where
  | request | acknowledge | complete | failed
  deriving DecidableEq, Repr

inductive EndpointDisposition where
  | successful | externalWait | deadlocked | productive
  deriving DecidableEq, Repr

inductive NativeActionKind where
  | internal | output | input | boundOutput
  deriving DecidableEq, Repr

structure NativeCommunicationAction where
  kind : NativeActionKind
  subjectRef : Option String
  payloadRef : Option String
  binderRef : Option String
  freshEndpointRef : Option DescriptorRef
  freshChannelId : Option ChannelId
  derivativeTargetRef : Option String
  deriving DecidableEq

def boundOutputAction (freshEndpointRef : DescriptorRef) (freshChannelId : ChannelId) (derivativeTargetRef : String) :
    NativeCommunicationAction :=
  { kind := .boundOutput, subjectRef := none, payloadRef := none, binderRef := none
    freshEndpointRef := some freshEndpointRef, freshChannelId := some freshChannelId
    derivativeTargetRef := some derivativeTargetRef }

def emptyFootprint : Footprint :=
  { artifactIds := [], participantIds := [], sessionIds := [], capabilityIds := [], linkIds := [] }

structure CommunicationOccurrenceRecord where
  operation : CommunicationOperationBinding
  phase : CommunicationProtocolPhase
  lifecycle : OccurrenceLifecycle
  disposition : EndpointDisposition
  nativeAction : NativeCommunicationAction
  metadata : StableCommunicationMetadata
  beforeSnapshotRef : SnapshotRef
  afterSnapshotRef : Option SnapshotRef
  effectiveFootprint : Footprint
  endpointEvidenceRef : Option String
  replayEvidenceRef : Option String
  transportAttemptRefs : List String
  recordedAt : Timestamp
  deriving DecidableEq

end Cantilune
