import Volicord.Lib.Table
import Volicord.Store.Commit
import Volicord.Types.Evidence

/-! The aggregate tables of one project: rows as the Store decodes them, each table with
its primary key. Every row belongs to the one project, so no row repeats its id. -/
namespace Volicord
open Relational

structure TaskShapingFacts where
  (goalSummary scopeSummary : Option String)
  nonGoals : List String
  (baselineRef autonomyBoundary : Option String)

/-- The policy mark in `tasks.metadata_json`. -/
structure TaskPolicyControlReevaluation where
  policyVersion : Nat
  policyFingerprint : String
  requiredEffectiveControlLevel : TaskControlLevel
  requiredAcceptancePolicy : Option AcceptancePolicy
  markedAt : UtcTimestamp

structure TaskRecord where
  taskId : String
  mode : TaskMode
  requestedControlLevel : RequestedControlLevel
  effectiveControlLevel : TaskControlLevel
  controlLevelReason : String
  workPhase : WorkPhase
  acceptancePolicy : AcceptancePolicy
  acceptancePolicyReason : String
  predecessorTaskId : Option String
  lineageRelation : Option TaskLineageRelation
  lineageReason : Option String
  lifecyclePhase : TaskLifecyclePhase
  result : Option TaskResult
  summary : Option String
  shaping : TaskShapingFacts
  autonomyBoundary : Option String
  (scopeRevision closeBasisRevision : Nat)
  closeBasis : Option CurrentCloseBasis
  closeSummary : PersistedCloseSummary
  (currentChangeUnitId closedAt : Option String)
  policyReevaluation : Option TaskPolicyControlReevaluation

inductive AcceptanceCriterionStatus where
  | active | retired
deriving DecidableEq

structure AcceptanceCriterionRecord where
  (acceptanceCriterionId taskId statement : String)
  evidenceRequirement : EvidenceRequirement
  position : Nat
  status : AcceptanceCriterionStatus

structure StoredChangeUnitWriteBasis where
  baselineRef : Option String
  gitWorkspaceContext : Option GitWorkspaceContext

structure ChangeUnitRecord where
  (changeUnitId taskId : String)
  status : ChangeUnitStatus
  isCurrent : Bool
  basisStateVersion : Nat
  boundedPaths : List String
  writeBasis : StoredChangeUnitWriteBasis
  effectContract : Option ChangeUnitEffectContract
  recoveryRequired : Bool

structure UserActionRequestRecord where
  (userActionRequestId taskId : String)
  changeUnitId : Option String
  actionKind : UserActionKind
  basis : UserActionBasis
  basisStatus : UserActionBasisStatus
  requiredFor : List UserActionRequiredFor
  affectedRefs : List StateRecordRef
  options : List (String × UserActionOptionAction)
  requestedByActorSource : ActorSource
  sourceMethod : MethodName
  sourceIdempotencyKey : String
  requestedAt : UtcTimestamp
  expiresAt : Option UtcTimestamp
  metadata : UserActionRequestMetadata

/-- An immutable resolution. Its channel is always the CLI, and its verification basis the
one value that belongs to that channel. -/
structure UserActionResolutionRecord where
  (userActionResolutionId userActionRequestId : String)
  actionKind : UserActionKind
  channelSubmissionId : String
  resolution : UserActionResolutionBody
  resolvedByActorSource : ActorSource
  resolvedAssuranceLevel : String
  resolvedAt : UtcTimestamp

structure ShapingCheckpointRow where
  shapingCheckpointId : String
  predecessorShapingCheckpointId : Option String
  taskId : String
  scopeRevision : Nat
  (baselineRef implementationBoundary : Option String)
  readiness : ShapingCheckpointReadiness

structure ShapingGapRow where
  (shapingCheckpointId shapingGapId taskId : String)
  gapKind : ShapingGapKind
  status : ShapingGapStatus
  (reauthorizesApplicationId userActionRequestId : Option String)
  userActionKind : Option UserActionKind

def ShapingGapRow.key (row : ShapingGapRow) : String × String :=
  (row.shapingCheckpointId, row.shapingGapId)

/-- A row of `shaping_checkpoint_user_actions`. -/
structure ShapingGapLinkRow where
  (shapingCheckpointId shapingGapId taskId userActionRequestId : String)
  actionKind : UserActionKind
  userActionResolutionId : Option String

def ShapingGapLinkRow.key (row : ShapingGapLinkRow) : String × String :=
  (row.shapingCheckpointId, row.shapingGapId)

structure ShapingDecisionApplicationRow where
  (shapingDecisionApplicationId taskId sourceCheckpointId sourceGapId userActionRequestId : String)
  userActionResolutionId : String
  judgmentKind : UserActionKind
  applicationOwner : ShapingDecisionApplicationOwner
  appliedScopeRevision : Nat
  appliedBaselineRef : String
  appliedChangeUnitId : Option String
  authorityStatus : ShapingDecisionApplicationAuthorityStatus
  (staleAt supersededAt : Option String)

/-- A row of `shaping_checkpoint_applications`. -/
structure ShapingApplicationLinkRow where
  (taskId shapingCheckpointId shapingDecisionApplicationId : String)
  carriedFromCheckpointId : Option String

def ShapingApplicationLinkRow.key (row : ShapingApplicationLinkRow) : String × String :=
  (row.shapingCheckpointId, row.shapingDecisionApplicationId)

structure ShapingAuthorityReauthorizationRow where
  (shapingAuthorityReauthorizationId taskId staleApplicationId staleUserActionRequestId : String)
  successorCheckpointId : String
  (successorGapId successorUserActionRequestId : Option String)
  outcome : ShapingAuthorityReauthorizationOutcome

structure StoredWriteTicket where
  (writeTicketId taskId changeUnitId : String)
  basisStateVersion : Nat
  status : WriteTicketStatus
  validityBasis : WriteTicketValidityBasis
  pathScope : WriteTicketPathScope
  attemptScope : WriteTicketAttemptScope
  createdByActorSource : ActorSource
  createdByUserActionResolutionId : Option String
  idleExpiresAt : Option UtcTimestamp
  invalidationReason : Option WriteTicketInvalidationReason
  (consumedByRunId consumedAt : Option String)
  createdAt : UtcTimestamp

structure RunRecord where
  (runId taskId : String)
  changeUnitId : Option String
  scopeRevision : Nat
  writeTicketId : Option String
  kind : RunKind
  observedChanges : ObservedChanges
  createdByActorSource : ActorSource
deriving DecidableEq

/-- A persistent artifact; the display data of its producer is left out. -/
structure ArtifactRecord where
  (artifactId taskId producerRunId : String)
  (contentType sha256 : Option String)
  sizeBytes : Option Nat
  redactionState : RedactionState
  integrityStatus : ArtifactIntegrityStatus
  availability : ArtifactAvailability

structure ArtifactLinkRow where
  (artifactId taskId : String)
  ownerRecordKind : StateRecordKind
  ownerRecordId : String
deriving DecidableEq

structure EvidenceClaimRecord where
  (taskId evidenceClaimId statement : String)

def EvidenceClaimRecord.key (row : EvidenceClaimRecord) : String × String :=
  (row.taskId, row.evidenceClaimId)

structure EvidenceSummaryRecord where
  (evidenceSummaryId taskId : String)
  changeUnitId : Option String
  producedAtStateVersion : Nat
  status : EvidenceStatus
  coverage : List EvidenceCoverageItem
  updatedByRunId : String

structure EvidenceObservationRecord where
  (evidenceObservationId taskId : String)
  (changeUnitId runId acceptanceCriterionId evidenceClaimId : Option String)
  sourceKind : EvidenceSourceKind
  assuranceLevel : EvidenceAssuranceLevel
  observedByActorSource : Option ActorSource
  (toolName toolInvocationId : Option String)
  inputRefs : List StateRecordRef
  outputArtifactRefs : List ArtifactRef
  limitations : List String
  (observedAt recordedAt : UtcTimestamp)
  (recordedByRunId invocationVerificationBasis : String)
  producerAnchor : EvidenceProducerAnchor
  relevanceAssessment : EvidenceRelevanceAssessment

structure EvidenceCaptureIntentRecord where
  (evidenceCaptureIntentId taskId changeUnitId : String)
  scopeRevision : Nat
  baselineRef : String
  target : EvidenceTarget
  capture : EvidenceCaptureSpec
  inputSha256 : String
  expectedOutcome : EvidenceCaptureExpectedOutcome
  requestedByActorSource : ActorSource
  requestingConnectionInternalId : String
  workspaceContext : Option GitWorkspaceContext
  (createdAt expiresAt : UtcTimestamp)

/-- A receipt of a capture source; the body it carries repeats its columns. -/
structure EvidenceCaptureReceiptRecord where
  (evidenceCaptureReceiptId evidenceCaptureIntentId stagingHandleId : String)
  captureKind : EvidenceProducerKind
  (inputSha256 resultSha256 : String)
  expectedOutcome : EvidenceCaptureExpectedOutcome
  observedOutcome : EvidenceCaptureObservedOutcome
  connectionId : String
  hostInvocationId : Option String
  observedByActorSource : ActorSource
  observedAt : UtcTimestamp
  limitations : List String
  safeReceiptSha256 : String
  safeReceiptSizeBytes : Nat
  createdAt : UtcTimestamp

/-- A finalized capture; the canonical producer document repeats its columns. -/
structure EvidenceProducerRecord where
  (evidenceProducerId evidenceCaptureIntentId evidenceCaptureReceiptId : String)
  evidenceObservationId : String
  (artifactId runId taskId changeUnitId : String)
  scopeRevision : Nat
  baselineRef : String
  producerKind : EvidenceProducerKind
  captureIntentRef : StateRecordRef
  target : EvidenceTarget
  (inputSha256 resultSha256 : String)
  expectedOutcome : EvidenceCaptureExpectedOutcome
  observedOutcome : EvidenceCaptureObservedOutcome
  connectionId : String
  hostInvocationId : Option String
  receiptArtifactRefs : List ArtifactRef
  limitations : List String
  observedByActorSource : ActorSource
  observedAt : UtcTimestamp
  producedAtStateVersion : Option Nat
  createdAt : UtcTimestamp
  verificationBasis : String

inductive ArtifactStagingStatus where
  | staged | consumed | expired | discarded
deriving DecidableEq

structure ArtifactStagingRecord where
  (handleId taskId : String)
  createdByActorSource : ActorSource
  (contentType sha256 : Option String)
  sizeBytes : Option Nat
  redactionState : RedactionState
  status : ArtifactStagingStatus
  (createdAt expiresAt : UtcTimestamp)
  (consumedByRunId promotedArtifactId : Option String)

structure UnrecordedChangeRecord where
  unrecordedChangeId : String
  taskId : Option String
  (connectionId summary : String)
  paths : List String
  resolved : Bool
deriving DecidableEq

structure LightWorkflowPolicySettings where
  enabled : Bool
  maxIntendedPaths : Nat
  (allowedPathPatterns deniedPathPatterns : List ProductRelativePath)
  finalAcceptance : AcceptancePolicy

structure WorkflowPolicySettings where
  (defaultDirectControl defaultWorkControl : TaskControlLevel)
  light : LightWorkflowPolicySettings
  writeTicketIdleTimeoutMinutes : Option Nat

inductive ConnectionIntent where
  | personal | shared

structure GuardCommand where
  command : String
  args : List String

structure WorkflowPolicyMcp where
  command : String
  args : List String
  env : List (String × String)

structure GuardCommandSet where
  (preTool postTool promptCapture : GuardCommand)

structure WorkflowPolicyHostHook where
  enabled : Bool
  commands : GuardCommandSet

/-- The workflow policy document; its members with one possible value are left out. -/
structure ProjectWorkflowPolicy where
  connectionIntent : ConnectionIntent
  (repoRoot connectionId guardInstallationId : String)
  mcp : WorkflowPolicyMcp
  hostHook : WorkflowPolicyHostHook
  workflow : WorkflowPolicySettings

structure ProjectWorkflowPolicyRecord where
  policyVersion : Nat
  policy : ProjectWorkflowPolicy
  (policyFingerprint appliedAt createdAt : String)

structure CoreTables where
  activeTaskId : Option String
  tasks : Table TaskRecord.taskId
  acceptanceCriteria : Table AcceptanceCriterionRecord.acceptanceCriterionId
  changeUnits : Table ChangeUnitRecord.changeUnitId
  userActionRequests : Table UserActionRequestRecord.userActionRequestId
  userActionResolutions : Table UserActionResolutionRecord.userActionResolutionId
  shapingCheckpoints : Table ShapingCheckpointRow.shapingCheckpointId
  shapingGaps : Table ShapingGapRow.key
  shapingGapLinks : Table ShapingGapLinkRow.key
  shapingApplications : Table ShapingDecisionApplicationRow.shapingDecisionApplicationId
  shapingApplicationLinks : Table ShapingApplicationLinkRow.key
  shapingReauthorizations :
    Table ShapingAuthorityReauthorizationRow.shapingAuthorityReauthorizationId
  writeTickets : Table StoredWriteTicket.writeTicketId
  runs : Table RunRecord.runId
  artifacts : Table ArtifactRecord.artifactId
  artifactLinks : Table (id : ArtifactLinkRow → ArtifactLinkRow)
  evidenceClaims : Table EvidenceClaimRecord.key
  evidenceSummaries : Table EvidenceSummaryRecord.evidenceSummaryId
  evidenceObservations : Table EvidenceObservationRecord.evidenceObservationId
  evidenceCaptureIntents : Table EvidenceCaptureIntentRecord.evidenceCaptureIntentId
  evidenceProducers : Table EvidenceProducerRecord.evidenceProducerId
  evidenceCaptureReceipts : Table EvidenceCaptureReceiptRecord.evidenceCaptureReceiptId
  artifactStaging : Table ArtifactStagingRecord.handleId
  unrecordedChanges : Table UnrecordedChangeRecord.unrecordedChangeId
  workflowPolicy : Option ProjectWorkflowPolicyRecord

namespace CoreTables

def empty : CoreTables :=
  ⟨none, .empty, .empty, .empty, .empty, .empty, .empty, .empty, .empty, .empty, .empty, .empty,
    .empty, .empty, .empty, .empty, .empty, .empty, .empty, .empty, .empty, .empty, .empty, .empty,
    none⟩

variable (t : CoreTables) (taskId : String)

def taskRow : Option TaskRecord := t.tasks.find? taskId

def ChangeUnitIsCurrent (row : ChangeUnitRecord) : Bool :=
  row.taskId = taskId && row.status = .active && row.isCurrent

def currentChangeUnitRow : Option ChangeUnitRecord :=
  t.changeUnits.rows.find? (ChangeUnitIsCurrent taskId)

/-- `change_unit_record`: by exact Task and Change Unit identity. -/
def changeUnitRecord (taskId changeUnitId : String) : Option ChangeUnitRecord :=
  (t.changeUnits.find? changeUnitId).filter fun row => row.taskId = taskId

def writeTicketRecord (writeTicketId : String) : Option StoredWriteTicket :=
  t.writeTickets.find? writeTicketId

def activeWriteTickets : List StoredWriteTicket :=
  t.writeTickets.rows.filter fun row => row.taskId = taskId && row.status = .active

def resolutionOf (userActionRequestId : String) : Option UserActionResolutionRecord :=
  t.userActionResolutions.rows.find? fun row => row.userActionRequestId = userActionRequestId

def gapLinkFor (userActionRequestId : String) : Option ShapingGapLinkRow :=
  t.shapingGapLinks.rows.find? fun row => row.userActionRequestId = userActionRequestId

variable (shapingCheckpointId : String)

def gapsOf : List ShapingGapRow :=
  t.shapingGaps.rows.filter fun row => row.shapingCheckpointId = shapingCheckpointId

def currentApplications : List ShapingDecisionApplicationRow :=
  t.shapingApplications.rows.filter fun row => row.taskId = taskId && row.authorityStatus = .current

def linkedApplications : List ShapingDecisionApplicationRow :=
  t.shapingApplicationLinks.rows.filterMap fun link =>
    if link.shapingCheckpointId = shapingCheckpointId then
      (t.shapingApplications.find? link.shapingDecisionApplicationId).filter fun row =>
        row.taskId = link.taskId && row.authorityStatus = .current
    else none

def linkedApplicationIds : List String :=
  (t.linkedApplications shapingCheckpointId).map (·.shapingDecisionApplicationId)

def activeAcceptanceCriteria : List AcceptanceCriterionRecord :=
  t.acceptanceCriteria.rows.filter fun row => row.taskId = taskId && row.status = .active

def artifactHasTaskOwnerLink (artifactId taskId : String) : Bool :=
  t.artifactLinks.rows.any fun row => row.artifactId = artifactId && row.taskId = taskId

def artifactHasOwnerLink (artifactId taskId : String) (kind : StateRecordKind) (recordId : String) :
    Bool :=
  (t.artifactLinks.find? ⟨artifactId, taskId, kind, recordId⟩).isSome

def captureReceiptForIntent (intentId : String) : Option EvidenceCaptureReceiptRecord :=
  t.evidenceCaptureReceipts.rows.find? fun row => row.evidenceCaptureIntentId = intentId

def producerForIntent (intentId : String) : Option EvidenceProducerRecord :=
  t.evidenceProducers.rows.find? fun row => row.evidenceCaptureIntentId = intentId

/-- `latest_evidence_summary`: the one produced last. -/
def latestEvidenceSummary : Option EvidenceSummaryRecord :=
  (t.evidenceSummaries.rows.filter (·.taskId = taskId)).foldl (fun latest row =>
    match latest with
    | none => some row
    | some best =>
      if best.producedAtStateVersion ≤ row.producedAtStateVersion then some row else some best)
    none

end CoreTables
end Volicord
