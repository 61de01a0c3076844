import Volicord.Core.EvidenceFacts
import Volicord.Core.WriteTicket

/-! `recording/context.rs`, `recording/artifact.rs` and `recording/authority.rs`: the request of
`record_run` in its normal form, the artifacts it registers and the captures it finalizes. -/
namespace Volicord
open Result Relational Sorted

inductive EvidenceCoverageUpdateState where
  | unsupported | partiallySupported | supported | contradicted | notApplicable
deriving DecidableEq

def EvidenceCoverageUpdateState.coverageState : EvidenceCoverageUpdateState → EvidenceCoverageState
  | .unsupported => .unsupported
  | .partiallySupported => .partiallySupported
  | .supported => .supported
  | .contradicted => .contradicted
  | .notApplicable => .notApplicable

structure EvidenceUpdateProvenance where
  sourceKind : EvidenceSourceKind
  assuranceLevel : EvidenceAssuranceLevel
  (toolName toolInvocationId : Option String)
  limitations : List String
  observedAt : Option UtcTimestamp

structure EvidenceCoverageUpdate where
  target : EvidenceTarget
  coverageState : EvidenceCoverageUpdateState
  provenance : Option EvidenceUpdateProvenance
  (supportingRunRefs observationRefs : List StateRecordRef)
  supportingArtifactRefs : List ArtifactRef
  gapRefs : List StateRecordRef

structure EvidenceObservationInput where
  target : EvidenceTarget
  sourceKind : EvidenceSourceKind
  assuranceLevel : EvidenceAssuranceLevel
  observedByActorSource : Option ActorSource
  (toolName toolInvocationId : Option String)
  inputRefs : List StateRecordRef
  outputArtifactRefs : List ArtifactRef
  limitations : List String
  observedAt : UtcTimestamp

structure StagedArtifactHandle where
  (handleId projectId taskId : String)
  createdByActorSource : ActorSource
  (contentType sha256 : String)
  sizeBytes : Nat
  redactionState : RedactionState
  expiresAt : UtcTimestamp
  consumed : Bool

/-- The source of an artifact input; the request populates exactly the field of its kind. -/
inductive ArtifactInputSource where
  | stagedArtifact (handle : StagedArtifactHandle)
  | existingArtifact (reference : ArtifactRef)

structure ArtifactInput where
  artifactInputId : String
  source : ArtifactInputSource
  evidenceTarget : Option EvidenceTarget
  expectedSha256 : Option String
  expectedSizeBytes : Option Nat
  redactionState : Option RedactionState

structure CloseAssessmentInput where
  resultSummary : String
  resultRefs : List StateRecordRef
  residualRisks : List ResidualRiskInput
  (sensitiveCategories recoveryConstraints : List String)

structure RecordRunRequest where
  envelope : ToolEnvelope
  (taskId changeUnitId : String)
  kind : RunKind
  runId : Option String
  baselineRef : String
  (writeTicketId performedOperation : Option String)
  summary : String
  observedChanges : ObservedChanges
  artifactInputs : List ArtifactInput
  evidenceUpdates : List EvidenceCoverageUpdate
  evidenceObservations : List EvidenceObservationInput
  closeAssessment : Option CloseAssessmentInput

structure RecordRunIds where
  runId : String
  (artifactIds observationIds producerIds : List String)
  evidenceSummaryId : String
  riskIds : List String

def drawId (ids : List String) (position : Nat) (taken : String → Bool) : CoreResult String := do
  let id ← okOr (.invariant "durable id generator returned no id") ids[position]?
  requireFresh (taken id)
  return id

def evidenceInsufficient (message : String) : CoreError := .rejected .evidenceInsufficient message

def normalizeEvidenceTarget : EvidenceTarget → EvidenceTarget
  | .acceptanceCriterion acceptanceCriterionId => .acceptanceCriterion acceptanceCriterionId
  | .supplementalClaim evidenceClaimId statement =>
    .supplementalClaim evidenceClaimId (Text.trim statement)

def taskModeAllowsRunKind : TaskMode → WorkPhase → RunKind → Bool
  | .advisor, _, _ => false
  | .direct, _, kind => kind = .direct
  | .work, .shaping, _ => false
  | .work, .implementation, kind => kind = .implementation

namespace RecordRunRequest

/-- `normalize_record_run_request`: the request with its normalized observed changes. -/
def normalize (request : RecordRunRequest) : CoreResult RecordRunRequest := do
  let performedOperation := request.performedOperation.map Text.trim
  ensure (performedOperation.all (!·.isEmpty)) (.validation "performed_operation"
    "performed_operation must be null, omitted, or a non-empty operation")
  ensure (!Text.isBlank request.summary) (.validation "summary" "summary must not be empty")
  ensure (request.runId.all (!Text.isBlank ·)) (.validation "run_id"
    "run_id must be null or a non-empty identifier")
  let changes := request.observedChanges
  let paths ← observeRequestProductPaths changes.changedPaths "observed_changes.changed_paths"
    "changed_paths must be normalized relative Product Repository paths"
  let changedPaths := sortDedup paths
  ensure (!(changes.productFileWriteObserved && changedPaths.isEmpty))
    (.validation "observed_changes"
      "product_file_write_observed requires at least one changed_path")
  ensure (changes.productFileWriteObserved || changedPaths.isEmpty)
    (.validation "observed_changes" "changed_paths require product_file_write_observed=true")
  ensure (changes.baselineRef.all (· = request.baselineRef))
    (.validation "observed_changes.baseline_ref"
      "observed_changes.baseline_ref must match request baseline_ref when present")
  return { request with
    performedOperation := performedOperation
    observedChanges := ⟨changedPaths, changes.productFileWriteObserved,
      normalizedStringSet changes.sensitiveCategories, some request.baselineRef⟩
    artifactInputs := request.artifactInputs.map fun input =>
      { input with evidenceTarget := input.evidenceTarget.map normalizeEvidenceTarget }
    evidenceUpdates := request.evidenceUpdates.map fun update =>
      { update with target := normalizeEvidenceTarget update.target }
    evidenceObservations := request.evidenceObservations.map fun observation =>
      { observation with target := normalizeEvidenceTarget observation.target } }

/-- The parts of a request its normal form keeps, and what holds of the changes in it. -/
theorem normalize_ok {raw request : RecordRunRequest} (h : raw.normalize = .ok request) :
    request.taskId = raw.taskId ∧ request.changeUnitId = raw.changeUnitId ∧
      request.baselineRef = raw.baselineRef ∧ request.writeTicketId = raw.writeTicketId ∧
      request.closeAssessment = raw.closeAssessment ∧
      request.observedChanges.productFileWriteObserved
        = raw.observedChanges.productFileWriteObserved ∧
      request.observedChanges.baselineRef = some raw.baselineRef ∧
      (∃ paths, parseProductPaths raw.observedChanges.changedPaths = .ok paths ∧
        request.observedChanges.changedPaths = sortDedup (paths.map (·.text))) ∧
      (request.observedChanges.productFileWriteObserved = false →
        request.observedChanges.changedPaths = []) := by
  simp only [normalize, observeRequestProductPaths, steps_ok] at h
  obtain ⟨_, _, _, _, ⟨paths, hparsed, rfl⟩, _, hnone, _, rfl⟩ := h
  refine ⟨rfl, rfl, rfl, rfl, rfl, rfl, rfl, ⟨paths, ?_, rfl⟩, ?_⟩
  · cases hpaths : parseProductPaths raw.observedChanges.changedPaths with
    | error e => rw [hpaths] at hparsed; cases hparsed
    | ok value => rw [hpaths] at hparsed; cases hparsed; rfl
  · intro hwrite
    rw [Bool.or_eq_true] at hnone
    rcases hnone with htrue | hempty
    · exact absurd htrue (Bool.eq_false_iff.mp hwrite)
    · exact List.isEmpty_iff.mp hempty

end RecordRunRequest

/- `recording/artifact.rs`. -/

structure RecordRunArtifactPlan where
  artifactRef : ArtifactRef
  evidenceTarget : Option EvidenceTarget
  promotion : Option ArtifactPromotion

/-- The mutations of one planned artifact: its promotion when it was staged, and its Run link. -/
def RecordRunArtifactPlan.mutations (plan : RecordRunArtifactPlan) (taskId runId : String) :
    List CoreStorageMutation :=
  plan.promotion.toList.map (fun promotion => .artifact (.promoteStaged promotion))
  ++ [.artifact (.link ⟨plan.artifactRef.artifactId, taskId, .run, runId⟩)]

def artifactInputError (reason message : String) : CoreError :=
  .rejectedAt .validationFailed reason message

def artifactMissing (message : String) : CoreError := .rejected .artifactMissing message

variable (context : PlanContext)

def validateStagedArtifactRecord (taskId : String) (input : ArtifactInput)
    (handle : StagedArtifactHandle) (record : ArtifactStagingRecord) : CoreResult Unit := do
  ensure (record.taskId = taskId) (artifactInputError "staged_handle_task_mismatch"
    "stored staged artifact belongs to a different Task")
  ensure (record.createdByActorSource = context.invocation.actorSource
      && handle.createdByActorSource = record.createdByActorSource)
    (artifactInputError "staged_handle_actor_source_mismatch"
      "staged artifact provenance does not match the verified actor source")
  ensure (record.status ≠ .consumed) (artifactInputError "staged_handle_consumed"
    "staged artifact handle is already consumed")
  ensure (record.createdAt < record.expiresAt) (.invariant ("typed staged artifact `"
    ++ record.handleId ++ "` expires no later than its creation time"))
  ensure (record.createdAt ≤ context.now) (.invariant ("typed staged artifact `"
    ++ record.handleId ++ "` was created after the Core observation time"))
  ensure (record.status ≠ .expired && context.now < record.expiresAt)
    (artifactInputError "staged_handle_expired" "staged artifact handle is expired")
  ensure (record.expiresAt = handle.expiresAt)
    (artifactInputError "staged_handle_checksum_mismatch"
      "staged artifact expiration does not match the submitted handle")
  ensure (record.status = .staged) (artifactInputError "staged_handle_not_found"
    "staged artifact handle is not consumable")
  ensure (record.sha256 = some handle.sha256
      && input.expectedSha256.all fun expected => record.sha256 = some expected)
    (artifactInputError "staged_handle_checksum_mismatch"
      "staged artifact checksum does not match the submitted handle or expectation")
  ensure (record.sizeBytes = some handle.sizeBytes
      && input.expectedSizeBytes.all fun expected => record.sizeBytes = some expected)
    (artifactInputError "staged_handle_size_mismatch"
      "staged artifact size does not match the submitted handle or expectation")
  ensure (record.redactionState = handle.redactionState
      && record.redactionState = input.redactionState.getD handle.redactionState)
    (artifactInputError "staged_handle_checksum_mismatch"
      "staged artifact redaction_state does not match the submitted handle or expectation")
  ensure (record.contentType = some handle.contentType)
    (artifactInputError "staged_handle_checksum_mismatch"
      "staged artifact content_type does not match the submitted handle")

variable (t : CoreTables)

/-- `plan_staged_artifact_input`, with the id drawn for the new artifact. -/
def planStagedArtifactInput (taskId runId : String) (input : ArtifactInput)
    (handle : StagedArtifactHandle) (ids : List String) (position : Nat) :
    CoreResult RecordRunArtifactPlan := do
  ensure (handle.projectId = context.projectId)
    (artifactInputError "staged_handle_project_mismatch"
      "staged artifact handle belongs to a different project")
  ensure (handle.taskId = taskId) (artifactInputError "staged_handle_task_mismatch"
    "staged artifact handle belongs to a different Task")
  ensure (!handle.consumed) (artifactInputError "staged_handle_consumed"
    "staged artifact handle is already consumed")
  let record ← okOr (artifactInputError "staged_handle_not_found"
    "staged artifact handle cannot be found") (t.artifactStaging.find? handle.handleId)
  validateStagedArtifactRecord context taskId input handle record
  let artifactId ← drawId ids position fun id => (t.artifacts.find? id).isSome
  return {
    artifactRef := ⟨artifactId, context.projectId, taskId, some handle.contentType,
      some handle.sha256, some handle.sizeBytes, record.redactionState, .verified, .available⟩
    evidenceTarget := input.evidenceTarget
    promotion := some ⟨handle.handleId, artifactId, taskId, runId, context.invocation.actorSource,
      handle.sha256, handle.sizeBytes, record.redactionState, record.createdAt,
      record.expiresAt⟩ }

def planExistingArtifactInput (taskId : String) (input : ArtifactInput) (existing : ArtifactRef) :
    CoreResult RecordRunArtifactPlan := do
  ensure (existing.projectId = context.projectId && existing.taskId = taskId)
    (artifactInputError "staged_handle_project_mismatch"
      "existing artifact ref must belong to the request project and Task")
  let record ← okOr (artifactMissing "existing artifact cannot be found")
    (t.artifacts.find? existing.artifactId)
  ensure (record.taskId = taskId && record.verifiedCurrent context
      && t.artifactHasTaskOwnerLink existing.artifactId taskId)
    (artifactMissing "existing artifact is not available for this Task")
  ensure (existing.integrityStatus = .verified)
    (artifactMissing "existing artifact does not have verified integrity facts")
  ensure existing.sha256.isSome (artifactInputError "staged_handle_checksum_mismatch"
    "verified existing artifact refs must include sha256")
  ensure existing.sizeBytes.isSome (artifactInputError "staged_handle_size_mismatch"
    "verified existing artifact refs must include size_bytes")
  ensure existing.contentType.isSome (artifactInputError "staged_handle_checksum_mismatch"
    "verified existing artifact refs must include content_type")
  ensure (record.sha256 = existing.sha256
      && input.expectedSha256.all fun expected => record.sha256 = some expected)
    (artifactInputError "staged_handle_checksum_mismatch"
      "existing artifact checksum does not match the stored artifact")
  ensure (record.sizeBytes = existing.sizeBytes
      && input.expectedSizeBytes.all fun expected => record.sizeBytes = some expected)
    (artifactInputError "staged_handle_size_mismatch"
      "existing artifact size does not match the stored artifact")
  ensure (record.contentType = existing.contentType)
    (artifactInputError "staged_handle_checksum_mismatch"
      "existing artifact content_type does not match the stored artifact")
  ensure (record.redactionState = existing.redactionState
      && record.redactionState = input.redactionState.getD existing.redactionState)
    (artifactInputError "staged_handle_checksum_mismatch"
      "existing artifact redaction_state does not match the stored artifact")
  return ⟨record.refFromVerifiedRecord context, input.evidenceTarget, none⟩

def ArtifactInput.stagedHandleId (input : ArtifactInput) : Option String :=
  match input.source with
  | .stagedArtifact handle => some handle.handleId
  | .existingArtifact _ => none

variable (request : RecordRunRequest)

/-- `plan_record_run_artifacts`; the checks that compare inputs come before the inputs' own. -/
def planRecordRunArtifacts (runId : String) (ids : List String) :
    CoreResult (List RecordRunArtifactPlan) := do
  let inputs := request.artifactInputs
  ensure (inputs.all (!Text.isBlank ·.artifactInputId))
    (artifactInputError "staged_handle_not_found" "artifact_input_id must not be empty")
  ensure (inputs.map (·.artifactInputId)).Nodup (artifactInputError "staged_handle_not_found"
    "artifact_input_id values must be unique within one request")
  ensure (inputs.filterMap (·.stagedHandleId)).Nodup (artifactInputError "staged_handle_consumed"
    "a staged artifact handle can be consumed at most once")
  inputs.zipIdx.mapM fun (input, position) =>
    match input.source with
    | .stagedArtifact handle =>
      planStagedArtifactInput context t request.taskId runId input handle ids position
    | .existingArtifact reference =>
      planExistingArtifactInput context t request.taskId input reference

/- `recording/authority.rs`. -/

structure RecordRunCaptureAuthority where
  intent : EvidenceCaptureIntentRecord
  intentRef : StateRecordRef
  receipt : EvidenceCaptureReceiptRecord
  relevanceStatus : EvidenceRelevanceStatus
  receiptArtifactRef : ArtifactRef
  verificationBasis : String

def captureIntentRefs (refs : List StateRecordRef) : List StateRecordRef :=
  refs.filter (·.recordKind = .evidenceCaptureIntent)

variable (scopeRevision : Nat)

def captureIntentIsCurrent (intent : EvidenceCaptureIntentRecord) : Bool :=
  intent.taskId = request.taskId && intent.changeUnitId = request.changeUnitId
  && intent.scopeRevision = scopeRevision && intent.baselineRef = request.baselineRef
  && intent.requestedByActorSource = context.invocation.actorSource
  && intent.workspaceContext = context.invocation.gitWorkspaceContext

/-- `plan_record_run_capture_authority`: the receipt is registered as an artifact of its own. -/
def planRecordRunCaptureAuthority (runId : String) (ids : List String) (intentId : String)
    (position : Nat) : CoreResult (RecordRunArtifactPlan × RecordRunCaptureAuthority) := do
  ensure (t.producerForIntent intentId).isNone (evidenceInsufficient
    "evidence-capture intent is already finalized and must be reused through its observation")
  let intent ← okOr (evidenceInsufficient "evidence-capture intent was not found")
    (t.evidenceCaptureIntents.find? intentId)
  ensure (captureIntentIsCurrent context request scopeRevision intent) (evidenceInsufficient
    "evidence-capture intent is stale or belongs to another current basis")
  let receipt ← okOr (evidenceInsufficient "evidence-capture source receipt is not available")
    (t.captureReceiptForIntent intentId)
  let outcomeMatches ← CoreTables.validateCaptureReceipt intent receipt
  ensure (receipt.observedAt ≤ context.now && receipt.createdAt ≤ context.now
      && receipt.observedAt < intent.expiresAt && context.now < intent.expiresAt)
    (evidenceInsufficient
      "evidence-capture intent or receipt is outside its current time window")
  ensure (receipt.observedByActorSource = intent.requestedByActorSource
      && receipt.connectionId = intent.requestingConnectionInternalId
      && context.invocation.actorSource = intent.requestedByActorSource)
    (evidenceInsufficient
      "evidence-capture source connection does not match the immutable intent")
  let staging ← okOr (evidenceInsufficient
    "evidence-capture receipt staging handle was not found")
    (t.artifactStaging.find? receipt.stagingHandleId)
  ensure (staging.sha256 = some receipt.safeReceiptSha256
      && staging.sizeBytes = some receipt.safeReceiptSizeBytes
      && staging.contentType = some "application/json" && staging.redactionState = .redacted
      && staging.expiresAt = intent.expiresAt)
    (evidenceInsufficient
      "evidence-capture receipt staging facts do not match the immutable receipt")
  let handle : StagedArtifactHandle := ⟨receipt.stagingHandleId, context.projectId, request.taskId,
    receipt.observedByActorSource, "application/json", receipt.safeReceiptSha256,
    receipt.safeReceiptSizeBytes, .redacted, staging.expiresAt, staging.status = .consumed⟩
  let input : ArtifactInput := ⟨"capture_receipt_" ++ intentId, .stagedArtifact handle,
    some intent.target, some receipt.safeReceiptSha256, some receipt.safeReceiptSizeBytes,
    some .redacted⟩
  let plan ← planStagedArtifactInput context t request.taskId runId input handle ids position
  let verificationBasis ← okOr (.invariant ("typed evidence receipt `"
      ++ receipt.evidenceCaptureReceiptId
      ++ "` has a capture kind that cannot produce strict evidence"))
    (captureVerificationBasis receipt.captureKind)
  return (plan, ⟨intent, stateRef .evidenceCaptureIntent intentId context.projectId
    (some request.taskId) (some context.stateVersion), receipt,
    captureOutcomeRelevance outcomeMatches, plan.artifactRef, verificationBasis⟩)

def planRecordRunCaptureAuthorities (runId : String) (ids : List String) :
    CoreResult (List (RecordRunArtifactPlan × RecordRunCaptureAuthority)) := do
  ensure (request.evidenceObservations.all fun observation =>
      (captureIntentRefs observation.inputRefs).length ≤ 1)
    (evidenceInsufficient
      "one evidence observation may cite at most one evidence-capture intent")
  let intentIds := request.evidenceObservations.flatMap fun observation =>
    (captureIntentRefs observation.inputRefs).map (·.recordId)
  ensure intentIds.Nodup (evidenceInsufficient
    "one evidence-capture intent cannot be consumed by multiple observations")
  intentIds.zipIdx.mapM fun (intentId, position) =>
    planRecordRunCaptureAuthority context t request scopeRevision runId ids intentId
      (request.artifactInputs.length + position)

end Volicord
