import Volicord.Store.Shaping

/-! `core_pipeline/evidence.rs`, `core_pipeline/artifacts.rs` and the finalized captures of
`evidence_capture.rs`: the evidence and the artifacts a recorded Run leaves. -/
namespace Volicord
open Result Relational

structure EvidenceSummaryUpsert where
  (evidenceSummaryId taskId : String)
  changeUnitId : Option String
  status : EvidenceStatus
  coverage : List EvidenceCoverageItem
  updatedByRunId : String

inductive EvidenceMutation where
  | ensureClaim (row : EvidenceClaimRecord)
  | insertCaptureIntent (row : EvidenceCaptureIntentRecord)
  | upsertSummary (input : EvidenceSummaryUpsert)
  | insertObservation (row : EvidenceObservationRecord)
  | insertProducer (row : EvidenceProducerRecord)

structure ArtifactPromotion where
  (handleId artifactId taskId runId : String)
  expectedCreatedByActorSource : ActorSource
  expectedSha256 : String
  expectedSizeBytes : Nat
  expectedRedactionState : RedactionState
  (expectedCreatedAt expectedExpiresAt : UtcTimestamp)

inductive ArtifactMutation where
  | promoteStaged (input : ArtifactPromotion)
  | link (row : ArtifactLinkRow)

/-- `EVIDENCE_CAPTURE_INTENT_TTL_MINUTES`, as a span of time. -/
def evidenceCaptureIntentTtl : Int := 15 * 60 * 1000000000

def validateArtifactSha256 (field value : String) : StoreResult Unit :=
  ensure (isCanonicalSha256Hex value)
    (.invalidInput (field ++ " must be lowercase 64-character SHA-256 hex"))

namespace CoreTables

def ensureEvidenceClaim (row : EvidenceClaimRecord) (t : CoreTables) : StoreResult CoreTables := do
  validateIdentifier "evidence_claim_id" row.evidenceClaimId
  validateIdentifier "task_id" row.taskId
  ensure (!Text.isBlank row.statement) (.schemaInvariant projectStateDatabaseKind
    "supplemental evidence claim statement must not be empty")
  return { t with evidenceClaims := t.evidenceClaims.insertOrIgnore row }

def insertEvidenceCaptureIntent (row : EvidenceCaptureIntentRecord) (t : CoreTables) :
    StoreResult CoreTables := do
  validateIdentifier "evidence_capture_intent_id" row.evidenceCaptureIntentId
  validateIdentifier "task_id" row.taskId
  validateIdentifier "change_unit_id" row.changeUnitId
  validateIdentifier "baseline_ref" row.baselineRef
  validateArtifactSha256 "input_sha256" row.inputSha256
  validateIdentifier "requesting_connection_internal_id" row.requestingConnectionInternalId
  ensure (row.capture.inputSha256 = row.inputSha256)
    (.invalidInput "input_sha256 does not match the evidence capture")
  ensure (row.expectedOutcome = row.capture.expectedOutcome) (.invalidInput
    ("expected_outcome does not match the evidence capture: "
      ++ "expected outcome does not match the canonical capture expectation"))
  ensure (row.expiresAt = row.createdAt + evidenceCaptureIntentTtl)
    (.schemaInvariant projectStateDatabaseKind
      "capture-intent expires_at must be exactly 15 minutes after created_at")
  let rows ← insertRow t.evidenceCaptureIntents row
    (t.changeUnitRecord row.taskId row.changeUnitId).isSome "evidence_capture_intents"
  return { t with evidenceCaptureIntents := rows }

def upsertEvidenceSummary (committedStateVersion : Nat) (input : EvidenceSummaryUpsert)
    (t : CoreTables) : StoreResult CoreTables := do
  validateIdentifier "evidence_summary_id" input.evidenceSummaryId
  validateIdentifier "task_id" input.taskId
  validateOptionalIdentifier "change_unit_id" input.changeUnitId
  let _ ← u64ToI64 "evidence_summaries.produced_at_state_version" committedStateVersion
  -- a Task has one summary per version
  ensure (t.evidenceSummaries.rows.all fun row => row.taskId ≠ input.taskId
      || row.producedAtStateVersion ≠ committedStateVersion
      || row.evidenceSummaryId = input.evidenceSummaryId)
    (.sqlite "evidence_summaries constraint failed")
  let row : EvidenceSummaryRecord := ⟨input.evidenceSummaryId, input.taskId, input.changeUnitId,
    committedStateVersion, input.status, input.coverage, input.updatedByRunId⟩
  return { t with evidenceSummaries := t.evidenceSummaries.upsert row }

/-- The constraints of a new `evidence_observations` row; its Run reference is deferred. -/
def observationConstraintsHold (t : CoreTables) (row : EvidenceObservationRecord) : Bool :=
  (t.taskRow row.taskId).isSome
  && row.changeUnitId.all (fun id => (t.changeUnitRecord row.taskId id).isSome)
  && row.acceptanceCriterionId.all (fun id =>
    (t.acceptanceCriteria.find? id).any (·.taskId = row.taskId))
  && row.evidenceClaimId.all fun id => (t.evidenceClaims.find? (row.taskId, id)).isSome

def insertEvidenceObservation (row : EvidenceObservationRecord) (t : CoreTables) :
    StoreResult CoreTables := do
  validateIdentifier "evidence_observation_id" row.evidenceObservationId
  validateIdentifier "task_id" row.taskId
  validateOptionalIdentifier "change_unit_id" row.changeUnitId
  validateOptionalIdentifier "run_id" row.runId
  ensure (row.acceptanceCriterionId.isSome ≠ row.evidenceClaimId.isSome)
    (.schemaInvariant projectStateDatabaseKind
      "evidence observation must select exactly one target identity")
  validateOptionalIdentifier "tool_name" row.toolName
  validateOptionalIdentifier "tool_invocation_id" row.toolInvocationId
  let rows ← insertRow t.evidenceObservations row (t.observationConstraintsHold row)
    "evidence_observations"
  return { t with evidenceObservations := rows }

/-- An intent, a receipt, an observation and an artifact have at most one producer. -/
def producerConstraintsHold (t : CoreTables) (row : EvidenceProducerRecord) : Bool :=
  (t.evidenceProducers.rows.all fun other =>
    other.evidenceCaptureIntentId ≠ row.evidenceCaptureIntentId
    && other.evidenceCaptureReceiptId ≠ row.evidenceCaptureReceiptId
    && other.evidenceObservationId ≠ row.evidenceObservationId
    && other.artifactId ≠ row.artifactId)
  && (t.evidenceCaptureIntents.find? row.evidenceCaptureIntentId).isSome
  && (t.evidenceCaptureReceipts.find? row.evidenceCaptureReceiptId).any
    (·.evidenceCaptureIntentId = row.evidenceCaptureIntentId)

def insertEvidenceProducer (row : EvidenceProducerRecord) (t : CoreTables) :
    StoreResult CoreTables := do
  validateIdentifier "evidence_producer_id" row.evidenceProducerId
  validateIdentifier "evidence_capture_intent_id" row.evidenceCaptureIntentId
  validateIdentifier "evidence_capture_receipt_id" row.evidenceCaptureReceiptId
  validateIdentifier "evidence_observation_id" row.evidenceObservationId
  validateIdentifier "artifact_id" row.artifactId
  validateIdentifier "run_id" row.runId
  validateIdentifier "task_id" row.taskId
  validateIdentifier "change_unit_id" row.changeUnitId
  validateIdentifier "baseline_ref" row.baselineRef
  let rows ← insertRow t.evidenceProducers row (t.producerConstraintsHold row)
    "evidence_producers"
  return { t with evidenceProducers := rows }

/-- The staging row still is what the plan saw, and the commit falls in its window. -/
def stagingMatchesPromotion (staging : ArtifactStagingRecord) (input : ArtifactPromotion) : Bool :=
  staging.taskId = input.taskId
  && staging.createdByActorSource = input.expectedCreatedByActorSource
  && staging.status = .staged
  && staging.sha256 = some input.expectedSha256
  && staging.sizeBytes = some input.expectedSizeBytes
  && staging.redactionState = input.expectedRedactionState
  && staging.createdAt = input.expectedCreatedAt
  && staging.expiresAt = input.expectedExpiresAt

def promoteStagedArtifact (X : External) (context : MutationContext) (input : ArtifactPromotion)
    (t : CoreTables) : StoreResult CoreTables := do
  validateIdentifier "artifact_staging.handle_id" input.handleId
  validateIdentifier "artifact_id" input.artifactId
  validateIdentifier "task_id" input.taskId
  validateIdentifier "run_id" input.runId
  validateArtifactSha256 "expected_sha256" input.expectedSha256
  let staging ← okOr (.schemaInvariant projectStateDatabaseKind
    "staged artifact disappeared before promotion") (t.artifactStaging.find? input.handleId)
  ensure (stagingMatchesPromotion staging input) (.schemaInvariant projectStateDatabaseKind
    "staged artifact changed before promotion")
  let committedAt ← okOr (.corruptOwnerStateValue "project_state" context.projectId "updated_at")
    (X.chrono.parse context.committedAt)
  ensure (staging.createdAt ≤ committedAt && committedAt < staging.expiresAt)
    (.schemaInvariant projectStateDatabaseKind
      "staged artifact is outside its exact eligibility window")
  let artifacts ← insertRow t.artifacts
    { artifactId := input.artifactId, taskId := input.taskId, producerRunId := input.runId
      contentType := staging.contentType, sha256 := some input.expectedSha256
      sizeBytes := some input.expectedSizeBytes, redactionState := input.expectedRedactionState
      integrityStatus := .verified, availability := .available }
    (t.taskRow input.taskId).isSome "artifacts"
  return { t with
    artifacts := artifacts
    artifactStaging := t.artifactStaging.update input.handleId ({ · with
      status := .consumed, consumedByRunId := some input.runId
      promotedArtifactId := some input.artifactId }) }

def linkArtifact (row : ArtifactLinkRow) (t : CoreTables) : StoreResult CoreTables := do
  validateIdentifier "artifact_id" row.artifactId
  validateIdentifier "task_id" row.taskId
  validateIdentifier "owner_record_id" row.ownerRecordId
  ensure (t.artifacts.find? row.artifactId).isSome (.sqlite "artifact_links constraint failed")
  return { t with artifactLinks := t.artifactLinks.insertOrIgnore row }

end CoreTables

def EvidenceMutation.apply (committedStateVersion : Nat) (t : CoreTables) :
    EvidenceMutation → StoreResult CoreTables
  | .ensureClaim row => t.ensureEvidenceClaim row
  | .insertCaptureIntent row => t.insertEvidenceCaptureIntent row
  | .upsertSummary input => t.upsertEvidenceSummary committedStateVersion input
  | .insertObservation row => t.insertEvidenceObservation row
  | .insertProducer row => t.insertEvidenceProducer row

def ArtifactMutation.apply (X : External) (context : MutationContext) (t : CoreTables) :
    ArtifactMutation → StoreResult CoreTables
  | .promoteStaged input => t.promoteStagedArtifact X context input
  | .link row => t.linkArtifact row

end Volicord
