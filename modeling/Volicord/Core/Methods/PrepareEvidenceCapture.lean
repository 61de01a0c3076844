import Volicord.Core.Recording
import Volicord.Core.WriteTicket

/-! `methods/prepare_evidence_capture.rs`: an agent announces a command or a tool call whose
outcome a capture source will report. -/
namespace Volicord
open Result

structure PrepareEvidenceCaptureRequest where
  envelope : ToolEnvelope
  (taskId changeUnitId baselineRef : String)
  target : EvidenceTarget
  capture : EvidenceCaptureSpec

namespace PrepareEvidenceCapture

def actionKey : WorkflowActionKey := ⟨.prepareEvidenceCapture, .prepareEvidenceCapture⟩

def coordinatesMatch (request : PrepareEvidenceCaptureRequest) :
    WorkflowActionAuthorityCoordinates → Bool
  | .prepareEvidenceCapture taskId changeUnitId baselineRef => taskId = request.taskId
    && changeUnitId = request.changeUnitId && baselineRef = request.baselineRef
  | _ => false

def mismatchCode (request : PrepareEvidenceCaptureRequest) :
    WorkflowActionAuthorityCoordinates → ErrorCode
  | .prepareEvidenceCapture _ changeUnitId baselineRef =>
    if changeUnitId ≠ request.changeUnitId then .changeUnitStale
    else if baselineRef ≠ request.baselineRef then .workspaceBasisStale
    else .workflowActionNotAllowed
  | _ => .workflowActionNotAllowed

/-- `MAX_CAPTURE_LABEL_BYTES` and `MAX_CAPTURE_TOOL_NAME_BYTES`. -/
def captureTextMaxBytes : Nat := 256

def captureTextValid (text : String) : Bool :=
  !text.isEmpty && text.utf8ByteSize ≤ captureTextMaxBytes

/-- `normalize_capture_spec`: the spec with its texts trimmed and its expectation made
explicit. -/
def normalizeCaptureSpec : EvidenceCaptureSpec → CoreResult EvidenceCaptureSpec
  | .verifiedCommandExecution commandSha256 commandLabel expectedExitCode => do
    ensure (isCanonicalSha256Hex commandSha256) (.validation "capture.command_sha256"
      "command_sha256 must be a lowercase 64-character SHA-256")
    ensure (captureTextValid (Text.trim commandLabel)) (.validation "capture.command_label"
      "command_label must be non-empty and at most 256 UTF-8 bytes")
    return .verifiedCommandExecution commandSha256 (Text.trim commandLabel)
      (some (expectedExitCode.getD 0))
  | .verifiedToolInvocation toolName toolInputSha256 expectedSuccess => do
    ensure (isCanonicalSha256Hex toolInputSha256) (.validation "capture.tool_input_sha256"
      "tool_input_sha256 must be a lowercase 64-character SHA-256")
    ensure (captureTextValid (Text.trim toolName)) (.validation "capture.tool_name"
      "tool_name must be non-empty and at most 256 UTF-8 bytes")
    return .verifiedToolInvocation (Text.trim toolName) toolInputSha256
      (some (expectedSuccess.getD true))

def validateTarget (t : CoreTables) (taskId : String) : EvidenceTarget → CoreResult Unit
  | .acceptanceCriterion acceptanceCriterionId =>
    ensure ((t.acceptanceCriteria.find? acceptanceCriterionId).any fun row =>
        row.taskId = taskId && row.status = .active)
      (.validation "target" "acceptance criterion target must be current for this Task")
  | .supplementalClaim evidenceClaimId statement => do
    ensure (!Text.isBlank evidenceClaimId && !Text.isBlank statement) (.validation "target"
      "supplemental claim target requires a non-empty ID and statement")
    ensure ((t.evidenceClaims.find? (taskId, evidenceClaimId)).all (·.statement = statement))
      (.validation "target.statement" "supplemental claim statement is immutable within a Task")

/-- A capture other than a command is bound to the session that announced it. -/
def needsSession : EvidenceCaptureSpec → Bool
  | .verifiedCommandExecution _ _ _ => false
  | .verifiedToolInvocation _ _ _ => true

def plan (context : PlanContext) (t : CoreTables) (request : PrepareEvidenceCaptureRequest)
    (intentId : String) (admitted : AdmittedTransition) : CoreResult OperationPlan := do
  let mismatch := CoreError.rejected .invocationContextMismatch
  let connectionId ← okOr (mismatch
      "evidence capture intent creation requires a verified Agent Connection")
    (ActorSource.agentConnectionId context.invocation.actorSource)
  let workspace ← okOr (mismatch
      "evidence capture intent creation requires verified Git workspace context")
    context.invocation.gitWorkspaceContext
  let task ← fromStore (t.taskRecord context.projectId request.taskId)
  let task ← okOr noActiveTaskError task
  let noChangeUnit := CoreError.rejected .noActiveChangeUnit
  ensure (task.currentChangeUnitId = some request.changeUnitId)
    (noChangeUnit "change_unit_id must identify the current Change Unit")
  let changeUnit ← okOr
    (noChangeUnit "change_unit_id does not identify a Change Unit for this Task")
    (t.changeUnitRecord request.taskId request.changeUnitId)
  ensure (changeUnit.status = .active && changeUnit.isCurrent)
    (noChangeUnit "evidence capture preparation requires the current active Change Unit")
  ensure (baselineMatches changeUnit task request.baselineRef) (.rejected .baselineStale
    "baseline_ref does not match the current Change Unit basis")
  ensure (workspaceContextMatches changeUnit (some workspace)) (.rejected .baselineStale
    "current Git workspace context does not match the current Change Unit basis")
  let target := normalizeEvidenceTarget request.target
  validateTarget t request.taskId target
  let capture ← normalizeCaptureSpec request.capture
  ensure (!needsSession capture || context.invocation.sessionId.isSome) (mismatch
    "tool and registered-connection evidence capture intents require an exact verified Agent Session")
  requireFresh (t.evidenceCaptureIntents.find? intentId).isSome
  return {
    taskId := request.taskId, changeUnitId := some request.changeUnitId
    eventKind := "evidence_capture_prepared", descriptor := some admitted.descriptor
    mutations := [.evidence (.insertCaptureIntent {
      evidenceCaptureIntentId := intentId, taskId := request.taskId
      changeUnitId := request.changeUnitId, scopeRevision := task.scopeRevision
      baselineRef := request.baselineRef, target := target, capture := capture
      inputSha256 := capture.inputSha256, expectedOutcome := capture.expectedOutcome
      requestedByActorSource := context.invocation.actorSource
      requestingConnectionInternalId := connectionId, workspaceContext := some workspace
      createdAt := context.now, expiresAt := context.now + evidenceCaptureIntentTtl })] }

theorem plan_ok {context : PlanContext} {t : CoreTables}
    {request : PrepareEvidenceCaptureRequest} {intentId : String} {admitted : AdmittedTransition}
    {result : OperationPlan} (h : plan context t request intentId admitted = .ok result) :
    result.taskId = request.taskId ∧ result.descriptor = some admitted.descriptor ∧
      ∃ row, result.mutations = [.evidence (.insertCaptureIntent row)] := by
  simp only [plan, steps_ok, fromStore_eq_ok] at h
  obtain ⟨_, _, _, _, _, _, _, _, _, _, _, _, _, _, _, _, _, _, _, _, _, rfl⟩ := h
  exact ⟨rfl, rfl, _, rfl⟩

end PrepareEvidenceCapture
end Volicord
