import Volicord.Core.UserActionConstruction

/-! The two methods that apply accepted shaping decisions and leave shaping:
`methods/advance_task.rs` for a work Task, and `plan_finalize_advice` of
`methods/record_shaping.rs` for an Advisor Task. -/
namespace Volicord
open Result
variable {admitted : AdmittedTransition} {result : OperationPlan}

structure CheckpointApplicationRequest where
  envelope : ToolEnvelope
  (taskId shapingCheckpointId changeUnitId : String)
  scopeRevision : Nat
  baselineRef : String
  userActionResolutionIds : List String

abbrev AdvanceTaskRequest := CheckpointApplicationRequest

structure FinalizeAdviceRequest extends CheckpointApplicationRequest where
  resultSummary : String
  (resultRefs evidenceRefs : List StateRecordRef)
  residualRisks : List ResidualRiskInput
  recoveryConstraints : List String

namespace CheckpointApplicationRequest
variable (request : CheckpointApplicationRequest)

def matchesCoordinates (taskId shapingCheckpointId changeUnitId : String) (scopeRevision : Nat)
    (baselineRef : Option String) (userActionResolutionIds : List String) : Bool :=
  request.taskId = taskId && request.shapingCheckpointId = shapingCheckpointId
  && request.changeUnitId = changeUnitId && request.scopeRevision = scopeRevision
  && baselineRef = some request.baselineRef
  && idSetsEqual request.userActionResolutionIds userActionResolutionIds

def mismatchCode : WorkflowActionAuthorityCoordinates → ErrorCode
  | .finalizeAdvice _ shapingCheckpointId changeUnitId _ baselineRef _
  | .advanceTask _ shapingCheckpointId changeUnitId _ baselineRef _ =>
    if request.shapingCheckpointId ≠ shapingCheckpointId then .shapingCheckpointStale
    else if request.changeUnitId ≠ changeUnitId then .changeUnitStale
    else if baselineRef ≠ some request.baselineRef then .workspaceBasisStale
    else .workflowActionNotAllowed
  | _ => .workflowActionNotAllowed

/-- The checkpoint of the request has its exact coordinates and is ready. -/
def checkpointIsExact (checkpoint : ShapingCheckpointRecord) : Bool :=
  checkpoint.row.shapingCheckpointId = request.shapingCheckpointId
  && checkpoint.row.readiness = .ready && checkpoint.row.scopeRevision = request.scopeRevision
  && checkpoint.row.baselineRef = some request.baselineRef

def changeUnitIsExact (changeUnit : ChangeUnitRecord) : Bool :=
  changeUnit.changeUnitId = request.changeUnitId
  && changeUnit.writeBasis.baselineRef = some request.baselineRef
  && !changeUnit.recoveryRequired

/-- `exact_basis`: the accepted decision of a gap on exactly the submitted basis. -/
def decisionIsExact (gap : ShapingCheckpointGapRecord) (resolutionId : String)
    (policy : ShapingDecisionPolicy) (record : StoredUserActionRecordSet) : Bool :=
  let coordinates := record.request.basis.coordinates
  let metadataMatches := match record.request.metadata with
    | .shaping checkpointId gapId _ =>
      checkpointId = gap.row.shapingCheckpointId && gapId = gap.row.shapingGapId
    | _ => false
  record.status = .resolved && record.request.basisStatus = .current
  && coordinates.compatibilityStatus = .current && coordinates.taskId = request.taskId
  && coordinates.scopeRevision = request.scopeRevision
  && coordinates.changeUnitId = some request.changeUnitId
  && coordinates.baselineRef = some request.baselineRef
  && record.request.requiredFor = policy.requiredFor
  && (record.resolution.any fun resolution => resolution.userActionResolutionId = resolutionId)
  && metadataMatches && record.acceptedCurrentUserAuthority policy.userActionKind

def suppliesExactly (expected : List String) : Bool :=
  request.userActionResolutionIds.Nodup && idSetsEqual request.userActionResolutionIds expected

def application (task : TaskRecord) (checkpoint : ShapingCheckpointRecord)
    (changeUnit : ChangeUnitRecord) (applications : List ShapingGapApplication) :
    ShapingAdvanceApplication where
  taskId := task.taskId
  shapingCheckpointId := checkpoint.row.shapingCheckpointId
  changeUnitId := changeUnit.changeUnitId
  scopeRevision := request.scopeRevision
  baselineRef := request.baselineRef
  applications := applications

end CheckpointApplicationRequest

def userDecisionUnresolved (message : String) : CoreError :=
  .rejected .userDecisionUnresolved message

namespace AdvanceTask

def actionKey : WorkflowActionKey := ⟨.advanceTask, .advanceTask⟩

def coordinatesMatch (request : AdvanceTaskRequest) : WorkflowActionAuthorityCoordinates → Bool
  | .advanceTask taskId checkpointId changeUnitId scopeRevision baselineRef resolutionIds =>
    request.matchesCoordinates taskId checkpointId changeUnitId scopeRevision baselineRef
      resolutionIds
  | _ => false

/-- One round of the loop over the gaps `advance_task` owns. -/
def planApplication (X : External) (context : PlanContext) (t : CoreTables)
    (request : AdvanceTaskRequest) (gap : ShapingCheckpointGapRecord) :
    CoreResult ShapingGapApplication := do
  ensure (gap.row.status = .accepted) (userDecisionUnresolved
    "every advance-owned shaping gap must be accepted and supplied exactly once")
  let link ← okOr (.invariant "an advance-owned shaping gap has no UserAction link")
    gap.userAction
  let resolutionId ← okOr (userDecisionUnresolved
    "an advance-owned shaping gap has no exact resolution") link.userActionResolutionId
  let record ← fromStore (t.userActionRecord context.now link.userActionRequestId)
  let record ← okOr (.invariant
    "an advance-owned shaping gap references a missing UserAction request") record
  let policy ← okOr (.invariant "advance application policy is missing")
    gap.row.gapKind.decisionPolicy
  ensure (request.decisionIsExact gap resolutionId policy record) (userDecisionUnresolved
    "an advance-owned resolution does not match the exact current checkpoint basis")
  return ⟨shapingDecisionApplicationId X resolutionId .advanceTask, gap.row.shapingGapId,
    resolutionId⟩

def gapBlocksAdvance (gap : ShapingCheckpointGapRecord) : Bool :=
  (gap.row.gapKind.decisionPolicy.any fun policy =>
    policy.applicationOwner = .updateScope && gap.row.status ≠ .applied)
  || (!gap.row.gapKind.isUserOwned && gap.row.status = .current)

def plan (X : External) (context : PlanContext) (t : CoreTables) (request : AdvanceTaskRequest)
    (admitted : AdmittedTransition) : CoreResult OperationPlan := do
  let task ← fromStore (t.taskRecord context.projectId request.taskId)
  let task ← okOr noActiveTaskError task
  ensure (task.mode = .work && task.workPhase = .shaping) (.rejected .workflowActionNotAllowed
    "advance_task is not allowed for the current Task mode and work phase")
  ensure (task.scopeRevision = request.scopeRevision) (.rejected .shapingCheckpointStale
    "scope_revision does not match the current shaping checkpoint basis")
  ensure (task.shaping.baselineRef = some request.baselineRef) (.rejected .shapingCheckpointStale
    "baseline_ref does not match the current shaping checkpoint basis")
  let changeUnit ← fromStore (t.currentChangeUnit request.taskId)
  let checkpoint ← fromStore (t.currentShapingCheckpoint X request.taskId)
  let authority ← fromStore (taskWideShapingAuthority X request.envelope.projectId
    context.stateVersion context.now t task changeUnit)
  ensure (!authority.blocksAdvanceApplication) (userDecisionUnresolved
    "task-wide UserAction authority required for advance_task is not accepted")
  let checkpoint ← okOr (.rejected .shapingCheckpointRequired
    "a current shaping checkpoint is required before implementation") checkpoint
  ensure (!checkpoint.gaps.any fun gap => gap.row.status = .current && gap.row.gapKind.isUserOwned)
    (userDecisionUnresolved
      "the current shaping checkpoint has an unresolved User Channel decision")
  ensure (request.checkpointIsExact checkpoint && !checkpoint.gaps.any gapBlocksAdvance)
    (.rejected .shapingCheckpointStale
      "shaping checkpoint is stale, structurally blocked, or has unapplied scope decisions")
  let changeUnit ← okOr (.rejected .changeUnitRequired
    "a current Change Unit is required before implementation") changeUnit
  ensure (request.changeUnitIsExact changeUnit) (.rejected .changeUnitStale
    "Change Unit is stale, baseline-incompatible, or recovery-constrained")
  let owned := checkpoint.gaps.filter fun gap =>
    gap.row.gapKind.decisionPolicy.any (·.applicationOwner = .advanceTask)
  let applications ← owned.mapM (planApplication X context t request)
  ensure (request.suppliesExactly (applications.map (·.userActionResolutionId)))
    (userDecisionUnresolved "the exact current User Channel resolution set is required")
  return {
    taskId := request.taskId, changeUnitId := some request.changeUnitId
    eventKind := "task_advanced_to_implementation", descriptor := some admitted.descriptor
    mutations := [.shaping (.applyAdvanceAndTransition
      (request.application task checkpoint changeUnit applications))] }

structure Accepted (X : External) (context : PlanContext) (t : CoreTables)
    (request : AdvanceTaskRequest) where
  task : TaskRecord
  changeUnit : ChangeUnitRecord
  checkpoint : ShapingCheckpointRecord
  applications : List ShapingGapApplication
  record : t.taskRecord context.projectId request.taskId = .ok (some task)

def Accepted.plan {X : External} {context : PlanContext} {t : CoreTables}
    {request : AdvanceTaskRequest} (accepted : Accepted X context t request)
    (admitted : AdmittedTransition) : OperationPlan where
  taskId := request.taskId
  changeUnitId := some request.changeUnitId
  eventKind := "task_advanced_to_implementation"
  descriptor := some admitted.descriptor
  mutations := [.shaping (.applyAdvanceAndTransition (request.application accepted.task
    accepted.checkpoint accepted.changeUnit accepted.applications))]

theorem plan_ok {X : External} {context : PlanContext} {t : CoreTables}
    {request : AdvanceTaskRequest} (h : plan X context t request admitted = .ok result) :
    ∃ accepted : Accepted X context t request, result = accepted.plan admitted := by
  simp only [plan, steps_ok, fromStore_eq_ok] at h
  obtain ⟨_, hrecord, task, rfl, _, _, _, _, _, _, _, _, _, _, checkpoint, rfl, _, _, changeUnit,
    rfl, _, applications, _, _, rfl⟩ := h
  exact ⟨⟨task, changeUnit, checkpoint, applications, hrecord⟩, rfl⟩

end AdvanceTask

namespace FinalizeAdvice

def actionKey : WorkflowActionKey := ⟨.finalizeAdvice, .finalizeAdvice⟩

def coordinatesMatch (request : FinalizeAdviceRequest) :
    WorkflowActionAuthorityCoordinates → Bool
  | .finalizeAdvice taskId checkpointId changeUnitId scopeRevision baselineRef resolutionIds =>
    request.matchesCoordinates taskId checkpointId changeUnitId scopeRevision baselineRef
      resolutionIds
  | _ => false

/-- A user-owned gap of the checkpoint: its resolution, and its application when this method
makes it. -/
structure FinalizedDecision where
  resolutionId : String
  application : Option ShapingGapApplication

def planDecision (X : External) (context : PlanContext) (t : CoreTables)
    (request : FinalizeAdviceRequest) (gap : ShapingCheckpointGapRecord) :
    CoreResult FinalizedDecision := do
  let policy ← okOr (.invariant "advisor decision application policy is missing")
    (gap.row.gapKind.decisionPolicyForMode .advisor)
  ensure (policy.applicationOwner ≠ .updateScope || gap.row.status = .applied)
    (userDecisionUnresolved
      "an advisor scope decision must be applied by update_scope before finalization")
  ensure (policy.applicationOwner ≠ .finalizeAdvice || gap.row.status ∈ [.accepted, .applied])
    (userDecisionUnresolved "every advisor-owned decision must be accepted before finalization")
  let link ← okOr (.invariant "an advisor shaping decision has no UserAction link") gap.userAction
  let resolutionId ← okOr (.invariant "an advisor shaping decision has no resolution link")
    link.userActionResolutionId
  let record ← fromStore (t.userActionRecord context.now link.userActionRequestId)
  let record ← okOr (.invariant
    "an advisor shaping decision references a missing UserAction request") record
  ensure (request.decisionIsExact gap resolutionId policy record) (userDecisionUnresolved
    "an advisor resolution is stale or does not match its exact current gap basis")
  return ⟨resolutionId,
    if policy.applicationOwner = .finalizeAdvice && gap.row.status = .accepted then
      some ⟨shapingDecisionApplicationId X resolutionId .finalizeAdvice, gap.row.shapingGapId,
        resolutionId⟩
    else none⟩

def refsError (message : String) : CoreError := .validation "result_refs" message

def validateAdvisorRefs (t : CoreTables) (request : FinalizeAdviceRequest)
    (refs : List StateRecordRef) (evidenceOnly : Bool) : CoreResult Unit := do
  ensure ((refs.all fun reference => reference.projectId = request.envelope.projectId
      && reference.taskId = some request.taskId)
      && (refs.map fun reference => (reference.recordKind, reference.recordId)).Nodup)
    (refsError "advisor refs must be unique and owned by the exact Task")
  ensure (refs.all fun reference => match reference.recordKind with
      | .changeUnit => !evidenceOnly && reference.recordId = request.changeUnitId
      | .artifact => (t.artifacts.find? reference.recordId).any (·.taskId = request.taskId)
      | .evidenceSummary => (t.evidenceSummaries.find? reference.recordId).any fun row =>
        row.taskId = request.taskId && row.changeUnitId = some request.changeUnitId
      | _ => false)
    (refsError
      "advisor refs must identify current supported artifact, evidence, or Change Unit state")

def planRisks (t : CoreTables) (request : FinalizeAdviceRequest) (riskIds : List String) :
    CoreResult (List ResidualRisk) := do
  requireFresh (!(riskIds.length = request.residualRisks.length && riskIds.Nodup))
  (request.residualRisks.zip riskIds).mapM fun (risk, riskId) => do
    ensure (!Text.isBlank risk.summary && !Text.isBlank risk.consequence)
      (.validation "residual_risks" "residual risk summary and consequence must not be empty")
    validateAdvisorRefs t request risk.sourceRefs false
    return ⟨riskId, Text.trim risk.summary, Text.trim risk.consequence, risk.acceptanceRequired,
      risk.sourceRefs⟩

def applicationRef (context : PlanContext) (request : FinalizeAdviceRequest)
    (applicationId : String) : StateRecordRef :=
  stateRef .shapingDecisionApplication applicationId request.envelope.projectId
    (some request.taskId) (some (context.stateVersion + 1))

def closeBasis (context : PlanContext) (request : FinalizeAdviceRequest) (task : TaskRecord)
    (risks : List ResidualRisk) (applicationIds : List String) : CurrentCloseBasis where
  closeBasisRevision := task.closeBasisRevision + 1
  scopeRevision := request.scopeRevision
  taskId := request.taskId
  changeUnitId := request.changeUnitId
  baselineRef := some request.baselineRef
  resultSummary := Text.trim request.resultSummary
  resultRefs := request.resultRefs
  evidenceRefs := request.evidenceRefs
  evidenceSummaryRef := request.evidenceRefs.find? (·.recordKind = .evidenceSummary)
  residualRisks := risks
  sensitiveCategories := []
  sensitiveActionRequirements := []
  recoveryConstraints := request.recoveryConstraints
  sourceRunRef := none
  shapingCheckpointRef := some (stateRef .shapingCheckpoint request.shapingCheckpointId
    request.envelope.projectId (some request.taskId) (some (context.stateVersion + 1)))
  shapingDecisionApplicationRefs := applicationIds.map (applicationRef context request)
  updatedAt := context.now

def linkedApplications (checkpoint : ShapingCheckpointRecord) :
    List ShapingDecisionApplicationRecord :=
  checkpoint.applications.filter fun application => application.row.authorityStatus = .current
    && application.linkedCheckpointId = some checkpoint.row.shapingCheckpointId

def plan (X : External) (context : PlanContext) (t : CoreTables)
    (request : FinalizeAdviceRequest) (riskIds : List String) (admitted : AdmittedTransition) :
    CoreResult OperationPlan := do
  let task ← fromStore (t.taskRecord context.projectId request.taskId)
  let task ← okOr noActiveTaskError task
  ensure (task.mode = .advisor && task.workPhase = .shaping)
    (.rejected .workflowActionNotAllowed "finalize_advice requires an advisor Task in shaping")
  ensure (task.scopeRevision = request.scopeRevision
      && task.shaping.baselineRef = some request.baselineRef)
    (.validation "operation" "finalize_advice scope_revision and baseline_ref must be current")
  ensure (!Text.isBlank request.resultSummary)
    (.validation "result_summary" "result_summary must not be empty")
  ensure (request.recoveryConstraints.all (!Text.isBlank ·))
    (.validation "recovery_constraints" "recovery constraints must not be empty strings")
  let checkpoint ← fromStore (t.currentShapingCheckpoint X request.taskId)
  let checkpoint ← okOr (.invariant
    "advisor finalization requires a current shaping checkpoint") checkpoint
  ensure (request.checkpointIsExact checkpoint && !checkpoint.gaps.any (·.row.status = .current))
    (.rejected .shapingCheckpointStale
      "finalize_advice requires the exact structurally ready current checkpoint with no unresolved gap")
  let changeUnit ← fromStore (t.currentChangeUnit request.taskId)
  let changeUnit ← okOr (.invariant
    "advisor finalization requires a current non-write Change Unit") changeUnit
  ensure (request.changeUnitIsExact changeUnit
      && advisorCompatibleChangeUnit changeUnit.boundedPaths changeUnit.effectContract)
    (.rejected .changeUnitStale
      "finalize_advice requires the exact current observe-only Change Unit")
  let authority ← fromStore (taskWideShapingAuthority X request.envelope.projectId
    context.stateVersion context.now t task (some changeUnit))
  ensure (!authority.blocksAdvanceApplication) (userDecisionUnresolved
    "task-wide UserAction authority required for advisor finalization is not accepted")
  let decisions ← (checkpoint.gaps.filter (·.row.gapKind.isUserOwned)).mapM
    (planDecision X context t request)
  let linked := linkedApplications checkpoint
  ensure (request.suppliesExactly (linked.map (·.row.userActionResolutionId)
      ++ decisions.map (·.resolutionId)))
    (.validation "user_action_resolution_ids"
      "finalize_advice requires the exact current resolution set")
  validateAdvisorRefs t request request.resultRefs false
  validateAdvisorRefs t request request.evidenceRefs true
  let risks ← planRisks t request riskIds
  let applications := decisions.filterMap (·.application)
  let basis := closeBasis context request task risks
    (linked.map (·.row.shapingDecisionApplicationId)
      ++ applications.map (·.shapingDecisionApplicationId))
  return {
    taskId := request.taskId, changeUnitId := some request.changeUnitId
    eventKind := "advisor_advice_finalized", descriptor := some admitted.descriptor
    mutations := [
      .shaping (.applyAdvisorFinalization
        (request.application task checkpoint changeUnit applications)),
      .task (.updateCloseBasis ⟨task.taskId, basis.closeBasisRevision, some basis⟩),
      .task (.updateScope ⟨task.taskId, none, some .ready, none,
        some (Text.trim request.resultSummary), none, none, none⟩)] }

structure Accepted (X : External) (context : PlanContext) (t : CoreTables)
    (request : FinalizeAdviceRequest) (riskIds : List String) where
  task : TaskRecord
  changeUnit : ChangeUnitRecord
  checkpoint : ShapingCheckpointRecord
  decisions : List FinalizedDecision
  risks : List ResidualRisk
  record : t.taskRecord context.projectId request.taskId = .ok (some task)

namespace Accepted
variable {X : External} {context : PlanContext} {t : CoreTables} {request : FinalizeAdviceRequest}
  {riskIds : List String} (accepted : Accepted X context t request riskIds)

def applications : List ShapingGapApplication := accepted.decisions.filterMap (·.application)

def closeBasis : CurrentCloseBasis :=
  FinalizeAdvice.closeBasis context request accepted.task accepted.risks
    ((linkedApplications accepted.checkpoint).map (·.row.shapingDecisionApplicationId)
      ++ accepted.applications.map (·.shapingDecisionApplicationId))

def plan (admitted : AdmittedTransition) : OperationPlan where
  taskId := request.taskId
  changeUnitId := some request.changeUnitId
  eventKind := "advisor_advice_finalized"
  descriptor := some admitted.descriptor
  mutations := [
    .shaping (.applyAdvisorFinalization (request.application accepted.task accepted.checkpoint
      accepted.changeUnit accepted.applications)),
    .task (.updateCloseBasis ⟨accepted.task.taskId, accepted.closeBasis.closeBasisRevision,
      some accepted.closeBasis⟩),
    .task (.updateScope ⟨accepted.task.taskId, none, some .ready, none,
      some (Text.trim request.resultSummary), none, none, none⟩)]

end Accepted

theorem plan_ok {X : External} {context : PlanContext} {t : CoreTables}
    {request : FinalizeAdviceRequest} {riskIds : List String}
    (h : plan X context t request riskIds admitted = .ok result) :
    ∃ accepted : Accepted X context t request riskIds, result = accepted.plan admitted := by
  simp only [plan, steps_ok, fromStore_eq_ok] at h
  obtain ⟨_, hrecord, task, rfl, _, _, _, _, _, _, checkpoint, rfl, _, _, _, changeUnit, rfl, _, _,
    _, _, decisions, _, _, _, _, _, _, risks, _, rfl⟩ := h
  exact ⟨⟨task, changeUnit, checkpoint, decisions, risks, hrecord⟩, rfl⟩

end FinalizeAdvice
end Volicord
