import Volicord.Core.EvidenceFacts
import Volicord.Core.WriteTicket

/-! `close_readiness/`: the facts a terminal transition is judged on, and the blockers that
stand against it. -/
namespace Volicord
open Result

structure CloseReadinessRequest where
  taskId : String
  intent : CloseIntent
  supersedingTaskId : Option String

structure CloseReadinessFacts where
  task : TaskRecord
  changeUnit : Option ChangeUnitRecord
  basis : Option CurrentCloseBasis
  userActions : List StoredUserActionRecordSet
  evidenceItems : List EvidenceCoverageItem
  requiredCriterionIds : List String
  unresolvedUnrecordedChanges : List UnrecordedChangeRecord
  policy : CoreWorkflowPolicy
  controlUpdate : Option TaskControlLevelUpdate

def blockerIf (condition : Bool) (code message : String) : List CloseReadinessBlocker :=
  if condition then [⟨code, message⟩] else []

@[simp] theorem blockerIf_eq_nil {condition : Bool} {code message : String} :
    blockerIf condition code message = [] ↔ condition = false := by
  cases condition <;> simp [blockerIf]

/- `close_readiness/policy.rs`. -/

def ChangeUnitEffectContract.hasSensitiveEffect (contract : ChangeUnitEffectContract) : Bool :=
  !contract.sensitiveActionExpectations.isEmpty
  || contract.allowedEffects.any (· ∈ [.sensitiveAction, .externalNetwork, .secretAccess])

/-- `resolve_control`: the Task at the level it closes under, and the update that records it. -/
def resolveCloseControl (task : TaskRecord) (changeUnit : Option ChangeUnitRecord)
    (policy : CoreWorkflowPolicy) : TaskRecord × Option TaskControlLevelUpdate :=
  let resolved := resolveTaskControlAuthority task policy
  let sensitiveEffect := (changeUnit.bind (·.effectContract)).any (·.hasSensitiveEffect)
  let nextControl := if sensitiveEffect then .sensitive else resolved.effectiveControlLevel
  let nextAcceptance := maxAcceptancePolicy resolved.acceptancePolicy
    (acceptancePolicyForControl nextControl policy)
  let acceptanceRaised : Bool := task.acceptancePolicy.rank < nextAcceptance.rank
  let controlRaised : Bool := task.effectiveControlLevel < nextControl
  if controlRaised || acceptanceRaised then
    let reason :=
      if sensitiveEffect && controlRaised then
        "Core raised control to `sensitive` for the current Change Unit effect contract."
      else if controlRaised then resolved.controlLevelReason
      else task.controlLevelReason
    let acceptanceReason :=
      if nextControl = resolved.effectiveControlLevel && resolved.acceptanceRaised then
        resolved.acceptancePolicyReason
      else "Effective control `" ++ nextControl.asStr
        ++ "` requires final acceptance for the current close basis."
    ({ task with
        effectiveControlLevel := nextControl, controlLevelReason := reason
        acceptancePolicy := if acceptanceRaised then nextAcceptance else task.acceptancePolicy
        acceptancePolicyReason :=
          if acceptanceRaised then acceptanceReason else task.acceptancePolicyReason },
      some ⟨task.taskId, nextControl, reason,
        if acceptanceRaised then some nextAcceptance else none,
        if acceptanceRaised then some acceptanceReason else none⟩)
  else (task, none)

/- `evidence_facts.rs` and `policy/close_readiness_evidence.rs`: the evidence summary at close. -/

variable (context : PlanContext) (t : CoreTables) (taskId : String)

def CoreTables.sanitizeEvidenceArtifactRef (reference : ArtifactRef) : ArtifactRef :=
  if reference.projectId ≠ context.projectId || reference.taskId ≠ taskId then
    { reference with availability := .unusable }
  else match t.artifacts.find? reference.artifactId with
    | none => { reference with availability := .missing }
    | some record => record.refFromVerifiedRecord context

/-- The summary was written by a Run of another scope than the current one. -/
def CoreTables.evidenceScopeIsStale (task : TaskRecord) (record : EvidenceSummaryRecord) : Bool :=
  !(t.runs.find? record.updatedByRunId).any fun run =>
    run.taskId = task.taskId && run.scopeRevision = task.scopeRevision
    && run.changeUnitId = task.currentChangeUnitId
    && record.changeUnitId = task.currentChangeUnitId

def CoreTables.closeEvidenceItem (task : TaskRecord) (scopeIsStale : Bool)
    (item : EvidenceCoverageItem) : EvidenceCoverageItem :=
  let artifactRefs := item.supportingArtifactRefs.map
    (t.sanitizeEvidenceArtifactRef context task.taskId)
  { item with
    supportingArtifactRefs := artifactRefs
    coverageState :=
      if item.coverageState = .supported
          && (scopeIsStale || artifactRefs.any (!·.verifiedAvailable)) then .stale
      else item.coverageState }

def unsupportedCriterionItem (acceptanceCriterionId : String) : EvidenceCoverageItem :=
  ⟨.acceptanceCriterion acceptanceCriterionId, .unsupported, [], [], [], []⟩

/-- `project_close_evidence_summary`: the items of the summary, and an unsupported one for each
required criterion it does not name. -/
def CoreTables.closeEvidenceItems (task : TaskRecord) (record : Option EvidenceSummaryRecord)
    (requiredCriterionIds : List String) : List EvidenceCoverageItem :=
  let items := record.elim [] fun record =>
    record.coverage.map (t.closeEvidenceItem context task (t.evidenceScopeIsStale task record))
  items ++ (requiredCriterionIds.filter fun id =>
    !items.any (·.target = .acceptanceCriterion id)).map unsupportedCriterionItem

/- `close_readiness/facts.rs`. -/

/-- `acquire_close_readiness_facts`, with the control level resolved. -/
def acquireCloseReadinessFacts (X : External) (context : PlanContext) (t : CoreTables)
    (taskId : String) : CoreResult CloseReadinessFacts := do
  let task ← fromStore (t.taskRecord context.projectId taskId)
  let task ← okOr noActiveTaskError task
  let changeUnit ← fromStore (t.currentChangeUnit taskId)
  let userActions ← fromStore (t.userActionHistoryForTask context.now taskId)
  let record := (task.closeBasis.bind (·.evidenceSummaryRef)).bind fun reference =>
    t.evidenceSummaries.find? reference.recordId
  let requiredCriterionIds := ((t.activeAcceptanceCriteria taskId).filter
    (·.evidenceRequirement = .required)).map (·.acceptanceCriterionId)
  let policy ← fromStore (t.projectWorkflowPolicy X)
  let (resolvedTask, controlUpdate) := resolveCloseControl task changeUnit policy
  return {
    task := resolvedTask
    changeUnit := changeUnit
    basis := task.closeBasis
    userActions := userActions
    evidenceItems := t.closeEvidenceItems context task record requiredCriterionIds
    requiredCriterionIds := requiredCriterionIds
    unresolvedUnrecordedChanges := t.unrecordedChanges.rows.filter (!·.resolved)
    policy := policy
    controlUpdate := controlUpdate }

namespace CloseReadinessFacts
variable (facts : CloseReadinessFacts)

def currentChangeUnitId : Option String := facts.changeUnit.map (·.changeUnitId)

def baselineRef : Option String := (StoredScope.fromTask facts.task).baselineRef

def pending : List StoredUserActionRecordSet := facts.userActions.filter (·.status = .pending)

/-- `resolved_user_action_facts`. -/
def resolved (kind : UserActionKind) : List StoredUserActionRecordSet :=
  facts.userActions.filter fun record =>
    record.request.actionKind = kind && record.status = .resolved

/-- `non_current_user_action_refs` is not empty. -/
def hasNonCurrent (kind : UserActionKind) : Bool :=
  facts.userActions.any fun record =>
    record.request.actionKind = kind && record.status ∈ [.stale, .superseded]

end CloseReadinessFacts

/- `close_readiness/change_control.rs`. -/

/-- `load_evaluated_stored_write_tickets`: the tickets a Run could still consume. -/
def CoreTables.reusableWriteTickets (task : TaskRecord) (policy : CoreWorkflowPolicy)
    (userActions : List StoredUserActionRecordSet) : List StoredWriteTicket :=
  let resolved := resolveTaskControlAuthority task policy
  let approvals := userActions.filter fun record =>
    record.request.actionKind = .sensitiveApproval && record.status = .resolved
  (t.activeWriteTickets task.taskId).filter fun ticket =>
    let requirement : WriteTicketApprovalRequirement :=
      ⟨task.scopeRevision, resolved.effectiveControlLevel, ticket.attemptScope, context.now⟩
    !writeTicketIsIdleExpired ticket.idleExpiresAt context.now
    && !resolved.pendingPolicyReevaluation
    && (evaluateActiveCandidate policy.writeAuthorityFingerprint
      (assessWriteTicketApproval context.projectId requirement approvals
        ticket.validityBasis.approvalBasisRefs) ticket).isNone

variable (request : CloseReadinessRequest) (facts : CloseReadinessFacts)

/-- `terminal_blockers` of change control. The tickets are loaded from the stored Task. -/
def changeControlTerminalBlockers :
    CoreResult (List CloseReadinessBlocker) := do
  let replacement ← match request.supersedingTaskId with
    | none => pure none
    | some taskId => fromStore (t.taskRecord context.projectId taskId)
  let tickets := (t.taskRow request.taskId).elim [] fun stored =>
    t.reusableWriteTickets context stored facts.policy facts.userActions
  return blockerIf (facts.task.lifecyclePhase.terminal
        || t.activeTaskId.any (· ≠ request.taskId)) "task_not_closeable"
      "The addressed Task is not the current non-terminal Task."
    ++ blockerIf (request.intent = .supersede && replacement.all (·.lifecyclePhase.terminal))
      "task_not_closeable" "superseding_task_id must identify a non-terminal Task in this project."
    ++ blockerIf (facts.changeUnit.any (·.recoveryRequired)) "recovery_required"
      "A recovery constraint or active blocker must be resolved before this terminal transition."
    ++ if request.intent ∈ [.check, .complete] then tickets.map fun _ =>
        ⟨"open_write_ticket", "An open write ticket remains unresolved for this Task."⟩
      else []

variable (basis : CurrentCloseBasis)

def closeBasisIsCurrent (taskId : String) (currentChangeUnitId : Option String)
    (scopeRevision closeBasisRevision : Nat) (baselineRef : Option String) : Bool :=
  basis.taskId = taskId && currentChangeUnitId = some basis.changeUnitId
  && basis.scopeRevision = scopeRevision && basis.closeBasisRevision = closeBasisRevision
  && basis.baselineRef = baselineRef

def closeBasisRunRefs : List StateRecordRef :=
  (basis.sourceRunRef.toList ++ basis.resultRefs
    ++ basis.residualRisks.flatMap (·.sourceRefs)).filter (·.recordKind = .run)

def runRefIsIncompatible (changeUnitId : String) (reference : StateRecordRef) : Bool :=
  reference.projectId ≠ context.projectId || reference.taskId ≠ some request.taskId
  || !(t.runs.find? reference.recordId).any fun run =>
    run.matchesContext request.taskId changeUnitId facts.task.scopeRevision facts.baselineRef

def currentCloseBasisBlocker : List CloseReadinessBlocker :=
  match facts.basis with
  | none => [⟨"missing_current_close_basis",
      if facts.task.mode = .advisor then
        "Completion requires the current advice to be finalized by volicord.finalize_advice."
      else "Completion requires a current close basis recorded by volicord.record_run."⟩]
  | some basis =>
    if !closeBasisIsCurrent basis request.taskId facts.currentChangeUnitId
        facts.task.scopeRevision facts.task.closeBasisRevision facts.baselineRef then
      [⟨"stale_current_close_basis",
        "The current close basis is stale against current Task scope."⟩]
    else blockerIf (facts.task.mode ≠ .advisor && facts.currentChangeUnitId.any fun id =>
        (closeBasisRunRefs basis).any (runRefIsIncompatible context t request facts id))
      "stale_current_close_basis"
      "The current close basis contains Run refs that are not current for the Task scope."

def completionScopeBlockers : List CloseReadinessBlocker :=
  blockerIf (facts.changeUnit.all fun row => row.status ≠ .active || !row.isCurrent)
    "missing_active_change_unit" "Completion requires a current active Change Unit."
  ++ currentCloseBasisBlocker context t request facts

def completionBasisBlockers : List CloseReadinessBlocker :=
  blockerIf (facts.basis.any (·.baselineRef ≠ facts.baselineRef)) "baseline_stale"
    "The current close basis is stale against the current baseline."
  ++ blockerIf (facts.basis.any (!·.recoveryConstraints.isEmpty)) "recovery_required"
    "The current close basis records recovery constraints that must be resolved."

def unrecordedChangeBlockers : List CloseReadinessBlocker :=
  blockerIf (!facts.unresolvedUnrecordedChanges.isEmpty) "unresolved_unrecorded_changes"
    "Observed Product Repository changes still need reconciliation."

/- `close_readiness/evidence.rs`. -/

inductive CloseEvidenceIssueKind where
  | missing | unsupported | stale | agentReportOnly | insufficientProvenance
deriving DecidableEq

inductive CloseEvidenceObservationDisposition where
  | strongSupported | unsupportedRelevance | cooperativeAgentReport | weak | stale
deriving DecidableEq

def EvidenceCoverageItem.hasNoSupport (item : EvidenceCoverageItem) : Bool :=
  item.supportingRunRefs.isEmpty && item.observationRefs.isEmpty
  && item.supportingArtifactRefs.isEmpty && item.gapRefs.isEmpty

/-- `interpret_close_evidence_item`, for an item of a required criterion. -/
def interpretCloseEvidenceItem (item : EvidenceCoverageItem) (hasCurrentCloseBasis : Bool)
    (dispositions : List CloseEvidenceObservationDisposition) : Option CloseEvidenceIssueKind :=
  if item.coverageState ≠ .supported then
    some (if item.coverageState = .stale then .stale
      else if item.hasNoSupport then .missing else .unsupported)
  else if !hasCurrentCloseBasis then some .missing
  else if dispositions.isEmpty then some .insufficientProvenance
  else if dispositions.contains .strongSupported then none
  else if dispositions.contains .unsupportedRelevance then some .unsupported
  else
    let hasCooperative := dispositions.contains .cooperativeAgentReport
    let hasWeak := dispositions.contains .weak
    let hasStale := dispositions.contains .stale
    some (if hasCooperative && !hasWeak then .agentReportOnly
      else if hasStale && !hasCooperative && !hasWeak then .stale
      else .insufficientProvenance)

/-- `stored_observation_matches_close_basis`. -/
def EvidenceObservationRecord.matchesCloseBasis (record : EvidenceObservationRecord)
    (basis : CurrentCloseBasis) (target : EvidenceTarget) : Bool :=
  record.changeUnitId = some basis.changeUnitId
  && (basis.sourceRunRef.any fun source => record.runId = some source.recordId)
  && record.targetMatches target

/-- `stored_evidence_observation_capture_relevance`, when it does not support. -/
def EvidenceObservationRecord.captureRelevanceUnsupported (record : EvidenceObservationRecord) :
    Bool :=
  record.producerAnchor.producerKind ∈ [.verifiedToolInvocation, .verifiedCommandExecution]
  && record.relevanceAssessment.status ≠ .supported

def closeObservationBasis (target : EvidenceTarget) : EvidenceObservationBasis where
  projectId := context.projectId
  taskId := taskId
  changeUnitId := basis.changeUnitId
  scopeRevision := basis.scopeRevision
  baselineRef := basis.baselineRef
  target := target
  now := context.now

def closeObservationDisposition (target : EvidenceTarget) (reference : StateRecordRef) :
    CoreResult CloseEvidenceObservationDisposition :=
  if !reference.belongsTo .evidenceObservation context.projectId taskId then .ok .weak
  else if (basis.evidenceSummaryRef.bind (·.producedAtStateVersion)).any
      (reference.producedAtStateVersion ≠ some ·) then .ok .stale
  else match t.evidenceObservations.find? reference.recordId with
    | none => .ok .weak
    | some record =>
      if record.taskId ≠ taskId || !record.matchesCloseBasis basis target then .ok .stale
      else if record.captureRelevanceUnsupported then .ok .unsupportedRelevance
      else do
        let provenance ← t.provenanceClass context
          (closeObservationBasis context taskId basis target) record
        return match provenance with
          | .strong => .strongSupported
          | .cooperativeAgentReport => .cooperativeAgentReport
          | .weak => .weak

/-- `evidence_target_required_by`. -/
def EvidenceTarget.requiredBy (requiredCriterionIds : List String) : EvidenceTarget → Bool
  | .acceptanceCriterion id => requiredCriterionIds.contains id
  | .supplementalClaim _ _ => false

def closeEvidenceIssueForItem (item : EvidenceCoverageItem) :
    CoreResult (Option CloseEvidenceIssueKind) :=
  if !item.target.requiredBy facts.requiredCriterionIds then .ok none
  else match facts.basis with
    | none => .ok (interpretCloseEvidenceItem item false [])
    | some basis =>
      if item.coverageState ≠ .supported || item.observationRefs.isEmpty then
        .ok (interpretCloseEvidenceItem item true [])
      else do
        let dispositions ← item.observationRefs.mapM
          (closeObservationDisposition context t taskId basis item.target)
        return interpretCloseEvidenceItem item true dispositions

def evidenceIssueBlocker : CloseEvidenceIssueKind → CloseReadinessBlocker
  | .missing => ⟨"evidence_claim_missing",
      "One or more required close evidence claims are missing."⟩
  | .unsupported => ⟨"evidence_claim_unsupported",
      "One or more required close evidence claims are unsupported."⟩
  | .stale => ⟨"evidence_provenance_stale",
      "Evidence provenance exists but is stale against the current close basis."⟩
  | .agentReportOnly => ⟨"evidence_agent_report_only",
      "Required close evidence is supported only by cooperative agent reports."⟩
  | .insufficientProvenance => ⟨"evidence_provenance_insufficient",
      "Required close evidence lacks sufficient source provenance."⟩

/-- `close_evidence_blockers`: one for each kind of issue. -/
def closeEvidenceBlockers :
    CoreResult (List CloseReadinessBlocker) := do
  let issues ← facts.evidenceItems.mapM (closeEvidenceIssueForItem context t taskId facts)
  let kinds : List CloseEvidenceIssueKind :=
    [.missing, .unsupported, .stale, .agentReportOnly, .insufficientProvenance]
  return (kinds.filter fun kind => issues.contains (some kind)).map evidenceIssueBlocker

/-- A supporting artifact of a required criterion cannot be relied on. -/
def CoreTables.evidenceArtifactUnavailable (reference : ArtifactRef) : Bool :=
  reference.availability ≠ .available
  || !(t.artifacts.find? reference.artifactId).any fun record =>
    record.taskId = taskId && record.verifiedCurrent context
    && reference.integrityStatus = .verified && record.sha256 = reference.sha256
    && record.sizeBytes = reference.sizeBytes
    && record.redactionState = reference.redactionState
    && t.artifactHasTaskOwnerLink reference.artifactId taskId

/-- `close_basis_artifact_ref_unavailable`. -/
def CoreTables.basisArtifactUnavailable (reference : StateRecordRef) : Bool :=
  !(t.artifacts.find? reference.recordId).any fun record =>
    record.taskId = taskId && record.verifiedCurrent context
    && t.artifactHasTaskOwnerLink reference.recordId taskId

/-- `unavailable_close_artifact_refs` is not empty. -/
def closeArtifactUnavailable : Bool :=
  ((facts.evidenceItems.filter (·.target.requiredBy facts.requiredCriterionIds)).any fun item =>
    item.supportingArtifactRefs.any (t.evidenceArtifactUnavailable context taskId))
  || facts.basis.any fun basis =>
    ((basis.resultRefs ++ basis.residualRisks.flatMap (·.sourceRefs)).filter
      (·.recordKind = .artifact)).any (t.basisArtifactUnavailable context taskId)

/-- `completion_blockers` of evidence. -/
def completionEvidenceBlockers :
    CoreResult (List CloseReadinessBlocker) := do
  let blockers ← closeEvidenceBlockers context t taskId facts
  return blockers ++ blockerIf (closeArtifactUnavailable context t taskId facts)
    "artifact_unavailable"
    "A required close artifact is missing, unavailable, or incompatible with storage."

/- `close_readiness/acceptance.rs`. -/

def closeOperationRefs : List StateRecordRef :=
  let reference (kind : StateRecordKind) (recordId : String) : StateRecordRef :=
    stateRef kind recordId context.projectId (some request.taskId) (some context.stateVersion)
  [reference .task request.taskId]
  ++ (facts.changeUnit.map fun row => reference .changeUnit row.changeUnitId).toList
  ++ facts.basis.elim [] fun basis => basis.resultRefs ++ basis.evidenceSummaryRef.toList
    ++ basis.residualRisks.flatMap (·.sourceRefs)

def closeApprovalRequirement
    (requirement : SensitiveActionRequirement) : SensitiveApprovalRequirement where
  taskId := request.taskId
  changeUnitId := requirement.changeUnitId
  scopeRevision := facts.task.scopeRevision
  operation := requirement.actionKind
  normalizedPaths := requirement.normalizedPaths
  sensitiveCategories := requirement.sensitiveCategories
  baselineRef := requirement.baselineRef
  requiredFor := .closeComplete
  now := context.now

def pendingBlocksClose (operation : UserActionOperation)
    (record : StoredUserActionRecordSet) : Bool :=
  let blocks (sensitiveApproval : Option SensitiveApprovalRequirement) : Bool :=
    record.blocksOperation
      { operation := operation, taskId := request.taskId
        changeUnitId := facts.currentChangeUnitId, scopeRevision := facts.task.scopeRevision
        closeBasis := facts.basis, operationRefs := closeOperationRefs context request facts
        sensitiveApproval := sensitiveApproval }
  if operation = .closeComplete && record.request.actionKind = .sensitiveApproval then
    facts.basis.any fun basis => basis.sensitiveActionRequirements.any fun requirement =>
      blocks (some (closeApprovalRequirement context request facts requirement))
  else blocks none

def cancellationAuthorityBlocker : List CloseReadinessBlocker :=
  let authorities := (facts.resolved .cancellation).filter
    (·.request.requiredFor.contains .closeCancel)
  let isCurrent (record : StoredUserActionRecordSet) : Bool :=
    let coordinates := record.request.basis.coordinates
    record.hasCurrentBasis && coordinates.taskId = request.taskId
    && coordinates.scopeRevision = facts.task.scopeRevision
    && coordinates.changeUnitId = facts.currentChangeUnitId
  let isRejection (record : StoredUserActionRecordSet) : Bool :=
    record.verifiedUserChannelProvenance
    && record.resolution.any fun resolution => match resolution.resolution with
      | .choice _ _ outcome _ _ => outcome = .rejected
      | .evidenceObservation _ => false
  if authorities.any (·.currentCancellationAuthority request.taskId facts.currentChangeUnitId
      facts.task.scopeRevision) then []
  else if authorities.any fun record => isCurrent record && isRejection record then
    [⟨"rejected_cancellation_authority",
      "The current user cancellation resolution rejected cancellation."⟩]
  else if authorities.any (!isCurrent ·) || facts.hasNonCurrent .cancellation then
    [⟨"stale_cancellation_authority",
      "The available cancellation resolution is stale or incompatible with the current Task scope."⟩]
  else [⟨"missing_cancellation_authority",
    "Cancelling the Task requires a current accepted user cancellation resolution."⟩]

/-- `terminal_blockers` of acceptance. -/
def acceptanceTerminalBlockers : List CloseReadinessBlocker :=
  match request.intent with
  | .cancel => cancellationAuthorityBlocker request facts
  | .supersede => blockerIf
      (facts.pending.any (pendingBlocksClose context request facts .closeSupersede))
      "pending_user_action"
      "A user action required before superseding this Task is still pending."
  | .check | .complete => []

def sensitiveRequirements : List SensitiveActionRequirement :=
  facts.basis.elim [] (·.sensitiveActionRequirements)

def hasCurrentSensitiveApprovalForClose : Bool :=
  facts.basis.any fun basis => !basis.sensitiveActionRequirements.isEmpty
    && basis.sensitiveActionRequirements.all fun requirement =>
      requirement.changeUnitId = basis.changeUnitId
      && (facts.resolved .sensitiveApproval).any
        (·.currentSensitiveApproval (closeApprovalRequirement context request facts requirement))

def completionAuthorityBlockers : List CloseReadinessBlocker :=
  let isSensitive : Bool := facts.task.effectiveControlLevel = .sensitive
  let basisMissing := (sensitiveRequirements facts).isEmpty
  blockerIf (facts.pending.any (pendingBlocksClose context request facts .closeComplete))
    "pending_user_action" "A user action required before close is still pending."
  ++ if isSensitive && basisMissing then
      [⟨"missing_sensitive_action_basis",
        "The effective sensitive Task has no ticket-backed sensitive-action basis for close."⟩]
    else blockerIf ((isSensitive || !basisMissing)
        && !hasCurrentSensitiveApprovalForClose context request facts)
      "missing_sensitive_approval"
      "A documented sensitive-action approval required for close is missing."

def lightRunIsAuthorized (basis : CurrentCloseBasis) (run : RunRecord) : Bool :=
  let changes := run.observedChanges
  changes.sensitiveCategories.isEmpty
  && (!changes.productFileWriteObserved
    || (facts.policy.lightPathsAreAllowed changes.changedPaths
      && run.scopeRevision = facts.task.scopeRevision
      && run.changeUnitId = some basis.changeUnitId && changes.baselineRef = basis.baselineRef
      && (t.writeTickets.rows.find? fun ticket => ticket.taskId = facts.task.taskId
          && ticket.status = .consumed && ticket.consumedByRunId = some run.runId).any fun ticket =>
        ticket.validityBasis.taskId = facts.task.taskId
        && ticket.validityBasis.changeUnitId = basis.changeUnitId
        && ticket.validityBasis.scopeRevision = facts.task.scopeRevision
        && ticket.validityBasis.baselineRef = basis.baselineRef
        && pathsAreAuthorized changes.changedPaths (ticket.pathScope.allowed.map (·.text))
        && !changes.changedPaths.any fun path =>
          ticket.pathScope.denied.any fun denied => pathIsWithin path denied.text))

def lightCompletionWithoutAcceptanceAllowed (hasEvidenceBlockers : Bool) : Bool :=
  facts.task.effectiveControlLevel = .light
  && facts.basis.any fun basis =>
    facts.policy.settings.light.enabled
    && facts.policy.settings.light.finalAcceptance ≠ .required
    && facts.pending.isEmpty && !basis.residualRisks.any (·.acceptanceRequired)
    && basis.sensitiveCategories.isEmpty && basis.sensitiveActionRequirements.isEmpty
    && facts.unresolvedUnrecordedChanges.isEmpty && !hasEvidenceBlockers
    && (t.runs.rows.filter (·.taskId = facts.task.taskId)).all
      (lightRunIsAuthorized t facts basis)

def finalAcceptanceRequired (hasEvidenceBlockers : Bool) : Bool :=
  match facts.task.effectiveControlLevel with
  | .observe => facts.task.mode = .advisor
  | .tracked | .sensitive => true
  | .light => facts.task.acceptancePolicy = .required
    || !lightCompletionWithoutAcceptanceAllowed t facts hasEvidenceBlockers

/-- The identity of a result ref in `policy/close_readiness.rs`, which leaves the Task out. -/
def resultRefsMatch (left right : List StateRecordRef) : Bool :=
  let identity (reference : StateRecordRef) :=
    (reference.projectId, reference.recordKind, reference.recordId)
  (left.map identity).isPerm (right.map identity)

def currentFinalAcceptance (record : StoredUserActionRecordSet) : Bool :=
  let coordinates := record.request.basis.coordinates
  record.acceptedCurrentUserAuthority .finalAcceptance
  && record.request.requiredFor.contains .closeComplete
  && coordinates.taskId = basis.taskId && coordinates.changeUnitId = some basis.changeUnitId
  && coordinates.scopeRevision = basis.scopeRevision
  && record.request.basis.closeBasisRevision = some basis.closeBasisRevision
  && coordinates.baselineRef = basis.baselineRef
  && resultRefsMatch record.request.basis.resultRefs basis.resultRefs

/-- `current_residual_risk_acceptance_covers`. -/
def residualRiskAcceptanceCovers (riskId : String) (record : StoredUserActionRecordSet) : Bool :=
  record.acceptedCurrentUserAuthority .residualRiskAcceptance
  && record.request.requiredFor.contains .closeComplete
  && residualRiskBasisMatchesCurrent record.request.basis basis
  && record.resolution.any fun resolution => match resolution.resolution with
    | .choice _ _ _ _ acceptedRiskIds =>
      acceptedRiskIds.all record.request.basis.residualRiskIds.contains
      && acceptedRiskIds.contains riskId
    | .evidenceObservation _ => false

def residualRiskUncovered : Bool :=
  facts.basis.any fun basis => basis.residualRisks.any fun risk => risk.acceptanceRequired
    && !(facts.resolved .residualRiskAcceptance).any
      (residualRiskAcceptanceCovers basis risk.riskId)

def completionAcceptanceBlockers (hasEvidenceBlockers : Bool) :
    List CloseReadinessBlocker :=
  let accepted := facts.basis.any fun basis =>
    (facts.resolved .finalAcceptance).any (currentFinalAcceptance basis)
  (if !finalAcceptanceRequired t facts hasEvidenceBlockers || accepted then []
    else if facts.basis.isSome && facts.hasNonCurrent .finalAcceptance then
      [⟨"stale_final_acceptance",
        "The available final acceptance is stale or incompatible with the current close basis."⟩]
    else [⟨"missing_final_acceptance",
      "Final acceptance is required before completing the Task."⟩])
  ++ if !residualRiskUncovered facts then []
    else if facts.hasNonCurrent .residualRiskAcceptance then
      [⟨"stale_residual_risk_acceptance",
        "The available residual-risk acceptance is stale or incompatible with the current close basis."⟩]
    else [⟨"missing_residual_risk_acceptance",
      "Visible residual risk requires distinct residual-risk acceptance."⟩]

/- `close_readiness/service.rs`. -/

def completionBlockers : CoreResult (List CloseReadinessBlocker) := do
  let evidence ← completionEvidenceBlockers context t request.taskId facts
  return completionScopeBlockers context t request facts
    ++ completionAuthorityBlockers context request facts
    ++ completionBasisBlockers facts
    ++ evidence
    ++ completionAcceptanceBlockers t facts !evidence.isEmpty

/-- `evaluate_close_readiness_with_facts`. -/
def closeBlockers : CoreResult (List CloseReadinessBlocker) := do
  let terminal ← changeControlTerminalBlockers context t request facts
  let completion ← if request.intent ∈ [.check, .complete] then
      completionBlockers context t request facts
    else pure []
  return terminal ++ acceptanceTerminalBlockers context request facts ++ completion
    ++ unrecordedChangeBlockers facts

/- What a close without blockers has passed. -/

structure CompletionClear : Prop where
  scope : completionScopeBlockers context t request facts = []
  authority : completionAuthorityBlockers context request facts = []
  basis : completionBasisBlockers facts = []
  evidence : completionEvidenceBlockers context t request.taskId facts = .ok []
  acceptance : completionAcceptanceBlockers t facts false = []

section
variable {context : PlanContext} {t : CoreTables} {request : CloseReadinessRequest}
  {facts : CloseReadinessFacts}

theorem completionBlockers_clear (h : completionBlockers context t request facts = .ok []) :
    CompletionClear context t request facts := by
  simp only [completionBlockers, steps_ok, List.append_eq_nil_iff] at h
  obtain ⟨evidence, hevidence, ⟨⟨⟨hscope, hauthority⟩, hbasis⟩, rfl⟩, hacceptance⟩ := h
  exact ⟨hscope, hauthority, hbasis, hevidence, hacceptance⟩

theorem closeBlockers_clear (h : closeBlockers context t request facts = .ok []) :
    changeControlTerminalBlockers context t request facts = .ok [] ∧
      acceptanceTerminalBlockers context request facts = [] ∧
      (request.intent = .complete → CompletionClear context t request facts) ∧
      unrecordedChangeBlockers facts = [] := by
  obtain ⟨terminal, hterminal, h⟩ := bind_eq_ok.mp h
  obtain ⟨completion, hcompletion, h⟩ := ite_bind_eq_ok.mp h
  simp only [pure_eq_ok, List.append_eq_nil_iff] at h
  obtain ⟨⟨⟨rfl, hacceptance⟩, rfl⟩, hunrecorded⟩ := h
  refine ⟨hterminal, hacceptance, fun hintent => ?_, hunrecorded⟩
  rw [if_pos (by simp [hintent])] at hcompletion
  exact completionBlockers_clear hcompletion

end

theorem acquireCloseReadinessFacts_ok {X : External} {context : PlanContext} {t : CoreTables}
    {taskId : String} {facts : CloseReadinessFacts}
    (h : acquireCloseReadinessFacts X context t taskId = .ok facts) :
    ∃ task policy, t.taskRecord context.projectId taskId = .ok (some task) ∧
      t.currentChangeUnit taskId = .ok facts.changeUnit ∧
      t.userActionHistoryForTask context.now taskId = .ok facts.userActions ∧
      t.projectWorkflowPolicy X = .ok policy ∧ facts.policy = policy ∧
      facts.basis = task.closeBasis ∧
      (facts.task, facts.controlUpdate) = resolveCloseControl task facts.changeUnit policy ∧
      facts.requiredCriterionIds = ((t.activeAcceptanceCriteria taskId).filter
        (·.evidenceRequirement = .required)).map (·.acceptanceCriterionId) ∧
      facts.evidenceItems = t.closeEvidenceItems context task
        ((task.closeBasis.bind (·.evidenceSummaryRef)).bind fun reference =>
          t.evidenceSummaries.find? reference.recordId) facts.requiredCriterionIds ∧
      facts.unresolvedUnrecordedChanges = t.unrecordedChanges.rows.filter (!·.resolved) := by
  simp only [acquireCloseReadinessFacts, steps_ok, fromStore_eq_ok] at h
  obtain ⟨_, htask, task, rfl, changeUnit, hunit, userActions, hactions, policy, hpolicy, rfl⟩ := h
  exact ⟨task, policy, htask, hunit, hactions, hpolicy, rfl, rfl, rfl, rfl, rfl, rfl⟩

end Volicord
