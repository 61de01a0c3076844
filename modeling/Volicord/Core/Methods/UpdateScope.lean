import Volicord.Core.Admission

/-! `methods/update_scope.rs`: the scope of a Task, its acceptance criteria and its current
Change Unit change together with the authority that was given on the old scope. -/
namespace Volicord
open Result

structure AcceptanceCriterionReplacement where
  acceptanceCriterionId : Option String
  statement : String
  evidenceRequirement : EvidenceRequirement

structure ChangeUnitUpdate where
  operation : ChangeUnitOperation
  effectContract : Option ChangeUnitEffectContract
  affectedPaths : List String

structure UpdateScopeRequest where
  envelope : ToolEnvelope
  taskId : String
  (goalSummary scopeBoundary : Option String)
  nonGoals : Option (List String)
  acceptanceCriteria : Option (List AcceptanceCriterionReplacement)
  (autonomyBoundary baselineRef : Option String)
  changeUnit : ChangeUnitUpdate
  relatedScopeDecisionRefs : List StateRecordRef

structure UpdateScopeIds where
  changeUnitId : String
  acceptanceCriterionIds : List String

/-- `validate_effect_contract`: the message and the field of the first failure. -/
def validateEffectContract (contract : ChangeUnitEffectContract) : CoreResult Unit := do
  ensure (contract.allowedEffects.all fun effect => !contract.forbiddenEffects.contains effect)
    (.validation "change_unit.effect_contract"
      "effect_contract cannot list the same effect as both allowed and forbidden")
  let nonempty field (values : List String) : CoreResult Unit :=
    ensure (values.all (!Text.isBlank ·))
      (.validation field "effect_contract string list entries must not be empty")
  nonempty "allowed_paths" contract.allowedPaths
  nonempty "expected_outputs" contract.expectedOutputs
  nonempty "invariants" contract.invariants
  nonempty "evidence_expectations" contract.evidenceExpectations
  nonempty "sensitive_action_expectations" contract.sensitiveActionExpectations

def ChangeUnitEffectContract.sensitiveEffect (contract : ChangeUnitEffectContract) : Bool :=
  !contract.sensitiveActionExpectations.isEmpty
  || contract.allowedEffects.any (· ∈ [.sensitiveAction, .externalNetwork, .secretAccess])

def StoredScope.applyRequest (scope : StoredScope) (request : UpdateScopeRequest) : StoredScope :=
  StoredScope.normalized
    { goalSummary := request.goalSummary <|> scope.goalSummary
      scopeSummary := request.scopeBoundary <|> scope.scopeSummary
      nonGoals := request.nonGoals.getD scope.nonGoals
      autonomyBoundary := request.autonomyBoundary <|> scope.autonomyBoundary
      baselineRef := request.baselineRef <|> scope.baselineRef }

def recordRefTaskMatches (reference : StateRecordRef) (taskId : String) : Bool :=
  (reference.recordKind ≠ .task || reference.recordId = taskId)
  && reference.taskId.all (· = taskId)

def stateRefsOverlap (left right : StateRecordRef) : Bool :=
  left.projectId = right.projectId
  && ((left.recordKind = .task && right.taskId = left.taskId)
    || (left.recordKind = right.recordKind && left.recordId = right.recordId))

def scopeDecisionRefsAreCompatible (judgmentRefs transitionRefs : List StateRecordRef)
    (taskId : String) : Bool :=
  match transitionRefs with
  | [] => judgmentRefs.isEmpty
  | first :: _ => (judgmentRefs.all fun reference =>
      reference.projectId = first.projectId && recordRefTaskMatches reference taskId)
    && (judgmentRefs.isEmpty || judgmentRefs.any fun reference =>
      transitionRefs.any (stateRefsOverlap reference))

def StoredUserActionRecordSet.currentScopeDecision (record : StoredUserActionRecordSet)
    (taskId : String) (scopeRevision : Nat) (changeUnitId : Option String)
    (affectedRefs : List StateRecordRef) (now : UtcTimestamp) : Bool :=
  record.acceptedCurrentUserAuthority .scopeDecision
  && record.request.requiredFor.contains .scopeUpdate
  && record.request.expiresAt.all (now < ·)
  && record.request.basis.coordinates.taskId = taskId
  && record.request.basis.coordinates.scopeRevision = scopeRevision
  && record.request.basis.coordinates.changeUnitId = changeUnitId
  && scopeDecisionRefsAreCompatible record.request.affectedRefs affectedRefs taskId

def UserActionBasis.rebased (basis : UserActionBasis) (scopeRevision : Nat)
    (changeUnitId baselineRef : Option String) : UserActionBasis :=
  let move (coordinates : UserActionBasisCoordinates) : UserActionBasisCoordinates :=
    { coordinates with
      scopeRevision := scopeRevision, changeUnitId := changeUnitId, baselineRef := baselineRef
      compatibilityStatus := .current }
  match basis with
  | .choice basis => .choice { basis with coordinates := move basis.coordinates }
  | .evidenceObservation basis =>
    .evidenceObservation { basis with coordinates := move basis.coordinates }

namespace UpdateScope

variable (request : UpdateScopeRequest)

/-- `validate_requested_effect_contract`, without the look at the file system. -/
def validateRequestedEffectContract (task : TaskRecord) (changeUnit : Option ChangeUnitRecord) :
    CoreResult Unit := do
  let compatible := match request.changeUnit.operation with
    | .keepCurrent => changeUnit.any fun row =>
        advisorCompatibleChangeUnit row.boundedPaths row.effectContract
    | .createCurrent | .replaceCurrent =>
      advisorCompatibleChangeUnit request.changeUnit.affectedPaths
        request.changeUnit.effectContract
  ensure (task.mode ≠ .advisor || compatible) (.validation "change_unit"
    "advisor Change Units must be observe-only and authorize no Product Repository path, Run, sensitive action, external network, or secret access")
  match request.changeUnit.effectContract with
  | none => return ()
  | some contract =>
    validateEffectContract contract
    let _ ← observeRequestProductPaths contract.allowedPaths
      "change_unit.effect_contract.allowed_paths"
      "effect_contract.allowed_paths must be normalized relative Product Repository paths"

structure ControlDecision where
  nextControl : TaskControlLevel
  nextAcceptance : AcceptancePolicy
  (controlRaised acceptanceRaised : Bool)
  (controlLevelReason acceptancePolicyReason : String)

/-- The control part of `decide_update_scope_policy`. -/
def decideControl (task : TaskRecord) (policy : CoreWorkflowPolicy) (sensitiveEffect : Bool) :
    ControlDecision :=
  let resolved := resolveTaskControlAuthority task policy
  let nextControl := if sensitiveEffect then .sensitive else resolved.effectiveControlLevel
  let nextAcceptance := maxAcceptancePolicy resolved.acceptancePolicy
    (acceptancePolicyForControl nextControl policy)
  let acceptanceRaised : Bool := task.acceptancePolicy.rank < nextAcceptance.rank
  let controlRaised : Bool := task.effectiveControlLevel < nextControl
  { nextControl := nextControl, nextAcceptance := nextAcceptance
    controlRaised := controlRaised, acceptanceRaised := acceptanceRaised
    controlLevelReason :=
      if sensitiveEffect && controlRaised then
        "Core raised control to `sensitive` for the proposed Change Unit effect contract."
      else if controlRaised then resolved.controlLevelReason
      else task.controlLevelReason
    acceptancePolicyReason :=
      if acceptanceRaised && nextControl = resolved.effectiveControlLevel
        && resolved.acceptanceRaised then resolved.acceptancePolicyReason
      else "Effective control `" ++ nextControl.asStr
        ++ "` requires final acceptance for the current close basis." }

def relatedRefsError (message : String) : CoreError :=
  .validation "related_scope_decision_refs" message

/-- The accepted gaps of the checkpoint that only a scope update applies. -/
def expectedScopeGaps (checkpoint : Option ShapingCheckpointRecord) :
    List ShapingCheckpointGapRecord :=
  (checkpoint.elim [] (·.gaps)).filter fun gap => gap.row.status = .accepted
    && gap.row.gapKind.decisionPolicy.any (·.applicationOwner = .updateScope)

variable (X : External) (context : PlanContext) (t : CoreTables)

/-- One round of the loop of `validate_related_scope_decisions`. -/
def scopeDecisionApplication (request : UpdateScopeRequest) (task : TaskRecord)
    (changeUnit : Option ChangeUnitRecord) (checkpoint : Option ShapingCheckpointRecord)
    (related : StateRecordRef) : CoreResult ShapingGapApplication := do
  ensure (related.belongsTo .userActionResolution request.envelope.projectId request.taskId)
    (relatedRefsError
      "related scope decision refs must identify user-action resolutions for this Task")
  let resolution ← okOr (decisionRejected "related scope decision resolution is missing")
    (t.userActionResolutions.find? related.recordId)
  let record ← fromStore (t.userActionRecord context.now resolution.userActionRequestId)
  let record ← okOr (decisionRejected "related scope decision request is missing") record
  ensure checkpoint.isSome
    (relatedRefsError "scope decisions require one current shaping checkpoint")
  let notCurrent := decisionRejected "related scope decision resolution is not current"
  let gap ← okOr notCurrent ((expectedScopeGaps checkpoint).find? fun gap =>
    gap.userAction.any fun link =>
      link.userActionRequestId = record.request.userActionRequestId
      && link.userActionResolutionId = some related.recordId)
  let metadataMatches := match record.request.metadata with
    | .shaping checkpointId gapId _ =>
      (checkpoint.any fun checkpoint => checkpoint.row.shapingCheckpointId = checkpointId)
      && gapId = gap.row.shapingGapId
    | _ => false
  let policyMatches := gap.row.gapKind.decisionPolicy.any fun policy =>
    policy.applicationOwner = .updateScope && policy.changesScopeRevision
    && record.request.requiredFor = policy.requiredFor
  let refs := taskOperationRefs request.envelope.projectId context.stateVersion request.taskId
    changeUnit
  ensure (record.currentScopeDecision request.taskId task.scopeRevision
      (changeUnit.map (·.changeUnitId)) refs context.now && metadataMatches && policyMatches)
    notCurrent
  return ⟨shapingDecisionApplicationId X related.recordId .updateScope, gap.row.shapingGapId,
    related.recordId⟩

def validateRelatedScopeDecisions (request : UpdateScopeRequest) (task : TaskRecord)
    (changeUnit : Option ChangeUnitRecord) (checkpoint : Option ShapingCheckpointRecord) :
    CoreResult (List ShapingGapApplication) := do
  ensure (request.relatedScopeDecisionRefs.length = (expectedScopeGaps checkpoint).length)
    (relatedRefsError
      "related scope decision refs must exactly match every accepted current scope gap")
  ensure ((request.relatedScopeDecisionRefs.map (·.recordId)).Nodup)
    (relatedRefsError "related scope decision refs must be unique")
  request.relatedScopeDecisionRefs.mapM
    (scopeDecisionApplication X context t request task changeUnit checkpoint)

def criterionIdError (message : String) : CoreError :=
  .validation "acceptance_criteria[].acceptance_criterion_id" message

/-- The loop of `plan_acceptance_criteria_replacement`; `ids` are the ids left to allocate. -/
def planReplacements (t : CoreTables) (taskId : String) (position : Nat) (seen ids : List String) :
    List AcceptanceCriterionReplacement → CoreResult (List AcceptanceCriterionUpsert)
  | [] => .ok []
  | replacement :: rest => do
    let statement := Text.trim replacement.statement
    ensure (!statement.isEmpty) (.validation "acceptance_criteria[].statement"
      "acceptance criterion statements must not be empty")
    let (id, ids) ← match replacement.acceptanceCriterionId, ids with
      | some id, ids => do
        ensure (!seen.contains id)
          (criterionIdError "acceptance criterion replacement IDs must not be duplicated")
        let record ← okOr (criterionIdError "acceptance criterion replacement ID is unknown")
          (t.acceptanceCriteria.find? id)
        ensure (record.taskId = taskId)
          (criterionIdError "acceptance criterion replacement ID belongs to another Task")
        ensure (record.status = .active)
          (criterionIdError "retired acceptance criterion IDs cannot be reused")
        pure (id, ids)
      | none, id :: ids => do
        requireFresh (seen.contains id || (t.acceptanceCriteria.find? id).isSome)
        pure (id, ids)
      | none, [] => .error (CoreError.invariant "durable id generator returned no id")
    let upserts ← planReplacements t taskId (position + 1) (id :: seen) ids rest
    return ⟨id, statement, replacement.evidenceRequirement, position⟩ :: upserts

def planAcceptanceCriteria (request : UpdateScopeRequest) (ids : List String) :
    CoreResult (Option (List AcceptanceCriterionUpsert) × Bool) :=
  match request.acceptanceCriteria with
  | none => .ok (none, false)
  | some replacements => do
    let upserts ← planReplacements t request.taskId 0 [] ids replacements
    let current := (t.activeAcceptanceCriteria request.taskId).map fun row =>
      (row.acceptanceCriterionId, row.statement, row.evidenceRequirement)
    return (some upserts, current ≠ upserts.map fun upsert =>
      (upsert.acceptanceCriterionId, upsert.statement, upsert.evidenceRequirement))

def planCurrentChangeUnit (request : UpdateScopeRequest) (changeUnitId : String) :
    ChangeUnitInsert where
  changeUnitId := changeUnitId
  taskId := request.taskId
  boundedPaths := request.changeUnit.affectedPaths
  writeBasis := ⟨request.baselineRef, context.invocation.gitWorkspaceContext⟩
  effectContract := request.changeUnit.effectContract
  recoveryRequired := false

/-- The Change Unit mutation and the id of the Change Unit that is current afterwards. -/
def planChangeUnit (request : UpdateScopeRequest) (changeUnit : Option ChangeUnitRecord)
    (changeUnitId : String) : CoreResult (List CoreStorageMutation × Option String) :=
  match request.changeUnit.operation with
  | .keepCurrent => .ok ([], changeUnit.map (·.changeUnitId))
  | .createCurrent => do
    ensure changeUnit.isNone (.validation "change_unit.operation"
      "create_current requires no current Change Unit")
    requireFresh (t.changeUnits.find? changeUnitId).isSome
    return ([.changeUnit (.insertCurrent (planCurrentChangeUnit context request changeUnitId))],
      some changeUnitId)
  | .replaceCurrent => do
    ensure changeUnit.isSome
      (.rejected .noActiveChangeUnit "replace_current requires a current Change Unit")
    requireFresh (t.changeUnits.find? changeUnitId).isSome
    return ([.changeUnit (.replaceCurrent (planCurrentChangeUnit context request changeUnitId))],
      some changeUnitId)

def checkpointCanRebase (checkpoint : ShapingCheckpointRecord) (nextBaselineRef : Option String)
    (applications : List ShapingGapApplication) (authorityBasisChanged : Bool) : Bool :=
  checkpoint.row.readiness ≠ .superseded && nextBaselineRef.isSome
  && (checkpoint.row.implementationBoundary.any (!Text.isBlank ·))
  && !(authorityBasisChanged && applications.isEmpty
    && checkpoint.gaps.any (·.row.status ≠ .applied))
  && checkpoint.gaps.all fun gap => match gap.row.gapKind.decisionPolicy with
    | none => true
    | some policy => policy.applicationOwner ≠ .updateScope || gap.row.status = .applied
      || (gap.row.status = .accepted && applications.any fun application =>
        application.shapingGapId = gap.row.shapingGapId
        && gap.userAction.any fun link =>
          link.userActionResolutionId = some application.userActionResolutionId)

/-- The current requests linked to the checkpoint, which a rebase keeps. -/
def preservedRequests (checkpoint : ShapingCheckpointRecord) :
    CoreResult (List UserActionRequestRecord) := do
  let links := checkpoint.gaps.filterMap (·.userAction)
  let records ← links.mapM fun link => do
    let record ← fromStore (t.userActionRecord context.now link.userActionRequestId)
    okOr (CoreError.invariant
      "a preserved shaping checkpoint references a missing UserAction request") record
  return (records.filter (·.request.basisStatus = .current)).map (·.request)

variable (taskId : String)

/-- What a changed scope does to the checkpoint and to the authority given on it. -/
def planShaping (checkpoint : Option ShapingCheckpointRecord) (nextScopeRevision : Nat)
    (nextBaselineRef nextChangeUnitId : Option String) (applications : List ShapingGapApplication)
    (authorityBasisChanged : Bool) : CoreResult (List CoreStorageMutation) :=
  let invalidate (preserved : List String) : CoreStorageMutation :=
    .userAction (.markSupersededOrStale ⟨taskId, [], preserved⟩)
  match checkpoint with
  | none => .ok [invalidate []]
  | some checkpoint =>
    if checkpointCanRebase checkpoint nextBaselineRef applications authorityBasisChanged then do
      let preserved ← preservedRequests context t checkpoint
      return (preserved.map fun request => .userAction (.updateBasis
          ⟨request.userActionRequestId,
            request.basis.rebased nextScopeRevision nextChangeUnitId nextBaselineRef, .current⟩))
        ++ [invalidate (preserved.map (·.userActionRequestId)),
          .shaping (.applyScopeAndRebaseCurrent taskId checkpoint.row.shapingCheckpointId
            nextScopeRevision nextBaselineRef nextChangeUnitId applications)]
    else .ok [invalidate [], .shaping (.supersedeCurrent taskId)]

def invalidationReason (baselineChanged : Bool) : WriteTicketInvalidationReason :=
  if baselineChanged then .baselineChanged
  else if request.changeUnit.operation ≠ .keepCurrent then .changeUnitChanged
  else .scopeRevisionChanged

def planLifecycle (task : TaskRecord) (nextChangeUnitId : Option String) :
    CoreResult (List CoreStorageMutation) :=
  match projectedUserActionLifecyclePhase t.activeTaskId task nextChangeUnitId [] with
  | none => .ok []
  | some phase => planUserActionLifecycleTransition task phase

def planScopeChange (request : UpdateScopeRequest) (task : TaskRecord)
    (checkpoint : Option ShapingCheckpointRecord) (nextScope : StoredScope)
    (nextChangeUnitId : Option String) (applications : List ShapingGapApplication)
    (authorityBasisChanged : Bool) : CoreResult (List CoreStorageMutation) := do
  let shaping ← planShaping context t request.taskId checkpoint (task.scopeRevision + 1)
    nextScope.baselineRef nextChangeUnitId applications authorityBasisChanged
  let lifecycle ← planLifecycle t task nextChangeUnitId
  let reason := invalidationReason request
    (task.shaping.baselineRef ≠ nextScope.baselineRef)
  return shaping
    ++ (if (t.activeWriteTickets request.taskId).isEmpty then []
      else [.writeTicket (.invalidateActive request.taskId reason)])
    ++ lifecycle

def controlMutations (control : ControlDecision) : List CoreStorageMutation :=
  if control.controlRaised || control.acceptanceRaised then
    [.task (.updateControlLevel ⟨taskId, control.nextControl, control.controlLevelReason,
      if control.acceptanceRaised then some control.nextAcceptance else none,
      if control.acceptanceRaised then some control.acceptancePolicyReason else none⟩)]
  else []

def scopeMutation (scope : StoredScope) : CoreStorageMutation :=
  .task (.updateScope
    { taskId := taskId, workPhase := none, lifecyclePhase := none, result := none
      summary := scope.goalSummary
      shaping := some ⟨scope.goalSummary, scope.scopeSummary, scope.nonGoals, scope.baselineRef,
        scope.autonomyBoundary⟩
      autonomyBoundary := some scope.autonomyBoundary, closeSummary := none })

def plan (request : UpdateScopeRequest) (ids : UpdateScopeIds) (admitted : AdmittedTransition) :
    CoreResult OperationPlan := do
  let task ← fromStore (t.taskRecord context.projectId request.taskId)
  let task ← okOr noActiveTaskError task
  let changeUnit ← fromStore (t.currentChangeUnit request.taskId)
  validateRequestedEffectContract request task changeUnit
  let policy ← fromStore (t.projectWorkflowPolicy X)
  let control := decideControl task policy
    (request.changeUnit.effectContract.any (·.sensitiveEffect))
  let checkpoint ← fromStore (t.currentShapingCheckpoint X request.taskId)
  let authority ← fromStore (taskWideShapingAuthority X request.envelope.projectId
    context.stateVersion context.now t task changeUnit)
  ensure authority.recoveryRequired.isEmpty (.rejected .userDecisionUnresolved
    "scope updates cannot apply a rejected, deferred, or expired shaping decision")
  let applications ← validateRelatedScopeDecisions X context t request task changeUnit checkpoint
  let pending ← fromStore (t.pendingUserActionsForOperation context.now
    { operation := .scopeUpdate, taskId := request.taskId
      changeUnitId := changeUnit.map (·.changeUnitId), scopeRevision := task.scopeRevision
      closeBasis := none
      operationRefs := taskOperationRefs request.envelope.projectId context.stateVersion
        request.taskId changeUnit
      sensitiveApproval := none })
  ensure pending.isEmpty (decisionRejected
    "a current pending user action must be resolved before this scope update")
  let currentScope := StoredScope.fromTask task
  let nextScope := currentScope.applyRequest request
  ensure (!((currentScope ≠ nextScope || request.changeUnit.operation = .replaceCurrent)
      && admitted.descriptor.invalidationForbidden))
    (.rejected .taskPhaseTransitionRequired
      "the submitted update would invalidate current implementation authority")
  ensure (!(request.changeUnit.operation = .keepCurrent && changeUnit.isSome
      && currentScope.baselineRef ≠ nextScope.baselineRef))
    (.rejected .changeUnitStale "baseline retargeting requires the current replace transition")
  let (criteria, criteriaChanged) ← planAcceptanceCriteria t request ids.acceptanceCriterionIds
  let authorityBasisChanged := currentScope ≠ nextScope || criteriaChanged
    || request.changeUnit.operation = .replaceCurrent
  let scopeChanged := authorityBasisChanged || request.changeUnit.operation = .createCurrent
    || !applications.isEmpty
  let (changeUnitMutations, nextChangeUnitId) ←
    planChangeUnit context t request changeUnit ids.changeUnitId
  let changed ← if scopeChanged then
      planScopeChange context t request task checkpoint nextScope nextChangeUnitId applications
        authorityBasisChanged
    else pure []
  return {
    taskId := request.taskId, changeUnitId := nextChangeUnitId, eventKind := "scope_updated"
    descriptor := some admitted.descriptor
    mutations := scopeMutation task.taskId nextScope
      :: controlMutations task.taskId control
      ++ (criteria.toList.map fun upserts =>
        .task (.replaceAcceptanceCriteria ⟨request.taskId, upserts⟩))
      ++ (if scopeChanged then
          [.task (.updateScopeRevision task.taskId (task.scopeRevision + 1)),
            .task (.updateCloseBasis ⟨task.taskId, task.closeBasisRevision + 1, none⟩)]
        else [])
      ++ changeUnitMutations ++ changed }

def coordinatesMatch : WorkflowActionAuthorityCoordinates → Bool
  | .updateScope taskId _ _ _ _ _ operation =>
    request.taskId = taskId && request.changeUnit.operation = operation
  | _ => false

def actionKey : WorkflowActionKey :=
  ⟨.updateScope, .forChangeUnitOperation request.changeUnit.operation⟩

/- What an accepted update establishes. -/

structure Accepted (request : UpdateScopeRequest) (ids : UpdateScopeIds)
    (admitted : AdmittedTransition) where
  task : TaskRecord
  changeUnit : Option ChangeUnitRecord
  policy : CoreWorkflowPolicy
  checkpoint : Option ShapingCheckpointRecord
  applications : List ShapingGapApplication
  criteria : Option (List AcceptanceCriterionUpsert)
  criteriaChanged : Bool
  changeUnitMutations : List CoreStorageMutation
  nextChangeUnitId : Option String
  changed : List CoreStorageMutation
  record : t.taskRecord context.projectId request.taskId = .ok (some task)
  unit : t.currentChangeUnit request.taskId = .ok changeUnit
  contract : validateRequestedEffectContract request task changeUnit = .ok ()
  baselineKept : (decide (request.changeUnit.operation = .keepCurrent) && changeUnit.isSome
    && decide ((StoredScope.fromTask task).baselineRef
      ≠ ((StoredScope.fromTask task).applyRequest request).baselineRef)) = false
  unitPlanned : planChangeUnit context t request changeUnit ids.changeUnitId
    = .ok (changeUnitMutations, nextChangeUnitId)
  changedPlanned : (if (decide (StoredScope.fromTask task
        ≠ (StoredScope.fromTask task).applyRequest request) || criteriaChanged
      || decide (request.changeUnit.operation = .replaceCurrent)
      || decide (request.changeUnit.operation = .createCurrent) || !applications.isEmpty) then
      planScopeChange context t request task checkpoint
        ((StoredScope.fromTask task).applyRequest request) nextChangeUnitId applications
        (decide (StoredScope.fromTask task ≠ (StoredScope.fromTask task).applyRequest request)
          || criteriaChanged || decide (request.changeUnit.operation = .replaceCurrent))
    else pure []) = .ok changed

namespace Accepted
variable {context} {t} {request}
  {ids : UpdateScopeIds} {admitted : AdmittedTransition}
  (accepted : Accepted context t request ids admitted)

def nextScope : StoredScope := (StoredScope.fromTask accepted.task).applyRequest request

def control : ControlDecision :=
  decideControl accepted.task accepted.policy
    (request.changeUnit.effectContract.any (·.sensitiveEffect))

def authorityBasisChanged : Bool :=
  StoredScope.fromTask accepted.task ≠ accepted.nextScope || accepted.criteriaChanged
  || request.changeUnit.operation = .replaceCurrent

def scopeChanged : Bool :=
  accepted.authorityBasisChanged || request.changeUnit.operation = .createCurrent
  || !accepted.applications.isEmpty

def plan : OperationPlan where
  taskId := request.taskId
  changeUnitId := accepted.nextChangeUnitId
  eventKind := "scope_updated"
  descriptor := some admitted.descriptor
  mutations := scopeMutation accepted.task.taskId accepted.nextScope
    :: controlMutations accepted.task.taskId accepted.control
    ++ (accepted.criteria.toList.map fun upserts =>
      .task (.replaceAcceptanceCriteria ⟨request.taskId, upserts⟩))
    ++ (if accepted.scopeChanged then
        [.task (.updateScopeRevision accepted.task.taskId (accepted.task.scopeRevision + 1)),
          .task (.updateCloseBasis
            ⟨accepted.task.taskId, accepted.task.closeBasisRevision + 1, none⟩)]
      else [])
    ++ accepted.changeUnitMutations ++ accepted.changed

end Accepted

theorem plan_ok {X : External} {context : PlanContext} {t : CoreTables}
    {request : UpdateScopeRequest} {ids : UpdateScopeIds} {admitted : AdmittedTransition}
    {result : OperationPlan} (h : plan X context t request ids admitted = .ok result) :
    ∃ accepted : Accepted context t request ids admitted, result = accepted.plan := by
  simp only [plan, steps_ok, fromStore_eq_ok] at h
  obtain ⟨_, hrecord, task, rfl, changeUnit, hunit, _, hcontract, policy, _, checkpoint, _, _, _, _,
    applications, _, _, _, _, _, hbaseline, ⟨criteria, criteriaChanged⟩, _, ⟨unitMutations, nextId⟩,
    hplanned, h⟩ := h
  obtain ⟨changed, hchanged, hreturn⟩ := ite_bind_eq_ok.mp h
  exact ⟨⟨task, changeUnit, policy, checkpoint, applications, criteria, criteriaChanged,
    unitMutations, nextId, changed, hrecord, hunit, hcontract, Bool.not_eq_true' _ ▸ hbaseline,
    hplanned, hchanged⟩, (pure_eq_ok.mp hreturn).symm⟩

end UpdateScope
end Volicord
