import Volicord.Core.RecordingEvidence

/-! `recording/plan.rs` and `close_readiness/recording.rs`: the plan of `record_run`, from the
policy decision over its Write Ticket to the close basis it leaves. -/
namespace Volicord
open Result Relational Sorted

/- `close_readiness/recording.rs`. -/

/-- What two requirements have in common when they ask for the same approval. -/
def SensitiveActionRequirement.key (requirement : SensitiveActionRequirement) :
    String × List String × List String × Option String × String :=
  (requirement.actionKind, requirement.normalizedPaths, requirement.sensitiveCategories,
    requirement.baselineRef, requirement.changeUnitId)

def sensitiveActionRequirementFromWriteTicket (projectId : String) (runRef : StateRecordRef)
    (ticket : StoredWriteTicket) : Option SensitiveActionRequirement :=
  let scope := ticket.attemptScope
  let categories := normalizedStringSet scope.sensitiveCategories
  if categories.isEmpty && ticket.validityBasis.approvalBasisRefs.isEmpty then none
  else some {
    actionKind := Text.trim scope.intendedOperation
    normalizedPaths := scope.intendedPaths.map (·.text)
    sensitiveCategories := categories
    baselineRef := scope.baselineRef
    changeUnitId := scope.changeUnitId
    sourceRunRef := runRef
    sourceWriteTicketRef := stateRef .writeTicket ticket.writeTicketId projectId
      (some ticket.validityBasis.taskId)
      (some (runRef.producedAtStateVersion.getD ticket.basisStateVersion)) }

/-- The stored basis is the current one of this Task, Change Unit, scope and baseline. -/
def closeBasisContinues (request : RecordRunRequest) (task : TaskRecord)
    (basis : CurrentCloseBasis) : Bool :=
  basis.taskId = request.taskId && basis.changeUnitId = request.changeUnitId
  && basis.scopeRevision = task.scopeRevision
  && basis.closeBasisRevision = task.closeBasisRevision
  && basis.baselineRef = some request.baselineRef

def previousSensitiveActionRequirements (request : RecordRunRequest) (task : TaskRecord) :
    List SensitiveActionRequirement :=
  (task.closeBasis.filter (closeBasisContinues request task)).elim []
    (·.sensitiveActionRequirements)

/-- `current_sensitive_action_requirements`, in the order of their first occurrence. -/
def currentSensitiveActionRequirements (projectId : String) (request : RecordRunRequest)
    (task : TaskRecord) (runRef : StateRecordRef) (ticket : Option StoredWriteTicket) :
    List SensitiveActionRequirement :=
  firstByKey (·.key) (previousSensitiveActionRequirements request task
    ++ (ticket.bind (sensitiveActionRequirementFromWriteTicket projectId runRef)).toList)

structure CloseBasisRefContext where
  plan : PlanContext
  request : RecordRunRequest
  task : TaskRecord
  runRef : StateRecordRef
  evidence : RecordRunEvidencePlan

namespace CloseBasisRefContext
variable (context : CloseBasisRefContext)

def canonicalRef (kind : StateRecordKind) (recordId : String) : StateRecordRef :=
  stateRef kind recordId context.plan.projectId (some context.request.taskId)
    (some (context.plan.stateVersion + 1))

/-- `resolve_close_basis_run_ref` and `run_record_is_close_basis_compatible`. -/
def runIsCompatible (t : CoreTables) (run : RunRecord) : Bool :=
  run.matchesContext context.request.taskId context.request.changeUnitId
    context.task.scopeRevision (some context.request.baselineRef)
  && (t.currentChangeUnitRow context.request.taskId).any fun changeUnit =>
    run.changeUnitId = some changeUnit.changeUnitId

def resolveRef (t : CoreTables) (field : String) (reference : StateRecordRef) :
    CoreResult StateRecordRef := do
  let failure := CoreError.validation field
  ensure (!Text.isBlank reference.recordId)
    (failure "close assessment refs must use non-empty record_id values")
  ensure (reference.recordKind ∈ [.run, .artifact, .evidenceSummary, .changeUnit])
    (failure
      "close assessment refs may only use run, artifact, evidence_summary, or change_unit record_kind")
  ensure (reference.projectId = context.plan.projectId)
    (failure "close assessment refs must belong to the request project")
  ensure (reference.taskId = some context.request.taskId)
    (failure "close assessment refs must belong to the request Task")
  match reference.recordKind with
  | .run =>
    if reference.recordId = context.runRef.recordId then return context.runRef
    ensure ((t.runs.find? reference.recordId).any (context.runIsCompatible t)) (failure
      "Run refs in close_assessment must exist for the request Task, current Change Unit, current scope revision, and current baseline")
    return context.canonicalRef .run reference.recordId
  | .changeUnit =>
    ensure ((t.changeUnitRecord context.request.taskId reference.recordId).any fun changeUnit =>
        changeUnit.changeUnitId = context.request.changeUnitId
        && changeUnit.status = .active && changeUnit.isCurrent)
      (failure "Change Unit refs in close_assessment must identify the current Change Unit")
    return context.canonicalRef .changeUnit reference.recordId
  | .evidenceSummary =>
    match context.evidence.evidenceSummaryRef.filter (·.recordId = reference.recordId) with
    | some summaryRef => return summaryRef
    | none =>
      let record ← okOr (failure
        "Evidence Summary refs in close_assessment must identify the current Task evidence summary")
        ((t.latestEvidenceSummary context.request.taskId).filter
          (·.evidenceSummaryId = reference.recordId))
      return stateRef .evidenceSummary record.evidenceSummaryId context.plan.projectId
        (some context.request.taskId) (some record.producedAtStateVersion)
  | _ =>
    ensure ((context.evidence.registeredArtifacts.any (·.artifactId = reference.recordId))
        || ((t.artifacts.find? reference.recordId).any fun record =>
          record.taskId = context.request.taskId && record.verifiedCurrent context.plan)
        && t.artifactHasTaskOwnerLink reference.recordId context.request.taskId)
      (failure
        "Artifact refs in close_assessment must identify verified available artifacts owned by the request Task")
    return context.canonicalRef .artifact reference.recordId

/-- `canonicalize_close_basis_refs`; a ref is known by its project, kind and id. -/
def canonicalizeRefs (t : CoreTables) (field : String) (refs : List StateRecordRef) :
    CoreResult (List StateRecordRef) := do
  let resolved ← refs.mapM (context.resolveRef t field)
  return firstByKey (fun reference =>
    (reference.projectId, reference.recordKind, reference.recordId)) resolved

def planRisks (t : CoreTables) (inputs : List ResidualRiskInput) (riskIds : List String) :
    CoreResult (List ResidualRisk) := do
  requireFresh (!(riskIds.length = inputs.length && riskIds.Nodup))
  (inputs.zip riskIds).mapM fun (risk, riskId) => do
    ensure (!Text.isBlank risk.summary) (.validation "close_assessment.residual_risks.summary"
      "residual risk summary must not be empty")
    ensure (!Text.isBlank risk.consequence)
      (.validation "close_assessment.residual_risks.consequence"
        "residual risk consequence must not be empty")
    let sourceRefs ← context.canonicalizeRefs t "close_assessment.residual_risks[].source_refs"
      risk.sourceRefs
    return ⟨riskId, Text.trim risk.summary, Text.trim risk.consequence, risk.acceptanceRequired,
      sourceRefs⟩

/-- `build_record_run_close_basis`: without an assessment the Run leaves no close basis. -/
def closeBasis (t : CoreTables) (ticket : Option StoredWriteTicket) (riskIds : List String) :
    CoreResult (Option CurrentCloseBasis) :=
  match context.request.closeAssessment with
  | none => .ok none
  | some assessment => do
    ensure (!Text.isBlank assessment.resultSummary) (.validation "close_assessment.result_summary"
      "close_assessment.result_summary must not be empty")
    let resultRefs ← context.canonicalizeRefs t "close_assessment.result_refs"
      (assessment.resultRefs ++ [context.runRef,
        context.canonicalRef .changeUnit context.request.changeUnitId]
        ++ context.evidence.evidenceSummaryRef.toList)
    let risks ← context.planRisks t assessment.residualRisks riskIds
    let requirements := currentSensitiveActionRequirements context.plan.projectId
      context.request context.task context.runRef ticket
    ensure (requirements.all (!·.actionKind.isEmpty)) (.invariant
      "write ticket has an empty intended operation after Store decoding")
    let categories := sortDedup (requirements.flatMap (·.sensitiveCategories))
    ensure (normalizedStringSet assessment.sensitiveCategories = categories)
      (.validation "close_assessment.sensitive_categories"
        "close_assessment.sensitive_categories must match Core-derived sensitive requirements")
    return some {
      closeBasisRevision := context.task.closeBasisRevision + 1
      scopeRevision := context.task.scopeRevision
      taskId := context.request.taskId
      changeUnitId := context.request.changeUnitId
      baselineRef := some context.request.baselineRef
      resultSummary := Text.trim assessment.resultSummary
      resultRefs := resultRefs
      evidenceRefs := context.evidence.evidenceSummaryRef.toList
      evidenceSummaryRef := context.evidence.evidenceSummaryRef
      residualRisks := risks
      sensitiveCategories := categories
      sensitiveActionRequirements := requirements
      recoveryConstraints := normalizedStringSet assessment.recoveryConstraints
      sourceRunRef := some context.runRef
      shapingCheckpointRef := none
      shapingDecisionApplicationRefs := []
      updatedAt := context.plan.now }

end CloseBasisRefContext

namespace RecordRun

def actionKey : WorkflowActionKey := ⟨.recordRun, .recordRun⟩

variable (request : RecordRunRequest)

def coordinatesMatch : WorkflowActionAuthorityCoordinates → Bool
  | .recordRun taskId changeUnitId baselineRef runKind => taskId = request.taskId
    && changeUnitId = request.changeUnitId && baselineRef = request.baselineRef
    && runKind = request.kind
  | _ => false

def mismatchCode : WorkflowActionAuthorityCoordinates → ErrorCode
  | .recordRun _ changeUnitId baselineRef _ =>
    if changeUnitId ≠ request.changeUnitId then .changeUnitStale
    else if baselineRef ≠ request.baselineRef then .workspaceBasisStale
    else .runKindIncompatible
  | _ => .workflowActionNotAllowed

/-- What `acquire_record_run_facts` and the shaping authority establish. -/
structure Facts where
  task : TaskRecord
  changeUnit : ChangeUnitRecord
  policy : CoreWorkflowPolicy
  control : ResolvedTaskControlAuthority

variable (X : External) (context : PlanContext) (t : CoreTables)

/-- `acquire_record_run_facts`; an advisor Task has been refused by its mode. -/
def acquireFacts (request : RecordRunRequest) : CoreResult Facts := do
  let task ← fromStore (t.taskRecord context.projectId request.taskId)
  let task ← okOr noActiveTaskError task
  let policy ← fromStore (t.projectWorkflowPolicy X)
  ensure (taskModeAllowsRunKind task.mode task.workPhase request.kind)
    (if task.mode = .work && task.workPhase = .shaping then
      .rejected .taskPhaseTransitionRequired "record_run requires the Task to enter implementation"
    else .rejected .runKindIncompatible
      "kind is not compatible with the current Task mode and work phase")
  let stale := CoreError.rejected .changeUnitStale
    "change_unit_id or baseline_ref does not match the current Change Unit"
  let changeUnit ← okOr (if (t.currentChangeUnitRow request.taskId).isSome then stale
      else .rejected .changeUnitRequired "record_run requires a current Change Unit")
    (t.changeUnitRecord request.taskId request.changeUnitId)
  ensure (changeUnit.status = .active && changeUnit.isCurrent) stale
  ensure (baselineMatches changeUnit task request.baselineRef) stale
  ensure (request.observedChanges.productFileWriteObserved
      || workspaceContextMatches changeUnit context.invocation.gitWorkspaceContext)
    (.rejected .workspaceBasisStale
      "current Git workspace context does not match the current Change Unit basis")
  return ⟨task, changeUnit, policy, resolveTaskControlAuthority task policy⟩

def blocksRecording
    (authority : TaskWideShapingAuthority) : Bool :=
  !authority.recoveryRequired.isEmpty || !authority.awaitingUser.isEmpty
  || !authority.acceptedUnapplied.isEmpty || !authority.stale.isEmpty
  || !authority.inconsistent.isEmpty

def writeAdmission (request : RecordRunRequest) (facts : Facts) : RecordRunWriteAdmission where
  taskId := request.taskId
  changeUnitId := request.changeUnitId
  baselineRef := request.baselineRef
  performedOperation := request.performedOperation
  task := facts.task
  changeUnit := facts.changeUnit
  gitWorkspaceContext := context.invocation.gitWorkspaceContext
  observedChanges := request.observedChanges
  writeAuthorityFingerprint := facts.policy.writeAuthorityFingerprint
  observedAt := context.now

/-- The ticket of `decide_record_run_policy`: a product write or a sensitive Task consumes one,
and nothing else does. -/
def admitTicket (request : RecordRunRequest) (facts : Facts) :
    CoreResult (Option StoredWriteTicket) :=
  if request.observedChanges.productFileWriteObserved
      || facts.control.effectiveControlLevel = .sensitive then do
    let writeTicketId ← okOr (.rejectedAt .writeTicketRequired "missing"
      "product-file write observations require a compatible active write ticket")
      request.writeTicketId
    ensure (!facts.control.pendingPolicyReevaluation) (writeTicketInvalid .approvalBasisChanged
      "a pending project-policy control reevaluation requires prepare_write before this Run can consume a ticket")
    let ticket ← okOr (writeTicketInvalid .missing
      "write_ticket_id does not identify a write ticket") (t.writeTicketRecord writeTicketId)
    activeRecordRunCandidate ticket context.now
    (writeAdmission context request facts).evaluate X context t ticket
    return some ticket
  else do
    ensure request.writeTicketId.isNone (writeTicketInvalid .incompatible
      "write_ticket_id is only consumed for an observed product-file write or an effective sensitive Task")
    return none

def sensitiveApproval (request : RecordRunRequest) (facts : Facts)
    (ticket : Option StoredWriteTicket) : Option SensitiveApprovalRequirement :=
  (ticket.filter fun _ => facts.control.effectiveControlLevel = .sensitive
    || !request.observedChanges.sensitiveCategories.isEmpty).map fun ticket =>
      { taskId := request.taskId, changeUnitId := request.changeUnitId
        scopeRevision := facts.task.scopeRevision
        operation := ticket.attemptScope.intendedOperation
        normalizedPaths := request.observedChanges.changedPaths
        sensitiveCategories := request.observedChanges.sensitiveCategories
        baselineRef := some request.baselineRef
        requiredFor := .recordRun, now := context.now }

def operationContext (request : RecordRunRequest) (facts : Facts)
    (ticket : Option StoredWriteTicket) : UserActionOperationContext where
  operation := .recordRun
  taskId := request.taskId
  changeUnitId := some request.changeUnitId
  scopeRevision := facts.task.scopeRevision
  closeBasis := none
  operationRefs := [
    stateRef .task request.taskId context.projectId (some request.taskId)
      (some context.stateVersion),
    stateRef .changeUnit request.changeUnitId context.projectId (some request.taskId)
      (some context.stateVersion)]
  sensitiveApproval := sensitiveApproval context request facts ticket

def runIdOf (request : RecordRunRequest) (generated : String) : CoreResult String :=
  match request.runId with
  | some runId => do
    ensure (t.runs.find? runId).isNone
      (.validation "run_id" "run_id already identifies an existing Run")
    return runId
  | none => do
    requireFresh (t.runs.find? generated).isSome
    return generated

def sensitiveAcceptanceReason : String :=
  "A recorded sensitive-category signal requires final acceptance without establishing sensitive-action approval authority."

def acceptanceUpdate (task : TaskRecord) : List CoreStorageMutation :=
  if request.observedChanges.sensitiveCategories.isEmpty || task.acceptancePolicy = .required
    then []
  else [.task (.updateControlLevel ⟨task.taskId, task.effectiveControlLevel,
    task.controlLevelReason, some .required, some sensitiveAcceptanceReason⟩)]

/-- The requests that stay pending once the Run has invalidated the close judgments. -/
def survivesRun (record : StoredUserActionRecordSet) : Bool :=
  record.request.actionKind ∉ [.finalAcceptance, .residualRiskAcceptance]

def runRow (request : RecordRunRequest) (task : TaskRecord) (runId : String)
    (ticket : Option StoredWriteTicket) : RunRecord where
  runId := runId
  taskId := request.taskId
  changeUnitId := some request.changeUnitId
  scopeRevision := task.scopeRevision
  writeTicketId := ticket.map (·.writeTicketId)
  kind := request.kind
  observedChanges := request.observedChanges
  createdByActorSource := context.invocation.actorSource

def consumption (runId : String) (policy : CoreWorkflowPolicy) (ticket : StoredWriteTicket) :
    CoreStorageMutation :=
  .writeTicket (.consume ⟨ticket.writeTicketId, runId, ticket.basisStateVersion,
    policy.writeAuthorityFingerprint⟩)

def mutations (request : RecordRunRequest) (facts : Facts) (runId : String)
    (ticket : Option StoredWriteTicket) (basis : Option CurrentCloseBasis)
    (lifecycle : List CoreStorageMutation) (evidence : RecordRunEvidencePlan) :
    List CoreStorageMutation :=
  [.run (.insert (runRow context request facts.task runId ticket))]
  ++ acceptanceUpdate request facts.task
  ++ [.task (.updateCloseBasis ⟨request.taskId, facts.task.closeBasisRevision + 1, basis⟩),
    .userAction (.markSupersededOrStale
      ⟨request.taskId, [.finalAcceptance, .residualRiskAcceptance], []⟩)]
  ++ lifecycle
  ++ (ticket.map (consumption runId facts.policy)).toList
  ++ evidence.mutations

def plan (raw : RecordRunRequest) (ids : RecordRunIds) (admitted : AdmittedTransition) :
    CoreResult OperationPlan := do
  let request ← raw.normalize
  let facts ← acquireFacts X context t request
  let authority ← fromStore (taskWideShapingAuthority X context.projectId context.stateVersion
    context.now t facts.task (some facts.changeUnit))
  ensure (!blocksRecording authority) (.rejected .userDecisionUnresolved
    "current shaping authority blocks Run recording")
  let claims ← planRecordRunEvidenceTargets t request
  let ticket ← admitTicket X context t request facts
  let blocking ← fromStore (t.pendingUserActionsForOperation context.now
    (operationContext context request facts ticket))
  ensure blocking.isEmpty (.rejected .userDecisionUnresolved
    "a current pending user action must be resolved before this Run can be recorded")
  let runId ← runIdOf t request ids.runId
  let evidence ← planRecordRunEvidence context t request facts.task.scopeRevision runId ids claims
  let refs : CloseBasisRefContext := ⟨context, request, facts.task,
    stateRef .run runId context.projectId (some request.taskId) (some (context.stateVersion + 1)),
    evidence⟩
  let basis ← refs.closeBasis t ticket ids.riskIds
  let pending ← fromStore (t.pendingUserActions context.now request.taskId)
  let lifecycle ← planPendingLifecycle t facts.task (some facts.changeUnit)
    (pending.filter survivesRun)
  return {
    taskId := request.taskId, changeUnitId := some request.changeUnitId
    eventKind := "run_recorded", descriptor := some admitted.descriptor
    mutations := mutations context request facts runId ticket basis lifecycle evidence }

theorem admitTicket_ok {X : External} {context : PlanContext} {t : CoreTables}
    {request : RecordRunRequest} {facts : Facts} {ticket : Option StoredWriteTicket}
    (h : admitTicket X context t request facts = .ok ticket) :
    (∃ stored writeTicketId authorities, ticket = some stored ∧
      request.writeTicketId = some writeTicketId ∧
      t.writeTicketRecord writeTicketId = some stored ∧
      (request.observedChanges.productFileWriteObserved
        ∨ facts.control.effectiveControlLevel = .sensitive) ∧
      facts.control.pendingPolicyReevaluation = false ∧ stored.status = .active ∧
      writeTicketIsIdleExpired stored.idleExpiresAt context.now = false ∧
      (writeAdmission context request facts).Admits X context t stored authorities) ∨
    (ticket = none ∧ request.writeTicketId = none ∧
      request.observedChanges.productFileWriteObserved = false ∧
      facts.control.effectiveControlLevel ≠ .sensitive) := by
  unfold admitTicket at h
  split at h
  · rename_i hneeded
    simp only [steps_ok, RecordRunWriteAdmission.evaluate_eq_ok, Bool.not_eq_true'] at h
    obtain ⟨writeTicketId, hid, hpending, stored, hstored, _, hactive, ⟨authorities, hadmits⟩,
      rfl⟩ := h
    refine .inl ⟨stored, writeTicketId, authorities, rfl, hid, hstored, by simpa using hneeded,
      hpending, ?_⟩
    unfold activeRecordRunCandidate at hactive
    cases hstatus : stored.status with
    | active =>
      rw [hstatus] at hactive
      simp only [ensure_eq_ok, Bool.not_eq_true'] at hactive
      exact ⟨rfl, hactive, hadmits⟩
    | _ => simp [hstatus] at hactive
  · rename_i hneeded
    simp only [steps_ok, Option.isNone_iff_eq_none] at h
    obtain ⟨hid, rfl⟩ := h
    simp only [Bool.or_eq_true, decide_eq_true_eq, not_or, Bool.not_eq_true] at hneeded
    exact .inr ⟨rfl, hid, hneeded.1, hneeded.2⟩

structure Facts.Acquired (request : RecordRunRequest) (facts : Facts) : Prop where
  record : t.taskRecord context.projectId request.taskId = .ok (some facts.task)
  policy : t.projectWorkflowPolicy X = .ok facts.policy
  changeUnit : t.changeUnitRecord request.taskId request.changeUnitId = some facts.changeUnit
  baseline : baselineMatches facts.changeUnit facts.task request.baselineRef
  control : facts.control = resolveTaskControlAuthority facts.task facts.policy

theorem acquireFacts_ok {X : External} {context : PlanContext} {t : CoreTables}
    {request : RecordRunRequest} {facts : Facts}
    (h : acquireFacts X context t request = .ok facts) : facts.Acquired X context t request := by
  simp only [acquireFacts, steps_ok, fromStore_eq_ok] at h
  obtain ⟨_, hrecord, task, rfl, policy, hpolicy, _, changeUnit, hunit, _, hbaseline, _, rfl⟩ := h
  exact ⟨hrecord, hpolicy, hunit, hbaseline, rfl⟩

structure Accepted (raw : RecordRunRequest) (ids : RecordRunIds) where
  request : RecordRunRequest
  facts : Facts
  claims : List EvidenceClaimRecord
  ticket : Option StoredWriteTicket
  runId : String
  evidence : RecordRunEvidencePlan
  basis : Option CurrentCloseBasis
  pending : List StoredUserActionRecordSet
  lifecycle : List CoreStorageMutation
  normalized : raw.normalize = .ok request
  acquired : acquireFacts X context t request = .ok facts
  ticketAdmitted : admitTicket X context t request facts = .ok ticket
  runIdDrawn : runIdOf t request ids.runId = .ok runId
  evidencePlanned : planRecordRunEvidence context t request facts.task.scopeRevision runId ids
    claims = .ok evidence
  lifecyclePlanned : planPendingLifecycle t facts.task (some facts.changeUnit)
    (pending.filter survivesRun) = .ok lifecycle

namespace Accepted
variable {X} {context} {t} {raw : RecordRunRequest}
  {ids : RecordRunIds} (accepted : Accepted X context t raw ids)

theorem taskId_eq : accepted.request.taskId = raw.taskId :=
  (RecordRunRequest.normalize_ok accepted.normalized).1

theorem record : t.taskRecord context.projectId accepted.request.taskId
    = .ok (some accepted.facts.task) :=
  (acquireFacts_ok accepted.acquired).record

def row : RunRecord :=
  runRow context accepted.request accepted.facts.task accepted.runId accepted.ticket

def plan (admitted : AdmittedTransition) : OperationPlan where
  taskId := accepted.request.taskId
  changeUnitId := some accepted.request.changeUnitId
  eventKind := "run_recorded"
  descriptor := some admitted.descriptor
  mutations := mutations context accepted.request accepted.facts accepted.runId accepted.ticket
    accepted.basis accepted.lifecycle accepted.evidence

end Accepted

theorem plan_ok {X : External} {context : PlanContext} {t : CoreTables} {raw : RecordRunRequest}
    {ids : RecordRunIds} {admitted : AdmittedTransition} {result : OperationPlan}
    (h : plan X context t raw ids admitted = .ok result) :
    ∃ accepted : Accepted X context t raw ids, result = accepted.plan admitted := by
  simp only [plan, steps_ok, fromStore_eq_ok] at h
  obtain ⟨request, hrequest, facts, hfacts, _, _, _, claims, _, ticket, hticket, _, _, _, runId,
    hrunId, evidence, hevidence, basis, _, pending, _, lifecycle, hlifecycle, rfl⟩ := h
  exact ⟨⟨request, facts, claims, ticket, runId, evidence, basis, pending, lifecycle, hrequest,
    hfacts, hticket, hrunId, hevidence, hlifecycle⟩, rfl⟩

end RecordRun
end Volicord
