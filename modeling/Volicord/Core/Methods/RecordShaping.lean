import Volicord.Core.UserActionConstruction

/-! `plan_record_shaping_checkpoint` of `methods/record_shaping.rs`: a checkpoint replaces its
predecessor, carries the applications that stay current, retires the decisions that
authorize nothing, and asks the user for what its own gaps leave open. -/
namespace Volicord
open Result

structure RecordShapingCheckpointRequest where
  envelope : ToolEnvelope
  taskId : String
  checkpointOperation : ShapingCheckpointOperation
  scopeRevision : Nat
  baselineRef : Option String
  summary : String
  implementationBoundary : Option String
  gaps : List ShapingGapInput

/-- The ids the generator hands to one checkpoint: one per gap, one per drafted action. -/
structure RecordShapingIds where
  shapingCheckpointId : String
  (shapingGapIds userActionRequestIds : List String)

structure StaleAuthorityPlan where
  authority : CurrentShapingApplicationAuthority
  outcome : ShapingAuthorityReauthorizationOutcome
  successorGap : Option ShapingGapInput

def StaleAuthorityPlan.applicationId (plan : StaleAuthorityPlan) : String :=
  plan.authority.application.row.shapingDecisionApplicationId

structure CheckpointSuccession where
  carriedApplications : List ShapingDecisionApplicationRecord
  staleAuthority : List StaleAuthorityPlan

structure PlannedGap where
  insert : ShapingCheckpointGapInsert
  request : Option UserActionRequestRecord
  disposition : Option ShapingStaleAuthorityDisposition

namespace RecordShaping

variable (request : RecordShapingCheckpointRequest)

def actionKey : WorkflowActionKey :=
  ⟨.recordShapingCheckpoint, match request.checkpointOperation with
    | .createInitial => .createInitial
    | .replaceCurrent _ _ _ _ => .replaceCurrent⟩

/-- `checkpoint_operation_matches`: the sets of full references agree. -/
def operationMatches : ShapingCheckpointOperation → WorkflowCheckpointActionCoordinates → Bool
  | .createInitial, .createInitial => true
  | .replaceCurrent expected retired carried actions,
    .replaceCurrent current _ retiredRefs carriedRefs staleRefs =>
    let sameRefs (left right : List StateRecordRef) : Bool :=
      left.all right.contains && right.all left.contains
    current.recordId = expected && sameRefs retired retiredRefs && sameRefs carried carriedRefs
    && sameRefs (actions.map (·.staleApplicationRef)) staleRefs
  | _, _ => false

def coordinatesMatch : WorkflowActionAuthorityCoordinates → Bool
  | .recordShapingCheckpoint taskId operation scopeRevision baselineRef =>
    request.taskId = taskId && request.scopeRevision = scopeRevision
    && request.baselineRef = baselineRef
    && operationMatches request.checkpointOperation operation
  | _ => false

def mismatchCode : WorkflowActionAuthorityCoordinates → ErrorCode
  | .recordShapingCheckpoint _ (.replaceCurrent current _ _ _ _) _ _ =>
    match request.checkpointOperation with
    | .replaceCurrent expected _ _ _ =>
      if current.recordId = expected then .workflowActionNotAllowed else .shapingCheckpointStale
    | .createInitial => .workflowActionNotAllowed
  | _ => .workflowActionNotAllowed

variable (context : PlanContext)

def exactRef (request : RecordShapingCheckpointRequest) (kind : StateRecordKind)
    (reference : StateRecordRef) : Bool :=
  reference.belongsTo kind request.envelope.projectId request.taskId
  && reference.producedAtStateVersion = some context.stateVersion

def exactUniqueRefs (request : RecordShapingCheckpointRequest) (kind : StateRecordKind)
    (refs : List StateRecordRef) : Bool :=
  refs.all (exactRef context request kind) && (refs.map (·.recordId)).Nodup

def gapConflict (applications : List ShapingDecisionApplicationRecord)
    (gaps : List ShapingGapInput) : Bool :=
  applications.any fun application =>
    gaps.any fun gap => gap.gapKind.judgmentKind = some application.row.judgmentKind

def gapConflictError : CoreError :=
  .validation "gaps" "a successor gap cannot conflict with carried application authority"

/-- The applications of the current checkpoint that its successor carries. -/
def planCarried (request : RecordShapingCheckpointRequest) (current : ShapingCheckpointRecord)
    (carryForwardRefs : List StateRecordRef) :
    CoreResult (List ShapingDecisionApplicationRecord) := do
  let carried := current.applications.filter fun application =>
    application.row.authorityStatus = .current
    && application.linkedCheckpointId = some current.row.shapingCheckpointId
  ensure (exactUniqueRefs context request .shapingDecisionApplication carryForwardRefs)
    (.validation "checkpoint_operation.carry_forward_application_refs"
      "carry-forward refs must be unique exact current Task shaping decision application refs")
  ensure (idSetsEqual (carryForwardRefs.map (·.recordId))
      (carried.map (·.row.shapingDecisionApplicationId)))
    (.rejected .userDecisionUnresolved
      "carry-forward refs must exactly match every current compatible shaping decision application")
  ensure (!gapConflict carried request.gaps) gapConflictError
  return carried

def staleActionsError (message : String) : CoreError :=
  .validation "checkpoint_operation.stale_authority_actions" message

def planStaleAction (mode : TaskMode) (obligations : List CurrentShapingApplicationAuthority)
    (action : StaleShapingAuthorityAction) : CoreResult StaleAuthorityPlan := do
  let authority ← okOr (staleActionsError
      "each stale authority action must identify one exact stale application")
    (obligations.find? fun authority => authority.application.row.shapingDecisionApplicationId
      = action.staleApplicationRef.recordId)
  let stale := authority.application.row
  ensure (action.successorGap.all fun gap =>
      gap.gapKind.isUserOwned && gap.userAction.isSome
      && gap.gapKind.judgmentKind = some stale.judgmentKind
      && (gap.gapKind.decisionPolicyForMode mode).any
        (·.applicationOwner = stale.applicationOwner))
    (staleActionsError
      "reauthorization must preserve the stale judgment kind and application owner through a user-owned successor gap")
  return ⟨authority, action.outcome, action.successorGap⟩

def planStaleAuthority (request : RecordShapingCheckpointRequest) (mode : TaskMode)
    (obligations : List CurrentShapingApplicationAuthority)
    (actions : List StaleShapingAuthorityAction) : CoreResult (List StaleAuthorityPlan) := do
  let refs := actions.map (·.staleApplicationRef)
  -- the source interleaves this check with the next one, action by action
  ensure (exactUniqueRefs context request .shapingDecisionApplication refs)
    (staleActionsError
      "stale authority actions must use unique exact current-state Task application refs")
  let plans ← actions.mapM (planStaleAction mode obligations)
  ensure (idSetsEqual (refs.map (·.recordId))
      (obligations.map (·.application.row.shapingDecisionApplicationId)))
    (.rejected .userDecisionUnresolved
      "stale authority actions must exactly consume every stale shaping application")
  return plans

/-- The linked decision can be retired: it authorizes nothing any more. -/
def recoverable (gapStatus : ShapingGapStatus) (status : UserActionStatus) : Bool :=
  match gapStatus, status with
  | .rejected, .resolved | .deferred, .resolved | .current, .expired => true
  | _, _ => false

variable (t : CoreTables)

/-- The gaps of the current checkpoint that are linked and not applied, each with its
record. -/
def unappliedDecisions (current : ShapingCheckpointRecord) :
    CoreResult (List (ShapingGapStatus × StoredUserActionRecordSet)) :=
  let linked := (current.gaps.filter fun gap => gap.row.status ≠ .applied).filterMap fun gap =>
    gap.userAction.map fun link => (gap.row.status, link.userActionRequestId)
  linked.mapM fun (status, requestId) => do
    let record ← fromStore (t.userActionRecord context.now requestId)
    let record ← okOr (.invariant
      "a shaping gap link references a missing UserAction request") record
    return (status, record)

def checkRetired (request : RecordShapingCheckpointRequest) (current : ShapingCheckpointRecord)
    (retiredRefs : List StateRecordRef) : CoreResult Unit := do
  let decisions ← unappliedDecisions context t current
  ensure (decisions.all fun (_, record) => record.hasCurrentBasis)
    (.rejected .userDecisionUnresolved
      "the current checkpoint contains stale or superseded shaping authority")
  ensure (decisions.all fun (status, record) => recoverable status record.status)
    (.rejected .userDecisionUnresolved
      "the current shaping checkpoint has live linked UserAction authority")
  ensure (exactUniqueRefs context request .userActionRequest retiredRefs)
    (.validation "checkpoint_operation.retired_non_authorizing_request_refs"
      "retired request refs must be unique exact current Task UserAction request refs")
  ensure (idSetsEqual (retiredRefs.map (·.recordId))
      (decisions.map fun (_, record) => record.request.userActionRequestId))
    (.rejected .userDecisionUnresolved
      "retired request refs must exactly match every rejected, deferred, or expired predecessor decision")

def planSuccession (request : RecordShapingCheckpointRequest) (mode : TaskMode)
    (checkpoint : Option ShapingCheckpointRecord) (graph : CurrentShapingAuthorityGraph) :
    CoreResult CheckpointSuccession :=
  let stale (message : String) : CoreError := .rejected .shapingCheckpointStale message
  match request.checkpointOperation with
  | .createInitial => do
    ensure checkpoint.isNone
      (stale "create_initial requires that the Task have no current shaping checkpoint")
    ensure graph.staleRecoveryObligations.isEmpty
      (stale "stale shaping authority requires exact checkpoint replacement")
    return ⟨[], []⟩
  | .replaceCurrent expected retiredRefs carryForwardRefs actions => do
    let current ← okOr (stale "replace_current requires an exact current shaping checkpoint")
      checkpoint
    ensure (current.row.shapingCheckpointId = expected)
      (stale "expected_current_checkpoint_id is not the exact current checkpoint")
    let carried ← planCarried context request current carryForwardRefs
    let plans ← planStaleAuthority context request mode graph.staleRecoveryObligations actions
    checkRetired context t request current retiredRefs
    return ⟨carried, plans⟩

def baselineMismatch (taskBaseline requested : Option String) : CoreError :=
  .rejectedAt .validationFailed "baseline_ref"
    (if taskBaseline.isNone && requested.isSome then
      "Expected baseline_ref=null. Received a non-null BaselineRef. The Task state is valid; retry against the current action form."
    else
      "baseline_ref must match the current Task baseline; retry against the current action form")

def gapsError (message : String) : CoreError := .validation "gaps" message

/-- The gaps of the request and the successors of reauthorized applications. -/
def plannedGaps (plans : List StaleAuthorityPlan) :
    List (ShapingGapInput × Option StaleAuthorityPlan) :=
  request.gaps.map (·, none) ++ plans.filterMap fun plan =>
    plan.successorGap.map fun gap => (gap, some plan)

variable (X : External)

def planGapRequest (context : PlanContext) (t : CoreTables) (task : TaskRecord)
    (changeUnit : Option ChangeUnitRecord) (shapingCheckpointId operationIdentity gapId : String)
    (gap : ShapingGapInput) (reauthorizes : Option String) (draft : ShapingUserActionDraft)
    (requestId : String) : CoreResult UserActionRequestRecord := do
  let policy ← okOr (gapsError "a UserAction draft requires a user-owned shaping gap")
    (gap.gapKind.decisionPolicyForMode task.mode)
  ensure (draft.action.actionKind = policy.userActionKind)
    (gapsError "shaping gap and UserAction kinds are incompatible")
  let constructed ← constructUserAction X context t task changeUnit
    ⟨task.taskId, changeUnit.map (·.changeUnitId), draft.action, policy.requiredFor,
      draft.expiresAt⟩
  requireFresh (t.userActionRequests.find? requestId).isSome
  return materializeUserActionRequest context requestId operationIdentity
    (.shaping shapingCheckpointId gapId reauthorizes) constructed

def planGap (context : PlanContext) (t : CoreTables) (task : TaskRecord)
    (changeUnit : Option ChangeUnitRecord)
    (shapingCheckpointId operationIdentity gapId requestId : String) (gap : ShapingGapInput)
    (plan : Option StaleAuthorityPlan) : CoreResult PlannedGap := do
  ensure (!Text.isBlank gap.summary) (gapsError "gap summaries must not be empty")
  requireFresh (t.shapingGaps.rows.any (·.shapingGapId = gapId))
  ensure (gap.gapKind.isUserOwned = gap.userAction.isSome) (gapsError
    "user-owned shaping gaps require one UserAction draft and other gaps forbid it")
  let reauthorizes := plan.map (·.applicationId)
  let request ← match gap.userAction with
    | none => pure none
    | some draft => (planGapRequest X context t task changeUnit shapingCheckpointId
        operationIdentity gapId gap reauthorizes draft requestId).map some
  return {
    insert :=
      { shapingGapId := gapId, gapKind := gap.gapKind, summary := gap.summary
        reauthorizesApplicationId := reauthorizes
        userAction := request.map fun row => ⟨row.userActionRequestId, row.actionKind⟩ }
    request := request
    disposition := plan.bind fun plan => request.map fun row =>
      { staleApplicationId := plan.applicationId
        staleUserActionRequestId := plan.authority.application.row.userActionRequestId
        outcome := .reissued, successorGapId := some gapId
        successorUserActionRequestId := some row.userActionRequestId } }

/-- The loop over the planned gaps; each takes one id from either list. -/
def planGaps (X : External) (context : PlanContext) (t : CoreTables) (task : TaskRecord)
    (changeUnit : Option ChangeUnitRecord) (shapingCheckpointId operationIdentity : String) :
    List (ShapingGapInput × Option StaleAuthorityPlan) → List String → List String →
    CoreResult (List PlannedGap)
  | [], _, _ => .ok []
  | (gap, plan) :: rest, gapId :: gapIds, requestIds => do
    requireFresh (gapIds.contains gapId)
    let planned ← planGap X context t task changeUnit shapingCheckpointId operationIdentity gapId
      (requestIds.headD "") gap plan
    let rest ← planGaps X context t task changeUnit shapingCheckpointId operationIdentity rest
      gapIds (if gap.userAction.isSome then requestIds.tail else requestIds)
    return planned :: rest
  | _ :: _, [], _ => .error (.invariant "durable id generator returned no id")

def retiredDispositions (plans : List StaleAuthorityPlan) :
    List ShapingStaleAuthorityDisposition :=
  (plans.filter (·.outcome = .retired)).map fun plan =>
    ⟨plan.applicationId, plan.authority.application.row.userActionRequestId, .retired, none, none⟩

def readiness (gaps : List PlannedGap) : ShapingCheckpointReadiness :=
  if gaps.isEmpty && request.baselineRef.isSome
    && request.implementationBoundary.any (!Text.isBlank ·) then .ready else .blocked

/-- The row the Store records, with the ids of the references the operation names. -/
def checkpointInsert (request : RecordShapingCheckpointRequest) (shapingCheckpointId : String)
    (plans : List StaleAuthorityPlan) (gaps : List PlannedGap) : ShapingCheckpointInsert :=
  let (retired, carried) := match request.checkpointOperation with
    | .createInitial => ([], [])
    | .replaceCurrent _ retiredRefs carryForwardRefs _ => (retiredRefs, carryForwardRefs)
  { shapingCheckpointId := shapingCheckpointId
    checkpointOperation := request.checkpointOperation, taskId := request.taskId
    scopeRevision := request.scopeRevision, baselineRef := request.baselineRef
    summary := request.summary, implementationBoundary := request.implementationBoundary
    readiness := readiness request gaps, createdAt := context.now
    retiredNonAuthorizingRequestIds := retired.map (·.recordId)
    carryForwardApplicationIds := carried.map (·.recordId)
    staleAuthorityDispositions := retiredDispositions plans ++ gaps.filterMap (·.disposition)
    gaps := gaps.map (·.insert) }

def nextLifecycle (task : TaskRecord) (requests : List UserActionRequestRecord)
    (readiness : ShapingCheckpointReadiness) : TaskLifecyclePhase :=
  if !requests.isEmpty then .waitingUser
  else if task.mode = .advisor && readiness = .ready then .ready
  else .shaping

def plan (context : PlanContext) (t : CoreTables) (request : RecordShapingCheckpointRequest)
    (ids : RecordShapingIds) (admitted : AdmittedTransition) : CoreResult OperationPlan := do
  let task ← fromStore (t.taskRecord context.projectId request.taskId)
  let task ← okOr noActiveTaskError task
  ensure (task.mode ∈ [.advisor, .work] && task.workPhase = .shaping)
    (.rejected .workflowActionNotAllowed
      "record_shaping_checkpoint is not allowed for the current Task mode and work phase")
  ensure (task.scopeRevision = request.scopeRevision) (.validation "scope_revision"
    "scope_revision must equal the current Task scope revision")
  let checkpoint ← fromStore (t.currentShapingCheckpoint X request.taskId)
  let graph ← fromStore (t.currentShapingAuthorityGraph X request.taskId context.now)
  let succession ← planSuccession context t request task.mode checkpoint graph
  ensure (!Text.isBlank request.summary) (.validation "summary" "summary must not be empty")
  ensure (request.baselineRef = task.shaping.baselineRef)
    (baselineMismatch task.shaping.baselineRef request.baselineRef)
  let changeUnit ← fromStore (t.currentChangeUnit request.taskId)
  requireFresh (t.shapingCheckpoints.find? ids.shapingCheckpointId).isSome
  let operationIdentity ← okOr (.validation "envelope.idempotency_key"
    "record_shaping_checkpoint requires an idempotency key") request.envelope.idempotencyKey
  let inputs := plannedGaps request succession.staleAuthority
  ensure (!gapConflict succession.carriedApplications (inputs.map (·.1))) gapConflictError
  let gaps ← planGaps X context t task changeUnit ids.shapingCheckpointId operationIdentity
    inputs ids.shapingGapIds ids.userActionRequestIds
  let requests := gaps.filterMap (·.request)
  let lifecycle := nextLifecycle task requests (readiness request gaps)
  return {
    taskId := request.taskId, changeUnitId := changeUnit.map (·.changeUnitId)
    eventKind := "shaping_recorded", descriptor := some admitted.descriptor
    mutations := (requests.map fun row => .userAction (.insertRequest row))
      ++ [.shaping (.record (checkpointInsert context request ids.shapingCheckpointId
        succession.staleAuthority gaps))]
      ++ (if task.closeBasis.isSome then
        [.task (.updateCloseBasis ⟨task.taskId, task.closeBasisRevision + 1, none⟩)] else [])
      ++ (if task.lifecyclePhase ≠ lifecycle then [lifecycleMutation task.taskId lifecycle]
        else []) }

structure Accepted (context : PlanContext) (t : CoreTables)
    (request : RecordShapingCheckpointRequest) (ids : RecordShapingIds) where
  task : TaskRecord
  succession : CheckpointSuccession
  changeUnit : Option ChangeUnitRecord
  gaps : List PlannedGap
  record : t.taskRecord context.projectId request.taskId = .ok (some task)

namespace Accepted
variable {context} {t}
  {request} {ids : RecordShapingIds}
  (accepted : Accepted context t request ids)

def requests : List UserActionRequestRecord := accepted.gaps.filterMap (·.request)

def insert : ShapingCheckpointInsert :=
  checkpointInsert context request ids.shapingCheckpointId accepted.succession.staleAuthority
    accepted.gaps

def lifecycle : TaskLifecyclePhase :=
  nextLifecycle accepted.task accepted.requests (readiness request accepted.gaps)

def plan (admitted : AdmittedTransition) : OperationPlan where
  taskId := request.taskId
  changeUnitId := accepted.changeUnit.map (·.changeUnitId)
  eventKind := "shaping_recorded"
  descriptor := some admitted.descriptor
  mutations := (accepted.requests.map fun row => .userAction (.insertRequest row))
    ++ [.shaping (.record accepted.insert)]
    ++ (if accepted.task.closeBasis.isSome then
      [.task (.updateCloseBasis ⟨accepted.task.taskId, accepted.task.closeBasisRevision + 1,
        none⟩)] else [])
    ++ (if accepted.task.lifecyclePhase ≠ accepted.lifecycle then
      [lifecycleMutation accepted.task.taskId accepted.lifecycle] else [])

end Accepted

theorem plan_ok {X : External} {context : PlanContext} {t : CoreTables}
    {request : RecordShapingCheckpointRequest} {ids : RecordShapingIds}
    {admitted : AdmittedTransition} {result : OperationPlan}
    (h : plan X context t request ids admitted = .ok result) :
    ∃ accepted : Accepted context t request ids, result = accepted.plan admitted := by
  simp only [plan, steps_ok, fromStore_eq_ok, requireFresh_eq_ok] at h
  obtain ⟨_, hrecord, task, rfl, _, _, _, _, _, _, succession, _, _, _, changeUnit, _, _, _, _, _,
    gaps, _, rfl⟩ := h
  exact ⟨⟨task, succession, changeUnit, gaps, hrecord⟩, rfl⟩

end RecordShaping
end Volicord
