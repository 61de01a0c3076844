import Volicord.Core.CloseReadiness

/-! `methods/reconcile_changes.rs`: each unrecorded product change is resolved by what Core can
verify or by the user's decision, and otherwise the user is asked. A call that resolves nothing
and asks nothing commits nothing. -/
namespace Volicord
open Result

inductive UnrecordedChangeResolutionBasis where
  | reverted | coveredByWriteTicket | recordedAsExpectedWrite | acceptedByUser
deriving DecidableEq

structure UnrecordedChangeResolutionRequest where
  unrecordedChangeId : String
  basis : UnrecordedChangeResolutionBasis
  userActionResolutionId : Option String

structure ReconcileChangesRequest where
  envelope : ToolEnvelope
  taskId : String
  resolutionRequests : List UnrecordedChangeResolutionRequest

namespace ReconcileChanges

def actionKey : WorkflowActionKey := ⟨.reconcileChanges, .reconcileChanges⟩

variable (request : ReconcileChangesRequest)

def coordinatesMatch : WorkflowActionAuthorityCoordinates → Bool
  | .reconcileChanges taskId => taskId = request.taskId
  | _ => false

def operationCategory : OperationCategory → OperationCategory
  | .localRecovery => .localRecovery
  | _ => .agentWorkflow

/-- `unresolved_records_for_request`: an agent sees the changes of its own connection. -/
def unresolvedRecords (context : PlanContext) (t : CoreTables) (taskId : String) :
    List UnrecordedChangeRecord :=
  t.unrecordedChanges.rows.filter fun record => !record.resolved
    && (ActorSource.agentConnectionId context.invocation.actorSource).all (record.connectionId = ·)
    && record.taskId.all (· = taskId)

def unrecordedRef (context : PlanContext) (taskId : String) (record : UnrecordedChangeRecord) :
    StateRecordRef :=
  stateRef .unrecordedChange record.unrecordedChangeId context.projectId (some taskId)
    (some context.stateVersion)

def sameStateRecord (left right : StateRecordRef) : Bool :=
  left.recordKind = right.recordKind && left.recordId = right.recordId
  && left.projectId = right.projectId

variable (taskId : String) (reference : StateRecordRef)

def acceptedAuthority (record : StoredUserActionRecordSet) : Bool :=
  record.acceptedCurrentUserAuthority .productDecision && record.request.taskId = taskId
  && record.request.affectedRefs.any (sameStateRecord · reference)

def pendingAuthority (record : StoredUserActionRecordSet) : Bool :=
  record.status = .pending && record.request.actionKind = .productDecision
  && record.request.taskId = taskId
  && record.request.affectedRefs.any (sameStateRecord · reference)

/-- The first request for a change that names an accepted resolution of it. -/
def acceptedByRequest (userActions : List StoredUserActionRecordSet)
    (record : UnrecordedChangeRecord) : Bool :=
  (request.resolutionRequests.find? (·.unrecordedChangeId = record.unrecordedChangeId)).any
    fun requested => requested.basis = .acceptedByUser
      && requested.userActionResolutionId.any fun resolutionId => userActions.any fun action =>
        (action.resolution.any (·.userActionResolutionId = resolutionId))
        && acceptedAuthority request.taskId reference action

def ticketCovers (paths : List String) (ticket : StoredWriteTicket) : Bool :=
  ticket.attemptScope.productFileWriteIntended
  && pathsAreAuthorized paths (ticket.pathScope.allowed.map (·.text))
  && !paths.any fun path => ticket.pathScope.denied.any fun denied => pathIsWithin path denied.text

def deterministicResolution (t : CoreTables) (taskId : String)
    (reusable : List StoredWriteTicket) (record : UnrecordedChangeRecord) : Bool :=
  (t.runs.rows.any fun run => run.taskId = taskId
    && run.observedChanges.productFileWriteObserved
    && pathsAreAuthorized record.paths run.observedChanges.changedPaths)
  || (t.writeTickets.rows.any fun ticket => ticket.taskId = taskId
    && ticket.status = .consumed && ticketCovers record.paths ticket)
  || (reusable.filter (ticketCovers record.paths)).length = 1

/-- The question of `plan_reconciliation_user_action`. -/
def userActionIntent (changeUnit : Option ChangeUnitRecord) (reference : StateRecordRef)
    (record : UnrecordedChangeRecord) : UserActionIntent where
  taskId := taskId
  changeUnitId := changeUnit.map (·.changeUnitId)
  action := .choice
    { judgmentKind := .productDecision
      question :=
        "Do you accept this observed Product Repository change as intentional for this Task?"
      contextSummary := record.summary
      options := [⟨"accept", true⟩]
      affectedRefs := [reference]
      sensitiveActionScope := none }
  requiredFor := [.informational]
  expiresAt := none

def planUserAction (X : External) (context : PlanContext) (t : CoreTables)
    (request : ReconcileChangesRequest) (task : TaskRecord) (changeUnit : Option ChangeUnitRecord)
    (requestId : String) (record : UnrecordedChangeRecord) : CoreResult CoreStorageMutation := do
  let constructed ← constructUserAction X context t task changeUnit (userActionIntent
    request.taskId changeUnit (unrecordedRef context request.taskId record) record)
  let operationIdentity ← okOr (.validation "envelope.idempotency_key"
    "a reconciliation user-action request requires an idempotency key")
    request.envelope.idempotencyKey
  requireFresh (t.userActionRequests.find? requestId).isSome
  return .userAction (.insertRequest (materializeUserActionRequest context requestId
    operationIdentity (.reconciliation record.unrecordedChangeId) constructed))

def plan (X : External) (context : PlanContext) (t : CoreTables)
    (request : ReconcileChangesRequest) (requestIds : List String)
    (admitted : AdmittedTransition) : CoreResult OperationPlan := do
  let task ← fromStore (t.taskRecord context.projectId request.taskId)
  let task ← okOr noActiveTaskError task
  let changeUnit ← fromStore (t.currentChangeUnit request.taskId)
  let userActions ← fromStore (t.userActionHistoryForTask context.now request.taskId)
  let policy ← fromStore (t.projectWorkflowPolicy X)
  let reusable := t.reusableWriteTickets context task policy userActions
  let resolvable (record : UnrecordedChangeRecord) : Bool :=
    let reference := unrecordedRef context request.taskId record
    acceptedByRequest request reference userActions record
    || deterministicResolution t request.taskId reusable record
    || userActions.any (acceptedAuthority request.taskId reference)
  let unresolved := unresolvedRecords context t request.taskId
  let open_ := unresolved.filter fun record => !resolvable record
    && !userActions.any (pendingAuthority request.taskId
      (unrecordedRef context request.taskId record))
  requireFresh (!(requestIds.length = open_.length && requestIds.Nodup))
  let asked ← (open_.zip requestIds).mapM fun (record, requestId) =>
    planUserAction X context t request task changeUnit requestId record
  let mutations := (unresolved.filter resolvable).map (fun record =>
    .continuity (.resolveUnrecordedChange record.unrecordedChangeId)) ++ asked
  ensure (!mutations.isEmpty) .readOnly
  return {
    taskId := request.taskId, changeUnitId := none
    eventKind := "unrecorded_changes_reconciled", descriptor := some admitted.descriptor
    mutations := mutations }

structure Reading (X : External) (context : PlanContext) (t : CoreTables)
    (request : ReconcileChangesRequest) where
  task : TaskRecord
  changeUnit : Option ChangeUnitRecord
  userActions : List StoredUserActionRecordSet
  policy : CoreWorkflowPolicy
  record : t.taskRecord context.projectId request.taskId = .ok (some task)
  unit : t.currentChangeUnit request.taskId = .ok changeUnit
  history : t.userActionHistoryForTask context.now request.taskId = .ok userActions
  policyRead : t.projectWorkflowPolicy X = .ok policy

namespace Reading
variable {X : External} {context : PlanContext} {t : CoreTables}
  {request : ReconcileChangesRequest} (reading : Reading X context t request)

def resolvable (record : UnrecordedChangeRecord) : Bool :=
  acceptedByRequest request (unrecordedRef context request.taskId record) reading.userActions record
  || deterministicResolution t request.taskId
    (t.reusableWriteTickets context reading.task reading.policy reading.userActions) record
  || reading.userActions.any
    (acceptedAuthority request.taskId (unrecordedRef context request.taskId record))

def undecided (record : UnrecordedChangeRecord) : Bool :=
  !reading.resolvable record
  && !reading.userActions.any
    (pendingAuthority request.taskId (unrecordedRef context request.taskId record))

end Reading

structure Accepted (X : External) (context : PlanContext) (t : CoreTables)
    (request : ReconcileChangesRequest) (requestIds : List String)
    extends Reading X context t request where
  asked : List CoreStorageMutation
  ids : requestIds.length
      = ((unresolvedRecords context t request.taskId).filter toReading.undecided).length
    && requestIds.Nodup
  askedPlanned : (((unresolvedRecords context t request.taskId).filter
      toReading.undecided).zip requestIds).mapM (fun (record, requestId) =>
    planUserAction X context t request task changeUnit requestId record) = .ok asked

def Accepted.plan {X context t request requestIds}
    (accepted : Accepted X context t request requestIds) (admitted : AdmittedTransition) :
    OperationPlan where
  taskId := request.taskId
  changeUnitId := none
  eventKind := "unrecorded_changes_reconciled"
  descriptor := some admitted.descriptor
  mutations := ((unresolvedRecords context t request.taskId).filter accepted.resolvable).map
    (fun record => .continuity (.resolveUnrecordedChange record.unrecordedChangeId))
    ++ accepted.asked

theorem plan_ok {X : External} {context : PlanContext} {t : CoreTables}
    {request : ReconcileChangesRequest} {requestIds : List String} {admitted : AdmittedTransition}
    {result : OperationPlan} (h : plan X context t request requestIds admitted = .ok result) :
    ∃ accepted : Accepted X context t request requestIds, result = accepted.plan admitted := by
  simp only [plan, steps_ok, fromStore_eq_ok, requireFresh_eq_ok, Bool.not_eq_false'] at h
  obtain ⟨_, hrecord, task, rfl, changeUnit, hunit, userActions, hhistory, policy, hpolicy, hids,
    asked, hasked, _, rfl⟩ := h
  exact ⟨⟨⟨task, changeUnit, userActions, policy, hrecord, hunit, hhistory, hpolicy⟩, asked, hids,
    hasked⟩, rfl⟩

end ReconcileChanges
end Volicord
