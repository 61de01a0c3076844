import Volicord.Store.UserActions

/-! `volicord-user-action-service`: what a stored user action authorizes or blocks, and the
lifecycle phase its pending requests project. `UserActionAuthority` repeats the columns of
the stored record set, so its functions read the record set itself. -/
namespace Volicord

inductive UserActionOperation where
  | scopeUpdate | prepareWrite | recordRun | closeComplete | closeSupersede
deriving DecidableEq

def UserActionOperation.requiredFor : UserActionOperation → UserActionRequiredFor
  | .scopeUpdate => .scopeUpdate
  | .prepareWrite => .prepareWrite
  | .recordRun => .recordRun
  | .closeComplete => .closeComplete
  | .closeSupersede => .closeSupersede

structure SensitiveApprovalRequirement where
  (taskId changeUnitId : String)
  scopeRevision : Nat
  operation : String
  (normalizedPaths sensitiveCategories : List String)
  baselineRef : Option String
  requiredFor : UserActionRequiredFor
  now : UtcTimestamp

structure UserActionOperationContext where
  operation : UserActionOperation
  taskId : String
  changeUnitId : Option String
  scopeRevision : Nat
  closeBasis : Option CurrentCloseBasis
  operationRefs : List StateRecordRef
  sensitiveApproval : Option SensitiveApprovalRequirement

def stateRef (kind : StateRecordKind) (recordId projectId : String) (taskId : Option String)
    (stateVersion : Option Nat) : StateRecordRef :=
  ⟨kind, recordId, projectId, taskId, stateVersion⟩

/-- The identity of a reference, its version left out. -/
def StateRecordRef.key (reference : StateRecordRef) :
    StateRecordKind × String × String × Option String :=
  (reference.recordKind, reference.recordId, reference.projectId, reference.taskId)

def stateRefsMatch (left right : List StateRecordRef) : Bool :=
  (left.map (·.key)).isPerm (right.map (·.key))

def refsOverlap (left right : StateRecordRef) : Bool :=
  left.projectId = right.projectId
  && ((left.recordKind = .task && right.taskId = left.taskId)
    || (right.recordKind = .task && left.taskId = right.taskId)
    || (left.recordKind = right.recordKind && left.recordId = right.recordId))

def affectedRefsOverlap (userActionRefs operationRefs : List StateRecordRef) : Bool :=
  userActionRefs.isEmpty || operationRefs.isEmpty
  || userActionRefs.any fun reference => operationRefs.any (refsOverlap reference)

def finalAcceptanceBasisMatchesCurrent (basis : UserActionBasis) (current : CurrentCloseBasis) :
    Bool :=
  basis.coordinates.taskId = current.taskId
  && basis.coordinates.changeUnitId = some current.changeUnitId
  && basis.coordinates.scopeRevision = current.scopeRevision
  && basis.closeBasisRevision = some current.closeBasisRevision
  && basis.coordinates.baselineRef = current.baselineRef
  && stateRefsMatch basis.resultRefs current.resultRefs

def residualRiskBasisMatchesCurrent (basis : UserActionBasis) (current : CurrentCloseBasis) :
    Bool :=
  basis.coordinates.taskId = current.taskId
  && basis.closeBasisRevision = some current.closeBasisRevision
  && idSetsEqual basis.residualRiskIds
    ((current.residualRisks.filter (·.acceptanceRequired)).map (·.riskId))

def basisMatchesOperationContext (basis : UserActionBasis)
    (context : UserActionOperationContext) : Bool :=
  basis.coordinates.taskId = context.taskId
  && basis.coordinates.scopeRevision = context.scopeRevision
  && context.changeUnitId.all (fun id => basis.coordinates.changeUnitId = some id)
  && match context.operation, context.closeBasis with
    | .closeComplete, some closeBasis => basis.closeBasisRevision.isNone
      || finalAcceptanceBasisMatchesCurrent basis closeBasis
      || residualRiskBasisMatchesCurrent basis closeBasis
    | _, _ => true

/-- The scope is unexpired, names the operation, and covers its categories and paths. -/
def sensitiveActionScopeMatchesRequirement (scope : SensitiveActionScope)
    (requirement : SensitiveApprovalRequirement) : Bool :=
  scope.expiresAt.all (requirement.now < ·)
  && scope.actionKind = Text.trim requirement.operation
  && requirement.sensitiveCategories.all scope.sensitiveCategories.contains
  && match parseProductPaths scope.intendedPaths with
    | .error _ => false
    | .ok approvedPaths => requirement.normalizedPaths.all fun path =>
      approvedPaths.any fun approved => pathIsWithin path approved.text

namespace StoredUserActionRecordSet

variable (record : StoredUserActionRecordSet)

def hasCurrentBasis : Bool :=
  record.request.basisStatus = .current && record.request.basis.compatibilityStatus = .current

/-- `verified_user_channel_provenance`; the channel always has its verification basis. -/
def verifiedUserChannelProvenance : Bool :=
  record.resolution.any fun resolution =>
    resolution.resolvedByActorSource = .localUser
    && !Text.isBlank resolution.resolvedAssuranceLevel

def acceptedCurrentUserAuthority (requiredKind : UserActionKind) : Bool :=
  record.hasCurrentBasis && record.status = .resolved && record.request.actionKind = requiredKind
  && (record.resolution.any fun resolution => CoreTables.acceptedChoice resolution.resolution)
  && record.verifiedUserChannelProvenance

def currentSensitiveApproval (requirement : SensitiveApprovalRequirement) : Bool :=
  record.acceptedCurrentUserAuthority .sensitiveApproval
  && record.request.requiredFor.contains requirement.requiredFor
  && record.request.basis.coordinates.taskId = requirement.taskId
  && record.request.basis.coordinates.changeUnitId = some requirement.changeUnitId
  && record.request.basis.coordinates.scopeRevision = requirement.scopeRevision
  && record.request.basis.coordinates.baselineRef = requirement.baselineRef
  && record.request.basis.sensitiveActionScope.any fun scope =>
    sensitiveActionScopeMatchesRequirement scope requirement

def blocksOperation (context : UserActionOperationContext) : Bool :=
  record.status = .pending && record.hasCurrentBasis
  && record.request.requiredFor.contains context.operation.requiredFor
  && record.request.actionKind.isCompatibleWithRequiredFor context.operation.requiredFor
  && basisMatchesOperationContext record.request.basis context
  && affectedRefsOverlap record.request.affectedRefs context.operationRefs
  && (record.request.actionKind ≠ .sensitiveApproval
    || context.sensitiveApproval.any fun requirement =>
      record.request.basis.coordinates.baselineRef = requirement.baselineRef
      && record.request.basis.sensitiveActionScope.any fun scope =>
        sensitiveActionScopeMatchesRequirement scope requirement)

def currentCancellationAuthority (taskId : String) (changeUnitId : Option String)
    (scopeRevision : Nat) : Bool :=
  record.acceptedCurrentUserAuthority .cancellation
  && record.request.requiredFor.contains .closeCancel
  && record.request.basis.coordinates.taskId = taskId
  && record.request.basis.coordinates.scopeRevision = scopeRevision
  && record.request.basis.coordinates.changeUnitId = changeUnitId

def keepsTaskWaiting (taskId : String) (currentChangeUnitId : Option String) (scopeRevision : Nat) :
    Bool :=
  record.status = .pending && record.hasCurrentBasis && record.request.taskId = taskId
  && record.request.requiredFor.any (· ≠ .informational)
  && record.request.basis.coordinates.taskId = taskId
  && record.request.basis.coordinates.scopeRevision = scopeRevision
  && record.request.basis.coordinates.changeUnitId = currentChangeUnitId

end StoredUserActionRecordSet

/-- The phase a Task takes from its pending requests, when that changes it. Only the active
Task moves, and a terminal one never does. -/
def projectedUserActionLifecyclePhase (activeTaskId : Option String) (task : TaskRecord)
    (currentChangeUnitId : Option String) (pending : List StoredUserActionRecordSet) :
    Option TaskLifecyclePhase :=
  if activeTaskId ≠ some task.taskId || task.lifecyclePhase.terminal then none
  else
    let waitsForUser := pending.any fun record =>
      record.keepsTaskWaiting task.taskId currentChangeUnitId task.scopeRevision
    let nextPhase := if waitsForUser then some TaskLifecyclePhase.waitingUser
      else if task.lifecyclePhase = .waitingUser then
        some (if currentChangeUnitId.isSome then .ready else .shaping)
      else none
    nextPhase.filter (task.lifecyclePhase ≠ ·)

def CoreTables.pendingUserActions (now : UtcTimestamp) (t : CoreTables) (taskId : String) :
    StoreResult (List StoredUserActionRecordSet) :=
  (t.userActionHistoryForTask now taskId).map fun records => records.filter (·.status = .pending)

def CoreTables.pendingUserActionsForOperation (now : UtcTimestamp) (t : CoreTables)
    (context : UserActionOperationContext) : StoreResult (List StoredUserActionRecordSet) :=
  (t.userActionHistoryForTask now context.taskId).map fun records =>
    records.filter (·.blocksOperation context)

end Volicord
