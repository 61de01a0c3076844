import Volicord.Core.Pipeline
import Volicord.Core.UserActionAuthority

/-! `workflow_projection.rs`: the shaping authority of a Task, the workflow machine over it, and
the admission of one transition. -/
namespace Volicord
open Result Sorted

inductive ShapingDecisionAuthorityState where
  | awaitingUser | acceptedUnapplied | rejected | deferred | expired | applied | stale
  | superseded | inconsistent
deriving DecidableEq

structure ShapingDecisionAuthorityFacts where
  effectiveUserActionStatus : UserActionStatus
  resolution : Option UserActionResolutionBody
  (requestBasisStatus basisCompatibilityStatus : UserActionBasisStatus)
  (checkpointIdentityMatches gapIdentityMatches resolutionIdentityMatches policyMatches : Bool)
  (verifiedUserChannel taskModeMatches scopeRevisionMatches baselineMatches : Bool)
  changeUnitMatches : Bool
  gapStatus : ShapingGapStatus
  applicationAuthorityStatus : Option ShapingDecisionApplicationAuthorityStatus
  (applicationIdentityMatches applicationLineageCurrent : Bool)

/-- The disposition of an exact resolution through the verified user channel. -/
def ShapingDecisionAuthorityFacts.exactDisposition (facts : ShapingDecisionAuthorityFacts) :
    Option ShapingGapStatus :=
  if facts.resolutionIdentityMatches && facts.verifiedUserChannel
  then facts.resolution.bind CoreTables.dispositionOf else none

def evaluateShapingDecisionAuthority (facts : ShapingDecisionAuthorityFacts) :
    ShapingDecisionAuthorityState :=
  let accepted := facts.exactDisposition = some .accepted
  if facts.effectiveUserActionStatus = .superseded
    || facts.applicationAuthorityStatus = some .superseded then .superseded
  else if facts.effectiveUserActionStatus = .stale
    || facts.applicationAuthorityStatus = some .stale then
    if facts.applicationAuthorityStatus = some .stale
      && !(facts.applicationIdentityMatches && facts.policyMatches && facts.taskModeMatches
        && accepted) then .inconsistent
    else .stale
  else if !(facts.checkpointIdentityMatches && facts.gapIdentityMatches && facts.policyMatches
    && facts.taskModeMatches) then .inconsistent
  else if !(facts.requestBasisStatus = .current && facts.basisCompatibilityStatus = .current
    && facts.scopeRevisionMatches && facts.baselineMatches && facts.changeUnitMatches) then
    .inconsistent
  else match facts.effectiveUserActionStatus, facts.resolution with
    | .pending, none => if facts.gapStatus = .current then .awaitingUser else .inconsistent
    | .expired, none => if facts.gapStatus = .current then .expired else .inconsistent
    | .resolved, some _ => match facts.exactDisposition with
      | some .accepted => match facts.applicationAuthorityStatus with
        | some _ => if facts.applicationIdentityMatches && facts.applicationLineageCurrent
            && facts.gapStatus = .applied then .applied else .inconsistent
        | none => if facts.gapStatus = .accepted then .acceptedUnapplied else .inconsistent
      | some .rejected => if facts.gapStatus = .rejected then .rejected else .inconsistent
      | some .deferred => if facts.gapStatus = .deferred then .deferred else .inconsistent
      | _ => .inconsistent
    | _, _ => .inconsistent

structure WorkflowUserActionFact where
  userActionRequestId : String
  userActionResolutionId : Option String
  status : UserActionStatus
  authorityState : ShapingDecisionAuthorityState
  requiredOwnerMethod : MethodName

structure TaskWideShapingAuthority where
  /-- The facts that take part in progression, in the order of their request ids. -/
  facts : List WorkflowUserActionFact
  /-- The requests that wait for the user although no gap of the checkpoint represents them. -/
  unrepresented : List WorkflowUserActionFact
  (staleApplicationIds pendingRequestIds : List String)
  (pendingScopeUpdate pendingRecordRun : Bool)

namespace TaskWideShapingAuthority

variable (authority : TaskWideShapingAuthority)

def inState (states : List ShapingDecisionAuthorityState) : List WorkflowUserActionFact :=
  authority.facts.filter fun fact => states.contains fact.authorityState

def awaitingUser := authority.inState [.awaitingUser]

def acceptedUnapplied :=
  authority.inState [.acceptedUnapplied]

def recoveryRequired :=
  authority.inState [.rejected, .deferred, .expired]

def applied := authority.inState [.applied]

def stale := authority.inState [.stale]

def inconsistent : List WorkflowUserActionFact :=
  authority.inState [.inconsistent] ++ authority.unrepresented

def currentResolutionIds : List String :=
  authority.applied.filterMap (·.userActionResolutionId)

def blocksAdvanceApplication : Bool :=
  !authority.awaitingUser.isEmpty || !authority.recoveryRequired.isEmpty
  || !authority.stale.isEmpty || !authority.inconsistent.isEmpty

def allFacts : List WorkflowUserActionFact :=
  authority.facts ++ authority.unrepresented

def blockingFacts : List WorkflowUserActionFact :=
  authority.awaitingUser ++ authority.acceptedUnapplied ++ authority.recoveryRequired
  ++ authority.stale ++ authority.inconsistent

def progressionRequestIds : List String :=
  (authority.allFacts.filter (·.status = .pending)).map (·.userActionRequestId)

def resolutionIdsFor (owner : MethodName) : List String :=
  (authority.acceptedUnapplied.filter (·.requiredOwnerMethod = owner)).filterMap
    (·.userActionResolutionId)

end TaskWideShapingAuthority

def ShapingDecisionApplicationOwner.method : ShapingDecisionApplicationOwner → MethodName
  | .updateScope => .updateScope
  | .advanceTask => .advanceTask
  | .finalizeAdvice => .finalizeAdvice

def taskOperationRefs (projectId : String) (stateVersion : Nat) (taskId : String)
    (changeUnit : Option ChangeUnitRecord) : List StateRecordRef :=
  stateRef .task taskId projectId (some taskId) (some stateVersion)
    :: changeUnit.toList.map fun row =>
      stateRef .changeUnit row.changeUnitId projectId (some taskId) (some row.basisStateVersion)

/-- One record of the authority graph as workflow progression sees it. -/
structure ProgressionRecord where
  userAction : StoredUserActionRecordSet
  representedGap : Option ShapingCheckpointGapRecord
  application : Option (ShapingDecisionApplicationRecord × ShapingCheckpointGapRecord)

namespace ProgressionRecord

def source (record : ProgressionRecord) : Option ShapingCheckpointGapRecord :=
  match record.application with
  | some (_, sourceGap) => some sourceGap
  | none => record.representedGap

def participates (mode : TaskMode) (record : ProgressionRecord) : Bool :=
  record.representedGap.isSome
  || (record.application.any fun (application, _) =>
    application.row.authorityStatus ≠ .superseded)
  || if mode = .advisor then record.userAction.request.requiredFor.contains .finalizeAdvice
      || record.userAction.request.requiredFor.contains .scopeUpdate
    else record.userAction.request.requiredFor.contains .advanceTask

variable (X : External) (task : TaskRecord)

/-- The application is exactly the one its resolution and owner derive. -/
def applicationIdentityMatches (record : ProgressionRecord)
    (policy : Option ShapingDecisionPolicy) : Bool :=
  record.application.any fun (application, gap) =>
    application.row.taskId = task.taskId
    && application.row.sourceCheckpointId = gap.row.shapingCheckpointId
    && application.row.sourceGapId = gap.row.shapingGapId
    && application.row.userActionRequestId = record.userAction.request.userActionRequestId
    && (record.userAction.resolution.map (·.userActionResolutionId))
      = some application.row.userActionResolutionId
    && gap.row.gapKind.judgmentKind = some application.row.judgmentKind
    && policy.any (·.applicationOwner = application.row.applicationOwner)
    && shapingDecisionApplicationId X application.row.userActionResolutionId
      application.row.applicationOwner = application.row.shapingDecisionApplicationId

def authorityFacts (changeUnitId : Option String) (checkpointId : Option String)
    (record : ProgressionRecord) : ShapingDecisionAuthorityFacts :=
  let request := record.userAction.request
  let coordinates := request.basis.coordinates
  let resolution := record.userAction.resolution
  let policy := record.source.bind fun gap => gap.row.gapKind.decisionPolicyForMode task.mode
  let application := record.application.map (·.1.row)
  { effectiveUserActionStatus := record.userAction.status
    resolution := resolution.map (·.resolution)
    requestBasisStatus := request.basisStatus
    basisCompatibilityStatus := request.basis.compatibilityStatus
    checkpointIdentityMatches := record.source.any fun gap => request.originMatches gap.row
    gapIdentityMatches := record.source.isSome
    resolutionIdentityMatches := resolution.all fun row => record.source.any fun gap =>
      gap.userAction.any fun link => link.userActionResolutionId = some row.userActionResolutionId
    policyMatches := policy.any fun policy =>
      policy.userActionKind = request.actionKind && policy.requiredFor = request.requiredFor
    verifiedUserChannel := resolution.isNone || record.userAction.verifiedUserChannelProvenance
    taskModeMatches := policy.isSome
    scopeRevisionMatches := coordinates.taskId = task.taskId
      && (application.elim coordinates.scopeRevision (·.appliedScopeRevision))
        = task.scopeRevision
    baselineMatches := (application.elim coordinates.baselineRef fun row =>
      some row.appliedBaselineRef) = task.shaping.baselineRef
    changeUnitMatches := (application.elim coordinates.changeUnitId (·.appliedChangeUnitId))
      = changeUnitId
    gapStatus := record.source.elim .current (·.row.status)
    applicationAuthorityStatus := application.map (·.authorityStatus)
    applicationIdentityMatches := record.applicationIdentityMatches X task policy
    applicationLineageCurrent := record.application.any fun (application, _) =>
      checkpointId.isSome && application.linkedCheckpointId = checkpointId }

def authorityState (changeUnitId checkpointId : Option String) (record : ProgressionRecord) :
    ShapingDecisionAuthorityState :=
  if record.representedGap.isNone && record.userAction.status = .pending
    && record.userAction.hasCurrentBasis
    && record.userAction.request.basis.coordinates.taskId = task.taskId
    && record.userAction.request.basis.coordinates.scopeRevision = task.scopeRevision
  then .awaitingUser
  else evaluateShapingDecisionAuthority (record.authorityFacts X task changeUnitId checkpointId)

def fact (changeUnitId checkpointId : Option String) (record : ProgressionRecord) :
    WorkflowUserActionFact :=
  let state := record.authorityState X task changeUnitId checkpointId
  let policy := record.source.bind fun gap => gap.row.gapKind.decisionPolicyForMode task.mode
  { userActionRequestId := record.userAction.request.userActionRequestId
    userActionResolutionId := record.userAction.resolution.map (·.userActionResolutionId)
    status := record.userAction.status
    authorityState := state
    requiredOwnerMethod := match state with
      | .awaitingUser => .resolveUserAction
      | .acceptedUnapplied => policy.elim .status (·.applicationOwner.method)
      | .rejected | .deferred | .expired => .recordShapingCheckpoint
      | .stale => if task.workPhase = .shaping then .recordShapingCheckpoint else .closeTask
      | .applied | .superseded | .inconsistent => .status }

end ProgressionRecord

/-- The application of a record: the one of its request and its resolution. -/
def StoredUserActionRecordSet.applicationIn (userAction : StoredUserActionRecordSet)
    (authorities : List CurrentShapingApplicationAuthority) :
    Option (ShapingDecisionApplicationRecord × ShapingCheckpointGapRecord) :=
  (authorities.find? fun authority =>
    authority.application.row.userActionRequestId = userAction.request.userActionRequestId
    && userAction.resolution.any fun resolution =>
      resolution.userActionResolutionId = authority.application.row.userActionResolutionId).map
    fun authority => (authority.application, authority.sourceGap)

namespace CurrentShapingAuthorityGraph

variable (graph : CurrentShapingAuthorityGraph)

def authorities : List CurrentShapingApplicationAuthority :=
  graph.currentApplications ++ graph.staleRecoveryObligations

/-- The record of a request: that of an application replaces that of a gap decision. -/
def userAction (requestId : String) : Option StoredUserActionRecordSet :=
  match graph.authorities.reverse.find? fun authority =>
    authority.userAction.request.userActionRequestId = requestId with
  | some authority => some authority.userAction
  | none => (graph.currentGapDecisions.find? fun decision =>
      decision.userAction.request.userActionRequestId = requestId).map (·.userAction)

def progressionRecords : List ProgressionRecord :=
  let gaps := graph.currentCheckpoint.elim [] (·.gaps)
  let requestIds := sortDedup
    (graph.currentGapDecisions.map (·.userAction.request.userActionRequestId)
      ++ graph.authorities.map (·.userAction.request.userActionRequestId))
  requestIds.filterMap fun requestId => (graph.userAction requestId).map fun userAction =>
    { userAction := userAction
      representedGap := gaps.find? fun gap =>
        gap.userAction.any (·.userActionRequestId = requestId)
      application := userAction.applicationIn graph.authorities }

end CurrentShapingAuthorityGraph

def taskWideShapingAuthority (X : External) (projectId : String) (stateVersion : Nat)
    (now : UtcTimestamp) (t : CoreTables) (task : TaskRecord)
    (changeUnit : Option ChangeUnitRecord) : StoreResult TaskWideShapingAuthority := do
  let records ← t.userActionHistoryForTask now task.taskId
  let changeUnitId := changeUnit.map (·.changeUnitId)
  let operation (operation : UserActionOperation) : UserActionOperationContext :=
    { operation := operation, taskId := task.taskId, changeUnitId := changeUnitId
      scopeRevision := task.scopeRevision, closeBasis := none
      operationRefs := taskOperationRefs projectId stateVersion task.taskId changeUnit
      sensitiveApproval := none }
  let graph ← t.currentShapingAuthorityGraph X task.taskId now
  let checkpointId := graph.currentCheckpoint.map (·.row.shapingCheckpointId)
  let progression := graph.progressionRecords.filter (·.participates task.mode)
  let fact := fun record : ProgressionRecord => record.fact X task changeUnitId checkpointId
  return {
    facts := (progression.map fact).filter (·.authorityState ≠ .superseded)
    unrepresented := ((progression.filter (·.representedGap.isNone)).map fact).filter
      (·.authorityState = .awaitingUser)
    staleApplicationIds := graph.staleRecoveryObligations.map fun authority =>
      authority.application.row.shapingDecisionApplicationId
    pendingRequestIds := sortDedup ((records.filter (·.status = .pending)).map
      (·.request.userActionRequestId))
    pendingScopeUpdate := records.any (·.blocksOperation (operation .scopeUpdate))
    pendingRecordRun := records.any (·.blocksOperation (operation .recordRun)) }

end Volicord
