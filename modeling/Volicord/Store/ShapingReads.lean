import Volicord.Store.UserActions

/-! The strict reads of `core_pipeline/shaping.rs`: the current checkpoint of a Task with its
gaps and applications, and the authority graph workflow progression starts from. -/
namespace Volicord
open Result Relational

structure ShapingCheckpointGapRecord where
  row : ShapingGapRow
  userAction : Option ShapingGapLinkRow

structure ShapingDecisionApplicationRecord where
  row : ShapingDecisionApplicationRow
  linkedCheckpointId : Option String

structure ShapingCheckpointRecord where
  row : ShapingCheckpointRow
  gaps : List ShapingCheckpointGapRecord
  applications : List ShapingDecisionApplicationRecord

structure CurrentShapingGapDecision where
  checkpointId : String
  gap : ShapingCheckpointGapRecord
  userAction : StoredUserActionRecordSet

structure CurrentShapingApplicationAuthority where
  application : ShapingDecisionApplicationRecord
  sourceGap : ShapingCheckpointGapRecord
  userAction : StoredUserActionRecordSet

structure CurrentShapingAuthorityGraph where
  currentCheckpoint : Option ShapingCheckpointRecord
  currentGapDecisions : List CurrentShapingGapDecision
  (currentApplications staleRecoveryObligations : List CurrentShapingApplicationAuthority)

def UserActionRequestRecord.originMatches (request : UserActionRequestRecord)
    (gap : ShapingGapRow) : Bool :=
  match request.metadata with
  | .shaping checkpointId gapId reauthorizes =>
    checkpointId = gap.shapingCheckpointId && gapId = gap.shapingGapId
    && reauthorizes = gap.reauthorizesApplicationId
  | _ => false

def ShapingGapStatus.expects (status : ShapingGapStatus)
    (resolution : Option UserActionResolutionBody) : Bool :=
  match status, resolution with
  | .current, none => true
  | .accepted, some body | .applied, some body => CoreTables.dispositionOf body = some .accepted
  | .rejected, some body => CoreTables.dispositionOf body = some .rejected
  | .deferred, some body => CoreTables.dispositionOf body = some .deferred
  | _, _ => false

namespace CoreTables

def corruptShaping (table recordRef column : String) : StoreError :=
  .corruptOwnerStateValue table recordRef column

variable (t : CoreTables)

def shapingLink (mode : TaskMode) (gap : ShapingGapRow) (requestId : String) :
    StoreResult ShapingGapLinkRow := do
  let corrupt := corruptShaping "shaping_checkpoint_user_actions" requestId
  let link ← okOr (corrupt "user_action_request_id") (t.shapingGapLinks.rows.find? fun row =>
    row.shapingCheckpointId = gap.shapingCheckpointId && row.userActionRequestId = requestId)
  let request ← okOr (corrupt "user_action_request_id") (t.userActionRequests.find? requestId)
  let policy ← okOr (corruptShaping "shaping_checkpoint_gaps" requestId "gap_kind")
    (gap.gapKind.decisionPolicyForMode mode)
  ensure (link.taskId = gap.taskId && link.actionKind = policy.userActionKind
      && request.requiredFor = policy.requiredFor && request.originMatches gap)
    (corrupt "task_id")
  let resolution := link.userActionResolutionId.bind t.userActionResolutions.find?
  ensure (gap.status.expects (resolution.map (·.resolution)))
    (corruptShaping "shaping_checkpoint_gaps" gap.shapingGapId "status")
  return link

/-- One round of the loop of `shaping_gaps`. -/
def shapingGapRecord (mode : TaskMode) (gap : ShapingGapRow) :
    StoreResult ShapingCheckpointGapRecord := do
  let corrupt := corruptShaping "shaping_checkpoint_gaps" gap.shapingGapId
  let userAction ← match gap.userActionRequestId, gap.userActionKind with
    | some requestId, some actionKind => do
      ensure (gap.gapKind.judgmentKind = some actionKind) (corrupt "user_action_kind")
      let link ← t.shapingLink mode gap requestId
      pure (some link)
    | none, none => do
      ensure (!gap.gapKind.isUserOwned) (corrupt "user_action_request_id")
      pure none
    | _, _ => .error (corrupt "user_action_request_id")
  ensure (gap.status ≠ .applied || t.shapingApplications.rows.any fun application =>
      application.sourceCheckpointId = gap.shapingCheckpointId
      && application.sourceGapId = gap.shapingGapId)
    (corrupt "status")
  ensure ((gap.status ≠ .current : Bool)
      = userAction.any fun link => link.userActionResolutionId.isSome)
    (corrupt "status")
  return ⟨gap, userAction⟩

variable (X : External)

def shapingApplicationRecord (t : CoreTables) (application : ShapingDecisionApplicationRow)
    (linkedCheckpointId : Option String) : StoreResult ShapingDecisionApplicationRecord := do
  let corrupt := corruptShaping "shaping_decision_applications"
    application.shapingDecisionApplicationId
  ensure (match application.authorityStatus with
      | .current => application.staleAt.isNone && application.supersededAt.isNone
      | .stale => application.staleAt.isSome && application.supersededAt.isNone
      | .superseded => application.supersededAt.isSome)
    (corrupt "authority_status")
  let hasLineage := t.shapingReauthorizations.rows.any fun row =>
    row.taskId = application.taskId
    && row.staleApplicationId = application.shapingDecisionApplicationId
  ensure (match application.authorityStatus with
      | .current | .stale => !hasLineage
      | .superseded => application.staleAt.isSome = hasLineage)
    (corrupt "stale_at")
  ensure (shapingDecisionApplicationId X application.userActionResolutionId
      application.applicationOwner = application.shapingDecisionApplicationId)
    (corrupt "shaping_decision_application_id")
  let gapKey := (application.sourceCheckpointId, application.sourceGapId)
  ensure (((t.shapingGaps.find? gapKey).any fun gap =>
        gap.taskId = application.taskId && gap.status = .applied)
      && ((t.shapingGapLinks.find? gapKey).any fun link =>
        link.userActionRequestId = application.userActionRequestId
        && link.userActionResolutionId = some application.userActionResolutionId
        && link.actionKind = application.judgmentKind)
      && ((t.userActionResolutions.find? application.userActionResolutionId).any fun resolution =>
        resolution.userActionRequestId = application.userActionRequestId
        && acceptedChoice resolution.resolution))
    (corrupt "source_gap_id")
  ensure (application.authorityStatus ≠ .current
      || (linkedCheckpointId.isSome && (t.taskRow application.taskId).any fun task =>
        application.hasCoordinates task.scopeRevision task.shaping.baselineRef
          task.currentChangeUnitId))
    (corrupt "authority_status")
  return ⟨application, linkedCheckpointId⟩

def applicationsForCheckpoint (t : CoreTables) (taskId checkpointId : String) :
    StoreResult (List ShapingDecisionApplicationRecord) :=
  (t.shapingApplicationLinks.rows.filterMap fun link =>
    if link.taskId = taskId && link.shapingCheckpointId = checkpointId then
      (t.shapingApplications.find? link.shapingDecisionApplicationId).filter fun row =>
        row.taskId = link.taskId
    else none).mapM fun row => t.shapingApplicationRecord X row (some checkpointId)

def shapingCheckpointRecord (t : CoreTables) (row : ShapingCheckpointRow) :
    StoreResult ShapingCheckpointRecord := do
  let corrupt := corruptShaping "shaping_checkpoints" row.shapingCheckpointId
  ensure (row.predecessorShapingCheckpointId.all fun predecessorId =>
      predecessorId ≠ row.shapingCheckpointId
      && (t.shapingCheckpoints.find? predecessorId).any fun predecessor =>
        predecessor.taskId = row.taskId && predecessor.readiness = .superseded)
    (corrupt "predecessor_shaping_checkpoint_id")
  let task ← okOr (.sqlite "query returned no rows") (t.taskRow row.taskId)
  ensure (row.readiness = .superseded || task.scopeRevision = row.scopeRevision)
    (corrupt "scope_revision")
  let gaps ← (t.gapsOf row.shapingCheckpointId).mapM (t.shapingGapRecord task.mode)
  let applications ← t.applicationsForCheckpoint X row.taskId row.shapingCheckpointId
  ensure (row.readiness ≠ .ready || (!t.hasCurrentGap row.shapingCheckpointId
      && row.baselineRef.isSome && row.implementationBoundary.isSome))
    (corrupt "readiness")
  return ⟨row, gaps, applications⟩

/-- The request has a current application linked to the checkpoint, or a gap link to it. -/
def attachedTo (currentCheckpointId : Option String) (requestId : String) : Bool :=
  currentCheckpointId.any fun checkpointId =>
    (t.shapingApplications.rows.any fun application =>
      application.userActionRequestId = requestId && application.authorityStatus = .current
      && (t.shapingApplicationLinks.find?
        (checkpointId, application.shapingDecisionApplicationId)).isSome)
    || t.shapingGapLinks.rows.any fun link =>
      link.userActionRequestId = requestId && link.shapingCheckpointId = checkpointId

/-- `validate_current_shaping_authority`: nothing current is detached. -/
def validateCurrentShapingAuthority (taskId : String) (currentCheckpointId : Option String) :
    StoreResult Unit := do
  ensure ((t.currentApplications taskId).all fun application =>
      currentCheckpointId.any fun checkpointId => (t.shapingApplicationLinks.find?
        (checkpointId, application.shapingDecisionApplicationId)).any (·.taskId = taskId))
    (corruptShaping "shaping_decision_applications" taskId "authority_status")
  ensure (t.userActionRequests.rows.all fun request =>
      !(request.taskId = taskId && request.sourceMethod = .recordShapingCheckpoint
        && request.basisStatus = .current)
      || t.attachedTo currentCheckpointId request.userActionRequestId)
    (corruptShaping "user_action_requests" taskId "metadata_json")

def currentShapingCheckpoint (t : CoreTables) (taskId : String) :
    StoreResult (Option ShapingCheckpointRecord) := do
  let rows := t.shapingCheckpoints.rows.filter fun row =>
    row.taskId = taskId && row.readiness ≠ .superseded
  ensure (rows.length ≤ 1) (.schemaInvariant projectStateDatabaseKind
    "a Task has more than one current shaping checkpoint")
  t.validateCurrentShapingAuthority taskId (rows.head?.map (·.shapingCheckpointId))
  match rows.head? with
  | none => return none
  | some row =>
    let record ← t.shapingCheckpointRecord X row
    return some record

/- The authority graph. -/

/-- A linked gap of the current checkpoint: a decision while its request is current. -/
def gapDecision (now : UtcTimestamp) (task : TaskRecord) (gap : ShapingCheckpointGapRecord)
    (link : ShapingGapLinkRow) : StoreResult (Option CurrentShapingGapDecision) := do
  let corrupt := corruptShaping "user_action_requests" link.userActionRequestId
  let request ← okOr (corruptShaping "shaping_checkpoint_user_actions" link.userActionRequestId
      "user_action_request_id")
    ((t.userActionRequests.find? link.userActionRequestId).filter (·.taskId = task.taskId))
  let record ← t.effectiveUserActionRecord now request
  let coordinates := request.basis.coordinates
  ensure (coordinates.taskId = task.taskId && request.originMatches gap.row)
    (corrupt "metadata_json")
  match request.basisStatus with
  | .current =>
    ensure (request.basis.compatibilityStatus = .current
        && coordinates.scopeRevision = task.scopeRevision
        && coordinates.baselineRef = task.shaping.baselineRef
        && coordinates.changeUnitId = task.currentChangeUnitId)
      (corrupt "basis_json")
    return some ⟨gap.row.shapingCheckpointId, gap, record⟩
  | .stale => return none
  | .superseded => .error (corruptShaping "shaping_checkpoint_user_actions"
      link.userActionRequestId "user_action_request_id")

/-- The application behind an authority, with the request and the gap it came from. -/
def applicationAuthority (t : CoreTables) (now : UtcTimestamp) (task : TaskRecord)
    (currentCheckpointId : Option String) (application : ShapingDecisionApplicationRow) :
    StoreResult CurrentShapingApplicationAuthority := do
  let corrupt := corruptShaping "shaping_decision_applications"
    application.shapingDecisionApplicationId
  let linked := currentCheckpointId.filter fun checkpointId => (t.shapingApplicationLinks.find?
    (checkpointId, application.shapingDecisionApplicationId)).any (·.taskId = task.taskId)
  let record ← t.shapingApplicationRecord X application linked
  let request ← okOr (corrupt "user_action_request_id")
    ((t.userActionRequests.find? application.userActionRequestId).filter (·.taskId = task.taskId))
  let userAction ← t.effectiveUserActionRecord now request
  ensure (userAction.resolution.any fun resolution =>
      resolution.userActionResolutionId = application.userActionResolutionId)
    (corrupt "user_action_request_id")
  let sourceGap ← okOr (corrupt "source_gap_id")
    (t.shapingGaps.find? (application.sourceCheckpointId, application.sourceGapId))
  let sourceRecord ← t.shapingGapRecord task.mode sourceGap
  ensure ((sourceGap.gapKind.decisionPolicyForMode task.mode).any fun policy =>
      policy.applicationOwner = application.applicationOwner
      && policy.userActionKind = request.actionKind && policy.requiredFor = request.requiredFor
      && sourceGap.gapKind.judgmentKind = some application.judgmentKind)
    (corrupt "application_owner")
  ensure (request.basisStatus = application.authorityStatus.basisStatus
      && request.basis.compatibilityStatus = application.authorityStatus.basisStatus)
    (corrupt "authority_status")
  ensure (application.authorityStatus ≠ .current || (!task.lifecyclePhase.terminal
      && linked = currentCheckpointId && userAction.status = .resolved))
    (corrupt "authority_status")
  ensure (application.authorityStatus ≠ .superseded || task.lifecyclePhase.terminal
      || linked.isNone)
    (corruptShaping "shaping_checkpoint_applications" application.shapingDecisionApplicationId
      "shaping_decision_application_id")
  return ⟨record, sourceRecord, userAction⟩

/-- Every current shaping request is represented, and every stale one of the current
checkpoint has its stale application. -/
def requestsRepresented (taskId : String) (checkpoint : Option ShapingCheckpointRecord)
    (decisions : List CurrentShapingGapDecision)
    (current stale : List CurrentShapingApplicationAuthority) : Bool :=
  t.userActionRequests.rows.all fun request =>
    let requestId := request.userActionRequestId
    if request.taskId = taskId && request.sourceMethod = .recordShapingCheckpoint then
      match request.basisStatus with
      | .current => (decisions.any fun decision =>
            decision.userAction.request.userActionRequestId = requestId)
          || current.any fun authority =>
            authority.application.row.userActionRequestId = requestId
      | .stale => !(checkpoint.any fun record => record.gaps.any fun gap =>
            gap.userAction.any (·.userActionRequestId = requestId))
          || stale.any fun authority =>
            authority.application.row.userActionRequestId = requestId
      | .superseded => true
    else true

def currentShapingAuthorityGraph (t : CoreTables) (taskId : String) (now : UtcTimestamp) :
    StoreResult CurrentShapingAuthorityGraph := do
  let checkpoint ← t.currentShapingCheckpoint X taskId
  let task ← okOr (.sqlite "query returned no rows") (t.taskRow taskId)
  ensure (task.lifecyclePhase.terminal = task.closedAt.isSome)
    (.corruptOwnerStateValue "tasks" taskId "closed_at")
  let checkpointId := checkpoint.map (·.row.shapingCheckpointId)
  let authorities ← (t.shapingApplications.rows.filter (·.taskId = taskId)).mapM
    (t.applicationAuthority X now task checkpointId)
  if task.lifecyclePhase.terminal then return ⟨none, [], [], []⟩
  else
    let linkedGaps := (checkpoint.elim [] (·.gaps)).filterMap fun gap =>
      gap.userAction.map fun link => (gap, link)
    let decisions ← linkedGaps.mapM fun (gap, link) => t.gapDecision now task gap link
    let decisions := decisions.filterMap id
    let current := authorities.filter fun authority =>
      authority.application.row.authorityStatus = .current
    let stale := authorities.filter fun authority =>
      authority.application.row.authorityStatus = .stale
    ensure ((current.map fun authority => authority.application.row.userActionResolutionId).Nodup)
      (corruptShaping "shaping_decision_applications" taskId "authority_status")
    ensure (t.requestsRepresented taskId checkpoint decisions current stale)
      (corruptShaping "user_action_requests" taskId "basis_status")
    return ⟨checkpoint, decisions, current, stale⟩

end CoreTables
end Volicord
