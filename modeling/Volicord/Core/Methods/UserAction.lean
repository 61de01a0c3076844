import Volicord.Core.UserActionConstruction

/-! `methods/user_action.rs`: an agent asks the user for one action, and the user answers it
through the verified channel. The continuity records of an answer are not part of the
tables. -/
namespace Volicord
open Result
variable {result : OperationPlan}

structure RequestUserActionRequest where
  envelope : ToolEnvelope
  taskId : String
  changeUnitId : Option String
  action : UserActionDraft
  requiredFor : List UserActionRequiredFor
  expiresAt : Option UtcTimestamp

structure ResolveUserActionRequest where
  envelope : ToolEnvelope
  (userActionRequestId channelSubmissionId : String)
  resolution : UserActionResolutionInput

namespace RequestUserAction

def observeAction : UserActionDraft → CoreResult UserActionDraft
  | .evidenceObservation draft => .ok (.evidenceObservation draft)
  | .choice draft => match draft.sensitiveActionScope with
    | none => .ok (.choice draft)
    | some scope => do
      let paths ← observeRequestProductPaths scope.intendedPaths
        "action.sensitive_action_scope.intended_paths"
        "sensitive-action intended_paths must be normalized relative Product Repository paths"
      return .choice { draft with
        sensitiveActionScope := some { scope with intendedPaths := paths } }

def actionKey : WorkflowActionKey := ⟨.requestUserAction, .requestUserAction⟩

def coordinatesMatch (request : RequestUserActionRequest) :
    WorkflowActionAuthorityCoordinates → Bool
  | .requestUserAction taskId changeUnitId =>
    request.taskId = taskId && request.changeUnitId.all (some · = changeUnitId)
  | _ => false

def plan (X : External) (context : PlanContext) (t : CoreTables)
    (request : RequestUserActionRequest) (requestId : String) (admitted : AdmittedTransition) :
    CoreResult OperationPlan := do
  let task ← fromStore (t.taskRecord context.projectId request.taskId)
  let task ← okOr noActiveTaskError task
  let changeUnit ← fromStore (t.currentChangeUnit request.taskId)
  let action ← observeAction request.action
  let constructed ← constructUserAction X context t task changeUnit
    ⟨request.taskId, request.changeUnitId, action, request.requiredFor, request.expiresAt⟩
  let operationIdentity ← okOr (.validation "envelope.idempotency_key"
    "a user-action request requires an idempotency key") request.envelope.idempotencyKey
  requireFresh (t.userActionRequests.find? requestId).isSome
  let row := materializeUserActionRequest context requestId operationIdentity .directRequest
    constructed
  let pending ← fromStore (t.pendingUserActions context.now request.taskId)
  let lifecycle ← planPendingLifecycle t task changeUnit (pending ++ [⟨row, none, .pending⟩])
  return {
    taskId := request.taskId, changeUnitId := constructed.coordinateChangeUnitId
    eventKind := "user_action_requested", descriptor := some admitted.descriptor
    mutations := .userAction (.insertRequest row) :: lifecycle }

structure Accepted (X : External) (context : PlanContext) (t : CoreTables)
    (request : RequestUserActionRequest) (requestId : String) where
  task : TaskRecord
  changeUnit : Option ChangeUnitRecord
  constructed : ValidatedUserAction
  operationIdentity : String
  pending : List StoredUserActionRecordSet
  lifecycle : List CoreStorageMutation
  record : t.taskRecord context.projectId request.taskId = .ok (some task)
  lifecyclePlanned : planPendingLifecycle t task changeUnit (pending ++ [⟨
    materializeUserActionRequest context requestId operationIdentity .directRequest constructed,
    none, .pending⟩]) = .ok lifecycle

namespace Accepted
variable {X : External} {context : PlanContext} {t : CoreTables}
  {request : RequestUserActionRequest} {requestId : String}
  (accepted : Accepted X context t request requestId)

def row : UserActionRequestRecord :=
  materializeUserActionRequest context requestId accepted.operationIdentity .directRequest
    accepted.constructed

def plan (admitted : AdmittedTransition) : OperationPlan where
  taskId := request.taskId
  changeUnitId := accepted.constructed.coordinateChangeUnitId
  eventKind := "user_action_requested"
  descriptor := some admitted.descriptor
  mutations := .userAction (.insertRequest accepted.row) :: accepted.lifecycle

end Accepted

theorem plan_ok {X : External} {context : PlanContext} {t : CoreTables}
    {request : RequestUserActionRequest} {requestId : String} {admitted : AdmittedTransition}
    (h : plan X context t request requestId admitted = .ok result) :
    ∃ accepted : Accepted X context t request requestId, result = accepted.plan admitted := by
  simp only [plan, steps_ok, exists_const, fromStore_eq_ok, requireFresh_eq_ok] at h
  obtain ⟨_, hrecord, task, rfl, changeUnit, _, _, _, constructed, _, identity, _, _, pending, _,
    lifecycle, hlifecycle, rfl⟩ := h
  exact ⟨⟨task, changeUnit, constructed, identity, pending, lifecycle, hrecord, hlifecycle⟩, rfl⟩

end RequestUserAction

namespace ResolveUserAction

def actionKey : WorkflowActionKey := ⟨.resolveUserAction, .resolveUserAction⟩

/-- The checks of `execute_resolve_user_action` in front of the plan. -/
def validateRequest (request : ResolveUserActionRequest)
    (invocation : VerifiedInvocationContext) : CoreResult Unit := do
  ensure (channelSubmissionIdValid request.channelSubmissionId)
    (.validation "channel_submission_id"
      "channel submission id must be 1..=256 bytes of visible ASCII")
  request.resolution.validateBounds
  ensure request.envelope.expectedStateVersion.isNone
    (.validation "envelope.expected_state_version"
      "resolve_user_action requires expected_state_version to be null")
  ensure (request.envelope.idempotencyKey = some request.channelSubmissionId)
    (.validation "envelope.idempotency_key"
      "idempotency_key must exactly match channel_submission_id")
  ensure invocation.gitWorkspaceContext.isNone (.rejected .invocationContextMismatch
    "user-only resolution channels must not carry Git workspace context")
  ensure (invocation.verificationBasis = "cli_direct_user_channel")
    (.rejected .invocationContextMismatch "verified invocation is not a supported User Channel")
  ensure (invocation.actorSource = .localUser)
    (decisionRejected "user-action resolution requires verified local-user authority")

def statusMessage : UserActionStatus → String
  | .expired => "user action expired at or before this resolution"
  | .stale => "user action basis is stale"
  | .superseded => "user action basis is superseded"
  | .resolved => "user action is already resolved"
  | .pending => "pending user action is available for resolution"

def requestIsCurrent (userActionRequestId : String) :
    WorkflowActionAuthorityCoordinates → Bool
  | .resolveUserAction _ refs => refs.any (·.recordId = userActionRequestId)
  | _ => false

/-- The disposition of the gap the request is linked to, when it is linked. -/
def gapMutations (checkpoint : Option ShapingCheckpointRecord)
    (userActionRequestId resolutionId : String) (body : UserActionResolutionBody) :
    CoreResult (List CoreStorageMutation) :=
  if checkpoint.any fun record => record.gaps.any fun gap =>
      gap.userAction.any (·.userActionRequestId = userActionRequestId) then do
    let disposition ← okOr (.invariant
        "a shaping-linked UserAction requires a choice decision disposition")
      (CoreTables.dispositionOf body)
    return [.shaping (.resolveLinkedGap userActionRequestId resolutionId disposition)]
  else .ok []

def inputMatchesBody : UserActionResolutionInput → UserActionResolutionBody → Bool
  | .choice selectedOptionId note, .choice storedId _ _ storedNote _ =>
    selectedOptionId = storedId && note = storedNote
  | .evidenceObservation target artifactIds relevanceStatus summary,
    .evidenceObservation observation =>
    target = observation.target && relevanceStatus = observation.relevanceStatus
    && Text.trim summary = observation.summary
    && artifactIds.isPerm (observation.outputArtifactRefs.map (·.artifactId))
  | _, _ => false

def submittedBefore (request : ResolveUserActionRequest) (invocation : VerifiedInvocationContext)
    (existing : UserActionResolutionRecord) : CoreError :=
  decisionRejected
    (if existing.userActionRequestId = request.userActionRequestId
        && existing.resolvedByActorSource = invocation.actorSource
        && existing.resolvedAssuranceLevel = invocation.assuranceLevel
        && inputMatchesBody request.resolution existing.resolution then
      "channel submission is already committed; pipeline replay must use its original request identity"
    else "channel_submission_id conflicts with an immutable stored resolution")

def plan (X : External) (context : PlanContext) (t : CoreTables)
    (request : ResolveUserActionRequest) (resolutionId : String) : CoreResult OperationPlan := do
  validateRequest request context.invocation
  match t.userActionResolutions.rows.find? fun row =>
      row.channelSubmissionId = request.channelSubmissionId with
    | some existing => .error (submittedBefore request context.invocation existing)
    | none => pure ()
  let effective ← fromStore (t.userActionRecord context.now request.userActionRequestId)
  let effective ← okOr (decisionRejected
    "user_action_request_id does not identify a current user action") effective
  let taskId := effective.request.taskId
  let admitted ← currentTransitionAdmission X context t taskId actionKey
  ensure (requestIsCurrent request.userActionRequestId admitted.descriptor.coordinates)
    (.rejected .userDecisionUnresolved
      "the addressed UserAction is absent from current transition authority")
  ensure (effective.status = .pending) (decisionRejected (statusMessage effective.status))
  ensure (request.envelope.taskId.all (· = taskId)) (.validation "envelope.task_id"
    "envelope.task_id must match the addressed user action Task")
  let task ← fromStore (t.taskRecord context.projectId taskId)
  let task ← okOr noActiveTaskError task
  let changeUnit ← fromStore (t.currentChangeUnit taskId)
  validateCurrentResolutionBasis context task changeUnit effective.request.basis
  requireFresh (t.userActionResolutions.find? resolutionId).isSome
  let body ← constructUserActionResolution context t effective.request changeUnit
    request.resolution
  let pending ← fromStore (t.pendingUserActions context.now taskId)
  let lifecycle ← planPendingLifecycle t task changeUnit (pending.filter fun record =>
    record.request.userActionRequestId ≠ request.userActionRequestId)
  let checkpoint ← fromStore (t.currentShapingCheckpoint X taskId)
  let gap ← gapMutations checkpoint request.userActionRequestId resolutionId body
  return {
    taskId := taskId, changeUnitId := changeUnit.map (·.changeUnitId)
    eventKind := "user_action_resolved", descriptor := some admitted.descriptor
    mutations := .userAction (.insertResolution
        { userActionResolutionId := resolutionId
          userActionRequestId := request.userActionRequestId
          actionKind := effective.request.actionKind
          channelSubmissionId := request.channelSubmissionId, resolution := body
          resolvedByActorSource := context.invocation.actorSource
          resolvedAssuranceLevel := context.invocation.assuranceLevel
          resolvedAt := context.now })
      :: gap ++ lifecycle }

structure Accepted (X : External) (context : PlanContext) (t : CoreTables)
    (request : ResolveUserActionRequest) (resolutionId : String) where
  effective : StoredUserActionRecordSet
  admitted : AdmittedTransition
  task : TaskRecord
  changeUnit : Option ChangeUnitRecord
  body : UserActionResolutionBody
  pending : List StoredUserActionRecordSet
  lifecycle : List CoreStorageMutation
  checkpoint : Option ShapingCheckpointRecord
  gap : List CoreStorageMutation
  effectiveRead : t.userActionRecord context.now request.userActionRequestId = .ok (some effective)
  admission : currentTransitionAdmission X context t effective.request.taskId actionKey
    = .ok admitted
  listed : requestIsCurrent request.userActionRequestId admitted.descriptor.coordinates
  pendingStatus : effective.status = .pending
  record : t.taskRecord context.projectId effective.request.taskId = .ok (some task)
  unit : t.currentChangeUnit effective.request.taskId = .ok changeUnit
  basis : validateCurrentResolutionBasis context task changeUnit effective.request.basis = .ok ()
  lifecyclePlanned : planPendingLifecycle t task changeUnit (pending.filter fun record =>
    record.request.userActionRequestId ≠ request.userActionRequestId) = .ok lifecycle
  gapPlanned : gapMutations checkpoint request.userActionRequestId resolutionId body = .ok gap

namespace Accepted
variable {X : External} {context : PlanContext} {t : CoreTables}
  {request : ResolveUserActionRequest} {resolutionId : String}
  (accepted : Accepted X context t request resolutionId)

def row : UserActionResolutionRecord where
  userActionResolutionId := resolutionId
  userActionRequestId := request.userActionRequestId
  actionKind := accepted.effective.request.actionKind
  channelSubmissionId := request.channelSubmissionId
  resolution := accepted.body
  resolvedByActorSource := context.invocation.actorSource
  resolvedAssuranceLevel := context.invocation.assuranceLevel
  resolvedAt := context.now

def plan : OperationPlan where
  taskId := accepted.effective.request.taskId
  changeUnitId := accepted.changeUnit.map (·.changeUnitId)
  eventKind := "user_action_resolved"
  descriptor := some accepted.admitted.descriptor
  mutations := .userAction (.insertResolution accepted.row) :: accepted.gap ++ accepted.lifecycle

end Accepted

theorem plan_ok {X : External} {context : PlanContext} {t : CoreTables}
    {request : ResolveUserActionRequest} {resolutionId : String}
    (h : plan X context t request resolutionId = .ok result) :
    ∃ accepted : Accepted X context t request resolutionId, result = accepted.plan := by
  simp only [plan, bind_eq_ok] at h
  obtain ⟨_, _, h⟩ := h
  split at h
  · cases h
  · simp only [steps_ok, fromStore_eq_ok, requireFresh_eq_ok, decide_eq_true_eq] at h
    obtain ⟨_, heffective, effective, rfl, admitted, hadmission, hlisted, hstatus, _, _, hrecord,
      task, rfl, changeUnit, hunit, _, hbasis, _, body, _, pending, _, lifecycle, hlifecycle,
      checkpoint, _, gap, hgap, rfl⟩ := h
    exact ⟨⟨effective, admitted, task, changeUnit, body, pending, lifecycle, checkpoint, gap,
      heffective, hadmission, hlisted, hstatus, hrecord, hunit, hbasis, hlifecycle, hgap⟩, rfl⟩

end ResolveUserAction
end Volicord
