import Volicord.Store.Tasks

/-! `core_pipeline/user_actions.rs`: user-action requests, their immutable resolutions and
the status of the basis a request was made on. -/
namespace Volicord
open Result Relational
variable {now : UtcTimestamp} {t : CoreTables} {record : StoredUserActionRecordSet}

structure UserActionBasisUpdate where
  userActionRequestId : String
  basis : UserActionBasis
  basisStatus : UserActionBasisStatus

structure UserActionInvalidation where
  taskId : String
  actionKinds : List UserActionKind
  preservedRequestIds : List String

inductive UserActionMutation where
  | insertRequest (row : UserActionRequestRecord)
  | insertResolution (row : UserActionResolutionRecord)
  | updateBasis (input : UserActionBasisUpdate)
  | markBasesStatus (userActionRequestIds : List String) (basisStatus : UserActionBasisStatus)
  | markSupersededOrStale (input : UserActionInvalidation)

structure StoredUserActionRecordSet where
  request : UserActionRequestRecord
  resolution : Option UserActionResolutionRecord
  status : UserActionStatus

def originMatchesSource : MethodName → UserActionRequestMetadata → Bool
  | .requestUserAction, .directRequest => true
  | .reconcileChanges, .reconciliation _ => true
  | .recordShapingCheckpoint, .shaping _ _ _ => true
  | _, _ => false

def UserActionRequestRecord.basisAgrees (row : UserActionRequestRecord) : Bool :=
  row.basis.compatibilityStatus = row.basisStatus && row.basis.coordinates.taskId = row.taskId
  && row.basis.coordinates.changeUnitId = row.changeUnitId
  && match row.basis with
    | .choice _ => row.actionKind ≠ .evidenceObservation
    | .evidenceObservation _ => row.actionKind = .evidenceObservation

def resolutionAgrees (request : UserActionRequestRecord)
    (resolution : UserActionResolutionRecord) : Bool :=
  request.actionKind = resolution.actionKind
  && match request.basis, resolution.resolution with
    | .choice basis, .choice optionId action outcome _ acceptedRiskIds =>
      (request.options.find? fun option => option.1 = optionId).any fun option =>
        option.2 = action && option.2.resolutionOutcome = outcome
        && acceptedRiskIds = if request.actionKind = .residualRiskAcceptance && option.2 = .accept
          then basis.residualRiskIds else []
    | .evidenceObservation basis, .evidenceObservation observation =>
      basis.targetCandidates.contains observation.target
      && observation.outputArtifactRefs.all basis.artifactCandidates.contains
      && (observation.outputArtifactRefs.map (·.artifactId)).Nodup
      && observation.relevanceStatus ∈ [.supported, .contradicted]
      && !Text.isBlank observation.summary
    | _, _ => false

/-- Fifteen minutes, in the unit of `UtcTimestamp`. -/
def evidenceObservationLifetime : UtcTimestamp := 15 * 60 * 1000000000

def channelSubmissionIdValid (value : String) : Bool :=
  !value.isEmpty && value.utf8ByteSize ≤ 256
  && value.toList.all fun c => 0x21 ≤ c.val && c.val ≤ 0x7e

namespace CoreTables

def insertUserActionRequest (row : UserActionRequestRecord) (t : CoreTables) :
    StoreResult CoreTables := do
  validateIdentifier "user_action_request_id" row.userActionRequestId
  validateIdentifier "task_id" row.taskId
  validateOptionalIdentifier "change_unit_id" row.changeUnitId
  ensure (originMatchesSource row.sourceMethod row.metadata)
    (.invalidInput "user-action request origin metadata must match source_method")
  validateIdentifier "user_action_requests.source_idempotency_key" row.sourceIdempotencyKey
  ensure (!row.requiredFor.isEmpty && row.requiredFor.Nodup) (.invalidInput
    "user_action_requests.required_for_json must be nonempty and contain unique values")
  ensure row.basisAgrees (.invalidInput
    "user-action basis JSON must agree with its request and scalar storage columns")
  ensure (row.requiredFor.all row.actionKind.isCompatibleWithRequiredFor) (.invalidInput
    "user_action_requests.request_json required_for contains an operation incompatible with its action kind")
  ensure (row.expiresAt.all (row.requestedAt < ·)) (.invalidInput
    "user_action_requests.expires_at must be later than user_action_requests.requested_at")
  ensure (row.actionKind ≠ .evidenceObservation
      || row.expiresAt = some (row.requestedAt + evidenceObservationLifetime)) (.invalidInput
    "evidence-observation user_action_requests.expires_at must be exactly 15 minutes after user_action_requests.requested_at")
  let constraintsHold := (t.taskRow row.taskId).isSome
    && row.changeUnitId.all (fun id => (t.changeUnitRecord row.taskId id).isSome)
    && (row.sourceMethod ≠ .requestUserAction || t.userActionRequests.rows.all fun other =>
      other.sourceMethod ≠ .requestUserAction
      || other.sourceIdempotencyKey ≠ row.sourceIdempotencyKey)
  let rows ← insertRow t.userActionRequests row constraintsHold "user_action_requests"
  return { t with userActionRequests := rows }

def insertUserActionResolution (row : UserActionResolutionRecord) (t : CoreTables) :
    StoreResult CoreTables := do
  validateIdentifier "user_action_resolution_id" row.userActionResolutionId
  validateIdentifier "user_action_request_id" row.userActionRequestId
  ensure (channelSubmissionIdValid row.channelSubmissionId)
    (.invalidInput "channel submission id must be 1..=256 bytes of visible ASCII")
  ensure (row.resolvedByActorSource = .localUser)
    (.invalidInput "user-action resolution actor must be local_user")
  validateIdentifier "resolved_assurance_level" row.resolvedAssuranceLevel
  -- a request that is not there is left to the foreign key
  let request ← okOr (.sqlite "user_action_resolutions constraint failed")
    (t.userActionRequests.find? row.userActionRequestId)
  ensure (request.requestedAt ≤ row.resolvedAt) (.invalidInput
    "user_action_resolutions.resolved_at must be at or after user_action_requests.requested_at")
  ensure (request.expiresAt.all (row.resolvedAt < ·)) (.invalidInput
    "user_action_resolutions.resolved_at must be before user_action_requests.expires_at")
  ensure (resolutionAgrees request row) (.invalidInput
    "user-action resolution must exactly preserve its stored request authority")
  let constraintsHold := (t.resolutionOf row.userActionRequestId).isNone
    && t.userActionResolutions.rows.all fun other =>
      other.channelSubmissionId ≠ row.channelSubmissionId
  let rows ← insertRow t.userActionResolutions row constraintsHold "user_action_resolutions"
  return { t with userActionResolutions := rows }

def updateUserActionBasis (input : UserActionBasisUpdate) (t : CoreTables) :
    StoreResult CoreTables := do
  validateIdentifier "user_action_request_id" input.userActionRequestId
  ensure (t.userActionRequests.find? input.userActionRequestId).isSome
    (.schemaInvariant projectStateDatabaseKind "user-action basis update changed no rows")
  return { t with
    userActionRequests := t.userActionRequests.update input.userActionRequestId ({ · with
      basis := input.basis.withCompatibilityStatus input.basisStatus
      basisStatus := input.basisStatus
      changeUnitId := input.basis.coordinates.changeUnitId }) }

def markUserActionBasesStatus (userActionRequestIds : List String)
    (basisStatus : UserActionBasisStatus) (t : CoreTables) : StoreResult CoreTables := do
  ensure (basisStatus ≠ .current)
    (.invalidInput "selected user-action bases may only be marked stale or superseded")
  userActionRequestIds.foldlM (fun t requestId => do
    validateIdentifier "user_action_request_id" requestId
    ensure (t.userActionRequests.find? requestId).isSome (.schemaInvariant
      projectStateDatabaseKind "selected user-action basis request does not exist")
    return { t with
      userActionRequests := t.userActionRequests.update requestId
        (·.withBasisStatus basisStatus) }) t

/-- A current request of the Task that the invalidation does not preserve. -/
def invalidates (input : UserActionInvalidation) (row : UserActionRequestRecord) : Bool :=
  row.taskId = input.taskId && row.basisStatus = .current
  && (input.actionKinds.isEmpty || input.actionKinds.contains row.actionKind)
  && !input.preservedRequestIds.contains row.userActionRequestId

def markUserActionsSupersededOrStale (input : UserActionInvalidation) (t : CoreTables) :
    StoreResult CoreTables := do
  validateIdentifier "task_id" input.taskId
  input.preservedRequestIds.forM (validateIdentifier "preserved_user_action_request_id")
  return { t with
    userActionRequests := t.userActionRequests.updateWhere (invalidates input) fun row =>
      row.withBasisStatus
        (if (t.resolutionOf row.userActionRequestId).isSome then .stale else .superseded) }

/- Reads. -/

def effectiveUserActionRecord (now : UtcTimestamp) (t : CoreTables)
    (request : UserActionRequestRecord) : StoreResult StoredUserActionRecordSet := do
  let resolution := t.resolutionOf request.userActionRequestId
  ensure (resolution.all fun row => row.resolvedAt ≤ now) (.corruptOwnerStateValue
    "user_action_resolutions" request.userActionRequestId "resolved_at")
  let status ← okOr (.corruptOwnerStateValue "user_action_requests" request.userActionRequestId
      "requested_at")
    (effectiveUserActionStatus request.basisStatus request.requestedAt request.expiresAt
      resolution.isSome now)
  return ⟨request, resolution, status⟩

def userActionRecord (now : UtcTimestamp) (t : CoreTables) (userActionRequestId : String) :
    StoreResult (Option StoredUserActionRecordSet) :=
  match t.userActionRequests.find? userActionRequestId with
  | none => .ok none
  | some request => (t.effectiveUserActionRecord now request).map some

def userActionHistoryForTask (now : UtcTimestamp) (t : CoreTables) (taskId : String) :
    StoreResult (List StoredUserActionRecordSet) :=
  (t.userActionRequests.rows.filter fun row => row.taskId = taskId).mapM
    (t.effectiveUserActionRecord now)

/-- A request as it stands at one instant: its own answer, and the status that follows. -/
structure EffectiveAt (now : UtcTimestamp) (t : CoreTables)
    (record : StoredUserActionRecordSet) : Prop where
  resolution : record.resolution = t.resolutionOf record.request.userActionRequestId
  status : effectiveUserActionStatus record.request.basisStatus record.request.requestedAt
    record.request.expiresAt record.resolution.isSome now = some record.status

theorem effectiveUserActionRecord_ok {request : UserActionRequestRecord}
    (h : t.effectiveUserActionRecord now request = .ok record) :
    record.request = request ∧ t.EffectiveAt now record := by
  simp only [effectiveUserActionRecord, steps_ok] at h
  obtain ⟨_, status, hstatus, rfl⟩ := h
  exact ⟨rfl, rfl, hstatus⟩

theorem userActionRecord_ok {requestId : String}
    (h : t.userActionRecord now requestId = .ok (some record)) :
    t.userActionRequests.find? requestId = some record.request ∧ t.EffectiveAt now record := by
  unfold userActionRecord at h
  cases hfind : t.userActionRequests.find? requestId with
  | none => rw [hfind] at h; cases h
  | some request =>
    rw [hfind] at h
    obtain ⟨effective, heffective, hsome⟩ := map_eq_ok.mp h
    obtain rfl := Option.some.inj hsome
    obtain ⟨rfl, hrecord⟩ := effectiveUserActionRecord_ok heffective
    exact ⟨rfl, hrecord⟩

theorem userActionHistoryForTask_ok {taskId : String} {records : List StoredUserActionRecordSet}
    (h : t.userActionHistoryForTask now taskId = .ok records) :
    ∀ record ∈ records, record.request ∈ t.userActionRequests.rows ∧
      record.request.taskId = taskId ∧ t.EffectiveAt now record := by
  intro record hrecord
  obtain ⟨request, hmem, heffective⟩ := exists_of_forall₂ (mapM_eq_ok.mp h) record hrecord
  obtain ⟨rfl, heffectiveAt⟩ := effectiveUserActionRecord_ok heffective
  obtain ⟨hrow, htask⟩ := List.mem_filter.mp hmem
  exact ⟨hrow, of_decide_eq_true htask, heffectiveAt⟩

/-- A pending request rests on a current basis, has no answer and has not expired. -/
theorem EffectiveAt.pending (h : t.EffectiveAt now record) (hpending : record.status = .pending) :
    record.request.basisStatus = .current ∧ record.resolution = none ∧
      record.request.expiresAt.all (now < ·) = true := by
  obtain ⟨hbasis, hresolution, hexpires⟩ := effectiveUserActionStatus_pending (hpending ▸ h.status)
  exact ⟨hbasis, by simpa using hresolution, hexpires⟩

theorem EffectiveAt.resolved (h : t.EffectiveAt now record)
    (hresolved : record.status = .resolved) :
    record.request.basisStatus = .current ∧ record.resolution.isSome :=
  effectiveUserActionStatus_resolved (hresolved ▸ h.status)

end CoreTables

def UserActionMutation.apply (t : CoreTables) : UserActionMutation → StoreResult CoreTables
  | .insertRequest row => t.insertUserActionRequest row
  | .insertResolution row => t.insertUserActionResolution row
  | .updateBasis input => t.updateUserActionBasis input
  | .markBasesStatus ids status => t.markUserActionBasesStatus ids status
  | .markSupersededOrStale input => t.markUserActionsSupersededOrStale input

end Volicord
