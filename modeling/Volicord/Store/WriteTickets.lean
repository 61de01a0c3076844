import Volicord.Store.WorkflowPolicy

/-! `core_pipeline/write_tickets.rs` and `core_pipeline/runs.rs`: Write Tickets from issue to
consumption or invalidation, and the Runs that consume them. -/
namespace Volicord
open Result Relational

structure WriteTicketInsert where
  (writeTicketId taskId changeUnitId : String)
  validityBasis : WriteTicketValidityBasis
  pathScope : WriteTicketPathScope
  attemptScope : WriteTicketAttemptScope
  createdByActorSource : ActorSource
  createdByUserActionResolutionId : Option String
  idleExpiresAt : Option UtcTimestamp
  createdAt : UtcTimestamp

structure WriteTicketConsumption where
  (writeTicketId runId : String)
  expectedBasisStateVersion : Nat
  expectedWriteAuthorityFingerprint : String

inductive WriteTicketMutation where
  | markActiveStale (taskId : String)
  | invalidateActive (taskId : String) (reason : WriteTicketInvalidationReason)
  | invalidateById (writeTicketId : String) (reason : WriteTicketInvalidationReason)
  | insert (input : WriteTicketInsert)
  | consume (input : WriteTicketConsumption)

inductive RunMutation where
  | insert (row : RunRecord)

inductive WriteTicketInvariant where
  | taskIdentityAgreement | changeUnitIdentityAgreement | approvalOwnerAgreement
  | approvalResolutionIdentity | duplicateApprovalResolutionIdentity | scopeRevisionAgreement
  | baselineAgreement | timestampOrder | duplicateIntendedPaths | duplicateAllowedPaths
  | duplicateDeniedPaths | allowedDeniedPathDisjointness | intendedPathCoverage
  | productFileWriteIntentAgreement | statusLifecycleAgreement

inductive WriteTicketValidationFailure where
  | jsonField (logicalColumn : String)
  | valueField (logicalColumn : String)
  | invariant (failed : WriteTicketInvariant)

def WriteTicketInvariant.debug : WriteTicketInvariant → String
  | .taskIdentityAgreement => "TaskIdentityAgreement"
  | .approvalOwnerAgreement => "ApprovalOwnerAgreement"
  | .approvalResolutionIdentity => "ApprovalResolutionIdentity"
  | .duplicateApprovalResolutionIdentity => "DuplicateApprovalResolutionIdentity"
  | .changeUnitIdentityAgreement => "ChangeUnitIdentityAgreement"
  | .scopeRevisionAgreement => "ScopeRevisionAgreement"
  | .baselineAgreement => "BaselineAgreement"
  | .timestampOrder => "TimestampOrder"
  | .duplicateIntendedPaths => "DuplicateIntendedPaths"
  | .duplicateAllowedPaths => "DuplicateAllowedPaths"
  | .duplicateDeniedPaths => "DuplicateDeniedPaths"
  | .allowedDeniedPathDisjointness => "AllowedDeniedPathDisjointness"
  | .intendedPathCoverage => "IntendedPathCoverage"
  | .productFileWriteIntentAgreement => "ProductFileWriteIntentAgreement"
  | .statusLifecycleAgreement => "StatusLifecycleAgreement"

def WriteTicketInvariant.asStr : WriteTicketInvariant → String
  | .taskIdentityAgreement => "task_identity_agreement"
  | .changeUnitIdentityAgreement => "change_unit_identity_agreement"
  | .approvalOwnerAgreement => "approval_owner_agreement"
  | .approvalResolutionIdentity => "approval_resolution_identity"
  | .duplicateApprovalResolutionIdentity => "duplicate_approval_resolution_identity"
  | .scopeRevisionAgreement => "scope_revision_agreement"
  | .baselineAgreement => "baseline_agreement"
  | .timestampOrder => "timestamp_order"
  | .duplicateIntendedPaths => "duplicate_intended_paths"
  | .duplicateAllowedPaths => "duplicate_allowed_paths"
  | .duplicateDeniedPaths => "duplicate_denied_paths"
  | .allowedDeniedPathDisjointness => "allowed_denied_path_disjointness"
  | .intendedPathCoverage => "intended_path_coverage"
  | .productFileWriteIntentAgreement => "product_file_write_intent_agreement"
  | .statusLifecycleAgreement => "status_lifecycle_agreement"

/-- The `Debug` text of a failure, which the message of a refused insert ends with. -/
def WriteTicketValidationFailure.debug : WriteTicketValidationFailure → String
  | .jsonField column => "Field \x7b logical_column: \"" ++ column ++ "\", kind: Json \x7d"
  | .valueField column => "Field \x7b logical_column: \"" ++ column ++ "\", kind: Value \x7d"
  | .invariant failed => "Invariant(" ++ failed.debug ++ ")"

def UserActionResolutionRef.identity (reference : UserActionResolutionRef) :
    String × String × String :=
  (reference.projectId, reference.taskId, reference.recordId)

def WriteTicketInsert.row (input : WriteTicketInsert) (committedStateVersion : Nat) :
    StoredWriteTicket where
  writeTicketId := input.writeTicketId
  taskId := input.taskId
  changeUnitId := input.changeUnitId
  basisStateVersion := committedStateVersion
  status := .active
  validityBasis := input.validityBasis
  pathScope := input.pathScope
  attemptScope := input.attemptScope
  createdByActorSource := input.createdByActorSource
  createdByUserActionResolutionId := input.createdByUserActionResolutionId
  idleExpiresAt := input.idleExpiresAt
  invalidationReason := none
  consumedByRunId := none
  consumedAt := none
  createdAt := input.createdAt

/-- The columns each status needs; `revoked_at`, which nothing writes, is always empty. -/
def StoredWriteTicket.statusColumnsAreValid (record : StoredWriteTicket) : Bool :=
  match record.status with
  | .active => record.invalidationReason.isNone && record.consumedByRunId.isNone
      && record.consumedAt.isNone
  | .consumed => record.invalidationReason.isNone && record.consumedByRunId.isSome
      && record.consumedAt.isSome
  | .invalidated => record.invalidationReason.isSome && record.consumedByRunId.isNone
      && record.consumedAt.isNone
  | .revoked => false

/-- `validate_write_ticket_record`, with the instant the text of `consumed_at` stands for. -/
def validateWriteTicketRecord (X : External) (projectId : String) (record : StoredWriteTicket)
    (consumedAt : Option UtcTimestamp) : Except WriteTicketValidationFailure Unit := do
  let basis := record.validityBasis
  let scope := record.attemptScope
  ensure (record.basisStateVersion ≠ 0) (.valueField "basis_state_version")
  ensure (basis.scopeRevision ≠ 0) (.jsonField "validity_basis_json")
  ensure (!Text.isBlank scope.intendedOperation) (.jsonField "attempt_scope_json")
  ensure (isCanonicalSha256Digest basis.writeAuthorityFingerprint
      && basis.workspaceContextSha256.all isCanonicalSha256Hex)
    (.jsonField "validity_basis_json")
  ensure (X.chrono.ensureCanonicalRfc3339Representable record.createdAt)
    (.valueField "created_at")
  ensure (record.idleExpiresAt.all X.chrono.ensureCanonicalRfc3339Representable)
    (.valueField "idle_expires_at")
  ensure (consumedAt.all X.chrono.ensureCanonicalRfc3339Representable)
    (.valueField "consumed_at")
  ensure (basis.taskId = record.taskId && scope.taskId = record.taskId)
    (.invariant .taskIdentityAgreement)
  ensure (basis.approvalBasisRefs.all fun reference =>
      reference.projectId = projectId && reference.taskId = record.taskId)
    (.invariant .approvalOwnerAgreement)
  ensure (basis.approvalBasisRefs.all fun reference => !Text.isBlank reference.recordId)
    (.invariant .approvalResolutionIdentity)
  ensure ((basis.approvalBasisRefs.map (·.identity)).Nodup)
    (.invariant .duplicateApprovalResolutionIdentity)
  ensure (basis.changeUnitId = record.changeUnitId && scope.changeUnitId = record.changeUnitId)
    (.invariant .changeUnitIdentityAgreement)
  ensure (basis.scopeRevision ≤ record.basisStateVersion) (.invariant .scopeRevisionAgreement)
  ensure (basis.baselineRef = scope.baselineRef) (.invariant .baselineAgreement)
  ensure (record.idleExpiresAt.all (record.createdAt < ·)
      && consumedAt.all (record.createdAt ≤ ·)) (.invariant .timestampOrder)
  ensure scope.intendedPaths.Nodup (.invariant .duplicateIntendedPaths)
  ensure (scope.intendedPaths.all fun intended =>
      record.pathScope.allowed.any intended.isWithin
      && !record.pathScope.denied.any intended.isWithin)
    (.invariant .intendedPathCoverage)
  ensure (scope.productFileWriteIntended = !scope.intendedPaths.isEmpty)
    (.invariant .productFileWriteIntentAgreement)
  ensure record.statusColumnsAreValid (.invariant .statusLifecycleAgreement)

/-- A row of `write_tickets` as SQLite returns it; a column of JSON text or of a closed value
holds the value itself. -/
structure WriteTicketRecordRaw where
  (projectId writeTicketId taskId changeUnitId : String)
  basisStateVersion : Nat
  status : WriteTicketStatus
  validityBasis : WriteTicketValidityBasis
  (allowedPathPrefixes deniedPathPrefixes : List ProductRelativePath)
  attemptScope : WriteTicketAttemptScope
  createdByActorSource : String
  (createdByUserActionResolutionId idleExpiresAt : Option String)
  invalidationReason : Option WriteTicketInvalidationReason
  (consumedByRunId consumedAt : Option String)
  createdAt : String

/-- The columns `insert_write_ticket_record` writes and the later updates leave. -/
def StoredWriteTicket.raw (X : External) (projectId : String) (record : StoredWriteTicket) :
    WriteTicketRecordRaw where
  projectId := projectId
  writeTicketId := record.writeTicketId
  taskId := record.taskId
  changeUnitId := record.changeUnitId
  basisStateVersion := record.basisStateVersion
  status := record.status
  validityBasis := record.validityBasis
  allowedPathPrefixes := record.pathScope.allowed
  deniedPathPrefixes := record.pathScope.denied
  attemptScope := record.attemptScope
  createdByActorSource := record.createdByActorSource.toCanonicalString
  createdByUserActionResolutionId := record.createdByUserActionResolutionId
  idleExpiresAt := record.idleExpiresAt.map X.chrono.toCanonicalString
  invalidationReason := record.invalidationReason
  consumedByRunId := record.consumedByRunId
  consumedAt := record.consumedAt
  createdAt := X.chrono.toCanonicalString record.createdAt

def writeTicketPathScopeInvariant : WriteTicketPathScopeError → WriteTicketInvariant
  | .duplicateAllowedPath => .duplicateAllowedPaths
  | .duplicateDeniedPath => .duplicateDeniedPaths
  | .allowedDeniedOverlap => .allowedDeniedPathDisjointness

/-- An optional column that holds something readable if it holds anything. -/
def decodeOptional {α β : Type} (error : StoreError) (decode : α → Option β) :
    Option α → StoreResult (Option β)
  | none => .ok none
  | some value => (okOr error (decode value)).map some

def nonemptyStoredIdentifier (value : String) : Option String :=
  if Text.isBlank value then none else some value

def decodeWriteTicketRecord (X : External) (raw : WriteTicketRecordRaw) :
    StoreResult StoredWriteTicket := do
  let corruptValue := StoreError.corruptOwnerStateValue "write_tickets" raw.writeTicketId
  let corruptJson := StoreError.corruptOwnerStateJson "write_tickets" raw.writeTicketId
  let corruptInvariant := fun invariant : WriteTicketInvariant =>
    StoreError.corruptOwnerStateInvariant raw.writeTicketId invariant.asStr
  let _ ← okOr (corruptValue "project_id") (nonemptyStoredIdentifier raw.projectId)
  let _ ← okOr (corruptValue "write_ticket_id") (nonemptyStoredIdentifier raw.writeTicketId)
  let _ ← okOr (corruptValue "task_id") (nonemptyStoredIdentifier raw.taskId)
  let _ ← okOr (corruptValue "change_unit_id") (nonemptyStoredIdentifier raw.changeUnitId)
  let pathScope ← (WriteTicketPathScope.new raw.allowedPathPrefixes raw.deniedPathPrefixes).mapError
    fun error => corruptInvariant (writeTicketPathScopeInvariant error)
  let createdByActorSource ← okOr (corruptValue "created_by_actor_source")
    (ActorSource.parse raw.createdByActorSource)
  let createdByUserActionResolutionId ← decodeOptional
    (corruptValue "created_by_user_action_resolution_id") nonemptyStoredIdentifier
    raw.createdByUserActionResolutionId
  let idleExpiresAt ← decodeOptional (corruptValue "idle_expires_at") X.chrono.parse
    raw.idleExpiresAt
  let createdAt ← okOr (corruptValue "created_at") (X.chrono.parse raw.createdAt)
  let consumedAt ← decodeOptional (corruptValue "consumed_at") X.chrono.parse raw.consumedAt
  let consumedByRunId ← decodeOptional (corruptValue "consumed_by_run_id")
    nonemptyStoredIdentifier raw.consumedByRunId
  let record : StoredWriteTicket :=
    { writeTicketId := raw.writeTicketId, taskId := raw.taskId, changeUnitId := raw.changeUnitId
      basisStateVersion := raw.basisStateVersion, status := raw.status
      validityBasis := raw.validityBasis, pathScope := pathScope, attemptScope := raw.attemptScope
      createdByActorSource := createdByActorSource
      createdByUserActionResolutionId := createdByUserActionResolutionId
      idleExpiresAt := idleExpiresAt, invalidationReason := raw.invalidationReason
      consumedByRunId := consumedByRunId, consumedAt := raw.consumedAt, createdAt := createdAt }
  (validateWriteTicketRecord X raw.projectId record consumedAt).mapError fun
    | .jsonField column => corruptJson column
    | .valueField column => corruptValue column
    | .invariant failed => corruptInvariant failed
  return record

namespace CoreTables

def invalidateActiveWriteTickets (taskId : String) (reason : WriteTicketInvalidationReason)
    (t : CoreTables) : StoreResult CoreTables := do
  validateIdentifier "task_id" taskId
  return { t with
    writeTickets := t.writeTickets.updateWhere
      (fun row => row.taskId = taskId && row.status = .active) (·.invalidated reason) }

def invalidateWriteTicket (writeTicketId : String) (reason : WriteTicketInvalidationReason)
    (t : CoreTables) : StoreResult CoreTables := do
  validateIdentifier "write_ticket_id" writeTicketId
  ensure ((t.writeTicketRecord writeTicketId).any fun row => row.status = .active)
    (.schemaInvariant projectStateDatabaseKind
      "identified active write ticket invalidation changed no rows")
  return { t with writeTickets := t.writeTickets.update writeTicketId (·.invalidated reason) }

def insertWriteTicket (X : External) (projectId : String) (committedStateVersion : Nat)
    (input : WriteTicketInsert) (t : CoreTables) : StoreResult CoreTables := do
  validateIdentifier "write_ticket_id" input.writeTicketId
  validateIdentifier "task_id" input.taskId
  validateIdentifier "change_unit_id" input.changeUnitId
  validateOptionalIdentifier "created_by_user_action_resolution_id"
    input.createdByUserActionResolutionId
  let record := input.row committedStateVersion
  (validateWriteTicketRecord X projectId record none).mapError fun failure =>
    StoreError.invalidInput
    ("write-ticket typed authority facts are inconsistent: " ++ failure.debug)
  let constraintsHold := (t.taskRow input.taskId).isSome
    && (t.changeUnitRecord input.taskId input.changeUnitId).isSome
    && input.createdByUserActionResolutionId.all fun id =>
      (t.userActionResolutions.find? id).isSome
  let rows ← insertRow t.writeTickets record constraintsHold "write_tickets"
  return { t with writeTickets := rows }

def consumeWriteTicket (X : External) (committedAt : String) (input : WriteTicketConsumption)
    (t : CoreTables) : StoreResult CoreTables := do
  validateIdentifier "write_ticket_id" input.writeTicketId
  validateIdentifier "run_id" input.runId
  let ticket ← okOr (.notFound "write_ticket" input.writeTicketId)
    (t.writeTicketRecord input.writeTicketId)
  let fingerprint ← t.currentWriteAuthorityFingerprint X
  ensure (ticket.status = .active
      && ticket.basisStateVersion = input.expectedBasisStateVersion
      && ticket.validityBasis.writeAuthorityFingerprint = input.expectedWriteAuthorityFingerprint
      && fingerprint = input.expectedWriteAuthorityFingerprint)
    (.conflict "write_ticket" input.writeTicketId
      "write ticket authority changed before consumption")
  let _ ← u64ToI64 "write_tickets.basis_state_version" input.expectedBasisStateVersion
  -- a Run consumes one ticket
  ensure (t.writeTickets.rows.all fun row => row.consumedByRunId ≠ some input.runId)
    (.sqlite "write_tickets constraint failed")
  return { t with
    writeTickets := t.writeTickets.update input.writeTicketId ({ · with
      status := .consumed, consumedByRunId := some input.runId, consumedAt := some committedAt }) }

/-- The constraints of a new `runs` row; its ticket reference is deferred. -/
def runConstraintsHold (t : CoreTables) (row : RunRecord) : Bool :=
  (t.taskRow row.taskId).isSome
  && row.changeUnitId.all (fun id => (t.changeUnitRecord row.taskId id).isSome)
  && t.runs.rows.all fun other =>
    row.writeTicketId.isNone || other.writeTicketId ≠ row.writeTicketId

def insertRun (row : RunRecord) (t : CoreTables) : StoreResult CoreTables := do
  validateIdentifier "run_id" row.runId
  validateIdentifier "task_id" row.taskId
  validateOptionalIdentifier "change_unit_id" row.changeUnitId
  let _ ← u64ToI64 "runs.scope_revision" row.scopeRevision
  validateOptionalIdentifier "write_ticket_id" row.writeTicketId
  let rows ← insertRow t.runs row (t.runConstraintsHold row) "runs"
  return { t with runs := rows }

end CoreTables

def WriteTicketMutation.apply (X : External) (context : MutationContext)
    (committedStateVersion : Nat) (t : CoreTables) : WriteTicketMutation → StoreResult CoreTables
  | .markActiveStale taskId => t.invalidateActiveWriteTickets taskId .scopeRevisionChanged
  | .invalidateActive taskId reason => t.invalidateActiveWriteTickets taskId reason
  | .invalidateById writeTicketId reason => t.invalidateWriteTicket writeTicketId reason
  | .insert input => t.insertWriteTicket X context.projectId committedStateVersion input
  | .consume input => t.consumeWriteTicket X context.committedAt input

def RunMutation.apply (t : CoreTables) : RunMutation → StoreResult CoreTables
  | .insert row => t.insertRun row

end Volicord
