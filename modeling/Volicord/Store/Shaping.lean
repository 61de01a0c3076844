import Volicord.Store.Tables

/-! `core_pipeline/shaping.rs`: what a shaping mutation does inside one transaction. The
unique indexes and triggers of the shaping tables that a statement can meet stand as
checks in front of it. -/
namespace Volicord
open Result Relational

structure ShapingGapApplication where
  (shapingDecisionApplicationId shapingGapId userActionResolutionId : String)

structure ShapingAdvanceApplication where
  (taskId shapingCheckpointId changeUnitId : String)
  scopeRevision : Nat
  baselineRef : String
  applications : List ShapingGapApplication

structure ShapingStaleAuthorityDisposition where
  (staleApplicationId staleUserActionRequestId : String)
  outcome : ShapingAuthorityReauthorizationOutcome
  (successorGapId successorUserActionRequestId : Option String)

structure ShapingCheckpointUserActionInsert where
  userActionRequestId : String
  actionKind : UserActionKind

structure ShapingCheckpointGapInsert where
  shapingGapId : String
  gapKind : ShapingGapKind
  summary : String
  reauthorizesApplicationId : Option String
  userAction : Option ShapingCheckpointUserActionInsert

structure ShapingCheckpointInsert where
  shapingCheckpointId : String
  checkpointOperation : ShapingCheckpointOperation
  taskId : String
  scopeRevision : Nat
  baselineRef : Option String
  summary : String
  implementationBoundary : Option String
  readiness : ShapingCheckpointReadiness
  createdAt : UtcTimestamp
  (retiredNonAuthorizingRequestIds carryForwardApplicationIds : List String)
  staleAuthorityDispositions : List ShapingStaleAuthorityDisposition
  gaps : List ShapingCheckpointGapInsert

inductive ShapingCheckpointMutation where
  | record (input : ShapingCheckpointInsert)
  | resolveLinkedGap (userActionRequestId userActionResolutionId : String)
      (disposition : ShapingGapStatus)
  | applyScopeAndRebaseCurrent (taskId shapingCheckpointId : String) (scopeRevision : Nat)
      (baselineRef changeUnitId : Option String) (applications : List ShapingGapApplication)
  | applyAdvanceAndTransition (input : ShapingAdvanceApplication)
  | applyAdvisorFinalization (input : ShapingAdvanceApplication)
  | supersedeCurrent (taskId : String)

/-- The identity derived from the resolution and the owner that applies it. -/
def shapingDecisionApplicationId (X : External) (userActionResolutionId : String)
    (owner : ShapingDecisionApplicationOwner) : String :=
  "shaping_application_" ++ X.sha256Hex (X.json.canonicalJsonString
    (.obj [("application_owner", .str owner.asStr),
      ("user_action_resolution_id", .str userActionResolutionId)]))

def shapingAuthorityReauthorizationId (X : External) (staleApplicationId : String) : String :=
  "shaping_reauthorization_" ++ X.sha256Hex (X.json.canonicalJsonString
    (.obj [("stale_application_id", .str staleApplicationId)]))

/-- Two `BTreeSet`s of ids are equal. -/
def idSetsEqual (left right : List String) : Bool :=
  left.all right.contains && right.all left.contains

def validateOptionalIdentifier (field : String) : Option String → StoreResult Unit
  | none => .ok ()
  | some value => validateIdentifier field value

/-- An `INSERT` with its primary key and the other constraints it meets. -/
def insertRow {α κ : Type} [DecidableEq κ] {key : α → κ} (table : Table key) (row : α)
    (constraintsHold : Bool) (name : String) : StoreResult (Table key) := do
  ensure constraintsHold (.sqlite (name ++ " constraint failed"))
  okOr (.sqlite (name ++ " constraint failed")) (table.insert? row)

def StateRecordRef.belongsTo (reference : StateRecordRef) (kind : StateRecordKind)
    (projectId taskId : String) : Bool :=
  reference.recordKind = kind && reference.projectId = projectId
  && reference.taskId = some taskId

/- Invalidation of applications. -/

def ShapingDecisionApplicationAuthorityStatus.basisStatus :
    ShapingDecisionApplicationAuthorityStatus → UserActionBasisStatus
  | .current => .current
  | .stale => .stale
  | .superseded => .superseded

def UserActionRequestRecord.withBasisStatus (status : UserActionBasisStatus)
    (row : UserActionRequestRecord) : UserActionRequestRecord :=
  { row with basisStatus := status, basis := row.basis.withCompatibilityStatus status }

def ShapingDecisionApplicationRow.invalidated (committedAt : String)
    (status : ShapingDecisionApplicationAuthorityStatus) (row : ShapingDecisionApplicationRow) :
    ShapingDecisionApplicationRow :=
  { row with
    authorityStatus := status
    staleAt := if status = .stale then some committedAt else none
    supersededAt := if status = .superseded then some committedAt else none }

def fitsSqliteInteger (value : Nat) (detail : String) : StoreResult Unit :=
  ensure ((value : Int) ≤ i64Max) (.invalidInput detail)

def ShapingDecisionApplicationRow.hasCoordinates (row : ShapingDecisionApplicationRow)
    (scopeRevision : Nat) (baselineRef changeUnitId : Option String) : Bool :=
  row.appliedScopeRevision = scopeRevision && some row.appliedBaselineRef = baselineRef
  && row.appliedChangeUnitId = changeUnitId

def ShapingCheckpointRow.rebased (scopeRevision : Nat) (baselineRef : Option String)
    (hasCurrentGap : Bool) (row : ShapingCheckpointRow) : ShapingCheckpointRow :=
  { row with
    scopeRevision := scopeRevision
    baselineRef := baselineRef
    readiness := if baselineRef.isSome && row.implementationBoundary.isSome && !hasCurrentGap
      then .ready else row.readiness }

def ShapingAdvanceApplication.validate (input : ShapingAdvanceApplication) (tooLarge : String) :
    StoreResult Unit := do
  validateIdentifier "task_id" input.taskId
  validateIdentifier "shaping_checkpoint_id" input.shapingCheckpointId
  validateIdentifier "change_unit_id" input.changeUnitId
  fitsSqliteInteger input.scopeRevision tooLarge

def TaskRecord.eligibleForAdvance (row : TaskRecord) (input : ShapingAdvanceApplication) : Bool :=
  row.mode = .work && row.workPhase = .shaping && row.scopeRevision = input.scopeRevision
  && row.currentChangeUnitId = some input.changeUnitId
  && row.shaping.baselineRef = some input.baselineRef && !row.lifecyclePhase.terminal

namespace CoreTables

variable (committedAt : String) (status : ShapingDecisionApplicationAuthorityStatus)
  (t : CoreTables)

/-- One row of `invalidate_application_rows`: the application leaves `current`, and the
basis of its request follows, unless it already has that status. -/
def invalidateApplication (applicationId requestId : String) : StoreResult CoreTables := do
  ensure ((t.shapingApplications.find? applicationId).any fun row => row.authorityStatus = .current)
    (.conflict "shaping_decision_application" applicationId
      "application authority invalidation compare-and-swap failed")
  let t := { t with
    shapingApplications := t.shapingApplications.update applicationId
      (·.invalidated committedAt status) }
  let target := status.basisStatus
  match t.userActionRequests.find? requestId with
  | none => .error (.conflict "user_action_request" requestId
      "application request-basis invalidation compare-and-swap failed")
  | some request =>
    if request.basisStatus = .current || (status = .superseded && request.basisStatus = .stale) then
      return { t with
        userActionRequests := t.userActionRequests.update requestId (·.withBasisStatus target) }
    else
      ensure (request.basisStatus = target && request.basis.compatibilityStatus = target)
        (.conflict "user_action_request" requestId
          "application request-basis invalidation compare-and-swap failed")
      return t

def invalidateApplicationRows (rows : List ShapingDecisionApplicationRow) :
    StoreResult CoreTables := do
  ensure (status ≠ .current)
    (.invalidInput "application invalidation requires a non-current status")
  rows.foldlM (fun t row => invalidateApplication committedAt status t
    row.shapingDecisionApplicationId row.userActionRequestId) t

def invalidateAllCurrentApplications (taskId : String) (t : CoreTables) : StoreResult CoreTables :=
  invalidateApplicationRows committedAt status t (t.currentApplications taskId)

def supersedeTaskShapingApplications (committedAt taskId : String) (t : CoreTables) :
    StoreResult CoreTables :=
  invalidateAllCurrentApplications committedAt .superseded taskId t

def invalidateIncompatibleCurrentApplications (committedAt taskId : String) (scopeRevision : Nat)
    (baselineRef changeUnitId : Option String) (t : CoreTables) : StoreResult CoreTables :=
  invalidateApplicationRows committedAt .stale t ((t.currentApplications taskId).filter fun row =>
    !row.hasCoordinates scopeRevision baselineRef changeUnitId)

/- Reads of one transaction. -/

def taskMode (taskId : String) : StoreResult TaskMode :=
  (okOr (.sqlite "query returned no rows") (t.taskRow taskId)).map (·.mode)

variable (taskId shapingCheckpointId : String)

def requireExactCurrentCheckpoint : StoreResult Unit :=
  ensure ((t.shapingCheckpoints.find? shapingCheckpointId).any fun row =>
      row.taskId = taskId && row.readiness ≠ .superseded)
    (.invalidInput "selected shaping checkpoint is not the exact current checkpoint")

def requireTaskScopeRevision (taskId : String) (scopeRevision : Nat) : StoreResult Unit :=
  ensure ((t.taskRow taskId).any fun row => row.scopeRevision = scopeRevision)
    (.invalidInput "shaping checkpoint scope_revision does not match the current Task")

/-- A current request of the checkpoint with no current application linked to it;
`trg_shaping_checkpoint_live_user_action_not_detached` keeps such a checkpoint current. -/
def hasLiveUserAction (shapingCheckpointId : String) : Bool :=
  t.shapingGapLinks.rows.any fun link =>
    link.shapingCheckpointId = shapingCheckpointId
    && (t.shapingGaps.find? link.key).isSome
    && (t.userActionRequests.find? link.userActionRequestId).any (fun request =>
      request.basisStatus = .current)
    && !t.shapingApplications.rows.any fun application =>
      application.userActionRequestId = link.userActionRequestId
      && application.authorityStatus = .current
      && (t.shapingApplicationLinks.find?
        (shapingCheckpointId, application.shapingDecisionApplicationId)).isSome

def supersedeCheckpoints (select : ShapingCheckpointRow → Bool) : StoreResult CoreTables := do
  ensure (!t.shapingCheckpoints.rows.any fun row =>
      select row && t.hasLiveUserAction row.shapingCheckpointId)
    (.sqlite "live shaping UserAction authority cannot be detached")
  return { t with
    shapingCheckpoints := t.shapingCheckpoints.updateWhere select
      ({ · with readiness := .superseded }) }

def supersedeCurrentShapingCheckpoint (committedAt taskId : String) (t : CoreTables) :
    StoreResult CoreTables := do
  let t ← invalidateAllCurrentApplications committedAt .superseded taskId t
  t.supersedeCheckpoints fun row => row.taskId = taskId && row.readiness ≠ .superseded

/- Application of accepted decisions. -/

def acceptedChoice : UserActionResolutionBody → Bool
  | .choice _ .accept .accepted _ _ => true
  | _ => false

def policyOwner (kind : UserActionKind) (mode : TaskMode) :
    Option ShapingDecisionApplicationOwner :=
  match kind with
  | .scopeDecision => some .updateScope
  | .productDecision | .technicalDecision | .sensitiveApproval =>
    some (advisorOrWorkApplicationOwner mode)
  | _ => none

/-- `trg_shaping_decision_application_requires_accepted_resolution` and the uniqueness of
the resolution per owner. -/
def applicationConstraintsHold (row : ShapingDecisionApplicationRow) : Bool :=
  ((t.shapingGaps.find? (row.sourceCheckpointId, row.sourceGapId)).any fun gap =>
    gap.taskId = row.taskId && gap.status = .accepted)
  && ((t.shapingGapLinks.find? (row.sourceCheckpointId, row.sourceGapId)).any fun link =>
    link.userActionRequestId = row.userActionRequestId
    && link.userActionResolutionId = some row.userActionResolutionId
    && link.actionKind = row.judgmentKind)
  && ((t.userActionRequests.find? row.userActionRequestId).any fun request =>
    let coordinates := request.basis.coordinates
    request.basisStatus = .current && coordinates.scopeRevision = row.appliedScopeRevision
    && coordinates.baselineRef = some row.appliedBaselineRef
    && coordinates.changeUnitId = row.appliedChangeUnitId
    && coordinates.compatibilityStatus = .current)
  && ((t.userActionResolutions.find? row.userActionResolutionId).any fun resolution =>
    resolution.userActionRequestId = row.userActionRequestId
    && acceptedChoice resolution.resolution)
  && ((t.taskRow row.taskId).any fun task =>
    task.scopeRevision = row.appliedScopeRevision
    && task.shaping.baselineRef = some row.appliedBaselineRef
    && task.currentChangeUnitId = row.appliedChangeUnitId
    && policyOwner row.judgmentKind task.mode = some row.applicationOwner)
  && t.shapingApplications.rows.all fun other =>
    !(other.userActionResolutionId = row.userActionResolutionId
      && other.applicationOwner = row.applicationOwner)

def applicationLinkConstraintsHold (row : ShapingApplicationLinkRow) : Bool :=
  ((t.shapingApplications.find? row.shapingDecisionApplicationId).any fun application =>
    application.taskId = row.taskId && application.authorityStatus = .current
    && (row.carriedFromCheckpointId.isSome
      || application.sourceCheckpointId = row.shapingCheckpointId))
  && ((t.shapingCheckpoints.find? row.shapingCheckpointId).any fun checkpoint =>
    checkpoint.taskId = row.taskId
    && match row.carriedFromCheckpointId with
      | none => true
      | some predecessor => checkpoint.predecessorShapingCheckpointId = some predecessor
        && (t.shapingApplicationLinks.find?
          (predecessor, row.shapingDecisionApplicationId)).isSome)

structure ShapingApplicationBasis where
  scopeRevision : Nat
  (baselineRef changeUnitId : Option String)

variable (X : External)

/-- The body of the loop of `apply_selected_gaps`, for one selected gap. -/
def applySelectedGap (taskId shapingCheckpointId : String) (mode : TaskMode)
    (owner : ShapingDecisionApplicationOwner) (basis : ShapingApplicationBasis)
    (application : ShapingGapApplication) (t : CoreTables) : StoreResult CoreTables := do
  validateIdentifier "shaping_gap_id" application.shapingGapId
  validateIdentifier "user_action_resolution_id" application.userActionResolutionId
  let unlinked := StoreError.invalidInput
    "selected shaping application does not identify one exact linked gap"
  let gapKey := (shapingCheckpointId, application.shapingGapId)
  let gap ← okOr unlinked ((t.shapingGaps.find? gapKey).filter fun gap => gap.taskId = taskId)
  let link ← okOr unlinked (t.shapingGapLinks.find? gapKey)
  let request ← okOr unlinked (t.userActionRequests.find? link.userActionRequestId)
  let policy ← okOr (.invalidInput "a non-user shaping gap cannot be applied by a decision owner")
    (gap.gapKind.decisionPolicyForMode mode)
  ensure (policy.applicationOwner = owner && gap.status = .accepted
      && link.userActionResolutionId = some application.userActionResolutionId
      && request.basisStatus = .current && request.requiredFor = policy.requiredFor)
    (.invalidInput "selected shaping application does not match its exact semantic owner and resolution")
  let judgmentKind ← okOr (.invalidInput "a shaping application requires a judgment kind")
    gap.gapKind.judgmentKind
  let baselineRef ← okOr (.invalidInput "a shaping application requires a current baseline")
    basis.baselineRef
  ensure (application.shapingDecisionApplicationId
      = shapingDecisionApplicationId X application.userActionResolutionId owner)
    (.invalidInput "shaping application identity does not match its resolution and owner")
  fitsSqliteInteger basis.scopeRevision "shaping application scope revision is too large"
  let row : ShapingDecisionApplicationRow :=
    { shapingDecisionApplicationId := application.shapingDecisionApplicationId, taskId := taskId
      sourceCheckpointId := shapingCheckpointId, sourceGapId := application.shapingGapId
      userActionRequestId := link.userActionRequestId
      userActionResolutionId := application.userActionResolutionId
      judgmentKind := judgmentKind, applicationOwner := owner
      appliedScopeRevision := basis.scopeRevision, appliedBaselineRef := baselineRef
      appliedChangeUnitId := basis.changeUnitId, authorityStatus := .current
      staleAt := none, supersededAt := none }
  let applications ← insertRow t.shapingApplications row (t.applicationConstraintsHold row)
    "shaping_decision_applications"
  let t := { t with shapingApplications := applications }
  let linkRow : ShapingApplicationLinkRow :=
    ⟨taskId, shapingCheckpointId, application.shapingDecisionApplicationId, none⟩
  let links ← insertRow t.shapingApplicationLinks linkRow (t.applicationLinkConstraintsHold linkRow)
    "shaping_checkpoint_applications"
  return { t with
    shapingApplicationLinks := links
    shapingGaps := t.shapingGaps.update gapKey ({ · with status := .applied }) }

def applySelectedGaps (taskId shapingCheckpointId : String)
    (owner : ShapingDecisionApplicationOwner) (basis : ShapingApplicationBasis)
    (applications : List ShapingGapApplication) (t : CoreTables) : StoreResult CoreTables := do
  let mode ← t.taskMode taskId
  -- the source finds a repeated id in the loop, after the effects of the rows before it
  ensure ((applications.map (·.shapingGapId)).Nodup
      && (applications.map (·.userActionResolutionId)).Nodup)
    (.invalidInput "shaping applications must contain unique gap and resolution ids")
  applications.foldlM (fun t application =>
    applySelectedGap X taskId shapingCheckpointId mode owner basis application t) t

def requireOwnerGapsApplied (owner : ShapingDecisionApplicationOwner) : StoreResult Unit := do
  let mode ← t.taskMode taskId
  ensure ((t.gapsOf shapingCheckpointId).all fun gap =>
      !(gap.gapKind.decisionPolicyForMode mode).any (·.applicationOwner = owner)
      || gap.status = .applied)
    (.invalidInput
      "every gap owned by the selected shaping application method must be applied exactly")

/- Gap resolution. -/

def dispositionOf : UserActionResolutionBody → Option ShapingGapStatus
  | .choice _ .accept .accepted _ _ => some .accepted
  | .choice _ .reject .rejected _ _ => some .rejected
  | .choice _ .defer .deferred _ _ => some .deferred
  | _ => none

def hasCurrentGap (shapingCheckpointId : String) : Bool :=
  (t.gapsOf shapingCheckpointId).any fun gap => gap.status = .current

def resolveShapingGap (userActionRequestId userActionResolutionId : String)
    (disposition : ShapingGapStatus) (t : CoreTables) : StoreResult CoreTables := do
  validateIdentifier "user_action_request_id" userActionRequestId
  validateIdentifier "user_action_resolution_id" userActionResolutionId
  ensure (disposition ∈ [.accepted, .rejected, .deferred])
    (.invalidInput "a shaping resolution requires an exact terminal decision disposition")
  let resolution ← okOr (.sqlite "query returned no rows")
    ((t.userActionResolutions.find? userActionResolutionId).filter fun row =>
      row.userActionRequestId = userActionRequestId)
  let expected ← okOr
    (.invalidInput "shaping resolution action and outcome are not compatible")
    (dispositionOf resolution.resolution)
  ensure (disposition = expected)
    (.invalidInput "shaping disposition does not match the immutable resolution outcome")
  match (t.gapLinkFor userActionRequestId).filter fun link =>
    link.userActionResolutionId.isNone with
  | none => return t
  | some link =>
    let t := { t with
      shapingGapLinks := t.shapingGapLinks.updateWhere
        (fun row => row.userActionRequestId = userActionRequestId)
        ({ · with userActionResolutionId := some userActionResolutionId }) }
    ensure ((t.shapingGaps.find? link.key).all fun gap => gap.status = .current)
      (.sqlite "invalid shaping gap disposition transition")
    let t := { t with
      shapingGaps := t.shapingGaps.update link.key ({ · with status := disposition }) }
    let becomesReady (row : ShapingCheckpointRow) : Bool :=
      row.shapingCheckpointId = link.shapingCheckpointId && row.readiness = .blocked
      && row.baselineRef.isSome && row.implementationBoundary.isSome
      && !t.hasCurrentGap link.shapingCheckpointId
    return { t with
      shapingCheckpoints := t.shapingCheckpoints.updateWhere becomesReady
        ({ · with readiness := .ready }) }

/- The owners' applications. -/

def applyScopeAndRebaseCurrentShapingCheckpoint (committedAt taskId shapingCheckpointId : String)
    (scopeRevision : Nat) (baselineRef changeUnitId : Option String)
    (applications : List ShapingGapApplication) (t : CoreTables) : StoreResult CoreTables := do
  validateIdentifier "task_id" taskId
  validateIdentifier "shaping_checkpoint_id" shapingCheckpointId
  fitsSqliteInteger scopeRevision "shaping checkpoint scope_revision is too large"
  t.requireExactCurrentCheckpoint taskId shapingCheckpointId
  t.requireTaskScopeRevision taskId scopeRevision
  let t ← invalidateIncompatibleCurrentApplications committedAt taskId scopeRevision baselineRef
    changeUnitId t
  let t ← applySelectedGaps X taskId shapingCheckpointId .updateScope
    ⟨scopeRevision, baselineRef, changeUnitId⟩ applications t
  t.requireOwnerGapsApplied taskId shapingCheckpointId .updateScope
  return { t with
    shapingCheckpoints := t.shapingCheckpoints.update shapingCheckpointId
      (·.rebased scopeRevision baselineRef (t.hasCurrentGap shapingCheckpointId)) }

def checkpointBasisMatches (input : ShapingAdvanceApplication) : Bool :=
  (t.shapingCheckpoints.find? input.shapingCheckpointId).any fun row =>
    row.taskId = input.taskId && row.readiness = .ready
    && row.scopeRevision = input.scopeRevision && row.baselineRef = some input.baselineRef

def currentChangeUnitMatches (input : ShapingAdvanceApplication) : Bool :=
  (t.changeUnits.find? input.changeUnitId).any fun row =>
    row.taskId = input.taskId && row.status = .active && row.isCurrent
    && row.writeBasis.baselineRef = some input.baselineRef && !row.recoveryRequired

def applyAdvanceShapingAndTransition (input : ShapingAdvanceApplication) (t : CoreTables) :
    StoreResult CoreTables := do
  input.validate "advance scope_revision is too large"
  t.requireExactCurrentCheckpoint input.taskId input.shapingCheckpointId
  ensure (t.checkpointBasisMatches input)
    (.invalidInput "advance shaping checkpoint basis is not exact and ready")
  ensure (t.currentChangeUnitMatches input)
    (.invalidInput "advance requires the exact current Change Unit")
  let t ← applySelectedGaps X input.taskId input.shapingCheckpointId .advanceTask
    ⟨input.scopeRevision, some input.baselineRef, some input.changeUnitId⟩ input.applications t
  ensure ((t.gapsOf input.shapingCheckpointId).all fun gap => gap.status = .applied)
    (.invalidInput "advance cannot change phase while a shaping gap is unapplied")
  ensure ((t.taskRow input.taskId).any (·.eligibleForAdvance input))
    (.conflict "task" input.taskId
      "Task is not eligible for the exact shaping-to-implementation transition")
  return { t with
    tasks := t.tasks.update input.taskId
      ({ · with workPhase := .implementation, lifecyclePhase := .executing }) }

def applyAdvisorShapingFinalization (input : ShapingAdvanceApplication) (t : CoreTables) :
    StoreResult CoreTables := do
  input.validate "advisor finalization scope_revision is too large"
  t.requireExactCurrentCheckpoint input.taskId input.shapingCheckpointId
  ensure (t.checkpointBasisMatches input && t.currentChangeUnitMatches input
      && (t.taskRow input.taskId).any fun row =>
        row.mode = .advisor && row.workPhase = .shaping && row.scopeRevision = input.scopeRevision
        && row.currentChangeUnitId = some input.changeUnitId
        && row.shaping.baselineRef = some input.baselineRef)
    (.invalidInput "advisor finalization basis is not exact, current, and ready")
  let t ← applySelectedGaps X input.taskId input.shapingCheckpointId .finalizeAdvice
    ⟨input.scopeRevision, some input.baselineRef, some input.changeUnitId⟩ input.applications t
  t.requireOwnerGapsApplied input.taskId input.shapingCheckpointId .finalizeAdvice
  ensure (!t.hasCurrentGap input.shapingCheckpointId)
    (.invalidInput "advisor finalization cannot retain an unresolved shaping gap")
  return t

/- Recording a checkpoint. -/

def validateCheckpointInsert (input : ShapingCheckpointInsert) : StoreResult Unit := do
  validateIdentifier "shaping_checkpoint_id" input.shapingCheckpointId
  validateIdentifier "task_id" input.taskId
  validateIdentifier "shaping checkpoint summary" input.summary
  ensure (input.readiness ≠ .superseded)
    (.invalidInput "a newly recorded shaping checkpoint cannot be superseded")
  ensure (input.checkpointOperation ≠ .createInitial
      || (input.retiredNonAuthorizingRequestIds.isEmpty && input.carryForwardApplicationIds.isEmpty
        && input.staleAuthorityDispositions.isEmpty))
    (.invalidInput "create_initial cannot retire requests or carry applications")
  ensure (input.readiness ≠ .ready || (input.gaps.isEmpty && input.baselineRef.isSome
      && input.implementationBoundary.any (!Text.isBlank ·)))
    (.invalidInput "a ready shaping checkpoint requires a baseline, boundary, and no gaps")
  ensure (input.readiness ≠ .blocked || !input.gaps.isEmpty)
    (.invalidInput "a blocked shaping checkpoint requires at least one typed gap")

/-- The refs name distinct records of the kind in the Task, and the ids are theirs. -/
def validateTypedRefs (refs : List StateRecordRef) (ids : List String) (kind : StateRecordKind)
    (projectId taskId foreign mismatch : String) : StoreResult Unit := do
  ensure (refs.all fun reference => reference.belongsTo kind projectId taskId)
    (.invalidInput foreign)
  ensure ((refs.map (·.recordId)).Nodup && ids.Nodup && idSetsEqual (refs.map (·.recordId)) ids)
    (.invalidInput mismatch)

/-- `validate_carry_forward_applications`: exactly the current applications of the Task. -/
def validateCarryForwardApplications (projectId : String) (input : ShapingCheckpointInsert)
    (predecessorCheckpointId : String) (carryForwardApplicationRefs : List StateRecordRef) :
    StoreResult Unit := do
  validateTypedRefs carryForwardApplicationRefs input.carryForwardApplicationIds
    .shapingDecisionApplication projectId input.taskId
    "carried application refs must belong to the exact predecessor Task"
    "typed carry-forward refs and aggregate application ids must match exactly"
  fitsSqliteInteger input.scopeRevision "shaping checkpoint scope_revision is too large"
  let task ← okOr (.sqlite "query returned no rows") (t.taskRow input.taskId)
  let applications := t.currentApplications input.taskId
  let successorJudgments := input.gaps.filterMap fun gap => gap.gapKind.judgmentKind
  applications.forM fun row => do
    let policyOwner ← okOr (.schemaInvariant projectStateDatabaseKind
      "a shaping application has a non-shaping judgment kind")
      (policyOwner row.judgmentKind task.mode)
    ensure ((t.shapingApplicationLinks.find?
          (predecessorCheckpointId, row.shapingDecisionApplicationId)).any (·.taskId = input.taskId)
        && row.hasCoordinates input.scopeRevision input.baselineRef task.currentChangeUnitId
        && row.applicationOwner = policyOwner)
      (.schemaInvariant projectStateDatabaseKind
        "a current shaping application is detached or incompatible with successor coordinates")
    ensure (!successorJudgments.contains row.judgmentKind)
      (.invalidInput "a successor gap conflicts with carried shaping application authority")
  ensure (idSetsEqual input.carryForwardApplicationIds
      (applications.map (·.shapingDecisionApplicationId)))
    (.invalidInput
      "carry-forward application refs must exactly match current compatible authority")

def retirementPermitted (createdAt : UtcTimestamp) (link : ShapingGapLinkRow)
    (status : ShapingGapStatus) (request : UserActionRequestRecord) : Bool :=
  let resolution := t.resolutionOf link.userActionRequestId
  match status with
  | .rejected => resolution.any fun row => dispositionOf row.resolution = some .rejected
  | .deferred => resolution.any fun row => dispositionOf row.resolution = some .deferred
  | .current => resolution.isNone && request.expiresAt.any (· ≤ createdAt)
  | .accepted | .applied => false

/-- The links of a checkpoint whose gap is not applied and whose request is current. -/
def liveLinks : List (ShapingGapLinkRow × ShapingGapStatus × UserActionRequestRecord) :=
  t.shapingGapLinks.rows.filterMap fun link =>
    if link.taskId = taskId && link.shapingCheckpointId = shapingCheckpointId then
      match t.shapingGaps.find? link.key, t.userActionRequests.find? link.userActionRequestId with
      | some gap, some request =>
        if gap.status ≠ .applied && request.basisStatus = .current
        then some (link, gap.status, request) else none
      | _, _ => none
    else none

def retireCheckpointUserActions (projectId : String) (input : ShapingCheckpointInsert)
    (shapingCheckpointId : String) (retiredNonAuthorizingRequestRefs : List StateRecordRef) :
    StoreResult CoreTables := do
  validateTypedRefs retiredNonAuthorizingRequestRefs input.retiredNonAuthorizingRequestIds
    .userActionRequest projectId input.taskId
    "retired request refs must belong to the exact predecessor Task"
    "typed retirement refs and aggregate retirement ids must match exactly"
  let links := t.liveLinks input.taskId shapingCheckpointId
  ensure (links.all fun (link, status, request) =>
      t.retirementPermitted input.createdAt link status request)
    (.invalidInput "only rejected, deferred, or expired shaping requests may be retired")
  ensure (idSetsEqual input.retiredNonAuthorizingRequestIds
      (links.map fun (link, _) => link.userActionRequestId))
    (.invalidInput
      "retired UserAction requests must exactly match the predecessor's recoverable decisions")
  return { t with
    userActionRequests := t.userActionRequests.updateWhere
      (fun row => input.retiredNonAuthorizingRequestIds.contains row.userActionRequestId)
      (·.withBasisStatus .superseded) }

/-- The stale applications of the Task whose request is stale as well. -/
def staleApplications (taskId : String) : List ShapingDecisionApplicationRow :=
  t.shapingApplications.rows.filter fun row =>
    row.taskId = taskId && row.authorityStatus = .stale && row.staleAt.isSome
    && row.supersededAt.isNone
    && (t.userActionRequests.find? row.userActionRequestId).any fun request =>
      request.basisStatus = .stale && request.basis.compatibilityStatus = .stale

/-- The successor of a stale application, as its disposition names it. -/
def checkSuccessor (mode : TaskMode) (gaps : List ShapingCheckpointGapInsert)
    (row : ShapingDecisionApplicationRow) (disposition : ShapingStaleAuthorityDisposition) :
    StoreResult Unit :=
  match disposition.outcome, disposition.successorGapId,
    disposition.successorUserActionRequestId with
  | .retired, none, none => .ok ()
  | .retired, _, _ =>
    .error (.invalidInput "retired stale authority cannot identify a successor request")
  | .reissued, some gapId, some successorRequestId => do
    let gap ← okOr (.invalidInput "reauthorization successor gap is absent from the checkpoint")
      (gaps.find? fun gap => gap.shapingGapId = gapId)
    let policy ← okOr (.invalidInput "reauthorization successor must be a user-owned gap")
      (gap.gapKind.decisionPolicyForMode mode)
    ensure (gap.reauthorizesApplicationId = some row.shapingDecisionApplicationId
        && gap.gapKind.judgmentKind = some row.judgmentKind
        && policy.applicationOwner = row.applicationOwner
        && gap.userAction.map (·.userActionRequestId) = some successorRequestId
        && successorRequestId ≠ row.userActionRequestId)
      (.invalidInput "reauthorization successor conflicts with stale authority policy")
  | .reissued, _, _ =>
    .error (.invalidInput "reissued stale authority requires a successor gap and request")

/-- One round of the loop of `consume_stale_authority`. -/
def consumeStaleApplication (mode : TaskMode) (input : ShapingCheckpointInsert)
    (actions : List StaleShapingAuthorityAction) (t : CoreTables)
    (row : ShapingDecisionApplicationRow) : StoreResult CoreTables := do
  let applicationId := row.shapingDecisionApplicationId
  let mismatch := StoreError.invalidInput
    "stale authority disposition does not match its exact application"
  let disposition ← okOr mismatch
    (input.staleAuthorityDispositions.find? fun d => d.staleApplicationId = applicationId)
  ensure (disposition.staleUserActionRequestId = row.userActionRequestId
      && (actions.find? fun action => action.staleApplicationRef.recordId = applicationId).map
        (·.outcome) = some disposition.outcome) mismatch
  checkSuccessor mode input.gaps row disposition
  ensure ((t.shapingApplications.find? applicationId).any fun current =>
      current.authorityStatus = .stale && current.staleAt.isSome && current.supersededAt.isNone)
    (.conflict "shaping_decision_application" applicationId
      "stale authority compare-and-swap failed")
  ensure ((t.userActionRequests.find? row.userActionRequestId).any fun request =>
      request.basisStatus = .stale)
    (.conflict "user_action_request" row.userActionRequestId
      "stale UserAction basis compare-and-swap failed")
  return { t with
    shapingApplications := t.shapingApplications.update applicationId
      ({ · with authorityStatus := .superseded, supersededAt := some committedAt })
    userActionRequests := t.userActionRequests.update row.userActionRequestId
      (·.withBasisStatus .superseded) }

def consumeStaleAuthority (committedAt projectId : String) (input : ShapingCheckpointInsert)
    (actions : List StaleShapingAuthorityAction) (t : CoreTables) : StoreResult CoreTables := do
  let actionIds := actions.map (·.staleApplicationRef.recordId)
  ensure ((actions.all fun action => action.staleApplicationRef.belongsTo
      .shapingDecisionApplication projectId input.taskId) && actionIds.Nodup)
    (.invalidInput "stale authority actions must use unique exact Task application refs")
  let dispositionIds := input.staleAuthorityDispositions.map (·.staleApplicationId)
  ensure (dispositionIds.Nodup && idSetsEqual dispositionIds actionIds)
    (.invalidInput "typed stale actions and materialized dispositions must match exactly")
  let stored := t.staleApplications input.taskId
  ensure (idSetsEqual (stored.map (·.shapingDecisionApplicationId)) actionIds)
    (.invalidInput "stale authority actions must exactly consume every Task stale application")
  let mode ← t.taskMode input.taskId
  stored.foldlM (consumeStaleApplication committedAt mode input actions) t

/-- `apply_checkpoint_succession`: the predecessor the new checkpoint replaces. -/
def applyCheckpointSuccession (committedAt projectId : String) (input : ShapingCheckpointInsert)
    (t : CoreTables) : StoreResult (Option String × CoreTables) := do
  let currentIds := (t.shapingCheckpoints.rows.filter fun row =>
    row.taskId = input.taskId && row.readiness ≠ .superseded).map (·.shapingCheckpointId)
  ensure (currentIds.length ≤ 1) (.schemaInvariant projectStateDatabaseKind
    "a Task has more than one current shaping checkpoint")
  match input.checkpointOperation with
  | .createInitial =>
    ensure (currentIds.isEmpty && input.carryForwardApplicationIds.isEmpty)
      (.invalidInput "create_initial requires no current shaping checkpoint")
    return (none, t)
  | .replaceCurrent expected retiredRefs carryRefs staleActions =>
    ensure (currentIds = [expected])
      (.invalidInput "replace_current requires the exact current shaping checkpoint")
    t.validateCarryForwardApplications projectId input expected carryRefs
    let t ← t.retireCheckpointUserActions projectId input expected retiredRefs
    let t ← consumeStaleAuthority committedAt projectId input staleActions t
    let t ← t.supersedeCheckpoints fun row => row.shapingCheckpointId = expected
    return (some expected, t)

/-- The table checks of a checkpoint row: one current checkpoint per Task, one successor
per predecessor. -/
def checkpointConstraintsHold (row : ShapingCheckpointRow) : Bool :=
  (t.taskRow row.taskId).isSome && row.implementationBoundary.all sqlNonblank
  && t.shapingCheckpoints.rows.all fun other =>
    !(other.taskId = row.taskId && other.readiness ≠ .superseded)
    && (row.predecessorShapingCheckpointId.isNone
      || other.predecessorShapingCheckpointId ≠ row.predecessorShapingCheckpointId)

def gapConstraintsHold (row : ShapingGapRow) : Bool :=
  ((t.shapingCheckpoints.find? row.shapingCheckpointId).any fun checkpoint =>
    checkpoint.taskId = row.taskId && checkpoint.readiness ≠ .ready)
  && match row.reauthorizesApplicationId with
    | none => true
    | some applicationId =>
      (t.shapingGaps.rows.all fun other => other.reauthorizesApplicationId ≠ some applicationId)
      && (t.shapingApplications.find? applicationId).any fun application =>
        application.taskId = row.taskId && application.authorityStatus = .superseded
        && application.staleAt.isSome && application.supersededAt.isSome
        && row.gapKind.judgmentKind = some application.judgmentKind
        && (t.taskRow row.taskId).any fun task =>
          policyOwner application.judgmentKind task.mode = some application.applicationOwner

def gapLinkConstraintsHold (row : ShapingGapLinkRow) : Bool :=
  (t.gapLinkFor row.userActionRequestId).isNone
  && (t.userActionRequests.find? row.userActionRequestId).any fun request =>
    request.taskId = row.taskId && request.actionKind = row.actionKind

def insertShapingGap (checkpoint : ShapingCheckpointInsert) (t : CoreTables)
    (gap : ShapingCheckpointGapInsert) : StoreResult CoreTables := do
  validateIdentifier "shaping_gap_id" gap.shapingGapId
  validateIdentifier "shaping gap summary" gap.summary
  ensure (gap.gapKind.isUserOwned = gap.userAction.isSome)
    (.invalidInput "user-owned shaping gaps require one exact UserAction link")
  ensure (gap.reauthorizesApplicationId.isNone || gap.gapKind.isUserOwned)
    (.invalidInput "only a user-owned shaping gap may reauthorize stale authority")
  ensure (gap.userAction.all fun link => gap.gapKind.judgmentKind = some link.actionKind)
    (.invalidInput "shaping gap kind is incompatible with its UserAction kind")
  let row : ShapingGapRow :=
    { shapingCheckpointId := checkpoint.shapingCheckpointId, shapingGapId := gap.shapingGapId
      taskId := checkpoint.taskId, gapKind := gap.gapKind, status := .current
      reauthorizesApplicationId := gap.reauthorizesApplicationId
      userActionRequestId := gap.userAction.map (·.userActionRequestId)
      userActionKind := gap.userAction.map (·.actionKind) }
  let gaps ← insertRow t.shapingGaps row (t.gapConstraintsHold row) "shaping_checkpoint_gaps"
  let t := { t with shapingGaps := gaps }
  match gap.userAction with
  | none => return t
  | some link =>
    let linkRow : ShapingGapLinkRow :=
      { shapingCheckpointId := checkpoint.shapingCheckpointId, shapingGapId := gap.shapingGapId
        taskId := checkpoint.taskId, userActionRequestId := link.userActionRequestId
        actionKind := link.actionKind, userActionResolutionId := none }
    let links ← insertRow t.shapingGapLinks linkRow (t.gapLinkConstraintsHold linkRow)
      "shaping_checkpoint_user_actions"
    return { t with shapingGapLinks := links }

/-- `trg_shaping_authority_reauthorization_exact_lineage` and the uniqueness of the stale
application. -/
def reauthorizationConstraintsHold (committedAt : String)
    (row : ShapingAuthorityReauthorizationRow) : Bool :=
  (t.shapingReauthorizations.rows.all fun other =>
    other.staleApplicationId ≠ row.staleApplicationId)
  && ((t.shapingApplications.find? row.staleApplicationId).any fun application =>
    application.taskId = row.taskId
    && application.userActionRequestId = row.staleUserActionRequestId
    && application.authorityStatus = .superseded && application.staleAt.isSome
    && application.supersededAt = some committedAt)
  && ((t.userActionRequests.find? row.staleUserActionRequestId).any fun request =>
    request.taskId = row.taskId && request.basisStatus = .superseded)
  && match row.outcome, row.successorGapId, row.successorUserActionRequestId with
    | .retired, none, none => true
    | .reissued, some gapId, some requestId =>
      ((t.shapingGaps.find? (row.successorCheckpointId, gapId)).any fun gap =>
        gap.taskId = row.taskId && gap.reauthorizesApplicationId = some row.staleApplicationId
        && gap.userActionRequestId = some requestId && gap.status = .current)
      && ((t.userActionRequests.find? requestId).any fun request =>
        request.taskId = row.taskId && request.basisStatus = .current
        && request.metadata.reauthorizesApplicationId = some row.staleApplicationId)
      && (t.resolutionOf requestId).isNone && requestId ≠ row.staleUserActionRequestId
    | _, _, _ => false

def insertStaleAuthorityLineage (committedAt : String) (input : ShapingCheckpointInsert)
    (t : CoreTables) (disposition : ShapingStaleAuthorityDisposition) : StoreResult CoreTables := do
  let row : ShapingAuthorityReauthorizationRow :=
    { shapingAuthorityReauthorizationId :=
        shapingAuthorityReauthorizationId X disposition.staleApplicationId
      taskId := input.taskId, staleApplicationId := disposition.staleApplicationId
      staleUserActionRequestId := disposition.staleUserActionRequestId
      successorCheckpointId := input.shapingCheckpointId
      successorGapId := disposition.successorGapId
      successorUserActionRequestId := disposition.successorUserActionRequestId
      outcome := disposition.outcome }
  let rows ← insertRow t.shapingReauthorizations row
    (t.reauthorizationConstraintsHold committedAt row) "shaping_authority_reauthorizations"
  return { t with shapingReauthorizations := rows }

def insertCarriedApplicationLink (input : ShapingCheckpointInsert) (predecessorId : String)
    (t : CoreTables) (applicationId : String) : StoreResult CoreTables := do
  let row : ShapingApplicationLinkRow :=
    ⟨input.taskId, input.shapingCheckpointId, applicationId, some predecessorId⟩
  let links ← insertRow t.shapingApplicationLinks row (t.applicationLinkConstraintsHold row)
    "shaping_checkpoint_applications"
  return { t with shapingApplicationLinks := links }

def rejectDetachedLiveShapingAuthority : StoreResult Unit :=
  ensure (t.userActionRequests.rows.all fun request =>
      !(request.taskId = taskId && request.sourceMethod = .recordShapingCheckpoint
        && request.basisStatus = .current)
      || (t.shapingApplications.rows.any fun application =>
        application.userActionRequestId = request.userActionRequestId
        && application.authorityStatus = .current
        && (t.shapingApplicationLinks.find?
          (shapingCheckpointId, application.shapingDecisionApplicationId)).isSome)
      || (t.gapLinkFor request.userActionRequestId).any fun link =>
        link.shapingCheckpointId = shapingCheckpointId)
    (.schemaInvariant projectStateDatabaseKind
      "live shaping UserAction authority is detached from the current checkpoint")

def recordShapingCheckpoint (committedAt projectId : String) (input : ShapingCheckpointInsert)
    (t : CoreTables) : StoreResult CoreTables := do
  validateCheckpointInsert input
  fitsSqliteInteger input.scopeRevision "shaping checkpoint scope_revision is too large"
  t.requireTaskScopeRevision input.taskId input.scopeRevision
  let (predecessor, t) ← applyCheckpointSuccession committedAt projectId input t
  let row : ShapingCheckpointRow :=
    { shapingCheckpointId := input.shapingCheckpointId
      predecessorShapingCheckpointId := predecessor, taskId := input.taskId
      scopeRevision := input.scopeRevision, baselineRef := input.baselineRef
      implementationBoundary := input.implementationBoundary, readiness := input.readiness }
  let checkpoints ← insertRow t.shapingCheckpoints row (t.checkpointConstraintsHold row)
    "shaping_checkpoints"
  let t := { t with shapingCheckpoints := checkpoints }
  let t ← input.gaps.foldlM (insertShapingGap input) t
  let t ← input.staleAuthorityDispositions.foldlM
    (insertStaleAuthorityLineage X committedAt input) t
  let t ← match predecessor with
    | none => pure t
    | some predecessorId =>
      input.carryForwardApplicationIds.foldlM (insertCarriedApplicationLink input predecessorId) t
  t.rejectDetachedLiveShapingAuthority input.taskId input.shapingCheckpointId
  return t

end CoreTables

def ShapingCheckpointMutation.apply (X : External) (context : MutationContext) (t : CoreTables) :
    ShapingCheckpointMutation → StoreResult CoreTables
  | .record input => t.recordShapingCheckpoint X context.committedAt context.projectId input
  | .resolveLinkedGap requestId resolutionId disposition =>
    t.resolveShapingGap requestId resolutionId disposition
  | .applyScopeAndRebaseCurrent taskId checkpointId scopeRevision baselineRef changeUnitId
      applications =>
    t.applyScopeAndRebaseCurrentShapingCheckpoint X context.committedAt taskId checkpointId
      scopeRevision baselineRef changeUnitId applications
  | .applyAdvanceAndTransition input => t.applyAdvanceShapingAndTransition X input
  | .applyAdvisorFinalization input => t.applyAdvisorShapingFinalization X input
  | .supersedeCurrent taskId => t.supersedeCurrentShapingCheckpoint context.committedAt taskId

end Volicord
