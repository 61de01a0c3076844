import Volicord.Core.Admission

/-! `volicord-user-action-service`: how a drafted user action becomes a stored request and how
the answer of the user becomes a resolution. The byte limits of the serialized forms and the
texts the options are displayed with are left out. -/
namespace Volicord
open Result Sorted

def userActionTargetCandidateLimit : Nat := 32

def userActionArtifactCandidateLimit : Nat := 32

def userActionNoteMaxChars : Nat := 1000

def userActionObservationSummaryMaxChars : Nat := 4000

structure UserActionIntent where
  taskId : String
  changeUnitId : Option String
  action : UserActionDraft
  requiredFor : List UserActionRequiredFor
  expiresAt : Option UtcTimestamp

structure ValidatedUserAction where
  taskId : String
  coordinateChangeUnitId : Option String
  actionKind : UserActionKind
  options : List (String × UserActionOptionAction)
  affectedRefs : List StateRecordRef
  basis : UserActionBasis
  requiredFor : List UserActionRequiredFor
  expiresAt : Option UtcTimestamp
  createdAt : UtcTimestamp

inductive UserActionResolutionInput where
  | choice (selectedOptionId : String) (note : Option String)
  | evidenceObservation (target : EvidenceTarget) (artifactIds : List String)
      (relevanceStatus : EvidenceRelevanceStatus) (summary : String)

def validateCandidateCount (field : String) (count limit : Nat) : CoreResult Unit := do
  ensure (count ≠ 0) (.validation field "candidate selection must not be empty")
  ensure (count ≤ limit) (.validation field "candidate selection exceeds the user-action limit")

namespace UserActionDraft

def validateBounds : UserActionDraft → CoreResult Unit
  | .choice draft => ensure (draft.options.length ≤ userActionTargetCandidateLimit)
      (.validation "action.options"
        "choice option count exceeds the user-action candidate limit")
  | .evidenceObservation draft => do
    validateCandidateCount "action.target_candidates" draft.targetCandidates.length
      userActionTargetCandidateLimit
    validateCandidateCount "action.artifact_candidate_ids" draft.artifactCandidateIds.length
      userActionArtifactCandidateLimit

def validateAffectedRefs (projectId taskId : String) : UserActionDraft → CoreResult Unit
  | .evidenceObservation _ => .ok ()
  | .choice draft => do
    ensure (draft.affectedRefs.all (·.projectId = projectId))
      (.validation "action.affected_refs.project_id"
        "affected_refs must belong to the request project")
    ensure (draft.affectedRefs.all fun reference =>
        (reference.recordKind ≠ .task || reference.recordId = taskId)
        && reference.taskId.all (· = taskId))
      (.validation "action.affected_refs.task_id"
        "task-scoped affected_refs must belong to the request Task")

end UserActionDraft

/-- `normalize_sensitive_action_scope`, on the members that authority depends on. -/
def SensitiveActionScope.normalize (scope : SensitiveActionScope) :
    Except ProductPathError SensitiveActionScope := do
  let paths ← parseProductPaths scope.intendedPaths
  return { actionKind := Text.trim scope.actionKind
           intendedPaths := sortDedup (paths.map (·.text))
           sensitiveCategories := sortDedup
             ((scope.sensitiveCategories.map Text.trim).filter (!·.isEmpty))
           expiresAt := scope.expiresAt }

/-- The part of `validate_and_normalize_body_input` about a choice. -/
def UserActionChoiceDraft.validateAndNormalize (draft : UserActionChoiceDraft) :
    CoreResult UserActionChoiceDraft := do
  ensure (!Text.isBlank draft.question && !Text.isBlank draft.contextSummary)
    (.validation "action.question" "choice question and context summary must be non-empty")
  ensure (draft.judgmentKind = .sensitiveApproval || draft.sensitiveActionScope.isNone)
    (.validation "action.sensitive_action_scope"
      "sensitive_action_scope is only valid for sensitive approval")
  ensure (draft.judgmentKind ≠ .sensitiveApproval || draft.sensitiveActionScope.isSome)
    (.validation "action.sensitive_action_scope"
      "sensitive approval requires a bounded sensitive action scope")
  let scope ← match draft.sensitiveActionScope with
    | none => pure none
    | some scope => (scope.normalize.mapError fun _ => CoreError.validation
        "action.sensitive_action_scope.intended_paths"
        "sensitive action paths must stay within the Product Repository").map some
  ensure (!draft.judgmentKind.authorityBearing || draft.options.isEmpty)
    (.validation "action.options" "authority-bearing actions use only Core-owned options")
  ensure (draft.judgmentKind.authorityBearing || !draft.options.isEmpty)
    (.validation "action.options"
      "product and technical choices require at least one caller-authored option")
  ensure ((draft.options.map (·.optionId)).Nodup)
    (.validation "action.options" "choice option IDs must be unique")
  ensure ((draft.options.filter (·.isDefault)).length ≤ 1)
    (.validation "action.options" "choice options may contain at most one default")
  return { draft with sensitiveActionScope := scope }

/-- The part of `validate_and_normalize_body_input` about an observation. -/
def UserActionEvidenceObservationDraft.validate (draft : UserActionEvidenceObservationDraft) :
    CoreResult Unit := do
  ensure (!Text.isBlank draft.question && !Text.isBlank draft.contextSummary)
    (.validation "action.question" "observation question and context summary must be non-empty")
  ensure draft.targetCandidates.Nodup
    (.validation "action.target_candidates" "target candidates must not contain duplicates")
  ensure draft.artifactCandidateIds.Nodup
    (.validation "action.artifact_candidate_ids" "artifact candidates must not contain duplicates")

/-- `canonical_choice_options`: Core's own three for an authority, otherwise the caller's,
each of which accepts. -/
def canonicalChoiceOptions (draft : UserActionChoiceDraft) :
    List (String × UserActionOptionAction) :=
  if draft.judgmentKind.authorityBearing then
    [("accept", .accept), ("reject", .reject), ("defer", .defer)]
  else draft.options.map fun option => (option.optionId, .accept)

def CoreTables.validateUserActionTarget (t : CoreTables) (taskId field : String)
    (target : EvidenceTarget) : CoreResult Unit :=
  let current := match target with
    | .acceptanceCriterion id => (t.acceptanceCriteria.find? id).any fun row =>
      row.taskId = taskId && row.status = .active
    | .supplementalClaim id statement => (t.evidenceClaims.find? (taskId, id)).any fun row =>
      row.statement = Text.trim statement
  ensure current (.validation field
    "target must identify a current acceptance criterion or supplemental claim")

/-- `verified_artifact_ref`, the display data and the version of the Run reference left out. -/
def ArtifactRecord.verifiedRef (record : ArtifactRecord) (projectId : String) : ArtifactRef where
  artifactId := record.artifactId
  projectId := projectId
  taskId := record.taskId
  contentType := record.contentType
  sha256 := record.sha256
  sizeBytes := record.sizeBytes
  redactionState := record.redactionState
  integrityStatus := .verified
  availability := .available

/-- `verify_persistent_artifact_body`, once the artifact store answered for the body. -/
def ArtifactRecord.verifiedCurrent (record : ArtifactRecord) (context : PlanContext) : Bool :=
  record.integrityStatus = .verified && record.availability = .available
  && context.intactArtifactIds.contains record.artifactId

variable (context : PlanContext)

/-- `canonical_user_action_artifacts`: the refs in the order of their ids. -/
def CoreTables.canonicalUserActionArtifacts (t : CoreTables) (taskId field : String)
    (artifactIds : List String) : CoreResult (List ArtifactRef) :=
  let failure := CoreError.validation field
    "artifact candidates must be verified current artifacts owned by this Task"
  (sortDedup artifactIds).mapM fun artifactId => do
    let record ← okOr failure (t.artifacts.find? artifactId)
    ensure (record.taskId = taskId && t.artifactHasTaskOwnerLink artifactId taskId
      && record.verifiedCurrent context) failure
    return record.verifiedRef context.projectId

def userActionExpiresAt (X : External) (now : UtcTimestamp) (action : UserActionDraft)
    (requested : Option UtcTimestamp) : CoreResult (Option UtcTimestamp) := do
  let expiresAt ← match action with
    | .choice _ => pure requested
    | .evidenceObservation _ => do
      ensure requested.isNone (.validation "expires_at"
        "evidence-observation actions require caller expires_at to be null")
      ensure (X.chrono.ensureCanonicalRfc3339Representable (now + evidenceObservationLifetime))
        (CoreError.validation "expires_at"
          "derived expiration exceeds the supported canonical RFC 3339 range")
      pure (some (now + evidenceObservationLifetime))
  ensure (expiresAt.all X.chrono.ensureCanonicalRfc3339Representable)
    (.validation "expires_at"
      "expires_at must be representable as a canonical four-digit RFC 3339 timestamp")
  ensure (expiresAt.all (now < ·))
    (.validation "expires_at" "expires_at must be later than the request timestamp")
  return expiresAt

/-- The kinds of action that only the current Change Unit can be asked about. -/
def UserActionKind.needsCurrentChangeUnit : UserActionKind → Bool
  | .sensitiveApproval | .finalAcceptance | .residualRiskAcceptance | .evidenceObservation => true
  | _ => false

/-- The checks of `validate_user_action` on the Change Unit of an intent. -/
def validateIntentChangeUnit (t : CoreTables) (intent : UserActionIntent)
    (currentChangeUnitId : Option String) : CoreResult Unit := do
  ensure (intent.changeUnitId.all fun id => (t.changeUnitRecord intent.taskId id).isSome)
    (.validation "change_unit_id"
      "change_unit_id must identify a Change Unit owned by the Task")
  ensure (!intent.action.actionKind.needsCurrentChangeUnit || currentChangeUnitId.isSome)
    (.validation "change_unit_id" "this action kind requires the current active Change Unit")
  ensure (!intent.action.actionKind.needsCurrentChangeUnit
      || intent.changeUnitId.all (some · = currentChangeUnitId))
    (.validation "change_unit_id" "change_unit_id must match the current active Change Unit")

/-- The close coordinates a final acceptance or a risk acceptance is about. -/
def choiceCloseCoordinates (task : TaskRecord) (kind : JudgmentKind) :
    CoreResult (Option Nat × List StateRecordRef × List String) :=
  if kind = .finalAcceptance || kind = .residualRiskAcceptance then do
    let basis ← okOr (decisionRejected "a current close basis is required for this user action")
      task.closeBasis
    return (some basis.closeBasisRevision, basis.resultRefs,
      (basis.residualRisks.filter (·.acceptanceRequired)).map (·.riskId))
  else .ok (none, [], [])

def constructBody (t : CoreTables) (task : TaskRecord) (coordinates : UserActionBasisCoordinates)
    (action : UserActionDraft) :
    CoreResult (List (String × UserActionOptionAction) × List StateRecordRef × UserActionBasis) :=
  match action with
  | .choice draft => do
    let draft ← draft.validateAndNormalize
    let (revision, resultRefs, riskIds) ← choiceCloseCoordinates task draft.judgmentKind
    return (canonicalChoiceOptions draft, draft.affectedRefs,
      .choice ⟨coordinates, revision, resultRefs, riskIds, draft.sensitiveActionScope⟩)
  | .evidenceObservation draft => do
    draft.validate
    draft.targetCandidates.forM
      (t.validateUserActionTarget task.taskId "action.target_candidates")
    let artifacts ← t.canonicalUserActionArtifacts context task.taskId
      "action.artifact_candidate_ids" draft.artifactCandidateIds
    return ([], [], .evidenceObservation ⟨coordinates, draft.targetCandidates, artifacts⟩)

def constructUserAction (X : External) (context : PlanContext) (t : CoreTables)
    (task : TaskRecord) (changeUnit : Option ChangeUnitRecord) (intent : UserActionIntent) :
    CoreResult ValidatedUserAction := do
  ensure (task.taskId = intent.taskId)
    (.invariant "user-action service invariant failed: TaskIdentityMismatch")
  intent.action.validateBounds
  ensure (!intent.requiredFor.isEmpty) (.validation "required_for"
    "required_for must contain at least one bounded operation")
  ensure intent.requiredFor.Nodup (.validation "required_for"
    "required_for must not contain duplicate operation targets")
  intent.action.validateAffectedRefs context.projectId intent.taskId
  ensure (intent.requiredFor.all intent.action.actionKind.isCompatibleWithRequiredFor)
    (.validation "required_for"
      "required_for contains an operation incompatible with the action kind")
  let expiresAt ← userActionExpiresAt X context.now intent.action intent.expiresAt
  let currentChangeUnitId := changeUnit.map (·.changeUnitId)
  ensure (intent.action.actionKind ≠ .evidenceObservation
      || (currentChangeUnitId.isSome && task.shaping.baselineRef.isSome))
    (.validation "action"
      "evidence-observation actions require a current Change Unit and baseline")
  validateIntentChangeUnit t intent currentChangeUnitId
  let coordinateChangeUnitId := intent.changeUnitId <|> currentChangeUnitId
  let coordinates : UserActionBasisCoordinates :=
    { taskId := intent.taskId, changeUnitId := coordinateChangeUnitId
      scopeRevision := task.scopeRevision, baselineRef := task.shaping.baselineRef
      createdAtStateVersion := context.stateVersion, compatibilityStatus := .current }
  let (options, affectedRefs, basis) ← constructBody context t task coordinates intent.action
  return {
    taskId := intent.taskId, coordinateChangeUnitId := coordinateChangeUnitId
    actionKind := intent.action.actionKind, options := options, affectedRefs := affectedRefs
    basis := basis, requiredFor := intent.requiredFor, expiresAt := expiresAt
    createdAt := context.now }

theorem UserActionChoiceDraft.validateAndNormalize_ok {draft result : UserActionChoiceDraft}
    (h : draft.validateAndNormalize = .ok result) :
    ∃ scope, result = { draft with sensitiveActionScope := scope } := by
  simp only [validateAndNormalize, steps_ok] at h
  obtain ⟨_, _, _, h⟩ := h
  cases hscope : draft.sensitiveActionScope with
  | none =>
    simp only [hscope, steps_ok] at h
    obtain ⟨scope, _, _, _, _, _, rfl⟩ := h
    exact ⟨scope, rfl⟩
  | some given =>
    simp only [hscope, steps_ok] at h
    obtain ⟨scope, _, _, _, _, _, rfl⟩ := h
    exact ⟨scope, rfl⟩

theorem constructUserAction_affectedRefs {X : External} {context : PlanContext} {t : CoreTables}
    {task : TaskRecord} {changeUnit : Option ChangeUnitRecord} {intent : UserActionIntent}
    {draft : UserActionChoiceDraft} {result : ValidatedUserAction}
    (h : constructUserAction X context t task changeUnit intent = .ok result)
    (haction : intent.action = .choice draft) : result.affectedRefs = draft.affectedRefs := by
  simp only [constructUserAction, steps_ok] at h
  obtain ⟨_, _, _, _, _, _, _, _, _, _, _, _, _, body, hbody, rfl⟩ := h
  simp only [haction, constructBody, steps_ok] at hbody
  obtain ⟨normal, hnormal, _, _, rfl⟩ := hbody
  obtain ⟨_, rfl⟩ := UserActionChoiceDraft.validateAndNormalize_ok hnormal
  rfl

def UserActionRequestMetadata.sourceMethod : UserActionRequestMetadata → MethodName
  | .directRequest => .requestUserAction
  | .shaping _ _ _ => .recordShapingCheckpoint
  | .reconciliation _ => .reconcileChanges

def materializeUserActionRequest (requestId operationIdentity : String)
    (origin : UserActionRequestMetadata) (constructed : ValidatedUserAction) :
    UserActionRequestRecord where
  userActionRequestId := requestId
  taskId := constructed.taskId
  changeUnitId := constructed.coordinateChangeUnitId
  actionKind := constructed.actionKind
  basis := constructed.basis
  basisStatus := .current
  requiredFor := constructed.requiredFor
  affectedRefs := constructed.affectedRefs
  options := constructed.options
  requestedByActorSource := context.invocation.actorSource
  sourceMethod := origin.sourceMethod
  sourceIdempotencyKey := operationIdentity
  requestedAt := constructed.createdAt
  expiresAt := constructed.expiresAt
  metadata := origin

/- Resolutions. -/

def UserActionResolutionInput.validateBounds : UserActionResolutionInput → CoreResult Unit
  | .choice _ note => ensure (note.all (·.length ≤ userActionNoteMaxChars))
      (.validation "resolution.note" "note exceeds the user-action character limit")
  | .evidenceObservation _ artifactIds relevanceStatus summary => do
    validateCandidateCount "resolution.artifact_ids" artifactIds.length
      userActionArtifactCandidateLimit
    ensure artifactIds.Nodup (.validation "resolution.artifact_ids"
      "observation artifact identifiers must be unique")
    ensure (relevanceStatus ∈ [.supported, .contradicted])
      (.validation "resolution.relevance_status"
        "observation relevance must be supported or contradicted")
    ensure (!Text.isBlank summary && summary.length ≤ userActionObservationSummaryMaxChars)
      (.validation "resolution.summary" "summary exceeds the user-action character limit")

def validateCurrentResolutionBasis (task : TaskRecord) (changeUnit : Option ChangeUnitRecord)
    (basis : UserActionBasis) : CoreResult Unit := do
  let coordinates := basis.coordinates
  ensure (basis.compatibilityStatus = .current && coordinates.taskId = task.taskId
      && coordinates.scopeRevision = task.scopeRevision
      && coordinates.createdAtStateVersion ≤ context.stateVersion
      && coordinates.baselineRef = task.shaping.baselineRef
      && coordinates.changeUnitId = changeUnit.map (·.changeUnitId))
    (decisionRejected "user-action basis is not current for this resolution")
  ensure (basis.closeBasisRevision.all (· = task.closeBasisRevision))
    (decisionRejected "user-action close basis is no longer current")

def constructUserActionResolution (t : CoreTables) (request : UserActionRequestRecord)
    (changeUnit : Option ChangeUnitRecord) (input : UserActionResolutionInput) :
    CoreResult UserActionResolutionBody :=
  match request.basis, input with
  | .choice basis, .choice selectedOptionId note => do
    let option ← okOr (.validation "resolution.selected_option_id"
        "selected option must belong to the stored user-action request")
      (request.options.find? fun option => option.1 = selectedOptionId)
    return .choice option.1 option.2 option.2.resolutionOutcome note
      (if request.actionKind = .residualRiskAcceptance && option.2 = .accept
        then basis.residualRiskIds else [])
  | .evidenceObservation basis, .evidenceObservation target artifactIds relevanceStatus summary =>
    do
    ensure (relevanceStatus ∈ [.supported, .contradicted])
      (.validation "resolution.relevance_status"
        "user observation relevance must be supported or contradicted")
    ensure (!Text.isBlank summary)
      (.validation "resolution.summary" "user observation summary must be non-empty")
    ensure (basis.targetCandidates.contains target)
      (.validation "resolution.target" "observation target must be one of the stored candidates")
    ensure artifactIds.Nodup (.validation "resolution.artifact_ids"
      "observation artifact IDs must not contain duplicates")
    ensure (artifactIds.all (basis.artifactCandidates.map (·.artifactId)).contains)
      (.validation "resolution.artifact_ids"
        "observation artifacts must be selected from the stored candidates")
    t.validateUserActionTarget request.taskId "resolution.target" target
    let outputs ← t.canonicalUserActionArtifacts context request.taskId
      "resolution.artifact_ids" artifactIds
    let selected := basis.artifactCandidates.filter fun candidate =>
      artifactIds.contains candidate.artifactId
    -- both lists are in the order of their ids
    ensure (selected.isPerm outputs)
      (decisionRejected "selected observation artifact changed after the request was created")
    ensure changeUnit.isSome
      (decisionRejected "evidence observation resolution requires the current Change Unit")
    ensure basis.coordinates.baselineRef.isSome
      (decisionRejected "evidence observation resolution requires a current baseline")
    return .evidenceObservation ⟨target, relevanceStatus, selected, Text.trim summary⟩
  | _, _ => .error (.validation "resolution.resolution_type"
      "resolution type must match the stored user-action request")

end Volicord
