import Volicord.Core.WorkflowCatalog

/-! `WorkflowMachine` of `workflow_projection.rs`: the transitions a Task admits in its current
state, with the coordinates each one fixes. -/
namespace Volicord
open Result Sorted

/- The summary of a checkpoint; the texts and affected references of its gaps are display
data and left out. -/

structure ShapingCheckpointGap where
  shapingGapId : String
  gapKind : ShapingGapKind
  applicationOwner : Option ShapingDecisionApplicationOwner
  status : ShapingGapStatus
  decisionAuthorityState : Option ShapingDecisionAuthorityState
  (userActionRequestRef userActionResolutionRef reauthorizesApplicationRef : Option StateRecordRef)

structure ShapingDecisionRecoveryRequirement where
  shapingGapId : String
  userActionRequestRef : StateRecordRef
  userActionResolutionRef : Option StateRecordRef
  disposition : ShapingDecisionAuthorityState

structure ShapingCheckpointSummary where
  checkpointRef : StateRecordRef
  predecessorCheckpointRef : Option StateRecordRef
  readiness : ShapingCheckpointReadiness
  scopeRevision : Nat
  (baselineRef implementationBoundary : Option String)
  currentApplicationRefs : List StateRecordRef
  gaps : List ShapingCheckpointGap
  pendingDecisionRefs : List StateRecordRef
  unresolvedApplicationOwners : List ShapingDecisionApplicationOwner
  decisionRecoveryRequirements : List ShapingDecisionRecoveryRequirement

structure WorkflowSnapshot where
  projectId : String
  stateVersion : Nat
  task : TaskRecord
  currentChangeUnit : Option ChangeUnitRecord
  checkpoint : Option ShapingCheckpointRecord
  authority : TaskWideShapingAuthority

inductive WorkflowAuthorityPresence where
  | absent | present
deriving DecidableEq

inductive WorkflowDelegatedAuthorityState where
  | separateAssessmentOwner
deriving DecidableEq

/-- The fields of a snapshot that `build` copies out of the records; its scope is the Task's by
identity. -/
structure WorkflowSeparatedAuthority where
  (writeTicketState finalAcceptanceState : WorkflowDelegatedAuthorityState)
  evidenceState : WorkflowAuthorityPresence
  recoveryConstraints : List String
  currentWorkspaceContext : Option GitWorkspaceContext

structure WorkflowEvaluation where
  workflowKind : WorkflowStateKind
  nextActor : AuthorityNextActor
  transitionCatalog : List TransitionDescriptor
  blockingReason : Option WorkflowBlockingReason

def AuthorityNextActor.performs : AuthorityNextActor → WorkflowTransitionActor → Bool
  | .agent, .agent | .user, .user => true
  | _, _ => false

namespace WorkflowSnapshot

/-- `WorkflowSnapshot::new`. -/
def build (projectId : String) (stateVersion : Nat) (task : TaskRecord)
    (currentChangeUnit : Option ChangeUnitRecord) (checkpoint : Option ShapingCheckpointRecord)
    (authority : TaskWideShapingAuthority) : CoreResult WorkflowSnapshot := do
  let contradiction detail := CoreError.invariant
    ("workflow snapshot contradicts current authority: " ++ detail)
  ensure ((authority.allFacts.map (·.userActionRequestId)).Nodup)
    (contradiction "duplicate current UserAction authority")
  ensure (match task.currentChangeUnitId, currentChangeUnit with
      | none, none => true
      | some expected, some changeUnit => changeUnit.taskId = task.taskId
        && changeUnit.isCurrent && changeUnit.changeUnitId = expected
      | _, _ => false)
    (contradiction "current Change Unit identity")
  ensure (checkpoint.all fun record =>
      record.row.taskId = task.taskId && record.row.readiness ≠ .superseded)
    (contradiction "current checkpoint identity or status")
  ensure (task.lifecyclePhase.terminal = task.closedAt.isSome)
    (contradiction "terminal lifecycle and closed_at")
  ensure (task.closeBasis.all fun basis => basis.taskId = task.taskId)
    (contradiction "current close basis")
  return ⟨projectId, stateVersion, task, currentChangeUnit, checkpoint, authority⟩

variable (snapshot : WorkflowSnapshot)

/-- A reference to a record of the Task, at the version of the snapshot. -/
def recordRef (kind : StateRecordKind) (recordId : String) : StateRecordRef :=
  stateRef kind recordId snapshot.projectId (some snapshot.task.taskId)
    (some snapshot.stateVersion)

def allowsChangeUnitReplacement : Bool :=
  snapshot.task.workPhase ≠ .implementation || snapshot.authority.applied.isEmpty

def resolutionIdsFor (owner : MethodName) : List String :=
  sortDedup (snapshot.authority.resolutionIdsFor owner)

def resolutionRefsFor (owner : MethodName) : List StateRecordRef :=
  sortDedup ((snapshot.authority.resolutionIdsFor owner).map
    (snapshot.recordRef .userActionResolution))

def finalizeResolutionIds : List String :=
  sortDedup (snapshot.authority.acceptedUnapplied.filterMap (·.userActionResolutionId)
    ++ snapshot.authority.currentResolutionIds)

variable (checkpoint : ShapingCheckpointRecord)

def currentApplicationIds : List String :=
  (checkpoint.applications.filter fun application =>
    application.row.authorityStatus = .current
    && application.linkedCheckpointId = some checkpoint.row.shapingCheckpointId).map
    (·.row.shapingDecisionApplicationId)

/-- The state of the decision on a gap: its fact, or what its status says. -/
def gapAuthorityState (gap : ShapingCheckpointGapRecord) : Option ShapingDecisionAuthorityState :=
  gap.userAction.bind fun link =>
    match snapshot.authority.allFacts.find? (·.userActionRequestId = link.userActionRequestId) with
    | some fact => some fact.authorityState
    | none => match gap.row.status with
      | .applied => some .applied
      | .current => some .awaitingUser
      | _ => none

def gapSummary (gap : ShapingCheckpointGapRecord) : ShapingCheckpointGap where
  shapingGapId := gap.row.shapingGapId
  gapKind := gap.row.gapKind
  applicationOwner :=
    (gap.row.gapKind.decisionPolicyForMode snapshot.task.mode).map (·.applicationOwner)
  status := gap.row.status
  decisionAuthorityState := snapshot.gapAuthorityState gap
  userActionRequestRef := gap.userAction.map fun link =>
    snapshot.recordRef .userActionRequest link.userActionRequestId
  userActionResolutionRef := gap.userAction.bind fun link =>
    link.userActionResolutionId.map (snapshot.recordRef .userActionResolution)
  reauthorizesApplicationRef := gap.row.reauthorizesApplicationId.map
    (snapshot.recordRef .shapingDecisionApplication)

def recoveryRequirement (gap : ShapingCheckpointGap) :
    Option ShapingDecisionRecoveryRequirement := do
  let disposition ← gap.decisionAuthorityState
  let requestRef ← gap.userActionRequestRef
  if disposition = .rejected || disposition = .deferred || disposition = .expired then
    return ⟨gap.shapingGapId, requestRef, gap.userActionResolutionRef, disposition⟩
  else failure

/-- `checkpoint_summary`. -/
def checkpointSummaryOf : ShapingCheckpointSummary :=
  let gaps := checkpoint.gaps.map snapshot.gapSummary
  let unresolved := (gaps.filter (·.status = .accepted)).filterMap (·.applicationOwner)
  { checkpointRef := snapshot.recordRef .shapingCheckpoint checkpoint.row.shapingCheckpointId
    predecessorCheckpointRef := checkpoint.row.predecessorShapingCheckpointId.map
      (snapshot.recordRef .shapingCheckpoint)
    readiness := checkpoint.row.readiness
    scopeRevision := checkpoint.row.scopeRevision
    baselineRef := checkpoint.row.baselineRef
    implementationBoundary := checkpoint.row.implementationBoundary
    currentApplicationRefs := (currentApplicationIds checkpoint).map
      (snapshot.recordRef .shapingDecisionApplication)
    gaps := gaps
    pendingDecisionRefs := (gaps.filter (·.decisionAuthorityState = some .awaitingUser)).filterMap
      (·.userActionRequestRef)
    unresolvedApplicationOwners := [.updateScope, .advanceTask, .finalizeAdvice].filter
      unresolved.contains
    decisionRecoveryRequirements := gaps.filterMap recoveryRequirement }

def checkpointSummary : Option ShapingCheckpointSummary :=
  snapshot.checkpoint.map snapshot.checkpointSummaryOf

/-- The references `with_workflow_snapshot` collects. -/
def requiredRefs : List StateRecordRef :=
  let summaryRefs := snapshot.checkpointSummary.elim [] fun summary =>
    summary.checkpointRef :: summary.currentApplicationRefs ++ summary.pendingDecisionRefs
      ++ summary.gaps.filterMap (·.userActionResolutionRef)
  sortDedup (snapshot.recordRef .task snapshot.task.taskId :: summaryRefs
    ++ (snapshot.currentChangeUnit.toList.map fun row =>
      stateRef .changeUnit row.changeUnitId snapshot.projectId (some snapshot.task.taskId)
        (some row.basisStateVersion))
    ++ snapshot.authority.blockingFacts.map fun fact =>
      snapshot.recordRef .userActionRequest fact.userActionRequestId)

def checkpointCoordinates : WorkflowCheckpointActionCoordinates :=
  match snapshot.checkpoint with
  | none => .createInitial
  | some checkpoint => .replaceCurrent
      (snapshot.recordRef .shapingCheckpoint checkpoint.row.shapingCheckpointId)
      (checkpoint.row.predecessorShapingCheckpointId.map (snapshot.recordRef .shapingCheckpoint))
      (snapshot.authority.recoveryRequired.map fun fact =>
        snapshot.recordRef .userActionRequest fact.userActionRequestId)
      ((currentApplicationIds checkpoint).map (snapshot.recordRef .shapingDecisionApplication))
      (snapshot.authority.staleApplicationIds.map
        (snapshot.recordRef .shapingDecisionApplication))

def resolvableRefs : List StateRecordRef :=
  sortDedup ((snapshot.authority.pendingRequestIds ++ snapshot.authority.progressionRequestIds).map
    (snapshot.recordRef .userActionRequest))

variable (transition : String)

def requireChangeUnit : CoreResult String :=
  okOr (.invariant (transition ++ " transition requires a current Change Unit"))
    (snapshot.currentChangeUnit.map (·.changeUnitId))

def requireCheckpoint : CoreResult String :=
  okOr (.invariant (transition ++ " transition requires a current checkpoint"))
    (snapshot.checkpoint.map (·.row.shapingCheckpointId))

def requireBaseline : CoreResult String :=
  okOr (.invariant (transition ++ " transition requires a current baseline"))
    snapshot.task.shaping.baselineRef

/-- `fixed_authority_coordinates` of `transition_descriptor`. -/
def fixedAuthorityCoordinates (key : WorkflowActionKey) :
    CoreResult WorkflowActionAuthorityCoordinates := do
  let task := snapshot.task
  let taskId := task.taskId
  match key.method with
  | .recordShapingCheckpoint =>
    return .recordShapingCheckpoint taskId snapshot.checkpointCoordinates task.scopeRevision
      task.shaping.baselineRef
  | .updateScope =>
    let operation ← okOr (.invariant "update-scope transition has no Change Unit operation")
      key.semanticVariant.changeUnitOperation
    return .updateScope taskId task.mode task.scopeRevision task.shaping.baselineRef
      (snapshot.currentChangeUnit.map (·.changeUnitId))
      (snapshot.resolutionRefsFor .updateScope)
      operation
  | .finalizeAdvice =>
    let checkpointId ← snapshot.requireCheckpoint "advisor-finalization"
    let changeUnitId ← snapshot.requireChangeUnit "advisor-finalization"
    return .finalizeAdvice taskId checkpointId changeUnitId task.scopeRevision
      task.shaping.baselineRef snapshot.finalizeResolutionIds
  | .advanceTask =>
    let checkpointId ← snapshot.requireCheckpoint "advance"
    let changeUnitId ← snapshot.requireChangeUnit "advance"
    return .advanceTask taskId checkpointId changeUnitId task.scopeRevision
      task.shaping.baselineRef (snapshot.resolutionIdsFor .advanceTask)
  | .prepareEvidenceCapture =>
    let changeUnitId ← snapshot.requireChangeUnit "evidence-capture"
    let baselineRef ← snapshot.requireBaseline "evidence-capture"
    return .prepareEvidenceCapture taskId changeUnitId baselineRef
  | .prepareWrite =>
    let changeUnitId ← snapshot.requireChangeUnit "write-preparation"
    let baselineRef ← snapshot.requireBaseline "write-preparation"
    return .prepareWrite taskId changeUnitId baselineRef
  | .stageArtifact => return .stageArtifact taskId
  | .recordRun =>
    let changeUnitId ← snapshot.requireChangeUnit "run-recording"
    let runKind ← match task.mode with
      | .direct => pure RunKind.direct
      | .work => pure RunKind.implementation
      | .advisor => .error (CoreError.invariant
          "advisor Task cannot expose a run-recording transition")
    let baselineRef ← snapshot.requireBaseline "run-recording"
    return .recordRun taskId changeUnitId baselineRef runKind
  | .requestUserAction =>
    return .requestUserAction taskId (snapshot.currentChangeUnit.map (·.changeUnitId))
  | .resolveUserAction => return .resolveUserAction taskId snapshot.resolvableRefs
  | .reconcileChanges => return .reconcileChanges taskId
  | .checkClose => return .checkClose taskId
  | .closeTask => return .closeTask taskId
  | .intake => .error (CoreError.invariant "volicord.intake is not a workflow transition method")
  | .status => .error (CoreError.invariant "volicord.status is not a workflow transition method")
  | .getOperationResult => .error (CoreError.invariant
      "volicord.get_operation_result is not a workflow transition method")

variable (method : MethodName)

def expectedResultState : WorkflowExpectedResultState :=
  match method with
  | .advanceTask => .implementation
  | .finalizeAdvice => .closeReview
  | .checkClose => if snapshot.task.closeBasis.isSome then .closeReview
      else .reevaluateCurrentAuthority
  | .requestUserAction => .awaitingUserAction
  | .closeTask => .terminal
  | .prepareEvidenceCapture | .prepareWrite | .recordRun | .reconcileChanges => .implementation
  | .stageArtifact => if snapshot.task.workPhase = .implementation then .implementation
      else .reevaluateCurrentAuthority
  | _ => .reevaluateCurrentAuthority

/-- The references of a transition: a user transition names its requests, too. -/
def transitionRefs : List StateRecordRef :=
  if method = .resolveUserAction then sortDedup (snapshot.requiredRefs ++ snapshot.resolvableRefs)
  else snapshot.requiredRefs

def transitionDescriptor (key : WorkflowActionKey) (role : WorkflowActionRole) :
    CoreResult TransitionDescriptor := do
  ensure key.belongs (.invariant "workflow semantic variant does not belong to its method")
  let coordinates ← snapshot.fixedAuthorityCoordinates key
  return {
    actionKey := key
    actor := TransitionDescriptor.actorFor key.method
    role := role
    expectedStateVersion := snapshot.stateVersion
    coordinates := coordinates
    submissionContract := .forCurrentTransition snapshot.task.mode coordinates
    effectClass := TransitionDescriptor.effectFor key.method
    expectedResultState := snapshot.expectedResultState key.method
    invalidationForbidden := key.method = .updateScope
      && key.semanticVariant = .keepCurrentChangeUnit && !snapshot.allowsChangeUnitReplacement
    requiredRefs := snapshot.transitionRefs key.method }

def recordShapingVariant : WorkflowActionSemanticVariant :=
  if snapshot.checkpoint.isSome then .replaceCurrent else .createInitial

def updateScopeVariant : WorkflowActionSemanticVariant :=
  if snapshot.currentChangeUnit.isSome then .keepCurrentChangeUnit else .createCurrentChangeUnit

def semanticVariants : List WorkflowActionSemanticVariant :=
  match method with
  | .recordShapingCheckpoint => [snapshot.recordShapingVariant]
  | .updateScope =>
    if snapshot.currentChangeUnit.isNone then [.createCurrentChangeUnit]
    else .keepCurrentChangeUnit
      :: if snapshot.allowsChangeUnitReplacement then [.replaceCurrentChangeUnit] else []
  | _ => (WorkflowActionSemanticVariant.forSingleVariantMethod method).toList

def transitionKeys (methods : List MethodName) : List WorkflowActionKey :=
  (methods.dedup.flatMap fun method =>
    (snapshot.semanticVariants method).map (WorkflowActionKey.mk method)).insertionSort
      (·.rank ≤ ·.rank)

def transitionCatalog (requiredKey : Option WorkflowActionKey) (methods : List MethodName) :
    CoreResult (List TransitionDescriptor) := do
  let transitions ← (snapshot.transitionKeys methods).mapM fun key =>
    snapshot.transitionDescriptor key (if requiredKey = some key then .required else .allowed)
  let catalog ← (WorkflowTransitionCatalog.new transitions).mapError CoreError.invariant
  ensure (requiredKey.isNone || catalog.any (·.role = .required))
    (.invariant "required workflow transition is absent from its catalog")
  return catalog

/-- The methods left once pending decisions withhold some and every live Task gains its own. -/
def admittedMethods (kind : WorkflowStateKind) (requiredMethod : Option MethodName)
    (allowed : List MethodName) : List MethodName :=
  let authority := snapshot.authority
  let withheld (method : MethodName) : Bool := requiredMethod ≠ some method
    && match method with
      | .recordShapingCheckpoint => !authority.acceptedUnapplied.isEmpty
      | .updateScope => authority.pendingScopeUpdate
      | .recordRun => authority.pendingRecordRun
      | _ => false
  allowed.filter (!withheld ·)
    ++ (if kind ≠ .terminal then [.checkClose, .closeTask, .requestUserAction, .stageArtifact]
      else [])
    ++ if kind ≠ .terminal && !authority.pendingRequestIds.isEmpty then [.resolveUserAction] else []

def evaluation (kind : WorkflowStateKind) (nextActor : AuthorityNextActor)
    (requiredKey : Option WorkflowActionKey) (allowed : List MethodName)
    (blockingReason : Option WorkflowBlockingReason) : CoreResult WorkflowEvaluation := do
  ensure (requiredKey.all (·.belongs))
    (.invariant "workflow semantic variant does not belong to its method")
  let catalog ← snapshot.transitionCatalog requiredKey
    (snapshot.admittedMethods kind (requiredKey.map (·.method)) allowed)
  let required := catalog.find? (·.role = .required)
  ensure (requiredKey.isSome = required.isSome)
    (.invariant "workflow required-transition membership is inconsistent")
  ensure (required.all fun transition => nextActor.performs transition.actor)
    (.invariant "workflow next actor contradicts the required transition")
  ensure (kind ≠ .terminal || catalog.isEmpty)
    (.invariant "terminal workflow exposes a transition")
  ensure (kind = .terminal || kind = .noActiveTask || !catalog.isEmpty)
    (.invariant "nonterminal workflow has no executable transition")
  ensure (nextActor ≠ .user || required.any (·.actor = .user))
    (.invariant "User-owned workflow does not identify its exact required transition")
  return ⟨kind, nextActor, catalog, blockingReason⟩

def executionCoordinatesAvailable : Bool :=
  (snapshot.currentChangeUnit.any fun row =>
    row.writeBasis.baselineRef = snapshot.task.shaping.baselineRef)
  && snapshot.task.shaping.baselineRef.isSome

def implementationMethods : List MethodName :=
  [.updateScope, .stageArtifact]
  ++ (if snapshot.executionCoordinatesAvailable then [.prepareEvidenceCapture, .prepareWrite]
    else [])
  ++ (if snapshot.executionCoordinatesAvailable && snapshot.task.mode ≠ .advisor
    then [.recordRun] else [])
  ++ (if !snapshot.authority.progressionRequestIds.isEmpty then [.resolveUserAction] else [])
  ++ [.requestUserAction, .reconcileChanges, .checkClose, .closeTask]

def advisorBasisCurrent : Bool :=
  snapshot.task.closeBasis.any fun basis =>
    basis.scopeRevision = snapshot.task.scopeRevision
    && basis.closeBasisRevision = snapshot.task.closeBasisRevision
    && basis.baselineRef = snapshot.task.shaping.baselineRef
    && (basis.shapingCheckpointRef.any fun reference =>
      reference.recordKind = .shapingCheckpoint
      && reference.recordId = checkpoint.row.shapingCheckpointId)
    && snapshot.currentChangeUnit.any fun row => row.changeUnitId = basis.changeUnitId

/-- The part of `evaluate` behind the checks that need no checkpoint. -/
def evaluateCheckpoint : CoreResult WorkflowEvaluation :=
  let recordShaping := some
    (WorkflowActionKey.mk .recordShapingCheckpoint snapshot.recordShapingVariant)
  let updateScope := some (WorkflowActionKey.mk .updateScope snapshot.updateScopeVariant)
  let readyForChangeUnit := snapshot.evaluation .readyForChangeUnit .agent updateScope
    [.recordShapingCheckpoint, .updateScope] (some .changeUnitRequired)
  if !snapshot.authority.inconsistent.isEmpty then
    snapshot.evaluation .shapingRequired .agent recordShaping [.recordShapingCheckpoint]
      (some .inconsistentAuthorityState)
  else if checkpoint.gaps.any fun gap => gap.row.status = .accepted
      && (gap.row.gapKind.decisionPolicyForMode snapshot.task.mode).any
        (·.applicationOwner = .updateScope) then
    snapshot.evaluation .readyToApplyDecisions .agent updateScope [.updateScope]
      (some .acceptedDecisionsNotApplied)
  else if checkpoint.gaps.any (·.row.status = .current) then
    snapshot.evaluation .shapingRequired .agent recordShaping [.recordShapingCheckpoint]
      (some .shapingGapsCurrent)
  else if snapshot.task.mode = .advisor && checkpoint.row.readiness = .ready then
    if snapshot.advisorBasisCurrent checkpoint then
      snapshot.evaluation .closeReview .agent (some ⟨.checkClose, .checkClose⟩)
        [.checkClose, .closeTask, .finalizeAdvice, .recordShapingCheckpoint, .updateScope] none
    else if snapshot.currentChangeUnit.isNone then readyForChangeUnit
    else snapshot.evaluation .readyToFinalizeAdvice .agent
      (some ⟨.finalizeAdvice, .finalizeAdvice⟩)
      [.finalizeAdvice, .recordShapingCheckpoint, .updateScope]
      (some .advisorFinalizationRequired)
  else if snapshot.currentChangeUnit.isNone then readyForChangeUnit
  else snapshot.evaluation .readyForImplementation .agent (some ⟨.advanceTask, .advanceTask⟩)
    [.advanceTask, .recordShapingCheckpoint, .updateScope] (some .explicitAdvanceRequired)

def evidencePresent : Bool := (snapshot.task.closeBasis.bind (·.evidenceSummaryRef)).isSome

def separatedAuthority : WorkflowSeparatedAuthority where
  writeTicketState := .separateAssessmentOwner
  finalAcceptanceState := .separateAssessmentOwner
  evidenceState := if snapshot.evidencePresent then .present else .absent
  recoveryConstraints := snapshot.task.closeBasis.elim [] (·.recoveryConstraints)
  currentWorkspaceContext := snapshot.currentChangeUnit.bind (·.writeBasis.gitWorkspaceContext)

/-- `validate_separated_authority`: the copies still agree with the records. -/
def validateSeparatedAuthority (copies : WorkflowSeparatedAuthority) : CoreResult Unit :=
  ensure ((copies.writeTicketState = .separateAssessmentOwner)
        = (copies.finalAcceptanceState = .separateAssessmentOwner)
      && snapshot.evidencePresent = (copies.evidenceState = .present)
      && snapshot.task.closeBasis.elim [] (·.recoveryConstraints) = copies.recoveryConstraints
      && snapshot.currentChangeUnit.bind (·.writeBasis.gitWorkspaceContext)
        = copies.currentWorkspaceContext)
    (.invariant "workflow snapshot separated authority facts are inconsistent")

theorem validateSeparatedAuthority_ok :
    snapshot.validateSeparatedAuthority snapshot.separatedAuthority = .ok () := by
  cases hevidence : snapshot.evidencePresent <;>
    simp [validateSeparatedAuthority, separatedAuthority, ensure, hevidence]

/-- `evaluate` behind that check. -/
def evaluateProgression : CoreResult WorkflowEvaluation :=
  let authority := snapshot.authority
  let recordShaping := some
    (WorkflowActionKey.mk .recordShapingCheckpoint snapshot.recordShapingVariant)
  if snapshot.task.lifecyclePhase.terminal then
    snapshot.evaluation .terminal .none none [] none
  else if !authority.recoveryRequired.isEmpty then
    snapshot.evaluation .decisionRecoveryRequired .agent recordShaping
      [.recordShapingCheckpoint] (some .decisionRecoveryRequired)
  else if !authority.stale.isEmpty then
    if snapshot.task.workPhase = .shaping then
      snapshot.evaluation .shapingRequired .agent recordShaping [.recordShapingCheckpoint]
        (some .applicationAuthorityStale)
    else
      snapshot.evaluation .shapingRequired .agent (some ⟨.closeTask, .closeTask⟩) [.closeTask]
        (some .applicationAuthorityStale)
  else if snapshot.task.workPhase = .implementation then
    snapshot.evaluation .implementation .agent none snapshot.implementationMethods none
  else if !authority.progressionRequestIds.isEmpty then
    snapshot.evaluation .awaitingUserAction .user (some ⟨.resolveUserAction, .resolveUserAction⟩)
      (.resolveUserAction :: if !authority.acceptedUnapplied.isEmpty then [.updateScope] else [])
      (some (if !authority.inconsistent.isEmpty then .inconsistentAuthorityState
        else .userActionPending))
  else match snapshot.checkpoint with
    | none => snapshot.evaluation .shapingRequired .agent recordShaping
        [.recordShapingCheckpoint, .updateScope] (some .noCurrentCheckpoint)
    | some checkpoint => snapshot.evaluateCheckpoint checkpoint

def evaluate : CoreResult WorkflowEvaluation := do
  snapshot.validateSeparatedAuthority snapshot.separatedAuthority
  snapshot.evaluateProgression

theorem evaluate_eq : snapshot.evaluate = snapshot.evaluateProgression := by
  rw [evaluate, validateSeparatedAuthority_ok]
  rfl

end WorkflowSnapshot

namespace WorkflowEvaluation

def transition (evaluation : WorkflowEvaluation) (key : WorkflowActionKey) :
    Option TransitionDescriptor :=
  evaluation.transitionCatalog.find? (·.actionKey = key)

def requiredTransition (evaluation : WorkflowEvaluation) : Option TransitionDescriptor :=
  evaluation.transitionCatalog.find? (·.role = .required)

end WorkflowEvaluation

structure TransitionRejection where
  reason : TransitionRejectionReason
  code : ErrorCode
  retryable : Bool
  recoveryActionKey : Option WorkflowActionKey

/-- `WorkflowMachine::transition_admission`: the descriptor of the attempted action, or why
there is none. -/
def WorkflowSnapshot.transitionAdmission (snapshot : WorkflowSnapshot)
    (evaluation : WorkflowEvaluation) (attempted : WorkflowActionKey) :
    Except TransitionRejection TransitionDescriptor :=
  match evaluation.transition attempted with
  | some descriptor => .ok descriptor
  | none =>
    if attempted = ⟨.updateScope, .replaceCurrentChangeUnit⟩
      && !snapshot.allowsChangeUnitReplacement then
      .error ⟨.implementationAuthorityWouldBeInvalidated, .taskPhaseTransitionRequired, false,
        (evaluation.transitionCatalog.find? (·.actionKey.method = .closeTask)).map (·.actionKey)⟩
    else .error ⟨if evaluation.transitionCatalog.any (·.actionKey.method = attempted.method)
          then .variantNotCurrent else .actionNotCurrent,
        .workflowActionNotAllowed, true, evaluation.requiredTransition.map (·.actionKey)⟩

end Volicord
