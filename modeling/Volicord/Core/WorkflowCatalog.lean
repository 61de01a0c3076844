import Mathlib.Data.Prod.Lex
import Mathlib.Order.WithBot
import Volicord.Core.Workflow
import Volicord.Lib.Sorted

/-! The transition catalog of `volicord-types`: the keys of workflow actions, the coordinates a
transition fixes, the submission contract derived from them, and the checks a catalog passes. -/
namespace Volicord
open Result Sorted

/- Keys. -/

namespace MethodName

def byWireName : List MethodName :=
  [.advanceTask, .checkClose, .closeTask, .finalizeAdvice, .getOperationResult, .intake,
   .prepareEvidenceCapture, .prepareWrite, .reconcileChanges, .recordRun,
   .recordShapingCheckpoint, .requestUserAction, .resolveUserAction, .stageArtifact, .status,
   .updateScope]

def wireRank (method : MethodName) : Nat := byWireName.idxOf method

end MethodName

def WorkflowActionSemanticVariant.changeUnitOperation :
    WorkflowActionSemanticVariant → Option ChangeUnitOperation
  | .keepCurrentChangeUnit => some .keepCurrent
  | .createCurrentChangeUnit => some .createCurrent
  | .replaceCurrentChangeUnit => some .replaceCurrent
  | _ => none

def WorkflowActionSemanticVariant.forChangeUnitOperation :
    ChangeUnitOperation → WorkflowActionSemanticVariant
  | .keepCurrent => .keepCurrentChangeUnit
  | .createCurrent => .createCurrentChangeUnit
  | .replaceCurrent => .replaceCurrentChangeUnit

def WorkflowActionSemanticVariant.forSingleVariantMethod :
    MethodName → Option WorkflowActionSemanticVariant
  | .finalizeAdvice => some .finalizeAdvice
  | .advanceTask => some .advanceTask
  | .prepareEvidenceCapture => some .prepareEvidenceCapture
  | .prepareWrite => some .prepareWrite
  | .stageArtifact => some .stageArtifact
  | .recordRun => some .recordRun
  | .requestUserAction => some .requestUserAction
  | .resolveUserAction => some .resolveUserAction
  | .reconcileChanges => some .reconcileChanges
  | .checkClose => some .checkClose
  | .closeTask => some .closeTask
  | _ => none

namespace WorkflowActionSemanticVariant

def method : WorkflowActionSemanticVariant → MethodName
  | .createInitial | .replaceCurrent => .recordShapingCheckpoint
  | .keepCurrentChangeUnit | .createCurrentChangeUnit | .replaceCurrentChangeUnit => .updateScope
  | .finalizeAdvice => .finalizeAdvice
  | .advanceTask => .advanceTask
  | .prepareEvidenceCapture => .prepareEvidenceCapture
  | .prepareWrite => .prepareWrite
  | .stageArtifact => .stageArtifact
  | .recordRun => .recordRun
  | .requestUserAction => .requestUserAction
  | .resolveUserAction => .resolveUserAction
  | .reconcileChanges => .reconcileChanges
  | .checkClose => .checkClose
  | .closeTask => .closeTask

def byWireName : List WorkflowActionSemanticVariant :=
  [.advanceTask, .checkClose, .closeTask, .createCurrentChangeUnit, .createInitial,
   .finalizeAdvice, .keepCurrentChangeUnit, .prepareEvidenceCapture, .prepareWrite,
   .reconcileChanges, .recordRun, .replaceCurrent, .replaceCurrentChangeUnit,
   .requestUserAction, .resolveUserAction, .stageArtifact]

def wireRank (variant : WorkflowActionSemanticVariant) : Nat := byWireName.idxOf variant

theorem wireRank_lt (variant : WorkflowActionSemanticVariant) : variant.wireRank < 16 := by
  cases variant <;> decide

theorem wireRank_inj {a b : WorkflowActionSemanticVariant} (h : a.wireRank = b.wireRank) :
    a = b := by
  revert h
  cases a <;> cases b <;> decide

end WorkflowActionSemanticVariant

attribute [ext] WorkflowActionKey

namespace WorkflowActionKey

/-- `WorkflowActionKey::new` accepts the key. -/
def belongs (key : WorkflowActionKey) : Bool := key.semanticVariant.method = key.method

/-- The place of the key in the canonical order: by method name, then by variant name. -/
def rank (key : WorkflowActionKey) : Nat :=
  16 * key.method.wireRank + key.semanticVariant.wireRank

/-- `a` stands before `b` in canonical order. -/
def precedes (a b : WorkflowActionKey) : Bool :=
  a.method.wireRank < b.method.wireRank
  || (a.method = b.method && a.semanticVariant.wireRank < b.semanticVariant.wireRank)

theorem precedes_of_rank_lt {a b : WorkflowActionKey} (h : a.rank < b.rank) : a.precedes b := by
  have ha := a.semanticVariant.wireRank_lt
  have hb := b.semanticVariant.wireRank_lt
  unfold rank at h
  unfold precedes
  by_cases hlt : a.method.wireRank < b.method.wireRank
  · simp [hlt]
  · have hrank : a.method.wireRank = b.method.wireRank := by omega
    have hmethod : a.method = b.method := by
      revert hrank
      cases a.method <;> cases b.method <;> decide
    simp only [hmethod, decide_true, Bool.true_and, Bool.or_eq_true, decide_eq_true_eq]
    right
    omega

end WorkflowActionKey

/- References in canonical order. -/

def StateRecordKind.rank : StateRecordKind → Nat
  | .projectState => 0 | .task => 1 | .changeUnit => 2 | .shapingCheckpoint => 3
  | .shapingGap => 4 | .shapingDecisionApplication => 5
  | .shapingAuthorityReauthorization => 6 | .writeTicket => 7 | .userActionRequest => 8
  | .userActionResolution => 9 | .run => 10 | .evidenceSummary => 11
  | .evidenceObservation => 12 | .evidenceCaptureIntent => 13 | .evidenceProducer => 14
  | .artifact => 15 | .blocker => 16 | .taskEvent => 17 | .agentConnection => 18
  | .unrecordedChange => 19 | .projectContinuityRecord => 20

/-- The fields of a reference in the order they are compared in; `None` comes first. -/
def StateRecordRef.orderKey (reference : StateRecordRef) :
    Nat ×ₗ String ×ₗ String ×ₗ WithBot String ×ₗ WithBot Nat :=
  toLex (reference.recordKind.rank, toLex (reference.recordId, toLex (reference.projectId,
    toLex (reference.taskId, reference.producedAtStateVersion))))

theorem StateRecordRef.orderKey_injective : Function.Injective StateRecordRef.orderKey := by
  intro a b h
  have hkind : a.recordKind.rank = b.recordKind.rank := congrArg (·.1) h
  have hsame : a.recordKind = b.recordKind := by
    revert hkind
    cases a.recordKind <;> cases b.recordKind <;> decide
  cases a
  cases b
  simp only [orderKey, EmbeddingLike.apply_eq_iff_eq, Prod.mk.injEq] at h
  obtain ⟨-, hid, hproject, hrest⟩ := h
  cases hsame
  cases hid
  cases hproject
  cases hrest
  rfl

instance : LinearOrder StateRecordRef := LinearOrder.lift' _ StateRecordRef.orderKey_injective

/- Coordinates. -/

inductive WorkflowCheckpointActionCoordinates where
  | createInitial
  | replaceCurrent (currentCheckpointRef : StateRecordRef)
      (predecessorCheckpointRef : Option StateRecordRef)
      (retiredNonAuthorizingRequestRefs carryForwardApplicationRefs staleApplicationRefs :
        List StateRecordRef)

inductive WorkflowActionAuthorityCoordinates where
  | recordShapingCheckpoint (taskId : String)
      (checkpointOperation : WorkflowCheckpointActionCoordinates) (scopeRevision : Nat)
      (baselineRef : Option String)
  | updateScope (taskId : String) (taskMode : TaskMode) (scopeRevision : Nat)
      (baselineRef currentChangeUnitId : Option String)
      (relatedScopeDecisionRefs : List StateRecordRef)
      (selectedChangeUnitOperation : ChangeUnitOperation)
  | finalizeAdvice (taskId shapingCheckpointId changeUnitId : String) (scopeRevision : Nat)
      (baselineRef : Option String) (userActionResolutionIds : List String)
  | advanceTask (taskId shapingCheckpointId changeUnitId : String) (scopeRevision : Nat)
      (baselineRef : Option String) (userActionResolutionIds : List String)
  | prepareEvidenceCapture (taskId changeUnitId baselineRef : String)
  | prepareWrite (taskId changeUnitId baselineRef : String)
  | stageArtifact (taskId : String)
  | recordRun (taskId changeUnitId baselineRef : String) (runKind : RunKind)
  | requestUserAction (taskId : String) (changeUnitId : Option String)
  | resolveUserAction (taskId : String) (userActionRequestRefs : List StateRecordRef)
  | reconcileChanges (taskId : String)
  | checkClose (taskId : String)
  | closeTask (taskId : String)

inductive WorkflowStateKind where
  | noActiveTask | shapingRequired | awaitingUserAction | decisionRecoveryRequired
  | readyToApplyDecisions | readyForChangeUnit | readyToFinalizeAdvice | readyForImplementation
  | implementation | closeReview | terminal
deriving DecidableEq

inductive AuthorityNextActor where
  | none | agent | user
deriving DecidableEq

inductive WorkflowActionRole where
  | required | allowed
deriving DecidableEq

inductive WorkflowBlockingReason where
  | decisionRecoveryRequired | applicationAuthorityStale | inconsistentAuthorityState
  | userActionPending | noCurrentCheckpoint | acceptedDecisionsNotApplied | shapingGapsCurrent
  | changeUnitRequired | advisorFinalizationRequired | explicitAdvanceRequired

inductive TransitionRejectionReason where
  | actionNotCurrent | variantNotCurrent | implementationAuthorityWouldBeInvalidated

inductive WorkflowTransitionActor where
  | agent | user | system
deriving DecidableEq

namespace WorkflowActionAuthorityCoordinates

def taskId : WorkflowActionAuthorityCoordinates → String
  | .recordShapingCheckpoint taskId .. | .updateScope taskId .. | .finalizeAdvice taskId ..
  | .advanceTask taskId .. | .prepareEvidenceCapture taskId .. | .prepareWrite taskId ..
  | .stageArtifact taskId | .recordRun taskId .. | .requestUserAction taskId ..
  | .resolveUserAction taskId .. | .reconcileChanges taskId | .checkClose taskId
  | .closeTask taskId => taskId

def semanticVariant : WorkflowActionAuthorityCoordinates → WorkflowActionSemanticVariant
  | .recordShapingCheckpoint _ .createInitial .. => .createInitial
  | .recordShapingCheckpoint _ (.replaceCurrent ..) .. => .replaceCurrent
  | .updateScope _ _ _ _ _ _ operation => .forChangeUnitOperation operation
  | .finalizeAdvice .. => .finalizeAdvice
  | .advanceTask .. => .advanceTask
  | .prepareEvidenceCapture .. => .prepareEvidenceCapture
  | .prepareWrite .. => .prepareWrite
  | .stageArtifact _ => .stageArtifact
  | .recordRun .. => .recordRun
  | .requestUserAction .. => .requestUserAction
  | .resolveUserAction .. => .resolveUserAction
  | .reconcileChanges _ => .reconcileChanges
  | .checkClose _ => .checkClose
  | .closeTask _ => .closeTask

def method (coordinates : WorkflowActionAuthorityCoordinates) : MethodName :=
  coordinates.semanticVariant.method

end WorkflowActionAuthorityCoordinates

/- Submission contracts. -/

inductive WorkflowProductTaskMode where
  | direct | work

inductive WorkflowStaleAuthorityActionWitness where
  | retire

structure WorkflowShapingCheckpointRequiredWitness where
  summary : String
  implementationBoundary : Option String
  gaps : List ShapingGapInput
  staleAuthorityActions : List WorkflowStaleAuthorityActionWitness

/-- The Task-scope values of a scope update; those the witness leaves null are left out. -/
structure WorkflowUpdateScopeRequiredWitness where
  baselineRef : Option String

structure WorkflowChangeUnitRequiredWitness where
  scopeSummary : String
  affectedPaths : List String

structure WorkflowAdvisorChangeUnitFixedValues where
  affectedPaths : List String
  effectContract : ChangeUnitEffectContract

inductive WorkflowUpdateScopeSubmissionContract where
  | keepCurrentChangeUnit (required : WorkflowUpdateScopeRequiredWitness)
  | generalCreateCurrentChangeUnit (taskMode : WorkflowProductTaskMode)
      (required : WorkflowUpdateScopeRequiredWitness)
      (changeUnit : WorkflowChangeUnitRequiredWitness)
  | generalReplaceCurrentChangeUnit (taskMode : WorkflowProductTaskMode)
      (required : WorkflowUpdateScopeRequiredWitness)
      (changeUnit : WorkflowChangeUnitRequiredWitness)
  | advisorCreateCurrentChangeUnit (required : WorkflowUpdateScopeRequiredWitness)
      (scopeSummary : String) (fixedValues : WorkflowAdvisorChangeUnitFixedValues)
  | advisorReplaceCurrentChangeUnit (required : WorkflowUpdateScopeRequiredWitness)
      (scopeSummary : String) (fixedValues : WorkflowAdvisorChangeUnitFixedValues)

structure WorkflowRecordRunRequiredWitness where
  kind : RunKind
  summary : String
  observedBaselineRef : Option String

inductive WorkflowTransitionSubmissionContract where
  | createInitialCheckpoint (required : WorkflowShapingCheckpointRequiredWitness)
  | replaceCurrentCheckpoint (required : WorkflowShapingCheckpointRequiredWitness)
  | updateScope (contract : WorkflowUpdateScopeSubmissionContract)
  | finalizeAdvice (resultSummary : String)
  | advanceTask
  | prepareEvidenceCapture (target : EvidenceTarget) (commandSha256 commandLabel : String)
  | prepareWrite (intendedOperation : String) (intendedPaths : List String)
      (productFileWriteIntended : Bool)
  | stageArtifact
  | recordRun (required : WorkflowRecordRunRequiredWitness)
  | requestUserAction (choice : UserActionChoiceDraft) (requiredFor : List UserActionRequiredFor)
  | resolveUserAction
  | reconcileChanges
  | checkClose
  | closeTask (intent : CloseIntent) (closeReason : Option CloseReason)

namespace WorkflowTransitionSubmissionContract

/-- The one gap the witness of a checkpoint without a baseline reports. -/
def baselineGap : ShapingGapInput where
  gapKind := .userTechnicalDecisionRequired
  summary := "Choose the bounded direction needed to establish the current baseline."
  affectedRefs := []
  userAction := some
    { action := .choice
        { judgmentKind := .technicalDecision
          question := "Which bounded direction should establish the current baseline?"
          contextSummary :=
            "A current baseline cannot be established without this bounded decision."
          options := [⟨"option_establish_current_baseline", true⟩]
          affectedRefs := []
          sensitiveActionScope := none }
      expiresAt := none }

variable (baselineRef : Option String) (staleCount : Nat)

/-- A checkpoint with a baseline is ready; one without reports the gap. -/
def checkpointWitness : WorkflowShapingCheckpointRequiredWitness where
  summary := "Current shaping checkpoint."
  implementationBoundary :=
    if baselineRef.isSome then some "Keep execution inside the current bounded task." else none
  gaps := if baselineRef.isSome then [] else [baselineGap]
  staleAuthorityActions := List.replicate staleCount .retire

@[simp] theorem checkpointWitness_staleAuthorityActions :
    (checkpointWitness baselineRef staleCount).staleAuthorityActions
      = List.replicate staleCount .retire := rfl

def generalChangeUnitWitness : WorkflowChangeUnitRequiredWitness := ⟨"Bounded current work.", []⟩

def advisorFixedValues : WorkflowAdvisorChangeUnitFixedValues :=
  ⟨[], advisorObserveOnlyEffectContract⟩

variable (taskMode : TaskMode)

def updateScopeContract (required : WorkflowUpdateScopeRequiredWitness) :
    ChangeUnitOperation → WorkflowUpdateScopeSubmissionContract
  | .keepCurrent => .keepCurrentChangeUnit required
  | .createCurrent => match taskMode with
    | .advisor => .advisorCreateCurrentChangeUnit required "Bounded observe-only advice."
        advisorFixedValues
    | .direct => .generalCreateCurrentChangeUnit .direct required generalChangeUnitWitness
    | .work => .generalCreateCurrentChangeUnit .work required generalChangeUnitWitness
  | .replaceCurrent => match taskMode with
    | .advisor => .advisorReplaceCurrentChangeUnit required "Bounded observe-only advice."
        advisorFixedValues
    | .direct => .generalReplaceCurrentChangeUnit .direct required generalChangeUnitWitness
    | .work => .generalReplaceCurrentChangeUnit .work required generalChangeUnitWitness

def userActionWitness : UserActionChoiceDraft where
  judgmentKind := .technicalDecision
  question := "Choose the submission-contract validation outcome."
  contextSummary := "A bounded validation decision is required."
  options := [⟨"option_submission_contract_validation", true⟩]
  affectedRefs := []
  sensitiveActionScope := none

def forCurrentTransition : WorkflowActionAuthorityCoordinates → WorkflowTransitionSubmissionContract
  | .recordShapingCheckpoint _ .createInitial _ baselineRef =>
    .createInitialCheckpoint (checkpointWitness baselineRef 0)
  | .recordShapingCheckpoint _ (.replaceCurrent _ _ _ _ staleApplicationRefs) _ baselineRef =>
    .replaceCurrentCheckpoint (checkpointWitness baselineRef staleApplicationRefs.length)
  | .updateScope _ _ _ baselineRef _ _ operation =>
    .updateScope (updateScopeContract taskMode ⟨baselineRef⟩ operation)
  | .finalizeAdvice .. => .finalizeAdvice "Current advice result."
  | .advanceTask .. => .advanceTask
  | .prepareEvidenceCapture .. => .prepareEvidenceCapture
      (.supplementalClaim "workflow_form_witness" "Submission-contract validation witness.")
      "0000000000000000000000000000000000000000000000000000000000000000"
      "submission-contract witness"
  | .prepareWrite .. => .prepareWrite "Submission-contract validation witness." [] false
  | .stageArtifact _ => .stageArtifact
  | .recordRun _ _ baselineRef runKind =>
    .recordRun ⟨runKind, "Submission-contract validation witness.", some baselineRef⟩
  | .requestUserAction .. => .requestUserAction userActionWitness [.informational]
  | .resolveUserAction .. => .resolveUserAction
  | .reconcileChanges _ => .reconcileChanges
  | .checkClose _ => .checkClose
  | .closeTask _ => .closeTask .cancel (some .cancelled)

def semanticVariant : WorkflowTransitionSubmissionContract → WorkflowActionSemanticVariant
  | .createInitialCheckpoint _ => .createInitial
  | .replaceCurrentCheckpoint _ => .replaceCurrent
  | .updateScope (.keepCurrentChangeUnit _) => .keepCurrentChangeUnit
  | .updateScope (.generalCreateCurrentChangeUnit ..)
  | .updateScope (.advisorCreateCurrentChangeUnit ..) => .createCurrentChangeUnit
  | .updateScope (.generalReplaceCurrentChangeUnit ..)
  | .updateScope (.advisorReplaceCurrentChangeUnit ..) => .replaceCurrentChangeUnit
  | .finalizeAdvice _ => .finalizeAdvice
  | .advanceTask => .advanceTask
  | .prepareEvidenceCapture .. => .prepareEvidenceCapture
  | .prepareWrite .. => .prepareWrite
  | .stageArtifact => .stageArtifact
  | .recordRun _ => .recordRun
  | .requestUserAction .. => .requestUserAction
  | .resolveUserAction => .resolveUserAction
  | .reconcileChanges => .reconcileChanges
  | .checkClose => .checkClose
  | .closeTask .. => .closeTask

def scopeWitness : WorkflowUpdateScopeSubmissionContract → WorkflowUpdateScopeRequiredWitness
  | .keepCurrentChangeUnit required | .generalCreateCurrentChangeUnit _ required _
  | .generalReplaceCurrentChangeUnit _ required _ | .advisorCreateCurrentChangeUnit required _ _
  | .advisorReplaceCurrentChangeUnit required _ _ => required

def readinessIsCommittable (required : WorkflowShapingCheckpointRequiredWitness)
    (baselineRef : Option String) : Bool :=
  !required.gaps.isEmpty
  || (baselineRef.isSome && required.implementationBoundary.any (!Text.isBlank ·))

def productModeMatches : WorkflowProductTaskMode → TaskMode → Bool
  | .direct, .direct | .work, .work => true
  | _, _ => false

def scopeContractMatches : WorkflowUpdateScopeSubmissionContract → Bool
  | .keepCurrentChangeUnit _ => true
  | .generalCreateCurrentChangeUnit mode .. | .generalReplaceCurrentChangeUnit mode .. =>
    productModeMatches mode taskMode
  | .advisorCreateCurrentChangeUnit _ _ fixedValues
  | .advisorReplaceCurrentChangeUnit _ _ fixedValues =>
    taskMode = .advisor && fixedValues.affectedPaths.isEmpty
      && fixedValues.effectContract = advisorObserveOnlyEffectContract

/-- `is_well_formed_for`. The constraints of an Advisor contract are constants. -/
def isWellFormedFor (contract : WorkflowTransitionSubmissionContract)
    (coordinates : WorkflowActionAuthorityCoordinates) : Bool :=
  contract.semanticVariant.method = coordinates.method
  && contract.semanticVariant = coordinates.semanticVariant
  && match contract, coordinates with
    | .createInitialCheckpoint required, .recordShapingCheckpoint _ operation _ baselineRef
    | .replaceCurrentCheckpoint required, .recordShapingCheckpoint _ operation _ baselineRef =>
      (match operation with
        | .createInitial => required.staleAuthorityActions.isEmpty
        | .replaceCurrent _ _ _ _ staleApplicationRefs =>
          required.staleAuthorityActions.length = staleApplicationRefs.length)
      && readinessIsCommittable required baselineRef
    | .updateScope contract, .updateScope _ taskMode _ baselineRef _ _ _ =>
      (scopeWitness contract).baselineRef = baselineRef && scopeContractMatches taskMode contract
    | .recordRun required, .recordRun _ _ baselineRef runKind =>
      required.kind = runKind && required.observedBaselineRef = some baselineRef
    | _, _ => true

theorem readinessIsCommittable_checkpointWitness : readinessIsCommittable
    (checkpointWitness baselineRef staleCount) baselineRef := by
  cases baselineRef with
  | none => rfl
  | some baseline =>
    have hboundary : Text.isBlank "Keep execution inside the current bounded task." = false := by
      decide +kernel
    simp [readinessIsCommittable, checkpointWitness, hboundary]

theorem isWellFormedFor_forCurrentTransition (coordinates : WorkflowActionAuthorityCoordinates)
    (hmode : ∀ taskId mode scopeRevision baselineRef unit refs operation, coordinates =
      .updateScope taskId mode scopeRevision baselineRef unit refs operation → mode = taskMode) :
    (forCurrentTransition taskMode coordinates).isWellFormedFor coordinates := by
  cases coordinates with
  | recordShapingCheckpoint taskId operation scopeRevision baselineRef =>
    cases operation with
    | createInitial =>
      simp [isWellFormedFor, forCurrentTransition, semanticVariant,
        WorkflowActionAuthorityCoordinates.method,
        WorkflowActionAuthorityCoordinates.semanticVariant,
        readinessIsCommittable_checkpointWitness]
    | replaceCurrent current predecessor retired carried stale =>
      simp [isWellFormedFor, forCurrentTransition, semanticVariant,
        WorkflowActionAuthorityCoordinates.method,
        WorkflowActionAuthorityCoordinates.semanticVariant,
        readinessIsCommittable_checkpointWitness]
  | updateScope taskId mode scopeRevision baselineRef unit refs operation =>
    have hsame := hmode _ _ _ _ _ _ _ rfl
    subst hsame
    cases operation <;> cases mode <;>
      simp [isWellFormedFor, forCurrentTransition, updateScopeContract, semanticVariant,
        WorkflowActionAuthorityCoordinates.method,
        WorkflowActionAuthorityCoordinates.semanticVariant, scopeWitness, scopeContractMatches,
        productModeMatches, advisorFixedValues,
        WorkflowActionSemanticVariant.forChangeUnitOperation]
  | recordRun taskId unit baselineRef runKind =>
    simp [isWellFormedFor, forCurrentTransition, semanticVariant,
      WorkflowActionAuthorityCoordinates.method, WorkflowActionAuthorityCoordinates.semanticVariant]
  | _ => rfl

end WorkflowTransitionSubmissionContract

/- Descriptors and catalogs. -/

structure TransitionDescriptor where
  actionKey : WorkflowActionKey
  actor : WorkflowTransitionActor
  role : WorkflowActionRole
  expectedStateVersion : Nat
  coordinates : WorkflowActionAuthorityCoordinates
  submissionContract : WorkflowTransitionSubmissionContract
  effectClass : WorkflowTransitionEffectClass
  expectedResultState : WorkflowExpectedResultState
  invalidationForbidden : Bool
  requiredRefs : List StateRecordRef

def TransitionDescriptor.actorFor : MethodName → WorkflowTransitionActor
  | .resolveUserAction => .user
  | _ => .agent

def TransitionDescriptor.effectFor : MethodName → WorkflowTransitionEffectClass
  | .resolveUserAction => .userChannelMutation
  | .prepareEvidenceCapture => .evidenceCapture
  | .prepareWrite => .writeAuthorization
  | .stageArtifact => .artifactStaging
  | .recordRun => .executionRecording
  | .checkClose => .readOnlyAssessment
  | .closeTask => .terminalMutation
  | _ => .coreStateMutation

namespace TransitionDescriptor

def resultStateMatches (method : MethodName) (result : WorkflowExpectedResultState) : Bool :=
  match method with
  | .advanceTask => result = .implementation
  | .finalizeAdvice => result = .closeReview
  | .checkClose => result = .closeReview || result = .reevaluateCurrentAuthority
  | .requestUserAction => result = .awaitingUserAction
  | .closeTask => result = .terminal
  | .prepareEvidenceCapture | .prepareWrite | .recordRun | .reconcileChanges =>
    result = .implementation
  | .stageArtifact => result = .implementation || result = .reevaluateCurrentAuthority
  | _ => result = .reevaluateCurrentAuthority

/-- The selected operation fits the presence of a current Change Unit. -/
def operationMatchesCurrent : WorkflowActionAuthorityCoordinates → Bool
  | .updateScope _ _ _ _ currentChangeUnitId _ operation => match operation with
    | .createCurrent => currentChangeUnitId.isNone
    | .keepCurrent => true
    | .replaceCurrent => currentChangeUnitId.isSome
  | _ => true

/-- The checks of one transition after its predecessor, in the order they are made. -/
def validate (previous : Option TransitionDescriptor) (transition : TransitionDescriptor) :
    Except String Unit := do
  let key := transition.actionKey
  ensure (previous.all (·.actionKey.precedes key))
    "workflow transition catalog keys are duplicated or not in canonical order"
  ensure (key.semanticVariant.method = key.method)
    "workflow transition semantic variant does not belong to its method"
  ensure (transition.actor = actorFor key.method)
    "workflow transition actor does not match its method authority"
  ensure (transition.coordinates.method = key.method)
    "workflow transition method does not match its authority coordinates"
  ensure (key.semanticVariant = transition.coordinates.semanticVariant)
    "workflow transition variant does not match its authority coordinates"
  ensure (transition.submissionContract.isWellFormedFor transition.coordinates)
    "workflow transition submission contract does not match current authority"
  ensure (increasing transition.requiredRefs)
    "workflow transition required refs are duplicated or not in canonical order"
  ensure (transition.effectClass = effectFor key.method)
    "workflow transition effect class does not match its method"
  ensure (resultStateMatches key.method transition.expectedResultState)
    "workflow transition expected result state does not match its method"
  ensure (!transition.invalidationForbidden
      || (key.method = .updateScope && key.semanticVariant = .keepCurrentChangeUnit))
    "workflow authority invalidation may be forbidden only for keep-current scope updates"
  ensure (previous.all (·.expectedStateVersion = transition.expectedStateVersion))
    "workflow transition catalog mixes expected state versions"
  ensure (previous.all (·.coordinates.taskId = transition.coordinates.taskId))
    "workflow transition catalog mixes Task identities"
  ensure (operationMatchesCurrent transition.coordinates)
    "workflow update-scope operation does not match current Change Unit authority"
  match transition.coordinates with
  | .resolveUserAction _ refs =>
    ensure (!refs.isEmpty) "workflow user transition requires exact current UserAction refs"
    ensure (increasing refs) "workflow UserAction refs are duplicated or not in canonical order"
    ensure (refs.all transition.requiredRefs.contains)
      "workflow UserAction transition refs are absent from required refs"
  | _ => pure ()

/-- What makes a transition acceptable on its own, in a catalog of one version and one Task. -/
structure WellFormed (stateVersion : Nat) (taskId : String) (transition : TransitionDescriptor) :
    Prop where
  belongs : transition.actionKey.belongs
  actor : transition.actor = actorFor transition.actionKey.method
  variant : transition.actionKey.semanticVariant = transition.coordinates.semanticVariant
  contract : transition.submissionContract.isWellFormedFor transition.coordinates
  refs : transition.requiredRefs.Pairwise (· < ·)
  effect : transition.effectClass = effectFor transition.actionKey.method
  result : resultStateMatches transition.actionKey.method transition.expectedResultState
  invalidation : transition.invalidationForbidden →
    transition.actionKey = ⟨.updateScope, .keepCurrentChangeUnit⟩
  version : transition.expectedStateVersion = stateVersion
  task : transition.coordinates.taskId = taskId
  operation : operationMatchesCurrent transition.coordinates
  userRefs : ∀ id refs, transition.coordinates = .resolveUserAction id refs →
    refs ≠ [] ∧ refs.Pairwise (· < ·) ∧ ∀ reference ∈ refs, reference ∈ transition.requiredRefs

theorem validate_of_wellFormed {stateVersion : Nat} {taskId : String}
    {previous : Option TransitionDescriptor} {transition : TransitionDescriptor}
    (h : transition.WellFormed stateVersion taskId)
    (hprevious : ∀ before, previous = some before → before.WellFormed stateVersion taskId ∧
      before.actionKey.precedes transition.actionKey) :
    validate previous transition = .ok () := by
  have hall : ∀ check : TransitionDescriptor → Bool,
      (∀ before, previous = some before → check before) → previous.all check := by
    intro check hcheck
    cases previous with
    | none => rfl
    | some before => exact hcheck before rfl
  have hmethod : transition.coordinates.method = transition.actionKey.method := by
    have hbelongs := h.belongs
    rw [WorkflowActionKey.belongs, decide_eq_true_eq] at hbelongs
    rw [WorkflowActionAuthorityCoordinates.method, ← h.variant, hbelongs]
  have hbelongs : transition.actionKey.semanticVariant.method = transition.actionKey.method := by
    simpa [WorkflowActionKey.belongs] using h.belongs
  have hinvalid : (!transition.invalidationForbidden
      || (transition.actionKey.method = .updateScope
        && transition.actionKey.semanticVariant = .keepCurrentChangeUnit)) = true := by
    cases hforbidden : transition.invalidationForbidden with
    | false => rfl
    | true => simp [h.invalidation hforbidden]
  have hversions : previous.all (·.expectedStateVersion = transition.expectedStateVersion)
      = true := hall _ fun before hb => by simp [(hprevious before hb).1.version, h.version]
  have htasks : previous.all (·.coordinates.taskId = transition.coordinates.taskId) = true :=
    hall _ fun before hb => by simp [(hprevious before hb).1.task, h.task]
  have horder : previous.all (·.actionKey.precedes transition.actionKey) :=
    hall _ fun before hb => (hprevious before hb).2
  simp only [validate, horder, hbelongs, h.actor, hmethod, ← h.variant, h.contract,
    increasing_of_pairwise h.refs, h.effect, h.result, hinvalid, hversions, htasks, h.operation,
    decide_true, ensure, if_true, ok_bind]
  cases hcoordinates : transition.coordinates with
  | resolveUserAction id refs =>
    obtain ⟨hne, hsorted, hmem⟩ := h.userRefs id refs hcoordinates
    have hnonempty : (!refs.isEmpty) := by simpa using hne
    have hcontained : refs.all transition.requiredRefs.contains := by simpa using hmem
    simp only [hnonempty, increasing_of_pairwise hsorted, hcontained, if_true, ok_bind]
  | _ => rfl

end TransitionDescriptor

namespace WorkflowTransitionCatalog

def validateFrom (previous : Option TransitionDescriptor) :
    List TransitionDescriptor → Except String Unit
  | [] => .ok ()
  | transition :: rest => do
    transition.validate previous
    validateFrom (some transition) rest

def new (transitions : List TransitionDescriptor) : Except String (List TransitionDescriptor) := do
  validateFrom none transitions
  ensure (transitions.countP (·.role = .required) ≤ 1)
    "workflow transition catalog contains more than one required transition"
  return transitions

theorem new_ok {transitions catalog : List TransitionDescriptor}
    (h : new transitions = .ok catalog) :
    catalog = transitions ∧ transitions.countP (·.role = .required) ≤ 1 := by
  simp only [new, steps_ok, decide_eq_true_eq] at h
  obtain ⟨-, -, hcount, rfl⟩ := h
  exact ⟨rfl, hcount⟩

section
variable {stateVersion : Nat} {taskId : String} {transitions : List TransitionDescriptor}

theorem validateFrom_of_wellFormed {previous : Option TransitionDescriptor}
    (hwell : ∀ transition ∈ transitions, transition.WellFormed stateVersion taskId)
    (hprevious : ∀ before, previous = some before → before.WellFormed stateVersion taskId)
    (hsorted : (previous.toList ++ transitions).Pairwise
      fun a b => a.actionKey.precedes b.actionKey = true) :
    validateFrom previous transitions = .ok () := by
  induction transitions generalizing previous with
  | nil => rfl
  | cons transition rest ih =>
    have hvalid : transition.validate previous = .ok () := by
      refine TransitionDescriptor.validate_of_wellFormed (hwell _ (List.mem_cons_self ..)) ?_
      rintro before rfl
      refine ⟨hprevious before rfl, ?_⟩
      exact List.rel_of_pairwise_cons hsorted (List.mem_cons_self ..)
    have hrest : validateFrom (some transition) rest = .ok () := by
      refine ih (fun d hd => hwell d (List.mem_cons_of_mem _ hd)) ?_ ?_
      · rintro before hb
        cases hb
        exact hwell _ (List.mem_cons_self ..)
      · exact hsorted.sublist (List.sublist_append_right ..)
    simp only [validateFrom, hvalid, hrest, ok_bind]

theorem new_of_wellFormed
    (hwell : ∀ transition ∈ transitions, transition.WellFormed stateVersion taskId)
    (hsorted : transitions.Pairwise fun a b => a.actionKey.precedes b.actionKey = true)
    (hrequired : transitions.countP (·.role = .required) ≤ 1) :
    new transitions = .ok transitions := by
  have hvalid : validateFrom none transitions = .ok () :=
    validateFrom_of_wellFormed hwell (by simp) (by simpa using hsorted)
  simp [new, hvalid, hrequired, ensure, pure, Except.pure]

end

end WorkflowTransitionCatalog

end Volicord
