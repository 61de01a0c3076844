import Mathlib.Order.Lattice
import Mathlib.Order.Basic
import Volicord.Types.ProductPath

/-! The closed values and the schema records of `volicord-types` that Core methods and
Store mutations exchange. -/
namespace Volicord

inductive TaskMode where
  | advisor | direct | work
deriving DecidableEq

inductive RequestedControlLevel where
  | auto | observe | light | tracked | sensitive
deriving DecidableEq

inductive TaskControlLevel where
  | observe | light | tracked | sensitive
deriving DecidableEq

/-- `task_control_level_rank`; the derived order of the source is the same. -/
def TaskControlLevel.rank : TaskControlLevel → Nat
  | .observe => 0
  | .light => 1
  | .tracked => 2
  | .sensitive => 3

theorem TaskControlLevel.rank_injective : Function.Injective TaskControlLevel.rank := by
  intro a b
  cases a <;> cases b <;> decide

instance : LinearOrder TaskControlLevel := LinearOrder.lift' _ TaskControlLevel.rank_injective

theorem TaskControlLevel.le_sensitive (level : TaskControlLevel) : level ≤ .sensitive := by
  cases level <;> decide

inductive AcceptancePolicy where
  | required | notRequired | policyDependent
deriving DecidableEq

def AcceptancePolicy.rank : AcceptancePolicy → Nat
  | .notRequired => 0
  | .policyDependent => 1
  | .required => 2

def maxAcceptancePolicy (left right : AcceptancePolicy) : AcceptancePolicy :=
  if right.rank ≤ left.rank then left else right

inductive TaskLineageRelation where
  | continues | derivedFrom | splitFrom | replaces | implementsAdviceFrom
deriving DecidableEq

inductive TaskResult where
  | none | adviceOnly | completed | cancelled | superseded
deriving DecidableEq

inductive CloseReason where
  | none | completedSelfChecked | completedWithRiskAccepted | cancelled | superseded
deriving DecidableEq

inductive CloseIntent where
  | check | complete | cancel | supersede
deriving DecidableEq

inductive ResumePolicy where
  | resumeActive | createNew | supersedeActive | rejectIfActive
deriving DecidableEq

inductive ChangeUnitOperation where
  | keepCurrent | createCurrent | replaceCurrent
deriving DecidableEq

inductive ChangeUnitStatus where
  | proposed | active | replaced | closed
deriving DecidableEq

inductive ChangeUnitEffectKind where
  | productFileWrite | artifactRegistration | runRecording | userActionRequest
  | evidenceUpdate | sensitiveAction | externalNetwork | secretAccess
deriving DecidableEq

inductive EvidenceRequirement where
  | required | optional | notRequired
deriving DecidableEq

inductive EvidenceRelevanceStatus where
  | unassessed | supported | contradicted
deriving DecidableEq

inductive RunKind where
  | implementation | direct
deriving DecidableEq

inductive WriteTicketStatus where
  | active | consumed | invalidated | revoked
deriving DecidableEq

inductive WriteTicketInvalidationReason where
  | scopeRevisionChanged | changeUnitChanged | baselineChanged | workspaceChanged
  | approvalBasisChanged | idleTimeout | taskClosed | explicitRevoke
deriving DecidableEq

inductive StateRecordKind where
  | projectState | task | changeUnit | shapingCheckpoint | shapingGap
  | shapingDecisionApplication | shapingAuthorityReauthorization | writeTicket
  | userActionRequest | userActionResolution | run | evidenceSummary | evidenceObservation
  | evidenceCaptureIntent | evidenceProducer | artifact | blocker | taskEvent
  | agentConnection | unrecordedChange | projectContinuityRecord
deriving DecidableEq

structure StateRecordRef where
  recordKind : StateRecordKind
  (recordId projectId : String)
  taskId : Option String
  producedAtStateVersion : Option Nat
deriving DecidableEq

/- User actions. -/

inductive UserActionKind where
  | productDecision | technicalDecision | scopeDecision | sensitiveApproval
  | finalAcceptance | residualRiskAcceptance | cancellation | evidenceObservation
deriving DecidableEq

inductive UserActionRequiredFor where
  | scopeUpdate | advanceTask | finalizeAdvice | prepareWrite | recordRun | closeComplete
  | closeCancel | closeSupersede | informational
deriving DecidableEq

def UserActionKind.isCompatibleWithRequiredFor (kind : UserActionKind) :
    UserActionRequiredFor → Bool
  | .scopeUpdate => kind ∈ [.productDecision, .technicalDecision, .scopeDecision]
  | .prepareWrite | .advanceTask | .closeSupersede =>
    kind ∈ [.productDecision, .technicalDecision, .scopeDecision, .sensitiveApproval]
  | .finalizeAdvice => kind ∈ [.productDecision, .technicalDecision, .sensitiveApproval]
  | .recordRun => kind ∈ [.productDecision, .technicalDecision, .scopeDecision,
      .sensitiveApproval, .evidenceObservation]
  | .closeComplete => kind ∈ [.productDecision, .technicalDecision, .scopeDecision,
      .sensitiveApproval, .finalAcceptance, .residualRiskAcceptance, .evidenceObservation]
  | .closeCancel => kind = .cancellation
  | .informational => true

inductive UserActionBasisStatus where
  | current | stale | superseded
deriving DecidableEq

inductive UserActionStatus where
  | pending | resolved | stale | superseded | expired
deriving DecidableEq

/-- The effective status of a request; none before its creation instant. -/
def effectiveUserActionStatus (basisStatus : UserActionBasisStatus) (createdAt : UtcTimestamp)
    (expiresAt : Option UtcTimestamp) (hasResolution : Bool) (now : UtcTimestamp) :
    Option UserActionStatus :=
  if now < createdAt then none
  else some <| match basisStatus with
    | .stale => .stale
    | .superseded => .superseded
    | .current =>
      if hasResolution then .resolved
      else if expiresAt.any (· ≤ now) then .expired
      else .pending

section
variable {basisStatus : UserActionBasisStatus} {createdAt now : UtcTimestamp}
  {expiresAt : Option UtcTimestamp} {hasResolution : Bool}

theorem effectiveUserActionStatus_pending
    (h : effectiveUserActionStatus basisStatus createdAt expiresAt hasResolution now
      = some .pending) :
    basisStatus = .current ∧ hasResolution = false ∧ expiresAt.all (now < ·) = true := by
  unfold effectiveUserActionStatus at h
  cases basisStatus with
  | current =>
    cases hasResolution with
    | false =>
      cases expiresAt with
      | none => simp
      | some expiresAt => simp_all
    | true => simp at h
  | _ => simp at h

theorem effectiveUserActionStatus_resolved
    (h : effectiveUserActionStatus basisStatus createdAt expiresAt hasResolution now
      = some .resolved) : basisStatus = .current ∧ hasResolution := by
  unfold effectiveUserActionStatus at h
  cases basisStatus with
  | current =>
    cases hasResolution with
    | false => cases hexpired : expiresAt.any (· ≤ now) <;> simp [hexpired] at h
    | true => simp
  | _ => simp at h

end

inductive UserActionOptionAction where
  | accept | reject | defer
deriving DecidableEq

inductive JudgmentResolutionOutcome where
  | accepted | rejected | deferred
deriving DecidableEq

def UserActionOptionAction.resolutionOutcome : UserActionOptionAction → JudgmentResolutionOutcome
  | .accept => .accepted
  | .reject => .rejected
  | .defer => .deferred

structure SensitiveActionScope where
  actionKind : String
  (intendedPaths sensitiveCategories : List String)
  expiresAt : Option UtcTimestamp
deriving DecidableEq

inductive EvidenceTarget where
  | acceptanceCriterion (acceptanceCriterionId : String)
  | supplementalClaim (evidenceClaimId statement : String)
deriving DecidableEq

inductive ArtifactIntegrityStatus where
  | verified | corrupt
deriving DecidableEq

inductive RedactionState where
  | none | redacted | secretOmitted | blocked
deriving DecidableEq

inductive ArtifactAvailability where
  | available | unavailable | missing | integrityFailed | blocked | unusable
deriving DecidableEq

structure ArtifactRef where
  (artifactId projectId taskId : String)
  (contentType sha256 : Option String)
  sizeBytes : Option Nat
  redactionState : RedactionState
  integrityStatus : ArtifactIntegrityStatus
  availability : ArtifactAvailability
deriving DecidableEq

structure UserActionBasisCoordinates where
  taskId : String
  changeUnitId : Option String
  scopeRevision : Nat
  baselineRef : Option String
  createdAtStateVersion : Nat
  compatibilityStatus : UserActionBasisStatus

structure UserActionChoiceBasis where
  coordinates : UserActionBasisCoordinates
  closeBasisRevision : Option Nat
  resultRefs : List StateRecordRef
  residualRiskIds : List String
  sensitiveActionScope : Option SensitiveActionScope

structure UserActionEvidenceObservationBasis where
  coordinates : UserActionBasisCoordinates
  targetCandidates : List EvidenceTarget
  artifactCandidates : List ArtifactRef

inductive UserActionBasis where
  | choice (basis : UserActionChoiceBasis)
  | evidenceObservation (basis : UserActionEvidenceObservationBasis)

namespace UserActionBasis

def coordinates : UserActionBasis → UserActionBasisCoordinates
  | .choice basis => basis.coordinates
  | .evidenceObservation basis => basis.coordinates

def compatibilityStatus (basis : UserActionBasis) : UserActionBasisStatus :=
  basis.coordinates.compatibilityStatus

def withCompatibilityStatus (status : UserActionBasisStatus) : UserActionBasis → UserActionBasis
  | .choice basis => .choice
      { basis with coordinates := { basis.coordinates with compatibilityStatus := status } }
  | .evidenceObservation basis => .evidenceObservation
      { basis with coordinates := { basis.coordinates with compatibilityStatus := status } }

def closeBasisRevision : UserActionBasis → Option Nat
  | .choice basis => basis.closeBasisRevision
  | .evidenceObservation _ => none

def resultRefs : UserActionBasis → List StateRecordRef
  | .choice basis => basis.resultRefs
  | .evidenceObservation _ => []

def residualRiskIds : UserActionBasis → List String
  | .choice basis => basis.residualRiskIds
  | .evidenceObservation _ => []

def sensitiveActionScope : UserActionBasis → Option SensitiveActionScope
  | .choice basis => basis.sensitiveActionScope
  | .evidenceObservation _ => none

end UserActionBasis

structure UserActionEvidenceObservation where
  target : EvidenceTarget
  relevanceStatus : EvidenceRelevanceStatus
  outputArtifactRefs : List ArtifactRef
  summary : String

inductive UserActionResolutionBody where
  | choice (selectedOptionId : String) (machineAction : UserActionOptionAction)
      (resolutionOutcome : JudgmentResolutionOutcome) (note : Option String)
      (acceptedRiskIds : List String)
  | evidenceObservation (observation : UserActionEvidenceObservation)

/-- The origin of a request, in `user_action_requests.metadata_json`. -/
inductive UserActionRequestMetadata where
  | directRequest
  | shaping (shapingCheckpointId shapingGapId : String)
      (reauthorizesApplicationId : Option String)
  | reconciliation (unrecordedChangeId : String)

def UserActionRequestMetadata.reauthorizesApplicationId :
    UserActionRequestMetadata → Option String
  | .shaping _ _ applicationId => applicationId
  | _ => none

/- Drafts of user actions, as an agent submits them. -/

inductive JudgmentKind where
  | productDecision | technicalDecision | scopeDecision | sensitiveApproval
  | finalAcceptance | residualRiskAcceptance | cancellation
deriving DecidableEq

def JudgmentKind.userActionKind : JudgmentKind → UserActionKind
  | .productDecision => .productDecision
  | .technicalDecision => .technicalDecision
  | .scopeDecision => .scopeDecision
  | .sensitiveApproval => .sensitiveApproval
  | .finalAcceptance => .finalAcceptance
  | .residualRiskAcceptance => .residualRiskAcceptance
  | .cancellation => .cancellation

def JudgmentKind.authorityBearing : JudgmentKind → Bool
  | .productDecision | .technicalDecision => false
  | _ => true

structure UserActionOptionInput where
  optionId : String
  isDefault : Bool
deriving DecidableEq

structure UserActionChoiceDraft where
  judgmentKind : JudgmentKind
  (question contextSummary : String)
  options : List UserActionOptionInput
  affectedRefs : List StateRecordRef
  sensitiveActionScope : Option SensitiveActionScope
deriving DecidableEq

structure UserActionEvidenceObservationDraft where
  (question contextSummary : String)
  targetCandidates : List EvidenceTarget
  artifactCandidateIds : List String
deriving DecidableEq

inductive UserActionDraft where
  | choice (draft : UserActionChoiceDraft)
  | evidenceObservation (draft : UserActionEvidenceObservationDraft)
deriving DecidableEq

def UserActionDraft.actionKind : UserActionDraft → UserActionKind
  | .choice draft => draft.judgmentKind.userActionKind
  | .evidenceObservation _ => .evidenceObservation

structure ShapingUserActionDraft where
  action : UserActionDraft
  expiresAt : Option UtcTimestamp
deriving DecidableEq

/- Change Units, Write Tickets and Runs. -/

structure ChangeUnitEffectContract where
  (allowedEffects forbiddenEffects : List ChangeUnitEffectKind)
  (allowedPaths expectedOutputs invariants evidenceExpectations : List String)
  sensitiveActionExpectations : List String
deriving DecidableEq

def advisorObserveOnlyEffectContract : ChangeUnitEffectContract where
  allowedEffects := [.artifactRegistration, .userActionRequest, .evidenceUpdate]
  forbiddenEffects :=
    [.productFileWrite, .runRecording, .sensitiveAction, .externalNetwork, .secretAccess]
  allowedPaths := []
  expectedOutputs := []
  invariants := []
  evidenceExpectations := []
  sensitiveActionExpectations := []

def advisorCompatibleChangeUnit (affectedPaths : List String)
    (effectContract : Option ChangeUnitEffectContract) : Bool :=
  affectedPaths.isEmpty && effectContract = some advisorObserveOnlyEffectContract

structure GitWorkspaceContext where
  (gitCommonDir worktreeId : String)
  (branchRef headSha : Option String)
  workspaceFingerprint : String
deriving DecidableEq

structure UserActionResolutionRef where
  (recordId projectId taskId : String)
  producedAtStateVersion : Nat

structure WriteTicketValidityBasis where
  (taskId changeUnitId : String)
  scopeRevision : Nat
  (baselineRef workspaceContextSha256 : Option String)
  writeAuthorityFingerprint : String
  approvalBasisRefs : List UserActionResolutionRef

structure WriteTicketAttemptScope where
  (taskId changeUnitId intendedOperation : String)
  intendedPaths : List ProductRelativePath
  productFileWriteIntended : Bool
  sensitiveCategories : List String
  baselineRef : Option String

structure ObservedChanges where
  changedPaths : List String
  productFileWriteObserved : Bool
  sensitiveCategories : List String
  baselineRef : Option String
deriving DecidableEq

structure SensitiveActionRequirement where
  actionKind : String
  (normalizedPaths sensitiveCategories : List String)
  baselineRef : Option String
  changeUnitId : String
  (sourceRunRef sourceWriteTicketRef : StateRecordRef)

structure ResidualRiskInput where
  (summary consequence : String)
  acceptanceRequired : Bool
  sourceRefs : List StateRecordRef

structure ResidualRisk where
  (riskId summary consequence : String)
  acceptanceRequired : Bool
  sourceRefs : List StateRecordRef

structure CurrentCloseBasis where
  (closeBasisRevision scopeRevision : Nat)
  (taskId changeUnitId : String)
  baselineRef : Option String
  resultSummary : String
  (resultRefs evidenceRefs : List StateRecordRef)
  evidenceSummaryRef : Option StateRecordRef
  residualRisks : List ResidualRisk
  sensitiveCategories : List String
  sensitiveActionRequirements : List SensitiveActionRequirement
  recoveryConstraints : List String
  (sourceRunRef shapingCheckpointRef : Option StateRecordRef)
  shapingDecisionApplicationRefs : List StateRecordRef
  updatedAt : UtcTimestamp

structure PersistedCloseSummary where
  closeReason : CloseReason
  closedAt : Option UtcTimestamp
  intent : Option CloseIntent
  (userNote supersedingTaskId : Option String)
deriving DecidableEq

/-- The summary of an open Task, and the column default of `tasks`. -/
def PersistedCloseSummary.open : PersistedCloseSummary := ⟨.none, none, none, none, none⟩

/- Shaping. -/

inductive ShapingGapKind where
  | goalMissing | scopeBoundaryMissing | nonGoalsMissing | acceptanceCriteriaMissing
  | autonomyBoundaryMissing | implementationBoundaryMissing | baselineMissing
  | userProductDecisionRequired | userTechnicalDecisionRequired | userScopeDecisionRequired
  | sensitiveApprovalRequired
deriving DecidableEq

inductive ShapingGapStatus where
  | current | accepted | rejected | deferred | applied
deriving DecidableEq

inductive ShapingCheckpointReadiness where
  | blocked | ready | superseded
deriving DecidableEq

inductive ShapingDecisionApplicationOwner where
  | updateScope | advanceTask | finalizeAdvice
deriving DecidableEq

def ShapingDecisionApplicationOwner.asStr : ShapingDecisionApplicationOwner → String
  | .updateScope => "volicord.update_scope"
  | .advanceTask => "volicord.advance_task"
  | .finalizeAdvice => "volicord.finalize_advice"

inductive ShapingDecisionApplicationAuthorityStatus where
  | current | stale | superseded
deriving DecidableEq

inductive ShapingAuthorityReauthorizationOutcome where
  | retired | reissued
deriving DecidableEq

structure ShapingDecisionPolicy where
  userActionKind : UserActionKind
  requiredFor : List UserActionRequiredFor
  applicationOwner : ShapingDecisionApplicationOwner
  (changesScopeRevision retainResolutionForDownstream : Bool)

structure ShapingGapInput where
  gapKind : ShapingGapKind
  summary : String
  affectedRefs : List StateRecordRef
  userAction : Option ShapingUserActionDraft
deriving DecidableEq

inductive StaleShapingAuthorityAction where
  | retire (staleApplicationRef : StateRecordRef)
  | reauthorize (staleApplicationRef : StateRecordRef) (successorGap : ShapingGapInput)
deriving DecidableEq

def StaleShapingAuthorityAction.staleApplicationRef : StaleShapingAuthorityAction → StateRecordRef
  | .retire reference | .reauthorize reference _ => reference

def StaleShapingAuthorityAction.outcome :
    StaleShapingAuthorityAction → ShapingAuthorityReauthorizationOutcome
  | .retire _ => .retired
  | .reauthorize _ _ => .reissued

def StaleShapingAuthorityAction.successorGap : StaleShapingAuthorityAction → Option ShapingGapInput
  | .retire _ => none
  | .reauthorize _ gap => some gap

inductive ShapingCheckpointOperation where
  | createInitial
  | replaceCurrent (expectedCurrentCheckpointId : String)
      (retiredNonAuthorizingRequestRefs carryForwardApplicationRefs : List StateRecordRef)
      (staleAuthorityActions : List StaleShapingAuthorityAction)
deriving DecidableEq

def advisorOrWorkRequiredFor : TaskMode → List UserActionRequiredFor
  | .advisor => [.finalizeAdvice]
  | _ => [.advanceTask]

def advisorOrWorkApplicationOwner : TaskMode → ShapingDecisionApplicationOwner
  | .advisor => .finalizeAdvice
  | _ => .advanceTask

/-- The one policy of a user-owned gap, in the mode whose method applies the decision. -/
def ShapingGapKind.decisionPolicyForMode (kind : ShapingGapKind) (mode : TaskMode) :
    Option ShapingDecisionPolicy :=
  match kind with
  | .userProductDecisionRequired => some ⟨.productDecision, advisorOrWorkRequiredFor mode,
      advisorOrWorkApplicationOwner mode, false, false⟩
  | .userTechnicalDecisionRequired => some ⟨.technicalDecision, advisorOrWorkRequiredFor mode,
      advisorOrWorkApplicationOwner mode, false, false⟩
  | .userScopeDecisionRequired => some ⟨.scopeDecision, [.scopeUpdate], .updateScope, true, false⟩
  | .sensitiveApprovalRequired => some ⟨.sensitiveApproval,
      if mode = .advisor then [.finalizeAdvice]
      else [.advanceTask, .prepareWrite, .recordRun, .closeComplete],
      advisorOrWorkApplicationOwner mode, false, true⟩
  | _ => none

/-- `judgment_kind`, as the action kind of the same name. -/
def ShapingGapKind.judgmentKind : ShapingGapKind → Option UserActionKind
  | .userProductDecisionRequired => some .productDecision
  | .userTechnicalDecisionRequired => some .technicalDecision
  | .userScopeDecisionRequired => some .scopeDecision
  | .sensitiveApprovalRequired => some .sensitiveApproval
  | _ => none

def ShapingGapKind.decisionPolicy (kind : ShapingGapKind) : Option ShapingDecisionPolicy :=
  kind.decisionPolicyForMode .work

def ShapingGapKind.isUserOwned (kind : ShapingGapKind) : Bool := kind.decisionPolicy.isSome

end Volicord
