import Volicord.Core.Admission

/-! `write_ticket/` and `policy/effect_contract.rs`: the rules a Write Ticket is issued, reused
and consumed under. -/
namespace Volicord
open Result Sorted

def normalizedStringSet (values : List String) : List String :=
  sortDedup ((values.map Text.trim).filter (!·.isEmpty))

def optionalText : Option String → Json
  | none => .null
  | some text => .str text

def GitWorkspaceContext.toJson (workspace : GitWorkspaceContext) : Json :=
  .obj [("branch_ref", optionalText workspace.branchRef),
    ("git_common_dir", .str workspace.gitCommonDir),
    ("head_sha", optionalText workspace.headSha),
    ("workspace_fingerprint", .str workspace.workspaceFingerprint),
    ("worktree_id", .str workspace.worktreeId)]

/-- The digest of the current Git workspace, `canonical_json_bare_sha256`. -/
def workspaceContextSha256 (X : External) (workspace : Option GitWorkspaceContext) :
    Option String :=
  workspace.map fun workspace => X.sha256Hex (X.json.canonicalJsonString workspace.toJson)

/- `write_ticket/facts.rs` and `policy/effect_contract.rs`. -/

def baselineMatches (changeUnit : ChangeUnitRecord) (task : TaskRecord) (baselineRef : String) :
    Bool :=
  changeUnit.writeBasis.baselineRef = some baselineRef
  && (StoredScope.fromTask task).baselineRef = some baselineRef

def pathsMatchCurrentChangeUnit (intendedPaths : List String) (changeUnit : ChangeUnitRecord) :
    Bool :=
  intendedPaths.isEmpty || (!changeUnit.boundedPaths.isEmpty
    && intendedPaths.all fun path => changeUnit.boundedPaths.any (pathIsWithin path))

inductive EffectContractViolation where
  | fileWriteForbidden | fileWriteNotAllowed | pathNotAllowed

def productWriteViolations (contract : ChangeUnitEffectContract) (productFileWriteIntended : Bool)
    (intendedPaths : List String) : Except ProductPathError (List EffectContractViolation) :=
  if !productFileWriteIntended then .ok []
  else do
    let forbidden := contract.forbiddenEffects.contains .productFileWrite
    let notAllowed := !contract.allowedEffects.isEmpty
      && !contract.allowedEffects.contains .productFileWrite
    let outside ← if contract.allowedPaths.isEmpty || intendedPaths.isEmpty then pure false
      else do
        let allowedPaths ← parseProductPaths contract.allowedPaths
        pure (intendedPaths.any fun path =>
          allowedPaths.all fun allowed => !pathIsWithin path allowed.text)
    return (if forbidden then [.fileWriteForbidden] else [])
      ++ (if notAllowed then [.fileWriteNotAllowed] else [])
      ++ (if outside then [.pathNotAllowed] else [])

/- `write_ticket/approval.rs`. -/

structure WriteTicketApprovalRequirement where
  scopeRevision : Nat
  effectiveControlLevel : TaskControlLevel
  scope : WriteTicketAttemptScope
  observedAt : UtcTimestamp

namespace WriteTicketApprovalRequirement
variable (requirement : WriteTicketApprovalRequirement)

def isRequired : Bool :=
  requirement.effectiveControlLevel = .sensitive
  || !requirement.scope.sensitiveCategories.isEmpty

def sensitiveRequirement : SensitiveApprovalRequirement where
  taskId := requirement.scope.taskId
  changeUnitId := requirement.scope.changeUnitId
  scopeRevision := requirement.scopeRevision
  operation := requirement.scope.intendedOperation
  normalizedPaths := requirement.scope.intendedPaths.map (·.text)
  sensitiveCategories := requirement.scope.sensitiveCategories
  baselineRef := requirement.scope.baselineRef
  requiredFor := .prepareWrite
  now := requirement.observedAt

def isMetBy (authority : StoredUserActionRecordSet) : Bool :=
  authority.request.taskId = requirement.scope.taskId
  && authority.currentSensitiveApproval requirement.sensitiveRequirement

/-- The resolutions of `CurrentSensitiveApprovals`, in the order of their ids. -/
def resolutionIds (authorities : List StoredUserActionRecordSet) : List String :=
  sortDedup ((authorities.filter requirement.isMetBy).filterMap fun authority =>
    authority.resolution.map (·.userActionResolutionId))

def currentBasis (authorities : List StoredUserActionRecordSet) : Option String :=
  (requirement.resolutionIds authorities).head?

def coversRef (projectId : String) (authorities : List StoredUserActionRecordSet)
    (reference : UserActionResolutionRef) : Bool :=
  reference.projectId = projectId && reference.taskId = requirement.scope.taskId
  && (requirement.resolutionIds authorities).contains reference.recordId

end WriteTicketApprovalRequirement

/-- The outcome of an assessment; why a basis changed is not looked at by any caller. -/
inductive WriteTicketApprovalAssessment where
  | notRequired | current | changed
deriving DecidableEq

def assessWriteTicketApproval (projectId : String) (requirement : WriteTicketApprovalRequirement)
    (authorities : List StoredUserActionRecordSet)
    (persistedRefs : List UserActionResolutionRef) : WriteTicketApprovalAssessment :=
  if persistedRefs.isEmpty then
    if requirement.isRequired then .changed else .notRequired
  else if persistedRefs.all (requirement.coversRef projectId authorities) then .current
  else .changed

def CoreTables.resolvedSensitiveApprovals (now : UtcTimestamp) (t : CoreTables) (taskId : String) :
    StoreResult (List StoredUserActionRecordSet) :=
  (t.userActionHistoryForTask now taskId).map fun records => records.filter fun record =>
    record.request.actionKind = .sensitiveApproval && record.status = .resolved

/- `write_ticket/current_validity.rs`. -/

def writeTicketIsIdleExpired (idleExpiresAt : Option UtcTimestamp) (observedAt : UtcTimestamp) :
    Bool :=
  idleExpiresAt.any (· ≤ observedAt)

/-- `evaluate_active_candidate`: why an active ticket is no longer good, if it is not. Both
callers have settled a pending policy reevaluation before. -/
def evaluateActiveCandidate (writeAuthorityFingerprint : String)
    (approval : WriteTicketApprovalAssessment) (ticket : StoredWriteTicket) :
    Option WriteTicketInvalidationReason :=
  if ticket.validityBasis.writeAuthorityFingerprint ≠ writeAuthorityFingerprint then
    some .explicitRevoke
  else if approval = .changed then some .approvalBasisChanged
  else none

/- `write_ticket/admission.rs` and `write_ticket/policy.rs`. -/

inductive WriteTicketInvalidReason where
  | missing | incompatible | consumed | invalidated (reason : WriteTicketInvalidationReason)
  | revoked | workspaceContextMismatch | policyAuthorityMismatch | taskMismatch
  | changeUnitMismatch | scopeRevisionChanged | baselineMismatch | productWriteFlagMismatch
  | operationMismatch | sensitiveCategoryMismatch | pathMismatch | approvalBasisChanged

def WriteTicketInvalidationReason.asStr : WriteTicketInvalidationReason → String
  | .scopeRevisionChanged => "scope_revision_changed"
  | .changeUnitChanged => "change_unit_changed"
  | .baselineChanged => "baseline_changed"
  | .workspaceChanged => "workspace_changed"
  | .approvalBasisChanged => "approval_basis_changed"
  | .idleTimeout => "idle_timeout"
  | .taskClosed => "task_closed"
  | .explicitRevoke => "explicit_revoke"

def WriteTicketInvalidReason.asStr : WriteTicketInvalidReason → String
  | .missing => "missing"
  | .incompatible => "incompatible"
  | .consumed => "consumed"
  | .invalidated reason => reason.asStr
  | .revoked => "revoked"
  | .workspaceContextMismatch => "workspace_context_mismatch"
  | .policyAuthorityMismatch => "policy_authority_mismatch"
  | .taskMismatch => "task_mismatch"
  | .changeUnitMismatch => "change_unit_mismatch"
  | .scopeRevisionChanged => "scope_revision_changed"
  | .baselineMismatch => "baseline_mismatch"
  | .productWriteFlagMismatch => "product_write_flag_mismatch"
  | .operationMismatch => "operation_mismatch"
  | .sensitiveCategoryMismatch => "sensitive_category_mismatch"
  | .pathMismatch => "path_mismatch"
  | .approvalBasisChanged => "approval_basis_changed"

/-- A refused ticket; the details of the response name the reason. -/
def writeTicketInvalid (reason : WriteTicketInvalidReason) (message : String) : CoreError :=
  .rejectedAt .writeTicketInvalid reason.asStr message

/-- `RecordRunWriteAdmission`, with the clock reading and the policy it is judged under. -/
structure RecordRunWriteAdmission where
  (taskId changeUnitId baselineRef : String)
  performedOperation : Option String
  task : TaskRecord
  changeUnit : ChangeUnitRecord
  gitWorkspaceContext : Option GitWorkspaceContext
  observedChanges : ObservedChanges
  writeAuthorityFingerprint : String
  observedAt : UtcTimestamp

inductive StoredWriteTicketStateError where
  | activeLifecycleDetails | missingInvalidationReason | missingConsumingRun
  | unexpectedConsumingRun

def StoredWriteTicketStateError.debug : StoredWriteTicketStateError → String
  | .activeLifecycleDetails => "ActiveLifecycleDetails"
  | .missingInvalidationReason => "MissingInvalidationReason"
  | .missingConsumingRun => "MissingConsumingRun"
  | .unexpectedConsumingRun => "UnexpectedConsumingRun"

def storedTicketStateError (error : StoredWriteTicketStateError) : CoreError :=
  .invariant ("Store-validated Write Ticket could not enter the Core stored type-state family: "
    ++ error.debug)

inductive StoredTicketPreEvaluation where
  | invalidated (reason : WriteTicketInvalidationReason)
  | consumed (runId : String)
  | revoked (reason : WriteTicketInvalidationReason)
  | needsCurrentFacts

def preEvaluateStoredWriteTicket (ticket : StoredWriteTicket) (observedAt : UtcTimestamp) :
    Except StoredWriteTicketStateError StoredTicketPreEvaluation := do
  match ticket.status with
  | .active =>
    ensure (ticket.invalidationReason.isNone && ticket.consumedByRunId.isNone)
      .activeLifecycleDetails
    return if writeTicketIsIdleExpired ticket.idleExpiresAt observedAt
      then .invalidated .idleTimeout
      else .needsCurrentFacts
  | .invalidated =>
    ensure ticket.consumedByRunId.isNone .unexpectedConsumingRun
    return .invalidated (← okOr .missingInvalidationReason ticket.invalidationReason)
  | .consumed =>
    ensure ticket.invalidationReason.isNone .unexpectedConsumingRun
    return .consumed (← okOr .missingConsumingRun ticket.consumedByRunId)
  | .revoked =>
    ensure ticket.consumedByRunId.isNone .unexpectedConsumingRun
    return .revoked (← okOr .missingInvalidationReason ticket.invalidationReason)

def activeRecordRunCandidate (ticket : StoredWriteTicket) (observedAt : UtcTimestamp) :
    CoreResult Unit :=
  let invalidated reason := writeTicketInvalid (.invalidated reason) "write ticket is invalidated"
  match ticket.status with
  | .active => ensure (!writeTicketIsIdleExpired ticket.idleExpiresAt observedAt)
      (invalidated .idleTimeout)
  | .invalidated => .error (ticket.invalidationReason.elim
      (storedTicketStateError .missingInvalidationReason) invalidated)
  | .consumed => .error (writeTicketInvalid .consumed "write ticket is already consumed")
  | .revoked => .error (writeTicketInvalid .revoked "write ticket is revoked")

namespace RecordRunWriteAdmission
variable (admission : RecordRunWriteAdmission)

/-- `run_write_ticket_mismatch`. -/
def checkAttemptScope (scope : WriteTicketAttemptScope) (scopePaths : List String) :
    CoreResult Unit := do
  let changes := admission.observedChanges
  ensure (scope.taskId = admission.taskId) (writeTicketInvalid .taskMismatch
    "write ticket task is not compatible with the recorded run")
  ensure (scope.changeUnitId = admission.changeUnitId) (writeTicketInvalid .changeUnitMismatch
    "write ticket Change Unit is not compatible with the recorded run")
  ensure (scope.productFileWriteIntended = changes.productFileWriteObserved)
    (writeTicketInvalid .productWriteFlagMismatch
      "write ticket product-file intent is not compatible with the recorded run")
  ensure (scope.baselineRef = some admission.baselineRef) (writeTicketInvalid .baselineMismatch
    "write ticket baseline is not compatible with the recorded run")
  let operationRequired := !changes.productFileWriteObserved
    && admission.task.effectiveControlLevel = .sensitive
  ensure (admission.performedOperation.all (· = scope.intendedOperation)
      && (!operationRequired || admission.performedOperation.isSome))
    (writeTicketInvalid .operationMismatch
      "performed operation does not exactly match the write ticket operation")
  ensure (idSetsEqual (normalizedStringSet scope.sensitiveCategories) changes.sensitiveCategories)
    (writeTicketInvalid .sensitiveCategoryMismatch
      "write ticket sensitive categories are not compatible with the recorded run")
  ensure (!changes.productFileWriteObserved || pathsAreAuthorized changes.changedPaths scopePaths)
    (writeTicketInvalid .pathMismatch
      "write ticket paths are not compatible with the recorded run")

variable (X : External) (ticket : StoredWriteTicket)

def validateAttempt : CoreResult Unit := do
  let basis := ticket.validityBasis
  ensure (basis.taskId = admission.taskId) (writeTicketInvalid .taskMismatch
    "write ticket validity basis names another Task")
  ensure (basis.changeUnitId = admission.changeUnitId) (writeTicketInvalid .changeUnitMismatch
    "write ticket validity basis names another Change Unit")
  ensure (basis.scopeRevision = admission.task.scopeRevision)
    (writeTicketInvalid .scopeRevisionChanged "write ticket scope revision is no longer current")
  ensure (basis.baselineRef = some admission.baselineRef) (writeTicketInvalid .baselineMismatch
    "write ticket baseline is no longer current")
  ensure (basis.workspaceContextSha256 = workspaceContextSha256 X admission.gitWorkspaceContext)
    (writeTicketInvalid .workspaceContextMismatch
      "write ticket workspace context is no longer current")
  admission.checkAttemptScope ticket.attemptScope (ticket.pathScope.allowed.map (·.text))
  ensure (!admission.observedChanges.changedPaths.any fun path =>
      ticket.pathScope.denied.any fun denied => pathIsWithin path denied.text)
    (writeTicketInvalid .pathMismatch
      "write ticket denied path prefixes do not cover the recorded run")

def approvalRequirement : WriteTicketApprovalRequirement where
  scopeRevision := admission.task.scopeRevision
  effectiveControlLevel := admission.task.effectiveControlLevel
  scope := ticket.attemptScope
  observedAt := admission.observedAt

/-- `evaluate_record_run_candidate` and `admit_record_run`. -/
def evaluate (context : PlanContext) (t : CoreTables) (ticket : StoredWriteTicket) :
    CoreResult Unit := do
  ensure (workspaceContextMatches admission.changeUnit admission.gitWorkspaceContext)
    (writeTicketInvalid .workspaceContextMismatch
      "current Git workspace context differs from the write ticket Change Unit basis")
  ensure (ticket.validityBasis.writeAuthorityFingerprint = admission.writeAuthorityFingerprint)
    (writeTicketInvalid .policyAuthorityMismatch
      "write ticket policy authority is no longer current")
  admission.validateAttempt X ticket
  let authorities ← fromStore
    (t.resolvedSensitiveApprovals admission.observedAt admission.taskId)
  let approval := assessWriteTicketApproval context.projectId
    (admission.approvalRequirement ticket) authorities ticket.validityBasis.approvalBasisRefs
  ensure (evaluateActiveCandidate admission.writeAuthorityFingerprint approval ticket).isNone
    (writeTicketInvalid .approvalBasisChanged "write ticket approval basis is no longer current")

/- What an admitted ticket has passed. -/

structure AttemptMatches : Prop where
  basisTask : ticket.validityBasis.taskId = admission.taskId
  basisChangeUnit : ticket.validityBasis.changeUnitId = admission.changeUnitId
  basisScopeRevision : ticket.validityBasis.scopeRevision = admission.task.scopeRevision
  basisBaseline : ticket.validityBasis.baselineRef = some admission.baselineRef
  basisWorkspace : ticket.validityBasis.workspaceContextSha256
    = workspaceContextSha256 X admission.gitWorkspaceContext
  scopeTask : ticket.attemptScope.taskId = admission.taskId
  scopeChangeUnit : ticket.attemptScope.changeUnitId = admission.changeUnitId
  scopeWrite : ticket.attemptScope.productFileWriteIntended
    = admission.observedChanges.productFileWriteObserved
  scopeBaseline : ticket.attemptScope.baselineRef = some admission.baselineRef
  scopeOperation : (admission.performedOperation.all (· = ticket.attemptScope.intendedOperation)
    && (!(!admission.observedChanges.productFileWriteObserved
        && admission.task.effectiveControlLevel = .sensitive)
      || admission.performedOperation.isSome)) = true
  scopeCategories : idSetsEqual (normalizedStringSet ticket.attemptScope.sensitiveCategories)
    admission.observedChanges.sensitiveCategories
  pathsAllowed : (!admission.observedChanges.productFileWriteObserved
    || pathsAreAuthorized admission.observedChanges.changedPaths
      (ticket.pathScope.allowed.map (·.text))) = true
  pathsNotDenied : (admission.observedChanges.changedPaths.any fun path =>
    ticket.pathScope.denied.any fun denied => pathIsWithin path denied.text) = false

theorem validateAttempt_eq_ok {X : External} {ticket : StoredWriteTicket} {u : Unit} :
    admission.validateAttempt X ticket = .ok u ↔ admission.AttemptMatches X ticket := by
  simp only [validateAttempt, checkAttemptScope, steps_ok, decide_eq_true_eq, Bool.not_eq_true']
  constructor
  · rintro ⟨h₁, h₂, h₃, h₄, h₅, ⟨h₆, h₇, h₈, h₉, h₁₀, h₁₁, h₁₂⟩, h₁₃⟩
    exact ⟨h₁, h₂, h₃, h₄, h₅, h₆, h₇, h₈, h₉, h₁₀, h₁₁, h₁₂, h₁₃⟩
  · rintro ⟨h₁, h₂, h₃, h₄, h₅, h₆, h₇, h₈, h₉, h₁₀, h₁₁, h₁₂, h₁₃⟩
    exact ⟨h₁, h₂, h₃, h₄, h₅, ⟨h₆, h₇, h₈, h₉, h₁₀, h₁₁, h₁₂⟩, h₁₃⟩

structure Admits (context : PlanContext) (t : CoreTables) (ticket : StoredWriteTicket)
    (authorities : List StoredUserActionRecordSet) : Prop where
  workspace : workspaceContextMatches admission.changeUnit admission.gitWorkspaceContext
  fingerprint : ticket.validityBasis.writeAuthorityFingerprint
    = admission.writeAuthorityFingerprint
  attempt : admission.AttemptMatches X ticket
  resolved : t.resolvedSensitiveApprovals admission.observedAt admission.taskId
    = .ok authorities
  approval : assessWriteTicketApproval context.projectId (admission.approvalRequirement ticket)
    authorities ticket.validityBasis.approvalBasisRefs ≠ .changed

theorem evaluate_eq_ok {X : External} {context : PlanContext} {t : CoreTables}
    {ticket : StoredWriteTicket} {u : Unit} : admission.evaluate X context t ticket = .ok u ↔
    ∃ authorities, admission.Admits X context t ticket authorities := by
  simp only [evaluate, steps_ok, fromStore_eq_ok, decide_eq_true_eq, validateAttempt_eq_ok]
  constructor
  · rintro ⟨hworkspace, hfingerprint, hattempt, authorities, hauthorities, happroval⟩
    refine ⟨authorities, hworkspace, hfingerprint, hattempt, hauthorities, fun hchanged => ?_⟩
    simp [evaluateActiveCandidate, hfingerprint, hchanged] at happroval
  · rintro ⟨authorities, hworkspace, hfingerprint, hattempt, hauthorities, happroval⟩
    refine ⟨hworkspace, hfingerprint, hattempt, authorities, hauthorities, ?_⟩
    simp [evaluateActiveCandidate, hfingerprint, happroval]

end RecordRunWriteAdmission

end Volicord
