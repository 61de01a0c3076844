import Volicord.Core.WriteTicket

/-! `methods/prepare_write.rs` and `write_ticket/planning.rs`: a write attempt is judged, the
control level of its Task is raised where the policy asks for it, and a ticket is issued or
found. -/
namespace Volicord
open Result

structure PrepareWriteRequest where
  envelope : ToolEnvelope
  (taskId changeUnitId : Option String)
  intendedOperation : String
  intendedPaths : List String
  productFileWriteIntended : Bool
  sensitiveCategories : List String
  baselineRef : String

inductive WriteDecisionCategory where
  | scope | workspace | userAction | sensitiveApproval | writeCompatibility | baseline
  | effectContract

inductive WriteTicketDecisionCode where
  | scopeNotCurrent | pathOutOfScope | sensitiveApprovalMissing | userActionUnresolved
  | baselineMismatch | workspaceContextMismatch | effectContractForbidsProductFileWrite
  | effectContractEffectNotAllowed | effectContractPathNotAllowed | productWriteFlagMismatch
  | compatibleWriteTicketAmbiguous
deriving DecidableEq

/-- A reason against a ticket; the records it relates to are left out. -/
structure WriteTicketDecisionReason where
  category : WriteDecisionCategory
  code : WriteTicketDecisionCode
  message : String

inductive PrepareWriteCandidateEvaluation where
  | incompatible
  | compatible (ticket : StoredWriteTicket)
  | staleApproval (writeTicketId : String)
  | staleWorkspace (writeTicketId : String)
  | stalePolicy (writeTicketId : String)

inductive PlannedWriteTicketError where
  | emptyIdentity (field : String)
  | invalidBasisStateVersion | invalidScopeRevision | emptyOperation
  | invalidAuthorityFingerprint | invalidWorkspaceDigest | taskIdentityMismatch
  | changeUnitIdentityMismatch | scopeRevisionExceedsBasis | baselineMismatch | timestampOrder
  | duplicateIntendedPaths | intendedPathNotAuthorized | productWriteIntentMismatch

/-- The text of its derived `Debug`. -/
def PlannedWriteTicketError.debug : PlannedWriteTicketError → String
  | .emptyIdentity field => "EmptyIdentity(\"" ++ field ++ "\")"
  | .invalidBasisStateVersion => "InvalidBasisStateVersion"
  | .invalidScopeRevision => "InvalidScopeRevision"
  | .emptyOperation => "EmptyOperation"
  | .invalidAuthorityFingerprint => "InvalidAuthorityFingerprint"
  | .invalidWorkspaceDigest => "InvalidWorkspaceDigest"
  | .taskIdentityMismatch => "TaskIdentityMismatch"
  | .changeUnitIdentityMismatch => "ChangeUnitIdentityMismatch"
  | .scopeRevisionExceedsBasis => "ScopeRevisionExceedsBasis"
  | .baselineMismatch => "BaselineMismatch"
  | .timestampOrder => "TimestampOrder"
  | .duplicateIntendedPaths => "DuplicateIntendedPaths"
  | .intendedPathNotAuthorized => "IntendedPathNotAuthorized"
  | .productWriteIntentMismatch => "ProductWriteIntentMismatch"

structure PrepareWriteInput where
  intendedOperation : String
  intendedPaths : List ProductRelativePath
  sensitiveCategories : List String

def PrepareWriteInput.pathTexts (input : PrepareWriteInput) : List String :=
  input.intendedPaths.map (·.text)

structure PrepareWritePolicyDecision where
  task : TaskRecord
  policy : CoreWorkflowPolicy
  controlMutations : List CoreStorageMutation

namespace PrepareWrite

def actionKey : WorkflowActionKey := ⟨.prepareWrite, .prepareWrite⟩

variable (request : PrepareWriteRequest)

def coordinatesMatch : WorkflowActionAuthorityCoordinates → Bool
  | .prepareWrite taskId changeUnitId _ =>
    request.taskId.all (· = taskId) && request.changeUnitId.all (· = changeUnitId)
  | _ => false

def taskRequirement : TaskRequirement :=
  match request.taskId <|> request.envelope.taskId with
  | some taskId => .exact taskId
  | none => .required

/-- Where the paths lead in the file system is left out: `observe_product_paths` asks it after their
texts are parsed. -/
def normalize : CoreResult PrepareWriteInput := do
  ensure (!Text.isBlank request.intendedOperation)
    (.validation "intended_operation" "intended_operation must not be empty")
  let intendedPaths ← (parseProductPaths request.intendedPaths).mapError fun _ =>
    CoreError.validation "intended_paths"
      "intended_paths must be normalized relative Product Repository paths"
  return ⟨Text.trim request.intendedOperation, intendedPaths,
    normalizedStringSet request.sensitiveCategories⟩

/-- The level the attempt asks for, over the level the Task resolves to. -/
def nextControl (policy : CoreWorkflowPolicy) (resolved : TaskControlLevel)
    (input : PrepareWriteInput) : TaskControlLevel :=
  if policy.hasDeniedPath input.pathTexts || !input.sensitiveCategories.isEmpty then .sensitive
  else if resolved = .light && !policy.lightPathsAreAllowed input.pathTexts then .tracked
  else resolved

def nextControlReason (task : TaskRecord) (policy : CoreWorkflowPolicy)
    (resolved : ResolvedTaskControlAuthority) (input : PrepareWriteInput) : String :=
  let next := nextControl policy resolved.effectiveControlLevel input
  if task.effectiveControlLevel < next then
    if policy.hasDeniedPath input.pathTexts then
      "Core raised control to `sensitive` because an intended path matches a denied project-policy prefix."
    else if next = .sensitive then
      "Core raised control to `sensitive` for declared sensitive write effects."
    else if resolved.pendingPolicyReevaluation && next = resolved.effectiveControlLevel then
      resolved.controlLevelReason
    else if task.effectiveControlLevel = .light && next = .tracked then
      "Core raised control to `tracked` because intended paths exceed the Light project policy."
    else resolved.controlLevelReason
  else task.controlLevelReason

variable (X : External)

def decidePolicy (t : CoreTables) (task : TaskRecord) (input : PrepareWriteInput) :
    CoreResult PrepareWritePolicyDecision := do
  ensure (task.mode ≠ .advisor) (.rejected .workflowActionNotAllowed
    "write preparation is not allowed for the current Task mode")
  let policy ← fromStore (t.projectWorkflowPolicy X)
  let resolved := resolveTaskControlAuthority task policy
  ensure (resolved.effectiveControlLevel ≠ .observe)
    (.validation "task_id" "observe control does not permit product write preparation")
  let next := nextControl policy resolved.effectiveControlLevel input
  let nextAcceptance := maxAcceptancePolicy resolved.acceptancePolicy
    (acceptancePolicyForControl next policy)
  let acceptanceRaised : Bool := task.acceptancePolicy.rank < nextAcceptance.rank
  let controlRaised : Bool := task.effectiveControlLevel < next
  let reason := nextControlReason task policy resolved input
  let acceptanceReason :=
    if acceptanceRaised && next = resolved.effectiveControlLevel && resolved.acceptanceRaised then
      resolved.acceptancePolicyReason
    else "Effective control `" ++ next.asStr
      ++ "` requires final acceptance for the current close basis."
  ensure (task.workPhase = .implementation) (.rejected .taskPhaseTransitionRequired
    "write preparation requires work_phase=implementation")
  if controlRaised || acceptanceRaised || resolved.policyReevaluationMarked then
    return {
      policy := policy
      task := { task with
        effectiveControlLevel := next, controlLevelReason := reason
        acceptancePolicy := if acceptanceRaised then nextAcceptance else task.acceptancePolicy
        acceptancePolicyReason :=
          if acceptanceRaised then acceptanceReason else task.acceptancePolicyReason }
      controlMutations := [.task (.updateControlLevel
        { taskId := task.taskId, effectiveControlLevel := next, controlLevelReason := reason
          acceptancePolicy := if acceptanceRaised then some nextAcceptance else none
          acceptancePolicyReason := if acceptanceRaised then some acceptanceReason else none })] }
  else return ⟨task, policy, []⟩

def reasonIf (condition : Bool) (category : WriteDecisionCategory)
    (code : WriteTicketDecisionCode) (message : String) : List WriteTicketDecisionReason :=
  if condition then [⟨category, code, message⟩] else []

def effectContractReason : EffectContractViolation → WriteTicketDecisionReason
  | .fileWriteForbidden => ⟨.effectContract, .effectContractForbidsProductFileWrite,
      "The current Change Unit effect contract forbids product-file writes."⟩
  | .fileWriteNotAllowed => ⟨.effectContract, .effectContractEffectNotAllowed,
      "The current Change Unit effect contract does not allow product-file writes."⟩
  | .pathNotAllowed => ⟨.effectContract, .effectContractPathNotAllowed,
      "One or more intended paths are outside the current Change Unit effect contract allowed paths."⟩

variable (context : PlanContext)

/-- The reasons that the scope, the workspace, the baseline and the Change Unit give. -/
def scopeReasons (t : CoreTables) (task : TaskRecord) (changeUnit : ChangeUnitRecord)
    (request : PrepareWriteRequest) (input : PrepareWriteInput) :
    CoreResult (List WriteTicketDecisionReason) := do
  let violations ← match changeUnit.effectContract with
    | none => pure []
    | some contract =>
      (productWriteViolations contract request.productFileWriteIntended input.pathTexts).mapError
        fun _ => CoreError.invariant ("typed Change Unit `" ++ changeUnit.changeUnitId
          ++ "` has an internally inconsistent effect contract")
  return reasonIf (t.activeTaskId.any (· ≠ task.taskId)) .scope .scopeNotCurrent
      "The addressed Task is not the current Task."
    ++ reasonIf (request.changeUnitId.any (· ≠ changeUnit.changeUnitId)) .scope .scopeNotCurrent
      "The addressed Change Unit is not the current Change Unit."
    ++ reasonIf (request.productFileWriteIntended = input.intendedPaths.isEmpty)
      .writeCompatibility .productWriteFlagMismatch
      "product_file_write_intended must match the intended Product Repository paths."
    ++ reasonIf (!workspaceContextMatches changeUnit context.invocation.gitWorkspaceContext)
      .workspace .workspaceContextMismatch
      "The current Git workspace does not match the Change Unit baseline context."
    ++ reasonIf (!baselineMatches changeUnit task request.baselineRef) .baseline .baselineMismatch
      "baseline_ref does not match the current write-compatibility basis."
    ++ reasonIf (!pathsMatchCurrentChangeUnit input.pathTexts changeUnit) .scope .pathOutOfScope
      "One or more intended paths are outside the current Change Unit path scope."
    ++ violations.map effectContractReason

/-- The paths are kept as texts up to here and parsed once more. -/
def typedProductPaths (paths : List String) : CoreResult (List ProductRelativePath) :=
  (parseProductPaths paths).mapError fun error => CoreError.invariant
    ("a normalized Product Repository path became invalid before persistence: " ++ error.reason)

theorem typedProductPaths_texts (paths : List ProductRelativePath) :
    typedProductPaths (paths.map (·.text)) = .ok paths := by
  rw [typedProductPaths, parseProductPaths_texts]
  rfl

def attemptScope (input : PrepareWriteInput) (taskId changeUnitId : String) :
    WriteTicketAttemptScope where
  taskId := taskId
  changeUnitId := changeUnitId
  intendedOperation := input.intendedOperation
  intendedPaths := input.intendedPaths
  productFileWriteIntended := request.productFileWriteIntended
  sensitiveCategories := input.sensitiveCategories
  baselineRef := some request.baselineRef

def pendingBlocks (operation : UserActionOperationContext) (record : StoredUserActionRecordSet) :
    Bool :=
  record.blocksOperation operation
  || (record.status = .pending && record.hasCurrentBasis
    && record.request.taskId = operation.taskId
    && record.request.requiredFor.any fun requiredFor =>
      requiredFor ∈ [.scopeUpdate, .advanceTask, .prepareWrite])

def operationContext (task : TaskRecord) (changeUnitId : String)
    (requirement : WriteTicketApprovalRequirement) : UserActionOperationContext where
  operation := .prepareWrite
  taskId := task.taskId
  changeUnitId := some changeUnitId
  scopeRevision := task.scopeRevision
  closeBasis := none
  operationRefs := [stateRef .task task.taskId context.projectId (some task.taskId) none,
    stateRef .changeUnit changeUnitId context.projectId (some task.taskId) none]
  sensitiveApproval :=
    if requirement.isRequired then some requirement.sensitiveRequirement else none

/-- `evaluate_prepare_write_candidate`, for a ticket that is not idle. -/
def evaluateCandidate (required : WriteTicketValidityBasis) (scope : WriteTicketAttemptScope)
    (approvalRequired : Bool) (approval : WriteTicketApprovalAssessment)
    (ticket : StoredWriteTicket) : PrepareWriteCandidateEvaluation :=
  let basis := ticket.validityBasis
  let candidate := ticket.attemptScope
  let evaluated := evaluateActiveCandidate required.writeAuthorityFingerprint approval ticket
  if evaluated = some .explicitRevoke then .stalePolicy ticket.writeTicketId
  else if approvalRequired && candidate.intendedOperation ≠ scope.intendedOperation then
    .incompatible
  else if basis.taskId ≠ required.taskId || basis.changeUnitId ≠ required.changeUnitId
    || basis.scopeRevision ≠ required.scopeRevision || basis.baselineRef ≠ required.baselineRef then
    .incompatible
  else if candidate.taskId ≠ scope.taskId || candidate.changeUnitId ≠ scope.changeUnitId
    || candidate.productFileWriteIntended ≠ scope.productFileWriteIntended
    || candidate.baselineRef ≠ scope.baselineRef
    || !scope.sensitiveCategories.all candidate.sensitiveCategories.contains then .incompatible
  else if !scope.intendedPaths.all fun path =>
      ticket.pathScope.allowed.any path.isWithin && !ticket.pathScope.denied.any path.isWithin then
    .incompatible
  else if basis.workspaceContextSha256 ≠ required.workspaceContextSha256 then
    .staleWorkspace ticket.writeTicketId
  else match evaluated with
    | none => .compatible ticket
    | some .approvalBasisChanged => .staleApproval ticket.writeTicketId
    | some _ => .stalePolicy ticket.writeTicketId

/-- The loop over the active tickets; one whose life is over already is not compatible. -/
def evaluateCandidates (t : CoreTables) (task : TaskRecord)
    (authorities : List StoredUserActionRecordSet) (required : WriteTicketValidityBasis)
    (scope : WriteTicketAttemptScope) (approvalRequired : Bool) :
    CoreResult (List PrepareWriteCandidateEvaluation) :=
  (t.activeWriteTickets task.taskId).mapM fun ticket => do
    match ← (preEvaluateStoredWriteTicket ticket context.now).mapError storedTicketStateError with
    | .needsCurrentFacts =>
      let requirement : WriteTicketApprovalRequirement :=
        ⟨task.scopeRevision, task.effectiveControlLevel, ticket.attemptScope, context.now⟩
      return evaluateCandidate required scope approvalRequired
        (assessWriteTicketApproval context.projectId requirement authorities
          ticket.validityBasis.approvalBasisRefs) ticket
    | _ => return .incompatible

def compatibleTickets (candidates : List PrepareWriteCandidateEvaluation) :
    List StoredWriteTicket :=
  candidates.filterMap fun
    | .compatible ticket => some ticket
    | _ => none

/-- The invalidation of the stale tickets, kind by kind and each in the order of the ids. -/
def staleMutations (candidates : List PrepareWriteCandidateEvaluation) :
    List CoreStorageMutation :=
  let invalidate (reason : WriteTicketInvalidationReason)
      (select : PrepareWriteCandidateEvaluation → Option String) : List CoreStorageMutation :=
    ((candidates.filterMap select).insertionSort (· ≤ ·)).map fun writeTicketId =>
      .writeTicket (.invalidateById writeTicketId reason)
  invalidate .approvalBasisChanged (fun
      | .staleApproval writeTicketId => some writeTicketId
      | _ => none)
    ++ invalidate .workspaceChanged (fun
      | .staleWorkspace writeTicketId => some writeTicketId
      | _ => none)
    ++ invalidate .explicitRevoke (fun
      | .stalePolicy writeTicketId => some writeTicketId
      | _ => none)

def pathScopeError : WriteTicketPathScopeError → String
  | .duplicateAllowedPath => "duplicate allowed path"
  | .duplicateDeniedPath => "duplicate denied path"
  | .allowedDeniedOverlap => "allowed/denied path overlap"

def pathScope (allowed denied : List ProductRelativePath) : CoreResult WriteTicketPathScope :=
  (WriteTicketPathScope.new allowed denied).mapError fun error => CoreError.invariant
    ("prepare-write path facts are internally inconsistent: " ++ pathScopeError error)

/-- `denied_write_ticket_paths`: all of them or none. -/
def deniedPaths (reasons : List WriteTicketDecisionReason) (paths : List ProductRelativePath) :
    List ProductRelativePath :=
  if reasons.any fun reason => reason.code ∈ [.pathOutOfScope, .effectContractPathNotAllowed,
      .effectContractForbidsProductFileWrite, .effectContractEffectNotAllowed]
  then paths else []

def idleExpiresAt (policy : CoreWorkflowPolicy) (now : UtcTimestamp) : Option UtcTimestamp :=
  policy.settings.writeTicketIdleTimeoutMinutes.map fun (minutes : Nat) =>
    now + minutes * (60 * 1000000000)

def issuedTicket (ticketId : String) (required : WriteTicketValidityBasis)
    (scope : WriteTicketAttemptScope) (paths : WriteTicketPathScope) (policy : CoreWorkflowPolicy)
    (approval : Option String) : WriteTicketInsert where
  writeTicketId := ticketId
  taskId := required.taskId
  changeUnitId := required.changeUnitId
  validityBasis := { required with
    approvalBasisRefs := approval.toList.map fun resolutionId =>
      ⟨resolutionId, context.projectId, required.taskId, context.stateVersion⟩ }
  pathScope := paths
  attemptScope := scope
  createdByActorSource := context.invocation.actorSource
  createdByUserActionResolutionId := approval
  idleExpiresAt := idleExpiresAt policy context.now
  createdAt := context.now

/-- The range checks on the idle timeout. `chrono` keeps a span in the milliseconds of an `i64` and
panics for more minutes than fit, which ends the plan like a broken invariant. -/
def checkIdleTimeout (policy : CoreWorkflowPolicy) (now : UtcTimestamp) : CoreResult Unit :=
  match policy.settings.writeTicketIdleTimeoutMinutes with
  | none => .ok ()
  | some minutes => do
    ensure (minutes < 2 ^ 63) (.store (.invalidInput
      "workflow write-ticket idle timeout is outside the supported range"))
    ensure (minutes * 60000 < 2 ^ 63) (.invariant "TimeDelta::minutes out of bounds")
    ensure ((idleExpiresAt policy now).all X.chrono.ensureCanonicalRfc3339Representable)
      (.store (.invalidInput
        "derived write-ticket idle timeout exceeds the supported timestamp range"))

def validatePlanned (projectId : String) (basisStateVersion : Nat) (ticket : WriteTicketInsert) :
    Except PlannedWriteTicketError Unit := do
  let basis := ticket.validityBasis
  let scope := ticket.attemptScope
  ensure (!Text.isBlank projectId) (.emptyIdentity "project_id")
  ensure (!Text.isBlank basis.taskId) (.emptyIdentity "task_id")
  ensure (!Text.isBlank basis.changeUnitId) (.emptyIdentity "change_unit_id")
  ensure (!Text.isBlank ticket.writeTicketId) (.emptyIdentity "write_ticket_id")
  ensure (ticket.createdByUserActionResolutionId.all (!Text.isBlank ·))
    (.emptyIdentity "created_by_user_action_resolution_id")
  ensure (basisStateVersion ≠ 0) .invalidBasisStateVersion
  ensure (basis.scopeRevision ≠ 0) .invalidScopeRevision
  ensure (!Text.isBlank scope.intendedOperation) .emptyOperation
  ensure (isCanonicalSha256Digest basis.writeAuthorityFingerprint) .invalidAuthorityFingerprint
  ensure (basis.workspaceContextSha256.all isCanonicalSha256Hex) .invalidWorkspaceDigest
  ensure (basis.taskId = scope.taskId) .taskIdentityMismatch
  ensure (basis.changeUnitId = scope.changeUnitId) .changeUnitIdentityMismatch
  ensure (basis.scopeRevision ≤ basisStateVersion) .scopeRevisionExceedsBasis
  ensure (basis.baselineRef = scope.baselineRef) .baselineMismatch
  ensure (ticket.idleExpiresAt.all (ticket.createdAt < ·)
      && X.chrono.ensureCanonicalRfc3339Representable ticket.createdAt
      && ticket.idleExpiresAt.all X.chrono.ensureCanonicalRfc3339Representable) .timestampOrder
  ensure scope.intendedPaths.Nodup .duplicateIntendedPaths
  ensure (scope.intendedPaths.all fun intended =>
      ticket.pathScope.allowed.any intended.isWithin
      && !ticket.pathScope.denied.any intended.isWithin) .intendedPathNotAuthorized
  ensure (scope.productFileWriteIntended = !scope.intendedPaths.isEmpty)
    .productWriteIntentMismatch

def materialize (ticket : WriteTicketInsert) : CoreResult Unit :=
  (validatePlanned X context.projectId (context.stateVersion + 1) ticket).mapError fun error =>
    CoreError.invariant ("planned Write Ticket is internally inconsistent: " ++ error.debug)

/-- The event of the commit and the ticket it inserts, if it issues one. -/
def ticketEffect (t : CoreTables) (ticketId : String) (required : WriteTicketValidityBasis)
    (scope : WriteTicketAttemptScope) (policy : CoreWorkflowPolicy) (approval : Option String)
    (reasons : List WriteTicketDecisionReason) (compatible : List StoredWriteTicket) :
    CoreResult (String × List CoreStorageMutation) :=
  match compatible, reasons with
  | [_], [] => .ok ("write_ticket_reused", [])
  | [], [] => do
    checkIdleTimeout X policy context.now
    let paths ← pathScope scope.intendedPaths []
    requireFresh (t.writeTickets.find? ticketId).isSome
    let ticket := issuedTicket context ticketId required scope paths policy approval
    materialize X context ticket
    return ("write_ticket_issued", [.writeTicket (.insert ticket)])
  | _, _ => do
    let denied := deniedPaths reasons scope.intendedPaths
    let _ ← pathScope (scope.intendedPaths.filter (!denied.contains ·)) denied
    return ("write_decision_recorded", [])

def plan (t : CoreTables) (taskId : String) (request : PrepareWriteRequest) (ticketId : String)
    (admitted : AdmittedTransition) : CoreResult OperationPlan := do
  let task ← fromStore (t.taskRecord context.projectId taskId)
  let task ← okOr noActiveTaskError task
  let changeUnit ← fromStore (t.currentChangeUnit taskId)
  let authority ← fromStore (taskWideShapingAuthority X request.envelope.projectId
    context.stateVersion context.now t task changeUnit)
  ensure (!authority.blocksAdvanceApplication && authority.acceptedUnapplied.isEmpty)
    (.rejected .userDecisionUnresolved
      "write preparation requires a current progressable shaping authority graph")
  let input ← normalize request
  let changeUnit ← okOr (.rejected .changeUnitRequired
    "write preparation requires a current Change Unit") changeUnit
  let decision ← decidePolicy X t task input
  let task := decision.task
  let reasons ← scopeReasons context t task changeUnit request input
  let intendedPaths ← typedProductPaths input.pathTexts
  let scope := attemptScope request { input with intendedPaths := intendedPaths } taskId
    changeUnit.changeUnitId
  let requirement : WriteTicketApprovalRequirement :=
    ⟨task.scopeRevision, task.effectiveControlLevel, scope, context.now⟩
  let pending ← fromStore (t.pendingUserActions context.now taskId)
  let pendingReasons := reasonIf
    (pending.any (pendingBlocks
      (operationContext context task changeUnit.changeUnitId requirement)))
    .userAction .userActionUnresolved
    "A user action required before write preparation remains unresolved."
  let authorities ← fromStore (t.resolvedSensitiveApprovals context.now taskId)
  let approval := requirement.currentBasis authorities
  let required : WriteTicketValidityBasis :=
    { taskId := taskId, changeUnitId := changeUnit.changeUnitId
      scopeRevision := task.scopeRevision, baselineRef := some request.baselineRef
      workspaceContextSha256 := workspaceContextSha256 X context.invocation.gitWorkspaceContext
      writeAuthorityFingerprint := decision.policy.writeAuthorityFingerprint
      approvalBasisRefs := [] }
  let candidates ← evaluateCandidates context t task authorities required scope
    requirement.isRequired
  let compatible := compatibleTickets candidates
  -- a compatible ticket carries the approval it was issued with
  let approvalReasons := reasonIf
    (requirement.isRequired && approval.isNone && compatible.isEmpty)
    .sensitiveApproval .sensitiveApprovalMissing
    "A matching sensitive-action approval is required before write ticket issuance."
  let ambiguousReasons := reasonIf (decide (1 < compatible.length)) .writeCompatibility
    .compatibleWriteTicketAmbiguous
    "Multiple compatible active write tickets prevent authority selection."
  let (eventKind, ticketMutations) ← ticketEffect X context t ticketId required scope
    decision.policy approval (reasons ++ pendingReasons ++ approvalReasons ++ ambiguousReasons)
    compatible
  return {
    taskId := taskId, changeUnitId := some changeUnit.changeUnitId, eventKind := eventKind
    descriptor := some admitted.descriptor
    mutations := decision.controlMutations ++ staleMutations candidates ++ ticketMutations }

/-- Everything a call has read and judged when it comes to the ticket. -/
structure Judged (t : CoreTables) (taskId : String) (request : PrepareWriteRequest) where
  stored : TaskRecord
  changeUnit : ChangeUnitRecord
  authority : TaskWideShapingAuthority
  input : PrepareWriteInput
  decision : PrepareWritePolicyDecision
  reasons : List WriteTicketDecisionReason
  (pending authorities : List StoredUserActionRecordSet)
  record : t.taskRecord context.projectId taskId = .ok (some stored)
  unit : t.currentChangeUnit taskId = .ok (some changeUnit)
  authorityRead : taskWideShapingAuthority X request.envelope.projectId context.stateVersion
    context.now t stored (some changeUnit) = .ok authority
  progressable : (!authority.blocksAdvanceApplication && authority.acceptedUnapplied.isEmpty)
    = true
  normalized : normalize request = .ok input
  decided : decidePolicy X t stored input = .ok decision
  reasoned : scopeReasons context t decision.task changeUnit request input = .ok reasons
  pendingRead : t.pendingUserActions context.now taskId = .ok pending
  authoritiesRead : t.resolvedSensitiveApprovals context.now taskId = .ok authorities

namespace Judged
variable {X} {context} {t : CoreTables} {taskId : String} {request}
  (judged : Judged X context t taskId request)

def scope : WriteTicketAttemptScope :=
  attemptScope request judged.input taskId judged.changeUnit.changeUnitId

def requirement : WriteTicketApprovalRequirement :=
  ⟨judged.decision.task.scopeRevision, judged.decision.task.effectiveControlLevel, judged.scope,
    context.now⟩

def approval : Option String := judged.requirement.currentBasis judged.authorities

def required : WriteTicketValidityBasis where
  taskId := taskId
  changeUnitId := judged.changeUnit.changeUnitId
  scopeRevision := judged.decision.task.scopeRevision
  baselineRef := some request.baselineRef
  workspaceContextSha256 := workspaceContextSha256 X context.invocation.gitWorkspaceContext
  writeAuthorityFingerprint := judged.decision.policy.writeAuthorityFingerprint
  approvalBasisRefs := []

def evaluation (ticket : StoredWriteTicket) : PrepareWriteCandidateEvaluation :=
  evaluateCandidate judged.required judged.scope judged.requirement.isRequired
    (assessWriteTicketApproval context.projectId ⟨judged.decision.task.scopeRevision,
      judged.decision.task.effectiveControlLevel, ticket.attemptScope, context.now⟩
      judged.authorities ticket.validityBasis.approvalBasisRefs) ticket

def candidates : List PrepareWriteCandidateEvaluation :=
  (t.activeWriteTickets judged.decision.task.taskId).map fun ticket =>
    if writeTicketIsIdleExpired ticket.idleExpiresAt context.now then .incompatible
    else judged.evaluation ticket

/-- What the loop gives when every active ticket enters the type-state family. -/
theorem candidates_eq (h : ∀ ticket ∈ t.activeWriteTickets judged.decision.task.taskId,
    ∃ found, preEvaluateStoredWriteTicket ticket context.now = .ok found) :
    evaluateCandidates context t judged.decision.task judged.authorities judged.required
      judged.scope judged.requirement.isRequired = .ok judged.candidates := by
  refine mapM_eq_map fun ticket hticket => ?_
  obtain ⟨found, hfound⟩ := h ticket hticket
  have hactive : ticket.status = .active := by
    simpa using (Bool.and_eq_true_iff.mp (List.mem_filter.mp hticket).2).2
  have hkind := hfound
  simp only [preEvaluateStoredWriteTicket, hactive, steps_ok] at hkind
  rw [hfound, ← hkind.2]
  cases writeTicketIsIdleExpired ticket.idleExpiresAt context.now <;> rfl

theorem candidates_of_ok {candidates : List PrepareWriteCandidateEvaluation}
    (h : evaluateCandidates context t judged.decision.task judged.authorities judged.required
      judged.scope judged.requirement.isRequired = .ok candidates) :
    candidates = judged.candidates := by
  refine Except.ok.inj (h.symm.trans (judged.candidates_eq fun ticket hticket => ?_))
  obtain ⟨_, _, h⟩ := exists_of_forall₂ (mapM_eq_ok.mp h).flip ticket hticket
  simp only [steps_ok, mapError_eq_ok] at h
  obtain ⟨found, hfound, _⟩ := h
  exact ⟨found, hfound⟩

def compatible : List StoredWriteTicket := compatibleTickets judged.candidates

def against : List WriteTicketDecisionReason :=
  judged.reasons
    ++ reasonIf (judged.pending.any (pendingBlocks (operationContext context judged.decision.task
        judged.changeUnit.changeUnitId judged.requirement))) .userAction .userActionUnresolved
      "A user action required before write preparation remains unresolved."
    ++ reasonIf (judged.requirement.isRequired && judged.approval.isNone
        && judged.compatible.isEmpty) .sensitiveApproval .sensitiveApprovalMissing
      "A matching sensitive-action approval is required before write ticket issuance."
    ++ reasonIf (decide (1 < judged.compatible.length)) .writeCompatibility
      .compatibleWriteTicketAmbiguous
      "Multiple compatible active write tickets prevent authority selection."

def effect (ticketId : String) : CoreResult (String × List CoreStorageMutation) :=
  ticketEffect X context t ticketId judged.required judged.scope judged.decision.policy
    judged.approval judged.against judged.compatible

end Judged

structure Accepted (t : CoreTables) (taskId : String) (request : PrepareWriteRequest)
    (ticketId : String) extends Judged X context t taskId request where
  eventKind : String
  ticketMutations : List CoreStorageMutation
  effect : toJudged.effect ticketId = .ok (eventKind, ticketMutations)

def Accepted.plan {X context t taskId request ticketId}
    (accepted : Accepted X context t taskId request ticketId) (admitted : AdmittedTransition) :
    OperationPlan where
  taskId := taskId
  changeUnitId := some accepted.changeUnit.changeUnitId
  eventKind := accepted.eventKind
  descriptor := some admitted.descriptor
  mutations := accepted.decision.controlMutations ++ staleMutations accepted.candidates
    ++ accepted.ticketMutations

theorem plan_ok {X : External} {context : PlanContext} {t : CoreTables} {taskId : String}
    {request : PrepareWriteRequest} {ticketId : String} {admitted : AdmittedTransition}
    {result : OperationPlan} (h : plan X context t taskId request ticketId admitted = .ok result) :
    ∃ accepted : Accepted X context t taskId request ticketId, result = accepted.plan admitted := by
  simp only [plan, steps_ok, fromStore_eq_ok] at h
  obtain ⟨_, hrecord, task, rfl, _, hunit, authority, hauthority, hprogress, input, hinput,
    changeUnit, rfl, decision, hdecision, reasons, hreasons, paths, hpaths, pending, hpending,
    authorities, hauthorities, candidates, hcandidates, ⟨eventKind, ticketMutations⟩, heffect,
    rfl⟩ := h
  obtain rfl := Except.ok.inj ((typedProductPaths_texts _).symm.trans hpaths)
  let judged : Judged X context t taskId request := ⟨task, changeUnit, authority, input, decision,
    reasons, pending, authorities, hrecord, hunit, hauthority, hprogress, hinput, hdecision,
    hreasons, hpending, hauthorities⟩
  obtain rfl := judged.candidates_of_ok hcandidates
  exact ⟨⟨judged, eventKind, ticketMutations, heffect⟩, rfl⟩

end PrepareWrite
end Volicord
