import Volicord.Store.Mutations

/-! What every Core method shares: the public errors, the invocation and its verification, and
the envelope of a committed call. -/
namespace Volicord
open Result

inductive ErrorCode where
  | validationFailed | runKindIncompatible | taskPhaseTransitionRequired
  | shapingCheckpointRequired | shapingCheckpointStale | userDecisionUnresolved
  | changeUnitRequired | changeUnitStale | workspaceBasisStale | workflowActionNotAllowed
  | persistedDataCorrupt | stateVersionConflict | invocationContextMismatch | noActiveTask
  | noActiveChangeUnit | baselineStale | scopeRequired | scopeViolation | writeTicketRequired
  | writeTicketInvalid | approvalDenied | approvalExpired | approvalRequired
  | decisionUnresolved | autonomyBoundaryExceeded | decisionRequired | capabilityInsufficient
  | evidenceInsufficient | residualRiskNotVisible | acceptanceRequired | projectionStale
  | artifactMissing | validatorFailed | operationResultUnavailable
deriving DecidableEq

/-- A blocker of a terminal transition. It keeps its code and message; its category, the
records it relates to and the guidance it gives are for the caller to read. -/
structure CloseReadinessBlocker where
  (code message : String)
deriving DecidableEq

/-- Why a method call does not reach its commit: it is refused, a terminal transition is
blocked, or there is nothing to commit. -/
inductive CoreError where
  | blocked (blockers : List CloseReadinessBlocker)
  | readOnly
  | rejected (code : ErrorCode) (message : String)
  | rejectedAt (code : ErrorCode) (field message : String)
  | store (error : StoreError)
  | invariant (detail : String)
deriving DecidableEq

abbrev CoreResult := Except CoreError

def CoreError.validation (field message : String) : CoreError :=
  .rejectedAt .validationFailed field message

def fromStore {α : Type} (result : StoreResult α) : CoreResult α := result.mapError CoreError.store

@[simp] theorem fromStore_eq_ok {α : Type} {result : StoreResult α} {a : α} :
    fromStore result = .ok a ↔ result = .ok a := by
  cases result <;> simp [fromStore, Except.mapError]

def noActiveTaskError : CoreError :=
  .rejected .noActiveTask "a Task is required but no addressed or current Task is available"

inductive InvocationAuthority where
  | localUser
  | agentConnection (connectionId projectId verificationBasis : String)
deriving DecidableEq

def InvocationAuthority.actorSource : InvocationAuthority → ActorSource
  | .localUser => .localUser
  | .agentConnection connectionId _ _ => .agentConnection connectionId

structure InvocationContext where
  projectId : String
  operationCategory : OperationCategory
  authority : InvocationAuthority
  sessionId : Option String
  gitWorkspaceContext : Option GitWorkspaceContext

structure VerifiedInvocationContext where
  projectId : String
  actorSource : ActorSource
  operationCategory : OperationCategory
  (verificationBasis assuranceLevel : String)
  sessionId : Option String
  gitWorkspaceContext : Option GitWorkspaceContext

def invocationContextMismatch (field : String) : CoreError :=
  .rejectedAt .invocationContextMismatch field
    "invocation context does not match Core preflight requirements"

def actorSourceAllowed : OperationCategory → ActorSource → Bool
  | .read, .agentConnection connectionId | .agentWorkflow, .agentConnection connectionId =>
    !Text.isBlank connectionId
  | .read, .localUser | .userOnly, .localUser | .adminLocal, .localUser
  | .localRecovery, .localUser => true
  | _, _ => false

def actorAssuranceLevel : ActorSource → String
  | .agentConnection _ => "agent_connection_cooperative"
  | .localUser => "local_user_channel"
  | .system => "system"

/-- `validate_git_workspace_context`, which also normalizes the head commit. -/
def validateGitWorkspaceContext (workspace : GitWorkspaceContext) :
    CoreResult GitWorkspaceContext := do
  let mismatch field := invocationContextMismatch ("invocation.git_workspace_context." ++ field)
  ensure (!Text.isBlank workspace.gitCommonDir && Text.startsWith workspace.gitCommonDir "/")
    (mismatch "git_common_dir")
  ensure (isCanonicalSha256Digest workspace.worktreeId) (mismatch "worktree_id")
  ensure (workspace.branchRef.all validBranchRef) (mismatch "branch_ref")
  let headSha ← match workspace.headSha with
    | none => pure none
    | some headSha =>
      (okOr (mismatch "head_sha") (canonicalGitObjectId headSha)).map some
  ensure (isCanonicalSha256Digest workspace.workspaceFingerprint)
    (mismatch "workspace_fingerprint")
  return { workspace with headSha := headSha }

def verificationBasis (invocation : InvocationContext) : CoreResult String :=
  match invocation.authority with
  | .localUser => .ok "cli_direct_user_channel"
  | .agentConnection _ projectId basis => do
    ensure (projectId = invocation.projectId)
      (invocationContextMismatch "invocation.validated_agent_session")
    return basis

def deriveVerifiedInvocation (projectId envelopeProjectId : String)
    (invocation : InvocationContext) (required : OperationCategory) :
    CoreResult VerifiedInvocationContext := do
  ensure (envelopeProjectId = invocation.projectId)
    (invocationContextMismatch "envelope.project_id")
  ensure (projectId = invocation.projectId)
    (invocationContextMismatch "project_state.project_id")
  ensure (invocation.operationCategory = required) (.rejectedAt .invocationContextMismatch
    "invocation.operation_category"
    "invocation operation_category does not match the method operation category")
  ensure (actorSourceAllowed required invocation.authority.actorSource)
    (.rejectedAt .invocationContextMismatch "invocation.actor_source"
      "actor_source is not allowed for the method operation category")
  let basis ← verificationBasis invocation
  let workspace ← match invocation.gitWorkspaceContext with
    | none => pure none
    | some workspace => (validateGitWorkspaceContext workspace).map some
  return { projectId := invocation.projectId, actorSource := invocation.authority.actorSource
           operationCategory := required, verificationBasis := basis
           assuranceLevel := actorAssuranceLevel invocation.authority.actorSource
           sessionId := invocation.sessionId
           gitWorkspaceContext := workspace }

/-- A verified caller has the category of the method, and its actor may act in it. -/
theorem deriveVerifiedInvocation_ok {projectId envelopeProjectId : String}
    {invocation : InvocationContext} {required : OperationCategory}
    {verified : VerifiedInvocationContext}
    (h : deriveVerifiedInvocation projectId envelopeProjectId invocation required = .ok verified) :
    invocation.operationCategory = required ∧
      actorSourceAllowed required invocation.authority.actorSource ∧
      verified.actorSource = invocation.authority.actorSource := by
  simp only [deriveVerifiedInvocation, steps_ok, decide_eq_true_eq] at h
  obtain ⟨_, _, hcategory, hallowed, basis, _, h⟩ := h
  refine ⟨hcategory, hallowed, ?_⟩
  cases hworkspace : invocation.gitWorkspaceContext with
  | none =>
    simp only [hworkspace, steps_ok] at h
    obtain ⟨_, _, rfl⟩ := h
    rfl
  | some workspace =>
    simp only [hworkspace, steps_ok] at h
    obtain ⟨_, _, rfl⟩ := h
    rfl

/-- The coordinates a method plans at: the project, the version of the tables it reads, its
clock reading, its verified caller, and the artifacts whose bodies the artifact store shows
unchanged. -/
structure PlanContext where
  projectId : String
  stateVersion : Nat
  now : UtcTimestamp
  invocation : VerifiedInvocationContext
  intactArtifactIds : List String

/-- An id from the generator; it is drawn again while a record has it. -/
def requireFresh (taken : Bool) : CoreResult Unit :=
  ensure (!taken) (.invariant "durable id generator returned an id in use")

theorem requireFresh_eq_ok {taken : Bool} {u : Unit} :
    requireFresh taken = .ok u ↔ taken = false := by
  rw [requireFresh, ensure_eq_ok, Bool.not_eq_true']

end Volicord
