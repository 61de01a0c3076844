import Volicord.Core.Methods.CloseTask
import Volicord.Core.Methods.Intake
import Volicord.Core.Methods.PrepareEvidenceCapture
import Volicord.Core.Methods.PrepareWrite
import Volicord.Core.Methods.Progression
import Volicord.Core.Methods.ReconcileChanges
import Volicord.Core.Methods.RecordRun
import Volicord.Core.Methods.RecordShaping
import Volicord.Core.Methods.UpdateScope
import Volicord.Core.Methods.UserAction
import Volicord.Store.System

/-! Core over one project database: any number of callers prepare method calls on what they
read and commit them later. A call plans on the tables of its state version and commits only
while that version is still the current one. -/
namespace Volicord
open Result Transaction Relational

/-- A call of a committing method: its request and the durable ids it is given. -/
inductive CoreMethodCall where
  | intake (request : IntakeRequest) (ids : IntakeIds)
  | updateScope (request : UpdateScopeRequest) (ids : UpdateScopeIds)
  | recordShapingCheckpoint (request : RecordShapingCheckpointRequest) (ids : RecordShapingIds)
  | advanceTask (request : AdvanceTaskRequest)
  | finalizeAdvice (request : FinalizeAdviceRequest) (riskIds : List String)
  | prepareEvidenceCapture (request : PrepareEvidenceCaptureRequest) (intentId : String)
  | prepareWrite (request : PrepareWriteRequest) (ticketId : String)
  | recordRun (request : RecordRunRequest) (ids : RecordRunIds)
  | requestUserAction (request : RequestUserActionRequest) (requestId : String)
  | resolveUserAction (request : ResolveUserActionRequest) (resolutionId : String)
  | reconcileChanges (request : ReconcileChangesRequest) (requestIds : List String)
  | closeTask (request : CloseTaskRequest)

namespace CoreMethodCall

def method : CoreMethodCall → MethodName
  | .intake .. => .intake
  | .updateScope .. => .updateScope
  | .recordShapingCheckpoint .. => .recordShapingCheckpoint
  | .advanceTask .. => .advanceTask
  | .finalizeAdvice .. => .finalizeAdvice
  | .prepareEvidenceCapture .. => .prepareEvidenceCapture
  | .prepareWrite .. => .prepareWrite
  | .recordRun .. => .recordRun
  | .requestUserAction .. => .requestUserAction
  | .resolveUserAction .. => .resolveUserAction
  | .reconcileChanges .. => .reconcileChanges
  | .closeTask .. => .closeTask

def envelope : CoreMethodCall → ToolEnvelope
  | .intake request _ => request.envelope
  | .updateScope request _ => request.envelope
  | .recordShapingCheckpoint request _ => request.envelope
  | .advanceTask request => request.envelope
  | .finalizeAdvice request _ => request.envelope
  | .prepareEvidenceCapture request _ => request.envelope
  | .prepareWrite request _ => request.envelope
  | .recordRun request _ => request.envelope
  | .requestUserAction request _ => request.envelope
  | .resolveUserAction request _ => request.envelope
  | .reconcileChanges request _ => request.envelope
  | .closeTask request => request.envelope

/-- The operation category of the method policy; reconciliation follows its caller. -/
def operationCategory (invoked : OperationCategory) : CoreMethodCall → OperationCategory
  | .resolveUserAction .. => .userOnly
  | .reconcileChanges .. => ReconcileChanges.operationCategory invoked
  | _ => .agentWorkflow

def taskRequirement : CoreMethodCall → TaskRequirement
  | .intake .. | .resolveUserAction .. => .none
  | .prepareWrite request _ => PrepareWrite.taskRequirement request
  | .updateScope request _ => .exact request.taskId
  | .recordShapingCheckpoint request _ => .exact request.taskId
  | .advanceTask request => .exact request.taskId
  | .finalizeAdvice request _ => .exact request.taskId
  | .prepareEvidenceCapture request _ => .exact request.taskId
  | .recordRun request _ => .exact request.taskId
  | .requestUserAction request _ => .exact request.taskId
  | .reconcileChanges request _ => .exact request.taskId
  | .closeTask request => .exact request.taskId

/-- The Task of the envelope, where it is given, is the Task of the request. -/
def envelopeTaskMatches (envelope : ToolEnvelope) (taskId field request : String) :
    CoreResult Unit :=
  ensure (envelope.taskId.all (· = taskId))
    (.validation field ("envelope.task_id must match " ++ request ++ ".task_id"))

def envelopeTaskRequired (envelope : ToolEnvelope) (message : String) : CoreResult Unit :=
  ensure envelope.taskId.isSome (.validation "envelope.task_id" message)

/-- The checks of a method in front of the pipeline. -/
def validateRequest : CoreMethodCall → CoreResult Unit
  | .intake .. | .resolveUserAction .. => .ok ()
  | .prepareWrite request _ =>
    ensure (match request.envelope.taskId, request.taskId with
        | some envelopeTask, some requestTask => envelopeTask = requestTask
        | _, _ => true)
      (.validation "task_id" "envelope.task_id must match PrepareWriteRequest.task_id")
  | .updateScope request _ =>
    envelopeTaskMatches request.envelope request.taskId "task_id" "UpdateScopeRequest"
  | .recordShapingCheckpoint request _ =>
    envelopeTaskMatches request.envelope request.taskId "task_id" "RecordShapingCheckpointRequest"
  | .advanceTask request =>
    envelopeTaskMatches request.envelope request.taskId "task_id" "AdvanceTaskRequest"
  | .finalizeAdvice request _ =>
    envelopeTaskMatches request.envelope request.taskId "task_id" "FinalizeAdviceRequest"
  | .prepareEvidenceCapture request _ =>
    envelopeTaskMatches request.envelope request.taskId "task_id" "PrepareEvidenceCaptureRequest"
  | .recordRun request _ =>
    envelopeTaskMatches request.envelope request.taskId "task_id" "RecordRunRequest"
  | .requestUserAction request _ =>
    envelopeTaskMatches request.envelope request.taskId "envelope.task_id"
      "RequestUserActionRequest"
  | .reconcileChanges request _ => do
    envelopeTaskRequired request.envelope
      "reconcile_changes requires envelope.task_id to identify the Task"
    envelopeTaskMatches request.envelope request.taskId "task_id" "ReconcileChangesRequest"
  | .closeTask request => do
    CloseTask.validateIntentFields request
    envelopeTaskRequired request.envelope
      "close_task requires envelope.task_id to identify the Task being closed"
    envelopeTaskMatches request.envelope request.taskId "task_id" "CloseTaskRequest"

def actionNotAllowed (_ : WorkflowActionAuthorityCoordinates) : ErrorCode :=
  .workflowActionNotAllowed

/-- The plan of a call: the Task-bound methods are admitted by the workflow machine first,
intake is not bound to a Task, and a resolution finds its Task and its transition itself. -/
def plan (X : External) (context : PlanContext) (t : CoreTables) (call : CoreMethodCall) :
    CoreResult OperationPlan := do
  let resolved ← resolveTask t call.envelope call.taskRequirement
  let admission := admitTransition X context t
  match call with
  | .intake request ids => Intake.plan X context t request ids
  | .resolveUserAction request resolutionId =>
    ResolveUserAction.plan X context t request resolutionId
  | .updateScope request ids =>
    let admitted ← admission request.taskId (UpdateScope.actionKey request)
      (UpdateScope.coordinatesMatch request) actionNotAllowed
    UpdateScope.plan X context t request ids admitted
  | .recordShapingCheckpoint request ids =>
    let admitted ← admission request.taskId (RecordShaping.actionKey request)
      (RecordShaping.coordinatesMatch request) (RecordShaping.mismatchCode request)
    RecordShaping.plan X context t request ids admitted
  | .advanceTask request =>
    let admitted ← admission request.taskId AdvanceTask.actionKey
      (AdvanceTask.coordinatesMatch request) request.mismatchCode
    AdvanceTask.plan X context t request admitted
  | .finalizeAdvice request riskIds =>
    let admitted ← admission request.taskId FinalizeAdvice.actionKey
      (FinalizeAdvice.coordinatesMatch request) request.mismatchCode
    FinalizeAdvice.plan X context t request riskIds admitted
  | .prepareEvidenceCapture request intentId =>
    let admitted ← admission request.taskId PrepareEvidenceCapture.actionKey
      (PrepareEvidenceCapture.coordinatesMatch request)
      (PrepareEvidenceCapture.mismatchCode request)
    PrepareEvidenceCapture.plan context t request intentId admitted
  | .prepareWrite request ticketId =>
    let taskId ← okOr (.invariant "task-state-bound admission requires a resolved Task") resolved
    let admitted ← admission taskId PrepareWrite.actionKey
      (PrepareWrite.coordinatesMatch request) actionNotAllowed
    PrepareWrite.plan X context t taskId request ticketId admitted
  | .recordRun request ids =>
    let admitted ← admission request.taskId RecordRun.actionKey
      (RecordRun.coordinatesMatch request) (RecordRun.mismatchCode request)
    RecordRun.plan X context t request ids admitted
  | .requestUserAction request requestId =>
    let admitted ← admission request.taskId RequestUserAction.actionKey
      (RequestUserAction.coordinatesMatch request) actionNotAllowed
    RequestUserAction.plan X context t request requestId admitted
  | .reconcileChanges request requestIds =>
    let admitted ← admission request.taskId ReconcileChanges.actionKey
      (ReconcileChanges.coordinatesMatch request) actionNotAllowed
    ReconcileChanges.plan X context t request requestIds admitted
  | .closeTask request =>
    let admitted ← admission request.taskId CloseTask.actionKey
      (CloseTask.coordinatesMatch request) actionNotAllowed
    CloseTask.plan X context t request admitted

end CoreMethodCall

def transitionEffectMatchesMutations (actionKey : WorkflowActionKey)
    (effect : WorkflowTransitionEffectClass) (mutations : List CoreStorageMutation) : Bool :=
  let has (select : CoreStorageMutation → Bool) : Bool := mutations.any select
  let hasShaping := has fun | .shaping _ => true | _ => false
  let hasTask := has fun | .task _ => true | _ => false
  let hasUserAction := has fun | .userAction _ => true | _ => false
  match effect, actionKey.method, actionKey.semanticVariant with
  | .coreStateMutation, .recordShapingCheckpoint, .createInitial
  | .coreStateMutation, .recordShapingCheckpoint, .replaceCurrent => hasShaping
  | .coreStateMutation, .updateScope, .keepCurrentChangeUnit => hasTask
  | .coreStateMutation, .updateScope, .createCurrentChangeUnit
  | .coreStateMutation, .updateScope, .replaceCurrentChangeUnit =>
    has fun | .changeUnit _ => true | _ => false
  | .coreStateMutation, .finalizeAdvice, .finalizeAdvice
  | .coreStateMutation, .finalizeAdvice, .advanceTask
  | .coreStateMutation, .advanceTask, .finalizeAdvice
  | .coreStateMutation, .advanceTask, .advanceTask => hasShaping
  | .coreStateMutation, .requestUserAction, .requestUserAction => hasUserAction
  | .coreStateMutation, .reconcileChanges, .reconcileChanges =>
    (has fun | .continuity _ => true | _ => false) || hasUserAction
  | .userChannelMutation, .resolveUserAction, .resolveUserAction => hasUserAction
  | .writeAuthorization, .prepareWrite, .prepareWrite => mutations.all fun
    | .task _ | .writeTicket _ | .workflowPolicy _ => true
    | _ => false
  | .evidenceCapture, .prepareEvidenceCapture, .prepareEvidenceCapture =>
    has fun | .evidence _ => true | _ => false
  | .executionRecording, .recordRun, .recordRun => has fun | .run _ => true | _ => false
  | .terminalMutation, .closeTask, .closeTask => hasTask
  | _, _, _ => false

/-- The Core clock: the live one reads SQLite's, an injected one has its own reading. -/
inductive CoreClock where
  | system (now : String)
  | injected (sample : UtcTimestamp)

def CoreClock.includeLiveStorageTimeAtCommit : CoreClock → Bool
  | .system _ => true
  | .injected _ => false

/-- One call as its host submits it. The request hash, the texts of the event and of the
response and the artifact bodies found unchanged are given with it. -/
structure CoreSubmission where
  call : CoreMethodCall
  invocation : InvocationContext
  clock : CoreClock
  intactArtifactIds : List String
  (requestHash eventId eventPayloadJson : String)
  buildResponseJson : CommittedMutationFacts → StoreResult String

/-- A planned call that has not been committed: what it read and what it will do. -/
structure CoreDraft where
  submission : CoreSubmission
  context : PlanContext
  snapshot : CoreTables
  plan : OperationPlan

structure CoreSystem (ι : Type) where
  store : StoreSystem ι CoreTables
  drafts : List CoreDraft

namespace CoreSystem

def tables {ι : Type} (s : CoreSystem ι) : CoreTables := s.store.db.aggregates

end CoreSystem

def canonicalProjectNow (X : External) (clock : CoreClock) (db : ProjectDb CoreTables)
    (handle : StoreHandle) : StoreResult UtcTimestamp := do
  let sampled ← match clock with
    | .system now => projectCurrentUtcTimestamp X now db handle.lastClockSample
    | .injected sample => pure sample
  ensure (X.chrono.ensureCanonicalRfc3339Representable sampled) (.invalidInput
    "Core clock sample must have a canonical four-digit RFC 3339 representation")
  let persistedFloor ← db.readUpdatedAt X
  return max sampled (handle.lastClockSample.elim persistedFloor (max persistedFloor))

/-- `validate_envelope` and `validate_committed_effect_envelope`: the first error. -/
def validateCommittedEnvelope (call : CoreMethodCall) : CoreResult Unit := do
  let envelope := call.envelope
  ensure (!Text.isBlank envelope.projectId)
    (.validation "project_id" "project_id must not be empty")
  ensure (envelope.taskId.all (!Text.isBlank ·)) (.validation "task_id" "task_id must not be empty")
  ensure (!Text.isBlank envelope.requestId)
    (.validation "request_id" "request_id must not be empty")
  ensure (envelope.idempotencyKey.all (!Text.isBlank ·))
    (.validation "idempotency_key" "idempotency_key must not be empty")
  ensure envelope.idempotencyKey.isSome
    (.validation "idempotency_key" "committed mutations require idempotency_key")
  ensure (envelope.expectedStateVersion.isSome || call.method = .resolveUserAction)
    (.validation "expected_state_version" "committed mutations require expected_state_version")

/-- The preflight and the plan of one call. The look for an earlier answer to its key is left
to the commit, which makes it again. -/
def prepareRequest (X : External) (db : ProjectDb CoreTables) (now : UtcTimestamp)
    (submission : CoreSubmission) : CoreResult CoreDraft := do
  let call := submission.call
  call.validateRequest
  validateCommittedEnvelope call
  let header ← fromStore (decodeProjectState X db)
  let invocation ← deriveVerifiedInvocation db.projectId call.envelope.projectId
    submission.invocation (call.operationCategory submission.invocation.operationCategory)
  ensure (call.envelope.expectedStateVersion.all (· = header.stateVersion))
    (.rejected .stateVersionConflict
      "expected_state_version does not match the current project state")
  let context : PlanContext :=
    ⟨db.projectId, header.stateVersion, now, invocation, submission.intactArtifactIds⟩
  let plan ← call.plan X context db.aggregates
  ensure (plan.descriptor.all fun descriptor => descriptor.actionKey.method = call.method
      && transitionEffectMatchesMutations descriptor.actionKey descriptor.effectClass
        plan.mutations)
    (.invariant "method effect branch contradicts its admitted transition descriptor")
  return ⟨submission, context, db.aggregates, plan⟩

def GitWorkspaceContext.toReplayObject (workspace : GitWorkspaceContext) : JsonObject :=
  ⟨[("branch_ref", optionalText workspace.branchRef),
    ("git_common_dir", .str workspace.gitCommonDir), ("head_sha", optionalText workspace.headSha),
    ("workspace_fingerprint", .str workspace.workspaceFingerprint),
    ("worktree_id", .str workspace.worktreeId)], by
    obtain ⟨dir, id, branch, sha, print⟩ := workspace
    have h := PersistedGitWorkspaceReplayContext.toJson_wellFormed ⟨dir, id, branch, sha, print⟩
    cases branch <;> cases sha <;> exact h⟩

namespace CoreDraft

def transitionExpectation (draft : CoreDraft) : Option TransitionCommitExpectation :=
  draft.plan.descriptor.map fun descriptor =>
    { projectId := draft.context.projectId, taskId := draft.plan.taskId
      actionKey := descriptor.actionKey, effectClass := descriptor.effectClass
      expectedResultState := descriptor.expectedResultState
      basisStateVersion := descriptor.expectedStateVersion }

/-- `commit_mutation`: the draft expects the version it was planned at. -/
def commitCall (X : External) (draft : CoreDraft) (session : SqliteSession) :
    CommitCall CoreTables where
  input :=
    { projectId := draft.context.projectId
      toolName := draft.submission.call.method.asStr
      idempotencyKey := draft.submission.call.envelope.idempotencyKey
      requestHash := draft.submission.requestHash
      replayContext := some
        { actorSource := draft.context.invocation.actorSource
          operationCategory := draft.context.invocation.operationCategory
          verificationBasis := some draft.context.invocation.verificationBasis
          gitWorkspaceContext := draft.context.invocation.gitWorkspaceContext.map
            (·.toReplayObject) }
      expectedStateVersion := some draft.context.stateVersion
      transitionExpectation := draft.transitionExpectation
      clockFloor := some draft.context.now
      includeLiveStorageTime := draft.submission.clock.includeLiveStorageTimeAtCommit
      events := [⟨draft.submission.eventId, some draft.plan.taskId, draft.plan.changeUnitId,
        draft.plan.eventKind, draft.submission.eventPayloadJson⟩] }
  applyMutation := mutationClosure X draft.plan.mutations
  buildResponseJson := draft.submission.buildResponseJson
  session := session

end CoreDraft

/-- The administrative application of a workflow policy; the texts of its event are given. -/
structure PolicySubmission where
  mutation : ProjectWorkflowPolicyMutation
  (requestHash eventId eventPayloadJson : String)

/-- `apply_project_workflow_policy_authority`: the commit it makes. -/
def PolicySubmission.commitCall (X : External) (submission : PolicySubmission) (projectId : String)
    (session : SqliteSession) : CommitCall CoreTables where
  input :=
    { projectId := projectId, toolName := "policy_apply", idempotencyKey := none
      requestHash := submission.requestHash
      replayContext := some ⟨.localUser, .adminLocal, some "local_admin_policy_apply", none⟩
      expectedStateVersion := none, transitionExpectation := none, clockFloor := none
      includeLiveStorageTime := true
      events := [⟨submission.eventId, none, none, "project_workflow_policy_applied",
        submission.eventPayloadJson⟩] }
  applyMutation := mutationClosure X [.workflowPolicy (.apply submission.mutation)]
  buildResponseJson _ := .ok "\x7b\x7d"
  session := session

/-- What happens beside Core and without a new state version: artifacts are staged, capture
sources report, and the Guard observes product changes. -/
inductive EnvironmentChange where
  | stageArtifact (row : ArtifactStagingRecord)
  | settleStaging (handleId : String) (status : ArtifactStagingStatus)
  | recordCaptureReceipt (row : EvidenceCaptureReceiptRecord)
  | observeUnrecordedChange (row : UnrecordedChangeRecord)

def unrecordedChangeSummary (paths : List String) : String :=
  "Observed " ++ toString paths.length ++ " unmatched Product Repository path transition(s)"

def EnvironmentChange.apply (t : CoreTables) : EnvironmentChange → CoreTables
  | .stageArtifact row => { t with artifactStaging := t.artifactStaging.insertOrIgnore row }
  | .settleStaging handleId status => { t with
      artifactStaging := t.artifactStaging.updateWhere
        (fun row => row.handleId = handleId && row.status = .staged) ({ · with status := status }) }
  | .recordCaptureReceipt row => { t with
      evidenceCaptureReceipts := t.evidenceCaptureReceipts.insertOrIgnore row }
  | .observeUnrecordedChange row => { t with
      unrecordedChanges := t.unrecordedChanges.insertOrIgnore
        { row with resolved := false, summary := unrecordedChangeSummary row.paths } }

inductive CoreOp (ι : Type) where
  | prepare (handle : ι) (submission : CoreSubmission)
  | commit (handle : ι) (index : Nat) (session : SqliteSession)
  | applyPolicy (handle : ι) (submission : PolicySubmission) (session : SqliteSession)
  | advanceProjectUtcFloor (sample : UtcTimestamp)
  | environment (change : EnvironmentChange)

inductive CoreAnswer where
  | prepared (result : CoreResult Unit)
  | commit (draft : CoreDraft) (result : StoreResult MutationCommitOutcome)
  | policy (submission : PolicySubmission) (result : StoreResult MutationCommitOutcome)
  | noDraft
  | done

variable {ι : Type} [DecidableEq ι]

def StoreSystem.commit (X : External) (s : StoreSystem ι CoreTables) (i : ι)
    (call : CommitCall CoreTables) :
    StoreResult MutationCommitOutcome × StoreSystem ι CoreTables :=
  let r := commitWith X coreReaders (s.handles i) call s.db
  (r.result, { s.setHandle i r.handle with db := r.db })

/-- A caller that has prepared a draft commits it once, whatever comes of it. -/
def coreStep (X : External) (s : CoreSystem ι) : CoreOp ι → CoreAnswer × CoreSystem ι
  | .prepare i submission =>
    match canonicalProjectNow X submission.clock s.store.db (s.store.handles i) with
    | .error error => (.prepared (.error (.store error)), s)
    | .ok now =>
      let store := s.store.setHandle i ((s.store.handles i).rememberClockSample now)
      match prepareRequest X s.store.db now submission with
      | .error error => (.prepared (.error error), { s with store := store })
      | .ok draft => (.prepared (.ok ()), ⟨store, s.drafts ++ [draft]⟩)
  | .commit i index session =>
    match s.drafts[index]? with
    | none => (.noDraft, s)
    | some draft =>
      let r := s.store.commit X i (draft.commitCall X session)
      (.commit draft r.1, ⟨r.2, s.drafts.eraseIdx index⟩)
  | .applyPolicy i submission session =>
    let r := s.store.commit X i (submission.commitCall X s.store.db.projectId session)
    (.policy submission r.1, { s with store := r.2 })
  | .advanceProjectUtcFloor sample =>
    match advanceProjectUtcFloor X sample s.store.db with
    | .error _ => (.done, s)
    | .ok (_, db) => (.done, { s with store := { s.store with db := db } })
  | .environment change =>
    (.done, { s with
      store := { s.store with
        db := { s.store.db with aggregates := change.apply s.store.db.aggregates } } })

abbrev CoreEvent (ι : Type) := Transition.Event (CoreSystem ι) (CoreOp ι) CoreAnswer

/- A small project to run calls on: texts and instants in the concrete formats, and a digest
that keeps short texts apart. -/

/-- The last `width` hexadecimal digits of `n`, in front of `digits`. -/
def hexDigits : Nat → Nat → List Char → List Char
  | 0, _, digits => digits
  | width + 1, n, digits => hexDigits width (n / 16) (Nat.digitChar (n % 16) :: digits)

/-- The bytes of a text as the digits of a number, in 64 hexadecimal digits. -/
def sampleDigest (text : String) : String :=
  String.ofList (hexDigits 64
    (text.toByteArray.data.toList.foldl (fun n byte => n * 257 + byte.toNat) 1) [])

def sampleExternal : External := ⟨ClockText.chrono, JsonText.serde, sampleDigest⟩

def sampleProject : CoreSystem Unit where
  store := ⟨⟨"project", 0, "x", .empty, [], []⟩, fun _ => ⟨some "home", some "home", none⟩⟩
  drafts := []

def sampleEnvelope (taskId : Option String) (key : String) (version : Option Nat) : ToolEnvelope :=
  ⟨"project", taskId, key, some key, version⟩

/-- A submission under one key; `o)` is the empty object. -/
def sampleSubmission (authority : InvocationAuthority) (category : OperationCategory)
    (call : CoreMethodCall) (intactArtifactIds : List String) : CoreSubmission where
  call := call
  invocation := ⟨"project", category, authority, none, none⟩
  clock := .injected 1
  intactArtifactIds := intactArtifactIds
  requestHash := call.envelope.requestId
  eventId := call.envelope.requestId
  eventPayloadJson := "o)"
  buildResponseJson _ := .ok "o)"

def agentCall (call : CoreMethodCall) (intactArtifactIds : List String) :
    List (CoreOp Unit) :=
  [.prepare () (sampleSubmission (.agentConnection "agent" "project" "host") .agentWorkflow call
    intactArtifactIds), .commit () 0 ⟨"xx", fun _ => false⟩]

def userCall (call : CoreMethodCall) (intactArtifactIds : List String) : List (CoreOp Unit) :=
  [.prepare () (sampleSubmission .localUser .userOnly call intactArtifactIds),
    .commit () 0 ⟨"xx", fun _ => false⟩]

def sampleIntake (taskId : String) (version : Nat) (mode : RequestedMode)
    (resumePolicy : ResumePolicy) (criteria : List AcceptanceCriterionInput)
    (criterionIds : List String) : CoreMethodCall :=
  .intake
    { envelope := sampleEnvelope (some taskId) ("intake " ++ taskId) (some version)
      plainLanguageRequest := "request", requestedMode := mode, requestedControlLevel := .auto
      acceptancePolicy := none, resumePolicy := resumePolicy
      initialScope := ⟨"scope", [], criteria⟩, lineage := none }
    ⟨taskId, criterionIds⟩

def sampleQuestion (taskId requestId : String) (version : Nat) (kind : JudgmentKind)
    (requiredFor : List UserActionRequiredFor) (scope : Option SensitiveActionScope)
    (expiresAt : Option UtcTimestamp := none) : CoreMethodCall :=
  .requestUserAction
    { envelope := sampleEnvelope (some taskId) requestId (some version), taskId := taskId
      changeUnitId := none
      action := .choice ⟨kind, "question", "context", [], [], scope⟩
      requiredFor := requiredFor, expiresAt := expiresAt } requestId

def sampleAnswer (requestId resolutionId option : String) : CoreMethodCall :=
  .resolveUserAction
    { envelope := sampleEnvelope none resolutionId none, userActionRequestId := requestId
      channelSubmissionId := resolutionId, resolution := .choice option none } resolutionId

def sampleScope (taskId unitId : String) (version : Nat) (baselineRef : Option String)
    (operation : ChangeUnitOperation) (paths : List String) : CoreMethodCall :=
  .updateScope
    { envelope := sampleEnvelope (some taskId) ("scope " ++ unitId) (some version)
      taskId := taskId, goalSummary := none, scopeBoundary := none, nonGoals := none
      acceptanceCriteria := none, autonomyBoundary := none, baselineRef := baselineRef
      changeUnit := ⟨operation, none, paths⟩, relatedScopeDecisionRefs := [] }
    ⟨unitId, []⟩

def sampleWrite (taskId unitId ticketId : String) (version : Nat) (paths categories : List String) :
    CoreMethodCall :=
  .prepareWrite
    { envelope := sampleEnvelope (some taskId) ("write " ++ ticketId) (some version)
      taskId := some taskId, changeUnitId := some unitId, intendedOperation := "edit"
      intendedPaths := paths, productFileWriteIntended := true
      sensitiveCategories := categories, baselineRef := "base" } ticketId

def sampleRun (taskId unitId runId : String) (version : Nat) (ticketId : Option String)
    (changes : ObservedChanges) (assessment : Option CloseAssessmentInput) : CoreMethodCall :=
  .recordRun
    { envelope := sampleEnvelope (some taskId) ("run " ++ runId) (some version), taskId := taskId
      changeUnitId := unitId, kind := .direct, runId := some runId, baselineRef := "base"
      writeTicketId := ticketId, performedOperation := none, summary := "done"
      observedChanges := changes, artifactInputs := [], evidenceUpdates := []
      evidenceObservations := [], closeAssessment := assessment }
    ⟨runId, [], [], [], "summary " ++ runId, []⟩

end Volicord
