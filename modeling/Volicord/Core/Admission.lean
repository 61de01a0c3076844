import Volicord.Core.Control
import Volicord.Core.WorkflowMachineSpec

/-! The preflight of a Task-bound method: the Task it addresses, the current snapshot of that
Task, and the transition the workflow machine admits. -/
namespace Volicord
open Result Sorted
variable {t : CoreTables} {taskId : String} {X : External} {context : PlanContext}
  {admitted : AdmittedTransition} {key : WorkflowActionKey}

structure ToolEnvelope where
  projectId : String
  taskId : Option String
  requestId : String
  idempotencyKey : Option String
  expectedStateVersion : Option Nat

inductive TaskRequirement where
  | none
  | optional
  | required
  | exact (taskId : String)

/-- A transition the machine admits, with the snapshot it was admitted on. -/
structure AdmittedTransition where
  snapshot : WorkflowSnapshot
  descriptor : TransitionDescriptor

def resolveTask (t : CoreTables) (envelope : ToolEnvelope) (requirement : TaskRequirement) :
    CoreResult (Option String) :=
  let known (taskId : String) : CoreResult (Option String) := do
    ensure (t.taskRow taskId).isSome noActiveTaskError
    return some taskId
  match requirement with
  | .none => .ok none
  | .exact taskId => known taskId
  | .optional => match envelope.taskId with
    | some taskId => known taskId
    | none => .ok none
  | .required => match envelope.taskId, t.activeTaskId with
    | some taskId, _ => known taskId
    | none, some taskId => known taskId
    | none, none => .error noActiveTaskError

/-- `with_current_workflow_records` and `with_workflow_snapshot`. -/
def currentWorkflowSnapshot (X : External) (context : PlanContext) (t : CoreTables)
    (taskId : String) : CoreResult WorkflowSnapshot := do
  let task ← fromStore (t.taskRecord context.projectId taskId)
  let task ← okOr (.invariant "workflow admission requires an existing Task") task
  let changeUnit ← fromStore (t.currentChangeUnit taskId)
  let checkpoint ← fromStore (t.currentShapingCheckpoint X taskId)
  let authority ← fromStore (taskWideShapingAuthority X context.projectId context.stateVersion
    context.now t task changeUnit)
  WorkflowSnapshot.build context.projectId context.stateVersion task changeUnit checkpoint authority

def currentTransitionAdmission (X : External) (context : PlanContext) (t : CoreTables)
    (taskId : String) (key : WorkflowActionKey) : CoreResult AdmittedTransition := do
  let snapshot ← currentWorkflowSnapshot X context t taskId
  let evaluation ← snapshot.evaluate
  match snapshot.transitionAdmission evaluation key with
  | .error rejection =>
    .error (.rejected rejection.code "exact workflow action is not current")
  | .ok descriptor => return ⟨snapshot, descriptor⟩

/-- The admission of a method bound to the state of its Task: the transition is current and
the request carries the coordinates it fixes. -/
def admitTransition (X : External) (context : PlanContext) (t : CoreTables) (taskId : String)
    (key : WorkflowActionKey) (coordinatesMatch : WorkflowActionAuthorityCoordinates → Bool)
    (mismatchCode : WorkflowActionAuthorityCoordinates → ErrorCode) :
    CoreResult AdmittedTransition := do
  let admitted ← currentTransitionAdmission X context t taskId key
  ensure (coordinatesMatch admitted.descriptor.coordinates)
    (.rejected (mismatchCode admitted.descriptor.coordinates)
      "request authority coordinates do not match the current transition")
  return admitted

/-- The Task a plan is about, the mutations of its commit and the descriptor of its transition
when the machine admitted one. -/
structure OperationPlan where
  taskId : String
  changeUnitId : Option String
  mutations : List CoreStorageMutation
  eventKind : String
  descriptor : Option TransitionDescriptor

structure StoredScope where
  (goalSummary scopeSummary : Option String)
  nonGoals : List String
  (autonomyBoundary baselineRef : Option String)
deriving DecidableEq

def normalizeScopeTextOption (value : Option String) : Option String :=
  (value.map Text.trim).filter (!·.isEmpty)

def normalizeScopeStringList (values : List String) : List String :=
  sortDedup (values.filterMap fun value => normalizeScopeTextOption (some value))

def StoredScope.normalized (scope : StoredScope) : StoredScope :=
  { scope with
    goalSummary := normalizeScopeTextOption scope.goalSummary
    scopeSummary := normalizeScopeTextOption scope.scopeSummary
    nonGoals := normalizeScopeStringList scope.nonGoals
    autonomyBoundary := normalizeScopeTextOption scope.autonomyBoundary }

def StoredScope.fromTask (task : TaskRecord) : StoredScope :=
  StoredScope.normalized
    { goalSummary := task.shaping.goalSummary <|> task.summary
      scopeSummary := task.shaping.scopeSummary
      nonGoals := task.shaping.nonGoals
      autonomyBoundary := task.autonomyBoundary <|> task.shaping.autonomyBoundary
      baselineRef := task.shaping.baselineRef }

def workspaceContextMatches (changeUnit : ChangeUnitRecord)
    (workspace : Option GitWorkspaceContext) : Bool :=
  changeUnit.writeBasis.gitWorkspaceContext = workspace

/-- `observe_request_product_paths`, without the look at the file system, which keeps the
texts as they are. -/
def observeRequestProductPaths (rawPaths : List String) (field invalidMessage : String) :
    CoreResult (List String) := do
  let paths ← (parseProductPaths rawPaths).mapError fun _ =>
    CoreError.validation field invalidMessage
  return paths.map (·.text)

def decisionRejected (message : String) : CoreError := .rejected .decisionUnresolved message

/-- The lifecycle mutation that brings a Task in line with its pending requests. -/
def planPendingLifecycle (t : CoreTables) (task : TaskRecord)
    (changeUnit : Option ChangeUnitRecord) (pending : List StoredUserActionRecordSet) :
    CoreResult (List CoreStorageMutation) :=
  match projectedUserActionLifecyclePhase t.activeTaskId task
    (changeUnit.map (·.changeUnitId)) pending with
  | none => .ok []
  | some phase => planUserActionLifecycleTransition task phase

/- What an admission establishes. -/

structure SnapshotOf (X : External) (context : PlanContext) (t : CoreTables) (taskId : String)
    (snapshot : WorkflowSnapshot) : Prop where
  task : t.taskRow taskId = some snapshot.task
  changeUnit : t.currentChangeUnit taskId = .ok snapshot.currentChangeUnit
  changeUnitId : snapshot.task.currentChangeUnitId =
    snapshot.currentChangeUnit.map (·.changeUnitId)

theorem CoreTables.validateTaskAggregate_ok {projectId : String} {task task' : TaskRecord}
    (h : t.validateTaskAggregate projectId task = .ok task') : task' = task := by
  unfold CoreTables.validateTaskAggregate at h
  cases hbasis : task.closeBasis with
  | none =>
    rw [hbasis] at h
    exact (Except.ok.inj h).symm
  | some basis =>
    rw [hbasis] at h
    simp only [steps_ok] at h
    have hrest := h.2
    by_cases hmode : task.mode = .advisor
    · simp only [hmode, if_true, steps_ok] at hrest
      obtain ⟨_, _, _, _, _, hreturn⟩ := hrest
      exact hreturn.symm
    · simp only [hmode, if_false, steps_ok] at hrest
      exact hrest.2.symm

theorem CoreTables.taskRecord_ok {projectId : String}
    {task : TaskRecord} (h : t.taskRecord projectId taskId = .ok (some task)) :
    t.taskRow taskId = some task ∧ t.validateTaskAggregate projectId task = .ok task := by
  unfold CoreTables.taskRecord at h
  cases hrow : t.taskRow taskId with
  | none => rw [hrow] at h; simp at h
  | some row =>
    rw [hrow] at h
    cases hvalid : t.validateTaskAggregate projectId row with
    | error e => simp [hvalid, Except.map] at h
    | ok task' =>
      have heq := validateTaskAggregate_ok hvalid
      simp only [hvalid, Except.map, Except.ok.injEq, Option.some.injEq] at h
      subst h heq
      exact ⟨rfl, hvalid⟩

theorem currentWorkflowSnapshot_ok {snapshot : WorkflowSnapshot}
    (h : currentWorkflowSnapshot X context t taskId = .ok snapshot) :
    SnapshotOf X context t taskId snapshot := by
  simp only [currentWorkflowSnapshot, WorkflowSnapshot.build, steps_ok, fromStore_eq_ok] at h
  obtain ⟨_, hrecord, task, rfl, changeUnit, hunit, _, _, _, _, _, hidentity, _, _, _, rfl⟩ := h
  refine ⟨(CoreTables.taskRecord_ok hrecord).1, hunit, ?_⟩
  cases hid : task.currentChangeUnitId <;> cases changeUnit <;> simp_all

section
variable (h : currentTransitionAdmission X context t taskId key = .ok admitted)
include h

/-- An admitted transition is listed by the machine on the snapshot of its Task. -/
theorem currentTransitionAdmission_listed : currentWorkflowSnapshot X context t taskId =
    .ok admitted.snapshot ∧ ∃ evaluation, admitted.snapshot.evaluate = .ok evaluation ∧
    evaluation.transition key = some admitted.descriptor := by
  simp only [currentTransitionAdmission, bind_eq_ok] at h
  obtain ⟨snapshot, hsnapshot, evaluation, heval, h⟩ := h
  cases htransition : evaluation.transition key with
  | none =>
    simp only [WorkflowSnapshot.transitionAdmission, htransition] at h
    by_cases hreplace : (decide (key = ⟨.updateScope, .replaceCurrentChangeUnit⟩)
      && !snapshot.allowsChangeUnitReplacement) = true
    · simp [hreplace] at h
    · simp [hreplace] at h
  | some descriptor =>
    simp only [WorkflowSnapshot.transitionAdmission, htransition, pure_eq_ok] at h
    subst h
    exact ⟨hsnapshot, evaluation, heval, htransition⟩

theorem currentTransitionAdmission_ok : SnapshotOf X context t taskId admitted.snapshot ∧
      admitted.snapshot.task.lifecyclePhase.terminal = false ∧
      ∃ evaluation, admitted.snapshot.evaluate = .ok evaluation ∧
        evaluation.transition key = some admitted.descriptor := by
  obtain ⟨hsnapshot, evaluation, heval, htransition⟩ := currentTransitionAdmission_listed h
  refine ⟨currentWorkflowSnapshot_ok hsnapshot, ?_, evaluation, heval, htransition⟩
  cases hterminal : admitted.snapshot.task.lifecyclePhase.terminal with
  | false => rfl
  | true =>
    rw [WorkflowSnapshot.evaluate_of_terminal hterminal] at heval
    cases heval
    cases htransition

end

theorem admitTransition_ok {coordinatesMatch : WorkflowActionAuthorityCoordinates → Bool}
    {mismatchCode : WorkflowActionAuthorityCoordinates → ErrorCode}
    (h : admitTransition X context t taskId key coordinatesMatch mismatchCode = .ok admitted) :
    currentTransitionAdmission X context t taskId key = .ok admitted ∧
      coordinatesMatch admitted.descriptor.coordinates := by
  simp only [admitTransition, steps_ok] at h
  obtain ⟨_, hadmitted, hmatch, rfl⟩ := h
  exact ⟨hadmitted, hmatch⟩

end Volicord
