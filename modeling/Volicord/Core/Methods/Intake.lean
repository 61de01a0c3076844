import Volicord.Core.Admission

/-! `methods/intake.rs`: a Task is created, resumed or superseded. The continuity records and
the context and source references a lineage may carry are not part of the tables, so the
kinds of carry-forward that only select them select nothing here. -/
namespace Volicord
open Result

inductive CarryForwardKind where
  | scope | nonGoals | contextRefs | sourceRefs | baseline | userDecisions | knownLimitations
  | unresolvedObligations | residualRisks
deriving DecidableEq

structure AcceptanceCriterionInput where
  statement : String
  evidenceRequirement : EvidenceRequirement
deriving DecidableEq

structure InitialScope where
  boundary : String
  nonGoals : List String
  acceptanceCriteria : List AcceptanceCriterionInput

structure TaskLineageInput where
  predecessorTaskId : String
  relation : TaskLineageRelation
  creationReason : String
  carryForward : List CarryForwardKind

structure IntakeRequest where
  envelope : ToolEnvelope
  plainLanguageRequest : String
  requestedMode : RequestedMode
  requestedControlLevel : RequestedControlLevel
  acceptancePolicy : Option AcceptancePolicy
  resumePolicy : ResumePolicy
  initialScope : InitialScope
  lineage : Option TaskLineageInput

structure IntakeIds where
  taskId : String
  acceptanceCriterionIds : List String

structure PlannedTaskLineage where
  predecessorTaskId : String
  relation : TaskLineageRelation
  creationReason : String
  carriedBaselineRef : Option String

namespace Intake

def carryScope (t : CoreTables) (lineage : TaskLineageInput) (predecessorScope : StoredScope)
    (scope : InitialScope) : CoreResult InitialScope := do
  if lineage.carryForward.contains .scope then
    let criteria := (t.activeAcceptanceCriteria lineage.predecessorTaskId).map fun record =>
      AcceptanceCriterionInput.mk record.statement record.evidenceRequirement
    ensure (predecessorScope.scopeSummary.isSome || !criteria.isEmpty)
      (.validation "lineage.carry_forward"
        "selected scope carry-forward has no predecessor scope material")
    let boundary ← match predecessorScope.scopeSummary with
      | none => pure scope.boundary
      | some carried =>
        let submitted := Text.trim scope.boundary
        if submitted.isEmpty then pure carried
        else do
          ensure (submitted = Text.trim carried) (CoreError.validation "initial_scope.boundary"
            "carried scope must match an explicitly submitted new-Task boundary")
          pure scope.boundary
    ensure (scope.acceptanceCriteria.isEmpty || scope.acceptanceCriteria = criteria)
      (.validation "initial_scope.acceptance_criteria"
        "carried criteria must match explicitly submitted criterion statements and requirements")
    return { scope with boundary := boundary, acceptanceCriteria := criteria }
  else return scope

def carryNonGoals (lineage : TaskLineageInput) (predecessorScope : StoredScope)
    (scope : InitialScope) : CoreResult InitialScope := do
  if lineage.carryForward.contains .nonGoals then
    ensure (!predecessorScope.nonGoals.isEmpty) (.validation "lineage.carry_forward"
      "selected non_goals carry-forward has no predecessor non-goals")
    if scope.nonGoals.isEmpty then return { scope with nonGoals := predecessorScope.nonGoals }
    else
      ensure (normalizeScopeStringList scope.nonGoals
          = normalizeScopeStringList predecessorScope.nonGoals)
        (.validation "initial_scope.non_goals"
          "carried non-goals must match explicitly submitted non-goals")
      return scope
  else return scope

variable (context : PlanContext) {result : OperationPlan}

def carryBaseline (t : CoreTables) (lineage : TaskLineageInput) (predecessorScope : StoredScope) :
    CoreResult (Option String) := do
  if lineage.carryForward.contains .baseline then
    let baselineRef ← okOr
      (decisionRejected "selected baseline carry-forward has no predecessor baseline")
      predecessorScope.baselineRef
    let changeUnit ← fromStore (t.currentChangeUnit lineage.predecessorTaskId)
    let changeUnit ← okOr
      (decisionRejected "selected baseline carry-forward has no current predecessor Change Unit")
      changeUnit
    ensure (changeUnit.writeBasis.baselineRef = some baselineRef)
      (.validation "lineage.carry_forward"
        "baseline carry-forward requires matching predecessor Task and Change Unit baselines")
    ensure (workspaceContextMatches changeUnit context.invocation.gitWorkspaceContext)
      (.validation "lineage.carry_forward"
        "baseline carry-forward requires the exact current compatible Git workspace context")
    return some baselineRef
  else return none

/-- `plan_task_lineage`: the lineage of the new Task and the scope it starts from. -/
def planTaskLineage (t : CoreTables) (request : IntakeRequest) :
    CoreResult (Option PlannedTaskLineage × InitialScope) :=
  match request.lineage with
  | none => .ok (none, request.initialScope)
  | some lineage => do
    let creationReason := Text.trim lineage.creationReason
    ensure (!creationReason.isEmpty)
      (.validation "lineage.creation_reason" "lineage creation_reason must not be empty")
    let predecessor ← fromStore (t.taskRecord context.projectId lineage.predecessorTaskId)
    let predecessor ← okOr
      (decisionRejected "lineage predecessor must identify an existing same-project Task")
      predecessor
    ensure (lineage.relation ≠ .implementsAdviceFrom || (predecessor.mode = .advisor
        && predecessor.lifecyclePhase = .completed && predecessor.result = some .adviceOnly))
      (.validation "lineage.relation"
        "implements_advice_from requires a completed advisor advice_only predecessor")
    ensure lineage.carryForward.Nodup
      (.validation "lineage.carry_forward" "carry_forward values must not contain duplicates")
    let predecessorScope := StoredScope.fromTask predecessor
    let scope ← carryScope t lineage predecessorScope request.initialScope
    let scope ← carryNonGoals lineage predecessorScope scope
    let baselineRef ← carryBaseline context t lineage predecessorScope
    return (some ⟨predecessor.taskId, lineage.relation, creationReason, baselineRef⟩, scope)

def acceptancePolicyReason (acceptance : AcceptancePolicy) (control : TaskControlLevel) : String :=
  match acceptance with
  | .notRequired => "Effective control `" ++ control.asStr
      ++ "` does not require final result acceptance."
  | .required => "Effective control `" ++ control.asStr
      ++ "` requires final acceptance for the current close basis."
  | .policyDependent =>
    "Core evaluates final acceptance from the current low-risk completion conditions and residual-risk basis."

def resolveAcceptancePolicy (mode : TaskMode) (control : TaskControlLevel)
    (requested : Option AcceptancePolicy) (policy : CoreWorkflowPolicy) :
    CoreResult (AcceptancePolicy × String) := do
  let authoritative := if mode = .advisor then .required
    else acceptancePolicyForControl control policy
  let selected := if control = .light then
      requested.elim authoritative (maxAcceptancePolicy authoritative ·)
    else requested.getD authoritative
  let valid := match control with
    | .observe => selected = if mode = .advisor then .required else .notRequired
    | .light => selected ≠ .notRequired || policy.settings.light.finalAcceptance = .notRequired
    | .tracked | .sensitive => selected = .required
  ensure valid (.validation "acceptance_policy"
    "acceptance_policy is incompatible with the effective Task control level and project workflow policy")
  return (selected, acceptancePolicyReason selected control)

def planCriteria (t : CoreTables) (inputs : List AcceptanceCriterionInput) (ids : List String) :
    CoreResult (List AcceptanceCriterionUpsert) := do
  ensure (inputs.all fun input => !Text.isBlank input.statement)
    (.validation "initial_scope.acceptance_criteria[].statement"
      "acceptance criterion statements must not be empty")
  requireFresh (!(ids.length = inputs.length && ids.Nodup
    && ids.all fun id => (t.acceptanceCriteria.find? id).isNone))
  return (inputs.zip ids).zipIdx.map fun ((input, id), position) =>
    ⟨id, Text.trim input.statement, input.evidenceRequirement, position⟩

def newTask (request : IntakeRequest) (mode : TaskMode) (taskId : String)
    (lineage : Option PlannedTaskLineage) (scope : InitialScope)
    (control : TaskControlLevel × String) (acceptance : AcceptancePolicy × String) :
    TaskInsert where
  taskId := taskId
  mode := mode
  requestedControlLevel := request.requestedControlLevel
  effectiveControlLevel := control.1
  controlLevelReason := control.2
  workPhase := initialWorkPhase mode
  acceptancePolicy := acceptance.1
  acceptancePolicyReason := acceptance.2
  predecessorTaskId := lineage.map (·.predecessorTaskId)
  lineageRelation := lineage.map (·.relation)
  lineageReason := lineage.map (·.creationReason)
  lifecyclePhase := if mode = .direct then .executing else .shaping
  result := some .none
  summary := some request.plainLanguageRequest
  shaping :=
    { goalSummary := some request.plainLanguageRequest, scopeSummary := some scope.boundary
      nonGoals := scope.nonGoals, baselineRef := lineage.bind (·.carriedBaselineRef)
      autonomyBoundary := none }
  autonomyBoundary := none
  closeSummary := .open
  currentChangeUnitId := none

def retireActive (resumePolicy : ResumePolicy) (active : Option TaskRecord) :
    List CoreStorageMutation :=
  active.toList.flatMap fun task =>
    .writeTicket (.invalidateActive task.taskId .taskClosed)
    :: if resumePolicy = .supersedeActive then [.task (.supersede task.taskId)] else []

def planNew (t : CoreTables) (request : IntakeRequest) (ids : IntakeIds)
    (policy : CoreWorkflowPolicy) (active : Option TaskRecord) : CoreResult OperationPlan := do
  let mode := resolveRequestedMode request.requestedMode
  ensure (mode ≠ .advisor || request.requestedControlLevel ∈ [.auto, .observe])
    (.validation "requested_control_level" "advisor mode accepts only auto or observe control")
  let (lineage, scope) ← planTaskLineage context t request
  let control := effectiveControlLevel mode request.requestedControlLevel policy
  let acceptance ← resolveAcceptancePolicy mode control.1 request.acceptancePolicy policy
  let taskId ← match request.envelope.taskId with
    | some taskId => pure taskId
    | none => do
      requireFresh (t.taskRow ids.taskId).isSome
      pure ids.taskId
  ensure (lineage.all fun lineage => lineage.predecessorTaskId ≠ taskId)
    (.validation "lineage.predecessor_task_id" "a Task cannot name itself as its predecessor")
  let criteria ← planCriteria t scope.acceptanceCriteria ids.acceptanceCriterionIds
  return {
    taskId := taskId, changeUnitId := none, eventKind := "task_intake", descriptor := none
    mutations := retireActive request.resumePolicy active
      ++ [.task (.insert (newTask request mode taskId lineage scope control acceptance)),
        .task (.replaceAcceptanceCriteria ⟨taskId, criteria⟩), .task (.setActive taskId)] }

def planResume (request : IntakeRequest) (policy : CoreWorkflowPolicy) (active : TaskRecord) :
    CoreResult OperationPlan := do
  ensure (request.acceptancePolicy.isNone && request.lineage.isNone)
    (.validation "acceptance_policy"
      "resume_active requires null acceptance_policy and lineage fields")
  let control := resolveTaskControlAuthority active policy
  return {
    taskId := active.taskId, changeUnitId := none, eventKind := "task_intake", descriptor := none
    mutations := if control.controlRaised || control.acceptanceRaised then
      [.task (.updateControlLevel ⟨active.taskId, control.effectiveControlLevel,
        control.controlLevelReason, some control.acceptancePolicy,
        some control.acceptancePolicyReason⟩)] else [] }

/-- `plan_intake`, with the check of `reject_if_active` in front of it. -/
def plan (X : External) (context : PlanContext) (t : CoreTables) (request : IntakeRequest)
    (ids : IntakeIds) : CoreResult OperationPlan := do
  ensure (request.resumePolicy ≠ .rejectIfActive || t.activeTaskId.isNone)
    (.validation "resume_policy"
      "resume_policy=reject_if_active cannot proceed while a Task is active")
  let policy ← fromStore (t.projectWorkflowPolicy X)
  let active ← fromStore (t.activeTaskRecord context.projectId)
  match request.resumePolicy, active with
  | .resumeActive, some task => planResume request policy task
  | _, _ => planNew context t request ids policy active

structure AcceptedNew (t : CoreTables) (request : IntakeRequest) (ids : IntakeIds)
    (policy : CoreWorkflowPolicy) where
  lineage : Option PlannedTaskLineage
  scope : InitialScope
  acceptance : AcceptancePolicy × String
  taskId : String
  criteria : List AcceptanceCriterionUpsert

namespace AcceptedNew
variable {t : CoreTables} {request : IntakeRequest} {ids : IntakeIds}
  {policy : CoreWorkflowPolicy} (accepted : AcceptedNew t request ids policy)

def insert : TaskInsert :=
  newTask request (resolveRequestedMode request.requestedMode) accepted.taskId accepted.lineage
    accepted.scope (effectiveControlLevel (resolveRequestedMode request.requestedMode)
      request.requestedControlLevel policy) accepted.acceptance

def plan (active : Option TaskRecord) : OperationPlan where
  taskId := accepted.taskId
  changeUnitId := none
  eventKind := "task_intake"
  descriptor := none
  mutations := retireActive request.resumePolicy active
    ++ [.task (.insert accepted.insert),
      .task (.replaceAcceptanceCriteria ⟨accepted.taskId, accepted.criteria⟩),
      .task (.setActive accepted.taskId)]

end AcceptedNew

theorem planNew_ok {context : PlanContext} {t : CoreTables} {request : IntakeRequest}
    {ids : IntakeIds} {policy : CoreWorkflowPolicy} {active : Option TaskRecord}
    (h : planNew context t request ids policy active = .ok result) :
    ∃ accepted : AcceptedNew t request ids policy, result = accepted.plan active := by
  simp only [planNew, steps_ok] at h
  obtain ⟨_, ⟨lineage, scope⟩, _, acceptance, _, h⟩ := h
  cases henvelope : request.envelope.taskId with
  | some taskId =>
    simp only [henvelope, steps_ok] at h
    obtain ⟨_, rfl, _, criteria, _, rfl⟩ := h
    exact ⟨⟨lineage, scope, acceptance, taskId, criteria⟩, rfl⟩
  | none =>
    simp only [henvelope, steps_ok, requireFresh_eq_ok] at h
    obtain ⟨_, _, rfl, _, criteria, _, rfl⟩ := h
    exact ⟨⟨lineage, scope, acceptance, ids.taskId, criteria⟩, rfl⟩

theorem plan_ok {X : External} {context : PlanContext} {t : CoreTables}
    {request : IntakeRequest} {ids : IntakeIds}
    (h : plan X context t request ids = .ok result) :
    ∃ policy active, t.projectWorkflowPolicy X = .ok policy ∧
      t.activeTaskRecord context.projectId = .ok active ∧
      (request.resumePolicy = .rejectIfActive → t.activeTaskId = none) ∧
      ((∃ task, request.resumePolicy = .resumeActive ∧ active = some task ∧
          planResume request policy task = .ok result) ∨
        ((request.resumePolicy = .resumeActive → active = none) ∧
          ∃ accepted : AcceptedNew t request ids policy, result = accepted.plan active)) := by
  simp only [plan, steps_ok, fromStore_eq_ok] at h
  obtain ⟨hreject, policy, hpolicy, active, hactive, h⟩ := h
  refine ⟨policy, active, hpolicy, hactive, ?_, ?_⟩
  · intro heq
    simpa [heq] using hreject
  · split at h
    · rename_i task hresume
      exact .inl ⟨task, hresume, rfl, h⟩
    · rename_i hcases
      exact .inr ⟨fun hresume => Option.eq_none_iff_forall_ne_some.mpr fun task heq =>
        hcases task hresume heq, planNew_ok h⟩

end Intake
end Volicord
