import Volicord.Store.Shaping

/-! `core_pipeline/tasks.rs` and `core_pipeline/change_units.rs`: the mutations of Tasks,
acceptance criteria and Change Units, and the reads that validate a Task aggregate. -/
namespace Volicord
open Result Relational

structure TaskInsert where
  taskId : String
  mode : TaskMode
  requestedControlLevel : RequestedControlLevel
  effectiveControlLevel : TaskControlLevel
  controlLevelReason : String
  workPhase : WorkPhase
  acceptancePolicy : AcceptancePolicy
  acceptancePolicyReason : String
  predecessorTaskId : Option String
  lineageRelation : Option TaskLineageRelation
  lineageReason : Option String
  lifecyclePhase : TaskLifecyclePhase
  result : Option TaskResult
  summary : Option String
  shaping : TaskShapingFacts
  autonomyBoundary : Option String
  closeSummary : PersistedCloseSummary
  currentChangeUnitId : Option String

structure TaskScopeUpdate where
  taskId : String
  workPhase : Option WorkPhase
  lifecyclePhase : Option TaskLifecyclePhase
  result : Option TaskResult
  summary : Option String
  shaping : Option TaskShapingFacts
  autonomyBoundary : Option (Option String)
  closeSummary : Option PersistedCloseSummary

structure TaskControlLevelUpdate where
  taskId : String
  effectiveControlLevel : TaskControlLevel
  controlLevelReason : String
  acceptancePolicy : Option AcceptancePolicy
  acceptancePolicyReason : Option String

structure AcceptanceCriterionUpsert where
  (acceptanceCriterionId statement : String)
  evidenceRequirement : EvidenceRequirement
  position : Nat

structure AcceptanceCriteriaReplace where
  taskId : String
  criteria : List AcceptanceCriterionUpsert

structure TaskCloseBasisUpdate where
  taskId : String
  closeBasisRevision : Nat
  closeBasis : Option CurrentCloseBasis

structure TaskCloseUpdate where
  taskId : String
  lifecyclePhase : TaskLifecyclePhase
  result : TaskResult
  closeSummary : PersistedCloseSummary
  closedAt : UtcTimestamp

inductive TaskMutation where
  | insert (input : TaskInsert)
  | setActive (taskId : String)
  | supersede (taskId : String)
  | close (input : TaskCloseUpdate)
  | updateControlLevel (input : TaskControlLevelUpdate)
  | updateScope (input : TaskScopeUpdate)
  | updateScopeRevision (taskId : String) (scopeRevision : Nat)
  | updateCloseBasis (input : TaskCloseBasisUpdate)
  | replaceAcceptanceCriteria (input : AcceptanceCriteriaReplace)

structure ChangeUnitInsert where
  (changeUnitId taskId : String)
  boundedPaths : List String
  writeBasis : StoredChangeUnitWriteBasis
  effectContract : Option ChangeUnitEffectContract
  recoveryRequired : Bool

inductive ChangeUnitMutation where
  | insertCurrent (input : ChangeUnitInsert)
  | replaceCurrent (input : ChangeUnitInsert)

/-- The row an insert writes; the columns it does not name take their defaults. -/
def TaskInsert.row (input : TaskInsert) : TaskRecord where
  taskId := input.taskId
  mode := input.mode
  requestedControlLevel := input.requestedControlLevel
  effectiveControlLevel := input.effectiveControlLevel
  controlLevelReason := input.controlLevelReason
  workPhase := input.workPhase
  acceptancePolicy := input.acceptancePolicy
  acceptancePolicyReason := input.acceptancePolicyReason
  predecessorTaskId := input.predecessorTaskId
  lineageRelation := input.lineageRelation
  lineageReason := input.lineageReason
  lifecyclePhase := input.lifecyclePhase
  result := input.result
  summary := input.summary
  shaping := input.shaping
  autonomyBoundary := input.autonomyBoundary
  scopeRevision := 0
  closeBasisRevision := 0
  closeBasis := none
  closeSummary := input.closeSummary
  currentChangeUnitId := input.currentChangeUnitId
  closedAt := none
  policyReevaluation := none

namespace CoreTables

variable (t : CoreTables)

/-- The checks of `CREATE TABLE tasks` on lineage. -/
def taskConstraintsHold (row : TaskRecord) : Bool :=
  match row.predecessorTaskId, row.lineageRelation, row.lineageReason with
  | none, none, none => true
  | some predecessor, some _, some reason =>
    sqlNonblank reason && predecessor ≠ row.taskId && (t.taskRow predecessor).isSome
  | _, _, _ => false

def insertTask (input : TaskInsert) (t : CoreTables) : StoreResult CoreTables := do
  validateIdentifier "task_id" input.taskId
  validateIdentifier "control_level_reason" input.controlLevelReason
  ensure (!Text.isBlank input.acceptancePolicyReason) (.schemaInvariant projectStateDatabaseKind
    "Task acceptance policy reason must not be empty")
  let tasks ← insertRow t.tasks input.row (t.taskConstraintsHold input.row) "tasks"
  return { t with tasks := tasks }

variable (taskId : String)

def setActiveTask (t : CoreTables) : StoreResult CoreTables := do
  validateIdentifier "task_id" taskId
  return { t with activeTaskId := some taskId }

def supersedeTask (committedAt taskId : String) (t : CoreTables) : StoreResult CoreTables := do
  validateIdentifier "task_id" taskId
  let t ← t.supersedeTaskShapingApplications committedAt taskId
  return { t with
    tasks := t.tasks.update taskId ({ · with
      lifecyclePhase := .superseded, result := some .superseded
      closeSummary := { PersistedCloseSummary.open with closeReason := .superseded }
      closedAt := some committedAt }) }

/-- `UPDATE tasks … WHERE task_id = ?`, which has to change one row. -/
def updateTask (taskId unchanged : String) (f : TaskRecord → TaskRecord) (t : CoreTables)
    (hf : ∀ row, (f row).taskId = row.taskId := by intros; rfl) : StoreResult CoreTables := do
  ensure (t.taskRow taskId).isSome (.schemaInvariant projectStateDatabaseKind unchanged)
  return { t with tasks := t.tasks.update taskId f hf }

def closeTask (X : External) (committedAt : String) (input : TaskCloseUpdate) (t : CoreTables) :
    StoreResult CoreTables := do
  validateIdentifier "task_id" input.taskId
  let t ← t.supersedeTaskShapingApplications committedAt input.taskId
  t.updateTask input.taskId "Task close transition changed no rows" ({ · with
    lifecyclePhase := input.lifecyclePhase, result := some input.result
    closeSummary := input.closeSummary
    closedAt := some (X.chrono.toCanonicalString input.closedAt) })

def clearSatisfied (level : TaskControlLevel) (acceptance : AcceptancePolicy) :
    Option TaskPolicyControlReevaluation → Option TaskPolicyControlReevaluation
  | none => none
  | some mark =>
    if mark.requiredEffectiveControlLevel ≤ level
      && mark.requiredAcceptancePolicy.all (·.rank ≤ acceptance.rank) then none else some mark

def updateTaskControlLevel (input : TaskControlLevelUpdate) (t : CoreTables) :
    StoreResult CoreTables := do
  validateIdentifier "task_id" input.taskId
  validateIdentifier "control_level_reason" input.controlLevelReason
  ensure (match input.acceptancePolicy, input.acceptancePolicyReason with
      | none, none => true
      | some _, some reason => !Text.isBlank reason
      | _, _ => false)
    (.invalidInput
      "acceptance_policy and acceptance_policy_reason must be supplied together with a non-empty reason")
  let task ← okOr (.notFound "task" input.taskId) (t.taskRow input.taskId)
  ensure (task.effectiveControlLevel ≤ input.effectiveControlLevel)
    (.conflict "task" input.taskId "effective Task control level cannot decrease")
  ensure (input.acceptancePolicy.all fun policy => task.acceptancePolicy.rank ≤ policy.rank)
    (.conflict "task" input.taskId "Task acceptance policy cannot decrease")
  let acceptance := input.acceptancePolicy.getD task.acceptancePolicy
  return { t with
    tasks := t.tasks.update input.taskId fun row => { row with
      effectiveControlLevel := input.effectiveControlLevel
      controlLevelReason := input.controlLevelReason
      acceptancePolicy := acceptance
      acceptancePolicyReason := input.acceptancePolicyReason.getD row.acceptancePolicyReason
      policyReevaluation :=
        clearSatisfied input.effectiveControlLevel acceptance row.policyReevaluation } }

/-- `trg_implementation_task_shaping_authority_guard`, on the row as it will be. -/
def implementationGuardHolds (old new : TaskRecord) : Bool :=
  old.workPhase ≠ .implementation || (t.currentApplications old.taskId).all fun row =>
    row.hasCoordinates new.scopeRevision new.shaping.baselineRef new.currentChangeUnitId

def updateGuardedTask (taskId unchanged : String) (f : TaskRecord → TaskRecord) (t : CoreTables)
    (hf : ∀ row, (f row).taskId = row.taskId := by intros; rfl) : StoreResult CoreTables := do
  ensure ((t.taskRow taskId).all fun row => t.implementationGuardHolds row (f row))
    (.sqlite "implementation scope update would stale current shaping authority")
  t.updateTask taskId unchanged f hf

/-- One optional column of `update_task_scope`. -/
def updateOptionalColumn {α : Type} (taskId column : String) (value : Option α)
    (set : α → TaskRecord → TaskRecord) (t : CoreTables)
    (hset : ∀ a row, (set a row).taskId = row.taskId := by intros; rfl) :
    StoreResult CoreTables :=
  match value with
  | none => .ok t
  | some a => t.updateTask taskId ("Task column " ++ column ++ " update changed no rows") (set a)
      (hset a)

def updateTaskScope (input : TaskScopeUpdate) (t : CoreTables) : StoreResult CoreTables := do
  validateIdentifier "task_id" input.taskId
  let t ← match input.shaping with
    | none => pure t
    | some shaping =>
      t.updateGuardedTask input.taskId "Task column shaping_summary_json update changed no rows"
        ({ · with shaping := shaping })
  let t ← t.updateOptionalColumn input.taskId "autonomy_boundary_json" input.autonomyBoundary
    fun autonomyBoundary row => { row with autonomyBoundary := autonomyBoundary }
  let t ← t.updateOptionalColumn input.taskId "close_summary_json" input.closeSummary
    fun closeSummary row => { row with closeSummary := closeSummary }
  let t ← t.updateOptionalColumn input.taskId "lifecycle_phase" input.lifecyclePhase
    fun lifecyclePhase row => { row with lifecyclePhase := lifecyclePhase }
  let t ← t.updateOptionalColumn input.taskId "work_phase" input.workPhase
    fun workPhase row => { row with workPhase := workPhase }
  let t ← t.updateOptionalColumn input.taskId "result" input.result
    fun result row => { row with result := some result }
  t.updateOptionalColumn input.taskId "summary" input.summary
    fun summary row => { row with summary := some summary }

def updateTaskScopeRevision (scopeRevision : Nat) (t : CoreTables) : StoreResult CoreTables := do
  validateIdentifier "task_id" taskId
  let _ ← u64ToI64 "tasks.scope_revision" scopeRevision
  t.updateGuardedTask taskId "Task scope revision update changed no rows"
    ({ · with scopeRevision := scopeRevision })

def updateTaskCloseBasis (input : TaskCloseBasisUpdate) (t : CoreTables) :
    StoreResult CoreTables := do
  validateIdentifier "task_id" input.taskId
  let _ ← u64ToI64 "tasks.close_basis_revision" input.closeBasisRevision
  t.updateTask input.taskId "Task close-basis update changed no rows" ({ · with
    closeBasisRevision := input.closeBasisRevision, closeBasis := input.closeBasis })

/-- One criterion of `replace_acceptance_criteria`: insert, or update an active row of the
same Task. -/
def upsertCriterion (t : CoreTables) (criterion : AcceptanceCriterionUpsert) :
    StoreResult CoreTables := do
  validateIdentifier "acceptance_criterion_id" criterion.acceptanceCriterionId
  ensure (!Text.isBlank criterion.statement) (.schemaInvariant projectStateDatabaseKind
    "acceptance criterion statement must not be empty")
  ensure ((criterion.position : Int) ≤ i64Max) (.schemaInvariant projectStateDatabaseKind
    "acceptance criterion position exceeds SQLite INTEGER range")
  match t.acceptanceCriteria.find? criterion.acceptanceCriterionId with
  | some _ => return { t with
      acceptanceCriteria := t.acceptanceCriteria.updateWhere
        (fun row => row.acceptanceCriterionId = criterion.acceptanceCriterionId
          && row.taskId = taskId && row.status = .active)
        ({ · with statement := criterion.statement
                  evidenceRequirement := criterion.evidenceRequirement
                  position := criterion.position }) }
  | none =>
    let rows ← insertRow t.acceptanceCriteria
      ⟨criterion.acceptanceCriterionId, taskId, criterion.statement,
        criterion.evidenceRequirement, criterion.position, .active⟩
      (t.taskRow taskId).isSome "acceptance_criteria"
    return { t with acceptanceCriteria := rows }

def replaceAcceptanceCriteria (input : AcceptanceCriteriaReplace) (t : CoreTables) :
    StoreResult CoreTables := do
  validateIdentifier "task_id" input.taskId
  let t ← input.criteria.foldlM (upsertCriterion input.taskId) t
  let ids := input.criteria.map (·.acceptanceCriterionId)
  return { t with
    acceptanceCriteria := t.acceptanceCriteria.updateWhere
      (fun row => row.taskId = input.taskId && row.status = .active
        && !ids.contains row.acceptanceCriterionId)
      ({ · with status := .retired }) }

/- Change Units. -/

variable (committedStateVersion : Nat) (input : ChangeUnitInsert)

def insertChangeUnit (t : CoreTables) : StoreResult CoreTables := do
  validateIdentifier "change_unit_id" input.changeUnitId
  validateIdentifier "task_id" input.taskId
  let mode ← t.taskMode input.taskId
  ensure (mode ≠ .advisor || advisorCompatibleChangeUnit input.boundedPaths input.effectContract)
    (.invalidInput "an advisor Task cannot retain a write-capable current Change Unit")
  let row : ChangeUnitRecord :=
    { changeUnitId := input.changeUnitId, taskId := input.taskId, status := .active
      isCurrent := true, basisStateVersion := committedStateVersion
      boundedPaths := input.boundedPaths, writeBasis := input.writeBasis
      effectContract := input.effectContract, recoveryRequired := input.recoveryRequired }
  -- `idx_change_units_one_current_active`
  let rows ← insertRow t.changeUnits row (t.currentChangeUnitRow input.taskId).isNone
    "change_units"
  return { t with changeUnits := rows }

def setTaskCurrentChangeUnit (taskId changeUnitId : String) (t : CoreTables) :
    StoreResult CoreTables := do
  validateIdentifier "task_id" taskId
  t.updateGuardedTask taskId "Task current Change Unit update changed no rows" ({ · with
    currentChangeUnitId := some changeUnitId, lifecyclePhase := .ready })

def insertCurrentChangeUnit (t : CoreTables) : StoreResult CoreTables := do
  let t ← t.insertChangeUnit committedStateVersion input
  t.setTaskCurrentChangeUnit input.taskId input.changeUnitId

def replaceCurrentChangeUnit (t : CoreTables) : StoreResult CoreTables := do
  validateIdentifier "task_id" input.taskId
  let t := { t with
    changeUnits := t.changeUnits.updateWhere (ChangeUnitIsCurrent input.taskId)
      ({ · with status := .replaced, isCurrent := false }) }
  t.insertCurrentChangeUnit committedStateVersion input

/- Reads. -/

/-- `current_change_unit`, with its check of an Advisor Task. -/
def currentChangeUnit : StoreResult (Option ChangeUnitRecord) :=
  match t.currentChangeUnitRow taskId with
  | none => .ok none
  | some row => do
    let mode ← t.taskMode taskId
    ensure (mode ≠ .advisor || advisorCompatibleChangeUnit row.boundedPaths row.effectContract)
      (.schemaInvariant projectStateDatabaseKind "advisor current Change Unit is write-capable")
    return some row

theorem currentChangeUnit_mem {t : CoreTables} {taskId : String} {row : ChangeUnitRecord}
    (h : t.currentChangeUnit taskId = .ok (some row)) :
    row ∈ t.changeUnits.rows ∧ row.taskId = taskId := by
  unfold currentChangeUnit at h
  cases hcurrent : t.currentChangeUnitRow taskId with
  | none =>
    rw [hcurrent] at h
    cases h
  | some current =>
    simp only [hcurrent, steps_ok, Option.some.injEq] at h
    obtain ⟨_, _, _, _, rfl⟩ := h
    have hselected := List.find?_some hcurrent
    simp only [ChangeUnitIsCurrent, Bool.and_eq_true, decide_eq_true_eq] at hselected
    exact ⟨List.mem_of_find?_eq_some hcurrent, hselected.1.1⟩

def closeBasisCoordinatesMatch (task : TaskRecord) (basis : CurrentCloseBasis) : Bool :=
  basis.taskId = task.taskId && basis.scopeRevision = task.scopeRevision
  && basis.closeBasisRevision = task.closeBasisRevision
  && basis.baselineRef = task.shaping.baselineRef
  && task.currentChangeUnitId = some basis.changeUnitId

/-- `checkpoint_matches`: SQL equality, so a Task without baseline matches none. -/
def advisorCheckpointMatches (task : TaskRecord) (checkpointId : String) : Bool :=
  (t.shapingCheckpoints.find? checkpointId).any fun row =>
    row.taskId = task.taskId && row.readiness ≠ .superseded
    && row.scopeRevision = task.scopeRevision
    && row.baselineRef.isSome && row.baselineRef = task.shaping.baselineRef

variable (projectId : String)

/-- `validate_task_aggregate`. Both id lists are sorted by the source, so they agree when
one is a permutation of the other. -/
def validateTaskAggregate (t : CoreTables) (task : TaskRecord) : StoreResult TaskRecord :=
  let invariant := StoreError.schemaInvariant projectStateDatabaseKind
  match task.closeBasis with
  | none => .ok task
  | some basis => do
    ensure (closeBasisCoordinatesMatch task basis)
      (invariant "current close basis does not match its Task aggregate coordinates")
    if task.mode = .advisor then
      let checkpointRef ← okOr
        (invariant "advisor close basis has invalid checkpoint-backed lineage")
        (basis.shapingCheckpointRef.filter fun reference =>
          basis.sourceRunRef.isNone
          && reference.belongsTo .shapingCheckpoint projectId task.taskId)
      let changeUnit ← t.currentChangeUnit task.taskId
      ensure (t.advisorCheckpointMatches task checkpointRef.recordId
          && (changeUnit.any fun row => row.changeUnitId = basis.changeUnitId
            && advisorCompatibleChangeUnit row.boundedPaths row.effectContract)
          && (t.linkedApplicationIds checkpointRef.recordId).isPerm
            (basis.shapingDecisionApplicationRefs.map (·.recordId)))
        (invariant "advisor close basis does not match its current Change Unit, checkpoint, or shaping decision applications")
    else
      ensure (basis.sourceRunRef.isSome && basis.shapingCheckpointRef.isNone
          && basis.shapingDecisionApplicationRefs.isEmpty)
        (invariant "direct/work close basis must remain Run-backed")
    return task

def taskRecord (t : CoreTables) (taskId : String) : StoreResult (Option TaskRecord) :=
  match t.taskRow taskId with
  | none => .ok none
  | some task => (t.validateTaskAggregate projectId task).map some

def activeTaskRecord (t : CoreTables) : StoreResult (Option TaskRecord) :=
  match t.activeTaskId with
  | none => .ok none
  | some taskId => t.taskRecord projectId taskId

end CoreTables

def TaskMutation.apply (X : External) (context : MutationContext) (t : CoreTables) :
    TaskMutation → StoreResult CoreTables
  | .insert input => t.insertTask input
  | .setActive taskId => t.setActiveTask taskId
  | .supersede taskId => t.supersedeTask context.committedAt taskId
  | .close input => t.closeTask X context.committedAt input
  | .updateControlLevel input => t.updateTaskControlLevel input
  | .updateScope input => t.updateTaskScope input
  | .updateScopeRevision taskId scopeRevision => t.updateTaskScopeRevision taskId scopeRevision
  | .updateCloseBasis input => t.updateTaskCloseBasis input
  | .replaceAcceptanceCriteria input => t.replaceAcceptanceCriteria input

def ChangeUnitMutation.apply (committedStateVersion : Nat) (t : CoreTables) :
    ChangeUnitMutation → StoreResult CoreTables
  | .insertCurrent input => t.insertCurrentChangeUnit committedStateVersion input
  | .replaceCurrent input => t.replaceCurrentChangeUnit committedStateVersion input

end Volicord
