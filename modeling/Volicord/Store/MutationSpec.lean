import Volicord.Lib.Frame
import Volicord.Store.Mutations

/-! What a storage mutation leaves alone: each kind of mutation has a frame of tables, and the
columns of a Task that say how it ended move under a few mutations only. -/
namespace Volicord
open Result Relational
variable {input : ShapingCheckpointInsert} {checkpointId : String} {taskId : String}
  {unchanged : String} {row : StoredWriteTicket}

def shapingFrame : Frame CoreTables where
  overlay t s := { t with
    userActionRequests := s.userActionRequests, shapingCheckpoints := s.shapingCheckpoints
    shapingGaps := s.shapingGaps, shapingGapLinks := s.shapingGapLinks
    shapingApplications := s.shapingApplications
    shapingApplicationLinks := s.shapingApplicationLinks
    shapingReauthorizations := s.shapingReauthorizations }
  overlay_self _ := rfl
  overlay_overlay _ _ _ := rfl

/-- The applications of shaping decisions and the requests behind them. -/
def applicationFrame : Frame CoreTables where
  overlay t s := { t with
    userActionRequests := s.userActionRequests, shapingApplications := s.shapingApplications }
  overlay_self _ := rfl
  overlay_overlay _ _ _ := rfl

/-- What the succession of a checkpoint writes: the gaps and their links are not among it. -/
def successionFrame : Frame CoreTables where
  overlay t s := { t with
    userActionRequests := s.userActionRequests, shapingApplications := s.shapingApplications
    shapingCheckpoints := s.shapingCheckpoints }
  overlay_self _ := rfl
  overlay_overlay _ _ _ := rfl

/-- The lineage of a checkpoint: what it carries on of earlier decisions. -/
def lineageFrame : Frame CoreTables where
  overlay t s := { t with
    shapingApplicationLinks := s.shapingApplicationLinks
    shapingReauthorizations := s.shapingReauthorizations }
  overlay_self _ := rfl
  overlay_overlay _ _ _ := rfl

namespace CoreTables
variable {X : External} {committedAt projectId : String} {t t' : CoreTables}
  {status : ShapingDecisionApplicationAuthorityStatus} {actions : List StaleShapingAuthorityAction}
  {applications : List ShapingGapApplication} {owner : ShapingDecisionApplicationOwner}
  {basis : ShapingApplicationBasis}

theorem insertRow_ok {α κ : Type} [DecidableEq κ] {key : α → κ} {table table' : Table key}
    {row : α} {constraintsHold : Bool} {name : String} :
    insertRow table row constraintsHold name = .ok table' ↔
      constraintsHold ∧ table.insert? row = some table' := by
  simp only [insertRow, steps_ok]

theorem invalidateApplication_only {applicationId requestId : String}
    (h : invalidateApplication committedAt status t applicationId requestId = .ok t') :
    applicationFrame.Only t t' := by
  simp only [invalidateApplication, steps_ok] at h
  obtain ⟨_, h⟩ := h
  split at h
  · cases h
  · split at h
    · obtain rfl := pure_eq_ok.mp h
      rfl
    · simp only [steps_ok] at h
      obtain ⟨_, rfl⟩ := h
      rfl

theorem invalidateApplicationRows_only {rows : List ShapingDecisionApplicationRow}
    (h : invalidateApplicationRows committedAt status t rows = .ok t') :
    applicationFrame.Only t t' := by
  simp only [invalidateApplicationRows, steps_ok] at h
  exact Frame.Only.foldlM (fun _ _ _ _ => invalidateApplication_only) h.2

theorem supersedeCheckpoints_only {select : ShapingCheckpointRow → Bool}
    (h : t.supersedeCheckpoints select = .ok t') : successionFrame.Only t t' := by
  simp only [supersedeCheckpoints, steps_ok] at h
  obtain ⟨_, rfl⟩ := h
  rfl

theorem supersedeCurrentShapingCheckpoint_only
    (h : t.supersedeCurrentShapingCheckpoint committedAt taskId = .ok t') :
    successionFrame.Only t t' := by
  obtain ⟨t₁, hinvalidated, hrest⟩ := bind_eq_ok.mp h
  exact ((invalidateApplicationRows_only hinvalidated).mono fun _ _ => rfl).trans
    (supersedeCheckpoints_only hrest)

theorem applySelectedGap_only {mode : TaskMode} {application : ShapingGapApplication}
    (h : applySelectedGap X taskId checkpointId mode owner basis application t = .ok t') :
    shapingFrame.Only t t' := by
  simp only [applySelectedGap, steps_ok] at h
  obtain ⟨_, _, _, _, gap, _, link, _, request, _, policy, _, _, judgmentKind, _, baselineRef, _, _,
    _, _, applications, _, links, _, rfl⟩ := h
  rfl

theorem applySelectedGaps_only
    (h : applySelectedGaps X taskId checkpointId owner basis applications t = .ok t') :
    shapingFrame.Only t t' := by
  simp only [applySelectedGaps, steps_ok] at h
  obtain ⟨_, _, _, h⟩ := h
  exact Frame.Only.foldlM (fun _ _ _ _ => applySelectedGap_only) h

theorem resolveShapingGap_only {requestId resolutionId : String} {disposition : ShapingGapStatus}
    (h : t.resolveShapingGap requestId resolutionId disposition = .ok t') :
    shapingFrame.Only t t' := by
  simp only [resolveShapingGap, steps_ok] at h
  obtain ⟨_, _, _, _, _, _, _, _, _, _, h⟩ := h
  split at h
  · obtain rfl := pure_eq_ok.mp h
    rfl
  · simp only [steps_ok] at h
    obtain ⟨_, rfl⟩ := h
    rfl

theorem applyScopeAndRebase_only {scopeRevision : Nat} {baselineRef changeUnitId : Option String}
    (h : t.applyScopeAndRebaseCurrentShapingCheckpoint X committedAt taskId checkpointId
      scopeRevision baselineRef changeUnitId applications = .ok t') : shapingFrame.Only t t' := by
  simp only [applyScopeAndRebaseCurrentShapingCheckpoint, steps_ok] at h
  obtain ⟨_, _, _, _, _, _, _, _, _, _, t₁, hinvalidated, t₂, happlied, _, _, rfl⟩ := h
  exact ((invalidateApplicationRows_only hinvalidated).mono fun _ _ => rfl).trans
    ((applySelectedGaps_only happlied).trans rfl)

theorem applyAdvisorShapingFinalization_only {input : ShapingAdvanceApplication}
    (h : t.applyAdvisorShapingFinalization X input = .ok t') : shapingFrame.Only t t' := by
  simp only [applyAdvisorShapingFinalization, steps_ok] at h
  obtain ⟨_, _, _, _, _, t₁, happlied, _, _, _, rfl⟩ := h
  exact applySelectedGaps_only happlied

theorem retireCheckpointUserActions_only {refs : List StateRecordRef}
    (h : t.retireCheckpointUserActions projectId input checkpointId refs = .ok t') :
    successionFrame.Only t t' := by
  simp only [retireCheckpointUserActions, steps_ok] at h
  obtain ⟨_, _, _, _, rfl⟩ := h
  rfl

theorem consumeStaleApplication_only {mode : TaskMode} {row : ShapingDecisionApplicationRow}
    (h : consumeStaleApplication committedAt mode input actions t row = .ok t') :
    successionFrame.Only t t' := by
  simp only [consumeStaleApplication, steps_ok] at h
  obtain ⟨_, _, _, _, _, _, _, rfl⟩ := h
  rfl

theorem consumeStaleAuthority_only
    (h : consumeStaleAuthority committedAt projectId input actions t = .ok t') :
    successionFrame.Only t t' := by
  simp only [consumeStaleAuthority, steps_ok] at h
  obtain ⟨_, _, _, _, _, h⟩ := h
  exact Frame.Only.foldlM (fun _ _ _ _ => consumeStaleApplication_only) h

theorem applyCheckpointSuccession_only {predecessor : Option String}
    (h : applyCheckpointSuccession committedAt projectId input t = .ok (predecessor, t')) :
    successionFrame.Only t t' := by
  simp only [applyCheckpointSuccession, steps_ok] at h
  obtain ⟨_, h⟩ := h
  split at h
  · simp only [steps_ok, Prod.mk.injEq] at h
    obtain ⟨_, _, rfl⟩ := h
    rfl
  · simp only [steps_ok, Prod.mk.injEq] at h
    obtain ⟨_, _, _, t₁, hretired, t₂, hconsumed, t₃, hsuperseded, _, rfl⟩ := h
    exact (retireCheckpointUserActions_only hretired).trans
      ((consumeStaleAuthority_only hconsumed).trans (supersedeCheckpoints_only hsuperseded))

theorem insertShapingGap_only {checkpoint : ShapingCheckpointInsert}
    {gap : ShapingCheckpointGapInsert} (h : insertShapingGap checkpoint t gap = .ok t') :
    shapingFrame.Only t t' := by
  simp only [insertShapingGap, steps_ok] at h
  obtain ⟨_, _, _, _, _, _, _, gaps, _, h⟩ := h
  split at h
  · obtain rfl := pure_eq_ok.mp h
    rfl
  · simp only [steps_ok] at h
    obtain ⟨_, _, rfl⟩ := h
    rfl

theorem insertStaleAuthorityLineage_only {disposition : ShapingStaleAuthorityDisposition}
    (h : insertStaleAuthorityLineage X committedAt input t disposition = .ok t') :
    lineageFrame.Only t t' := by
  simp only [insertStaleAuthorityLineage, steps_ok] at h
  obtain ⟨_, _, rfl⟩ := h
  rfl

theorem insertCarriedApplicationLink_only {predecessorId applicationId : String}
    (h : insertCarriedApplicationLink input predecessorId t applicationId = .ok t') :
    lineageFrame.Only t t' := by
  simp only [insertCarriedApplicationLink, steps_ok] at h
  obtain ⟨_, _, rfl⟩ := h
  rfl

section
variable (h : t.recordShapingCheckpoint X committedAt projectId input = .ok t')
include h

/-- A checkpoint is recorded in four steps: the one before it is superseded, its own row and
its gaps are inserted, and its lineage is written. -/
theorem recordShapingCheckpoint_ok : ∃ predecessor t₁ row checkpoints t₂,
      applyCheckpointSuccession committedAt projectId input t = .ok (predecessor, t₁) ∧
      (t₁.checkpointConstraintsHold row ∧ t₁.shapingCheckpoints.insert? row = some checkpoints) ∧
      row.predecessorShapingCheckpointId = predecessor ∧
      input.gaps.foldlM (insertShapingGap input) { t₁ with shapingCheckpoints := checkpoints }
        = .ok t₂ ∧
      lineageFrame.Only t₂ t' := by
  simp only [recordShapingCheckpoint, bind_eq_ok] at h
  obtain ⟨_, _, _, _, _, _, ⟨predecessor, t₁⟩, hsuccession, checkpoints, hinsert, t₂, hgaps,
    t₃, hlineage, h⟩ := h
  have hlinks : lineageFrame.Only t₃ t' := by
    cases predecessor with
    | none =>
      simp only [steps_ok] at h
      obtain ⟨_, rfl, _, _, rfl⟩ := h
      rfl
    | some predecessorId =>
      simp only [steps_ok] at h
      obtain ⟨t₄, hcarried, _, _, rfl⟩ := h
      exact Frame.Only.foldlM (fun _ _ _ _ => insertCarriedApplicationLink_only) hcarried
  exact ⟨predecessor, t₁, _, checkpoints, t₂, hsuccession, insertRow_ok.mp hinsert, rfl, hgaps,
    (Frame.Only.foldlM (fun _ _ _ _ => insertStaleAuthorityLineage_only) hlineage).trans hlinks⟩

theorem recordShapingCheckpoint_only : shapingFrame.Only t t' := by
  obtain ⟨predecessor, t₁, _, checkpoints, t₂, hsuccession, _, _, hgaps, hlineage⟩ :=
    recordShapingCheckpoint_ok h
  have hrow : shapingFrame.Only t₁ { t₁ with shapingCheckpoints := checkpoints } := rfl
  exact ((applyCheckpointSuccession_only hsuccession).mono fun _ _ => rfl).trans (hrow.trans
    ((Frame.Only.foldlM (fun _ _ _ _ => insertShapingGap_only) hgaps).trans
      (hlineage.mono fun _ _ => rfl)))

end

end CoreTables

def taskFrame : Frame CoreTables where
  overlay t s := { t with
    activeTaskId := s.activeTaskId, tasks := s.tasks, acceptanceCriteria := s.acceptanceCriteria
    userActionRequests := s.userActionRequests, shapingApplications := s.shapingApplications }
  overlay_self _ := rfl
  overlay_overlay _ _ _ := rfl

def changeUnitFrame : Frame CoreTables where
  overlay t s := { t with tasks := s.tasks, changeUnits := s.changeUnits }
  overlay_self _ := rfl
  overlay_overlay _ _ _ := rfl

def writeTicketFrame : Frame CoreTables where
  overlay t s := { t with writeTickets := s.writeTickets }
  overlay_self _ := rfl
  overlay_overlay _ _ _ := rfl

def runFrame : Frame CoreTables where
  overlay t s := { t with runs := s.runs }
  overlay_self _ := rfl
  overlay_overlay _ _ _ := rfl

def shapingTaskFrame : Frame CoreTables where
  overlay t s := { shapingFrame.overlay t s with tasks := s.tasks }
  overlay_self _ := rfl
  overlay_overlay _ _ _ := rfl

def requestFrame : Frame CoreTables where
  overlay t s := { t with userActionRequests := s.userActionRequests }
  overlay_self _ := rfl
  overlay_overlay _ _ _ := rfl

def userActionFrame : Frame CoreTables where
  overlay t s := { t with
    userActionRequests := s.userActionRequests, userActionResolutions := s.userActionResolutions }
  overlay_self _ := rfl
  overlay_overlay _ _ _ := rfl

def evidenceFrame : Frame CoreTables where
  overlay t s := { t with
    evidenceClaims := s.evidenceClaims, evidenceSummaries := s.evidenceSummaries
    evidenceObservations := s.evidenceObservations
    evidenceCaptureIntents := s.evidenceCaptureIntents, evidenceProducers := s.evidenceProducers }
  overlay_self _ := rfl
  overlay_overlay _ _ _ := rfl

def artifactFrame : Frame CoreTables where
  overlay t s := { t with
    artifacts := s.artifacts, artifactLinks := s.artifactLinks
    artifactStaging := s.artifactStaging }
  overlay_self _ := rfl
  overlay_overlay _ _ _ := rfl

def continuityFrame : Frame CoreTables where
  overlay t s := { t with unrecordedChanges := s.unrecordedChanges }
  overlay_self _ := rfl
  overlay_overlay _ _ _ := rfl

def workflowPolicyFrame : Frame CoreTables where
  overlay t s := { t with
    workflowPolicy := s.workflowPolicy, tasks := s.tasks, writeTickets := s.writeTickets }
  overlay_self _ := rfl
  overlay_overlay _ _ _ := rfl

def preparedFrame : Frame CoreTables where
  overlay t s := { t with tasks := s.tasks, writeTickets := s.writeTickets }
  overlay_self _ := rfl
  overlay_overlay _ _ _ := rfl

def StoredWriteTicket.grant (row : StoredWriteTicket) : StoredWriteTicket :=
  { row with
    status := .active, invalidationReason := none, consumedByRunId := none, consumedAt := none }

/- How a mutation edits the Task rows. -/

def CoreTables.EditsTask (t t' : CoreTables) (taskId : String) (edit : TaskRecord → TaskRecord) :
    Prop :=
  ∀ id, t'.taskRow id = if id = taskId then (t.taskRow id).map edit else t.taskRow id

theorem CoreTables.EditsTask.trans {t t₁ t₂ : CoreTables}
    {edit edit' : TaskRecord → TaskRecord} (h : t.EditsTask t₁ taskId edit)
    (h' : t₁.EditsTask t₂ taskId edit') : t.EditsTask t₂ taskId (edit' ∘ edit) := by
  intro id
  rw [h' id, h id]
  by_cases hid : id = taskId
  · simp only [hid, if_true, Option.map_map]
  · simp only [hid, if_false]

theorem CoreTables.EditsTask.of_tasks_eq {t t₁ t' : CoreTables}
    {edit : TaskRecord → TaskRecord} (h : t₁.EditsTask t' taskId edit) (heq : t₁.tasks = t.tasks) :
    t.EditsTask t' taskId edit := by
  intro id
  have hrow : t₁.taskRow id = t.taskRow id := congrArg (·.find? id) heq
  rw [h id, hrow]

def TaskScopeUpdate.edit (input : TaskScopeUpdate) (row : TaskRecord) : TaskRecord :=
  { row with
    shaping := input.shaping.getD row.shaping
    autonomyBoundary := input.autonomyBoundary.getD row.autonomyBoundary
    closeSummary := input.closeSummary.getD row.closeSummary
    lifecyclePhase := input.lifecyclePhase.getD row.lifecyclePhase
    workPhase := input.workPhase.getD row.workPhase
    result := input.result.or row.result
    summary := input.summary.or row.summary }

def TaskControlLevelUpdate.edit (input : TaskControlLevelUpdate) (row : TaskRecord) : TaskRecord :=
  let acceptance := input.acceptancePolicy.getD row.acceptancePolicy
  { row with
    effectiveControlLevel := input.effectiveControlLevel
    controlLevelReason := input.controlLevelReason
    acceptancePolicy := acceptance
    acceptancePolicyReason := input.acceptancePolicyReason.getD row.acceptancePolicyReason
    policyReevaluation :=
      CoreTables.clearSatisfied input.effectiveControlLevel acceptance row.policyReevaluation }

def TaskCloseUpdate.edit (X : External) (input : TaskCloseUpdate) (row : TaskRecord) : TaskRecord :=
  { row with
    lifecyclePhase := input.lifecyclePhase, result := some input.result
    closeSummary := input.closeSummary
    closedAt := some (X.chrono.toCanonicalString input.closedAt) }

def TaskRecord.supersededAt (committedAt : String) (row : TaskRecord) : TaskRecord :=
  { row with
    lifecyclePhase := .superseded, result := some .superseded
    closeSummary := { PersistedCloseSummary.open with closeReason := .superseded }
    closedAt := some committedAt }

inductive TaskEffect where
  | none
  | insert (row : TaskRecord)
  | edit (taskId : String) (change : TaskRecord → TaskRecord)

def CoreStorageMutation.taskEffect (X : External) (context : MutationContext) :
    CoreStorageMutation → TaskEffect
  | .task (.insert input) => .insert input.row
  | .task (.supersede taskId) => .edit taskId (·.supersededAt context.committedAt)
  | .task (.close input) => .edit input.taskId (input.edit X)
  | .task (.updateControlLevel input) => .edit input.taskId input.edit
  | .task (.updateScope input) => .edit input.taskId input.edit
  | .task (.updateScopeRevision taskId scopeRevision) =>
    .edit taskId ({ · with scopeRevision := scopeRevision })
  | .task (.updateCloseBasis input) => .edit input.taskId ({ · with
      closeBasisRevision := input.closeBasisRevision, closeBasis := input.closeBasis })
  | .changeUnit (.insertCurrent input) | .changeUnit (.replaceCurrent input) =>
    .edit input.taskId ({ · with
      currentChangeUnitId := some input.changeUnitId, lifecyclePhase := .ready })
  | .shaping (.applyAdvanceAndTransition input) => .edit input.taskId ({ · with
      workPhase := .implementation, lifecyclePhase := .executing })
  | _ => .none

def TaskEffect.rowAfter (t : CoreTables) (id : String) : TaskEffect → Option TaskRecord
  | .none => t.taskRow id
  | .insert row => if id = row.taskId then some row else t.taskRow id
  | .edit taskId change => if id = taskId then (t.taskRow id).map change else t.taskRow id

namespace CoreTables
variable {X : External} {context : MutationContext} {committedAt : String}
  {version : Nat} {t t' : CoreTables}

theorem editsTask_update (t : CoreTables) (taskId : String) (edit : TaskRecord → TaskRecord)
    (hedit : ∀ row, (edit row).taskId = row.taskId) :
    t.EditsTask { t with tasks := t.tasks.update taskId edit hedit } taskId edit :=
  fun id => Table.find?_update t.tasks taskId edit hedit id

variable {edit : TaskRecord → TaskRecord} {hedit : ∀ row, (edit row).taskId = row.taskId}
  {mutation : ChangeUnitMutation}

theorem updateTask_ok (h : t.updateTask taskId unchanged edit hedit = .ok t') :
    (t.taskRow taskId).isSome ∧ t' = { t with tasks := t.tasks.update taskId edit hedit } := by
  simp only [updateTask, steps_ok] at h
  exact ⟨h.1, h.2.symm⟩

theorem updateGuardedTask_ok (h : t.updateGuardedTask taskId unchanged edit hedit = .ok t') :
    (t.taskRow taskId).isSome ∧ t' = { t with tasks := t.tasks.update taskId edit hedit } := by
  simp only [updateGuardedTask, steps_ok] at h
  exact updateTask_ok h.2

structure EditsTaskOnly (t t' : CoreTables) (taskId : String) (edit : TaskRecord → TaskRecord) :
    Prop where
  edits : t.EditsTask t' taskId edit
  rest : t' = { t with tasks := t'.tasks }

theorem EditsTaskOnly.trans {t t₁ t₂ : CoreTables} {edit edit' : TaskRecord → TaskRecord}
    (h : t.EditsTaskOnly t₁ taskId edit) (h' : t₁.EditsTaskOnly t₂ taskId edit') :
    t.EditsTaskOnly t₂ taskId (edit' ∘ edit) := by
  refine ⟨h.edits.trans h'.edits, ?_⟩
  have hsecond := h'.rest
  rw [h.rest] at hsecond
  exact hsecond

theorem updateTask_edits (h : t.updateTask taskId unchanged edit hedit = .ok t') : t.EditsTaskOnly
    t' taskId edit := by
  obtain ⟨_, rfl⟩ := updateTask_ok h
  exact ⟨editsTask_update t taskId edit hedit, rfl⟩

theorem updateGuardedTask_edits (h : t.updateGuardedTask taskId unchanged edit hedit = .ok t') :
    t.EditsTaskOnly t' taskId edit := by
  obtain ⟨_, rfl⟩ := updateGuardedTask_ok h
  exact ⟨editsTask_update t taskId edit hedit, rfl⟩

theorem EditsTaskOnly.none (t : CoreTables) (taskId : String) : t.EditsTaskOnly t taskId id := by
  refine ⟨fun i => ?_, rfl⟩
  simp

theorem updateOptionalColumn_edits {α : Type} {column : String} {value : Option α}
    {set : α → TaskRecord → TaskRecord} {hset : ∀ a row, (set a row).taskId = row.taskId}
    (h : t.updateOptionalColumn taskId column value set hset = .ok t')
    (edit : TaskRecord → TaskRecord) (hedit : ∀ row, value.elim row (set · row) = edit row) :
    t.EditsTaskOnly t' taskId edit := by
  obtain rfl : (fun row => value.elim row (set · row)) = edit := funext hedit
  unfold updateOptionalColumn at h
  cases value with
  | none =>
    obtain rfl := Except.ok.inj h
    exact EditsTaskOnly.none t taskId
  | some a => exact updateTask_edits h

theorem updateTaskScope_edits {input : TaskScopeUpdate} (h : t.updateTaskScope input = .ok t') :
    t.EditsTaskOnly t' input.taskId input.edit := by
  -- the shaping column first, under the implementation guard, then the others one by one
  cases hvalue : input.shaping
  all_goals
    simp only [updateTaskScope, hvalue, bind_eq_ok] at h
    obtain ⟨_, _, t₁, h₁, t₂, h₂, t₃, h₃, t₄, h₄, t₅, h₅, t₆, h₆, h₇⟩ := h
    have e₁ : t.EditsTaskOnly t₁ input.taskId
        (fun row => { row with shaping := input.shaping.getD row.shaping }) := by
      rw [hvalue]
      first
      | exact pure_eq_ok.mp h₁ ▸ EditsTaskOnly.none t input.taskId
      | exact updateGuardedTask_edits h₁
    have e₂ := updateOptionalColumn_edits h₂ (fun row => { row with
      autonomyBoundary := input.autonomyBoundary.getD row.autonomyBoundary })
      fun row => by cases input.autonomyBoundary <;> rfl
    have e₃ := updateOptionalColumn_edits h₃ (fun row => { row with
      closeSummary := input.closeSummary.getD row.closeSummary })
      fun row => by cases input.closeSummary <;> rfl
    have e₄ := updateOptionalColumn_edits h₄ (fun row => { row with
      lifecyclePhase := input.lifecyclePhase.getD row.lifecyclePhase })
      fun row => by cases input.lifecyclePhase <;> rfl
    have e₅ := updateOptionalColumn_edits h₅ (fun row => { row with
      workPhase := input.workPhase.getD row.workPhase })
      fun row => by cases input.workPhase <;> rfl
    have e₆ := updateOptionalColumn_edits h₆ (fun row => { row with
      result := input.result.or row.result })
      fun row => by cases input.result <;> rfl
    have e₇ := updateOptionalColumn_edits h₇ (fun row => { row with
      summary := input.summary.or row.summary })
      fun row => by cases input.summary <;> rfl
    exact e₁.trans (e₂.trans (e₃.trans (e₄.trans (e₅.trans (e₆.trans e₇)))))

theorem EditsTaskOnly.onlyTask (h : t.EditsTaskOnly t' taskId edit) : taskFrame.Only t t' := by
  have hrest := h.rest
  unfold Frame.Only
  rw [hrest]
  rfl

theorem taskRow_congr (h : t'.tasks = t.tasks) (id : String) : t'.taskRow id = t.taskRow id :=
  congrArg (·.find? id) h

theorem taskRow_insert {row : TaskRecord} {tasks : Table TaskRecord.taskId}
    (h : t.tasks.insert? row = some tasks) (id : String) :
    tasks.find? id = if id = row.taskId then some row else t.taskRow id := by
  rw [Table.find?_insert? h]
  by_cases hid : row.taskId = id
  · simp [hid]
  · simp [hid, Ne.symm hid, taskRow]

theorem upsertCriterion_only {criterion : AcceptanceCriterionUpsert}
    (h : upsertCriterion taskId t criterion = .ok t') :
    t' = { t with acceptanceCriteria := t'.acceptanceCriteria } := by
  simp only [upsertCriterion, steps_ok] at h
  obtain ⟨_, _, _, _, h⟩ := h
  split at h
  · obtain rfl := pure_eq_ok.mp h
    rfl
  · simp only [steps_ok] at h
    obtain ⟨_, _, rfl⟩ := h
    rfl

theorem replaceAcceptanceCriteria_only {input : AcceptanceCriteriaReplace}
    (h : t.replaceAcceptanceCriteria input = .ok t') :
    t' = { t with acceptanceCriteria := t'.acceptanceCriteria } := by
  simp only [replaceAcceptanceCriteria, steps_ok] at h
  obtain ⟨_, _, t₁, hupserts, rfl⟩ := h
  have hfold := foldlM_rel (R := fun s s' : CoreTables =>
      s' = { s with acceptanceCriteria := s'.acceptanceCriteria }) (fun _ => rfl)
    (fun s₁ s₂ s₃ h₁ h₂ => by rw [h₁] at h₂; exact h₂)
    (fun _ _ _ _ => upsertCriterion_only) hupserts
  rw [hfold]

theorem taskMutation_ok {mutation : TaskMutation} (h : mutation.apply X context t = .ok t') :
    taskFrame.Only t t' ∧ ∀ id, t'.taskRow id =
      ((CoreStorageMutation.task mutation).taskEffect X context).rowAfter t id := by
  cases mutation with
  | insert input =>
    simp only [TaskMutation.apply, insertTask, steps_ok, insertRow_ok] at h
    obtain ⟨_, _, _, _, _, tasks, ⟨_, hinsert⟩, rfl⟩ := h
    exact ⟨rfl, taskRow_insert hinsert⟩
  | setActive taskId =>
    simp only [TaskMutation.apply, setActiveTask, steps_ok] at h
    obtain ⟨_, _, rfl⟩ := h
    exact ⟨rfl, fun _ => rfl⟩
  | supersede taskId =>
    simp only [TaskMutation.apply, supersedeTask, steps_ok] at h
    obtain ⟨_, _, t₁, hinvalidated, rfl⟩ := h
    have honly := invalidateApplicationRows_only hinvalidated
    refine ⟨(honly.mono fun _ _ => rfl).trans rfl, ?_⟩
    exact (editsTask_update t₁ taskId _ _).of_tasks_eq (honly.eq (·.tasks) fun _ _ => rfl)
  | close input =>
    simp only [TaskMutation.apply, closeTask, bind_eq_ok] at h
    obtain ⟨_, _, t₁, hinvalidated, hupdated⟩ := h
    have honly := invalidateApplicationRows_only hinvalidated
    have hedits := updateTask_edits hupdated
    exact ⟨(honly.mono fun _ _ => rfl).trans hedits.onlyTask,
      hedits.edits.of_tasks_eq (honly.eq (·.tasks) fun _ _ => rfl)⟩
  | updateControlLevel input =>
    simp only [TaskMutation.apply, updateTaskControlLevel, steps_ok] at h
    obtain ⟨_, _, _, _, _, task, htask, _, _, rfl⟩ := h
    refine ⟨rfl, fun id => ?_⟩
    refine (editsTask_update t input.taskId _ _ id).trans ?_
    by_cases hid : id = input.taskId
    · subst hid
      simp [CoreStorageMutation.taskEffect, TaskEffect.rowAfter, htask, TaskControlLevelUpdate.edit]
    · simp [CoreStorageMutation.taskEffect, TaskEffect.rowAfter, hid]
  | updateScope input =>
    have hedits := updateTaskScope_edits h
    exact ⟨hedits.onlyTask, hedits.edits⟩
  | updateScopeRevision taskId scopeRevision =>
    simp only [TaskMutation.apply, updateTaskScopeRevision, bind_eq_ok] at h
    obtain ⟨_, _, _, _, hupdated⟩ := h
    have hedits := updateGuardedTask_edits hupdated
    exact ⟨hedits.onlyTask, hedits.edits⟩
  | updateCloseBasis input =>
    simp only [TaskMutation.apply, updateTaskCloseBasis, bind_eq_ok] at h
    obtain ⟨_, _, _, _, hupdated⟩ := h
    have hedits := updateTask_edits hupdated
    exact ⟨hedits.onlyTask, hedits.edits⟩
  | replaceAcceptanceCriteria input =>
    have honly := replaceAcceptanceCriteria_only h
    rw [honly]
    exact ⟨rfl, fun _ => rfl⟩

theorem insertCurrentChangeUnit_ok {input : ChangeUnitInsert}
    (h : t.insertCurrentChangeUnit version input = .ok t') :
    changeUnitFrame.Only t t' ∧ t.EditsTask t' input.taskId ({ · with
      currentChangeUnitId := some input.changeUnitId, lifecyclePhase := .ready }) := by
  simp only [insertCurrentChangeUnit, insertChangeUnit, setTaskCurrentChangeUnit, steps_ok] at h
  obtain ⟨t₁, ⟨_, _, _, _, _, _, _, _, _, rfl⟩, _, _, hupdated⟩ := h
  have hedits := updateGuardedTask_edits hupdated
  refine ⟨?_, hedits.edits⟩
  rw [hedits.rest]
  rfl

theorem changeUnitMutation_ok (X : External) (context : MutationContext)
    (h : mutation.apply version t = .ok t') :
    changeUnitFrame.Only t t' ∧ ∀ id, t'.taskRow id =
      ((CoreStorageMutation.changeUnit mutation).taskEffect X context).rowAfter t id := by
  cases mutation with
  | insertCurrent input => exact insertCurrentChangeUnit_ok h
  | replaceCurrent input =>
    simp only [ChangeUnitMutation.apply, replaceCurrentChangeUnit, bind_eq_ok] at h
    obtain ⟨_, _, hinsert⟩ := h
    obtain ⟨honly, hedits⟩ := insertCurrentChangeUnit_ok hinsert
    exact ⟨honly, hedits⟩

def changeUnitRow (version : Nat) (input : ChangeUnitInsert) : ChangeUnitRecord where
  changeUnitId := input.changeUnitId
  taskId := input.taskId
  status := .active
  isCurrent := true
  basisStateVersion := version
  boundedPaths := input.boundedPaths
  writeBasis := input.writeBasis
  effectContract := input.effectContract
  recoveryRequired := input.recoveryRequired

theorem insertCurrentChangeUnit_rows {input : ChangeUnitInsert}
    (h : t.insertCurrentChangeUnit version input = .ok t') :
    Text.isBlank input.changeUnitId = false ∧
      t.changeUnits.insert? (changeUnitRow version input) = some t'.changeUnits := by
  simp only [insertCurrentChangeUnit, insertChangeUnit, setTaskCurrentChangeUnit, steps_ok,
    insertRow_ok, validateIdentifier, Bool.not_eq_true'] at h
  obtain ⟨t₁, ⟨hid, _, _, _, _, rows, ⟨_, hinsert⟩, rfl⟩, _, hupdated⟩ := h
  refine ⟨hid, hinsert.trans ?_⟩
  rw [(updateGuardedTask_edits hupdated).rest]

section
variable (h : mutation.apply version t = .ok t') {row : ChangeUnitRecord}
include h

/-- Every Change Unit row was there before, but for its status, or is the one inserted. -/
theorem mem_changeUnits (hrow : row ∈ t'.changeUnits.rows) :
    (∃ old ∈ t.changeUnits.rows, ∃ status isCurrent,
        row = { old with status := status, isCurrent := isCurrent }) ∨
      ∃ input, (mutation = .insertCurrent input ∨ mutation = .replaceCurrent input) ∧
        Text.isBlank input.changeUnitId = false ∧ row = changeUnitRow version input := by
  cases mutation with
  | insertCurrent input =>
    obtain ⟨hid, hinsert⟩ := insertCurrentChangeUnit_rows h
    rcases (Table.mem_insert? hinsert).mp hrow with hold | rfl
    · exact .inl ⟨row, hold, row.status, row.isCurrent, rfl⟩
    · exact .inr ⟨input, .inl rfl, hid, rfl⟩
  | replaceCurrent input =>
    simp only [ChangeUnitMutation.apply, replaceCurrentChangeUnit, bind_eq_ok] at h
    obtain ⟨_, _, h⟩ := h
    obtain ⟨hid, hinsert⟩ := insertCurrentChangeUnit_rows h
    rcases (Table.mem_insert? hinsert).mp hrow with hold | rfl
    · obtain ⟨old, hmem, rfl⟩ := List.mem_map.mp hold
      refine .inl ⟨old, hmem, ?_⟩
      split
      · exact ⟨_, _, rfl⟩
      · exact ⟨old.status, old.isCurrent, rfl⟩
    · exact .inr ⟨input, .inr rfl, hid, rfl⟩

theorem changeUnits_kept (hrow : row ∈ t.changeUnits.rows) : ∃ status isCurrent,
      { row with status := status, isCurrent := isCurrent } ∈ t'.changeUnits.rows := by
  cases mutation with
  | insertCurrent input =>
    obtain ⟨_, hinsert⟩ := insertCurrentChangeUnit_rows h
    exact ⟨row.status, row.isCurrent, (Table.mem_insert? hinsert).mpr (.inl hrow)⟩
  | replaceCurrent input =>
    simp only [ChangeUnitMutation.apply, replaceCurrentChangeUnit, bind_eq_ok] at h
    obtain ⟨_, _, h⟩ := h
    obtain ⟨_, hinsert⟩ := insertCurrentChangeUnit_rows h
    by_cases hcurrent : ChangeUnitIsCurrent input.taskId row
    · refine ⟨.replaced, false, (Table.mem_insert? hinsert).mpr (.inl ?_)⟩
      exact List.mem_map.mpr ⟨row, hrow, if_pos hcurrent⟩
    · refine ⟨row.status, row.isCurrent, (Table.mem_insert? hinsert).mpr (.inl ?_)⟩
      exact List.mem_map.mpr ⟨row, hrow, if_neg hcurrent⟩

end

theorem applyAdvanceShaping_ok {input : ShapingAdvanceApplication}
    (h : t.applyAdvanceShapingAndTransition X input = .ok t') :
    shapingTaskFrame.Only t t' ∧ t.EditsTask t' input.taskId ({ · with
      workPhase := .implementation, lifecyclePhase := .executing }) := by
  simp only [applyAdvanceShapingAndTransition, steps_ok] at h
  obtain ⟨_, _, _, _, _, _, t₁, happlied, _, _, rfl⟩ := h
  have honly := applySelectedGaps_only happlied
  exact ⟨(honly.mono fun _ _ => rfl).trans rfl,
    (editsTask_update t₁ input.taskId _ _).of_tasks_eq (honly.eq (·.tasks) fun _ _ => rfl)⟩

theorem shapingMutation_ok {mutation : ShapingCheckpointMutation}
    (h : mutation.apply X context t = .ok t') :
    shapingTaskFrame.Only t t' ∧ ∀ id, t'.taskRow id =
      ((CoreStorageMutation.shaping mutation).taskEffect X context).rowAfter t id := by
  have hshaping : shapingFrame.Only t t' → shapingTaskFrame.Only t t' ∧
      ∀ id, t'.taskRow id = t.taskRow id := fun honly =>
    ⟨honly.mono fun _ _ => rfl, taskRow_congr (honly.eq (·.tasks) fun _ _ => rfl)⟩
  cases mutation with
  | record input => exact hshaping (recordShapingCheckpoint_only h)
  | resolveLinkedGap => exact hshaping (resolveShapingGap_only h)
  | applyScopeAndRebaseCurrent => exact hshaping (applyScopeAndRebase_only h)
  | applyAdvanceAndTransition input => exact applyAdvanceShaping_ok h
  | applyAdvisorFinalization input => exact hshaping (applyAdvisorShapingFinalization_only h)
  | supersedeCurrent taskId =>
    exact hshaping ((supersedeCurrentShapingCheckpoint_only h).mono fun _ _ => rfl)

theorem grant_map {rows : List StoredWriteTicket} {p : StoredWriteTicket → Bool}
    {f : StoredWriteTicket → StoredWriteTicket}
    (hrow : row ∈ rows.map fun old => if p old then f old else old)
    (hsame : ∀ row, (f row).grant = row.grant) : ∃ old ∈ rows, old.grant = row.grant := by
  obtain ⟨old, hold, rfl⟩ := List.mem_map.mp hrow
  refine ⟨old, hold, ?_⟩
  split
  · exact (hsame old).symm
  · rfl

theorem consumeWriteTicket_ok {committedAt : String} {input : WriteTicketConsumption}
    (h : t.consumeWriteTicket X committedAt input = .ok t') :
    (∀ row ∈ t.writeTickets.rows, row.consumedByRunId ≠ some input.runId) ∧ t' = { t with
        writeTickets := t.writeTickets.update input.writeTicketId ({ · with
          status := .consumed, consumedByRunId := some input.runId
          consumedAt := some committedAt }) } := by
  simp only [consumeWriteTicket, steps_ok] at h
  obtain ⟨_, _, _, _, _, _, _, _, _, _, _, hunique, rfl⟩ := h
  exact ⟨by simpa using hunique, rfl⟩

section
variable {mutation : WriteTicketMutation} (h : mutation.apply X context version t = .ok t')
include h

theorem writeTicketMutation_only : writeTicketFrame.Only t t' := by
  cases mutation with
  | markActiveStale taskId | invalidateActive taskId reason =>
    simp only [WriteTicketMutation.apply, invalidateActiveWriteTickets, steps_ok] at h
    obtain ⟨_, _, rfl⟩ := h
    rfl
  | invalidateById writeTicketId reason =>
    simp only [WriteTicketMutation.apply, invalidateWriteTicket, steps_ok] at h
    obtain ⟨_, _, _, _, rfl⟩ := h
    rfl
  | insert input =>
    simp only [WriteTicketMutation.apply, insertWriteTicket, steps_ok] at h
    obtain ⟨_, _, _, _, _, _, _, _, _, _, _, _, rfl⟩ := h
    rfl
  | consume input =>
    simp only [WriteTicketMutation.apply, consumeWriteTicket, steps_ok] at h
    obtain ⟨_, _, _, _, _, _, _, _, _, _, _, _, rfl⟩ := h
    rfl

/-- Every ticket row was there before, with the grant it has, or is the one inserted. -/
theorem mem_writeTickets (hrow : row ∈ t'.writeTickets.rows) :
    (∃ old ∈ t.writeTickets.rows, old.grant = row.grant) ∨
      ∃ input, mutation = .insert input ∧ row = input.row version := by
  cases mutation with
  | markActiveStale taskId | invalidateActive taskId reason =>
    simp only [WriteTicketMutation.apply, invalidateActiveWriteTickets, steps_ok] at h
    obtain ⟨_, _, rfl⟩ := h
    exact .inl (grant_map hrow fun _ => rfl)
  | invalidateById writeTicketId reason =>
    simp only [WriteTicketMutation.apply, invalidateWriteTicket, steps_ok] at h
    obtain ⟨_, _, _, _, rfl⟩ := h
    exact .inl (grant_map hrow fun _ => rfl)
  | insert input =>
    simp only [WriteTicketMutation.apply, insertWriteTicket, steps_ok, insertRow_ok] at h
    obtain ⟨_, _, _, _, _, _, _, _, _, _, rows, ⟨_, hinsert⟩, rfl⟩ := h
    rcases (Table.mem_insert? hinsert).mp hrow with hold | rfl
    · exact .inl ⟨row, hold, rfl⟩
    · exact .inr ⟨input, rfl, rfl⟩
  | consume input =>
    obtain ⟨_, rfl⟩ := consumeWriteTicket_ok h
    exact .inl (grant_map hrow fun _ => rfl)

end

/-- The insertion of an answer: what the Store checks of it, and the one table it changes. -/
theorem insertUserActionResolution_ok {row : UserActionResolutionRecord}
    (h : t.insertUserActionResolution row = .ok t') :
    row.resolvedByActorSource = .localUser ∧
      (∃ request, t.userActionRequests.find? row.userActionRequestId = some request ∧
        request.expiresAt.all (row.resolvedAt < ·) = true ∧ resolutionAgrees request row) ∧
      t.resolutionOf row.userActionRequestId = none ∧
      ∃ rows, t.userActionResolutions.insert? row = some rows ∧
        t' = { t with userActionResolutions := rows } := by
  simp only [insertUserActionResolution, steps_ok, insertRow_ok,
    Bool.and_eq_true, Option.isNone_iff_eq_none, decide_eq_true_eq] at h
  obtain ⟨_, _, _, _, _, hactor, _, _, request, hrequest, _, hexpires, hagrees, rows,
    ⟨⟨hunresolved, _⟩, hinsert⟩, rfl⟩ := h
  exact ⟨hactor, ⟨request, hrequest, hexpires, hagrees⟩, hunresolved, rows, hinsert, rfl⟩

/-- What the insertion of a request needs, beside an unused id, when it does not come from
`request_user_action`. -/
structure RequestInsertable (t : CoreTables) (row : UserActionRequestRecord) : Prop where
  requestId : Text.isBlank row.userActionRequestId = false
  taskId : Text.isBlank row.taskId = false
  changeUnitId : row.changeUnitId.all (!Text.isBlank ·)
  origin : originMatchesSource row.sourceMethod row.metadata
  key : Text.isBlank row.sourceIdempotencyKey = false
  required : (!row.requiredFor.isEmpty && row.requiredFor.Nodup) = true
  basis : row.basisAgrees
  compatible : row.requiredFor.all row.actionKind.isCompatibleWithRequiredFor
  expires : row.expiresAt.all (row.requestedAt < ·) = true
  lifetime : (row.actionKind ≠ .evidenceObservation
    || row.expiresAt = some (row.requestedAt + evidenceObservationLifetime)) = true
  taskRow : (t.taskRow row.taskId).isSome
  changeUnitRow : row.changeUnitId.all (fun id => (t.changeUnitRecord row.taskId id).isSome) = true
  source : row.sourceMethod ≠ .requestUserAction

section
variable {row : UserActionRequestRecord} (h : t.RequestInsertable row)
include h

theorem RequestInsertable.congr
    (htasks : t'.tasks = t.tasks) (hunits : t'.changeUnits = t.changeUnits) :
    t'.RequestInsertable row := by
  have htask := taskRow_congr htasks row.taskId
  have hunit : t'.changeUnitRecord row.taskId = t.changeUnitRecord row.taskId := by
    funext id
    rw [changeUnitRecord, changeUnitRecord, hunits]
  exact { h with taskRow := htask ▸ h.taskRow, changeUnitRow := hunit ▸ h.changeUnitRow }

theorem RequestInsertable.insert
    (hfresh : t.userActionRequests.find? row.userActionRequestId = none) :
    ∃ rows, t.userActionRequests.insert? row = some rows ∧
      t.insertUserActionRequest row = .ok { t with userActionRequests := rows } := by
  obtain ⟨rows, hrows⟩ : ∃ rows, t.userActionRequests.insert? row = some rows := by
    unfold Table.insert?
    rw [dif_pos hfresh]
    exact ⟨_, rfl⟩
  refine ⟨rows, hrows, ?_⟩
  have hunit : validateOptionalIdentifier "change_unit_id" row.changeUnitId = .ok () := by
    have hvalid := h.changeUnitId
    cases hid : row.changeUnitId with
    | none => rfl
    | some id =>
      rw [hid] at hvalid
      exact ensure_eq_ok.mpr hvalid
  have hconstraints := h.taskRow
  have hsource : (decide (row.sourceMethod ≠ .requestUserAction)) = true := by simp [h.source]
  simp only [insertUserActionRequest, validateIdentifier, h.requestId, h.taskId, hunit, h.origin,
    h.key, h.required, h.basis, h.compatible, h.expires, h.lifetime, hconstraints,
    h.changeUnitRow, hsource, insertRow, hrows, ensure, okOr, ok_bind, Bool.not_false,
    Bool.true_or, Bool.and_self, if_true]
  rfl

end

section
variable {mutation : UserActionMutation} (h : mutation.apply t = .ok t')
include h

/-- Every user-action mutation but the insertion of an answer writes the requests only. -/
theorem userActionMutation_ok :
    requestFrame.Only t t' ∨ ∃ row rows, mutation = .insertResolution row ∧
      t.userActionResolutions.insert? row = some rows ∧
      t' = { t with userActionResolutions := rows } := by
  cases mutation with
  | insertRequest row =>
    simp only [UserActionMutation.apply, insertUserActionRequest, steps_ok] at h
    obtain ⟨_, _, _, _, _, _, _, _, _, _, _, _, _, _, _, _, rfl⟩ := h
    exact .inl rfl
  | insertResolution row =>
    obtain ⟨_, _, _, rows, hinsert, rfl⟩ := insertUserActionResolution_ok h
    exact .inr ⟨row, rows, rfl, hinsert, rfl⟩
  | updateBasis input =>
    simp only [UserActionMutation.apply, updateUserActionBasis, steps_ok] at h
    obtain ⟨_, _, _, _, rfl⟩ := h
    exact .inl rfl
  | markBasesStatus ids status =>
    simp only [UserActionMutation.apply, markUserActionBasesStatus, steps_ok] at h
    refine .inl (Frame.Only.foldlM (fun s s' id _ hstep => ?_) h.2)
    simp only [steps_ok] at hstep
    obtain ⟨_, _, _, _, rfl⟩ := hstep
    rfl
  | markSupersededOrStale input =>
    simp only [UserActionMutation.apply, markUserActionsSupersededOrStale, steps_ok] at h
    obtain ⟨_, _, _, _, rfl⟩ := h
    exact .inl rfl

theorem userActionMutation_only : userActionFrame.Only t t' := by
  rcases userActionMutation_ok h with honly | ⟨_, _, _, _, rfl⟩
  · exact honly.mono fun _ _ => rfl
  · rfl

end

theorem runMutation_only {mutation : RunMutation} (h : mutation.apply t = .ok t') :
    runFrame.Only t t' := by
  cases mutation
  repeat obtain ⟨_, _, h⟩ := bind_eq_ok.mp h
  obtain rfl := pure_eq_ok.mp h
  rfl

theorem evidenceMutation_only {mutation : EvidenceMutation}
    (h : mutation.apply version t = .ok t') : evidenceFrame.Only t t' := by
  cases mutation
  all_goals
    repeat obtain ⟨_, _, h⟩ := bind_eq_ok.mp h
    obtain rfl := pure_eq_ok.mp h
    rfl

theorem artifactMutation_only {mutation : ArtifactMutation}
    (h : mutation.apply X context t = .ok t') : artifactFrame.Only t t' := by
  cases mutation
  all_goals
    repeat obtain ⟨_, _, h⟩ := bind_eq_ok.mp h
    obtain rfl := pure_eq_ok.mp h
    rfl

theorem continuityMutation_only {mutation : ContinuityMutation} (h : mutation.apply t = .ok t') :
    continuityFrame.Only t t' := by
  cases mutation with
  | resolveUnrecordedChange id =>
    simp only [ContinuityMutation.apply, steps_ok] at h
    obtain ⟨_, _, rfl⟩ := h
    rfl

section
variable {input : ProjectWorkflowPolicyMutation}
  (h : t.applyProjectWorkflowPolicyMutation X context input = .ok t')
include h

theorem applyProjectWorkflowPolicyMutation_marks :
    workflowPolicyFrame.Only t t' ∧ ∀ id, t'.taskRow id = t.taskRow id ∨
      ∃ markedAt, t'.taskRow id = (t.taskRow id).map fun row => { row with
        policyReevaluation := some (nextPolicyReevaluation input markedAt row) } := by
  simp only [applyProjectWorkflowPolicyMutation, steps_ok] at h
  obtain ⟨_, _, _, _, prior, _, resulting, _, _, h⟩ := h
  split at h
  · obtain rfl := pure_eq_ok.mp h
    exact ⟨rfl, fun id => .inl rfl⟩
  · simp only [mergeActiveTaskPolicyReevaluation, bind_eq_ok] at h
    obtain ⟨⟨reevaluated, t₁⟩, hmerged, h⟩ := h
    obtain rfl := pure_eq_ok.mp h
    split at hmerged
    · obtain ⟨_, rfl⟩ := Prod.mk.inj (Except.ok.inj hmerged)
      exact ⟨rfl, fun id => .inl rfl⟩
    · rename_i task _
      simp only [steps_ok, Prod.mk.injEq] at hmerged
      obtain ⟨markedAt, _, _, rfl⟩ := hmerged
      refine ⟨rfl, fun id => ?_⟩
      have hupdate := editsTask_update t task.taskId (fun row => { row with
        policyReevaluation := some (nextPolicyReevaluation input markedAt row) }) (fun _ => rfl) id
      by_cases hid : id = task.taskId
      · exact .inr ⟨markedAt, hupdate.trans (if_pos hid)⟩
      · exact .inl (hupdate.trans (if_neg hid))

theorem applyProjectWorkflowPolicyMutation_ok :
    workflowPolicyFrame.Only t t' ∧ ∀ id, ∃ mark :
      TaskRecord → Option TaskPolicyControlReevaluation,
      t'.taskRow id = (t.taskRow id).map fun row =>
        { row with policyReevaluation := mark row } := by
  obtain ⟨honly, hmarks⟩ := applyProjectWorkflowPolicyMutation_marks h
  refine ⟨honly, fun id => ?_⟩
  rcases hmarks id with hsame | ⟨markedAt, hmarked⟩
  · exact ⟨(·.policyReevaluation), hsame.trans Option.map_id'.symm⟩
  · exact ⟨fun row => some (nextPolicyReevaluation input markedAt row), hmarked⟩

end

end CoreTables

theorem CoreTables.applyProjectWorkflowPolicyMutation_tickets {X : External}
    {context : MutationContext} {input : ProjectWorkflowPolicyMutation} {t t' : CoreTables}
    (h : t.applyProjectWorkflowPolicyMutation X context input = .ok t')
    (hrow : row ∈ t'.writeTickets.rows) : ∃ old ∈ t.writeTickets.rows, old.grant = row.grant := by
  simp only [applyProjectWorkflowPolicyMutation, steps_ok] at h
  obtain ⟨_, _, _, _, prior, _, resulting, _, _, h⟩ := h
  split at h
  · obtain rfl := pure_eq_ok.mp h
    exact ⟨row, hrow, rfl⟩
  · simp only [mergeActiveTaskPolicyReevaluation, bind_eq_ok] at h
    obtain ⟨⟨reevaluated, t₁⟩, hmerged, h⟩ := h
    obtain rfl := pure_eq_ok.mp h
    have htickets : t₁.writeTickets = t.writeTickets := by
      split at hmerged
      · obtain ⟨_, rfl⟩ := Prod.mk.inj (Except.ok.inj hmerged)
        rfl
      · simp only [steps_ok, Prod.mk.injEq] at hmerged
        obtain ⟨_, _, _, rfl⟩ := hmerged
        rfl
    rw [← htickets]
    exact grant_map hrow fun _ => rfl

def CoreStorageMutation.frame : CoreStorageMutation → Frame CoreTables
  | .task _ => taskFrame
  | .changeUnit _ => changeUnitFrame
  | .writeTicket _ => writeTicketFrame
  | .run _ => runFrame
  | .shaping _ => shapingTaskFrame
  | .userAction _ => userActionFrame
  | .evidence _ => evidenceFrame
  | .artifact _ => artifactFrame
  | .continuity _ => continuityFrame
  | .workflowPolicy _ => workflowPolicyFrame

def CoreStorageMutation.isWorkflowPolicy : CoreStorageMutation → Bool
  | .workflowPolicy _ => true
  | _ => false

namespace CoreStorageMutation
variable {X : External} {context : MutationContext} {version : Nat} {t t' : CoreTables}
  {mutation : CoreStorageMutation}

section
variable (h : mutation.apply X context version t = .ok t')
include h

theorem apply_only : mutation.frame.Only t t' := by
  cases mutation with
  | task mutation => exact (CoreTables.taskMutation_ok h).1
  | changeUnit mutation => exact (CoreTables.changeUnitMutation_ok X context h).1
  | writeTicket mutation => exact CoreTables.writeTicketMutation_only h
  | run mutation => exact CoreTables.runMutation_only h
  | shaping mutation => exact (CoreTables.shapingMutation_ok h).1
  | userAction mutation => exact CoreTables.userActionMutation_only h
  | evidence mutation => exact CoreTables.evidenceMutation_only h
  | artifact mutation => exact CoreTables.artifactMutation_only h
  | continuity mutation => exact CoreTables.continuityMutation_only h
  | workflowPolicy mutation => exact (CoreTables.applyProjectWorkflowPolicyMutation_ok h).1

theorem apply_taskRow (hpolicy : mutation.isWorkflowPolicy = false) (id : String) :
    t'.taskRow id = (mutation.taskEffect X context).rowAfter t id := by
  have honly := apply_only h
  cases mutation with
  | task mutation => exact (CoreTables.taskMutation_ok h).2 id
  | changeUnit mutation => exact (CoreTables.changeUnitMutation_ok X context h).2 id
  | shaping mutation => exact (CoreTables.shapingMutation_ok h).2 id
  | workflowPolicy mutation => cases hpolicy
  | writeTicket mutation | run mutation | userAction mutation | evidence mutation
  | artifact mutation | continuity mutation =>
    exact CoreTables.taskRow_congr (honly.eq (·.tasks) fun _ _ => rfl) id

/-- Every ticket row was there before, with the grant it has, or is the one inserted. -/
theorem mem_writeTickets (hrow : row ∈ t'.writeTickets.rows) :
    (∃ old ∈ t.writeTickets.rows, old.grant = row.grant) ∨
      ∃ input, mutation = .writeTicket (.insert input) ∧ row = input.row version := by
  have honly := apply_only h
  cases mutation with
  | writeTicket mutation =>
    rcases CoreTables.mem_writeTickets h hrow with hold | ⟨input, rfl, hinsert⟩
    · exact .inl hold
    · exact .inr ⟨input, rfl, hinsert⟩
  | workflowPolicy mutation =>
    exact .inl (CoreTables.applyProjectWorkflowPolicyMutation_tickets h hrow)
  | _ =>
    have hsame := honly.eq (·.writeTickets) fun _ _ => rfl
    exact .inl ⟨row, hsame ▸ hrow, rfl⟩

theorem changeUnits_kept {row : ChangeUnitRecord} (hrow : row ∈ t.changeUnits.rows) :
    ∃ status isCurrent,
      { row with status := status, isCurrent := isCurrent } ∈ t'.changeUnits.rows := by
  have honly := apply_only h
  cases mutation with
  | changeUnit mutation => exact CoreTables.changeUnits_kept h hrow
  | _ =>
    have hsame := honly.eq (·.changeUnits) fun _ _ => rfl
    exact ⟨row.status, row.isCurrent, hsame ▸ hrow⟩

end

theorem insertTask_fresh {input : TaskInsert}
    (h : (CoreStorageMutation.task (.insert input)).apply X context version t = .ok t') :
    t.taskRow input.taskId = none := by
  simp only [apply, TaskMutation.apply, CoreTables.insertTask, steps_ok,
    CoreTables.insertRow_ok] at h
  obtain ⟨_, _, _, _, _, tasks, ⟨_, hinsert⟩, _⟩ := h
  exact (Table.insert?_eq_some hinsert).1

theorem apply_taskRow_rel {R : TaskRecord → TaskRecord → Prop}
    (h : mutation.apply X context version t = .ok t') (hpolicy : mutation.isWorkflowPolicy = false)
    {row : TaskRecord} (hrow : t.taskRow taskId = some row) (hrefl : R row row)
    (hedit : ∀ change, mutation.taskEffect X context = .edit taskId change → R row (change row)) :
    ∃ row', t'.taskRow taskId = some row' ∧ R row row' := by
  have hafter := apply_taskRow h hpolicy taskId
  cases heffect : mutation.taskEffect X context with
  | none => exact ⟨row, by rw [hafter, heffect]; exact hrow, hrefl⟩
  | insert inserted =>
    have hfresh : t.taskRow inserted.taskId = none := by
      cases mutation with
      | task mutation =>
        cases mutation with
        | insert input =>
          obtain rfl := TaskEffect.insert.inj heffect
          exact insertTask_fresh h
        | _ => cases heffect
      | changeUnit mutation => cases mutation <;> cases heffect
      | shaping mutation => cases mutation <;> cases heffect
      | _ => cases heffect
    refine ⟨row, ?_, hrefl⟩
    rw [hafter, heffect, TaskEffect.rowAfter, if_neg, hrow]
    rintro rfl
    rw [hfresh] at hrow
    cases hrow
  | edit id change =>
    rw [heffect, TaskEffect.rowAfter] at hafter
    by_cases hid : taskId = id
    · subst hid
      refine ⟨change row, ?_, hedit change heffect⟩
      rw [hafter, if_pos rfl, hrow, Option.map_some]
    · exact ⟨row, by rw [hafter, if_neg hid, hrow], hrefl⟩

theorem apply_keeps {β : Type} (read : TaskRecord → β)
    (h : mutation.apply X context version t = .ok t') (hpolicy : mutation.isWorkflowPolicy = false)
    {row : TaskRecord} (hrow : t.taskRow taskId = some row)
    (hkeep : ∀ change, mutation.taskEffect X context = .edit taskId change →
      read (change row) = read row) :
    ∃ row', t'.taskRow taskId = some row' ∧ read row' = read row :=
  apply_taskRow_rel (R := fun row row' => read row' = read row) h hpolicy hrow rfl hkeep

end CoreStorageMutation
end Volicord
