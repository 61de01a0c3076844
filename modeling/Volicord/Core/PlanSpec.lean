import Volicord.Core.SystemSpec
import Volicord.Store.MutationSpec

/-! What the plan of each method may contain: the kinds of its mutations and the Task whose
phase they may move. -/
namespace Volicord
open Result Relational CoreTables CoreStorageMutation
variable {mutations : List CoreStorageMutation} {task : TaskRecord} {taskId : String}
variable {X : External} {t t' : CoreTables} {mutation : CoreStorageMutation}
  {kinds : List MutationKind} {changeUnit : Option ChangeUnitRecord}
  {checkpoint : Option ShapingCheckpointRecord} {request : UpdateScopeRequest}
  {committedAt projectId requestId resolutionId ticketId : String} {draft : CoreDraft}
  {scopeRevision : Nat} {method : MethodName}

inductive MutationKind where
  | taskInsert | taskSetActive | taskSupersede | taskClose | taskUpdateControlLevel
  | taskWriteScope | taskUpdateScope | taskUpdateScopeRevision | taskUpdateCloseBasis
  | taskReplaceCriteria
  | changeUnitInsert | changeUnitReplace | ticketInvalidate | ticketInsert | ticketConsume
  | runInsert | shapingRecord | shapingResolveGap | shapingApplyScope | shapingAdvance
  | shapingFinalize | shapingSupersede | requestInsert | resolutionInsert | requestUpdateBasis
  | requestInvalidate | claimEnsure | captureIntentInsert | summaryUpsert | observationInsert
  | producerInsert | artifactPromote | artifactLink | unrecordedChangeResolve | policyApply
deriving DecidableEq

def CoreStorageMutation.kind : CoreStorageMutation → MutationKind
  | .task (.insert _) => .taskInsert
  | .task (.setActive _) => .taskSetActive
  | .task (.supersede _) => .taskSupersede
  | .task (.close _) => .taskClose
  | .task (.updateControlLevel _) => .taskUpdateControlLevel
  | .task (.updateScope ⟨_, _, _, _, _, some _, _, _⟩) => .taskWriteScope
  | .task (.updateScope ⟨_, _, _, _, _, none, _, _⟩) => .taskUpdateScope
  | .task (.updateScopeRevision _ _) => .taskUpdateScopeRevision
  | .task (.updateCloseBasis _) => .taskUpdateCloseBasis
  | .task (.replaceAcceptanceCriteria _) => .taskReplaceCriteria
  | .changeUnit (.insertCurrent _) => .changeUnitInsert
  | .changeUnit (.replaceCurrent _) => .changeUnitReplace
  | .writeTicket (.markActiveStale _) | .writeTicket (.invalidateActive _ _)
  | .writeTicket (.invalidateById _ _) => .ticketInvalidate
  | .writeTicket (.insert _) => .ticketInsert
  | .writeTicket (.consume _) => .ticketConsume
  | .run (.insert _) => .runInsert
  | .shaping (.record _) => .shapingRecord
  | .shaping (.resolveLinkedGap _ _ _) => .shapingResolveGap
  | .shaping (.applyScopeAndRebaseCurrent _ _ _ _ _ _) => .shapingApplyScope
  | .shaping (.applyAdvanceAndTransition _) => .shapingAdvance
  | .shaping (.applyAdvisorFinalization _) => .shapingFinalize
  | .shaping (.supersedeCurrent _) => .shapingSupersede
  | .userAction (.insertRequest _) => .requestInsert
  | .userAction (.insertResolution _) => .resolutionInsert
  | .userAction (.updateBasis _) => .requestUpdateBasis
  | .userAction (.markBasesStatus _ _) | .userAction (.markSupersededOrStale _) =>
    .requestInvalidate
  | .evidence (.ensureClaim _) => .claimEnsure
  | .evidence (.insertCaptureIntent _) => .captureIntentInsert
  | .evidence (.upsertSummary _) => .summaryUpsert
  | .evidence (.insertObservation _) => .observationInsert
  | .evidence (.insertProducer _) => .producerInsert
  | .artifact (.promoteStaged _) => .artifactPromote
  | .artifact (.link _) => .artifactLink
  | .continuity (.resolveUnrecordedChange _) => .unrecordedChangeResolve
  | .workflowPolicy (.apply _) => .policyApply

def CoreStorageMutation.movesTask : CoreStorageMutation → Option String
  | .task (.supersede taskId) => some taskId
  | .task (.close input) => some input.taskId
  | .task (.updateScope input) => some input.taskId
  | .changeUnit (.insertCurrent input) | .changeUnit (.replaceCurrent input) => some input.taskId
  | .shaping (.applyAdvanceAndTransition input) => some input.taskId
  | _ => none

@[simp] def ticketKinds : List MutationKind :=
  [.ticketInvalidate, .ticketInsert, .ticketConsume, .policyApply]

theorem applyMutations_writeTickets {context : MutationContext} {version : Nat}
    (h : applyMutations X context version mutations t = .ok t')
    (hkinds : ∀ mutation ∈ mutations, mutation.kind ∉ ticketKinds) :
    t'.writeTickets = t.writeTickets := by
  refine foldlM_rel (R := fun s s' : CoreTables => s'.writeTickets = s.writeTickets) (fun _ => rfl)
    (fun _ _ _ h₁ h₂ => h₂.trans h₁) (fun s s' mutation hmem happly => ?_) h
  have honly := apply_only happly
  have hkind := hkinds mutation hmem
  cases mutation with
  | writeTicket mutation => cases mutation <;> simp [kind] at hkind
  | workflowPolicy mutation =>
    cases mutation
    simp [kind] at hkind
  | _ => exact honly.eq (·.writeTickets) fun _ _ => rfl

@[simp] def MethodName.plannedKinds : MethodName → List MutationKind
  | .intake => [.ticketInvalidate, .taskSupersede, .taskInsert, .taskReplaceCriteria,
      .taskSetActive, .taskUpdateControlLevel]
  | .updateScope => [.taskWriteScope, .taskUpdateScope, .taskUpdateControlLevel,
    .taskReplaceCriteria,
      .taskUpdateScopeRevision, .taskUpdateCloseBasis, .changeUnitInsert, .changeUnitReplace,
      .requestUpdateBasis, .requestInvalidate, .shapingApplyScope, .shapingSupersede,
      .ticketInvalidate]
  | .recordShapingCheckpoint => [.requestInsert, .shapingRecord, .taskUpdateCloseBasis,
      .taskUpdateScope]
  | .advanceTask => [.shapingAdvance]
  | .finalizeAdvice => [.shapingFinalize, .taskUpdateCloseBasis, .taskUpdateScope]
  | .prepareEvidenceCapture => [.captureIntentInsert]
  | .prepareWrite => [.taskUpdateControlLevel, .ticketInvalidate, .ticketInsert]
  | .recordRun => [.runInsert, .taskUpdateControlLevel, .taskUpdateCloseBasis,
      .requestInvalidate, .taskUpdateScope, .ticketConsume, .claimEnsure, .summaryUpsert,
      .observationInsert, .producerInsert, .artifactPromote, .artifactLink]
  | .requestUserAction => [.requestInsert, .taskUpdateScope]
  | .resolveUserAction => [.resolutionInsert, .shapingResolveGap, .taskUpdateScope]
  | .reconcileChanges => [.unrecordedChangeResolve, .requestInsert]
  | .closeTask => [.taskUpdateControlLevel, .ticketInvalidate, .taskClose, .taskSetActive]
  | _ => []

/-- A mutation that a plan for this Task, limited to these kinds, may contain. -/
def Planned (kinds : List MutationKind) (taskId : String) (mutation : CoreStorageMutation) : Prop :=
  mutation.kind ∈ kinds ∧ mutation.movesTask.all (· = taskId) = true

theorem Planned.mono {kinds kinds' : List MutationKind} (h : Planned kinds taskId mutation)
    (hsub : kinds ⊆ kinds') : Planned kinds' taskId mutation :=
  ⟨hsub h.1, h.2⟩

attribute [simp] CoreStorageMutation.kind CoreStorageMutation.movesTask

theorem planned_lifecycle {phase : TaskLifecyclePhase}
    (h : planUserActionLifecycleTransition task phase = .ok mutations)
    (hkind : .taskUpdateScope ∈ kinds) :
    ∀ mutation ∈ mutations, Planned kinds task.taskId mutation := by
  rcases planUserActionLifecycleTransition_ok h with rfl | ⟨rfl, _⟩
  · simp
  · intro mutation hmutation
    obtain rfl := List.mem_singleton.mp hmutation
    exact ⟨hkind, by simp [lifecycleMutation]⟩

theorem planned_pendingLifecycle {t : CoreTables} {pending : List StoredUserActionRecordSet}
    (h : planPendingLifecycle t task changeUnit pending = .ok mutations)
    (hkind : .taskUpdateScope ∈ kinds) :
    ∀ mutation ∈ mutations, Planned kinds task.taskId mutation := by
  unfold planPendingLifecycle at h
  split at h
  · obtain rfl := Except.ok.inj h
    simp
  · exact planned_lifecycle h hkind

theorem CoreTables.taskId_of_taskRecord {projectId taskId : String} {t : CoreTables}
    (h : t.taskRecord projectId taskId = .ok (some task)) : task.taskId = taskId :=
  Table.key_of_find? (taskRecord_ok h).1

/-- The plan is for this Task and contains the kinds of this method only. -/
structure PlanFor (method : MethodName) (taskId : String) (plan : OperationPlan) : Prop where
  task : plan.taskId = taskId
  mutations : ∀ mutation ∈ plan.mutations, Planned method.plannedKinds taskId mutation

section methods
variable {X : External} {context : PlanContext} {t : CoreTables} {plan : OperationPlan}
  {admitted : AdmittedTransition} {applications : List ShapingGapApplication}
  {call : CoreMethodCall}

/-- The kinds an `update_scope` carries a changed scope through with. -/
@[simp] def UpdateScope.changeKinds : List MutationKind :=
  [.requestUpdateBasis, .requestInvalidate, .shapingApplyScope, .shapingSupersede,
    .ticketInvalidate, .taskUpdateScope]

theorem UpdateScope.planned_shaping {baselineRef changeUnitId : Option String} {changed : Bool}
    (h : planShaping context t taskId checkpoint scopeRevision baselineRef changeUnitId
      applications changed = .ok mutations) :
    ∀ mutation ∈ mutations, Planned changeKinds taskId mutation := by
  unfold planShaping at h
  split at h
  · obtain rfl := Except.ok.inj h
    simp [Planned]
  · split at h
    · simp only [steps_ok] at h
      obtain ⟨preserved, _, rfl⟩ := h
      simp only [List.mem_append, List.mem_map, List.mem_cons, List.not_mem_nil, or_false]
      rintro mutation (⟨row, _, rfl⟩ | rfl | rfl) <;>
        simp [Planned]
    · obtain rfl := Except.ok.inj h
      simp [Planned]

theorem UpdateScope.planned_changeUnit {changeUnitId : String}
    {result : List CoreStorageMutation × Option String}
    (h : planChangeUnit context t request changeUnit changeUnitId = .ok result) :
    ∀ mutation ∈ result.1,
      Planned (MethodName.plannedKinds .updateScope) request.taskId mutation := by
  unfold planChangeUnit at h
  split at h
  · obtain rfl := Except.ok.inj h
    simp
  all_goals
    simp only [steps_ok] at h
    obtain ⟨_, _, _, _, rfl⟩ := h
    simp [Planned, planCurrentChangeUnit]

theorem UpdateScope.planned_scopeChange {scope : StoredScope}
    {changeUnitId : Option String} {changed : Bool}
    (htask : task.taskId = request.taskId)
    (h : planScopeChange context t request task checkpoint scope changeUnitId applications changed
      = .ok mutations) :
    ∀ mutation ∈ mutations, Planned changeKinds request.taskId mutation := by
  simp only [planScopeChange, planLifecycle, steps_ok] at h
  obtain ⟨shaping, hshaping, lifecycle, hlifecycle, rfl⟩ := h
  simp only [List.mem_append]
  rintro mutation ((hmem | hmem) | hmem)
  · exact planned_shaping hshaping mutation hmem
  · split at hmem
    · cases hmem
    · obtain rfl := List.mem_singleton.mp hmem
      simp [Planned]
  · split at hlifecycle
    · obtain rfl := Except.ok.inj hlifecycle
      cases hmem
    · exact htask ▸ planned_lifecycle hlifecycle (by decide) mutation hmem

theorem UpdateScope.planFor {ids : UpdateScopeIds}
    (h : UpdateScope.plan X context t request ids admitted = .ok plan) :
    PlanFor .updateScope request.taskId plan := by
  obtain ⟨accepted, rfl⟩ := UpdateScope.plan_ok h
  have htask := taskId_of_taskRecord accepted.record
  refine ⟨rfl, ?_⟩
  simp only [Accepted.plan, List.forall_mem_append, List.forall_mem_cons]
  refine ⟨⟨⟨⟨⟨?_, ?_⟩, ?_⟩, ?_⟩, planned_changeUnit accepted.unitPlanned⟩, ?_⟩
  · simp [Planned, scopeMutation, htask]
  · intro mutation hmutation
    rw [controlMutations] at hmutation
    split at hmutation
    · obtain rfl := List.mem_singleton.mp hmutation
      simp [Planned]
    · cases hmutation
  · intro mutation hmutation
    obtain ⟨upserts, _, rfl⟩ := List.mem_map.mp hmutation
    simp [Planned]
  · split <;> simp [Planned]
  · have hchanged := accepted.changedPlanned
    split at hchanged
    · exact fun mutation hmutation =>
        (planned_scopeChange htask hchanged mutation hmutation).mono (by decide)
    · rw [← pure_eq_ok.mp hchanged]
      simp

theorem RecordShaping.planFor {request : RecordShapingCheckpointRequest} {ids : RecordShapingIds}
    (h : RecordShaping.plan X context t request ids admitted = .ok plan) :
    PlanFor .recordShapingCheckpoint request.taskId plan := by
  obtain ⟨accepted, rfl⟩ := RecordShaping.plan_ok h
  have htask := taskId_of_taskRecord accepted.record
  refine ⟨rfl, ?_⟩
  simp only [Accepted.plan, List.forall_mem_append, List.forall_mem_singleton]
  refine ⟨⟨⟨?_, by simp [Planned]⟩, ?_⟩, ?_⟩
  · intro mutation hmutation
    obtain ⟨row, _, rfl⟩ := List.mem_map.mp hmutation
    simp [Planned]
  · split <;> simp [Planned]
  · split <;> simp [Planned, lifecycleMutation, htask]

theorem AdvanceTask.planFor {request : AdvanceTaskRequest}
    (h : AdvanceTask.plan X context t request admitted = .ok plan) :
    PlanFor .advanceTask request.taskId plan := by
  obtain ⟨accepted, rfl⟩ := AdvanceTask.plan_ok h
  have htask := taskId_of_taskRecord accepted.record
  exact ⟨rfl, by simp [Accepted.plan, Planned,
    CheckpointApplicationRequest.application, htask]⟩

theorem FinalizeAdvice.planFor {request : FinalizeAdviceRequest} {riskIds : List String}
    (h : FinalizeAdvice.plan X context t request riskIds admitted = .ok plan) :
    PlanFor .finalizeAdvice request.taskId plan := by
  obtain ⟨accepted, rfl⟩ := FinalizeAdvice.plan_ok h
  have htask := taskId_of_taskRecord accepted.record
  exact ⟨rfl, by simp [Accepted.plan, Planned, htask]⟩

theorem PrepareEvidenceCapture.planFor {request : PrepareEvidenceCaptureRequest} {intentId : String}
    (h : PrepareEvidenceCapture.plan context t request intentId admitted = .ok plan) :
    PlanFor .prepareEvidenceCapture request.taskId plan := by
  obtain ⟨htask, _, row, hmutations⟩ := PrepareEvidenceCapture.plan_ok h
  exact ⟨htask, by simp [hmutations, Planned]⟩

theorem PrepareWrite.planned_control {input : PrepareWriteInput}
    {decision : PrepareWritePolicyDecision} (h : decidePolicy X t task input = .ok decision) :
    ∀ mutation ∈ decision.controlMutations, Planned [.taskUpdateControlLevel] taskId mutation := by
  simp only [decidePolicy, steps_ok] at h
  obtain ⟨_, _, _, _, _, h⟩ := h
  split at h <;> obtain rfl := pure_eq_ok.mp h <;> simp [Planned]

theorem PrepareWrite.planned_stale (candidates : List PrepareWriteCandidateEvaluation)
    (taskId : String) : ∀ mutation ∈ staleMutations candidates,
      Planned [.ticketInvalidate] taskId mutation := by
  intro mutation hmutation
  simp only [staleMutations, List.mem_append, List.mem_map] at hmutation
  obtain (⟨_, _, rfl⟩ | ⟨_, _, rfl⟩) | ⟨_, _, rfl⟩ := hmutation <;> simp [Planned]

theorem PrepareWrite.ticketEffect_ok {required : WriteTicketValidityBasis}
    {scope : WriteTicketAttemptScope} {policy : CoreWorkflowPolicy} {approval : Option String}
    {reasons : List WriteTicketDecisionReason} {compatible : List StoredWriteTicket}
    {eventKind : String}
    (h : ticketEffect X context t ticketId required scope policy approval reasons compatible
      = .ok (eventKind, mutations)) :
    mutations = [] ∨ reasons = [] ∧ compatible = [] ∧ ∃ paths,
      PrepareWrite.pathScope scope.intendedPaths [] = .ok paths ∧
      materialize X context
        (issuedTicket context ticketId required scope paths policy approval) = .ok () ∧
      mutations = [.writeTicket (.insert
        (issuedTicket context ticketId required scope paths policy approval))] := by
  unfold ticketEffect at h
  split at h
  · simp only [Except.ok.injEq, Prod.mk.injEq] at h
    exact .inl h.2.symm
  · simp only [steps_ok, requireFresh_eq_ok, exists_const, Prod.mk.injEq] at h
    obtain ⟨_, _, paths, hpaths, _, _, hvalid, _, hmutations⟩ := h
    exact .inr ⟨rfl, rfl, paths, hpaths, hvalid, hmutations.symm⟩
  · simp only [steps_ok, Prod.mk.injEq] at h
    obtain ⟨_, _, _, hmutations⟩ := h
    exact .inl hmutations.symm

theorem PrepareWrite.planFor {request : PrepareWriteRequest}
    (h : PrepareWrite.plan X context t taskId request ticketId admitted = .ok plan) :
    PlanFor .prepareWrite taskId plan := by
  obtain ⟨accepted, rfl⟩ := PrepareWrite.plan_ok h
  refine ⟨rfl, ?_⟩
  simp only [Accepted.plan, List.forall_mem_append]
  refine ⟨⟨fun mutation h => (planned_control accepted.decided mutation h).mono (by decide),
    fun mutation h => (planned_stale _ _ mutation h).mono (by decide)⟩, ?_⟩
  rcases ticketEffect_ok accepted.effect with hnone | ⟨_, _, _, _, _, hissued⟩
  · simp [hnone]
  · simp [hissued, Planned]

@[simp] def RecordRun.evidenceKinds : List MutationKind :=
  [.claimEnsure, .summaryUpsert, .observationInsert, .producerInsert, .artifactPromote,
    .artifactLink]

theorem RecordRun.planned_evidence {request : RecordRunRequest} {runId : String}
    {ids : RecordRunIds} {claims : List EvidenceClaimRecord} {evidence : RecordRunEvidencePlan}
    (h : planRecordRunEvidence context t request scopeRevision runId ids claims = .ok evidence) :
    ∀ mutation ∈ evidence.mutations, Planned evidenceKinds request.taskId mutation := by
  simp only [planRecordRunEvidence, steps_ok, requireFresh_eq_ok, exists_const] at h
  obtain ⟨artifacts, _, captures, _, plans, _, summary, _, _, rfl⟩ := h
  simp only [List.forall_mem_append]
  refine ⟨⟨⟨?_, ?_⟩, ?_⟩, ?_⟩
  · intro mutation hmutation
    obtain ⟨_, _, rfl⟩ := List.mem_map.mp hmutation
    simp [Planned]
  · intro mutation hmutation
    obtain ⟨plan, _, hmem⟩ := List.mem_flatMap.mp hmutation
    simp only [RecordRunArtifactPlan.mutations, List.mem_append, List.mem_map,
      List.mem_singleton] at hmem
    obtain ⟨_, _, rfl⟩ | rfl := hmem <;> simp [Planned]
  · intro mutation hmutation
    obtain ⟨plan, _, hmem⟩ := List.mem_flatMap.mp hmutation
    simp only [RecordRunObservationPlan.mutations, List.mem_append, List.mem_cons, List.mem_map,
      List.mem_flatMap] at hmem
    obtain (rfl | ⟨_, _, rfl⟩) | ⟨_, _, rfl | ⟨_, _, rfl⟩⟩ := hmem <;> simp [Planned]
  · intro mutation hmutation
    cases summary with
    | none => cases hmutation
    | some items =>
      simp only [summaryMutations, List.mem_cons, List.mem_map] at hmutation
      obtain rfl | ⟨_, _, rfl⟩ := hmutation <;> simp [Planned]

theorem RecordRun.planFor {request : RecordRunRequest} {ids : RecordRunIds}
    (h : RecordRun.plan X context t request ids admitted = .ok plan) :
    PlanFor .recordRun request.taskId plan := by
  obtain ⟨accepted, rfl⟩ := RecordRun.plan_ok h
  have hrequest := accepted.taskId_eq
  have htask := taskId_of_taskRecord accepted.record
  rw [hrequest] at htask
  refine ⟨hrequest, ?_⟩
  simp only [Accepted.plan, mutations, List.forall_mem_append, List.forall_mem_cons]
  refine ⟨⟨⟨⟨⟨?_, ?_⟩, ?_⟩, ?_⟩, ?_⟩, ?_⟩
  · simp [Planned]
  · unfold acceptanceUpdate
    split <;> simp [Planned]
  · simp [Planned]
  · exact htask ▸ planned_pendingLifecycle accepted.lifecyclePlanned (by decide)
  · cases accepted.ticket <;> simp [Planned, consumption]
  · intro mutation hmutation
    exact hrequest ▸ (planned_evidence accepted.evidencePlanned mutation hmutation).mono (by decide)

theorem RequestUserAction.planFor {request : RequestUserActionRequest}
    (h : RequestUserAction.plan X context t request requestId admitted = .ok plan) :
    PlanFor .requestUserAction request.taskId plan := by
  obtain ⟨accepted, rfl⟩ := RequestUserAction.plan_ok h
  have htask := taskId_of_taskRecord accepted.record
  refine ⟨rfl, List.forall_mem_cons.mpr ⟨by simp [Planned], ?_⟩⟩
  exact htask ▸ planned_pendingLifecycle accepted.lifecyclePlanned (by decide)

theorem ResolveUserAction.planned_gap {requestId resolutionId taskId : String}
    {body : UserActionResolutionBody}
    (h : gapMutations checkpoint requestId resolutionId body = .ok mutations)
    (hkind : .shapingResolveGap ∈ kinds) :
    ∀ mutation ∈ mutations, Planned kinds taskId mutation := by
  unfold gapMutations at h
  split at h
  · simp only [steps_ok] at h
    obtain ⟨_, _, rfl⟩ := h
    simp [Planned, hkind]
  · obtain rfl := Except.ok.inj h
    simp

theorem ResolveUserAction.planFor {request : ResolveUserActionRequest}
    (h : ResolveUserAction.plan X context t request resolutionId = .ok plan) :
    PlanFor .resolveUserAction plan.taskId plan := by
  obtain ⟨accepted, rfl⟩ := ResolveUserAction.plan_ok h
  have htask := taskId_of_taskRecord accepted.record
  refine ⟨rfl, ?_⟩
  simp only [Accepted.plan, List.cons_append, List.forall_mem_cons, List.forall_mem_append]
  refine ⟨by simp [Planned], planned_gap accepted.gapPlanned (by decide), ?_⟩
  exact htask ▸ planned_pendingLifecycle accepted.lifecyclePlanned (by decide)

section
variable {request : ReconcileChangesRequest}

theorem ReconcileChanges.planUserAction_ok {record : UnrecordedChangeRecord}
    (h : planUserAction X context t request task changeUnit requestId record = .ok mutation) :
    ∃ identity constructed, constructUserAction X context t task changeUnit (userActionIntent
        request.taskId changeUnit (unrecordedRef context request.taskId record) record)
          = .ok constructed ∧
      mutation = .userAction (.insertRequest (materializeUserActionRequest context requestId
        identity (.reconciliation record.unrecordedChangeId) constructed)) := by
  simp only [planUserAction, steps_ok, requireFresh_eq_ok, exists_const] at h
  obtain ⟨constructed, hconstructed, identity, _, _, rfl⟩ := h
  exact ⟨identity, constructed, hconstructed, rfl⟩

theorem ReconcileChanges.planFor {requestIds : List String}
    (h : ReconcileChanges.plan X context t request requestIds admitted = .ok plan) :
    PlanFor .reconcileChanges request.taskId plan := by
  obtain ⟨accepted, rfl⟩ := ReconcileChanges.plan_ok h
  refine ⟨rfl, ?_⟩
  simp only [Accepted.plan, List.forall_mem_append]
  refine ⟨?_, ?_⟩
  · intro mutation hmutation
    obtain ⟨_, _, rfl⟩ := List.mem_map.mp hmutation
    simp [Planned]
  · intro mutation hmutation
    obtain ⟨_, _, hplanned⟩ :=
      exists_of_forall₂ (mapM_eq_ok.mp accepted.askedPlanned) mutation hmutation
    obtain ⟨_, _, _, rfl⟩ := planUserAction_ok hplanned
    simp [Planned]

end

theorem CloseTask.planFor {request : CloseTaskRequest}
    (h : CloseTask.plan X context t request admitted = .ok plan) :
    PlanFor .closeTask request.taskId plan := by
  obtain ⟨accepted, rfl⟩ := CloseTask.plan_ok h
  refine ⟨rfl, ?_⟩
  simp only [Accepted.plan, mutations, List.forall_mem_append]
  refine ⟨⟨?_, by simp [Planned]⟩, ?_⟩
  · cases accepted.facts.controlUpdate <;> simp [Planned]
  · split
    · cases request.supersedingTaskId <;> simp [Planned]
    · simp

theorem CoreTables.activeTaskRecord_ok (h : t.activeTaskRecord projectId = .ok (some task)) :
    t.activeTaskId = some task.taskId ∧ t.taskRecord projectId task.taskId = .ok (some task) := by
  unfold activeTaskRecord at h
  cases hactive : t.activeTaskId with
  | none => rw [hactive] at h; cases h
  | some taskId =>
    rw [hactive] at h
    obtain rfl := taskId_of_taskRecord h
    exact ⟨rfl, h⟩

/-- What intake does to a Task that was there before: the active one may be superseded. -/
theorem Intake.plan_moves {request : IntakeRequest} {ids : IntakeIds}
    (h : Intake.plan X context t request ids = .ok plan) : ∀ mutation ∈ plan.mutations,
    mutation.kind ∈ MethodName.plannedKinds .intake ∧ ∀ taskId, mutation.movesTask = some taskId →
    request.resumePolicy = .supersedeActive ∧ t.activeTaskId = some taskId := by
  obtain ⟨policy, active, _, hactive, _, ⟨task, _, _, hresumed⟩ | ⟨_, accepted, rfl⟩⟩ :=
    Intake.plan_ok h
  · simp only [planResume, steps_ok] at hresumed
    obtain ⟨_, rfl⟩ := hresumed
    intro mutation hmutation
    split at hmutation
    · obtain rfl := List.mem_singleton.mp hmutation
      simp
    · cases hmutation
  · simp only [AcceptedNew.plan, retireActive, List.forall_mem_append]
    refine ⟨?_, by simp⟩
    intro mutation hmutation
    obtain ⟨task, htask, hmem⟩ := List.mem_flatMap.mp hmutation
    obtain rfl := Option.mem_toList.mp htask
    rcases List.mem_cons.mp hmem with rfl | hsupersede
    · simp
    · split at hsupersede
      · rename_i hresume
        obtain rfl := List.mem_singleton.mp hsupersede
        have hid := (activeTaskRecord_ok hactive).1
        simp [hresume, hid]
      · cases hsupersede

theorem PlanFor.of_transition {key : WorkflowActionKey}
    {coordinatesMatch : WorkflowActionAuthorityCoordinates → Bool}
    {mismatchCode : WorkflowActionAuthorityCoordinates → ErrorCode}
    (h : PlanFor method taskId plan)
    (hadmitted : admitTransition X context t taskId key coordinatesMatch mismatchCode
      = .ok admitted) :
    PlanFor method plan.taskId plan ∧ ∃ key admitted,
      currentTransitionAdmission X context t plan.taskId key = .ok admitted := by
  obtain rfl := h.task
  exact ⟨h, key, admitted, (admitTransition_ok hadmitted).1⟩

/-- Outside intake a plan is for one Task, which the workflow machine has admitted a transition
of. -/
theorem CoreMethodCall.plan_admitted (h : call.plan X context t = .ok plan)
    (hmethod : call.method ≠ .intake) : PlanFor call.method plan.taskId plan ∧ ∃ key admitted,
    currentTransitionAdmission X context t plan.taskId key = .ok admitted := by
  unfold CoreMethodCall.plan at h
  obtain ⟨resolved, _, h⟩ := bind_eq_ok.mp h
  cases call with
  | intake => exact absurd rfl hmethod
  | resolveUserAction request resolutionId =>
    refine ⟨ResolveUserAction.planFor h, ?_⟩
    obtain ⟨accepted, rfl⟩ := ResolveUserAction.plan_ok h
    exact ⟨_, accepted.admitted, accepted.admission⟩
  | prepareWrite request ticketId =>
    obtain ⟨taskId, _, h⟩ := bind_eq_ok.mp h
    obtain ⟨_, hadmitted, hplan⟩ := bind_eq_ok.mp h
    exact (PrepareWrite.planFor hplan).of_transition hadmitted
  | updateScope =>
    obtain ⟨_, hadmitted, hplan⟩ := bind_eq_ok.mp h
    exact (UpdateScope.planFor hplan).of_transition hadmitted
  | recordShapingCheckpoint =>
    obtain ⟨_, hadmitted, hplan⟩ := bind_eq_ok.mp h
    exact (RecordShaping.planFor hplan).of_transition hadmitted
  | advanceTask =>
    obtain ⟨_, hadmitted, hplan⟩ := bind_eq_ok.mp h
    exact (AdvanceTask.planFor hplan).of_transition hadmitted
  | finalizeAdvice =>
    obtain ⟨_, hadmitted, hplan⟩ := bind_eq_ok.mp h
    exact (FinalizeAdvice.planFor hplan).of_transition hadmitted
  | prepareEvidenceCapture =>
    obtain ⟨_, hadmitted, hplan⟩ := bind_eq_ok.mp h
    exact (PrepareEvidenceCapture.planFor hplan).of_transition hadmitted
  | recordRun =>
    obtain ⟨_, hadmitted, hplan⟩ := bind_eq_ok.mp h
    exact (RecordRun.planFor hplan).of_transition hadmitted
  | requestUserAction =>
    obtain ⟨_, hadmitted, hplan⟩ := bind_eq_ok.mp h
    exact (RequestUserAction.planFor hplan).of_transition hadmitted
  | reconcileChanges =>
    obtain ⟨_, hadmitted, hplan⟩ := bind_eq_ok.mp h
    exact (ReconcileChanges.planFor hplan).of_transition hadmitted
  | closeTask =>
    obtain ⟨_, hadmitted, hplan⟩ := bind_eq_ok.mp h
    exact (CloseTask.planFor hplan).of_transition hadmitted

theorem CoreMethodCall.plan_kinds (h : call.plan X context t = .ok plan) :
    ∀ mutation ∈ plan.mutations, mutation.kind ∈ call.method.plannedKinds := by
  by_cases hmethod : call.method = .intake
  · cases call with
    | intake request ids =>
      obtain ⟨_, _, hplan⟩ := bind_eq_ok.mp h
      exact fun mutation hmutation => (Intake.plan_moves hplan mutation hmutation).1
    | _ => cases hmethod
  · exact fun mutation hmutation => ((plan_admitted h hmethod).1.mutations mutation hmutation).1

end methods

theorem CoreStorageMutation.isWorkflowPolicy_eq_false (h : mutation.kind ∈ method.plannedKinds) :
    mutation.isWorkflowPolicy = false := by
  cases mutation with
  | workflowPolicy mutation =>
    cases mutation
    cases method <;> simp at h
  | _ => rfl

section
variable (h : CommittedDraft X draft committedAt t t')
include h

theorem CommittedDraft.notPolicy (hmem : mutation ∈ draft.plan.mutations) :
    mutation.isWorkflowPolicy = false :=
  isWorkflowPolicy_eq_false
    (CoreMethodCall.plan_kinds h.prepared.planned mutation hmem)

/-- A relation that every mutation of a plan respects relates the tables before its commit with
those after it. -/
theorem CommittedDraft.rel {R : CoreTables → CoreTables → Prop} (hrefl : ∀ s, R s s)
    (htrans : ∀ s₁ s₂ s₃, R s₁ s₂ → R s₂ s₃ → R s₁ s₃)
    (hstep : ∀ s s', ∀ mutation ∈ draft.plan.mutations,
      mutation.apply X ⟨draft.context.projectId, committedAt⟩ (draft.context.stateVersion + 1) s
        = .ok s' → mutation.isWorkflowPolicy = false → R s s') : R t t' :=
  foldlM_rel hrefl htrans (fun s s' mutation hmutation happly =>
    hstep s s' mutation hmutation happly (h.notPolicy hmutation)) h.applied

/-- What a commit adds to a table was inserted by one of its mutations. -/
theorem CommittedDraft.exists_mutation {α : Type}
    {H : CoreTables → α → Prop} {N : CoreStorageMutation → α → Prop}
    (hstep : ∀ s s' mutation a, mutation.apply X ⟨draft.context.projectId, committedAt⟩
      (draft.context.stateVersion + 1) s = .ok s' → H s' a → H s a ∨ N mutation a)
    {a : α} (ha : H t' a) : H t a ∨ ∃ mutation ∈ draft.plan.mutations, N mutation a :=
  h.rel (R := fun s s' => H s' a → H s a ∨ ∃ mutation ∈ draft.plan.mutations, N mutation a)
    (fun _ h => .inl h)
    (fun _ _ _ h₁ h₂ h => (h₂ h).elim h₁ .inr)
    (fun s s' mutation hmutation happly _ h =>
      (hstep s s' mutation a happly h).imp_right fun hinserts => ⟨mutation, hmutation, hinserts⟩) ha

end

end Volicord
