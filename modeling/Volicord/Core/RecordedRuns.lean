import Volicord.Core.PlanSpec

/-! Recorded Runs. Every Run in the tables was put there by a committed `record_run`, in one
commit with the consumption of the ticket it names. -/
namespace Volicord
open Result Relational CoreTables
variable {ι : Type} [DecidableEq ι]
variable {X : External} {row : RunRecord} {t t' : CoreTables} {mutation : CoreStorageMutation}
  {context : MutationContext}

section
variable {version : Nat} (h : mutation.apply X context version t = .ok t')
include h

theorem CoreStorageMutation.mem_runs (hrow : row ∈ t'.runs.rows) :
    row ∈ t.runs.rows ∨ mutation = .run (.insert row) := by
  have honly := apply_only h
  cases mutation with
  | run mutation =>
    cases mutation with
    | insert inserted =>
      simp only [apply, RunMutation.apply, insertRun, steps_ok,
        insertRow_ok] at h
      obtain ⟨_, _, _, _, _, _, _, _, _, _, rows, ⟨_, hinsert⟩, rfl⟩ := h
      rcases (Table.mem_insert? hinsert).mp hrow with hold | rfl
      · exact .inl hold
      · exact .inr rfl
  | _ => exact .inl (honly.eq (·.runs) (fun _ _ => rfl) ▸ hrow)

theorem CoreStorageMutation.runs_kept (hrow : row ∈ t.runs.rows) : row ∈ t'.runs.rows := by
  have honly := apply_only h
  cases mutation with
  | run mutation =>
    cases mutation with
    | insert inserted =>
      simp only [apply, RunMutation.apply, insertRun, steps_ok,
        insertRow_ok] at h
      obtain ⟨_, _, _, _, _, _, _, _, _, _, rows, ⟨_, hinsert⟩, rfl⟩ := h
      exact (Table.mem_insert? hinsert).mpr (.inl hrow)
  | _ => exact (honly.eq (·.runs) fun _ _ => rfl) ▸ hrow

end

/-- The kinds a `record_run` writes the Task and its requests with. -/
@[simp] def RecordRun.taskKinds : List MutationKind :=
  [.taskUpdateControlLevel, .taskUpdateCloseBasis, .requestInvalidate, .taskUpdateScope]

/-- A plan inserts the Run, writes the Task, consumes the ticket and records the evidence. -/
theorem RecordRun.Accepted.plan_split {context : PlanContext} {t : CoreTables}
    {raw : RecordRunRequest} {ids : RecordRunIds} (accepted : Accepted X context t raw ids)
    (admitted : AdmittedTransition) : ∃ task, (accepted.plan admitted).mutations =
        .run (.insert accepted.row) :: task
          ++ (accepted.ticket.map (consumption accepted.runId accepted.facts.policy)).toList
          ++ accepted.evidence.mutations ∧
      (∀ mutation ∈ task, mutation.kind ∈ taskKinds) ∧
      ∀ mutation ∈ accepted.evidence.mutations, mutation.kind ∈ evidenceKinds := by
  refine ⟨acceptanceUpdate accepted.request accepted.facts.task
    ++ [.task (.updateCloseBasis ⟨accepted.request.taskId,
        accepted.facts.task.closeBasisRevision + 1, accepted.basis⟩),
      .userAction (.markSupersededOrStale
        ⟨accepted.request.taskId, [.finalAcceptance, .residualRiskAcceptance], []⟩)]
    ++ accepted.lifecycle, rfl, ?_,
    fun mutation h => (planned_evidence accepted.evidencePlanned mutation h).1⟩
  simp only [List.forall_mem_append]
  refine ⟨⟨?_, by simp⟩, fun mutation h => ?_⟩
  · unfold acceptanceUpdate
    split <;> simp
  · have hplanned : Planned taskKinds _ mutation :=
      planned_pendingLifecycle accepted.lifecyclePlanned (by simp) mutation h
    exact hplanned.1

/-- The Change Unit a `record_run` transition is fixed to is the current one. -/
theorem RecordRun.changeUnit_of_coordinates {snapshot : WorkflowSnapshot}
    {coordinates : WorkflowActionAuthorityCoordinates} {request : RecordRunRequest}
    (h : snapshot.fixedAuthorityCoordinates actionKey = .ok coordinates)
    (hmatch : coordinatesMatch request coordinates) :
    snapshot.currentChangeUnit.map (·.changeUnitId) = some request.changeUnitId := by
  obtain ⟨changeUnitId, hunit, h⟩ := bind_eq_ok.mp h
  have hfixed : ∃ taskId baselineRef kind,
      coordinates = .recordRun taskId changeUnitId baselineRef kind := by
    cases hmode : snapshot.task.mode <;>
      simp only [hmode, steps_ok, reduceCtorEq, false_and, exists_false] at h
    all_goals
      obtain ⟨_, _, baselineRef, _, rfl⟩ := h
      exact ⟨_, _, _, rfl⟩
  obtain ⟨_, _, _, rfl⟩ := hfixed
  simp only [coordinatesMatch, Bool.and_eq_true, decide_eq_true_eq] at hmatch
  rw [okOr_eq_ok.mp hunit, hmatch.1.1.2]

/-- The commit of an accepted `record_run`. -/
structure RunCommit (X : External) (t : CoreTables) (answer : CoreAnswer) (t' : CoreTables) where
  draft : CoreDraft
  committedAt : String
  request : RecordRunRequest
  ids : RecordRunIds
  admitted : AdmittedTransition
  accepted : RecordRun.Accepted X draft.context draft.snapshot request ids
  answered : ∃ response basis committed events,
    answer = .commit draft (.ok (.committed response basis committed events))
  commit : CommittedDraft X draft committedAt t t'
  call : draft.submission.call = .recordRun request ids
  admission : admitTransition X draft.context draft.snapshot request.taskId RecordRun.actionKey
    (RecordRun.coordinatesMatch request) (RecordRun.mismatchCode request) = .ok admitted
  planned : draft.plan = accepted.plan admitted

theorem CoreMethodCall.plan_run {context : PlanContext} {t : CoreTables}
    {call : CoreMethodCall} {plan : OperationPlan}
    (h : call.plan X context t = .ok plan) (hrow : .run (.insert row) ∈ plan.mutations) :
    ∃ request ids admitted, ∃ accepted : RecordRun.Accepted X context t request ids,
      call = .recordRun request ids ∧
      admitTransition X context t request.taskId RecordRun.actionKey
        (RecordRun.coordinatesMatch request) (RecordRun.mismatchCode request) = .ok admitted ∧
      plan = accepted.plan admitted ∧ row = accepted.row := by
  have hkind := plan_kinds h _ hrow
  cases call with
  | recordRun request ids =>
    obtain ⟨_, _, hplan⟩ := bind_eq_ok.mp h
    obtain ⟨admitted, hadmitted, hplan⟩ := bind_eq_ok.mp hplan
    obtain ⟨accepted, rfl⟩ := RecordRun.plan_ok hplan
    refine ⟨request, ids, admitted, accepted, rfl, hadmitted, rfl, ?_⟩
    obtain ⟨task, hsplit, htask, hevidence⟩ := accepted.plan_split admitted
    rw [hsplit] at hrow
    rcases List.mem_append.mp hrow with hrow | hmem
    · rcases List.mem_append.mp hrow with hrow | hmem
      · rcases List.mem_cons.mp hrow with heq | hmem
        · exact RunMutation.insert.inj (CoreStorageMutation.run.inj heq)
        · simpa using htask _ hmem
      · cases hticket : accepted.ticket <;> simp [hticket, RecordRun.consumption] at hmem
    · simpa using hevidence _ hmem
  | _ => simp [CoreMethodCall.method] at hkind

theorem coreEffect_run {projectId : String} {answer : CoreAnswer}
    (h : CoreEffect X projectId t answer t') (hrow : row ∈ t'.runs.rows) : row ∈ t.runs.rows ∨
    ∃ run : RunCommit X t answer t', row = run.accepted.row := by
  cases h with
  | method _ hcommit =>
    rcases hcommit.exists_mutation (H := fun s r => r ∈ s.runs.rows)
      (fun _ _ _ _ happly => CoreStorageMutation.mem_runs happly) hrow with hold | ⟨_, hmem, rfl⟩
    · exact .inl hold
    · obtain ⟨request, ids, admitted, accepted, hcall, hadmitted, hplan, rfl⟩ :=
        CoreMethodCall.plan_run hcommit.prepared.planned hmem
      exact .inr ⟨⟨_, _, request, ids, admitted, accepted, ⟨_, _, _, _, rfl⟩, hcommit, hcall,
        hadmitted, hplan⟩, rfl⟩
  | policy happly =>
    have honly := (applyProjectWorkflowPolicyMutation_ok happly).1
    exact .inl (honly.eq (·.runs) (fun _ _ => rfl) ▸ hrow)
  | environment change => cases change <;> exact .inl hrow
  | idle => exact .inl hrow

theorem coreRun_recorded {projectId createdAt : String}
    {handles : ι → StoreHandle} (ops : List (CoreOp ι))
    (hrow : row ∈ (Transition.run (coreStep X) (CoreSystem.initial projectId createdAt handles)
      ops).tables.runs.rows) :
    ∃ e ∈ Transition.trace (coreStep X) (CoreSystem.initial projectId createdAt handles) ops,
      ∃ run : RunCommit X e.before.tables e.result e.after.tables, row = run.accepted.row :=
  coreRun_exists_event (I := fun _ => True) (H := fun t row => row ∈ t.runs.rows)
    (M := fun t answer t' row => ∃ run : RunCommit X t answer t', row = run.accepted.row)
    trivial (fun _ _ _ _ _ => trivial) (fun _ h => absurd h List.not_mem_nil)
    (fun _ _ _ _ heffect _ => coreEffect_run heffect) ops hrow

namespace RunCommit
variable {X : External} {t t' : CoreTables} {answer : CoreAnswer} (run : RunCommit X t answer t')

theorem acquired : run.accepted.facts.Acquired X run.draft.context run.draft.snapshot
    run.accepted.request :=
  RecordRun.acquireFacts_ok run.accepted.acquired

theorem taskRow : t.taskRow run.accepted.row.taskId = some run.accepted.facts.task := by
  rw [← run.commit.snapshot.read (·.taskRow _) fun _ _ => rfl]
  exact (taskRecord_ok run.acquired.record).1

theorem currentChangeUnit :
    t.currentChangeUnit run.accepted.row.taskId = .ok (some run.accepted.facts.changeUnit) := by
  rw [← run.commit.snapshot.read (·.currentChangeUnit _) fun _ _ => rfl]
  have hnormal := RecordRunRequest.normalize_ok run.accepted.normalized
  obtain ⟨hcurrent, hmatch⟩ := admitTransition_ok run.admission
  obtain ⟨hread, evaluation, heval, hlisted⟩ := currentTransitionAdmission_listed hcurrent
  have hsnapshot := currentWorkflowSnapshot_ok hread
  have hcoordinates := WorkflowSnapshot.coordinates_of_transition heval hlisted
  have hunit : run.admitted.snapshot.currentChangeUnit.map (·.changeUnitId)
      = some run.request.changeUnitId :=
    RecordRun.changeUnit_of_coordinates hcoordinates hmatch
  obtain ⟨unit, hcurrent, hid⟩ := Option.map_eq_some_iff.mp hunit
  have hread := hsnapshot.changeUnit
  rw [hcurrent] at hread
  obtain ⟨hmem, _⟩ := currentChangeUnit_mem hread
  have hfound := run.acquired.changeUnit
  simp only [changeUnitRecord, Option.filter_eq_some_iff] at hfound
  have hsame : run.draft.snapshot.changeUnits.find? unit.changeUnitId = some unit :=
    Table.find?_of_mem hmem
  rw [hid, ← hnormal.2.1, hfound.1] at hsame
  rw [Option.some.inj hsame, RecordRun.Accepted.row, RecordRun.runRow, hnormal.1]
  exact hread

/-- The two ways a Run is recorded: with one active ticket that is good for it, or without any. -/
theorem ticket_cases : (∃ stored authorities, run.accepted.ticket = some stored ∧
      run.accepted.row.writeTicketId = some stored.writeTicketId ∧
      t.writeTicketRecord stored.writeTicketId = some stored ∧ stored.status = .active ∧
      writeTicketIsIdleExpired stored.idleExpiresAt run.draft.context.now = false ∧
      (RecordRun.writeAdmission run.draft.context run.accepted.request run.accepted.facts).Admits X
        run.draft.context t stored authorities) ∨
    (run.accepted.ticket = none ∧ run.accepted.row.writeTicketId = none ∧
      run.accepted.row.observedChanges.productFileWriteObserved = false ∧
      run.accepted.facts.control.effectiveControlLevel ≠ .sensitive) := by
  rcases RecordRun.admitTicket_ok run.accepted.ticketAdmitted with
    ⟨stored, id, authorities, hticket, _, hstored, _, _, hactive, hidle, hadmits⟩
      | ⟨hticket, _, hwrite, hcontrol⟩
  · have hid : stored.writeTicketId = id := Table.key_of_find? hstored
    refine .inl ⟨stored, authorities, hticket, ?_, ?_, hactive, hidle, ?_⟩
    · rw [RecordRun.Accepted.row, RecordRun.runRow, hticket]
      rfl
    · rw [← run.commit.snapshot.read (·.writeTicketRecord _) fun _ _ => rfl, hid]
      exact hstored
    · refine { hadmits with resolved := ?_ }
      rw [← run.commit.snapshot.read (·.resolvedSensitiveApprovals _ _) fun _ _ => rfl]
      exact hadmits.resolved
  · refine .inr ⟨hticket, ?_, hwrite, hcontrol⟩
    rw [RecordRun.Accepted.row, RecordRun.runRow, hticket]
    rfl

theorem consumed {stored : StoredWriteTicket} (hticket : run.accepted.ticket = some stored)
    (hstored : t.writeTicketRecord stored.writeTicketId = some stored) :
    t'.writeTicketRecord stored.writeTicketId = some { stored with
        status := .consumed, consumedByRunId := some run.accepted.row.runId
        consumedAt := some run.committedAt } ∧
      ∀ row ∈ t'.writeTickets.rows, row.consumedByRunId = some run.accepted.row.runId →
        row.writeTicketId = stored.writeTicketId := by
  have happlied := run.commit.applied
  obtain ⟨task, hsplit, htask, hevidence⟩ := run.accepted.plan_split run.admitted
  rw [run.planned, hsplit, hticket] at happlied
  obtain ⟨s₂, hfirst, hlast⟩ := applyMutations_append.mp happlied
  obtain ⟨s₁, hfirst, hconsume⟩ := applyMutations_append.mp hfirst
  have hbefore : s₁.writeTickets = t.writeTickets := by
    refine applyMutations_writeTickets hfirst fun mutation hmutation => ?_
    have hdisjoint : ∀ kind ∈ RecordRun.taskKinds, kind ∉ ticketKinds := by decide
    rcases List.mem_cons.mp hmutation with rfl | hmutation
    · simp
    · exact hdisjoint _ (htask mutation hmutation)
  have hafter : t'.writeTickets = s₂.writeTickets := by
    have hdisjoint : ∀ kind ∈ RecordRun.evidenceKinds, kind ∉ ticketKinds := by decide
    exact applyMutations_writeTickets hlast fun mutation hmutation =>
      hdisjoint _ (hevidence mutation hmutation)
  obtain ⟨_, hconsume, hdone⟩ := applyMutations_cons.mp hconsume
  obtain rfl := applyMutations_nil.mp hdone
  obtain ⟨hunique, rfl⟩ := consumeWriteTicket_ok hconsume
  rw [hbefore] at hunique
  have hrows : t'.writeTickets = t.writeTickets.update stored.writeTicketId ({ · with
      status := .consumed, consumedByRunId := some run.accepted.row.runId
      consumedAt := some run.committedAt }) := by
    rw [hafter, ← hbefore]
    rfl
  rw [writeTicketRecord, hrows]
  refine ⟨?_, fun row hrow hconsumed => ?_⟩
  · rw [writeTicketRecord] at hstored
    rw [Table.find?_update, if_pos rfl, hstored]
    rfl
  · obtain ⟨old, hold, rfl⟩ := List.mem_map.mp hrow
    by_cases hid : old.writeTicketId = stored.writeTicketId
    · simp [hid]
    · simp only [hid, decide_false, Bool.false_eq_true, if_false] at hconsumed
      exact absurd hconsumed (hunique old hold)

end RunCommit

end Volicord
