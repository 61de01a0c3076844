import Volicord.Core.PlanSpec

/-! How a Task ended stays as it is. Only the mutations that move a Task write the columns that
say how it ended; a planned mutation moves the Task of its call, which the workflow machine has
found open, or the active Task an intake supersedes, which nothing has looked at. -/
namespace Volicord
open Result Relational
variable {ι : Type} [DecidableEq ι]
variable {X : External} {taskId : String} {t t' : CoreTables}

structure TaskEnding where
  lifecyclePhase : TaskLifecyclePhase
  result : Option TaskResult
  closedAt : Option String
  closeSummary : PersistedCloseSummary
deriving DecidableEq

def TaskRecord.ending (row : TaskRecord) : TaskEnding :=
  ⟨row.lifecyclePhase, row.result, row.closedAt, row.closeSummary⟩

def CoreTables.ending (t : CoreTables) (taskId : String) : Option TaskEnding :=
  (t.taskRow taskId).map (·.ending)

theorem CoreStorageMutation.ending_of_edit {context : MutationContext}
    {mutation : CoreStorageMutation} {change : TaskRecord → TaskRecord}
    (hmoves : mutation.movesTask ≠ some taskId)
    (heffect : mutation.taskEffect X context = .edit taskId change) (row : TaskRecord) :
    (change row).ending = row.ending := by
  cases mutation with
  | task mutation =>
    cases mutation with
    | insert | setActive | replaceAcceptanceCriteria => cases heffect
    | supersede | close | updateScope =>
      obtain ⟨rfl, _⟩ := TaskEffect.edit.inj heffect
      exact absurd rfl hmoves
    | updateControlLevel | updateScopeRevision | updateCloseBasis =>
      obtain ⟨_, rfl⟩ := TaskEffect.edit.inj heffect
      rfl
  | changeUnit mutation =>
    cases mutation <;>
      (obtain ⟨rfl, _⟩ := TaskEffect.edit.inj heffect; exact absurd rfl hmoves)
  | shaping mutation =>
    cases mutation with
    | applyAdvanceAndTransition input =>
      obtain ⟨rfl, _⟩ := TaskEffect.edit.inj heffect
      exact absurd rfl hmoves
    | _ => cases heffect
  | _ => cases heffect

theorem CoreStorageMutation.apply_ending {context : MutationContext} {version : Nat}
    {mutation : CoreStorageMutation} {ending : TaskEnding}
    (happly : mutation.apply X context version t = .ok t')
    (hpolicy : mutation.isWorkflowPolicy = false) (hmoves : mutation.movesTask ≠ some taskId)
    (h : t.ending taskId = some ending) : t'.ending taskId = some ending := by
  obtain ⟨row, hrow, rfl⟩ := Option.map_eq_some_iff.mp h
  obtain ⟨row', hrow', heq⟩ := apply_keeps TaskRecord.ending happly hpolicy hrow
    fun change heffect => ending_of_edit hmoves heffect row
  exact Option.map_eq_some_iff.mpr ⟨row', hrow', heq⟩

theorem CommittedDraft.ending {draft : CoreDraft} {committedAt : String} {ending : TaskEnding}
    (h : CommittedDraft X draft committedAt t t')
    (hmoves : ∀ mutation ∈ draft.plan.mutations, mutation.movesTask ≠ some taskId)
    (hending : t.ending taskId = some ending) : t'.ending taskId = some ending :=
  h.rel (R := fun s s' => s.ending taskId = some ending → s'.ending taskId = some ending)
    (fun _ h => h) (fun _ _ _ h₁ h₂ h => h₂ (h₁ h))
    (fun _ _ mutation hmutation happly hpolicy =>
      CoreStorageMutation.apply_ending happly hpolicy (hmoves mutation hmutation)) hending

section
variable {snapshot t : CoreTables} (h : snapshot.ReadFrom t)
include h

theorem CoreTables.ReadFrom.taskRow
    (taskId : String) : snapshot.taskRow taskId = t.taskRow taskId := by
  rw [← h]
  rfl

theorem CoreTables.ReadFrom.activeTaskId : snapshot.activeTaskId = t.activeTaskId := by
  rw [← h]
  rfl

end

/-- A committed intake supersedes an active Task that has ended before. -/
def supersedesEndedTask (t : CoreTables) : CoreAnswer → Bool
  | .commit draft (.ok (.committed ..)) => match draft.submission.call with
    | .intake request _ => request.resumePolicy = .supersedeActive
      && (t.activeTaskId.bind t.taskRow).any (·.lifecyclePhase.terminal)
    | _ => false
  | _ => false

/-- No mutation of a committed plan moves a Task that has ended, unless an intake supersedes
it. -/
theorem CommittedDraft.movesTask_ne {draft : CoreDraft} {committedAt : String}
    {response : String} {basis committed : Nat}
    {events : List CommittedEventRef} {row : TaskRecord}
    (h : CommittedDraft X draft committedAt t t') (hrow : t.taskRow taskId = some row)
    (hterminal : row.lifecyclePhase.terminal)
    (hactive : supersedesEndedTask t
      (.commit draft (.ok (.committed response basis committed events))) = false) :
    ∀ mutation ∈ draft.plan.mutations, mutation.movesTask ≠ some taskId := by
  intro mutation hmutation hmoves
  by_cases hmethod : draft.submission.call.method = .intake
  · cases hcall : draft.submission.call with
    | intake request ids =>
      have hplanned := h.prepared.planned
      rw [hcall] at hplanned
      obtain ⟨_, _, hplan⟩ := bind_eq_ok.mp hplanned
      obtain ⟨hpolicy, hid⟩ := (Intake.plan_moves hplan mutation hmutation).2 taskId hmoves
      rw [h.snapshot.activeTaskId] at hid
      simp [supersedesEndedTask, hcall, hpolicy, hid, hrow, hterminal] at hactive
    | _ => rw [hcall] at hmethod; cases hmethod
  · obtain ⟨hplan, key, admitted, hadmitted⟩ :=
      CoreMethodCall.plan_admitted h.prepared.planned hmethod
    obtain ⟨hsnapshot, hlive, _⟩ := currentTransitionAdmission_ok hadmitted
    have hown := (hplan.mutations mutation hmutation).2
    rw [hmoves] at hown
    have hsame : taskId = draft.plan.taskId := by simpa using hown
    have htask := hsnapshot.task
    rw [← hsame, h.snapshot.taskRow, hrow] at htask
    rw [← Option.some.inj htask, hterminal] at hlive
    cases hlive

/-- The step lemma: an operation that supersedes no ended Task leaves the ending of every ended
Task alone. -/
theorem coreEffect_ending {projectId : String} {answer : CoreAnswer}
    (h : CoreEffect X projectId t answer t') (hactive : supersedesEndedTask t answer = false)
    {ending : TaskEnding} (hending : t.ending taskId = some ending)
    (hterminal : ending.lifecyclePhase.terminal) : t'.ending taskId = some ending := by
  cases h with
  | method _ hdraft =>
    obtain ⟨row, hrow, rfl⟩ := Option.map_eq_some_iff.mp hending
    exact hdraft.ending (hdraft.movesTask_ne hrow hterminal hactive) hending
  | policy hpolicy =>
    obtain ⟨_, hrows⟩ := CoreTables.applyProjectWorkflowPolicyMutation_ok hpolicy
    obtain ⟨mark, hrow⟩ := hrows taskId
    rw [CoreTables.ending, hrow, Option.map_map]
    exact hending
  | environment change => cases change <;> exact hending
  | idle _ => exact hending

/-- Once a Task has ended, no later operation of the run changes how, as long as no intake
supersedes an active Task that has ended. -/
theorem terminal_ending_kept (X : External) (projectId createdAt : String)
    (handles : ι → StoreHandle) (before after : List (CoreOp ι)) (taskId : String)
    (ending : TaskEnding)
    (hended : (Transition.run (coreStep X) (CoreSystem.initial projectId createdAt handles)
      before).tables.ending taskId = some ending)
    (hterminal : ending.lifecyclePhase.terminal = true)
    (hafter : ∀ e ∈ Transition.trace (coreStep X) (Transition.run (coreStep X)
        (CoreSystem.initial projectId createdAt handles) before) after,
      supersedesEndedTask e.before.tables e.result = false) :
    (Transition.run (coreStep X) (CoreSystem.initial projectId createdAt handles)
      (before ++ after)).tables.ending taskId = some ending := by
  rw [Transition.run_append]
  have hsound := Transition.run_invariant (I := fun s : CoreSystem ι => s.Sound X projectId)
    coreStep_sound _ before (CoreSystem.sound_initial X projectId createdAt handles)
  exact (Transition.run_invariant_of_trace
    (I := fun s : CoreSystem ι => s.Sound X projectId ∧ s.tables.ending taskId = some ending)
    (C := fun e => supersedesEndedTask e.before.tables e.result = false)
    (fun s op h hC => ⟨coreStep_sound s op h.1,
      coreEffect_ending (h.1.effect op) hC h.2 hterminal⟩)
    _ after ⟨hsound, hended⟩ hafter).2

def cancelledTask : List (CoreOp Unit) :=
  agentCall (sampleIntake "a" 0 .direct .rejectIfActive [] []) []
  ++ agentCall (sampleQuestion "a" "ask" 1 .cancellation [.closeCancel] none) []
  ++ userCall (sampleAnswer "ask" "answer" "accept") []
  ++ agentCall (.closeTask ⟨sampleEnvelope (some "a") "close" (some 3), "a", .cancel,
    some .cancelled, none, none⟩) []

def cancelledEnding : TaskEnding :=
  ⟨.cancelled, some .cancelled, some "x", ⟨.cancelled, some 1, some .cancel, none, none⟩⟩

theorem terminal_ending_kept_cancelled :
    (Transition.run (coreStep sampleExternal) sampleProject (cancelledTask
      ++ agentCall (sampleIntake "b" 4 .direct .createNew [] []) [])).tables.ending "a"
        = some cancelledEnding :=
  terminal_ending_kept sampleExternal "project" "x" (fun _ => ⟨some "home", some "home", none⟩)
    cancelledTask (agentCall (sampleIntake "b" 4 .direct .createNew [] []) []) "a" cancelledEnding
    (by decide +kernel) (by decide) (by decide +kernel)

/-- The cancelled Task is still the active one, and an intake that supersedes the active Task
turns its cancellation into a supersession. -/
theorem supersedeActive_rewrites_cancelled :
    (Transition.run (coreStep sampleExternal) sampleProject cancelledTask).tables.ending "a"
        = some cancelledEnding ∧
      (Transition.run (coreStep sampleExternal) sampleProject (cancelledTask
        ++ agentCall (sampleIntake "b" 4 .direct .supersedeActive [] []) [])).tables.ending "a"
          = some ⟨.superseded, some .superseded, some "x",
            { PersistedCloseSummary.open with closeReason := .superseded }⟩ := by
  decide +kernel

end Volicord
