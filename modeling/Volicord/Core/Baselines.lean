import Volicord.Core.PlanSpec

/-! The two baselines of a Task: the one in its stored scope, which `update_scope` merges with
what was there, and the one its current Change Unit was made with, taken from the request
alone. -/
namespace Volicord
open Result Relational CoreTables
variable {ι : Type} [DecidableEq ι]
variable {t t' : CoreTables} {X : External} {request : UpdateScopeRequest}
  {changeUnitId taskId : String} {unit : ChangeUnitRecord} {ids : UpdateScopeIds}

/-- Every current Change Unit has a Task, and was made with the baseline of that Task. -/
def CoreTables.BaselinesAgree (t : CoreTables) : Prop :=
  ∀ unit ∈ t.changeUnits.rows, ChangeUnitIsCurrent unit.taskId unit = true →
    ∃ task, t.taskRow unit.taskId = some task ∧
      task.shaping.baselineRef = unit.writeBasis.baselineRef

def CoreTables.KeepsTaskBaselines (t t' : CoreTables) : Prop :=
  ∀ id row, t.taskRow id = some row →
    ∃ row', t'.taskRow id = some row' ∧ row'.shaping.baselineRef = row.shaping.baselineRef

theorem CoreTables.KeepsTaskBaselines.refl (t : CoreTables) : t.KeepsTaskBaselines t :=
  fun _ row h => ⟨row, h, rfl⟩

theorem CoreTables.KeepsTaskBaselines.trans {t₁ t₂ t₃ : CoreTables}
    (h₁ : t₁.KeepsTaskBaselines t₂) (h₂ : t₂.KeepsTaskBaselines t₃) : t₁.KeepsTaskBaselines t₃ := by
  intro id row hrow
  obtain ⟨middle, hmiddle, hbaseline₁⟩ := h₁ id row hrow
  obtain ⟨last, hlast, hbaseline₂⟩ := h₂ id middle hmiddle
  exact ⟨last, hlast, hbaseline₂.trans hbaseline₁⟩

theorem CoreTables.BaselinesAgree.keep (ht : t.BaselinesAgree)
    (hunits : t'.changeUnits = t.changeUnits) (htasks : t.KeepsTaskBaselines t') :
    t'.BaselinesAgree := by
  intro unit hunit hcurrent
  rw [hunits] at hunit
  obtain ⟨task, htask, hagree⟩ := ht unit hunit hcurrent
  obtain ⟨task', htask', hbaseline⟩ := htasks _ task htask
  exact ⟨task', htask', hbaseline.trans hagree⟩

namespace CoreStorageMutation
variable {context : MutationContext} {version : Nat}
  {mutation : CoreStorageMutation}

theorem apply_taskBaseline (h : mutation.apply X context version t = .ok t')
    (hpolicy : mutation.isWorkflowPolicy = false) (hkind : mutation.kind ≠ .taskWriteScope)
    {id : String} {row : TaskRecord} (hrow : t.taskRow id = some row) :
    ∃ row', t'.taskRow id = some row' ∧ row'.shaping.baselineRef = row.shaping.baselineRef := by
  refine apply_keeps (·.shaping.baselineRef) h hpolicy hrow fun change hchange => ?_
  cases mutation with
  | task mutation =>
    cases mutation with
    | updateScope input =>
      obtain ⟨_, rfl⟩ := TaskEffect.edit.inj hchange
      cases hshaping : input.shaping with
      | none => simp [TaskScopeUpdate.edit, hshaping]
      | some shaping =>
        obtain ⟨_, _, _, _, _, _, _, _⟩ := input
        obtain rfl := hshaping
        exact absurd rfl hkind
    | insert | setActive | replaceAcceptanceCriteria => cases hchange
    | _ =>
      obtain ⟨_, rfl⟩ := TaskEffect.edit.inj hchange
      rfl
  | changeUnit mutation =>
    cases mutation <;>
      (obtain ⟨_, rfl⟩ := TaskEffect.edit.inj hchange
       rfl)
  | shaping mutation =>
    cases mutation with
    | applyAdvanceAndTransition =>
      obtain ⟨_, rfl⟩ := TaskEffect.edit.inj hchange
      rfl
    | _ => cases hchange
  | _ => cases hchange

@[simp] def changeUnitKinds : List MutationKind := [.changeUnitInsert, .changeUnitReplace]

theorem apply_changeUnits (h : mutation.apply X context version t = .ok t')
    (hkind : mutation.kind ∉ changeUnitKinds) : t'.changeUnits = t.changeUnits := by
  have honly := apply_only h
  cases mutation with
  | changeUnit mutation => cases mutation <;> simp at hkind
  | _ => exact honly.eq (·.changeUnits) fun _ _ => rfl

end CoreStorageMutation

section mutations
variable {context : MutationContext} {version : Nat}
  {mutations : List CoreStorageMutation}

section
variable (h : applyMutations X context version mutations t = .ok t')
include h

theorem applyMutations_taskBaselines
    (hkinds : ∀ mutation ∈ mutations, mutation.isWorkflowPolicy = false ∧
      mutation.kind ≠ .taskWriteScope) : t.KeepsTaskBaselines t' :=
  foldlM_rel (R := CoreTables.KeepsTaskBaselines) CoreTables.KeepsTaskBaselines.refl
    (fun _ _ _ => CoreTables.KeepsTaskBaselines.trans)
    (fun _ _ mutation hmem happly _ _ hrow =>
      CoreStorageMutation.apply_taskBaseline happly (hkinds mutation hmem).1
        (hkinds mutation hmem).2 hrow) h

theorem applyMutations_changeUnits
    (hkinds : ∀ mutation ∈ mutations, mutation.kind ∉ CoreStorageMutation.changeUnitKinds) :
    t'.changeUnits = t.changeUnits :=
  foldlM_rel (R := fun s s' : CoreTables => s'.changeUnits = s.changeUnits) (fun _ => rfl)
    (fun _ _ _ h₁ h₂ => h₂.trans h₁)
    (fun _ _ mutation hmem happly =>
      CoreStorageMutation.apply_changeUnits happly (hkinds mutation hmem)) h

end

end mutations

/-- Beside the Change Unit that replaces the current one of its Task, only those of other Tasks
are current. -/
theorem CoreTables.replaceCurrentChangeUnit_current {version : Nat} {input : ChangeUnitInsert}
    (h : t.replaceCurrentChangeUnit version input = .ok t')
    (hunit : unit ∈ t'.changeUnits.rows)
    (hcurrent : ChangeUnitIsCurrent unit.taskId unit) :
    (unit ∈ t.changeUnits.rows ∧ unit.taskId ≠ input.taskId) ∨
      unit = changeUnitRow version input := by
  simp only [replaceCurrentChangeUnit, bind_eq_ok] at h
  obtain ⟨_, _, hinsert⟩ := h
  obtain ⟨_, hrows⟩ := insertCurrentChangeUnit_rows hinsert
  rcases (Table.mem_insert? hrows).mp hunit with hold | hnew
  · refine .inl ?_
    obtain ⟨old, hmem, rfl⟩ := List.mem_map.mp hold
    by_cases hwas : ChangeUnitIsCurrent input.taskId old
    · rw [if_pos hwas] at hcurrent
      simp [ChangeUnitIsCurrent] at hcurrent
    · rw [if_neg hwas] at hcurrent ⊢
      exact ⟨hmem, fun htask => hwas (htask ▸ hcurrent)⟩
  · exact .inr hnew

theorem CoreTables.currentChangeUnit_none {t : CoreTables}
    (h : t.currentChangeUnit taskId = .ok none) :
    ∀ unit ∈ t.changeUnits.rows, ¬ ChangeUnitIsCurrent taskId unit := by
  unfold currentChangeUnit at h
  split at h
  · rename_i hnone
    exact fun unit hunit => List.find?_eq_none.mp hnone unit hunit
  · simp only [steps_ok, reduceCtorEq, and_false, exists_false] at h

namespace UpdateScope
variable {result : List CoreStorageMutation × Option String} {context : PlanContext}
  {changeUnit : Option ChangeUnitRecord}

/-- The kinds with which an `update_scope` writes its Task beside the scope. -/
@[simp] def taskKinds : List MutationKind :=
  [.taskUpdateControlLevel, .taskReplaceCriteria, .taskUpdateScopeRevision, .taskUpdateCloseBasis]

/-- The plan writes the scope, then the Task, makes its Change Unit and carries the change
through. -/
theorem Accepted.plan_split {t : CoreTables} {admitted : AdmittedTransition}
    (accepted : Accepted context t request ids admitted) : ∃ task,
      accepted.plan.mutations = scopeMutation accepted.task.taskId accepted.nextScope
        :: (task ++ (accepted.changeUnitMutations ++ accepted.changed)) ∧
      (∀ mutation ∈ task, mutation.kind ∈ taskKinds) ∧
      ∀ mutation ∈ accepted.changed, mutation.kind ∈ changeKinds := by
  refine ⟨controlMutations accepted.task.taskId accepted.control
    ++ (accepted.criteria.toList.map fun upserts =>
      .task (.replaceAcceptanceCriteria ⟨request.taskId, upserts⟩))
    ++ (if accepted.scopeChanged then
        [.task (.updateScopeRevision accepted.task.taskId (accepted.task.scopeRevision + 1)),
          .task (.updateCloseBasis
            ⟨accepted.task.taskId, accepted.task.closeBasisRevision + 1, none⟩)]
      else []), by simp [Accepted.plan], ?_, ?_⟩
  · simp only [List.forall_mem_append]
    refine ⟨⟨?_, ?_⟩, ?_⟩
    · intro mutation hmutation
      rw [controlMutations] at hmutation
      split at hmutation
      · obtain rfl := List.mem_singleton.mp hmutation
        simp
      · cases hmutation
    · intro mutation hmutation
      obtain ⟨upserts, _, rfl⟩ := List.mem_map.mp hmutation
      simp
    · split <;> simp
  · intro mutation hmutation
    have hchanged := accepted.changedPlanned
    split at hchanged
    · exact (planned_scopeChange (taskId_of_taskRecord accepted.record)
        hchanged mutation hmutation).1
    · rw [← pure_eq_ok.mp hchanged] at hmutation
      cases hmutation

/-- Where the scope is written, the Task has the next baseline and no Change Unit has changed. -/
theorem scopeMutation_baselines {context : MutationContext} {version : Nat} {scope : StoredScope}
    (h : (scopeMutation taskId scope).apply X context version t = .ok t') :
    t'.changeUnits = t.changeUnits ∧ ∀ id row, t.taskRow id = some row →
      ∃ row', t'.taskRow id = some row' ∧ row'.shaping.baselineRef
        = if id = taskId then scope.baselineRef else row.shaping.baselineRef := by
  refine ⟨(CoreStorageMutation.apply_only h).eq (·.changeUnits) fun _ _ => rfl,
    fun id row hrow => ?_⟩
  have hafter := CoreStorageMutation.apply_taskRow h rfl id
  simp only [scopeMutation, CoreStorageMutation.taskEffect, TaskEffect.rowAfter, hrow,
    Option.map_some] at hafter
  by_cases hid : id = taskId
  · rw [if_pos hid] at hafter
    exact ⟨_, hafter, by simp [hid, TaskScopeUpdate.edit]⟩
  · rw [if_neg hid] at hafter
    exact ⟨row, hafter, by simp [hid]⟩

/-- A current Change Unit was current before, and then the Task has not replaced it, or it is
the one just made, with the baseline of the request. -/
theorem planChangeUnit_current
    {mutationContext : MutationContext} {version : Nat} {snapshot t t' : CoreTables}
    (hplan : planChangeUnit context snapshot request changeUnit changeUnitId = .ok result)
    (happly : applyMutations X mutationContext version result.1 t = .ok t')
    (hunit : unit ∈ t'.changeUnits.rows)
    (hcurrent : CoreTables.ChangeUnitIsCurrent unit.taskId unit) :
    (unit ∈ t.changeUnits.rows ∧ (unit.taskId = request.taskId →
        request.changeUnit.operation = .keepCurrent ∨ changeUnit = none)) ∨
      (request.changeUnit.operation ≠ .keepCurrent ∧ unit.taskId = request.taskId ∧
        unit.writeBasis.baselineRef = request.baselineRef) := by
  unfold planChangeUnit at hplan
  cases hoperation : request.changeUnit.operation with
  | keepCurrent =>
    rw [hoperation] at hplan
    obtain rfl := Except.ok.inj hplan
    obtain rfl := applyMutations_nil.mp happly
    exact .inl ⟨hunit, by simp⟩
  | createCurrent =>
    simp only [hoperation, steps_ok, Option.isNone_iff_eq_none] at hplan
    obtain ⟨hnone, _, _, rfl⟩ := hplan
    obtain ⟨_, hinsert, hdone⟩ := applyMutations_cons.mp happly
    obtain rfl := applyMutations_nil.mp hdone
    obtain ⟨_, hrows⟩ := insertCurrentChangeUnit_rows hinsert
    rcases (Table.mem_insert? hrows).mp hunit with hold | rfl
    · exact .inl ⟨hold, fun _ => .inr hnone⟩
    · exact .inr ⟨by simp, rfl, rfl⟩
  | replaceCurrent =>
    simp only [hoperation, steps_ok] at hplan
    obtain ⟨_, _, _, _, rfl⟩ := hplan
    obtain ⟨_, hreplace, hdone⟩ := applyMutations_cons.mp happly
    obtain rfl := applyMutations_nil.mp hdone
    rcases replaceCurrentChangeUnit_current hreplace hunit hcurrent with
      ⟨hold, hother⟩ | rfl
    · exact .inl ⟨hold, fun htask => absurd htask hother⟩
    · exact .inr ⟨by simp, rfl, rfl⟩

theorem changeUnit_ne_writeScope {t : CoreTables}
    (h : planChangeUnit context t request changeUnit changeUnitId = .ok result) :
    ∀ mutation ∈ result.1, mutation.kind ≠ .taskWriteScope := by
  unfold planChangeUnit at h
  split at h
  · obtain rfl := Except.ok.inj h
    simp
  all_goals
    simp only [steps_ok] at h
    obtain ⟨_, _, _, _, rfl⟩ := h
    simp

end UpdateScope

/-- A committed `update_scope` makes a Change Unit without a baseline for a Task that has one. -/
def dropsBaseline (t : CoreTables) : CoreAnswer → Bool
  | .commit draft (.ok (.committed ..)) => match draft.submission.call with
    | .updateScope request _ => request.changeUnit.operation ≠ .keepCurrent
      && request.baselineRef.isNone
      && (t.taskRow request.taskId).any (·.shaping.baselineRef.isSome)
    | _ => false
  | _ => false

/-- The step lemma for `update_scope`. -/
theorem CommittedDraft.baselines_updateScope {draft : CoreDraft} {committedAt : String}
    (h : CommittedDraft X draft committedAt t t')
    (hcall : draft.submission.call = .updateScope request ids)
    (hnamed : request.changeUnit.operation ≠ .keepCurrent → request.baselineRef = none →
      (t.taskRow request.taskId).any (·.shaping.baselineRef.isSome) = false)
    (ht : t.BaselinesAgree) : t'.BaselinesAgree := by
  have hplan := h.prepared.planned
  have hpolicy : ∀ mutation ∈ draft.plan.mutations, mutation.isWorkflowPolicy = false :=
    fun _ => h.notPolicy
  rw [hcall] at hplan
  obtain ⟨_, _, hplan⟩ := bind_eq_ok.mp hplan
  obtain ⟨admitted, _, hplan⟩ := bind_eq_ok.mp hplan
  obtain ⟨accepted, hplanned⟩ := UpdateScope.plan_ok hplan
  obtain ⟨task, hsplit, htask, hchanged⟩ := accepted.plan_split
  have hid := taskId_of_taskRecord accepted.record
  have hrow : t.taskRow request.taskId = some accepted.task := by
    rw [← h.snapshot.read (·.taskRow _) fun _ _ => rfl]
    exact (taskRecord_ok accepted.record).1
  have hread : draft.snapshot.currentChangeUnit request.taskId
      = t.currentChangeUnit request.taskId :=
    h.snapshot.read (·.currentChangeUnit _) fun _ _ => rfl
  have happlied := h.applied
  rw [hplanned, hsplit] at happlied hpolicy
  simp only [List.forall_mem_cons, List.forall_mem_append] at hpolicy
  obtain ⟨_, hpolicy₁, hpolicy₂, hpolicy₃⟩ := hpolicy
  obtain ⟨s₁, hscope, happlied⟩ := applyMutations_cons.mp happlied
  obtain ⟨s₂, hfirst, happlied⟩ := applyMutations_append.mp happlied
  obtain ⟨s₃, hunit, hlast⟩ := applyMutations_append.mp happlied
  obtain ⟨hunits₁, htasks₁⟩ := UpdateScope.scopeMutation_baselines hscope
  -- up to the Change Unit only the baseline of the Task has moved
  have hunits₂ : s₂.changeUnits = t.changeUnits := by
    refine (applyMutations_changeUnits hfirst fun mutation hmem => ?_).trans hunits₁
    have hdisjoint : ∀ kind ∈ UpdateScope.taskKinds,
        kind ∉ CoreStorageMutation.changeUnitKinds := by decide
    exact hdisjoint _ (htask mutation hmem)
  have htasks₃ : s₁.KeepsTaskBaselines s₃ := by
    have hfree : ∀ kind ∈ UpdateScope.taskKinds, kind ≠ .taskWriteScope := by decide
    refine (applyMutations_taskBaselines hfirst fun mutation hmem =>
      ⟨hpolicy₁ mutation hmem, hfree _ (htask mutation hmem)⟩).trans
        (applyMutations_taskBaselines hunit fun mutation hmem => ⟨hpolicy₂ mutation hmem, ?_⟩)
    exact UpdateScope.changeUnit_ne_writeScope accepted.unitPlanned mutation hmem
  have hafter : ∀ id row, t.taskRow id = some row → ∃ row', s₃.taskRow id = some row' ∧
      row'.shaping.baselineRef = if id = request.taskId then accepted.nextScope.baselineRef
        else row.shaping.baselineRef := by
    intro id row hrow
    obtain ⟨row₁, hrow₁, hbaseline₁⟩ := htasks₁ id row hrow
    obtain ⟨row₃, hrow₃, hbaseline₃⟩ := htasks₃ id row₁ hrow₁
    exact ⟨row₃, hrow₃, hid ▸ hbaseline₃.trans hbaseline₁⟩
  have hagree : s₃.BaselinesAgree := by
    intro unit hmem hcurrent
    rcases UpdateScope.planChangeUnit_current accepted.unitPlanned hunit hmem hcurrent with
      ⟨hold, hsame⟩ | ⟨hmakes, hown, hbaseline⟩
    · rw [hunits₂] at hold
      obtain ⟨row, hunitRow, heq⟩ := ht unit hold hcurrent
      obtain ⟨row', hrow', hbaseline⟩ := hafter _ row hunitRow
      refine ⟨row', hrow', hbaseline.trans ?_⟩
      by_cases hown : unit.taskId = request.taskId
      · -- the Task has a current Change Unit, so `keep_current` may not move the baseline
        obtain ⟨changeUnit, hsome⟩ := Option.ne_none_iff_exists'.mp fun hnone =>
          currentChangeUnit_none (hread ▸ hnone ▸ accepted.unit) unit hold
            (hown ▸ hcurrent)
        have hkeep := (hsame hown).resolve_right (by simp [hsome])
        have hkept := accepted.baselineKept
        simp only [hkeep, hsome, decide_true, Option.isSome_some, Bool.true_and,
          decide_eq_false_iff_not, not_not] at hkept
        rw [hown, hrow] at hunitRow
        obtain rfl := Option.some.inj hunitRow
        rw [if_pos hown, ← heq]
        exact hkept.symm
      · rw [if_neg hown, heq]
    · obtain ⟨row', hrow', hnext⟩ := hafter _ accepted.task (hown ▸ hrow)
      refine ⟨row', hrow', hnext.trans ?_⟩
      rw [if_pos hown, hbaseline]
      change (request.baselineRef <|> accepted.task.shaping.baselineRef) = request.baselineRef
      cases hbase : request.baselineRef with
      | some base => rfl
      | none =>
        have hnone := hnamed hmakes hbase
        rw [hrow] at hnone
        simpa using hnone
  refine hagree.keep (applyMutations_changeUnits hlast fun mutation hmem => ?_)
    (applyMutations_taskBaselines hlast fun mutation hmem => ⟨hpolicy₃ mutation hmem, ?_⟩)
  · have hdisjoint : ∀ kind ∈ UpdateScope.changeKinds,
        kind ∉ CoreStorageMutation.changeUnitKinds := by decide
    exact hdisjoint _ (hchanged mutation hmem)
  · have hfree : ∀ kind ∈ UpdateScope.changeKinds, kind ≠ .taskWriteScope := by decide
    exact hfree _ (hchanged mutation hmem)

/-- The step lemma: an operation that drops no baseline keeps the baselines together. -/
theorem coreEffect_baselines {projectId : String}
    {answer : CoreAnswer} (h : CoreEffect X projectId t answer t')
    (hnamed : dropsBaseline t answer = false) (ht : t.BaselinesAgree) : t'.BaselinesAgree := by
  cases h with
  | @method draft _ _ _ _ _ _ hcommit =>
    have hkinds := fun mutation hmem =>
      CoreMethodCall.plan_kinds hcommit.prepared.planned mutation hmem
    cases hcall : draft.submission.call with
    | updateScope request ids =>
      refine hcommit.baselines_updateScope hcall (fun hmakes hnone => ?_) ht
      simpa [dropsBaseline, hcall, hmakes, hnone] using hnamed
    | _ =>
      rw [hcall] at hkinds
      have hfree : ∀ mutation ∈ draft.plan.mutations, mutation.kind ≠ .taskWriteScope ∧
          mutation.kind ∉ CoreStorageMutation.changeUnitKinds := by
        intro mutation hmem
        have hkind := hkinds mutation hmem
        revert hkind
        generalize mutation.kind = kind
        revert kind
        simp only [CoreMethodCall.method]
        decide
      exact ht.keep
        (applyMutations_changeUnits hcommit.applied fun mutation hmem => (hfree mutation hmem).2)
        (applyMutations_taskBaselines hcommit.applied fun mutation hmem =>
          ⟨hcommit.notPolicy hmem, (hfree mutation hmem).1⟩)
  | policy happly =>
    obtain ⟨honly, hrows⟩ := applyProjectWorkflowPolicyMutation_ok happly
    refine ht.keep (honly.eq (·.changeUnits) fun _ _ => rfl) fun id row hrow => ?_
    obtain ⟨mark, hmark⟩ := hrows id
    rw [hrow, Option.map_some] at hmark
    exact ⟨_, hmark, rfl⟩
  | environment change => cases change <;> exact ht
  | idle => exact ht

/-- In every run in which no `update_scope` makes a Change Unit without naming the baseline its
Task has, a Task and its current Change Unit have one baseline. -/
theorem baselines_agree (X : External) (projectId createdAt : String)
    (handles : ι → StoreHandle) (ops : List (CoreOp ι))
    (hops : ∀ e ∈ Transition.trace (coreStep X) (CoreSystem.initial projectId createdAt handles)
      ops, dropsBaseline e.before.tables e.result = false)
    (taskId : String) (task : TaskRecord) (unit : ChangeUnitRecord)
    (htask : (Transition.run (coreStep X) (CoreSystem.initial projectId createdAt handles)
      ops).tables.taskRow taskId = some task)
    (hunit : (Transition.run (coreStep X) (CoreSystem.initial projectId createdAt handles)
      ops).tables.currentChangeUnitRow taskId = some unit) :
    (StoredScope.fromTask task).baselineRef = unit.writeBasis.baselineRef := by
  have hagree := coreRun_invariant (I := CoreTables.BaselinesAgree)
    (C := fun t answer => dropsBaseline t answer = false) (fun _ h => absurd h List.not_mem_nil)
    (fun _ _ _ heffect hnamed => coreEffect_baselines heffect hnamed) ops hops
  have hcurrent := List.find?_some hunit
  have hown : unit.taskId = taskId := by
    simp only [CoreTables.ChangeUnitIsCurrent, Bool.and_eq_true, decide_eq_true_eq] at hcurrent
    exact hcurrent.1.1
  obtain ⟨other, hother, heq⟩ := hagree unit (List.mem_of_find?_eq_some hunit) (hown ▸ hcurrent)
  rw [hown, htask] at hother
  obtain rfl := Option.some.inj hother
  exact heq

/-- A direct Task with one Change Unit, made with the baseline `base`. -/
def scopedTask : List (CoreOp Unit) :=
  agentCall (sampleIntake "a" 0 .direct .rejectIfActive [] []) []
  ++ agentCall (sampleScope "a" "u" 1 (some "base") .createCurrent ["src"]) []

def baselinesOf (t : CoreTables) (taskId : String) : Option (Option String × Option String) := do
  let task ← t.taskRow taskId
  let unit ← t.currentChangeUnitRow taskId
  return ((StoredScope.fromTask task).baselineRef, unit.writeBasis.baselineRef)

theorem baselines_agree_sample :
    ∃ task, ∃ unit : ChangeUnitRecord,
      (Transition.run (coreStep sampleExternal) sampleProject scopedTask).tables.taskRow "a"
        = some task ∧
      (Transition.run (coreStep sampleExternal) sampleProject
        scopedTask).tables.currentChangeUnitRow "a" = some unit ∧
      (StoredScope.fromTask task).baselineRef = unit.writeBasis.baselineRef := by
  have hrun : ((Transition.run (coreStep sampleExternal) sampleProject scopedTask).tables.taskRow
        "a").isSome ∧
      ((Transition.run (coreStep sampleExternal) sampleProject
        scopedTask).tables.currentChangeUnitRow "a").isSome ∧
      ∀ e ∈ Transition.trace (coreStep sampleExternal) sampleProject scopedTask,
        dropsBaseline e.before.tables e.result = false := by
    decide +kernel
  obtain ⟨htask, hunit, hops⟩ := hrun
  obtain ⟨task, htask⟩ := Option.isSome_iff_exists.mp htask
  obtain ⟨unit, hunit⟩ := Option.isSome_iff_exists.mp hunit
  exact ⟨task, unit, htask, hunit, baselines_agree sampleExternal "project" "x"
    (fun _ => ⟨some "home", some "home", none⟩) scopedTask hops "a" task unit htask hunit⟩

/-- Replacing the Change Unit without a baseline leaves the Task its own and gives the new
Change Unit none. -/
theorem replaceCurrent_drops_baseline :
    baselinesOf (Transition.run (coreStep sampleExternal) sampleProject (scopedTask
      ++ agentCall (sampleScope "a" "v" 2 none .replaceCurrent ["src"]) [])).tables "a"
        = some (some "base", none) := by
  decide +kernel

end Volicord
