import Volicord.Core.Baselines
import Volicord.Core.UserChannel

/-! What the rows a write is planned on never lack, in any state a run of Core reaches: ids that
are not blank, effect contracts whose paths parse, and a scope revision that began with the first
Change Unit and stays behind the project version. -/
namespace Volicord
open Result Relational CoreTables
variable {ι : Type} [DecidableEq ι] {id taskId : String} {row : TaskRecord}

/-- A Change Unit has an id, and an effect contract whose paths parse. -/
structure ChangeUnitRecord.WellFormed (unit : ChangeUnitRecord) : Prop where
  id : Text.isBlank unit.changeUnitId = false
  contract : ∀ contract, unit.effectContract = some contract →
    ∃ paths, parseProductPaths contract.allowedPaths = .ok paths

/-- How the row of one Task may move: its revision stays or is one of `bumps`, and a new Task has
an id and starts at revision zero. -/
def RevisionMoves (id : String) (bumps : Nat → Prop) : Option TaskRecord → Option TaskRecord → Prop
  | none, none => True
  | none, some row => Text.isBlank id = false ∧ (row.scopeRevision = 0 ∨ bumps row.scopeRevision)
  | some row, some row' => row'.scopeRevision = row.scopeRevision ∨ bumps row'.scopeRevision
  | some _, none => False

theorem RevisionMoves.trans {bumps : Nat → Prop} : ∀ {a b c : Option TaskRecord},
    RevisionMoves id bumps a b → RevisionMoves id bumps b c → RevisionMoves id bumps a c
  | none, none, _, _, h => h
  | none, some _, none, _, h => h.elim
  | none, some _, some _, ⟨hid, h⟩, h' => ⟨hid, h'.elim (fun hsame => by rw [hsame]; exact h) .inr⟩
  | some _, none, _, h, _ => h.elim
  | some _, some _, none, _, h => h.elim
  | some _, some _, some _, h, h' => h'.elim (fun hsame => by
    simp only [RevisionMoves, hsame]
    exact h) .inr

/-- The scope revisions of the Tasks stay, but for those that `bumps` moves. -/
def CoreTables.RevisesTo (bumps : String → Nat → Prop) (t t' : CoreTables) : Prop :=
  ∀ id, RevisionMoves id (bumps id) (t.taskRow id) (t'.taskRow id)

namespace CoreTables.RevisesTo
variable {bumps : String → Nat → Prop} {t t' s : CoreTables}

theorem refl (t : CoreTables) : t.RevisesTo bumps t := by
  intro id
  cases t.taskRow id with
  | none => trivial
  | some row => exact .inl rfl

theorem trans (h : t.RevisesTo bumps s) (h' : s.RevisesTo bumps t') : t.RevisesTo bumps t' :=
  fun id => (h id).trans (h' id)

theorem of_rows (h : ∀ id, ∃ mark : TaskRecord → TaskRecord,
      (∀ row, (mark row).scopeRevision = row.scopeRevision) ∧
      t'.taskRow id = (t.taskRow id).map mark) : t.RevisesTo bumps t' := by
  intro id
  obtain ⟨mark, hkeep, hrow⟩ := h id
  rw [hrow]
  cases t.taskRow id with
  | none => trivial
  | some row => exact .inl (hkeep row)

theorem kept (h : t.RevisesTo bumps t') (hrow : t.taskRow id = some row) : ∃ row', t'.taskRow id =
    some row' ∧ (row'.scopeRevision = row.scopeRevision ∨ bumps id row'.scopeRevision) := by
  have hid := h id
  rw [hrow] at hid
  cases hafter : t'.taskRow id with
  | none =>
    rw [hafter] at hid
    exact hid.elim
  | some row' =>
    rw [hafter] at hid
    exact ⟨row', rfl, hid⟩

theorem before (h : t.RevisesTo bumps t') {row' : TaskRecord} (hrow : t'.taskRow id = some row') :
    (∃ row, t.taskRow id = some row ∧
      (row'.scopeRevision = row.scopeRevision ∨ bumps id row'.scopeRevision)) ∨
    (Text.isBlank id = false ∧ (row'.scopeRevision = 0 ∨ bumps id row'.scopeRevision)) := by
  have hid := h id
  rw [hrow] at hid
  cases hbefore : t.taskRow id with
  | none =>
    rw [hbefore] at hid
    exact .inr hid
  | some row =>
    rw [hbefore] at hid
    exact .inl ⟨row, rfl, hid⟩

end CoreTables.RevisesTo

namespace CoreStorageMutation
variable {X : External} {context : MutationContext} {version : Nat} {t t' : CoreTables}
  {mutation : CoreStorageMutation} {mutations : List CoreStorageMutation}
  {bumps : String → Nat → Prop}

theorem taskEffect_edit {change : TaskRecord → TaskRecord}
    (h : mutation.taskEffect X context = .edit taskId change) :
    (∀ row, (change row).scopeRevision = row.scopeRevision) ∨ ∃ n, mutation = .task
    (.updateScopeRevision taskId n) ∧ ∀ row, (change row).scopeRevision = n := by
  cases mutation with
  | task mutation =>
    cases mutation with
    | updateScopeRevision id n =>
      obtain ⟨rfl, rfl⟩ := TaskEffect.edit.inj h
      exact .inr ⟨n, rfl, fun _ => rfl⟩
    | supersede | close | updateControlLevel | updateScope | updateCloseBasis =>
      obtain ⟨_, rfl⟩ := TaskEffect.edit.inj h
      exact .inl fun _ => rfl
    | _ => cases h
  | changeUnit mutation =>
    cases mutation <;>
    · obtain ⟨_, rfl⟩ := TaskEffect.edit.inj h
      exact .inl fun _ => rfl
  | shaping mutation =>
    cases mutation with
    | applyAdvanceAndTransition =>
      obtain ⟨_, rfl⟩ := TaskEffect.edit.inj h
      exact .inl fun _ => rfl
    | _ => cases h
  | _ => cases h

theorem taskEffect_insert (h : mutation.taskEffect X context = .insert row) :
    ∃ input : TaskInsert, mutation = .task (.insert input) ∧ row = input.row := by
  cases mutation with
  | task mutation =>
    cases mutation with
    | insert input => exact ⟨input, rfl, (TaskEffect.insert.inj h).symm⟩
    | _ => cases h
  | changeUnit mutation => cases mutation <;> cases h
  | shaping mutation => cases mutation <;> cases h
  | _ => cases h

theorem insertTask_id {input : TaskInsert}
    (h : (CoreStorageMutation.task (.insert input)).apply X context version t = .ok t') :
    Text.isBlank input.taskId = false := by
  simp only [apply, TaskMutation.apply, insertTask, validateIdentifier, steps_ok,
    Bool.not_eq_true'] at h
  exact h.1

theorem apply_revisesTo (h : mutation.apply X context version t = .ok t')
    (hpolicy : mutation.isWorkflowPolicy = false)
    (hbumps : ∀ id n, mutation = .task (.updateScopeRevision id n) → bumps id n) :
    t.RevisesTo bumps t' := by
  intro id
  rw [apply_taskRow h hpolicy id]
  cases heffect : mutation.taskEffect X context with
  | none => exact CoreTables.RevisesTo.refl t id
  | insert inserted =>
    obtain ⟨input, rfl, rfl⟩ := taskEffect_insert heffect
    by_cases hid : id = input.row.taskId
    · subst hid
      have hnone : t.taskRow input.row.taskId = none := insertTask_fresh h
      simp only [TaskEffect.rowAfter, if_true, hnone]
      exact ⟨insertTask_id h, .inl rfl⟩
    · simp only [TaskEffect.rowAfter, if_neg hid]
      exact CoreTables.RevisesTo.refl t id
  | edit taskId change =>
    by_cases hid : id = taskId
    · subst hid
      simp only [TaskEffect.rowAfter, if_true]
      cases t.taskRow id with
      | none => trivial
      | some row =>
        rcases taskEffect_edit heffect with hkeep | ⟨n, rfl, hset⟩
        · exact .inl (hkeep row)
        · refine .inr ?_
          rw [hset row]
          exact hbumps _ n rfl
    · simp only [TaskEffect.rowAfter, if_neg hid]
      exact CoreTables.RevisesTo.refl t id

theorem applyMutations_revisesTo (h : applyMutations X context version mutations t = .ok t')
    (hpolicy : ∀ mutation ∈ mutations, mutation.isWorkflowPolicy = false)
    (hbumps : ∀ id n, .task (.updateScopeRevision id n) ∈ mutations → bumps id n) :
    t.RevisesTo bumps t' :=
  foldlM_rel (R := CoreTables.RevisesTo bumps) CoreTables.RevisesTo.refl
    (fun _ _ _ => CoreTables.RevisesTo.trans)
    (fun _ _ mutation hmem happly => apply_revisesTo happly (hpolicy mutation hmem)
      fun id n heq => hbumps id n (heq ▸ hmem)) h

/-- Where a plan moves the revision of a Task, the Task has one that was moved to. -/
theorem applyMutations_revised {n : Nat} (h : applyMutations X context version mutations t = .ok t')
    (hpolicy : ∀ mutation ∈ mutations, mutation.isWorkflowPolicy = false)
    (hbumps : ∀ id n, .task (.updateScopeRevision id n) ∈ mutations → bumps id n)
    (hmem : .task (.updateScopeRevision taskId n) ∈ mutations)
      (hrow : t.taskRow taskId = some row) :
    ∃ row', t'.taskRow taskId = some row' ∧ bumps taskId row'.scopeRevision := by
  obtain ⟨first, last, rfl⟩ := List.append_of_mem hmem
  obtain ⟨s, hfirst, hrest⟩ := applyMutations_append.mp h
  obtain ⟨s', hone, hlast⟩ := applyMutations_cons.mp hrest
  simp only [List.forall_mem_append, List.forall_mem_cons] at hpolicy
  obtain ⟨hpolicy₁, _, hpolicy₂⟩ := hpolicy
  obtain ⟨before, hbefore, _⟩ := (applyMutations_revisesTo hfirst hpolicy₁ fun id n hmem =>
    hbumps id n (List.mem_append_left _ hmem)).kept hrow
  have hset := apply_taskRow hone rfl taskId
  simp only [taskEffect, TaskEffect.rowAfter, if_true, hbefore, Option.map_some] at hset
  obtain ⟨row', hrow', hsame | hbump⟩ := (applyMutations_revisesTo hlast hpolicy₂ fun id n hmem =>
    hbumps id n (List.mem_append_right _ (List.mem_cons_of_mem _ hmem))).kept hset
  · refine ⟨row', hrow', ?_⟩
    rw [hsame]
    exact hbumps taskId n hmem
  · exact ⟨row', hrow', hbump⟩

/-- A Change Unit row was there before, but for its status, or is the one inserted. -/
theorem mem_changeUnits (h : mutation.apply X context version t = .ok t')
    {row : ChangeUnitRecord} (hrow : row ∈ t'.changeUnits.rows) :
    (∃ old ∈ t.changeUnits.rows, ∃ status isCurrent,
        row = { old with status := status, isCurrent := isCurrent }) ∨
      ∃ input, (mutation = .changeUnit (.insertCurrent input) ∨
          mutation = .changeUnit (.replaceCurrent input)) ∧
        Text.isBlank input.changeUnitId = false ∧
        row = changeUnitRow version input := by
  have honly := apply_only h
  cases mutation with
  | changeUnit mutation =>
    rcases mem_changeUnits h hrow with hold | ⟨input, hinput, hid, hnew⟩
    · exact .inl hold
    · exact .inr ⟨input, hinput.imp (congrArg _) (congrArg _), hid, hnew⟩
  | _ =>
    have hsame := honly.eq (·.changeUnits) fun _ _ => rfl
    exact .inl ⟨row, hsame ▸ hrow, row.status, row.isCurrent, rfl⟩

end CoreStorageMutation

namespace UpdateScope
variable {X : External} {context : PlanContext} {t : CoreTables} {request : UpdateScopeRequest}
  {ids : UpdateScopeIds} {admitted : AdmittedTransition} {mutation : CoreStorageMutation}

/-- The kinds that only an `update_scope` plans. -/
@[simp] def scopeKinds : List MutationKind :=
  [.taskUpdateScopeRevision, .changeUnitInsert, .changeUnitReplace]

/-- A Change Unit is made from the request, by an update that does not keep the current one. -/
theorem planChangeUnit_mem {changeUnit : Option ChangeUnitRecord} {changeUnitId : String}
    {result : List CoreStorageMutation × Option String}
    (h : planChangeUnit context t request changeUnit changeUnitId = .ok result)
    (hmem : mutation ∈ result.1) :
    request.changeUnit.operation ≠ .keepCurrent ∧
      (mutation = .changeUnit (.insertCurrent
        (planCurrentChangeUnit context request changeUnitId)) ∨
        mutation = .changeUnit
          (.replaceCurrent (planCurrentChangeUnit context request changeUnitId))) := by
  unfold planChangeUnit at h
  cases hoperation : request.changeUnit.operation with
  | keepCurrent =>
    rw [hoperation] at h
    obtain rfl := Except.ok.inj h
    cases hmem
  | createCurrent =>
    simp only [hoperation, steps_ok] at h
    obtain ⟨_, _, _, _, rfl⟩ := h
    exact ⟨by simp, .inl (List.mem_singleton.mp hmem)⟩
  | replaceCurrent =>
    simp only [hoperation, steps_ok] at h
    obtain ⟨_, _, _, _, rfl⟩ := h
    exact ⟨by simp, .inr (List.mem_singleton.mp hmem)⟩

theorem Accepted.mem_mutations (accepted : Accepted context t request ids admitted)
    (hmem : mutation ∈ accepted.plan.mutations) (hkind : mutation.kind ∈ scopeKinds) : mutation =
    .task (.updateScopeRevision accepted.task.taskId (accepted.task.scopeRevision + 1)) ∨
    mutation ∈ accepted.changeUnitMutations := by
  simp only [plan, List.cons_append, List.mem_cons, List.mem_append, List.mem_map] at hmem
  rcases hmem with rfl | (((hcontrol | ⟨_, _, rfl⟩) | hrevision) | hunit) | hchanged
  · simp [scopeMutation] at hkind
  · unfold controlMutations at hcontrol
    split at hcontrol
    · obtain rfl := List.mem_singleton.mp hcontrol
      simp at hkind
    · cases hcontrol
  · simp at hkind
  · split at hrevision
    · rcases List.mem_cons.mp hrevision with rfl | hbasis
      · exact .inl rfl
      · obtain rfl := List.mem_singleton.mp hbasis
        simp at hkind
    · cases hrevision
  · exact .inr hunit
  · obtain ⟨_, _, _, hkinds⟩ := accepted.plan_split
    have hdisjoint : ∀ kind ∈ changeKinds, kind ∉ scopeKinds := by decide
    exact absurd hkind (hdisjoint _ (hkinds mutation hchanged))

theorem Accepted.revision_mem (accepted : Accepted context t request ids admitted)
    (hmakes : request.changeUnit.operation ≠ .keepCurrent) :
    .task (.updateScopeRevision accepted.task.taskId (accepted.task.scopeRevision + 1))
      ∈ accepted.plan.mutations := by
  have hchanged : accepted.scopeChanged := by
    cases hoperation : request.changeUnit.operation with
    | keepCurrent => exact absurd hoperation hmakes
    | createCurrent => simp [scopeChanged, hoperation]
    | replaceCurrent => simp [scopeChanged, authorityBasisChanged, hoperation]
  simp [plan, hchanged]

theorem Accepted.contract_parses (accepted : Accepted context t request ids admitted)
    {contract : ChangeUnitEffectContract} (h : request.changeUnit.effectContract = some contract) :
    ∃ paths, parseProductPaths contract.allowedPaths = .ok paths := by
  have hcontract := accepted.contract
  simp only [validateRequestedEffectContract, h, observeRequestProductPaths, bind_eq_ok,
    mapError_eq_ok, pure_eq_ok] at hcontract
  obtain ⟨_, _, _, _, _, ⟨paths, hpaths, _⟩, _⟩ := hcontract
  exact ⟨paths, hpaths⟩

end UpdateScope

namespace CommittedDraft
variable {X : External} {draft : CoreDraft} {committedAt : String} {t t' : CoreTables}

theorem scopeUpdate (h : CommittedDraft X draft committedAt t t') {mutation : CoreStorageMutation}
    (hmem : mutation ∈ draft.plan.mutations) (hkind : mutation.kind ∈ UpdateScope.scopeKinds) :
    ∃ request ids admitted,
      ∃ accepted : UpdateScope.Accepted draft.context draft.snapshot request ids admitted,
        draft.plan = accepted.plan ∧ t.taskRow request.taskId = some accepted.task ∧
          accepted.task.taskId = request.taskId := by
  have hplan := h.prepared.planned
  have hplanned := CoreMethodCall.plan_kinds hplan mutation hmem
  cases hcall : draft.submission.call with
  | updateScope request ids =>
    rw [hcall] at hplan
    obtain ⟨_, _, hplan⟩ := bind_eq_ok.mp hplan
    obtain ⟨admitted, _, hplan⟩ := bind_eq_ok.mp hplan
    obtain ⟨accepted, heq⟩ := UpdateScope.plan_ok hplan
    refine ⟨request, ids, admitted, accepted, heq, ?_, taskId_of_taskRecord accepted.record⟩
    rw [← h.snapshot.read (·.taskRow _) fun _ _ => rfl]
    exact (taskRecord_ok accepted.record).1
  | _ =>
    rw [hcall] at hplanned
    exfalso
    revert hplanned hkind
    generalize mutation.kind = kind
    revert kind
    simp only [CoreMethodCall.method]
    decide

theorem bumps_next (h : CommittedDraft X draft committedAt t t') {n : Nat}
    (hmem : .task (.updateScopeRevision id n) ∈ draft.plan.mutations) :
    ∃ row, t.taskRow id = some row ∧ n = row.scopeRevision + 1 := by
  obtain ⟨request, ids, admitted, accepted, hplan, hrow, hid⟩ := h.scopeUpdate hmem (by simp)
  rw [hplan] at hmem
  rcases accepted.mem_mutations hmem (by simp) with heq | hunit
  · obtain ⟨rfl, rfl⟩ := TaskMutation.updateScopeRevision.inj (CoreStorageMutation.task.inj heq)
    exact ⟨accepted.task, by rw [hid]; exact hrow, rfl⟩
  · rcases (UpdateScope.planChangeUnit_mem accepted.unitPlanned hunit).2 with heq | heq <;>
      cases heq

/-- A committed plan that makes a Change Unit moves the revision of its Task, and has parsed the
paths of its effect contract. -/
theorem makes_unit (h : CommittedDraft X draft committedAt t t') {input : ChangeUnitInsert}
    (hmem : .changeUnit (.insertCurrent input) ∈ draft.plan.mutations ∨
      .changeUnit (.replaceCurrent input) ∈ draft.plan.mutations) :
    (∃ row, t.taskRow input.taskId = some row ∧
      .task (.updateScopeRevision input.taskId (row.scopeRevision + 1)) ∈ draft.plan.mutations) ∧
    ∀ contract, input.effectContract = some contract →
      ∃ paths, parseProductPaths contract.allowedPaths = .ok paths := by
  obtain ⟨mutation, hmem, hkind, hmutation⟩ : ∃ mutation ∈ draft.plan.mutations,
      mutation.kind ∈ UpdateScope.scopeKinds ∧ (mutation = .changeUnit (.insertCurrent input) ∨
        mutation = .changeUnit (.replaceCurrent input)) := by
    rcases hmem with hmem | hmem
    · exact ⟨_, hmem, by simp, .inl rfl⟩
    · exact ⟨_, hmem, by simp, .inr rfl⟩
  obtain ⟨request, ids, admitted, accepted, hplan, hrow, hid⟩ := h.scopeUpdate hmem hkind
  rw [hplan] at hmem ⊢
  have hunit : mutation ∈ accepted.changeUnitMutations := by
    rcases accepted.mem_mutations hmem hkind with rfl | hunit
    · simp at hmutation
    · exact hunit
  obtain ⟨hmakes, hmade⟩ := UpdateScope.planChangeUnit_mem accepted.unitPlanned hunit
  have hinput :
      input = UpdateScope.planCurrentChangeUnit draft.context request ids.changeUnitId := by
    rcases hmutation with rfl | rfl <;> rcases hmade with heq | heq <;> cases heq <;> rfl
  subst hinput
  refine ⟨⟨accepted.task, hrow, ?_⟩, fun contract => accepted.contract_parses⟩
  have hrevision := accepted.revision_mem hmakes
  rwa [hid] at hrevision

end CommittedDraft

structure ProjectDb.Plannable (db : ProjectDb CoreTables) : Prop where
  taskIds : ∀ id row, db.aggregates.taskRow id = some row → Text.isBlank id = false
  revisions : ∀ id row, db.aggregates.taskRow id = some row →
    (row.scopeRevision : Int) ≤ db.stateVersion
  units : ∀ unit ∈ db.aggregates.changeUnits.rows, unit.WellFormed
  revised : ∀ unit ∈ db.aggregates.changeUnits.rows, ∃ row,
    db.aggregates.taskRow unit.taskId = some row ∧ row.scopeRevision ≠ 0
  resolutionIds : ∀ row ∈ db.aggregates.userActionResolutions.rows,
    Text.isBlank row.userActionResolutionId = false

namespace ProjectDb.Plannable
variable {X : External} {projectId : String} {db db' : ProjectDb CoreTables}

/-- Rows that are kept but for what no plan reads, at a version that has not gone back. -/
theorem keep (h : db.Plannable) (htasks : db.aggregates.RevisesTo (fun _ _ => False) db'.aggregates)
    (hunits : db'.aggregates.changeUnits = db.aggregates.changeUnits)
    (hresolutions : db'.aggregates.userActionResolutions = db.aggregates.userActionResolutions)
    (hversion : db.stateVersion ≤ db'.stateVersion) (hpositive : 0 ≤ db.stateVersion) :
    db'.Plannable where
  taskIds id row' hrow := by
    rcases htasks.before hrow with ⟨row, hbefore, _⟩ | ⟨hid, _⟩
    · exact h.taskIds id row hbefore
    · exact hid
  revisions id row' hrow := by
    rcases htasks.before hrow with ⟨row, hbefore, hsame | hnone⟩ | ⟨_, hzero | hnone⟩
    · rw [hsame]
      exact (h.revisions id row hbefore).trans hversion
    · exact hnone.elim
    · rw [hzero]
      exact hpositive.trans hversion
    · exact hnone.elim
  units unit hunit := h.units unit (hunits ▸ hunit)
  revised unit hunit := by
    obtain ⟨row, hrow, hrevision⟩ := h.revised unit (hunits ▸ hunit)
    obtain ⟨row', hrow', hsame | hnone⟩ := htasks.kept hrow
    · exact ⟨row', hrow', hsame ▸ hrevision⟩
    · exact hnone.elim
  resolutionIds row hrow := h.resolutionIds row (hresolutions ▸ hrow)

/-- The step lemma for a committed plan. -/
theorem committed {draft : CoreDraft} {committedAt : String} (h : db.Plannable)
    (hcommit : CommittedDraft X draft committedAt db.aggregates db'.aggregates)
    (hversion : db'.stateVersion = db.stateVersion + 1) (hpositive : 0 ≤ db.stateVersion) :
    db'.Plannable := by
  have htasks := CoreStorageMutation.applyMutations_revisesTo hcommit.applied
    (fun _ => hcommit.notPolicy) fun _ _ hmem => hcommit.bumps_next hmem
  have hunits : ∀ unit ∈ db'.aggregates.changeUnits.rows,
      (∃ old ∈ db.aggregates.changeUnits.rows, old.taskId = unit.taskId ∧
        old.changeUnitId = unit.changeUnitId ∧ old.effectContract = unit.effectContract) ∨
      ∃ input, (.changeUnit (.insertCurrent input) ∈ draft.plan.mutations ∨
          .changeUnit (.replaceCurrent input) ∈ draft.plan.mutations) ∧
        Text.isBlank input.changeUnitId = false ∧ unit.taskId = input.taskId ∧
        unit.changeUnitId = input.changeUnitId ∧ unit.effectContract = input.effectContract := by
    intro unit hunit
    rcases hcommit.exists_mutation
      (H := fun s (unit : ChangeUnitRecord) => ∃ old ∈ s.changeUnits.rows,
        old.taskId = unit.taskId ∧ old.changeUnitId = unit.changeUnitId ∧
          old.effectContract = unit.effectContract)
      (N := fun mutation unit => ∃ input, (mutation = .changeUnit (.insertCurrent input) ∨
          mutation = .changeUnit (.replaceCurrent input)) ∧
        Text.isBlank input.changeUnitId = false ∧ unit.taskId = input.taskId ∧
        unit.changeUnitId = input.changeUnitId ∧ unit.effectContract = input.effectContract)
      (fun s s' mutation unit happly h => by
        obtain ⟨old, hold, hsame⟩ := h
        rcases CoreStorageMutation.mem_changeUnits happly hold with
          ⟨before, hbefore, _, _, rfl⟩ | ⟨input, hinput, hid, rfl⟩
        · exact .inl ⟨before, hbefore, hsame⟩
        · exact .inr ⟨input, hinput, hid, hsame.1.symm, hsame.2.1.symm, hsame.2.2.symm⟩)
      ⟨unit, hunit, rfl, rfl, rfl⟩ with hold | ⟨mutation, hmem, input, hinput, hrest⟩
    · exact .inl hold
    · rcases hinput with rfl | rfl
      · exact .inr ⟨input, .inl hmem, hrest⟩
      · exact .inr ⟨input, .inr hmem, hrest⟩
  refine ⟨fun id row' hrow => ?_, fun id row' hrow => ?_, fun unit hunit => ?_,
    fun unit hunit => ?_, fun row hrow => ?_⟩
  · rcases htasks.before hrow with ⟨row, hbefore, _⟩ | ⟨hid, _⟩
    · exact h.taskIds id row hbefore
    · exact hid
  · have hbump : ∀ n, (∃ row, db.aggregates.taskRow id = some row ∧ n = row.scopeRevision + 1) →
        (n : Int) ≤ db'.stateVersion := by
      rintro _ ⟨row, hbefore, rfl⟩
      have hrevision := h.revisions id row hbefore
      omega
    rcases htasks.before hrow with ⟨row, hbefore, hsame | hnext⟩ | ⟨_, hzero | hnext⟩
    · have hrevision := h.revisions id row hbefore
      rw [hsame]
      omega
    · exact hbump _ hnext
    · rw [hzero]
      omega
    · exact hbump _ hnext
  · rcases hunits unit hunit with ⟨old, hold, _, hid, hcontract⟩ | ⟨input, hmem, hid, _, hunitId,
      hcontract⟩
    · have hbefore := h.units old hold
      exact ⟨hid ▸ hbefore.id, fun contract hsome => hbefore.contract contract
        (hcontract.trans hsome)⟩
    · exact ⟨hunitId ▸ hid, fun contract hsome =>
        (hcommit.makes_unit hmem).2 contract (hcontract ▸ hsome)⟩
  · have hnext : ∀ {id row'}, (∃ row, db.aggregates.taskRow id = some row ∧
        (row' : TaskRecord).scopeRevision = row.scopeRevision + 1) → row'.scopeRevision ≠ 0 := by
      rintro _ _ ⟨_, _, heq⟩
      omega
    rcases hunits unit hunit with ⟨old, hold, htask, _⟩ | ⟨input, hmem, _, htask, _⟩
    · obtain ⟨row, hrow, hrevision⟩ := h.revised old hold
      obtain ⟨row', hrow', hsame | hbump⟩ := htasks.kept hrow
      · exact ⟨row', htask ▸ hrow', hsame ▸ hrevision⟩
      · exact ⟨row', htask ▸ hrow', hnext hbump⟩
    · obtain ⟨⟨row, hrow, hrevision⟩, _⟩ := hcommit.makes_unit hmem
      obtain ⟨row', hrow', hbump⟩ := CoreStorageMutation.applyMutations_revised hcommit.applied
        (fun _ => hcommit.notPolicy) (fun _ _ hmem => hcommit.bumps_next hmem) hrevision hrow
      exact ⟨row', htask ▸ hrow', hnext hbump⟩
  · rcases hcommit.exists_mutation
      (H := fun s (row : UserActionResolutionRecord) => row ∈ s.userActionResolutions.rows)
      (N := fun _ row => Text.isBlank row.userActionResolutionId = false)
      (fun s s' mutation row happly hrow => by
        rcases CoreStorageMutation.mem_resolutions happly hrow with hold | rfl
        · exact .inl hold
        · simp only [CoreStorageMutation.apply, UserActionMutation.apply,
            insertUserActionResolution, validateIdentifier, steps_ok,
            Bool.not_eq_true'] at happly
          exact .inr happly.1) hrow with hold | ⟨_, _, hid⟩
    · exact h.resolutionIds row hold
    · exact hid

theorem step {answer : CoreAnswer} (heffect : CoreEffectAt X projectId db answer db')
    (h : db.Plannable ∧ 0 ≤ db.stateVersion) : db'.Plannable ∧ 0 ≤ db'.stateVersion := by
  obtain ⟨h, hpositive⟩ := h
  cases heffect with
  | method _ hcommit hclock =>
    exact ⟨h.committed hcommit hclock.version hpositive, by rw [hclock.version]; omega⟩
  | policy happly hclock =>
    obtain ⟨honly, hrows⟩ := applyProjectWorkflowPolicyMutation_ok happly
    refine ⟨h.keep (.of_rows fun id => ?_) (honly.eq (·.changeUnits) fun _ _ => rfl)
      (honly.eq (·.userActionResolutions) fun _ _ => rfl) ?_ hpositive, ?_⟩
    · obtain ⟨mark, hmark⟩ := hrows id
      exact ⟨_, by intro; rfl, hmark⟩
    all_goals
      rw [hclock.version]
      omega
  | environment change =>
    refine ⟨?_, hpositive⟩
    cases change <;> exact h.keep (.refl _) rfl rfl le_rfl hpositive
  | idle htables _ hversion =>
    refine ⟨h.keep ?_ (by rw [htables]) (by rw [htables]) hversion.ge hpositive,
      hversion ▸ hpositive⟩
    rw [htables]
    exact .refl _

omit [DecidableEq ι] in
theorem empty (projectId createdAt : String) (handles : ι → StoreHandle) :
    (CoreSystem.initial projectId createdAt handles).store.db.Plannable where
  taskIds _ _ h := by cases h
  revisions _ _ h := by cases h
  units _ h := absurd h List.not_mem_nil
  revised _ h := absurd h List.not_mem_nil
  resolutionIds _ h := absurd h List.not_mem_nil

end ProjectDb.Plannable

end Volicord
