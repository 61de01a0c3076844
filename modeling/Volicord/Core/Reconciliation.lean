import Volicord.Core.PlanSpec

/-! Close readiness and reconciliation. The close of a Task is blocked by every unresolved
change of the project, while a reconciliation sees those of its own Task and connection: it
takes account of all that block exactly when there are no others. -/
namespace Volicord
open Result Relational CoreTables Table CoreStorageMutation
variable {ι : Type} [DecidableEq ι]
variable {record : UnrecordedChangeRecord} {admitted : AdmittedTransition}
  {mutationContext : MutationContext} {mutation : CoreStorageMutation} {version : Nat}

structure CoreTables.Reconcilable (t : CoreTables) : Prop where
  units : ∀ row ∈ t.changeUnits.rows, Text.isBlank row.changeUnitId = false
  summaries : ∀ row ∈ t.unrecordedChanges.rows, Text.isBlank row.summary = false

theorem unrecordedChangeSummary_not_blank (paths : List String) :
    Text.isBlank (unrecordedChangeSummary paths) = false := by
  have hword : Text.isBlank "Observed " = false := by decide +kernel
  simp only [Text.isBlank, unrecordedChangeSummary, String.toList_append,
    List.all_append] at hword ⊢
  rw [hword, Bool.false_and, Bool.false_and]

theorem CoreStorageMutation.apply_reconcilable {X : External} {context : MutationContext}
    {t t' : CoreTables}
    (h : mutation.apply X context version t = .ok t') (ht : t.Reconcilable) : t'.Reconcilable := by
  have honly := apply_only h
  have hrest : t'.changeUnits = t.changeUnits → t'.unrecordedChanges = t.unrecordedChanges →
      t'.Reconcilable := by
    intro hunits hchanges
    exact ⟨hunits ▸ ht.units, hchanges ▸ ht.summaries⟩
  cases mutation with
  | changeUnit mutation =>
    refine ⟨fun row hrow => ?_, (honly.eq (·.unrecordedChanges) fun _ _ => rfl) ▸ ht.summaries⟩
    rcases mem_changeUnits h hrow with ⟨old, hold, _, _, rfl⟩ | ⟨_, _, hid, rfl⟩
    · exact ht.units old hold
    · exact hid
  | continuity mutation =>
    cases mutation with
    | resolveUnrecordedChange id =>
      refine ⟨(honly.eq (·.changeUnits) fun _ _ => rfl) ▸ ht.units, fun row hrow => ?_⟩
      simp only [apply, ContinuityMutation.apply, steps_ok] at h
      obtain ⟨_, _, rfl⟩ := h
      obtain ⟨old, hold, rfl⟩ := List.mem_map.mp hrow
      have hsummary := ht.summaries old hold
      split <;> exact hsummary
  | _ =>
    exact hrest (honly.eq (·.changeUnits) fun _ _ => rfl)
      (honly.eq (·.unrecordedChanges) fun _ _ => rfl)

theorem EnvironmentChange.apply_reconcilable {t : CoreTables} (change : EnvironmentChange)
    (ht : t.Reconcilable) : (change.apply t).Reconcilable := by
  cases change with
  | observeUnrecordedChange row =>
    refine ⟨ht.units, fun other hother => ?_⟩
    rcases mem_insertOrIgnore hother with hold | rfl
    · exact ht.summaries other hold
    · exact unrecordedChangeSummary_not_blank row.paths
  | _ => exact ⟨ht.units, ht.summaries⟩

theorem coreEffect_reconcilable {X : External} {projectId : String} {t t' : CoreTables}
    {answer : CoreAnswer} (h : CoreEffect X projectId t answer t') (ht : t.Reconcilable) :
    t'.Reconcilable := by
  cases h with
  | method _ hcommit =>
    exact foldlM_rel (R := fun s s' : CoreTables => s.Reconcilable → s'.Reconcilable)
      (fun _ h => h) (fun _ _ _ h₁ h₂ h => h₂ (h₁ h))
      (fun _ _ _ _ happly => apply_reconcilable happly) hcommit.applied ht
  | policy happly =>
    have honly := (applyProjectWorkflowPolicyMutation_ok happly).1
    exact ⟨(honly.eq (·.changeUnits) fun _ _ => rfl) ▸ ht.units,
      (honly.eq (·.unrecordedChanges) fun _ _ => rfl) ▸ ht.summaries⟩
  | environment change => exact change.apply_reconcilable ht
  | idle => exact ht

namespace ReconcileChanges
variable {X : External} {context : PlanContext} {t t' : CoreTables}
  {request : ReconcileChangesRequest} {requestIds : List String} {taskId : String}
  {changes : List UnrecordedChangeRecord} {rows : List UserActionRequestRecord}

def Asks (context : PlanContext) (t : CoreTables) (taskId : String)
    (record : UnrecordedChangeRecord) (row : UserActionRequestRecord) : Prop :=
  row.taskId = taskId ∧ row.actionKind = .productDecision ∧
    effectiveUserActionStatus row.basisStatus row.requestedAt row.expiresAt
      (t.resolutionOf row.userActionRequestId).isSome context.now = some .pending ∧
    row.affectedRefs.any (sameStateRecord · (unrecordedRef context taskId record)) = true

def AsksAbout (context : PlanContext) (t : CoreTables) (taskId : String)
    (record : UnrecordedChangeRecord) : Prop :=
  ∃ row ∈ t.userActionRequests.rows, Asks context t taskId record row

def Settled (context : PlanContext) (t : CoreTables) (taskId : String)
    (record : UnrecordedChangeRecord) : Prop :=
  (t.unrecordedChanges.find? record.unrecordedChangeId).any (·.resolved) = true ∨
    AsksAbout context t taskId record

/-- A call for the Task is admitted, and once it is through every one of the changes is settled.
A call that finds nothing to do commits nothing. -/
def TakesAccount (X : External) (context : PlanContext) (committedAt : String) (t : CoreTables)
    (request : ReconcileChangesRequest) (changes : List UnrecordedChangeRecord) : Prop :=
  ∃ requestIds admitted,
    admitTransition X context t request.taskId actionKey (coordinatesMatch request)
      CoreMethodCall.actionNotAllowed = .ok admitted ∧
    (plan X context t request requestIds admitted = .error .readOnly ∧
        (∀ record ∈ changes, Settled context t request.taskId record) ∨
      ∃ result t', plan X context t request requestIds admitted = .ok result ∧
        applyMutations X ⟨context.projectId, committedAt⟩ (context.stateVersion + 1)
          result.mutations t = .ok t' ∧
        ∀ record ∈ changes, Settled context t' request.taskId record)

theorem asksAbout_iff {records : List StoredUserActionRecordSet}
    (h : t.userActionHistoryForTask context.now taskId = .ok records) :
    records.any (pendingAuthority taskId (unrecordedRef context taskId record)) ↔
      AsksAbout context t taskId record := by
  rw [List.any_eq_true]
  constructor
  · rintro ⟨action, hmem, hpending⟩
    obtain ⟨hrow, htask, heffective⟩ := userActionHistoryForTask_ok h action hmem
    simp only [pendingAuthority, Bool.and_eq_true, decide_eq_true_eq] at hpending
    obtain ⟨⟨⟨hstatus, hkind⟩, _⟩, hrefs⟩ := hpending
    refine ⟨action.request, hrow, htask, hkind, ?_, hrefs⟩
    rw [← heffective.resolution, heffective.status, hstatus]
  · rintro ⟨row, hrow, htask, hkind, hstatus, hrefs⟩
    have hrows : row ∈ t.userActionRequests.rows.filter fun row => row.taskId = taskId :=
      List.mem_filter.mpr ⟨hrow, by simpa using htask⟩
    obtain ⟨action, hmem, heffective⟩ := exists_of_forall₂ (mapM_eq_ok.mp h).flip row hrows
    obtain ⟨rfl, hat⟩ := effectiveUserActionRecord_ok heffective
    refine ⟨action, hmem, ?_⟩
    have hsame := hat.status
    rw [hat.resolution, hstatus] at hsame
    simp only [pendingAuthority, ← Option.some.inj hsame, hkind, htask, hrefs, decide_true,
      Bool.and_self]

theorem AsksAbout.mono (h : AsksAbout context t taskId record)
    (hrows : ∀ row ∈ t.userActionRequests.rows, row ∈ t'.userActionRequests.rows)
    (hresolutions : t'.userActionResolutions = t.userActionResolutions) :
    AsksAbout context t' taskId record := by
  obtain ⟨row, hrow, htask, hkind, hstatus, hrefs⟩ := h
  refine ⟨row, hrows row hrow, htask, hkind, ?_, hrefs⟩
  rw [resolutionOf, hresolutions]
  exact hstatus

theorem mem_unresolvedRecords (h : record ∈ unresolvedRecords context t taskId) :
    record ∈ t.unrecordedChanges.rows ∧ record.resolved = false := by
  obtain ⟨hrow, hselected⟩ := List.mem_filter.mp h
  simp only [Bool.and_eq_true, Bool.not_eq_true'] at hselected
  exact ⟨hrow, hselected.1.1⟩

section
variable (accepted : Accepted X context t request requestIds)

/-- A plan resolves changes it has selected and asks about changes it has selected. -/
theorem Accepted.mem_mutations (h : mutation ∈ (accepted.plan admitted).mutations) :
    ∃ record ∈ unresolvedRecords context t request.taskId, mutation = .continuity
    (.resolveUnrecordedChange record.unrecordedChangeId) ∨ ∃ row, mutation = .userAction
    (.insertRequest row) ∧ row.affectedRefs = [unrecordedRef context request.taskId record] := by
  rcases List.mem_append.mp h with hresolved | hasked
  · obtain ⟨record, hrecord, rfl⟩ := List.mem_map.mp hresolved
    exact ⟨record, (List.mem_filter.mp hrecord).1, .inl rfl⟩
  · obtain ⟨⟨record, requestId⟩, hzip, hplanned⟩ :=
      exists_of_forall₂ (mapM_eq_ok.mp accepted.askedPlanned) mutation hasked
    have hrecord := (List.mem_filter.mp (List.of_mem_zip hzip).1).1
    obtain ⟨_, constructed, hconstructed, rfl⟩ := planUserAction_ok hplanned
    exact ⟨record, hrecord, .inr ⟨_, rfl, constructUserAction_affectedRefs hconstructed rfl⟩⟩

section
variable
  (h : applyMutations X mutationContext version (accepted.plan admitted).mutations t = .ok t')
include h

theorem Accepted.find?_unselected {id : String}
    (hid : ∀ record ∈ unresolvedRecords context t request.taskId, record.unrecordedChangeId ≠ id) :
    t'.unrecordedChanges.find? id = t.unrecordedChanges.find? id ∧
      t'.userActionResolutions = t.userActionResolutions := by
  refine foldlM_rel (R := fun s s' : CoreTables =>
      s'.unrecordedChanges.find? id = s.unrecordedChanges.find? id ∧
        s'.userActionResolutions = s.userActionResolutions)
    (fun _ => ⟨rfl, rfl⟩) (fun _ _ _ h₁ h₂ => ⟨h₂.1.trans h₁.1, h₂.2.trans h₁.2⟩) ?_ h
  intro s s' mutation hmem happly
  obtain ⟨record, hrecord, rfl | ⟨row, rfl, _⟩⟩ := accepted.mem_mutations hmem
  · simp only [apply, ContinuityMutation.apply, steps_ok] at happly
    obtain ⟨_, _, rfl⟩ := happly
    refine ⟨?_, rfl⟩
    rw [find?_update, if_neg (hid record hrecord).symm]
  · have hinsert : (UserActionMutation.insertRequest row).apply s = .ok s' := happly
    rcases userActionMutation_ok hinsert with honly | ⟨_, _, hmutation, _⟩
    · exact ⟨congrArg (·.find? id) (honly.eq (·.unrecordedChanges) fun _ _ => rfl),
        honly.eq (·.userActionResolutions) fun _ _ => rfl⟩
    · cases hmutation

/-- Every request after a reconciliation was there before it or is one of its questions. -/
theorem Accepted.mem_requests
    {row : UserActionRequestRecord} (hrow : row ∈ t'.userActionRequests.rows) :
    row ∈ t.userActionRequests.rows ∨ ∃ record ∈ unresolvedRecords context t request.taskId,
      row.affectedRefs = [unrecordedRef context request.taskId record] := by
  refine foldlM_rel (R := fun s s' : CoreTables => row ∈ s'.userActionRequests.rows →
      row ∈ s.userActionRequests.rows ∨ ∃ record ∈ unresolvedRecords context t request.taskId,
        row.affectedRefs = [unrecordedRef context request.taskId record])
    (fun _ h => .inl h) (fun _ _ _ h₁ h₂ h => (h₂ h).elim h₁ .inr) ?_ h hrow
  intro s s' mutation hmem happly hrow
  obtain ⟨record, hrecord, rfl | ⟨inserted, rfl, hrefs⟩⟩ := accepted.mem_mutations hmem
  · have honly := apply_only happly
    exact .inl (honly.eq (·.userActionRequests) (fun _ _ => rfl) ▸ hrow)
  · simp only [apply, UserActionMutation.apply,
      insertUserActionRequest, steps_ok, insertRow_ok] at happly
    obtain ⟨_, _, _, _, _, _, _, _, _, _, _, _, _, _, rows, ⟨_, hinsert⟩, rfl⟩ := happly
    rcases (mem_insert? hinsert).mp hrow with hold | rfl
    · exact .inl hold
    · exact .inr ⟨record, hrecord, hrefs⟩

end

end

/-- What is taken into account was selected by the call or asked about before it. -/
theorem TakesAccount.selected {committedAt : String}
    (h : TakesAccount X context committedAt t request changes)
    (hopen : ∀ record ∈ changes, record ∈ t.unrecordedChanges.rows ∧ record.resolved = false) :
    ∀ record ∈ changes, record ∈ unresolvedRecords context t request.taskId ∨
      AsksAbout context t request.taskId record := by
  obtain ⟨requestIds, admitted, _, ⟨_, hsettled⟩ | ⟨result, t', hplan, happly, hsettled⟩⟩ := h
  · intro record hrecord
    obtain ⟨hrow, hunresolved⟩ := hopen record hrecord
    refine .inr ((hsettled record hrecord).resolve_left fun hresolved => ?_)
    rw [find?_of_mem hrow] at hresolved
    simp [hunresolved] at hresolved
  · obtain ⟨accepted, rfl⟩ := plan_ok hplan
    intro record hrecord
    obtain ⟨hrow, hunresolved⟩ := hopen record hrecord
    by_cases hselected : record ∈ unresolvedRecords context t request.taskId
    · exact .inl hselected
    right
    -- the id of a change names one row
    have hid : ∀ other ∈ unresolvedRecords context t request.taskId,
        other.unrecordedChangeId ≠ record.unrecordedChangeId := by
      intro other hother heq
      have hsame := find?_of_mem (mem_unresolvedRecords hother).1
      rw [heq, find?_of_mem hrow] at hsame
      exact hselected (Option.some.inj hsame ▸ hother)
    obtain ⟨hfind, hresolutions⟩ := accepted.find?_unselected happly hid
    rcases hsettled record hrecord with hresolved | ⟨row, hmem, htask, hkind, hstatus, hrefs⟩
    · rw [hfind, find?_of_mem hrow] at hresolved
      simp [hunresolved] at hresolved
    · rw [resolutionOf, hresolutions] at hstatus
      rcases accepted.mem_requests happly hmem with hold | ⟨other, hother, hother'⟩
      · exact ⟨row, hold, htask, hkind, hstatus, hrefs⟩
      · rw [hother'] at hrefs
        simp only [List.any_cons, List.any_nil, Bool.or_false, sameStateRecord, Bool.and_eq_true,
          decide_eq_true_eq] at hrefs
        exact absurd hrefs.1.2 (hid other hother)

/- The other direction: what has been selected is taken into account. -/

def question (context : PlanContext) (task : TaskRecord) (changeUnit : Option ChangeUnitRecord)
    (record : UnrecordedChangeRecord) : ValidatedUserAction where
  taskId := task.taskId
  coordinateChangeUnitId := changeUnit.map (·.changeUnitId)
  actionKind := .productDecision
  options := [("accept", .accept)]
  affectedRefs := [unrecordedRef context task.taskId record]
  basis := .choice ⟨⟨task.taskId, changeUnit.map (·.changeUnitId), task.scopeRevision,
    task.shaping.baselineRef, context.stateVersion, .current⟩, none, [], [], none⟩
  requiredFor := [.informational]
  expiresAt := none
  createdAt := context.now

/-- What the tables and the request give a question to be stored with. -/
structure Askable (t : CoreTables) (task : TaskRecord) (changeUnit : Option ChangeUnitRecord)
    (key : String) : Prop where
  taskId : Text.isBlank task.taskId = false
  taskRow : (t.taskRow task.taskId).isSome
  unitId : changeUnit.all (!Text.isBlank ·.changeUnitId)
  unitRow : changeUnit.all (fun row => (t.changeUnitRecord task.taskId row.changeUnitId).isSome)
    = true
  key : Text.isBlank key = false

def questionRow (context : PlanContext) (task : TaskRecord) (changeUnit : Option ChangeUnitRecord)
    (key : String) (record : UnrecordedChangeRecord) (requestId : String) :
    UserActionRequestRecord :=
  materializeUserActionRequest context requestId key (.reconciliation record.unrecordedChangeId)
    (question context task changeUnit record)

section
variable {task : TaskRecord} {changeUnit : Option ChangeUnitRecord} {key requestId : String}

section
variable (h : Askable t task changeUnit key)
include h

theorem constructUserAction_question (hsummary : Text.isBlank record.summary = false) :
    constructUserAction X context t task changeUnit (userActionIntent task.taskId changeUnit
      (unrecordedRef context task.taskId record) record) =
      .ok (question context task changeUnit record) := by
  have hunit := h.unitRow
  have hquestion : Text.isBlank
      "Do you accept this observed Product Repository change as intentional for this Task?"
        = false := by decide +kernel
  cases changeUnit with
  | none =>
    simp [constructUserAction, userActionIntent, UserActionDraft.validateAffectedRefs,
      validateIntentChangeUnit, constructBody, UserActionChoiceDraft.validateAndNormalize,
      unrecordedRef, stateRef, ensure, hquestion, hsummary]
    rfl
  | some row =>
    have hrow : (t.changeUnitRecord task.taskId row.changeUnitId).isSome := hunit
    simp [constructUserAction, userActionIntent, UserActionDraft.validateAffectedRefs,
      validateIntentChangeUnit, constructBody, UserActionChoiceDraft.validateAndNormalize,
      unrecordedRef, stateRef, ensure, hquestion, hsummary, hrow]
    rfl

theorem planUserAction_question (htask : task.taskId = request.taskId)
    (hkey : request.envelope.idempotencyKey = some key)
    (hsummary : Text.isBlank record.summary = false)
    (hfresh : t.userActionRequests.find? requestId = none) :
    planUserAction X context t request task changeUnit requestId record = .ok
    (.userAction (.insertRequest (questionRow context task changeUnit key record requestId))) := by
  have hconstructed : constructUserAction X context t task changeUnit (userActionIntent task.taskId
      changeUnit (unrecordedRef context task.taskId record) record) = .ok _ :=
    constructUserAction_question h hsummary
  simp only [planUserAction, ← htask, hconstructed, hkey, hfresh, ok_bind, okOr, requireFresh,
    ensure, Option.isSome_none, Bool.not_false, if_true]
  rfl

theorem questionRow_insertable (hid : Text.isBlank requestId = false) :
    t.RequestInsertable (questionRow context task changeUnit key record requestId) where
  requestId := hid
  taskId := h.taskId
  changeUnitId := by
    have hunit := h.unitId
    cases changeUnit <;> exact hunit
  origin := rfl
  key := h.key
  required := rfl
  basis := by
    simp [UserActionRequestRecord.basisAgrees, questionRow, materializeUserActionRequest, question,
      UserActionBasis.compatibilityStatus, UserActionBasis.coordinates]
  compatible := rfl
  expires := rfl
  lifetime := rfl
  taskRow := h.taskRow
  changeUnitRow := by
    have hunit := h.unitRow
    cases changeUnit <;> exact hunit
  source := MethodName.noConfusion

end

end

section
variable (mutationContext : MutationContext) (version : Nat)

theorem applyMutations_resolve {records : List UnrecordedChangeRecord}
    (hnodup : (records.map (·.unrecordedChangeId)).Nodup)
    (hopen : ∀ record ∈ records,
      (t.unrecordedChanges.find? record.unrecordedChangeId).any (!·.resolved)) :
    ∃ t', applyMutations X mutationContext version (records.map fun record =>
        .continuity (.resolveUnrecordedChange record.unrecordedChangeId)) t = .ok t' ∧
      continuityFrame.Only t t' ∧
      (∀ record ∈ records,
        (t'.unrecordedChanges.find? record.unrecordedChangeId).any (·.resolved)) ∧
      ∀ id ∉ records.map (·.unrecordedChangeId),
        t'.unrecordedChanges.find? id = t.unrecordedChanges.find? id := by
  induction records generalizing t with
  | nil => exact ⟨t, rfl, Frame.Only.refl _ _, by simp, fun _ _ => rfl⟩
  | cons first rest ih =>
    rw [List.map_cons, List.nodup_cons] at hnodup
    let t₁ : CoreTables := { t with
      unrecordedChanges := t.unrecordedChanges.update first.unrecordedChangeId
        ({ · with resolved := true }) }
    have hothers : ∀ id, id ≠ first.unrecordedChangeId →
        t₁.unrecordedChanges.find? id = t.unrecordedChanges.find? id := by
      intro id hid
      rw [find?_update, if_neg hid]
    have hdistinct : ∀ record ∈ rest, record.unrecordedChangeId ≠ first.unrecordedChangeId :=
      fun record hrecord heq => hnodup.1 (heq ▸ List.mem_map_of_mem hrecord)
    obtain ⟨t', happly, honly, hresolved, hkept⟩ := ih (t := t₁) hnodup.2 fun record hrecord => by
      rw [hothers _ (hdistinct record hrecord)]
      exact hopen record (List.mem_cons_of_mem _ hrecord)
    have hfirst := hopen first List.mem_cons_self
    refine ⟨t', applyMutations_cons.mpr ⟨t₁, ?_, happly⟩, ?_, ?_, ?_⟩
    · simp only [apply, ContinuityMutation.apply, hfirst, ensure, if_true,
        ok_bind]
      rfl
    · exact Frame.Only.trans (show continuityFrame.Only t t₁ from rfl) honly
    · intro record hrecord
      rcases List.mem_cons.mp hrecord with rfl | hrest
      · rw [hkept _ hnodup.1, find?_update, if_pos rfl]
        cases hfind : t.unrecordedChanges.find? record.unrecordedChangeId with
        | none => simp [hfind] at hfirst
        | some row => rfl
      · exact hresolved record hrest
    · intro id hid
      rw [List.map_cons, List.mem_cons, not_or] at hid
      rw [hkept id hid.2, hothers id hid.1]

theorem applyMutations_ask (hnodup : (rows.map (·.userActionRequestId)).Nodup)
    (hfresh : ∀ row ∈ rows, t.userActionRequests.find? row.userActionRequestId = none)
    (hinsertable : ∀ row ∈ rows, t.RequestInsertable row) : ∃ t',
    applyMutations X mutationContext version
    (rows.map fun row => .userAction (.insertRequest row)) t = .ok t' ∧ requestFrame.Only t t' ∧
    ∀ row, row ∈ t'.userActionRequests.rows ↔ row ∈ t.userActionRequests.rows ∨ row ∈ rows := by
  induction rows generalizing t with
  | nil => exact ⟨t, rfl, Frame.Only.refl _ _, by simp⟩
  | cons first rest ih =>
    rw [List.map_cons, List.nodup_cons] at hnodup
    obtain ⟨requests, hinsert, happly⟩ := (hinsertable first List.mem_cons_self).insert
      (hfresh first List.mem_cons_self)
    let t₁ : CoreTables := { t with userActionRequests := requests }
    obtain ⟨t', hrest, honly, hrows⟩ := ih (t := t₁) hnodup.2 (fun row hrow => by
        rw [find?_insert? hinsert, if_neg]
        · exact hfresh row (List.mem_cons_of_mem _ hrow)
        · intro heq
          exact hnodup.1 (heq ▸ List.mem_map_of_mem hrow))
      (fun row hrow => (hinsertable row (List.mem_cons_of_mem _ hrow)).congr rfl rfl)
    refine ⟨t', applyMutations_cons.mpr ⟨t₁, happly, hrest⟩,
      Frame.Only.trans (show requestFrame.Only t t₁ from rfl) honly, fun row => ?_⟩
    rw [hrows, mem_insert? hinsert, List.mem_cons, or_assoc]

end

theorem Accepted.plan_eq (accepted : Accepted X context t request requestIds)
    (admitted : AdmittedTransition) :
      ReconcileChanges.plan X context t request requestIds admitted =
      if (accepted.plan admitted).mutations.isEmpty then .error .readOnly
      else .ok (accepted.plan admitted) := by
  have hids := accepted.ids
  have hasked := accepted.askedPlanned
  unfold Reading.undecided Reading.resolvable at hids hasked
  simp only [ReconcileChanges.plan, fromStore_eq_ok.mpr accepted.record,
    fromStore_eq_ok.mpr accepted.unit, fromStore_eq_ok.mpr accepted.history,
    fromStore_eq_ok.mpr accepted.policyRead, hids, hasked, okOr, requireFresh, ensure, ok_bind,
    Bool.not_true, Bool.not_false, if_true]
  show (if (!(accepted.plan admitted).mutations.isEmpty) = true then Except.ok () else
    .error CoreError.readOnly) >>= (fun _ => pure (accepted.plan admitted)) = _
  cases (accepted.plan admitted).mutations.isEmpty <;> rfl

namespace Reading
variable (reading : Reading X context t request)

/-- With a fresh id for every undecided change the call is accepted, and it asks about each. -/
theorem exists_accepted {key : String} (haskable : Askable t reading.task reading.changeUnit key)
    (htask : reading.task.taskId = request.taskId)
    (hkey : request.envelope.idempotencyKey = some key)
    (hsummaries : ∀ record ∈ unresolvedRecords context t request.taskId,
      Text.isBlank record.summary = false)
    (hlength : requestIds.length
      = ((unresolvedRecords context t request.taskId).filter reading.undecided).length)
    (hnodup : requestIds.Nodup)
    (hfresh : ∀ id ∈ requestIds, t.userActionRequests.find? id = none) :
    ∃ accepted : Accepted X context t request requestIds, accepted.resolvable = reading.resolvable ∧
      accepted.asked = ((((unresolvedRecords context t request.taskId).filter
        reading.undecided).zip requestIds).map fun (record, requestId) =>
          questionRow context reading.task reading.changeUnit key record requestId).map
        fun row => .userAction (.insertRequest row) := by
  refine ⟨⟨reading, _, ?_, ?_⟩, rfl, rfl⟩
  · rw [Bool.and_eq_true, decide_eq_true_eq, decide_eq_true_eq]
    exact ⟨hlength, hnodup⟩
  · rw [List.map_map]
    refine mapM_eq_map fun pair hpair => ?_
    obtain ⟨hrecord, hid⟩ := List.of_mem_zip hpair
    exact planUserAction_question haskable htask hkey
      (hsummaries pair.1 (List.mem_filter.mp hrecord).1) (hfresh pair.2 hid)

end Reading

/-- An accepted call with insertable questions is applied: it resolves what is resolvable and
adds its questions. -/
theorem Accepted.exists_applied (accepted : Accepted X context t request requestIds)
    (admitted : AdmittedTransition) (mutationContext : MutationContext) (version : Nat)
    (hasked : accepted.asked = rows.map fun row => .userAction (.insertRequest row))
    (hnodup : (rows.map (·.userActionRequestId)).Nodup)
    (hfresh : ∀ row ∈ rows, t.userActionRequests.find? row.userActionRequestId = none)
    (hinsertable : ∀ row ∈ rows, t.RequestInsertable row) :
    ∃ t', applyMutations X mutationContext version (accepted.plan admitted).mutations t = .ok t' ∧
      (∀ record ∈ unresolvedRecords context t request.taskId, accepted.resolvable record →
        (t'.unrecordedChanges.find? record.unrecordedChangeId).any (·.resolved)) ∧
      (∀ row, row ∈ t'.userActionRequests.rows ↔ row ∈ t.userActionRequests.rows ∨ row ∈ rows) ∧
      t'.userActionResolutions = t.userActionResolutions := by
  let resolved := (unresolvedRecords context t request.taskId).filter accepted.resolvable
  have hsub : resolved.Sublist t.unrecordedChanges.rows :=
    List.filter_sublist.trans List.filter_sublist
  obtain ⟨t₁, hfirst, honly₁, hresolved, _⟩ := applyMutations_resolve (X := X) (t := t)
    mutationContext version (t.unrecordedChanges.keysNodup.sublist (hsub.map _)) (by
      intro record hrecord
      obtain ⟨hrow, hopen⟩ := mem_unresolvedRecords (List.mem_filter.mp hrecord).1
      rw [find?_of_mem hrow]
      simp [hopen])
  have hrequests := honly₁.eq (·.userActionRequests) fun _ _ => rfl
  obtain ⟨t₂, hsecond, honly₂, hrows⟩ := applyMutations_ask (X := X) (t := t₁)
    mutationContext version hnodup (hrequests ▸ hfresh)
    (fun row hrow => (hinsertable row hrow).congr (honly₁.eq (·.tasks) fun _ _ => rfl)
      (honly₁.eq (·.changeUnits) fun _ _ => rfl))
  refine ⟨t₂, ?_, ?_, ?_, ?_⟩
  · rw [Accepted.plan, hasked]
    exact applyMutations_append.mpr ⟨t₁, hfirst, hsecond⟩
  · intro record hrecord hdecided
    rw [honly₂.eq (·.unrecordedChanges) fun _ _ => rfl]
    exact hresolved record (List.mem_filter.mpr ⟨hrecord, hdecided⟩)
  · intro row
    rw [hrows, hrequests]
  · exact (honly₂.eq (·.userActionResolutions) fun _ _ => rfl).trans
      (honly₁.eq (·.userActionResolutions) fun _ _ => rfl)

theorem asks_questionRow {task : TaskRecord} {changeUnit : Option ChangeUnitRecord}
    {key requestId : String}
    (hresolution : t.resolutionOf requestId = none) :
    Asks context t task.taskId record
      (questionRow context task changeUnit key record requestId) := by
  refine ⟨rfl, rfl, ?_, ?_⟩
  · rw [show (questionRow context task changeUnit key record requestId).userActionRequestId
      = requestId from rfl, hresolution]
    simp [effectiveUserActionStatus, questionRow, materializeUserActionRequest, question]
  · simp [questionRow, materializeUserActionRequest, question, sameStateRecord]

/-- What has been selected, or asked about before, is taken into account. -/
theorem takesAccount_of_selected {key committedAt : String} (reading : Reading X context t request)
    (hadmitted : admitTransition X context t request.taskId actionKey (coordinatesMatch request)
      CoreMethodCall.actionNotAllowed = .ok admitted)
    (haskable : Askable t reading.task reading.changeUnit key)
    (htask : reading.task.taskId = request.taskId)
    (hkey : request.envelope.idempotencyKey = some key)
    (hsummaries : ∀ record ∈ t.unrecordedChanges.rows, Text.isBlank record.summary = false)
    (hchanges : ∀ record ∈ changes, record ∈ unresolvedRecords context t request.taskId ∨
      AsksAbout context t request.taskId record) :
    TakesAccount X context committedAt t request changes := by
  let unresolved := unresolvedRecords context t request.taskId
  obtain ⟨ids, hlength, hnodup, hfresh⟩ := Text.exists_fresh
    (t.userActionRequests.rows.map (·.userActionRequestId)
      ++ t.userActionResolutions.rows.map (·.userActionRequestId))
    (unresolved.filter reading.undecided).length
  have hrequests : ∀ id ∈ ids, t.userActionRequests.find? id = none := by
    intro id hid
    refine find?_eq_none.mpr fun row hrow heq => (hfresh id hid).2 ?_
    exact List.mem_append_left _ (heq ▸ List.mem_map_of_mem hrow)
  have hresolutions : ∀ id ∈ ids, t.resolutionOf id = none := by
    intro id hid
    refine List.find?_eq_none.mpr fun row hrow heq => (hfresh id hid).2 ?_
    exact List.mem_append_right _ (of_decide_eq_true heq ▸ List.mem_map_of_mem hrow)
  obtain ⟨accepted, hresolvable, hasked⟩ := reading.exists_accepted haskable
    htask hkey (fun record hrecord => hsummaries record (mem_unresolvedRecords hrecord).1) hlength
    hnodup hrequests
  let pairs := (unresolved.filter reading.undecided).zip ids
  let row (pair : UnrecordedChangeRecord × String) : UserActionRequestRecord :=
    questionRow context reading.task reading.changeUnit key pair.1 pair.2
  have hids : (pairs.map row).map (·.userActionRequestId) = ids := by
    rw [List.map_map, show (fun r : UserActionRequestRecord => r.userActionRequestId) ∘ row
      = Prod.snd from rfl]
    exact List.map_snd_zip hlength.le
  have hidsNodup : ((pairs.map row).map (·.userActionRequestId)).Nodup := by
    rw [hids]
    exact hnodup
  have hrowId : ∀ question ∈ pairs.map row, question.userActionRequestId ∈ ids := fun question h =>
    hids ▸ List.mem_map_of_mem h
  obtain ⟨t', happly, hresolved, hrows, hresolutions'⟩ := accepted.exists_applied admitted
    ⟨context.projectId, committedAt⟩ (context.stateVersion + 1) hasked hidsNodup
    (fun question h => hrequests _ (hrowId question h)) (by
      intro question h
      obtain ⟨pair, hpair, rfl⟩ := List.mem_map.mp h
      exact questionRow_insertable haskable (hfresh _ (List.of_mem_zip hpair).2).1)
  have hsettled : ∀ record ∈ changes, Settled context t' request.taskId record := by
    intro record hrecord
    have hkept : AsksAbout context t request.taskId record →
      Settled context t' request.taskId record :=
      fun h => .inr (h.mono (fun row hrow => (hrows row).mpr (.inl hrow)) hresolutions')
    refine (hchanges record hrecord).elim (fun hselected => ?_) hkept
    by_cases hdecided : reading.resolvable record
    · exact .inl (hresolved record hselected (hresolvable ▸ hdecided))
    by_cases hpending : reading.userActions.any (pendingAuthority request.taskId
        (unrecordedRef context request.taskId record))
    · exact hkept ((asksAbout_iff reading.history).mp hpending)
    -- the call has its own question about the change
    have hundecided : record ∈ unresolved.filter reading.undecided :=
      List.mem_filter.mpr ⟨hselected, by simp [Reading.undecided, hdecided, hpending]⟩
    rw [← List.map_fst_zip hlength.ge] at hundecided
    obtain ⟨⟨other, id⟩, hpair, rfl⟩ := List.mem_map.mp hundecided
    refine .inr ⟨row (other, id), (hrows _).mpr (.inr (List.mem_map_of_mem hpair)), ?_⟩
    rw [← htask]
    refine asks_questionRow ?_
    rw [resolutionOf, hresolutions']
    exact hresolutions id (List.of_mem_zip hpair).2
  refine ⟨ids, admitted, hadmitted, ?_⟩
  rw [accepted.plan_eq]
  by_cases hempty : (accepted.plan admitted).mutations.isEmpty
  · rw [if_pos hempty]
    rw [List.isEmpty_iff.mp hempty] at happly
    obtain rfl := applyMutations_nil.mp happly
    exact .inl ⟨rfl, hsettled⟩
  · rw [if_neg hempty]
    exact .inr ⟨_, t', rfl, happly, hsettled⟩

/-- The change can be reached by a call for the Task: it is attributed to no other Task, and an
agent has observed it on its own connection. -/
def InReach (context : PlanContext) (taskId : String) (record : UnrecordedChangeRecord) : Prop :=
  record.taskId.all (· = taskId) = true ∧
    (ActorSource.agentConnectionId context.invocation.actorSource).all (record.connectionId = ·)
      = true

theorem mem_unresolvedRecords_iff (h : record ∈ t.unrecordedChanges.rows.filter (!·.resolved)) :
    record ∈ unresolvedRecords context t taskId ↔ InReach context taskId record := by
  obtain ⟨hrow, hopen⟩ := List.mem_filter.mp h
  rw [unresolvedRecords, List.mem_filter, hopen]
  simp only [hrow, true_and, Bool.true_and, Bool.and_eq_true, InReach]
  exact and_comm

theorem admitTransition_of_current
    (h : currentTransitionAdmission X context t request.taskId actionKey = .ok admitted) :
    admitTransition X context t request.taskId actionKey (coordinatesMatch request)
      CoreMethodCall.actionNotAllowed = .ok admitted := by
  obtain ⟨hsnapshot, evaluation, heval, hlisted⟩ := currentTransitionAdmission_listed h
  have hcoordinates := WorkflowSnapshot.coordinates_of_transition heval hlisted
  have htask := key_of_find? (currentWorkflowSnapshot_ok hsnapshot).task
  have hdescriptor : WorkflowActionAuthorityCoordinates.reconcileChanges
      admitted.snapshot.task.taskId = admitted.descriptor.coordinates := Except.ok.inj hcoordinates
  simp only [admitTransition, h, ok_bind, ← hdescriptor, coordinatesMatch, htask, decide_true,
    ensure, if_true]
  rfl

theorem exists_askable {task : TaskRecord} {changeUnit : Option ChangeUnitRecord}
    (hreached : t.Reconcilable)
    (hvalid : (CoreMethodCall.reconcileChanges request []).validateRequest = .ok ())
    (henvelope : validateCommittedEnvelope (.reconcileChanges request []) = .ok ())
    (htask : t.taskRow request.taskId = some task)
    (hunit : t.currentChangeUnit request.taskId = .ok changeUnit) :
    ∃ key, request.envelope.idempotencyKey = some key ∧ Askable t task changeUnit key := by
  simp only [CoreMethodCall.validateRequest, CoreMethodCall.envelopeTaskRequired,
    CoreMethodCall.envelopeTaskMatches, steps_ok] at hvalid
  simp only [validateCommittedEnvelope, CoreMethodCall.envelope, steps_ok] at henvelope
  obtain ⟨_, henvelopeTask, _, hkeyText, hkey, _⟩ := henvelope
  obtain ⟨key, hkey⟩ := Option.isSome_iff_exists.mp hkey
  obtain ⟨envelopeTask, hgiven⟩ := Option.isSome_iff_exists.mp hvalid.1
  rw [hgiven] at hvalid henvelopeTask
  rw [hkey] at hkeyText
  have hsame : envelopeTask = request.taskId := by simpa using hvalid.2
  have htaskId : task.taskId = request.taskId := key_of_find? htask
  refine ⟨key, hkey, ?_, ?_, ?_, ?_, by simpa using hkeyText⟩
  · rw [htaskId, ← hsame]
    simpa using henvelopeTask
  · rw [htaskId, htask]
    rfl
  · cases changeUnit with
    | none => rfl
    | some unit => simp [hreached.units unit (currentChangeUnit_mem hunit).1]
  · cases changeUnit with
    | none => rfl
    | some unit =>
      obtain ⟨hmem, hown⟩ := currentChangeUnit_mem hunit
      have hfind : t.changeUnits.find? unit.changeUnitId = some unit := find?_of_mem hmem
      simp [changeUnitRecord, hfind, hown, htaskId]

/-- In every state of a run a call of `reconcile_changes` for a Task takes account of every
change that blocks the close of the Task exactly when its transition is current and every such
change is in reach of the call or asked about already. -/
theorem takesAccount_iff (X : External) (projectId createdAt : String) (handles : ι → StoreHandle)
    (ops : List (CoreOp ι)) (context : PlanContext) (committedAt : String)
    (request : ReconcileChangesRequest) (facts : CloseReadinessFacts)
    (hvalid : (CoreMethodCall.reconcileChanges request []).validateRequest = .ok ())
    (henvelope : validateCommittedEnvelope (.reconcileChanges request []) = .ok ())
    (hfacts : acquireCloseReadinessFacts X context (Transition.run (coreStep X)
      (CoreSystem.initial projectId createdAt handles) ops).tables request.taskId = .ok facts) :
    let t := (Transition.run (coreStep X) (CoreSystem.initial projectId createdAt handles)
      ops).tables
    TakesAccount X context committedAt t request facts.unresolvedUnrecordedChanges ↔
      (∃ admitted, currentTransitionAdmission X context t request.taskId actionKey
        = .ok admitted) ∧
      ∀ record ∈ facts.unresolvedUnrecordedChanges, InReach context request.taskId record ∨
        AsksAbout context t request.taskId record := by
  intro t
  have hreached : t.Reconcilable := coreRun_invariant (C := fun _ _ => True)
    ⟨fun _ h => absurd h List.not_mem_nil, fun _ h => absurd h List.not_mem_nil⟩
    (fun _ _ _ heffect _ => coreEffect_reconcilable heffect) ops fun _ _ => trivial
  obtain ⟨task, policy, htask, hunit, hactions, hpolicy, _, _, _, _, _, hchanges⟩ :=
    acquireCloseReadinessFacts_ok hfacts
  have hselected : ∀ record ∈ facts.unresolvedUnrecordedChanges,
      (record ∈ unresolvedRecords context t request.taskId ↔
        InReach context request.taskId record) :=
    fun record hrecord => mem_unresolvedRecords_iff (hchanges ▸ hrecord)
  constructor
  · intro htakes
    obtain ⟨_, admitted, hadmitted, _⟩ := id htakes
    refine ⟨⟨admitted, (admitTransition_ok hadmitted).1⟩, fun record hrecord => ?_⟩
    rw [← hselected record hrecord]
    refine htakes.selected (fun record hrecord => ?_) record hrecord
    obtain ⟨hrow, hopen⟩ := List.mem_filter.mp (hchanges ▸ hrecord)
    exact ⟨hrow, by simpa using hopen⟩
  · rintro ⟨⟨admitted, hadmitted⟩, hreach⟩
    have hrow := (CoreTables.taskRecord_ok htask).1
    obtain ⟨key, hkey, haskable⟩ := exists_askable hreached hvalid henvelope hrow hunit
    refine takesAccount_of_selected ⟨task, _, _, policy, htask, hunit, hactions, hpolicy⟩
      (admitTransition_of_current hadmitted) haskable (Table.key_of_find? hrow) hkey
      hreached.summaries fun record hrecord => ?_
    rw [hselected record hrecord]
    exact hreach record hrecord

/-- An agent takes a Task in, and the Guard sees a change it attributes to the Task. -/
def observedChange : List (CoreOp Unit) :=
  agentCall (sampleIntake "a" 0 .direct .rejectIfActive [] []) []
  ++ [.environment (.observeUnrecordedChange ⟨"u", some "a", "agent", "", ["p"], false⟩)]

def sampleContext (version : Nat) : PlanContext where
  projectId := "project"
  stateVersion := version
  now := 1
  invocation := ⟨"project", .agentConnection "agent", .agentWorkflow, "", "", none, none⟩
  intactArtifactIds := []

def sampleReconciliation (taskId : String) (version : Nat) : ReconcileChangesRequest :=
  ⟨sampleEnvelope (some taskId) "reconcile" (some version), taskId, []⟩

theorem takesAccount_iff_observed :
    let t := (Transition.run (coreStep sampleExternal) sampleProject observedChange).tables
    ∃ facts, acquireCloseReadinessFacts sampleExternal (sampleContext 1) t "a" = .ok facts ∧
      unrecordedChangeBlockers facts ≠ [] ∧
      TakesAccount sampleExternal (sampleContext 1) "x" t (sampleReconciliation "a" 1)
        facts.unresolvedUnrecordedChanges := by
  intro t
  obtain ⟨facts, hfacts⟩ : ∃ facts,
      acquireCloseReadinessFacts sampleExternal (sampleContext 1) t "a" = .ok facts :=
    exists_of_toBool (by decide +kernel)
  obtain ⟨admitted, hadmitted⟩ : ∃ admitted,
      currentTransitionAdmission sampleExternal (sampleContext 1) t "a" actionKey = .ok admitted :=
    exists_of_toBool (by decide +kernel)
  obtain ⟨_, _, _, _, _, _, _, _, _, _, _, hchanges⟩ := acquireCloseReadinessFacts_ok hfacts
  have hreach : ∀ record ∈ t.unrecordedChanges.rows.filter (!·.resolved),
      InReach (sampleContext 1) "a" record := by
    unfold InReach
    decide +kernel
  have hblocked : (t.unrecordedChanges.rows.filter (!·.resolved)).isEmpty = false := by
    decide +kernel
  refine ⟨facts, hfacts, ?_, (takesAccount_iff sampleExternal "project" "x"
    (fun _ : Unit => ⟨some "home", some "home", none⟩) observedChange (sampleContext 1) "x"
    (sampleReconciliation "a" 1) facts (by decide +kernel) (by decide +kernel) hfacts).mpr
      ⟨⟨admitted, hadmitted⟩, fun record hrecord => .inl (hreach record (hchanges ▸ hrecord))⟩⟩
  rw [unrecordedChangeBlockers, hchanges, hblocked]
  decide

/-- A Task that supersedes another is blocked by what was seen of the other, and no call for it
takes account of that. -/
theorem reconcile_misses_superseded :
    let t := (Transition.run (coreStep sampleExternal) sampleProject (observedChange
      ++ agentCall (sampleIntake "b" 1 .direct .supersedeActive [] []) [])).tables
    t.activeTaskId = some "b" ∧
    (∃ facts, acquireCloseReadinessFacts sampleExternal (sampleContext 2) t "b" = .ok facts ∧
      unrecordedChangeBlockers facts ≠ []) ∧
    ∀ context committedAt request facts, request.taskId = "b" →
      acquireCloseReadinessFacts sampleExternal context t "b" = .ok facts →
      ¬ TakesAccount sampleExternal context committedAt t request
        facts.unresolvedUnrecordedChanges := by
  intro t
  have hchange : t.unrecordedChanges.rows.filter (!·.resolved)
      = [⟨"u", some "a", "agent", unrecordedChangeSummary ["p"], ["p"], false⟩] := by
    decide +kernel
  have hrequests : t.userActionRequests.rows = [] := by decide +kernel
  refine ⟨by decide +kernel, ?_, ?_⟩
  · obtain ⟨facts, hfacts⟩ : ∃ facts,
        acquireCloseReadinessFacts sampleExternal (sampleContext 2) t "b" = .ok facts :=
      exists_of_toBool (by decide +kernel)
    obtain ⟨_, _, _, _, _, _, _, _, _, _, _, hchanges⟩ := acquireCloseReadinessFacts_ok hfacts
    refine ⟨facts, hfacts, ?_⟩
    rw [unrecordedChangeBlockers, hchanges, hchange]
    decide
  · intro context committedAt request facts htask hfacts htakes
    obtain ⟨_, _, _, _, _, _, _, _, _, _, _, hchanges⟩ := acquireCloseReadinessFacts_ok hfacts
    rw [hchanges] at htakes
    have hopen : ∀ record ∈ t.unrecordedChanges.rows.filter (!·.resolved),
        record ∈ t.unrecordedChanges.rows ∧ record.resolved = false := by
      intro record hrecord
      obtain ⟨hrow, hresolved⟩ := List.mem_filter.mp hrecord
      exact ⟨hrow, by simpa using hresolved⟩
    have hrecord : ⟨"u", some "a", "agent", unrecordedChangeSummary ["p"], ["p"], false⟩
        ∈ t.unrecordedChanges.rows.filter (!·.resolved) := by
      rw [hchange]
      exact List.mem_singleton_self _
    rcases htakes.selected hopen _ hrecord with hselected | ⟨row, hrow, _⟩
    · rw [htask, mem_unresolvedRecords_iff hrecord] at hselected
      exact absurd hselected.1 (by decide)
    · rw [hrequests] at hrow
      cases hrow

end ReconcileChanges
end Volicord
