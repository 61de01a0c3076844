import Volicord.Core.PlanSpec

/-! The user's answers. A resolution enters the tables through a committed `resolve_user_action`
of the local user and through nothing else, so calls of agents alone leave every decision that
belongs to the user undecided. -/
namespace Volicord
open Result Relational CoreTables CoreStorageMutation Sorted
variable {ι : Type} [DecidableEq ι]
variable {X : External} {t t' : CoreTables} {row : UserActionResolutionRecord}
variable {draft : CoreDraft} {now : UtcTimestamp} {record : StoredUserActionRecordSet}
  {facts : CloseReadinessFacts} {request : ResolveUserActionRequest}
  {mutation : CoreStorageMutation} {answer : CoreAnswer}

theorem CoreStorageMutation.mem_resolutions {context : MutationContext} {version : Nat}
    (h : mutation.apply X context version t = .ok t') (hrow : row ∈ t'.userActionResolutions.rows) :
    row ∈ t.userActionResolutions.rows ∨ mutation = .userAction (.insertResolution row) := by
  have honly := apply_only h
  cases mutation with
  | userAction mutation =>
    rcases userActionMutation_ok h with hrequests | ⟨inserted, rows, rfl, hinsert, rfl⟩
    · exact .inl (hrequests.eq (·.userActionResolutions) (fun _ _ => rfl) ▸ hrow)
    · rcases (Table.mem_insert? hinsert).mp hrow with hold | rfl
      · exact .inl hold
      · exact .inr rfl
  | _ => exact .inl (honly.eq (·.userActionResolutions) (fun _ _ => rfl) ▸ hrow)

theorem CoreMethodCall.plan_resolution {context : PlanContext} {t : CoreTables}
    {call : CoreMethodCall} {plan : OperationPlan} (h : call.plan X context t = .ok plan)
    (hrow : .userAction (.insertResolution row) ∈ plan.mutations) : ∃ request resolutionId,
    ∃ accepted : ResolveUserAction.Accepted X context t request resolutionId, call =
    .resolveUserAction request resolutionId ∧ row = accepted.row := by
  have hkind := plan_kinds h _ hrow
  cases call with
  | resolveUserAction request resolutionId =>
    obtain ⟨_, _, hplan⟩ := bind_eq_ok.mp h
    obtain ⟨accepted, rfl⟩ := ResolveUserAction.plan_ok hplan
    refine ⟨request, resolutionId, accepted, rfl, ?_⟩
    rcases List.mem_cons.mp hrow with heq | hrest
    · exact UserActionMutation.insertResolution.inj (userAction.inj heq)
    · rcases List.mem_append.mp hrest with hgap | hlifecycle
      · have hplanned : Planned [.shapingResolveGap] accepted.task.taskId _ :=
          ResolveUserAction.planned_gap accepted.gapPlanned (by simp) _ hgap
        simp [Planned] at hplanned
      · have hplanned : Planned [.taskUpdateScope] _ _ :=
          planned_pendingLifecycle accepted.lifecyclePlanned (by simp) _ hlifecycle
        simp [Planned] at hplanned
  | _ => simp [CoreMethodCall.method] at hkind

structure UserAnswer (X : External) (t : CoreTables) (draft : CoreDraft)
    (request : ResolveUserActionRequest) (stored : UserActionRequestRecord) (task : TaskRecord)
    (row : UserActionResolutionRecord) : Prop where
  call : draft.submission.call = .resolveUserAction request row.userActionResolutionId
  authority : draft.submission.invocation.authority = .localUser
  category : draft.submission.invocation.operationCategory = .userOnly
  addressed : request.userActionRequestId = row.userActionRequestId
  requestRow : t.userActionRequests.find? row.userActionRequestId = some stored
  unanswered : t.resolutionOf row.userActionRequestId = none
  instant : row.resolvedAt = draft.context.now
  unexpired : stored.expiresAt.all (row.resolvedAt < ·) = true
  basisStatus : stored.basisStatus = .current
  compatibility : stored.basis.compatibilityStatus = .current
  taskRow : t.taskRow stored.taskId = some task
  basisTask : stored.basis.coordinates.taskId = task.taskId
  scopeRevision : stored.basis.coordinates.scopeRevision = task.scopeRevision
  changeUnit : stored.basis.coordinates.changeUnitId = task.currentChangeUnitId
  listed : ∃ snapshot evaluation descriptor,
    currentWorkflowSnapshot X draft.context t stored.taskId = .ok snapshot ∧
    snapshot.evaluate = .ok evaluation ∧
    evaluation.transition ResolveUserAction.actionKey = some descriptor ∧
    ResolveUserAction.requestIsCurrent row.userActionRequestId descriptor.coordinates

theorem ResolveUserAction.Accepted.userAnswer {t : CoreTables} {resolutionId : String}
    (accepted : Accepted X draft.context t request resolutionId) (hprepared : draft.Prepared X)
    (hcall : draft.submission.call = .resolveUserAction request resolutionId) :
    UserAnswer X t draft request accepted.effective.request accepted.task accepted.row := by
  obtain ⟨hcategory, hallowed, _⟩ := deriveVerifiedInvocation_ok hprepared.invocation
  simp only [hcall, CoreMethodCall.operationCategory] at hcategory hallowed
  have hauthority : draft.submission.invocation.authority = .localUser := by
    cases hactor : draft.submission.invocation.authority with
    | localUser => rfl
    | agentConnection => simp [hactor, InvocationAuthority.actorSource,
      actorSourceAllowed] at hallowed
  obtain ⟨hrow, heffective⟩ := userActionRecord_ok accepted.effectiveRead
  obtain ⟨hbasis, hunanswered, hunexpired⟩ := heffective.pending accepted.pendingStatus
  have hid : accepted.effective.request.userActionRequestId = request.userActionRequestId :=
    Table.key_of_find? hrow
  have htask := (taskRecord_ok accepted.record).1
  obtain ⟨hsnapshot, evaluation, heval, htransition⟩ :=
    currentTransitionAdmission_listed accepted.admission
  have hof := currentWorkflowSnapshot_ok hsnapshot
  have hunit : accepted.changeUnit = accepted.admitted.snapshot.currentChangeUnit :=
    Except.ok.inj (accepted.unit.symm.trans hof.changeUnit)
  have hsame : accepted.task = accepted.admitted.snapshot.task :=
    Option.some.inj (htask.symm.trans hof.task)
  have hcurrent := accepted.basis
  simp only [validateCurrentResolutionBasis, steps_ok, Bool.and_eq_true,
    decide_eq_true_eq] at hcurrent
  obtain ⟨⟨⟨⟨⟨⟨hcompatible, hbasisTask⟩, hscope⟩, _⟩, _⟩, hchangeUnit⟩, _⟩ := hcurrent
  exact
    { call := hcall, authority := hauthority, category := hcategory, addressed := rfl
      requestRow := hrow
      unanswered := by rw [← hunanswered, heffective.resolution, hid]; rfl
      instant := rfl, unexpired := hunexpired, basisStatus := hbasis, compatibility := hcompatible
      taskRow := htask, basisTask := hbasisTask, scopeRevision := hscope
      changeUnit := by rw [hchangeUnit, hunit, hsame]; exact hof.changeUnitId.symm
      listed := ⟨_, evaluation, _, hsnapshot, heval, htransition, accepted.listed⟩ }

theorem UserAnswer.of_readFrom {snapshot t : CoreTables} {stored : UserActionRequestRecord}
    {task : TaskRecord} (h : UserAnswer X snapshot draft request stored task row)
    (hread : snapshot.ReadFrom t) : UserAnswer X t draft request stored task row := by
  rw [← hread] at h
  exact { h with }

/-- The commit inserted exactly this row, as an answer of the user. -/
def AnsweredBy (X : External) (t : CoreTables) (answer : CoreAnswer) (t' : CoreTables)
    (row : UserActionResolutionRecord) : Prop :=
  ∃ draft response basis committed events request stored task,
    answer = .commit draft (.ok (.committed response basis committed events)) ∧
    .userAction (.insertResolution row) ∈ draft.plan.mutations ∧
    row ∈ t'.userActionResolutions.rows ∧ UserAnswer X t draft request stored task row

theorem coreEffect_resolution {projectId : String}
    (h : CoreEffect X projectId t answer t') (hrow : row ∈ t'.userActionResolutions.rows) :
    row ∈ t.userActionResolutions.rows ∨ AnsweredBy X t answer t' row := by
  cases h with
  | @method draft _ _ _ response events _ hcommit =>
    rcases hcommit.exists_mutation (H := fun s r => r ∈ s.userActionResolutions.rows)
      (fun _ _ _ _ happly => mem_resolutions happly) hrow with hold | ⟨_, hmem, rfl⟩
    · exact .inl hold
    · obtain ⟨request, _, accepted, hcall, rfl⟩ :=
        CoreMethodCall.plan_resolution hcommit.prepared.planned hmem
      exact .inr ⟨draft, response, _, _, events, request, _, _, rfl, hmem, hrow,
        (accepted.userAnswer hcommit.prepared hcall).of_readFrom hcommit.snapshot⟩
  | policy happly =>
    have honly := (applyProjectWorkflowPolicyMutation_ok happly).1
    exact .inl (honly.eq (·.userActionResolutions) (fun _ _ => rfl) ▸ hrow)
  | environment change => cases change <;> exact .inl hrow
  | idle => exact .inl hrow

/- Calls of agents alone. -/

def CoreAnswer.byAgent : CoreAnswer → Bool
  | .commit draft _ => draft.submission.invocation.authority ≠ .localUser
  | _ => true

def CoreTables.GapsCurrent (t : CoreTables) : Prop :=
  ∀ gap ∈ t.shapingGaps.rows, gap.status = .current

structure CoreTables.Undecided (t : CoreTables) : Prop where
  resolutions : t.userActionResolutions.rows = []
  gaps : t.GapsCurrent

namespace CoreTables
variable {context : MutationContext} {committedAt projectId taskId : String}

theorem GapsCurrent.congr (h : t.GapsCurrent) (heq : t'.shapingGaps = t.shapingGaps) :
    t'.GapsCurrent := by
  unfold GapsCurrent
  rw [heq]
  exact h

theorem applySelectedGaps_gapsCurrent {checkpointId : String}
    {owner : ShapingDecisionApplicationOwner} {basis : ShapingApplicationBasis}
    {applications : List ShapingGapApplication}
    (h : applySelectedGaps X taskId checkpointId owner basis applications t = .ok t')
    (hgaps : t.GapsCurrent) : t'.GapsCurrent := by
  simp only [applySelectedGaps, steps_ok] at h
  obtain ⟨mode, _, _, h⟩ := h
  refine foldlM_rel (R := fun s s' : CoreTables => s.GapsCurrent → s'.GapsCurrent)
    (fun _ h => h) (fun _ _ _ h₁ h₂ h => h₂ (h₁ h)) ?_ h hgaps
  intro s s' application _ hstep hcurrent
  simp only [applySelectedGap, steps_ok, Bool.and_eq_true, decide_eq_true_eq] at hstep
  obtain ⟨_, _, _, _, gap, hgap, link, _, request, _, policy, _, ⟨⟨⟨⟨_, haccepted⟩, _⟩, _⟩, _⟩,
    _⟩ :=
    hstep
  have hfound := (Option.filter_eq_some_iff.mp hgap).1
  rw [hcurrent gap (Table.mem_of_find? hfound)] at haccepted
  cases haccepted

theorem insertShapingGap_gapsCurrent {checkpoint : ShapingCheckpointInsert}
    {gap : ShapingCheckpointGapInsert} (h : insertShapingGap checkpoint t gap = .ok t')
    (hgaps : t.GapsCurrent) : t'.GapsCurrent := by
  simp only [insertShapingGap, steps_ok, insertRow_ok] at h
  obtain ⟨_, _, _, _, _, _, _, gaps, ⟨_, hinsert⟩, h⟩ := h
  have hinserted : ({ t with shapingGaps := gaps } : CoreTables).GapsCurrent := by
    intro row hrow
    rcases (Table.mem_insert? hinsert).mp hrow with hold | rfl
    · exact hgaps row hold
    · rfl
  split at h
  · obtain rfl := pure_eq_ok.mp h
    exact hinserted
  · simp only [steps_ok] at h
    obtain ⟨_, _, rfl⟩ := h
    exact hinserted

theorem recordShapingCheckpoint_gapsCurrent {input : ShapingCheckpointInsert}
    (h : t.recordShapingCheckpoint X committedAt projectId input = .ok t')
    (hgaps : t.GapsCurrent) : t'.GapsCurrent := by
  obtain ⟨predecessor, t₁, _, checkpoints, t₂, hsuccession, _, _, hinserted, hlineage⟩ :=
    recordShapingCheckpoint_ok h
  have h₁ : t₁.GapsCurrent := hgaps.congr
    ((applyCheckpointSuccession_only hsuccession).eq (·.shapingGaps) fun _ _ => rfl)
  have h₂ : t₂.GapsCurrent :=
    foldlM_rel (R := fun s s' : CoreTables => s.GapsCurrent → s'.GapsCurrent) (fun _ h => h)
      (fun _ _ _ h₁ h₂ h => h₂ (h₁ h)) (fun _ _ _ _ => insertShapingGap_gapsCurrent) hinserted h₁
  exact h₂.congr (hlineage.eq (·.shapingGaps) fun _ _ => rfl)

theorem resolveShapingGap_answered {requestId resolutionId : String}
    {disposition : ShapingGapStatus}
    (h : t.resolveShapingGap requestId resolutionId disposition = .ok t') :
    t.userActionResolutions.rows ≠ [] := by
  simp only [resolveShapingGap, steps_ok] at h
  obtain ⟨_, _, _, _, _, resolution, hresolution, _⟩ := h
  have hfound := (Option.filter_eq_some_iff.mp hresolution).1
  exact List.ne_nil_of_mem (Table.mem_of_find? hfound)

theorem shapingMutation_gapsCurrent {mutation : ShapingCheckpointMutation}
    (h : mutation.apply X context t = .ok t') (hundecided : t.Undecided) : t'.GapsCurrent := by
  have hgaps := hundecided.gaps
  cases mutation with
  | record input => exact recordShapingCheckpoint_gapsCurrent h hgaps
  | resolveLinkedGap => exact absurd hundecided.resolutions (resolveShapingGap_answered h)
  | applyScopeAndRebaseCurrent =>
    simp only [ShapingCheckpointMutation.apply, applyScopeAndRebaseCurrentShapingCheckpoint,
      steps_ok] at h
    obtain ⟨_, _, _, _, _, _, _, _, _, _, t₁, hinvalidated, t₂, happlied, _, _, rfl⟩ := h
    have h₁ := hgaps.congr
      ((invalidateApplicationRows_only hinvalidated).eq (·.shapingGaps) fun _ _ => rfl)
    exact (applySelectedGaps_gapsCurrent happlied h₁).congr rfl
  | applyAdvanceAndTransition input =>
    simp only [ShapingCheckpointMutation.apply, applyAdvanceShapingAndTransition, steps_ok] at h
    obtain ⟨_, _, _, _, _, _, t₁, happlied, _, _, rfl⟩ := h
    exact (applySelectedGaps_gapsCurrent happlied hgaps).congr rfl
  | applyAdvisorFinalization input =>
    simp only [ShapingCheckpointMutation.apply, applyAdvisorShapingFinalization, steps_ok] at h
    obtain ⟨_, _, _, _, _, t₁, happlied, _, _, _, rfl⟩ := h
    exact applySelectedGaps_gapsCurrent happlied hgaps
  | supersedeCurrent taskId =>
    exact hgaps.congr ((supersedeCurrentShapingCheckpoint_only h).eq (·.shapingGaps) fun _ _ => rfl)

section
variable (h : t.Undecided) (hrecord : t.EffectiveAt now record)
include h hrecord

theorem Undecided.resolution_eq_none : record.resolution = none := by
  rw [hrecord.resolution, resolutionOf, h.resolutions]
  rfl

theorem Undecided.not_accepted
    (kind : UserActionKind) : record.acceptedCurrentUserAuthority kind = false := by
  simp [StoredUserActionRecordSet.acceptedCurrentUserAuthority, h.resolution_eq_none hrecord]

theorem Undecided.not_resolved : record.status ≠ .resolved := by
  intro hresolved
  have hsome := (hrecord.resolved hresolved).2
  rw [h.resolution_eq_none hrecord] at hsome
  cases hsome

end

end CoreTables

theorem CoreStorageMutation.undecided {context : MutationContext} {version : Nat}
    (h : mutation.apply X context version t = .ok t') (hundecided : t.Undecided)
    (hanswer : ∀ row, mutation ≠ .userAction (.insertResolution row)) : t'.Undecided := by
  have honly := apply_only h
  refine ⟨?_, ?_⟩
  · refine List.eq_nil_iff_forall_not_mem.mpr fun row hrow => ?_
    rcases mem_resolutions h hrow with hold | heq
    · rw [hundecided.resolutions] at hold
      cases hold
    · exact hanswer row heq
  · cases mutation with
    | shaping mutation => exact shapingMutation_gapsCurrent h hundecided
    | _ => exact hundecided.gaps.congr (honly.eq (·.shapingGaps) fun _ _ => rfl)

theorem coreEffect_undecided {projectId : String} (h : CoreEffect X projectId t answer t')
    (hagent : answer.byAgent) (hundecided : t.Undecided) : t'.Undecided := by
  cases h with
  | @method draft _ _ _ response events _ hcommit =>
    have hanswer : ∀ mutation ∈ draft.plan.mutations, ∀ row,
        mutation ≠ .userAction (.insertResolution row) := by
      rintro _ hmem row rfl
      obtain ⟨request, _, accepted, hcall, rfl⟩ :=
        CoreMethodCall.plan_resolution hcommit.prepared.planned hmem
      have huser := (accepted.userAnswer hcommit.prepared hcall).authority
      simp [CoreAnswer.byAgent, huser] at hagent
    exact hcommit.rel (R := fun s s' => s.Undecided → s'.Undecided) (fun _ h => h)
      (fun _ _ _ h₁ h₂ h => h₂ (h₁ h))
      (fun s s' mutation hmem happly _ hs =>
        undecided happly hs (hanswer mutation hmem)) hundecided
  | policy happly =>
    have honly := (applyProjectWorkflowPolicyMutation_ok happly).1
    exact ⟨(congrArg Table.rows (honly.eq (·.userActionResolutions) fun _ _ => rfl)).trans
      hundecided.resolutions, hundecided.gaps.congr (honly.eq (·.shapingGaps) fun _ _ => rfl)⟩
  | environment change => cases change <;> exact ⟨hundecided.resolutions, hundecided.gaps⟩
  | idle => exact hundecided

/- What the user's decision is needed for. -/

/-- The close of this Task rests on a decision of the user. -/
def CloseReadinessFacts.NeedsUser (t : CoreTables) (facts : CloseReadinessFacts) : Prop :=
  finalAcceptanceRequired t facts false = true ∨
    (facts.basis.any fun basis => basis.residualRisks.any (·.acceptanceRequired)) = true ∨
    facts.task.effectiveControlLevel = .sensitive ∨ sensitiveRequirements facts ≠ []

/-- A cancellation, a completion that needs an acceptance or an approval, and a Run that consumes
a ticket for a sensitive action rest on a decision of the user. -/
def CoreDraft.NeedsUser (X : External) (draft : CoreDraft) : Prop :=
  match draft.submission.call with
  | .closeTask request => request.intent = .cancel ∨ request.intent = .complete ∧
      ∃ facts, acquireCloseReadinessFacts X draft.context draft.snapshot request.taskId
        = .ok facts ∧
        facts.NeedsUser draft.snapshot
  | .recordRun request _ => ∃ task writeTicketId ticket,
      draft.snapshot.taskRow request.taskId = some task ∧
      request.writeTicketId = some writeTicketId ∧
      draft.snapshot.writeTicketRecord writeTicketId = some ticket ∧
      (task.effectiveControlLevel = .sensitive ∨ ticket.attemptScope.sensitiveCategories ≠ [])
  | _ => False

namespace CoreTables.Undecided
variable {context : PlanContext}

theorem resolved_eq_nil (h : t.Undecided) {taskId : String}
    (hfacts : acquireCloseReadinessFacts X context t taskId = .ok facts) (kind : UserActionKind) :
    facts.resolved kind = [] := by
  obtain ⟨_, _, _, _, hactions, _⟩ := acquireCloseReadinessFacts_ok hfacts
  refine List.filter_eq_nil_iff.mpr fun record hrecord => ?_
  have hstatus := h.not_resolved (userActionHistoryForTask_ok hactions record hrecord).2.2
  simp [hstatus]

theorem not_cancelled (h : t.Undecided) {request : CloseTaskRequest}
    (accepted : CloseTask.Accepted X context t request) : request.intent ≠ .cancel := by
  intro hintent
  have hblockers := (closeBlockers_clear accepted.unblocked).2.1
  simp only [acceptanceTerminalBlockers, CloseTask.readinessRequest, hintent,
    cancellationAuthorityBlocker, h.resolved_eq_nil accepted.acquired] at hblockers
  split at hblockers
  · rename_i hany
    simp at hany
  · split at hblockers
    · cases hblockers
    · split at hblockers <;> cases hblockers

theorem not_sensitive {request : CloseReadinessRequest}
    (hnone : facts.resolved .sensitiveApproval = [])
    (h : completionAuthorityBlockers context request facts = []) :
    facts.task.effectiveControlLevel ≠ .sensitive ∧ sensitiveRequirements facts = [] := by
  have hunapproved : hasCurrentSensitiveApprovalForClose context request facts = false := by
    unfold hasCurrentSensitiveApprovalForClose
    cases facts.basis with
    | none => rfl
    | some basis => simpa [hnone] using fun h => List.exists_mem_of_ne_nil _ h
  simp only [completionAuthorityBlockers, hunapproved, List.append_eq_nil_iff] at h
  obtain ⟨_, h⟩ := h
  split at h
  · cases h
  · rename_i hmissing
    simp only [blockerIf_eq_nil, Bool.not_false, Bool.and_true, Bool.or_eq_false_iff,
      decide_eq_false_iff_not, Bool.not_eq_false', List.isEmpty_iff] at h
    exact h

theorem nothing_to_accept (hnone : ∀ kind, facts.resolved kind = [])
    (h : completionAcceptanceBlockers t facts false = []) :
    finalAcceptanceRequired t facts false = false ∧
      (facts.basis.any fun basis => basis.residualRisks.any (·.acceptanceRequired)) = false := by
  simp only [completionAcceptanceBlockers, residualRiskUncovered, hnone, List.append_eq_nil_iff,
    List.any_nil, Option.any_false, Bool.or_false, Bool.not_false, Bool.and_true] at h
  obtain ⟨hfinal, hrisk⟩ := h
  refine ⟨?_, ?_⟩
  · cases hrequired : finalAcceptanceRequired t facts false with
    | false => rfl
    | true =>
      simp only [hrequired, Bool.not_true, Bool.false_eq_true, if_false] at hfinal
      split at hfinal <;> cases hfinal
  · cases hany : facts.basis.any fun basis => basis.residualRisks.any (·.acceptanceRequired) with
    | false => rfl
    | true =>
      simp only [hany, Bool.not_true, Bool.false_eq_true, if_false] at hrisk
      split at hrisk <;> cases hrisk

theorem not_needsUser (h : t.Undecided) {request : CloseTaskRequest}
    (accepted : CloseTask.Accepted X context t request) (hintent : request.intent = .complete) :
    ¬ accepted.facts.NeedsUser t := by
  have hclear := (closeBlockers_clear accepted.unblocked).2.2.1 hintent
  have hnone := h.resolved_eq_nil accepted.acquired
  obtain ⟨hcontrol, hrequirements⟩ := not_sensitive (hnone _) hclear.authority
  obtain ⟨hfinal, hrisk⟩ := nothing_to_accept hnone hclear.acceptance
  rintro (hneeds | hneeds | hneeds | hneeds)
  · rw [hfinal] at hneeds; cases hneeds
  · rw [hrisk] at hneeds; cases hneeds
  · exact hcontrol hneeds
  · exact hneeds hrequirements

theorem ticket_not_sensitive (h : t.Undecided) {admission : RecordRunWriteAdmission}
    {ticket : StoredWriteTicket} {authorities : List StoredUserActionRecordSet}
    (hadmits : admission.Admits X context t ticket authorities) :
    admission.task.effectiveControlLevel ≠ .sensitive ∧
      ticket.attemptScope.sensitiveCategories = [] := by
  obtain ⟨records, hrecords, hfilter⟩ := map_eq_ok.mp hadmits.resolved
  have hnone : authorities = [] := by
    rw [← hfilter]
    refine List.filter_eq_nil_iff.mpr fun record hrecord => ?_
    have hstatus := h.not_resolved (userActionHistoryForTask_ok hrecords record hrecord).2.2
    simp [hstatus]
  have hchanged := hadmits.approval
  rw [hnone, assessWriteTicketApproval] at hchanged
  split at hchanged
  · split at hchanged
    · exact absurd rfl hchanged
    · rename_i hrequired
      simp only [WriteTicketApprovalRequirement.isRequired,
        RecordRunWriteAdmission.approvalRequirement, Bool.or_eq_true, Bool.not_eq_true', not_or,
        List.isEmpty_eq_false_iff, not_not] at hrequired
      exact ⟨fun hcontrol => hrequired.1 (decide_eq_true hcontrol), hrequired.2⟩
  · rename_i hrefs
    split at hchanged
    · rename_i hall
      cases hpersisted : ticket.validityBasis.approvalBasisRefs with
      | nil => simp [hpersisted] at hrefs
      | cons reference refs =>
        simp [hpersisted, WriteTicketApprovalRequirement.coversRef,
          WriteTicketApprovalRequirement.resolutionIds, sortDedup] at hall
    · exact absurd rfl hchanged

theorem commit_without_user (h : t.Undecided) {committedAt : String} {t' : CoreTables}
    (hcommit : CommittedDraft X draft committedAt t t') : ¬ draft.NeedsUser X := by
  have hsnapshot : draft.snapshot.Undecided := by
    have hread := hcommit.snapshot
    refine ⟨?_, h.gaps.congr (hread.read (·.shapingGaps) fun _ _ => rfl)⟩
    rw [hread.read (·.userActionResolutions) fun _ _ => rfl]
    exact h.resolutions
  have hplanned := hcommit.prepared.planned
  unfold CoreDraft.NeedsUser
  cases hcall : draft.submission.call with
  | closeTask request =>
    rw [hcall] at hplanned
    obtain ⟨_, _, hplanned⟩ := bind_eq_ok.mp hplanned
    obtain ⟨_, _, hplan⟩ := bind_eq_ok.mp hplanned
    obtain ⟨accepted, _⟩ := CloseTask.plan_ok hplan
    rintro (hcancel | ⟨hcomplete, facts, hfacts, hneeds⟩)
    · exact hsnapshot.not_cancelled accepted hcancel
    · obtain rfl := Except.ok.inj (hfacts.symm.trans accepted.acquired)
      exact hsnapshot.not_needsUser accepted hcomplete hneeds
  | recordRun request ids =>
    rw [hcall] at hplanned
    obtain ⟨_, _, hplanned⟩ := bind_eq_ok.mp hplanned
    obtain ⟨_, _, hplan⟩ := bind_eq_ok.mp hplanned
    obtain ⟨accepted, _⟩ := RecordRun.plan_ok hplan
    rintro ⟨task, writeTicketId, ticket, htask, hid, hticket, hneeds⟩
    have htaskId := accepted.taskId_eq
    have hrecord := (taskRecord_ok accepted.record).1
    rw [htaskId, htask] at hrecord
    obtain rfl := Option.some.inj hrecord
    have hnormal := RecordRunRequest.normalize_ok accepted.normalized
    rcases RecordRun.admitTicket_ok accepted.ticketAdmitted with
      ⟨stored, id, authorities, _, hid', hstored, _, _, _, _, hadmits⟩ | ⟨_, hno, _⟩
    · rw [hnormal.2.2.2.1, hid] at hid'
      obtain rfl := Option.some.inj hid'
      obtain rfl := Option.some.inj (hticket.symm.trans hstored)
      obtain ⟨hcontrol, hcategories⟩ := hsnapshot.ticket_not_sensitive hadmits
      exact hneeds.elim hcontrol fun hsome => hsome hcategories
    · rw [hnormal.2.2.2.1, hid] at hno
      cases hno
  | _ => exact id

end CoreTables.Undecided

def askedQuestion : List (CoreOp Unit) :=
  agentCall (sampleIntake "a" 0 .direct .rejectIfActive [] []) []
  ++ agentCall (sampleQuestion "a" "ask" 1 .cancellation [.closeCancel] none) []

def answeredQuestion : List (CoreOp Unit) :=
  askedQuestion ++ userCall (sampleAnswer "ask" "answer" "accept") []

def expiringQuestion : List (CoreOp Unit) :=
  agentCall (sampleIntake "a" 0 .direct .rejectIfActive [] []) []
  ++ agentCall (sampleQuestion "a" "ask" 1 .cancellation [.closeCancel] none (some 3)) []
  ++ [.prepare () { sampleSubmission .localUser .userOnly (sampleAnswer "ask" "answer" "accept") []
      with clock := .system "xx" }]

end Volicord
