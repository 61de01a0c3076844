import Volicord.Core.TicketLife

/-! What a workflow policy binds: Write Tickets to the fingerprint of the policy in force, and
Tasks to the control and the acceptance it asks for. -/
namespace Volicord
open Result Relational CoreTables
variable {ι : Type} [DecidableEq ι]
variable {X : External} {t t' : CoreTables} {answer : CoreAnswer} {committedAt projectId : String}
  {input : TaskControlLevelUpdate}

/- Tickets and the fingerprint. -/

/-- Every ticket that can still be used was issued under the policy in force. -/
def CoreTables.TicketsBound (X : External) (t : CoreTables) : Prop :=
  ∀ id row, t.writeTicketRecord id = some row → row.status = .active →
    t.currentWriteAuthorityFingerprint X = .ok row.validityBasis.writeAuthorityFingerprint

theorem PrepareWrite.decidePolicy_policy {t : CoreTables} {task : TaskRecord}
    {input : PrepareWriteInput} {decision : PrepareWritePolicyDecision}
    (h : decidePolicy X t task input = .ok decision) :
    t.projectWorkflowPolicy X = .ok decision.policy := by
  simp only [decidePolicy, steps_ok, fromStore_eq_ok] at h
  obtain ⟨_, policy, hpolicy, _, _, h⟩ := h
  split at h <;>
  · obtain rfl := pure_eq_ok.mp h
    exact hpolicy

theorem TicketIssue.fingerprint (issue : TicketIssue X t answer t') :
    t.currentWriteAuthorityFingerprint X
      = .ok issue.row.validityBasis.writeAuthorityFingerprint := by
  have hpolicy := PrepareWrite.decidePolicy_policy issue.accepted.decided
  simp only [projectWorkflowPolicy, steps_ok] at hpolicy
  obtain ⟨fingerprint, hfingerprint, hpolicy⟩ := hpolicy
  rw [issue.commit.snapshot.read (·.currentWriteAuthorityFingerprint X) fun _ _ => rfl]
    at hfingerprint
  rw [hfingerprint]
  exact congrArg (fun policy => Except.ok policy.writeAuthorityFingerprint) hpolicy

theorem CommittedDraft.workflowPolicy_eq {draft : CoreDraft}
    (h : CommittedDraft X draft committedAt t t') : t'.workflowPolicy = t.workflowPolicy := by
  refine h.rel (R := fun s s' => s'.workflowPolicy = s.workflowPolicy) (fun _ => rfl)
    (fun _ _ _ h₁ h₂ => h₂.trans h₁) ?_
  intro s s' mutation _ happly hpolicy
  have honly := CoreStorageMutation.apply_only happly
  cases mutation with
  | workflowPolicy => cases hpolicy
  | _ => exact honly.eq (·.workflowPolicy) fun _ _ => rfl

theorem CommittedDraft.fingerprint_eq {draft : CoreDraft}
    (h : CommittedDraft X draft committedAt t t') :
    t'.currentWriteAuthorityFingerprint X = t.currentWriteAuthorityFingerprint X := by
  unfold currentWriteAuthorityFingerprint
  rw [h.workflowPolicy_eq]

theorem coreEffect_ticketsBound (h : CoreEffect X projectId t answer t') (ht : t.TicketsBound X) :
    t'.TicketsBound X := by
  cases h with
  | @method draft _ _ _ response events _ hcommit =>
    intro id row hrow hactive
    rw [hcommit.fingerprint_eq]
    rcases hcommit.ticket_cases hrow with ⟨old, hold, hevolves⟩ | ⟨input, hmem, _, hevolves⟩
    · obtain rfl := hevolves.eq_of_active hactive
      exact ht id row hold hactive
    · obtain rfl := hevolves.eq_of_active hactive
      obtain ⟨issue, hissue⟩ : ∃ issue : TicketIssue X t _ t', issue.row = _ :=
        hcommit.ticketIssue ⟨response, draft.context.stateVersion, draft.context.stateVersion + 1,
          events, rfl⟩ hmem
      rw [← hissue]
      exact issue.fingerprint
  | policy happly =>
    intro id row hrow hactive
    obtain ⟨hkept, prior, resulting, hprior, hresulting, hleft⟩ :=
      applyProjectWorkflowPolicyMutation_evolve happly
    rw [hresulting]
    by_cases hsame : prior = resulting
    · obtain ⟨old, hold, hevolves⟩ := hkept.back hrow
      obtain rfl := hevolves.eq_of_active hactive
      rw [← hsame, ← hprior]
      exact ht id row hold hactive
    · rw [(hleft hsame id row hrow hactive).1]
  | environment change => cases change <;> exact ht
  | idle => exact ht

theorem coreEffect_fingerprint_changed
    (h : CoreEffect X projectId t answer t') (ht : t.TicketsBound X)
    (hchanged : t'.currentWriteAuthorityFingerprint X ≠ t.currentWriteAuthorityFingerprint X)
    {id : String} {row : StoredWriteTicket} (hrow : t'.writeTicketRecord id = some row) :
    row.status ≠ .active := by
  intro hactive
  cases h with
  | method _ hcommit => exact hchanged hcommit.fingerprint_eq
  | policy happly =>
    obtain ⟨hkept, prior, resulting, hprior, hresulting, hleft⟩ :=
      applyProjectWorkflowPolicyMutation_evolve happly
    have hne : prior ≠ resulting := by
      rintro rfl
      exact hchanged (hresulting.trans hprior.symm)
    -- what is still active carries the new fingerprint, but it was issued under the old one
    obtain ⟨old, hold, hevolves⟩ := hkept.back hrow
    obtain rfl := hevolves.eq_of_active hactive
    have hbound := hprior.symm.trans (ht id row hold hactive)
    exact hne ((Except.ok.inj hbound).trans (hleft hne id row hrow hactive).1)
  | environment change => cases change <;> exact hchanged rfl
  | idle => exact hchanged rfl

/- Tasks and the control they are under. -/

def TaskRecord.requiredLevel (row : TaskRecord) : TaskControlLevel :=
  (row.policyReevaluation.map (·.requiredEffectiveControlLevel)).getD row.effectiveControlLevel

def TaskRecord.requiredAcceptance (row : TaskRecord) : AcceptancePolicy :=
  (row.policyReevaluation.bind (·.requiredAcceptancePolicy)).getD row.acceptancePolicy

structure TaskRecord.ControlKept (old row : TaskRecord) : Prop where
  level : old.effectiveControlLevel ≤ row.effectiveControlLevel
  acceptance : old.acceptancePolicy.rank ≤ row.acceptancePolicy.rank
  requiredLevel : old.requiredLevel ≤ row.requiredLevel
  requiredAcceptance : old.requiredAcceptance.rank ≤ row.requiredAcceptance.rank
  mark : row.policyReevaluation = none ∨ row.policyReevaluation = old.policyReevaluation ∨
    ∃ next acceptance, row.policyReevaluation = some next ∧
      next.requiredAcceptancePolicy = some acceptance

namespace TaskRecord.ControlKept
variable {old middle row : TaskRecord}

theorem of_eq (hlevel : row.effectiveControlLevel = old.effectiveControlLevel)
    (hacceptance : row.acceptancePolicy = old.acceptancePolicy)
    (hmark : row.policyReevaluation = old.policyReevaluation) : old.ControlKept row where
  level := hlevel.ge
  acceptance := by rw [hacceptance]
  requiredLevel := by rw [TaskRecord.requiredLevel, TaskRecord.requiredLevel, hmark, hlevel]
  requiredAcceptance := by
    rw [TaskRecord.requiredAcceptance, TaskRecord.requiredAcceptance, hmark, hacceptance]
  mark := .inr (.inl hmark)

theorem trans (h : old.ControlKept middle) (h' : middle.ControlKept row) : old.ControlKept row where
  level := h.level.trans h'.level
  acceptance := h.acceptance.trans h'.acceptance
  requiredLevel := h.requiredLevel.trans h'.requiredLevel
  requiredAcceptance := h.requiredAcceptance.trans h'.requiredAcceptance
  mark := by
    rcases h'.mark with hnone | hsame | hnext
    · exact .inl hnone
    · rw [hsame]
      exact h.mark
    · exact .inr (.inr hnext)

end TaskRecord.ControlKept

theorem rank_le_maxAcceptancePolicy_left (left right : AcceptancePolicy) :
    left.rank ≤ (maxAcceptancePolicy left right).rank := by
  cases left <;> cases right <;> decide

theorem rank_le_maxAcceptancePolicy_right (left right : AcceptancePolicy) :
    right.rank ≤ (maxAcceptancePolicy left right).rank := by
  cases left <;> cases right <;> decide

theorem controlKept_nextPolicyReevaluation (input : ProjectWorkflowPolicyMutation)
    (markedAt : UtcTimestamp) (row : TaskRecord) :
    row.ControlKept { row with
      policyReevaluation := some (nextPolicyReevaluation input markedAt row) } where
  level := le_rfl
  acceptance := le_rfl
  requiredLevel := le_max_right _ _
  requiredAcceptance := rank_le_maxAcceptancePolicy_right _ _
  mark := .inr (.inr ⟨_, _, rfl, rfl⟩)

@[simp]
theorem TaskControlLevelUpdate.edit_effectiveControlLevel (input : TaskControlLevelUpdate)
    (row : TaskRecord) : (input.edit row).effectiveControlLevel = input.effectiveControlLevel := rfl

@[simp]
theorem TaskControlLevelUpdate.edit_acceptancePolicy (input : TaskControlLevelUpdate)
    (row : TaskRecord) : (input.edit row).acceptancePolicy
      = input.acceptancePolicy.getD row.acceptancePolicy := rfl

theorem controlKept_edit {row : TaskRecord}
    (hlevel : row.effectiveControlLevel ≤ input.effectiveControlLevel)
    (hacceptance : input.acceptancePolicy.all (row.acceptancePolicy.rank ≤ ·.rank) = true) :
    row.ControlKept (input.edit row) := by
  have hraised : row.acceptancePolicy.rank
      ≤ (input.acceptancePolicy.getD row.acceptancePolicy).rank := by
    cases hasked : input.acceptancePolicy with
    | none => exact le_rfl
    | some policy => simpa [hasked] using hacceptance
  cases hmark : row.policyReevaluation with
  | none =>
    have hafter : (input.edit row).policyReevaluation = none := by
      simp [TaskControlLevelUpdate.edit, hmark, clearSatisfied]
    refine ⟨hlevel, hraised, ?_, ?_, .inl hafter⟩
    · simpa [TaskRecord.requiredLevel, hmark, hafter] using hlevel
    · simpa [TaskRecord.requiredAcceptance, hmark, hafter] using hraised
  | some mark =>
    by_cases hmet : (mark.requiredEffectiveControlLevel ≤ input.effectiveControlLevel
        && mark.requiredAcceptancePolicy.all
          (·.rank ≤ (input.acceptancePolicy.getD row.acceptancePolicy).rank)) = true
    · have hafter : (input.edit row).policyReevaluation = none := by
        simp only [TaskControlLevelUpdate.edit, hmark, clearSatisfied, hmet, if_true]
      simp only [Bool.and_eq_true, decide_eq_true_eq] at hmet
      refine ⟨hlevel, hraised, ?_, ?_, .inl hafter⟩
      · simpa [TaskRecord.requiredLevel, hmark, hafter] using hmet.1
      · cases hrequired : mark.requiredAcceptancePolicy with
        | none => simpa [TaskRecord.requiredAcceptance, hmark, hafter, hrequired] using hraised
        | some policy =>
          have hpolicy := hmet.2
          rw [hrequired] at hpolicy
          simpa [TaskRecord.requiredAcceptance, hmark, hafter, hrequired] using hpolicy
    · have hafter : (input.edit row).policyReevaluation = row.policyReevaluation := by
        simp only [TaskControlLevelUpdate.edit, hmark, clearSatisfied, hmet, if_false,
          Bool.false_eq_true]
      refine ⟨hlevel, hraised, ?_, ?_, .inr (.inl hafter)⟩
      · simp [TaskRecord.requiredLevel, hmark, hafter]
      · cases hrequired : mark.requiredAcceptancePolicy with
        | none => simpa [TaskRecord.requiredAcceptance, hmark, hafter, hrequired] using hraised
        | some policy => simp [TaskRecord.requiredAcceptance, hmark, hafter, hrequired]

def CoreTables.ControlKept (t t' : CoreTables) : Prop :=
  ∀ taskId old, t.taskRow taskId = some old →
    ∃ row, t'.taskRow taskId = some row ∧ old.ControlKept row

theorem CoreTables.ControlKept.refl (t : CoreTables) : t.ControlKept t :=
  fun _ old hold => ⟨old, hold, .of_eq rfl rfl rfl⟩

theorem CoreTables.ControlKept.trans {t t₁ t' : CoreTables} (h : t.ControlKept t₁)
    (h' : t₁.ControlKept t') : t.ControlKept t' := by
  intro taskId old hold
  obtain ⟨middle, hmiddle, hfirst⟩ := h taskId old hold
  obtain ⟨row, hrow, hsecond⟩ := h' taskId middle hmiddle
  exact ⟨row, hrow, hfirst.trans hsecond⟩

theorem CoreTables.updateTaskControlLevel_ok (h : t.updateTaskControlLevel input = .ok t')
    {row : TaskRecord} (hrow : t.taskRow input.taskId = some row) :
    row.effectiveControlLevel ≤ input.effectiveControlLevel ∧ input.acceptancePolicy.all
    (row.acceptancePolicy.rank ≤ ·.rank) = true := by
  simp only [updateTaskControlLevel, steps_ok] at h
  obtain ⟨_, _, _, _, _, task, htask, hlevel, hacceptance, _⟩ := h
  obtain rfl := Option.some.inj (htask.symm.trans hrow)
  exact ⟨of_decide_eq_true hlevel, hacceptance⟩

theorem CoreStorageMutation.apply_controlKept {context : MutationContext} {version : Nat}
    {mutation : CoreStorageMutation} (h : mutation.apply X context version t = .ok t')
    (hpolicy : mutation.isWorkflowPolicy = false) : t.ControlKept t' := by
  intro taskId old hold
  refine apply_taskRow_rel h hpolicy hold (.of_eq rfl rfl rfl) fun change heffect => ?_
  cases mutation with
  | task mutation =>
    cases mutation with
    | updateControlLevel input =>
      obtain ⟨rfl, rfl⟩ := TaskEffect.edit.inj heffect
      obtain ⟨hlevel, hacceptance⟩ := updateTaskControlLevel_ok h hold
      exact controlKept_edit hlevel hacceptance
    | supersede | close | updateScope | updateScopeRevision | updateCloseBasis =>
      obtain ⟨rfl, rfl⟩ := TaskEffect.edit.inj heffect
      exact .of_eq rfl rfl rfl
    | _ => cases heffect
  | changeUnit mutation =>
    cases mutation with
    | insertCurrent | replaceCurrent =>
      obtain ⟨rfl, rfl⟩ := TaskEffect.edit.inj heffect
      exact .of_eq rfl rfl rfl
  | shaping mutation =>
    cases mutation with
    | applyAdvanceAndTransition =>
      obtain ⟨rfl, rfl⟩ := TaskEffect.edit.inj heffect
      exact .of_eq rfl rfl rfl
    | _ => cases heffect
  | _ => cases heffect

theorem coreEffect_controlKept (h : CoreEffect X projectId t answer t') : t.ControlKept t' := by
  cases h with
  | method _ hcommit =>
    exact hcommit.rel CoreTables.ControlKept.refl (fun _ _ _ => .trans)
      fun _ _ _ _ happly hpolicy => CoreStorageMutation.apply_controlKept happly hpolicy
  | policy happly =>
    intro taskId old hold
    rcases (applyProjectWorkflowPolicyMutation_marks happly).2 taskId with
      hsame | ⟨markedAt, hmarked⟩
    · exact ⟨old, hsame.trans hold, .of_eq rfl rfl rfl⟩
    · rw [hold, Option.map_some] at hmarked
      exact ⟨_, hmarked, controlKept_nextPolicyReevaluation _ markedAt old⟩
  | environment change => cases change <;> exact .refl t
  | idle => exact .refl t

/- What a mark asks for. -/

/-- `mark` asks for no more control and no more acceptance than `next`. -/
def TaskPolicyControlReevaluation.AtMost (mark next : TaskPolicyControlReevaluation) : Prop :=
  mark.requiredEffectiveControlLevel ≤ next.requiredEffectiveControlLevel ∧
    ∀ acceptance ∈ mark.requiredAcceptancePolicy,
      ∃ asked ∈ next.requiredAcceptancePolicy, acceptance.rank ≤ asked.rank

/-- The Task has the control and the acceptance that `mark` asks for. -/
def TaskPolicyControlReevaluation.MetBy (mark : TaskPolicyControlReevaluation) (row : TaskRecord) :
    Prop :=
  mark.requiredEffectiveControlLevel ≤ row.effectiveControlLevel ∧
    ∀ acceptance ∈ mark.requiredAcceptancePolicy, acceptance.rank ≤ row.acceptancePolicy.rank

theorem TaskRecord.ControlKept.mark_atMost {old row : TaskRecord}
    {mark next : TaskPolicyControlReevaluation} (h : old.ControlKept row)
    (hmark : old.policyReevaluation = some mark) (hnext : row.policyReevaluation = some next) :
    mark.AtMost next := by
  have hlevel := h.requiredLevel
  simp only [TaskRecord.requiredLevel, hmark, hnext, Option.map_some, Option.getD_some] at hlevel
  refine ⟨hlevel, fun acceptance hacceptance => ?_⟩
  rcases h.mark with hnone | hsame | ⟨other, asked, hother, hasked⟩
  · cases hnone.symm.trans hnext
  · rw [hmark, hnext] at hsame
    obtain rfl := Option.some.inj hsame
    exact ⟨acceptance, hacceptance, le_rfl⟩
  · obtain rfl := Option.some.inj (hnext.symm.trans hother)
    have hkept := h.requiredAcceptance
    simp only [TaskRecord.requiredAcceptance, hmark, hnext, hasked, Option.bind_some,
      Option.mem_def.mp hacceptance, Option.getD_some] at hkept
    exact ⟨asked, hasked, hkept⟩

theorem TaskRecord.ControlKept.mark_met {old row : TaskRecord}
    {mark : TaskPolicyControlReevaluation} (h : old.ControlKept row)
    (hmark : old.policyReevaluation = some mark) (hnone : row.policyReevaluation = none) :
    mark.MetBy row := by
  constructor
  · simpa [TaskRecord.requiredLevel, hmark, hnone] using h.requiredLevel
  · intro acceptance hacceptance
    simpa [TaskRecord.requiredAcceptance, hmark, hnone, Option.mem_def.mp hacceptance]
      using h.requiredAcceptance

/-- What one event of a run does to the control of a Task. -/
structure TaskControlEvent (old row : TaskRecord) : Prop where
  level : old.effectiveControlLevel ≤ row.effectiveControlLevel
  acceptance : old.acceptancePolicy.rank ≤ row.acceptancePolicy.rank
  replaced : ∀ mark next, old.policyReevaluation = some mark →
    row.policyReevaluation = some next → mark.AtMost next
  removed : ∀ mark, old.policyReevaluation = some mark → row.policyReevaluation = none →
    mark.MetBy row

/-- The policy in force binds what was issued and decided under it: after every event of a run
the active tickets carry its fingerprint, whichever Task they are of; an event that changes the
fingerprint leaves no active ticket; and no event lowers the control or the acceptance of a Task
or drops a mark before the Task has what it asks for. -/
theorem policy_binds (X : External) (projectId createdAt : String) (handles : ι → StoreHandle)
    (ops : List (CoreOp ι)) (e : CoreEvent ι)
    (he : e ∈ Transition.trace (coreStep X) (CoreSystem.initial projectId createdAt handles) ops) :
    (∀ row ∈ e.after.tables.writeTickets.rows, row.status = .active →
      e.after.tables.currentWriteAuthorityFingerprint X
        = .ok row.validityBasis.writeAuthorityFingerprint) ∧
    (e.after.tables.currentWriteAuthorityFingerprint X
        ≠ e.before.tables.currentWriteAuthorityFingerprint X →
      ∀ row ∈ e.after.tables.writeTickets.rows, row.status ≠ .active) ∧
    ∀ taskId old, e.before.tables.taskRow taskId = some old →
      ∃ row, e.after.tables.taskRow taskId = some row ∧ TaskControlEvent old row := by
  obtain ⟨hbound, heffect⟩ := coreTrace_invariant (I := fun t => t.TicketsBound X)
    (C := fun _ _ => True) (fun _ _ h => by cases h)
    (fun _ _ _ heffect _ => coreEffect_ticketsBound heffect) (fun _ _ => trivial) he
  refine ⟨fun row hrow hactive => ?_, fun hchanged row hrow => ?_, fun taskId old hold => ?_⟩
  · exact coreEffect_ticketsBound heffect hbound _ row (Table.find?_of_mem hrow) hactive
  · exact coreEffect_fingerprint_changed heffect hbound hchanged (Table.find?_of_mem hrow)
  · obtain ⟨row, hrow, hkept⟩ := coreEffect_controlKept heffect taskId old hold
    exact ⟨row, hrow, hkept.level, hkept.acceptance, fun _ _ => hkept.mark_atMost,
      fun _ => hkept.mark_met⟩

/-- A direct Task gets a Change Unit over `src` and a ticket for it. -/
def issuedWrite : List (CoreOp Unit) :=
  agentCall (sampleIntake "a" 0 .direct .rejectIfActive [] []) []
  ++ agentCall (sampleScope "a" "u" 1 (some "base") .createCurrent ["src"]) []
  ++ agentCall (sampleWrite "a" "u" "t" 2 ["src"] []) []

theorem policy_binds_issued :
    ∃ e ∈ Transition.trace (coreStep sampleExternal) sampleProject issuedWrite,
      ∃ row ∈ e.after.tables.writeTickets.rows, row.status = .active ∧
        e.after.tables.currentWriteAuthorityFingerprint sampleExternal
          = .ok row.validityBasis.writeAuthorityFingerprint := by
  have hissued : ∃ e ∈ Transition.trace (coreStep sampleExternal) sampleProject issuedWrite,
      ∃ row ∈ e.after.tables.writeTickets.rows, row.status = .active := by
    decide +kernel
  obtain ⟨e, he, row, hrow, hactive⟩ := hissued
  have hrun := he
  rw [sampleProject_eq] at hrun
  have hbinds := policy_binds sampleExternal "project" "x" _ issuedWrite e hrun
  exact ⟨e, he, row, hrow, hactive, hbinds.1 row hrow hactive⟩

end Volicord
