import Mathlib.Data.List.DropRight
import Volicord.Core.PlannedTickets

/-! Tickets as `record_run` finds them. A ticket that `prepare_write` has just handed out is met by
the Run that reports the prepared attempt; what the rule for reuse leaves open is said exactly. -/
namespace Volicord
open Result Relational CoreTables CoreStorageMutation Sorted
variable {task : TaskRecord} {X : External} {ticket : StoredWriteTicket} {t t' : CoreTables}
  {required : WriteTicketValidityBasis} {scope : WriteTicketAttemptScope}
  {taskId ticketId : String} {context : PlanContext} {request : PrepareWriteRequest}
  {mark : TaskPolicyControlReevaluation} {policy : CoreWorkflowPolicy}

/- The level a prepared write settles. -/

/-- The current policy and the mark ask for no more control than the Task has. -/
structure TaskRecord.Settled (policy : CoreWorkflowPolicy) (task : TaskRecord) : Prop where
  policy : (Volicord.effectiveControlLevel task.mode task.requestedControlLevel policy).1
    ≤ task.effectiveControlLevel
  mark : ∀ mark, task.policyReevaluation = some mark → mark.MetBy task

theorem TaskRecord.Settled.resolve (h : task.Settled policy) :
    (resolveTaskControlAuthority task policy).effectiveControlLevel = task.effectiveControlLevel ∧
      (resolveTaskControlAuthority task policy).pendingPolicyReevaluation = false := by
  cases hmark : task.policyReevaluation with
  | none => simpa [resolveTaskControlAuthority, hmark] using h.policy
  | some mark =>
    obtain ⟨hlevel, hacceptance⟩ := h.mark mark hmark
    constructor
    · simp [resolveTaskControlAuthority, hmark, max_eq_left h.policy, max_eq_left hlevel]
    · cases hasked : mark.requiredAcceptancePolicy with
      | none => simpa [resolveTaskControlAuthority, hmark, hasked] using hlevel
      | some asked =>
        simpa [resolveTaskControlAuthority, hmark, hasked] using ⟨hlevel, hacceptance asked hasked⟩

theorem policy_le_resolveTaskControlAuthority (task : TaskRecord) (policy : CoreWorkflowPolicy) :
    (effectiveControlLevel task.mode task.requestedControlLevel policy).1
      ≤ (resolveTaskControlAuthority task policy).effectiveControlLevel := by
  cases hmark : task.policyReevaluation <;> simp [resolveTaskControlAuthority, hmark]

theorem mark_le_resolveTaskControlAuthority (policy : CoreWorkflowPolicy)
    (hmark : task.policyReevaluation = some mark) : mark.requiredEffectiveControlLevel ≤
    (resolveTaskControlAuthority task policy).effectiveControlLevel ∧
    ∀ asked ∈ mark.requiredAcceptancePolicy, asked.rank ≤
    (resolveTaskControlAuthority task policy).acceptancePolicy.rank := by
  refine ⟨by simp [resolveTaskControlAuthority, hmark], fun asked hasked => ?_⟩
  simp only [resolveTaskControlAuthority, hmark, Option.bind_some, Option.mem_def.mp hasked,
    Option.getD_some]
  exact rank_le_maxAcceptancePolicy_right _ _

namespace PrepareWrite
variable {candidates : List PrepareWriteCandidateEvaluation}
  {approval : WriteTicketApprovalAssessment} {decision : PrepareWritePolicyDecision}
  {input : PrepareWriteInput} {approvalRequired : Bool}

theorem le_nextControl (policy : CoreWorkflowPolicy) (resolved : TaskControlLevel)
    (input : PrepareWriteInput) : resolved ≤ nextControl policy resolved input := by
  unfold nextControl
  split
  · exact resolved.le_sensitive
  · split
    · rename_i hlight
      simp only [Bool.and_eq_true, decide_eq_true_eq] at hlight
      rw [hlight.1]
      decide
    · exact le_rfl

theorem rank_le_raised (current next : AcceptancePolicy) : next.rank ≤
    ((if decide (current.rank < next.rank) then some next else none).getD current).rank := by
  by_cases hraised : current.rank < next.rank
  · simp [hraised]
  · simpa [hraised] using Nat.le_of_not_lt hraised

theorem clearSatisfied_met {level : TaskControlLevel} {acceptance : AcceptancePolicy}
    (hlevel : mark.requiredEffectiveControlLevel ≤ level)
    (hasked : ∀ asked ∈ mark.requiredAcceptancePolicy, asked.rank ≤ acceptance.rank) :
    clearSatisfied level acceptance (some mark) = none := by
  have hall : (mark.requiredAcceptancePolicy.all fun asked => asked.rank ≤ acceptance.rank)
      = true := by
    cases hmem : mark.requiredAcceptancePolicy with
    | none => rfl
    | some asked => exact decide_eq_true (hasked asked hmem)
  simp [clearSatisfied, hlevel, hall]

/-- The Task is left as it is, or raised to the level of the decision; either settles it. -/
theorem decidePolicy_settles {t : CoreTables} (h : decidePolicy X t task input = .ok decision) :
    (decision.controlMutations = [] ∧ decision.task = task ∧ task.Settled decision.policy) ∨
    ∃ update : TaskControlLevelUpdate, decision.controlMutations =
    [.task (.updateControlLevel update)] ∧ update.taskId = task.taskId ∧
    update.effectiveControlLevel = decision.task.effectiveControlLevel ∧
    (update.edit task).Settled decision.policy := by
  simp only [decidePolicy, steps_ok, fromStore_eq_ok] at h
  obtain ⟨_, policy, _, _, _, h⟩ := h
  have hnext := le_nextControl policy
    (resolveTaskControlAuthority task policy).effectiveControlLevel
    input
  split at h
  · obtain rfl := pure_eq_ok.mp h
    refine .inr ⟨_, rfl, rfl, rfl, ?_, ?_⟩
    · exact (policy_le_resolveTaskControlAuthority task policy).trans hnext
    · intro mark hmark
      refine absurd hmark ?_
      simp only [TaskControlLevelUpdate.edit]
      cases hstored : task.policyReevaluation with
      | none => simp [clearSatisfied]
      | some stored =>
        obtain ⟨hlevel, hasked⟩ := mark_le_resolveTaskControlAuthority policy hstored
        have hacceptance := rank_le_raised task.acceptancePolicy
          (maxAcceptancePolicy (resolveTaskControlAuthority task policy).acceptancePolicy
            (acceptancePolicyForControl (nextControl policy
              (resolveTaskControlAuthority task policy).effectiveControlLevel input) policy))
        rw [clearSatisfied_met (hlevel.trans hnext) fun asked hmem => (hasked asked hmem).trans
          ((rank_le_maxAcceptancePolicy_left _ _).trans hacceptance)]
        exact fun h => by cases h
  · rename_i hsame
    obtain rfl := pure_eq_ok.mp h
    simp only [Bool.or_eq_true, decide_eq_true_eq, not_or, not_lt] at hsame
    refine .inl ⟨rfl, rfl, ?_, ?_⟩
    · exact ((policy_le_resolveTaskControlAuthority task policy).trans hnext).trans hsame.1.1
    · intro mark hmark
      exact absurd (congrArg Option.isSome hmark) hsame.2

/- What the mutations of a prepared write leave. -/

theorem updateControlLevel_prepared {update : TaskControlLevelUpdate}
    (h : t.updateTaskControlLevel update = .ok t') :
    preparedFrame.Only t t' ∧ t'.writeTickets = t.writeTickets := by
  simp only [updateTaskControlLevel, steps_ok] at h
  obtain ⟨_, _, _, _, _, _, _, _, _, rfl⟩ := h
  exact ⟨rfl, rfl⟩

/-- The Task as a Run finds it after the control mutations of a prepared write. -/
structure ControlApplied (t t' : CoreTables) (taskId : String)
    (decision : PrepareWritePolicyDecision) (row : TaskRecord) : Prop where
  taskRow : t'.taskRow taskId = some row
  level : row.effectiveControlLevel = decision.task.effectiveControlLevel
  revision : row.scopeRevision = decision.task.scopeRevision
  settled : row.Settled decision.policy
  only : preparedFrame.Only t t'
  tickets : t'.writeTickets = t.writeTickets

theorem applyMutations_control {taskId : String} {context : MutationContext} {version : Nat}
    (hrow : t.taskRow taskId = some task) (hdecided : decidePolicy X t task input = .ok decision)
    (h : applyMutations X context version decision.controlMutations t = .ok t') : ∃ row,
    ControlApplied t t' taskId decision row := by
  have hid : task.taskId = taskId := Table.key_of_find? hrow
  rcases decidePolicy_settles hdecided with ⟨hnone, htask, hsettled⟩ | ⟨update, hone, hupdate,
    hlevel, hsettled⟩
  · rw [hnone] at h
    obtain rfl := applyMutations_nil.mp h
    exact ⟨task, hrow, by rw [htask], by rw [htask], hsettled, Frame.Only.refl _ _, rfl⟩
  · rw [hone] at h
    obtain ⟨t₁, happly, hdone⟩ := applyMutations_cons.mp h
    obtain rfl := applyMutations_nil.mp hdone
    obtain ⟨honly, htickets⟩ := updateControlLevel_prepared happly
    refine ⟨update.edit task, ?_, hlevel, (decidePolicy_revision hdecided).symm, hsettled, honly,
      htickets⟩
    rw [apply_taskRow happly rfl taskId]
    simp [taskEffect, TaskEffect.rowAfter, hupdate, hid, hrow]

theorem mem_staleMutations
    {mutation : CoreStorageMutation} (h : mutation ∈ staleMutations candidates) :
    ∃ id reason, mutation = .writeTicket (.invalidateById id reason) ∧
      (.staleApproval id ∈ candidates ∨ .staleWorkspace id ∈ candidates
        ∨ .stalePolicy id ∈ candidates) := by
  simp only [staleMutations, List.mem_append, List.mem_map, List.mem_insertionSort,
    List.mem_filterMap] at h
  obtain (⟨id, ⟨candidate, hmem, hid⟩, rfl⟩ | ⟨id, ⟨candidate, hmem, hid⟩, rfl⟩)
    | ⟨id, ⟨candidate, hmem, hid⟩, rfl⟩ := h <;> cases candidate <;> cases hid <;>
    exact ⟨_, _, rfl, by simp [hmem]⟩

theorem applyMutations_stale {context : MutationContext} {version : Nat}
    (h : applyMutations X context version (staleMutations candidates) t = .ok t') :
    writeTicketFrame.Only t t' ∧
      ∀ id, .staleApproval id ∉ candidates → .staleWorkspace id ∉ candidates →
        .stalePolicy id ∉ candidates → t'.writeTicketRecord id = t.writeTicketRecord id := by
  refine foldlM_rel (R := fun t t' => writeTicketFrame.Only t t' ∧
    ∀ id, .staleApproval id ∉ candidates → .staleWorkspace id ∉ candidates →
      .stalePolicy id ∉ candidates → t'.writeTicketRecord id = t.writeTicketRecord id)
    (fun s => ⟨Frame.Only.refl _ s, fun _ _ _ _ => rfl⟩)
    (fun _ _ _ h₁ h₂ => ⟨h₁.1.trans h₂.1, fun id ha hw hp =>
      (h₂.2 id ha hw hp).trans (h₁.2 id ha hw hp)⟩) ?_ h
  intro s s' mutation hmem happly
  obtain ⟨other, reason, rfl, hstale⟩ := mem_staleMutations hmem
  refine ⟨apply_only happly, fun id ha hw hp => ?_⟩
  have hne : id ≠ other := by
    rintro rfl
    rcases hstale with h | h | h
    · exact ha h
    · exact hw h
    · exact hp h
  simp only [apply, WriteTicketMutation.apply, invalidateWriteTicket,
    steps_ok] at happly
  obtain ⟨_, _, _, rfl⟩ := happly
  exact (Table.find?_update s.writeTickets other (StoredWriteTicket.invalidated reason)
    (by exact fun _ => rfl) id).trans (if_neg hne)

/- The ticket that is handed out. -/

namespace Judged
variable (judged : Judged X context t taskId request)

/-- The id of the ticket an allowed attempt is answered with: the one compatible ticket, or the
new one. -/
def handed (ticketId : String) : Option String :=
  match judged.compatible, judged.against with
  | [ticket], [] => some ticket.writeTicketId
  | [], [] => some ticketId
  | _, _ => none

/-- The attempt can be recorded with the ticket it was answered with: it is of a kind that consumes
one, and a reused ticket was issued for the same operation and the same categories. -/
def Fits : Prop :=
  (request.productFileWriteIntended = true
    ∨ judged.decision.task.effectiveControlLevel = .sensitive) ∧
  ∀ ticket ∈ judged.compatible,
    ticket.attemptScope.intendedOperation = Text.trim request.intendedOperation ∧
    idSetsEqual (normalizedStringSet ticket.attemptScope.sensitiveCategories)
      (normalizedStringSet request.sensitiveCategories) = true

/-- What a ticket has in common with the attempt it is handed out for. -/
structure Covers (row : StoredWriteTicket) : Prop where
  active : row.status = .active
  awake : writeTicketIsIdleExpired row.idleExpiresAt context.now = false
  fingerprint : row.validityBasis.writeAuthorityFingerprint
    = judged.decision.policy.writeAuthorityFingerprint
  basisTask : row.validityBasis.taskId = taskId
  basisChangeUnit : row.validityBasis.changeUnitId = judged.changeUnit.changeUnitId
  basisScopeRevision : row.validityBasis.scopeRevision = judged.decision.task.scopeRevision
  basisBaseline : row.validityBasis.baselineRef = some request.baselineRef
  basisWorkspace : row.validityBasis.workspaceContextSha256
    = workspaceContextSha256 X context.invocation.gitWorkspaceContext
  scopeTask : row.attemptScope.taskId = taskId
  scopeChangeUnit : row.attemptScope.changeUnitId = judged.changeUnit.changeUnitId
  scopeWrite : row.attemptScope.productFileWriteIntended = request.productFileWriteIntended
  scopeBaseline : row.attemptScope.baselineRef = some request.baselineRef
  paths : ∀ path ∈ judged.input.intendedPaths,
    (row.pathScope.allowed.any path.isWithin && !row.pathScope.denied.any path.isWithin) = true
  approval : assessWriteTicketApproval context.projectId
    ⟨judged.decision.task.scopeRevision, judged.decision.task.effectiveControlLevel,
      row.attemptScope, context.now⟩ judged.authorities row.validityBasis.approvalBasisRefs
    ≠ .changed

end Judged

theorem evaluateCandidate_compatible {ticket row : StoredWriteTicket}
    (h : evaluateCandidate required scope approvalRequired approval ticket = .compatible row) :
    row = ticket ∧
      evaluateActiveCandidate required.writeAuthorityFingerprint approval ticket = none ∧
      (ticket.validityBasis.taskId = required.taskId ∧
        ticket.validityBasis.changeUnitId = required.changeUnitId ∧
        ticket.validityBasis.scopeRevision = required.scopeRevision ∧
        ticket.validityBasis.baselineRef = required.baselineRef ∧
        ticket.validityBasis.workspaceContextSha256 = required.workspaceContextSha256) ∧
      (ticket.attemptScope.taskId = scope.taskId ∧
        ticket.attemptScope.changeUnitId = scope.changeUnitId ∧
        ticket.attemptScope.productFileWriteIntended = scope.productFileWriteIntended ∧
        ticket.attemptScope.baselineRef = scope.baselineRef) ∧
      (scope.intendedPaths.all fun path => ticket.pathScope.allowed.any path.isWithin
        && !ticket.pathScope.denied.any path.isWithin) = true := by
  unfold evaluateCandidate at h
  simp only at h
  split at h
  · cases h
  split at h
  · cases h
  split at h
  · cases h
  split at h
  · cases h
  split at h
  · cases h
  split at h
  · cases h
  rename_i hbasis hscope hpaths hworkspace
  simp only [Bool.or_eq_true, decide_eq_true_eq, not_or, not_not, Bool.not_eq_true',
    Bool.not_eq_false] at hbasis hscope hpaths hworkspace
  split at h
  · rename_i hnone
    obtain rfl := PrepareWriteCandidateEvaluation.compatible.inj h
    exact ⟨rfl, hnone, ⟨hbasis.1.1.1, hbasis.1.1.2, hbasis.1.2, hbasis.2, hworkspace⟩,
      ⟨hscope.1.1.1.1, hscope.1.1.1.2, hscope.1.1.2, hscope.1.2⟩, hpaths⟩
  · cases h
  · cases h

theorem evaluateCandidate_stale {id : String}
    (h : evaluateCandidate required scope approvalRequired approval ticket = .staleApproval id ∨
      evaluateCandidate required scope approvalRequired approval ticket = .staleWorkspace id ∨
      evaluateCandidate required scope approvalRequired approval ticket = .stalePolicy id) :
    ticket.writeTicketId = id := by
  unfold evaluateCandidate at h
  simp only at h
  repeat' split at h
  all_goals simp_all

namespace Judged
variable (judged : Judged X context t taskId request)

theorem candidate_cases {candidate : PrepareWriteCandidateEvaluation}
    (h : candidate ∈ judged.candidates) :
    ∃ ticket ∈ t.writeTickets.rows, ticket.status = .active ∧
      (candidate = .incompatible ∨ writeTicketIsIdleExpired ticket.idleExpiresAt context.now = false
        ∧ candidate = judged.evaluation ticket) := by
  obtain ⟨ticket, hticket, rfl⟩ := List.mem_map.mp h
  obtain ⟨hmem, hactive⟩ := List.mem_filter.mp hticket
  simp only [Bool.and_eq_true, decide_eq_true_eq] at hactive
  refine ⟨ticket, hmem, hactive.2, ?_⟩
  cases hidle : writeTicketIsIdleExpired ticket.idleExpiresAt context.now with
  | true => exact .inl rfl
  | false => exact .inr ⟨rfl, rfl⟩

section
variable (h : ticket ∈ judged.compatible)
include h

theorem compatible_row : ticket ∈ t.writeTickets.rows ∧ ticket.status = .active ∧
      writeTicketIsIdleExpired ticket.idleExpiresAt context.now = false ∧
      judged.evaluation ticket = .compatible ticket := by
  obtain ⟨candidate, hmem, hcompatible⟩ := List.mem_filterMap.mp h
  cases candidate with
  | compatible row =>
    obtain rfl := Option.some.inj hcompatible
    obtain ⟨found, hfound, hactive, hnone | ⟨hawake, heval⟩⟩ := judged.candidate_cases hmem
    · cases hnone
    · obtain ⟨rfl, _⟩ := evaluateCandidate_compatible heval.symm
      exact ⟨hfound, hactive, hawake, heval.symm⟩
  | _ => cases hcompatible

theorem covers_compatible : judged.Covers ticket := by
  obtain ⟨_, hactive, hawake, heval⟩ := judged.compatible_row h
  obtain ⟨_, hcurrent, ⟨h₁, h₂, h₃, h₄, h₅⟩, ⟨h₆, h₇, h₈, h₉⟩, hpaths⟩ :=
    evaluateCandidate_compatible heval
  have hfingerprint : ticket.validityBasis.writeAuthorityFingerprint
      = judged.required.writeAuthorityFingerprint := by
    by_contra hne
    simp [evaluateActiveCandidate, hne] at hcurrent
  refine ⟨hactive, hawake, hfingerprint, h₁, h₂, h₃, h₄, h₅, h₆, h₇, h₈, h₉,
    List.all_eq_true.mp hpaths, fun hchanged => ?_⟩
  simp [evaluateActiveCandidate, hfingerprint, hchanged] at hcurrent

theorem compatible_not_stale : .staleApproval ticket.writeTicketId ∉ judged.candidates ∧
      .staleWorkspace ticket.writeTicketId ∉ judged.candidates ∧
      .stalePolicy ticket.writeTicketId ∉ judged.candidates := by
  obtain ⟨hrow, _, _, heval⟩ := judged.compatible_row h
  have hsame : ∀ candidate ∈ judged.candidates, ∀ id,
      candidate = .staleApproval id ∨ candidate = .staleWorkspace id ∨ candidate = .stalePolicy id →
      ticket.writeTicketId ≠ id := by
    rintro candidate hmem id hstale rfl
    obtain ⟨other, hother, _, rfl | ⟨_, rfl⟩⟩ := judged.candidate_cases hmem
    · rcases hstale with h | h | h <;> cases h
    · have hid := evaluateCandidate_stale hstale
      have hrows : t.writeTickets.find? ticket.writeTicketId = some other :=
        hid ▸ Table.find?_of_mem hother
      obtain rfl := Option.some.inj (hrows.symm.trans (Table.find?_of_mem hrow))
      rw [heval] at hstale
      rcases hstale with h | h | h <;> cases h
  exact ⟨fun h => hsame _ h _ (.inl rfl) rfl, fun h => hsame _ h _ (.inr (.inl rfl)) rfl,
    fun h => hsame _ h _ (.inr (.inr rfl)) rfl⟩

end

theorem covers_issued {paths : WriteTicketPathScope}
    (hagainst : judged.against = []) (hnone : judged.compatible = [])
    (hpaths : pathScope judged.scope.intendedPaths [] = .ok paths)
    (hvalid : materialize X context
      (issuedTicket context ticketId judged.required judged.scope paths
      judged.decision.policy judged.approval) = .ok ()) (version : Nat) :
    judged.Covers ((issuedTicket context ticketId judged.required judged.scope paths
      judged.decision.policy judged.approval).row version) := by
  obtain ⟨hallowed, hdenied⟩ := WriteTicketPathScope.new_ok (mapError_eq_ok.mp hpaths)
  have hplanned := mapError_eq_ok.mp hvalid
  simp only [validatePlanned, steps_ok, Bool.not_eq_true', decide_eq_true_eq,
    Bool.and_eq_true] at hplanned
  obtain ⟨_, _, _, _, _, _, _, _, _, _, _, _, _, _, ⟨⟨horder, _⟩, _⟩, _, hinside, _⟩ := hplanned
  have hrequired : (judged.requirement.isRequired && judged.approval.isNone) = false := by
    simp only [against, List.append_eq_nil_iff, reasonIf_eq_nil, hnone, List.isEmpty_nil,
      Bool.and_true] at hagainst
    exact hagainst.1.2
  refine ⟨rfl, ?_, rfl, rfl, rfl, rfl, rfl, rfl, rfl, rfl, rfl, rfl, ?_, ?_⟩
  · cases hidle : idleExpiresAt judged.decision.policy context.now with
    | none => simp [issuedTicket, WriteTicketInsert.row, hidle, writeTicketIsIdleExpired]
    | some expires =>
      simp only [issuedTicket, hidle, Option.all_some, decide_eq_true_eq] at horder
      simpa [issuedTicket, WriteTicketInsert.row, hidle, writeTicketIsIdleExpired] using horder
  · exact List.all_eq_true.mp hinside
  · cases happroval : judged.approval with
    | none =>
      rw [happroval] at hrequired
      have hnot : judged.requirement.isRequired = false := by simpa using hrequired
      change assessWriteTicketApproval _ judged.requirement _ _ ≠ _
      simp [issuedTicket, WriteTicketInsert.row, assessWriteTicketApproval, hnot]
    | some resolutionId =>
      have hmem : resolutionId ∈ judged.requirement.resolutionIds judged.authorities :=
        List.mem_of_head? happroval
      change assessWriteTicketApproval _ judged.requirement _ _ ≠ _
      have hcovers : judged.requirement.coversRef context.projectId judged.authorities
          ⟨resolutionId, context.projectId, taskId, context.stateVersion⟩ := by
        simp [WriteTicketApprovalRequirement.coversRef, hmem]
        rfl
      simp [issuedTicket, WriteTicketInsert.row, assessWriteTicketApproval, hcovers, required]

end Judged
end PrepareWrite

/- The Run that reports the attempt. -/

theorem RecordRunRequest.normalize_attempt {raw request : RecordRunRequest}
    (h : raw.normalize = .ok request) : request.performedOperation =
    raw.performedOperation.map Text.trim ∧ request.observedChanges.sensitiveCategories =
    normalizedStringSet raw.observedChanges.sensitiveCategories := by
  simp only [RecordRunRequest.normalize, steps_ok] at h
  obtain ⟨_, _, _, _, _, _, _, _, rfl⟩ := h
  exact ⟨rfl, rfl⟩

/-- The Run reports exactly the prepared attempt, with the ticket it was answered with. -/
structure RecordRunRequest.Reports (run : RecordRunRequest) (write : PrepareWriteRequest)
    (taskId changeUnitId ticketId : String) : Prop where
  task : run.taskId = taskId
  changeUnit : run.changeUnitId = changeUnitId
  baseline : run.baselineRef = write.baselineRef
  ticket : run.writeTicketId = some ticketId
  operation : run.performedOperation = some write.intendedOperation
  categories : run.observedChanges.sensitiveCategories = write.sensitiveCategories
  paths : run.observedChanges.changedPaths = write.intendedPaths
  write : run.observedChanges.productFileWriteObserved = write.productFileWriteIntended

namespace PrepareWrite.Judged
variable (judged : Judged X context t taskId request)

/-- The facts of a Run that follows on the attempt, in the state the attempt has left. -/
structure Follows (handed : String) (next : PlanContext) (t' : CoreTables)
    (run : RecordRunRequest) (facts : RecordRun.Facts) : Prop where
  project : next.projectId = context.projectId
  now : next.now = context.now
  workspace : next.invocation.gitWorkspaceContext = context.invocation.gitWorkspaceContext
  task : run.taskId = taskId
  changeUnit : run.changeUnitId = judged.changeUnit.changeUnitId
  baseline : run.baselineRef = request.baselineRef
  ticket : run.writeTicketId = some handed
  operation : run.performedOperation = some (Text.trim request.intendedOperation)
  write : run.observedChanges.productFileWriteObserved = request.productFileWriteIntended
  categories : run.observedChanges.sensitiveCategories
    = normalizedStringSet request.sensitiveCategories
  paths : run.observedChanges.changedPaths
    = sortDedup (judged.input.intendedPaths.map (·.text))
  intent : request.productFileWriteIntended = !judged.input.intendedPaths.isEmpty
  level : facts.task.effectiveControlLevel = judged.decision.task.effectiveControlLevel
  revision : facts.task.scopeRevision = judged.decision.task.scopeRevision
  control : facts.control.effectiveControlLevel = facts.task.effectiveControlLevel
  settled : facts.control.pendingPolicyReevaluation = false
  policy : facts.policy = judged.decision.policy
  matched : workspaceContextMatches facts.changeUnit next.invocation.gitWorkspaceContext
  authorities : t'.resolvedSensitiveApprovals context.now taskId = .ok judged.authorities

variable {handed : String} {next : PlanContext} {t' : CoreTables} {run : RecordRunRequest}
  {facts : RecordRun.Facts} {row : StoredWriteTicket}

/-- Of all a ticket is compared on, only the operation and the categories are left open. -/
theorem Follows.attemptMatches_iff (h : judged.Follows handed next t' run facts)
    (hcovers : judged.Covers row) : (RecordRun.writeAdmission next run facts).AttemptMatches X row ↔
    row.attemptScope.intendedOperation = Text.trim request.intendedOperation ∧ idSetsEqual
    (normalizedStringSet row.attemptScope.sensitiveCategories)
    (normalizedStringSet request.sensitiveCategories) := by
  have hchanged : ∀ path ∈ run.observedChanges.changedPaths,
    ∃ intended ∈ judged.input.intendedPaths,
      intended.text = path := by
    intro path hpath
    rw [h.paths, mem_sortDedup] at hpath
    exact List.mem_map.mp hpath
  constructor
  · intro hmatches
    have hoperation := hmatches.scopeOperation
    have hcategories := hmatches.scopeCategories
    simp only [RecordRun.writeAdmission, h.operation, Option.all_some, Bool.and_eq_true,
      decide_eq_true_eq] at hoperation
    simp only [RecordRun.writeAdmission, h.categories] at hcategories
    exact ⟨hoperation.1.symm, hcategories⟩
  · rintro ⟨hoperation, hcategories⟩
    refine ⟨hcovers.basisTask.trans h.task.symm, hcovers.basisChangeUnit.trans h.changeUnit.symm,
      hcovers.basisScopeRevision.trans h.revision.symm,
      hcovers.basisBaseline.trans (congrArg some h.baseline.symm), ?_,
      hcovers.scopeTask.trans h.task.symm, hcovers.scopeChangeUnit.trans h.changeUnit.symm,
      hcovers.scopeWrite.trans h.write.symm,
      hcovers.scopeBaseline.trans (congrArg some h.baseline.symm), ?_, ?_, ?_, ?_⟩
    · rw [hcovers.basisWorkspace]
      exact congrArg (workspaceContextSha256 X) h.workspace.symm
    · simp [RecordRun.writeAdmission, h.operation, hoperation]
    · exact h.categories ▸ hcategories
    · change (!run.observedChanges.productFileWriteObserved || pathsAreAuthorized
        run.observedChanges.changedPaths (row.pathScope.allowed.map (·.text))) = true
      cases hwrite : run.observedChanges.productFileWriteObserved with
      | false => rfl
      | true =>
        have hsome : judged.input.intendedPaths ≠ [] := by
          have hintent := h.intent
          rw [← h.write, hwrite] at hintent
          simpa using hintent.symm
        obtain ⟨first, hfirst⟩ := List.exists_mem_of_ne_nil _ hsome
        have hallowed : ∀ path ∈ run.observedChanges.changedPaths,
            ∃ allowed ∈ row.pathScope.allowed.map (·.text), pathIsWithin path allowed := by
          intro path hpath
          obtain ⟨intended, hintended, rfl⟩ := hchanged path hpath
          have hinside := hcovers.paths intended hintended
          simp only [Bool.and_eq_true, List.any_eq_true] at hinside
          obtain ⟨⟨allowed, hallowed, hwithin⟩, _⟩ := hinside
          exact ⟨allowed.text, List.mem_map_of_mem hallowed, by rwa [pathIsWithin_text]⟩
        have hpath : first.text ∈ run.observedChanges.changedPaths := by
          rw [h.paths, mem_sortDedup]
          exact List.mem_map_of_mem hfirst
        obtain ⟨allowed, hmem, _⟩ := hallowed _ hpath
        simp only [pathsAreAuthorized, Bool.not_true, Bool.false_or, Bool.and_eq_true,
          Bool.not_eq_true', List.isEmpty_eq_false_iff, List.all_eq_true, List.any_eq_true]
        exact ⟨⟨List.ne_nil_of_mem hpath, List.ne_nil_of_mem hmem⟩, hallowed⟩
    · change (run.observedChanges.changedPaths.any fun path =>
        row.pathScope.denied.any fun denied => pathIsWithin path denied.text) = false
      rw [List.any_eq_false]
      intro path hpath
      obtain ⟨intended, hintended, rfl⟩ := hchanged path hpath
      have hinside := hcovers.paths intended hintended
      simp only [Bool.and_eq_true, Bool.not_eq_true'] at hinside
      simpa only [pathIsWithin_text, Bool.not_eq_true] using hinside.2

end PrepareWrite.Judged

/- The refusals of `validate_record_run_attempt`. -/

def RefusesTicket (result : CoreResult Unit) : Prop :=
  ∀ error, result = .error error → ∃ reason message, error = writeTicketInvalid reason message

theorem refusesTicket_ensure (condition : Bool) (reason : WriteTicketInvalidReason)
    (message : String) : RefusesTicket (ensure condition (writeTicketInvalid reason message)) :=
  fun _ h => ⟨reason, message, (ensure_eq_error.mp h).2.symm⟩

theorem refusesTicket_bind {first : CoreResult Unit} {rest : Unit → CoreResult Unit}
    (hfirst : RefusesTicket first) (hrest : ∀ u, RefusesTicket (rest u)) :
    RefusesTicket (first >>= rest) := by
  intro error h
  rcases bind_eq_error.mp h with h | ⟨u, _, h⟩
  · exact hfirst error h
  · exact hrest u error h

theorem RecordRunWriteAdmission.validateAttempt_refuses (admission : RecordRunWriteAdmission)
    (X : External) (ticket : StoredWriteTicket) :
    RefusesTicket (admission.validateAttempt X ticket) := by
  unfold validateAttempt checkAttemptScope
  repeat' first
    | exact refusesTicket_ensure _ _ _
    | refine refusesTicket_bind ?_ fun _ => ?_

namespace PrepareWrite.Judged
variable (judged : Judged X context t taskId request)
  {handed : String} {next : PlanContext} {t' : CoreTables} {run : RecordRunRequest}
  {facts : RecordRun.Facts} {row : StoredWriteTicket}

theorem Follows.admitTicket (h : judged.Follows handed next t' run facts)
    (hcovers : judged.Covers row) (hrow : t'.writeTicketRecord handed = some row) :
    if (request.productFileWriteIntended
        ∨ judged.decision.task.effectiveControlLevel = .sensitive) ∧
      row.attemptScope.intendedOperation = Text.trim request.intendedOperation ∧
      idSetsEqual (normalizedStringSet row.attemptScope.sensitiveCategories)
        (normalizedStringSet request.sensitiveCategories)
    then RecordRun.admitTicket X next t' run facts = .ok (some row)
    else ∃ reason message, RecordRun.admitTicket X next t' run facts
      = .error (writeTicketInvalid reason message) := by
  have hkind : (run.observedChanges.productFileWriteObserved
      || facts.control.effectiveControlLevel = .sensitive) = true ↔
      (request.productFileWriteIntended
        ∨ judged.decision.task.effectiveControlLevel = .sensitive) := by
    rw [h.write, h.control, h.level, Bool.or_eq_true, decide_eq_true_eq]
  have hactive : activeRecordRunCandidate row next.now = .ok () := by
    simp [activeRecordRunCandidate, hcovers.active, h.now, hcovers.awake, ensure]
  have hfingerprint : row.validityBasis.writeAuthorityFingerprint
      = (RecordRun.writeAdmission next run facts).writeAuthorityFingerprint :=
    hcovers.fingerprint.trans (congrArg (·.writeAuthorityFingerprint) h.policy.symm)
  by_cases hconsumes : request.productFileWriteIntended
      ∨ judged.decision.task.effectiveControlLevel = .sensitive
  · have hticketDecision : RecordRun.admitTicket X next t' run facts
        = ((RecordRun.writeAdmission next run facts).evaluate X next t' row >>= fun _ =>
          pure (some row)) := by
      rw [RecordRun.admitTicket, if_pos (hkind.mpr hconsumes)]
      simp only [h.ticket, okOr, ok_bind, h.settled, ensure, Bool.not_false, if_true, hrow, hactive]
    rw [hticketDecision]
    by_cases hmatches : (RecordRun.writeAdmission next run facts).AttemptMatches X row
    · have hfits := (h.attemptMatches_iff judged hcovers).mp hmatches
      rw [if_pos ⟨hconsumes, hfits⟩]
      have happroval : assessWriteTicketApproval next.projectId
          ((RecordRun.writeAdmission next run facts).approvalRequirement row) judged.authorities
          row.validityBasis.approvalBasisRefs ≠ .changed := by
        have hsame : (RecordRun.writeAdmission next run facts).approvalRequirement row
            = ⟨judged.decision.task.scopeRevision, judged.decision.task.effectiveControlLevel,
              row.attemptScope, context.now⟩ := by
          simp [RecordRunWriteAdmission.approvalRequirement, RecordRun.writeAdmission, h.revision,
            h.level, h.now]
        rw [hsame, h.project]
        exact hcovers.approval
      have hauthorities : t'.resolvedSensitiveApprovals
          (RecordRun.writeAdmission next run facts).observedAt
          (RecordRun.writeAdmission next run facts).taskId = .ok judged.authorities := by
        change t'.resolvedSensitiveApprovals next.now run.taskId = _
        rw [h.now, h.task]
        exact h.authorities
      rw [((RecordRun.writeAdmission next run facts).evaluate_eq_ok (u := ())).mpr
        ⟨judged.authorities, h.matched, hfingerprint, hmatches, hauthorities, happroval⟩]
      rfl
    · rw [if_neg fun hfits => hmatches ((h.attemptMatches_iff judged hcovers).mpr hfits.2)]
      cases hattempt : (RecordRun.writeAdmission next run facts).validateAttempt X row with
      | ok u =>
        exact absurd (((RecordRun.writeAdmission next run facts).validateAttempt_eq_ok).mp hattempt)
          hmatches
      | error error =>
        obtain ⟨reason, message, rfl⟩ :=
          (RecordRun.writeAdmission next run facts).validateAttempt_refuses X row _ hattempt
        have hmatched := h.matched
        refine ⟨reason, message, ?_⟩
        simp only [RecordRunWriteAdmission.evaluate, ensure, hfingerprint, decide_true, if_true,
          ok_bind, hattempt, error_bind]
        rw [show workspaceContextMatches (RecordRun.writeAdmission next run facts).changeUnit
          (RecordRun.writeAdmission next run facts).gitWorkspaceContext = true from hmatched]
        rfl
  · rw [if_neg fun hfits => hconsumes hfits.1]
    refine ⟨.incompatible, "write_ticket_id is only consumed for an observed product-file write "
      ++ "or an effective sensitive Task", ?_⟩
    rw [RecordRun.admitTicket, if_neg fun hc => hconsumes (hkind.mp hc)]
    simp only [h.ticket, ensure, Option.isNone_some, Bool.false_eq_true, if_false]
    rfl

end PrepareWrite.Judged

/- Trimmed texts. -/

theorem dropWhile_append_singleton {α : Type} {p : α → Bool} {a : α} (ha : p a = false)
    (l : List α) : ∃ start, (l ++ [a]).dropWhile p = start ++ [a] := by
  induction l with
  | nil => exact ⟨[], by simp [ha]⟩
  | cons x l ih =>
    cases hx : p x with
    | true => simpa [hx] using ih
    | false => exact ⟨x :: l, by simp [hx]⟩

theorem dropWhile_cases {α : Type} (p : α → Bool) (l : List α) :
    l.dropWhile p = [] ∨ ∃ a rest, l.dropWhile p = a :: rest ∧ p a = false := by
  induction l with
  | nil => exact .inl rfl
  | cons x l ih =>
    cases hx : p x with
    | true => simpa [hx] using ih
    | false => exact .inr ⟨x, l, by simp [hx], hx⟩

theorem Text.trim_trim (text : String) : Text.trim (Text.trim text) = Text.trim text := by
  simp only [Text.trim, String.toList_ofList]
  congr 1
  rcases dropWhile_cases Text.isWhitespace text.toList with hnone | ⟨a, rest, hsome, ha⟩
  · simp [hnone]
  · obtain ⟨start, hstart⟩ := dropWhile_append_singleton ha rest.reverse
    simp only [hsome, List.reverse_cons, hstart, List.reverse_append, List.reverse_nil,
      List.nil_append, List.singleton_append, List.dropWhile_cons, ha, List.reverse_reverse,
      Bool.false_eq_true, if_false]
    rw [← hstart, List.dropWhile_idempotent, hstart, List.reverse_append]
    rfl

theorem mem_normalizedStringSet {text : String} {values : List String} :
    text ∈ normalizedStringSet values ↔
      (∃ value ∈ values, Text.trim value = text) ∧ text.isEmpty = false := by
  simp only [normalizedStringSet, mem_sortDedup, List.mem_filter, List.mem_map,
    Bool.not_eq_true']

theorem normalizedStringSet_normalized (values : List String) : idSetsEqual
    (normalizedStringSet (normalizedStringSet values)) (normalizedStringSet values) := by
  simp only [idSetsEqual, Bool.and_eq_true, List.all_eq_true, List.contains_iff_mem]
  constructor
  · intro text htext
    obtain ⟨⟨value, hvalue, rfl⟩, hsome⟩ := mem_normalizedStringSet.mp htext
    obtain ⟨⟨raw, hraw, rfl⟩, _⟩ := mem_normalizedStringSet.mp hvalue
    rw [Text.trim_trim]
    exact hvalue
  · intro text htext
    obtain ⟨⟨raw, hraw, rfl⟩, hsome⟩ := mem_normalizedStringSet.mp htext
    exact mem_normalizedStringSet.mpr ⟨⟨_, htext, Text.trim_trim raw⟩, hsome⟩

namespace PrepareWrite

theorem ticketEffect_issue {context : PlanContext} {t : CoreTables} {approval : Option String}
    {result : String × List CoreStorageMutation}
    (h : ticketEffect X context t ticketId required scope policy approval [] [] = .ok result) :
    ∃ paths, pathScope scope.intendedPaths [] = .ok paths ∧
      materialize X context (issuedTicket context ticketId required scope paths policy approval)
        = .ok () ∧
      result.2 = [.writeTicket (.insert
        (issuedTicket context ticketId required scope paths policy approval))] := by
  simp only [ticketEffect, steps_ok] at h
  obtain ⟨_, _, paths, hpaths, _, _, _, hvalid, rfl⟩ := h
  exact ⟨paths, hpaths, hvalid, rfl⟩

namespace Judged
variable (judged : Judged X context t taskId request) {admitted : AdmittedTransition}
  {plan : OperationPlan}

/-- The state after the commit of an attempt that was answered with a ticket. -/
structure Left (handed : String) (t' : CoreTables) (row : StoredWriteTicket) (task : TaskRecord) :
    Prop where
  clear : judged.against = []
  covers : judged.Covers row
  record : t'.writeTicketRecord handed = some row
  fits : judged.Fits ↔ (request.productFileWriteIntended
      ∨ judged.decision.task.effectiveControlLevel = .sensitive) ∧
    row.attemptScope.intendedOperation = Text.trim request.intendedOperation ∧
    idSetsEqual (normalizedStringSet row.attemptScope.sensitiveCategories)
      (normalizedStringSet request.sensitiveCategories)
  taskRow : t'.taskRow taskId = some task
  level : task.effectiveControlLevel = judged.decision.task.effectiveControlLevel
  revision : task.scopeRevision = judged.decision.task.scopeRevision
  settled : task.Settled judged.decision.policy
  only : preparedFrame.Only t t'

theorem input_eq : ∃ paths, parseProductPaths request.intendedPaths = .ok paths ∧
    judged.input = ⟨Text.trim request.intendedOperation, paths,
      normalizedStringSet request.sensitiveCategories⟩ := by
  have hnormal := judged.normalized
  simp only [normalize, steps_ok, mapError_eq_ok] at hnormal
  obtain ⟨_, paths, hpaths, hinput⟩ := hnormal
  exact ⟨paths, hpaths, hinput.symm⟩

theorem compatible_of_issued
    (hplan : PrepareWrite.plan X context t taskId request ticketId admitted = .ok plan)
    (hissued : plan.eventKind = "write_ticket_issued") :
    judged.compatible = [] ∧ judged.handed ticketId = some ticketId := by
  rw [judged.plan_eq] at hplan
  obtain ⟨_, _, hplan⟩ := bind_eq_ok.mp hplan
  obtain ⟨result, heffect, rfl⟩ := map_eq_ok.mp hplan
  change result.1 = "write_ticket_issued" at hissued
  unfold Judged.effect ticketEffect at heffect
  split at heffect
  · obtain rfl := Except.ok.inj heffect
    exact absurd hissued (by decide)
  · rename_i hcompatible hclear
    exact ⟨hcompatible, by simp only [Judged.handed, hcompatible, hclear]⟩
  · simp only [steps_ok] at heffect
    obtain ⟨_, _, rfl⟩ := heffect
    exact absurd hissued (by decide)

theorem exists_left {ticketId handed : String} {committedAt : String} {t' : CoreTables}
    (hplan : PrepareWrite.plan X context t taskId request ticketId admitted = .ok plan)
    (hhanded : judged.handed ticketId = some handed)
    (happlied : applyMutations X ⟨context.projectId, committedAt⟩ (context.stateVersion + 1)
      plan.mutations t = .ok t') :
    ∃ row task, judged.Left handed t' row task := by
  rw [judged.plan_eq] at hplan
  obtain ⟨_, _, hplan⟩ := bind_eq_ok.mp hplan
  obtain ⟨result, heffect, rfl⟩ := map_eq_ok.mp hplan
  obtain ⟨t₂, hbefore, hticket⟩ := applyMutations_append.mp happlied
  obtain ⟨t₁, hcontrol, hstale⟩ := applyMutations_append.mp hbefore
  obtain ⟨task, hcontrolled⟩ := applyMutations_control (taskRecord_ok judged.record).1
    judged.decided hcontrol
  obtain ⟨honly, hkept⟩ := applyMutations_stale hstale
  have hsecond : preparedFrame.Only t t₂ := hcontrolled.only.trans (honly.mono fun _ _ => rfl)
  have htask : t₂.taskRow taskId = some task :=
    (taskRow_congr (honly.eq (·.tasks) fun _ _ => rfl) taskId).trans hcontrolled.taskRow
  unfold Judged.handed at hhanded
  unfold Judged.effect at heffect
  split at hhanded
  · rename_i ticket hcompatible hclear
    obtain rfl := Option.some.inj hhanded
    rw [hcompatible, hclear] at heffect
    obtain rfl := Except.ok.inj heffect
    obtain rfl := applyMutations_nil.mp hticket
    have hmem : ticket ∈ judged.compatible := by rw [hcompatible]; exact List.mem_singleton_self _
    obtain ⟨happroval, hworkspace, hpolicy⟩ := judged.compatible_not_stale hmem
    refine ⟨ticket, task, hclear, judged.covers_compatible hmem, ?_, ?_, htask, hcontrolled.level,
      hcontrolled.revision, hcontrolled.settled, hsecond⟩
    · rw [hkept _ happroval hworkspace hpolicy, writeTicketRecord, hcontrolled.tickets]
      exact Table.find?_of_mem (judged.compatible_row hmem).1
    · simp only [Fits, hcompatible, List.mem_singleton, forall_eq]
  · rename_i hcompatible hclear
    obtain rfl := Option.some.inj hhanded
    rw [hcompatible, hclear] at heffect
    obtain ⟨paths, hpaths, hvalid, hissued⟩ := ticketEffect_issue heffect
    rw [hissued] at hticket
    obtain ⟨_, hinsert, hdone⟩ := applyMutations_cons.mp hticket
    obtain rfl := applyMutations_nil.mp hdone
    have hlast := apply_only hinsert
    have hinserted := insertWriteTicket_ok hinsert
    refine ⟨_, task, hclear, judged.covers_issued hclear hcompatible hpaths hvalid
      (context.stateVersion + 1), ?_, ?_,
      (taskRow_congr (hlast.eq (·.tasks) fun _ _ => rfl) taskId).trans htask,
      hcontrolled.level, hcontrolled.revision, hcontrolled.settled,
      hsecond.trans (hlast.mono fun _ _ => rfl)⟩
    · rw [hinserted.rows]
      exact if_pos rfl
    · obtain ⟨parsed, _, hinput⟩ := judged.input_eq
      have hnormal := normalizedStringSet_normalized request.sensitiveCategories
      simp [Fits, hcompatible, issuedTicket, WriteTicketInsert.row, scope, attemptScope, hinput,
        hnormal]
  · cases hhanded

end Judged
end PrepareWrite

/-- An attempt that is answered with a ticket, the state its commit leaves, and the Run that
reports it there at the same instant. The ticket admits the Run exactly if the attempt fits it,
and otherwise it is refused for a reason of the ticket. -/
theorem handed_ticket_refused_iff (X : External) {context next : PlanContext} {t t' : CoreTables}
    {taskId : String} {write : PrepareWriteRequest} {ticketId handed : String}
    {admitted : AdmittedTransition} {plan : OperationPlan} {committedAt : String}
    {run request : RecordRunRequest} {facts : RecordRun.Facts}
    (judged : PrepareWrite.Judged X context t taskId write)
    (hplan : PrepareWrite.plan X context t taskId write ticketId admitted = .ok plan)
    (hhanded : judged.handed ticketId = some handed)
    (happlied : applyMutations X ⟨context.projectId, committedAt⟩ (context.stateVersion + 1)
      plan.mutations t = .ok t')
    (hproject : next.projectId = context.projectId) (hnow : next.now = context.now)
    (hworkspace : next.invocation.gitWorkspaceContext = context.invocation.gitWorkspaceContext)
    (hreports : run.Reports write taskId judged.changeUnit.changeUnitId handed)
    (hnormal : run.normalize = .ok request)
    (hfacts : RecordRun.acquireFacts X next t' request = .ok facts) :
    ((∃ ticket, RecordRun.admitTicket X next t' request facts = .ok (some ticket)
        ∧ ticket.writeTicketId = handed) ↔ judged.Fits) ∧
      ((∃ reason message, RecordRun.admitTicket X next t' request facts
        = .error (writeTicketInvalid reason message)) ↔ ¬ judged.Fits) := by
  obtain ⟨row, task, hleft⟩ := judged.exists_left hplan hhanded happlied
  obtain ⟨htask, hunit, hbaseline, hticket, _, hwrite, _, ⟨paths, hparsed, hchanged⟩, _⟩ :=
    RecordRunRequest.normalize_ok hnormal
  obtain ⟨hoperation, hcategories⟩ := RecordRunRequest.normalize_attempt hnormal
  obtain ⟨parsed, hintended, hinput⟩ := judged.input_eq
  have hacquired := RecordRun.acquireFacts_ok hfacts
  have hpolicy : facts.policy = judged.decision.policy := by
    have hread := hacquired.policy
    rw [hleft.only.eq (·.projectWorkflowPolicy X) fun _ _ => rfl,
      PrepareWrite.decidePolicy_policy judged.decided] at hread
    exact (Except.ok.inj hread).symm
  have hfactsTask : facts.task = task := by
    have hrow := (CoreTables.taskRecord_ok hacquired.record).1
    rw [htask, hreports.task] at hrow
    exact Option.some.inj (hrow.symm.trans hleft.taskRow)
  have hfactsUnit : facts.changeUnit = judged.changeUnit := by
    have hrow := hacquired.changeUnit
    obtain ⟨hmem, hown⟩ := CoreTables.currentChangeUnit_mem judged.unit
    rw [htask, hreports.task, hunit, hreports.changeUnit,
      hleft.only.eq (·.changeUnitRecord taskId judged.changeUnit.changeUnitId) fun _ _ => rfl,
      CoreTables.changeUnitRecord, Table.find?_of_mem hmem] at hrow
    exact (Option.some.inj ((Option.filter_eq_some_iff.mp hrow).1)).symm
  have hclear : PrepareWrite.ScopeClear context t judged.decision.task judged.changeUnit write
      judged.input := by
    have hreasons := hleft.clear
    simp only [PrepareWrite.Judged.against, List.append_eq_nil_iff] at hreasons
    exact PrepareWrite.scopeReasons_nil (hreasons.1.1.1 ▸ judged.reasoned)
  obtain ⟨hcontrol, hpending⟩ := hleft.settled.resolve
  have hfollows : judged.Follows handed next t' request facts := by
    refine ⟨hproject, hnow, hworkspace, htask.trans hreports.task,
      hunit.trans hreports.changeUnit, hbaseline.trans hreports.baseline,
      hticket.trans hreports.ticket, by rw [hoperation, hreports.operation]; rfl,
      hwrite.trans hreports.write, by rw [hcategories, hreports.categories], ?_, hclear.intent,
      hfactsTask ▸ hleft.level, hfactsTask ▸ hleft.revision, ?_, ?_, hpolicy, ?_, ?_⟩
    · rw [hreports.paths, hintended] at hparsed
      rw [hchanged, ← Except.ok.inj hparsed, hinput]
    · rw [hacquired.control, hpolicy, hfactsTask, hcontrol]
    · rw [hacquired.control, hpolicy, hfactsTask, hpending]
    · rw [hfactsUnit, hworkspace]
      exact hclear.workspace
    · rw [hleft.only.eq (·.resolvedSensitiveApprovals context.now taskId) fun _ _ => rfl]
      exact judged.authoritiesRead
  have hadmits := hfollows.admitTicket judged hleft.covers hleft.record
  split at hadmits
  · rename_i hfits
    rw [hleft.fits, hadmits]
    refine ⟨⟨fun _ => hfits, fun _ => ⟨row, rfl, ?_⟩⟩, ⟨?_, fun hnot => absurd hfits hnot⟩⟩
    · exact Table.key_of_find? hleft.record
    · rintro ⟨_, _, herror⟩
      cases herror
  · rename_i hnot
    obtain ⟨reason, message, herror⟩ := hadmits
    rw [hleft.fits, herror]
    refine ⟨⟨?_, fun hfits => absurd hfits hnot⟩, ⟨fun _ => hnot, fun _ => ⟨reason, message, rfl⟩⟩⟩
    rintro ⟨_, hok, _⟩
    cases hok

def handedRun : RecordRunRequest where
  envelope := sampleEnvelope (some "a") "run r" (some 3)
  taskId := "a"
  changeUnitId := "u"
  kind := .direct
  runId := some "r"
  baselineRef := "base"
  writeTicketId := some "t"
  performedOperation := some "edit"
  summary := "done"
  observedChanges := ⟨["src/lib.rs"], true, [], some "base"⟩
  artifactInputs := []
  evidenceUpdates := []
  evidenceObservations := []
  closeAssessment := none

def handedContext : PlanContext := { plannedContext with stateVersion := 3 }

/-- The plan of `plannedWrite`, the tables it leaves, and what `handedRun` finds there. -/
def handedFacts (t : CoreTables) :
    CoreResult (OperationPlan × CoreTables × RecordRunRequest × RecordRun.Facts) := do
  let (_, plan, _) ← plannedTickets t
  let after ← fromStore (applyMutations sampleExternal ⟨"project", "x"⟩ 3 plan.mutations t)
  let request ← handedRun.normalize
  let facts ← RecordRun.acquireFacts sampleExternal handedContext after request
  return (plan, after, request, facts)

theorem handed_ticket_refused_iff_sample :
    ∃ judged : PrepareWrite.Judged sampleExternal plannedContext plannedProject.tables "a"
        plannedWrite,
      ∃ after request facts, ∃ ticket : StoredWriteTicket, judged.Fits ∧
        RecordRun.admitTicket sampleExternal handedContext after request facts
          = .ok (some ticket) ∧ ticket.writeTicketId = "t" := by
  have hrun : (handedFacts plannedProject.tables).toOption.any
        (·.1.eventKind = "write_ticket_issued") = true ∧
      (plannedProject.tables.currentChangeUnit "a").map (·.map (·.changeUnitId))
        = .ok (some "u") := by
    decide +kernel
  obtain ⟨hrun, hunit⟩ := hrun
  cases hfound : handedFacts plannedProject.tables with
  | error error => rw [hfound] at hrun; exact absurd hrun Bool.false_ne_true
  | ok found =>
    rw [hfound] at hrun
    simp only [handedFacts, plannedTickets, steps_ok, fromStore_eq_ok] at hfound
    obtain ⟨_, ⟨admitted, _, plan, hplan, rfl⟩, after, happlied, request, hnormal, facts, hfacts,
      rfl⟩ := hfound
    obtain ⟨accepted, _⟩ := PrepareWrite.plan_ok hplan
    let judged := accepted.toJudged
    obtain ⟨hnone, hhanded⟩ := judged.compatible_of_issued hplan (of_decide_eq_true hrun)
    rw [judged.unit] at hunit
    have hfits : judged.Fits := ⟨.inl rfl, by rw [hnone]; exact fun _ h => by cases h⟩
    have hreports : handedRun.Reports plannedWrite "a" judged.changeUnit.changeUnitId "t" :=
      ⟨rfl, (Option.some.inj (Except.ok.inj hunit)).symm, rfl, rfl, rfl, rfl, rfl, rfl⟩
    obtain ⟨ticket, hadmitted, hid⟩ :=
      (handed_ticket_refused_iff sampleExternal judged hplan hhanded
      happlied rfl rfl rfl hreports hnormal hfacts).1.mpr hfits
    exact ⟨judged, after, request, facts, ticket, hfits, hadmitted, hid⟩

/-- A write prepared as an edit, and then prepared again as a rename. -/
def renamedWrite : List (CoreOp Unit) :=
  scopedTask ++ agentCall (sampleWrite "a" "u" "t" 2 ["src/lib.rs"] []) []
  ++ agentCall (.prepareWrite { plannedWrite with
      envelope := sampleEnvelope (some "a") "write v" (some 3)
      intendedOperation := "rename" } "v") []

/-- The rename is answered with the ticket of the edit, and the Run that reports it is refused. -/
theorem reused_ticket_refused :
    let s := Transition.run (coreStep sampleExternal) sampleProject renamedWrite
    (s.tables.writeTickets.rows.map fun row => (row.writeTicketId, row.status))
        = [("t", .active)] ∧
      (s.store.db.authorityEvents.map (·.eventType)).getLast? = some "write_ticket_reused" ∧
      (coreStep sampleExternal s (.prepare () (sampleSubmission
        (.agentConnection "agent" "project" "host") .agentWorkflow
        (.recordRun { handedRun with
            envelope := sampleEnvelope (some "a") "run r" (some 4)
            performedOperation := some "rename" } ⟨"r", [], [], [], "summary r",
              []⟩) []))).1.refusal
        = some (.rejectedAt .writeTicketInvalid "operation_mismatch"
          "performed operation does not exactly match the write ticket operation") := by
  decide +kernel

end Volicord
