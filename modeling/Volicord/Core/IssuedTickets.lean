import Volicord.Core.PlanSpec

/-! Issued Write Tickets. Every ticket in the tables was granted by a committed `prepare_write`,
and what it grants lies in the scope of its Change Unit for as long as the ticket exists. -/
namespace Volicord
open Result Relational CoreStorageMutation
variable {ι : Type} [DecidableEq ι]
variable {X : External} {t t' : CoreTables} {answer : CoreAnswer} {projectId : String}
  {input : WriteTicketInsert} {unit : ChangeUnitRecord}

structure ChangeUnitRecord.Permits (unit : ChangeUnitRecord) (write : Bool) (paths : List String) :
    Prop where
  bounded : pathsMatchCurrentChangeUnit paths unit
  contract : ∀ contract, unit.effectContract = some contract →
    productWriteViolations contract write paths = .ok []

/-- What it takes that an effect contract has nothing against a product write. -/
theorem productWriteViolations_eq_nil {contract : ChangeUnitEffectContract} {paths : List String} :
    productWriteViolations contract true paths = .ok [] ↔
      contract.forbiddenEffects.contains .productFileWrite = false ∧
      (!contract.allowedEffects.isEmpty
        && !contract.allowedEffects.contains .productFileWrite) = false ∧
      (contract.allowedPaths = [] ∨ paths = [] ∨
        ∃ allowed, parseProductPaths contract.allowedPaths = .ok allowed ∧
          ∀ path ∈ paths, ∃ scope ∈ allowed, pathIsWithin path scope.text) := by
  have hif : ∀ {c : Bool} {violation : EffectContractViolation},
      (if c then [violation] else []) = [] ↔ c = false := by
    intro c violation
    cases c <;> simp
  unfold productWriteViolations
  simp only [Bool.not_true, Bool.false_eq_true, if_false]
  by_cases hempty : (contract.allowedPaths.isEmpty || paths.isEmpty) = true
  · have hnone : contract.allowedPaths = [] ∨ paths = [] := by simpa using hempty
    simp only [hempty, if_true, steps_ok, exists_eq_left', List.append_eq_nil_iff, hif, and_true]
    constructor
    · rintro ⟨hforbidden, hallowed⟩
      exact ⟨hforbidden, hallowed, hnone.imp_right .inl⟩
    · rintro ⟨hforbidden, hallowed, _⟩
      exact ⟨hforbidden, hallowed⟩
  · have hsome : contract.allowedPaths ≠ [] ∧ paths ≠ [] := by simpa using hempty
    simp only [hempty, if_false, Bool.false_eq_true, steps_ok, exists_eq_left',
      List.append_eq_nil_iff, hif]
    constructor
    · rintro ⟨allowed, hparsed, ⟨hforbidden, hallowed⟩, hinside⟩
      exact ⟨hforbidden, hallowed, .inr (.inr ⟨allowed, hparsed, by simpa using hinside⟩)⟩
    · rintro ⟨hforbidden, hallowed, hnone | hnone | ⟨allowed, hparsed, hinside⟩⟩
      · exact absurd hnone hsome.1
      · exact absurd hnone hsome.2
      · exact ⟨allowed, hparsed, ⟨hforbidden, hallowed⟩, by simpa using hinside⟩

theorem ChangeUnitRecord.Permits.of_within {paths changed : List String}
    (h : unit.Permits true paths)
    (hwithin : ∀ path ∈ changed, ∃ scope ∈ paths, pathIsWithin path scope) :
    unit.Permits true changed := by
  constructor
  · have hbounded := h.bounded
    simp only [pathsMatchCurrentChangeUnit, Bool.or_eq_true, List.isEmpty_iff, Bool.and_eq_true,
      List.all_eq_true, List.any_eq_true] at hbounded ⊢
    by_cases hnone : changed = []
    · exact .inl hnone
    obtain ⟨path, hpath⟩ := List.exists_mem_of_ne_nil changed hnone
    obtain ⟨scope, hscope, _⟩ := hwithin path hpath
    obtain ⟨hsome, hall⟩ := hbounded.resolve_left (List.ne_nil_of_mem hscope)
    refine .inr ⟨hsome, fun path hpath => ?_⟩
    obtain ⟨scope, hscope, hin⟩ := hwithin path hpath
    obtain ⟨bound, hbound, hscoped⟩ := hall scope hscope
    exact ⟨bound, hbound, pathIsWithin_trans hin hscoped⟩
  · intro contract hcontract
    obtain ⟨hforbidden, hallowed, hpaths⟩ :=
      productWriteViolations_eq_nil.mp (h.contract contract hcontract)
    refine productWriteViolations_eq_nil.mpr ⟨hforbidden, hallowed, ?_⟩
    rcases hpaths with hnone | rfl | ⟨allowed, hparsed, hall⟩
    · exact .inl hnone
    · refine .inr (.inl (List.eq_nil_iff_forall_not_mem.mpr fun path hpath => ?_))
      obtain ⟨_, hnone, _⟩ := hwithin path hpath
      cases hnone
    · refine .inr (.inr ⟨allowed, hparsed, fun path hpath => ?_⟩)
      obtain ⟨scope, hscope, hin⟩ := hwithin path hpath
      obtain ⟨bound, hbound, hscoped⟩ := hall scope hscope
      exact ⟨bound, hbound, pathIsWithin_trans hin hscoped⟩

namespace PrepareWrite
variable {context : PlanContext} {request : PrepareWriteRequest} {taskId ticketId : String}
  {admitted : AdmittedTransition}

theorem reasonIf_eq_nil {condition : Bool} {category : WriteDecisionCategory}
    {code : WriteTicketDecisionCode} {message : String} :
    reasonIf condition category code message = [] ↔ condition = false := by
  cases condition <;> simp [reasonIf]

structure ScopeClear (context : PlanContext) (t : CoreTables) (task : TaskRecord)
    (changeUnit : ChangeUnitRecord) (request : PrepareWriteRequest) (input : PrepareWriteInput) :
    Prop where
  active : t.activeTaskId.any (· ≠ task.taskId) = false
  intent : request.productFileWriteIntended = !input.intendedPaths.isEmpty
  workspace : workspaceContextMatches changeUnit context.invocation.gitWorkspaceContext
  baseline : baselineMatches changeUnit task request.baselineRef
  permits : changeUnit.Permits request.productFileWriteIntended input.pathTexts

theorem scopeReasons_nil {task : TaskRecord} {changeUnit : ChangeUnitRecord}
    {input : PrepareWriteInput}
    (h : scopeReasons context t task changeUnit request input = .ok []) :
    ScopeClear context t task changeUnit request input := by
  have hclear : ∃ violations : List EffectContractViolation,
      (∀ contract, changeUnit.effectContract = some contract → productWriteViolations contract
        request.productFileWriteIntended input.pathTexts = .ok violations) ∧ violations = [] ∧
      t.activeTaskId.any (· ≠ task.taskId) = false ∧
      decide (request.productFileWriteIntended = input.intendedPaths.isEmpty) = false ∧
      (!workspaceContextMatches changeUnit context.invocation.gitWorkspaceContext) = false ∧
      (!baselineMatches changeUnit task request.baselineRef) = false ∧
      (!pathsMatchCurrentChangeUnit input.pathTexts changeUnit) = false := by
    unfold scopeReasons at h
    cases hcontract : changeUnit.effectContract with
    | none =>
      simp only [hcontract, steps_ok, List.append_eq_nil_iff, reasonIf_eq_nil,
        List.map_eq_nil_iff] at h
      obtain ⟨violations, rfl, ⟨⟨⟨⟨⟨hactive, _⟩, hintent⟩, hworkspace⟩, hbaseline⟩, hpaths⟩, _⟩ := h
      exact ⟨[], by simp, rfl, hactive, hintent, hworkspace, hbaseline, hpaths⟩
    | some contract =>
      simp only [hcontract, steps_ok, List.append_eq_nil_iff, reasonIf_eq_nil,
        List.map_eq_nil_iff] at h
      obtain ⟨violations, hviolations, ⟨⟨⟨⟨⟨hactive, _⟩, hintent⟩, hworkspace⟩, hbaseline⟩, hpaths⟩,
        hnone⟩ := h
      refine ⟨violations, ?_, hnone, hactive, hintent, hworkspace, hbaseline, hpaths⟩
      intro other hother
      obtain rfl := Option.some.inj hother
      exact mapError_eq_ok.mp hviolations
  obtain ⟨_, hcontract, rfl, hactive, hintent, hworkspace, hbaseline, hpaths⟩ := hclear
  refine ⟨hactive, ?_, by simpa using hworkspace, by simpa using hbaseline,
    by simpa using hpaths, hcontract⟩
  cases hwrite : request.productFileWriteIntended <;> simp_all

def Accepted.ticket {taskId : String} {request : PrepareWriteRequest} {ticketId : String}
    (accepted : Accepted X context t taskId request ticketId) (paths : WriteTicketPathScope) :
    WriteTicketInsert :=
  issuedTicket context ticketId accepted.required accepted.scope paths accepted.decision.policy
    accepted.approval

section
variable (accepted : Accepted X context t taskId request ticketId)
  (h : .writeTicket (.insert input) ∈ (accepted.plan admitted).mutations)
include h

/-- The only ticket of an accepted plan is the one it issues, which has passed its own checks. -/
theorem Accepted.insert_mem : accepted.against = [] ∧ accepted.compatible = [] ∧ ∃ paths,
      pathScope accepted.input.intendedPaths [] = .ok paths ∧
      materialize X context (accepted.ticket paths) = .ok () ∧ input = accepted.ticket paths := by
  rcases List.mem_append.mp h with h | h
  · rcases List.mem_append.mp h with h | h
    · have hplanned : Planned _ taskId _ := planned_control accepted.decided _ h
      simp [Planned] at hplanned
    · have hplanned := planned_stale _ taskId _ h
      simp [Planned] at hplanned
  · rcases ticketEffect_ok accepted.effect with
      hnone | ⟨hreasons, hcompatible, paths, hpaths, hvalid, hissued⟩
    · simp [hnone] at h
    · rw [hissued, List.mem_singleton] at h
      exact ⟨hreasons, hcompatible, paths, hpaths, hvalid,
        WriteTicketMutation.insert.inj (writeTicket.inj h)⟩

/-- A ticket is issued when nothing speaks against it and an approval it needs is there. -/
theorem Accepted.issued : ∃ paths, paths.allowed = accepted.input.intendedPaths ∧ paths.denied =
    [] ∧ input = accepted.ticket paths ∧ accepted.reasons = [] ∧
    (accepted.requirement.isRequired → accepted.approval.isSome) := by
  obtain ⟨hreasons, hcompatible, paths, hpaths, _, rfl⟩ := accepted.insert_mem h
  obtain ⟨hallowed, hdenied⟩ := WriteTicketPathScope.new_ok (mapError_eq_ok.mp hpaths)
  simp only [Judged.against, List.append_eq_nil_iff, reasonIf_eq_nil] at hreasons
  refine ⟨paths, hallowed, hdenied, rfl, hreasons.1.1.1, fun hrequired => ?_⟩
  have hmissing := hreasons.1.2
  rw [hcompatible, List.isEmpty_nil, Bool.and_true, hrequired, Bool.true_and] at hmissing
  exact Option.isSome_iff_ne_none.mpr fun hnone => by simp [hnone] at hmissing

end

end PrepareWrite

/-- The commit of an accepted `prepare_write` that issues a ticket. -/
structure TicketIssue (X : External) (t : CoreTables) (answer : CoreAnswer) (t' : CoreTables) where
  draft : CoreDraft
  (committedAt taskId : String)
  request : PrepareWriteRequest
  ticketId : String
  admitted : AdmittedTransition
  accepted : PrepareWrite.Accepted X draft.context draft.snapshot taskId request ticketId
  paths : WriteTicketPathScope
  answered : ∃ response basis committed events,
    answer = .commit draft (.ok (.committed response basis committed events))
  commit : CommittedDraft X draft committedAt t t'
  call : draft.submission.call = .prepareWrite request ticketId
  planned : draft.plan = accepted.plan admitted
  allowed : paths.allowed = accepted.input.intendedPaths
  denied : paths.denied = []
  clear : PrepareWrite.ScopeClear draft.context draft.snapshot accepted.decision.task
    accepted.changeUnit request accepted.input
  approved : accepted.requirement.isRequired → accepted.approval.isSome

def TicketIssue.row {X : External} {t t' : CoreTables} {answer : CoreAnswer}
    (issue : TicketIssue X t answer t') : StoredWriteTicket :=
  (issue.accepted.ticket issue.paths).row (issue.draft.context.stateVersion + 1)

/-- The only plan with a new ticket in it is that of `prepare_write`. -/
theorem CommittedDraft.ticketIssue {draft : CoreDraft} {committedAt : String}
    (h : CommittedDraft X draft committedAt t t')
    (hanswer : ∃ response basis committed events,
      answer = .commit draft (.ok (.committed response basis committed events)))
    (hinput : .writeTicket (.insert input) ∈ draft.plan.mutations) :
    ∃ issue : TicketIssue X t answer t',
      issue.row = input.row (draft.context.stateVersion + 1) := by
  have hplan := h.prepared.planned
  have hkind := CoreMethodCall.plan_kinds hplan _ hinput
  cases hcall : draft.submission.call with
  | prepareWrite request ticketId =>
    rw [hcall] at hplan
    obtain ⟨_, _, hplan⟩ := bind_eq_ok.mp hplan
    obtain ⟨taskId, _, hplan⟩ := bind_eq_ok.mp hplan
    obtain ⟨admitted, _, hplan⟩ := bind_eq_ok.mp hplan
    obtain ⟨accepted, hplanned⟩ := PrepareWrite.plan_ok hplan
    rw [hplanned] at hinput
    obtain ⟨paths, hallowed, hdenied, rfl, hreasons, happroved⟩ := accepted.issued hinput
    have hclear := PrepareWrite.scopeReasons_nil (hreasons ▸ accepted.reasoned)
    exact ⟨⟨draft, committedAt, taskId, request, ticketId, admitted, accepted, paths, hanswer, h,
      hcall, hplanned, hallowed, hdenied, hclear, happroved⟩, rfl⟩
  | _ =>
    rw [hcall] at hkind
    simp [CoreMethodCall.method] at hkind

/-- Every ticket row goes on with a grant there was, or is the one just issued. -/
theorem coreEffect_ticket {row : StoredWriteTicket} (h : CoreEffect X projectId t answer t')
    (hrow : row ∈ t'.writeTickets.rows) : (∃ old ∈ t.writeTickets.rows, old.grant = row.grant) ∨
    ∃ issue : TicketIssue X t answer t', issue.row = row.grant := by
  cases h with
  | @method draft _ _ _ response events _ hcommit =>
    rcases hcommit.exists_mutation
      (H := fun s grant => ∃ row ∈ s.writeTickets.rows, row.grant = grant)
      (N := fun mutation grant => ∃ input, mutation = .writeTicket (.insert input) ∧
        input.row (draft.context.stateVersion + 1) = grant) (fun s s' mutation grant happly h => by
        obtain ⟨row, hrow, rfl⟩ := h
        rcases mem_writeTickets happly hrow with hold | ⟨input, rfl, rfl⟩
        · exact .inl hold
        · exact .inr ⟨input, rfl, rfl⟩) ⟨row, hrow, rfl⟩ with hold | ⟨_, hmem, input, rfl, hgrant⟩
    · exact .inl hold
    · obtain ⟨issue, hissue⟩ := hcommit.ticketIssue ⟨response, _, _, events, rfl⟩ hmem
      exact .inr ⟨issue, hissue.trans hgrant⟩
  | policy happly => exact .inl (CoreTables.applyProjectWorkflowPolicyMutation_tickets happly hrow)
  | environment change => cases change <;> exact .inl ⟨row, hrow, rfl⟩
  | idle => exact .inl ⟨row, hrow, rfl⟩

theorem coreEffect_changeUnits (h : CoreEffect X projectId t answer t')
    (hunit : unit ∈ t.changeUnits.rows) : ∃ status isCurrent,
    { unit with status := status, isCurrent := isCurrent } ∈ t'.changeUnits.rows := by
  cases h with
  | method _ hcommit =>
    refine foldlM_rel (R := fun s s' : CoreTables => ∀ unit ∈ s.changeUnits.rows,
      ∃ status isCurrent, { unit with status := status, isCurrent := isCurrent }
        ∈ s'.changeUnits.rows) (fun _ unit h => ⟨unit.status, unit.isCurrent, h⟩) ?_
      (fun _ _ _ _ happly _ => changeUnits_kept happly) hcommit.applied unit hunit
    intro _ _ _ h₁ h₂ unit hunit
    obtain ⟨_, _, hmiddle⟩ := h₁ unit hunit
    obtain ⟨status, isCurrent, hlast⟩ := h₂ _ hmiddle
    exact ⟨status, isCurrent, hlast⟩
  | policy happly =>
    have honly := (CoreTables.applyProjectWorkflowPolicyMutation_ok happly).1
    exact ⟨unit.status, unit.isCurrent, (honly.eq (·.changeUnits) fun _ _ => rfl) ▸ hunit⟩
  | environment change => cases change <;> exact ⟨unit.status, unit.isCurrent, hunit⟩
  | idle => exact ⟨unit.status, unit.isCurrent, hunit⟩

structure CoreTables.TicketScoped (t : CoreTables) (ticket : StoredWriteTicket) : Prop where
  columns : ticket.taskId = ticket.validityBasis.taskId ∧
    ticket.changeUnitId = ticket.validityBasis.changeUnitId
  allowed : ticket.pathScope.allowed = ticket.attemptScope.intendedPaths
  categories : ∃ raw, ticket.attemptScope.sensitiveCategories = normalizedStringSet raw
  unit : ∃ unit ∈ t.changeUnits.rows, unit.changeUnitId = ticket.validityBasis.changeUnitId ∧
    unit.Permits ticket.attemptScope.productFileWriteIntended
      (ticket.attemptScope.intendedPaths.map (·.text))

def CoreTables.TicketsScoped (t : CoreTables) : Prop :=
  ∀ ticket ∈ t.writeTickets.rows, t.TicketScoped ticket

theorem CoreTables.TicketScoped.later {old row : StoredWriteTicket} (h : t.TicketScoped old)
    (heffect : CoreEffect X projectId t answer t') (hgrant : old.grant = row.grant) :
    t'.TicketScoped row := by
  have hpaths : old.pathScope = row.pathScope := congrArg (·.pathScope) hgrant
  have hscope : old.attemptScope = row.attemptScope := congrArg (·.attemptScope) hgrant
  have hbasis : old.validityBasis = row.validityBasis := congrArg (·.validityBasis) hgrant
  have htask : old.taskId = row.taskId := congrArg (·.taskId) hgrant
  have hunitId : old.changeUnitId = row.changeUnitId := congrArg (·.changeUnitId) hgrant
  obtain ⟨hcolumns, hallowed, hcategories, unit, hunit, hid, hpermits⟩ := h
  rw [htask, hunitId, hbasis] at hcolumns
  rw [hscope] at hallowed hcategories hpermits
  rw [hpaths] at hallowed
  rw [hbasis] at hid
  obtain ⟨status, isCurrent, hkept⟩ := coreEffect_changeUnits heffect hunit
  exact ⟨hcolumns, hallowed, hcategories, _, hkept, hid, ⟨hpermits.bounded, hpermits.contract⟩⟩

theorem TicketIssue.scoped (issue : TicketIssue X t answer t') : t.TicketScoped issue.row where
  columns := ⟨rfl, rfl⟩
  allowed := issue.allowed
  categories := by
    have hnormal := issue.accepted.normalized
    simp only [PrepareWrite.normalize, bind_eq_ok, pure_eq_ok] at hnormal
    obtain ⟨_, _, _, _, hinput⟩ := hnormal
    refine ⟨issue.request.sensitiveCategories, ?_⟩
    exact (congrArg PrepareWriteInput.sensitiveCategories hinput).symm
  unit := by
    have hmem := (CoreTables.currentChangeUnit_mem issue.accepted.unit).1
    rw [issue.commit.snapshot.read (·.changeUnits) fun _ _ => rfl] at hmem
    exact ⟨issue.accepted.changeUnit, hmem, rfl, issue.clear.permits⟩

theorem coreEffect_ticketsScoped (h : CoreEffect X projectId t answer t') (ht : t.TicketsScoped) :
    t'.TicketsScoped := by
  intro row hrow
  rcases coreEffect_ticket h hrow with ⟨old, hold, hgrant⟩ | ⟨issue, hissue⟩
  · exact (ht old hold).later h hgrant
  · refine issue.scoped.later h ?_
    rw [← hissue]
    rfl

/-- A ticket in the tables of a run grants no more than its Change Unit permits. -/
theorem coreTrace_ticketsScoped {projectId createdAt : String}
    {handles : ι → StoreHandle} {ops : List (CoreOp ι)} {e : CoreEvent ι}
    (he : e ∈ Transition.trace (coreStep X) (CoreSystem.initial projectId createdAt handles) ops) :
    e.before.tables.TicketsScoped :=
  (coreTrace_invariant (C := fun _ _ => True) (fun _ h => absurd h List.not_mem_nil)
    (fun _ _ _ heffect _ => coreEffect_ticketsScoped heffect) (fun _ _ => trivial) he).1

end Volicord
