import Volicord.Core.IssuedTickets
import Volicord.Store.TicketSpec

/-! The life of Write Tickets over whole commits. -/
namespace Volicord
open Result Relational CoreTables CoreStorageMutation
variable {X : External} {draft : CoreDraft} {projectId : String} {committedAt : String}
  {input : WriteTicketInsert} {old row : StoredWriteTicket} {id ticketId : String}

namespace CommittedDraft
variable {t t' : CoreTables}

section
variable (h : CommittedDraft X draft committedAt t t')
include h

theorem ticketsEvolve : t.TicketsEvolve committedAt t' := by
  refine h.rel (CoreTables.TicketsEvolve.refl committedAt) (fun _ _ _ => .trans) ?_
  intro s s' mutation _ happly _
  rcases apply_tickets happly with hkept | ⟨_, _, hinserted⟩
  · exact hkept.evolve
  · exact hinserted.evolve

/-- Every row after a commit goes on from one before it, or from one its plan inserts. -/
theorem ticket_cases (hrow : t'.writeTicketRecord id = some row) :
    (∃ old, t.writeTicketRecord id = some old ∧ old.Evolves committedAt row) ∨ ∃ input, .writeTicket
    (.insert input) ∈ draft.plan.mutations ∧ CoreTables.TicketInsertable X draft.context.projectId
    (draft.context.stateVersion + 1) input ∧
    (input.row (draft.context.stateVersion + 1)).Evolves committedAt row := by
  have hcases := h.exists_mutation (H := fun s (row : StoredWriteTicket) =>
      ∃ old, s.writeTicketRecord id = some old ∧ old.Evolves committedAt row)
    (N := fun mutation row => ∃ input, mutation = .writeTicket (.insert input) ∧
      CoreTables.TicketInsertable X draft.context.projectId (draft.context.stateVersion + 1) input ∧
      (input.row (draft.context.stateVersion + 1)).Evolves committedAt row) ?_ ⟨row, hrow, .same⟩
  · rcases hcases with hold | ⟨_, hmem, input, rfl, hinput⟩
    · exact .inl hold
    · exact .inr ⟨input, hmem, hinput⟩
  · rintro s s' mutation row happly ⟨middle, hmiddle, hlater⟩
    rcases apply_tickets happly with hkept | ⟨input, rfl, hinserted⟩
    · obtain ⟨old, hold, hevolves⟩ := hkept.back hmiddle
      exact .inl ⟨old, hold, hevolves.trans hlater⟩
    · rw [hinserted.rows id] at hmiddle
      by_cases hid : input.writeTicketId = id
      · rw [if_pos hid] at hmiddle
        obtain rfl := Option.some.inj hmiddle
        exact .inr ⟨input, rfl, hinserted.insertable, hlater⟩
      · rw [if_neg hid] at hmiddle
        exact .inl ⟨middle, hmiddle, hlater⟩

theorem consume_without_insert {input : WriteTicketConsumption}
    (hconsume : .writeTicket (.consume input) ∈ draft.plan.mutations) :
    ∀ mutation ∈ draft.plan.mutations, ∀ inserted, mutation ≠ .writeTicket (.insert inserted) := by
  rintro _ hmutation inserted rfl
  have hkinds := CoreMethodCall.plan_kinds h.prepared.planned
  have hboth : ∀ method : MethodName, .ticketConsume ∈ method.plannedKinds →
      .ticketInsert ∉ method.plannedKinds := by
    intro method
    cases method <;> decide
  exact hboth _ (hkinds _ hconsume) (hkinds _ hmutation)

end

theorem ticketsKept_of_mutations {context : MutationContext} {version : Nat}
    {mutations : List CoreStorageMutation}
    (h : applyMutations X context version mutations t = .ok t')
    (hnone : ∀ mutation ∈ mutations, ∀ inserted, mutation ≠ .writeTicket (.insert inserted)) :
    t.TicketsKept context.committedAt t' := by
  refine foldlM_rel (CoreTables.TicketsKept.refl context.committedAt) (fun _ _ _ => .trans) ?_ h
  intro s s' mutation hmutation happly
  rcases apply_tickets happly with hkept | ⟨input, heq, _⟩
  · exact hkept
  · exact absurd heq (hnone mutation hmutation input)

theorem consumes (h : CommittedDraft X draft committedAt t t') {input : WriteTicketConsumption}
    (hconsume : .writeTicket (.consume input) ∈ draft.plan.mutations) :
    ∃ old, t.writeTicketRecord input.writeTicketId = some old ∧ old.status = .active ∧
      t'.writeTicketRecord input.writeTicketId = some (old.consumedBy input.runId committedAt) := by
  have hnone := h.consume_without_insert hconsume
  have happlied := h.applied
  obtain ⟨before, after, hsplit⟩ := List.append_of_mem hconsume
  rw [hsplit] at happlied hnone
  obtain ⟨s₁, hfirst, hrest⟩ := applyMutations_append.mp happlied
  obtain ⟨s₂, hconsumed, hlast⟩ := applyMutations_cons.mp hrest
  have hkept₁ := ticketsKept_of_mutations hfirst fun mutation hmutation =>
    hnone mutation (List.mem_append_left _ hmutation)
  have hkept₂ := ticketsKept_of_mutations hlast fun mutation hmutation =>
    hnone mutation (List.mem_append_right _ (List.mem_cons_of_mem _ hmutation))
  have hticket : ∃ ticket, s₁.writeTicketRecord input.writeTicketId = some ticket ∧
      ticket.status = .active ∧ s₂.writeTicketRecord input.writeTicketId
        = some (ticket.consumedBy input.runId committedAt) := by
    have hinverted : s₁.consumeWriteTicket X committedAt input = .ok s₂ := hconsumed
    have hrows := (consumeWriteTicket_ok hinverted).2
    simp only [consumeWriteTicket, steps_ok, Bool.and_eq_true,
      decide_eq_true_eq] at hinverted
    obtain ⟨_, _, _, _, ticket, hticket, _, _, ⟨⟨⟨hactive, _⟩, _⟩, _⟩, _⟩ := hinverted
    refine ⟨ticket, hticket, hactive, ?_⟩
    subst hrows
    have hupdate := Table.find?_update s₁.writeTickets input.writeTicketId
      (·.consumedBy input.runId committedAt) (fun _ => rfl) input.writeTicketId
    rw [if_pos rfl] at hupdate
    exact hupdate.trans (by rw [show s₁.writeTickets.find? _ = _ from hticket]; rfl)
  obtain ⟨ticket, hticket, hactive, hafter⟩ := hticket
  obtain ⟨old, hold, hevolves⟩ := hkept₁.back hticket
  obtain rfl := hevolves.eq_of_active hactive
  refine ⟨ticket, hold, hactive, ?_⟩
  obtain ⟨row, hrow, hlater⟩ := hkept₂.evolve _ _ hafter
  rw [hrow, hlater.eq_of_ended (by simp [StoredWriteTicket.consumedBy])]

end CommittedDraft

/- Whole runs. -/

variable {ι : Type} [DecidableEq ι]

/-- Every ticket is readable, and was not created after the instant the project is at. -/
def ProjectDb.TicketsReadable (X : External) (projectId : String) (db : ProjectDb CoreTables) :
    Prop :=
  ∀ id row, db.aggregates.writeTicketRecord id = some row → row.Readable X projectId ∧
    ∃ now, db.UpdatedAt X now ∧ row.createdAt ≤ now

theorem CoreDraft.Prepared.project_nonblank
    (h : draft.Prepared X) : Text.isBlank draft.context.projectId = false := by
  have henvelope := h.envelope
  have hinvocation := h.invocation
  simp only [validateCommittedEnvelope, steps_ok, Bool.not_eq_true'] at henvelope
  simp only [deriveVerifiedInvocation, steps_ok, decide_eq_true_eq] at hinvocation
  rw [hinvocation.2.1, ← hinvocation.1]
  exact henvelope.1

variable {db db' : ProjectDb CoreTables}

theorem ProjectDb.TicketsReadable.evolve {committedAt : UtcTimestamp}
    (h : db.TicketsReadable X projectId) (hclock : CommitClock X db db' committedAt)
    (hold : db.aggregates.writeTicketRecord id = some old)
    (hevolves : old.Evolves (X.chrono.toCanonicalString committedAt) row) :
    row.Readable X projectId ∧ ∃ now, db'.UpdatedAt X now ∧ row.createdAt ≤ now := by
  obtain ⟨hreadable, now, hnow, hcreated⟩ := h id old hold
  have horder : old.createdAt ≤ committedAt := hcreated.trans (hclock.notBefore now hnow)
  refine ⟨hreadable.evolve hevolves hclock.updated.2 horder, committedAt, hclock.updated, ?_⟩
  rw [hevolves.createdAt_eq]
  exact horder

variable {t t' : CoreTables} {answer : CoreAnswer}

section
variable (h : CommittedDraft X draft committedAt t t')
  (hinput : .writeTicket (.insert input) ∈ draft.plan.mutations)
include h hinput

theorem CommittedDraft.issue_of_insert : ∃ answer, ∃ issue : TicketIssue
    X t answer t', issue.draft = draft ∧ issue.row = input.row (draft.context.stateVersion + 1) :=
    by
  obtain ⟨issue, hissue⟩ : ∃ issue : TicketIssue X t
      (.commit draft (.ok (.committed "" 0 0 []))) t', issue.row = _ :=
    h.ticketIssue ⟨"", 0, 0, [], rfl⟩ hinput
  obtain ⟨_, _, _, _, hanswer⟩ := issue.answered
  exact ⟨_, issue, (CoreAnswer.commit.inj hanswer).1.symm, hissue⟩

theorem CommittedDraft.issued_by : input.createdByActorSource =
    draft.context.invocation.actorSource ∧ input.createdAt = draft.context.now := by
  obtain ⟨_, issue, hdraft, hissue⟩ := h.issue_of_insert hinput
  rw [← hdraft]
  exact ⟨(congrArg StoredWriteTicket.createdByActorSource hissue).symm,
    (congrArg StoredWriteTicket.createdAt hissue).symm⟩

end

theorem coreEffectAt_ticketsReadable (h : CoreEffectAt X projectId db answer db')
    (hdb : db.TicketsReadable X projectId) : db'.TicketsReadable X projectId := by
  cases h with
  | @method draft _ _ committedAt response events hproject hcommit hclock hnow hactor =>
    intro id row hrow
    rcases hcommit.ticket_cases hrow with ⟨old, hold, hevolves⟩ | ⟨input, hmem, hinput, hevolves⟩
    · exact hdb.evolve hclock hold hevolves
    · obtain ⟨hsource, hcreated⟩ := hcommit.issued_by hmem
      have horder : (input.row (draft.context.stateVersion + 1)).createdAt ≤ committedAt :=
        hcreated.le.trans hnow
      have hissued := hinput.readable hcommit.prepared.project_nonblank (hsource ▸ hactor)
      rw [hproject] at hissued
      refine ⟨hissued.evolve hevolves hclock.updated.2 horder, committedAt, hclock.updated, ?_⟩
      rw [hevolves.createdAt_eq]
      exact horder
  | policy happly hclock =>
    intro id row hrow
    obtain ⟨old, hold, hevolves⟩ :=
      (applyProjectWorkflowPolicyMutation_evolve happly).1.back hrow
    exact hdb.evolve hclock hold hevolves
  | environment change => cases change <;> exact hdb
  | idle htables hclock =>
    intro id row hrow
    rw [htables] at hrow
    obtain ⟨hreadable, now, hnow, hcreated⟩ := hdb id row hrow
    obtain ⟨later, hlater, hle⟩ := hclock now hnow
    exact ⟨hreadable, later, hlater, hcreated.trans hle⟩

theorem coreEffectAt_ticketsEvolve (h : CoreEffectAt X projectId db answer db') : ∃ committedAt,
    db.aggregates.TicketsEvolve committedAt db'.aggregates := by
  cases h with
  | method _ hcommit => exact ⟨_, hcommit.ticketsEvolve⟩
  | policy happly =>
    exact ⟨_, (applyProjectWorkflowPolicyMutation_evolve happly).1.evolve⟩
  | environment change => cases change <;> exact ⟨"", .refl _ _⟩
  | idle htables =>
    rw [htables]
    exact ⟨"", .refl _ _⟩

def CoreEventConsumes (e : CoreEvent ι) (ticketId : String) : Prop :=
  ∃ draft response basis committed events,
    e.result = .commit draft (.ok (.committed response basis committed events)) ∧
    ∃ input, .writeTicket (.consume input) ∈ draft.plan.mutations ∧
      input.writeTicketId = ticketId

/-- What an event leaves of a ticket: nothing changes, or an active ticket ends. -/
def StoredWriteTicket.SameOrEnded (old row : StoredWriteTicket) : Prop :=
  row = old ∨ (old.status = .active ∧ (row.status = .consumed ∨ row.status = .invalidated))

theorem StoredWriteTicket.Evolves.sameOrEnded
    (h : old.Evolves committedAt row) : old.SameOrEnded row := by
  cases h with
  | same => exact .inl rfl
  | invalidated hactive => exact .inr ⟨hactive, .inr rfl⟩
  | consumed hactive => exact .inr ⟨hactive, .inl rfl⟩

theorem PrepareWrite.Accepted.insert_last {context : PlanContext} {t : CoreTables}
    {taskId : String} {request : PrepareWriteRequest}
    (accepted : Accepted X context t taskId request ticketId) {admitted : AdmittedTransition}
    (h : .writeTicket (.insert input) ∈ (accepted.plan admitted).mutations) :
    ∃ before, (accepted.plan admitted).mutations = before ++ [.writeTicket (.insert input)] := by
  rcases List.mem_append.mp h with h | h
  · rcases List.mem_append.mp h with h | h
    · have hplanned : Planned _ taskId _ := planned_control accepted.decided _ h
      simp [Planned] at hplanned
    · have hplanned := planned_stale _ taskId _ h
      simp [Planned] at hplanned
  · rcases ticketEffect_ok accepted.effect with hnone | ⟨_, _, paths, _, _, hissued⟩
    · simp [hnone] at h
    · rw [hissued, List.mem_singleton] at h
      rw [h]
      exact ⟨_, congrArg _ hissued⟩

theorem CommittedDraft.inserted_row (h : CommittedDraft X draft committedAt t t')
    (hinput : .writeTicket (.insert input) ∈ draft.plan.mutations) : t'.writeTicketRecord
    input.writeTicketId = some (input.row (draft.context.stateVersion + 1)) := by
  obtain ⟨_, issue, hdraft, _⟩ := h.issue_of_insert hinput
  have hplanned : draft.plan = issue.accepted.plan issue.admitted :=
    (congrArg CoreDraft.plan hdraft).symm.trans issue.planned
  rw [hplanned] at hinput
  obtain ⟨before, hlast⟩ := issue.accepted.insert_last hinput
  have happlied := h.applied
  rw [hplanned, hlast] at happlied
  obtain ⟨s, _, hinsert⟩ := applyMutations_append.mp happlied
  obtain ⟨_, hinsert, hdone⟩ := applyMutations_cons.mp hinsert
  obtain rfl := applyMutations_nil.mp hdone
  have hinserted := insertWriteTicket_ok hinsert
  rw [hinserted.rows, if_pos rfl]

omit [DecidableEq ι] in
theorem CoreEventConsumes.ended {e : CoreEvent ι} (h : CoreEventConsumes e ticketId)
    (heffect : CoreEffectAt X projectId e.before.store.db e.result e.after.store.db) :
    (∃ old, e.before.tables.writeTicketRecord ticketId = some old ∧ old.status = .active) ∧
      ∃ row, e.after.tables.writeTicketRecord ticketId = some row ∧ row.status ≠ .active := by
  obtain ⟨draft, response, basis, committed, events, hresult, input, hinput, rfl⟩ := h
  rw [hresult] at heffect
  obtain ⟨committedAt, hcommit⟩ := heffect.committedDraft
  obtain ⟨old, hold, hactive, hafter⟩ := hcommit.consumes hinput
  exact ⟨⟨old, hold, hactive⟩, _, hafter, by simp [StoredWriteTicket.consumedBy]⟩

/-- Write Tickets over every run of Core from an empty project. After every event each row reads
back as it is, and a consumed one was not consumed before it was created; an event leaves a
ticket alone or ends an active one; a commit that inserts a ticket leaves the row it inserted,
and one that consumes a ticket finds it active; and no two commits consume the same ticket. -/
theorem write_tickets_live_once (X : External) (projectId createdAt : String)
    (handles : ι → StoreHandle) (ops : List (CoreOp ι)) :
    (∀ e ∈ Transition.trace (coreStep X) (CoreSystem.initial projectId createdAt handles) ops,
      (∀ row ∈ e.after.tables.writeTickets.rows,
        decodeWriteTicketRecord X (row.raw X projectId) = .ok row ∧
        ∀ text ∈ row.consumedAt, ∃ consumedAt, X.chrono.parse text = some consumedAt ∧
          row.createdAt ≤ consumedAt) ∧
      (∀ id old, e.before.tables.writeTicketRecord id = some old →
        ∃ row, e.after.tables.writeTicketRecord id = some row ∧ old.SameOrEnded row) ∧
      (∀ draft response basis committed events,
        e.result = .commit draft (.ok (.committed response basis committed events)) →
        ∀ input, .writeTicket (.insert input) ∈ draft.plan.mutations →
          e.after.tables.writeTicketRecord input.writeTicketId
            = some (input.row (draft.context.stateVersion + 1))) ∧
      ∀ id, CoreEventConsumes e id →
        ∃ old, e.before.tables.writeTicketRecord id = some old ∧ old.status = .active) ∧
    (Transition.trace (coreStep X) (CoreSystem.initial projectId createdAt handles) ops).Pairwise
      fun e f => ∀ id, ¬ (CoreEventConsumes e id ∧ CoreEventConsumes f id) := by
  have hinvariant : ∀ e ∈ Transition.trace (coreStep X)
      (CoreSystem.initial projectId createdAt handles) ops,
      e.before.store.db.TicketsReadable X projectId ∧
        CoreEffectAt X projectId e.before.store.db e.result e.after.store.db := by
    intro e he
    exact coreTrace_dbInvariant (fun _ _ h => by cases h)
      (fun _ _ _ heffect => coreEffectAt_ticketsReadable heffect) he
  refine ⟨fun e he => ?_, ?_⟩
  · obtain ⟨hbefore, heffect⟩ := hinvariant e he
    have hafter := coreEffectAt_ticketsReadable heffect hbefore
    refine ⟨fun row hrow => ?_, fun id old hold => ?_, ?_, fun id hconsumes => ?_⟩
    · obtain ⟨hreadable, _⟩ := hafter _ row (Table.find?_of_mem hrow)
      refine ⟨hreadable.decode_raw, fun text htext => ?_⟩
      obtain ⟨consumedAt, rfl, hrange, horder⟩ := hreadable.consumed text htext
      exact ⟨consumedAt, Chrono.parse_of_representable hrange, horder⟩
    · obtain ⟨committedAt, hevolve⟩ := coreEffectAt_ticketsEvolve heffect
      obtain ⟨row, hrow, hevolves⟩ := hevolve id old hold
      exact ⟨row, hrow, hevolves.sameOrEnded⟩
    · intro draft response basis committed events hresult input hinput
      rw [hresult] at heffect
      obtain ⟨_, hcommit⟩ := heffect.committedDraft
      exact hcommit.inserted_row hinput
    · exact (hconsumes.ended heffect).1
  · -- once consumed, a ticket is never active again, and only an active one is consumed
    have hlater := Transition.trace_pairwise_of
      (I := fun s : CoreSystem ι => s.Sound X projectId)
      (R := fun e s => ∀ id, CoreEventConsumes e id →
        ∃ row, s.tables.writeTicketRecord id = some row ∧ row.status ≠ .active)
      coreStep_sound
      (fun s op hs id hconsumes => (hconsumes.ended (hs.effectAt op)).2)
      (fun e s op hs hended id hconsumes => by
        obtain ⟨row, hrow, hstatus⟩ := hended id hconsumes
        obtain ⟨_, hevolve⟩ := coreEffectAt_ticketsEvolve (hs.effectAt op)
        obtain ⟨row', hrow', hevolves⟩ := hevolve id row hrow
        exact ⟨row', hrow', hevolves.eq_of_ended hstatus ▸ hstatus⟩)
      _ ops (CoreSystem.sound_initial X projectId createdAt handles)
    refine hlater.imp_of_mem fun {e f} _ hf hended id hboth => ?_
    obtain ⟨row, hrow, hstatus⟩ := hended id hboth.1
    obtain ⟨old, hold, hactive⟩ := (hboth.2.ended (hinvariant f hf).2).1
    rw [hrow] at hold
    exact hstatus (Option.some.inj hold ▸ hactive)

end Volicord
