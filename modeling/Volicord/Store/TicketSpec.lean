import Volicord.Store.MutationSpec

/-! The life of a Write Ticket row: what any mutation and any policy application can do to it. -/
namespace Volicord
open Result Relational
variable {projectId : String} {X : External} {row : StoredWriteTicket} {input : WriteTicketInsert}

def StoredWriteTicket.consumedBy (runId committedAt : String) (row : StoredWriteTicket) :
    StoredWriteTicket :=
  { row with status := .consumed, consumedByRunId := some runId, consumedAt := some committedAt }

inductive StoredWriteTicket.Evolves (committedAt : String) (old : StoredWriteTicket) :
    StoredWriteTicket → Prop where
  | same : Evolves committedAt old old
  | invalidated (hactive : old.status = .active) (reason : WriteTicketInvalidationReason) :
      Evolves committedAt old (old.invalidated reason)
  | consumed (hactive : old.status = .active) {runId : String}
      (hrun : Text.isBlank runId = false) :
      Evolves committedAt old (old.consumedBy runId committedAt)

namespace StoredWriteTicket.Evolves
variable {committedAt : String} {old middle : StoredWriteTicket}

theorem eq_of_ended (h : old.Evolves committedAt row) (hended : old.status ≠ .active) :
    row = old := by
  cases h with
  | same => rfl
  | invalidated hactive => exact absurd hactive hended
  | consumed hactive => exact absurd hactive hended

theorem eq_of_active (h : old.Evolves committedAt row) (hactive : row.status = .active) :
    row = old := by
  cases h with
  | same => rfl
  | invalidated => cases hactive
  | consumed => cases hactive

theorem trans (h : old.Evolves committedAt middle) (h' : middle.Evolves committedAt row) :
    old.Evolves committedAt row := by
  cases h with
  | same => exact h'
  | invalidated hactive reason =>
    have hended : (old.invalidated reason).status ≠ .active :=
      by simp [StoredWriteTicket.invalidated]
    rw [h'.eq_of_ended hended]
    exact .invalidated hactive reason
  | @consumed hactive runId hrun =>
    have hended : (old.consumedBy runId committedAt).status ≠ .active :=
      by simp [StoredWriteTicket.consumedBy]
    rw [h'.eq_of_ended hended]
    exact .consumed hactive hrun

theorem createdAt_eq (h : old.Evolves committedAt row) : row.createdAt = old.createdAt := by
  cases h <;> rfl

end StoredWriteTicket.Evolves

namespace CoreTables

def TicketsKept (committedAt : String) (t t' : CoreTables) : Prop :=
  ∀ id, Option.Rel (StoredWriteTicket.Evolves committedAt) (t.writeTicketRecord id)
    (t'.writeTicketRecord id)

def TicketsEvolve (committedAt : String) (t t' : CoreTables) : Prop :=
  ∀ id old, t.writeTicketRecord id = some old →
    ∃ row, t'.writeTicketRecord id = some row ∧ old.Evolves committedAt row

variable {context : MutationContext} {committedAt : String} {version : Nat}
  {t t₁ t' : CoreTables} {reevaluated : Option String}

theorem TicketsEvolve.refl (committedAt : String) (t : CoreTables) :
    t.TicketsEvolve committedAt t :=
  fun _ old hold => ⟨old, hold, .same⟩

theorem TicketsEvolve.trans (h : t.TicketsEvolve committedAt t₁)
    (h' : t₁.TicketsEvolve committedAt t') : t.TicketsEvolve committedAt t' := by
  intro id old hold
  obtain ⟨middle, hmiddle, hfirst⟩ := h id old hold
  obtain ⟨row, hrow, hsecond⟩ := h' id middle hmiddle
  exact ⟨row, hrow, hfirst.trans hsecond⟩

namespace TicketsKept
variable {f : StoredWriteTicket → StoredWriteTicket}

theorem evolve (h : t.TicketsKept committedAt t') : t.TicketsEvolve committedAt t' := by
  intro id old hold
  have hrel := h id
  rw [hold] at hrel
  cases hrow : t'.writeTicketRecord id with
  | none =>
    rw [hrow] at hrel
    cases hrel
  | some row =>
    rw [hrow] at hrel
    cases hrel with
    | some hevolves => exact ⟨row, rfl, hevolves⟩

theorem back (h : t.TicketsKept committedAt t') {id : String}
    (hrow : t'.writeTicketRecord id = some row) :
    ∃ old, t.writeTicketRecord id = some old ∧ old.Evolves committedAt row := by
  have hrel := h id
  rw [hrow] at hrel
  cases hold : t.writeTicketRecord id with
  | none =>
    rw [hold] at hrel
    cases hrel
  | some old =>
    rw [hold] at hrel
    cases hrel with
    | some hevolves => exact ⟨old, rfl, hevolves⟩

theorem refl (committedAt : String) (t : CoreTables) : t.TicketsKept committedAt t := by
  intro id
  cases t.writeTicketRecord id with
  | none => exact .none
  | some row => exact .some .same

theorem trans (h : t.TicketsKept committedAt t₁) (h' : t₁.TicketsKept committedAt t') :
    t.TicketsKept committedAt t' := by
  intro id
  cases hrow : t'.writeTicketRecord id with
  | none =>
    cases hold : t.writeTicketRecord id with
    | none => exact .none
    | some old =>
      obtain ⟨middle, hmiddle, _⟩ := h.evolve id old hold
      obtain ⟨row, hsome, _⟩ := h'.evolve id middle hmiddle
      cases hsome.symm.trans hrow
  | some row =>
    obtain ⟨middle, hmiddle, hsecond⟩ := h'.back hrow
    obtain ⟨old, hold, hfirst⟩ := h.back hmiddle
    rw [hold]
    exact .some (hfirst.trans hsecond)

theorem of_rows (h : ∀ id, ∃ f : StoredWriteTicket → StoredWriteTicket,
      t'.writeTicketRecord id = (t.writeTicketRecord id).map f ∧
      ∀ row, t.writeTicketRecord id = some row → row.Evolves committedAt (f row)) :
    t.TicketsKept committedAt t' := by
  intro id
  obtain ⟨f, hrow, hevolves⟩ := h id
  rw [hrow]
  cases hold : t.writeTicketRecord id with
  | none => exact .none
  | some old => exact .some (hevolves old hold)

theorem of_eq (h : t'.writeTickets = t.writeTickets) : t.TicketsKept committedAt t' := by
  refine of_rows fun id => ⟨fun row => row, ?_, fun _ _ => .same⟩
  rw [Option.map_id']
  exact congrArg (·.find? id) h

theorem of_updateWhere {p : StoredWriteTicket → Bool}
    (h : ∃ hf, t'.writeTickets = t.writeTickets.updateWhere p f hf)
    (hevolves : ∀ row, p row → row.Evolves committedAt (f row)) : t.TicketsKept committedAt t' := by
  obtain ⟨hf, h⟩ := h
  refine of_rows fun id => ⟨fun row => if p row then f row else row, ?_, fun row _ => ?_⟩
  · unfold writeTicketRecord
    rw [h, Table.find?_updateWhere]
  · by_cases hp : p row
    · simpa only [hp, if_true] using hevolves row hp
    · simpa only [hp] using .same

theorem of_update {ticketId : String}
    (h : ∃ hf, t'.writeTickets = t.writeTickets.update ticketId f hf)
    (hevolves : ∀ row, t.writeTicketRecord ticketId = some row →
      row.Evolves committedAt (f row)) : t.TicketsKept committedAt t' := by
  obtain ⟨hf, h⟩ := h
  refine of_rows fun id => ?_
  have hrow : t'.writeTicketRecord id = if id = ticketId then (t.writeTicketRecord id).map f
      else t.writeTicketRecord id := by
    unfold writeTicketRecord
    rw [h, Table.find?_update]
  by_cases hid : id = ticketId
  · subst hid
    exact ⟨f, hrow.trans (if_pos rfl), hevolves⟩
  · refine ⟨fun row => row, ?_, fun _ _ => .same⟩
    rw [hrow, if_neg hid, Option.map_id']

end TicketsKept

structure TicketInsertable (X : External) (projectId : String) (version : Nat)
    (input : WriteTicketInsert) : Prop where
  ticketId : Text.isBlank input.writeTicketId = false
  taskId : Text.isBlank input.taskId = false
  changeUnitId : Text.isBlank input.changeUnitId = false
  resolutionId : ∀ id ∈ input.createdByUserActionResolutionId, Text.isBlank id = false
  valid : validateWriteTicketRecord X projectId (input.row version) none = .ok ()

structure TicketInserted (X : External) (projectId : String) (version : Nat)
    (input : WriteTicketInsert) (t t' : CoreTables) : Prop where
  insertable : TicketInsertable X projectId version input
  unused : t.writeTicketRecord input.writeTicketId = none
  rows : ∀ id, t'.writeTicketRecord id =
    if input.writeTicketId = id then some (input.row version) else t.writeTicketRecord id

theorem TicketInserted.evolve
    (h : TicketInserted X projectId version input t t') : t.TicketsEvolve committedAt t' := by
  intro id old hold
  have hid : input.writeTicketId ≠ id := by
    rintro rfl
    rw [h.unused] at hold
    cases hold
  exact ⟨old, (h.rows id).trans ((if_neg hid).trans hold), .same⟩

theorem insertWriteTicket_ok (h : t.insertWriteTicket X projectId version input = .ok t') :
    TicketInserted X projectId version input t t' := by
  simp only [insertWriteTicket, validateIdentifier, steps_ok, mapError_eq_ok, insertRow_ok,
    Bool.not_eq_true'] at h
  obtain ⟨hticket, htask, hunit, _, hresolution, _, hvalid, rows, ⟨_, hinsert⟩, rfl⟩ := h
  refine ⟨⟨hticket, htask, hunit, ?_, hvalid⟩, (Table.insert?_eq_some hinsert).1,
    Table.find?_insert? hinsert⟩
  intro id hid
  rw [Option.mem_def.mp hid] at hresolution
  simpa [validateOptionalIdentifier, validateIdentifier, ensure_eq_ok] using hresolution

theorem writeTicketMutation_tickets {mutation : WriteTicketMutation}
    (h : mutation.apply X context version t = .ok t') : t.TicketsKept context.committedAt t' ∨
    ∃ input, mutation = .insert input ∧ TicketInserted X context.projectId version input t t' := by
  cases mutation with
  | markActiveStale taskId | invalidateActive taskId reason =>
    simp only [WriteTicketMutation.apply, invalidateActiveWriteTickets, steps_ok] at h
    obtain ⟨_, _, rfl⟩ := h
    refine .inl (.of_updateWhere ⟨by exact fun _ => rfl, rfl⟩ fun row hrow => ?_)
    simp only [Bool.and_eq_true, decide_eq_true_eq] at hrow
    exact .invalidated hrow.2 _
  | invalidateById writeTicketId reason =>
    simp only [WriteTicketMutation.apply, invalidateWriteTicket, steps_ok] at h
    obtain ⟨_, _, hactive, rfl⟩ := h
    refine .inl (.of_update ⟨by exact fun _ => rfl, rfl⟩ fun row hrow => ?_)
    rw [hrow, Option.any_some, decide_eq_true_eq] at hactive
    exact .invalidated hactive reason
  | insert input => exact .inr ⟨input, rfl, insertWriteTicket_ok h⟩
  | consume input =>
    simp only [WriteTicketMutation.apply, consumeWriteTicket, validateIdentifier, steps_ok,
      Bool.not_eq_true', Bool.and_eq_true, decide_eq_true_eq] at h
    obtain ⟨_, hrun, ticket, hticket, _, _, ⟨⟨⟨hactive, _⟩, _⟩, _⟩, _, _, _, rfl⟩ := h
    refine .inl (.of_update ⟨by exact fun _ => rfl, rfl⟩ fun row hrow => ?_)
    obtain rfl := Option.some.inj (hticket.symm.trans hrow)
    exact .consumed hactive hrun

theorem mergeActiveTaskPolicyReevaluation_ok {input : ProjectWorkflowPolicyMutation}
    (h : t.mergeActiveTaskPolicyReevaluation X committedAt input = .ok (reevaluated, t')) :
    t' = { t with tasks := t'.tasks } ∧ reevaluated = (t.activeTaskId.bind t.taskRow).map
      (·.taskId) := by
  unfold mergeActiveTaskPolicyReevaluation at h
  cases htask : t.activeTaskId.bind t.taskRow with
  | none =>
    rw [htask] at h
    obtain ⟨rfl, rfl⟩ := Prod.mk.inj (Except.ok.inj h)
    exact ⟨rfl, rfl⟩
  | some task =>
    rw [htask] at h
    simp only [steps_ok, Prod.mk.injEq] at h
    obtain ⟨_, _, rfl, rfl⟩ := h
    exact ⟨rfl, rfl⟩

theorem invalidateIncompatibleWriteTickets_active {fingerprint id : String}
    (h : (t.invalidateIncompatibleWriteTickets fingerprint reevaluated).writeTicketRecord id
      = some row) (hactive : row.status = .active) :
    row.validityBasis.writeAuthorityFingerprint = fingerprint ∧ reevaluated ≠ some row.taskId := by
  have hrow := (Table.find?_updateWhere t.writeTickets (ticketIncompatible fingerprint reevaluated)
    (·.invalidated .explicitRevoke) (fun _ => rfl) id).symm.trans h
  obtain ⟨old, _, heq⟩ := Option.map_eq_some_iff.mp hrow
  split at heq
  · rw [← heq] at hactive
    cases hactive
  · rename_i hcompatible
    subst heq
    simpa [ticketIncompatible, hactive] using hcompatible

/-- A policy application that changes the fingerprint leaves active only tickets that carry the
new one and are not of the active Task. -/
theorem applyProjectWorkflowPolicyMutation_evolve {input : ProjectWorkflowPolicyMutation}
    (h : t.applyProjectWorkflowPolicyMutation X context input = .ok t') :
    t.TicketsKept context.committedAt t' ∧
      ∃ prior resulting, t.currentWriteAuthorityFingerprint X = .ok prior ∧
        t'.currentWriteAuthorityFingerprint X = .ok resulting ∧
        (prior ≠ resulting → ∀ id row, t'.writeTicketRecord id = some row →
          row.status = .active → row.validityBasis.writeAuthorityFingerprint = resulting ∧
          (t.activeTaskId.bind t.taskRow).map (·.taskId) ≠ some row.taskId) := by
  simp only [applyProjectWorkflowPolicyMutation, steps_ok] at h
  obtain ⟨_, _, _, _, prior, hprior, resulting, hresulting, _, h⟩ := h
  by_cases hsame : prior = resulting
  · rw [if_pos hsame] at h
    obtain rfl := pure_eq_ok.mp h
    exact ⟨.of_eq rfl, prior, resulting, hprior, hresulting, fun hne => absurd hsame hne⟩
  · rw [if_neg hsame] at h
    obtain ⟨⟨reevaluated, t₁⟩, hmerged, h⟩ := bind_eq_ok.mp h
    obtain rfl := pure_eq_ok.mp h
    obtain ⟨hrest, rfl⟩ := mergeActiveTaskPolicyReevaluation_ok hmerged
    have htickets : t₁.writeTickets = t.writeTickets := by rw [hrest]
    have hpolicy : t₁.workflowPolicy.map (·.policy) = some input.policy := by rw [hrest]; rfl
    refine ⟨?_, prior, resulting, hprior, ?_, fun _ id row hrow hactive => ?_⟩
    · intro id
      have hrecord : t.writeTicketRecord id = t₁.writeTicketRecord id :=
        congrArg (·.find? id) htickets.symm
      rw [hrecord]
      refine TicketsKept.of_updateWhere ⟨by exact fun _ => rfl, rfl⟩ (fun row hrow => ?_) id
      simp only [ticketIncompatible, Bool.and_eq_true, decide_eq_true_eq] at hrow
      exact .invalidated hrow.1 _
    · unfold currentWriteAuthorityFingerprint
      exact (congrArg _ hpolicy).trans hresulting
    · exact invalidateIncompatibleWriteTickets_active hrow hactive

end CoreTables

theorem CoreStorageMutation.apply_tickets {context : MutationContext}
    {version : Nat} {t t' : CoreTables} {mutation : CoreStorageMutation}
    (h : mutation.apply X context version t = .ok t') :
    t.TicketsKept context.committedAt t' ∨ ∃ input, mutation = .writeTicket (.insert input) ∧
        CoreTables.TicketInserted X context.projectId version input t t' := by
  have honly := apply_only h
  cases mutation with
  | writeTicket mutation =>
    rcases CoreTables.writeTicketMutation_tickets h with hkept | ⟨input, rfl, hinserted⟩
    · exact .inl hkept
    · exact .inr ⟨input, rfl, hinserted⟩
  | workflowPolicy mutation => exact .inl (CoreTables.applyProjectWorkflowPolicyMutation_evolve h).1
  | _ => exact .inl (.of_eq (honly.eq (·.writeTickets) fun _ _ => rfl))

/- Reading a row back. -/

/-- The checks of a record that do not depend on how its ticket has ended, beside those that
do. -/
theorem validateWriteTicketRecord_iff {consumedAt : Option UtcTimestamp} :
    validateWriteTicketRecord X projectId row consumedAt = .ok () ↔
      validateWriteTicketRecord X projectId row.grant none = .ok () ∧
      consumedAt.all X.chrono.ensureCanonicalRfc3339Representable ∧
      consumedAt.all (row.createdAt ≤ ·) = true ∧ row.statusColumnsAreValid := by
  have hgrant : row.grant.statusColumnsAreValid := rfl
  simp only [validateWriteTicketRecord, steps_ok, Bool.and_eq_true, Option.all_none, hgrant]
  simp only [StoredWriteTicket.grant]
  tauto

structure StoredWriteTicket.Readable (X : External) (projectId : String)
    (row : StoredWriteTicket) : Prop where
  project : Text.isBlank projectId = false
  ticketId : Text.isBlank row.writeTicketId = false
  taskId : Text.isBlank row.taskId = false
  changeUnitId : Text.isBlank row.changeUnitId = false
  actor : ActorSource.parse row.createdByActorSource.toCanonicalString
    = some row.createdByActorSource
  resolutionId : ∀ id ∈ row.createdByUserActionResolutionId, Text.isBlank id = false
  runId : ∀ id ∈ row.consumedByRunId, Text.isBlank id = false
  valid : validateWriteTicketRecord X projectId row.grant none = .ok ()
  status : row.statusColumnsAreValid
  consumed : ∀ text ∈ row.consumedAt, ∃ consumedAt,
    text = X.chrono.toCanonicalString consumedAt ∧
      X.chrono.ensureCanonicalRfc3339Representable consumedAt ∧ row.createdAt ≤ consumedAt

theorem decodeOptional_map {α β : Type} {error : StoreError} {decode : α → Option β}
    {encode : β → α} {value : Option β} (h : ∀ b ∈ value, decode (encode b) = some b) :
    decodeOptional error decode (value.map encode) = .ok value := by
  cases value with
  | none => rfl
  | some b =>
    rw [Option.map_some, decodeOptional, h b rfl]
    rfl

theorem decodeOptional_self {error : StoreError} {value : Option String}
    (h : ∀ text ∈ value, Text.isBlank text = false) :
    decodeOptional error nonemptyStoredIdentifier value = .ok value := by
  cases value with
  | none => rfl
  | some text =>
    rw [decodeOptional, nonemptyStoredIdentifier, h text rfl]
    rfl

theorem WriteTicketPathScope.new_self (scope : WriteTicketPathScope) :
    WriteTicketPathScope.new scope.allowed scope.denied = .ok scope := by
  simp only [WriteTicketPathScope.new, scope.allowedNodup, scope.deniedNodup, scope.disjoint,
    dif_pos]

theorem StoredWriteTicket.Readable.decode_raw (h : row.Readable X projectId) :
    decodeWriteTicketRecord X (row.raw X projectId) = .ok row := by
  have hid : ∀ {id : String}, Text.isBlank id = false →
      nonemptyStoredIdentifier id = some id := fun hid => by simp [nonemptyStoredIdentifier, hid]
  have hvalid := h.valid
  simp only [validateWriteTicketRecord, steps_ok] at hvalid
  obtain ⟨_, _, _, _, hcreated, hidle, _⟩ := hvalid
  have hcreatedAt : X.chrono.parse (X.chrono.toCanonicalString row.createdAt)
      = some row.createdAt := Chrono.parse_of_representable hcreated
  have hidleAt : ∀ error, decodeOptional error X.chrono.parse
      (row.idleExpiresAt.map X.chrono.toCanonicalString) = .ok row.idleExpiresAt := by
    refine fun error => decodeOptional_map fun idleExpiresAt hsome => ?_
    refine Chrono.parse_of_representable ?_
    have hidle : row.idleExpiresAt.all X.chrono.ensureCanonicalRfc3339Representable := hidle
    rwa [Option.mem_def.mp hsome] at hidle
  obtain ⟨consumedAt, hconsumed, hchecked⟩ : ∃ consumedAt,
      (∀ error, decodeOptional error X.chrono.parse row.consumedAt = .ok consumedAt) ∧
        validateWriteTicketRecord X projectId row consumedAt = .ok () := by
    cases htext : row.consumedAt with
    | none =>
      exact ⟨none, fun _ => rfl, validateWriteTicketRecord_iff.mpr ⟨h.valid, rfl, rfl, h.status⟩⟩
    | some text =>
      obtain ⟨consumedAt, rfl, hrange, horder⟩ := h.consumed text htext
      refine ⟨some consumedAt, fun error => ?_, validateWriteTicketRecord_iff.mpr
        ⟨h.valid, hrange, decide_eq_true horder, h.status⟩⟩
      rw [decodeOptional, Chrono.parse_of_representable hrange]
      rfl
  simp only [decodeWriteTicketRecord, StoredWriteTicket.raw, hid h.project, hid h.ticketId,
    hid h.taskId, hid h.changeUnitId, WriteTicketPathScope.new_self, h.actor,
    decodeOptional_self h.resolutionId, decodeOptional_self h.runId, hidleAt, hcreatedAt,
    hconsumed, steps_ok, mapError_eq_ok]
  have hdone : ∃ done, validateWriteTicketRecord X projectId row consumedAt = .ok done :=
    ⟨(), hchecked⟩
  simpa using hdone

theorem CoreTables.TicketInsertable.readable {version : Nat}
    (h : TicketInsertable X projectId version input)
    (hproject : Text.isBlank projectId = false)
    (hactor : ActorSource.parse input.createdByActorSource.toCanonicalString
      = some input.createdByActorSource) : (input.row version).Readable X projectId where
  project := hproject
  ticketId := h.ticketId
  taskId := h.taskId
  changeUnitId := h.changeUnitId
  actor := hactor
  resolutionId := h.resolutionId
  runId _ hid := by cases hid
  valid := (validateWriteTicketRecord_iff.mp h.valid).1
  status := rfl
  consumed _ htext := by cases htext

/-- A row stays readable when its ticket ends at an instant that is not before its creation. -/
theorem StoredWriteTicket.Readable.evolve
    {old row : StoredWriteTicket} {committedAt : UtcTimestamp} (h : old.Readable X projectId)
    (hevolves : old.Evolves (X.chrono.toCanonicalString committedAt) row)
    (hrange : X.chrono.ensureCanonicalRfc3339Representable committedAt)
    (horder : old.createdAt ≤ committedAt) : row.Readable X projectId := by
  cases hevolves with
  | same => exact h
  | invalidated hactive reason =>
    have hstatus := h.status
    simp only [statusColumnsAreValid, hactive, Bool.and_eq_true, Option.isNone_iff_eq_none]
      at hstatus
    refine { h with status := ?_ }
    simp [statusColumnsAreValid, StoredWriteTicket.invalidated, hstatus]
  | @consumed hactive runId hrun =>
    have hstatus := h.status
    simp only [statusColumnsAreValid, hactive, Bool.and_eq_true, Option.isNone_iff_eq_none]
      at hstatus
    refine { h with runId := ?_, status := ?_, consumed := ?_ }
    · rintro id ⟨⟩
      exact hrun
    · simp [statusColumnsAreValid, StoredWriteTicket.consumedBy, hstatus]
    · rintro text ⟨⟩
      exact ⟨committedAt, rfl, hrange, horder⟩

end Volicord
