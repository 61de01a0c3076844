import Volicord.Core.Baselines
import Volicord.Lib.Framing

/-! What the digest of an authority event tells apart. -/
namespace Volicord
open Result Framing

/-- The texts `authority_event_hash` frames, in order. -/
def AuthorityEventRow.hashedFields (row : AuthorityEventRow) : List String :=
  [row.projectId, toString row.eventSeq, row.eventId, toString row.stateVersion, row.eventType,
    row.actorSource, row.operationCategory, row.taskId.getD "", row.changeUnitId.getD "",
    row.payloadJson, row.requestHash, row.previousEventHash.getD "", row.createdAt]

theorem hashField_toList (field : String) :
    (hashField field).toList = lengthFramed ['\n'] field := by
  simp [hashField, lengthFramed]

theorem authorityEventPreimage_toList (row : AuthorityEventRow) :
    (authorityEventPreimage row).toList = row.hashedFields.flatMap (lengthFramed ['\n']) := by
  simp [authorityEventPreimage, AuthorityEventRow.hashedFields, hashField_toList]

/-- The framed texts can be told apart, whatever digits, colons and line ends they contain. -/
theorem authorityEventPreimage_eq_iff {a b : AuthorityEventRow} :
    authorityEventPreimage a = authorityEventPreimage b ↔ a.hashedFields = b.hashedFields := by
  rw [← String.toList_inj, authorityEventPreimage_toList, authorityEventPreimage_toList]
  constructor
  · intro h
    exact (lengthFramed_selfDelimiting ['\n']).flatMap_eq rfl h
  · intro h
    rw [h]

/-- An event as a commit writes it: its input and the context passed their checks, and the previous
hash, where there is one, was stored and so is not blank. -/
structure AcceptedEvent (X : External) (row : AuthorityEventRow) : Prop where
  built : ∃ (batch : EventBatch) (context : VerifiedReplayContext) (eventSeq : Int)
    (previous : Option String) (event : PendingTaskEvent),
    row = batch.row X eventSeq previous event ∧
    batch.actorSource = context.actorSource.toCanonicalString ∧
    batch.operationCategory = context.operationCategory.asStr ∧
    context.validate X = .ok () ∧ validatePendingEvent X event = .ok ()
  previous : row.previousEventHash.all sqlNonblank

variable {X : External} {row : AuthorityEventRow}

theorem validatePendingEvent_task {event : PendingTaskEvent}
    (h : validatePendingEvent X event = .ok ()) : event.taskId ≠ some "" := by
  intro htask
  simp only [validatePendingEvent, bind_eq_ok, htask] at h
  obtain ⟨_, _, _, htaskId, _⟩ := h
  simp [validateIdentifier, Text.isBlank] at htaskId

section
variable (h : AcceptedEvent X row)
include h

theorem AcceptedEvent.task : row.taskId ≠ some "" := by
  obtain ⟨batch, _, eventSeq, previous, event, rfl, _, _, _, hevent⟩ := h.built
  exact validatePendingEvent_task hevent

theorem AcceptedEvent.previous_ne : row.previousEventHash ≠ some "" := by
  intro hprevious
  have hblank := h.previous
  rw [hprevious] at hblank
  revert hblank
  decide

theorem AcceptedEvent.hash : row.eventHash = authorityEventHash X row := by
  obtain ⟨batch, _, eventSeq, previous, event, rfl, _⟩ := h.built
  rfl

end

theorem getD_eq_iff {a b : Option String} (ha : a ≠ some "") (hb : b ≠ some "") :
    a.getD "" = b.getD "" ↔ a = b := by
  cases a with
  | none =>
    cases b with
    | none => simp
    | some y =>
      simp only [Option.getD_none, Option.getD_some, reduceCtorEq, iff_false]
      intro h
      exact hb (congrArg some h.symm)
  | some x =>
    cases b with
    | none =>
      simp only [Option.getD_none, Option.getD_some, reduceCtorEq, iff_false]
      intro h
      exact ha (congrArg some h)
    | some y => simp

/-- An accepted event in a database whose Change Units were inserted with validated ids. -/
structure StoredEvent (X : External) (row : AuthorityEventRow) : Prop extends
    AcceptedEvent X row where
  constraints : ∃ db : ProjectDb CoreTables, (∀ unit ∈ db.aggregates.changeUnits.rows,
      validateIdentifier "change_unit_id" unit.changeUnitId = .ok ()) ∧
    eventConstraintsHold coreReaders db row = true

/-- The foreign key leaves no room for the empty text. -/
theorem StoredEvent.unit_ne (h : StoredEvent X row) : row.changeUnitId ≠ some "" := by
  intro hunit
  obtain ⟨db, hids, hholds⟩ := h.constraints
  simp only [eventConstraintsHold, Bool.and_eq_true, hunit] at hholds
  obtain ⟨⟨_, htask⟩, hkeys⟩ := hholds
  cases hrow : row.taskId with
  | none => split_ifs at htask <;> simp [hrow] at htask
  | some taskId =>
    rw [hrow] at hkeys
    obtain ⟨unit, hfound⟩ := Option.isSome_iff_exists.mp (Bool.and_eq_true_iff.mp hkeys).2
    have hfind := (Option.filter_eq_some_iff.mp hfound).1
    have hvalid := hids unit (Relational.Table.mem_of_find? hfind)
    rw [Relational.Table.key_of_find? hfind] at hvalid
    simp [validateIdentifier, Text.isBlank] at hvalid

/-- Events that a database with validated Change Units holds have one pre-image only if they are
the same in every column. -/
theorem stored_preimages_eq_iff (X : External) (a b : AuthorityEventRow) (ha : StoredEvent X a)
    (hb : StoredEvent X b) : authorityEventPreimage a = authorityEventPreimage b ↔ a = b := by
  refine ⟨fun h => ?_, fun h => by rw [h]⟩
  have hfields := authorityEventPreimage_eq_iff.mp h
  simp only [AuthorityEventRow.hashedFields, List.cons.injEq, and_true,
    toString_int_injective.eq_iff, getD_eq_iff ha.task hb.task, getD_eq_iff ha.unit_ne hb.unit_ne,
    getD_eq_iff ha.previous_ne hb.previous_ne] at hfields
  have hhash : a.eventHash = b.eventHash := by
    rw [ha.hash, hb.hash, authorityEventHash, authorityEventHash, h]
  cases a
  cases b
  simp_all

variable (changeUnitId : Option String)

def unitEventRow : AuthorityEventRow :=
  EventBatch.row sampleExternal ⟨"project", 3, "local_user", "user_only", "h", "xx"⟩ 3 none
    ⟨"event", some "a", changeUnitId, "task_created", "o)"⟩

theorem unitEvent_accepted : AcceptedEvent sampleExternal (unitEventRow changeUnitId) := by
  refine ⟨⟨⟨"project", 3, "local_user", "user_only", "h", "xx"⟩,
    ⟨.localUser, .userOnly, none, none⟩,
    3, none, ⟨"event", some "a", changeUnitId, "task_created", "o)"⟩, rfl, ?_, ?_, ?_, ?_⟩, rfl⟩
  · decide +kernel
  · decide +kernel
  · decide +kernel
  · have hnone : validatePendingEvent sampleExternal
        ⟨"event", some "a", none, "task_created", "o)"⟩ = .ok () := by decide +kernel
    simpa [validatePendingEvent] using hnone

theorem stored_preimages_eq_iff_sample :
    StoredEvent sampleExternal (unitEventRow none) ∧
    StoredEvent sampleExternal (unitEventRow (some "u")) ∧
    authorityEventPreimage (unitEventRow none) ≠ authorityEventPreimage
      (unitEventRow (some "u")) := by
  have hstored : ∀ id ∈ [none, some "u"], StoredEvent sampleExternal (unitEventRow id) := by
    intro id hid
    refine ⟨unitEvent_accepted id, (Transition.run (coreStep sampleExternal) sampleProject
      scopedTask).store.db, by decide +kernel, ?_⟩
    revert id
    decide +kernel
  have hnone := hstored none (by decide)
  have hunit := hstored (some "u") (by decide)
  refine ⟨hnone, hunit, fun h => ?_⟩
  have hsame := (stored_preimages_eq_iff sampleExternal _ _ hnone hunit).mp h
  exact absurd (congrArg AuthorityEventRow.changeUnitId hsame) (by decide)

/-- No check of an event tells an absent Change Unit from one with an empty name. -/
theorem absent_unit_hashed_as_empty :
    AcceptedEvent sampleExternal (unitEventRow none) ∧
    AcceptedEvent sampleExternal (unitEventRow (some "")) ∧
    authorityEventPreimage (unitEventRow none) = authorityEventPreimage (unitEventRow (some "")) ∧
    unitEventRow none ≠ unitEventRow (some "") :=
  ⟨unitEvent_accepted none, unitEvent_accepted (some ""), by decide +kernel,
    fun h => absurd (congrArg AuthorityEventRow.changeUnitId h) (by decide)⟩

end Volicord
