import Volicord.Lib.Transition
import Volicord.Store.CommitSpec
import Volicord.Types.JsonText

/-! One project database shared by any number of Store handles. Each operation is
serialised by its own transaction, so an interleaving is a list of operations. -/
namespace Volicord
open Result Transaction
variable {ι A : Type} [DecidableEq ι]

structure StoreSystem (ι A : Type) where
  db : ProjectDb A
  handles : ι → StoreHandle

inductive StoreOp (ι A : Type) where
  | commit (handle : ι) (call : CommitCall A)
  | currentTimestamp (handle : ι) (now : String)
  | rememberClockSample (handle : ι) (sample : UtcTimestamp)
  | advanceProjectUtcFloor (sample : UtcTimestamp)

inductive StoreAnswer where
  | commit (result : StoreResult MutationCommitOutcome)
  | timestamp (result : StoreResult UtcTimestamp)
  | done
deriving DecidableEq

def StoreSystem.setHandle (s : StoreSystem ι A) (i : ι) (handle : StoreHandle) :
    StoreSystem ι A :=
  { s with handles := Function.update s.handles i handle }

def StoreHandle.rememberClockSample (handle : StoreHandle) (sample : UtcTimestamp) : StoreHandle :=
  if handle.lastClockSample.all (· < sample) then { handle with lastClockSample := some sample }
  else handle

/-- `advance_project_utc_floor_tx`, inside a transaction that does nothing else. -/
def advanceProjectUtcFloor (X : External) (sample : UtcTimestamp) (db : ProjectDb A) :
    StoreResult (UtcTimestamp × ProjectDb A) := do
  ensure (X.chrono.ensureCanonicalRfc3339Representable sample)
    (.schemaInvariant projectStateDatabaseKind
      "Core UTC floor sample is outside the canonical timestamp range")
  let persistedFloor ← db.readUpdatedAt X
  let floor := max persistedFloor sample
  return (floor, { db with updatedAt := X.chrono.toCanonicalString floor })

def storeStep (X : External) (R : AggregateReaders A) (s : StoreSystem ι A) :
    StoreOp ι A → StoreAnswer × StoreSystem ι A
  | .commit i call =>
    let r := commitWith X R (s.handles i) call s.db
    (.commit r.result, { s.setHandle i r.handle with db := r.db })
  | .currentTimestamp i now =>
    match projectCurrentUtcTimestamp X now s.db (s.handles i).lastClockSample with
    | .error e => (.timestamp (.error e), s)
    | .ok t => (.timestamp (.ok t), s.setHandle i { s.handles i with lastClockSample := some t })
  | .rememberClockSample i sample =>
    (.done, s.setHandle i ((s.handles i).rememberClockSample sample))
  | .advanceProjectUtcFloor sample =>
    match advanceProjectUtcFloor X sample s.db with
    | .error e => (.timestamp (.error e), s)
    | .ok (floor, db) => (.timestamp (.ok floor), { s with db := db })

abbrev StoreEvent (ι A : Type) := Transition.Event (StoreSystem ι A) (StoreOp ι A) StoreAnswer

/-- An operation commits one call, moves the persisted clock floor forward, or leaves the
database alone. -/
theorem storeStep_cases (X : External) (R : AggregateReaders A) (s : StoreSystem ι A)
    (op : StoreOp ι A) :
    (∃ i call context current committedAt responseJson, op = .commit i call ∧
      (storeStep X R s op).1 = .commit (.ok (.committed responseJson current.stateVersion
        (current.stateVersion + 1) call.input.eventRefs)) ∧
      CommitEffect X call context s.db (storeStep X R s op).2.db current committedAt responseJson) ∨
    (∃ sample persisted, op = .advanceProjectUtcFloor sample ∧
      s.db.readUpdatedAt X = .ok persisted ∧
      X.chrono.ensureCanonicalRfc3339Representable (max persisted sample) ∧
      (storeStep X R s op).2.db =
        { s.db with updatedAt := X.chrono.toCanonicalString (max persisted sample) }) ∨
    ((∀ response basis committed events, (storeStep X R s op).1 ≠
        .commit (.ok (.committed response basis committed events))) ∧
      (storeStep X R s op).2.db = s.db) := by
  cases op with
  | commit i call =>
    rcases commitWith_cases X R (s.handles i) call s.db with
      ⟨context, current, committedAt, responseJson, hresult, _, _, heffect⟩ | ⟨hresult, _, hdb⟩
    · exact .inl ⟨i, call, context, current, committedAt, responseJson, rfl,
        congrArg StoreAnswer.commit hresult, heffect⟩
    · exact .inr (.inr ⟨fun r b c es he => hresult r b c es (StoreAnswer.commit.inj he), hdb⟩)
  | currentTimestamp i now =>
    refine .inr (.inr ?_)
    simp only [storeStep]
    split <;> simp [StoreSystem.setHandle]
  | rememberClockSample i sample => exact .inr (.inr ⟨by simp [storeStep], rfl⟩)
  | advanceProjectUtcFloor sample =>
    simp only [storeStep]
    cases hadvance : advanceProjectUtcFloor X sample s.db with
    | error e => exact .inr (.inr ⟨by simp, rfl⟩)
    | ok result =>
      obtain ⟨_, hsample, hrest⟩ := bind_eq_ok.mp hadvance
      obtain ⟨persisted, hread, hrest⟩ := bind_eq_ok.mp hrest
      obtain rfl := Except.ok.inj hrest
      refine .inr (.inl ⟨sample, persisted, rfl, hread, ?_, rfl⟩)
      have hp := (parseRepresentable_ok hread).2
      have hs := ensure_eq_ok.mp hsample
      rcases max_choice persisted sample with hm | hm <;> rw [hm] <;> assumption

structure AppliesOneVersion (call : CommitCall A) (before after : ProjectDb A)
    (basis committed : Nat) : Prop where
  basis_version : before.stateVersion = (basis : Int)
  committed_version : after.stateVersion = (committed : Int)
  successor : committed = basis + 1
  expected : ∀ v, call.input.expectedStateVersion = some v → committed = v + 1
  events : ∃ rows, after.authorityEvents = before.authorityEvents ++ rows ∧
    rows.map (·.eventId) = call.input.events.map (·.eventId) ∧
    ∀ row ∈ rows, row.stateVersion = (committed : Int)
  invocation : match call.input.idempotencyKey with
    | none => after.toolInvocations = before.toolInvocations
    | some key => ∃ row, after.toolInvocations = before.toolInvocations ++ [row] ∧
      row.toolName = call.input.toolName ∧ row.idempotencyKey = key ∧
      row.committedStateVersion = (committed : Int)

theorem CommitEffect.appliesOneVersion {X : External} {call : CommitCall A}
    {context : VerifiedReplayContext} {db db' : ProjectDb A} {current : ProjectStateHeader}
    {committedAt : UtcTimestamp} {responseJson : String}
    (h : CommitEffect X call context db db' current committedAt responseJson) :
    AppliesOneVersion call db db' current.stateVersion (current.stateVersion + 1) where
  basis_version := (decodeProjectState_ok h.decoded).1
  committed_version := by
    rw [h.version, (decodeProjectState_ok h.decoded).1]
    push_cast
    rfl
  successor := rfl
  expected v hv := by rw [h.expected v hv]
  events := by
    obtain ⟨first, _, happended⟩ := h.appended
    exact ⟨_, happended, eventRows_eventIds .., fun row hrow => (mem_eventRows hrow).1⟩
  invocation := by
    have hrecorded := h.recorded
    unfold CommitCall.invocationRows at hrecorded
    cases hkey : call.input.idempotencyKey with
    | none => simpa [hkey] using hrecorded
    | some key =>
      rw [hkey] at hrecorded
      exact ⟨_, hrecorded, rfl, rfl, rfl⟩

/-- The event is a call with expected version `v` that committed. -/
def CommitsAt (v : Nat) (e : StoreEvent ι A) : Prop :=
  ∃ i call response basis committed events, e.op = .commit i call ∧
    call.input.expectedStateVersion = some v ∧
    e.result = .commit (.ok (.committed response basis committed events))

theorem CommitsAt.versions {X : External} {R : AggregateReaders A} {s : StoreSystem ι A}
    {op : StoreOp ι A} {v : Nat} (h : CommitsAt v (Transition.fire (storeStep X R) s op)) :
    s.db.stateVersion = v ∧ (storeStep X R s op).2.db.stateVersion = v + 1 := by
  obtain ⟨i, call, response, basis, committed, events, rfl, hv, hresult⟩ := h
  rcases storeStep_cases X R s (.commit i call) with
    ⟨_, _, _, _, _, _, hcall, _, heffect⟩ | ⟨_, _, hother, _⟩ | ⟨hne, _⟩
  · injection hcall with _ hcall
    subst hcall
    have hbasis := heffect.appliesOneVersion.basis_version
    rw [heffect.version, hbasis, heffect.expected v hv]
    exact ⟨rfl, rfl⟩
  · simp at hother
  · exact absurd hresult (hne _ _ _ _)

theorem storeStep_version_le (X : External) (R : AggregateReaders A) (s : StoreSystem ι A)
    (op : StoreOp ι A) : s.db.stateVersion ≤ (storeStep X R s op).2.db.stateVersion := by
  rcases storeStep_cases X R s op with ⟨_, _, _, _, _, _, _, _, h⟩ | ⟨_, _, _, _, _, h⟩ | ⟨_, h⟩
  · rw [h.version]
    omega
  · rw [h]
  · rw [h]

/-- In every run, each call commits exactly one version or changes nothing, and no two
calls of the run commit on the same expected version. -/
theorem commitWith_atomic (X : External) (R : AggregateReaders A) (s : StoreSystem ι A)
    (ops : List (StoreOp ι A)) :
    (∀ e ∈ Transition.trace (storeStep X R) s ops, ∀ i call, e.op = .commit i call →
      match e.result with
      | .commit (.ok (.committed _ basis committed _)) =>
        AppliesOneVersion call e.before.db e.after.db basis committed
      | _ => e.after.db = e.before.db) ∧
    (Transition.trace (storeStep X R) s ops).Pairwise
      fun e f => ∀ v, CommitsAt v e → ¬ CommitsAt v f := by
  constructor
  · intro e he i call hop
    have hfire := Transition.eq_fire_of_mem_trace he
    rw [hop] at hfire
    rw [hfire]
    change match (storeStep X R e.before (.commit i call)).1 with
      | .commit (.ok (.committed _ basis committed _)) => AppliesOneVersion call e.before.db
          (storeStep X R e.before (.commit i call)).2.db basis committed
      | _ => (storeStep X R e.before (.commit i call)).2.db = e.before.db
    rcases storeStep_cases X R e.before (.commit i call) with
      ⟨_, _, _, _, _, _, hcall, hresult, heffect⟩ | ⟨_, _, hother, _⟩ | ⟨hresult, hdb⟩
    · injection hcall with _ hcall
      subst hcall
      rw [hresult]
      exact heffect.appliesOneVersion
    · simp at hother
    · split
      · exact absurd ‹_› (hresult _ _ _ _)
      · exact hdb
  · have hlater := Transition.trace_pairwise (storeStep X R)
      (R := fun e s => ∀ v, CommitsAt v e → (v : Int) + 1 ≤ s.db.stateVersion)
      (fun s op v h => h.versions.2.ge)
      (fun e s op h v hv => (h v hv).trans (storeStep_version_le X R s op)) s ops
    refine hlater.imp_of_mem fun he hf h v hv hv' => ?_
    rw [Transition.eq_fire_of_mem_trace hf] at hv'
    have := hv'.versions.1
    have := h v hv
    omega

/- A small project to run commits on: texts and instants in the concrete formats, no
aggregate tables. -/

def plainExternal : External := ⟨ClockText.chrono, JsonText.serde, id⟩

def noAggregates : AggregateReaders Unit where
  taskTransitionState _ _ := none
  pendingUserActionExists _ _ := false
  taskExists _ _ := true
  changeUnitExists _ _ _ := true
  deferredForeignKeysHold _ := true

def emptyProject : StoreSystem Unit Unit where
  db := ⟨"project", 0, "x", (), [], []⟩
  handles _ := ⟨some "home", some "home", none⟩

/-- An intake call with key `k`; `o)` is the empty object. -/
def intakeCall : CommitCall Unit where
  input :=
    { projectId := "project", toolName := "volicord.intake", idempotencyKey := some "k"
      requestHash := "h", replayContext := some ⟨.localUser, .userOnly, none, none⟩
      expectedStateVersion := some 0, transitionExpectation := none, clockFloor := none
      includeLiveStorageTime := true
      events := [⟨"event", some "task", none, "task_created", "o)"⟩] }
  applyMutation _ _ := pure ()
  buildResponseJson _ := .ok "o)"
  session := ⟨"xx", fun _ => false⟩

end Volicord
