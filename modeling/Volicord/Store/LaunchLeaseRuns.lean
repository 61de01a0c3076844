import Volicord.Store.LaunchLeases
import Volicord.Store.RuntimeSessionRuns

/-! Runs over the launch leases: a lease is used at most once and, while texts compare as the
clock does, never late; and every managed session was started by the consumption of a lease. -/
namespace Volicord
open Result Relational Table
variable {now : UtcTimestamp} {row : ManagedMcpLaunchLeaseRecord}

def SessionOp.launches : SessionOp → Bool
  | .launch .. => true
  | _ => false

inductive LeaseOp where
  | issue (input : ManagedMcpLaunchLeaseIssue) (issuedAt : UtcTimestamp) (generated : List String)
  | consume (claim : ManagedMcpLaunchLeaseConsumption) (runtime : McpRuntimeSessionStart)
      (consumedAt : UtcTimestamp) (generated : List String)
  | cancel (launchLeaseId : String) (now : UtcTimestamp)
  /-- Every other writer of sessions and Agent Connections. -/
  | registry (op : SessionOp) (hop : op.launches = false)

def LeaseOp.registers : LeaseOp → Bool
  | .registry .. => true
  | _ => false

inductive LeaseAnswer where
  | lease (record : ManagedMcpLaunchLeaseRecord)
  | session (record : McpRuntimeSessionRecord)
  | registry (record : Option McpRuntimeSessionRecord)

variable (X : External) {state : ManagedMcpLaunchLeaseState}

def leaseStep (t : LeaseTables) : LeaseOp → StoreResult LeaseAnswer × LeaseTables
  | .issue input issuedAt generated =>
    match t.issueManagedMcpLaunchLease X input issuedAt generated with
    | .ok (record, t') => (.ok (.lease record), t')
    | .error error => (.error error, t)
  | .consume claim runtime consumedAt generated =>
    let outcome :=
      t.consumeManagedMcpLaunchLeaseAndStartRuntime X claim runtime consumedAt generated
    (outcome.1.map .session, outcome.2)
  | .cancel launchLeaseId now =>
    match t.cancelManagedMcpLaunchLease X launchLeaseId now with
    | .ok (record, t') => (.ok (.lease record), t')
    | .error error => (.error error, t)
  | .registry op _ =>
    let outcome := sessionStep X t.toRuntimeSessionTables op
    (outcome.1.map .registry, { t with toRuntimeSessionTables := outcome.2 })

abbrev LeaseEvent := Transition.Event LeaseTables LeaseOp (StoreResult LeaseAnswer)

namespace LeaseEvent

variable (id : String) (e : LeaseEvent)

def issues : Bool :=
  match e.op, e.result with
  | .issue .., .ok (.lease record) => record.launchLeaseId = id
  | _, _ => false

def consumes : Bool :=
  match e.op, e.result with
  | .consume claim _ _ _, .ok (.session _) => claim.launchLeaseId = id
  | _, _ => false

/-- A consumption that starts the session `id`. -/
def starts : Bool :=
  match e.op, e.result with
  | .consume .., .ok (.session record) => record.runtimeSessionId = id
  | _, _ => false

/-- The lease `id` was in the issued state and is no longer what it was. -/
def leaves : Bool :=
  (e.before.leases.find? id).any fun row =>
    row.terminalState = .issued && decide (e.after.leases.find? id ≠ some row)

end LeaseEvent

def consumptionText (C : Chrono) (lease : ManagedMcpLaunchLeaseRecord) (now : UtcTimestamp) :
    String :=
  if C.toCanonicalString now < lease.issuedAt then lease.issuedAt else C.toCanonicalString now

/-- A consumption reads the clock where the order of the texts does not hide that the lease has
run out, or that it is not issued yet. -/
def LeaseOp.ClockAgrees (C : Chrono) (t : LeaseTables) : LeaseOp → Prop
  | .consume claim _ now _ => ∀ lease issued expires,
    t.leases.find? claim.launchLeaseId = some lease →
    C.parse lease.issuedAt = some issued → C.parse lease.expiresAt = some expires →
    (C.toCanonicalString now < lease.expiresAt → now < expires) ∧
    (¬ C.toCanonicalString now < lease.issuedAt →
      C.ensureCanonicalRfc3339Representable now = true ∧ issued ≤ now)
  | _ => True

/-- The session `record` was started by consuming `lease`, whose facts are the current ones of its
Connection, before the lease ran out; and no other lease was consumed with it. -/
structure Launched (t t' : LeaseTables) (now : UtcTimestamp) (lease : ManagedMcpLaunchLeaseRecord)
    (record : McpRuntimeSessionRecord) : Prop where
  found : t.leases.find? lease.launchLeaseId = some lease
  issued : lease.terminalState = .issued
  used : t'.leases.find? lease.launchLeaseId
    = some (lease.consume (consumptionText X.chrono lease now))
  only : ∀ id row, id ≠ lease.launchLeaseId → t'.leases.find? id = some row →
    row.terminalState = .consumed → t.leases.find? id = some row
  current : ∃ connection, t.connections.find? lease.connectionInternalId = some connection ∧
    connection.enabled ∧ connection.hostKind = lease.hostKind.asStr ∧
    connection.managedFingerprint = lease.expectedLaunchFingerprint ∧
    connection.integrationRevision X = .ok lease.expectedIntegrationRevision
  timely : ∃ expires, X.chrono.parse lease.expiresAt = some expires ∧ now < expires
  fresh : t.sessions.find? record.runtimeSessionId = none
  present : t'.sessions.find? record.runtimeSessionId = some record
  managed : record.sessionSource = .managedHost
  bound : record.connectionInternalId = lease.connectionInternalId ∧
    record.connectionIntegrationRevision = lease.expectedIntegrationRevision

structure LeaseLaw (e : LeaseEvent) : Prop where
  stored : ∀ row ∈ e.after.leases.rows, row.validateStoredLease X = .ok ()
  /-- A lease that ended stays as it is until it is forgotten; its id may be issued anew. -/
  settled : ∀ id row, e.before.leases.find? id = some row → row.terminalState ≠ .issued →
    e.after.leases.find? id = some row ∨ e.after.leases.find? id = none ∨ e.issues id
  consumed : ∀ id row, e.after.leases.find? id = some row → row.terminalState = .consumed →
    e.before.leases.find? id = some row ∨ e.consumes id
  launch : ∀ claim runtime now generated record, e.op = .consume claim runtime now generated →
    e.result = .ok (.session record) →
    ∃ lease, lease.launchLeaseId = claim.launchLeaseId ∧
      Launched X e.before e.after now lease record
  failed : ∀ error, e.result = .error error → e.op.registers = false →
    e.after.sessions = e.before.sessions ∧
    ∀ row ∈ e.after.leases.rows, row.terminalState = .consumed → row ∈ e.before.leases.rows

/-- What time does to a lease: it is kept, forgotten, or ended without being used. -/
inductive Aged : Option ManagedMcpLaunchLeaseRecord → Option ManagedMcpLaunchLeaseRecord →
    Prop where
  | kept (lease : Option ManagedMcpLaunchLeaseRecord) : Aged lease lease
  | forgotten (lease : Option ManagedMcpLaunchLeaseRecord) : Aged lease none
  | ended (row : ManagedMcpLaunchLeaseRecord) (state : ManagedMcpLaunchLeaseState)
      (hissued : row.terminalState = .issued) (hstate : state = .cancelled ∨ state = .expired) :
      Aged (some row) (some (row.withState state))

namespace Aged
variable {a b c : Option ManagedMcpLaunchLeaseRecord}

theorem not_issued (h : state = .cancelled ∨ state = .expired) :
    state ≠ .issued ∧ state ≠ .consumed := by
  rcases h with rfl | rfl <;> simp

theorem trans (h : Aged a b) (h' : Aged b c) : Aged a c := by
  cases h with
  | kept => exact h'
  | forgotten =>
    cases h' with
    | kept => exact .forgotten _
    | forgotten => exact .forgotten _
  | ended row state hissued hstate =>
    cases h' with
    | kept => exact .ended row state hissued hstate
    | forgotten => exact .forgotten _
    | ended _ state' hissued' hstate' => exact absurd hissued' (not_issued hstate).1

theorem of_filter (lease : Option ManagedMcpLaunchLeaseRecord)
    (p : ManagedMcpLaunchLeaseRecord → Bool) : Aged lease (lease.filter p) := by
  cases lease with
  | none => exact .kept none
  | some row =>
    simp only [Option.filter]
    split
    · exact .kept _
    · exact .forgotten _

theorem unchanged (h : Aged a (some row))
    (hrow : row.terminalState = .issued ∨ row.terminalState = .consumed) : a = some row := by
  cases h with
  | kept => rfl
  | ended row' state hissued hstate =>
    rcases hrow with hrow | hrow
    · exact absurd hrow (not_issued hstate).1
    · exact absurd hrow (not_issued hstate).2

theorem settled (h : Aged (some row) b) (hrow : row.terminalState ≠ .issued) :
    b = some row ∨ b = none := by
  cases h with
  | kept => exact .inl rfl
  | forgotten => exact .inr rfl
  | ended row state hissued hstate => exact absurd hissued hrow

end Aged

namespace ManagedMcpLaunchLeaseRecord
variable {X} {record : ManagedMcpLaunchLeaseRecord}

structure Sound (X : External) (record : ManagedMcpLaunchLeaseRecord)
    (issued expires : UtcTimestamp) :
    Prop where
  id : isBoundedText record.launchLeaseId 192
  connection : isBoundedText record.connectionInternalId 1024
  revision : isCanonicalSha256Digest record.expectedIntegrationRevision
  fingerprint : isBoundedText record.expectedLaunchFingerprint maxFingerprintBytes
  issuedAt : X.chrono.parse record.issuedAt = some issued
  expiresAt : X.chrono.parse record.expiresAt = some expires
  order : issued < expires

theorem Sound.of_validateStoredLease (h : record.validateStoredLease X = .ok ()) :
    ∃ issued expires, record.Sound X issued expires := by
  simp only [validateStoredLease, steps_ok, decide_eq_true_eq] at h
  obtain ⟨hid, hconnection, hrevision, hfingerprint, issued, hissued, expires, hexpires, horder,
    _⟩ := h
  exact ⟨issued, expires, hid, hconnection, hrevision, hfingerprint, hissued, hexpires, horder⟩

theorem unused_of_validateStoredLease (h : record.validateStoredLease X = .ok ())
    (hstate : record.terminalState ≠ .consumed) : record.consumedAt = none := by
  simp only [validateStoredLease, steps_ok] at h
  obtain ⟨_, _, _, _, _, _, _, _, _, hmatch⟩ := h
  split at hmatch
  case h_1 value hconsumed _ => exact absurd hconsumed hstate
  case h_2 => cases hmatch
  case h_3 => cases hmatch
  case h_4 hnone _ => exact hnone

theorem Sound.withState {issued expires : UtcTimestamp} (h : record.Sound X issued expires)
    (hunused : record.consumedAt = none) (hstate : state = .cancelled ∨ state = .expired) :
    (record.withState state).validateStoredLease X = .ok () := by
  simp only [validateStoredLease, ManagedMcpLaunchLeaseRecord.withState, steps_ok,
    decide_eq_true_eq]
  refine ⟨h.id, h.connection, h.revision, h.fingerprint, issued, h.issuedAt, expires, h.expiresAt,
    h.order, ?_⟩
  rcases hstate with rfl | rfl <;> simp [hunused]

theorem Sound.consume {issued expires consumed : UtcTimestamp} (h : record.Sound X issued expires)
    {consumedAt : String} (hparse : X.chrono.parse consumedAt = some consumed)
    (hlow : issued ≤ consumed) (hhigh : consumed < expires) :
    (record.consume consumedAt).validateStoredLease X = .ok () := by
  simp only [validateStoredLease, ManagedMcpLaunchLeaseRecord.consume, steps_ok, decide_eq_true_eq]
  refine ⟨h.id, h.connection, h.revision, h.fingerprint, issued, h.issuedAt, expires, h.expiresAt,
    h.order, consumed, hparse, ?_⟩
  simp [hlow, hhigh]

end ManagedMcpLaunchLeaseRecord

theorem Aged.valid {X : External} {a : Option ManagedMcpLaunchLeaseRecord} (h : Aged a (some row))
    (hvalid : ∀ old, a = some old → old.validateStoredLease X = .ok ()) :
    row.validateStoredLease X = .ok () := by
  cases h with
  | kept => exact hvalid row rfl
  | ended old state hissued hstate =>
    have hold := hvalid old rfl
    obtain ⟨issued, expires, hsound⟩ :=
      ManagedMcpLaunchLeaseRecord.Sound.of_validateStoredLease hold
    have hunused := ManagedMcpLaunchLeaseRecord.unused_of_validateStoredLease hold
      (by simp [hissued])
    exact hsound.withState hunused hstate

namespace LeaseTables
variable {X} {t t' : LeaseTables} {id : String}

/-- All leases of `t'` come from those of `t` by ageing. -/
def Ages (t t' : LeaseTables) : Prop := ∀ id, Aged (t.leases.find? id) (t'.leases.find? id)

section
variable (t : LeaseTables)

theorem cleanupLeases_ages (now cutoff : String) : t.Ages (t.cleanupLeases now cutoff) := by
  intro id
  simp only [cleanupLeases, find?_deleteWhere, find?_updateWhere]
  cases hfound : t.leases.find? id with
  | none => exact .kept none
  | some row =>
    -- the row may be expired first, and the result may then be forgotten
    have hexpire : Aged (some row) (some (if (decide (row.terminalState = .issued)
        && decide (row.expiresAt ≤ now)) = true then row.withState .expired else row)) := by
      split
      · rename_i hdue
        simp only [Bool.and_eq_true, decide_eq_true_eq] at hdue
        exact .ended row .expired hdue.1 (.inr rfl)
      · exact .kept _
    exact hexpire.trans (.of_filter _ _)

theorem cleanupAt_ages (now : UtcTimestamp) : t.Ages (t.cleanupAt X now) := t.cleanupLeases_ages _ _

theorem endLease_ages (launchLeaseId : String)
    (hstate : state = .cancelled ∨ state = .expired) : t.Ages (t.endLease launchLeaseId state) := by
  intro id
  simp only [endLease, find?_updateWhere]
  cases hfound : t.leases.find? id with
  | none => exact .kept none
  | some row =>
    simp only [Option.map_some]
    split
    · rename_i hopen
      simp only [Bool.and_eq_true, decide_eq_true_eq] at hopen
      exact .ended row state hopen.2 hstate
    · exact .kept _

end

theorem Ages.trans {t'' : LeaseTables} (h : t.Ages t') (h' : t'.Ages t'') : t.Ages t'' :=
  fun id => (h id).trans (h' id)

theorem leaseFromConn_eq_ok : t.leaseFromConn X id = .ok (some row) ↔
      t.leases.find? id = some row ∧ row.validateStoredLease X = .ok () := by
  unfold leaseFromConn
  cases hfound : t.leases.find? id with
  | none => simp
  | some found =>
    simp only [map_eq_ok, Option.some.injEq]
    constructor
    · rintro ⟨u, hvalid, rfl⟩
      exact ⟨rfl, hvalid⟩
    · rintro ⟨rfl, hvalid⟩
      exact ⟨(), hvalid, rfl⟩

theorem requireCurrentConnection_eq_ok {connectionId revision fingerprint : String}
    {hostKind : HostKind} :
    t.requireCurrentConnection X connectionId hostKind revision fingerprint = .ok () ↔ ∃ connection,
    t.connections.find? connectionId = some connection ∧ connection.enabled ∧ connection.hostKind =
    hostKind.asStr ∧ connection.managedFingerprint = fingerprint ∧
    connection.integrationRevision X = .ok revision := by
  simp only [requireCurrentConnection, steps_ok, decide_eq_true_eq]
  constructor
  · rintro ⟨connection, hfound, henabled, hhost, hfingerprint, current, hrevision, rfl⟩
    exact ⟨connection, hfound, henabled, hhost, hfingerprint, hrevision⟩
  · rintro ⟨connection, hfound, henabled, hhost, hfingerprint, hrevision⟩
    exact ⟨connection, hfound, henabled, hhost, hfingerprint, revision, hrevision, rfl⟩

structure Consumed (X : External) (t t' : LeaseTables) (claim : ManagedMcpLaunchLeaseConsumption)
    (runtime : McpRuntimeSessionStart) (now : UtcTimestamp) (lease : ManagedMcpLaunchLeaseRecord)
    (record : McpRuntimeSessionRecord) : Prop where
  found : t.leases.find? claim.launchLeaseId = some lease
  issued : lease.terminalState = .issued
  valid : lease.validateStoredLease X = .ok ()
  unexpired : consumptionText X.chrono lease now < lease.expiresAt
  agrees : lease.agreesWith claim
  current : t.requireCurrentConnection X claim.connectionInternalId claim.hostKind
    claim.expectedIntegrationRevision claim.expectedLaunchFingerprint = .ok ()
  used : t'.leases.find? claim.launchLeaseId
    = some (lease.consume (consumptionText X.chrono lease now))
  others : ∀ id, id ≠ claim.launchLeaseId → Aged (t.leases.find? id) (t'.leases.find? id)
  inserted : t.sessions.insert? record = some t'.sessions
  started : record = RuntimeSessionTables.startedSession record.runtimeSessionId
    claim.expectedIntegrationRevision runtime

theorem insertMcpRuntimeSession_started {t t' : RuntimeSessionTables}
    {input : McpRuntimeSessionStart} {expected : Option String} {record : McpRuntimeSessionRecord}
    (h : t.insertMcpRuntimeSession X id input expected = .ok (some (record, t'))) :
    ∃ revision, expected.all (· = revision) = true ∧
      record = RuntimeSessionTables.startedSession id revision input ∧
      t.sessions.insert? record = some t'.sessions := by
  simp only [RuntimeSessionTables.insertMcpRuntimeSession, steps_ok] at h
  obtain ⟨_, _, connection, _, revision, _, hexpected, h⟩ := h
  split at h
  case h_1 => cases h
  case h_2 sessions hinsert =>
    split at h
    case isFalse => cases h
    case isTrue hchecks =>
      simp only [steps_ok, RuntimeSessionTables.requireRuntimeSession_eq_ok] at h
      obtain ⟨found, ⟨hfound, _⟩, hpair⟩ := h
      obtain ⟨rfl, rfl⟩ := Prod.mk.inj (Option.some.inj hpair)
      rw [find?_insert? hinsert,
        if_pos (show (RuntimeSessionTables.startedSession id revision input).runtimeSessionId
          = id from rfl)]
        at hfound
      obtain rfl := Option.some.inj hfound
      exact ⟨revision, hexpected, rfl, hinsert⟩

variable {claim : ManagedMcpLaunchLeaseConsumption} {runtime : McpRuntimeSessionStart}

theorem tryConsume_started {record : McpRuntimeSessionRecord}
    (h : t.tryConsume X claim runtime now id = .ok (.started record t')) : ∃ lease, Consumed X t t'
    claim runtime now lease record := by
  have hages := t.cleanupAt_ages (X := X) now
  simp only [tryConsume, steps_ok, decide_eq_true_eq] at h
  obtain ⟨found, hread, lease, rfl, hissued, h⟩ := h
  obtain ⟨hfound, hvalid⟩ := leaseFromConn_eq_ok.mp hread
  change (if lease.expiresAt ≤ consumptionText X.chrono lease now then _ else _) = _ at h
  split at h
  case isTrue => cases h
  case isFalse hunexpired =>
    simp only [steps_ok] at h
    obtain ⟨hagrees, _, hcurrent, _, hchecks, inserted, hinsert, h⟩ := h
    cases inserted with
    | none => cases h
    | some started =>
      obtain ⟨record', sessions⟩ := started
      simp only [pure_eq_ok, Consumption.started.injEq] at h
      obtain ⟨rfl, rfl⟩ := h
      obtain ⟨revision, hrevision, hrecord, htable⟩ := insertMcpRuntimeSession_started hinsert
      have hkey := key_of_find? hfound
      obtain rfl : claim.expectedIntegrationRevision = revision := by simpa using hrevision
      have hbefore := hages claim.launchLeaseId
      rw [hfound] at hbefore
      refine ⟨lease, hbefore.unchanged (.inl hissued), hissued, hvalid,
        not_le.mp hunexpired, hagrees, hcurrent, ?_, ?_, htable, ?_⟩
      · simp only [find?_updateWhere, hfound, Option.map_some]
        rw [if_pos]
        · rfl
        · simp only [Bool.and_eq_true, decide_eq_true_eq]
          exact ⟨⟨hkey, hissued⟩, not_le.mp hunexpired⟩
      · intro other hother
        refine (hages other).trans ?_
        simp only [find?_updateWhere]
        cases hrow : (t.cleanupAt X now).leases.find? other with
        | none => exact .kept none
        | some row =>
          have hrowKey := key_of_find? hrow
          simp only [Option.map_some, hrowKey, hother, decide_false, Bool.false_and,
            Bool.false_eq_true,
            if_false]
          exact .kept _
      · rw [hrecord]
        rfl

theorem tryConsume_expired (h : t.tryConsume X claim runtime now id = .ok (.expired t')) :
    t.Ages t' ∧ t'.toRuntimeSessionTables = t.toRuntimeSessionTables := by
  simp only [tryConsume, steps_ok] at h
  obtain ⟨_, _, lease, _, _, h⟩ := h
  change (if lease.expiresAt ≤ consumptionText X.chrono lease now then _ else _) = _ at h
  split at h
  case isTrue =>
    obtain rfl := Consumption.expired.inj (Except.ok.inj h)
    exact ⟨(t.cleanupAt_ages now).trans (endLease_ages _ _ (.inr rfl)), rfl⟩
  case isFalse =>
    simp only [steps_ok] at h
    obtain ⟨_, _, _, _, _, inserted, _, h⟩ := h
    cases inserted <;> cases h

structure OnlyAges (t t' : LeaseTables) : Prop where
  ages : t.Ages t'
  sessions : t'.toRuntimeSessionTables = t.toRuntimeSessionTables

theorem OnlyAges.refl (t : LeaseTables) : t.OnlyAges t := ⟨fun _ => .kept _, rfl⟩

theorem consumeWith_cases (generated : List String) :
    ((∃ error, (t.consumeWith X claim runtime now generated).1 = .error error) ∧
      t.OnlyAges (t.consumeWith X claim runtime now generated).2) ∨
    ∃ record lease, (t.consumeWith X claim runtime now generated).1 = .ok record ∧
      Consumed X t (t.consumeWith X claim runtime now generated).2 claim runtime now lease
        record := by
  induction generated with
  | nil => exact .inl ⟨⟨_, rfl⟩, .refl t⟩
  | cons id rest ih =>
    simp only [consumeWith]
    split
    case h_1 error _ => exact .inl ⟨⟨error, rfl⟩, .refl t⟩
    case h_2 t' htry =>
      obtain ⟨hages, hsessions⟩ := tryConsume_expired htry
      exact .inl ⟨⟨_, rfl⟩, hages, hsessions⟩
    case h_3 record t' htry =>
      obtain ⟨lease, hconsumed⟩ := tryConsume_started htry
      exact .inr ⟨record, lease, rfl, hconsumed⟩
    case h_4 => exact ih

structure Issued (X : External) (t t' : LeaseTables) (row : ManagedMcpLaunchLeaseRecord) :
    Prop where
  issued : row.terminalState = .issued
  valid : row.validateStoredLease X = .ok ()
  lookup : ∃ aged : LeaseTables, t.Ages aged ∧ aged.leases.insert? row = some t'.leases
  sessions : t'.toRuntimeSessionTables = t.toRuntimeSessionTables

variable {input : ManagedMcpLaunchLeaseIssue} {record : ManagedMcpLaunchLeaseRecord}

theorem tryIssue_issued
    (h : t.tryIssue X input now id = .ok (some (record, t'))) : Issued X t t' record := by
  simp only [tryIssue, bind_eq_ok] at h
  obtain ⟨_, _, h⟩ := h
  split at h
  case h_1 => cases h
  case h_2 leases hinsert =>
    split at h
    case isFalse => cases h
    case isTrue =>
      simp only [steps_ok, Option.some.injEq, Prod.mk.injEq] at h
      obtain ⟨found, hread, row, rfl, rfl, rfl⟩ := h
      obtain ⟨hfound, hvalid⟩ := leaseFromConn_eq_ok.mp hread
      rw [find?_insert? hinsert, if_pos (show (ManagedMcpLaunchLeaseRecord.ofIssue id input _ _
        ).launchLeaseId = id from rfl)] at hfound
      obtain rfl := Option.some.inj hfound
      exact ⟨rfl, hvalid, ⟨_, t.cleanupAt_ages now, hinsert⟩, rfl⟩

theorem issueWith_issued {generated : List String}
    (h : t.issueWith X input now generated = .ok (record, t')) : Issued X t t' record := by
  induction generated with
  | nil => cases h
  | cons id rest ih =>
    simp only [issueWith, bind_eq_ok] at h
    obtain ⟨issued, htry, h⟩ := h
    cases issued with
    | none => exact ih h
    | some pair =>
      obtain rfl : pair = (record, t') := Except.ok.inj h
      exact tryIssue_issued htry

theorem cancel_ages {launchLeaseId : String}
    (h : t.cancelManagedMcpLaunchLease X launchLeaseId now = .ok (record, t')) : t.OnlyAges t' := by
  simp only [cancelManagedMcpLaunchLease, steps_ok, Prod.mk.injEq] at h
  obtain ⟨_, _, _, _, _, _, _, rfl⟩ := h
  exact ⟨(t.cleanupAt_ages now).trans (endLease_ages _ _ (.inl rfl)), rfl⟩

end LeaseTables

def RuntimeSessionTables.isManaged (t : RuntimeSessionTables) (id : String) : Bool :=
  (t.sessions.find? id).any fun row => row.sessionSource = .managedHost

namespace RuntimeSessionTables
variable {X} {t t' : RuntimeSessionTables} {record : McpRuntimeSessionRecord}

def SameManaged (t t' : RuntimeSessionTables) : Prop := ∀ id, t'.isManaged id = t.isManaged id

theorem isManaged_insert {row : McpRuntimeSessionRecord}
    (h : t.sessions.insert? row = some t'.sessions) (id : String) :
    t'.isManaged id = if row.runtimeSessionId = id then decide (row.sessionSource = .managedHost)
      else t.isManaged id := by
  unfold isManaged
  rw [find?_insert? h]
  split <;> rfl

theorem sameManaged_of_lookup {id : String} {prior row : McpRuntimeSessionRecord}
    (hfound : t.sessions.find? id = some prior) (hsource : row.sessionSource = prior.sessionSource)
    (hlookup : ∀ k, t'.sessions.find? k
      = if k = prior.runtimeSessionId then some row
        else t.sessions.find? k) : SameManaged t t' := by
  intro k
  unfold isManaged
  rw [hlookup]
  split
  · rename_i hk
    rw [hk, key_of_find? hfound, hfound]
    simp [hsource]
  · rfl

theorem updateSession_sameManaged {id : String} {guard : McpRuntimeSessionRecord → StoreResult Unit}
    {row : McpRuntimeSessionRecord → McpRuntimeSessionRecord}
    {hrow : ∀ record, (row record).runtimeSessionId = record.runtimeSessionId}
    (h : t.updateSession X id guard row hrow = .ok (record, t'))
    (hsource : ∀ record, (row record).sessionSource = record.sessionSource) : SameManaged t t' := by
  obtain ⟨prior, hfound, _, hlookup⟩ := updateSession_ok h
  exact sameManaged_of_lookup hfound (hsource prior) hlookup

theorem startMcpRuntimeSessionWith_sameManaged {input : McpRuntimeSessionStart}
    {generated : List String} (hsource : input.sessionSource ≠ .managedHost)
    (h : t.startMcpRuntimeSessionWith X input generated = .ok (record, t')) : SameManaged t t' := by
  induction generated with
  | nil => cases h
  | cons id rest ih =>
    simp only [startMcpRuntimeSessionWith, bind_eq_ok] at h
    obtain ⟨started, hstarted, h⟩ := h
    cases started with
    | none => exact ih h
    | some pair =>
      rw [pure_eq_ok] at h
      rw [h] at hstarted
      obtain ⟨revision, _, rfl, hinsert⟩ := LeaseTables.insertMcpRuntimeSession_started hstarted
      intro k
      rw [isManaged_insert hinsert]
      split
      · rename_i hk
        -- the id was free, so it was no managed session before
        have habsent := (insert?_eq_some hinsert).1
        rw [hk] at habsent
        simp [isManaged, habsent, startedSession, hsource]
      · rfl

theorem insertAndLink_sameManaged {finding : OccurrenceDiagnosticFinding}
    (h : t.insertAndLinkRuntimeTerminalOccurrence X finding = .ok t') : SameManaged t t' := by
  simp only [insertAndLinkRuntimeTerminalOccurrence, bind_eq_ok, okOr_eq_ok] at h
  obtain ⟨id, _, _, _, findings, _, h⟩ := h
  simp only [linkTerminalOccurrenceInTx, validateText, steps_ok, requireRuntimeSession_eq_ok] at h
  obtain ⟨_, runtime, ⟨hfound, _⟩, _, _, h⟩ := h
  by_cases hsame : runtime.terminalFindingId = some finding.id
  · rw [if_pos hsame, pure_eq_ok] at h
    subst h
    exact fun _ => rfl
  · simp only [hsame, if_false, steps_ok, writeSession] at h
    obtain ⟨_, _, _, rfl⟩ := h
    have hlookup := find?_update_session (t := t) (linkTerminalFinding_runtimeSessionId finding.id
      (X.chrono.toCanonicalString finding.observedAt)) hfound
    refine sameManaged_of_lookup hfound ?_ hlookup
    rfl

end RuntimeSessionTables

open RuntimeSessionTables

theorem published_sameManaged {α : Type} {t : RuntimeSessionTables}
    {result : StoreResult (α × RuntimeSessionTables)}
    (h : ∀ value t', result = .ok (value, t') → SameManaged t t') :
    SameManaged t (published t result).2 := by
  cases result with
  | error error => exact fun _ => rfl
  | ok pair => exact h pair.1 pair.2 rfl

theorem sessionStep_sameManaged {X : External} {t : RuntimeSessionTables} {op : SessionOp}
    (hop : op.launches = false) : SameManaged t (sessionStep X t op).2 := by
  cases op with
  | start input generated =>
    refine published_sameManaged fun record t' h => ?_
    simp only [startMcpRuntimeSession, steps_ok, decide_eq_true_eq] at h
    obtain ⟨_, _, hsource, h⟩ := h
    exact startMcpRuntimeSessionWith_sameManaged hsource h
  | launch id input expected => cases hop
  | initializeAttempt id client requested observedAt =>
    refine published_sameManaged fun record t' h => ?_
    simp only [recordMcpInitializeAttempt, validateText, validateTimestamp, steps_ok] at h
    exact updateSession_sameManaged h.2.2 fun _ => rfl
  | initializeCompletion id selected observedAt =>
    refine published_sameManaged fun record t' h => ?_
    simp only [recordMcpInitializeCompletion, validateText, validateTimestamp, steps_ok] at h
    exact updateSession_sameManaged h.2.2 fun _ => rfl
  | initializedNotification id negotiated observedAt =>
    refine published_sameManaged fun record t' h => ?_
    simp only [recordMcpInitializedNotification, validateText, validateTimestamp, steps_ok] at h
    exact updateSession_sameManaged h.2.2 fun _ => rfl
  | toolsList id identities present observedAt =>
    refine published_sameManaged fun record t' h => ?_
    simp only [recordMcpToolsList, validateTimestamp, steps_ok] at h
    exact updateSession_sameManaged h.2.2 fun _ => rfl
  | verificationTool id observedAt =>
    refine published_sameManaged fun record t' h => ?_
    simp only [recordMcpVerificationToolObservation, validateTimestamp, steps_ok] at h
    exact updateSession_sameManaged h.2 fun _ => rfl
  | terminalFinding finding cleanup =>
    simp only [sessionStep, sessionStep.wrap, recordMcpTerminalFinding]
    cases h : t.insertAndLinkRuntimeTerminalOccurrence X finding with
    | error error => exact fun _ => rfl
    | ok t' => exact insertAndLink_sameManaged h
  | gracefulClose id observedAt cleanup =>
    refine published_sameManaged fun record t' h => ?_
    simp only [recordMcpGracefulClose, validateTimestamp, steps_ok] at h
    exact updateSession_sameManaged h.2 fun _ => rfl
  | changeConnections connections => exact fun _ => rfl

inductive LeaseEffect (X : External) (t : LeaseTables) :
    LeaseOp → StoreResult LeaseAnswer → LeaseTables → Prop where
  | aged {op : LeaseOp} {result : StoreResult LeaseAnswer} {t' : LeaseTables} (h : t.OnlyAges t')
      (hresult : ∀ record, result ≠ .ok (.session record)) (hop : op.registers = false) :
      LeaseEffect X t op result t'
  | issued {input : ManagedMcpLaunchLeaseIssue} {now : UtcTimestamp} {generated : List String}
      {row : ManagedMcpLaunchLeaseRecord} {t' : LeaseTables} (h : LeaseTables.Issued X t t' row) :
      LeaseEffect X t (.issue input now generated) (.ok (.lease row)) t'
  | consumed {claim : ManagedMcpLaunchLeaseConsumption} {runtime : McpRuntimeSessionStart}
      {now : UtcTimestamp} {generated : List String} {lease : ManagedMcpLaunchLeaseRecord}
      {record : McpRuntimeSessionRecord} {t' : LeaseTables}
      (hlaunch : LeaseTables.validateLaunch claim runtime = .ok ())
      (h : LeaseTables.Consumed X t t' claim runtime now lease record) :
      LeaseEffect X t (.consume claim runtime now generated) (.ok (.session record)) t'
  | recorded {op : SessionOp} {hop : op.launches = false} {result : StoreResult LeaseAnswer}
      {t' : LeaseTables} (hleases : t'.leases = t.leases)
      (hmanaged : SameManaged t.toRuntimeSessionTables t'.toRuntimeSessionTables) :
      LeaseEffect X t (.registry op hop) result t'

theorem leaseStep_effect (t : LeaseTables) (op : LeaseOp) : LeaseEffect X t op (leaseStep X t op).1
    (leaseStep X t op).2 := by
  cases op with
  | issue input now generated =>
    simp only [leaseStep]
    split
    case h_1 record t' h =>
      simp only [LeaseTables.issueManagedMcpLaunchLease, bind_eq_ok] at h
      obtain ⟨_, _, h⟩ := h
      exact .issued (LeaseTables.issueWith_issued h)
    case h_2 => exact .aged (.refl t) (by simp) rfl
  | consume claim runtime now generated =>
    simp only [leaseStep, LeaseTables.consumeManagedMcpLaunchLeaseAndStartRuntime]
    split
    case h_1 => exact .aged (.refl t) (by simp [Except.map]) rfl
    case h_2 hlaunch =>
      rcases LeaseTables.consumeWith_cases (t := t) (X := X) (generated.take durableIdRetryLimit)
        with ⟨⟨error, herror⟩, hages⟩ | ⟨record, lease, hok, hconsumed⟩
      · rw [herror]
        exact .aged hages (by simp [Except.map]) rfl
      · rw [hok]
        exact .consumed hlaunch hconsumed
  | cancel launchLeaseId now =>
    simp only [leaseStep]
    split
    case h_1 record t' h => exact .aged (LeaseTables.cancel_ages h) (by simp) rfl
    case h_2 => exact .aged (.refl t) (by simp) rfl
  | registry op hop => exact .recorded rfl (sessionStep_sameManaged hop)

def LeaseTables.Valid (t : LeaseTables) : Prop :=
  ∀ row ∈ t.leases.rows, row.validateStoredLease X = .ok ()

namespace LeaseTables
variable {X} {t t' : LeaseTables} {claim : ManagedMcpLaunchLeaseConsumption}
  {runtime : McpRuntimeSessionStart} {generated : List String}
  {lease : ManagedMcpLaunchLeaseRecord} {record : McpRuntimeSessionRecord}

theorem Valid.aged (h : t.Valid X) {id : String}
    (haged : Aged (t.leases.find? id) (some row)) : row.validateStoredLease X = .ok () :=
  haged.valid fun old hold => h old (mem_of_find? hold)

section
variable (h : Consumed X t t' claim runtime now lease record)
include h

/-- The clock is in front of the expiry, and the stored time lies between the two ends. -/
theorem Consumed.inTime
    (hclock : (LeaseOp.consume claim runtime now generated).ClockAgrees X.chrono t) :
    (lease.consume (consumptionText X.chrono lease now)).validateStoredLease X = .ok () ∧
    ∃ expires, X.chrono.parse lease.expiresAt = some expires ∧ now < expires := by
  obtain ⟨issued, expires, hsound⟩ :=
    ManagedMcpLaunchLeaseRecord.Sound.of_validateStoredLease h.valid
  obtain ⟨hend, hstart⟩ := hclock lease issued expires h.found hsound.issuedAt hsound.expiresAt
  have hunexpired := h.unexpired
  unfold consumptionText at hunexpired ⊢
  split at hunexpired
  · rename_i hback
    -- the clock went back: the time of issue is stored
    rw [if_pos hback]
    exact ⟨hsound.consume hsound.issuedAt le_rfl hsound.order, expires, hsound.expiresAt,
      hend (lt_trans hback hunexpired)⟩
  · rename_i hforth
    rw [if_neg hforth]
    obtain ⟨hrepresentable, hle⟩ := hstart hforth
    have hnow := hend hunexpired
    exact ⟨hsound.consume (Chrono.parse_of_representable hrepresentable) hle hnow, expires,
      hsound.expiresAt, hnow⟩

theorem Consumed.launched (hlaunch : validateLaunch claim runtime = .ok ())
    (hclock : (LeaseOp.consume claim runtime now generated).ClockAgrees X.chrono t) :
    lease.launchLeaseId = claim.launchLeaseId ∧ Launched X t t' now lease record := by
  have hkey := key_of_find? h.found
  have hagrees := h.agrees
  simp only [ManagedMcpLaunchLeaseRecord.agreesWith, Bool.and_eq_true, decide_eq_true_eq] at hagrees
  obtain ⟨⟨⟨hconnection, _⟩, hrevision⟩, hfingerprint⟩ := hagrees
  have hhost : lease.hostKind = claim.hostKind := by
    cases lease.hostKind
    cases claim.hostKind
    rfl
  simp only [validateLaunch, steps_ok, decide_eq_true_eq] at hlaunch
  obtain ⟨_, _, hmanaged, hsame⟩ := hlaunch
  have hfind := find?_insert? h.inserted record.runtimeSessionId
  rw [if_pos rfl] at hfind
  have hcurrent := requireCurrentConnection_eq_ok.mp h.current
  rw [← hconnection, ← hhost, ← hrevision, ← hfingerprint] at hcurrent
  refine ⟨hkey, ?_, h.issued, ?_, ?_, hcurrent, (h.inTime hclock).2,
    (insert?_eq_some h.inserted).1, hfind, ?_, ?_⟩
  · rw [hkey]
    exact h.found
  · rw [hkey]
    exact h.used
  · intro id row hother hrow hconsumed
    have haged := h.others id (hkey ▸ hother)
    rw [hrow] at haged
    exact haged.unchanged (.inr hconsumed)
  · rw [h.started]
    exact hmanaged
  · rw [h.started]
    exact ⟨hsame.trans hconnection.symm, hrevision.symm⟩

end

end LeaseTables

namespace LeaseEffect
variable {X} {t t' : LeaseTables} {op : LeaseOp} {result : StoreResult LeaseAnswer}

section
variable (h : LeaseEffect X t op result t')
include h

/-- Of the lease `id` a call leaves what time leaves, or the row it issued, or it consumed it. -/
theorem lookup (id : String) : Aged (t.leases.find? id) (t'.leases.find? id) ∨
    (∃ row, LeaseTables.Issued X t t' row ∧ t'.leases.find? id = some row ∧
      LeaseEvent.issues id ⟨t, op, result, t'⟩) ∨
    ∃ claim runtime now generated lease record, op = .consume claim runtime now generated ∧
      claim.launchLeaseId = id ∧ LeaseTables.Consumed X t t' claim runtime now lease record ∧
      LeaseEvent.consumes id ⟨t, op, result, t'⟩ := by
  cases h with
  | aged hages => exact .inl (hages.ages id)
  | @issued _ _ _ fresh _ hissued =>
    obtain ⟨aged, hages, hinsert⟩ := hissued.lookup
    rw [find?_insert? hinsert]
    by_cases hid : fresh.launchLeaseId = id
    · rw [if_pos hid]
      exact .inr (.inl ⟨fresh, hissued, rfl, by simpa [LeaseEvent.issues] using hid⟩)
    · rw [if_neg hid]
      exact .inl (hages id)
  | @consumed claim runtime now generated lease record _ _ hconsumed =>
    by_cases hid : claim.launchLeaseId = id
    · exact .inr (.inr ⟨claim, runtime, now, generated, lease, record, rfl, hid, hconsumed,
        by simp [LeaseEvent.consumes, hid]⟩)
    · exact .inl (hconsumed.others id (Ne.symm hid))
  | recorded hleases =>
    rw [hleases]
    exact .inl (.kept _)

section
variable (hvalid : t.Valid X) (hclock : op.ClockAgrees X.chrono t)
include hvalid hclock

theorem valid : t'.Valid X := by
  intro row hrow
  have hfind := find?_of_mem hrow
  obtain haged | ⟨fresh, hissued, hfresh, _⟩ |
    ⟨claim, _, _, _, lease, _, rfl, hid, hconsumed, _⟩ := h.lookup row.launchLeaseId
  · rw [hfind] at haged
    exact hvalid.aged haged
  · obtain rfl := Option.some.inj (hfresh.symm.trans hfind)
    exact hissued.valid
  · rw [← hid, hconsumed.used] at hfind
    rw [← Option.some.inj hfind]
    exact (hconsumed.inTime hclock).1

theorem law : LeaseLaw X ⟨t, op, result, t'⟩ := by
  refine ⟨h.valid hvalid hclock, ?_, ?_, ?_, ?_⟩
  · intro id row hrow hstate
    obtain haged | ⟨_, _, _, hissues⟩ | ⟨claim, _, _, _, lease, _, _, rfl, hconsumed, _⟩ :=
      h.lookup id
    · rw [hrow] at haged
      exact (haged.settled hstate).imp_right .inl
    · exact .inr (.inr hissues)
    · obtain rfl := Option.some.inj (hconsumed.found.symm.trans hrow)
      exact absurd hconsumed.issued hstate
  · intro id row hrow hstate
    obtain haged | ⟨fresh, hissued, hfresh, _⟩ | ⟨_, _, _, _, _, _, _, _, _, hconsumes⟩ :=
      h.lookup id
    · rw [hrow] at haged
      exact .inl (haged.unchanged (.inr hstate))
    · obtain rfl := Option.some.inj (hfresh.symm.trans hrow)
      rw [hissued.issued] at hstate
      cases hstate
    · exact .inr hconsumes
  · intro claim runtime now generated record hop hresult
    cases h with
    | aged _ hnone => exact absurd hresult (hnone record)
    | issued => cases hop
    | consumed hlaunch hconsumed =>
      cases hop
      obtain rfl := LeaseAnswer.session.inj (Except.ok.inj hresult)
      exact ⟨_, hconsumed.launched hlaunch hclock⟩
    | recorded => cases hop
  · intro error hresult hop
    cases h with
    | aged hages =>
      refine ⟨by rw [hages.sessions], fun row hrow hstate => ?_⟩
      have haged := hages.ages row.launchLeaseId
      rw [find?_of_mem hrow] at haged
      exact mem_of_find? (haged.unchanged (.inr hstate))
    | issued => cases hresult
    | consumed => cases hresult
    | recorded => cases hop

end

end

end LeaseEffect

def isOpenLease (lease : Option ManagedMcpLaunchLeaseRecord) : Bool :=
  lease.any fun row => row.terminalState = .issued

variable (a b : Option ManagedMcpLaunchLeaseRecord)

def leftOpen : Bool :=
  a.any fun row => row.terminalState = .issued && decide (b ≠ some row)

theorem leftOpen_le : (leftOpen a b).toNat ≤ (isOpenLease a).toNat := by
  cases a with
  | none => simp [leftOpen]
  | some row => cases h : decide (row.terminalState = .issued) <;> simp [leftOpen, isOpenLease, h,
    Bool.toNat_le]

theorem Aged.balance {a b : Option ManagedMcpLaunchLeaseRecord} (h : Aged a b) :
    (isOpenLease b).toNat + (leftOpen a b).toNat ≤ (isOpenLease a).toNat := by
  cases h with
  | kept =>
    cases a with
    | none => simp [leftOpen]
    | some row => simp [leftOpen, isOpenLease]
  | forgotten => simpa [isOpenLease] using leftOpen_le a none
  | ended row state hissued hstate =>
    have hend := (Aged.not_issued hstate).1
    simp [leftOpen, isOpenLease, hissued, hend, ManagedMcpLaunchLeaseRecord.withState,
      Bool.toNat_le]

namespace LeaseEffect
variable {X} {t t' : LeaseTables} {op : LeaseOp} {result : StoreResult LeaseAnswer}

section
variable (h : LeaseEffect X t op result t') (id : String)
include h

theorem balance : (isOpenLease (t'.leases.find? id)).toNat +
    (leftOpen (t.leases.find? id) (t'.leases.find? id)).toNat ≤
    (isOpenLease (t.leases.find? id)).toNat + (LeaseEvent.issues id ⟨t, op, result, t'⟩).toNat := by
  obtain haged | ⟨fresh, _, _, hissues⟩ | ⟨claim, _, _, _, lease, _, _, rfl, hconsumed, _⟩ :=
    h.lookup id
  · exact le_add_right haged.balance
  · have hleft := leftOpen_le (t.leases.find? id) (t'.leases.find? id)
    have hopen := (isOpenLease (t'.leases.find? id)).toNat_le
    rw [hissues, Bool.toNat_true]
    omega
  · have hclosed : isOpenLease (t'.leases.find? claim.launchLeaseId) = false := by
      rw [hconsumed.used]
      rfl
    have hleft := leftOpen_le (t.leases.find? claim.launchLeaseId)
      (t'.leases.find? claim.launchLeaseId)
    rw [hclosed, Bool.toNat_false]
    omega

theorem consumes_leaves (hconsumes : LeaseEvent.consumes id ⟨t, op, result, t'⟩) :
    LeaseEvent.leaves id ⟨t, op, result, t'⟩ := by
  cases h with
  | aged hages hnone =>
    unfold LeaseEvent.consumes at hconsumes
    split at hconsumes
    · rename_i hresult
      exact absurd hresult (hnone _)
    · cases hconsumes
  | issued => cases hconsumes
  | @consumed claim runtime now generated lease record _ hlaunch hconsumed =>
    obtain rfl : claim.launchLeaseId = id := by simpa [LeaseEvent.consumes] using hconsumes
    have hchanged : lease.consume (consumptionText X.chrono lease now) ≠ lease := by
      intro hsame
      have hstate := congrArg ManagedMcpLaunchLeaseRecord.terminalState hsame
      rw [hconsumed.issued] at hstate
      cases hstate
    simp [LeaseEvent.leaves, hconsumed.found, hconsumed.used, hconsumed.issued, hchanged]
  | recorded => cases hconsumes

theorem managed : (t'.isManaged id).toNat
      = (t.isManaged id).toNat + (LeaseEvent.starts id ⟨t, op, result, t'⟩).toNat := by
  cases h with
  | aged hages hnone =>
    have hstarts : LeaseEvent.starts id ⟨t, op, result, t'⟩ = false := by
      unfold LeaseEvent.starts
      split
      · rename_i hresult
        exact absurd hresult (hnone _)
      · rfl
    rw [hstarts, hages.sessions]
    rfl
  | issued hissued =>
    rw [hissued.sessions]
    rfl
  | @consumed claim runtime now generated lease record _ hlaunch hconsumed =>
    have hafter := isManaged_insert hconsumed.inserted id
    by_cases hid : record.runtimeSessionId = id
    · have habsent := (insert?_eq_some hconsumed.inserted).1
      have hsource : record.sessionSource = .managedHost := by
        simp only [LeaseTables.validateLaunch, steps_ok, decide_eq_true_eq] at hlaunch
        obtain ⟨_, _, hmanaged, _⟩ := hlaunch
        rw [hconsumed.started]
        exact hmanaged
      rw [hafter, if_pos hid]
      simp [LeaseEvent.starts, hid, hsource, isManaged, hid ▸ habsent]
    · rw [hafter, if_neg hid]
      simp [LeaseEvent.starts, hid]
  | recorded hleases hmanaged =>
    rw [hmanaged id]
    rfl

end

end LeaseEffect

/-- In every run whose consumptions read the clock where texts do not mislead: every call keeps
the law of leases, a lease leaves the issued state at most as often as it was issued, a
consumption is one of these departures, and every managed session was started by exactly one
consumption. -/
theorem launch_leases_once (X : External) (t : LeaseTables) (ops : List LeaseOp)
    (hleases : t.leases.rows = []) (hsessions : t.sessions.rows = [])
    (hclock : ∀ e ∈ Transition.trace (leaseStep X) t ops, e.op.ClockAgrees X.chrono e.before) :
    (∀ e ∈ Transition.trace (leaseStep X) t ops, LeaseLaw X e ∧
      ∀ id, LeaseEvent.consumes id e = true → LeaseEvent.leaves id e = true) ∧
    (∀ id, (Transition.trace (leaseStep X) t ops).countP (LeaseEvent.leaves id)
      ≤ (Transition.trace (leaseStep X) t ops).countP (LeaseEvent.issues id)) ∧
    ∀ id row, (Transition.run (leaseStep X) t ops).sessions.find? id = some row →
      row.sessionSource = .managedHost →
      (Transition.trace (leaseStep X) t ops).countP (LeaseEvent.starts id) = 1 := by
  refine ⟨fun e he => ?_, fun id => ?_, fun id row hrow hmanaged => ?_⟩
  · have hstart : t.Valid X := by
      intro row hrow
      rw [hleases] at hrow
      cases hrow
    have hbefore : e.before.Valid X := Transition.trace_invariant_of_trace
      (I := LeaseTables.Valid X) (C := fun e => e.op.ClockAgrees X.chrono e.before)
      (fun s op hs hop => (leaseStep_effect X s op).valid hs hop) hstart hclock he
    have hagrees := hclock e he
    rw [Transition.eq_fire_of_mem_trace he] at hagrees ⊢
    exact ⟨(leaseStep_effect X _ _).law hbefore hagrees, (leaseStep_effect X _ _).consumes_leaves⟩
  · have hbalance := Transition.run_balance (H := fun s => (isOpenLease (s.leases.find? id)).toNat)
      (P := LeaseEvent.leaves id) (Q := LeaseEvent.issues id)
      (fun s o => (leaseStep_effect X s o).balance id) t ops
    have hnone : t.leases.find? id = none := by
      rw [Table.find?_eq_none, hleases]
      simp
    rw [hnone] at hbalance
    simp only [isOpenLease, Option.any_none, Bool.toNat_false, zero_add] at hbalance
    exact le_trans (Nat.le_add_left _ _) hbalance
  · have hcount := Transition.run_count (H := fun s => (s.isManaged id).toNat)
      (Q := LeaseEvent.starts id)
      (fun s o => (leaseStep_effect X s o).managed id) t ops
    have hnone : t.sessions.find? id = none := by
      rw [Table.find?_eq_none, hsessions]
      simp
    simpa [isManaged, hrow, hmanaged, hnone] using hcount.symm

def LeaseOp.clockAgrees (C : Chrono) (t : LeaseTables) : LeaseOp → Bool
  | .consume claim _ now _ => (t.leases.find? claim.launchLeaseId).all fun lease =>
    match C.parse lease.issuedAt, C.parse lease.expiresAt with
    | some issued, some expires =>
      (!decide (C.toCanonicalString now < lease.expiresAt) || decide (now < expires))
      && (decide (C.toCanonicalString now < lease.issuedAt)
        || (C.ensureCanonicalRfc3339Representable now && decide (issued ≤ now)))
    | _, _ => true
  | _ => true

theorem LeaseOp.clockAgrees_sound {C : Chrono} {t : LeaseTables} {op : LeaseOp}
    (h : op.clockAgrees C t) : op.ClockAgrees C t := by
  cases op with
  | consume claim runtime now generated =>
    intro lease issued expires hfound hissued hexpires
    simp only [LeaseOp.clockAgrees, hfound, Option.all_some, hissued, hexpires, Bool.and_eq_true,
      Bool.or_eq_true, Bool.not_eq_true', decide_eq_true_eq, decide_eq_false_iff_not] at h
    exact ⟨fun hlt => h.1.resolve_left (not_not.mpr hlt), fun hge => h.2.resolve_left hge⟩
  | issue => trivial
  | cancel => trivial
  | registry => trivial

/- One lease of the sample connection, and a session that is started with it. -/

def sampleLeaseTables : LeaseTables := ⟨sampleRegistry, .empty⟩

def sampleLeaseId : String := "mcp_launch_lease_00000000-0000-4000-8000-000000000000"

def sampleIssue : LeaseOp :=
  .issue ⟨"connection", .codex, sampleRevision, "fingerprint"⟩ 1767225600000000000 [sampleLeaseId]

def sampleConsume (now : UtcTimestamp) : LeaseOp :=
  .consume ⟨sampleLeaseId, "connection", .codex, sampleRevision, "fingerprint"⟩
    ⟨"connection", .managedHost, none, 1, "2026-01-01T00:00:10Z"⟩ now ["session"]

/-- Ten seconds after the issue. -/
theorem launch_leases_once_sample :
    (Transition.trace (leaseStep registryExternal) sampleLeaseTables
      [sampleIssue, sampleConsume 1767225610000000000]).all
      (fun e => e.op.clockAgrees registryExternal.chrono e.before) = true ∧
    ∀ e ∈ Transition.trace (leaseStep registryExternal) sampleLeaseTables
      [sampleIssue, sampleConsume 1767225610000000000], LeaseLaw registryExternal e := by
  have hall : (Transition.trace (leaseStep registryExternal) sampleLeaseTables
      [sampleIssue, sampleConsume 1767225610000000000]).all
      (fun e => e.op.clockAgrees registryExternal.chrono e.before) = true := by decide +kernel
  refine ⟨hall, fun e he => ?_⟩
  refine ((launch_leases_once registryExternal sampleLeaseTables
    [sampleIssue, sampleConsume 1767225610000000000] rfl rfl fun e he => ?_).1 e he).1
  exact LeaseOp.clockAgrees_sound (List.all_eq_true.mp hall e he)

/-- A millisecond after its expiry at 00:00:30 the lease is consumed, and cannot be read any more.
-/
theorem launch_lease_consumed_late :
    (let t := Transition.run (leaseStep registryExternal) sampleLeaseTables
      [sampleIssue, sampleConsume 1767225630001000000]
    ((t.leases.find? sampleLeaseId).map fun row => (row.expiresAt, row.consumedAt),
      t.isManaged "session", (t.leaseFromConn registryExternal sampleLeaseId).map fun _ => ()))
      = (some ("2026-01-01T00:00:30Z", some "2026-01-01T00:00:30.001Z"), true,
        .error (corruptLease "consumed_at")) := by
  decide +kernel

end Volicord
