import Volicord.Store.RuntimeSessionSpec
import Volicord.Types.JsonText

/-! Runs of the session recorders: every row stays readable and its last observation never goes
back, as long as texts compare as the instants do and no list follows a verified tool call. -/
namespace Volicord
open Result Relational Sorted Table
variable {row : McpRuntimeSessionRecord} {X : External} {t : RuntimeSessionTables}
  {finding : OccurrenceDiagnosticFinding} {op : SessionOp}

inductive SessionOp where
  | start (input : McpRuntimeSessionStart) (generated : List String)
  /-- A session is inserted by the consumption of a launch lease. -/
  | launch (runtimeSessionId : String) (input : McpRuntimeSessionStart)
      (expectedIntegrationRevision : String)
  | initializeAttempt (runtimeSessionId : String) (clientInfo : ManagedMcpClientInfo)
      (requestedProtocolVersion observedAt : String)
  | initializeCompletion (runtimeSessionId selectedProtocolVersion observedAt : String)
  | initializedNotification (runtimeSessionId negotiatedProtocolVersion observedAt : String)
  | toolsList (runtimeSessionId : String) (returnedToolIdentities : List String)
      (requiredToolsPresent : Bool) (observedAt : String)
  | verificationTool (runtimeSessionId observedAt : String)
  | terminalFinding (finding : OccurrenceDiagnosticFinding) (cleanup : StoreResult Unit)
  | gracefulClose (runtimeSessionId observedAt : String) (cleanup : StoreResult Unit)
  /-- The other writers of the Registry change its Agent Connections. -/
  | changeConnections (connections : Table AgentConnectionRecord.connectionInternalId)

def published {α : Type} (t : RuntimeSessionTables)
    (result : StoreResult (α × RuntimeSessionTables)) : StoreResult α × RuntimeSessionTables :=
  match result with
  | .ok (value, t') => (.ok value, t')
  | .error error => (.error error, t)

/-- The open observations of a managed session are closed in the project databases, after the
commit; the tables here have no part in it. -/
def afterCleanup (record : McpRuntimeSessionRecord) (cleanup : StoreResult Unit) :
    StoreResult McpRuntimeSessionRecord :=
  if record.sessionSource = .managedHost then cleanup.map fun _ => record else .ok record

def RuntimeSessionTables.recordMcpTerminalFinding (X : External) (t : RuntimeSessionTables)
    (finding : OccurrenceDiagnosticFinding) (cleanup : StoreResult Unit) :
    StoreResult McpRuntimeSessionRecord × RuntimeSessionTables :=
  match t.insertAndLinkRuntimeTerminalOccurrence X finding with
  | .error error => (.error error, t)
  | .ok t' =>
    (do let record ← t'.requireRuntimeSession X (finding.runtimeSessionId.getD "")
        afterCleanup record cleanup, t')

def sessionStep (X : External) (t : RuntimeSessionTables) :
    SessionOp → StoreResult (Option McpRuntimeSessionRecord) × RuntimeSessionTables
  | .start input generated => wrap (published t (t.startMcpRuntimeSession X input generated))
  | .launch runtimeSessionId input expected =>
    match t.insertMcpRuntimeSession X runtimeSessionId input (some expected) with
    | .ok (some (record, t')) => (.ok (some record), t')
    | .ok none => (.ok none, t)
    | .error error => (.error error, t)
  | .initializeAttempt id clientInfo requested observedAt =>
    wrap (published t (t.recordMcpInitializeAttempt X id clientInfo requested observedAt))
  | .initializeCompletion id selected observedAt =>
    wrap (published t (t.recordMcpInitializeCompletion X id selected observedAt))
  | .initializedNotification id negotiated observedAt =>
    wrap (published t (t.recordMcpInitializedNotification X id negotiated observedAt))
  | .toolsList id identities present observedAt =>
    wrap (published t (t.recordMcpToolsList X id identities present observedAt))
  | .verificationTool id observedAt =>
    wrap (published t (t.recordMcpVerificationToolObservation X id observedAt))
  | .terminalFinding finding cleanup => wrap (t.recordMcpTerminalFinding X finding cleanup)
  | .gracefulClose id observedAt cleanup =>
    let (result, t') := published t (t.recordMcpGracefulClose X id observedAt)
    wrap (result.bind (afterCleanup · cleanup), t')
  | .changeConnections connections => (.ok none, { t with connections := connections })
where
  wrap (outcome : StoreResult McpRuntimeSessionRecord × RuntimeSessionTables) :
      StoreResult (Option McpRuntimeSessionRecord) × RuntimeSessionTables :=
    (outcome.1.map some, outcome.2)

abbrev SessionEvent :=
  Transition.Event RuntimeSessionTables SessionOp (StoreResult (Option McpRuntimeSessionRecord))

namespace SessionOp

def observation (C : Chrono) : SessionOp → Option (String × String)
  | .initializeAttempt id _ _ observedAt => some (id, observedAt)
  | .initializeCompletion id _ observedAt => some (id, observedAt)
  | .initializedNotification id _ observedAt => some (id, observedAt)
  | .toolsList id _ _ observedAt => some (id, observedAt)
  | .verificationTool id observedAt => some (id, observedAt)
  | .terminalFinding finding _ =>
    finding.runtimeSessionId.map fun id => (id, C.toCanonicalString finding.observedAt)
  | .gracefulClose id observedAt _ => some (id, observedAt)
  | .start .. | .launch .. | .changeConnections _ => none

def timestamps (C : Chrono) : SessionOp → List String
  | .start input _ => [input.processStartedAt]
  | .launch _ input _ => [input.processStartedAt]
  | op => (op.observation C).toList.map (·.2)

/-- The arguments of a recording are well formed and the milestones it builds on are there. -/
def Prerequisites (X : External) (t : RuntimeSessionTables) (row : McpRuntimeSessionRecord) :
    SessionOp → Prop
  | .initializeAttempt _ _ requested _ => isBoundedText requested maxProtocolFieldBytes = true ∧
    row.attemptedClientName = none ∧ row.requestedProtocolVersion = none
  | .initializeCompletion _ selected _ => isBoundedText selected maxProtocolFieldBytes = true ∧
    row.attemptedClientName.isSome = true ∧ row.initializeCompletedAt = none
  | .initializedNotification _ negotiated _ => row.initializeCompletedAt.isSome = true ∧
    row.selectedProtocolVersion = some negotiated
  | .toolsList _ identities _ _ => returnedToolIdentitiesAreValid (sortDedup identities) = true ∧
    row.initializeCompletedAt.isSome = true
  | .verificationTool _ _ => row.initializedNotificationAt.isSome = true ∧
    row.requiredToolsPresent = some true ∧ row.terminalFindingId = none ∧
    row.sessionSource = .managedHost ∧ row.verificationToolName.all (· = managedHostRoundTripTool) ∧
    ∃ connection, t.connections.find? row.connectionInternalId = some connection ∧
      connection.enabled = true ∧
      connection.integrationRevision X = .ok row.connectionIntegrationRevision
  | .terminalFinding finding cleanup => finding.severity = .error ∧
    finding.connectionId = some row.connectionInternalId ∧
    finding.integrationRevision = some row.connectionIntegrationRevision ∧
    (t.connections.find? row.connectionInternalId).isSome = true ∧
    t.findings.find? finding.id = none ∧
    (finding.causes.all fun cause => cause = finding.id || (t.findings.find? cause).isSome) = true ∧
    row.gracefulCloseAt = none ∧ row.terminalFindingId = none ∧ cleanup = .ok ()
  | .gracefulClose _ _ cleanup => row.terminalFindingId = none ∧ cleanup = .ok ()
  | .start .. | .launch .. | .changeConnections _ => False

/-- The time of a recording is canonical and compares with the last observation of its session as
the instant does; a list is not recorded after a verified tool call, unless it validates the
required tools at that very time. -/
structure InOrder (X : External) (t : RuntimeSessionTables) (op : SessionOp) : Prop where
  canonical : ∀ text ∈ op.timestamps X.chrono, ∃ instant, X.chrono.Stamp text instant
  agrees : ∀ id observedAt row, op.observation X.chrono = some (id, observedAt) →
    t.sessions.find? id = some row → X.chrono.TextAgrees observedAt row.lastObservedAt
  listing : ∀ id identities present observedAt row,
    op = .toolsList id identities present observedAt → t.sessions.find? id = some row →
    ∀ verifiedAt ∈ row.verificationToolObservedAt, present ∧ observedAt ≤ verifiedAt

end SessionOp

structure SessionLaw (X : External) (e : SessionEvent) : Prop where
  readable : ∀ id, ∃ record, e.after.runtimeSessionFromConn X id = .ok record
  monotone : ∀ id row, e.before.sessions.find? id = some row →
    ∃ row' last last', e.after.sessions.find? id = some row' ∧
      X.chrono.parse row.lastObservedAt = some last ∧
      X.chrono.parse row'.lastObservedAt = some last' ∧ last ≤ last'
  exclusive : ∀ id row, e.after.sessions.find? id = some row →
    row.terminalFindingId = none ∨ row.gracefulCloseAt = none
  accepted : ∀ id observedAt row last observed,
    e.op.observation X.chrono = some (id, observedAt) → isBoundedText id maxDiagnosticFieldBytes →
    e.before.sessions.find? id = some row → e.op.Prerequisites X e.before row →
    X.chrono.parse row.lastObservedAt = some last → X.chrono.parse observedAt = some observed →
    last ≤ observed → ∃ record, e.result = .ok (some record)

def RuntimeSessionTables.Lawful (X : External) (t : RuntimeSessionTables) : Prop :=
  ∀ row ∈ t.sessions.rows, row.Lawful X

inductive SessionEffect (X : External) (t t' : RuntimeSessionTables) : Prop where
  | kept (hsame : t'.sessions = t.sessions)
  | started (row : McpRuntimeSessionRecord) (hinsert : t.sessions.insert? row = some t'.sessions)
      (hlaw : row.Lawful X)
  | recorded (row row' : McpRuntimeSessionRecord)
      (hfound : t.sessions.find? row.runtimeSessionId = some row)
      (hlookup : ∀ id, t'.sessions.find? id
        = if id = row.runtimeSessionId then some row' else t.sessions.find? id)
      (hlaw : row'.Lawful X) (hbefore : X.chrono.Before row.lastObservedAt row'.lastObservedAt)

namespace RuntimeSessionTables
variable {t' : RuntimeSessionTables}

theorem Lawful.find? (h : t.Lawful X) {id : String}
    (hfound : t.sessions.find? id = some row) : row.Lawful X :=
  h row (mem_of_find? hfound)

theorem Lawful.runtimeSessionFromConn (h : t.Lawful X) (id : String) :
    t.runtimeSessionFromConn X id = .ok (t.sessions.find? id) := by
  unfold RuntimeSessionTables.runtimeSessionFromConn
  cases hfound : t.sessions.find? id with
  | none => rfl
  | some row => simp [(h.find? hfound).validate, Except.map]

theorem requireRuntimeSession_eq_ok {id : String} : t.requireRuntimeSession X id = .ok row ↔
      t.sessions.find? id = some row ∧ row.validate X = .ok () := by
  unfold requireRuntimeSession RuntimeSessionTables.runtimeSessionFromConn
  cases hfound : t.sessions.find? id with
  | none => simp [okOr_eq_ok]
  | some found =>
    simp only [bind_eq_ok, okOr_eq_ok, map_eq_ok, Option.some.injEq]
    constructor
    · rintro ⟨_, ⟨u, hvalid, rfl⟩, hrow⟩
      obtain rfl := Option.some.inj hrow
      exact ⟨rfl, hvalid⟩
    · rintro ⟨rfl, hvalid⟩
      exact ⟨_, ⟨(), hvalid, rfl⟩, rfl⟩

end RuntimeSessionTables

section
variable {t t' : RuntimeSessionTables} (h : SessionEffect X t t') (hlaw : t.Lawful X)
include h hlaw

theorem SessionEffect.lawful : t'.Lawful X := by
  intro row hrow
  cases h with
  | kept hsame =>
    rw [hsame] at hrow
    exact hlaw row hrow
  | started fresh hinsert hfresh =>
    rcases (mem_insert? hinsert).mp hrow with hold | rfl
    · exact hlaw row hold
    · exact hfresh
  | recorded old new hfound hlookup hnew hbefore =>
    have hfind := find?_of_mem hrow
    rw [hlookup] at hfind
    split at hfind
    · rw [← Option.some.inj hfind]
      exact hnew
    · exact hlaw.find? hfind

theorem SessionEffect.monotone {id : String} (hrow : t.sessions.find? id = some row) :
    ∃ row' last last', t'.sessions.find? id = some row' ∧ X.chrono.parse row.lastObservedAt =
    some last ∧ X.chrono.parse row'.lastObservedAt = some last' ∧ last ≤ last' := by
  obtain ⟨last, hlast⟩ := (hlaw.find? hrow).timely.last.right
  cases h with
  | kept hsame => exact ⟨row, last, last, by rw [hsame, hrow], hlast.parse, hlast.parse, le_rfl⟩
  | started fresh hinsert hfresh =>
    refine ⟨row, last, last, ?_, hlast.parse, hlast.parse, le_rfl⟩
    have habsent := (insert?_eq_some hinsert).1
    have hne : fresh.runtimeSessionId ≠ id := by
      rintro rfl
      rw [habsent] at hrow
      cases hrow
    rw [find?_insert? hinsert, if_neg hne, hrow]
  | recorded old new hfound hlookup hnew hbefore =>
    by_cases hid : id = old.runtimeSessionId
    · subst hid
      obtain rfl := Option.some.inj (hfound.symm.trans hrow)
      obtain ⟨s, u, hs, hu, hle⟩ := hbefore.instant
      exact ⟨new, s, u, by rw [hlookup, if_pos rfl], hs.parse, hu.parse, hle⟩
    · exact ⟨row, last, last, by rw [hlookup, if_neg hid, hrow], hlast.parse, hlast.parse, le_rfl⟩

end

namespace RuntimeSessionTables
variable {t' : RuntimeSessionTables} {id : String}
  {guard : McpRuntimeSessionRecord → StoreResult Unit}
  {row : McpRuntimeSessionRecord → McpRuntimeSessionRecord}
  {hrow : ∀ record, (row record).runtimeSessionId = record.runtimeSessionId}
  {prior record : McpRuntimeSessionRecord}

theorem find?_update_session
    (hrow : ∀ record, (row record).runtimeSessionId = record.runtimeSessionId)
    (hfound : t.sessions.find? id = some prior) (k : String) :
    (t.sessions.update prior.runtimeSessionId row hrow).find? k
      = if k = prior.runtimeSessionId then some (row prior) else t.sessions.find? k := by
  have hkey := key_of_find? hfound
  rw [find?_update]
  split
  · rename_i hk
    rw [hk, hkey, hfound]
    rfl
  · rfl

theorem updateSession_ok (h : t.updateSession X id guard row hrow = .ok (record, t')) :
    ∃ prior, t.sessions.find? id = some prior ∧ guard prior = .ok () ∧ ∀ k, t'.sessions.find? k
        = if k = prior.runtimeSessionId then some (row prior) else t.sessions.find? k := by
  simp only [updateSession, writeSession, steps_ok, requireRuntimeSession_eq_ok, validateText] at h
  obtain ⟨_, prior, ⟨hfound, _⟩, _, hguard, t'', ⟨_, rfl⟩, _, _, hpair⟩ := h
  obtain ⟨rfl, rfl⟩ := Prod.mk.inj hpair
  exact ⟨prior, hfound, hguard, find?_update_session hrow hfound⟩

theorem updateSession_succeeds (hid : isBoundedText id maxDiagnosticFieldBytes)
    (hfound : t.sessions.find? id = some prior) (hprior : prior.Lawful X)
    (hguard : guard prior = .ok ()) (hlaw : (row prior).Lawful X) :
    ∃ record t', t.updateSession X id guard row hrow = .ok (record, t') := by
  have hkey := key_of_find? hfound
  refine ⟨row prior, { t with sessions := t.sessions.update prior.runtimeSessionId row hrow }, ?_⟩
  simp only [updateSession, writeSession, steps_ok, requireRuntimeSession_eq_ok, validateText]
  refine ⟨hid, prior, ⟨hfound, hprior.validate⟩, (), hguard, _, ⟨hlaw.checks, rfl⟩, row prior,
    ⟨?_, hlaw.validate⟩, rfl⟩
  rw [find?_update_session hrow hfound, if_pos hkey.symm]

/-- A recording over an accepted guard, when the guard admits only lawful successors. -/
theorem updateSession_effect (hlaw : t.Lawful X)
    (hnext : ∀ prior, t.sessions.find? id = some prior → prior.Lawful X → guard prior = .ok () →
      (row prior).Lawful X ∧ X.chrono.Before prior.lastObservedAt (row prior).lastObservedAt)
    (h : t.updateSession X id guard row hrow = .ok (record, t')) : SessionEffect X t t' := by
  obtain ⟨prior, hfound, hguard, hlookup⟩ := updateSession_ok h
  obtain ⟨hnew, hbefore⟩ := hnext prior hfound (hlaw.find? hfound) hguard
  refine .recorded prior (row prior) ?_ hlookup hnew hbefore
  rw [key_of_find? hfound, hfound]

end RuntimeSessionTables

namespace SessionOp
variable {id observedAt : String}

theorem mem_timestamps {C : Chrono} (hop : op.observation C = some (id, observedAt)) :
    observedAt ∈ op.timestamps C := by
  cases op with
  | start input generated => cases hop
  | launch id input expected => cases hop
  | _ => simp [timestamps, hop]

section
variable (h : op.InOrder X t) (hop : op.observation X.chrono = some (id, observedAt))
  (hfound : t.sessions.find? id = some row) (hrow : row.Lawful X)
include h hop hfound hrow

theorem InOrder.before (htime : ¬ observedAt < row.lastObservedAt) :
    X.chrono.Before row.lastObservedAt observedAt := by
  obtain ⟨observed, hobserved⟩ := h.canonical _ (mem_timestamps hop)
  obtain ⟨last, hlast⟩ := hrow.timely.last.right
  exact (h.agrees id observedAt row hop hfound).before hlast hobserved htime

/-- A time that is not before the last observation as an instant is accepted as a text. -/
theorem InOrder.accepts {last observed : UtcTimestamp}
    (hlast : X.chrono.parse row.lastObservedAt = some last)
    (hobserved : X.chrono.parse observedAt = some observed) (hle : last ≤ observed) :
    ¬ observedAt < row.lastObservedAt := by
  obtain ⟨observed', hobserved'⟩ := h.canonical _ (mem_timestamps hop)
  obtain ⟨last', hlast'⟩ := hrow.timely.last.right
  obtain rfl := Option.some.inj (hobserved'.parse.symm.trans hobserved)
  obtain rfl := Option.some.inj (hlast'.parse.symm.trans hlast)
  rw [h.agrees id observedAt row hop hfound _ _ hobserved' hlast']
  exact not_lt.mpr hle

end

end SessionOp

namespace RuntimeSessionTables
variable {t' : RuntimeSessionTables} {record : McpRuntimeSessionRecord} {id observedAt : String}
  {input : McpRuntimeSessionStart} {cleanup : StoreResult Unit}

section
variable (hlaw : t.Lawful X)
include hlaw

theorem recordMcpInitializeAttempt_effect {id requested observedAt : String}
    {client : ManagedMcpClientInfo}
    (horder : (SessionOp.initializeAttempt id client requested observedAt).InOrder X t)
    (h : t.recordMcpInitializeAttempt X id client requested observedAt = .ok (record, t')) :
    SessionEffect X t t' := by
  simp only [recordMcpInitializeAttempt, validateText, validateTimestamp, steps_ok] at h
  obtain ⟨hrequested, _, h⟩ := h
  refine updateSession_effect hlaw (fun prior hfound hprior hguard => ?_) h
  simp only [requireObservationTime, steps_ok, Bool.not_eq_true', decide_eq_false_iff_not,
    Bool.and_eq_true, Option.isNone_iff_eq_none] at hguard
  have hbefore := horder.before rfl hfound hprior hguard.1
  exact ⟨(hprior.observe hbefore).attempt client hrequested hguard.2.1, hbefore⟩

theorem recordMcpInitializeCompletion_effect {id selected observedAt : String}
    (horder : (SessionOp.initializeCompletion id selected observedAt).InOrder X t)
    (h : t.recordMcpInitializeCompletion X id selected observedAt = .ok (record, t')) :
    SessionEffect X t t' := by
  simp only [recordMcpInitializeCompletion, validateText, validateTimestamp, steps_ok] at h
  obtain ⟨hselected, _, h⟩ := h
  refine updateSession_effect hlaw (fun prior hfound hprior hguard => ?_) h
  simp only [requireObservationTime, steps_ok, Bool.not_eq_true', decide_eq_false_iff_not,
    Bool.and_eq_true, Option.isNone_iff_eq_none] at hguard
  obtain ⟨htime, ⟨hname, _⟩, hcompleted⟩ := hguard
  have hbefore := horder.before rfl hfound hprior htime
  exact ⟨(hprior.observe hbefore).complete hselected hname hcompleted, hbefore⟩

theorem recordMcpInitializedNotification_effect {id negotiated observedAt : String}
    (horder : (SessionOp.initializedNotification id negotiated observedAt).InOrder X t)
    (h : t.recordMcpInitializedNotification X id negotiated observedAt = .ok (record, t')) :
    SessionEffect X t t' := by
  simp only [recordMcpInitializedNotification, validateText, validateTimestamp, steps_ok] at h
  obtain ⟨_, _, h⟩ := h
  refine updateSession_effect hlaw (fun prior hfound hprior hguard => ?_) h
  simp only [requireObservationTime, steps_ok, Bool.not_eq_true', decide_eq_false_iff_not,
    decide_eq_true_eq] at hguard
  obtain ⟨htime, hcompleted, hselected, _⟩ := hguard
  have hbefore := horder.before rfl hfound hprior htime
  exact ⟨(hprior.observe hbefore).initialized hcompleted hselected, hbefore⟩

theorem recordMcpToolsList_effect {identities : List String} {present : Bool}
    (horder : (SessionOp.toolsList id identities present observedAt).InOrder X t)
    (h : t.recordMcpToolsList X id identities present observedAt = .ok (record, t')) :
    SessionEffect X t t' := by
  simp only [recordMcpToolsList, validateTimestamp, steps_ok] at h
  obtain ⟨_, hidentities, h⟩ := h
  refine updateSession_effect hlaw (fun prior hfound hprior hguard => ?_) h
  simp only [requireObservationTime, steps_ok, Bool.not_eq_true', decide_eq_false_iff_not] at hguard
  have hbefore := horder.before rfl hfound hprior hguard.1
  have hverified := horder.listing id identities present observedAt prior rfl hfound
  exact ⟨(hprior.observe hbefore).listed hidentities hguard.2 hverified, hbefore⟩

theorem recordMcpVerificationToolObservation_effect
    (horder : (SessionOp.verificationTool id observedAt).InOrder X t)
    (h : t.recordMcpVerificationToolObservation X id observedAt = .ok (record, t')) :
    SessionEffect X t t' := by
  simp only [recordMcpVerificationToolObservation, validateTimestamp, steps_ok] at h
  obtain ⟨_, h⟩ := h
  refine updateSession_effect hlaw (fun prior hfound hprior hguard => ?_) h
  simp only [requireObservationTime, steps_ok, Bool.not_eq_true', decide_eq_false_iff_not,
    Bool.and_eq_true] at hguard
  obtain ⟨htime, hinitialized, ⟨_, hrequired⟩, _⟩ := hguard
  have hbefore := horder.before rfl hfound hprior htime
  exact ⟨(hprior.observe hbefore).verified hinitialized hrequired, hbefore⟩

theorem recordMcpGracefulClose_effect
    (horder : (SessionOp.gracefulClose id observedAt cleanup).InOrder X t)
    (h : t.recordMcpGracefulClose X id observedAt = .ok (record, t')) : SessionEffect X t t' := by
  simp only [recordMcpGracefulClose, validateTimestamp, steps_ok] at h
  obtain ⟨_, h⟩ := h
  refine updateSession_effect hlaw (fun prior hfound hprior hguard => ?_) h
  simp only [requireObservationTime, steps_ok, Bool.not_eq_true', decide_eq_false_iff_not,
    Option.isNone_iff_eq_none] at hguard
  have hbefore := horder.before rfl hfound hprior hguard.1
  exact ⟨(hprior.observe hbefore).closed hguard.2, hbefore⟩

end

theorem linkTerminalFinding_runtimeSessionId (findingId observedAt : String)
    (row : McpRuntimeSessionRecord) :
    (linkTerminalFinding findingId observedAt row).runtimeSessionId = row.runtimeSessionId := rfl

theorem insertAndLinkRuntimeTerminalOccurrence_effect (hlaw : t.Lawful X)
    (horder : (SessionOp.terminalFinding finding cleanup).InOrder X t)
    (h : t.insertAndLinkRuntimeTerminalOccurrence X finding = .ok t') : SessionEffect X t t' := by
  simp only [insertAndLinkRuntimeTerminalOccurrence, bind_eq_ok, okOr_eq_ok] at h
  obtain ⟨id, hid, _, _, findings, _, h⟩ := h
  simp only [linkTerminalOccurrenceInTx, validateText, steps_ok, requireRuntimeSession_eq_ok,
    Option.isNone_iff_eq_none] at h
  obtain ⟨_, runtime, ⟨hfound, _⟩, _, hclose, h⟩ := h
  by_cases hsame : runtime.terminalFindingId = some finding.id
  · rw [if_pos hsame, pure_eq_ok] at h
    subst h
    exact .kept rfl
  · simp only [hsame, if_false, steps_ok, writeSession, Bool.not_eq_true',
      decide_eq_false_iff_not] at h
    obtain ⟨_, htime, _, rfl⟩ := h
    have hruntime := hlaw.find? hfound
    have hop : (SessionOp.terminalFinding finding cleanup).observation X.chrono
        = some (id, X.chrono.toCanonicalString finding.observedAt) := by
      simp [SessionOp.observation, hid]
    have hbefore := horder.before hop hfound hruntime htime
    exact .recorded runtime
      (linkTerminalFinding finding.id (X.chrono.toCanonicalString finding.observedAt) runtime)
      (by rw [key_of_find? hfound, hfound])
      (find?_update_session (linkTerminalFinding_runtimeSessionId _ _) hfound)
      ((hruntime.observe hbefore).terminated finding.idValid hclose) hbefore

/-- An occurrence belongs to a session and may end it. -/
structure Fits (t : RuntimeSessionTables) (finding : OccurrenceDiagnosticFinding) (id : String)
    (row : McpRuntimeSessionRecord) : Prop where
  session : finding.runtimeSessionId = some id
  found : t.sessions.find? id = some row
  severity : finding.severity = .error
  connection : finding.connectionId = some row.connectionInternalId
  revision : finding.integrationRevision = some row.connectionIntegrationRevision
  connected : (t.connections.find? row.connectionInternalId).isSome
  fresh : t.findings.find? finding.id = none
  causes : (finding.causes.all fun cause =>
    cause = finding.id || (t.findings.find? cause).isSome) = true
  notClosed : row.gracefulCloseAt = none
  notEnded : row.terminalFindingId = none

section
variable (h : t.Fits finding id row)
include h

theorem Fits.validateGraphReferences (hlaw : t.Lawful X) :
    t.validateGraphReferences X finding = .ok () := by
  simp only [RuntimeSessionTables.validateGraphReferences, steps_ok, h.session,
    hlaw.runtimeSessionFromConn, Except.ok.injEq, exists_eq_left', h.found, Option.some.injEq,
    h.connection, h.revision, h.fresh]
  exact ⟨rfl, by simpa using h.connected, by simp, h.causes⟩

theorem Fits.linkTerminalOccurrenceInTx (hrow : row.Lawful X)
    (hid : isBoundedText id maxDiagnosticFieldBytes)
    (htime : (!decide (X.chrono.toCanonicalString finding.observedAt < row.lastObservedAt)) = true)
    (hlinked : (linkTerminalFinding finding.id (X.chrono.toCanonicalString finding.observedAt)
      row).Lawful X) (findings : Table OccurrenceDiagnosticFinding.id) :
    ({ t with findings := findings }.linkTerminalOccurrenceInTx X id finding)
      = .ok ⟨t.connections, t.sessions.update row.runtimeSessionId
          (linkTerminalFinding finding.id (X.chrono.toCanonicalString finding.observedAt))
          (linkTerminalFinding_runtimeSessionId _ _), findings⟩ := by
  simp only [RuntimeSessionTables.linkTerminalOccurrenceInTx, validateText, writeSession, steps_ok,
    requireRuntimeSession_eq_ok]
  refine ⟨hid, row, ⟨h.found, hrow.validate⟩, ?_, by simp [h.notClosed], ?_⟩
  · simp [h.severity, h.session, h.connection, h.revision]
  · rw [if_neg (by simp [h.notEnded])]
    simp only [steps_ok]
    exact ⟨by simp [h.notEnded], htime, hlinked.checks, trivial⟩

theorem Fits.insertAndLink (hlaw : t.Lawful X) (hid : isBoundedText id maxDiagnosticFieldBytes)
    (htime : (!decide (X.chrono.toCanonicalString finding.observedAt < row.lastObservedAt)) = true)
    (hbefore : X.chrono.Before row.lastObservedAt (X.chrono.toCanonicalString finding.observedAt)) :
    ∃ t' record, t.insertAndLinkRuntimeTerminalOccurrence X finding = .ok t' ∧
      t'.requireRuntimeSession X id = .ok record := by
  have hrow := hlaw.find? h.found
  have hlinked : (linkTerminalFinding finding.id (X.chrono.toCanonicalString finding.observedAt)
      row).Lawful X := (hrow.observe hbefore).terminated finding.idValid h.notClosed
  obtain ⟨findings, hinsert⟩ := exists_insert? h.fresh
  have hok := h.linkTerminalOccurrenceInTx hrow hid htime hlinked findings
  have hall : ∀ t', { t with findings := findings }.linkTerminalOccurrenceInTx X id finding
    = .ok t' →
      t.insertAndLinkRuntimeTerminalOccurrence X finding = .ok t' := by
    intro t' hlink
    simp only [insertAndLinkRuntimeTerminalOccurrence, bind_eq_ok, okOr_eq_ok]
    exact ⟨id, h.session, (), h.validateGraphReferences hlaw, findings, hinsert, hlink⟩
  refine ⟨_, _, hall _ hok, requireRuntimeSession_eq_ok.mpr ⟨?_, hlinked.validate⟩⟩
  rw [find?_update_session (linkTerminalFinding_runtimeSessionId _ _) h.found,
    if_pos (key_of_find? h.found).symm]

end

theorem startedSession_lawful {id revision : String} (hvalid : validateStart X input = .ok ())
    (hchecks : (startedSession id revision input).checks)
    (hstamp : ∃ started, X.chrono.Stamp input.processStartedAt started) :
    (startedSession id revision input).Lawful X := by
  obtain ⟨started, hstarted⟩ := hstamp
  simp only [validateStart, steps_ok, decide_eq_true_eq] at hvalid
  obtain ⟨_, _, hversion, hprocess, _⟩ := hvalid
  have hrevision : isCanonicalSha256Digest revision := by
    simp only [McpRuntimeSessionRecord.checks, Bool.and_eq_true] at hchecks
    exact hchecks.1.1.1.1.1.1.1.1.1.1.1.1.1.1.1.1.1.1.1.1.1.1
  refine ⟨⟨hrevision, hprocess, hversion, rfl, rfl, rfl, ?_, rfl, .inl rfl, rfl, rfl, rfl, rfl,
    .inl rfl⟩, ⟨.refl hstarted, ?_, ?_, ?_, ?_, ?_, ?_⟩⟩ <;> simp [startedSession]

theorem insertMcpRuntimeSession_effect {expected : Option String}
    (hstamp : ∃ started, X.chrono.Stamp input.processStartedAt started)
    (h : t.insertMcpRuntimeSession X id input expected = .ok (some (record, t'))) :
    SessionEffect X t t' := by
  simp only [insertMcpRuntimeSession, steps_ok] at h
  obtain ⟨_, hvalid, connection, _, revision, _, _, h⟩ := h
  cases hinsert : t.sessions.insert? (startedSession id revision input) with
  | none => simp [hinsert, pure_eq_ok] at h
  | some sessions =>
    rw [hinsert] at h
    by_cases hchecks : (startedSession id revision input).checks
    · simp only [hchecks, if_true, steps_ok, Option.some.injEq, Prod.mk.injEq] at h
      obtain ⟨_, _, _, rfl⟩ := h
      exact .started _ hinsert (startedSession_lawful hvalid hchecks hstamp)
    · simp [hchecks, pure_eq_ok] at h

theorem startMcpRuntimeSessionWith_effect {generated : List String}
    (hstamp : ∃ started, X.chrono.Stamp input.processStartedAt started)
    (h : t.startMcpRuntimeSessionWith X input generated = .ok (record, t')) :
    SessionEffect X t t' := by
  induction generated with
  | nil => cases h
  | cons id rest ih =>
    simp only [startMcpRuntimeSessionWith, bind_eq_ok] at h
    obtain ⟨started, hstarted, h⟩ := h
    cases started with
    | none => exact ih h
    | some pair =>
      simp only [pure_eq_ok] at h
      rw [h] at hstarted
      exact insertMcpRuntimeSession_effect hstamp hstarted

end RuntimeSessionTables

open RuntimeSessionTables

theorem published_effect {α : Type} {result : StoreResult (α × RuntimeSessionTables)}
    (h : ∀ value t', result = .ok (value, t') → SessionEffect X t t') :
    SessionEffect X t (published t result).2 := by
  cases result with
  | error error => exact .kept rfl
  | ok pair => exact h pair.1 pair.2 rfl

theorem sessionStep_effect
    (hlaw : t.Lawful X) (horder : op.InOrder X t) : SessionEffect X t (sessionStep X t op).2 := by
  cases op with
  | start input generated =>
    change SessionEffect X t (published t (t.startMcpRuntimeSession X input generated)).2
    refine published_effect fun record t' h => ?_
    simp only [startMcpRuntimeSession, steps_ok] at h
    obtain ⟨_, _, _, h⟩ := h
    exact startMcpRuntimeSessionWith_effect (horder.canonical _ (List.mem_singleton.mpr rfl)) h
  | launch id input expected =>
    have hstamp := horder.canonical input.processStartedAt (List.mem_singleton.mpr rfl)
    simp only [sessionStep]
    split
    case h_1 record t' h => exact insertMcpRuntimeSession_effect hstamp h
    all_goals exact .kept rfl
  | initializeAttempt id client requested observedAt =>
    exact published_effect fun _ _ => recordMcpInitializeAttempt_effect hlaw horder
  | initializeCompletion id selected observedAt =>
    exact published_effect fun _ _ => recordMcpInitializeCompletion_effect hlaw horder
  | initializedNotification id negotiated observedAt =>
    exact published_effect fun _ _ => recordMcpInitializedNotification_effect hlaw horder
  | toolsList id identities present observedAt =>
    exact published_effect fun _ _ => recordMcpToolsList_effect hlaw horder
  | verificationTool id observedAt =>
    exact published_effect fun _ _ => recordMcpVerificationToolObservation_effect hlaw horder
  | terminalFinding finding cleanup =>
    simp only [sessionStep, sessionStep.wrap, recordMcpTerminalFinding]
    cases h : t.insertAndLinkRuntimeTerminalOccurrence X finding with
    | error error => exact .kept rfl
    | ok t' => exact insertAndLinkRuntimeTerminalOccurrence_effect hlaw horder h
  | gracefulClose id observedAt cleanup =>
    exact published_effect fun _ _ => recordMcpGracefulClose_effect hlaw horder
  | changeConnections connections => exact .kept rfl

theorem listed_of_present {r : McpRuntimeSessionRecord} (h : r.validateToolsList = .ok ())
    (hpresent : r.requiredToolsPresent = some true) : r.requiredToolsValidatedAt.isSome := by
  rcases McpRuntimeSessionRecord.listing_cases h with ⟨_, _, hnone, _⟩ | ⟨_, _, present, _, _, hp,
    hs⟩
  · rw [hnone] at hpresent
    cases hpresent
  · rw [hp] at hpresent
    rw [hs]
    exact Option.some.inj hpresent

theorem published_accepts {result : StoreResult (McpRuntimeSessionRecord × RuntimeSessionTables)}
    (h : ∃ record t', result = .ok (record, t')) :
    ∃ record, (sessionStep.wrap (published t result)).1 = .ok (some record) := by
  obtain ⟨record, t', rfl⟩ := h
  exact ⟨record, rfl⟩

/-- A recording whose prerequisites hold is not refused for its time or by a constraint. -/
theorem sessionStep_accepted (hlaw : t.Lawful X) (horder : op.InOrder X t) {id observedAt : String}
    (hop : op.observation X.chrono = some (id, observedAt))
    (hid : isBoundedText id maxDiagnosticFieldBytes) (hfound : t.sessions.find? id = some row)
    (hprior : op.Prerequisites X t row) (htime : ¬ observedAt < row.lastObservedAt) : ∃ record,
    (sessionStep X t op).1 = .ok (some record) := by
  have hrow := hlaw.find? hfound
  have htimely : (!decide (observedAt < row.lastObservedAt)) = true := by simpa using htime
  have hbefore := horder.before hop hfound hrow htime
  obtain ⟨observed, hobserved⟩ := horder.canonical _ (SessionOp.mem_timestamps hop)
  have hparse : (X.chrono.parse observedAt).isSome := by
    rw [hobserved.parse]
    rfl
  have hobserve := hrow.observe hbefore
  cases op with
  | start input generated => cases hop
  | launch id input expected => cases hop
  | changeConnections connections => cases hop
  | initializeAttempt id' client requested observedAt' =>
    obtain ⟨rfl, rfl⟩ := Prod.mk.inj (Option.some.inj hop)
    obtain ⟨hrequested, hname, hversion⟩ := hprior
    refine published_accepts ?_
    simp only [recordMcpInitializeAttempt, validateText, validateTimestamp, steps_ok, hrequested,
      hparse, true_and]
    refine updateSession_succeeds hid hfound hrow ?_ (hobserve.attempt client hrequested hname)
    simp only [requireObservationTime, steps_ok]
    exact ⟨htimely, by simp [hname, hversion]⟩
  | initializeCompletion id' selected observedAt' =>
    obtain ⟨rfl, rfl⟩ := Prod.mk.inj (Option.some.inj hop)
    obtain ⟨hselected, hname, hcompleted⟩ := hprior
    obtain ⟨name, hname'⟩ := Option.isSome_iff_exists.mp hname
    obtain ⟨_, requested, hpeer⟩ := McpRuntimeSessionRecord.peerColumns_of hrow.shaped.peer hname'
    refine published_accepts ?_
    simp only [recordMcpInitializeCompletion, validateText, validateTimestamp, steps_ok,
      hselected, hparse, true_and]
    refine updateSession_succeeds hid hfound hrow ?_ (hobserve.complete hselected hname hcompleted)
    simp only [requireObservationTime, steps_ok]
    exact ⟨htimely, by simp [hname', hpeer.requestedColumn], by simp [hcompleted]⟩
  | initializedNotification id' negotiated observedAt' =>
    obtain ⟨rfl, rfl⟩ := Prod.mk.inj (Option.some.inj hop)
    obtain ⟨hcompleted, hselected⟩ := hprior
    have hbounded : isBoundedText negotiated maxProtocolFieldBytes := by
      obtain ⟨name, hname⟩ :=
        Option.isSome_iff_exists.mp (hrow.shaped.selectedPeer (by rw [hselected]; rfl)).1
      obtain ⟨_, _, hpeer⟩ := McpRuntimeSessionRecord.peerColumns_of hrow.shaped.peer hname
      simpa [hselected] using hpeer.selected
    have hsame : row.negotiatedProtocolVersion.all (· = negotiated) = true := by
      rcases hrow.shaped.negotiated with hnone | hsame
      · simp [hnone]
      · simp [hsame, hselected]
    refine published_accepts ?_
    simp only [recordMcpInitializedNotification, validateText, validateTimestamp, steps_ok,
      hbounded, hparse, true_and]
    refine updateSession_succeeds hid hfound hrow ?_ (hobserve.initialized hcompleted hselected)
    simp only [requireObservationTime, steps_ok]
    exact ⟨htimely, hcompleted, by simp [hselected], hsame⟩
  | toolsList id' identities present observedAt' =>
    obtain ⟨rfl, rfl⟩ := Prod.mk.inj (Option.some.inj hop)
    obtain ⟨hidentities, hcompleted⟩ := hprior
    have hverified := horder.listing id' identities present observedAt' row rfl hfound
    refine published_accepts ?_
    simp only [recordMcpToolsList, validateTimestamp, steps_ok, hidentities, hparse, true_and]
    refine updateSession_succeeds hid hfound hrow ?_
      (hobserve.listed hidentities hcompleted hverified)
    simp only [requireObservationTime, steps_ok]
    exact ⟨htimely, hcompleted⟩
  | verificationTool id' observedAt' =>
    obtain ⟨rfl, rfl⟩ := Prod.mk.inj (Option.some.inj hop)
    obtain ⟨hinitialized, hpresent, hterminal, hsource, hname, connection, hconnection, henabled,
      hrevision⟩ := hprior
    have hrequired := listed_of_present hrow.shaped.listing hpresent
    refine published_accepts ?_
    simp only [recordMcpVerificationToolObservation, validateTimestamp, steps_ok, hparse, true_and]
    refine updateSession_succeeds hid hfound hrow ?_ (hobserve.verified hinitialized hrequired)
    simp only [requireObservationTime, steps_ok]
    exact ⟨htimely, hinitialized, by simp [hpresent, hrequired], by simp [hterminal], connection,
      hconnection, _, hrevision, by simp [henabled, hsource], hname⟩
  | terminalFinding finding cleanup =>
    obtain ⟨id', hrun, hpair⟩ := Option.map_eq_some_iff.mp hop
    obtain ⟨rfl, rfl⟩ := Prod.mk.inj hpair
    obtain ⟨hseverity, hconnection, hrevision, hexists, hfresh, hcauses, hclose, hterminal, rfl⟩ :=
      hprior
    have hfits : t.Fits finding id' row := ⟨hrun, hfound, hseverity, hconnection, hrevision,
      hexists, hfresh, hcauses, hclose, hterminal⟩
    obtain ⟨t', record, h, hread⟩ := hfits.insertAndLink hlaw hid htimely hbefore
    refine ⟨record, ?_⟩
    simp only [sessionStep, sessionStep.wrap, recordMcpTerminalFinding, h, hrun, Option.getD_some,
      hread]
    change (afterCleanup record (.ok ())).map some = _
    unfold afterCleanup
    split <;> rfl
  | gracefulClose id' observedAt' cleanup =>
    obtain ⟨rfl, rfl⟩ := Prod.mk.inj (Option.some.inj hop)
    obtain ⟨hterminal, rfl⟩ := hprior
    obtain ⟨record, t', h⟩ : ∃ record t',
        t.recordMcpGracefulClose X id' observedAt' = .ok (record, t') := by
      simp only [recordMcpGracefulClose, validateTimestamp, steps_ok, hparse, true_and]
      refine updateSession_succeeds hid hfound hrow ?_ (hobserve.closed hterminal)
      simp only [requireObservationTime, steps_ok]
      exact ⟨htimely, by simp [hterminal]⟩
    refine ⟨record, ?_⟩
    simp only [sessionStep, sessionStep.wrap, h, published, Except.bind, afterCleanup]
    split <;> rfl

theorem sessionStep_law (hlaw : t.Lawful X) (horder : op.InOrder X t) :
    SessionLaw X (Transition.fire (sessionStep X) t op) := by
  have heffect := sessionStep_effect hlaw horder
  have hafter := heffect.lawful hlaw
  refine ⟨fun id => ⟨_, hafter.runtimeSessionFromConn id⟩, fun id row => heffect.monotone hlaw,
    fun id row hrow => (hafter.find? hrow).shaped.exclusive, ?_⟩
  intro id observedAt row last observed hop hid hfound hprior hlast hobserved hle
  have hrow := hlaw.find? hfound
  have htime := horder.accepts hop hfound hrow hlast hobserved hle
  exact sessionStep_accepted hlaw horder hop hid hfound hprior htime

/-- In every run whose times are in order the session rows stay readable and monotone, and no
call whose prerequisites hold is refused for its time or by a constraint. -/
theorem runtime_sessions_readable (X : External) (t : RuntimeSessionTables) (ops : List SessionOp)
    (hempty : t.sessions.rows = [])
    (horder : ∀ e ∈ Transition.trace (sessionStep X) t ops, e.op.InOrder X e.before) :
    ∀ e ∈ Transition.trace (sessionStep X) t ops, SessionLaw X e := by
  intro e he
  have hstart : t.Lawful X := by
    intro row hrow
    rw [hempty] at hrow
    cases hrow
  have hbefore : e.before.Lawful X := Transition.trace_invariant_of_trace
    (I := RuntimeSessionTables.Lawful X) (C := fun e => e.op.InOrder X e.before)
    (fun s op hs hop => (sessionStep_effect hs hop).lawful hs) hstart horder he
  rw [Transition.eq_fire_of_mem_trace he]
  exact sessionStep_law hbefore (horder e he)

def SessionOp.inOrder (X : External) (t : RuntimeSessionTables) (op : SessionOp) : Bool :=
  (op.timestamps X.chrono).all (fun text => (X.chrono.parse text).any fun instant =>
    text = X.chrono.toCanonicalString instant
    && X.chrono.ensureCanonicalRfc3339Representable instant)
  && (op.observation X.chrono).all (fun (id, observedAt) =>
    (t.sessions.find? id).all fun row =>
      match X.chrono.parse observedAt, X.chrono.parse row.lastObservedAt with
      | some observed, some last =>
        decide (observedAt < row.lastObservedAt) == decide (observed < last)
      | _, _ => true)
  && match op with
    | .toolsList id _ present observedAt => (t.sessions.find? id).all fun row =>
      row.verificationToolObservedAt.all fun verifiedAt => present && observedAt ≤ verifiedAt
    | _ => true

theorem SessionOp.inOrder_sound (h : op.inOrder X t) : op.InOrder X t := by
  simp only [SessionOp.inOrder, Bool.and_eq_true, List.all_eq_true] at h
  obtain ⟨⟨hcanonical, hagrees⟩, hlisting⟩ := h
  refine ⟨fun text htext => ?_, ?_, ?_⟩
  · obtain ⟨instant, _, hprinted⟩ := (Option.any_eq_true _ _).mp (hcanonical text htext)
    simp only [Bool.and_eq_true, decide_eq_true_eq] at hprinted
    exact ⟨instant, hprinted.1, hprinted.2⟩
  · intro id observedAt row hop hfound s u hs hu
    simp only [hop, hfound, hs.parse, hu.parse, Option.all_some, beq_iff_eq] at hagrees
    exact decide_eq_decide.mp hagrees
  · rintro id identities present observedAt row rfl hfound verifiedAt hverified
    simpa [hfound, Option.mem_def.mp hverified] using hlisting

/- Sample sessions of one managed connection, under RFC 3339 texts. -/

def registryExternal : External :=
  ⟨Rfc3339.chrono, JsonText.serde, fun _ => String.ofList (List.replicate 64 'a')⟩

def sampleConnection : AgentConnectionRecord where
  connectionInternalId := "connection"
  integrationInstanceId := "instance"
  hostKind := "codex"
  intent := "personal"
  hostScope := "user"
  serverName := "volicord"
  configTarget := "config"
  mode := "workflow"
  enabled := true
  managedFingerprint := "fingerprint"
  integrationGeneration := 1

def sampleRevision : String := "sha256:" ++ String.ofList (List.replicate 64 'a')

def sampleRegistry : RuntimeSessionTables :=
  ⟨⟨[sampleConnection], by simp⟩, .empty, .empty⟩

def sampleClient : ManagedMcpClientInfo := ⟨"client", "1", by decide, by decide⟩

def sampleLaunch (startedAt : String) : SessionOp :=
  .launch "session" ⟨"connection", .managedHost, none, 1, startedAt⟩ sampleRevision

/-- A managed session that is started and initialized within two seconds. -/
def sampleSession : List SessionOp :=
  [sampleLaunch "2026-01-01T00:00:00Z",
    .initializeAttempt "session" sampleClient "1" "2026-01-01T00:00:01Z",
    .initializeCompletion "session" "1" "2026-01-01T00:00:01Z"]

theorem runtime_sessions_readable_sample :
    (Transition.trace (sessionStep registryExternal) sampleRegistry sampleSession).all
      (fun e => e.op.inOrder registryExternal e.before) = true ∧
    ∀ e ∈ Transition.trace (sessionStep registryExternal) sampleRegistry sampleSession,
      SessionLaw registryExternal e := by
  have hall : (Transition.trace (sessionStep registryExternal) sampleRegistry sampleSession).all
      (fun e => e.op.inOrder registryExternal e.before) = true := by decide +kernel
  refine ⟨hall, runtime_sessions_readable registryExternal sampleRegistry _ rfl fun e he => ?_⟩
  exact SessionOp.inOrder_sound (List.all_eq_true.mp hall e he)

def sampleFinding (observedAt : UtcTimestamp) : OccurrenceDiagnosticFinding :=
  ⟨"finding", .error, some "session", some "connection", some sampleRevision, [], observedAt,
    by decide⟩

/-- A milestone half a second later is refused, and a terminal finding half a second earlier is
accepted and leaves a row that cannot be read. -/
theorem runtime_session_refuses_later :
    (Transition.trace (sessionStep registryExternal) sampleRegistry
      [sampleLaunch "2026-01-01T00:00:00Z",
        .initializeAttempt "session" sampleClient "1" "2026-01-01T00:00:00.500Z"]).map
      (fun e => e.result.map (·.map (·.lastObservedAt)))
      = [.ok (some "2026-01-01T00:00:00Z"), .error (.conflict "mcp_runtime_session" "session"
        "milestone timestamp precedes the last observation")] ∧
    ((Transition.run (sessionStep registryExternal) sampleRegistry
      [sampleLaunch "2026-01-01T00:00:00.500Z",
        .terminalFinding (sampleFinding 1767225600000000000) (.ok ())]).runtimeSessionFromConn
      registryExternal "session").map (fun _ => ())
      = .error (.corruptOwnerStateValue "mcp_runtime_sessions" "session" "last_observed_at") := by
  decide +kernel

end Volicord
