import Volicord.Store.Commit

/-! What a commit can do, said once: it publishes exactly the effect of one applied
mutation, or it leaves handle and database as they were. -/
namespace Volicord
open Result Transaction
variable {A : Type}
variable {X : External} {current : ProjectStateHeader} {u : Unit} {admitted : AdmittedCommit}
variable {context : VerifiedReplayContext} {t : UtcTimestamp} {answer : CommitAnswer}
  {session : SqliteSession}
variable {call : CommitCall A} {db db' : ProjectDb A} {R : AggregateReaders A}
  {previous : Option String} {row : AuthorityEventRow}

def eventRows (X : External) (batch : EventBatch) :
    Int → Option String → List PendingTaskEvent → List AuthorityEventRow
  | _, _, [] => []
  | eventSeq, previous, event :: events =>
    let row := batch.row X eventSeq previous event
    row :: eventRows X batch (eventSeq + 1) (some row.eventHash) events

theorem eventRows_eventIds (X : External) (batch : EventBatch) (events : List PendingTaskEvent)
    (eventSeq : Int) (previous : Option String) :
    (eventRows X batch eventSeq previous events).map (·.eventId) = events.map (·.eventId) := by
  induction events generalizing eventSeq previous with
  | nil => rfl
  | cons event events ih => simp [eventRows, ih, EventBatch.row]

/-- Every row of a batch carries the batch's columns and its own recomputable hash. -/
theorem mem_eventRows {batch : EventBatch} {events : List PendingTaskEvent} {eventSeq : Int}
    (h : row ∈ eventRows X batch eventSeq previous events) : row.stateVersion = batch.stateVersion ∧
    row.createdAt = batch.createdAt ∧ row.eventHash = authorityEventHash X row := by
  induction events generalizing eventSeq previous with
  | nil => simp [eventRows] at h
  | cons event events ih =>
    rcases List.mem_cons.mp h with rfl | ht
    · exact ⟨rfl, rfl, rfl⟩
    · exact ih ht

theorem run_eq_ok {statement : SqlStatement} :
    session.run statement = .ok u ↔ session.fails statement = false := by
  simp [SqliteSession.run]

theorem insertEvent_ok {index : Nat}
    (h : exec (insertEvent R session index row) db = (.ok u, db')) :
    db' = { db with authorityEvents := db.authorityEvents ++ [row] } := by
  unfold insertEvent at h
  exact exec_checked_modify h

theorem appendEvents_ok
    {batch : EventBatch} {first : Int} (events : List PendingTaskEvent) {index : Nat}
    (h : exec (appendEvents X R session batch first index previous events) db = (.ok u, db')) :
    db' = { db with authorityEvents :=
      db.authorityEvents ++ eventRows X batch (first + index) previous events } := by
  induction events generalizing index previous db with
  | nil =>
    rw [appendEvents, exec_pure] at h
    simpa [eventRows] using (Prod.mk.inj h).2.symm
  | cons event events ih =>
    rw [appendEvents] at h
    obtain ⟨_, _, h⟩ := exec_lift_bind_ok.mp h
    obtain ⟨_, db₁, hinsert, h⟩ := exec_bind_ok.mp h
    have hnext : first + ((index + 1 : Nat) : Int) = first + index + 1 := by omega
    rw [ih h, insertEvent_ok hinsert, hnext]
    simp [eventRows]

theorem updateProjectState_ok {current committed : Int} {updatedAt : String}
    (h : exec (updateProjectState session current committed updatedAt) db = (.ok u, db')) :
    db' = { db with stateVersion := committed, updatedAt := updatedAt } := by
  unfold updateProjectState at h
  exact exec_checked_modify h

/-- The replay rows a commit adds: one for a call with a key, none without. -/
def CommitCall.invocationRows (X : External) (call : CommitCall A)
    (context : VerifiedReplayContext) (projectId responseJson createdAt : String)
    (basis committed : Int) : List ToolInvocationRow :=
  match call.input.idempotencyKey with
  | none => []
  | some key =>
    [call.input.invocationRow X context projectId key responseJson createdAt basis committed]

theorem recordToolInvocation_ok {responseJson createdAt : String} {basis committed : Int}
    (h : exec (recordToolInvocation X call context responseJson createdAt basis committed) db
      = (.ok u, db')) :
    db' = { db with toolInvocations := db.toolInvocations ++
      call.invocationRows X context db.projectId responseJson createdAt basis committed } := by
  unfold recordToolInvocation at h
  rw [exec_get_bind] at h
  unfold CommitCall.invocationRows
  cases hkey : call.input.idempotencyKey with
  | none =>
    rw [hkey] at h
    simpa using (Prod.mk.inj h).2.symm
  | some key =>
    rw [hkey] at h
    dsimp only at h ⊢
    unfold insertToolInvocation at h
    exact exec_checked_modify h

theorem u64ToI64_ok {field : String} {value : Nat} {i : Int}
    (h : u64ToI64 field value = .ok i) : i = value := by
  unfold u64ToI64 at h
  split at h
  · exact (Except.ok.inj h).symm
  · simp at h

theorem nonnegativeI64ToU64_ok {field : String} {value : Int} {n : Nat}
    (h : nonnegativeI64ToU64 field value = .ok n) : value = n := by
  unfold nonnegativeI64ToU64 at h
  split at h
  · simp at h
  · have := Except.ok.inj h
    omega

theorem parseRepresentable_ok {text : String} {e₁ e₂ : StoreError}
    (h : parseRepresentable X text e₁ e₂ = .ok t) :
    X.chrono.parse text = some t ∧ X.chrono.ensureCanonicalRfc3339Representable t := by
  unfold parseRepresentable at h
  obtain ⟨t', hparse, h⟩ := bind_eq_ok.mp h
  obtain ⟨_, hrange, h⟩ := bind_eq_ok.mp h
  obtain rfl : t' = t := Except.ok.inj h
  exact ⟨okOr_eq_ok.mp hparse, ensure_eq_ok.mp hrange⟩

theorem decodeProjectState_ok (h : decodeProjectState X db = .ok current) :
    db.stateVersion = current.stateVersion ∧ db.readUpdatedAt X = .ok current.updatedAt := by
  unfold decodeProjectState at h
  obtain ⟨v, hv, h⟩ := bind_eq_ok.mp h
  obtain ⟨t, ht, h⟩ := bind_eq_ok.mp h
  obtain rfl := Except.ok.inj h
  exact ⟨nonnegativeI64ToU64_ok hv, ht⟩

theorem le_laterOf {left right : Option UtcTimestamp}
    (h : ∀ floor ∈ laterOf left right, floor ≤ t) :
    (∀ floor ∈ left, floor ≤ t) ∧ ∀ floor ∈ right, floor ≤ t := by
  cases left with
  | none => exact ⟨by simp, h⟩
  | some a =>
    cases right with
    | none => exact ⟨h, by simp⟩
    | some b =>
      have hmax : max a b ≤ t := h _ rfl
      constructor
      · rintro _ ⟨⟩
        exact le_trans (le_max_left a b) hmax
      · rintro _ ⟨⟩
        exact le_trans (le_max_right a b) hmax

/-- The committed instant is printable and neither before the persisted floor nor before the
local one. -/
theorem commitTimestamp_ok (hcurrent : decodeProjectState X db = .ok current)
    (hfloor : admitted.localClockFloor.all X.chrono.ensureCanonicalRfc3339Representable)
    (h : commitTimestamp X call admitted current db = .ok t) :
    current.updatedAt ≤ t ∧ X.chrono.ensureCanonicalRfc3339Representable t ∧
      ∀ floor ∈ admitted.localClockFloor, floor ≤ t := by
  have hread := (decodeProjectState_ok hcurrent).2
  have hrepr := (parseRepresentable_ok hread).2
  have hmax : ∀ {a b : UtcTimestamp}, X.chrono.ensureCanonicalRfc3339Representable a →
      X.chrono.ensureCanonicalRfc3339Representable b →
      X.chrono.ensureCanonicalRfc3339Representable (max a b) := by
    intro a b ha hb
    rcases max_choice a b with he | he <;> rw [he] <;> assumption
  unfold commitTimestamp at h
  split at h
  · obtain ⟨_, _, h⟩ := bind_eq_ok.mp h
    unfold projectCurrentUtcTimestamp at h
    obtain ⟨now, hnow, h⟩ := bind_eq_ok.mp h
    obtain ⟨persisted, hpersisted, h⟩ := bind_eq_ok.mp h
    obtain ⟨_, _, h⟩ := bind_eq_ok.mp h
    obtain rfl : persisted = current.updatedAt := Except.ok.inj (hpersisted.symm.trans hread)
    have hboth := hmax (parseRepresentable_ok hnow).2 hrepr
    obtain rfl := Except.ok.inj h
    cases hlocal : admitted.localClockFloor with
    | none => exact ⟨le_max_right _ _, hboth, by simp⟩
    | some floor =>
      rw [hlocal] at hfloor
      refine ⟨le_max_of_le_left (le_max_right _ _), hmax hboth (by simpa using hfloor), ?_⟩
      rintro _ ⟨⟩
      exact le_max_right _ _
  · split at h
    · rename_i floor hlocal
      rw [hlocal] at hfloor
      obtain rfl := Except.ok.inj h
      refine ⟨le_max_left _ _, hmax hrepr (by simpa using hfloor), ?_⟩
      rw [hlocal]
      rintro _ ⟨⟩
      exact le_max_right _ _
    · simp at h

theorem admitCommit_ok {projectId : String} {handle : StoreHandle} {input : CommitMutationInput}
    (h : admitCommit X projectId handle input = .ok admitted) : input.replayContext =
    some admitted.replayContext ∧ admitted.replayContext.validate X = .ok () ∧
    admitted.localClockFloor.all X.chrono.ensureCanonicalRfc3339Representable ∧
    admitted.localClockFloor = laterOf handle.lastClockSample input.clockFloor := by
  simp only [admitCommit, bind_eq_ok] at h
  obtain ⟨_, _, _, _, _, _, _, _, _, _, context, hcontext, _, hvalid, _, _, _, hexplicit, _,
    hremembered, h⟩ := h
  obtain rfl := Except.ok.inj h
  refine ⟨okOr_eq_ok.mp hcontext, hvalid, ?_, rfl⟩
  have he := ensure_eq_ok.mp hexplicit
  have hr := ensure_eq_ok.mp hremembered
  cases hl : handle.lastClockSample with
  | none => simpa [laterOf] using he
  | some a =>
    cases hc : input.clockFloor with
    | none => simpa [laterOf, hl] using hr
    | some b =>
      simp only [hl, hc, Option.all_some] at he hr
      simp only [laterOf, Option.all_some]
      rcases max_choice a b with hm | hm <;> rw [hm] <;> assumption

def CommitCall.facts (call : CommitCall A) (current : ProjectStateHeader) :
    CommittedMutationFacts :=
  ⟨current.stateVersion, current.stateVersion + 1, call.input.eventRefs⟩

def CommitCall.eventBatch (X : External) (call : CommitCall A) (context : VerifiedReplayContext)
    (projectId : String) (current : ProjectStateHeader) (committedAt : UtcTimestamp) :
    EventBatch :=
  { projectId := projectId, stateVersion := current.stateVersion + 1
    actorSource := context.actorSource.toCanonicalString
    operationCategory := context.operationCategory.asStr
    requestHash := call.input.requestHash
    createdAt := X.chrono.toCanonicalString committedAt }

/-- The whole effect of a committed call, from the database before it to the one after. -/
structure CommitEffect (X : External) (call : CommitCall A) (context : VerifiedReplayContext)
    (db db' : ProjectDb A) (current : ProjectStateHeader) (committedAt : UtcTimestamp)
    (responseJson : String) : Prop where
  context_given : call.input.replayContext = some context
  context_valid : context.validate X = .ok ()
  decoded : decodeProjectState X db = .ok current
  expected : ∀ v, call.input.expectedStateVersion = some v → v = current.stateVersion
  key_nonblank : ∀ key, call.input.idempotencyKey = some key → Text.isBlank key = false
  unused : ∀ key, call.input.idempotencyKey = some key →
    ∀ row ∈ db.toolInvocations, ¬(row.toolName = call.input.toolName ∧ row.idempotencyKey = key)
  not_before : current.updatedAt ≤ committedAt
  representable : X.chrono.ensureCanonicalRfc3339Representable committedAt
  response : call.buildResponseJson (call.facts current) = .ok responseJson
  response_json : X.json.isJsonText responseJson
  project : db'.projectId = db.projectId
  version : db'.stateVersion = db.stateVersion + 1
  updated : db'.updatedAt = X.chrono.toCanonicalString committedAt
  mutated : exec (call.applyMutation ⟨db.projectId, X.chrono.toCanonicalString committedAt⟩
    (call.facts current)) db.aggregates = (.ok (), db'.aggregates)
  appended : ∃ first, nextEventSeq db = .ok first ∧
    db'.authorityEvents = db.authorityEvents ++
      eventRows X (call.eventBatch X context db.projectId current committedAt) first
        (previousEventHash db) call.input.events
  recorded : db'.toolInvocations = db.toolInvocations ++
    call.invocationRows X context db.projectId responseJson
      (X.chrono.toCanonicalString committedAt) current.stateVersion (current.stateVersion + 1)

theorem lookupToolInvocation_none {toolName key : String}
    (h : lookupToolInvocation X toolName key db = .ok none) :
    ∀ row ∈ db.toolInvocations, ¬(row.toolName = toolName ∧ row.idempotencyKey = key) := by
  unfold lookupToolInvocation at h
  split at h
  · rename_i hfind
    simpa [ToolInvocationRow.answers] using hfind
  · rename_i row _
    cases hd : row.decode X <;> simp [hd, Except.map] at h

theorem replayGate_none (h : replayGate X call context current db = .ok none) : ∀ key,
    call.input.idempotencyKey = some key → Text.isBlank key = false ∧ ∀ row ∈ db.toolInvocations,
    ¬(row.toolName = call.input.toolName ∧ row.idempotencyKey = key) := by
  intro key hkey
  unfold replayGate at h
  rw [hkey] at h
  obtain ⟨_, hblank, h⟩ := bind_eq_ok.mp h
  obtain ⟨_, _, h⟩ := bind_eq_ok.mp h
  obtain ⟨found, hfound, h⟩ := bind_eq_ok.mp h
  cases found with
  | none => exact ⟨by simpa [validateIdentifier] using hblank, lookupToolInvocation_none hfound⟩
  | some record =>
    obtain ⟨_, _, h⟩ := bind_eq_ok.mp h
    simp [pure, Except.pure] at h

theorem staleGate_none (h : staleGate call current = .ok none) :
    ∀ v, call.input.expectedStateVersion = some v → v = current.stateVersion := by
  intro v hv
  unfold staleGate at h
  rw [hv] at h
  by_contra hne
  simp only [hne, if_false] at h
  obtain ⟨_, _, h⟩ := bind_eq_ok.mp h
  simp [pure, Except.pure] at h

/-- The gates in front of the effects answer with a rollback; only a call that passes
both reaches them. -/
theorem commitBody_commit
    (h : exec (commitBody X R call admitted) db = (.ok (.commit answer), db')) : ∃ current,
    decodeProjectState X db = .ok current ∧ replayGate X call admitted.replayContext current db =
    .ok none ∧ staleGate call current = .ok none ∧ exec (applyCommit X R call admitted current) db =
    (.ok answer, db') := by
  unfold commitBody at h
  obtain ⟨_, _, h⟩ := exec_lift_bind_ok.mp h
  obtain ⟨_, _, h⟩ := exec_lift_bind_ok.mp h
  rw [exec_get_bind] at h
  obtain ⟨current, hcurrent, h⟩ := exec_lift_bind_ok.mp h
  obtain ⟨replay, hreplay, h⟩ := exec_lift_bind_ok.mp h
  cases replay with
  | some outcome => simp at h
  | none =>
    obtain ⟨stale, hstale, h⟩ := exec_lift_bind_ok.mp h
    cases stale with
    | some outcome => simp at h
    | none =>
      obtain ⟨_, _, happly, h⟩ := exec_bind_ok.mp h
      cases h
      exact ⟨current, hcurrent, hreplay, hstale, happly⟩

theorem commitBody_rollback
    (h : exec (commitBody X R call admitted) db = (.ok (.rollback answer), db')) :
    ∃ current outcome, answer = ⟨outcome, none⟩ ∧
      (replayGate X call admitted.replayContext current db = .ok (some outcome) ∨
        staleGate call current = .ok (some outcome)) := by
  unfold commitBody at h
  obtain ⟨_, _, h⟩ := exec_lift_bind_ok.mp h
  obtain ⟨_, _, h⟩ := exec_lift_bind_ok.mp h
  rw [exec_get_bind] at h
  obtain ⟨current, _, h⟩ := exec_lift_bind_ok.mp h
  obtain ⟨replay, hreplay, h⟩ := exec_lift_bind_ok.mp h
  cases replay with
  | some outcome =>
    cases h
    exact ⟨current, outcome, rfl, .inl hreplay⟩
  | none =>
    obtain ⟨stale, hstale, h⟩ := exec_lift_bind_ok.mp h
    cases stale with
    | some outcome =>
      cases h
      exact ⟨current, outcome, rfl, .inr hstale⟩
    | none =>
      obtain ⟨_, _, _, h⟩ := exec_bind_ok.mp h
      simp at h

theorem replayOutcome_ne_committed (input : CommitMutationInput)
    (context : VerifiedReplayContext) (current : ProjectStateHeader) (key : String)
    (record : ToolInvocationRecord) (response : String) (basis committed : Nat)
    (events : List CommittedEventRef) :
    replayOutcome input context current key record
      ≠ .committed response basis committed events := by
  unfold replayOutcome
  split
  · simp
  · split <;> simp

theorem gate_ne_committed {outcome : MutationCommitOutcome}
    (h : replayGate X call context current db = .ok (some outcome) ∨
      staleGate call current = .ok (some outcome)) (response : String) (basis committed : Nat)
    (events : List CommittedEventRef) : outcome ≠ .committed response basis committed events := by
  rcases h with h | h
  · unfold replayGate at h
    split at h
    · simp at h
    · obtain ⟨_, _, h⟩ := bind_eq_ok.mp h
      obtain ⟨_, _, h⟩ := bind_eq_ok.mp h
      obtain ⟨found, _, h⟩ := bind_eq_ok.mp h
      cases found with
      | none => simp [pure, Except.pure] at h
      | some record =>
        obtain ⟨_, _, h⟩ := bind_eq_ok.mp h
        rw [← Option.some.inj (Except.ok.inj h)]
        exact replayOutcome_ne_committed _ _ _ _ _ _ _ _ _
  · unfold staleGate at h
    split at h
    · simp at h
    · split at h
      · simp at h
      · obtain ⟨_, _, h⟩ := bind_eq_ok.mp h
        rw [← Option.some.inj (Except.ok.inj h)]
        simp

theorem applyCommit_commit (hcontext : call.input.replayContext = some admitted.replayContext)
    (hvalid : admitted.replayContext.validate X = .ok ())
    (hfloor : admitted.localClockFloor.all X.chrono.ensureCanonicalRfc3339Representable)
    (hcurrent : decodeProjectState X db = .ok current)
    (hreplay : replayGate X call admitted.replayContext current db = .ok none)
    (hstale : staleGate call current = .ok none)
    (h : exec (applyCommit X R call admitted current) db = (.ok answer, db')) :
    ∃ committedAt responseJson,
      answer = ⟨.committed responseJson current.stateVersion (current.stateVersion + 1)
        call.input.eventRefs, some committedAt⟩ ∧
      (∀ floor ∈ admitted.localClockFloor, floor ≤ committedAt) ∧
      CommitEffect X call admitted.replayContext db db' current committedAt responseJson := by
  have hversion := (decodeProjectState_ok hcurrent).1
  unfold applyCommit at h
  obtain ⟨_, _, h⟩ := exec_lift_bind_ok.mp h
  obtain ⟨currentI64, hc64, h⟩ := exec_lift_bind_ok.mp h
  obtain ⟨committedI64, hn64, h⟩ := exec_lift_bind_ok.mp h
  obtain rfl := u64ToI64_ok hc64
  obtain rfl := u64ToI64_ok hn64
  rw [exec_get_bind] at h
  obtain ⟨committedAt, hat, h⟩ := exec_lift_bind_ok.mp h
  obtain ⟨_, db₁, hupdate, h⟩ := exec_bind_ok.mp h
  obtain rfl := updateProjectState_ok hupdate
  obtain ⟨_, db₂, hzoom, h⟩ := exec_bind_ok.mp h
  obtain ⟨aggregates, hmutated, rfl⟩ := exec_zoom_ok.mp hzoom
  rw [exec_get_bind] at h
  simp only [exec_lift_bind_ok] at h
  obtain ⟨_, _, _, _, first, hfirst, _, _, h⟩ := h
  obtain ⟨_, db₃, happend, h⟩ := exec_bind_ok.mp h
  obtain rfl := appendEvents_ok _ happend
  obtain ⟨responseJson, hresponse, h⟩ := exec_lift_bind_ok.mp h
  obtain ⟨_, hjson, h⟩ := exec_lift_bind_ok.mp h
  obtain ⟨_, db₄, hrecord, h⟩ := exec_bind_ok.mp h
  obtain rfl := recordToolInvocation_ok hrecord
  rw [exec_get_bind] at h
  obtain ⟨_, _, h⟩ := exec_lift_bind_ok.mp h
  obtain ⟨_, _, h⟩ := exec_lift_bind_ok.mp h
  rw [exec_pure] at h
  obtain ⟨hanswer, rfl⟩ := Prod.mk.inj h
  have hclock := commitTimestamp_ok hcurrent hfloor hat
  refine ⟨committedAt, responseJson, ?_, hclock.2.2, ?_⟩
  · exact (Except.ok.inj hanswer).symm
  · exact
      { context_given := hcontext
        context_valid := hvalid
        decoded := hcurrent
        expected := staleGate_none hstale
        key_nonblank := fun key hkey => (replayGate_none hreplay key hkey).1
        unused := fun key hkey => (replayGate_none hreplay key hkey).2
        not_before := hclock.1
        representable := hclock.2.1
        response := hresponse
        response_json := ensure_eq_ok.mp hjson
        project := rfl
        version := by rw [hversion]; push_cast; rfl
        updated := rfl
        mutated := hmutated
        appended := ⟨first, hfirst, by simp [CommitCall.eventBatch, previousEventHash]⟩
        recorded := by push_cast; rfl }

/-- A call commits with its whole effect, or changes neither handle nor database. -/
theorem commitWith_cases (X : External) (R : AggregateReaders A) (handle : StoreHandle)
    (call : CommitCall A) (db : ProjectDb A) :
    (∃ context current committedAt responseJson,
      (commitWith X R handle call db).result = .ok (.committed responseJson
        current.stateVersion (current.stateVersion + 1) call.input.eventRefs) ∧
      (commitWith X R handle call db).handle = { handle with lastClockSample := some committedAt } ∧
      (∀ floor ∈ laterOf handle.lastClockSample call.input.clockFloor, floor ≤ committedAt) ∧
      CommitEffect X call context db (commitWith X R handle call db).db current committedAt
        responseJson) ∨
    ((∀ response basis committed events, (commitWith X R handle call db).result ≠
        .ok (.committed response basis committed events)) ∧
      (commitWith X R handle call db).handle = handle ∧
      (commitWith X R handle call db).db = db) := by
  unfold commitWith
  cases hadm : admitCommit X db.projectId handle call.input with
  | error e => exact .inr ⟨by simp, rfl, rfl⟩
  | ok admitted =>
    obtain ⟨hcontext, hvalid, hfloor, hlocal⟩ := admitCommit_ok hadm
    dsimp only
    rcases transact_cases (commitBody X R call admitted) db with
      ⟨answer, db', hexec, htx⟩ | ⟨answer, db', hexec, htx⟩ | ⟨e, htx⟩
    · obtain ⟨current, hcurrent, hreplay, hstale, hexec⟩ := commitBody_commit hexec
      obtain ⟨committedAt, responseJson, rfl, hfloors, heffect⟩ :=
        applyCommit_commit hcontext hvalid hfloor hcurrent hreplay hstale hexec
      rw [htx]
      exact .inl ⟨_, current, committedAt, responseJson, rfl, rfl, hlocal ▸ hfloors, heffect⟩
    · obtain ⟨current, outcome, rfl, hgate⟩ := commitBody_rollback hexec
      rw [htx]
      exact .inr ⟨fun r b c es he => gate_ne_committed hgate r b c es (Except.ok.inj he), rfl, rfl⟩
    · rw [htx]
      exact .inr ⟨by simp, rfl, rfl⟩

end Volicord
