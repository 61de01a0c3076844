import Volicord.Store.System

/-! Idempotent replay over whole runs: the row a committed call leaves behind answers
every later call with the same tool name and key. -/
namespace Volicord
open Result Transaction
variable {ι A : Type} [DecidableEq ι]
variable {context : VerifiedReplayContext} {current : ProjectStateHeader} {basis committed : Nat}

def Readable (X : External) (db : ProjectDb A) : Prop :=
  ∃ current, decodeProjectState X db = .ok current

variable {X : External}
variable {call : CommitCall A} {db db' : ProjectDb A} {R : AggregateReaders A} {s : StoreSystem ι A}
  {op : StoreOp ι A} {key response responseJson toolName : String} {committedAt t : UtcTimestamp}
  {row : ToolInvocationRow}

theorem readUpdatedAt_ok (ht : X.chrono.ensureCanonicalRfc3339Representable t)
    (hdb : db.updatedAt = X.chrono.toCanonicalString t) : db.readUpdatedAt X = .ok t := by
  simp [ProjectDb.readUpdatedAt, parseRepresentable, hdb, Chrono.parse_of_representable ht, ht,
    okOr, ensure, pure, Except.pure]

theorem readable_of {n : Nat} (hn : db.stateVersion = n)
    (ht : db.readUpdatedAt X = .ok t) : Readable X db :=
  ⟨⟨n, t⟩, by simp [decodeProjectState, hn, nonnegativeI64ToU64_natCast, ht, pure, Except.pure]⟩

theorem CommitEffect.readable
    (h : CommitEffect X call context db db' current committedAt responseJson) : Readable X db' :=
  readable_of h.appliesOneVersion.committed_version (readUpdatedAt_ok h.representable h.updated)

theorem storeStep_readable (op : StoreOp ι A)
    (h : Readable X s.db) : Readable X (storeStep X R s op).2.db := by
  rcases storeStep_cases X R s op with
    ⟨_, _, _, _, _, _, _, _, heffect⟩ | ⟨_, _, _, _, hrepr, hdb⟩ | ⟨_, hdb⟩
  · exact heffect.readable
  · obtain ⟨current, hcurrent⟩ := h
    rw [hdb]
    exact readable_of (decodeProjectState_ok hcurrent).1 (readUpdatedAt_ok hrepr rfl)
  · rwa [hdb]

def FindsRow (db : ProjectDb A) (toolName key : String) (row : ToolInvocationRow) : Prop :=
  db.toolInvocations.find? (ToolInvocationRow.answers toolName key) = some row

theorem storeStep_findsRow (op : StoreOp ι A) (h : FindsRow s.db toolName key row) :
    FindsRow (storeStep X R s op).2.db toolName key row := by
  unfold FindsRow at h ⊢
  rcases storeStep_cases X R s op with
    ⟨_, _, _, _, _, _, _, _, heffect⟩ | ⟨_, _, _, _, _, hdb⟩ | ⟨_, hdb⟩
  · rw [heffect.recorded, List.find?_append, h, Option.some_or]
  · rwa [hdb]
  · rwa [hdb]

theorem CommitEffect.findsRow
    (h : CommitEffect X call context db db' current committedAt responseJson)
    (hkey : call.input.idempotencyKey = some key) :
    FindsRow db' call.input.toolName key (call.input.invocationRow X context db.projectId key
      responseJson (X.chrono.toCanonicalString committedAt) current.stateVersion
      (current.stateVersion + 1)) := by
  have hunused : db.toolInvocations.find?
      (ToolInvocationRow.answers call.input.toolName key) = none := by
    rw [List.find?_eq_none]
    intro row hrow
    simpa [ToolInvocationRow.answers] using h.unused key hkey row hrow
  unfold FindsRow
  rw [h.recorded, List.find?_append, hunused, Option.none_or, CommitCall.invocationRows, hkey]
  simp [ToolInvocationRow.answers, CommitMutationInput.invocationRow]

theorem invocationRow_carries (input : CommitMutationInput)
    (hvalid : context.validate X = .ok ()) (projectId key responseJson createdAt : String)
    (basis committed : Int) :
    (input.invocationRow X context projectId key responseJson createdAt basis committed).Carries X
    context :=
  ⟨rfl, rfl, rfl, rfl, hvalid⟩

/-- The gates answer from the row alone, whatever the call expects or would apply. -/
theorem commitWith_of_findsRow {handle : StoreHandle} {admitted : AdmittedCommit}
    {record : ToolInvocationRecord}
    (hadm : admitCommit X db.projectId handle call.input = .ok admitted)
    (hsql : ∀ statement, call.session.fails statement = false)
    (hcurrent : decodeProjectState X db = .ok current) (hkey : call.input.idempotencyKey = some key)
    (hblank : Text.isBlank key = false) (hrow : FindsRow db call.input.toolName key row)
    (hrecord : row.decode X = .ok record) : (commitWith X R handle call db).result = .ok
    (replayOutcome call.input admitted.replayContext current key record) ∧
    (commitWith X R handle call db).db = db := by
  have hrun : ∀ statement, call.session.run statement = .ok () := fun st => run_eq_ok.mpr (hsql st)
  have hlookup : lookupToolInvocation X call.input.toolName key db = .ok (some record) := by
    unfold FindsRow at hrow
    simp [lookupToolInvocation, hrow, hrecord, Except.map]
  have hgate : replayGate X call admitted.replayContext current db =
      .ok (some (replayOutcome call.input admitted.replayContext current key record)) := by
    simp [replayGate, hkey, validateIdentifier, hblank, ensure, hrun, hlookup, pure, Except.pure]
  have hexec : exec (commitBody X R call admitted) db = (.ok (.rollback
      ⟨replayOutcome call.input admitted.replayContext current key record, none⟩), db) := by
    unfold commitBody
    rw [exec_lift_bind (hrun _), exec_lift_bind (hrun _), exec_get_bind,
      exec_lift_bind hcurrent, exec_lift_bind hgate]
    rfl
  have htx : transact (commitBody X R call admitted) db =
      (.ok ⟨replayOutcome call.input admitted.replayContext current key record, none⟩, db) := by
    simp [transact, hexec]
  unfold commitWith
  rw [hadm]
  simp [htx]

/-- The event is a committed call with a key, a public method name and an object response. -/
structure CommittedCall (X : External) (e : StoreEvent ι A) (call : CommitCall A)
    (key response : String) (basis committed : Nat) : Prop where
  op : ∃ i, e.op = .commit i call
  keyed : call.input.idempotencyKey = some key
  method : ∃ m : MethodName, call.input.toolName = m.asStr
  result : ∃ events, e.result = .commit (.ok (.committed response basis committed events))
  object : X.json.isObjectText response

/-- The event is a call for the tool and key of `call` that passes the checks made before
the transaction and meets no SQLite failure. -/
structure AdmittedRepetition (X : External) (e : StoreEvent ι A) (call again : CommitCall A)
    (key : String) : Prop where
  op : ∃ i admitted, e.op = .commit i again ∧
    admitCommit X e.before.db.projectId (e.before.handles i) again.input = .ok admitted
  tool : again.input.toolName = call.input.toolName
  keyed : again.input.idempotencyKey = some key
  sqlite : ∀ statement, again.session.fails statement = false

/-- What a repetition is answered: a different replay context is refused before the
request hash is looked at. -/
def repetitionOutcome (call again : CommitCall A) (currentStateVersion : Nat)
    (key response : String) (basis committed : Nat) : MutationCommitOutcome :=
  if again.input.replayContext ≠ call.input.replayContext then
    .replayContextMismatch currentStateVersion key
  else if again.input.requestHash = call.input.requestHash then .replayed response basis committed
  else .idempotencyConflict currentStateVersion key call.input.requestHash again.input.requestHash

structure Answerable (X : External) (call : CommitCall A) (key response : String)
    (basis committed : Nat) (db : ProjectDb A) : Prop where
  readable : Readable X db
  nonblank : Text.isBlank key = false
  row : ∃ row record context, FindsRow db call.input.toolName key row ∧
    row.decode X = .ok record ∧ call.input.replayContext = some context ∧
    record.replayContext = context ∧ record.requestHash = call.input.requestHash ∧
    record.responseJson = response ∧ record.basisStateVersion = basis ∧
    record.committedStateVersion = committed

theorem CommittedCall.answerable (hJ : X.json.Lawful)
    (h : CommittedCall X (Transition.fire (storeStep X R) s op) call key response basis committed) :
    Answerable X call key response basis committed (storeStep X R s op).2.db := by
  obtain ⟨⟨i, hop⟩, hkey, ⟨method, hmethod⟩, ⟨events, hresult⟩, hobject⟩ := h
  rcases storeStep_cases X R s op with
    ⟨i', call', context, current, committedAt, responseJson, hcall, hanswer, heffect⟩ |
    ⟨_, _, hother, _⟩ | ⟨hne, _⟩
  · obtain rfl : call' = call := by
      injection hcall.symm.trans hop
    have heq := hanswer.symm.trans hresult
    injection heq with heq
    injection heq with heq
    injection heq with hr hb hc _
    subst hr hb hc
    have hcarries := invocationRow_carries call'.input heffect.context_valid
      s.db.projectId key responseJson (X.chrono.toCanonicalString committedAt)
      current.stateVersion (current.stateVersion + 1)
    have hcommitted : (current.stateVersion : Int) + 1 = ((current.stateVersion + 1 : Nat) : Int) :=
      rfl
    have hdecode := hcarries.decode_ok hJ rfl hcommitted hmethod hobject
    exact ⟨heffect.readable, heffect.key_nonblank key hkey, _, _, context,
      heffect.findsRow hkey, hdecode, heffect.context_given, rfl, rfl, rfl, rfl, rfl⟩
  · have := hother.symm.trans hop
    simp at this
  · exact absurd hresult (hne _ _ _ _)

theorem Answerable.step (op : StoreOp ι A)
    (h : Answerable X call key response basis committed s.db) : Answerable X call key response basis
    committed (storeStep X R s op).2.db := by
  obtain ⟨row, record, context, hrow, hrest⟩ := h.row
  exact ⟨storeStep_readable op h.readable, h.nonblank, row, record, context,
    storeStep_findsRow op hrow, hrest⟩

theorem Answerable.repetition {call again : CommitCall A}
    (h : Answerable X call key response basis committed s.db)
    (hagain : AdmittedRepetition X (Transition.fire (storeStep X R) s op) call again key) :
    (storeStep X R s op).1 = .commit
    (.ok (repetitionOutcome call again s.db.stateVersion.toNat key response basis committed)) ∧
    (storeStep X R s op).2.db = s.db := by
  obtain ⟨⟨i, admitted, hop, hadm⟩, htool, hkey, hsql⟩ := hagain
  obtain ⟨row, record, context, hrow, hdecode, hcontext, hrecord, hhash, hresp, hbasis,
    hcommitted⟩ :=
    h.row
  obtain ⟨current, hcurrent⟩ := h.readable
  change op = _ at hop
  subst hop
  rw [← htool] at hrow
  have hresult := commitWith_of_findsRow (R := R) hadm hsql hcurrent hkey h.nonblank hrow hdecode
  have hgiven := (admitCommit_ok hadm).1
  have hversion : s.db.stateVersion.toNat = current.stateVersion := by
    rw [(decodeProjectState_ok hcurrent).1, Int.toNat_natCast]
  have houtcome : replayOutcome again.input admitted.replayContext current key record =
      repetitionOutcome call again s.db.stateVersion.toNat key response basis committed := by
    unfold replayOutcome repetitionOutcome
    rw [hversion, hgiven, hcontext]
    by_cases hc : admitted.replayContext = context
    · subst hc
      have hm := (ToolInvocationRecord.matches_iff _ _).mpr hrecord
      by_cases hh : again.input.requestHash = call.input.requestHash
      · simp [hm, hhash, hh, hresp, hbasis, hcommitted]
      · simp [hm, hhash, hh, Ne.symm hh]
    · have hm : record.matchesVerifiedReplayContext admitted.replayContext = false := by
        rw [Bool.eq_false_iff, ne_eq, ToolInvocationRecord.matches_iff, hrecord]
        exact fun he => hc he.symm
      simp [hm, hc]
  rw [houtcome] at hresult
  exact ⟨congrArg StoreAnswer.commit hresult.1, hresult.2⟩

/-- The event is a call for this tool and key that committed. -/
def CommitsKey (toolName key : String) (e : StoreEvent ι A) : Prop :=
  ∃ i call response basis committed events, e.op = .commit i call ∧
    call.input.toolName = toolName ∧ call.input.idempotencyKey = some key ∧
    e.result = .commit (.ok (.committed response basis committed events))

theorem CommitsKey.effect (h : CommitsKey toolName key (Transition.fire (storeStep X R) s op)) :
    (∀ row, ¬ FindsRow s.db toolName key row) ∧ ∃ row, FindsRow (storeStep X R s op).2.db toolName
    key row := by
  obtain ⟨i, call, response, basis, committed, events, hop, rfl, hkey, hresult⟩ := h
  change op = _ at hop
  subst hop
  rcases storeStep_cases X R s (.commit i call) with
    ⟨_, _, _, _, _, _, hcall, _, heffect⟩ | ⟨_, _, hother, _⟩ | ⟨hne, _⟩
  · injection hcall with _ hcall
    subst hcall
    refine ⟨fun row hrow => ?_, _, heffect.findsRow hkey⟩
    have hmatch := List.find?_some hrow
    simp only [ToolInvocationRow.answers, Bool.and_eq_true, decide_eq_true_eq] at hmatch
    exact heffect.unused key hkey row (List.mem_of_find?_eq_some hrow) hmatch
  · simp at hother
  · exact absurd hresult (hne _ _ _ _)

/-- After a committed call every admitted repetition is answered from its row and applies
nothing; and no tool and key commit twice in a run. -/
theorem commitWith_replays (X : External) (R : AggregateReaders A) (hJ : X.json.Lawful)
    (s : StoreSystem ι A) (ops : List (StoreOp ι A)) :
    ((Transition.trace (storeStep X R) s ops).Pairwise fun e f =>
      ∀ call again key response basis committed,
        CommittedCall X e call key response basis committed →
        AdmittedRepetition X f call again key →
        f.result = .commit (.ok (repetitionOutcome call again f.before.db.stateVersion.toNat
          key response basis committed)) ∧ f.after.db = f.before.db) ∧
    (Transition.trace (storeStep X R) s ops).Pairwise fun e f =>
      ∀ toolName key, CommitsKey toolName key e → ¬ CommitsKey toolName key f := by
  constructor
  · have hlater := Transition.trace_pairwise (storeStep X R)
      (R := fun e s => ∀ call key response basis committed,
        CommittedCall X e call key response basis committed →
        Answerable X call key response basis committed s.db)
      (fun _ _ _ _ _ _ _ h => h.answerable hJ)
      (fun _ _ op h _ _ _ _ _ hc => (h _ _ _ _ _ hc).step op) s ops
    refine hlater.imp_of_mem fun _ hf h call again key response basis committed hc ha => ?_
    have hfire := Transition.eq_fire_of_mem_trace hf
    rw [hfire] at ha
    rw [hfire]
    exact (h call key response basis committed hc).repetition ha
  · have hlater := Transition.trace_pairwise (storeStep X R)
      (R := fun e s => ∀ toolName key, CommitsKey toolName key e →
        ∃ row, FindsRow s.db toolName key row)
      (fun _ _ _ _ h => h.effect.2)
      (fun _ _ op h _ _ hc => (h _ _ hc).imp fun _ hrow => storeStep_findsRow op hrow) s ops
    refine hlater.imp_of_mem fun _ hf h toolName key hc hagain => ?_
    rw [Transition.eq_fire_of_mem_trace hf] at hagain
    obtain ⟨row, hrow⟩ := h toolName key hc
    exact hagain.effect.1 row hrow

/-- The intake call on the empty project, and the same call once more. -/
def intakeEvent : StoreEvent Unit Unit :=
  Transition.fire (storeStep plainExternal noAggregates) emptyProject (.commit () intakeCall)

def intakeAgainEvent : StoreEvent Unit Unit :=
  Transition.fire (storeStep plainExternal noAggregates) intakeEvent.after (.commit () intakeCall)

theorem commitWith_replays_intake :
    CommittedCall plainExternal intakeEvent intakeCall "k" "o)" 0 1 ∧
    AdmittedRepetition plainExternal intakeAgainEvent intakeCall intakeCall "k" ∧
    intakeAgainEvent.result = .commit (.ok (.replayed "o)" 0 1)) ∧
    intakeAgainEvent.after.db = intakeEvent.after.db := by
  have hfirst : CommittedCall plainExternal intakeEvent intakeCall "k" "o)" 0 1 :=
    ⟨⟨(), rfl⟩, rfl, ⟨.intake, rfl⟩, ⟨[⟨"event", "task_created"⟩], by decide +kernel⟩,
      by decide +kernel⟩
  have hagain : AdmittedRepetition plainExternal intakeAgainEvent intakeCall intakeCall "k" :=
    ⟨⟨(), ⟨⟨.localUser, .userOnly, none, none⟩, some 2⟩, rfl, by decide +kernel⟩, rfl, rfl,
      fun _ => rfl⟩
  have hpair := (commitWith_replays plainExternal noAggregates JsonText.serde_lawful emptyProject
    [.commit () intakeCall, .commit () intakeCall]).1
  have hlaw := (List.pairwise_cons.mp hpair).1 intakeAgainEvent (by simp [Transition.trace,
    intakeAgainEvent, intakeEvent, Transition.fire])
  exact ⟨hfirst, hagain, hlaw intakeCall intakeCall "k" "o)" 0 1 hfirst hagain⟩

/-- Input checks come before the replay lookup: the same call without events is refused. -/
theorem commitWith_repetition_without_events :
    (Transition.trace (storeStep plainExternal noAggregates) emptyProject
      [.commit () intakeCall,
        .commit () { intakeCall with input := { intakeCall.input with events := [] } }]).map
      (·.result) =
    [.commit (.ok (.committed "o)" 0 1 [⟨"event", "task_created"⟩])),
      .commit (.error (.invalidInput
        "committed Core mutations must append at least one authority event"))] := by
  decide +kernel

end Volicord
