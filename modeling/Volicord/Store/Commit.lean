import Volicord.Lib.Transaction
import Volicord.Store.Replay

/-! `CoreProjectStore::commit_with`: one state-changing Core mutation in one immediate
SQLite transaction. The aggregate tables are a parameter `A`: a mutation closure is any
computation on them, and the commit itself reads them only through `AggregateReaders`. -/
namespace Volicord
open Result Transaction

inductive WorkPhase where
  | shaping | implementation
deriving DecidableEq

inductive TaskLifecyclePhase where
  | shaping | ready | executing | waitingUser | blocked | completed | cancelled | superseded
deriving DecidableEq

def TaskLifecyclePhase.terminal : TaskLifecyclePhase → Bool
  | .completed | .cancelled | .superseded => true
  | _ => false

inductive WorkflowActionSemanticVariant where
  | createInitial | replaceCurrent | keepCurrentChangeUnit | createCurrentChangeUnit
  | replaceCurrentChangeUnit | finalizeAdvice | advanceTask | prepareEvidenceCapture
  | prepareWrite | stageArtifact | recordRun | requestUserAction | resolveUserAction
  | reconcileChanges | checkClose | closeTask
deriving DecidableEq

structure WorkflowActionKey where
  method : MethodName
  semanticVariant : WorkflowActionSemanticVariant
deriving DecidableEq

inductive WorkflowTransitionEffectClass where
  | coreStateMutation | userChannelMutation | writeAuthorization | artifactStaging
  | evidenceCapture | executionRecording | readOnlyAssessment | terminalMutation
deriving DecidableEq

inductive WorkflowExpectedResultState where
  | reevaluateCurrentAuthority | awaitingUserAction | implementation | closeReview | terminal
deriving DecidableEq

structure PendingTaskEvent where
  eventId : String
  (taskId changeUnitId : Option String)
  (eventKind eventPayloadJson : String)

structure CommittedEventRef where
  (eventId eventKind : String)
deriving DecidableEq

structure CommittedMutationFacts where
  (basisStateVersion committedStateVersion : Nat)
  events : List CommittedEventRef

structure TransitionCommitExpectation where
  (projectId taskId : String)
  actionKey : WorkflowActionKey
  effectClass : WorkflowTransitionEffectClass
  expectedResultState : WorkflowExpectedResultState
  basisStateVersion : Nat

structure CommitMutationInput where
  (projectId toolName : String)
  idempotencyKey : Option String
  requestHash : String
  replayContext : Option VerifiedReplayContext
  expectedStateVersion : Option Nat
  transitionExpectation : Option TransitionCommitExpectation
  clockFloor : Option UtcTimestamp
  includeLiveStorageTime : Bool
  events : List PendingTaskEvent

inductive MutationCommitOutcome where
  | replayed (responseJson : String) (basisStateVersion committedStateVersion : Nat)
  | replayContextMismatch (currentStateVersion : Nat) (idempotencyKey : String)
  | idempotencyConflict (currentStateVersion : Nat) (idempotencyKey : String)
      (storedRequestHash attemptedRequestHash : String)
  | staleExpectedState (currentStateVersion expectedStateVersion : Nat)
  | committed (responseJson : String) (basisStateVersion committedStateVersion : Nat)
      (events : List CommittedEventRef)
deriving DecidableEq

/-- One row of `authority_events`, columns as stored. -/
structure AuthorityEventRow where
  projectId : String
  eventSeq : Int
  eventId : String
  stateVersion : Int
  (eventType actorSource operationCategory : String)
  (taskId changeUnitId : Option String)
  (payloadJson requestHash : String)
  previousEventHash : Option String
  (eventHash createdAt : String)

/-- The state database of one project, so every row belongs to it. `aggregates` holds every table a
mutation may change, the column `project_state.active_task_id` included. -/
structure ProjectDb (A : Type) where
  projectId : String
  stateVersion : Int
  updatedAt : String
  aggregates : A
  authorityEvents : List AuthorityEventRow
  toolInvocations : List ToolInvocationRow

/-- What a commit uses of one Store handle: its Runtime Home, the Runtime Home of the
live mutation context it was opened with, and the last clock sample it accepted. -/
structure StoreHandle where
  (canonicalRuntimeHome mutationContext : Option String)
  lastClockSample : Option UtcTimestamp

structure TaskTransitionState where
  workPhase : WorkPhase
  lifecyclePhase : TaskLifecyclePhase
  closeBasisPresent : Bool

/-- What a commit reads of the aggregate tables: the rows behind the result-state check
and behind the foreign keys of an event row. -/
structure AggregateReaders (A : Type) where
  taskTransitionState : A → String → Option TaskTransitionState
  (pendingUserActionExists taskExists : A → String → Bool)
  changeUnitExists : A → String → String → Bool
  deferredForeignKeysHold : A → Bool

/-- The statements `commit_with` sends to SQLite. -/
inductive SqlStatement where
  | beginImmediate | selectProjectState | selectToolInvocation | rollback | sampleClock
  | updateProjectState | selectTaskState | selectPendingUserAction | selectLastEventSeq
  | selectLastEventHash | insertEvent (index : Nat) | insertToolInvocation | commit

/-- SQLite's side of one call: its clock text and the statements it fails. -/
structure SqliteSession where
  now : String
  fails : SqlStatement → Bool

structure MutationContext where
  (projectId committedAt : String)

structure CommitCall (A : Type) where
  input : CommitMutationInput
  applyMutation : MutationContext → CommittedMutationFacts → TxM A StoreError Unit
  buildResponseJson : CommittedMutationFacts → StoreResult String
  session : SqliteSession

variable {A : Type}

abbrev StoreM (A : Type) := TxM (ProjectDb A) StoreError

def i64Max : Int := 9223372036854775807

def projectStateDatabaseKind : String := "project_state"

variable (session : SqliteSession)

def SqliteSession.run (statement : SqlStatement) : StoreResult Unit :=
  ensure (!session.fails statement) (.sqlite "statement failed")

def u64ToI64 (field : String) (value : Nat) : StoreResult Int :=
  if (value : Int) ≤ i64Max then .ok value
  else .error (.invalidInput (field ++ " does not fit in SQLite integer"))

variable (X : External)

def validatePendingEvent (event : PendingTaskEvent) : StoreResult Unit := do
  validateIdentifier "event_id" event.eventId
  match event.taskId with
  | some taskId => validateIdentifier "task_id" taskId
  | none => pure ()
  ensure (event.taskId.isSome || (event.eventKind = "project_workflow_policy_applied"
      && event.changeUnitId.isNone))
    (.invalidInput
      "only project_workflow_policy_applied may be a project-scoped authority event")
  ensure (event.taskId.isNone || event.eventKind ≠ "project_workflow_policy_applied")
    (.invalidInput "project_workflow_policy_applied must be project-scoped")
  validateIdentifier "event_kind" event.eventKind
  validateJsonText X "authority_events.payload_json" event.eventPayloadJson

def StoreHandle.requireMutationContext (handle : StoreHandle) : StoreResult Unit := do
  let runtimeHome ← okOr
    (.invalidInput "Core project mutation requires a live Runtime Home mutation context")
    handle.mutationContext
  ensure (handle.canonicalRuntimeHome = some runtimeHome) (.invalidInput
    "Core project mutation Store does not retain the admitted Runtime Home identity")

structure AdmittedCommit where
  replayContext : VerifiedReplayContext
  localClockFloor : Option UtcTimestamp
deriving DecidableEq

def laterOf : Option UtcTimestamp → Option UtcTimestamp → Option UtcTimestamp
  | some a, some b => some (max a b)
  | some a, none => some a
  | none, b => b

/-- The checks `commit_with` makes before it opens the transaction. -/
def admitCommit (projectId : String) (handle : StoreHandle) (input : CommitMutationInput) :
    StoreResult AdmittedCommit := do
  handle.requireMutationContext
  ensure (input.projectId = projectId)
    (.invalidInput "commit project_id must match the opened project")
  ensure (!input.events.isEmpty)
    (.invalidInput "committed Core mutations must append at least one authority event")
  validateIdentifier "tool_name" input.toolName
  validateIdentifier "request_hash" input.requestHash
  let replayContext ← okOr
    (.invalidInput "committed mutations require verified invocation context") input.replayContext
  replayContext.validate X
  input.events.forM (validatePendingEvent X)
  ensure (input.clockFloor.all X.chrono.ensureCanonicalRfc3339Representable)
    (.invalidInput "commit clock_floor must have a canonical four-digit RFC 3339 representation")
  ensure (handle.lastClockSample.all X.chrono.ensureCanonicalRfc3339Representable)
    (.schemaInvariant projectStateDatabaseKind
      "Core Store handle clock sample is outside the canonical RFC 3339 range")
  return ⟨replayContext, laterOf handle.lastClockSample input.clockFloor⟩

structure ProjectStateHeader where
  stateVersion : Nat
  updatedAt : UtcTimestamp

/-- A stored instant: it parses and has the canonical four-digit form. -/
def parseRepresentable (text : String) (invalid outOfRange : StoreError) :
    StoreResult UtcTimestamp := do
  let timestamp ← okOr invalid (X.chrono.parse text)
  ensure (X.chrono.ensureCanonicalRfc3339Representable timestamp) outOfRange
  return timestamp

def ProjectDb.readUpdatedAt (db : ProjectDb A) : StoreResult UtcTimestamp :=
  let corrupt := .corruptOwnerStateValue "project_state" db.projectId "updated_at"
  parseRepresentable X db.updatedAt corrupt corrupt

def decodeProjectState (db : ProjectDb A) : StoreResult ProjectStateHeader := do
  let stateVersion ← nonnegativeI64ToU64 "project_state.state_version" db.stateVersion
  let updatedAt ← db.readUpdatedAt X
  return ⟨stateVersion, updatedAt⟩

/-- `project_current_utc_timestamp_for_conn`. -/
def projectCurrentUtcTimestamp (now : String) (db : ProjectDb A)
    (localFloor : Option UtcTimestamp) : StoreResult UtcTimestamp := do
  let sqliteNow ← parseRepresentable X now
    (.schemaInvariant projectStateDatabaseKind
      "SQLite returned an invalid Core current UTC timestamp")
    (.schemaInvariant projectStateDatabaseKind
      "SQLite returned an out-of-range Core current UTC timestamp")
  let persistedFloor ← db.readUpdatedAt X
  ensure (localFloor.all X.chrono.ensureCanonicalRfc3339Representable)
    (.schemaInvariant projectStateDatabaseKind
      "Core local UTC floor is outside the canonical timestamp range")
  return match localFloor with
    | none => max sqliteNow persistedFloor
    | some floor => max (max sqliteNow persistedFloor) floor

/-- The instant a commit stores: SQLite's clock or, with an injected Core clock, the
local floor; in both cases at least the persisted project floor. -/
def commitTimestamp (call : CommitCall A) (admitted : AdmittedCommit) (current : ProjectStateHeader)
    (db : ProjectDb A) : StoreResult UtcTimestamp :=
  if call.input.includeLiveStorageTime then do
    call.session.run .sampleClock
    projectCurrentUtcTimestamp X call.session.now db admitted.localClockFloor
  else match admitted.localClockFloor with
    | some localClockFloor => .ok (max current.updatedAt localClockFloor)
    | none => .error (.invalidInput
        "commits without live storage time require an explicit clock floor")

/-- The primary key of `tool_invocations`. -/
def ToolInvocationRow.answers (toolName key : String) (row : ToolInvocationRow) : Bool :=
  row.toolName = toolName && row.idempotencyKey = key

def lookupToolInvocation (toolName key : String) (db : ProjectDb A) :
    StoreResult (Option ToolInvocationRecord) :=
  match db.toolInvocations.find? (ToolInvocationRow.answers toolName key) with
  | none => .ok none
  | some row => (row.decode X).map some

variable (input : CommitMutationInput)

def replayOutcome (context : VerifiedReplayContext) (current : ProjectStateHeader) (key : String)
    (record : ToolInvocationRecord) : MutationCommitOutcome :=
  if !record.matchesVerifiedReplayContext context then
    .replayContextMismatch current.stateVersion key
  else if record.requestHash = input.requestHash then
    .replayed record.responseJson record.basisStateVersion record.committedStateVersion
  else .idempotencyConflict current.stateVersion key record.requestHash input.requestHash

def replayGate (call : CommitCall A) (context : VerifiedReplayContext)
    (current : ProjectStateHeader) (db : ProjectDb A) :
    StoreResult (Option MutationCommitOutcome) :=
  match call.input.idempotencyKey with
  | none => .ok none
  | some key => do
    validateIdentifier "idempotency_key" key
    call.session.run .selectToolInvocation
    match ← lookupToolInvocation X call.input.toolName key db with
    | none => return none
    | some record =>
      call.session.run .rollback
      return some (replayOutcome call.input context current key record)

def staleGate (call : CommitCall A) (current : ProjectStateHeader) :
    StoreResult (Option MutationCommitOutcome) :=
  match call.input.expectedStateVersion with
  | none => .ok none
  | some expected =>
    if expected = current.stateVersion then .ok none
    else do
      call.session.run .rollback
      return some (.staleExpectedState current.stateVersion expected)

/-- The table of result states an admitted transition may leave its Task in. -/
def resultStateCompatible (state : TaskTransitionState) (pendingUserAction : Bool) :
    WorkflowExpectedResultState → Bool
  | .reevaluateCurrentAuthority => !state.lifecyclePhase.terminal
  | .awaitingUserAction => !state.lifecyclePhase.terminal && pendingUserAction
  | .implementation => !state.lifecyclePhase.terminal && state.workPhase = .implementation
  | .closeReview => !state.lifecyclePhase.terminal && state.closeBasisPresent
  | .terminal => state.lifecyclePhase.terminal

def validateTransitionResultState (R : AggregateReaders A) (session : SqliteSession)
    (projectId : String) (expectation : TransitionCommitExpectation) (aggregates : A) :
    StoreResult Unit := do
  session.run .selectTaskState
  let state ← okOr (.sqlite "query returned no rows")
    (if expectation.projectId = projectId
      then R.taskTransitionState aggregates expectation.taskId else none)
  if expectation.expectedResultState = .awaitingUserAction && !state.lifecyclePhase.terminal then
    session.run .selectPendingUserAction
  ensure (resultStateCompatible state
      (R.pendingUserActionExists aggregates expectation.taskId) expectation.expectedResultState)
    (.schemaInvariant projectStateDatabaseKind
      "post-mutation Task state contradicts admitted transition result family")

def checkResultState (R : AggregateReaders A) (call : CommitCall A) (db : ProjectDb A) :
    StoreResult Unit :=
  match call.input.transitionExpectation with
  | none => .ok ()
  | some expectation =>
    validateTransitionResultState R call.session db.projectId expectation db.aggregates

/-- `update_field`: the byte length frames the text. -/
def hashField (field : String) : String := toString field.utf8ByteSize ++ ":" ++ field ++ "\n"

/-- The text `authority_event_hash` digests; the stored hash itself is not part of it. -/
def authorityEventPreimage (row : AuthorityEventRow) : String :=
  hashField row.projectId ++ hashField (toString row.eventSeq) ++ hashField row.eventId ++
  hashField (toString row.stateVersion) ++ hashField row.eventType ++
  hashField row.actorSource ++ hashField row.operationCategory ++
  hashField (row.taskId.getD "") ++ hashField (row.changeUnitId.getD "") ++
  hashField row.payloadJson ++ hashField row.requestHash ++
  hashField (row.previousEventHash.getD "") ++ hashField row.createdAt

def authorityEventHash (row : AuthorityEventRow) : String :=
  "sha256:" ++ X.sha256Hex (authorityEventPreimage row)

structure EventBatch where
  projectId : String
  stateVersion : Int
  (actorSource operationCategory requestHash createdAt : String)

def EventBatch.row (batch : EventBatch) (eventSeq : Int) (previousEventHash : Option String)
    (event : PendingTaskEvent) : AuthorityEventRow :=
  let columns : AuthorityEventRow :=
    { projectId := batch.projectId, eventSeq := eventSeq, eventId := event.eventId
      stateVersion := batch.stateVersion, eventType := event.eventKind
      actorSource := batch.actorSource, operationCategory := batch.operationCategory
      taskId := event.taskId, changeUnitId := event.changeUnitId
      payloadJson := event.eventPayloadJson, requestHash := batch.requestHash
      previousEventHash := previousEventHash, eventHash := "", createdAt := batch.createdAt }
  { columns with eventHash := authorityEventHash X columns }

/-- The row with the greatest `event_seq`, which both queries over the log look for. -/
def latestEvent : List AuthorityEventRow → Option AuthorityEventRow
  | [] => none
  | row :: rows => match latestEvent rows with
    | none => some row
    | some other => if other.eventSeq < row.eventSeq then some row else some other

def nextEventSeq (db : ProjectDb A) : StoreResult Int :=
  let lastSeq := ((latestEvent db.authorityEvents).map (·.eventSeq)).getD 0
  if lastSeq + 1 ≤ i64Max then .ok (lastSeq + 1)
  else .error (.schemaInvariant "project_state" "authority_events.event_seq overflow")

def previousEventHash (db : ProjectDb A) : Option String :=
  (latestEvent db.authorityEvents).map (·.eventHash)

/-- SQLite's `length(trim(text)) > 0`, which strips spaces only. -/
def sqlNonblank (text : String) : Bool := text.toList.any (· ≠ ' ')

/-- The constraints of `CREATE TABLE authority_events`; the self-reference is deferred. -/
def eventConstraintsHold (R : AggregateReaders A) (db : ProjectDb A) (row : AuthorityEventRow) :
    Bool :=
  0 < row.eventSeq && 0 < row.stateVersion
  && db.authorityEvents.all (fun other => other.eventSeq ≠ row.eventSeq
    && other.eventId ≠ row.eventId && other.eventHash ≠ row.eventHash)
  && sqlNonblank row.eventHash && row.previousEventHash.all sqlNonblank
  && (OperationCategory.ofStr row.operationCategory).isSome
  && (if row.eventType = "project_workflow_policy_applied"
      then row.taskId.isNone && row.changeUnitId.isNone else row.taskId.isSome)
  && match row.taskId with
    | none => true
    | some taskId => R.taskExists db.aggregates taskId
      && row.changeUnitId.all (R.changeUnitExists db.aggregates taskId)

def insertEvent (R : AggregateReaders A) (session : SqliteSession) (index : Nat)
    (row : AuthorityEventRow) : StoreM A Unit := do
  liftExcept (session.run (.insertEvent index))
  let db ← get
  liftExcept (ensure (eventConstraintsHold R db row)
    (StoreError.sqlite "authority_events constraint failed"))
  modify fun db => { db with authorityEvents := db.authorityEvents ++ [row] }

/-- The event loop. The source adds the index with plain `+`; an overflow would panic or
wrap to a negative number, which the table's check refuses, so it is a failure here. -/
def appendEvents (X : External) (R : AggregateReaders A) (session : SqliteSession)
    (batch : EventBatch) (firstEventSeq : Int) :
    Nat → Option String → List PendingTaskEvent → StoreM A Unit
  | _, _, [] => pure ()
  | index, previous, event :: events => do
    let eventSeq := firstEventSeq + index
    liftExcept (ensure (eventSeq ≤ i64Max)
      (StoreError.invalidInput "event index does not fit in SQLite integer"))
    let row := batch.row X eventSeq previous event
    insertEvent R session index row
    appendEvents X R session batch firstEventSeq (index + 1) (some row.eventHash) events

/-- The constraints of `CREATE TABLE tool_invocations`. -/
def toolInvocationConstraintsHold (db : ProjectDb A) (row : ToolInvocationRow) : Bool :=
  db.toolInvocations.all (fun other => !other.answers row.toolName row.idempotencyKey)
  && 0 ≤ row.basisStateVersion && row.basisStateVersion < row.committedStateVersion
  && (OperationCategory.ofStr row.operationCategory).isSome

def insertToolInvocation (row : ToolInvocationRow) : StoreM A Unit := do
  liftExcept (session.run .insertToolInvocation)
  let db ← get
  liftExcept (ensure (toolInvocationConstraintsHold db row)
    (StoreError.sqlite "tool_invocations constraint failed"))
  modify fun db => { db with toolInvocations := db.toolInvocations ++ [row] }

def updateProjectState (current committed : Int) (updatedAt : String) : StoreM A Unit := do
  liftExcept (session.run .updateProjectState)
  let db ← get
  liftExcept (ensure (db.stateVersion = current) (StoreError.schemaInvariant "project_state"
    "project_state state_version update changed no rows"))
  modify fun db => { db with stateVersion := committed, updatedAt := updatedAt }

def CommitMutationInput.eventRefs : List CommittedEventRef :=
  input.events.map fun event => ⟨event.eventId, event.eventKind⟩

def CommitMutationInput.invocationRow (context : VerifiedReplayContext)
    (projectId key responseJson createdAt : String) (basis committed : Int) : ToolInvocationRow :=
  { projectId := projectId, toolName := input.toolName, idempotencyKey := key
    requestHash := input.requestHash, basisStateVersion := basis
    committedStateVersion := committed
    actorSource := context.actorSource.toCanonicalString
    operationCategory := context.operationCategory.asStr
    verificationBasis := context.verificationBasis
    gitWorkspaceContextJson := context.gitWorkspaceContextJson X
    responseJson := responseJson, createdAt := createdAt }

/-- The outcome of a transaction and, when it committed, the clock sample to remember. -/
structure CommitAnswer where
  outcome : MutationCommitOutcome
  clockSample : Option UtcTimestamp

def recordToolInvocation (call : CommitCall A) (context : VerifiedReplayContext)
    (responseJson createdAt : String) (basis committed : Int) : StoreM A Unit := do
  let db ← get
  match call.input.idempotencyKey with
  | none => pure ()
  | some key =>
    let row := call.input.invocationRow X context db.projectId key responseJson createdAt
      basis committed
    insertToolInvocation call.session row

def applyCommit (R : AggregateReaders A) (call : CommitCall A) (admitted : AdmittedCommit)
    (current : ProjectStateHeader) : StoreM A CommitAnswer := do
  let committedStateVersion := current.stateVersion + 1
  liftExcept (ensure (committedStateVersion < 2 ^ 64)
    (StoreError.schemaInvariant "project_state" "project_state.state_version overflow"))
  let currentI64 ← liftExcept (u64ToI64 "basis_state_version" current.stateVersion)
  let committedI64 ← liftExcept (u64ToI64 "committed_state_version" committedStateVersion)
  let db ← get
  let committedAt ← liftExcept (commitTimestamp X call admitted current db)
  let committedAtText := X.chrono.toCanonicalString committedAt
  updateProjectState call.session currentI64 committedI64 committedAtText
  let facts : CommittedMutationFacts :=
    ⟨current.stateVersion, committedStateVersion, call.input.eventRefs⟩
  zoom ProjectDb.aggregates (fun aggregates db => { db with aggregates := aggregates })
    (call.applyMutation ⟨db.projectId, committedAtText⟩ facts)
  let db ← get
  liftExcept (checkResultState R call db)
  liftExcept (call.session.run .selectLastEventSeq)
  let firstEventSeq ← liftExcept (nextEventSeq db)
  liftExcept (call.session.run .selectLastEventHash)
  let batch : EventBatch :=
    { projectId := db.projectId, stateVersion := committedI64
      actorSource := admitted.replayContext.actorSource.toCanonicalString
      operationCategory := admitted.replayContext.operationCategory.asStr
      requestHash := call.input.requestHash, createdAt := committedAtText }
  appendEvents X R call.session batch firstEventSeq 0 (previousEventHash db) call.input.events
  let responseJson ← liftExcept (call.buildResponseJson facts)
  liftExcept (validateJsonText X "tool_invocations.response_json" responseJson)
  recordToolInvocation X call admitted.replayContext responseJson committedAtText
    currentI64 committedI64
  let db ← get
  liftExcept (call.session.run .commit)
  liftExcept (ensure (R.deferredForeignKeysHold db.aggregates)
    (StoreError.sqlite "deferred foreign key constraint failed"))
  return ⟨.committed responseJson current.stateVersion committedStateVersion
    call.input.eventRefs, some committedAt⟩

/-- The whole transaction: replay lookup first, then the version check, then the effects. -/
def commitBody (R : AggregateReaders A) (call : CommitCall A) (admitted : AdmittedCommit) :
    StoreM A (Ending CommitAnswer) := do
  liftExcept (call.session.run .beginImmediate)
  liftExcept (call.session.run .selectProjectState)
  let db ← get
  let current ← liftExcept (decodeProjectState X db)
  match ← liftExcept (replayGate X call admitted.replayContext current db) with
  | some outcome => return .rollback ⟨outcome, none⟩
  | none =>
    match ← liftExcept (staleGate call current) with
    | some outcome => return .rollback ⟨outcome, none⟩
    | none => return .commit (← applyCommit X R call admitted current)

structure CommitResult (A : Type) where
  result : StoreResult MutationCommitOutcome
  handle : StoreHandle
  db : ProjectDb A

def commitWith (R : AggregateReaders A) (handle : StoreHandle) (call : CommitCall A)
    (db : ProjectDb A) : CommitResult A :=
  match admitCommit X db.projectId handle call.input with
  | .error error => ⟨.error error, handle, db⟩
  | .ok admitted =>
    match transact (commitBody X R call admitted) db with
    | (.error error, db') => ⟨.error error, handle, db'⟩
    | (.ok answer, db') =>
      let sample := match answer.clockSample with
        | some committedAt => some committedAt
        | none => handle.lastClockSample
      ⟨.ok answer.outcome, { handle with lastClockSample := sample }, db'⟩

end Volicord
