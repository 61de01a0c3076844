import Volicord.Lib.Table
import Volicord.Lib.Transition
import Volicord.Platform.RepositoryDeltaSpec

/-! `guards/repository_observation.rs`: the observation of one tool call, the write it expects and
the unrecorded change it leaves. The checks of ownership, correlation and replay and the rows of
guard events enter as their outcome. -/
namespace Volicord
open Result Relational Sorted

inductive RepositoryObservationState where
  | opened | complete | unavailable
deriving DecidableEq

structure RepositoryObservationRecord where
  repositoryObservationId : String
  (preToolGuardEventId postToolGuardEventId : Option String)
  state : RepositoryObservationState
  delta : Option RepositoryDelta
  unavailableReason : Option String

/-- A row of `expected_writes`, which is pending until paths are matched. -/
structure ExpectedWriteRecord where
  (expectedWriteId repositoryObservationId : String)
  expectedPaths : List ProductRelativePath
  taskId : String
  matchedPaths : Option (List ProductRelativePath)

structure ObservedUnrecordedChange where
  (unrecordedChangeId repositoryObservationId : String)
  taskId : Option String
  resolved : Bool
  summary : String
  observedPaths : List ProductRelativePath
  unmatchedDeltaDigest : String

structure ObservationTables where
  observations : Table RepositoryObservationRecord.repositoryObservationId
  expectedWrites : Table ExpectedWriteRecord.repositoryObservationId
  unrecordedChanges : Table ObservedUnrecordedChange.unrecordedChangeId

/-- The two digests of the module: of a delta's canonical bytes, and the id of a change. -/
structure ObservationDigests where
  deltaDigest : RepositoryDelta → String
  stableUnrecordedChangeId : String → String → String

inductive PostToolOutcome where
  | unavailable (reason : String)
  | complete (delta : RepositoryDelta)

structure ExpectedWriteInsert where
  expectedWriteId : String
  expectedPaths : List ProductRelativePath
  taskId : String

structure RepositoryObservationResult where
  observationState : RepositoryObservationState
  deltaPaths : Option (List ProductRelativePath)
  unavailableReason : Option String
  (expectedWriteMatches unrecordedChanges : List (String × List ProductRelativePath))

/-- The checks of the decoder in `expected_write_for_observation` that concern paths. -/
def ExpectedWriteRecord.isValid (row : ExpectedWriteRecord) : Bool :=
  !row.expectedPaths.isEmpty && increasing row.expectedPaths
  && row.matchedPaths.all fun paths =>
    !paths.isEmpty && increasing paths && paths.all (row.expectedPaths.contains ·)

def repositoryObservationConflict (id detail : String) : StoreError :=
  .conflict "repository_observation" id detail

namespace ObservationTables
variable (D : ObservationDigests) (t : ObservationTables)

variable (id : String)

def expectedWriteForObservation : StoreResult (Option ExpectedWriteRecord) :=
  match t.expectedWrites.find? id with
  | none => .ok none
  | some row =>
    if row.isValid then .ok (some row)
    else .error (.corruptOwnerStateJson "expected_writes" row.expectedWriteId "expected_paths_json")

def matchPaths (paths : List ProductRelativePath) (row : ExpectedWriteRecord) :
    ExpectedWriteRecord :=
  { row with matchedPaths := some paths }

theorem matchPaths_id (paths : List ProductRelativePath) (row : ExpectedWriteRecord) :
    (matchPaths paths row).repositoryObservationId = row.repositoryObservationId := rfl

/-- The expected paths that changed are marked as matched; a write matches at most once. -/
def matchExpectedWrite (expected : ExpectedWriteRecord) (covered : List ProductRelativePath) :
    StoreResult ObservationTables := do
  ensure expected.matchedPaths.isNone
    (.corruptOwnerStateValue "expected_writes" expected.expectedWriteId "status")
  return { t with
    expectedWrites := t.expectedWrites.update id (matchPaths covered) (matchPaths_id _) }

def matchCovered (expected : Option ExpectedWriteRecord) (covered : List ProductRelativePath) :
    StoreResult (List (String × List ProductRelativePath) × ObservationTables) :=
  match expected with
  | none => .ok ([], t)
  | some expected =>
    if covered.isEmpty then .ok ([], t)
    else (t.matchExpectedWrite id expected covered).map fun t' =>
      ([(expected.expectedWriteId, covered)], t')

def insertUnrecordedChange (taskId : Option String) (delta : RepositoryDelta)
    (unmatched : List ProductRelativePath) :
    StoreResult (ObservedUnrecordedChange × ObservationTables) := do
  let digest := D.deltaDigest (delta.restrictedTo unmatched)
  let row : ObservedUnrecordedChange := ⟨D.stableUnrecordedChangeId id digest, id, taskId, false,
    "Observed " ++ toString unmatched.length ++ " unmatched Product Repository path transition(s)",
    unmatched, digest⟩
  let changes ← okOr (.sqlite "UNIQUE constraint failed: unrecorded_changes")
    (t.unrecordedChanges.insert? row)
  return (row, { t with unrecordedChanges := changes })

def recordUnmatched (taskId : Option String) (delta : RepositoryDelta)
    (unmatched : List ProductRelativePath) :
    StoreResult (List (String × List ProductRelativePath) × ObservationTables) :=
  if unmatched.isEmpty then .ok ([], t)
  else (t.insertUnrecordedChange D id taskId delta unmatched).map fun (row, t') =>
    ([(row.unrecordedChangeId, row.observedPaths)], t')

def coveredPaths (expected : Option ExpectedWriteRecord) (deltaPaths : List ProductRelativePath) :
    List ProductRelativePath :=
  match expected with
  | none => []
  | some expected => sortDedup (expected.expectedPaths.filter (deltaPaths.contains ·))

def terminalResult (outcome : PostToolOutcome) (taskId : Option String) :
    StoreResult (RepositoryObservationResult × ObservationTables) :=
  match outcome with
  | .unavailable reason => .ok (⟨.unavailable, none, some reason, [], []⟩, t)
  | .complete delta => do
    let deltaPaths := sortDedup delta.paths
    let expected ← t.expectedWriteForObservation id
    let linkedTask := (expected.map (·.taskId)).or taskId
    let covered := coveredPaths expected deltaPaths
    let (matched, t) ← t.matchCovered id expected covered
    let (changes, t) ← t.recordUnmatched D id linkedTask delta
      (deltaPaths.filter fun path => !covered.contains path)
    return (⟨.complete, some deltaPaths, none, matched, changes⟩, t)

structure PreToolInsert where
  (repositoryObservationId guardEventId : String)
  unavailableReason : Option String
  expectedWrite : Option ExpectedWriteInsert
  /-- Validation, ownership and correlation. -/
  admitted : StoreResult Unit
  replayMatches : Bool

def ofInsert (input : ExpectedWriteInsert) : ExpectedWriteRecord :=
  ⟨input.expectedWriteId, id, input.expectedPaths, input.taskId, none⟩

def insertExpectedWrite (input : ExpectedWriteInsert) : StoreResult ObservationTables := do
  ensure (!t.expectedWrites.rows.any (·.expectedWriteId = input.expectedWriteId))
    (.sqlite "UNIQUE constraint failed: expected_writes.expected_write_id")
  let writes ← okOr (.sqlite "UNIQUE constraint failed: expected_writes.repository_observation_id")
    (t.expectedWrites.insert? (ofInsert id input))
  return { t with expectedWrites := writes }

def recordPreTool (input : PreToolInsert) : StoreResult ObservationTables := do
  input.admitted
  match t.observations.find? input.repositoryObservationId with
  | some _ => do
    ensure input.replayMatches (repositoryObservationConflict input.repositoryObservationId
      "PreToolUse replay conflicts with the persisted aggregate")
    return t
  | none => do
    let row : RepositoryObservationRecord :=
      ⟨input.repositoryObservationId, some input.guardEventId,
      none, if input.unavailableReason.isSome then .unavailable else .opened, none,
      input.unavailableReason⟩
    let observations ← okOr (.sqlite "UNIQUE constraint failed: repository_observations")
      (t.observations.insert? row)
    let t := { t with observations := observations }
    match input.expectedWrite with
    | none => return t
    | some write => t.insertExpectedWrite input.repositoryObservationId write

structure PostToolInsert where
  (repositoryObservationId guardEventId : String)
  outcome : PostToolOutcome
  taskId : Option String
  admitted : StoreResult Unit
  replayMatches : Bool

def close (guardEventId : String) (outcome : PostToolOutcome) (row : RepositoryObservationRecord) :
    RepositoryObservationRecord :=
  match outcome with
  | .complete delta => { row with
      postToolGuardEventId := some guardEventId, state := .complete, delta := some delta,
      unavailableReason := none }
  | .unavailable reason => { row with
      postToolGuardEventId := some guardEventId, state := .unavailable, delta := none,
      unavailableReason := some reason }

theorem close_id (guardEventId : String) (outcome : PostToolOutcome)
    (row : RepositoryObservationRecord) :
    (close guardEventId outcome row).repositoryObservationId = row.repositoryObservationId := by
  cases outcome <;> rfl

def mayClose (existing : RepositoryObservationRecord) (outcome : PostToolOutcome) : Bool :=
  match existing.state, outcome with
  | .opened, _ => true
  | .unavailable, .unavailable reason => existing.unavailableReason = some reason
  | _, _ => false

def recordPostTool (input : PostToolInsert) :
    StoreResult (Option RepositoryObservationResult × ObservationTables) := do
  input.admitted
  let id := input.repositoryObservationId
  match t.observations.find? id with
  | some existing =>
    if existing.postToolGuardEventId.isSome then do
      ensure input.replayMatches (repositoryObservationConflict id
        "PostToolUse replay conflicts with the persisted terminal aggregate")
      return (none, t)
    else do
      ensure (mayClose existing input.outcome)
        (repositoryObservationConflict id "repository observation is already terminal")
      let (result, t) ← t.terminalResult D id input.outcome input.taskId
      let observations :=
        t.observations.update id (close input.guardEventId input.outcome) (close_id _ _)
      return (some result, { t with observations := observations })
  | none =>
    match input.outcome with
    | .unavailable "missing_open_observation" => do
      let row : RepositoryObservationRecord :=
        ⟨id, none, some input.guardEventId, .unavailable, none,
        some "missing_open_observation"⟩
      let (result, t) ← t.terminalResult D id input.outcome input.taskId
      let observations ← okOr (.sqlite "UNIQUE constraint failed: repository_observations")
        (t.observations.insert? row)
      return (some result, { t with observations := observations })
    | _ => .error (.notFound "repository_observation" id)

def terminalize (reason : String) (row : RepositoryObservationRecord) :
    RepositoryObservationRecord :=
  { row with state := .unavailable, unavailableReason := some reason }

theorem terminalize_id (reason : String) (row : RepositoryObservationRecord) :
    (terminalize reason row).repositoryObservationId = row.repositoryObservationId := rfl

/-- `terminalize_open_repository_observations`, for the open observations it selects. -/
def terminalizeOpen (ids : List String) (reason : String) (admitted : StoreResult Unit) :
    StoreResult ObservationTables := do
  admitted
  ids.forM fun id => ensure ((t.observations.find? id).any (·.state = .opened))
    (.corruptOwnerStateValue "repository_observations" id "state")
  let isSelected (row : RepositoryObservationRecord) : Bool :=
    ids.contains row.repositoryObservationId && row.state = .opened
  let observations := t.observations.updateWhere isSelected (terminalize reason) (terminalize_id _)
  return { t with observations := observations }

def resolve (row : ObservedUnrecordedChange) : ObservedUnrecordedChange :=
  { row with resolved := true }

theorem resolve_id (row : ObservedUnrecordedChange) :
    (resolve row).unrecordedChangeId = row.unrecordedChangeId := rfl

def resolveUnrecordedChange (changeId : String) : ObservationTables :=
  let isOpen (row : ObservedUnrecordedChange) : Bool :=
    row.unrecordedChangeId = changeId && !row.resolved
  { t with unrecordedChanges := t.unrecordedChanges.updateWhere isOpen resolve resolve_id }

end ObservationTables

inductive ObservationOp where
  | preTool (input : ObservationTables.PreToolInsert)
  | postTool (input : ObservationTables.PostToolInsert)
  | terminalizeOpen (ids : List String) (reason : String) (admitted : StoreResult Unit)
  | resolveChange (changeId : String)

def observationStep (D : ObservationDigests) (t : ObservationTables) :
    ObservationOp → StoreResult (Option RepositoryObservationResult) × ObservationTables
  | .preTool input =>
    match t.recordPreTool input with
    | .ok t' => (.ok none, t')
    | .error error => (.error error, t)
  | .postTool input =>
    match t.recordPostTool D input with
    | .ok (result, t') => (.ok result, t')
    | .error error => (.error error, t)
  | .terminalizeOpen ids reason admitted =>
    match t.terminalizeOpen ids reason admitted with
    | .ok t' => (.ok none, t')
    | .error error => (.error error, t)
  | .resolveChange changeId => (.ok none, t.resolveUnrecordedChange changeId)

end Volicord
