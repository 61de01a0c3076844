import Volicord.Store.Evidence
import Volicord.Store.RuntimeSessions

/-! `artifacts.rs`, the source receipts of `evidence_capture.rs` and the promotion of
`core_pipeline/artifacts.rs`, together with the body files below the project home. The checks of
a receipt against its intent and the other mutations of a Run enter as their outcome; symbolic
links are left out. -/
namespace Volicord
open Result Relational

abbrev HomePath := List String

def artifactsDir : String := "artifacts"
def artifactsTmpDir : String := "tmp"

def pathComponent (value : String) : String :=
  let output := value.toList.map fun c =>
    if c.isAlphanum || c = '_' || c = '-' || c = '.' then c else '_'
  let outer (c : Char) : Bool := c = '_' || c = '.' || c = '-'
  let trimmed := ((output.dropWhile outer).reverse.dropWhile outer).reverse
  if trimmed.isEmpty then "staged_artifact" else String.ofList (trimmed.take 120)

def stagedBodyPath (handleId : String) : HomePath :=
  [artifactsDir, artifactsTmpDir, pathComponent handleId ++ ".txt"]

/-- `artifact_staging`, with the column of its body file. -/
structure StagedArtifactRow extends ArtifactStagingRecord where
  tmpPath : Option HomePath

/-- `artifacts`, with the handle it was promoted from and its path in the artifact store. -/
structure PromotedArtifactRow extends ArtifactRecord where
  sourceStagingHandleId : String
  bodyPath : HomePath

/-- The unique columns of `evidence_capture_receipts`. -/
structure CaptureReceiptKeys where
  (evidenceCaptureReceiptId evidenceCaptureIntentId stagingHandleId : String)

structure ArtifactTables where
  artifactStaging : Table (StagedArtifactRow.toArtifactStagingRecord · |>.handleId)
  artifacts : Table (PromotedArtifactRow.toArtifactRecord · |>.artifactId)
  receipts : Table CaptureReceiptKeys.evidenceCaptureReceiptId
  sourceClaims : Table (id : String → String)

def ArtifactTables.empty : ArtifactTables := ⟨.empty, .empty, .empty, .empty⟩

structure ArtifactStore where
  tables : ArtifactTables
  files : HomePath → Option (List UInt8)

def ArtifactStore.empty : ArtifactStore := ⟨.empty, fun _ => none⟩

def ArtifactStore.setFile (s : ArtifactStore) (path : HomePath) (body : Option (List UInt8)) :
    ArtifactStore :=
  { s with files := Function.update s.files path body }

/-- What is fixed outside: timestamps and the digest of a body. -/
structure BodyExternal where
  chrono : Chrono
  sha256Hex : List UInt8 → String

/-- How a failing `fs::write` leaves the file: it was not opened, or it was emptied and got the
first bytes. -/
inductive WriteFault where
  | unopened
  | cut (count : Nat)

structure StagingFaults where
  opening : Option StoreError
  write : Option (StoreError × WriteFault)
  (insert receipt claims commit : Option StoreError)

def StagingFaults.none : StagingFaults := ⟨.none, .none, .none, .none, .none, .none⟩

def proceed : Option StoreError → StoreResult Unit
  | some error => .error error
  | none => .ok ()

structure ArtifactStagingInsert where
  (handleId taskId : String)
  createdByActorSource : ActorSource
  (displayName contentType sha256 : String)
  sizeBytes : Nat
  redactionState : RedactionState
  safeBytesOrNotice : List UInt8
  (createdAt expiresAt : UtcTimestamp)

def validateNonemptyText (field value : String) : StoreResult Unit := do
  ensure (!Text.isBlank value) (.invalidInput (field ++ " must not be empty"))
  ensure (!value.toList.any Text.isControl)
    (.invalidInput (field ++ " must not contain control characters"))

def validateStagingTimestamp (C : Chrono) (field : String) (value : UtcTimestamp) :
    StoreResult Unit :=
  ensure (C.ensureCanonicalRfc3339Representable value)
    (.invalidInput (field ++ " must be a valid RFC 3339 timestamp"))

namespace ArtifactStagingInsert

def validate (C : Chrono) (input : ArtifactStagingInsert) : StoreResult Unit := do
  validateIdentifier "handle_id" input.handleId
  validateIdentifier "task_id" input.taskId
  validateIdentifier "created_by_actor_source" input.createdByActorSource.toCanonicalString
  validateNonemptyText "display_name" input.displayName
  validateNonemptyText "content_type" input.contentType
  validateArtifactSha256 "sha256" input.sha256
  validateStagingTimestamp C "created_at" input.createdAt
  validateStagingTimestamp C "expires_at" input.expiresAt
  ensure (input.createdAt < input.expiresAt)
    (.invalidInput "expires_at must be later than created_at")

def row (input : ArtifactStagingInsert) : StagedArtifactRow where
  handleId := input.handleId
  taskId := input.taskId
  createdByActorSource := input.createdByActorSource
  contentType := some input.contentType
  sha256 := some input.sha256
  sizeBytes := some input.sizeBytes
  redactionState := input.redactionState
  status := .staged
  createdAt := input.createdAt
  expiresAt := input.expiresAt
  consumedByRunId := none
  promotedArtifactId := none
  tmpPath := some (stagedBodyPath input.handleId)

end ArtifactStagingInsert

inductive StagingOutcome where
  /-- Before anything was written. -/
  | refused (error : StoreError)
  | unwritten (error : StoreError) (fault : WriteFault)
  /-- The body was written, the transaction was not committed and the file was removed. -/
  | withdrawn (error : StoreError)
  | committed (tables : ArtifactTables)

namespace ArtifactTables

/-- `insert_artifact_staging_tx`, up to the file it leaves. -/
def insertArtifactStaging (t : ArtifactTables) (faults : StagingFaults)
    (input : ArtifactStagingInsert) : StagingOutcome :=
  if 2 ^ 63 ≤ input.sizeBytes then
    .refused (.invalidInput "artifact_staging.size_bytes does not fit in SQLite integer")
  else match faults.write with
    | some (error, fault) => .unwritten error fault
    | none =>
      match proceed faults.insert,
        insertRow t.artifactStaging input.row true "artifact_staging" with
      | .error error, _ | _, .error error => .withdrawn error
      | .ok (), .ok rows => .committed { t with artifactStaging := rows }

/-- What follows the staged row inside its transaction; a failure removes the body again. -/
def followedBy (outcome : StagingOutcome) (rest : ArtifactTables → StoreResult ArtifactTables) :
    StagingOutcome :=
  match outcome with
  | .committed t =>
    match rest t with
    | .error error => .withdrawn error
    | .ok t => .committed t
  | outcome => outcome

def createArtifactStaging (C : Chrono) (faults : StagingFaults) (input : ArtifactStagingInsert)
    (t : ArtifactTables) : StagingOutcome :=
  match input.validate C, proceed faults.opening with
  | .error error, _ | _, .error error => .refused error
  | .ok (), .ok () => followedBy (t.insertArtifactStaging faults input) fun t => do
    proceed faults.commit
    return t

end ArtifactTables

/-- A source receipt. `checked` is what the checks of the receipt and of its intent answer: the
source claims it makes. -/
structure CaptureSourceInsert where
  (evidenceCaptureReceiptId evidenceCaptureIntentId stagingHandleId taskId : String)
  observedByActorSource : ActorSource
  safeReceiptJson : String
  (createdAt stagingExpiresAt : UtcTimestamp)
  checked : StoreResult (List String)

namespace CaptureSourceInsert

/-- The staged body of a receipt: its digest and size are taken from its bytes. -/
def staging (X : BodyExternal) (input : CaptureSourceInsert) : ArtifactStagingInsert where
  handleId := input.stagingHandleId
  taskId := input.taskId
  createdByActorSource := input.observedByActorSource
  displayName := "evidence-capture-receipt.json"
  contentType := "application/json"
  sha256 := X.sha256Hex input.safeReceiptJson.toUTF8.toList
  sizeBytes := input.safeReceiptJson.toUTF8.toList.length
  redactionState := .redacted
  safeBytesOrNotice := input.safeReceiptJson.toUTF8.toList
  createdAt := input.createdAt
  expiresAt := input.stagingExpiresAt

def keys (input : CaptureSourceInsert) : CaptureReceiptKeys :=
  ⟨input.evidenceCaptureReceiptId, input.evidenceCaptureIntentId, input.stagingHandleId⟩

end CaptureSourceInsert

namespace ArtifactTables

def receiptIsUnique (t : ArtifactTables) (keys : CaptureReceiptKeys) : Bool :=
  t.receipts.rows.all fun other => other.evidenceCaptureIntentId ≠ keys.evidenceCaptureIntentId
    && other.stagingHandleId ≠ keys.stagingHandleId

def insertSourceClaim (t : ArtifactTables) (claim : String) : StoreResult ArtifactTables := do
  let rows ← insertRow t.sourceClaims claim true "evidence_capture_source_claims"
  return { t with sourceClaims := rows }

/-- The rest of `fulfill_evidence_capture_source`, after the staged row. -/
def insertReceipt (faults : StagingFaults) (input : CaptureSourceInsert) (claims : List String)
    (t : ArtifactTables) : StoreResult ArtifactTables := do
  proceed faults.receipt
  let receipts ← insertRow t.receipts input.keys (t.receiptIsUnique input.keys)
    "evidence_capture_receipts"
  proceed faults.claims
  let t ← claims.foldlM insertSourceClaim { t with receipts := receipts }
  proceed faults.commit
  return t

/-- `fulfill_evidence_capture_source`; reading the committed receipt back is left out. -/
def fulfillEvidenceCaptureSource (X : BodyExternal) (faults : StagingFaults)
    (input : CaptureSourceInsert) (t : ArtifactTables) : StagingOutcome :=
  match input.checked, (input.staging X).validate X.chrono, proceed faults.opening with
  | .error error, _, _ | _, .error error, _ | _, _, .error error => .refused error
  | .ok claims, .ok (), .ok () =>
    followedBy (t.insertArtifactStaging faults (input.staging X))
      (insertReceipt faults input claims)

end ArtifactTables

/-- `normal_relative_path_components`, of a path that has been split. -/
def normalRelativePathComponents (path : HomePath) : Option HomePath :=
  if path.isEmpty || path.any fun component => component.isEmpty || component = "."
      || component = ".." || component.contains '\\' then none
  else some path

def persistentBodyPath (tmpPath : HomePath) : StoreResult HomePath := do
  let components ← okOr (.schemaInvariant projectStateDatabaseKind
    "staged artifact body path is not a safe relative path") (normalRelativePathComponents tmpPath)
  ensure (components.head? = some artifactsDir) (.schemaInvariant projectStateDatabaseKind
    "staged artifact body path is outside the artifact store")
  ensure (!components.tail.isEmpty) (.schemaInvariant projectStateDatabaseKind
    "staged artifact body path does not name a persistent artifact-store path")
  ensure (components.tail.head? ≠ some artifactsDir) (.schemaInvariant projectStateDatabaseKind
    "persistent artifact body path uses the project-home artifact-store prefix")
  return components.tail

namespace ArtifactStore

def verifyStagedArtifactBody (X : BodyExternal) (s : ArtifactStore) (tmpPath : HomePath)
    (expectedSha256 : String) (expectedSizeBytes : Nat) : StoreResult Unit := do
  let bytes ← okOr (.sqlite "No such file or directory") (s.files tmpPath)
  ensure (bytes.length = expectedSizeBytes) (.schemaInvariant projectStateDatabaseKind
    "staged artifact body size changed before promotion")
  ensure (X.sha256Hex bytes = expectedSha256) (.schemaInvariant projectStateDatabaseKind
    "staged artifact body checksum changed before promotion")

/-- `promote_staged_artifact`; the row keeps the file of its handle. -/
def promoteStagedArtifact (X : BodyExternal) (committedAt : UtcTimestamp) (s : ArtifactStore)
    (input : ArtifactPromotion) : StoreResult ArtifactStore := do
  validateIdentifier "artifact_staging.handle_id" input.handleId
  validateIdentifier "artifact_id" input.artifactId
  validateIdentifier "task_id" input.taskId
  validateIdentifier "run_id" input.runId
  validateArtifactSha256 "expected_sha256" input.expectedSha256
  let staging ← okOr (.schemaInvariant projectStateDatabaseKind
    "staged artifact disappeared before promotion")
    (s.tables.artifactStaging.find? input.handleId)
  ensure (CoreTables.stagingMatchesPromotion staging.toArtifactStagingRecord input)
    (.schemaInvariant projectStateDatabaseKind "staged artifact changed before promotion")
  ensure (staging.createdAt ≤ committedAt && committedAt < staging.expiresAt)
    (.schemaInvariant projectStateDatabaseKind
      "staged artifact is outside its exact eligibility window")
  let tmpPath ← okOr (.schemaInvariant projectStateDatabaseKind
    "staged artifact body path is missing before promotion") staging.tmpPath
  let bodyPath ← persistentBodyPath tmpPath
  s.verifyStagedArtifactBody X tmpPath input.expectedSha256 input.expectedSizeBytes
  let artifacts ← insertRow s.tables.artifacts
    { artifactId := input.artifactId, taskId := input.taskId, producerRunId := input.runId
      contentType := staging.contentType, sha256 := some input.expectedSha256
      sizeBytes := some input.expectedSizeBytes, redactionState := input.expectedRedactionState
      integrityStatus := .verified, availability := .available
      sourceStagingHandleId := input.handleId, bodyPath := bodyPath }
    (s.tables.artifacts.rows.all (·.sourceStagingHandleId ≠ input.handleId)) "artifacts"
  return { s with tables := { s.tables with
    artifacts := artifacts
    artifactStaging := s.tables.artifactStaging.update input.handleId ({ · with
      status := .consumed, consumedByRunId := some input.runId
      promotedArtifactId := some input.artifactId }) } }

/-- The promotions of a committed Run, all or none of them; `fault` is the error of another
mutation or of the commit. -/
def recordRun (X : BodyExternal) (committedAt : UtcTimestamp) (promotions : List ArtifactPromotion)
    (fault : Option StoreError) (s : ArtifactStore) : StoreResult ArtifactStore := do
  let s ← promotions.foldlM (promoteStagedArtifact X committedAt) s
  proceed fault
  return s

/-- The file after a call that stages `bytes` at `path`. -/
def settle (s : ArtifactStore) (path : HomePath) (bytes : List UInt8) :
    StagingOutcome → StoreResult Unit × ArtifactStore
  | .refused error => (.error error, s)
  | .unwritten error .unopened => (.error error, s)
  | .unwritten error (.cut count) => (.error error, s.setFile path (some (bytes.take count)))
  | .withdrawn error => (.error error, s.setFile path none)
  | .committed tables => (.ok (), { s.setFile path (some bytes) with tables := tables })

end ArtifactStore

inductive ArtifactOp where
  | createArtifactStaging (input : ArtifactStagingInsert) (faults : StagingFaults)
  | fulfillEvidenceCaptureSource (input : CaptureSourceInsert) (faults : StagingFaults)
  | recordRun (committedAt : UtcTimestamp) (promotions : List ArtifactPromotion)
    (fault : Option StoreError)

def artifactStep (X : BodyExternal) (s : ArtifactStore) :
    ArtifactOp → StoreResult Unit × ArtifactStore
  | .createArtifactStaging input faults =>
    s.settle (stagedBodyPath input.handleId) input.safeBytesOrNotice
      (s.tables.createArtifactStaging X.chrono faults input)
  | .fulfillEvidenceCaptureSource input faults =>
    s.settle (stagedBodyPath (input.staging X).handleId) (input.staging X).safeBytesOrNotice
      (s.tables.fulfillEvidenceCaptureSource X faults input)
  | .recordRun committedAt promotions fault =>
    match s.recordRun X committedAt promotions fault with
    | .error error => (.error error, s)
    | .ok s => (.ok (), s)

abbrev ArtifactEvent := Transition.Event ArtifactStore ArtifactOp (StoreResult Unit)

end Volicord
