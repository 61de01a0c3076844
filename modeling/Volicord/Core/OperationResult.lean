import Volicord.Store.System
import Volicord.Types.CanonicalScalar

/-! `methods/operation_result.rs`: bounded pages of a stored response, and the cursors between
them. -/
namespace Volicord
open Result Framing

def maxOperationResultPageBytes : Nat := 16384

/-- The coordinates of a committed response; numbers and the lengths of texts fit 64 bits. -/
structure OperationResultRef where
  projectId : String
  sourceMethod : MethodName
  sourceIdempotencyKey : String
  committedStateVersion : Nat
  responseSha256 : String
  responseSizeBytes : Nat
  versionFits : committedStateVersion < 256 ^ 8
  sizeFits : responseSizeBytes < 256 ^ 8
  projectFits : (utf8Bytes projectId).length < 256 ^ 8
  keyFits : (utf8Bytes sourceIdempotencyKey).length < 256 ^ 8
  digestFits : (utf8Bytes responseSha256).length < 256 ^ 8
deriving DecidableEq

structure StoredOperationResult where
  projectId : String
  sourceMethod : MethodName
  sourceIdempotencyKey : String
  committedStateVersion : Nat
  actorSource : ActorSource
  operationCategory : OperationCategory
  responseSha256 : String
  responseSizeBytes : Nat
  responseJson : String
deriving DecidableEq

/-- The SHA-256 digest of bytes in hexadecimal digits, and `stored_public_response_is_current`: the
result types of the methods it decodes are not modelled, so it stays open. -/
structure OperationResultEnv where
  sha256Hex : List UInt8 → String
  storedPublicResponseIsCurrent : MethodName → String → Nat → Bool

structure GetOperationResultRequest where
  dryRun : Bool
  idempotencyKey : Option String
  expectedStateVersion : Option Nat
  projectId : String
  operationResultRef : OperationResultRef
  cursor : Option String

structure OperationResultPage where
  operationResultRef : OperationResultRef
  (startOffsetBytes endOffsetBytes : Nat)
  chunkUtf8 : String
  nextCursor : Option String
  (complete historical currentAuthorityRefreshRequired : Bool)
deriving DecidableEq

inductive OperationResultError where
  | validation (field message : String)
  | invocationContextMismatch (message : String)
  | unavailable (message : String)
  | store (error : StoreError)
  -- what the shared preflight answers
  | preflight (message : String)
  -- a slice outside of the text or inside of a character
  | panicked
deriving DecidableEq

structure ParsedCursor where
  offset : Nat
  digest : String

def cursorDomain : List UInt8 := utf8Bytes "volicord.operation-result.cursor" ++ [0]

def cursorComponent (component : String) : List UInt8 :=
  beBytes 8 (utf8Bytes component).length ++ utf8Bytes component

/-- What `cursor_digest` feeds to the hash. -/
def cursorPreimage (ref : OperationResultRef) (offset : Nat) : List UInt8 :=
  cursorDomain ++ (cursorComponent ref.projectId ++ (cursorComponent ref.sourceMethod.asStr ++
    (cursorComponent ref.sourceIdempotencyKey ++ (beBytes 8 ref.committedStateVersion ++
      (cursorComponent ref.responseSha256 ++ (beBytes 8 ref.responseSizeBytes ++
        beBytes 8 offset))))))

def cursorDigest (E : OperationResultEnv) (ref : OperationResultRef) (offset : Nat) : String :=
  E.sha256Hex (cursorPreimage ref offset)

def cursorForRef (E : OperationResultEnv) (ref : OperationResultRef) (offset : Nat) : String :=
  toString offset ++ ("." ++ cursorDigest E ref offset)

def parseCursor (cursor : String) : Option ParsedCursor :=
  match cursor.toList.splitOn '.' with
  | [offset, digest] =>
    if offset.isEmpty || !offset.all Char.isDigit
      || (1 < offset.length && offset.head? = some '0')
      || !isCanonicalSha256Hex (String.ofList digest) then none
    else if Nat.ofDigitChars 10 offset 0 < 256 ^ 8 then
      some ⟨Nat.ofDigitChars 10 offset 0, String.ofList digest⟩
    else none
  | _ => none

def cursorMatchesRef (E : OperationResultEnv) (cursor : ParsedCursor) (ref : OperationResultRef) :
    Bool :=
  cursor.digest = cursorDigest E ref cursor.offset

/- Byte offsets into a text. -/

def byteLength (text : List Char) : Nat := (text.flatMap String.utf8EncodeChar).length

/-- The text in front of and behind an offset that is a character boundary. -/
def splitBytes : List Char → Nat → Option (List Char × List Char)
  | text, 0 => some ([], text)
  | [], _ + 1 => none
  | c :: text, n + 1 =>
    if c.utf8Size ≤ n + 1 then
      (splitBytes text (n + 1 - c.utf8Size)).map fun r => (c :: r.1, r.2)
    else none

def isCharBoundary (text : List Char) (offset : Nat) : Bool := (splitBytes text offset).isSome

/-- `text[start..stop]`; `none` is a panic. -/
def sliceBytes (text : List Char) (start stop : Nat) : Option (List Char) := do
  let (front, _) ← splitBytes text stop
  let (_, chunk) ← splitBytes front start
  return chunk

/-- The loop that moves the end of a page back to a character boundary. -/
def lowerEnd (text : List Char) (start : Nat) : Nat → Nat
  | 0 => 0
  | stop + 1 =>
    if start < stop + 1 && !isCharBoundary text (stop + 1) then lowerEnd text start stop
    else stop + 1

/- The method. -/

def storedOperationResult (E : OperationResultEnv) (record : ToolInvocationRecord) :
    StoreResult StoredOperationResult := do
  let bytes := utf8Bytes record.responseJson
  ensure (bytes.length < 256 ^ 8) (.schemaInvariant "project_state"
    "tool_invocations.response_json byte length does not fit u64")
  return ⟨record.projectId, record.toolName, record.idempotencyKey, record.committedStateVersion,
    record.actorSource, record.operationCategory, "sha256:" ++ E.sha256Hex bytes, bytes.length,
    record.responseJson⟩

variable {A : Type}

def ProjectDb.operationResult (E : OperationResultEnv) (X : External) (db : ProjectDb A)
    (sourceMethod : MethodName) (key : String) : StoreResult (Option StoredOperationResult) := do
  match ← lookupToolInvocation X sourceMethod.asStr key db with
  | none => return none
  | some record =>
    let stored ← storedOperationResult E record
    return some stored

def storedMatchesRef (stored : StoredOperationResult) (ref : OperationResultRef) : Bool :=
  stored.projectId = ref.projectId && stored.sourceMethod = ref.sourceMethod
  && stored.sourceIdempotencyKey = ref.sourceIdempotencyKey
  && stored.committedStateVersion = ref.committedStateVersion
  && stored.responseSha256 = ref.responseSha256
  && stored.responseSizeBytes = ref.responseSizeBytes

def unavailable : OperationResultError := .unavailable "operation result is unavailable"

def cursorMismatch : OperationResultError :=
  .unavailable "operation result cursor does not match"

def GetOperationResultRequest.validate (request : GetOperationResultRequest) :
    Except OperationResultError (Option ParsedCursor) := do
  ensure (!request.dryRun) (.validation "dry_run" "dry_run=true is forbidden for this method")
  ensure request.idempotencyKey.isNone (.validation "idempotency_key"
    "operation-result retrieval requires idempotency_key=null")
  ensure request.expectedStateVersion.isNone (.validation "expected_state_version"
    "operation-result retrieval requires expected_state_version=null")
  ensure (isCanonicalSha256Digest request.operationResultRef.responseSha256)
    (.validation "operation_result_ref.response_sha256"
      "response_sha256 must use sha256: followed by 64 lowercase hexadecimal digits")
  ensure (request.operationResultRef.responseSizeBytes ≠ 0)
    (.validation "operation_result_ref.response_size_bytes"
      "response_size_bytes must be greater than zero")
  match request.cursor with
  | none => return none
  | some cursor =>
    let parsed ← okOr (.validation "cursor" "cursor is malformed") (parseCursor cursor)
    return some parsed

/-- From the preflight to the stored result: it is the one the reference names, of an agent's
workflow, and belongs to the caller. -/
def openOperationResult (E : OperationResultEnv) (X : External) (db : ProjectDb A)
    (actor : ActorSource) (projectId : String) (ref : OperationResultRef) :
    Except OperationResultError StoredOperationResult := do
  ensure (projectId = ref.projectId) (.invocationContextMismatch
    "operation-result project context does not match")
  let found ← (db.operationResult E X ref.sourceMethod ref.sourceIdempotencyKey).mapError .store
  let stored ← okOr unavailable found
  ensure (stored.operationCategory = .agentWorkflow) unavailable
  ensure (stored.actorSource = actor) (.invocationContextMismatch
    "originating actor context does not match")
  ensure (storedMatchesRef stored ref) unavailable
  ensure (E.storedPublicResponseIsCurrent ref.sourceMethod stored.responseJson
    stored.committedStateVersion) unavailable
  return stored

def startOffset (E : OperationResultEnv) (ref : OperationResultRef) :
    Option ParsedCursor → Except OperationResultError Nat
  | none => .ok 0
  | some cursor => do
    ensure (cursorMatchesRef E cursor ref) cursorMismatch
    return cursor.offset

def readPage (E : OperationResultEnv) (ref : OperationResultRef) (text : List Char) (start : Nat) :
    Except OperationResultError OperationResultPage := do
  ensure (start < byteLength text && isCharBoundary text start) cursorMismatch
  let stop := lowerEnd text start (min (byteLength text) (start + maxOperationResultPageBytes))
  let chunk ← okOr .panicked (sliceBytes text start stop)
  let complete : Bool := stop = byteLength text
  return { operationResultRef := ref
           startOffsetBytes := start
           endOffsetBytes := stop
           chunkUtf8 := String.ofList chunk
           nextCursor := if complete then none else some (cursorForRef E ref stop)
           complete := complete
           historical := true
           currentAuthorityRefreshRequired := true }

/-- `get_operation_result`, with what the shared preflight gives: the verified actor, or an answer
of its own. -/
def getOperationResult (E : OperationResultEnv) (X : External) (db : ProjectDb A)
    (invocation : Except OperationResultError ActorSource) (request : GetOperationResultRequest) :
    Except OperationResultError OperationResultPage := do
  let cursor ← request.validate
  let actor ← invocation
  let stored ← openOperationResult E X db actor request.projectId request.operationResultRef
  let start ← startOffset E request.operationResultRef cursor
  readPage E request.operationResultRef stored.responseJson.toList start

end Volicord
