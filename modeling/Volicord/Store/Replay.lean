import Volicord.Lib.Result
import Volicord.Types.Json
import Volicord.Types.Values

/-! The replay identity of a committed call: how it is checked, written to a
`tool_invocations` row and decoded again. -/
namespace Volicord
open Result

/-- Code outside the repository the Store calls. `sha256Hex` is the lowercase
hexadecimal SHA-256 digest of a text's UTF-8 bytes. -/
structure External where
  chrono : Chrono
  json : SerdeJson
  sha256Hex : String → String

inductive StoreError where
  | sqlite (detail : String)
  | invalidInput (detail : String)
  | notFound (entity id : String)
  | conflict (entity id detail : String)
  | corruptOwnerStateJson (table recordRef logicalColumn : String)
  | corruptOwnerStateValue (table recordRef logicalColumn : String)
  | corruptOwnerStateInvariant (recordRef invariantName : String)
  | schemaInvariant (databaseKind detail : String)
deriving DecidableEq

abbrev StoreResult := Except StoreError

def validateIdentifier (field value : String) : StoreResult Unit :=
  ensure (!Text.isBlank value) (.invalidInput (field ++ " must not be empty"))

/-- The source's message ends with serde_json's own error text, which is left out. -/
def validateJsonText (X : External) (field text : String) : StoreResult Unit :=
  ensure (X.json.isJsonText text) (.invalidInput (field ++ " must be JSON text"))

structure VerifiedReplayContext where
  actorSource : ActorSource
  operationCategory : OperationCategory
  verificationBasis : Option String
  gitWorkspaceContext : Option JsonObject
deriving DecidableEq

inductive ReplayContextFieldKind where
  | value | json

structure ReplayContextValidationFailure where
  (inputField logicalColumn detail : String)
  fieldKind : ReplayContextFieldKind

structure PersistedGitWorkspaceReplayContext where
  (gitCommonDir worktreeId : String)
  (branchRef headSha : Option String)
  workspaceFingerprint : String

namespace PersistedGitWorkspaceReplayContext

def optionalText : Option String → Json
  | none => .null
  | some text => .str text

variable (c : PersistedGitWorkspaceReplayContext)

/-- `serde_json::to_value`: the members stand in key order. -/
def toJson : Json :=
  .obj [("branch_ref", optionalText c.branchRef), ("git_common_dir", .str c.gitCommonDir),
    ("head_sha", optionalText c.headSha), ("workspace_fingerprint", .str c.workspaceFingerprint),
    ("worktree_id", .str c.worktreeId)]

def knownFields : List String :=
  ["git_common_dir", "worktree_id", "branch_ref", "head_sha", "workspace_fingerprint"]

def requiredText (members : List (String × Json)) (field : String) : Option String :=
  match members.lookup field with
  | some (.str text) => some text
  | _ => none

/-- A field of type `Option<String>` may be absent, null or a string. -/
def readOptionalText (members : List (String × Json)) (field : String) : Option (Option String) :=
  match members.lookup field with
  | none | some .null => some none
  | some (.str text) => some (some text)
  | _ => none

/-- The derived `Deserialize` with `deny_unknown_fields`. -/
def ofJson : Json → Option PersistedGitWorkspaceReplayContext
  | .obj members =>
    if members.all fun m => knownFields.contains m.1 then do
      let gitCommonDir ← requiredText members "git_common_dir"
      let worktreeId ← requiredText members "worktree_id"
      let branchRef ← readOptionalText members "branch_ref"
      let headSha ← readOptionalText members "head_sha"
      let workspaceFingerprint ← requiredText members "workspace_fingerprint"
      return ⟨gitCommonDir, worktreeId, branchRef, headSha, workspaceFingerprint⟩
    else none
  | _ => none

theorem toJson_wellFormed : c.toJson.wellFormed := by
  obtain ⟨dir, id, branch, sha, print⟩ := c
  have hkeys : (["branch_ref", "git_common_dir", "head_sha", "workspace_fingerprint",
    "worktree_id"] : List String).Pairwise (· < ·) := by decide
  rw [toJson, Json.wellFormed, Bool.and_eq_true]
  refine ⟨decide_eq_true hkeys, ?_⟩
  cases branch <;> cases sha <;> rfl

theorem toJson_flat : c.toJson.flat := by
  obtain ⟨dir, id, branch, sha, print⟩ := c
  cases branch <;> cases sha <;> simp [toJson, Json.flat, Json.isText, optionalText]

end PersistedGitWorkspaceReplayContext

theorem utf8ByteSize_ofList_ascii {chars : List Char} (h : ∀ c ∈ chars, c.val.toNat ≤ 127) :
    (String.ofList chars).utf8ByteSize = chars.length := by
  induction chars with
  | nil => rfl
  | cons c chars ih =>
    have hsize : c.utf8Size = 1 := by
      rw [Char.utf8Size_eq_one_iff, UInt32.le_iff_toNat_le]
      exact h c List.mem_cons_self
    rw [String.ofList_cons, String.utf8ByteSize_append, String.utf8ByteSize_singleton, hsize,
      ih fun c hc => h c (List.mem_cons_of_mem _ hc), List.length_cons, Nat.add_comm]

def isLowercaseHex (c : Char) : Bool := ('0' ≤ c && c ≤ '9') || ('a' ≤ c && c ≤ 'f')

def isAsciiHexdigit (c : Char) : Bool := isLowercaseHex c || ('A' ≤ c && c ≤ 'F')

variable (value : String)

def isCanonicalSha256Hex : Bool :=
  value.utf8ByteSize = 64 && value.toList.all isLowercaseHex

def isCanonicalSha256Digest : Bool :=
  (Text.strip "sha256:" value).any isCanonicalSha256Hex

def canonicalGitObjectId : Option String :=
  if (value.utf8ByteSize = 40 || value.utf8ByteSize = 64) && value.toList.all isAsciiHexdigit
  then some (String.ofList (value.toList.map Char.toLower)) else none

def validBranchRef (reference : String) : Bool :=
  Text.startsWith reference "refs/" &&
  !reference.toList.any (fun c => c = '\x00' || c = '\n' || c = '\r') && Text.isTrimmed reference

def parseCanonicalGitWorkspaceContext (X : External) (text : String) :
    Except String PersistedGitWorkspaceReplayContext :=
  match (X.json.parse text).bind PersistedGitWorkspaceReplayContext.ofJson with
  | none => .error "must have the strict Git workspace-context JSON shape"
  | some context =>
    if Text.isBlank context.gitCommonDir || !Text.startsWith context.gitCommonDir "/" then
      .error "must contain an absolute non-empty git_common_dir"
    else if !isCanonicalSha256Digest context.worktreeId then
      .error "must contain a valid worktree_id"
    else if context.branchRef.any fun reference => !validBranchRef reference then
      .error "must contain a valid branch_ref or null"
    else if context.headSha.any fun sha => canonicalGitObjectId sha ≠ some sha then
      .error "must contain a canonical lowercase head_sha or null"
    else if !isCanonicalSha256Digest context.workspaceFingerprint then
      .error "must contain a valid workspace_fingerprint"
    else if X.json.canonicalJsonString context.toJson ≠ text then
      .error "must use canonical JSON serialization"
    else .ok context

def validateCanonicalReplayIdentity (X : External) (actorSource operationCategory : String)
    (verificationBasis gitWorkspaceContextJson : Option String) :
    Except ReplayContextValidationFailure Unit :=
  if (ActorSource.parse actorSource).map ActorSource.toCanonicalString ≠ some actorSource then
    .error ⟨"actor_source", "actor_source", "must be a canonical ActorSource value", .value⟩
  else if (OperationCategory.ofStr operationCategory).map OperationCategory.asStr
      ≠ some operationCategory then
    .error ⟨"operation_category", "operation_category",
      "must be a canonical supported OperationCategory value", .value⟩
  else if verificationBasis.any Text.isBlank then
    .error ⟨"verification_basis", "verification_basis", "must not be empty", .value⟩
  else match gitWorkspaceContextJson with
    | none => .ok ()
    | some context => match parseCanonicalGitWorkspaceContext X context with
      | .ok _ => .ok ()
      | .error detail => .error ⟨"tool_invocations.git_workspace_context_json",
          "git_workspace_context_json", detail, .json⟩

namespace VerifiedReplayContext

def gitWorkspaceContextJson (X : External) (context : VerifiedReplayContext) : Option String :=
  context.gitWorkspaceContext.map fun o => X.json.canonicalJsonString o.toJson

def validate (X : External) (context : VerifiedReplayContext) : StoreResult Unit :=
  match validateCanonicalReplayIdentity X context.actorSource.toCanonicalString
      context.operationCategory.asStr context.verificationBasis
      (context.gitWorkspaceContextJson X) with
  | .ok () => .ok ()
  | .error failure => .error (.invalidInput (failure.inputField ++ " " ++ failure.detail))

end VerifiedReplayContext

/-- One row of `tool_invocations`, columns as stored. -/
structure ToolInvocationRow where
  (projectId toolName idempotencyKey requestHash : String)
  (basisStateVersion committedStateVersion : Int)
  (actorSource operationCategory : String)
  (verificationBasis gitWorkspaceContextJson : Option String)
  (responseJson createdAt : String)

structure ToolInvocationRecord where
  projectId : String
  toolName : MethodName
  (idempotencyKey requestHash : String)
  (basisStateVersion committedStateVersion : Nat)
  actorSource : ActorSource
  operationCategory : OperationCategory
  verificationBasis : Option String
  gitWorkspaceContext : Option JsonObject
  responseJson : String

namespace ToolInvocationRecord

variable (record : ToolInvocationRecord)

def replayContext : VerifiedReplayContext :=
  ⟨record.actorSource, record.operationCategory, record.verificationBasis,
    record.gitWorkspaceContext⟩

variable (context : VerifiedReplayContext)

def matchesVerifiedReplayContext : Bool :=
  record.actorSource = context.actorSource && record.operationCategory = context.operationCategory
  && record.verificationBasis = context.verificationBasis
  && record.gitWorkspaceContext = context.gitWorkspaceContext

theorem matches_iff : record.matchesVerifiedReplayContext context ↔ record.replayContext = context
    := by
  obtain ⟨a, o, v, g⟩ := context
  simp [matchesVerifiedReplayContext, replayContext, and_assoc]

end ToolInvocationRecord

def nonnegativeI64ToU64 (field : String) (value : Int) : StoreResult Nat :=
  if value < 0 then .error (.sqlite (field ++ " must be nonnegative")) else .ok value.toNat

theorem nonnegativeI64ToU64_natCast (field : String) (n : Nat) :
    nonnegativeI64ToU64 field n = .ok n := by
  rw [nonnegativeI64ToU64, if_neg (by omega), Int.toNat_natCast]

namespace ToolInvocationRow

def recordRef (row : ToolInvocationRow) : String :=
  row.projectId ++ "/" ++ row.toolName ++ "/" ++ row.idempotencyKey

def corruptValue (row : ToolInvocationRow) (column : String) : StoreError :=
  .corruptOwnerStateValue "tool_invocations" row.recordRef column

def corruptJson (row : ToolInvocationRow) (column : String) : StoreError :=
  .corruptOwnerStateJson "tool_invocations" row.recordRef column

def checkReplayIdentity (X : External) (row : ToolInvocationRow) : StoreResult Unit :=
  match validateCanonicalReplayIdentity X row.actorSource row.operationCategory
      row.verificationBasis row.gitWorkspaceContextJson with
  | .ok () => .ok ()
  | .error failure => match failure.fieldKind with
    | .value => .error (row.corruptValue failure.logicalColumn)
    | .json => .error (row.corruptJson failure.logicalColumn)

def decodeGitWorkspaceContext (X : External) (row : ToolInvocationRow) :
    StoreResult (Option JsonObject) :=
  match row.gitWorkspaceContextJson with
  | none => .ok none
  | some text => match X.json.parseObject text with
    | some context => .ok (some context)
    | none => .error (row.corruptJson "git_workspace_context_json")

/-- `tool_invocation_raw_from_row` followed by `decode_tool_invocation`. -/
def decode (X : External) (row : ToolInvocationRow) : StoreResult ToolInvocationRecord := do
  let basisStateVersion ←
    nonnegativeI64ToU64 "tool_invocations.basis_state_version" row.basisStateVersion
  let committedStateVersion ←
    nonnegativeI64ToU64 "tool_invocations.committed_state_version" row.committedStateVersion
  row.checkReplayIdentity X
  let toolName ← okOr (row.corruptValue "tool_name") (MethodName.ofStr row.toolName)
  let actorSource ← okOr (row.corruptValue "actor_source") (ActorSource.parse row.actorSource)
  let operationCategory ←
    okOr (row.corruptValue "operation_category") (OperationCategory.ofStr row.operationCategory)
  let gitWorkspaceContext ← row.decodeGitWorkspaceContext X
  ensure (X.json.isObjectText row.responseJson) (row.corruptJson "response_json")
  return ⟨row.projectId, toolName, row.idempotencyKey, row.requestHash, basisStateVersion,
    committedStateVersion, actorSource, operationCategory, row.verificationBasis,
    gitWorkspaceContext, row.responseJson⟩

end ToolInvocationRow

/- The write/read round trip of the replay identity. -/

variable {X : External} {row : ToolInvocationRow}

theorem validate_eq_ok {context : VerifiedReplayContext} : context.validate X = .ok () ↔
    validateCanonicalReplayIdentity X context.actorSource.toCanonicalString
    context.operationCategory.asStr context.verificationBasis (context.gitWorkspaceContextJson X) =
    .ok () := by
  unfold VerifiedReplayContext.validate
  split <;> simp_all

/-- A validated identity has a parseable actor and, when present, a Git context text
that is the canonical print of some strict context. -/
theorem validateCanonicalReplayIdentity_ok {actor category : String} {basis git : Option String}
    (h : validateCanonicalReplayIdentity X actor category basis git = .ok ()) :
    (ActorSource.parse actor).isSome ∧ ∀ text, git = some text → ∃ c,
    parseCanonicalGitWorkspaceContext X text = .ok c := by
  unfold validateCanonicalReplayIdentity at h
  split at h
  · simp at h
  rename_i hactor
  refine ⟨?_, ?_⟩
  · cases hp : ActorSource.parse actor with
    | none => simp [hp] at hactor
    | some a => rfl
  · rintro text rfl
    split at h
    · simp at h
    split at h
    · simp at h
    dsimp only at h
    split at h
    · exact ⟨_, ‹_›⟩
    · simp at h

theorem VerifiedReplayContext.validate_actor {context : VerifiedReplayContext}
    (h : context.validate X = .ok ()) : ActorSource.parse context.actorSource.toCanonicalString =
    some context.actorSource := by
  unfold validate at h
  split at h
  · rename_i hidentity
    obtain ⟨actor, hactor⟩ := Option.isSome_iff_exists.mp
      (validateCanonicalReplayIdentity_ok hidentity).1
    rw [hactor, ActorSource.parse_toCanonicalString hactor]
  · cases h

theorem parseCanonicalGitWorkspaceContext_ok {text : String}
    {c : PersistedGitWorkspaceReplayContext}
      (h : parseCanonicalGitWorkspaceContext X text = .ok c) :
    X.json.canonicalJsonString c.toJson = text := by
  unfold parseCanonicalGitWorkspaceContext at h
  split at h
  · simp at h
  · by_contra hne
    simp only [ne_eq] at h
    split_ifs at h with h1 h2 h3 h4 h5 h6
    all_goals simp_all

/-- An object whose canonical text passes the strict check reads back as itself. -/
theorem parseObject_canonical (hJ : X.json.Lawful) {o : JsonObject}
    {c : PersistedGitWorkspaceReplayContext}
    (h : parseCanonicalGitWorkspaceContext X (X.json.canonicalJsonString o.toJson) = .ok c) :
    X.json.parseObject (X.json.canonicalJsonString o.toJson) = some o := by
  have ho : o.toJson.wellFormed := o.property
  have hprint := parseCanonicalGitWorkspaceContext_ok h
  unfold SerdeJson.canonicalJsonString at hprint ⊢
  rw [Json.sortJsonValue_eq _ ho] at hprint ⊢
  rw [Json.sortJsonValue_eq _ c.toJson_wellFormed] at hprint
  have heq : c.toJson = o.toJson := hJ.apart _ _ c.toJson_wellFormed ho hprint
  have hparse := hJ.parse_print o.toJson ho (heq ▸ c.toJson_flat)
  unfold SerdeJson.parseObject
  rw [hparse]
  exact dif_pos o.property

structure ToolInvocationRow.Carries (X : External) (row : ToolInvocationRow)
    (context : VerifiedReplayContext) : Prop where
  actor : row.actorSource = context.actorSource.toCanonicalString
  category : row.operationCategory = context.operationCategory.asStr
  basis : row.verificationBasis = context.verificationBasis
  git : row.gitWorkspaceContextJson = context.gitWorkspaceContextJson X
  valid : context.validate X = .ok ()

section
variable (hJ : X.json.Lawful) {context : VerifiedReplayContext} (h : row.Carries X context)
include hJ h

theorem ToolInvocationRow.Carries.decode_git : row.decodeGitWorkspaceContext X
    = .ok context.gitWorkspaceContext := by
  have hvalid := (validateCanonicalReplayIdentity_ok (validate_eq_ok.mp h.valid)).2
  unfold decodeGitWorkspaceContext
  rw [h.git]
  unfold VerifiedReplayContext.gitWorkspaceContextJson at hvalid ⊢
  cases hg : context.gitWorkspaceContext with
  | none => rfl
  | some o =>
    obtain ⟨c, hc⟩ := hvalid _ (by rw [hg]; rfl)
    simp [parseObject_canonical hJ hc]

/-- A row that carries a validated context decodes, and to an equal context. -/
theorem ToolInvocationRow.Carries.decode_ok
    {basis committed : Nat} (hbasis : row.basisStateVersion = basis)
    (hcommitted : row.committedStateVersion = committed)
    {method : MethodName} (htool : row.toolName = method.asStr)
    (hresponse : X.json.isObjectText row.responseJson) :
    row.decode X = .ok ⟨row.projectId, method, row.idempotencyKey, row.requestHash, basis,
      committed, context.actorSource, context.operationCategory, context.verificationBasis,
      context.gitWorkspaceContext, row.responseJson⟩ := by
  have hidentity : row.checkReplayIdentity X = .ok () := by
    unfold checkReplayIdentity
    rw [h.actor, h.category, h.basis, h.git, validate_eq_ok.mp h.valid]
  have hactor : ActorSource.parse row.actorSource = some context.actorSource := by
    have hsome := (validateCanonicalReplayIdentity_ok (validate_eq_ok.mp h.valid)).1
    obtain ⟨a, ha⟩ := Option.isSome_iff_exists.mp hsome
    rw [h.actor, ha, ActorSource.parse_toCanonicalString ha]
  have hcategory : OperationCategory.ofStr row.operationCategory
    = some context.operationCategory := by
    rw [h.category, OperationCategory.ofStr_asStr]
  have hmethod : MethodName.ofStr row.toolName = some method := by
    rw [htool, MethodName.ofStr_asStr]
  simp only [decode, hbasis, hcommitted, nonnegativeI64ToU64_natCast, hidentity, hactor,
    hcategory, hmethod, h.decode_git hJ, h.basis, hresponse, okOr, ensure, ok_bind, if_true]
  rfl

end

end Volicord
