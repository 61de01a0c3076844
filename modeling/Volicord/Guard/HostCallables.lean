import Mathlib
import Volicord.Guard.ToolEffect
import Volicord.Store.Replay

/-! `volicord-host-contract`: the names under which Codex calls MCP tools, and the matcher that
routes them through the Guard. -/
namespace Volicord.HostContract
open Guard (CodexNativeGuardTool)
open Result

inductive IntegrationVerificationToolRole where
  | probeTarget | workflowControl | unrelatedKnownTool
deriving DecidableEq

inductive AgentToolId where
  | method (name : MethodName)
  | listProjects | beginIntegrationVerification | guardProbe | getIntegrationVerification
deriving DecidableEq

namespace AgentToolId

def all : List AgentToolId :=
  [.method .intake, .method .updateScope, .method .recordShapingCheckpoint, .method .finalizeAdvice,
   .method .advanceTask, .method .status, .method .getOperationResult,
   .method .prepareEvidenceCapture, .method .prepareWrite, .method .stageArtifact,
   .method .recordRun, .method .requestUserAction, .method .reconcileChanges, .method .checkClose,
   .method .closeTask, .listProjects, .beginIntegrationVerification, .guardProbe,
   .getIntegrationVerification]

def wireName : AgentToolId → String
  | .method name => name.asStr
  | .listProjects => "volicord.list_projects"
  | .beginIntegrationVerification => "volicord.begin_integration_verification"
  | .guardProbe => "volicord.guard_probe"
  | .getIntegrationVerification => "volicord.get_integration_verification"

def integrationVerificationRole : AgentToolId → IntegrationVerificationToolRole
  | .guardProbe => .probeTarget
  | .beginIntegrationVerification | .getIntegrationVerification => .workflowControl
  | .method _ | .listProjects => .unrelatedKnownTool

end AgentToolId

inductive HostContractError where
  | invalidField (field : String)
  | unexpectedValue (field : String)
  | duplicateTool (field : String)
  | callableCollision (field : String)
  | unknownCallable (field : String)
deriving DecidableEq

/-- The derived `Deserialize` makes a key of any text, so that no check of `parse` is part of it. -/
structure McpServerKey where
  asStr : String
deriving DecidableEq

structure McpToolIdentity where
  server : McpServerKey
  tool : AgentToolId
  rawToolName : String
deriving DecidableEq

def McpToolIdentity.new (server : McpServerKey) (tool : AgentToolId) : McpToolIdentity :=
  ⟨server, tool, tool.wireName⟩

def isCallableChar (c : Char) : Bool := c.isAlphanum || c = '_'

/-- The check `HostCallableName::parse` and `HostToolIdentity::parse` share. -/
def isHostName (value : String) : Bool :=
  !value.isEmpty && value.utf8ByteSize ≤ 64 && value.toList.all isCallableChar

structure HostCallableName where
  asStr : String
deriving DecidableEq

def HostCallableName.parse (value : String) : Except HostContractError HostCallableName := do
  ensure (isHostName value) (.invalidField "host_callable_name")
  return ⟨value⟩

structure HostToolIdentity where
  asStr : String
deriving DecidableEq

def HostToolIdentity.parse (value : String) : Except HostContractError HostToolIdentity := do
  ensure (isHostName value) (.invalidField "host_tool_identity")
  return ⟨value⟩

/-- The profile of a projection is always `CodexMcpCallableNames`. -/
structure HostCallableIdentity where
  source : McpToolIdentity
  callableName : HostCallableName
deriving DecidableEq

structure CanonicalToolName where
  asStr : String

def sanitizeCallablePart (value : String) : String :=
  let sanitized := String.ofList (value.toList.map fun c => if isCallableChar c then c else '_')
  if sanitized.isEmpty then "_" else sanitized

/-- SHA-1 in lower-case hexadecimal. -/
structure Sha1Hex where
  hex : String → String
  length_hex (text : String) : (hex text).toList.length = 40
  hex_isLowercaseHex (text : String) : (hex text).toList.all isLowercaseHex = true

variable (sha1 : Sha1Hex) (server : McpServerKey)

def codexMcpServerNamespace : String := "mcp__" ++ sanitizeCallablePart server.asStr

def codexMcpServerNamespacePrefix : String := codexMcpServerNamespace server ++ "__"

def codexMcpServerNamespaceMatcher : String := codexMcpServerNamespacePrefix server ++ ".*"

def codexRawToolIdentity (server rawToolName : String) : String :=
  server ++ "\x00" ++ server ++ "\x00\x00" ++ rawToolName ++ "\x00" ++ rawToolName

def hashPrefix (rawIdentity : String) : List Char := (sha1.hex rawIdentity).toList.take 12

def callableNameHashSuffix (rawIdentity : String) : String :=
  "_" ++ String.ofList (hashPrefix sha1 rawIdentity)

def truncateAscii (value : String) (maxLen : Nat) : String :=
  String.ofList (value.toList.take maxLen)

def fitCallableParts (space callable rawIdentity : String) (reservedLen : Nat) : String × String :=
  if space.utf8ByteSize + callable.utf8ByteSize + reservedLen ≤ 64 then (space, callable)
  else
    let suffix := callableNameHashSuffix sha1 rawIdentity
    let maxCallableLen := 64 - (space.utf8ByteSize + reservedLen)
    if suffix.utf8ByteSize ≤ maxCallableLen then
      (space, truncateAscii callable (maxCallableLen - suffix.utf8ByteSize) ++ suffix)
    else (truncateAscii space (64 - (suffix.utf8ByteSize + reservedLen)), suffix)

/-- The text `project_mcp_tool` reads as a callable name. -/
def callableText (tool : AgentToolId) : String :=
  let parts := fitCallableParts sha1 (codexMcpServerNamespace server)
    (sanitizeCallablePart tool.wireName) (codexRawToolIdentity server.asStr tool.wireName)
    "__".utf8ByteSize
  parts.1 ++ "__" ++ parts.2

def projectMcpTool (tool : AgentToolId) : Except HostContractError HostCallableIdentity := do
  return ⟨.new server tool, ← HostCallableName.parse (callableText sha1 server tool)⟩

structure McpToolCatalog where
  identities : List HostCallableIdentity
  byCallableName : AList fun _ : HostCallableName => McpToolIdentity

/-- The loop of `new_with_roles`; `sources` is its set of registered identities. -/
def McpToolCatalog.register :
    List (McpServerKey × AgentToolId × IntegrationVerificationToolRole) → List McpToolIdentity →
      McpToolCatalog → Except HostContractError McpToolCatalog
  | [], _, catalog => return catalog
  | (server, tool, declaredRole) :: registrations, sources, catalog => do
    ensure (declaredRole = tool.integrationVerificationRole)
      (.unexpectedValue "integration_verification_tool_role")
    let identity ← projectMcpTool sha1 server tool
    ensure (!sources.contains identity.source) (.duplicateTool "mcp_tool_identity")
    ensure (catalog.byCallableName.lookup identity.callableName).isNone
      (.callableCollision "host_callable_name")
    register registrations (identity.source :: sources)
      ⟨catalog.identities ++ [identity],
        catalog.byCallableName.insert identity.callableName identity.source⟩

def McpToolCatalog.forServer (tools : List AgentToolId) : Except HostContractError McpToolCatalog :=
  register sha1 (tools.map fun tool => (server, tool, tool.integrationVerificationRole)) [] ⟨[], ∅⟩

def parseCallableName (value : HostCallableName) (catalog : McpToolCatalog) :
    Except HostContractError McpToolIdentity :=
  okOr (.unknownCallable "host_callable_name") (catalog.byCallableName.lookup value)

inductive HostHookMatcherStrategy where
  | hostTools (identities : List HostToolIdentity)
  | mcpServerNamespace (server : McpServerKey)
  | exactCallables (callables : List HostCallableIdentity)
  | union (strategies : List HostHookMatcherStrategy)

namespace HostHookMatcherStrategy

def mcpRouting (identities : List HostCallableIdentity) : HostHookMatcherStrategy :=
  if identities.all fun identity =>
      (codexMcpServerNamespacePrefix server).toList.isPrefixOf identity.callableName.asStr.toList
    then mcpServerNamespace server
    else exactCallables identities

def codexGuard : Except HostContractError HostHookMatcherStrategy := do
  let identities ← CodexNativeGuardTool.all.mapM fun tool => HostToolIdentity.parse tool.asStr
  let catalog ← McpToolCatalog.forServer sha1 server AgentToolId.all
  return union [hostTools identities, mcpRouting server catalog.identities]

mutual

def routesMcpCallable (observed : CanonicalToolName) : HostHookMatcherStrategy → Bool
  | hostTools _ => false
  | mcpServerNamespace server =>
    (codexMcpServerNamespacePrefix server).toList.isPrefixOf observed.asStr.toList
  | exactCallables callables => callables.any (·.callableName.asStr = observed.asStr)
  | union strategies => anyRoutesMcpCallable observed strategies

def anyRoutesMcpCallable (observed : CanonicalToolName) : List HostHookMatcherStrategy → Bool
  | [] => false
  | strategy :: strategies =>
    routesMcpCallable observed strategy || anyRoutesMcpCallable observed strategies

end

mutual

def codexTokens : HostHookMatcherStrategy → Except HostContractError (List String)
  | hostTools identities => return identities.map (·.asStr)
  | mcpServerNamespace server => return [codexMcpServerNamespaceMatcher server]
  | exactCallables callables => return callables.map (·.callableName.asStr)
  | union [] => throw (.invalidField "host_hook_matcher_strategy")
  | union strategies => allCodexTokens strategies

def allCodexTokens : List HostHookMatcherStrategy → Except HostContractError (List String)
  | [] => return []
  | strategy :: strategies => return (← codexTokens strategy) ++ (← allCodexTokens strategies)

end

def codexMatcher (strategy : HostHookMatcherStrategy) : Except HostContractError String := do
  let tokens ← strategy.codexTokens
  ensure (!tokens.isEmpty) (.invalidField "host_hook_matcher_strategy")
  ensure tokens.Nodup (.duplicateTool "host_hook_matcher_strategy")
  return "|".intercalate tokens

def matchesCodexToken (token : String) : HostHookMatcherStrategy → Bool
  | mcpServerNamespace server => token = codexMcpServerNamespaceMatcher server
  | exactCallables callables => callables.any (·.callableName.asStr = token)
  | _ => false

/-- The loop of `parse_codex_guard`: the host tools and the MCP tokens among the tokens. -/
def readTokens (expected : HostHookMatcherStrategy) :
    List String → List String → Except HostContractError (List HostToolIdentity × List String)
  | [], _ => return ([], [])
  | token :: tokens, unique => do
    ensure (!token.isEmpty && !unique.contains token) (.invalidField "host_hook_matcher")
    if expected.matchesCodexToken token then
      let (identities, mcpTokens) ← readTokens expected tokens (token :: unique)
      return (identities, token :: mcpTokens)
    else
      let identity ← HostToolIdentity.parse token
      let (identities, mcpTokens) ← readTokens expected tokens (token :: unique)
      return (identity :: identities, mcpTokens)

def reconstructMcp (count : Nat) :
    HostHookMatcherStrategy → Except HostContractError HostHookMatcherStrategy
  | mcpServerNamespace server => do
    ensure (count = 1) (.invalidField "host_hook_matcher")
    return mcpServerNamespace server
  | exactCallables callables => do
    ensure (count = callables.length) (.invalidField "host_hook_matcher")
    return exactCallables callables
  | _ => throw (.invalidField "host_hook_matcher")

def parseCodexGuard (value : String) : Except HostContractError HostHookMatcherStrategy := do
  match ← codexGuard sha1 server with
  | union (_ :: expectedMcp :: _) =>
    let (identities, mcpTokens) ← readTokens expectedMcp
      ((value.toList.splitOn '|').map String.ofList) []
    let reconstructed := union [hostTools identities, ← reconstructMcp mcpTokens.length expectedMcp]
    ensure ((← reconstructed.codexMatcher) = value) (.invalidField "host_hook_matcher")
    return reconstructed
  | _ => throw (.invalidField "host_hook_matcher")

end HostHookMatcherStrategy

theorem isCallableChar_ascii {c : Char} (h : isCallableChar c) : c.val.toNat ≤ 127 := by
  simp only [isCallableChar, Char.isAlphanum, Char.isAlpha, Char.isUpper, Char.isLower,
    Char.isDigit, Bool.or_eq_true, Bool.and_eq_true, decide_eq_true_eq, UInt32.le_iff_toNat_le] at h
  obtain ((⟨_, h⟩ | ⟨_, h⟩) | ⟨_, h⟩) | rfl := h
  · exact le_trans h (by decide)
  · exact le_trans h (by decide)
  · exact le_trans h (by decide)
  · decide

theorem isCallableChar_of_hex {c : Char} (h : isLowercaseHex c) : isCallableChar c := by
  simp only [isLowercaseHex, Bool.or_eq_true, Bool.and_eq_true, decide_eq_true_eq, Char.le_def,
    UInt32.le_iff_toNat_le] at h
  simp only [isCallableChar, Char.isAlphanum, Char.isAlpha, Char.isUpper, Char.isLower,
    Char.isDigit, Bool.or_eq_true, Bool.and_eq_true, decide_eq_true_eq, UInt32.le_iff_toNat_le]
  rcases h with h | ⟨h, hle⟩
  · exact .inl (.inr h)
  · exact .inl (.inl (.inr ⟨h, le_trans hle (by decide)⟩))

/-- The characters of the text may stand in a callable name. -/
abbrev Callable (value : String) : Prop := ∀ c ∈ value.toList, isCallableChar c

namespace Callable
variable {value other : String}

section
variable (h : Callable value)
include h

theorem append (hother : Callable other) : Callable (value ++ other) := by
  intro c hc
  rw [String.toList_append] at hc
  exact (List.mem_append.mp hc).elim (h c) (hother c)

theorem utf8ByteSize_eq : value.utf8ByteSize = value.toList.length := by
  have hsize := utf8ByteSize_ofList_ascii fun c hc => isCallableChar_ascii (h c hc)
  rwa [String.ofList_toList] at hsize

theorem take (n : Nat) : Callable (truncateAscii value n) := by
  intro c hc
  rw [truncateAscii, String.toList_ofList] at hc
  exact h c (List.mem_of_mem_take hc)

theorem utf8ByteSize_take (n : Nat) :
    (truncateAscii value n).utf8ByteSize = min n value.utf8ByteSize := by
  rw [(h.take n).utf8ByteSize_eq, h.utf8ByteSize_eq, truncateAscii, String.toList_ofList,
    List.length_take]

theorem bar_notMem : '|' ∉ value.toList := fun hmem => absurd (h '|' hmem) (by decide)

end

theorem sanitized (value : String) : Callable (sanitizeCallablePart value) := by
  simp only [sanitizeCallablePart]
  split
  · exact List.all_eq_true.mp rfl
  · intro c hc
    rw [String.toList_ofList] at hc
    obtain ⟨d, _, rfl⟩ := List.mem_map.mp hc
    split
    · assumption
    · rfl

end Callable

theorem isHostName_iff {value : String} : isHostName value ↔
      value.isEmpty = false ∧ value.utf8ByteSize ≤ 64 ∧ Callable value := by
  simp only [isHostName, Callable, Bool.and_eq_true, Bool.not_eq_true', decide_eq_true_eq,
    List.all_eq_true, and_assoc]

variable (sha1 : Sha1Hex) (server : McpServerKey) (text : String)

theorem hashPrefix_hex : (hashPrefix sha1 text).all isLowercaseHex :=
  List.all_eq_true.mpr fun c hc =>
    List.all_eq_true.mp (sha1.hex_isLowercaseHex text) c (List.mem_of_mem_take hc)

theorem hashPrefix_length : (hashPrefix sha1 text).length = 12 := by
  rw [hashPrefix, List.length_take, sha1.length_hex]; rfl

theorem callableNameHashSuffix_toList :
    (callableNameHashSuffix sha1 text).toList = '_' :: hashPrefix sha1 text := by
  simp [callableNameHashSuffix]

theorem callableNameHashSuffix_callable : Callable (callableNameHashSuffix sha1 text) := by
  intro c hc
  rw [callableNameHashSuffix_toList] at hc
  rcases List.mem_cons.mp hc with rfl | hc
  · rfl
  · exact isCallableChar_of_hex (List.all_eq_true.mp (hashPrefix_hex sha1 text) c hc)

theorem callableNameHashSuffix_utf8ByteSize :
    (callableNameHashSuffix sha1 text).utf8ByteSize = 13 := by
  rw [(callableNameHashSuffix_callable sha1 text).utf8ByteSize_eq, callableNameHashSuffix_toList,
    List.length_cons, hashPrefix_length]

theorem codexMcpServerNamespace_callable : Callable (codexMcpServerNamespace server) :=
  Callable.append (List.all_eq_true.mp rfl) (.sanitized _)

theorem codexMcpServerNamespace_head :
    (codexMcpServerNamespace server).toList.head? = some 'm' := by
  rw [codexMcpServerNamespace, String.toList_append]
  rfl

theorem isHostName_join {space callable : String} (hspace : Callable space)
    (hcallable : Callable callable) (hle : space.utf8ByteSize + callable.utf8ByteSize ≤ 62) :
    isHostName (space ++ "__" ++ callable) := by
  have hsize : (space ++ "__" ++ callable).utf8ByteSize
      = space.utf8ByteSize + 2 + callable.utf8ByteSize := by
    rw [String.utf8ByteSize_append, String.utf8ByteSize_append]; rfl
  have hdelimiter : Callable "__" := List.all_eq_true.mp rfl
  refine isHostName_iff.mpr ⟨?_, by omega, (hspace.append hdelimiter).append hcallable⟩
  rw [String.isEmpty, hsize]
  exact beq_false_of_ne (by omega)

variable (tool : AgentToolId)

/-- In the first length regime the name ends in the sanitised wire name, in the other two in the
digits of the hash. -/
theorem callableText_cases : isHostName (callableText sha1 server tool) ∧
    (callableText sha1 server tool).toList.head? = some 'm' ∧
    ((callableText sha1 server tool).toList = (codexMcpServerNamespacePrefix server).toList
        ++ (sanitizeCallablePart tool.wireName).toList ∨
      hashPrefix sha1 (codexRawToolIdentity server.asStr tool.wireName)
        <:+ (callableText sha1 server tool).toList) := by
  generalize hraw : codexRawToolIdentity server.asStr tool.wireName = raw
  have hspace := codexMcpServerNamespace_callable server
  have hhead := codexMcpServerNamespace_head server
  have hcallable := Callable.sanitized tool.wireName
  have hsuffix := callableNameHashSuffix_callable sha1 raw
  have hsize := callableNameHashSuffix_utf8ByteSize sha1 raw
  have hdigits : hashPrefix sha1 raw <:+ (callableNameHashSuffix sha1 raw).toList := by
    rw [callableNameHashSuffix_toList]
    exact List.suffix_cons _ _
  simp only [callableText, fitCallableParts, hraw, hsize, show "__".utf8ByteSize = 2 from rfl]
  split
  · refine ⟨isHostName_join hspace hcallable (by dsimp only; omega), ?_, .inl ?_⟩
    · simp only [String.toList_append, List.head?_append, hhead, Option.some_or]
    · rw [String.toList_append, codexMcpServerNamespacePrefix]
  · split
    · refine ⟨isHostName_join hspace ((hcallable.take _).append hsuffix) ?_, ?_, .inr ?_⟩
      · dsimp only
        rw [String.utf8ByteSize_append, hcallable.utf8ByteSize_take, hsize]
        omega
      · simp only [String.toList_append, List.head?_append, hhead, Option.some_or]
      · simp only [String.toList_append]
        exact List.suffix_append_of_suffix (List.suffix_append_of_suffix hdigits)
    · refine ⟨isHostName_join (hspace.take _) hsuffix ?_, ?_, .inr ?_⟩
      · rw [hspace.utf8ByteSize_take, hsize]
        omega
      · simp only [truncateAscii, String.toList_append, String.toList_ofList, List.head?_append,
          List.head?_take, hhead]
        rfl
      · rw [String.toList_append]
        exact List.suffix_append_of_suffix hdigits

variable {sha1 server}

/-- The hash prefixes of the tools of one server differ. -/
def DistinctHashes (sha1 : Sha1Hex) (server : McpServerKey) : Prop :=
  ∀ tool ∈ AgentToolId.all, ∀ other ∈ AgentToolId.all,
    hashPrefix sha1 (codexRawToolIdentity server.asStr tool.wireName)
      = hashPrefix sha1 (codexRawToolIdentity server.asStr other.wireName) → tool = other

variable {tool} {other : AgentToolId}

theorem hash_ne_wireName {front front' : List Char} (htool : tool ∈ AgentToolId.all) :
    front ++ (sanitizeCallablePart tool.wireName).toList ≠ front' ++ hashPrefix sha1 text := by
  -- The last twelve characters of a wire name are never all hexadecimal digits.
  have htail : ∀ tool ∈ AgentToolId.all,
      let chars := (sanitizeCallablePart tool.wireName).toList
      (chars.drop (chars.length - 12)).length = 12 ∧
        (chars.drop (chars.length - 12)).all isLowercaseHex = false := by decide +kernel
  obtain ⟨hlength, hhex⟩ := htail tool htool
  intro h
  rw [← List.take_append_drop ((sanitizeCallablePart tool.wireName).toList.length - 12)
    (sanitizeCallablePart tool.wireName).toList, ← List.append_assoc] at h
  have hlast := List.append_inj_right' h (by rw [hlength, hashPrefix_length])
  rw [hlast, hashPrefix_hex] at hhex
  cases hhex

theorem callableText_inj (hdistinct : DistinctHashes sha1 server) (htool : tool ∈ AgentToolId.all)
    (hother : other ∈ AgentToolId.all)
    (h : callableText sha1 server tool = callableText sha1 server other) : tool = other := by
  have hwire : (AgentToolId.all.map fun tool => sanitizeCallablePart tool.wireName).Nodup := by
    decide +kernel
  have htexts := congrArg String.toList h
  obtain ⟨-, -, hfull | ⟨front, hhash⟩⟩ := callableText_cases sha1 server tool
  · obtain ⟨-, -, hfull' | ⟨front', hhash'⟩⟩ := callableText_cases sha1 server other
    · rw [hfull, hfull'] at htexts
      exact List.inj_on_of_nodup_map hwire htool hother
        (String.toList_inj.mp (List.append_cancel_left htexts))
    · rw [hfull, ← hhash'] at htexts
      exact absurd htexts (hash_ne_wireName _ htool)
  · obtain ⟨-, -, hfull' | ⟨front', hhash'⟩⟩ := callableText_cases sha1 server other
    · rw [← hhash, hfull'] at htexts
      exact absurd htexts.symm (hash_ne_wireName _ hother)
    · rw [← hhash, ← hhash'] at htexts
      exact hdistinct tool htool other hother
        (List.append_inj_right' htexts (by rw [hashPrefix_length, hashPrefix_length]))

variable (sha1 server) in
/-- The identity a tool is projected to. -/
def projected (tool : AgentToolId) : HostCallableIdentity :=
  ⟨.new server tool, ⟨callableText sha1 server tool⟩⟩

theorem projectMcpTool_ok : projectMcpTool sha1 server tool = .ok (projected sha1 server tool) := by
  simp only [projectMcpTool, HostCallableName.parse, (callableText_cases sha1 server tool).1]
  rfl

theorem callableTexts_nodup (hdistinct : DistinctHashes sha1 server) :
    (AgentToolId.all.map (callableText sha1 server)).Nodup :=
  List.Nodup.map_on (fun _ ha _ hb => callableText_inj hdistinct ha hb) (by decide)

theorem register_ok {tools : List AgentToolId} {sources : List McpToolIdentity}
    {catalog : McpToolCatalog} (hnodup : (tools.map (callableText sha1 server)).Nodup)
    (hsources : ∀ tool ∈ tools, .new server tool ∉ sources)
    (hfree : ∀ tool ∈ tools, catalog.byCallableName.lookup ⟨callableText sha1 server tool⟩ = none) :
    ∃ filled, McpToolCatalog.register sha1
        (tools.map fun tool => (server, tool, tool.integrationVerificationRole)) sources catalog
          = .ok filled ∧
      filled.identities = catalog.identities ++ tools.map (projected sha1 server) ∧
      (∀ tool ∈ tools, filled.byCallableName.lookup ⟨callableText sha1 server tool⟩
        = some (.new server tool)) ∧
      ∀ name, (∀ tool ∈ tools, name ≠ ⟨callableText sha1 server tool⟩) →
        filled.byCallableName.lookup name = catalog.byCallableName.lookup name := by
  induction tools generalizing sources catalog with
  | nil => exact ⟨catalog, rfl, (List.append_nil _).symm, by simp, fun _ _ => rfl⟩
  | cons tool tools ih =>
    obtain ⟨hnotin, hnodup⟩ := List.nodup_cons.mp hnodup
    have hother : ∀ other ∈ tools,
        (⟨callableText sha1 server other⟩ : HostCallableName) ≠ ⟨callableText sha1 server tool⟩ :=
      fun other hmem heq => hnotin (HostCallableName.mk.inj heq ▸ List.mem_map_of_mem hmem)
    obtain ⟨filled, hfilled, hids, hlookup, hkept⟩ := @ih (.new server tool :: sources)
      ⟨catalog.identities ++ [projected sha1 server tool],
        catalog.byCallableName.insert ⟨callableText sha1 server tool⟩ (.new server tool)⟩ hnodup
      (by
        intro other hmem hsource
        rcases List.mem_cons.mp hsource with heq | hsource
        · obtain rfl := (McpToolIdentity.mk.inj heq).2.1
          exact hother other hmem rfl
        · exact hsources other (List.mem_cons_of_mem _ hmem) hsource)
      (by
        intro other hmem
        rw [AList.lookup_insert_ne (hother other hmem)]
        exact hfree other (List.mem_cons_of_mem _ hmem))
    refine ⟨filled, ?_, ?_, ?_, ?_⟩
    · rw [List.map_cons, McpToolCatalog.register, projectMcpTool_ok]
      have hcontains : sources.contains (McpToolIdentity.new server tool) = false := by
        simpa using hsources tool List.mem_cons_self
      simp only [ok_bind, projected, hcontains, hfree tool List.mem_cons_self, ensure]
      exact hfilled
    · rw [hids, List.append_assoc]; rfl
    · intro other hmem
      rcases List.mem_cons.mp hmem with rfl | hmem
      · rw [hkept _ fun other hmem => (hother other hmem).symm, AList.lookup_insert]
      · exact hlookup other hmem
    · intro name hname
      rw [hkept name fun other hmem => hname other (List.mem_cons_of_mem _ hmem),
        AList.lookup_insert_ne (hname tool List.mem_cons_self)]

theorem forServer_ok (hdistinct : DistinctHashes sha1 server) : ∃ catalog,
    McpToolCatalog.forServer sha1 server AgentToolId.all = .ok catalog ∧ catalog.identities =
    AgentToolId.all.map (projected sha1 server) ∧ ∀ tool ∈ AgentToolId.all,
    catalog.byCallableName.lookup ⟨callableText sha1 server tool⟩ = some (.new server tool) := by
  obtain ⟨catalog, hcatalog, hids, hlookup, _⟩ := @register_ok sha1 server AgentToolId.all []
    ⟨[], ∅⟩ (callableTexts_nodup hdistinct) (by simp) (by simp)
  exact ⟨catalog, hcatalog, hids, hlookup⟩

namespace HostHookMatcherStrategy

theorem codexGuard_ok {catalog : McpToolCatalog}
    (h : McpToolCatalog.forServer sha1 server AgentToolId.all = .ok catalog) :
    codexGuard sha1 server = .ok (union [hostTools (CodexNativeGuardTool.all.map (⟨·.asStr⟩)),
      mcpRouting server catalog.identities]) := by
  have hnative : CodexNativeGuardTool.all.mapM (fun tool => HostToolIdentity.parse tool.asStr)
      = .ok (CodexNativeGuardTool.all.map (⟨·.asStr⟩)) := by decide +kernel
  rw [codexGuard, hnative, ok_bind, h]
  rfl

theorem mcpRouting_routes {identities : List HostCallableIdentity} {identity : HostCallableIdentity}
    (h : identity ∈ identities) :
    (mcpRouting server identities).routesMcpCallable ⟨identity.callableName.asStr⟩ := by
  rw [mcpRouting]
  split
  case isTrue hall => exact List.all_eq_true.mp hall identity h
  case isFalse => exact List.any_eq_true.mpr ⟨identity, h, decide_eq_true rfl⟩

/-- What the rendering of the MCP part of a strategy gives its reader. -/
structure Renders (strategy : HostHookMatcherStrategy) (tokens : List String) : Prop where
  codexTokens_eq : strategy.codexTokens = .ok tokens
  nodup : tokens.Nodup
  head {token : String} (h : token ∈ tokens) : token.toList.head? = some 'm'
  bar_notMem {token : String} (h : token ∈ tokens) : '|' ∉ token.toList
  matches_iff (token : String) : strategy.matchesCodexToken token ↔ token ∈ tokens
  reconstructMcp_eq : strategy.reconstructMcp tokens.length = .ok strategy

theorem mcpServerNamespace_renders :
    Renders (mcpServerNamespace server) [codexMcpServerNamespaceMatcher server] where
  codexTokens_eq := rfl
  nodup := List.nodup_singleton _
  head h := by
    rw [List.mem_singleton.mp h, codexMcpServerNamespaceMatcher, codexMcpServerNamespacePrefix]
    simp only [String.toList_append, List.head?_append, codexMcpServerNamespace_head,
      Option.some_or]
  bar_notMem h := by
    rw [List.mem_singleton.mp h, codexMcpServerNamespaceMatcher, codexMcpServerNamespacePrefix]
    simpa using (codexMcpServerNamespace_callable server).bar_notMem
  matches_iff token := by rw [matchesCodexToken, decide_eq_true_eq, List.mem_singleton]
  reconstructMcp_eq := rfl

theorem exactCallables_renders (hdistinct : DistinctHashes sha1 server) :
    Renders (exactCallables (AgentToolId.all.map (projected sha1 server)))
      ((AgentToolId.all.map (projected sha1 server)).map (·.callableName.asStr)) where
  codexTokens_eq := rfl
  nodup := by
    rw [List.map_map]
    exact callableTexts_nodup hdistinct
  head h := by
    rw [List.map_map] at h
    obtain ⟨tool, _, rfl⟩ := List.mem_map.mp h
    exact (callableText_cases sha1 server tool).2.1
  bar_notMem h := by
    rw [List.map_map] at h
    obtain ⟨tool, _, rfl⟩ := List.mem_map.mp h
    exact (isHostName_iff.mp (callableText_cases sha1 server tool).1).2.2.bar_notMem
  matches_iff token := by
    rw [matchesCodexToken, List.any_eq_true, List.mem_map]
    exact exists_congr fun _ => and_congr_right fun _ => decide_eq_true_iff
  reconstructMcp_eq := by simp [reconstructMcp, ensure]

theorem mcpRouting_renders (hdistinct : DistinctHashes sha1 server) :
    ∃ tokens, Renders (mcpRouting server (AgentToolId.all.map (projected sha1 server))) tokens := by
  rw [mcpRouting]
  split
  · exact ⟨_, mcpServerNamespace_renders⟩
  · exact ⟨_, exactCallables_renders hdistinct⟩

theorem readTokens_ok (expected : HostHookMatcherStrategy) {tokens unique : List String}
    (hne : ∀ token ∈ tokens, token.isEmpty = false) (hnodup : tokens.Nodup)
    (hfresh : ∀ token ∈ tokens, token ∉ unique)
    (hhost : ∀ token ∈ tokens, expected.matchesCodexToken token = false → isHostName token) :
    readTokens expected tokens unique
      = .ok ((tokens.filter (!expected.matchesCodexToken ·)).map (⟨·⟩),
          tokens.filter (expected.matchesCodexToken ·)) := by
  induction tokens generalizing unique with
  | nil => rfl
  | cons token tokens ih =>
    obtain ⟨hnotin, hnodup⟩ := List.nodup_cons.mp hnodup
    have hrest := @ih (token :: unique) (fun other h => hne other (List.mem_cons_of_mem _ h)) hnodup
      (by
        intro other h hmem
        rcases List.mem_cons.mp hmem with rfl | hmem
        · exact hnotin h
        · exact hfresh other (List.mem_cons_of_mem _ h) hmem)
      (fun other h => hhost other (List.mem_cons_of_mem _ h))
    have hcontains : unique.contains token = false := by simpa using hfresh token List.mem_cons_self
    rw [readTokens, hne token List.mem_cons_self, hcontains, hrest]
    cases hmatch : expected.matchesCodexToken token with
    | true => simp [ensure, hmatch]
    | false =>
      have hname := hhost token List.mem_cons_self hmatch
      simp [ensure, hmatch, HostToolIdentity.parse, hname]

theorem split_intercalate {tokens : List String} (hne : tokens ≠ [])
    (h : ∀ token ∈ tokens, '|' ∉ token.toList) :
    (("|".intercalate tokens).toList.splitOn '|').map String.ofList = tokens := by
  rw [String.toList_intercalate, show "|".toList = ['|'] from rfl,
    List.splitOn_intercalate '|' (by simpa using h) (by simpa using hne), List.map_map]
  simp [Function.comp_def]

theorem parseCodexGuard_codexMatcher {mcp : HostHookMatcherStrategy} {mcpTokens : List String}
    (hmcp : Renders mcp mcpTokens) {hosts : List String}
    (hhosts : CodexNativeGuardTool.all.map (·.asStr) = hosts)
    (hguard : codexGuard sha1 server = .ok (union [hostTools (hosts.map (⟨·⟩)), mcp])) :
    ∃ matcher, codexMatcher (union [hostTools (hosts.map (⟨·⟩)), mcp]) = .ok matcher ∧
      parseCodexGuard sha1 server matcher = .ok (union [hostTools (hosts.map (⟨·⟩)), mcp]) := by
  have hhost : hosts.Nodup ∧ hosts ≠ [] ∧
      ∀ token ∈ hosts, isHostName token ∧ token.toList.head? ≠ some 'm' := by
    rw [← hhosts]; decide +kernel
  obtain ⟨hhostNodup, hne, hhost⟩ := hhost
  have hmatch : ∀ token ∈ hosts, mcp.matchesCodexToken token = false := by
    intro token h
    rw [← Bool.not_eq_true, hmcp.matches_iff]
    exact fun hmem => (hhost token h).2 (hmcp.head hmem)
  have hnodup : (hosts ++ mcpTokens).Nodup := List.nodup_append.mpr ⟨hhostNodup, hmcp.nodup,
    fun token h other hother heq => (hhost token h).2 (heq ▸ hmcp.head hother)⟩
  have htokens : codexTokens (union [hostTools (hosts.map (⟨·⟩)), mcp])
      = .ok (hosts ++ mcpTokens) := by
    simp [codexTokens, allCodexTokens, hmcp.codexTokens_eq, Function.comp_def]
  have hmatcher : codexMatcher (union [hostTools (hosts.map (⟨·⟩)), mcp])
      = .ok ("|".intercalate (hosts ++ mcpTokens)) := by
    simp [codexMatcher, htokens, hne, hnodup, ensure]
  have hsplit := @split_intercalate (hosts ++ mcpTokens) (by simp [hne]) fun token h =>
    (List.mem_append.mp h).elim
      (fun h => (isHostName_iff.mp (hhost token h).1).2.2.bar_notMem) hmcp.bar_notMem
  have hread := @readTokens_ok mcp (hosts ++ mcpTokens) [] (by
      intro token h
      rcases List.mem_append.mp h with h | h
      · exact (isHostName_iff.mp (hhost token h).1).1
      · rw [Bool.eq_false_iff]
        intro hempty
        have := hmcp.head h
        rw [String.isEmpty_iff.mp hempty] at this
        cases this)
    hnodup (by simp)
    (by
      intro token h hno
      rcases List.mem_append.mp h with h | h
      · exact (hhost token h).1
      · rw [(hmcp.matches_iff token).mpr h] at hno
        cases hno)
  have hhostTokens : (hosts ++ mcpTokens).filter (!mcp.matchesCodexToken ·) = hosts := by
    rw [List.filter_append, List.filter_eq_self.mpr fun token h => by rw [hmatch token h]; rfl,
      List.filter_eq_nil_iff.mpr fun token h => by rw [(hmcp.matches_iff token).mpr h]; decide,
      List.append_nil]
  have hmcpTokens : (hosts ++ mcpTokens).filter (mcp.matchesCodexToken ·) = mcpTokens := by
    rw [List.filter_append,
      List.filter_eq_nil_iff.mpr fun token h => by rw [hmatch token h]; decide,
      List.filter_eq_self.mpr fun token h => (hmcp.matches_iff token).mpr h, List.nil_append]
  refine ⟨_, hmatcher, ?_⟩
  rw [parseCodexGuard, hguard, ok_bind]
  dsimp only
  rw [hsplit, hread, hhostTokens, hmcpTokens, ok_bind, hmcp.reconstructMcp_eq, ok_bind, hmatcher]
  simp [ensure]

theorem reconstructMcp_same {count : Nat} {strategy rebuilt : HostHookMatcherStrategy}
    (h : reconstructMcp count strategy = .ok rebuilt) : rebuilt = strategy := by
  cases strategy <;> simp only [reconstructMcp, steps_ok, reduceCtorEq] at h
  · exact h.2.symm
  · exact h.2.symm

theorem parseCodexGuard_mcp {hosts : List HostToolIdentity} {mcp other : HostHookMatcherStrategy}
    {value : String} (hguard : codexGuard sha1 server = .ok (union [hostTools hosts, mcp]))
    (h : parseCodexGuard sha1 server value = .ok other) :
    ∃ identities, other = union [hostTools identities, mcp] := by
  rw [parseCodexGuard, hguard, ok_bind] at h
  simp only [steps_ok] at h
  obtain ⟨read, _, rebuilt, hrebuilt, _, _, _, rfl⟩ := h
  exact ⟨read.1, by rw [reconstructMcp_same hrebuilt]⟩

end HostHookMatcherStrategy

open HostHookMatcherStrategy

/-- Every tool of a server gets a name of the host that leads back to it and that the Guard routes,
and reading back a rendered strategy never changes which MCP callables are routed. -/
theorem host_callables_routed (sha1 : Sha1Hex) (server : McpServerKey)
    (hdistinct : DistinctHashes sha1 server) :
    ∃ catalog guard matcher,
      McpToolCatalog.forServer sha1 server AgentToolId.all = .ok catalog ∧
      catalog.identities.map (·.source) = AgentToolId.all.map (.new server) ∧
      codexGuard sha1 server = .ok guard ∧
      (∀ identity ∈ catalog.identities,
        identity.callableName.asStr.utf8ByteSize ≤ 64 ∧
        identity.callableName.asStr.toList.all isCallableChar = true ∧
        parseCallableName identity.callableName catalog = .ok identity.source ∧
        guard.routesMcpCallable ⟨identity.callableName.asStr⟩ = true) ∧
      guard.codexMatcher = .ok matcher ∧
      parseCodexGuard sha1 server matcher = .ok guard ∧
      ∀ value other, parseCodexGuard sha1 server value = .ok other →
        ∀ observed, other.routesMcpCallable observed = guard.routesMcpCallable observed := by
  obtain ⟨catalog, hcatalog, hids, hlookup⟩ := forServer_ok hdistinct
  have hguard := codexGuard_ok hcatalog
  obtain ⟨tokens, hrenders⟩ := mcpRouting_renders hdistinct
  rw [← hids] at hrenders
  obtain ⟨matcher, hmatcher, hparse⟩ := parseCodexGuard_codexMatcher hrenders rfl hguard
  refine ⟨catalog, _, matcher, hcatalog, ?_, hguard, ?_, hmatcher, hparse, ?_⟩
  · rw [hids, List.map_map]; rfl
  · intro identity hmem
    have hroutes := @mcpRouting_routes server _ _ hmem
    rw [hids] at hmem
    obtain ⟨tool, htool, rfl⟩ := List.mem_map.mp hmem
    obtain ⟨-, hsize, hcallable⟩ := isHostName_iff.mp (callableText_cases sha1 server tool).1
    refine ⟨hsize, List.all_eq_true.mpr hcallable, okOr_eq_ok.mpr (hlookup tool htool), ?_⟩
    simp only [routesMcpCallable, anyRoutesMcpCallable, hroutes, Bool.or_true, Bool.true_or]
  · intro value other hother observed
    obtain ⟨identities, rfl⟩ := parseCodexGuard_mcp hguard hother
    simp only [routesMcpCallable, anyRoutesMcpCallable]

def sampleSha1 : Sha1Hex where
  hex text := String.ofList ((List.range 40).map fun i => Nat.digitChar
    (text.toByteArray.data.toList.foldl (fun n byte => n * 257 + byte.toNat) 1 / 16 ^ i % 16))
  length_hex text := by simp
  hex_isLowercaseHex text := by
    have hdigit : ∀ digit < 16, isLowercaseHex (Nat.digitChar digit) := by decide
    rw [String.toList_ofList, List.all_map, List.all_eq_true]
    exact fun i _ => hdigit _ (Nat.mod_lt _ (by decide))

/-- A server whose name leaves no room for the names of its tools. -/
def longServer : McpServerKey := ⟨"volicord-for-the-product-repository-of-a-team-with-a-long-name"⟩

theorem sampleSha1_distinct : DistinctHashes sampleSha1 ⟨"volicord"⟩ := by
  have hnodup : (AgentToolId.all.map fun tool => hashPrefix sampleSha1
      (codexRawToolIdentity "volicord" tool.wireName)).Nodup := by
    simp only [hashPrefix, sampleSha1, String.toList_ofList]
    decide +kernel
  exact fun _ ha _ hb => List.inj_on_of_nodup_map hnodup ha hb

theorem sampleSha1_distinct_long : DistinctHashes sampleSha1 longServer := by
  have hnodup : (AgentToolId.all.map fun tool => hashPrefix sampleSha1
      (codexRawToolIdentity longServer.asStr tool.wireName)).Nodup := by
    simp only [hashPrefix, sampleSha1, String.toList_ofList]
    decide +kernel
  exact fun _ ha _ hb => List.inj_on_of_nodup_map hnodup ha hb

theorem host_callables_routed_volicord :
    DistinctHashes sampleSha1 ⟨"volicord"⟩ ∧ DistinctHashes sampleSha1 longServer ∧
    (∃ catalog, McpToolCatalog.forServer sampleSha1 ⟨"volicord"⟩ AgentToolId.all = .ok catalog) ∧
    ∃ catalog, McpToolCatalog.forServer sampleSha1 longServer AgentToolId.all = .ok catalog ∧
      ∀ identity ∈ catalog.identities,
        parseCallableName identity.callableName catalog = .ok identity.source := by
  obtain ⟨short, _, _, hshort, _⟩ := host_callables_routed _ _ sampleSha1_distinct
  obtain ⟨long, _, _, hlong, _, _, hnames, _⟩ :=
    host_callables_routed _ _ sampleSha1_distinct_long
  exact ⟨sampleSha1_distinct, sampleSha1_distinct_long, ⟨short, hshort⟩, long, hlong,
    fun identity hmem => (hnames identity hmem).2.2.1⟩

end Volicord.HostContract
