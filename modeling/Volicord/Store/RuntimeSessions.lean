import Volicord.Lib.Sorted
import Volicord.Lib.Table
import Volicord.Lib.Transition
import Volicord.Store.Replay
import Volicord.Types.TimestampText

/-! `operational_sessions.rs` and `diagnostic_findings/occurrence.rs`: the Registry rows of MCP
runtime sessions, the milestones recorded on them, and their decoder. A column of JSON text or
of a closed value holds the value itself. -/
namespace Volicord
open Result Relational Sorted

def Text.isControl (c : Char) : Bool := c.val < 0x20 || (0x7F ≤ c.val && c.val ≤ 0x9F)

def maxDiagnosticFieldBytes : Nat := 1024
def maxProtocolFieldBytes : Nat := 256
def maxMcpToolNameBytes : Nat := 128
def maxReturnedToolIdentities : Nat := 256
def maxManagedMcpClientInfoFieldBytes : Nat := 256
def durableIdRetryLimit : Nat := 8
def maxDiagnosticIdentifierBytes : Nat := 192

/-- 1 through `max` non-control UTF-8 bytes. -/
def isBoundedText (value : String) (max : Nat) : Bool :=
  !value.isEmpty && value.utf8ByteSize ≤ max && !value.toList.any Text.isControl

def validateText (field value : String) (max : Nat) : StoreResult Unit :=
  ensure (isBoundedText value max)
    (.invalidInput (field ++ " must be 1 through " ++ toString max ++ " non-control UTF-8 bytes"))

def validateTimestamp (X : External) (field value : String) : StoreResult Unit :=
  ensure (X.chrono.parse value).isSome (.invalidInput (field ++ " must be an RFC 3339 timestamp"))

def isManagedMcpClientInfoField (value : String) : Bool :=
  isBoundedText value maxManagedMcpClientInfoFieldBytes && !Text.isBlank value

structure ManagedMcpClientInfo where
  (name version : String)
  nameValid : isManagedMcpClientInfoField name
  versionValid : isManagedMcpClientInfoField version

def isAsciiAlphanumeric (c : Char) : Bool := c.isAlphanum

def isMcpToolName (value : String) : Bool :=
  !value.isEmpty && value.utf8ByteSize ≤ maxMcpToolNameBytes
  && value.toList.all fun c => isAsciiAlphanumeric c || c = '_' || c = '-' || c = '.'

def returnedToolIdentitiesAreValid (identities : List String) : Bool :=
  identities.length ≤ maxReturnedToolIdentities && identities.all isMcpToolName
  && increasing identities

/-- `ToolVerificationRole::ManagedHostRoundTrip`. -/
def managedHostRoundTripTool : String := "volicord.list_projects"

def isStableIdentifier (value : String) : Bool :=
  let isLowerOrDigit (c : Char) := c.isLower || c.isDigit
  value.utf8ByteSize ≤ maxDiagnosticIdentifierBytes
  && value.toList.head?.any Char.isLower
  && value.toList.tail.all (fun c => isLowerOrDigit c || c = '_' || c = '-' || c = '.' || c = ':')
  && value.toList.getLast?.any isLowerOrDigit

inductive McpRuntimeSessionSource where
  | managedHost | manualCli | cliPreflight | integrationProbe
deriving DecidableEq

/-- The columns of `agent_connections` that the integration revision and the launch checks read. -/
structure AgentConnectionRecord where
  (connectionInternalId integrationInstanceId hostKind intent hostScope serverName : String)
  (configTarget mode : String)
  enabled : Bool
  managedFingerprint : String
  integrationGeneration : Int

namespace AgentConnectionRecord
variable (connection : AgentConnectionRecord)

def revisionFields : List (String × String) :=
  [("connection_internal_id", connection.connectionInternalId),
   ("host_kind", connection.hostKind), ("intent", connection.intent),
   ("host_scope", connection.hostScope), ("mode", connection.mode),
   ("server_name", connection.serverName), ("config_target", connection.configTarget),
   ("managed_configuration_fingerprint", connection.managedFingerprint)]

def revisionBasis : Json :=
  .obj [("basis", .obj [("config_target", .str connection.configTarget),
      ("connection_internal_id", .str connection.connectionInternalId),
      ("host_kind", .str connection.hostKind), ("host_scope", .str connection.hostScope),
      ("integration_generation", .int connection.integrationGeneration),
      ("integration_instance_id", .str connection.integrationInstanceId),
      ("intent", .str connection.intent),
      ("managed_configuration_fingerprint", .str connection.managedFingerprint),
      ("mode", .str connection.mode), ("server_name", .str connection.serverName)]),
    ("domain", .str "volicord.connection-integration-revision")]

def integrationRevision (X : External) : StoreResult String := do
  let invalid (detail : String) := StoreError.invalidInput
    ("Agent Connection cannot produce an integration revision: " ++ detail)
  connection.revisionFields.forM fun (field, value) =>
    ensure (!value.isEmpty && !value.toList.contains '\x00')
      (invalid ("integration revision field " ++ field ++ " must not be empty"))
  ensure (decide (0 ≤ connection.integrationGeneration))
    (invalid "integration revision generation must be nonnegative")
  return "sha256:" ++ X.sha256Hex (X.json.canonicalJsonString connection.revisionBasis)

end AgentConnectionRecord

structure McpRuntimeSessionStart where
  connectionInternalId : String
  sessionSource : McpRuntimeSessionSource
  observedHostExecutableVersion : Option String
  processId : Nat
  processStartedAt : String

/-- A row of `mcp_runtime_sessions`. -/
structure McpRuntimeSessionRecord where
  (runtimeSessionId connectionInternalId : String)
  sessionSource : McpRuntimeSessionSource
  connectionIntegrationRevision : String
  (observedHostExecutableVersion attemptedClientName attemptedClientVersion : Option String)
  (requestedProtocolVersion selectedProtocolVersion negotiatedProtocolVersion : Option String)
  processId : Nat
  processStartedAt : String
  (initializeCompletedAt initializedNotificationAt toolsListObservedAt : Option String)
  returnedToolIdentities : Option (List String)
  requiredToolsPresent : Option Bool
  (requiredToolsValidatedAt verificationToolName verificationToolObservedAt : Option String)
  lastObservedAt : String
  (terminalFindingId gracefulCloseAt : Option String)

inductive DiagnosticSeverity where
  | info | warning | error
deriving DecidableEq

/-- The part of `OccurrenceDiagnosticFinding` the link to its runtime session reads. -/
structure OccurrenceDiagnosticFinding where
  id : String
  severity : DiagnosticSeverity
  (runtimeSessionId connectionId integrationRevision : Option String)
  causes : List String
  observedAt : UtcTimestamp
  idValid : isStableIdentifier id

structure RuntimeSessionTables where
  connections : Table AgentConnectionRecord.connectionInternalId
  sessions : Table McpRuntimeSessionRecord.runtimeSessionId
  findings : Table OccurrenceDiagnosticFinding.id

namespace McpRuntimeSessionRecord
variable (record : McpRuntimeSessionRecord)

/- The CHECK constraints of the table. A comparison with NULL is not false, and a row is refused
only by a constraint that is false. -/

def notBefore (later earlier : Option String) : Bool :=
  match later, earlier with
  | some later, some earlier => decide (earlier ≤ later)
  | _, _ => true

def pairedColumns {α β : Type} (a : Option α) (b : Option β) : Bool := a.isSome == b.isSome

def toolsListColumnsAgree : Bool :=
  (record.toolsListObservedAt.isNone && record.returnedToolIdentities.isNone
    && record.requiredToolsPresent.isNone && record.requiredToolsValidatedAt.isNone)
  || (record.toolsListObservedAt.isSome && record.returnedToolIdentities.isSome
    && record.requiredToolsPresent.all (!·) && record.requiredToolsValidatedAt.isNone)
  || (record.toolsListObservedAt.isSome && record.returnedToolIdentities.isSome
    && record.requiredToolsPresent.all (·) && record.requiredToolsValidatedAt.isSome)

def checks : Bool :=
  isCanonicalSha256Digest record.connectionIntegrationRevision
  && decide (0 < record.processId)
  && record.verificationToolName.all isMcpToolName
  && pairedColumns record.attemptedClientName record.attemptedClientVersion
  && pairedColumns record.initializeCompletedAt record.selectedProtocolVersion
  && (record.selectedProtocolVersion.isNone || record.requestedProtocolVersion.isSome)
  && (record.selectedProtocolVersion.isNone || record.attemptedClientName.isSome)
  && pairedColumns record.initializedNotificationAt record.negotiatedProtocolVersion
  && record.toolsListColumnsAgree
  && pairedColumns record.verificationToolName record.verificationToolObservedAt
  && (record.initializedNotificationAt.isNone || record.initializeCompletedAt.isSome)
  && (record.negotiatedProtocolVersion.isNone || record.selectedProtocolVersion.isNone
    || record.negotiatedProtocolVersion = record.selectedProtocolVersion)
  && (record.toolsListObservedAt.isNone || record.initializeCompletedAt.isSome)
  && notBefore record.requiredToolsValidatedAt record.toolsListObservedAt
  && (record.verificationToolObservedAt.isNone || record.requiredToolsValidatedAt.isSome)
  && (record.terminalFindingId.isNone || record.gracefulCloseAt.isNone)
  && notBefore (some record.lastObservedAt) (some record.processStartedAt)
  && notBefore record.initializeCompletedAt (some record.processStartedAt)
  && notBefore record.initializedNotificationAt record.initializeCompletedAt
  && notBefore record.toolsListObservedAt record.initializeCompletedAt
  && notBefore record.verificationToolObservedAt record.initializedNotificationAt
  && notBefore record.verificationToolObservedAt record.requiredToolsValidatedAt
  && notBefore record.gracefulCloseAt (some record.processStartedAt)

/- The decoder. -/

def corrupt (field : String) : StoreError :=
  .corruptOwnerStateValue "mcp_runtime_sessions" record.runtimeSessionId field

def parseStoredTimestamp (X : External) (field value : String) : StoreResult UtcTimestamp :=
  okOr (record.corrupt field) (X.chrono.parse value)

def parseOptionalStoredTimestamp (X : External) (field : String) :
    Option String → StoreResult (Option UtcTimestamp)
  | none => .ok none
  | some value => (record.parseStoredTimestamp X field value).map some

def validatePeer : StoreResult Unit :=
  match record.attemptedClientName, record.attemptedClientVersion,
    record.requestedProtocolVersion with
  | none, none, none => .ok ()
  | some name, some version, some requested => do
    ensure (isManagedMcpClientInfoField name && isManagedMcpClientInfoField version)
      (record.corrupt "attempted_client_name")
    ensure (isBoundedText requested maxProtocolFieldBytes)
      (record.corrupt "requested_protocol_version")
    ensure (record.selectedProtocolVersion.all (isBoundedText · maxProtocolFieldBytes))
      (record.corrupt "selected_protocol_version")
    ensure (record.negotiatedProtocolVersion.all (isBoundedText · maxProtocolFieldBytes))
      (record.corrupt "negotiated_protocol_version")
  | _, _, _ => .error (record.corrupt "attempted_client_name")

def validateToolsList : StoreResult Unit :=
  match record.toolsListObservedAt, record.returnedToolIdentities, record.requiredToolsPresent,
    record.requiredToolsValidatedAt with
  | none, none, none, none => .ok ()
  | some _, some identities, some false, none
  | some _, some identities, some true, some _ =>
    ensure (returnedToolIdentitiesAreValid identities)
      (record.corrupt "returned_tool_identities_json")
  | _, _, _, _ => .error (record.corrupt "required_tools_validated_at")

end McpRuntimeSessionRecord

structure McpSessionInstants where
  processStartedAt : UtcTimestamp
  (initializeCompletedAt initializedNotificationAt toolsListObservedAt : Option UtcTimestamp)
  (requiredToolsValidatedAt verificationToolObservedAt : Option UtcTimestamp)
  lastObservedAt : UtcTimestamp

/-- A present instant is not before one that has to be present with it. -/
def followsPresent (value earlier : Option UtcTimestamp) : Bool :=
  value.all fun value => earlier.any (· ≤ value)

def McpSessionInstants.inOrder (instants : McpSessionInstants) : Bool :=
  decide (instants.processStartedAt ≤ instants.lastObservedAt)
  && instants.initializeCompletedAt.all (instants.processStartedAt ≤ ·)
  && followsPresent instants.initializedNotificationAt instants.initializeCompletedAt
  && followsPresent instants.toolsListObservedAt instants.initializeCompletedAt
  && followsPresent instants.requiredToolsValidatedAt instants.toolsListObservedAt
  && followsPresent instants.verificationToolObservedAt instants.requiredToolsValidatedAt
  && followsPresent instants.verificationToolObservedAt instants.initializedNotificationAt

namespace McpRuntimeSessionRecord
variable (record : McpRuntimeSessionRecord)

/-- The timestamps of `McpSessionMilestones::try_from_record`. -/
def parseInstants (X : External) : StoreResult McpSessionInstants := do
  let processStartedAt ← record.parseStoredTimestamp X "process_started_at" record.processStartedAt
  let initializeCompletedAt ← record.parseOptionalStoredTimestamp X "initialize_completed_at"
    record.initializeCompletedAt
  let initializedNotificationAt ← record.parseOptionalStoredTimestamp X
    "initialized_notification_at" record.initializedNotificationAt
  let toolsListObservedAt ← record.parseOptionalStoredTimestamp X "tools_list_observed_at"
    record.toolsListObservedAt
  let requiredToolsValidatedAt ← record.parseOptionalStoredTimestamp X
    "required_tools_validated_at" record.requiredToolsValidatedAt
  let verificationToolObservedAt ← record.parseOptionalStoredTimestamp X
    "verification_tool_observed_at" record.verificationToolObservedAt
  let lastObservedAt ← record.parseStoredTimestamp X "last_observed_at" record.lastObservedAt
  return ⟨processStartedAt, initializeCompletedAt, initializedNotificationAt,
    toolsListObservedAt, requiredToolsValidatedAt, verificationToolObservedAt, lastObservedAt⟩

/-- `McpSessionMilestones::try_from_record`; the milestones are the columns and these instants. -/
def tryFromRecord (X : External) : StoreResult McpSessionInstants := do
  ensure (isCanonicalSha256Digest record.connectionIntegrationRevision)
    (record.corrupt "connection_integration_revision")
  let instants ← record.parseInstants X
  record.validatePeer
  ensure (pairedColumns instants.initializeCompletedAt record.selectedProtocolVersion
      && (instants.initializeCompletedAt.isNone || record.attemptedClientName.isSome))
    (record.corrupt "initialize_completed_at")
  ensure (pairedColumns instants.initializedNotificationAt record.negotiatedProtocolVersion
      && (instants.initializedNotificationAt.isNone || instants.initializeCompletedAt.isSome)
      && (record.negotiatedProtocolVersion = record.selectedProtocolVersion
        || record.negotiatedProtocolVersion.isNone))
    (record.corrupt "negotiated_protocol_version")
  record.validateToolsList
  ensure (instants.toolsListObservedAt.isNone || instants.initializeCompletedAt.isSome)
    (record.corrupt "tools_list_observed_at")
  ensure instants.inOrder (record.corrupt "last_observed_at")
  ensure (pairedColumns record.verificationToolName instants.verificationToolObservedAt)
    (record.corrupt "verification_tool_name")
  ensure (record.verificationToolName.all isMcpToolName) (record.corrupt "verification_tool_name")
  ensure (record.verificationToolName.isNone || instants.requiredToolsValidatedAt.isSome)
    (record.corrupt "verification_tool_observed_at")
  ensure (record.terminalFindingId.all isStableIdentifier) (record.corrupt "terminal_finding_id")
  return instants

def validate (X : External) : StoreResult Unit := do
  let _ ← record.tryFromRecord X
  ensure (record.observedHostExecutableVersion.all (isBoundedText · maxDiagnosticFieldBytes))
    (record.corrupt "observed_host_executable_version")
  ensure (record.gracefulCloseAt.all fun text => (X.chrono.parse text).isSome)
    (record.corrupt "graceful_close_at")
  ensure (record.terminalFindingId.isNone || record.gracefulCloseAt.isNone)
    (record.corrupt "terminal_finding_id")

end McpRuntimeSessionRecord

namespace RuntimeSessionTables
variable (t : RuntimeSessionTables)

variable (X : External) (runtimeSessionId : String)

def runtimeSessionFromConn : StoreResult (Option McpRuntimeSessionRecord) :=
  match t.sessions.find? runtimeSessionId with
  | none => .ok none
  | some record => (record.validate X).map fun _ => some record

def requireRuntimeSession : StoreResult McpRuntimeSessionRecord := do
  let record ← t.runtimeSessionFromConn X runtimeSessionId
  okOr (.notFound "mcp_runtime_session" runtimeSessionId) record

def milestoneOrder (runtimeSessionId detail : String) : StoreError :=
  .conflict "mcp_runtime_session" runtimeSessionId detail

/-- `require_observation_time`, which compares texts. -/
def requireObservationTime (record : McpRuntimeSessionRecord) (observedAt : String) :
    StoreResult Unit :=
  ensure (!decide (observedAt < record.lastObservedAt)) (milestoneOrder record.runtimeSessionId
    "milestone timestamp precedes the last observation")

/-- One `UPDATE` of a session row under the constraints of its table. -/
def writeSession (row : McpRuntimeSessionRecord → McpRuntimeSessionRecord)
    (hrow : ∀ record, (row record).runtimeSessionId = record.runtimeSessionId)
    (prior : McpRuntimeSessionRecord) : StoreResult RuntimeSessionTables := do
  ensure (row prior).checks (.sqlite "CHECK constraint failed: mcp_runtime_sessions")
  return { t with sessions := t.sessions.update prior.runtimeSessionId row hrow }

def updateSession (guard : McpRuntimeSessionRecord → StoreResult Unit)
    (row : McpRuntimeSessionRecord → McpRuntimeSessionRecord)
    (hrow : ∀ record, (row record).runtimeSessionId = record.runtimeSessionId := by
      intros; rfl) : StoreResult (McpRuntimeSessionRecord × RuntimeSessionTables) := do
  validateText "runtime_session_id" runtimeSessionId maxDiagnosticFieldBytes
  let prior ← t.requireRuntimeSession X runtimeSessionId
  guard prior
  let t' ← t.writeSession row hrow prior
  let record ← t'.requireRuntimeSession X runtimeSessionId
  return (record, t')

def recordMcpInitializeAttempt (clientInfo : ManagedMcpClientInfo)
    (requestedProtocolVersion observedAt : String) :
    StoreResult (McpRuntimeSessionRecord × RuntimeSessionTables) := do
  validateText "requested_protocol_version" requestedProtocolVersion maxProtocolFieldBytes
  validateTimestamp X "initialize_attempted_at" observedAt
  t.updateSession X runtimeSessionId
    (fun prior => do
      requireObservationTime prior observedAt
      ensure (prior.attemptedClientName.isNone && prior.requestedProtocolVersion.isNone)
        (milestoneOrder runtimeSessionId "initialize attempt is already recorded"))
    (fun row => { row with
      attemptedClientName := some clientInfo.name
      attemptedClientVersion := some clientInfo.version
      requestedProtocolVersion := some requestedProtocolVersion
      lastObservedAt := observedAt })

def recordMcpInitializeCompletion (runtimeSessionId selectedProtocolVersion observedAt : String) :
    StoreResult (McpRuntimeSessionRecord × RuntimeSessionTables) := do
  validateText "selected_protocol_version" selectedProtocolVersion maxProtocolFieldBytes
  validateTimestamp X "initialize_completed_at" observedAt
  t.updateSession X runtimeSessionId
    (fun prior => do
      requireObservationTime prior observedAt
      ensure (prior.attemptedClientName.isSome && prior.requestedProtocolVersion.isSome)
        (milestoneOrder runtimeSessionId
          "initialize completion requires a parsed initialize attempt")
      ensure prior.initializeCompletedAt.isNone
        (milestoneOrder runtimeSessionId "initialize has already completed"))
    (fun row => { row with
      selectedProtocolVersion := some selectedProtocolVersion
      initializeCompletedAt := some observedAt
      lastObservedAt := observedAt })

def recordMcpInitializedNotification
    (runtimeSessionId negotiatedProtocolVersion observedAt : String) :
    StoreResult (McpRuntimeSessionRecord × RuntimeSessionTables) := do
  validateText "negotiated_protocol_version" negotiatedProtocolVersion maxProtocolFieldBytes
  validateTimestamp X "initialized_notification_at" observedAt
  t.updateSession X runtimeSessionId
    (fun prior => do
      requireObservationTime prior observedAt
      ensure prior.initializeCompletedAt.isSome (milestoneOrder runtimeSessionId
        "initialized notification requires initialize completion")
      ensure (prior.selectedProtocolVersion = some negotiatedProtocolVersion)
        (milestoneOrder runtimeSessionId
          "negotiated protocol version differs from the server-selected revision")
      ensure (prior.negotiatedProtocolVersion.all (· = negotiatedProtocolVersion))
        (milestoneOrder runtimeSessionId
          "initialized notification conflicts with the negotiated protocol version"))
    (fun row => { row with
      negotiatedProtocolVersion :=
        row.negotiatedProtocolVersion <|> some negotiatedProtocolVersion
      initializedNotificationAt := row.initializedNotificationAt <|> some observedAt
      lastObservedAt := observedAt })

def recordMcpToolsList (returnedToolIdentities : List String) (requiredToolsPresent : Bool)
    (observedAt : String) : StoreResult (McpRuntimeSessionRecord × RuntimeSessionTables) := do
  validateTimestamp X "tools_list_observed_at" observedAt
  let identities := sortDedup returnedToolIdentities
  ensure (returnedToolIdentitiesAreValid identities)
    (.invalidInput "returned MCP tool identities are not valid")
  t.updateSession X runtimeSessionId
    (fun prior => do
      requireObservationTime prior observedAt
      ensure prior.initializeCompletedAt.isSome (milestoneOrder runtimeSessionId
        "tools/list requires initialize completion"))
    (fun row => { row with
      toolsListObservedAt := some observedAt
      returnedToolIdentities := some identities
      requiredToolsPresent := some requiredToolsPresent
      requiredToolsValidatedAt := if requiredToolsPresent then some observedAt else none
      lastObservedAt := observedAt })

def recordMcpVerificationToolObservation (runtimeSessionId observedAt : String) :
    StoreResult (McpRuntimeSessionRecord × RuntimeSessionTables) := do
  validateTimestamp X "verification_tool_observed_at" observedAt
  t.updateSession X runtimeSessionId
    (fun prior => do
      requireObservationTime prior observedAt
      ensure prior.initializedNotificationAt.isSome (milestoneOrder runtimeSessionId
        "verification tool success requires the initialized notification")
      ensure (prior.requiredToolsPresent = some true && prior.requiredToolsValidatedAt.isSome)
        (milestoneOrder runtimeSessionId
          "verification tool success requires same-session required-tool validation")
      ensure prior.terminalFindingId.isNone (milestoneOrder runtimeSessionId
        "verification tool success cannot follow terminal failure")
      let connection ← okOr (.notFound "agent_connection" prior.connectionInternalId)
        (t.connections.find? prior.connectionInternalId)
      let revision ← connection.integrationRevision X
      ensure (connection.enabled && prior.sessionSource = .managedHost
          && prior.connectionIntegrationRevision = revision)
        (milestoneOrder runtimeSessionId
          "verification tool observation requires a current managed-host launch owned by an enabled Agent Connection")
      ensure (prior.verificationToolName.all (· = managedHostRoundTripTool))
        (milestoneOrder runtimeSessionId
          "runtime session already records a different verification tool name"))
    (fun row => { row with
      verificationToolName := some managedHostRoundTripTool
      verificationToolObservedAt := some observedAt
      lastObservedAt := observedAt })

/-- `record_mcp_graceful_close`, up to its commit. -/
def recordMcpGracefulClose (runtimeSessionId observedAt : String) :
    StoreResult (McpRuntimeSessionRecord × RuntimeSessionTables) := do
  validateTimestamp X "graceful_close_at" observedAt
  t.updateSession X runtimeSessionId
    (fun prior => do
      requireObservationTime prior observedAt
      ensure prior.terminalFindingId.isNone (milestoneOrder runtimeSessionId
        "graceful close cannot follow terminal failure"))
    (fun row => { row with
      gracefulCloseAt := row.gracefulCloseAt <|> some observedAt
      lastObservedAt := observedAt })

variable (finding : OccurrenceDiagnosticFinding)

/-- `validate_graph_references` for one occurrence. -/
def validateGraphReferences : StoreResult Unit := do
  ensure (t.findings.find? finding.id).isNone
    (.conflict "diagnostic_finding" finding.id "occurrence finding id is already persisted")
  ensure (finding.connectionId.all fun id => (t.connections.find? id).isSome)
    (.invalidInput ("diagnostic finding " ++ finding.id ++ " references missing Agent Connection"))
  match finding.runtimeSessionId with
  | none => pure ()
  | some runtimeSessionId => do
    let runtime ← okOr (.invalidInput ("diagnostic finding " ++ finding.id
        ++ " references missing runtime session " ++ runtimeSessionId))
      (← t.runtimeSessionFromConn X runtimeSessionId)
    ensure (finding.connectionId = some runtime.connectionInternalId
        && finding.integrationRevision = some runtime.connectionIntegrationRevision)
      (.invalidInput ("diagnostic finding " ++ finding.id
        ++ " does not match its runtime session coordinates"))
  ensure (finding.causes.all fun cause => cause = finding.id || (t.findings.find? cause).isSome)
    (.invalidInput ("diagnostic finding " ++ finding.id ++ " references missing cause"))

def linkTerminalFinding (findingId observedAt : String) (row : McpRuntimeSessionRecord) :
    McpRuntimeSessionRecord :=
  { row with terminalFindingId := some findingId, lastObservedAt := observedAt }

/-- `link_terminal_occurrence_in_tx`, for the occurrence that was just inserted. It does not read
the row back. -/
def linkTerminalOccurrenceInTx : StoreResult RuntimeSessionTables := do
  validateText "runtime_session_id" runtimeSessionId maxDiagnosticFieldBytes
  let runtime ← t.requireRuntimeSession X runtimeSessionId
  ensure (finding.severity = .error && finding.runtimeSessionId = some runtimeSessionId
      && finding.connectionId = some runtime.connectionInternalId
      && finding.integrationRevision = some runtime.connectionIntegrationRevision)
    (.conflict "diagnostic_finding" finding.id
      "terminal occurrence does not match the runtime session coordinates")
  ensure runtime.gracefulCloseAt.isNone (milestoneOrder runtimeSessionId
    "terminal occurrence cannot follow graceful close")
  if runtime.terminalFindingId = some finding.id then return t
  ensure runtime.terminalFindingId.isNone (milestoneOrder runtimeSessionId
    "runtime session already has another terminal occurrence")
  let observedAt := X.chrono.toCanonicalString finding.observedAt
  ensure (!decide (observedAt < runtime.lastObservedAt)) (milestoneOrder runtimeSessionId
    "terminal occurrence predates the last runtime observation")
  t.writeSession (linkTerminalFinding finding.id observedAt) (fun _ => rfl) runtime

def insertAndLinkRuntimeTerminalOccurrence : StoreResult RuntimeSessionTables := do
  let runtimeSessionId ← okOr
    (.invalidInput "terminal diagnostic occurrence requires runtime_session_id")
    finding.runtimeSessionId
  t.validateGraphReferences X finding
  let findings ← okOr (.sqlite "UNIQUE constraint failed: diagnostic_findings.finding_id")
    (t.findings.insert? finding)
  { t with findings := findings }.linkTerminalOccurrenceInTx X runtimeSessionId finding

variable (input : McpRuntimeSessionStart)

def validateStart : StoreResult Unit := do
  validateText "connection_internal_id" input.connectionInternalId maxDiagnosticFieldBytes
  ensure (input.observedHostExecutableVersion.all (isBoundedText · maxDiagnosticFieldBytes))
    (.invalidInput "observed_host_executable_version must be 1 through 1024 non-control UTF-8 bytes")
  ensure (decide (0 < input.processId)) (.invalidInput "process_id must be positive")
  validateTimestamp X "process_started_at" input.processStartedAt

def startedSession (runtimeSessionId revision : String) (input : McpRuntimeSessionStart) :
    McpRuntimeSessionRecord where
  runtimeSessionId := runtimeSessionId
  connectionInternalId := input.connectionInternalId
  sessionSource := input.sessionSource
  connectionIntegrationRevision := revision
  observedHostExecutableVersion := input.observedHostExecutableVersion
  attemptedClientName := none
  attemptedClientVersion := none
  requestedProtocolVersion := none
  selectedProtocolVersion := none
  negotiatedProtocolVersion := none
  processId := input.processId
  processStartedAt := input.processStartedAt
  initializeCompletedAt := none
  initializedNotificationAt := none
  toolsListObservedAt := none
  returnedToolIdentities := none
  requiredToolsPresent := none
  requiredToolsValidatedAt := none
  verificationToolName := none
  verificationToolObservedAt := none
  lastObservedAt := input.processStartedAt
  terminalFindingId := none
  gracefulCloseAt := none

/-- `insert_mcp_runtime_session_in_transaction`; a taken id inserts nothing. -/
def insertMcpRuntimeSession (expectedIntegrationRevision : Option String) :
    StoreResult (Option (McpRuntimeSessionRecord × RuntimeSessionTables)) := do
  validateStart X input
  let connection ← okOr (.notFound "agent_connection" input.connectionInternalId)
    (t.connections.find? input.connectionInternalId)
  let revision ← connection.integrationRevision X
  ensure (expectedIntegrationRevision.all (· = revision)) (.conflict "mcp_runtime_session" "current"
    "Connection integration revision changed before runtime creation")
  let row := startedSession runtimeSessionId revision input
  match t.sessions.insert? row with
  | none => return none
  | some sessions =>
    -- OR IGNORE also skips a row that a constraint refuses
    if row.checks then
      let t' := { t with sessions := sessions }
      let record ← t'.requireRuntimeSession X runtimeSessionId
      return some (record, t')
    else return none

/-- One try of `start_mcp_runtime_session` per generated id. -/
def startMcpRuntimeSessionWith (X : External) (input : McpRuntimeSessionStart) :
    List String → StoreResult (McpRuntimeSessionRecord × RuntimeSessionTables)
  | [] => .error (.conflict "mcp_runtime_session" "generated"
      "durable id collision retry limit was exhausted")
  | runtimeSessionId :: rest => do
    match ← t.insertMcpRuntimeSession X runtimeSessionId input none with
    | some started => return started
    | none => startMcpRuntimeSessionWith X input rest

/-- `start_mcp_runtime_session` with the ids its generator gives. -/
def startMcpRuntimeSession (generated : List String) :
    StoreResult (McpRuntimeSessionRecord × RuntimeSessionTables) := do
  validateStart X input
  ensure (input.sessionSource ≠ .managedHost)
    (.invalidInput "managed_host runtime creation requires atomic launch-lease consumption")
  t.startMcpRuntimeSessionWith X input (generated.take durableIdRetryLimit)

end RuntimeSessionTables
end Volicord
