import Volicord.Store.RuntimeSessions

/-! `managed_launch_leases.rs`: the one-time leases with which a managed launcher starts its
runtime session. A `SystemTime` is the instant it stands for; every call reads the clock once. -/
namespace Volicord
open Result Relational

def launchLeaseTtl : Int := 30 * 1000000000
def terminalLeaseRetention : Int := 60 * 60 * 1000000000
def maxFingerprintBytes : Nat := 1024

inductive HostKind where
  | codex
deriving DecidableEq

def HostKind.asStr : HostKind → String
  | .codex => "codex"

inductive ManagedMcpLaunchLeaseState where
  | issued | consumed | cancelled | expired
deriving DecidableEq

structure ManagedMcpLaunchLeaseRecord where
  (launchLeaseId connectionInternalId : String)
  hostKind : HostKind
  (expectedIntegrationRevision expectedLaunchFingerprint issuedAt expiresAt : String)
  consumedAt : Option String
  terminalState : ManagedMcpLaunchLeaseState
deriving DecidableEq

structure ManagedMcpLaunchLeaseIssue where
  connectionInternalId : String
  hostKind : HostKind
  (expectedIntegrationRevision expectedLaunchFingerprint : String)

structure ManagedMcpLaunchLeaseConsumption where
  (launchLeaseId connectionInternalId : String)
  hostKind : HostKind
  (expectedIntegrationRevision expectedLaunchFingerprint : String)

def leaseNotFound : StoreError := .notFound "managed_mcp_launch_lease" "current"

def leaseConflict (detail : String) : StoreError :=
  .conflict "managed_mcp_launch_lease" "current" detail

def corruptLease (field : String) : StoreError :=
  .corruptOwnerStateValue "managed_mcp_launch_leases" "current" field

def validateFingerprint (value : String) : StoreResult Unit :=
  validateText "expected_launch_fingerprint" value maxFingerprintBytes

/-- What a caller says of the Connection, as `validate_issue` and `validate_consumption` check it.
-/
def validateLaunchContract (connectionInternalId revision fingerprint : String) :
    StoreResult Unit := do
  validateText "connection_internal_id" connectionInternalId 1024
  ensure (isCanonicalSha256Digest revision)
    (.invalidInput "expected integration revision must be canonical sha256")
  validateFingerprint fingerprint

def validateIssue (input : ManagedMcpLaunchLeaseIssue) : StoreResult Unit :=
  validateLaunchContract input.connectionInternalId input.expectedIntegrationRevision
    input.expectedLaunchFingerprint

def validateConsumption (input : ManagedMcpLaunchLeaseConsumption) : StoreResult Unit := do
  validateText "launch_lease_id" input.launchLeaseId 192
  validateLaunchContract input.connectionInternalId input.expectedIntegrationRevision
    input.expectedLaunchFingerprint

def isLaunchLeaseId (value : String) : Bool :=
  let chars := value.toList
  let substr (start length : Nat) := (chars.drop (start - 1)).take length
  let isLowerHex (c : Char) := c.isDigit || ('a' ≤ c && c ≤ 'f')
  chars.length = 53
  && substr 1 17 = "mcp_launch_lease_".toList
  && [26, 31, 36, 41].all (fun start => substr start 1 = ['-'])
  && [(18, 8), (27, 4), (32, 4), (37, 4), (42, 12)].all
    (fun (start, length) => (substr start length).all isLowerHex)
  && substr 32 1 = ['4'] && ["8", "9", "a", "b"].any (fun digit => substr 37 1 = digit.toList)

namespace ManagedMcpLaunchLeaseRecord
variable (record : ManagedMcpLaunchLeaseRecord)

/-- The CHECKs of `managed_mcp_launch_leases`. -/
def checks : Bool :=
  isLaunchLeaseId record.launchLeaseId
  && isCanonicalSha256Digest record.expectedIntegrationRevision
  && (1 ≤ record.expectedLaunchFingerprint.utf8ByteSize
    && record.expectedLaunchFingerprint.utf8ByteSize ≤ 1024)
  && decide (record.issuedAt < record.expiresAt)
  && (decide (record.terminalState = .consumed) == record.consumedAt.isSome)
  && record.consumedAt.all (fun consumedAt => decide (record.issuedAt ≤ consumedAt))
  && record.consumedAt.all (fun consumedAt => decide (consumedAt < record.expiresAt))

def validateStoredLease (X : External) : StoreResult Unit := do
  ensure (isBoundedText record.launchLeaseId 192) (corruptLease "launch_lease_id")
  ensure (isBoundedText record.connectionInternalId 1024) (corruptLease "connection_internal_id")
  ensure (isCanonicalSha256Digest record.expectedIntegrationRevision)
    (corruptLease "expected_integration_revision")
  ensure (isBoundedText record.expectedLaunchFingerprint maxFingerprintBytes)
    (corruptLease "expected_launch_fingerprint")
  let issued ← okOr (corruptLease "issued_at") (X.chrono.parse record.issuedAt)
  let expires ← okOr (corruptLease "expires_at") (X.chrono.parse record.expiresAt)
  ensure (decide (issued < expires)) (corruptLease "expires_at")
  match record.terminalState, record.consumedAt with
  | .consumed, some value => do
    let consumed ← okOr (corruptLease "consumed_at") (X.chrono.parse value)
    ensure (decide (issued ≤ consumed) && decide (consumed < expires)) (corruptLease "consumed_at")
  | .consumed, none => .error (corruptLease "consumed_at")
  | _, some _ => .error (corruptLease "consumed_at")
  | _, none => .ok ()

def ofIssue (launchLeaseId : String) (input : ManagedMcpLaunchLeaseIssue)
    (issuedAt expiresAt : String) : ManagedMcpLaunchLeaseRecord where
  launchLeaseId := launchLeaseId
  connectionInternalId := input.connectionInternalId
  hostKind := input.hostKind
  expectedIntegrationRevision := input.expectedIntegrationRevision
  expectedLaunchFingerprint := input.expectedLaunchFingerprint
  issuedAt := issuedAt
  expiresAt := expiresAt
  consumedAt := none
  terminalState := .issued

def withState (state : ManagedMcpLaunchLeaseState) : ManagedMcpLaunchLeaseRecord :=
  { record with terminalState := state }

def consume (consumedAt : String) : ManagedMcpLaunchLeaseRecord :=
  { record with consumedAt := some consumedAt, terminalState := .consumed }

theorem withState_launchLeaseId (state : ManagedMcpLaunchLeaseState) :
    (record.withState state).launchLeaseId = record.launchLeaseId := rfl

theorem consume_launchLeaseId (consumedAt : String) :
    (record.consume consumedAt).launchLeaseId = record.launchLeaseId := rfl

def agreesWith (claim : ManagedMcpLaunchLeaseConsumption) : Bool :=
  record.connectionInternalId = claim.connectionInternalId
  && record.hostKind = claim.hostKind
  && record.expectedIntegrationRevision = claim.expectedIntegrationRevision
  && record.expectedLaunchFingerprint = claim.expectedLaunchFingerprint

end ManagedMcpLaunchLeaseRecord

structure LeaseTables extends RuntimeSessionTables where
  leases : Table ManagedMcpLaunchLeaseRecord.launchLeaseId

namespace LeaseTables
variable (X : External) (t : LeaseTables)

variable (launchLeaseId : String)

def leaseFromConn : StoreResult (Option ManagedMcpLaunchLeaseRecord) :=
  match t.leases.find? launchLeaseId with
  | none => .ok none
  | some record => (record.validateStoredLease X).map fun _ => some record

def requireCurrentConnection (connectionId : String) (hostKind : HostKind)
    (expectedRevision expectedFingerprint : String) : StoreResult Unit := do
  let connection ← okOr (.notFound "agent_connection" "current") (t.connections.find? connectionId)
  ensure connection.enabled (leaseConflict "launch lease Connection is disabled")
  ensure (connection.hostKind = hostKind.asStr)
    (leaseConflict "launch lease host kind does not match")
  ensure (connection.managedFingerprint = expectedFingerprint)
    (leaseConflict "launch lease managed fingerprint does not match current configuration")
  let revision ← connection.integrationRevision X
  ensure (revision = expectedRevision)
    (leaseConflict "launch lease integration revision does not match current Connection")

/-- Expires what is due and forgets what ended long ago. Both compare texts. -/
def cleanupLeases (now cutoff : String) : LeaseTables :=
  let due (row : ManagedMcpLaunchLeaseRecord) : Bool :=
    row.terminalState = .issued && decide (row.expiresAt ≤ now)
  let ended (row : ManagedMcpLaunchLeaseRecord) : Bool :=
    row.terminalState ≠ .issued && decide (row.expiresAt < cutoff)
  { t with leases := (t.leases.updateWhere due (·.withState .expired)
      (·.withState_launchLeaseId _)).deleteWhere ended }

/-- `UPDATE … SET terminal_state = … WHERE launch_lease_id = … AND terminal_state = 'issued'`. -/
def endLease (state : ManagedMcpLaunchLeaseState) : LeaseTables :=
  let isOpen (row : ManagedMcpLaunchLeaseRecord) : Bool :=
    row.launchLeaseId = launchLeaseId && row.terminalState = .issued
  { t with leases := t.leases.updateWhere isOpen (·.withState state) (·.withState_launchLeaseId _) }

/-- The cleanup of a call that read the clock at `now`. -/
def cleanupAt (now : UtcTimestamp) : LeaseTables :=
  t.cleanupLeases (X.chrono.toCanonicalString now)
    (X.chrono.toCanonicalString (now - terminalLeaseRetention))

/-- One try of an issue with one generated id; nothing is inserted over a taken id, and
`OR IGNORE` also skips a row that a constraint refuses. -/
def tryIssue (input : ManagedMcpLaunchLeaseIssue) (issuedAt : UtcTimestamp) (leaseId : String) :
    StoreResult (Option (ManagedMcpLaunchLeaseRecord × LeaseTables)) := do
  let t := t.cleanupAt X issuedAt
  t.requireCurrentConnection X input.connectionInternalId input.hostKind
    input.expectedIntegrationRevision input.expectedLaunchFingerprint
  let row := ManagedMcpLaunchLeaseRecord.ofIssue leaseId input
    (X.chrono.toCanonicalString issuedAt) (X.chrono.toCanonicalString (issuedAt + launchLeaseTtl))
  match t.leases.insert? row with
  | none => return none
  | some leases =>
    if row.checks then
      let t' := { t with leases := leases }
      let record ← okOr leaseNotFound (← t'.leaseFromConn X leaseId)
      return some (record, t')
    else return none

def issueWith (input : ManagedMcpLaunchLeaseIssue) (issuedAt : UtcTimestamp) :
    List String → StoreResult (ManagedMcpLaunchLeaseRecord × LeaseTables)
  | [] => .error (leaseConflict "launch lease durable-id collision retry limit was exhausted")
  | leaseId :: rest => do
    match ← t.tryIssue X input issuedAt leaseId with
    | some issued => return issued
    | none => issueWith input issuedAt rest

/-- `issue_managed_mcp_launch_lease`, with its clock reading and the ids its generator gives. -/
def issueManagedMcpLaunchLease (input : ManagedMcpLaunchLeaseIssue) (issuedAt : UtcTimestamp)
    (generated : List String) : StoreResult (ManagedMcpLaunchLeaseRecord × LeaseTables) := do
  validateIssue input
  t.issueWith X input issuedAt (generated.take durableIdRetryLimit)

/-- What one transaction of a consumption can come to, other than an error that rolls it back. -/
inductive Consumption where
  /-- The expired mark is committed and the call fails. -/
  | expired (t' : LeaseTables)
  | started (record : McpRuntimeSessionRecord) (t' : LeaseTables)
  /-- The generated session id is taken. -/
  | collided

variable (claim : ManagedMcpLaunchLeaseConsumption) (runtime : McpRuntimeSessionStart)

def tryConsume (consumedAt : UtcTimestamp) (runtimeSessionId : String) :
    StoreResult Consumption := do
  let t := t.cleanupAt X consumedAt
  let lease ← okOr leaseNotFound (← t.leaseFromConn X claim.launchLeaseId)
  ensure (lease.terminalState = .issued) (leaseConflict "launch lease is no longer consumable")
  let observedAt := X.chrono.toCanonicalString consumedAt
  let consumedAt := if observedAt < lease.issuedAt then lease.issuedAt else observedAt
  if lease.expiresAt ≤ consumedAt then
    return .expired (t.endLease claim.launchLeaseId .expired)
  ensure (lease.agreesWith claim)
    (leaseConflict "launch lease claim does not match the issued contract")
  t.requireCurrentConnection X claim.connectionInternalId claim.hostKind
    claim.expectedIntegrationRevision claim.expectedLaunchFingerprint
  let due (row : ManagedMcpLaunchLeaseRecord) : Bool :=
    row.launchLeaseId = claim.launchLeaseId && row.terminalState = .issued
      && decide (consumedAt < row.expiresAt)
  ensure (t.leases.rows.countP due = 1) (leaseConflict "launch lease could not be consumed")
  ensure (lease.consume consumedAt).checks
    (.sqlite "CHECK constraint failed: managed_mcp_launch_leases")
  let leases := t.leases.updateWhere due (·.consume consumedAt) (·.consume_launchLeaseId _)
  let t := { t with leases := leases }
  match ← t.insertMcpRuntimeSession X runtimeSessionId runtime
      (some claim.expectedIntegrationRevision) with
  | some (record, sessions) => return .started record { t with toRuntimeSessionTables := sessions }
  | none => return .collided

def consumeWith (claim : ManagedMcpLaunchLeaseConsumption) (runtime : McpRuntimeSessionStart)
    (consumedAt : UtcTimestamp) : List String → StoreResult McpRuntimeSessionRecord × LeaseTables
  | [] => (.error (leaseConflict "runtime durable-id collision retry limit was exhausted"), t)
  | runtimeSessionId :: rest =>
    match t.tryConsume X claim runtime consumedAt runtimeSessionId with
    | .error error => (.error error, t)
    | .ok (.expired t') => (.error (leaseConflict "launch lease has expired"), t')
    | .ok (.started record t') => (.ok record, t')
    | .ok .collided => consumeWith claim runtime consumedAt rest

def validateLaunch : StoreResult Unit := do
  validateConsumption claim
  ensure (runtime.sessionSource = .managedHost)
    (.invalidInput "launch lease consumption requires session_source=managed_host")
  ensure (runtime.connectionInternalId = claim.connectionInternalId)
    (leaseConflict "launch lease Connection does not match runtime creation")

def consumeManagedMcpLaunchLeaseAndStartRuntime (consumedAt : UtcTimestamp)
    (generated : List String) : StoreResult McpRuntimeSessionRecord × LeaseTables :=
  match validateLaunch claim runtime with
  | .error error => (.error error, t)
  | .ok () => t.consumeWith X claim runtime consumedAt (generated.take durableIdRetryLimit)

def cancelManagedMcpLaunchLease (now : UtcTimestamp) :
    StoreResult (ManagedMcpLaunchLeaseRecord × LeaseTables) := do
  validateText "launch_lease_id" launchLeaseId 192
  let t' := (t.cleanupAt X now).endLease launchLeaseId .cancelled
  let record ← okOr leaseNotFound (← t'.leaseFromConn X launchLeaseId)
  return (record, t')

end LeaseTables
end Volicord
