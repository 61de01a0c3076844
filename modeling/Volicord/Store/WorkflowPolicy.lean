import Volicord.Lib.Sorted
import Volicord.Store.Tasks

/-! `workflow_records.rs`: the workflow policy of a project, the fingerprint that binds write
authority to it, and what replacing the policy does to the active Task and to Write Tickets. -/
namespace Volicord
open Result Relational Sorted

def TaskControlLevel.asStr : TaskControlLevel → String
  | .observe => "observe"
  | .light => "light"
  | .tracked => "tracked"
  | .sensitive => "sensitive"

def AcceptancePolicy.asStr : AcceptancePolicy → String
  | .required => "required"
  | .notRequired => "not_required"
  | .policyDependent => "policy_dependent"

def ConnectionIntent.asStr : ConnectionIntent → String
  | .personal => "personal"
  | .shared => "shared"

variable (X : External)

def canonicalJsonSha256 (value : Json) : String :=
  "sha256:" ++ X.sha256Hex (X.json.canonicalJsonString value)

def textArray (texts : List String) : Json := .arr (texts.map .str)

def optionalNat : Option Nat → Json
  | none => .null
  | some n => .int n

def GuardCommand.toJson (command : GuardCommand) : Json :=
  .obj [("args", textArray command.args), ("command", .str command.command)]

variable (settings : WorkflowPolicySettings)

def WorkflowPolicySettings.toJson : Json :=
  .obj [("default_direct_control", .str settings.defaultDirectControl.asStr),
    ("default_work_control", .str settings.defaultWorkControl.asStr),
    ("light", .obj [
      ("allowed_path_patterns", textArray (settings.light.allowedPathPatterns.map (·.text))),
      ("denied_path_patterns", textArray (settings.light.deniedPathPatterns.map (·.text))),
      ("enabled", .bool settings.light.enabled),
      ("final_acceptance", .str settings.light.finalAcceptance.asStr),
      ("max_intended_paths", .int settings.light.maxIntendedPaths)]),
    ("write_ticket", .obj [
      ("idle_timeout_minutes", optionalNat settings.writeTicketIdleTimeoutMinutes)])]

namespace ProjectWorkflowPolicy

def toJson (policy : ProjectWorkflowPolicy) : Json :=
  .obj [("connection_id", .str policy.connectionId),
    ("connection_intent", .str policy.connectionIntent.asStr),
    ("guard_installation_id", .str policy.guardInstallationId),
    ("host", .str "codex"),
    ("host_hook", .obj [
      ("commands", .obj [("post_tool", policy.hostHook.commands.postTool.toJson),
        ("pre_tool", policy.hostHook.commands.preTool.toJson),
        ("prompt_capture", policy.hostHook.commands.promptCapture.toJson)]),
      ("enabled", .bool policy.hostHook.enabled)]),
    ("managed_by", .str "volicord"),
    ("mcp", .obj [("args", textArray policy.mcp.args), ("command", .str policy.mcp.command),
      ("env", .obj (policy.mcp.env.map fun (name, value) => (name, .str value)))]),
    ("repo_root", .str policy.repoRoot),
    ("schema", .str "volicord.workflow_policy"),
    ("selected_profile", .str "record"),
    ("storage_scope", .str "local_overlay"),
    ("workflow", policy.workflow.toJson)]

def fingerprint (X : External) (policy : ProjectWorkflowPolicy) : String :=
  canonicalJsonSha256 X policy.toJson

/-- `ProjectWorkflowPolicy::validate`; the error is the field. -/
def validate (policy : ProjectWorkflowPolicy) : Except String Unit := do
  ensure (!Text.isBlank policy.repoRoot) "repo_root"
  ensure (!Text.isBlank policy.connectionId) "connection_id"
  ensure (!Text.isBlank policy.guardInstallationId) "guard_installation_id"
  ensure (!Text.isBlank policy.mcp.command) "mcp.command"
  ensure policy.hostHook.enabled "host_hook.enabled"
  let commands := policy.hostHook.commands
  ensure ([commands.preTool, commands.postTool, commands.promptCapture].all fun command =>
    !Text.isBlank command.command) "host_hook.commands.command"
  ensure (policy.workflow.light.maxIntendedPaths ≠ 0) "workflow.light.max_intended_paths"
  ensure (policy.workflow.writeTicketIdleTimeoutMinutes ≠ some 0)
    "workflow.write_ticket.idle_timeout_minutes"

end ProjectWorkflowPolicy

/-- The settings write authority is bound to when no policy is configured. -/
def conservativeWorkflowSettings : WorkflowPolicySettings where
  defaultDirectControl := .tracked
  defaultWorkControl := .tracked
  light := ⟨false, 3, [], [], .policyDependent⟩
  writeTicketIdleTimeoutMinutes := none

/-- The digest of `ProjectWriteAuthorityFingerprintBasis`. -/
def writeAuthorityFingerprint : String :=
  canonicalJsonSha256 X (.obj [
    ("default_direct_control", .str settings.defaultDirectControl.asStr),
    ("default_work_control", .str settings.defaultWorkControl.asStr),
    ("light", .obj [
      ("allowed_path_patterns",
        textArray (sortDedup (settings.light.allowedPathPatterns.map (·.text)))),
      ("denied_path_patterns",
        textArray (sortDedup (settings.light.deniedPathPatterns.map (·.text)))),
      ("enabled", .bool settings.light.enabled),
      ("final_acceptance", .str settings.light.finalAcceptance.asStr),
      ("max_intended_paths", .int settings.light.maxIntendedPaths)]),
    ("schema", .str "volicord.write_authority"),
    ("write_ticket", .obj [
      ("idle_timeout_minutes", optionalNat settings.writeTicketIdleTimeoutMinutes)])])

def projectWriteAuthorityFingerprint (policy : Option ProjectWorkflowPolicy) : StoreResult String :=
  match policy with
  | none => .ok (writeAuthorityFingerprint X conservativeWorkflowSettings)
  | some policy => do
    policy.validate.mapError fun _ => StoreError.invalidInput
      "project workflow policy cannot produce a write-authority binding"
    return writeAuthorityFingerprint X policy.workflow

structure ProjectWorkflowPolicyMutation where
  policyVersion : Nat
  policy : ProjectWorkflowPolicy
  policyFingerprint : String
  expectedPriorFingerprint : Option String

inductive WorkflowPolicyMutation where
  | apply (input : ProjectWorkflowPolicyMutation)

def validateProjectWorkflowPolicyFields (policyVersion : Nat) (policy : ProjectWorkflowPolicy)
    (policyFingerprint : String) : StoreResult Unit := do
  ensure (policyVersion ≠ 0) (.invalidInput "policy_version must be greater than zero")
  policy.validate.mapError fun field => StoreError.invalidInput
    ("workflow policy field `" ++ field ++ "` is not valid")
  ensure (policy.fingerprint X = policyFingerprint)
    (.invalidInput "policy_fingerprint must match the typed workflow policy")

def u64Max : Nat := 2 ^ 64 - 1

def validatePolicyReplacementBasis (projectId : String)
    (existing : Option ProjectWorkflowPolicyRecord) (policyVersion : Nat)
    (expectedPriorFingerprint : Option String) : StoreResult Unit := do
  let conflict := StoreError.conflict "project_workflow_policy" projectId
  ensure (existing.map (·.policyFingerprint) = expectedPriorFingerprint)
    (conflict "authoritative policy fingerprint changed before apply")
  ensure (existing.all fun record => record.policyVersion < u64Max)
    (conflict "policy_version is exhausted")
  ensure (policyVersion = existing.elim 1 fun record => record.policyVersion + 1)
    (conflict "changed policy must use exactly the next policy_version")

/-- The level a Task asked for, with `auto` standing for its mode's default. -/
def requestedLevel (defaults : WorkflowPolicySettings) (mode : TaskMode) :
    RequestedControlLevel → TaskControlLevel
  | .auto => match mode with
    | .advisor => .observe
    | .direct => defaults.defaultDirectControl
    | .work => defaults.defaultWorkControl
  | .observe => .observe
  | .light => .light
  | .tracked => .tracked
  | .sensitive => .sensitive

def requiredControlForPolicy (policy : ProjectWorkflowPolicy) (mode : TaskMode)
    (requested : RequestedControlLevel) : TaskControlLevel :=
  if mode = .advisor then .observe
  else
    let minimum := match mode with
      | .advisor => .observe
      | .direct => policy.workflow.defaultDirectControl
      | .work => max policy.workflow.defaultWorkControl .tracked
    let required := max (requestedLevel policy.workflow mode requested) minimum
    if required = .light && !policy.workflow.light.enabled then .tracked else required

def requiredAcceptanceForPolicy (policy : ProjectWorkflowPolicy) :
    TaskControlLevel → AcceptancePolicy
  | .observe => .notRequired
  | .tracked | .sensitive => .required
  | .light => policy.workflow.light.finalAcceptance

def nextPolicyReevaluation (input : ProjectWorkflowPolicyMutation) (markedAt : UtcTimestamp)
    (task : TaskRecord) : TaskPolicyControlReevaluation :=
  let requiredLevel :=
    requiredControlForPolicy input.policy task.mode task.requestedControlLevel
  let combinedLevel := max requiredLevel
    ((task.policyReevaluation.map (·.requiredEffectiveControlLevel)).getD
      task.effectiveControlLevel)
  let combinedAcceptance := maxAcceptancePolicy
    (maxAcceptancePolicy (requiredAcceptanceForPolicy input.policy requiredLevel)
      (requiredAcceptanceForPolicy input.policy combinedLevel))
    ((task.policyReevaluation.bind (·.requiredAcceptancePolicy)).getD task.acceptancePolicy)
  { policyVersion := input.policyVersion, policyFingerprint := input.policyFingerprint
    requiredEffectiveControlLevel := combinedLevel
    requiredAcceptancePolicy := some combinedAcceptance, markedAt := markedAt }

def StoredWriteTicket.invalidated (reason : WriteTicketInvalidationReason)
    (row : StoredWriteTicket) : StoredWriteTicket :=
  { row with status := .invalidated, invalidationReason := some reason }

namespace CoreTables

/-- `merge_active_task_policy_reevaluation`, once write authority has changed: the active
Task is marked, whatever its lifecycle phase. -/
def mergeActiveTaskPolicyReevaluation (X : External) (committedAt : String)
    (input : ProjectWorkflowPolicyMutation) (t : CoreTables) :
    StoreResult (Option String × CoreTables) :=
  match t.activeTaskId.bind t.taskRow with
  | none => .ok (none, t)
  | some task => do
    let markedAt ← okOr (.schemaInvariant projectStateDatabaseKind
      "commit timestamp is not a valid RFC 3339 value") (X.chrono.parse committedAt)
    return (some task.taskId, { t with
      tasks := t.tasks.update task.taskId fun row => { row with
        policyReevaluation := some (nextPolicyReevaluation input markedAt row) } })

/-- An active ticket bound to another policy, or to the Task that has to be reevaluated. -/
def ticketIncompatible (fingerprint : String) (reevaluatedTaskId : Option String)
    (row : StoredWriteTicket) : Bool :=
  row.status = .active && (row.validityBasis.writeAuthorityFingerprint ≠ fingerprint
    || reevaluatedTaskId = some row.taskId)

def invalidateIncompatibleWriteTickets (fingerprint : String) (reevaluatedTaskId : Option String)
    (t : CoreTables) : CoreTables :=
  { t with
    writeTickets := t.writeTickets.updateWhere (ticketIncompatible fingerprint reevaluatedTaskId)
      (·.invalidated .explicitRevoke) }

def currentWriteAuthorityFingerprint (X : External) (t : CoreTables) : StoreResult String :=
  projectWriteAuthorityFingerprint X (t.workflowPolicy.map (·.policy))

def applyProjectWorkflowPolicyMutation (X : External) (context : MutationContext)
    (input : ProjectWorkflowPolicyMutation) (t : CoreTables) : StoreResult CoreTables := do
  validateProjectWorkflowPolicyFields X input.policyVersion input.policy input.policyFingerprint
  validatePolicyReplacementBasis context.projectId t.workflowPolicy input.policyVersion
    input.expectedPriorFingerprint
  let prior ← t.currentWriteAuthorityFingerprint X
  let resulting ← projectWriteAuthorityFingerprint X (some input.policy)
  ensure ((input.policyVersion : Int) ≤ i64Max)
    (.invalidInput "policy_version is outside the supported SQLite integer range")
  let t := { t with
    workflowPolicy := some
      { policyVersion := input.policyVersion, policy := input.policy
        policyFingerprint := input.policyFingerprint, appliedAt := context.committedAt
        createdAt := t.workflowPolicy.elim context.committedAt (·.createdAt) } }
  if prior = resulting then return t
  else
    let (reevaluatedTaskId, t) ← t.mergeActiveTaskPolicyReevaluation X context.committedAt input
    return t.invalidateIncompatibleWriteTickets resulting reevaluatedTaskId

end CoreTables

def WorkflowPolicyMutation.run (context : MutationContext) (t : CoreTables) :
    WorkflowPolicyMutation → StoreResult CoreTables
  | .apply input => t.applyProjectWorkflowPolicyMutation X context input

/- A policy to run with. -/

def sampleWorkflowPolicy (allowed : List ProductRelativePath) : ProjectWorkflowPolicy where
  connectionIntent := .personal
  repoRoot := "root"
  connectionId := "connection"
  guardInstallationId := "installation"
  mcp := ⟨"volicord", [], []⟩
  hostHook := ⟨true, ⟨⟨"pre", []⟩, ⟨"post", []⟩, ⟨"prompt", []⟩⟩⟩
  workflow :=
    { defaultDirectControl := .light, defaultWorkControl := .tracked
      light := ⟨true, 2, allowed, [], .notRequired⟩, writeTicketIdleTimeoutMinutes := some 30 }

end Volicord
