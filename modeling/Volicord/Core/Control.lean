import Volicord.Core.Pipeline

/-! `policy/workflow.rs` and `task_policy.rs`: the control level and the acceptance policy a
Task works under, and the lifecycle phase its user actions put it in. -/
namespace Volicord
open Result

structure CoreWorkflowPolicy where
  settings : WorkflowPolicySettings
  writeAuthorityFingerprint : String

namespace CoreWorkflowPolicy

def lightPathsAreAllowed (policy : CoreWorkflowPolicy) (intendedPaths : List String) : Bool :=
  policy.settings.light.enabled
  && intendedPaths.length ≤ policy.settings.light.maxIntendedPaths
  && intendedPaths.all fun path =>
    (policy.settings.light.allowedPathPatterns.any fun allowed => pathIsWithin path allowed.text)
    && !policy.settings.light.deniedPathPatterns.any fun denied => pathIsWithin path denied.text

def hasDeniedPath (policy : CoreWorkflowPolicy) (intendedPaths : List String) : Bool :=
  intendedPaths.any fun path =>
    policy.settings.light.deniedPathPatterns.any fun denied => pathIsWithin path denied.text

end CoreWorkflowPolicy

/-- `project_workflow_policy`; without a stored policy, the conservative settings. -/
def CoreTables.projectWorkflowPolicy (X : External) (t : CoreTables) :
    StoreResult CoreWorkflowPolicy := do
  let fingerprint ← t.currentWriteAuthorityFingerprint X
  return ⟨t.workflowPolicy.elim conservativeWorkflowSettings (·.policy.workflow), fingerprint⟩

def RequestedControlLevel.asStr : RequestedControlLevel → String
  | .auto => "auto"
  | .observe => "observe"
  | .light => "light"
  | .tracked => "tracked"
  | .sensitive => "sensitive"

def effectiveControlLevel (mode : TaskMode) (requested : RequestedControlLevel)
    (policy : CoreWorkflowPolicy) : TaskControlLevel × String :=
  if mode = .advisor then
    (.observe, "Advisor mode is observe-only and cannot authorize product writes.")
  else
    let settings := policy.settings
    let requestedLevel := requestedLevel settings mode requested
    let projectMinimum := match mode with
      | .advisor => .observe
      | .direct => settings.defaultDirectControl
      | .work => max settings.defaultWorkControl .tracked
    let selected := max requestedLevel projectMinimum
    let effective := if selected = .light && !settings.light.enabled then .tracked else selected
    (effective, if requestedLevel < effective then
        "Core raised requested control `" ++ requested.asStr ++ "` to `" ++ effective.asStr
          ++ "` for the selected mode and project workflow policy."
      else "Core selected effective control `" ++ effective.asStr
        ++ "` from the caller request and project workflow policy.")

def acceptancePolicyForControl (control : TaskControlLevel) (policy : CoreWorkflowPolicy) :
    AcceptancePolicy :=
  match control with
  | .observe => .notRequired
  | .light => policy.settings.light.finalAcceptance
  | .tracked | .sensitive => .required

structure ResolvedTaskControlAuthority where
  effectiveControlLevel : TaskControlLevel
  acceptancePolicy : AcceptancePolicy
  (controlLevelReason acceptancePolicyReason : String)
  (controlRaised acceptanceRaised policyReevaluationMarked pendingPolicyReevaluation : Bool)

/-- The strongest of the Task's own authority, the current policy and a pending mark. -/
def resolveTaskControlAuthority (task : TaskRecord) (policy : CoreWorkflowPolicy) :
    ResolvedTaskControlAuthority :=
  let current := task.effectiveControlLevel
  let currentAcceptance := task.acceptancePolicy
  let (policyControl, policyReason) :=
    effectiveControlLevel task.mode task.requestedControlLevel policy
  let mark := task.policyReevaluation
  let markedControl := mark.map (·.requiredEffectiveControlLevel)
  let markedAcceptance := mark.bind (·.requiredAcceptancePolicy)
  let policySelected := max current policyControl
  let effective := markedControl.elim policySelected (max policySelected ·)
  let controlAcceptance := acceptancePolicyForControl effective policy
  let acceptance := maxAcceptancePolicy (maxAcceptancePolicy currentAcceptance controlAcceptance)
    (markedAcceptance.getD currentAcceptance)
  let controlRaised : Bool := current < effective
  let acceptanceRaised : Bool := currentAcceptance.rank < acceptance.rank
  { effectiveControlLevel := effective
    acceptancePolicy := acceptance
    controlLevelReason :=
      if controlRaised then
        if markedControl.any (policySelected < ·) then
          "Core raised control to `" ++ effective.asStr
            ++ "` for a pending project-policy reevaluation."
        else policyReason
      else task.controlLevelReason
    acceptancePolicyReason :=
      if acceptanceRaised then
        if markedAcceptance.any fun marked =>
            (maxAcceptancePolicy currentAcceptance controlAcceptance).rank < marked.rank then
          "A pending project-policy reevaluation requires final acceptance for the current close basis."
        else "Effective control `" ++ effective.asStr
          ++ "` requires final acceptance for the current close basis."
      else task.acceptancePolicyReason
    controlRaised := controlRaised
    acceptanceRaised := acceptanceRaised
    policyReevaluationMarked := mark.isSome
    pendingPolicyReevaluation := (markedControl.any (current < ·))
      || markedAcceptance.any fun marked => currentAcceptance.rank < marked.rank }

inductive RequestedMode where
  | advisor | direct | work | auto

def resolveRequestedMode : RequestedMode → TaskMode
  | .advisor => .advisor
  | .direct => .direct
  | .work | .auto => .work

def initialWorkPhase : TaskMode → WorkPhase
  | .direct => .implementation
  | .advisor | .work => .shaping

def TaskLifecyclePhase.asStr : TaskLifecyclePhase → String
  | .shaping => "shaping"
  | .ready => "ready"
  | .executing => "executing"
  | .waitingUser => "waiting_user"
  | .blocked => "blocked"
  | .completed => "completed"
  | .cancelled => "cancelled"
  | .superseded => "superseded"

def lifecycleMutation (taskId : String) (phase : TaskLifecyclePhase) : CoreStorageMutation :=
  .task (.updateScope ⟨taskId, none, some phase, none, none, none, none, none⟩)

def userActionTransitionValid (source target : TaskLifecyclePhase) : Bool :=
  match source, target with
  | .shaping, .waitingUser | .ready, .waitingUser | .executing, .waitingUser
  | .blocked, .waitingUser | .waitingUser, .shaping | .waitingUser, .ready => true
  | _, _ => false

/-- `plan_user_action_lifecycle_transition`, with the mutation it leads to. -/
def planUserActionLifecycleTransition (task : TaskRecord) (target : TaskLifecyclePhase) :
    CoreResult (List CoreStorageMutation) :=
  if task.lifecyclePhase = target then .ok []
  else do
    ensure (userActionTransitionValid task.lifecyclePhase target) (.invariant
      ("typed UserAction lifecycle facts cannot transition Task `" ++ task.taskId ++ "` from `"
        ++ task.lifecyclePhase.asStr ++ "` to `" ++ target.asStr ++ "`"))
    return [lifecycleMutation task.taskId target]

/-- The one mutation a lifecycle plan has keeps the Task live and starts from a live phase. -/
theorem planUserActionLifecycleTransition_ok {task : TaskRecord} {target : TaskLifecyclePhase}
    {mutations : List CoreStorageMutation}
    (h : planUserActionLifecycleTransition task target = .ok mutations) :
    mutations = [] ∨ (mutations = [lifecycleMutation task.taskId target] ∧
      task.lifecyclePhase.terminal = false ∧ target.terminal = false) := by
  unfold planUserActionLifecycleTransition at h
  split at h
  case isTrue => exact .inl (Except.ok.inj h).symm
  case isFalse =>
    obtain ⟨_, hvalid, hrest⟩ := bind_eq_ok.mp h
    have hvalid := ensure_eq_ok.mp hvalid
    refine .inr ⟨(Except.ok.inj hrest).symm, ?_⟩
    unfold userActionTransitionValid at hvalid
    split at hvalid <;> simp_all [TaskLifecyclePhase.terminal]

end Volicord
