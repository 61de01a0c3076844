import Volicord.Core.CloseReadiness

/-! `methods/close_task.rs`: the terminal transition of a Task. A call that meets a blocker
answers with the blockers and commits nothing; the continuity records of a completion are not
part of the tables. -/
namespace Volicord
open Result

structure CloseTaskRequest where
  envelope : ToolEnvelope
  taskId : String
  intent : CloseIntent
  closeReason : Option CloseReason
  (supersedingTaskId userNote : Option String)

namespace CloseTask

def actionKey : WorkflowActionKey := ⟨.closeTask, .closeTask⟩

variable (request : CloseTaskRequest)

def coordinatesMatch : WorkflowActionAuthorityCoordinates → Bool
  | .closeTask taskId => taskId = request.taskId
  | _ => false

def validateIntentFields : CoreResult Unit :=
  let reason (accepted : List CloseReason) (message : String) : CoreResult Unit :=
    ensure (request.closeReason.any (· ∈ accepted)) (.validation "close_reason" message)
  let superseding (condition : Bool) (message : String) : CoreResult Unit :=
    ensure condition (.validation "superseding_task_id" message)
  match request.intent with
  | .check => .error (.validation "intent" "volicord.close_task requires a terminal intent")
  | .complete => do
    reason [.completedSelfChecked, .completedWithRiskAccepted]
      "intent=complete requires a completion close_reason"
    superseding request.supersedingTaskId.isNone
      "intent=complete must not include superseding_task_id"
  | .cancel => do
    reason [.cancelled] "intent=cancel requires close_reason=cancelled"
    superseding request.supersedingTaskId.isNone
      "intent=cancel must not include superseding_task_id"
  | .supersede => do
    reason [.superseded] "intent=supersede requires close_reason=superseded"
    superseding request.supersedingTaskId.isSome "intent=supersede requires superseding_task_id"
    superseding (request.supersedingTaskId ≠ some request.taskId)
      "superseding_task_id must identify a different Task"

/-- The lifecycle phase, the result and the event of a terminal intent. -/
def terminalStorage (intent : CloseIntent) (mode : TaskMode) :
    TaskLifecyclePhase × TaskResult × String :=
  match intent with
  | .complete => (.completed, if mode = .advisor then .adviceOnly else .completed,
      "task_completed")
  | .cancel => (.cancelled, .cancelled, "task_cancelled")
  | .supersede => (.superseded, .superseded, "task_superseded")
  | .check => (.ready, .none, "task_close_checked")

def closeSummary (now : UtcTimestamp) : PersistedCloseSummary where
  closeReason := request.closeReason.getD .none
  closedAt := some now
  intent := some request.intent
  userNote := request.userNote
  supersedingTaskId := request.supersedingTaskId

/-- `plan_close_task_mutations`. -/
def mutations (context : PlanContext) (request : CloseTaskRequest)
    (facts : CloseReadinessFacts) : List CoreStorageMutation :=
  let terminal := terminalStorage request.intent facts.task.mode
  (facts.controlUpdate.map fun input => .task (.updateControlLevel input)).toList
  ++ [.writeTicket (.invalidateActive request.taskId .taskClosed),
    .task (.close ⟨request.taskId, terminal.1, terminal.2.1, closeSummary request context.now,
      context.now⟩)]
  ++ if request.intent = .supersede then
      request.supersedingTaskId.toList.map fun taskId => .task (.setActive taskId)
    else []

def readinessRequest : CloseReadinessRequest :=
  ⟨request.taskId, request.intent, request.supersedingTaskId⟩

def plan (X : External) (context : PlanContext) (t : CoreTables) (request : CloseTaskRequest)
    (admitted : AdmittedTransition) : CoreResult OperationPlan := do
  let facts ← acquireCloseReadinessFacts X context t request.taskId
  let blockers ← closeBlockers context t (readinessRequest request) facts
  ensure blockers.isEmpty (.blocked blockers)
  return {
    taskId := request.taskId, changeUnitId := facts.currentChangeUnitId
    eventKind := (terminalStorage request.intent facts.task.mode).2.2
    descriptor := some admitted.descriptor
    mutations := mutations context request facts }

/-- Everything an accepted `close_task` has read and checked. -/
structure Accepted (X : External) (context : PlanContext) (t : CoreTables)
    (request : CloseTaskRequest) where
  facts : CloseReadinessFacts
  acquired : acquireCloseReadinessFacts X context t request.taskId = .ok facts
  unblocked : closeBlockers context t (readinessRequest request) facts = .ok []

def Accepted.plan {X : External} {context : PlanContext} {t : CoreTables}
    {request : CloseTaskRequest} (accepted : Accepted X context t request)
    (admitted : AdmittedTransition) : OperationPlan where
  taskId := request.taskId
  changeUnitId := accepted.facts.currentChangeUnitId
  eventKind := (terminalStorage request.intent accepted.facts.task.mode).2.2
  descriptor := some admitted.descriptor
  mutations := mutations context request accepted.facts

theorem plan_ok {X : External} {context : PlanContext} {t : CoreTables}
    {request : CloseTaskRequest} {admitted : AdmittedTransition} {result : OperationPlan}
    (h : plan X context t request admitted = .ok result) :
    ∃ accepted : Accepted X context t request, result = accepted.plan admitted := by
  simp only [plan, steps_ok, List.isEmpty_iff] at h
  obtain ⟨facts, hfacts, _, hblockers, rfl, rfl⟩ := h
  exact ⟨⟨facts, hfacts, hblockers⟩, rfl⟩

end CloseTask
end Volicord
