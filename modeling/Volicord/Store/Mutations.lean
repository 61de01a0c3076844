import Volicord.Store.CommitSpec
import Volicord.Store.Evidence
import Volicord.Store.ShapingReads
import Volicord.Store.WriteTickets

/-! `core_pipeline/mutations.rs`: the ordered storage mutations of one Core commit, and what
the commit itself reads of the aggregate tables. -/
namespace Volicord
open Result Relational Transaction

inductive ContinuityMutation where
  | resolveUnrecordedChange (unrecordedChangeId : String)

def ContinuityMutation.apply (t : CoreTables) : ContinuityMutation → StoreResult CoreTables
  | .resolveUnrecordedChange unrecordedChangeId => do
    ensure ((t.unrecordedChanges.find? unrecordedChangeId).any (!·.resolved))
      (.schemaInvariant projectStateDatabaseKind
        "unresolved unrecorded-change resolution changed no rows")
    return { t with
      unrecordedChanges := t.unrecordedChanges.update unrecordedChangeId
        ({ · with resolved := true }) }

inductive CoreStorageMutation where
  | task (mutation : TaskMutation)
  | changeUnit (mutation : ChangeUnitMutation)
  | writeTicket (mutation : WriteTicketMutation)
  | run (mutation : RunMutation)
  | shaping (mutation : ShapingCheckpointMutation)
  | userAction (mutation : UserActionMutation)
  | evidence (mutation : EvidenceMutation)
  | artifact (mutation : ArtifactMutation)
  | continuity (mutation : ContinuityMutation)
  | workflowPolicy (mutation : WorkflowPolicyMutation)

def CoreStorageMutation.apply (X : External) (context : MutationContext)
    (committedStateVersion : Nat) (t : CoreTables) : CoreStorageMutation → StoreResult CoreTables
  | .task mutation => mutation.apply X context t
  | .changeUnit mutation => mutation.apply committedStateVersion t
  | .writeTicket mutation => mutation.apply X context committedStateVersion t
  | .run mutation => mutation.apply t
  | .shaping mutation => mutation.apply X context t
  | .userAction mutation => mutation.apply t
  | .evidence mutation => mutation.apply committedStateVersion t
  | .artifact mutation => mutation.apply X context t
  | .continuity mutation => mutation.apply t
  | .workflowPolicy mutation => mutation.run X context t

/-- The mutations of one commit, in order; the first failure ends the transaction. -/
def applyMutations (X : External) (context : MutationContext) (committedStateVersion : Nat)
    (mutations : List CoreStorageMutation) (t : CoreTables) : StoreResult CoreTables :=
  mutations.foldlM (fun t mutation => mutation.apply X context committedStateVersion t) t

/-- The closure `commit_mutation` hands to `commit_with`. -/
def mutationClosure (X : External) (mutations : List CoreStorageMutation)
    (context : MutationContext) (facts : CommittedMutationFacts) :
      TxM CoreTables StoreError Unit := do
  let t ← get
  let t' ← liftExcept (applyMutations X context facts.committedStateVersion mutations t)
  set t'

variable {X : External} {t t' : CoreTables} {mutations : List CoreStorageMutation}

theorem mutationClosure_ok {context : MutationContext} {facts : CommittedMutationFacts} {u : Unit} :
    exec (mutationClosure X mutations context facts) t = (.ok u, t') ↔
    applyMutations X context facts.committedStateVersion mutations t = .ok t' := by
  unfold mutationClosure
  rw [exec_get_bind, exec_lift_bind_ok]
  constructor
  · rintro ⟨t₁, happly, hset⟩
    cases hset
    exact happly
  · intro happly
    exact ⟨t', happly, rfl⟩

variable {context : MutationContext} {version : Nat}

theorem applyMutations_nil : applyMutations X context version [] t = .ok t' ↔ t' = t := by
  constructor
  · intro h
    exact (Except.ok.inj h).symm
  · rintro rfl
    rfl

theorem applyMutations_cons {mutation : CoreStorageMutation} : applyMutations X context version
    (mutation :: mutations) t = .ok t' ↔ ∃ t₁, mutation.apply X context version t = .ok t₁ ∧
    applyMutations X context version mutations t₁ = .ok t' := by
  unfold applyMutations
  rw [List.foldlM_cons, bind_eq_ok]

theorem applyMutations_append {first second : List CoreStorageMutation}
    : applyMutations X context version (first ++ second) t = .ok t' ↔ ∃ t₁,
    applyMutations X context version first t = .ok t₁ ∧ applyMutations X context version second t₁ =
    .ok t' := by
  unfold applyMutations
  rw [List.foldlM_append, bind_eq_ok]

namespace CoreTables

def taskTransitionState (t : CoreTables) (taskId : String) : Option TaskTransitionState :=
  (t.taskRow taskId).map fun row => ⟨row.workPhase, row.lifecyclePhase, row.closeBasis.isSome⟩

def pendingUserActionExists (t : CoreTables) (taskId : String) : Bool :=
  t.userActionRequests.rows.any fun request =>
    request.taskId = taskId && request.basisStatus = .current
    && (t.resolutionOf request.userActionRequestId).isNone

def deferredForeignKeysHold (t : CoreTables) : Bool :=
  t.activeTaskId.all (fun taskId => (t.taskRow taskId).isSome)
  && (t.tasks.rows.all fun task => task.currentChangeUnitId.all fun changeUnitId =>
    (t.changeUnitRecord task.taskId changeUnitId).isSome)
  && (t.shapingCheckpoints.rows.all fun row => row.predecessorShapingCheckpointId.all fun id =>
    (t.shapingCheckpoints.find? id).any (·.taskId = row.taskId))
  && (t.writeTickets.rows.all fun ticket => ticket.consumedByRunId.all fun runId =>
    (t.runs.find? runId).isSome)
  && (t.evidenceObservations.rows.all fun row => row.runId.all fun runId =>
    (t.runs.find? runId).isSome)
  && t.runs.rows.all fun run => run.writeTicketId.all fun writeTicketId =>
    (t.writeTickets.find? writeTicketId).isSome

end CoreTables

def coreReaders : AggregateReaders CoreTables where
  taskTransitionState := CoreTables.taskTransitionState
  pendingUserActionExists := CoreTables.pendingUserActionExists
  taskExists t taskId := (t.taskRow taskId).isSome
  changeUnitExists t taskId changeUnitId := (t.changeUnitRecord taskId changeUnitId).isSome
  deferredForeignKeysHold := CoreTables.deferredForeignKeysHold

end Volicord
