import Volicord.Core.IssuedTickets
import Volicord.Core.RecordedRuns

/-! Containment of product writes. A Run that changed product files consumes its ticket in the
commit that records it, and its paths lie within everything the ticket was issued under. -/
namespace Volicord
open Result Relational CoreTables
variable {ι : Type} [DecidableEq ι]

/-- A recorded product write and the ticket it consumed, from the tables before its commit to
those after it. -/
structure ContainedWrite (X : External) (workspace : Option GitWorkspaceContext)
    (t t' : CoreTables) (row : RunRecord) (ticket : StoredWriteTicket) (task : TaskRecord)
    (unit : ChangeUnitRecord) : Prop where
  fresh : t.runs.find? row.runId = none
  recorded : row ∈ t'.runs.rows
  taskRow : t.taskRow row.taskId = some task
  currentUnit : t.currentChangeUnit row.taskId = .ok (some unit)
  named : row.writeTicketId = some ticket.writeTicketId
  stored : t.writeTicketRecord ticket.writeTicketId = some ticket
  active : ticket.status = .active
  consumed : ∃ at', t'.writeTicketRecord ticket.writeTicketId = some { ticket with
    status := .consumed, consumedByRunId := some row.runId, consumedAt := some at' }
  consumedOnly : ∀ other ∈ t'.writeTickets.rows, other.consumedByRunId = some row.runId →
    other.writeTicketId = ticket.writeTicketId
  allowed : ∀ path ∈ row.observedChanges.changedPaths,
    ∃ scope ∈ ticket.pathScope.allowed, pathIsWithin path scope.text
  notDenied : ∀ path ∈ row.observedChanges.changedPaths,
    ∀ scope ∈ ticket.pathScope.denied, pathIsWithin path scope.text = false
  bounded : ∀ path ∈ row.observedChanges.changedPaths,
    ∃ bound ∈ unit.boundedPaths, pathIsWithin path bound
  contract : ∀ contract, unit.effectContract = some contract →
    productWriteViolations contract true row.observedChanges.changedPaths = .ok []
  ticketTask : ticket.taskId = task.taskId ∧ ticket.validityBasis.taskId = task.taskId
  ticketUnit : ticket.changeUnitId = unit.changeUnitId ∧
    ticket.validityBasis.changeUnitId = unit.changeUnitId
  scopeRevision : ticket.validityBasis.scopeRevision = task.scopeRevision
  baseline : ticket.validityBasis.baselineRef = (StoredScope.fromTask task).baselineRef ∧
    ticket.validityBasis.baselineRef = unit.writeBasis.baselineRef
  workspace : ticket.validityBasis.workspaceContextSha256 = workspaceContextSha256 X workspace

theorem pathsAreAuthorized_iff {observed authorized : List String} :
    pathsAreAuthorized observed authorized ↔ observed ≠ [] ∧ authorized ≠ [] ∧
      ∀ path ∈ observed, ∃ scope ∈ authorized, pathIsWithin path scope := by
  simp [pathsAreAuthorized, and_assoc]

theorem ChangeUnitRecord.Permits.bound {unit : ChangeUnitRecord} {write : Bool}
    {paths : List String} (h : unit.Permits write paths) {path : String} (hpath : path ∈ paths) :
    ∃ bound ∈ unit.boundedPaths, pathIsWithin path bound := by
  have hbounded := h.bounded
  simp only [pathsMatchCurrentChangeUnit, Bool.or_eq_true, List.isEmpty_iff, Bool.and_eq_true,
    List.all_eq_true, List.any_eq_true] at hbounded
  exact (hbounded.resolve_left (List.ne_nil_of_mem hpath)).2 path hpath

namespace RunCommit
variable {X : External} {t t' : CoreTables} {answer : CoreAnswer} (run : RunCommit X t answer t')

theorem inserted :
    t.runs.find? run.accepted.row.runId = none ∧ run.accepted.row ∈ t'.runs.rows := by
  constructor
  · rw [← run.commit.snapshot.read (·.runs) fun _ _ => rfl]
    have hdrawn := run.accepted.runIdDrawn
    unfold RecordRun.runIdOf at hdrawn
    split at hdrawn
    · simp only [steps_ok, Option.isNone_iff_eq_none] at hdrawn
      obtain ⟨hnone, rfl⟩ := hdrawn
      exact hnone
    · simp only [steps_ok, requireFresh_eq_ok, exists_const,
        Option.isSome_eq_false_iff, Option.isNone_iff_eq_none] at hdrawn
      obtain ⟨hnone, hid⟩ := hdrawn
      rw [hid] at hnone
      exact hnone
  · have happlied := run.commit.applied
    obtain ⟨task, hsplit, _⟩ := run.accepted.plan_split run.admitted
    rw [run.planned, hsplit, List.append_assoc, List.cons_append] at happlied
    obtain ⟨t₁, hinsert, hrest⟩ := applyMutations_cons.mp happlied
    have hfirst : run.accepted.row ∈ t₁.runs.rows := by
      simp only [CoreStorageMutation.apply, RunMutation.apply, insertRun, steps_ok,
        insertRow_ok] at hinsert
      obtain ⟨_, _, _, _, _, _, _, _, _, _, rows, ⟨_, hinsert⟩, rfl⟩ := hinsert
      exact (Table.mem_insert? hinsert).mpr (.inr rfl)
    exact foldlM_rel (R := fun s s' : CoreTables => ∀ row ∈ s.runs.rows, row ∈ s'.runs.rows)
      (fun _ _ h => h) (fun _ _ _ h₁ h₂ row h => h₂ row (h₁ row h))
      (fun _ _ _ _ happly _ => CoreStorageMutation.runs_kept happly) hrest _ hfirst

/-- A product write under a ticket that grants no more than its Change Unit permits is
contained. -/
theorem contained (hscoped : t.TicketsScoped)
    (hwrite : run.accepted.row.observedChanges.productFileWriteObserved) :
    ∃ ticket, ContainedWrite X run.draft.context.invocation.gitWorkspaceContext t t'
      run.accepted.row ticket run.accepted.facts.task run.accepted.facts.changeUnit := by
  rcases run.ticket_cases with ⟨ticket, authorities, hticket, hnamed, hstored, hactive, _, hadmits⟩
      | ⟨_, _, hnone, _⟩
  case inr => rw [hwrite] at hnone; cases hnone
  have hattempt := hadmits.attempt
  obtain ⟨hfresh, hrecorded⟩ := run.inserted
  obtain ⟨hconsumed, honly⟩ := run.consumed hticket hstored
  obtain ⟨hcolumns, hallowed, _, unit, hunit, hid, hpermits⟩ :=
    hscoped ticket (Table.mem_of_find? hstored)
  -- the Change Unit the ticket was issued for is the current one
  have hcurrent := run.currentChangeUnit
  have hsameId : run.accepted.facts.changeUnit.changeUnitId
    = ticket.validityBasis.changeUnitId := by
    rw [hattempt.basisChangeUnit]
    have hfound := run.acquired.changeUnit
    simp only [changeUnitRecord, Option.filter_eq_some_iff] at hfound
    exact Table.key_of_find? hfound.1
  have hsame : unit = run.accepted.facts.changeUnit := by
    have hmem := (currentChangeUnit_mem hcurrent).1
    have hone : t.changeUnits.find? unit.changeUnitId = some unit := Table.find?_of_mem hunit
    have htwo : t.changeUnits.find? run.accepted.facts.changeUnit.changeUnitId
        = some run.accepted.facts.changeUnit := Table.find?_of_mem hmem
    rw [hid, ← hsameId, htwo] at hone
    exact (Option.some.inj hone).symm
  subst hsame
  have hpaths : ∀ path ∈ run.accepted.row.observedChanges.changedPaths,
      ∃ scope ∈ ticket.pathScope.allowed.map (·.text), pathIsWithin path scope := by
    have hauthorized := hattempt.pathsAllowed
    rw [show (RecordRun.writeAdmission run.draft.context run.accepted.request
      run.accepted.facts).observedChanges.productFileWriteObserved
        = true from hwrite] at hauthorized
    rw [Bool.not_true, Bool.false_or] at hauthorized
    exact (pathsAreAuthorized_iff.mp hauthorized).2.2
  rw [show ticket.attemptScope.productFileWriteIntended = true from
    hattempt.scopeWrite.trans hwrite, ← hallowed] at hpermits
  have hrun := hpermits.of_within hpaths
  have hbaseline := run.acquired.baseline
  simp only [baselineMatches, Bool.and_eq_true, decide_eq_true_eq] at hbaseline
  exact ⟨ticket, {
    fresh := hfresh
    recorded := hrecorded
    taskRow := run.taskRow
    currentUnit := hcurrent
    named := hnamed
    stored := hstored
    active := hactive
    consumed := ⟨_, hconsumed⟩
    consumedOnly := honly
    allowed := fun path hpath => by simpa using hpaths path hpath
    notDenied := fun path hpath scope hscope => by
      have hdenied := hattempt.pathsNotDenied
      simp only [List.any_eq_false, Bool.not_eq_true] at hdenied
      exact hdenied path hpath scope hscope
    bounded := fun path hpath => hrun.bound hpath
    contract := hrun.contract
    ticketTask := by
      have htask : run.accepted.facts.task.taskId = run.accepted.row.taskId :=
        Table.key_of_find? run.taskRow
      rw [htask, hcolumns.1]
      exact ⟨hattempt.basisTask, hattempt.basisTask⟩
    ticketUnit := by rw [hcolumns.2, hsameId]; exact ⟨rfl, rfl⟩
    scopeRevision := hattempt.basisScopeRevision
    baseline := by
      rw [hattempt.basisBaseline, hbaseline.1, hbaseline.2]
      exact ⟨rfl, rfl⟩
    workspace := hattempt.basisWorkspace }⟩

end RunCommit

/-- In every run, a recorded product write was contained in the ticket its commit consumed, and
through it in the Change Unit that was current. -/
theorem product_write_contained (X : External) (projectId createdAt : String)
    (handles : ι → StoreHandle) (ops : List (CoreOp ι)) (row : RunRecord)
    (hrow : row ∈ (Transition.run (coreStep X) (CoreSystem.initial projectId createdAt handles)
      ops).tables.runs.rows)
    (hwrite : row.observedChanges.productFileWriteObserved = true) :
    ∃ e ∈ Transition.trace (coreStep X) (CoreSystem.initial projectId createdAt handles) ops,
      ∃ draft response basis committed events ticket task unit,
        e.result = .commit draft (.ok (.committed response basis committed events)) ∧
        ContainedWrite X draft.context.invocation.gitWorkspaceContext e.before.tables
          e.after.tables row ticket task unit := by
  obtain ⟨e, he, run, rfl⟩ := coreRun_recorded ops hrow
  obtain ⟨ticket, hcontained⟩ := run.contained (coreTrace_ticketsScoped he) hwrite
  obtain ⟨response, basis, committed, events, hanswer⟩ := run.answered
  exact ⟨e, he, run.draft, response, basis, committed, events, ticket, _, _, hanswer, hcontained⟩

/-- A direct Task gets a Change Unit over `src`, a ticket for it, and a Run that uses it. -/
def recordedWrite : List (CoreOp Unit) :=
  agentCall (sampleIntake "a" 0 .direct .rejectIfActive [] []) []
  ++ agentCall (sampleScope "a" "u" 1 (some "base") .createCurrent ["src"]) []
  ++ agentCall (sampleWrite "a" "u" "t" 2 ["src"] []) []
  ++ agentCall (sampleRun "a" "u" "r" 3 (some "t") ⟨["src/x"], true, [], some "base"⟩ none) []

def recordedWriteRow : RunRecord :=
  ⟨"r", "a", some "u", 1, some "t", .direct, ⟨["src/x"], true, [], some "base"⟩,
    .agentConnection "agent"⟩

theorem product_write_contained_sample :
    ∃ e ∈ Transition.trace (coreStep sampleExternal) sampleProject recordedWrite,
      ∃ draft response basis committed events ticket task unit,
        e.result = .commit draft (.ok (.committed response basis committed events)) ∧
        ContainedWrite sampleExternal draft.context.invocation.gitWorkspaceContext
          e.before.tables e.after.tables recordedWriteRow ticket task unit :=
  product_write_contained sampleExternal "project" "x" (fun _ => ⟨some "home", some "home", none⟩)
    recordedWrite recordedWriteRow (by decide +kernel) rfl

end Volicord
