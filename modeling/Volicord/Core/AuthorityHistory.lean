import Volicord.Core.PlanSpec
import Volicord.Lib.Evolution

/-! The history of shaping authority: checkpoints, their gaps and the answers of the user are
never lost, move one way only, and stand apart, and a checkpoint is succeeded once. -/
namespace Volicord
open Result Relational

/-- A checkpoint becomes ready and then superseded. A Task has one that is not superseded, and a
checkpoint one successor. -/
def checkpointLaw : Law ShapingCheckpointRow where
  moves a b := { b with
      scopeRevision := a.scopeRevision, baselineRef := a.baselineRef
      readiness := a.readiness } = a ∧
    (b.readiness = a.readiness ∨ a.readiness = .blocked ∨ b.readiness = .superseded)
  apart a b := (a.taskId = b.taskId → a.readiness = .superseded ∨ b.readiness = .superseded) ∧
    (b.predecessorShapingCheckpointId = none ∨
      a.predecessorShapingCheckpointId ≠ b.predecessorShapingCheckpointId)

/-- A gap is answered once, and applied once if accepted. A stale application is renewed in one
gap. -/
def gapLaw : Law ShapingGapRow where
  moves a b := { b with status := a.status } = a ∧ (b.status = a.status ∨ a.status = .current ∨
    a.status = .accepted ∧ b.status = .applied)
  apart a b := b.reauthorizesApplicationId = none ∨
    a.reauthorizesApplicationId ≠ b.reauthorizesApplicationId

def resolutionLaw : Law UserActionResolutionRecord where
  moves a b := b = a
  apart a b := a.userActionRequestId ≠ b.userActionRequestId

namespace CoreTables

/-- Between two states the tables that hold authority obey their laws. -/
structure Evolves (t t' : CoreTables) : Prop where
  checkpoints : t.shapingCheckpoints.Obeys checkpointLaw t'.shapingCheckpoints
  gaps : t.shapingGaps.Obeys gapLaw t'.shapingGaps
  resolutions : t.userActionResolutions.Obeys resolutionLaw t'.userActionResolutions

variable {X : External} {committedAt projectId taskId checkpointId : String}
  {t t₁ t' : CoreTables} {input : ShapingCheckpointInsert} {context : MutationContext}
  {owner : ShapingDecisionApplicationOwner} {basis : ShapingApplicationBasis}
  {applications : List ShapingGapApplication}

theorem Evolves.refl (t : CoreTables) : t.Evolves t := ⟨.refl _, .refl _, .refl _⟩

theorem Evolves.trans (h : t.Evolves t₁) (h' : t₁.Evolves t') : t.Evolves t' :=
  ⟨h.1.trans h'.1, h.2.trans h'.2, h.3.trans h'.3⟩

def predecessors (t : CoreTables) : List (Option String) :=
  t.shapingCheckpoints.rows.map (·.predecessorShapingCheckpointId)

/-- The tables evolve without a new checkpoint. -/
structure Keeps (t t' : CoreTables) : Prop extends t.Evolves t' where
  predecessors : t'.predecessors = t.predecessors

theorem Keeps.refl (t : CoreTables) : t.Keeps t := ⟨.refl t, rfl⟩

theorem Keeps.trans (h : t.Keeps t₁) (h' : t₁.Keeps t') : t.Keeps t' :=
  ⟨h.1.trans h'.1, h'.2.trans h.2⟩

theorem Keeps.foldlM {α : Type} {f : CoreTables → α → StoreResult CoreTables} {xs : List α}
    (hstep : ∀ s s' x, f s x = .ok s' → s.Keeps s') (h : xs.foldlM f t = .ok t') : t.Keeps t' :=
  foldlM_rel Keeps.refl (fun _ _ _ => Keeps.trans) (fun s s' x _ => hstep s s' x) h

theorem Keeps.of_applications (h : applicationFrame.Only t t') : t.Keeps t' := by
  rw [← h]
  exact { Keeps.refl t with }

theorem predecessors_updateWhere (rows : List ShapingCheckpointRow)
    (select : ShapingCheckpointRow → Bool) {f : ShapingCheckpointRow → ShapingCheckpointRow}
    (hkeep : ∀ row, (f row).predecessorShapingCheckpointId = row.predecessorShapingCheckpointId) :
    (rows.map fun row => if select row then f row else row).map (·.predecessorShapingCheckpointId)
      = rows.map (·.predecessorShapingCheckpointId) := by
  rw [List.map_map]
  refine List.map_congr_left fun row _ => ?_
  by_cases hselect : select row <;> simp [hselect, hkeep]

theorem supersedeCheckpoints_keeps {select : ShapingCheckpointRow → Bool}
    (h : t.supersedeCheckpoints select = .ok t') : t.Keeps t' := by
  simp only [supersedeCheckpoints, steps_ok] at h
  obtain ⟨_, rfl⟩ := h
  refine ⟨{ Evolves.refl t with checkpoints := ?_ }, predecessors_updateWhere _ _ fun _ => rfl⟩
  dsimp only
  exact .updateWhere fun _ _ _ => ⟨rfl, .inr (.inr rfl)⟩

theorem applySelectedGaps_keeps
    (h : applySelectedGaps X taskId checkpointId owner basis applications t = .ok t') :
    t.Keeps t' ∧ t'.shapingCheckpoints = t.shapingCheckpoints := by
  simp only [applySelectedGaps, steps_ok] at h
  obtain ⟨_, _, _, h⟩ := h
  refine foldlM_rel (R := fun s s' : CoreTables => s.Keeps s' ∧
      s'.shapingCheckpoints = s.shapingCheckpoints) (fun s => ⟨.refl s, rfl⟩)
    (fun _ _ _ h h' => ⟨h.1.trans h'.1, h'.2.trans h.2⟩) (fun s s' application _ hstep => ?_) h
  simp only [applySelectedGap, steps_ok] at hstep
  obtain ⟨_, _, _, _, gap, hgap, link, _, request, _, policy, _, haccepted, _, _, _, _, _, _, _,
    _, _, _, _, rfl⟩ := hstep
  refine ⟨{ Keeps.refl s with gaps := ?_ }, rfl⟩
  dsimp only
  refine .update fun row hrow => ⟨rfl, .inr (.inr ⟨?_, rfl⟩)⟩
  simp_all

theorem resolveShapingGap_keeps {requestId resolutionId : String} {disposition : ShapingGapStatus}
    (h : t.resolveShapingGap requestId resolutionId disposition = .ok t') : t.Keeps t' := by
  simp only [resolveShapingGap, steps_ok] at h
  obtain ⟨_, _, _, _, _, _, _, _, _, _, h⟩ := h
  split at h
  · obtain rfl := pure_eq_ok.mp h
    exact .refl t
  · simp only [steps_ok] at h
    obtain ⟨hgap, rfl⟩ := h
    refine ⟨{ Evolves.refl t with checkpoints := ?_, gaps := ?_ },
      predecessors_updateWhere _ _ fun _ => rfl⟩ <;> dsimp only
    · exact .updateWhere fun row _ hblocked => ⟨rfl, .inr (.inl (by simp_all))⟩
    · exact .update fun row hrow => ⟨rfl, .inr (.inl (by simpa [hrow] using hgap))⟩

theorem applyScopeAndRebase_keeps {scopeRevision : Nat} {baselineRef changeUnitId : Option String}
    (h : t.applyScopeAndRebaseCurrentShapingCheckpoint X committedAt taskId checkpointId
      scopeRevision baselineRef changeUnitId applications = .ok t') : t.Keeps t' := by
  simp only [applyScopeAndRebaseCurrentShapingCheckpoint, steps_ok] at h
  obtain ⟨_, _, _, _, _, _, _, hcurrent, _, _, t₁, hinvalidated, t₂, happlied, _, _, rfl⟩ := h
  obtain ⟨hkeeps, hkept⟩ := applySelectedGaps_keeps happlied
  have honly := invalidateApplicationRows_only hinvalidated
  refine (Keeps.of_applications honly).trans (hkeeps.trans
    ⟨{ Evolves.refl t₂ with checkpoints := ?_ }, predecessors_updateWhere _ _ fun row => ?_⟩)
  case refine_2 => cases row.readiness <;> rfl
  dsimp only
  refine .update fun row hrow => ⟨rfl, ?_⟩
  -- the checkpoint is still the one that was found not superseded
  rw [hkept, honly.eq (·.shapingCheckpoints) fun _ _ => rfl] at hrow
  simp only [requireExactCurrentCheckpoint, steps_ok, hrow] at hcurrent
  cases hreadiness : row.readiness <;> simp_all [ShapingCheckpointRow.rebased]

theorem replaceCurrent_ok {expected : String} {retiredRefs carryRefs : List StateRecordRef}
    {staleActions : List StaleShapingAuthorityAction} {predecessor : Option String}
    (hop : input.checkpointOperation = .replaceCurrent expected retiredRefs carryRefs staleActions)
    (h : applyCheckpointSuccession committedAt projectId input t = .ok (predecessor, t')) :
    predecessor = some expected ∧
    (t.shapingCheckpoints.rows.filter fun row => row.taskId = input.taskId
      && row.readiness ≠ .superseded).map (·.shapingCheckpointId) = [expected] ∧
    ∃ t₁, applicationFrame.Only t t₁ ∧
      t₁.supersedeCheckpoints (fun row => row.shapingCheckpointId = expected) = .ok t' := by
  simp only [applyCheckpointSuccession, hop, retireCheckpointUserActions, consumeStaleAuthority,
    steps_ok, Prod.mk.injEq, decide_eq_true_eq] at h
  obtain ⟨_, hcurrent, _, _, _, ⟨_, _, _, _, rfl⟩, t₂, ⟨_, _, _, _, _, hconsumed⟩, t₃, hsuperseded,
    rfl, rfl⟩ := h
  refine ⟨rfl, hcurrent, t₂, .trans ?_ (Frame.Only.foldlM (fun s s' row _ hstep => ?_) hconsumed),
    hsuperseded⟩
  · rfl
  · simp only [consumeStaleApplication, steps_ok] at hstep
    obtain ⟨_, _, _, _, _, _, _, rfl⟩ := hstep
    rfl

theorem createInitial_ok {predecessor : Option String}
    (hop : input.checkpointOperation = .createInitial)
    (h : applyCheckpointSuccession committedAt projectId input t = .ok (predecessor, t')) :
    predecessor = none ∧ t' = t ∧ (t.shapingCheckpoints.rows.filter fun row =>
      row.taskId = input.taskId && row.readiness ≠ .superseded) = [] := by
  simp only [applyCheckpointSuccession, hop, steps_ok, Prod.mk.injEq, Bool.and_eq_true,
    List.isEmpty_iff, List.map_eq_nil_iff] at h
  obtain ⟨_, ⟨hnone, _⟩, rfl, rfl⟩ := h
  exact ⟨rfl, rfl, hnone⟩

theorem applyCheckpointSuccession_keeps {predecessor : Option String}
    (h : applyCheckpointSuccession committedAt projectId input t = .ok (predecessor, t')) :
    t.Keeps t' := by
  cases hop : input.checkpointOperation with
  | createInitial =>
    obtain ⟨_, rfl, _⟩ := createInitial_ok hop h
    exact .refl t'
  | replaceCurrent expected retiredRefs carryRefs staleActions =>
    obtain ⟨_, _, t₁, honly, hsuperseded⟩ := replaceCurrent_ok hop h
    exact (Keeps.of_applications honly).trans (supersedeCheckpoints_keeps hsuperseded)

theorem insertShapingGap_keeps {gap : ShapingCheckpointGapInsert}
    (h : insertShapingGap input t gap = .ok t') : t.Keeps t' := by
  simp only [insertShapingGap, steps_ok, insertRow_ok] at h
  obtain ⟨_, _, _, _, _, _, _, gaps, ⟨hholds, hinsert⟩, h⟩ := h
  have hgaps : t.shapingGaps.Obeys gapLaw gaps := by
    refine .insert hinsert fun old hold => ?_
    simp only [gapConstraintsHold, Bool.and_eq_true] at hholds
    have hreauthorizes := hholds.2
    split at hreauthorizes
    · exact .inl ‹_›
    · simp_all [gapLaw]
  split at h
  · obtain rfl := pure_eq_ok.mp h
    exact { Keeps.refl t with gaps := hgaps }
  · simp only [steps_ok] at h
    obtain ⟨_, _, rfl⟩ := h
    exact { Keeps.refl t with gaps := hgaps }

/-- The new checkpoint stands between two states that keep what there is. -/
theorem recordShapingCheckpoint_inserts
    (h : t.recordShapingCheckpoint X committedAt projectId input = .ok t') :
    ∃ predecessor t₁ row checkpoints,
      applyCheckpointSuccession committedAt projectId input t = .ok (predecessor, t₁) ∧
      t₁.checkpointConstraintsHold row ∧ t₁.shapingCheckpoints.insert? row = some checkpoints ∧
      row.predecessorShapingCheckpointId = predecessor ∧
      Keeps { t₁ with shapingCheckpoints := checkpoints } t' := by
  obtain ⟨predecessor, t₁, row, checkpoints, t₂, hsuccession, ⟨hholds, hinsert⟩, hrow, hgaps,
    hlineage⟩ := recordShapingCheckpoint_ok h
  refine ⟨predecessor, t₁, row, checkpoints, hsuccession, hholds, hinsert, hrow,
    (Keeps.foldlM (fun _ _ _ => insertShapingGap_keeps) hgaps).trans ?_⟩
  rw [← hlineage]
  exact { Keeps.refl t₂ with }

theorem insert_evolves {row : ShapingCheckpointRow}
    {checkpoints : Table ShapingCheckpointRow.shapingCheckpointId}
    (hholds : t.checkpointConstraintsHold row)
    (hinsert : t.shapingCheckpoints.insert? row = some checkpoints) :
    t.Evolves { t with shapingCheckpoints := checkpoints } := by
  refine { Evolves.refl t with checkpoints := .insert hinsert fun old hold => ?_ }
  simp only [checkpointConstraintsHold, Bool.and_eq_true, List.all_eq_true] at hholds
  have hold := hholds.2 old hold
  simp only [checkpointLaw]
  grind [Option.isNone_iff_eq_none]

/-- Only `record` adds a checkpoint. -/
theorem mutation_keeps {mutation : CoreStorageMutation} {version : Nat}
    (h : mutation.apply X context version t = .ok t')
    (hrecord : ∀ input, mutation ≠ .shaping (.record input)) : t.Keeps t' := by
  have honly := CoreStorageMutation.apply_only h
  cases mutation with
  | shaping mutation =>
    cases mutation with
    | record input => exact absurd rfl (hrecord input)
    | resolveLinkedGap => exact resolveShapingGap_keeps h
    | applyScopeAndRebaseCurrent => exact applyScopeAndRebase_keeps h
    | applyAdvanceAndTransition =>
      simp only [CoreStorageMutation.apply, ShapingCheckpointMutation.apply,
        applyAdvanceShapingAndTransition, steps_ok] at h
      obtain ⟨_, _, _, _, _, _, t₁, happlied, _, _, rfl⟩ := h
      exact { (applySelectedGaps_keeps happlied).1 with }
    | applyAdvisorFinalization =>
      simp only [CoreStorageMutation.apply, ShapingCheckpointMutation.apply,
        applyAdvisorShapingFinalization, steps_ok] at h
      obtain ⟨_, _, _, _, _, t₁, happlied, _, _, _, rfl⟩ := h
      exact (applySelectedGaps_keeps happlied).1
    | supersedeCurrent =>
      obtain ⟨t₁, hinvalidated, hrest⟩ := bind_eq_ok.mp h
      exact (Keeps.of_applications (invalidateApplicationRows_only hinvalidated)).trans
        (supersedeCheckpoints_keeps hrest)
  | userAction =>
    rcases userActionMutation_ok h with hrequests | ⟨row, rows, rfl, hinsert, rfl⟩
    · rw [← hrequests]
      exact { Keeps.refl t with }
    · obtain ⟨_, _, hunresolved, _⟩ := insertUserActionResolution_ok h
      refine { Keeps.refl t with resolutions := .insert hinsert fun old hold => ?_ }
      simpa [resolutionLaw] using List.find?_eq_none.mp hunresolved old hold
  | _ =>
    rw [← honly]
    exact { Keeps.refl t with }

theorem mutation_evolves {mutation : CoreStorageMutation} {version : Nat}
    (h : mutation.apply X context version t = .ok t') : t.Evolves t' := by
  by_cases hrecord : ∃ input, mutation = .shaping (.record input)
  · obtain ⟨input, rfl⟩ := hrecord
    obtain ⟨_, t₁, row, checkpoints, hsuccession, hholds, hinsert, _, hkeeps⟩ :=
      recordShapingCheckpoint_inserts h
    exact (applyCheckpointSuccession_keeps hsuccession).1.trans
      ((insert_evolves hholds hinsert).trans hkeeps.1)
  · exact (mutation_keeps h fun input heq => hrecord ⟨input, heq⟩).1

/- Succession. -/

def IsSuperseded (t : CoreTables) (checkpointId : String) : Prop :=
  ∃ row, t.shapingCheckpoints.find? checkpointId = some row ∧ row.readiness = .superseded

/-- What a checkpoint has succeeded is superseded. -/
def Succeeded (t : CoreTables) : Prop := ∀ id, some id ∈ t.predecessors → t.IsSuperseded id

theorem IsSuperseded.evolve (h : t.IsSuperseded checkpointId) (hevolves : t.Evolves t') :
    t'.IsSuperseded checkpointId := by
  obtain ⟨row, hrow, hsuperseded⟩ := h
  obtain ⟨row', hrow', _, hreadiness⟩ := hevolves.checkpoints.moves checkpointId row hrow
  exact ⟨row', hrow', by simpa [hsuperseded] using hreadiness⟩

theorem Succeeded.keep (h : t.Succeeded) (hkeeps : t.Keeps t') : t'.Succeeded := by
  intro id hid
  rw [hkeeps.predecessors] at hid
  exact (h id hid).evolve hkeeps.1

/-- The one live checkpoint of the Task. -/
theorem find?_of_current {expected : String}
    (hcurrent : (t.shapingCheckpoints.rows.filter fun row => row.taskId = input.taskId
      && row.readiness ≠ .superseded).map (·.shapingCheckpointId) = [expected]) :
    ∃ row, t.shapingCheckpoints.find? expected = some row ∧ row.readiness ≠ .superseded := by
  have hmem : expected ∈ (t.shapingCheckpoints.rows.filter fun row => row.taskId = input.taskId
      && row.readiness ≠ .superseded).map (·.shapingCheckpointId) := by
    rw [hcurrent]
    exact List.mem_singleton_self expected
  obtain ⟨row, hrow, rfl⟩ := List.mem_map.mp hmem
  rw [List.mem_filter, Bool.and_eq_true, decide_eq_true_eq, decide_eq_true_eq] at hrow
  exact ⟨row, Table.find?_of_mem hrow.1, hrow.2.2⟩

theorem replaced_superseded {predecessor : Option String} {id : String}
    (h : applyCheckpointSuccession committedAt projectId input t = .ok (predecessor, t'))
    (hid : predecessor = some id) : t'.IsSuperseded id := by
  cases hop : input.checkpointOperation with
  | createInitial =>
    obtain ⟨hnone, _⟩ := createInitial_ok hop h
    cases hnone.symm.trans hid
  | replaceCurrent expected retiredRefs carryRefs staleActions =>
    obtain ⟨hexpected, hcurrent, t₁, honly, hsuperseded⟩ := replaceCurrent_ok hop h
    obtain rfl : expected = id := Option.some.inj (hexpected.symm.trans hid)
    obtain ⟨row, hfind, _⟩ := find?_of_current hcurrent
    rw [← honly.eq (·.shapingCheckpoints) fun _ _ => rfl] at hfind
    simp only [supersedeCheckpoints, steps_ok] at hsuperseded
    obtain ⟨_, rfl⟩ := hsuperseded
    refine ⟨{ row with readiness := .superseded }, ?_, rfl⟩
    rw [Table.find?_updateWhere, hfind, Option.map_some,
      if_pos (decide_eq_true (Table.key_of_find? hfind))]

theorem mutation_succeeded {mutation : CoreStorageMutation} {version : Nat}
    (h : mutation.apply X context version t = .ok t') (hsucceeded : t.Succeeded) :
    t'.Succeeded := by
  by_cases hrecord : ∃ input, mutation = .shaping (.record input)
  · obtain ⟨input, rfl⟩ := hrecord
    obtain ⟨predecessor, t₁, row, checkpoints, hsuccession, hholds, hinsert, hrow, hkeeps⟩ :=
      recordShapingCheckpoint_inserts h
    have hevolves := insert_evolves hholds hinsert
    refine Succeeded.keep (fun id hid => ?_) hkeeps
    rw [predecessors, (Table.insert?_eq_some hinsert).2, List.map_append, List.mem_append] at hid
    cases hid with
    | inl hold =>
      exact (hsucceeded.keep (applyCheckpointSuccession_keeps hsuccession) id hold).evolve hevolves
    | inr hnew =>
      have hid : predecessor = some id := by rw [← hrow]; simpa [eq_comm] using hnew
      exact (replaced_superseded hsuccession hid).evolve hevolves
  · exact hsucceeded.keep (mutation_keeps h fun input heq => hrecord ⟨input, heq⟩)

/-- After the succession no checkpoint of the Task is live and none succeeds the predecessor. -/
theorem Succeeded.admits (h : t.Succeeded) {predecessor : Option String}
    (hsuccession : applyCheckpointSuccession committedAt projectId input t = .ok (predecessor, t'))
    {row : ShapingCheckpointRow} (hrow : row ∈ t'.shapingCheckpoints.rows) :
    (row.taskId = input.taskId → row.readiness = .superseded) ∧
      (predecessor = none ∨ row.predecessorShapingCheckpointId ≠ predecessor) := by
  cases hop : input.checkpointOperation with
  | createInitial =>
    obtain ⟨rfl, rfl, hnone⟩ := createInitial_ok hop hsuccession
    refine ⟨fun htask => ?_, .inl rfl⟩
    simpa [htask] using List.filter_eq_nil_iff.mp hnone row hrow
  | replaceCurrent expected retiredRefs carryRefs staleActions =>
    obtain ⟨rfl, hcurrent, t₁, honly, hsuperseded⟩ := replaceCurrent_ok hop hsuccession
    have hkeeps := applyCheckpointSuccession_keeps hsuccession
    obtain ⟨live, hlive, hnotSuperseded⟩ := find?_of_current hcurrent
    constructor
    · intro htask
      simp only [supersedeCheckpoints, steps_ok] at hsuperseded
      obtain ⟨_, rfl⟩ := hsuperseded
      obtain ⟨old, hold, rfl⟩ := List.mem_map.mp hrow
      by_cases hexpected : old.shapingCheckpointId = expected
      · rw [if_pos (decide_eq_true hexpected)]
      · rw [if_neg (by simpa using hexpected)] at htask ⊢
        rw [honly.eq (·.shapingCheckpoints) fun _ _ => rfl] at hold
        by_contra hother
        have hmem : old.shapingCheckpointId ∈ (t.shapingCheckpoints.rows.filter fun row =>
            row.taskId = input.taskId && row.readiness ≠ .superseded).map (·.shapingCheckpointId) :=
          List.mem_map_of_mem (List.mem_filter.mpr ⟨hold, by simp [htask, hother]⟩)
        rw [hcurrent] at hmem
        exact hexpected (List.mem_singleton.mp hmem)
    · refine .inr fun hpredecessor => ?_
      have hmem : some expected ∈ t.predecessors := by
        rw [← hkeeps.predecessors, ← hpredecessor]
        exact List.mem_map_of_mem hrow
      obtain ⟨old, hold, hsuperseded⟩ := h expected hmem
      rw [hlive] at hold
      exact hnotSuperseded (Option.some.inj hold ▸ hsuperseded)

end CoreTables

section runs
variable {X : External} {projectId : String} {ι : Type} [DecidableEq ι]

theorem coreEffect_evolves {t t' : CoreTables} {answer : CoreAnswer}
    (h : CoreEffect X projectId t answer t') : t.Evolves t' := by
  cases h with
  | method _ hcommit =>
    exact hcommit.rel CoreTables.Evolves.refl (fun _ _ _ => .trans)
      fun _ _ _ _ happly _ => CoreTables.mutation_evolves happly
  | policy happly =>
    rw [← (CoreTables.applyProjectWorkflowPolicyMutation_ok happly).1]
    exact { CoreTables.Evolves.refl t with }
  | environment change => cases change <;> exact { CoreTables.Evolves.refl t with }
  | idle => exact .refl t

theorem coreRun_evolves {s : CoreSystem ι} (h : s.Sound X projectId) (ops : List (CoreOp ι)) :
    s.tables.Evolves (Transition.run (coreStep X) s ops).tables :=
  (Transition.run_invariant
    (I := fun s' : CoreSystem ι => s'.Sound X projectId ∧ s.tables.Evolves s'.tables)
    (fun s op h => ⟨coreStep_sound s op h.1, h.2.trans (coreEffect_evolves (h.1.effect op))⟩)
    s ops ⟨h, .refl _⟩).2

/-- What a run has recorded of the user's authority is kept by every run that goes on from it. -/
theorem shaping_authority_evolves (X : External) (projectId createdAt : String)
    (handles : ι → StoreHandle) (before after : List (CoreOp ι)) :
    (Transition.run (coreStep X)
      (CoreSystem.initial projectId createdAt handles) before).tables.Evolves
      (Transition.run (coreStep X) (CoreSystem.initial projectId createdAt handles)
        (before ++ after)).tables := by
  rw [Transition.run_append]
  exact coreRun_evolves (Transition.run_invariant (I := fun s : CoreSystem ι => s.Sound X projectId)
    coreStep_sound _ before (CoreSystem.sound_initial X projectId createdAt handles)) after

theorem coreEffect_succeeded {t t' : CoreTables} {answer : CoreAnswer}
    (h : CoreEffect X projectId t answer t') (hsucceeded : t.Succeeded) : t'.Succeeded := by
  cases h with
  | method _ hcommit =>
    exact hcommit.rel (R := fun t t' => t.Succeeded → t'.Succeeded) (fun _ => id)
      (fun _ _ _ h h' => h' ∘ h) (fun _ _ _ _ happly _ => CoreTables.mutation_succeeded happly)
      hsucceeded
  | policy happly =>
    rw [← (CoreTables.applyProjectWorkflowPolicyMutation_ok happly).1]
    exact hsucceeded
  | environment change => cases change <;> exact hsucceeded
  | idle => exact hsucceeded

/-- The unique indexes of `shaping_checkpoints` never refuse the checkpoint a Task goes on with: at
any point of a commit on a state that a run reaches, a succession that is accepted leaves no live
checkpoint of the Task and no other successor of the one it replaces. -/
theorem checkpoint_succession_admitted (X : External) (projectId createdAt : String)
    (handles : ι → StoreHandle) (ops : List (CoreOp ι)) {context : MutationContext} {version : Nat}
    {earlier : List CoreStorageMutation} {t t' : CoreTables} {committedAt : String}
    {input : ShapingCheckpointInsert} {predecessor : Option String}
    (hearlier : earlier.foldlM (fun t mutation => mutation.apply X context version t)
      (Transition.run (coreStep X) (CoreSystem.initial projectId createdAt handles) ops).tables
        = .ok t)
    (hsuccession : CoreTables.applyCheckpointSuccession committedAt projectId input t
      = .ok (predecessor, t')) :
    ∀ row ∈ t'.shapingCheckpoints.rows,
      (row.taskId = input.taskId → row.readiness = .superseded) ∧
        (predecessor = none ∨ row.predecessorShapingCheckpointId ≠ predecessor) := by
  have hreached : (Transition.run (coreStep X) (CoreSystem.initial projectId createdAt handles)
      ops).tables.Succeeded :=
    coreRun_invariant (C := fun _ _ => True) (fun _ h => by cases h)
      (fun _ _ _ heffect _ => coreEffect_succeeded heffect) ops fun _ _ => trivial
  have hsucceeded : t.Succeeded :=
    foldlM_rel (R := fun t t' => t.Succeeded → t'.Succeeded) (fun _ => id)
      (fun _ _ _ h h' => h' ∘ h)
      (fun _ _ _ _ happly => CoreTables.mutation_succeeded happly) hearlier hreached
  exact fun row hrow => hsucceeded.admits hsuccession hrow

end runs

def readyCheckpoint (id : String) (operation : ShapingCheckpointOperation) :
    ShapingCheckpointInsert where
  shapingCheckpointId := id
  checkpointOperation := operation
  taskId := "a"
  scopeRevision := 0
  baselineRef := some "base"
  summary := "summary"
  implementationBoundary := some "boundary"
  readiness := .ready
  createdAt := 2
  retiredNonAuthorizingRequestIds := []
  carryForwardApplicationIds := []
  staleAuthorityDispositions := []
  gaps := []

/-- The second checkpoint of a Task replaces the first. -/
theorem checkpoint_succession_admitted_second :
    ∃ t t', [CoreStorageMutation.shaping (.record (readyCheckpoint "c" .createInitial))].foldlM
        (fun t mutation => mutation.apply sampleExternal ⟨"project", "xx"⟩ 2 t)
        (Transition.run (coreStep sampleExternal) sampleProject
          (agentCall (sampleIntake "a" 0 .work .rejectIfActive [] []) [])).tables = .ok t ∧
      CoreTables.applyCheckpointSuccession "xx" "project"
        (readyCheckpoint "d" (.replaceCurrent "c" [] [] [])) t = .ok (some "c", t') ∧
      ∀ row ∈ t'.shapingCheckpoints.rows, (row.taskId = "a" → row.readiness = .superseded) ∧
        (some "c" = none ∨ row.predecessorShapingCheckpointId ≠ some "c") := by
  have hok : (([CoreStorageMutation.shaping (.record (readyCheckpoint "c" .createInitial))].foldlM
      (fun t mutation => mutation.apply sampleExternal ⟨"project", "xx"⟩ 2 t)
      (Transition.run (coreStep sampleExternal) sampleProject
        (agentCall (sampleIntake "a" 0 .work .rejectIfActive [] []) [])).tables) >>= fun t =>
      (CoreTables.applyCheckpointSuccession "xx" "project"
        (readyCheckpoint "d" (.replaceCurrent "c" [] [] [])) t).map Prod.fst) = .ok (some "c") := by
    decide +kernel
  obtain ⟨t, ht, hmap⟩ := bind_eq_ok.mp hok
  obtain ⟨⟨predecessor, t'⟩, hsuccession, rfl⟩ := map_eq_ok.mp hmap
  refine ⟨t, t', ht, hsuccession, ?_⟩
  rw [sampleProject_eq] at ht
  exact checkpoint_succession_admitted sampleExternal "project" "x" _ _ ht hsuccession

end Volicord
