import Volicord.Store.RepositoryObservations
import Volicord.Store.System

/-! Every path of a completed observation is accounted for: an expected write matched it, or the
one unrecorded change of the observation lists it. -/
namespace Volicord
open Result Relational Sorted Table

namespace ObservationTables
variable {D : ObservationDigests} {t t' : ObservationTables} {id : String}

def matchedPathsOf (t : ObservationTables) (id : String) : List ProductRelativePath :=
  ((t.expectedWrites.find? id).bind (·.matchedPaths)).getD []

def changedPathsOf (t : ObservationTables) (id : String) : List (List ProductRelativePath) :=
  (t.unrecordedChanges.rows.filter (·.repositoryObservationId = id)).map (·.observedPaths)

end ObservationTables

/-- The paths are the disjoint union of the matched ones and of those of at most one change. -/
structure PathsAccounted (paths matched : List ProductRelativePath)
    (changes : List (List ProductRelativePath)) : Prop where
  single : changes.length ≤ 1
  covers : ∀ path, path ∈ paths ↔ path ∈ matched ∨ ∃ change ∈ changes, path ∈ change
  disjoint : ∀ path ∈ matched, ∀ change ∈ changes, path ∉ change
  unneeded : changes = [] ↔ ∀ path ∈ paths, path ∈ matched

theorem PathsAccounted.of_split {paths matched : List ProductRelativePath}
    (hmatched : ∀ path ∈ matched, path ∈ paths) :
    PathsAccounted paths matched
      (if ((sortDedup paths).filter fun path => !matched.contains path).isEmpty then []
        else [(sortDedup paths).filter fun path => !matched.contains path]) := by
  have hmem : ∀ path, path ∈ (sortDedup paths).filter (fun path => !matched.contains path) ↔
      path ∈ paths ∧ path ∉ matched := by
    intro path
    simp [mem_sortDedup]
  split
  · rename_i hempty
    have hall : ∀ path ∈ paths, path ∈ matched := by
      intro path hpath
      by_contra hout
      have hin := (hmem path).mpr ⟨hpath, hout⟩
      rw [List.isEmpty_iff.mp hempty] at hin
      cases hin
    exact ⟨by simp, fun path => ⟨fun h => .inl (hall path h), by simpa using hmatched path⟩,
      by simp,
      by simpa using hall⟩
  · rename_i hsome
    refine ⟨by simp, fun path => ?_, fun path hpath change hchange hin => ?_, ?_⟩
    · simp only [List.mem_singleton, exists_eq_left, hmem]
      constructor
      · intro hpath
        by_cases hin : path ∈ matched
        · exact .inl hin
        · exact .inr ⟨hpath, hin⟩
      · rintro (hin | hin)
        · exact hmatched path hin
        · exact hin.1
    · rw [List.mem_singleton.mp hchange, hmem] at hin
      exact hin.2 hpath
    · constructor
      · intro hnil
        cases hnil
      · intro hall
        refine absurd (List.isEmpty_iff.mpr
          (List.eq_nil_iff_forall_not_mem.mpr fun path hin => ?_)) hsome
        obtain ⟨hpath, hout⟩ := (hmem path).mp hin
        exact hout (hall path hpath)

namespace ObservationTables
variable {D : ObservationDigests} {t t' : ObservationTables} {id : String}

def Accounted (t : ObservationTables) (id : String) : Prop :=
  match t.observations.find? id with
  | none => t.expectedWrites.find? id = none ∧ t.changedPathsOf id = []
  | some row =>
    if row.state = .complete then
      ∃ delta, row.delta = some delta ∧
        PathsAccounted delta.paths (t.matchedPathsOf id) (t.changedPathsOf id)
    else (∀ write, t.expectedWrites.find? id = some write → write.matchedPaths = none) ∧
      t.changedPathsOf id = []

structure SameAt (t t' : ObservationTables) (id : String) : Prop where
  observation : t'.observations.find? id = t.observations.find? id
  write : t'.expectedWrites.find? id = t.expectedWrites.find? id
  changes : t'.changedPathsOf id = t.changedPathsOf id

theorem Accounted.same (h : t.Accounted id) (hsame : t.SameAt t' id) : t'.Accounted id := by
  unfold Accounted matchedPathsOf at h ⊢
  rwa [hsame.observation, hsame.write, hsame.changes]

theorem changedPathsOf_insert (t' : ObservationTables) {row : ObservedUnrecordedChange}
    (h : t.unrecordedChanges.insert? row = some t'.unrecordedChanges) (id : String) :
    t'.changedPathsOf id = t.changedPathsOf id
      ++ if row.repositoryObservationId = id then [row.observedPaths] else [] := by
  unfold changedPathsOf
  rw [(insert?_eq_some h).2, List.filter_append, List.map_append]
  congr 1
  by_cases hid : row.repositoryObservationId = id <;> simp [hid]

variable {expected : Option ExpectedWriteRecord} {delta : RepositoryDelta}

theorem coveredPaths_subset {deltaPaths : List ProductRelativePath} : ∀ path ∈ coveredPaths expected
    deltaPaths, path ∈ deltaPaths := by
  intro path hpath
  cases expected with
  | none => cases hpath
  | some expected =>
    rw [coveredPaths, mem_sortDedup, List.mem_filter] at hpath
    simpa using hpath.2

theorem expectedWriteForObservation_eq_ok (h : t.expectedWriteForObservation id = .ok expected) :
    t.expectedWrites.find? id = expected := by
  unfold expectedWriteForObservation at h
  cases hfound : t.expectedWrites.find? id with
  | none =>
    rw [hfound] at h
    exact Except.ok.inj h
  | some row =>
    simp only [hfound] at h
    split at h
    · exact Except.ok.inj h
    · cases h

theorem matchCovered_ok {covered : List ProductRelativePath}
    {matched : List (String × List ProductRelativePath)}
    (hfound : t.expectedWrites.find? id = expected)
    (hfree : ∀ write, t.expectedWrites.find? id = some write → write.matchedPaths = none)
    (hnone : expected = none → covered = [])
    (h : t.matchCovered id expected covered = .ok (matched, t')) : t'.observations = t.observations
    ∧ t'.unrecordedChanges = t.unrecordedChanges ∧ t'.matchedPathsOf id = covered ∧ ∀ other, other ≠
    id → t'.expectedWrites.find? other = t.expectedWrites.find? other := by
  cases expected with
  | none =>
    obtain ⟨_, rfl⟩ := Prod.mk.inj (Except.ok.inj h)
    exact ⟨rfl, rfl, by rw [matchedPathsOf, hfound, hnone rfl]; rfl, fun _ _ => rfl⟩
  | some expected =>
    simp only [matchCovered] at h
    split at h
    · rename_i hempty
      obtain ⟨_, rfl⟩ := Prod.mk.inj (Except.ok.inj h)
      refine ⟨rfl, rfl, ?_, fun _ _ => rfl⟩
      rw [matchedPathsOf, hfound, Option.bind_some, hfree expected hfound,
        List.isEmpty_iff.mp hempty]
      rfl
    · simp only [map_eq_ok, steps_ok, matchExpectedWrite, Prod.mk.injEq] at h
      obtain ⟨_, ⟨_, rfl⟩, _, rfl⟩ := h
      refine ⟨rfl, rfl, ?_, fun other hother => ?_⟩
      · simp only [matchedPathsOf, find?_update, if_true, hfound, Option.map_some,
          Option.bind_some, matchPaths, Option.getD_some]
      · simp only [find?_update, if_neg hother]

theorem recordUnmatched_ok {linkedTask : Option String}
    {unmatched : List ProductRelativePath} {changes : List (String × List ProductRelativePath)}
    (h : t.recordUnmatched D id linkedTask delta unmatched = .ok (changes, t')) :
    t'.observations = t.observations ∧ t'.expectedWrites = t.expectedWrites ∧
      t'.changedPathsOf id = t.changedPathsOf id ++
        (if unmatched.isEmpty then [] else [unmatched]) ∧
      ∀ other, other ≠ id → t'.changedPathsOf other = t.changedPathsOf other := by
  unfold recordUnmatched at h
  split at h
  · rename_i hempty
    obtain ⟨_, rfl⟩ := Prod.mk.inj (Except.ok.inj h)
    exact ⟨rfl, rfl, by rw [if_pos hempty, List.append_nil], fun _ _ => rfl⟩
  · rename_i hsome
    simp only [map_eq_ok, steps_ok, insertUnrecordedChange, Prod.exists, Prod.mk.injEq] at h
    obtain ⟨row, _, ⟨table, hinsert, rfl, rfl⟩, _, rfl⟩ := h
    refine ⟨rfl, rfl, ?_, fun other hother => ?_⟩
    · rw [changedPathsOf_insert { t with unrecordedChanges := table } hinsert, if_pos rfl,
        if_neg hsome]
    · rw [changedPathsOf_insert { t with unrecordedChanges := table } hinsert,
        if_neg (Ne.symm hother), List.append_nil]

theorem terminalResult_complete {taskId : Option String} {result : RepositoryObservationResult}
    (h : t.terminalResult D id (.complete delta) taskId = .ok (result, t'))
    (hfree : ∀ write, t.expectedWrites.find? id = some write → write.matchedPaths = none)
    (hnone : t.changedPathsOf id = []) :
    t'.observations = t.observations ∧ (∀ other, other ≠ id → t.SameAt t' other) ∧
      PathsAccounted delta.paths (t'.matchedPathsOf id) (t'.changedPathsOf id) := by
  simp only [terminalResult, steps_ok, Prod.exists, Prod.mk.injEq] at h
  obtain ⟨expected, hread, matched, t₁, hmatch, changes, t₂, hchange, _, rfl⟩ := h
  have hfound := expectedWriteForObservation_eq_ok hread
  obtain ⟨hobs₁, hchanges₁, hmatched₁, hothers₁⟩ := matchCovered_ok hfound hfree
    (fun hexpected => by rw [hexpected]; rfl) hmatch
  obtain ⟨hobs₂, hwrites₂, hchanged₂, hothers₂⟩ := recordUnmatched_ok hchange
  have hkept : ∀ other, t₁.changedPathsOf other = t.changedPathsOf other := by
    intro other
    rw [changedPathsOf, hchanges₁]
    rfl
  refine ⟨hobs₂.trans hobs₁, fun other hother => ⟨by rw [hobs₂, hobs₁], ?_, ?_⟩, ?_⟩
  · rw [hwrites₂, hothers₁ other hother]
  · rw [hothers₂ other hother, hkept]
  · have hmatched₂ : t₂.matchedPathsOf id = t₁.matchedPathsOf id := by
      rw [matchedPathsOf, hwrites₂]
      rfl
    rw [hmatched₂, hmatched₁, hchanged₂, hkept, hnone, List.nil_append]
    exact PathsAccounted.of_split fun path hpath =>
      mem_sortDedup.mp (coveredPaths_subset path hpath)

theorem Accounted.absent (h : t.Accounted id) (hfound : t.observations.find? id = none) :
    t.expectedWrites.find? id = none ∧ t.changedPathsOf id = [] := by
  rwa [Accounted, hfound] at h

theorem Accounted.incomplete (h : t.Accounted id) {row : RepositoryObservationRecord}
    (hfound : t.observations.find? id = some row) (hstate : row.state ≠ .complete) :
    (∀ write, t.expectedWrites.find? id = some write → write.matchedPaths = none) ∧
      t.changedPathsOf id = [] := by
  simp only [Accounted, hfound, if_neg hstate] at h
  exact h

variable (row : RepositoryObservationRecord)

theorem accounted_incomplete (hfound : t.observations.find? id = some row)
    (hstate : row.state ≠ .complete)
    (hfree : ∀ write, t.expectedWrites.find? id = some write → write.matchedPaths = none)
    (hnone : t.changedPathsOf id = []) : t.Accounted id := by
  rw [Accounted, hfound]
  exact (if_neg hstate).mpr ⟨hfree, hnone⟩

/-- A new observation, with or without an expected write, has nothing to account for. -/
theorem accounted_insert (t' : ObservationTables) (hall : ∀ id, t.Accounted id)
    (hobs : t.observations.insert? row = some t'.observations) (hstate : row.state ≠ .complete)
    (hchanges : t'.unrecordedChanges = t.unrecordedChanges)
    (hothers : ∀ other, other ≠ row.repositoryObservationId →
      t'.expectedWrites.find? other = t.expectedWrites.find? other)
    (hfree : ∀ write, t'.expectedWrites.find? row.repositoryObservationId = some write →
      write.matchedPaths = none) (id : String) : t'.Accounted id := by
  have hkept : ∀ other, t'.changedPathsOf other = t.changedPathsOf other := by
    intro other
    rw [changedPathsOf, hchanges]
    rfl
  have hfind := find?_insert? hobs
  by_cases hid : id = row.repositoryObservationId
  · subst hid
    have habsent := (hall row.repositoryObservationId).absent (insert?_eq_some hobs).1
    refine accounted_incomplete row ?_ hstate hfree ?_
    · rw [hfind, if_pos rfl]
    · rw [hkept]
      exact habsent.2
  · refine (hall id).same ⟨?_, hothers id hid, hkept id⟩
    rw [hfind, if_neg (Ne.symm hid)]

theorem recordPreTool_accounted {input : PreToolInsert} (hall : ∀ id, t.Accounted id)
    (h : t.recordPreTool input = .ok t') (id : String) : t'.Accounted id := by
  simp only [recordPreTool, bind_eq_ok] at h
  obtain ⟨_, _, h⟩ := h
  cases hfound : t.observations.find? input.repositoryObservationId with
  | some existing =>
    simp only [hfound, steps_ok] at h
    obtain ⟨_, rfl⟩ := h
    exact hall id
  | none =>
    simp only [hfound, bind_eq_ok, okOr_eq_ok] at h
    obtain ⟨observations, hinsert, h⟩ := h
    have hunmatched := (hall input.repositoryObservationId).absent hfound
    have hstate : (if input.unavailableReason.isSome
      = true then RepositoryObservationState.unavailable
        else .opened) ≠ .complete := by
      split <;> simp
    cases hwrite : input.expectedWrite with
    | none =>
      rw [hwrite] at h
      obtain rfl := Except.ok.inj h
      refine accounted_insert _ { t with observations := observations } hall hinsert hstate rfl
        (fun _ _ => rfl) (fun write hread => ?_) id
      exact absurd (hunmatched.1.symm.trans hread) (by simp)
    | some write =>
      simp only [hwrite, insertExpectedWrite, steps_ok] at h
      obtain ⟨_, writes, hwrites, rfl⟩ := h
      have hfind := find?_insert? hwrites
      refine accounted_insert _ ⟨observations, writes, t.unrecordedChanges⟩ hall hinsert hstate rfl
        (fun other hother => ?_) (fun row hread => ?_) id
      · exact (hfind other).trans (if_neg (Ne.symm hother))
      · have hnew := (hfind input.repositoryObservationId).trans (if_pos rfl)
        obtain rfl := Option.some.inj (hnew.symm.trans hread)
        rfl

theorem recordPostTool_accounted {input : PostToolInsert}
    {result : Option RepositoryObservationResult} (hall : ∀ id, t.Accounted id)
    (h : t.recordPostTool D input = .ok (result, t')) (id : String) : t'.Accounted id := by
  obtain ⟨target, guardEventId, outcome, taskId, admitted, replayMatches⟩ := input
  simp only [recordPostTool, bind_eq_ok] at h
  obtain ⟨_, _, h⟩ := h
  cases hfound : t.observations.find? target with
  | some existing =>
    simp only [hfound] at h
    split at h
    · simp only [steps_ok, Prod.mk.injEq] at h
      obtain ⟨_, _, rfl⟩ := h
      exact hall id
    · simp only [steps_ok, Prod.exists, Prod.mk.injEq] at h
      obtain ⟨hmay, _, t₁, hresult, _, rfl⟩ := h
      have hstate : existing.state ≠ .complete := by
        intro hcomplete
        simp [mayClose, hcomplete] at hmay
      obtain ⟨hfree, hnone⟩ := (hall target).incomplete hfound hstate
      have hclosed : ∀ t₂ : ObservationTables, t₂.observations = t.observations →
          (t₂.observations.update target (close guardEventId outcome) (close_id _ _)).find? target
          = some (close guardEventId outcome existing) := by
        intro t₂ hobs
        rw [hobs, find?_update, if_pos rfl, hfound]
        rfl
      cases outcome with
      | unavailable reason =>
        obtain ⟨_, rfl⟩ := Prod.mk.inj (Except.ok.inj hresult)
        by_cases hid : id = target
        · subst hid
          exact accounted_incomplete _ (hclosed t rfl) (by simp [close]) hfree hnone
        · refine (hall id).same ⟨?_, rfl, rfl⟩
          rw [find?_update, if_neg hid]
      | complete delta =>
        obtain ⟨hobs, hothers, haccounted⟩ := terminalResult_complete hresult hfree hnone
        by_cases hid : id = target
        · subst hid
          rw [Accounted, hclosed t₁ hobs]
          exact (if_pos rfl).mpr ⟨delta, rfl, haccounted⟩
        · have hsame := hothers id hid
          refine (hall id).same ⟨?_, hsame.write, hsame.changes⟩
          rw [find?_update, if_neg hid]
          exact hsame.observation
  | none =>
    simp only [hfound] at h
    split at h
    case h_1 =>
      simp only [steps_ok, Prod.exists, Prod.mk.injEq, terminalResult, Except.ok.injEq] at h
      obtain ⟨_, t₁, ⟨_, rfl⟩, observations, hinsert, _, rfl⟩ := h
      have hunmatched := (hall target).absent hfound
      refine accounted_insert _ { t with observations := observations } hall hinsert
        (fun hcomplete => by cases hcomplete) rfl (fun _ _ => rfl) (fun write hread => ?_) id
      exact absurd (hunmatched.1.symm.trans hread) (by simp)
    case h_2 => cases h

theorem terminalizeOpen_accounted {ids : List String} {reason : String}
    {admitted : StoreResult Unit}
    (hall : ∀ id, t.Accounted id) (h : t.terminalizeOpen ids reason admitted = .ok t')
      (id : String) :
    t'.Accounted id := by
  simp only [terminalizeOpen, steps_ok] at h
  obtain ⟨_, _, _, _, rfl⟩ := h
  have haccounted := hall id
  cases hfound : t.observations.find? id with
  | none =>
    refine haccounted.same ⟨?_, rfl, rfl⟩
    rw [find?_updateWhere, hfound]
    rfl
  | some row =>
    by_cases hselected : (ids.contains row.repositoryObservationId && row.state = .opened) = true
    · simp only [Bool.and_eq_true, decide_eq_true_eq] at hselected
      obtain ⟨hfree, hnone⟩ := haccounted.incomplete hfound (by simp [hselected.2])
      refine accounted_incomplete (terminalize reason row) ?_ (by simp [terminalize]) hfree hnone
      rw [find?_updateWhere, hfound, Option.map_some, if_pos (by simpa using hselected)]
    · refine haccounted.same ⟨?_, rfl, rfl⟩
      rw [find?_updateWhere, hfound, Option.map_some, if_neg hselected]

theorem resolveUnrecordedChange_accounted (hall : ∀ id, t.Accounted id) (changeId id : String) :
    (t.resolveUnrecordedChange changeId).Accounted id := by
  refine (hall id).same ⟨rfl, rfl, ?_⟩
  simp only [changedPathsOf, resolveUnrecordedChange, updateWhere, List.filter_map,
    List.map_map]
  have hkeeps : ∀ row : ObservedUnrecordedChange, ∀ c : Bool,
      (if c = true then resolve row else row).repositoryObservationId
        = row.repositoryObservationId ∧
      (if c = true then resolve row else row).observedPaths = row.observedPaths := by
    intro row c
    cases c <;> exact ⟨rfl, rfl⟩
  simp only [Function.comp_def, hkeeps]

end ObservationTables

theorem observationStep_accounted {D : ObservationDigests} {t : ObservationTables}
    (op : ObservationOp)
    (hall : ∀ id, t.Accounted id) : ∀ id, (observationStep D t op).2.Accounted id := by
  intro id
  cases op with
  | preTool input =>
    simp only [observationStep]
    split
    case h_1 t' h => exact ObservationTables.recordPreTool_accounted hall h id
    case h_2 => exact hall id
  | postTool input =>
    simp only [observationStep]
    split
    case h_1 result t' h => exact ObservationTables.recordPostTool_accounted hall h id
    case h_2 => exact hall id
  | terminalizeOpen ids reason admitted =>
    simp only [observationStep]
    split
    case h_1 t' h => exact ObservationTables.terminalizeOpen_accounted hall h id
    case h_2 => exact hall id
  | resolveChange changeId =>
    exact ObservationTables.resolveUnrecordedChange_accounted hall changeId id

def emptyObservations : ObservationTables := ⟨.empty, .empty, .empty⟩

theorem emptyObservations_accounted (id : String) : emptyObservations.Accounted id := ⟨rfl, rfl⟩

/-- Under exact answers of Git, a delta lists the differing paths in order, exchanging the
snapshots reverses it, and that of a snapshot with itself is empty; and in every run the paths of
a completed observation are split between its expected write and its one unrecorded change. -/
theorem repository_delta_accounted (X : External) (D : ObservationDigests) (git : GitAnswers)
    (entry : String → ProductRelativePath → Option TreeEntry) (hgit : git.Exact entry)
    (observer : RepositoryObserver) :
    (∀ before after delta, calculateDelta X git observer before after = .ok delta →
      ListsDifferences X git entry before after delta ∧
      calculateDelta X git observer after before = .ok delta.reversed) ∧
    (∀ snapshot, calculateDelta X git observer snapshot snapshot = .ok ⟨[]⟩) ∧
    ∀ ops id row, (Transition.run (observationStep D) emptyObservations ops).observations.find? id
        = some row → row.state = .complete →
      ∃ delta, row.delta = some delta ∧ PathsAccounted delta.paths
        ((Transition.run (observationStep D) emptyObservations ops).matchedPathsOf id)
        ((Transition.run (observationStep D) emptyObservations ops).changedPathsOf id) := by
  refine ⟨fun before after delta h => ⟨calculateDelta_lists hgit h, calculateDelta_reversed hgit h⟩,
    fun snapshot => ?_, fun ops id row hfound hcomplete => ?_⟩
  · simp [calculateDelta]
  · have hall : ∀ id, (Transition.run (observationStep D) emptyObservations ops).Accounted id :=
      Transition.run_invariant (I := fun t => ∀ id, t.Accounted id)
        (fun t op => observationStep_accounted op) emptyObservations ops emptyObservations_accounted
    have haccounted := hall id
    rw [ObservationTables.Accounted, hfound] at haccounted
    exact (if_pos hcomplete).mp haccounted

/- A repository with one file, which becomes executable between two trees. -/

def sampleBlob : String := String.ofList (List.replicate 40 'a')

def sampleEntry (tree name : String) : Option TreeEntry :=
  if name = "a" then
    if tree = "before" then some ⟨"100644", "blob", sampleBlob⟩
    else if tree = "after" then some ⟨"100755", "blob", sampleBlob⟩ else none
  else none

def sampleCoordinate (tree : String) : RepositoryObservationCoordinate :=
  ⟨"repository", "layout", "worktree", none, some tree, "status"⟩

def sampleGit : GitAnswers where
  captureCoordinates := .ok (sampleCoordinate "after")
  diffTree before after := .ok
    (if sampleEntry before "a" = sampleEntry after "a" then [] else [some "a"])
  lsTreeNames tree := .ok (if sampleEntry tree "a" = none then [] else [some "a"])
  lsTree tree names := .ok (names.filterMap fun name => (sampleEntry tree name).map (⟨·,
    some name⟩))
  catFile _ := .ok none

theorem sampleEntry_leaf (tree name : String) :
    leafEntry (sampleEntry tree name) = sampleEntry tree name := by
  unfold sampleEntry
  split
  · split
    · rfl
    · split <;> rfl
  · rfl

theorem sampleEntry_other {tree name : String} (h : name ≠ "a") : sampleEntry tree name = none :=
  if_neg h

theorem sampleGit_exact : sampleGit.Exact fun tree path => sampleEntry tree path.text where
  lsTree := by
    intro tree paths records h
    obtain rfl := Except.ok.inj h
    constructor
    · intro record hrecord
      obtain ⟨name, hname, hvalue⟩ := List.mem_filterMap.mp hrecord
      obtain ⟨path, hpath, rfl⟩ := List.mem_map.mp hname
      obtain ⟨e, hentry, rfl⟩ := Option.map_eq_some_iff.mp hvalue
      exact ⟨path, hpath, rfl, hentry⟩
    · intro path hpath e hentry
      exact ⟨⟨e, some path.text⟩, List.mem_filterMap.mpr ⟨path.text, List.mem_map_of_mem hpath,
        Option.map_eq_some_iff.mpr ⟨e, hentry, rfl⟩⟩, rfl⟩
  diffTree := by
    intro before after names h path
    obtain rfl := Except.ok.inj h
    rw [sampleEntry_leaf, sampleEntry_leaf]
    by_cases hname : path.text = "a"
    · rw [hname]
      split <;> simp [*]
    · rw [sampleEntry_other hname, sampleEntry_other hname]
      split <;> simp [hname]
  lsTreeNames := by
    intro tree names h path
    obtain rfl := Except.ok.inj h
    rw [sampleEntry_leaf]
    by_cases hname : path.text = "a"
    · rw [hname]
      split <;> simp [*]
    · rw [sampleEntry_other hname]
      split <;> simp [hname]
  symmetric := by
    intro before after
    simp only [sampleGit, eq_comm]

def sampleObserver : RepositoryObserver := ⟨"/", ⟨10, 10, 10, 1000⟩, "contract"⟩

def sampleSnapshot (tree : String) : RepositoryObservationSnapshot :=
  ⟨"/", sampleCoordinate tree, ⟨[], .nil⟩, ⟨[], .nil⟩, ⟨[], .nil⟩, "contract", ⟨10, 10, 10, 1000⟩⟩

def samplePath : ProductRelativePath := ⟨"a", by decide +kernel⟩

def sampleFile (executable : Bool) : ProductPathState :=
  .regularFile (.gitTree ⟨sampleBlob⟩) executable

theorem repository_delta_accounted_sample :
    calculateDelta plainExternal sampleGit sampleObserver (sampleSnapshot "after")
      (sampleSnapshot "before") = .ok ⟨[⟨samplePath, sampleFile true, sampleFile false⟩]⟩ := by
  have hforth : calculateDelta plainExternal sampleGit sampleObserver (sampleSnapshot "before")
      (sampleSnapshot "after") = .ok ⟨[⟨samplePath, sampleFile false, sampleFile true⟩]⟩ := by
    decide +kernel
  exact ((repository_delta_accounted plainExternal ⟨fun _ => "", fun _ _ => ""⟩ sampleGit _
    sampleGit_exact sampleObserver).1 _ _ _ hforth).2

end Volicord
