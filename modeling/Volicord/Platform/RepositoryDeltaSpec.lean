import Volicord.Platform.RepositoryDelta

/-! Where Git's answers are exact, a delta lists the paths whose states differ, in order, and the
delta of the exchanged snapshots is its reversal. -/
namespace Volicord
open Result Sorted
variable {before after : RepositoryObservationSnapshot} {path : ProductRelativePath}
  {observer : RepositoryObserver} {hashed hashed' : Nat} {candidates : List ProductRelativePath}
  {delta : RepositoryDelta} {tree : Option String}

theorem RegularFileContentEvidence.semanticallyEq_refl (e : RegularFileContentEvidence) :
    e.semanticallyEq e := by
  cases e <;> simp [RegularFileContentEvidence.semanticallyEq]

theorem RegularFileContentEvidence.semanticallyEq_comm (a b : RegularFileContentEvidence) :
    a.semanticallyEq b = b.semanticallyEq a := by
  cases a <;> cases b <;> exact decide_eq_decide.mpr eq_comm

namespace ProductPathState

theorem semanticallyEq_refl (s : ProductPathState) : s.semanticallyEq s := by
  cases s <;> simp [semanticallyEq, RegularFileContentEvidence.semanticallyEq_refl]

theorem semanticallyEq_comm (s t : ProductPathState) : s.semanticallyEq t = t.semanticallyEq s := by
  cases s <;> cases t <;> try rfl
  case regularFile.regularFile left leftExecutable right rightExecutable =>
    simp only [semanticallyEq, left.semanticallyEq_comm right,
      decide_eq_decide.mpr (eq_comm (a := leftExecutable))]
  case symbolicLink.symbolicLink => exact decide_eq_decide.mpr eq_comm
  case gitlink.gitlink => exact decide_eq_decide.mpr eq_comm

end ProductPathState

def leafEntry (entry : Option TreeEntry) : Option TreeEntry := entry.filter (·.objectKind ≠ "tree")

/-- Git's answers are those of one repository, whose trees hold `entry`. -/
structure GitAnswers.Exact (git : GitAnswers)
    (entry : String → ProductRelativePath → Option TreeEntry) : Prop where
  lsTree : ∀ tree (paths : List ProductRelativePath) records,
    git.lsTree tree (paths.map ProductRelativePath.text) = .ok records →
    (∀ record ∈ records, ∃ path ∈ paths, record.path = some path.text ∧
      entry tree path = some record.entry) ∧
    ∀ path ∈ paths, ∀ e, entry tree path = some e →
      ∃ record ∈ records, record.path = some path.text
  diffTree : ∀ before after names, git.diffTree before after = .ok names →
    ∀ path : ProductRelativePath,
    some path.text ∈ names ↔ leafEntry (entry before path) ≠ leafEntry (entry after path)
  lsTreeNames : ∀ tree names, git.lsTreeNames tree = .ok names →
    ∀ path : ProductRelativePath,
    some path.text ∈ names ↔ leafEntry (entry tree path) ≠ none
  /-- The names of a comparison do not depend on its direction. -/
  symmetric : ∀ before after, git.diffTree before after = git.diffTree after before

section States
variable (X : External) (git : GitAnswers) (entry : String → ProductRelativePath → Option TreeEntry)

/-- The state an entry stands for, if it is one of a path the observer supports. -/
def entryState (e : TreeEntry) : Option ProductPathState :=
  if e.mode = "100644" ∧ e.objectKind = "blob" then
    (GitObjectIdentity.parse e.objectOid).map fun oid => .regularFile (.gitTree oid) false
  else if e.mode = "100755" ∧ e.objectKind = "blob" then
    (GitObjectIdentity.parse e.objectOid).map fun oid => .regularFile (.gitTree oid) true
  else if e.mode = "120000" ∧ e.objectKind = "blob" then
    match GitObjectIdentity.parse e.objectOid, git.catFile e.objectOid with
    | some _, .ok (some target) => some (.symbolicLink (contentIdentity X target))
    | _, _ => none
  else if e.mode = "160000" ∧ e.objectKind = "commit" then
    (GitObjectIdentity.parse e.objectOid).map ProductPathState.gitlink
  else none

def linkSize (e : TreeEntry) : Nat :=
  if e.mode = "120000" ∧ e.objectKind = "blob" then
    match git.catFile e.objectOid with
    | .ok (some target) => target.utf8ByteSize
    | _ => 0
  else 0

/-- The state of a path in a tree; where the tree has no entry for it, it is absent. -/
def treeState (tree : Option String) (path : ProductRelativePath) : Option ProductPathState :=
  match tree.bind fun tree => leafEntry (entry tree path) with
  | none => some .absent
  | some e => entryState X git e

/-- The state of a path in a snapshot: the observed one, and outside of these the one in HEAD. -/
def snapshotState (snapshot : RepositoryObservationSnapshot) (path : ProductRelativePath) :
    Option ProductPathState :=
  (snapshot.observedStates.get path).or (treeState X git entry snapshot.coordinate.treeOid path)

end States

def sameState : Option ProductPathState → Option ProductPathState → Bool
  | some s, some t => s.semanticallyEq t
  | none, none => true
  | _, _ => false

theorem sameState_refl (s : Option ProductPathState) : sameState s s := by
  cases s with
  | none => rfl
  | some s => exact s.semanticallyEq_refl

section Observation
variable {X : External} {git : GitAnswers} {limits : ObserverLimits} {state : ProductPathState}

theorem parseGitName_eq_ok {nonUtf8 invalid : String} {name : Option String} :
    parseGitName nonUtf8 invalid name = .ok path ↔ name = some path.text := by
  simp only [parseGitName, bind_eq_ok, okOr_eq_ok, mapError_eq_ok]
  constructor
  · rintro ⟨text, rfl, hparse⟩
    rw [ProductRelativePath.text_of_parse hparse]
  · intro hname
    exact ⟨path.text, hname, ProductRelativePath.parse_text path⟩

theorem hashTreeLinkTarget_eq_ok {oid target : String} :
    hashTreeLinkTarget X git limits oid hashed = .ok (target, hashed') ↔
      ∃ text, (GitObjectIdentity.parse oid).isSome ∧ git.catFile oid = .ok (some text) ∧
        contentIdentity X text = target ∧ hashed + text.utf8ByteSize = hashed' ∧
        text.utf8ByteSize ≤ limits.maxFileBytes ∧
        hashed + text.utf8ByteSize ≤ limits.maxTotalHashedBytes := by
  simp only [hashTreeLinkTarget, steps_ok, decide_eq_true_eq, Prod.mk.injEq]
  constructor
  · rintro ⟨_, hoid, output, houtput, text, rfl, hsize, _, htotal, htarget, hhashed⟩
    exact ⟨text, by rw [hoid]; rfl, houtput, htarget, hhashed, hsize, htotal⟩
  · rintro ⟨text, hoid, houtput, htarget, hhashed, hsize, htotal⟩
    obtain ⟨identity, hidentity⟩ := Option.isSome_iff_exists.mp hoid
    have hremaining : text.utf8ByteSize ≤ limits.maxTotalHashedBytes - hashed := by omega
    exact ⟨identity, hidentity, some text, houtput, text, rfl, hsize, hremaining, htotal, htarget,
      hhashed⟩

/-- The state does not depend on the budget, which only has to suffice. -/
theorem treeEntryState_eq_ok {e : TreeEntry} :
    treeEntryState X git limits e hashed = .ok (state, hashed') ↔
      entryState X git e = some state ∧ hashed + linkSize git e = hashed' ∧
      (e.mode = "120000" ∧ e.objectKind = "blob" → linkSize git e ≤ limits.maxFileBytes ∧
        hashed + linkSize git e ≤ limits.maxTotalHashedBytes) := by
  unfold treeEntryState entryState linkSize
  by_cases hlink : e.mode = "120000" ∧ e.objectKind = "blob"
  · have hfile : ¬ (e.mode = "100644" ∧ e.objectKind = "blob") := by simp [hlink.1]
    have hexec : ¬ (e.mode = "100755" ∧ e.objectKind = "blob") := by simp [hlink.1]
    rw [if_neg hfile, if_neg hexec, if_pos hlink, if_neg hfile, if_neg hexec, if_pos hlink,
      if_pos hlink]
    simp only [steps_ok, Prod.exists, hashTreeLinkTarget_eq_ok, Prod.mk.injEq]
    constructor
    · rintro ⟨_, _, ⟨text, hoid, houtput, rfl, rfl, hsize, htotal⟩, rfl, rfl⟩
      obtain ⟨identity, hidentity⟩ := Option.isSome_iff_exists.mp hoid
      rw [hidentity, houtput]
      exact ⟨rfl, rfl, fun _ => ⟨hsize, htotal⟩⟩
    · rintro ⟨hstate, hhashed, hlimits⟩
      split at hstate
      case h_1 _ text hidentity houtput =>
        simp only [houtput] at hhashed hlimits
        obtain ⟨hsize, htotal⟩ := hlimits hlink
        exact ⟨_, _, ⟨text, by rw [hidentity]; rfl, houtput, rfl, hhashed, hsize, htotal⟩,
          Option.some.inj hstate, rfl⟩
      case h_2 => cases hstate
  · have hfree : ∀ P : Prop, (e.mode = "120000" ∧ e.objectKind = "blob" → P) ↔ True :=
      fun P => iff_true_intro fun h => absurd h hlink
    simp only [if_neg hlink, Nat.add_zero, hfree, and_true]
    split
    · cases GitObjectIdentity.parse e.objectOid <;>
        simp [okOr, pure, Except.pure, bind, Except.bind]
    · split
      · cases GitObjectIdentity.parse e.objectOid <;>
          simp [okOr, pure, Except.pure, bind, Except.bind]
      · split
        · cases GitObjectIdentity.parse e.objectOid <;>
            simp [okOr, pure, Except.pure, bind, Except.bind]
        · simp

theorem entryState_leaf {e : TreeEntry}
    (h : entryState X git e = some state) : leafEntry (some e) = some e := by
  have hkind : e.objectKind ≠ "tree" := by
    intro htree
    simp [entryState, htree] at h
  simp [leafEntry, Option.filter, hkind]

def recordsCost (git : GitAnswers) (records : List TreeRecord) : Nat :=
  records.foldr (fun record total => linkSize git record.entry + total) 0

variable {records : List TreeRecord} {states states' : TreeStates}

theorem observeTreeRecords_hashed
    (h : observeTreeRecords X git limits candidates records states hashed = .ok (states',
      hashed')) :
    hashed' = hashed + recordsCost git records ∧
    (hashed ≤ limits.maxTotalHashedBytes → hashed' ≤ limits.maxTotalHashedBytes) := by
  induction records generalizing states hashed with
  | nil =>
    obtain ⟨rfl, rfl⟩ := Prod.mk.inj (Except.ok.inj h)
    exact ⟨rfl, id⟩
  | cons record rest ih =>
    simp only [observeTreeRecords, steps_ok, Prod.exists, treeEntryState_eq_ok] at h
    obtain ⟨path, _, _, state, next, ⟨_, rfl, hlimits⟩, h⟩ := h
    obtain ⟨hcost, hbound⟩ := ih h
    refine ⟨by simp [recordsCost] at hcost ⊢; omega, fun hle => hbound ?_⟩
    by_cases hlink : record.entry.mode = "120000" ∧ record.entry.objectKind = "blob"
    · exact (hlimits hlink).2
    · simpa [linkSize, hlink] using hle

theorem observeTreeRecords_shift {hashed hashed' other : Nat}
    (h : observeTreeRecords X git limits candidates records states hashed = .ok (states', hashed'))
    (hother : other + recordsCost git records ≤ limits.maxTotalHashedBytes) : observeTreeRecords X
    git limits candidates records states other = .ok (states', other + recordsCost git records) :=
    by
  induction records generalizing states hashed other with
  | nil =>
    obtain ⟨rfl, rfl⟩ := Prod.mk.inj (Except.ok.inj h)
    rfl
  | cons record rest ih =>
    simp only [observeTreeRecords, steps_ok, Prod.exists, treeEntryState_eq_ok] at h ⊢
    obtain ⟨path, hpath, hcandidate, state, next, ⟨hstate, rfl, hlimits⟩, h⟩ := h
    have hsplit : recordsCost git (record :: rest)
      = linkSize git record.entry + recordsCost git rest := by
      simp [recordsCost]
    rw [hsplit] at hother ⊢
    refine ⟨path, hpath, hcandidate, state, other + linkSize git record.entry, ⟨hstate, rfl, ?_⟩,
      ?_⟩
    · exact fun hlink => ⟨(hlimits hlink).1, by omega⟩
    · rw [ih h (by omega)]
      congr 2
      omega

/-- The states that come out: of a path Git has a record for, that of its entry. -/
theorem observeTreeRecords_states {entry : ProductRelativePath → Option TreeEntry}
    (h : observeTreeRecords X git limits candidates records states hashed = .ok (states', hashed'))
    (hentry : ∀ record ∈ records, ∀ path : ProductRelativePath, record.path = some path.text →
      entry path = some record.entry) (path : ProductRelativePath) :
    ((∃ record ∈ records, record.path = some path.text) →
      ∃ e, entry path = some e ∧ states' path = entryState X git e ∧ (states' path).isSome) ∧
    ((∀ record ∈ records, record.path ≠ some path.text) → states' path = states path) := by
  induction records generalizing states hashed with
  | nil =>
    obtain ⟨rfl, rfl⟩ := Prod.mk.inj (Except.ok.inj h)
    simp
  | cons record rest ih =>
    simp only [observeTreeRecords, steps_ok, Prod.exists, treeEntryState_eq_ok, parseGitPath,
      parseGitName_eq_ok] at h
    obtain ⟨named, hnamed, _, state, next, ⟨hstate, _, _⟩, h⟩ := h
    obtain ⟨hpresent, habsent⟩ := ih h fun r hr => hentry r (List.mem_cons_of_mem _ hr)
    constructor
    · intro hexists
      by_cases hlater : ∃ r ∈ rest, r.path = some path.text
      · exact hpresent hlater
      · -- the last record of the path is the first one here
        obtain ⟨r, hr, hrpath⟩ := hexists
        rcases List.mem_cons.mp hr with rfl | hr
        · have hnone : ∀ r' ∈ rest, r'.path ≠ some path.text :=
            fun r' hr' hpath => hlater ⟨r', hr', hpath⟩
          have hsame : path.text = named.text := Option.some.inj (hrpath.symm.trans hnamed)
          have hpath : path = named := ProductRelativePath.text_injective hsame
          refine ⟨r.entry, hentry r (List.mem_cons_self ..) path hrpath, ?_, ?_⟩
          · rw [habsent hnone, if_pos hpath, hstate]
          · rw [habsent hnone, if_pos hpath]
            rfl
        · exact absurd ⟨r, hr, hrpath⟩ hlater
    · intro hnone
      have hother : path ≠ named := by
        rintro rfl
        exact hnone record (List.mem_cons_self ..) hnamed
      rw [habsent fun r hr => hnone r (List.mem_cons_of_mem _ hr), if_neg hother]

theorem observeTreeStates_shift {states : TreeStates}
    (h : observeTreeStates X git limits tree candidates hashed = .ok (states, hashed')) :
    ∃ cost, hashed' = hashed + cost ∧
      (hashed ≤ limits.maxTotalHashedBytes → hashed' ≤ limits.maxTotalHashedBytes) ∧
      ∀ other, other + cost ≤ limits.maxTotalHashedBytes →
        observeTreeStates X git limits tree candidates other = .ok (states, other + cost) := by
  cases tree with
  | none =>
    obtain ⟨rfl, rfl⟩ := Prod.mk.inj (Except.ok.inj h)
    exact ⟨0, rfl, id, fun other _ => rfl⟩
  | some tree =>
    simp only [observeTreeStates] at h ⊢
    split at h
    · rename_i hempty
      obtain ⟨rfl, rfl⟩ := Prod.mk.inj (Except.ok.inj h)
      exact ⟨0, rfl, id, fun other _ => by rw [if_pos hempty, Nat.add_zero]⟩
    · rename_i hsome
      rw [bind_eq_ok] at h
      obtain ⟨records, hrecords, h⟩ := h
      obtain ⟨hcost, hbound⟩ := observeTreeRecords_hashed h
      refine ⟨recordsCost git records, hcost, hbound, fun other hother => ?_⟩
      rw [if_neg hsome, hrecords, ok_bind]
      exact observeTreeRecords_shift h hother

end Observation

section Exact
variable {X : External} {git : GitAnswers} {limits : ObserverLimits}
  {entry : String → ProductRelativePath → Option TreeEntry}
  {afterTree beforeTree states : TreeStates} {paths : List ProductRelativePath}

theorem observeTreeStates_state (hgit : git.Exact entry)
    (h : observeTreeStates X git limits tree candidates hashed = .ok (states, hashed'))
    (hpath : path ∈ candidates) :
    states path = treeState X git entry tree path ∧ (states path).isSome := by
  cases tree with
  | none =>
    obtain ⟨rfl, rfl⟩ := Prod.mk.inj (Except.ok.inj h)
    simp [treeState, hpath]
  | some tree =>
    simp only [observeTreeStates] at h
    split at h
    · rename_i hempty
      rw [List.isEmpty_iff.mp hempty] at hpath
      cases hpath
    · rw [bind_eq_ok] at h
      obtain ⟨records, hrecords, h⟩ := h
      obtain ⟨hfaithful, hcomplete⟩ := hgit.lsTree tree candidates records hrecords
      have hentry : ∀ record ∈ records, ∀ p : ProductRelativePath, record.path = some p.text →
          entry tree p = some record.entry := by
        intro record hrecord p hp
        obtain ⟨q, _, hq, hfound⟩ := hfaithful record hrecord
        rwa [ProductRelativePath.text_injective (Option.some.inj (hp.symm.trans hq))]
      obtain ⟨hpresent, habsent⟩ := observeTreeRecords_states h hentry path
      by_cases hexists : ∃ record ∈ records, record.path = some path.text
      · obtain ⟨e, hfound, hstate, hsome⟩ := hpresent hexists
        obtain ⟨state, hvalue⟩ := Option.isSome_iff_exists.mp hsome
        rw [hvalue] at hstate
        refine ⟨?_, by rw [hvalue]; rfl⟩
        simp [treeState, hfound, entryState_leaf hstate.symm, hvalue, hstate]
      · have hnone : entry tree path = none := by
          cases hfound : entry tree path with
          | none => rfl
          | some e => exact absurd (hcomplete path hpath e hfound) hexists
        have hkept := habsent fun record hrecord hp => hexists ⟨record, hrecord, hp⟩
        simp [hkept, hpath, treeState, hnone, leafEntry]

def treeLeaf (entry : String → ProductRelativePath → Option TreeEntry) (tree : Option String)
    (path : ProductRelativePath) : Option TreeEntry :=
  tree.bind fun tree => leafEntry (entry tree path)

theorem mem_parseNulPaths {names : List (Option String)} (h : parseNulPaths names = .ok paths)
    (path : ProductRelativePath) : path ∈ paths ↔ some path.text ∈ names := by
  have hall := mapM_eq_ok.mp h
  simp only [parseGitName_eq_ok] at hall
  constructor
  · intro hpath
    obtain ⟨name, hname, hnamed⟩ := exists_of_forall₂ hall path hpath
    rwa [← hnamed]
  · intro hname
    obtain ⟨other, hother, hnamed⟩ := exists_of_forall₂ hall.flip (some path.text) hname
    rwa [ProductRelativePath.text_injective (Option.some.inj hnamed)]

theorem mem_treeChangedPaths (hgit : git.Exact entry) {before after : Option String}
    (h : treeChangedPaths git before after = .ok paths) (path : ProductRelativePath) :
    path ∈ paths ↔ treeLeaf entry before path ≠ treeLeaf entry after path := by
  unfold treeChangedPaths at h
  split at h
  · rename_i hsame
    obtain rfl := Except.ok.inj h
    simp [hsame]
  · rename_i hdiffer
    cases before with
    | none =>
      cases after with
      | none => exact absurd rfl hdiffer
      | some after =>
        obtain ⟨names, hnames, h⟩ := bind_eq_ok.mp h
        rw [mem_parseNulPaths h, hgit.lsTreeNames after names hnames]
        simp [treeLeaf, eq_comm]
    | some before =>
      cases after with
      | none =>
        obtain ⟨names, hnames, h⟩ := bind_eq_ok.mp h
        rw [mem_parseNulPaths h, hgit.lsTreeNames before names hnames]
        simp [treeLeaf]
      | some after =>
        obtain ⟨names, hnames, h⟩ := bind_eq_ok.mp h
        rw [mem_parseNulPaths h, hgit.diffTree before after names hnames]
        simp [treeLeaf]

theorem treeChangedPaths_comm (hgit : git.Exact entry) (before after : Option String) :
    treeChangedPaths git before after = treeChangedPaths git after before := by
  unfold treeChangedPaths
  by_cases hsame : before = after
  · rw [hsame]
  · rw [if_neg hsame, if_neg (Ne.symm hsame)]
    cases before <;> cases after <;> simp [hgit.symmetric]

theorem mem_deltaCandidates {treeChanged : List ProductRelativePath} :
    path ∈ deltaCandidates before after treeChanged ↔
    path ∈ before.observedStates.entries.map Prod.fst ∨
    path ∈ after.observedStates.entries.map Prod.fst ∨ path ∈ before.statusPaths.paths ∨
    path ∈ after.statusPaths.paths ∨ path ∈ before.invocationPaths.paths ∨
    path ∈ after.invocationPaths.paths ∨ path ∈ treeChanged := by
  simp only [deltaCandidates, mem_sortDedup, List.mem_append, or_assoc]

theorem deltaCandidates_comm (before after : RepositoryObservationSnapshot)
    (treeChanged : List ProductRelativePath) :
    deltaCandidates before after treeChanged = deltaCandidates after before treeChanged := by
  refine (sortDedup_pairwise _).eq_of_mem_iff (sortDedup_pairwise _) fun path => ?_
  exact mem_deltaCandidates.trans (by rw [mem_deltaCandidates]; tauto)

theorem PathStates.get_eq_none {states : PathStates}
    (h : path ∉ states.entries.map Prod.fst) : states.get path = none := by
  rw [PathStates.get, Option.map_eq_none_iff, List.find?_eq_none]
  intro pair hpair hkey
  exact h (List.mem_map.mpr ⟨pair, hpair, of_decide_eq_true hkey⟩)

def stateTransition (before after : Option ProductPathState) (path : ProductRelativePath) :
    Option RepositoryPathTransition :=
  match before, after with
  | some before, some after =>
    if before.semanticallyEq after then none else some ⟨path, before, after⟩
  | _, _ => none

structure Compared (X : External) (git : GitAnswers) (observer : RepositoryObserver)
    (before after : RepositoryObservationSnapshot) (candidates : List ProductRelativePath)
    (beforeTree afterTree : TreeStates) : Prop where
  compatible : ensureCompatible observer before after = .ok ()
  current : ∃ coordinate, git.captureCoordinates = .ok coordinate ∧
    coordinate.repositoryIdentity = before.coordinate.repositoryIdentity ∧
    coordinate.gitLayoutIdentity = before.coordinate.gitLayoutIdentity
  changed : ∃ treeChanged, treeChangedPaths git before.coordinate.treeOid after.coordinate.treeOid
    = .ok treeChanged ∧ candidates = deltaCandidates before after treeChanged
  bounded : candidates.length ≤ observer.limits.maxCandidatePaths
  observed : ∃ hashed total, observeTreeStates X git observer.limits before.coordinate.treeOid
      (unobserved before candidates) 0 = .ok (beforeTree, hashed) ∧
    observeTreeStates X git observer.limits after.coordinate.treeOid (unobserved after candidates)
      hashed = .ok (afterTree, total)

theorem calculateDelta_eq_ok (hne : before ≠ after) : calculateDelta X git observer before after =
    .ok delta ↔ ∃ candidates beforeTree afterTree transitions,
    Compared X git observer before after candidates beforeTree afterTree ∧ candidates.mapM
    (pathTransition before after beforeTree afterTree) = .ok transitions ∧ delta =
    ⟨transitions.reduceOption⟩ ∧ delta.canonicalSize ≤ observer.limits.maxSerializedBytes := by
  simp only [calculateDelta, if_neg hne, steps_ok, Bool.and_eq_true, decide_eq_true_eq, Prod.exists]
  constructor
  · rintro ⟨_, hcompatible, current, hcurrent, hidentity, treeChanged, hchanged, hbounded,
      beforeTree,
      hashed, hbefore, afterTree, total, hafter, transitions, htransitions, hsize, rfl⟩
    exact ⟨_, beforeTree, afterTree, transitions, ⟨hcompatible, ⟨current, hcurrent, hidentity⟩,
      ⟨treeChanged, hchanged, rfl⟩, hbounded, hashed, total, hbefore, hafter⟩, htransitions, rfl,
        hsize⟩
  · rintro ⟨candidates, beforeTree, afterTree, transitions, ⟨hcompatible, ⟨current, hcurrent,
      hidentity⟩, ⟨treeChanged, hchanged, rfl⟩, hbounded, hashed, total, hbefore, hafter⟩,
      htransitions, rfl, hsize⟩
    exact ⟨(), hcompatible, current, hcurrent, hidentity, treeChanged, hchanged, hbounded,
      beforeTree,
      hashed, hbefore, afterTree, total, hafter, transitions, htransitions, hsize, rfl⟩

section
variable (hgit : git.Exact entry)
include hgit

/-- The observed states and those of the tree are the states of the snapshot. -/
theorem snapshotPathState_eq_ok {snapshot : RepositoryObservationSnapshot}
    (h : observeTreeStates X git limits snapshot.coordinate.treeOid (unobserved snapshot candidates)
      hashed = .ok (states, hashed')) (hpath : path ∈ candidates) :
    ∃ state, snapshotState X git entry snapshot path = some state ∧
      snapshotPathState snapshot states path = .ok state := by
  cases hobserved : snapshot.observedStates.get path with
  | some state => exact ⟨state, by simp [snapshotState, hobserved],
    by simp [snapshotPathState, hobserved]⟩
  | none =>
    have hmissing : path ∈ unobserved snapshot candidates :=
      List.mem_filter.mpr ⟨hpath, by simp [hobserved]⟩
    obtain ⟨hstate, hsome⟩ := observeTreeStates_state hgit h hmissing
    obtain ⟨state, hvalue⟩ := Option.isSome_iff_exists.mp hsome
    refine ⟨state, ?_, by simp [snapshotPathState, hobserved, hvalue]⟩
    simp [snapshotState, hobserved, ← hstate, hvalue]

section
variable (h : Compared X git observer before after candidates beforeTree afterTree)
include h

theorem Compared.transition (hpath : path ∈ candidates) :
    (snapshotState X git entry before path).isSome ∧
    (snapshotState X git entry after path).isSome ∧
    pathTransition before after beforeTree afterTree path = .ok (stateTransition
      (snapshotState X git entry before path) (snapshotState X git entry after path) path) := by
  obtain ⟨hashed, total, hbefore, hafter⟩ := h.observed
  obtain ⟨s, hs, hsread⟩ := snapshotPathState_eq_ok hgit hbefore hpath
  obtain ⟨t, ht, htread⟩ := snapshotPathState_eq_ok hgit hafter hpath
  rw [hs, ht]
  refine ⟨rfl, rfl, ?_⟩
  simp [pathTransition, hsread, htread, stateTransition, pure, Except.pure]

theorem Compared.same (hpath : path ∉ candidates) :
    snapshotState X git entry before path = snapshotState X git entry after path := by
  obtain ⟨treeChanged, hchanged, rfl⟩ := h.changed
  rw [mem_deltaCandidates] at hpath
  push Not at hpath
  obtain ⟨hbefore, hafter, _, _, _, _, hunchanged⟩ := hpath
  have hleaf := not_not.mp (mt (mem_treeChangedPaths hgit hchanged path).mpr hunchanged)
  unfold treeLeaf at hleaf
  simp only [snapshotState, PathStates.get_eq_none hbefore, PathStates.get_eq_none hafter,
    Option.none_or, treeState, hleaf]

end

end

theorem map_path_filterMap_sublist {f : ProductRelativePath → Option RepositoryPathTransition}
    (hf : ∀ path transition, f path = some transition → transition.path = path)
    (candidates : List ProductRelativePath) :
    ((candidates.filterMap f).map RepositoryPathTransition.path).Sublist candidates := by
  induction candidates with
  | nil => exact List.nil_sublist _
  | cons path rest ih =>
    cases hvalue : f path with
    | none =>
      rw [List.filterMap_cons_none hvalue]
      exact ih.cons _
    | some transition =>
      rw [List.filterMap_cons_some hvalue, List.map_cons, hf path transition hvalue]
      exact ih.cons_cons _

/-- The transitions of a delta, as the states of the snapshots determine them. -/
theorem calculateDelta_transitions (hgit : git.Exact entry) (hne : before ≠ after)
    (h : calculateDelta X git observer before after = .ok delta) :
    ∃ candidates beforeTree afterTree,
      Compared X git observer before after candidates beforeTree afterTree ∧
      delta.transitions = candidates.filterMap fun path => stateTransition
        (snapshotState X git entry before path) (snapshotState X git entry after path) path := by
  obtain ⟨candidates, beforeTree, afterTree, transitions, hcompared, htransitions, rfl, _⟩ :=
    (calculateDelta_eq_ok hne).mp h
  refine ⟨candidates, beforeTree, afterTree, hcompared, ?_⟩
  rw [mapM_eq_map fun path hpath => (hcompared.transition hgit hpath).2.2] at htransitions
  rw [← Except.ok.inj htransitions]
  change List.filterMap id _ = _
  simp [List.filterMap_map]

theorem stateTransition_eq_some {s t : Option ProductPathState}
    {transition : RepositoryPathTransition} (h : stateTransition s t path = some transition) :
    transition.path = path ∧ s = some transition.before ∧ t = some transition.after ∧
      sameState s t = false := by
  cases s with
  | none => cases h
  | some s =>
    cases t with
    | none => cases h
    | some t =>
      simp only [stateTransition] at h
      split at h
      · cases h
      · rename_i hdiffer
        obtain rfl := Option.some.inj h
        exact ⟨rfl, rfl, rfl, by simpa [sameState] using hdiffer⟩

structure ListsDifferences (X : External) (git : GitAnswers)
    (entry : String → ProductRelativePath → Option TreeEntry)
    (before after : RepositoryObservationSnapshot) (delta : RepositoryDelta) : Prop where
  increasing : delta.paths.Pairwise (· < ·)
  differing : ∀ path, path ∈ delta.paths ↔
    sameState (snapshotState X git entry before path) (snapshotState X git entry after path) = false
  states : ∀ transition ∈ delta.transitions,
    snapshotState X git entry before transition.path = some transition.before ∧
    snapshotState X git entry after transition.path = some transition.after

theorem calculateDelta_lists (hgit : git.Exact entry)
    (h : calculateDelta X git observer before after = .ok delta) :
    ListsDifferences X git entry before after delta := by
  by_cases hne : before = after
  · subst hne
    simp only [calculateDelta, if_true] at h
    obtain rfl := Except.ok.inj h
    exact ⟨List.Pairwise.nil, fun path => by simp [RepositoryDelta.paths, sameState_refl], by simp⟩
  · obtain ⟨candidates, beforeTree, afterTree, hcompared, htransitions⟩ :=
      calculateDelta_transitions hgit hne h
    refine ⟨?_, fun path => ?_, fun transition hmem => ?_⟩
    · obtain ⟨treeChanged, _, rfl⟩ := hcompared.changed
      rw [RepositoryDelta.paths, htransitions]
      exact (sortDedup_pairwise _).sublist (map_path_filterMap_sublist
        (fun _ _ hsome => (stateTransition_eq_some hsome).1) _)
    · rw [RepositoryDelta.paths, htransitions]
      constructor
      · intro hmem
        obtain ⟨transition, hlisted, rfl⟩ := List.mem_map.mp hmem
        obtain ⟨path, _, hsome⟩ := List.mem_filterMap.mp hlisted
        obtain ⟨rfl, _, _, hdiffer⟩ := stateTransition_eq_some hsome
        exact hdiffer
      · intro hdiffer
        have hpath : path ∈ candidates := by
          by_contra hout
          rw [hcompared.same hgit hout, sameState_refl] at hdiffer
          cases hdiffer
        obtain ⟨hs, ht, _⟩ := hcompared.transition hgit hpath
        obtain ⟨s, hs⟩ := Option.isSome_iff_exists.mp hs
        obtain ⟨t, ht⟩ := Option.isSome_iff_exists.mp ht
        rw [hs, ht] at hdiffer
        refine List.mem_map.mpr ⟨⟨path, s, t⟩, List.mem_filterMap.mpr ⟨path, hpath, ?_⟩, rfl⟩
        simpa [stateTransition, hs, ht, sameState] using hdiffer
    · rw [htransitions] at hmem
      obtain ⟨path, _, hsome⟩ := List.mem_filterMap.mp hmem
      obtain ⟨rfl, hs, ht, _⟩ := stateTransition_eq_some hsome
      exact ⟨hs, ht⟩

def RepositoryPathTransition.reversed (transition : RepositoryPathTransition) :
    RepositoryPathTransition :=
  ⟨transition.path, transition.after, transition.before⟩

/-- The same paths with their states exchanged. -/
def RepositoryDelta.reversed (delta : RepositoryDelta) : RepositoryDelta :=
  ⟨delta.transitions.map RepositoryPathTransition.reversed⟩

theorem RepositoryDelta.canonicalSize_reversed (delta : RepositoryDelta) :
    delta.reversed.canonicalSize = delta.canonicalSize := by
  simp only [canonicalSize, reversed, List.foldr_map]
  congr 2
  funext transition size
  simp only [RepositoryPathTransition.reversed]
  omega

theorem stateTransition_reversed (s t : Option ProductPathState) (path : ProductRelativePath) :
    stateTransition t s path =
      (stateTransition s t path).map RepositoryPathTransition.reversed := by
  cases s with
  | none => cases t <;> rfl
  | some s =>
    cases t with
    | none => rfl
    | some t =>
      simp only [stateTransition, t.semanticallyEq_comm s]
      split <;> rfl

theorem ensureCompatible_comm (h : ensureCompatible observer before after = .ok ()) :
    ensureCompatible observer after before = .ok () ∧
      before.coordinate.repositoryIdentity = after.coordinate.repositoryIdentity ∧
      before.coordinate.gitLayoutIdentity = after.coordinate.gitLayoutIdentity := by
  simp only [ensureCompatible, steps_ok, Bool.and_eq_true, decide_eq_true_eq] at h ⊢
  obtain ⟨⟨hcontract, hobserver⟩, ⟨⟨⟨hroot, hobserved⟩, hidentity⟩, hlayout⟩, hworktree⟩ := h
  exact ⟨⟨⟨hcontract.symm, hcontract ▸ hobserver⟩, ⟨⟨⟨hroot.symm, hroot ▸ hobserved⟩,
    hidentity.symm⟩, hlayout.symm⟩, hworktree.symm⟩, hidentity, hlayout⟩

theorem Compared.symm (hgit : git.Exact entry)
    (h : Compared X git observer before after candidates beforeTree afterTree) :
    Compared X git observer after before candidates afterTree beforeTree := by
  obtain ⟨hcompatible, hidentity, hlayout⟩ := ensureCompatible_comm h.compatible
  obtain ⟨coordinate, hcurrent, hrepository, hgitLayout⟩ := h.current
  obtain ⟨treeChanged, hchanged, hcandidates⟩ := h.changed
  obtain ⟨hashed, total, hbefore, hafter⟩ := h.observed
  refine ⟨hcompatible, ⟨coordinate, hcurrent, hrepository.trans hidentity,
    hgitLayout.trans hlayout⟩, ⟨treeChanged, ?_, ?_⟩, h.bounded, ?_⟩
  · rw [treeChangedPaths_comm hgit, hchanged]
  · rw [hcandidates, deltaCandidates_comm]
  · -- the budget is spent in the other order, to the same total
    obtain ⟨cost, rfl, hfits, hshift⟩ := observeTreeStates_shift hbefore
    obtain ⟨cost', rfl, hfits', hshift'⟩ := observeTreeStates_shift hafter
    have htotal := hfits' (hfits (Nat.zero_le _))
    exact ⟨0 + cost', 0 + cost' + cost, hshift' 0 (by omega), hshift (0 + cost') (by omega)⟩

theorem calculateDelta_reversed (hgit : git.Exact entry)
    (h : calculateDelta X git observer before after = .ok delta) :
    calculateDelta X git observer after before = .ok delta.reversed := by
  by_cases hne : before = after
  · subst hne
    rw [h]
    simp only [calculateDelta, if_true] at h
    obtain rfl := Except.ok.inj h
    rfl
  · obtain ⟨_, _, _, _, _, _, _, hsize⟩ := (calculateDelta_eq_ok hne).mp h
    obtain ⟨candidates, beforeTree, afterTree, hcompared, htransitions⟩ :=
      calculateDelta_transitions hgit hne h
    have hswapped := hcompared.symm hgit
    refine (calculateDelta_eq_ok (Ne.symm hne)).mpr ⟨candidates, afterTree, beforeTree, _, hswapped,
      mapM_eq_map fun path hpath => (hswapped.transition hgit hpath).2.2, ?_, ?_⟩
    · change _ = (⟨List.filterMap id _⟩ : RepositoryDelta)
      simp only [RepositoryDelta.reversed, htransitions, List.map_filterMap, List.filterMap_map]
      congr 2
      funext path
      exact (stateTransition_reversed _ _ path).symm
    · rw [RepositoryDelta.canonicalSize_reversed]
      exact hsize

end Exact
end Volicord
