import Volicord.Lib.Sorted
import Volicord.Store.Replay
import Volicord.Types.ProductPath

/-! `volicord-platform-fs`, `repository_observation`: snapshots of a Product Repository and the net
delta between two of them. What Git answers is a parameter, record by record; a name or a link
target that is not UTF-8 is `none`. -/
namespace Volicord
open Result Sorted

/-- `ProductRelativePath` is ordered by the bytes of its text, which is the order of the texts. -/
instance : LinearOrder ProductRelativePath :=
  LinearOrder.lift' ProductRelativePath.text fun p q h => by
    cases p
    cases q
    cases h
    rfl

inductive ObservationUnavailableReason where
  | invalidObserverLimits | invalidRepositoryRoot | notGitRepository | gitLayoutUnavailable
  | gitCommandUnavailable | gitCommandFailed | processTimeout | gitOutputLimitExceeded
  | processInputLimitExceeded | candidatePathLimitExceeded | totalHashBytesLimitExceeded
  | fileSizeLimitExceeded | serializationDepthLimitExceeded | serializationSizeLimitExceeded
  | invalidRelativePath | nonUtf8Path | pathOutsideRepository | inaccessiblePath
  | unsupportedPathState | unstableRepository | repositoryIdentityChanged
  | observerContractMismatch | gitObjectUnavailable
deriving DecidableEq

structure ObservationUnavailable where
  reason : ObservationUnavailableReason
  detail : String
deriving DecidableEq

abbrev ObservationResult := Except ObservationUnavailable

structure ObserverLimits where
  (maxCandidatePaths maxTotalHashedBytes maxFileBytes maxSerializedBytes : Nat)
deriving DecidableEq

structure GitObjectIdentity where
  text : String
deriving DecidableEq

def GitObjectIdentity.parse (value : String) : Option GitObjectIdentity :=
  (canonicalGitObjectId value).map GitObjectIdentity.mk

variable (X : External)

def contentIdentity (text : String) : String := "sha256:" ++ X.sha256Hex text

inductive RegularFileContentEvidence where
  | worktree (exactWorktreeBytes : String) (canonicalGitBlob : GitObjectIdentity)
  | gitTree (canonicalGitBlob : GitObjectIdentity)
deriving DecidableEq

namespace RegularFileContentEvidence

def canonicalGitBlob : RegularFileContentEvidence → GitObjectIdentity
  | .worktree _ blob => blob
  | .gitTree blob => blob

def semanticallyEq : RegularFileContentEvidence → RegularFileContentEvidence → Bool
  | .worktree left _, .worktree right _ => left = right
  | left, right => left.canonicalGitBlob = right.canonicalGitBlob

end RegularFileContentEvidence

inductive ProductPathState where
  | absent
  | regularFile (contentEvidence : RegularFileContentEvidence) (executable : Bool)
  | symbolicLink (target : String)
  | gitlink (commitOid : GitObjectIdentity)
deriving DecidableEq

def ProductPathState.semanticallyEq : ProductPathState → ProductPathState → Bool
  | .absent, .absent => true
  | .regularFile left leftExecutable, .regularFile right rightExecutable =>
    leftExecutable = rightExecutable && left.semanticallyEq right
  | .symbolicLink left, .symbolicLink right => left = right
  | .gitlink left, .gitlink right => left = right
  | _, _ => false

structure RepositoryObservationCoordinate where
  (repositoryIdentity gitLayoutIdentity worktreeIdentity : String)
  (headOid treeOid : Option String)
  statusIdentity : String
deriving DecidableEq

/-- A `BTreeSet` of paths. -/
structure PathSet where
  paths : List ProductRelativePath
  sorted : paths.Pairwise (· < ·)
deriving DecidableEq

/-- A `BTreeMap` from paths to their states. -/
structure PathStates where
  entries : List (ProductRelativePath × ProductPathState)
  sorted : (entries.map Prod.fst).Pairwise (· < ·)
deriving DecidableEq

def PathStates.get (states : PathStates) (path : ProductRelativePath) : Option ProductPathState :=
  (states.entries.find? (·.1 = path)).map Prod.snd

structure RepositoryObservationSnapshot where
  repositoryRoot : String
  coordinate : RepositoryObservationCoordinate
  observedStates : PathStates
  (statusPaths invocationPaths : PathSet)
  contractDigest : String
  limits : ObserverLimits
deriving DecidableEq

structure RepositoryObserver where
  repositoryRoot : String
  limits : ObserverLimits
  contractDigest : String

structure RepositoryPathTransition where
  path : ProductRelativePath
  (before after : ProductPathState)
deriving DecidableEq

structure RepositoryDelta where
  transitions : List RepositoryPathTransition
deriving DecidableEq

structure TreeEntry where
  (mode objectKind objectOid : String)
deriving DecidableEq

/-- One record of `git ls-tree`. -/
structure TreeRecord where
  entry : TreeEntry
  path : Option String

/-- What Git answers while one delta is calculated, each command with its own failures. -/
structure GitAnswers where
  captureCoordinates : ObservationResult RepositoryObservationCoordinate
  /-- `diff-tree -r --name-only`. -/
  diffTree : String → String → ObservationResult (List (Option String))
  /-- `ls-tree -r --name-only`. -/
  lsTreeNames : String → ObservationResult (List (Option String))
  /-- `ls-tree` with paths. -/
  lsTree : String → List String → ObservationResult (List TreeRecord)
  /-- `cat-file blob`. -/
  catFile : String → ObservationResult (Option String)

def totalHashLimit : ObservationUnavailable :=
  ⟨.totalHashBytesLimitExceeded, "repository hashing exceeds the configured aggregate byte limit"⟩

def gitObjectUnavailable (detail : String) : ObservationUnavailable :=
  ⟨.gitObjectUnavailable, detail⟩

def parseGitName (nonUtf8 invalid : String) (name : Option String) :
    ObservationResult ProductRelativePath := do
  let text ← okOr ⟨.nonUtf8Path, nonUtf8⟩ name
  (ProductRelativePath.parse text).mapError fun error =>
    ⟨.invalidRelativePath, invalid ++ ": " ++ error.reason⟩

def parseGitPath : Option String → ObservationResult ProductRelativePath :=
  parseGitName "Git returned a non-UTF-8 Product Repository path"
    "Git returned an invalid Product Repository path"

def parseNulPaths (names : List (Option String)) : ObservationResult (List ProductRelativePath) :=
  names.mapM (parseGitName "Git tree comparison returned a non-UTF-8 path"
    "Git tree comparison returned an invalid path")

variable (git : GitAnswers) (limits : ObserverLimits)

def hashTreeLinkTarget (objectOid : String) (hashed : Nat) : ObservationResult (String × Nat) := do
  let _ ← okOr (gitObjectUnavailable "Git link blob has a non-canonical object ID")
    (GitObjectIdentity.parse objectOid)
  let output ← git.catFile objectOid
  let target ← okOr ⟨.nonUtf8Path, "a Git symbolic-link target is not valid UTF-8"⟩ output
  ensure (target.utf8ByteSize ≤ limits.maxFileBytes) ⟨.fileSizeLimitExceeded,
    "a Product Repository file exceeds the configured per-file byte limit"⟩
  ensure (target.utf8ByteSize ≤ limits.maxTotalHashedBytes - hashed) totalHashLimit
  ensure (hashed + target.utf8ByteSize ≤ limits.maxTotalHashedBytes) totalHashLimit
  return (contentIdentity X target, hashed + target.utf8ByteSize)

def treeEntryState (entry : TreeEntry) (hashed : Nat) :
    ObservationResult (ProductPathState × Nat) :=
  let blob (executable : Bool) : ObservationResult (ProductPathState × Nat) := do
    let oid ← okOr (gitObjectUnavailable "Git tree blob has a non-canonical object ID")
      (GitObjectIdentity.parse entry.objectOid)
    return (.regularFile (.gitTree oid) executable, hashed)
  if entry.mode = "100644" ∧ entry.objectKind = "blob" then blob false
  else if entry.mode = "100755" ∧ entry.objectKind = "blob" then blob true
  else if entry.mode = "120000" ∧ entry.objectKind = "blob" then do
    let (target, hashed) ← hashTreeLinkTarget X git limits entry.objectOid hashed
    return (.symbolicLink target, hashed)
  else if entry.mode = "160000" ∧ entry.objectKind = "commit" then do
    let oid ← okOr (gitObjectUnavailable "Git tree returned a non-canonical Gitlink commit")
      (GitObjectIdentity.parse entry.objectOid)
    return (.gitlink oid, hashed)
  else .error ⟨.unsupportedPathState,
    "Git tree contains an unsupported Product Repository path state"⟩

abbrev TreeStates := ProductRelativePath → Option ProductPathState

def observeTreeRecords (X : External) (git : GitAnswers) (limits : ObserverLimits)
    (candidates : List ProductRelativePath) :
    List TreeRecord → TreeStates → Nat → ObservationResult (TreeStates × Nat)
  | [], states, hashed => .ok (states, hashed)
  | record :: rest, states, hashed => do
    let path ← parseGitPath record.path
    ensure (candidates.contains path)
      (gitObjectUnavailable "Git tree returned a path outside the candidate set")
    let (state, hashed) ← treeEntryState X git limits record.entry hashed
    observeTreeRecords X git limits candidates rest
      (fun other => if other = path then some state else states other) hashed

/-- `observe_tree_states`; the number is the hash budget used so far. -/
def observeTreeStates (treeOid : Option String) (candidates : List ProductRelativePath)
    (hashed : Nat) : ObservationResult (TreeStates × Nat) :=
  let states : TreeStates := fun path => if path ∈ candidates then some .absent else none
  match treeOid with
  | none => .ok (states, hashed)
  | some treeOid =>
    if candidates.isEmpty then .ok (states, hashed)
    else do
      let records ← git.lsTree treeOid (candidates.map ProductRelativePath.text)
      observeTreeRecords X git limits candidates records states hashed

def treeChangedPaths (before after : Option String) :
    ObservationResult (List ProductRelativePath) :=
  if before = after then .ok []
  else match before, after with
  | some before, some after => do parseNulPaths (← git.diffTree before after)
  | some tree, none => do parseNulPaths (← git.lsTreeNames tree)
  | none, some tree => do parseNulPaths (← git.lsTreeNames tree)
  | none, none => .ok []

def ensureCompatible (observer : RepositoryObserver)
    (before after : RepositoryObservationSnapshot) : ObservationResult Unit := do
  ensure (before.contractDigest = after.contractDigest
      && before.contractDigest = observer.contractDigest)
    ⟨.observerContractMismatch, "repository snapshots use different observer contracts or limits"⟩
  ensure (before.repositoryRoot = after.repositoryRoot
      && before.repositoryRoot = observer.repositoryRoot
      && before.coordinate.repositoryIdentity = after.coordinate.repositoryIdentity
      && before.coordinate.gitLayoutIdentity = after.coordinate.gitLayoutIdentity
      && before.coordinate.worktreeIdentity = after.coordinate.worktreeIdentity)
    ⟨.repositoryIdentityChanged, "repository snapshots do not belong to one canonical Git worktree"⟩

variable (snapshot : RepositoryObservationSnapshot)

def snapshotPathState (treeStates : TreeStates) (path : ProductRelativePath) :
    ObservationResult ProductPathState :=
  okOr (gitObjectUnavailable "a repository candidate has no observable snapshot state")
    ((snapshot.observedStates.get path).or (treeStates path))

namespace ProductPathState

def encodedSize : ProductPathState → Nat
  | .absent => 1
  | .regularFile (.worktree bytes blob) _ => 1 + 1 + (8 + bytes.utf8ByteSize)
    + (8 + blob.text.utf8ByteSize) + 1
  | .regularFile (.gitTree blob) _ => 1 + 1 + (8 + blob.text.utf8ByteSize) + 1
  | .symbolicLink target => 1 + (8 + target.utf8ByteSize)
  | .gitlink oid => 1 + (8 + oid.text.utf8ByteSize)

end ProductPathState

namespace RepositoryDelta

/-- The length of `canonical_bytes`. -/
def canonicalSize (delta : RepositoryDelta) : Nat :=
  (8 + "repository_delta".utf8ByteSize) + 8 + delta.transitions.foldr (fun transition size =>
    (8 + transition.path.text.utf8ByteSize) + transition.before.encodedSize
      + transition.after.encodedSize + size) 0

def paths (delta : RepositoryDelta) : List ProductRelativePath :=
  delta.transitions.map RepositoryPathTransition.path

def restrictedTo (delta : RepositoryDelta) (paths : List ProductRelativePath) : RepositoryDelta :=
  ⟨delta.transitions.filter fun transition => paths.contains transition.path⟩

end RepositoryDelta

variable (before after : RepositoryObservationSnapshot)

def deltaCandidates (treeChanged : List ProductRelativePath) : List ProductRelativePath :=
  sortDedup (before.observedStates.entries.map Prod.fst ++ after.observedStates.entries.map Prod.fst
    ++ before.statusPaths.paths ++ after.statusPaths.paths ++ before.invocationPaths.paths
    ++ after.invocationPaths.paths ++ treeChanged)

def pathTransition (beforeTree afterTree : TreeStates) (path : ProductRelativePath) :
    ObservationResult (Option RepositoryPathTransition) := do
  let beforeState ← snapshotPathState before beforeTree path
  let afterState ← snapshotPathState after afterTree path
  return if beforeState.semanticallyEq afterState then none
    else some ⟨path, beforeState, afterState⟩

def unobserved (candidates : List ProductRelativePath) : List ProductRelativePath :=
  candidates.filter fun path => (snapshot.observedStates.get path).isNone

def calculateDelta (observer : RepositoryObserver) (before after : RepositoryObservationSnapshot) :
    ObservationResult RepositoryDelta :=
  if before = after then .ok ⟨[]⟩
  else do
    ensureCompatible observer before after
    let current ← git.captureCoordinates
    ensure (current.repositoryIdentity = before.coordinate.repositoryIdentity
        && current.gitLayoutIdentity = before.coordinate.gitLayoutIdentity)
      ⟨.repositoryIdentityChanged,
        "the Product Repository identity or Git layout changed after snapshot capture"⟩
    let treeChanged ← treeChangedPaths git before.coordinate.treeOid after.coordinate.treeOid
    let candidates := deltaCandidates before after treeChanged
    ensure (candidates.length ≤ observer.limits.maxCandidatePaths)
      ⟨.candidatePathLimitExceeded,
        "the semantic candidate path union exceeds its configured limit"⟩
    let (beforeTree, hashed) ← observeTreeStates X git observer.limits before.coordinate.treeOid
      (unobserved before candidates) 0
    let (afterTree, _) ← observeTreeStates X git observer.limits after.coordinate.treeOid
      (unobserved after candidates) hashed
    let transitions ← candidates.mapM (pathTransition before after beforeTree afterTree)
    let delta : RepositoryDelta := ⟨transitions.reduceOption⟩
    ensure (delta.canonicalSize ≤ observer.limits.maxSerializedBytes)
      ⟨.serializationSizeLimitExceeded,
        "the canonical repository delta exceeds its serialization limit"⟩
    return delta

end Volicord
