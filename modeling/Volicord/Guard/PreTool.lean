import Volicord.Guard.ToolEffect
import Volicord.Types.ProductPath

/-! The decision of the Guard before a tool runs: assessed target paths, their coverage by
the Write Tickets of the state summary, and the reasons that deny or warn. -/
namespace Volicord.Guard
open Sorted

/- Paths as `std::path` reads them. -/

inductive PathComponent where
  | rootDir | curDir | parentDir | normal (name : String)
deriving DecidableEq

def pathComponents (text : String) : List PathComponent :=
  let pieces := (text.toList.splitOn '/').map String.ofList
  let start : List PathComponent :=
    if Text.startsWith text "/" then [.rootDir]
    else if pieces.head? = some "." then [.curDir] else []
  start ++ pieces.filterMap fun piece =>
    if piece = "" ∨ piece = "." then none
    else if piece = ".." then some .parentDir
    else some (.normal piece)

/-- A canonical absolute directory, given by its names from the root. -/
structure RepoRoot where
  names : List String

variable (root : RepoRoot)

def RepoRoot.components : List PathComponent :=
  .rootDir :: root.names.map .normal

structure PathAssessment where
  raw : String
  normalized : Option String
  insideRepo : Bool

def relativeNames : List PathComponent → Option (List String)
  | [] => some []
  | .normal name :: components => (relativeNames components).map (name :: ·)
  | .curDir :: components => relativeNames components
  | .parentDir :: _ | .rootDir :: _ => none

def joinNames (names : List String) : String := "/".intercalate names

def normalizedRelativePath (components : List PathComponent) : Option String :=
  match relativeNames components with
  | some (name :: names) => some (joinNames (name :: names))
  | _ => none

def stripComponents (start components : List PathComponent) : Option (List PathComponent) :=
  if start.isPrefixOf components then some (components.drop start.length) else none

def assessPath (raw : String) : PathAssessment :=
  let components := pathComponents raw
  let normalized :=
    if components.head? = some .rootDir then
      (stripComponents root.components components).bind normalizedRelativePath
    else normalizedRelativePath components
  ⟨raw, normalized, normalized.isSome⟩

def assessDecodedPaths (rawPaths : List String) : List PathAssessment :=
  rawPaths.map (assessPath root)

/- What the Guard observed and what it knows. -/

structure ToolObservation where
  identity : GuardToolIdentity
  command : Option String
  prospectiveEffect : ProductRepositoryEffect
  (structuredPaths changedPaths : List PathAssessment)

/-- `tool_observation` of a `PreToolUse` event: nothing has changed yet. -/
def toolObservation (catalog : McpToolCatalog) (root : RepoRoot) (toolName : String)
    (input : Json) : ToolObservation :=
  let assessment := catalog.assess toolName input
  { identity := assessment.identity
    command := assessment.command
    prospectiveEffect := assessment.effect
    structuredPaths := assessDecodedPaths root assessment.targetPaths.exactPaths
    changedPaths := [] }

structure ActiveWriteTicketSummary where
  (writeTicketId changeUnitId : String)
  (intendedPaths deniedPaths : List String)
  idleExpiresAt : Option String
  workspaceValidityUncertain : Bool

structure PolicyStaleWriteTicketSummary where
  writeTicketId : String
  (intendedPaths deniedPaths : List String)

structure GuardPolicyControlReevaluationSummary where
  requiredEffectiveControlLevel : String
  requiredAcceptancePolicy : Option String

structure GuardStateSummary where
  activeTaskId : Option String
  policyControlReevaluation : Option GuardPolicyControlReevaluationSummary
  activeWriteTickets : List ActiveWriteTicketSummary
  policyStaleWriteTickets : List PolicyStaleWriteTicketSummary

/- Coverage. -/

inductive WriteTicketCoverage where
  | notWriteLike
  | ticketBacked (ticket : ActiveWriteTicketSummary) (observedPaths : List String)
  | noObservedPaths
  | noActiveTickets (observedPaths : List String)
  | policyAuthorityStale (observedPaths staleTicketIds : List String)
  | outOfScope (observedPaths activeTicketIds : List String)
  | ambiguous (observedPaths matchingTicketIds : List String)

def normalizedObservedPaths (paths : List PathAssessment) : List String :=
  sortDedup ((paths.filter (·.insideRepo)).filterMap (·.normalized))

def pathIsAuthorized (authorizedPaths deniedPaths : List String) (path : String) : Bool :=
  authorizedPaths.any (pathIsWithin path) && !deniedPaths.any (pathIsWithin path)

def observedPathsAreAuthorized (observedPaths authorizedPaths deniedPaths : List String) : Bool :=
  !observedPaths.isEmpty && !authorizedPaths.isEmpty &&
    observedPaths.all (pathIsAuthorized authorizedPaths deniedPaths)

def ActiveWriteTicketSummary.covers (ticket : ActiveWriteTicketSummary) (path : String) : Bool :=
  pathIsAuthorized ticket.intendedPaths ticket.deniedPaths path

def ActiveWriteTicketSummary.coversAll (ticket : ActiveWriteTicketSummary)
    (observedPaths : List String) : Bool :=
  observedPathsAreAuthorized observedPaths ticket.intendedPaths ticket.deniedPaths

theorem ActiveWriteTicketSummary.covers_of_coversAll {ticket : ActiveWriteTicketSummary}
    {observedPaths : List String} {path : String} (h : ticket.coversAll observedPaths)
    (hp : path ∈ observedPaths) : ticket.covers path := by
  unfold coversAll observedPathsAreAuthorized at h
  rw [Bool.and_eq_true, List.all_eq_true] at h
  exact h.2 path hp

variable (observation : ToolObservation)

def ToolObservation.observedPaths : List String :=
  normalizedObservedPaths
    (if observation.changedPaths.isEmpty then observation.structuredPaths
     else observation.changedPaths)

variable (summary : GuardStateSummary)

def writeTicketCoverage (observation : ToolObservation) : WriteTicketCoverage :=
  let observedPaths := observation.observedPaths
  if observedPaths.isEmpty then .noObservedPaths
  else
    match summary.activeWriteTickets.filter (·.coversAll observedPaths) with
    | [ticket] => .ticketBacked ticket observedPaths
    | first :: second :: rest =>
      .ambiguous observedPaths ((first :: second :: rest).map (·.writeTicketId))
    | [] =>
      let staleTicketIds := (summary.policyStaleWriteTickets.filter fun ticket =>
        observedPathsAreAuthorized observedPaths ticket.intendedPaths ticket.deniedPaths).map
          (·.writeTicketId)
      if !staleTicketIds.isEmpty then .policyAuthorityStale observedPaths staleTicketIds
      else if summary.activeWriteTickets.isEmpty then .noActiveTickets observedPaths
      else .outOfScope observedPaths (summary.activeWriteTickets.map (·.writeTicketId))

/- Reasons and decision. -/

inductive GuardSeverity where
  | deny | warn
deriving DecidableEq

structure GuardReason where
  (code message : String)
  severity : GuardSeverity

inductive GuardPolicyDecision where
  | continue | continueWithWarning | deny
deriving DecidableEq

def coverageReasons : WriteTicketCoverage → List GuardReason
  | .policyAuthorityStale _ _ =>
    [⟨"write_ticket_policy_changed",
      "Project workflow policy changed after the covering write ticket was issued. Run `volicord.prepare_write` again before this Product Repository write.", .deny⟩]
  | coverage =>
    if summary.policyControlReevaluation.isSome then
      [⟨"policy_control_reevaluation_required",
        "Project policy requires the active Task control level or acceptance policy to be reevaluated before this Product Repository write.", .deny⟩]
    else match coverage with
    | .policyAuthorityStale _ _ | .notWriteLike => []
    | .ticketBacked ticket _ =>
      if ticket.workspaceValidityUncertain then
        [⟨"write_ticket_workspace_unverified",
          "The covering write ticket is current, but its Git workspace coordinate could not be refreshed.", .warn⟩]
      else []
    | .noObservedPaths =>
      [⟨"write_ticket_scope_indeterminate",
        "The exact Product Repository target path set is unavailable.", .deny⟩]
    | .noActiveTickets _ =>
      [⟨"write_ticket_missing", "No active write ticket covers this Product Repository write.",
        .deny⟩]
    | .outOfScope _ _ =>
      [⟨"write_ticket_path_scope_violation",
        "The exact Product Repository path set is outside the active write ticket scope.", .deny⟩]
    | .ambiguous _ _ =>
      [⟨"write_ticket_ambiguous", "More than one active write ticket covers the exact path set.",
        .warn⟩]

def outsideReasons : List GuardReason :=
  if observation.structuredPaths.any (!·.insideRepo) then
    [⟨"target_outside_project_allowlist",
      "One or more target paths are outside the selected Product Repository.", .deny⟩]
  else []

def ticketReasons (observation : ToolObservation) : List GuardReason :=
  if summary.activeTaskId.isNone then
    [⟨"no_active_task", "Product-file writes require an active Volicord task.", .deny⟩]
  else coverageReasons summary (writeTicketCoverage summary observation)

def unknownEffectReasons : List GuardReason :=
  if observation.prospectiveEffect = .unknownProductEffect then
    [⟨"unknown_effect_warning",
      "The invocation has an unknown Product Repository effect and will be checked with an exact repository observation.", .warn⟩]
  else []

def observationReasons (unavailable : Bool) : List GuardReason :=
  if !unavailable then []
  else if observation.prospectiveEffect = .noProductWrite then
    [⟨"repository_observation_unavailable",
      "A stable pre-tool Product Repository snapshot is unavailable; the read-only-declared invocation may continue with an explicit unavailable observation.", .warn⟩]
  else
    [⟨"repository_observation_unavailable",
      "A stable pre-tool Product Repository snapshot is unavailable, so this write-capable or unknown-effect invocation is denied.", .deny⟩]

def preToolReasons (observation : ToolObservation) (unavailable : Bool) : List GuardReason :=
  (if observation.prospectiveEffect = .mayWriteProduct then
    outsideReasons observation ++ ticketReasons summary observation else []) ++
  unknownEffectReasons observation ++ observationReasons observation unavailable

def decisionOf (reasons : List GuardReason) : GuardPolicyDecision :=
  if reasons.any (·.severity = .deny) then .deny
  else if reasons.any (·.severity = .warn) then .continueWithWarning
  else .continue

def preToolDecision (observation : ToolObservation) (unavailable : Bool) :
    GuardPolicyDecision × List GuardReason :=
  let reasons := preToolReasons summary observation unavailable
  (decisionOf reasons, reasons)

/- What a decision that is no denial has checked. -/

theorem decisionOf_ne_deny {reasons : List GuardReason} (h : decisionOf reasons ≠ .deny) :
    ∀ reason ∈ reasons, reason.severity = .warn := by
  intro reason hmem
  by_contra hne
  apply h
  have hdeny : reason.severity = .deny := by
    cases hs : reason.severity with
    | deny => rfl
    | warn => exact absurd hs hne
  have hany : reasons.any (·.severity = .deny) = true :=
    List.any_eq_true.mpr ⟨reason, hmem, by simpa using hdeny⟩
  simp only [decisionOf, hany, if_true]

section
variable {summary : GuardStateSummary} {observation : ToolObservation}

theorem coverageReasons_warn
    (h : ∀ reason ∈ coverageReasons summary (writeTicketCoverage summary observation),
      reason.severity = .warn) :
    ∃ ticket ∈ summary.activeWriteTickets, ticket.coversAll observation.observedPaths := by
  cases hmatch : summary.activeWriteTickets.filter (·.coversAll observation.observedPaths) with
  | cons ticket rest =>
    have hmem : ticket ∈ summary.activeWriteTickets.filter
        (·.coversAll observation.observedPaths) := by simp [hmatch]
    exact ⟨ticket, (List.mem_filter.mp hmem).1, (List.mem_filter.mp hmem).2⟩
  | nil =>
    -- without a covering ticket every answer of `writeTicketCoverage` denies
    exfalso
    revert h
    unfold writeTicketCoverage coverageReasons
    simp only [hmatch]
    split_ifs <;> simp

theorem preToolDecision_ne_deny
    {unavailable : Bool} (hwrite : observation.prospectiveEffect = .mayWriteProduct)
    (h : (preToolDecision summary observation unavailable).1 ≠ .deny) :
    (∀ path ∈ observation.structuredPaths, path.insideRepo) ∧
    ∃ ticket ∈ summary.activeWriteTickets, ticket.coversAll observation.observedPaths := by
  have hwarn := decisionOf_ne_deny h
  simp only [preToolReasons, hwrite, if_true, List.mem_append] at hwarn
  constructor
  · intro path hpath
    by_contra hout
    have hany : observation.structuredPaths.any (!·.insideRepo) :=
      List.any_eq_true.mpr ⟨path, hpath, by simpa using hout⟩
    have hdeny := hwarn _ (.inl (.inl (.inl (by
      rw [outsideReasons, hany]
      exact List.mem_singleton_self _))))
    cases hdeny
  · have hticket : ∀ reason ∈ ticketReasons summary observation, reason.severity = .warn :=
      fun reason hr => hwarn reason (.inl (.inl (.inr hr)))
    unfold ticketReasons at hticket
    split at hticket
    · simp at hticket
    · exact coverageReasons_warn hticket

end

end Volicord.Guard
