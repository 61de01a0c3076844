import Volicord.Guard.PreTool

/-! What a tool invocation touches, and that the pre-tool decision lets it run only under a
Write Ticket. The tools are read by their usual argument conventions; a command runs from
the repository root. -/
namespace Volicord.Guard
open Sorted
variable {components : List PathComponent}

/- Where a path leads. -/

def resolveComponents (base : List String) : List PathComponent → List String
  | [] => base
  | .rootDir :: components => resolveComponents [] components
  | .curDir :: components => resolveComponents base components
  | .parentDir :: components => resolveComponents base.dropLast components
  | .normal name :: components => resolveComponents (base ++ [name]) components

/-- The names from the file-system root that a path given to a tool leads to. -/
def resolvePath (root : RepoRoot) (raw : String) : List String :=
  resolveComponents root.names (pathComponents raw)

/-- The repository-relative form of a path that leads into the repository. -/
def repositoryPath (root : RepoRoot) (raw : String) : Option String :=
  let resolved := resolvePath root raw
  if root.names.isPrefixOf resolved then some (joinNames (resolved.drop root.names.length))
  else none

theorem resolveComponents_append (base : List String) (first second : List PathComponent) :
    resolveComponents base (first ++ second) =
      resolveComponents (resolveComponents base first) second := by
  induction first generalizing base with
  | nil => rfl
  | cons component components ih => cases component <;> simp [resolveComponents, ih]

theorem resolveComponents_normal (base names : List String) :
    resolveComponents base (names.map .normal) = base ++ names := by
  induction names generalizing base with
  | nil => simp [resolveComponents]
  | cons name names ih => simp [resolveComponents, ih]

theorem resolveComponents_relative {names : List String} (h : relativeNames components = some names)
    (base : List String) : resolveComponents base components = base ++ names := by
  induction components generalizing base names with
  | nil =>
    cases h
    simp [resolveComponents]
  | cons component components ih =>
    cases component with
    | rootDir => cases h
    | parentDir => cases h
    | curDir => exact ih h base
    | normal name =>
      obtain ⟨rest, hrest, rfl⟩ := Option.map_eq_some_iff.mp h
      simp [resolveComponents, ih hrest]

theorem normalizedRelativePath_eq_some {text : String}
    (h : normalizedRelativePath components = some text) :
    ∃ names, relativeNames components = some names ∧ text = joinNames names := by
  unfold normalizedRelativePath at h
  split at h
  · rename_i name names hnames
    exact ⟨name :: names, hnames, (Option.some.inj h).symm⟩
  · cases h

theorem repositoryPath_of_assessPath {root : RepoRoot} {raw text : String}
    (h : (assessPath root raw).normalized = some text) : repositoryPath root raw = some text := by
  have hresolve : ∃ names, resolvePath root raw = root.names ++ names ∧ text = joinNames names := by
    unfold assessPath at h
    unfold resolvePath
    by_cases habs : (pathComponents raw).head? = some .rootDir
    · simp only [habs, if_true, Option.bind_eq_some_iff] at h
      obtain ⟨rest, hstrip, hnorm⟩ := h
      obtain ⟨names, hnames, rfl⟩ := normalizedRelativePath_eq_some hnorm
      have hsplit : pathComponents raw = root.components ++ rest := by
        unfold stripComponents at hstrip
        split at hstrip
        · rename_i hpre
          obtain ⟨tail, htail⟩ := List.isPrefixOf_iff_prefix.mp hpre
          rw [← htail] at hstrip ⊢
          simpa using hstrip
        · cases hstrip
      refine ⟨names, ?_, rfl⟩
      rw [hsplit, resolveComponents_append, RepoRoot.components]
      simp [resolveComponents, resolveComponents_normal, resolveComponents_relative hnames]
    · simp only [habs, if_false] at h
      obtain ⟨names, hnames, rfl⟩ := normalizedRelativePath_eq_some h
      exact ⟨names, resolveComponents_relative hnames _, rfl⟩
  obtain ⟨names, hnames, rfl⟩ := hresolve
  simp [repositoryPath, hnames]

/-- The path is inside the repository and authorized by an active ticket of the summary. -/
def writeIsCovered (summary : GuardStateSummary) (root : RepoRoot) (raw : String) : Bool :=
  (repositoryPath root raw).any fun path => summary.activeWriteTickets.any (·.covers path)

/- What the tools touch. -/

structure CommandArguments where
  (targetDirectories operands : List String)

/-- Words with a leading dash are options up to a word `--`; with `-t DIR` or
`--target-directory=DIR` a command that has the option is given its destination. -/
def readArguments (hasTargetOption : Bool) : List String → CommandArguments
  | [] => ⟨[], []⟩
  | word :: rest =>
    if word = "--" then ⟨[], rest⟩
    else if hasTargetOption && word == "-t" then
      match rest with
      | [] => ⟨[], []⟩
      | directory :: rest =>
        let arguments := readArguments hasTargetOption rest
        { arguments with targetDirectories := directory :: arguments.targetDirectories }
    else
      let arguments := readArguments hasTargetOption rest
      match (if hasTargetOption then Text.strip "--target-directory=" word else none) with
      | some directory =>
        { arguments with targetDirectories := directory :: arguments.targetDirectories }
      | none =>
        if Text.startsWith word "-" then arguments
        else { arguments with operands := word :: arguments.operands }

variable (unreviewed : List String → List String)

/-- The paths a write-capable command creates, modifies, renames or removes. The commands the
decoder does not review may do anything. -/
def commandTouches (words : List String) : List String :=
  match words with
  | [] => []
  | command :: arguments =>
    match commandShape command with
    | .everyOperand | .inPlace => (readArguments false arguments).operands
    | .copyLike =>
      let arguments := readArguments true arguments
      if arguments.targetDirectories.isEmpty then arguments.operands.getLast?.toList
      else arguments.targetDirectories
    | .moveLike =>
      let arguments := readArguments true arguments
      arguments.operands ++ arguments.targetDirectories
    | .unreviewed => unreviewed words

def invocationTouches (tool : CodexNativeGuardTool) (input : Json) : List String :=
  match tool with
  | .bash =>
    match requiredField input "command" with
    | .ok (.str command) => commandTouches unreviewed (splitAsciiWhitespace command)
    | _ => []
  | .applyPatch =>
    match requiredField input "patch" with
    | .ok (.str patch) => (textLines patch).flatMap headerPaths
    | _ => []
  | .edit | .write =>
    match requiredField input "file_path" with
    | .ok (.str path) => [path]
    | _ => []

/-- The touched paths that the decoded target set leaves out. -/
def undecodedTargets (tool : CodexNativeGuardTool) (input : Json) : List String :=
  (invocationTouches unreviewed tool input).filter fun path =>
    !(assessCodexNativeTool tool input).targetPaths.exactPaths.contains path

/-- No word behind `--` has a leading dash, and no word in front of it gives a destination. -/
def plainArguments (hasTargetOption : Bool) (arguments : List String) : Bool :=
  ((arguments.dropWhile (· != "--")).drop 1).all (!Text.startsWith · "-")
  && (!hasTargetOption || (arguments.takeWhile (· != "--")).all fun word =>
    word != "-t" && !Text.startsWith word "--target-directory=")

/-- The words of a Bash command are plain for the decoder; other tools have none. -/
def plainInvocation (tool : CodexNativeGuardTool) (input : Json) : Bool :=
  match tool, requiredField input "command" with
  | .bash, .ok (.str text) =>
    match splitAsciiWhitespace text with
    | [] => true
    | command :: arguments =>
      match commandShape command with
      | .everyOperand | .inPlace => plainArguments false arguments
      | .copyLike | .moveLike => plainArguments true arguments
      | .unreviewed => true
  | _, _ => true

section
variable {hasTargetOption : Bool} {arguments words : List String} {raw : String}

theorem bashOperands_eq (arguments : List String) :
    bashOperands arguments = arguments.filter (!Text.startsWith · "-") := by
  rw [bashOperands, List.filter_filter]
  refine List.filter_congr fun word _ => ?_
  by_cases h : word = "--"
  · subst h
    decide +kernel
  · rw [bne_iff_ne.mpr h, beq_eq_false_iff_ne.mpr h, Bool.true_and, Bool.false_or]

theorem plainArguments_cons {word : String} (hword : word ≠ "--")
    (h : plainArguments hasTargetOption (word :: arguments)) :
    plainArguments hasTargetOption arguments ∧ (hasTargetOption → word ≠ "-t" ∧
      Text.strip "--target-directory=" word = none) := by
  simp only [plainArguments, List.dropWhile_cons, List.takeWhile_cons, bne_iff_ne.mpr hword,
    if_true,
    List.all_cons, Bool.and_eq_true, Bool.or_eq_true, Bool.not_eq_true', bne_iff_ne] at h ⊢
  refine ⟨⟨h.1, h.2.imp_right (·.2)⟩, fun hoption => ?_⟩
  cases h.2 with
  | inl hnone => rw [hoption] at hnone; cases hnone
  | inr hwords => exact ⟨hwords.1.1, by simp [Text.strip, hwords.1.2]⟩

/-- Plain words are read as the decoder reads them. -/
theorem readArguments_plain (h : plainArguments hasTargetOption arguments) :
    readArguments hasTargetOption arguments = ⟨[], bashOperands arguments⟩ := by
  rw [bashOperands_eq]
  fun_induction readArguments hasTargetOption arguments with
  | case1 => rfl
  | case2 rest =>
    simp only [plainArguments, List.dropWhile_cons, bne_self_eq_false, Bool.false_eq_true, if_false,
      List.drop_one, List.tail_cons, Bool.and_eq_true, List.all_eq_true] at h
    rw [List.filter_cons_of_neg (by decide +kernel), List.filter_eq_self.mpr h.1]
  | case3 _ hword hoption =>
    obtain ⟨hoption, ht⟩ := Bool.and_eq_true_iff.mp hoption
    exact absurd (beq_iff_eq.mp ht) ((plainArguments_cons hword h).2 hoption).1
  | case4 _ hword hoption =>
    obtain ⟨hoption, ht⟩ := Bool.and_eq_true_iff.mp hoption
    exact absurd (beq_iff_eq.mp ht) ((plainArguments_cons hword h).2 hoption).1
  | case5 _ _ hword _ _ _ hstrip =>
    split_ifs at hstrip with hoption
    rw [((plainArguments_cons hword h).2 hoption).2] at hstrip
    cases hstrip
  | case6 _ _ hword _ _ _ hdash ih =>
    rw [List.filter_cons_of_neg (by simpa using hdash), ← ih (plainArguments_cons hword h).1]
  | case7 _ rest hword _ _ _ hdash ih =>
    change CommandArguments.mk (readArguments hasTargetOption rest).targetDirectories
      (_ :: (readArguments hasTargetOption rest).operands) = _
    rw [List.filter_cons_of_pos (by simpa using hdash), ih (plainArguments_cons hword h).1]

/-- What a command with plain words touches, the decoder gives, or it gives nothing. -/
theorem mem_bashTargets {command : String}
    (hplain : (match commandShape command with
      | .everyOperand | .inPlace => plainArguments false arguments
      | .copyLike | .moveLike => plainArguments true arguments
      | .unreviewed => true) = true)
    (hexact : (bashTargetPaths (command :: arguments)).exactPaths ≠ [])
    (hraw : raw ∈ commandTouches unreviewed (command :: arguments)) :
    raw ∈ (bashTargetPaths (command :: arguments)).exactPaths := by
  simp only [commandTouches, bashTargetPaths] at hraw hexact ⊢
  revert hplain hexact hraw
  cases commandShape command with
  | everyOperand | inPlace =>
    intro hplain _ hraw
    rw [readArguments_plain hplain] at hraw
    revert hraw
    cases bashOperands arguments <;> exact id
  | copyLike | moveLike =>
    -- exactly one source and one destination, or the targets are ambiguous
    intro hplain hexact hraw
    rw [readArguments_plain hplain] at hraw
    revert hexact hraw
    rcases bashOperands arguments with _ | ⟨_, _ | ⟨_, _ | ⟨_, _⟩⟩⟩ <;> intro hexact hraw
    case cons.cons.nil => exact hraw
    all_goals exact absurd rfl hexact
  | unreviewed => exact fun _ hexact => absurd rfl hexact

/-- The lines around a patch name no file. -/
theorem mem_patchTargets {lines : List String} (hraw : raw ∈ lines.flatMap headerPaths)
    (hexact : (patchTargets lines).exactPaths ≠ []) : raw ∈ (patchTargets lines).exactPaths := by
  simp only [patchTargets] at hexact ⊢
  split_ifs at hexact ⊢ with hends
  any_goals exact absurd rfl hexact
  rw [ToolTargetPaths.exactPaths, mem_sortDedup]
  obtain ⟨line, hline, hpath⟩ := List.mem_flatMap.mp hraw
  refine List.mem_flatMap.mpr ⟨line, ?_, hpath⟩
  have hother : line ≠ beginPatch ∧ line ≠ endPatch := by
    constructor <;>
    · rintro rfl
      rw [show headerPaths _ = [] by decide +kernel] at hpath
      cases hpath
  cases lines with
  | nil => cases hline
  | cons first rest =>
    have hrest : line ∈ rest :=
      List.mem_of_ne_of_mem (fun h => hother.1 (h.trans (Option.some.inj hends.1))) hline
    have hlast : rest.getLast? = some endPatch := by
      cases rest with
      | nil => cases hrest
      | cons => rw [← hends.2, List.getLast?_cons_cons]
    rw [← List.dropLast_append_getLast? _ hlast] at hrest
    exact (List.mem_append.mp hrest).resolve_right fun h => hother.2 (List.mem_singleton.mp h)

theorem undecodedTargets_plain {tool : CodexNativeGuardTool} {input : Json}
    (hplain : plainInvocation tool input)
    (hexact : (assessCodexNativeTool tool input).targetPaths.exactPaths ≠ []) :
    undecodedTargets unreviewed tool input = [] := by
  refine List.filter_eq_nil_iff.mpr fun raw hraw => ?_
  rw [Bool.not_eq_true', Bool.not_eq_false, List.contains_iff_mem]
  cases tool with
  | edit | write =>
    simp only [invocationTouches, assessCodexNativeTool, decodeExactStringField] at hraw hexact ⊢
    split at hraw
    · rename_i hpath
      rw [hpath] at hexact ⊢
      dsimp only at hexact ⊢
      split_ifs at hexact ⊢
      · exact hraw
      · exact absurd rfl hexact
    · cases hraw
  | applyPatch =>
    simp only [invocationTouches, assessCodexNativeTool, decodeApplyPatchTargets] at hraw hexact ⊢
    split at hraw
    · rename_i hpatch
      rw [hpatch] at hexact ⊢
      exact mem_patchTargets hraw hexact
    · cases hraw
  | bash =>
    simp only [invocationTouches, assessCodexNativeTool, assessBashInput] at hraw hexact ⊢
    split at hraw
    · rename_i text htext
      simp only [plainInvocation, htext] at hplain hexact ⊢
      split_ifs at hexact ⊢
      any_goals exact absurd rfl hexact
      cases hwords : splitAsciiWhitespace text with
      | nil => rw [hwords] at hraw; cases hraw
      | cons command arguments =>
        rw [hwords] at hplain hexact hraw
        exact mem_bashTargets unreviewed hplain hexact hraw
    · cases hraw

end

/- The gate. -/

theorem toolObservation_native (catalog : McpToolCatalog) (root : RepoRoot)
    (tool : CodexNativeGuardTool) (input : Json) :
    (toolObservation catalog root tool.asStr input).prospectiveEffect =
      (assessCodexNativeTool tool input).effect ∧
    (toolObservation catalog root tool.asStr input).structuredPaths =
      assessDecodedPaths root (assessCodexNativeTool tool input).targetPaths.exactPaths := by
  simp [toolObservation, McpToolCatalog.assess]

/-- A write that is not denied has every decoded target under one active ticket. -/
theorem decodedTargets_covered {summary : GuardStateSummary} {root : RepoRoot}
    {catalog : McpToolCatalog} {tool : CodexNativeGuardTool} {input : Json} {unavailable : Bool}
    (hwrite : (assessCodexNativeTool tool input).effect = .mayWriteProduct)
    (h : (preToolDecision summary (toolObservation catalog root tool.asStr input) unavailable).1 ≠
      .deny) :
    ∃ ticket ∈ summary.activeWriteTickets,
      (assessCodexNativeTool tool input).targetPaths.exactPaths ≠ [] ∧
      ∀ raw ∈ (assessCodexNativeTool tool input).targetPaths.exactPaths,
        ∃ path, repositoryPath root raw = some path ∧ ticket.covers path := by
  obtain ⟨heffect, hpaths⟩ := toolObservation_native catalog root tool input
  obtain ⟨hinside, ticket, hticket, hcovers⟩ := preToolDecision_ne_deny (heffect.trans hwrite) h
  refine ⟨ticket, hticket, fun hnone => ?_, fun raw hraw => ?_⟩
  · rw [ActiveWriteTicketSummary.coversAll, ToolObservation.observedPaths, hpaths, hnone] at hcovers
    cases hcovers
  have hmem : assessPath root raw ∈
      (toolObservation catalog root tool.asStr input).structuredPaths := by
    rw [hpaths]
    exact List.mem_map_of_mem hraw
  have hin := hinside _ hmem
  obtain ⟨path, hpath⟩ := Option.isSome_iff_exists.mp hin
  refine ⟨path, repositoryPath_of_assessPath hpath, ?_⟩
  apply ActiveWriteTicketSummary.covers_of_coversAll hcovers
  unfold ToolObservation.observedPaths normalizedObservedPaths
  rw [mem_sortDedup]
  exact List.mem_filterMap.mpr ⟨_, List.mem_filter.mpr ⟨hmem, hin⟩, hpath⟩

def sourceTicketSummary : GuardStateSummary where
  activeTaskId := some "task"
  policyControlReevaluation := none
  activeWriteTickets := [⟨"ticket", "unit", ["src"], [], none, false⟩]
  policyStaleWriteTickets := []

def bashInput (command : String) : Json := .obj [("command", .str command)]

end Volicord.Guard
