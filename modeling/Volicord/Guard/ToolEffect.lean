import Volicord.Types.Json
import Volicord.Store.WorkflowPolicy

/-! The reviewed Codex native tools: the effect of one invocation on the Product Repository
and the target paths its input contract gives. -/
namespace Volicord.Guard
open Sorted

inductive CodexNativeGuardTool where
  | bash | applyPatch | edit | write
deriving DecidableEq

namespace CodexNativeGuardTool

def all : List CodexNativeGuardTool := [.bash, .applyPatch, .edit, .write]

def asStr : CodexNativeGuardTool → String
  | .bash => "Bash"
  | .applyPatch => "apply_patch"
  | .edit => "Edit"
  | .write => "Write"

def parse (value : String) : Option CodexNativeGuardTool := all.find? (·.asStr == value)

@[simp] theorem parse_asStr (tool : CodexNativeGuardTool) : parse tool.asStr = some tool := by
  cases tool <;> decide

end CodexNativeGuardTool

inductive ProductRepositoryEffect where
  | noProductWrite | mayWriteProduct | unknownProductEffect
deriving DecidableEq

inductive ToolTargetPathUnavailableReason where
  | missingRequiredField | malformedRequiredField | malformedPatch | ambiguousCommandTargets
  | unsupportedCommandSyntax

inductive ToolTargetPaths where
  | notApplicable
  | exact (paths : List String)
  | unavailable (reason : ToolTargetPathUnavailableReason)

def ToolTargetPaths.exactPaths : ToolTargetPaths → List String
  | .exact paths => paths
  | _ => []

inductive GuardToolIdentity where
  | codexNative (tool : CodexNativeGuardTool)
  | volicordMcp (callable : String)
  | foreign

structure ProductRepositoryToolEffectAssessment where
  identity : GuardToolIdentity
  effect : ProductRepositoryEffect
  targetPaths : ToolTargetPaths
  command : Option String

/-- `input.as_object()` and `object.get(field)` in one. -/
def requiredField (input : Json) (field : String) :
    Except ToolTargetPathUnavailableReason Json :=
  match input with
  | .obj members =>
    match members.lookup field with
    | some child => .ok child
    | none => .error .missingRequiredField
  | _ => .error .malformedRequiredField

def isTrimmedText (text : String) : Bool := !Text.isBlank text && Text.isTrimmed text

/- Bash. -/

def bashCharIsSimple (c : Char) : Bool :=
  (c.val < 128 && c.isAlphanum) ||
    [' ', '\t', '_', '-', '.', '/', ':', '@', '%', '+', '=', ','].contains c

def bashHasSimpleSyntax (command : String) : Bool :=
  !command.isEmpty && command.toList.all bashCharIsSimple

def isAsciiWhitespace (c : Char) : Bool := [' ', '\t', '\n', '\x0c', '\r'].contains c

def splitAsciiWhitespace (text : String) : List String :=
  ((text.toList.splitOnP isAsciiWhitespace).filter (!·.isEmpty)).map String.ofList

def bashIsReadOnly : List String → Bool
  | "pwd" :: _ | "ls" :: _ | "cat" :: _ | "grep" :: _ | "wc" :: _ | "head" :: _ | "tail" :: _
  | "stat" :: _ => true
  | "rg" :: arguments => !arguments.any fun argument =>
    ["--pre", "--hostname-bin"].contains argument || Text.startsWith argument "--pre=" ||
      Text.startsWith argument "--hostname-bin="
  | "git" :: subcommand :: arguments =>
    ["status", "diff", "log", "show", "rev-parse", "ls-files", "ls-tree", "cat-file",
      "check-ignore"].contains subcommand &&
    !arguments.any fun argument =>
      ["--output", "--ext-diff", "--textconv", "--filters"].contains argument ||
        Text.startsWith argument "--output="
  | _ => false

def bashIsWriteCapable (words : List String) : Bool :=
  match words with
  | [] => false
  | command :: rest =>
    if ["rm", "mv", "cp", "touch", "mkdir", "rmdir", "ln", "chmod", "chown", "truncate", "install",
        "tee"].contains command then true
    else match command, rest with
      | "sed", option :: _ => Text.startsWith option "-i"
      | "perl", option :: _ => Text.startsWith option "-pi"
      | "cargo", "fmt" :: _ => true
      | "git", subcommand :: _ =>
        ["add", "commit", "reset", "clean", "checkout", "switch", "rm", "mv", "apply", "merge",
          "rebase", "cherry-pick", "restore"].contains subcommand
      | _, _ => false

/-- The words the decoder takes for operands: those without a leading dash. -/
def bashOperands (arguments : List String) : List String :=
  (arguments.filter fun word => word == "--" || !Text.startsWith word "-").filter (· != "--")

inductive CommandShape where
  | everyOperand | copyLike | moveLike | inPlace | unreviewed

def commandShape (command : String) : CommandShape :=
  if ["touch", "mkdir", "rmdir", "rm", "tee"].contains command then .everyOperand
  else if ["cp", "ln", "install"].contains command then .copyLike
  else if command == "mv" then .moveLike
  else if ["sed", "perl"].contains command then .inPlace
  else .unreviewed

def exactOrMissing (paths : List String) : ToolTargetPaths :=
  if paths.isEmpty then .unavailable .missingRequiredField else .exact paths

def bashTargetPaths (words : List String) : ToolTargetPaths :=
  match words with
  | [] => .unavailable .malformedRequiredField
  | command :: arguments =>
    match commandShape command, bashOperands arguments with
    | .everyOperand, operands => exactOrMissing operands
    | .copyLike, [_, destination] => .exact [destination]
    | .moveLike, [source, destination] => .exact [source, destination]
    | .inPlace, operand :: operands => .exact (operand :: operands)
    | _, _ => .unavailable .ambiguousCommandTargets

def bashAssessment (effect : ProductRepositoryEffect) (targetPaths : ToolTargetPaths)
    (command : Option String) : ProductRepositoryToolEffectAssessment :=
  ⟨.codexNative .bash, effect, targetPaths, command⟩

def assessBashInput (input : Json) : ProductRepositoryToolEffectAssessment :=
  match requiredField input "command" with
  | .error reason => bashAssessment .unknownProductEffect (.unavailable reason) none
  | .ok (.str command) =>
    if !isTrimmedText command then
      bashAssessment .unknownProductEffect (.unavailable .malformedRequiredField) none
    else if !bashHasSimpleSyntax command then
      bashAssessment .unknownProductEffect (.unavailable .unsupportedCommandSyntax) (some command)
    else
      let words := splitAsciiWhitespace command
      if bashIsReadOnly words then
        bashAssessment .noProductWrite .notApplicable (some command)
      else if bashIsWriteCapable words then
        bashAssessment .mayWriteProduct (bashTargetPaths words) (some command)
      else
        bashAssessment .unknownProductEffect (.unavailable .unsupportedCommandSyntax) (some command)
  | .ok _ => bashAssessment .unknownProductEffect (.unavailable .malformedRequiredField) none

/- Edit and Write. -/

def decodeExactStringField (input : Json) (field : String) : ToolTargetPaths :=
  match requiredField input field with
  | .error reason => .unavailable reason
  | .ok (.str path) =>
    if isTrimmedText path then .exact [path] else .unavailable .malformedRequiredField
  | .ok _ => .unavailable .malformedRequiredField

/- apply_patch. -/

/-- `text.lines()`: a trailing newline ends the last line, `\r` goes with its `\n`. -/
def textLines (text : String) : List String :=
  let pieces := text.toList.splitOn '\n'
  let terminated := pieces.dropLast.map fun piece =>
    String.ofList (if piece.getLast? = some '\r' then piece.dropLast else piece)
  match pieces.getLast? with
  | some (c :: cs) => terminated ++ [String.ofList (c :: cs)]
  | _ => terminated

def patchHeaders : List String :=
  ["*** Update File: ", "*** Add File: ", "*** Delete File: ", "*** Move to: "]

def headerPaths (line : String) : List String :=
  patchHeaders.filterMap fun header => Text.strip header line

def beginPatch : String := "*** Begin Patch"
def endPatch : String := "*** End Patch"

def patchTargets (lines : List String) : ToolTargetPaths :=
  if lines.head? = some beginPatch ∧ lines.getLast? = some endPatch then
    let paths := (lines.drop 1).dropLast.flatMap headerPaths
    if paths.any fun path => path.isEmpty || !Text.isTrimmed path then .unavailable .malformedPatch
    else if paths.isEmpty then .unavailable .malformedPatch
    else .exact (sortDedup paths)
  else .unavailable .malformedPatch

def decodeApplyPatchTargets (input : Json) : ToolTargetPaths :=
  match requiredField input "patch" with
  | .error reason => .unavailable reason
  | .ok (.str patch) => patchTargets (textLines patch)
  | .ok _ => .unavailable .malformedRequiredField

/- The contract. -/

def identityEffect : CodexNativeGuardTool → ProductRepositoryEffect
  | .bash => .unknownProductEffect
  | .applyPatch | .edit | .write => .mayWriteProduct

def assessCodexNativeTool (tool : CodexNativeGuardTool) (input : Json) :
    ProductRepositoryToolEffectAssessment :=
  match tool with
  | .bash => assessBashInput input
  | .applyPatch =>
    ⟨.codexNative tool, identityEffect tool, decodeApplyPatchTargets input, none⟩
  | .edit | .write =>
    ⟨.codexNative tool, identityEffect tool, decodeExactStringField input "file_path", none⟩

abbrev McpToolCatalog := String → Option ProductRepositoryEffect

def McpToolCatalog.assess (catalog : McpToolCatalog) (toolName : String) (input : Json) :
    ProductRepositoryToolEffectAssessment :=
  match CodexNativeGuardTool.parse toolName with
  | some tool => assessCodexNativeTool tool input
  | none =>
    match catalog toolName with
    | some effect => ⟨.volicordMcp toolName, effect, .notApplicable, none⟩
    | none => ⟨.foreign, .unknownProductEffect, .notApplicable, none⟩

end Volicord.Guard
