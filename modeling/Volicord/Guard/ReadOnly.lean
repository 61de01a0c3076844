import Volicord.Guard.ToolEffect

/-! What the read-only verdict says of a Bash command: which options the program would still take
for one that writes a file or starts another program. -/
namespace Volicord.Guard

def shellSyntax : List Char := "|&;()<>\n\r\"'`\\$~*?[]\x7b\x7d!#^".toList

def blankWords (command : String) : List String :=
  ((command.toList.splitOnP [' ', '\t'].contains).filter (!·.isEmpty)).map String.ofList

/-- Words behind `--` are no options. -/
def optionWords (arguments : List String) : List String := arguments.takeWhile (· ≠ "--")

def longOptionName (word : String) : Option (List Char) :=
  (Text.strip "--" word).map fun rest => rest.toList.takeWhile (· ≠ '=')

def rgActiveOptions : List String := ["pre", "hostname-bin"]

def gitActiveOptions : List String := ["output", "ext-diff", "textconv", "filters"]

/-- Git takes an option of its table by its name, or by the start of no other option's name. -/
def gitResolves (table : List String) (word name : String) : Bool :=
  table.contains name && (longOptionName word).any fun given => given = name.toList ||
    (given.isPrefixOf name.toList
      && table.all fun other => other = name || !given.isPrefixOf other.toList)

variable (tables : String → List String)

/-- The words of a command that make its program write a file or start another program; the tables
are the long options of each Git subcommand. -/
def activeOptions : List String → List String
  | [] => []
  | program :: arguments =>
    if program = "rg" then (optionWords arguments).filter fun word =>
      rgActiveOptions.any fun name => longOptionName word = some name.toList
    else if program = "git" then (optionWords (arguments.drop 1)).filter fun word =>
      gitActiveOptions.any (gitResolves (tables (arguments.headD "")) word)
    else []

/-- A spelling the verdict lets pass: a shortened name, or a value attached to another option than
`--output`. -/
def misspells (word name : String) : Bool :=
  longOptionName word ≠ some name.toList || (name ≠ "output" && word ≠ "--" ++ name)

def missedOptions : List String → List String
  | [] => []
  | program :: arguments =>
    if program = "git" then (optionWords (arguments.drop 1)).filter fun word =>
      gitActiveOptions.any fun name =>
        gitResolves (tables (arguments.headD "")) word name && misspells word name
    else []

/- Words. -/

theorem splitOnP_congr {p q : Char → Bool} {text : List Char} (h : ∀ c ∈ text, p c = q c) :
    text.splitOnP p = text.splitOnP q := by
  induction text with
  | nil => rfl
  | cons c rest ih =>
    rw [List.splitOnP_cons_eq_if_modifyHead, List.splitOnP_cons_eq_if_modifyHead,
      h c List.mem_cons_self,
      ih fun d hd => h d (List.mem_cons_of_mem c hd)]

theorem not_simple_of_shellSyntax {c : Char} (h : c ∈ shellSyntax) :
    bashCharIsSimple c = false := by
  have hall : shellSyntax.all (fun c => !bashCharIsSimple c) = true := by decide +kernel
  simpa using List.all_eq_true.mp hall c h

theorem isAsciiWhitespace_of_simple {c : Char} (h : bashCharIsSimple c) :
    isAsciiWhitespace c = [' ', '\t'].contains c := by
  have hlines : c ∉ ['\n', '\x0c', '\r'] := by
    intro hc
    have hall : ['\n', '\x0c', '\r'].all (fun c => !bashCharIsSimple c) = true := by decide
    have hnot : bashCharIsSimple c = false := by simpa using List.all_eq_true.mp hall c hc
    rw [hnot] at h
    cases h
  simp only [List.mem_cons, List.not_mem_nil, or_false, not_or] at hlines
  simp [isAsciiWhitespace, hlines]

theorem blankWords_of_simple {command : String} (h : bashHasSimpleSyntax command) :
    blankWords command = splitAsciiWhitespace command := by
  rw [bashHasSimpleSyntax, Bool.and_eq_true, List.all_eq_true] at h
  rw [blankWords, splitAsciiWhitespace]
  rw [splitOnP_congr fun c hc => isAsciiWhitespace_of_simple (h.2 c hc)]

/- Options. -/

variable {word name : String}

/-- A word that names an option is the option, or has a value attached. -/
theorem exact_or_attached (h : longOptionName word = some name.toList) :
    word = "--" ++ name ∨ Text.startsWith word ("--" ++ name ++ "=") := by
  obtain ⟨rest, hstrip, hname⟩ := Option.map_eq_some_iff.mp h
  rw [Text.strip] at hstrip
  split_ifs at hstrip with hstart
  obtain ⟨tail, htail⟩ := List.isPrefixOf_iff_prefix.mp hstart
  have hword : word.toList = "--".toList ++ tail := htail.symm
  have hrest : rest.toList = tail := by
    rw [← Option.some.inj hstrip, hword]
    simp
  rw [hrest] at hname
  have hparts : tail = name.toList ++ tail.dropWhile (· ≠ '=') := by
    rw [← hname, List.takeWhile_append_dropWhile]
  cases hend : tail.dropWhile (· ≠ '=') with
  | nil =>
    left
    rw [← String.toList_inj, hword, hparts, hend]
    simp
  | cons c value =>
    right
    have hc : c = '=' := by
      have hhead := List.head?_dropWhile_not (· ≠ '=') tail
      rw [hend] at hhead
      simpa using hhead
    rw [Text.startsWith, List.isPrefixOf_iff_prefix, hword, hparts, hend, hc]
    exact ⟨value, by simp⟩

def rgDenies (argument : String) : Bool :=
  ["--pre", "--hostname-bin"].contains argument || Text.startsWith argument "--pre=" ||
    Text.startsWith argument "--hostname-bin="

def gitDenies (argument : String) : Bool :=
  ["--output", "--ext-diff", "--textconv", "--filters"].contains argument ||
    Text.startsWith argument "--output="

theorem bashIsReadOnly_rg (arguments : List String) :
    bashIsReadOnly ("rg" :: arguments) = !arguments.any rgDenies := by
  rw [bashIsReadOnly]
  rfl

theorem bashIsReadOnly_git {subcommand : String} {arguments : List String}
    (h : bashIsReadOnly ("git" :: subcommand :: arguments)) : arguments.any gitDenies = false := by
  simp only [bashIsReadOnly, Bool.and_eq_true, Bool.not_eq_true'] at h
  exact h.2

theorem rgDenies_of_active (hname : name ∈ rgActiveOptions)
    (h : longOptionName word = some name.toList) : rgDenies word := by
  have hcases : name = "pre" ∨ name = "hostname-bin" := by simpa [rgActiveOptions] using hname
  rcases exact_or_attached h with rfl | hstart
  · rcases hcases with rfl | rfl <;> decide +kernel
  · rcases hcases with rfl | rfl
    · have hpre : Text.startsWith word "--pre=" := hstart
      simp [rgDenies, hpre]
    · have hbin : Text.startsWith word "--hostname-bin=" := hstart
      simp [rgDenies, hbin]

theorem misspells_of_allowed (hword : gitDenies word = false) (hname : name ∈ gitActiveOptions) :
    misspells word name := by
  have hexact : word ≠ "--" ++ name := by
    rintro rfl
    have hdenied : ∀ name ∈ gitActiveOptions, gitDenies ("--" ++ name) := by decide +kernel
    rw [hdenied name hname] at hword
    cases hword
  by_cases hgiven : longOptionName word = some name.toList
  · rcases exact_or_attached hgiven with hsame | hstart
    · exact absurd hsame hexact
    · have houtput : name ≠ "output" := by
        rintro rfl
        have hvalue : Text.startsWith word "--output=" := hstart
        simp [gitDenies, hvalue] at hword
      simp [misspells, houtput, hexact]
  · simp [misspells, hgiven]

/-- Under the verdict the active options of a command are those spelt in a way it does not know. -/
theorem activeOptions_eq_missedOptions {words : List String} (h : bashIsReadOnly words) :
    activeOptions tables words = missedOptions tables words := by
  cases words with
  | nil => rfl
  | cons program arguments =>
    by_cases hrg : program = "rg"
    · subst hrg
      rw [bashIsReadOnly_rg, Bool.not_eq_true', List.any_eq_false] at h
      rw [activeOptions, missedOptions, if_pos rfl, if_neg (by decide), List.filter_eq_nil_iff]
      intro word hword hactive
      obtain ⟨name, hname, hgiven⟩ := List.any_eq_true.mp hactive
      exact h word ((List.takeWhile_sublist _).subset hword)
        (rgDenies_of_active hname (of_decide_eq_true hgiven))
    · by_cases hgit : program = "git"
      · subst hgit
        rw [activeOptions, missedOptions, if_neg (by decide), if_pos rfl, if_pos rfl]
        cases arguments with
        | nil => rfl
        | cons subcommand arguments =>
          have hallowed := List.any_eq_false.mp (bashIsReadOnly_git h)
          refine List.filter_congr fun word hword => ?_
          have hmember : word ∈ arguments := (List.takeWhile_sublist _).subset hword
          have hpasses : gitDenies word = false := Bool.eq_false_iff.mpr (hallowed word hmember)
          rw [Bool.eq_iff_iff, List.any_eq_true, List.any_eq_true]
          constructor
          · rintro ⟨name, hname, hresolves⟩
            refine ⟨name, hname, ?_⟩
            rw [hresolves, misspells_of_allowed hpasses hname]
            rfl
          · rintro ⟨name, hname, hboth⟩
            exact ⟨name, hname, (Bool.and_eq_true_iff.mp hboth).1⟩
      · rw [activeOptions, missedOptions, if_neg hrg, if_neg hgit, if_neg hgit]

/- The verdict. -/

theorem assessBashInput_readOnly {input : Json} {command : String}
    (h : (assessBashInput input).effect = .noProductWrite)
    (hcommand : (assessBashInput input).command = some command) :
    bashHasSimpleSyntax command ∧ bashIsReadOnly (splitAsciiWhitespace command) := by
  unfold assessBashInput at h hcommand
  split at h
  · cases h
  · rename_i text hfield
    simp only [hfield] at hcommand
    split_ifs at h hcommand <;> simp_all [bashAssessment]
  · cases h

/-- The command has no shell syntax beyond words, and no option of it writes a file or starts
another program. -/
structure PassiveCommand (command : String) : Prop where
  plain : ∀ c ∈ command.toList, c ∉ shellSyntax
  passive : activeOptions tables (blankWords command) = []

/-- The read-only verdict is right exactly for the commands that do not shorten the name of an
active Git option and do not attach a value to one other than `--output`. -/
theorem read_only_verdict_sound_iff (tables : String → List String) (input : Json) :
    (∀ command, (assessBashInput input).effect = .noProductWrite →
      (assessBashInput input).command = some command → PassiveCommand tables command) ↔
    ∀ command, (assessBashInput input).effect = .noProductWrite →
      (assessBashInput input).command = some command →
      missedOptions tables (blankWords command) = [] := by
  refine forall_congr' fun command => forall_congr' fun heffect => forall_congr' fun hcommand => ?_
  obtain ⟨hsimple, hreadOnly⟩ := assessBashInput_readOnly heffect hcommand
  have hactive : activeOptions tables (blankWords command)
      = missedOptions tables (blankWords command) := by
    rw [blankWords_of_simple hsimple]
    exact activeOptions_eq_missedOptions tables hreadOnly
  rw [← hactive]
  refine ⟨PassiveCommand.passive, fun hpassive => ⟨fun c hc hshell => ?_, hpassive⟩⟩
  rw [bashHasSimpleSyntax, Bool.and_eq_true, List.all_eq_true] at hsimple
  have hsimple := hsimple.2 c hc
  rw [not_simple_of_shellSyntax hshell] at hsimple
  cases hsimple

/-- The long options of `git cat-file`. -/
def gitCatFileOptions : List String :=
  ["textconv", "filters", "path", "batch", "batch-check", "batch-command", "batch-all-objects",
    "buffer", "unordered", "follow-symlinks", "allow-unknown-type", "mailmap", "use-mailmap"]

/-- `git cat-file --textc HEAD:f` runs the text conversion program under a read-only verdict. -/
theorem shortened_option_passes :
    (assessBashInput (.obj [("command", .str "git cat-file --textc HEAD:f")])).effect
      = .noProductWrite ∧
    activeOptions (fun _ => gitCatFileOptions) (blankWords "git cat-file --textc HEAD:f")
      = ["--textc"] := by
  decide +kernel

end Volicord.Guard
