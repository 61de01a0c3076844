import Volicord.Lib.TextSearch

/-! `managed_block.rs`: a block of text between two markers, written into a file the user owns. A
text is the list of its characters; an index outside of it is a panic. -/
namespace Volicord.ManagedBlock
open TextSearch

abbrev Text := List Char

/-- A pair of markers. Their common first character occurs in them only once, neither is the
beginning of the other, and they stay within a line. -/
structure Markers where
  lead : Char
  (startTail endTail : Text)
  lead_start : lead ∉ startTail
  lead_end : lead ∉ endTail
  apart : ∀ y, ¬ startTail <+: endTail ++ y ∧ ¬ endTail <+: startTail ++ y
  line_start : '\n' ∉ lead :: startTail
  line_end : '\n' ∉ lead :: endTail

variable (M : Markers)

def Markers.startMarker : Text := M.lead :: M.startTail
def Markers.endMarker : Text := M.lead :: M.endTail

theorem apart_of_mismatch {a b : Text} (h : a.isPrefixOf b = false ∧ b.isPrefixOf a = false) :
    ∀ y, ¬ a <+: b ++ y ∧ ¬ b <+: a ++ y := by
  have hside : ∀ {a b y : Text}, a.isPrefixOf b = false → b.isPrefixOf a = false →
      ¬ a <+: b ++ y := by
    intro a b y hab hba hprefix
    rcases List.prefix_or_prefix_of_prefix hprefix (List.prefix_append b y) with h | h
    · exact Bool.false_ne_true (hab.symm.trans (List.isPrefixOf_iff_prefix.mpr h))
    · exact Bool.false_ne_true (hba.symm.trans (List.isPrefixOf_iff_prefix.mpr h))
  exact fun y => ⟨hside h.1 h.2, hside h.2 h.1⟩

def pathMarkers : Markers where
  lead := '#'
  startTail := " BEGIN VOLICORD MANAGED PATH".toList
  endTail := " END VOLICORD MANAGED PATH".toList
  lead_start := by decide
  lead_end := by decide
  apart := apart_of_mismatch (by decide)
  line_start := by decide
  line_end := by decide

def guidanceMarkers : Markers where
  lead := '<'
  startTail := "!-- BEGIN VOLICORD MANAGED GUIDANCE -->".toList
  endTail := "!-- END VOLICORD MANAGED GUIDANCE -->".toList
  lead_start := by decide
  lead_end := by decide
  apart := apart_of_mismatch (by decide)
  line_start := by decide
  line_end := by decide

def gitExcludeMarkers : Markers where
  lead := '#'
  startTail := " BEGIN VOLICORD MANAGED LOCAL EXCLUDES".toList
  endTail := " END VOLICORD MANAGED LOCAL EXCLUDES".toList
  lead_start := by decide
  lead_end := by decide
  apart := apart_of_mismatch (by decide)
  line_start := by decide
  line_end := by decide

def codexRuleMarkers : Markers where
  lead := '#'
  startTail := " BEGIN VOLICORD MANAGED CODEX RULES".toList
  endTail := " END VOLICORD MANAGED CODEX RULES".toList
  lead_start := by decide
  lead_end := by decide
  apart := apart_of_mismatch (by decide)
  line_start := by decide
  line_end := by decide

inductive ManagedBlockError where
  | unterminated (startMarker : Text)
  | duplicate (startMarker : Text)

def pathExportBlock (pathExpr : Text) : Text :=
  pathMarkers.startMarker ++ "\nexport PATH=\"".toList ++ pathExpr ++ ":$PATH\"\n".toList
    ++ pathMarkers.endMarker ++ ['\n']

def endsWith (text ending : Text) : Bool := ending.isSuffixOf text

variable (text : Text)

def ensureTrailingNewline : Text :=
  if endsWith text ['\n'] then text else text ++ ['\n']

/-- `text[from..]`. -/
def sliceFrom (start : Nat) : Option Text :=
  if start ≤ text.length then some (text.drop start) else none

/-- `text[..to]`. -/
def sliceTo (stop : Nat) : Option Text :=
  if stop ≤ text.length then some (text.take stop) else none

/-- `left - right` on `usize`. -/
def checkedSub (left right : Nat) : Option Nat := if right ≤ left then some (left - right) else none

def lineEnding : Nat :=
  if ['\r', '\n'].isPrefixOf text then 2 else if ['\n'].isPrefixOf text then 1 else 0

def separated (existing : Text) : Text :=
  let updated := if !existing.isEmpty && !endsWith existing ['\n'] then existing ++ ['\n']
    else existing
  if !updated.isEmpty && !endsWith updated ['\n', '\n'] then updated ++ ['\n'] else updated

/-- `apply_managed_block_with_markers`; `none` is a panic. -/
def applyManagedBlockWithMarkers (existing block : Text) : Option (Except ManagedBlockError Text) :=
  let block := ensureTrailingNewline block
  let startCount := countMatches M.startMarker 0 existing
  let endCount := countMatches M.endMarker 0 existing
  if 1 < startCount || 1 < endCount then some (.error (.duplicate M.startMarker))
  else match find M.startMarker existing with
    | some start => do
      let fromStart ← sliceFrom existing start
      match find M.endMarker fromStart with
      | none => return .error (.unterminated M.startMarker)
      | some endFromStart => do
        let stop := start + endFromStart + M.endMarker.length
        let rest ← sliceFrom existing stop
        let stop := stop + lineEnding rest
        let replaced ← checkedSub stop start
        -- the capacity the new text is allocated with
        let _ ← checkedSub existing.length replaced
        let before ← sliceTo existing start
        let after ← sliceFrom existing stop
        return .ok (before ++ block ++ after)
    | none => some (.ok (separated existing ++ block))

/-- `apply_managed_block`, which expects a result. -/
def applyManagedBlock (existing block : Text) : Option Text :=
  match applyManagedBlockWithMarkers pathMarkers existing block with
  | some (.ok updated) => some updated
  | _ => none

variable {M}

theorem lineEnding_le : lineEnding text ≤ text.length := by
  unfold lineEnding
  split_ifs with h₁ h₂
  · simpa using (List.isPrefixOf_iff_prefix.mp h₁).length_le
  · simpa using (List.isPrefixOf_iff_prefix.mp h₂).length_le
  · exact Nat.zero_le _

/- How often a marker occurs. -/

def Markers.starts : Nat := positions M.startMarker text
def Markers.ends : Nat := positions M.endMarker text

variable (x y : Text)

theorem starts_split : M.starts (x ++ (M.startMarker ++ y)) = M.starts x + 1 + M.starts y :=
  positions_split M.lead_start x y

theorem ends_split : M.ends (x ++ (M.endMarker ++ y)) = M.ends x + 1 + M.ends y :=
  positions_split M.lead_end x y

theorem starts_endMarker : M.starts (x ++ (M.endMarker ++ y)) = M.starts x + M.starts y := by
  have hmismatch : ¬ M.startMarker.isPrefixOf (M.lead :: (M.endTail ++ y)) := by
    intro h
    rw [List.isPrefixOf_iff_prefix, Markers.startMarker, List.cons_prefix_cons] at h
    exact (M.apart y).1 h.2
  have hend : M.starts (M.lead :: (M.endTail ++ y)) = M.starts y := by
    rw [Markers.starts, positions, if_neg hmismatch, Nat.zero_add]
    exact positions_of_notMem M.lead_end y
  rw [Markers.endMarker, List.cons_append, Markers.starts, Markers.startMarker,
    positions_barrier M.lead_start, ← Markers.startMarker, ← Markers.starts, ← Markers.starts, hend]

theorem ends_startMarker : M.ends (x ++ (M.startMarker ++ y)) = M.ends x + M.ends y := by
  have hmismatch : ¬ M.endMarker.isPrefixOf (M.lead :: (M.startTail ++ y)) := by
    intro h
    rw [List.isPrefixOf_iff_prefix, Markers.endMarker, List.cons_prefix_cons] at h
    exact (M.apart y).2 h.2
  have hstart : M.ends (M.lead :: (M.startTail ++ y)) = M.ends y := by
    rw [Markers.ends, positions, if_neg hmismatch, Nat.zero_add]
    exact positions_of_notMem M.lead_start y
  rw [Markers.startMarker, List.cons_append, Markers.ends, Markers.endMarker,
    positions_barrier M.lead_end, ← Markers.endMarker, ← Markers.ends, ← Markers.ends, hstart]

theorem starts_newline : M.starts (x ++ '\n' :: y) = M.starts x + M.starts y := by
  have hline := M.line_start
  rw [List.mem_cons, not_or] at hline
  rw [Markers.starts, Markers.startMarker, positions_barrier hline.2, positions_cons_ne hline.1]
  rfl

theorem ends_newline : M.ends (x ++ '\n' :: y) = M.ends x + M.ends y := by
  have hline := M.line_end
  rw [List.mem_cons, not_or] at hline
  rw [Markers.ends, Markers.endMarker, positions_barrier hline.2, positions_cons_ne hline.1]
  rfl

theorem starts_drop (n : Nat) : M.starts (text.drop n) ≤ M.starts text := by
  have hle : M.starts (text.drop n) ≤ M.starts (text.take n ++ text.drop n) :=
    positions_le_append _ _
  rwa [List.take_append_drop] at hle

theorem ends_drop (n : Nat) : M.ends (text.drop n) ≤ M.ends text := by
  have hle : M.ends (text.drop n) ≤ M.ends (text.take n ++ text.drop n) := positions_le_append _ _
  rwa [List.take_append_drop] at hle

/- What the function does, case by case. -/

theorem countMatches_start : countMatches M.startMarker 0 text = M.starts text :=
  countMatches_eq_positions M.lead_start text

theorem countMatches_end : countMatches M.endMarker 0 text = M.ends text :=
  countMatches_eq_positions M.lead_end text

theorem apply_duplicate {existing : Text} (block : Text)
    (h : 1 < M.starts existing ∨ 1 < M.ends existing) :
    applyManagedBlockWithMarkers M existing block = some (.error (.duplicate M.startMarker)) := by
  have hcond : (decide (1 < M.starts existing) || decide (1 < M.ends existing)) = true := by
    simpa using h
  simp only [applyManagedBlockWithMarkers, countMatches_start, countMatches_end]
  rw [if_pos hcond]

theorem apply_append {existing : Text} (block : Text) (hstart : M.starts existing = 0)
    (hend : M.ends existing ≤ 1) : applyManagedBlockWithMarkers M existing block = some
    (.ok (separated existing ++ ensureTrailingNewline block)) := by
  have hcond : ¬ (decide (1 < M.starts existing) || decide (1 < M.ends existing)) = true := by
    simp only [Bool.or_eq_true, decide_eq_true_eq]
    omega
  have hfind : find M.startMarker existing = none := find_eq_none_iff.mpr hstart
  simp only [applyManagedBlockWithMarkers, countMatches_start, countMatches_end]
  rw [if_neg hcond, hfind]

theorem apply_unterminated {x y : Text} (block : Text) (hx : M.starts x = 0) (hy : M.starts y = 0)
    (hxend : M.ends x ≤ 1) (hend : M.ends y = 0) : applyManagedBlockWithMarkers M
    (x ++ (M.startMarker ++ y)) block = some (.error (.unterminated M.startMarker)) := by
  have hstarts : M.starts (x ++ (M.startMarker ++ y)) = 1 := by rw [starts_split, hx, hy]
  have hends : M.ends (x ++ (M.startMarker ++ y)) ≤ 1 := by
    rw [ends_startMarker]
    omega
  have hcond : ¬ (decide (1 < M.starts (x ++ (M.startMarker ++ y)))
      || decide (1 < M.ends (x ++ (M.startMarker ++ y)))) = true := by
    simp only [Bool.or_eq_true, decide_eq_true_eq]
    omega
  have hfind : find M.startMarker (x ++ (M.startMarker ++ y)) = some x.length :=
    find_of_split M.lead_start hx y
  have hslice : sliceFrom (x ++ (M.startMarker ++ y)) x.length = some (M.startMarker ++ y) := by
    simp [sliceFrom]
  have hmissing : find M.endMarker (M.startMarker ++ y) = none := by
    refine find_eq_none_iff.mpr ?_
    have hcount : M.ends ([] ++ (M.startMarker ++ y)) = M.ends [] + M.ends y :=
      ends_startMarker [] y
    rw [hend] at hcount
    exact hcount
  simp only [applyManagedBlockWithMarkers, countMatches_start, countMatches_end]
  rw [if_neg hcond, hfind]
  simp only [hslice, Option.bind_eq_bind, Option.bind_some, hmissing]
  rfl

/-- The block between the markers, and the line ending behind it, are replaced. -/
theorem apply_replace {x u v : Text} (block : Text) (hx : M.starts x = 0) (hu : M.starts u = 0)
    (hv : M.starts v = 0) (hxend : M.ends x = 0) (huend : M.ends u = 0) (hvend : M.ends v = 0) :
    applyManagedBlockWithMarkers M (x ++ (M.startMarker ++ (u ++ (M.endMarker ++ v)))) block
      = some (.ok (x ++ ensureTrailingNewline block ++ v.drop (lineEnding v))) := by
  have hstarts : M.starts (x ++ (M.startMarker ++ (u ++ (M.endMarker ++ v)))) = 1 := by
    rw [starts_split, starts_endMarker, hx, hu, hv]
  have hends : M.ends (x ++ (M.startMarker ++ (u ++ (M.endMarker ++ v)))) = 1 := by
    rw [ends_startMarker, ends_split, hxend, huend, hvend]
  have hfind : find M.startMarker (x ++ (M.startMarker ++ (u ++ (M.endMarker ++ v))))
      = some x.length := find_of_split M.lead_start hx _
  have hslice : sliceFrom (x ++ (M.startMarker ++ (u ++ (M.endMarker ++ v)))) x.length
      = some (M.startMarker ++ (u ++ (M.endMarker ++ v))) := by
    simp [sliceFrom]
  have hfront : M.ends (M.startMarker ++ u) = 0 := by
    have hcount : M.ends ([] ++ (M.startMarker ++ u)) = M.ends [] + M.ends u :=
      ends_startMarker [] u
    rw [huend] at hcount
    exact hcount
  have hfound : find M.endMarker (M.startMarker ++ (u ++ (M.endMarker ++ v)))
      = some (M.startMarker ++ u).length := by
    rw [← List.append_assoc]
    exact find_of_split M.lead_end hfront v
  have hrest : sliceFrom (x ++ (M.startMarker ++ (u ++ (M.endMarker ++ v))))
      (x.length + (M.startMarker ++ u).length + M.endMarker.length) = some v := by
    have hsplit : x ++ (M.startMarker ++ (u ++ (M.endMarker ++ v)))
        = (x ++ (M.startMarker ++ u) ++ M.endMarker) ++ v := by simp
    have hlength : (x ++ (M.startMarker ++ u) ++ M.endMarker).length
        = x.length + (M.startMarker ++ u).length + M.endMarker.length := by
      rw [List.length_append, List.length_append]
    rw [hsplit, ← hlength, sliceFrom, if_pos (by simp), List.drop_left]
  have hline := lineEnding_le v
  have hlength : (x ++ (M.startMarker ++ (u ++ (M.endMarker ++ v)))).length
      = x.length + (M.startMarker ++ u).length + M.endMarker.length + v.length := by
    simp only [List.length_append]
    omega
  have hafter : sliceFrom (x ++ (M.startMarker ++ (u ++ (M.endMarker ++ v))))
      (x.length + (M.startMarker ++ u).length + M.endMarker.length + lineEnding v)
      = some (v.drop (lineEnding v)) := by
    rw [sliceFrom, if_pos (by omega), Option.some.injEq]
    have hdrop := Option.some.inj ((if_pos (by omega)).symm.trans hrest)
    rw [← List.drop_drop, hdrop]
  have hreplaced : checkedSub
      (x.length + (M.startMarker ++ u).length + M.endMarker.length + lineEnding v) x.length
      = some ((M.startMarker ++ u).length + M.endMarker.length + lineEnding v) := by
    rw [checkedSub, if_pos (by omega), Option.some.injEq]
    omega
  have hcapacity : checkedSub (x ++ (M.startMarker ++ (u ++ (M.endMarker ++ v)))).length
      ((M.startMarker ++ u).length + M.endMarker.length + lineEnding v)
      = some (x.length + (v.length - lineEnding v)) := by
    rw [checkedSub, if_pos (by omega), Option.some.injEq]
    omega
  have hbefore : sliceTo (x ++ (M.startMarker ++ (u ++ (M.endMarker ++ v)))) x.length = some x := by
    simp [sliceTo]
  simp only [applyManagedBlockWithMarkers, countMatches_start, countMatches_end, hstarts, hends]
  rw [if_neg (by decide), hfind]
  simp only [hslice, Option.bind_eq_bind, Option.bind_some, hfound, hrest, hreplaced, hcapacity,
    hbefore, hafter]
  rfl

end Volicord.ManagedBlock
