import Volicord.Cli.ManagedBlock

/-! What writing a managed block into a file keeps, and for which blocks and files. -/
namespace Volicord.ManagedBlock
open TextSearch
variable {M : Markers} {after before block existing updated : Text}

/-- Either marker occurs once, the start marker first. -/
def Marked (M : Markers) (block : Text) : Prop :=
  (∃ lead body rest, block = lead ++ (M.startMarker ++ (body ++ (M.endMarker ++ rest)))) ∧
    M.starts block = 1 ∧ M.ends block = 1

/-- The block is one line from the start marker to the end marker and its line ending: nothing else
surrounds the markers. -/
def Framed (M : Markers) (block : Text) : Prop :=
  ∃ body ending, ensureTrailingNewline block
      = M.startMarker ++ (body ++ (M.endMarker ++ ending)) ∧
    (ending = ['\n'] ∨ ending = ['\r', '\n'])

structure BlockLaws (M : Markers) (existing block updated : Text) : Prop where
  one : M.starts updated = 1 ∧ M.ends updated = 1
  surrounds : ∃ before after, updated = before ++ ensureTrailingNewline block ++ after ∧
    ((∃ old ending, existing = before
      ++ (M.startMarker ++ (old ++ (M.endMarker ++ (ending ++ after))))
        ∧ (ending = [] ∨ ending = ['\n'] ∨ ending = ['\r', '\n'])) ∨
      after = [] ∧ ∃ newlines, before = existing ++ newlines ∧
        (newlines = [] ∨ newlines = ['\n'] ∨ newlines = ['\n', '\n']))
  again : applyManagedBlockWithMarkers M updated block = some (.ok updated)
  instead : ∀ other, applyManagedBlockWithMarkers M updated other
    = applyManagedBlockWithMarkers M existing other

/- Texts and their line endings. -/

theorem lineEnding_cases (text : Text) : ∃ ending, text = ending ++ text.drop (lineEnding text) ∧
      (ending = [] ∨ ending = ['\n'] ∨ ending = ['\r', '\n']) := by
  refine ⟨text.take (lineEnding text), (List.take_append_drop _ _).symm, ?_⟩
  unfold lineEnding
  split_ifs with hcrlf hlf
  · obtain ⟨rest, rfl⟩ := List.isPrefixOf_iff_prefix.mp hcrlf
    exact .inr (.inr rfl)
  · obtain ⟨rest, rfl⟩ := List.isPrefixOf_iff_prefix.mp hlf
    exact .inr (.inl rfl)
  · exact .inl rfl

theorem drop_lineEnding {ending : Text} (h : ending = ['\n'] ∨ ending = ['\r', '\n'])
    (rest : Text) :
    (ending ++ rest).drop (lineEnding (ending ++ rest)) = rest := by
  rcases h with rfl | rfl <;> simp [lineEnding, List.isPrefixOf]

theorem ensureTrailingNewline_endsWith (text : Text) :
    ∃ front, ensureTrailingNewline text = front ++ ['\n'] := by
  unfold ensureTrailingNewline
  split_ifs with h
  · obtain ⟨front, hfront⟩ := List.isSuffixOf_iff_suffix.mp h
    exact ⟨front, hfront.symm⟩
  · exact ⟨text, rfl⟩

theorem ensureTrailingNewline_append {front rest : Text} (hfront : ¬ endsWith front ['\n']) :
    ensureTrailingNewline (front ++ rest) = front ++ ensureTrailingNewline rest := by
  unfold ensureTrailingNewline
  cases rest with
  | nil =>
    have hnil : ¬ endsWith [] ['\n'] := by decide
    rw [List.append_nil, if_neg hfront, if_neg hnil, List.nil_append]
  | cons c rest =>
    have hsame : endsWith (front ++ c :: rest) ['\n'] = endsWith (c :: rest) ['\n'] := by
      rw [Bool.eq_iff_iff]
      simp only [endsWith, List.isSuffixOf_iff_suffix, List.singleton_suffix_iff_getLast?_eq_some,
        List.getLast?_append_cons]
    rw [hsame]
    split_ifs <;> simp

theorem ensureTrailingNewline_counts (block : Text) : M.starts (ensureTrailingNewline block) =
    M.starts block ∧ M.ends (ensureTrailingNewline block) = M.ends block := by
  unfold ensureTrailingNewline
  split_ifs
  · exact ⟨rfl, rfl⟩
  · rw [starts_newline, ends_newline]
    exact ⟨rfl, rfl⟩

section
variable (existing : Text)

theorem separated_cases : ∃ newlines, separated existing = existing ++ newlines ∧
    (newlines = [] ∨ newlines = ['\n'] ∨ newlines = ['\n', '\n']) := by
  unfold separated
  dsimp only
  split_ifs
  · exact ⟨['\n', '\n'], by simp, .inr (.inr rfl)⟩
  · exact ⟨['\n'], rfl, .inr (.inl rfl)⟩
  · exact ⟨['\n'], rfl, .inr (.inl rfl)⟩
  · exact ⟨[], by simp, .inl rfl⟩

theorem separated_counts : M.starts (separated existing) = M.starts existing ∧
      M.ends (separated existing) = M.ends existing := by
  obtain ⟨newlines, heq, rfl | rfl | rfl⟩ := separated_cases existing <;> rw [heq]
  · rw [List.append_nil]
    exact ⟨rfl, rfl⟩
  · rw [starts_newline, ends_newline]
    exact ⟨rfl, rfl⟩
  · have hstarts : M.starts ['\n'] = 0 := starts_newline [] []
    have hends : M.ends ['\n'] = 0 := ends_newline [] []
    rw [starts_newline, ends_newline, hstarts, hends]
    exact ⟨rfl, rfl⟩

/- The ways a file can be. -/

/-- A file with at most one of each marker has no start marker, or a start marker that no end marker
follows, or one block. -/
theorem existing_cases (hstart : M.starts existing ≤ 1) (hend : M.ends existing ≤ 1) :
    M.starts existing = 0 ∨
    (∃ x y, existing = x ++ (M.startMarker ++ y) ∧ M.starts x = 0 ∧ M.starts y = 0 ∧
      M.ends x ≤ 1 ∧ M.ends y = 0) ∨
    ∃ x u v, existing = x ++ (M.startMarker ++ (u ++ (M.endMarker ++ v))) ∧
      M.starts x = 0 ∧ M.starts u = 0 ∧ M.starts v = 0 ∧ M.ends x = 0 ∧ M.ends u = 0 ∧
      M.ends v = 0 := by
  cases hfind : find M.startMarker existing with
  | none => exact .inl (find_eq_none_iff.mp hfind)
  | some i =>
    obtain ⟨x, y, rfl, _, _⟩ := find_eq_some hfind
    change M.starts (x ++ (M.startMarker ++ y)) ≤ 1 at hstart
    change M.ends (x ++ (M.startMarker ++ y)) ≤ 1 at hend
    rw [starts_split] at hstart
    rw [ends_startMarker] at hend
    cases hfound : find M.endMarker y with
    | none =>
      have hmissing : M.ends y = 0 := find_eq_none_iff.mp hfound
      exact .inr (.inl ⟨x, y, rfl, by omega, by omega, by omega, hmissing⟩)
    | some j =>
      obtain ⟨u, v, rfl, _, _⟩ := find_eq_some hfound
      change M.starts x + 1 + M.starts (u ++ (M.endMarker ++ v)) ≤ 1 at hstart
      change M.ends x + M.ends (u ++ (M.endMarker ++ v)) ≤ 1 at hend
      rw [starts_endMarker] at hstart
      rw [ends_split] at hend
      exact .inr (.inr ⟨x, u, v, rfl, by omega, by omega, by omega, by omega, by omega, by omega⟩)

end

/-- A call that gives a text replaced one block, or appended to a file without a start marker. -/
theorem apply_ok (h : applyManagedBlockWithMarkers M existing block = some (.ok updated)) :
    (M.starts existing = 0 ∧ M.ends existing ≤ 1 ∧
      updated = separated existing ++ ensureTrailingNewline block) ∨
    ∃ x u v, existing = x ++ (M.startMarker ++ (u ++ (M.endMarker ++ v))) ∧
      M.starts x = 0 ∧ M.starts v = 0 ∧ M.ends x = 0 ∧ M.ends v = 0 ∧
      (∀ other, applyManagedBlockWithMarkers M existing other
        = some (.ok (x ++ ensureTrailingNewline other ++ v.drop (lineEnding v)))) ∧
      updated = x ++ ensureTrailingNewline block ++ v.drop (lineEnding v) := by
  by_cases hmany : 1 < M.starts existing ∨ 1 < M.ends existing
  · rw [apply_duplicate block hmany] at h
    cases h
  rw [not_or, not_lt, not_lt] at hmany
  rcases existing_cases existing hmany.1 hmany.2 with
    hnone | ⟨x, y, rfl, hx, hy, hxend, hyend⟩ | ⟨x, u, v, rfl, hx, hu, hv, hxend, huend, hvend⟩
  · rw [apply_append block hnone hmany.2] at h
    exact .inl ⟨hnone, hmany.2, (Except.ok.inj (Option.some.inj h)).symm⟩
  · rw [apply_unterminated block hx hy hxend hyend] at h
    cases h
  · refine .inr ⟨x, u, v, rfl, hx, hv, hxend, hvend, fun other =>
      apply_replace other hx hu hv hxend huend hvend, ?_⟩
    rw [apply_replace block hx hu hv hxend huend hvend] at h
    exact (Except.ok.inj (Option.some.inj h)).symm

/-- Writing over a framed block that nothing but marker-free text surrounds. -/
theorem apply_over_framed (hframed : Framed M block)
    (hmarked : M.starts block = 1 ∧ M.ends block = 1)
    (hbefore : M.starts before = 0 ∧ M.ends before = 0)
    (hafter : M.starts after = 0 ∧ M.ends after = 0) (other : Text) :
    M.starts (before ++ ensureTrailingNewline block ++ after) = 1 ∧
    M.ends (before ++ ensureTrailingNewline block ++ after) = 1 ∧
    applyManagedBlockWithMarkers M (before ++ ensureTrailingNewline block ++ after) other
      = some (.ok (before ++ ensureTrailingNewline other ++ after)) := by
  obtain ⟨body, ending, hblock, hending⟩ := hframed
  obtain ⟨hstarts, hends⟩ := ensureTrailingNewline_counts (M := M) block
  rw [hblock, ← List.nil_append (M.startMarker ++ _), starts_split, starts_endMarker] at hstarts
  rw [hblock, ← List.nil_append (M.startMarker ++ _), ends_startMarker, ends_split] at hends
  have hrest : M.starts (ending ++ after) = 0 ∧ M.ends (ending ++ after) = 0 := by
    rcases hending with rfl | rfl
    · have hs : M.starts ([] ++ '\n' :: after) = M.starts [] + M.starts after :=
        starts_newline [] after
      have he : M.ends ([] ++ '\n' :: after) = M.ends [] + M.ends after := ends_newline [] after
      rw [hafter.1] at hs
      rw [hafter.2] at he
      exact ⟨hs, he⟩
    · have hs : M.starts (['\r'] ++ '\n' :: after) = M.starts ['\r'] + M.starts after :=
        starts_newline _ _
      have he : M.ends (['\r'] ++ '\n' :: after) = M.ends ['\r'] + M.ends after := ends_newline _ _
      have hs' : M.starts (['\r'] ++ '\n' :: []) = M.starts ['\r'] + M.starts [] :=
        starts_newline _ _
      have he' : M.ends (['\r'] ++ '\n' :: []) = M.ends ['\r'] + M.ends [] := ends_newline _ _
      change M.starts ['\r', '\n'] = _ at hs'
      change M.ends ['\r', '\n'] = _ at he'
      refine ⟨?_, ?_⟩
      · change M.starts (['\r'] ++ '\n' :: after) = 0
        omega
      · change M.ends (['\r'] ++ '\n' :: after) = 0
        omega
  have htext : before ++ ensureTrailingNewline block ++ after
      = before ++ (M.startMarker ++ (body ++ (M.endMarker ++ (ending ++ after)))) := by
    rw [hblock]
    simp only [List.append_assoc]
  have hbody : M.starts body = 0 ∧ M.ends body = 0 := by constructor <;> omega
  rw [htext]
  refine ⟨?_, ?_, ?_⟩
  · rw [starts_split, starts_endMarker, hbefore.1, hbody.1, hrest.1]
  · rw [ends_startMarker, ends_split, hbefore.2, hbody.2, hrest.2]
  · rw [apply_replace other hbefore.1 hbody.1 hrest.1 hbefore.2 hbody.2 hrest.2,
      drop_lineEnding hending]

/-- A framed block, in a file without an end marker of its own, is written lawfully. -/
theorem laws_of_framed (hmarked : Marked M block)
    (h : applyManagedBlockWithMarkers M existing block = some (.ok updated))
    (hframed : Framed M block) (horphan : M.starts existing = 0 → M.ends existing = 0) :
    BlockLaws M existing block updated := by
  rcases apply_ok h with ⟨hnone, hend, rfl⟩ | ⟨x, u, v, rfl, hx, hv, hxend, hvend, hothers, rfl⟩
  · have hbefore : M.starts (separated existing) = 0 ∧ M.ends (separated existing) = 0 := by
      rw [(separated_counts existing).1, (separated_counts existing).2]
      exact ⟨hnone, horphan hnone⟩
    have hnil : M.starts [] = 0 ∧ M.ends [] = 0 := ⟨rfl, rfl⟩
    have hover := fun other => apply_over_framed hframed hmarked.2 hbefore hnil other
    simp only [List.append_nil] at hover
    obtain ⟨newlines, hnewlines, hcases⟩ := separated_cases existing
    refine ⟨⟨(hover block).1, (hover block).2.1⟩, ⟨separated existing, [], by simp, .inr ⟨rfl,
      newlines, hnewlines, hcases⟩⟩, (hover block).2.2, fun other => ?_⟩
    rw [(hover other).2.2, apply_append other hnone hend]
  · have hafter : M.starts (v.drop (lineEnding v)) = 0 ∧ M.ends (v.drop (lineEnding v)) = 0 := by
      have hs := starts_drop (M := M) v (lineEnding v)
      have he := ends_drop (M := M) v (lineEnding v)
      constructor <;> omega
    have hover := fun other => apply_over_framed hframed hmarked.2 ⟨hx, hxend⟩ hafter other
    obtain ⟨ending, hv', hcases⟩ := lineEnding_cases v
    refine ⟨⟨(hover block).1, (hover block).2.1⟩, ⟨x, v.drop (lineEnding v), rfl, .inl ⟨u, ending,
      ?_, hcases⟩⟩, (hover block).2.2, fun other => ?_⟩
    · rw [← hv']
    · rw [(hover other).2.2, hothers]

theorem endsWith_endMarker (front : Text) : ¬ endsWith (front ++ M.endMarker) ['\n'] := by
  intro h
  have hlast := List.isSuffixOf_iff_suffix.mp h
  have hmem : '\n' ∈ M.endMarker := by
    rw [List.singleton_suffix_iff_getLast?_eq_some, Markers.endMarker,
      List.getLast?_append_cons] at hlast
    exact List.mem_of_getLast? hlast
  exact M.line_end hmem

/-- If the second application changes nothing, nothing but one line ending surrounds the markers. -/
theorem framed_of_again (hmarked : Marked M block)
    (hstarts : M.starts (before ++ ensureTrailingNewline block ++ after) = 1)
    (hends : M.ends (before ++ ensureTrailingNewline block ++ after) = 1)
    (hagain : applyManagedBlockWithMarkers M (before ++ ensureTrailingNewline block ++ after) block
      = some (.ok (before ++ ensureTrailingNewline block ++ after))) : Framed M block := by
  obtain ⟨⟨lead, body, rest, rfl⟩, _⟩ := hmarked
  have hblock : ensureTrailingNewline (lead ++ (M.startMarker ++ (body ++ (M.endMarker ++ rest))))
      = lead ++ (M.startMarker ++ (body ++ (M.endMarker ++ ensureTrailingNewline rest))) := by
    have hsplit : ∀ tail : Text, lead ++ (M.startMarker ++ (body ++ (M.endMarker ++ tail)))
        = (lead ++ M.startMarker ++ body ++ M.endMarker) ++ tail := fun tail => by simp
    rw [hsplit, hsplit, ensureTrailingNewline_append (endsWith_endMarker _)]
  generalize hending : ensureTrailingNewline rest = ending at hblock
  have htext : before ++ ensureTrailingNewline (lead
    ++ (M.startMarker ++ (body ++ (M.endMarker ++ rest))))
        ++ after
      = (before ++ lead) ++ (M.startMarker ++ (body ++ (M.endMarker ++ (ending ++ after)))) := by
    rw [hblock]
    simp only [List.append_assoc]
  rw [htext] at hstarts hends
  rw [starts_split, starts_endMarker] at hstarts
  rw [ends_startMarker, ends_split] at hends
  -- the second application replaces from the start marker to the line ending
  have happly := apply_replace (M := M) (x := before ++ lead) (u := body) (v := ending ++ after)
    (lead ++ (M.startMarker ++ (body ++ (M.endMarker ++ rest))))
    (by omega) (by omega) (by omega) (by omega) (by omega) (by omega)
  rw [← htext, hagain] at happly
  have hlengths := congrArg List.length (Except.ok.inj (Option.some.inj happly))
  have hline := lineEnding_le (ending ++ after)
  simp only [List.length_append, List.length_drop] at hlengths hline
  obtain ⟨front, hfront⟩ := ensureTrailingNewline_endsWith rest
  rw [hending] at hfront
  subst hfront
  simp only [List.length_append, List.length_singleton] at hlengths hline
  have hcases : lead = [] ∧ (front = [] ∨ front = ['\r']) := by
    revert hlengths hline
    unfold lineEnding
    split_ifs with hcrlf hlf
    · obtain ⟨tail, htail⟩ := List.isPrefixOf_iff_prefix.mp hcrlf
      intro hlengths hline
      cases front with
      | nil => simp at htail
      | cons c front =>
        have hc : c = '\r' := by
          simp only [List.cons_append, List.cons.injEq] at htail
          exact htail.1.symm
        subst hc
        simp only [List.length_cons] at hlengths hline
        exact ⟨List.length_eq_zero_iff.mp (by omega), .inr (by
          rw [List.length_eq_zero_iff.mp (show front.length = 0 by omega)])⟩
    · intro hlengths hline
      exact ⟨List.length_eq_zero_iff.mp (by omega), .inl (List.length_eq_zero_iff.mp (by omega))⟩
    · intro hlengths hline
      omega
  obtain ⟨rfl, hfront⟩ := hcases
  refine ⟨body, front ++ ['\n'], by simpa using hblock, ?_⟩
  rcases hfront with rfl | rfl
  · exact .inl rfl
  · exact .inr rfl

theorem framed_of_laws (hmarked : Marked M block)
    (h : applyManagedBlockWithMarkers M existing block = some (.ok updated))
    (hlaws : BlockLaws M existing block updated) :
    Framed M block ∧ (M.starts existing = 0 → M.ends existing = 0) := by
  have hframed : Framed M block := by
    obtain ⟨before, after, rfl, _⟩ := hlaws.surrounds
    exact framed_of_again hmarked hlaws.one.1 hlaws.one.2 hlaws.again
  refine ⟨hframed, fun hnone => ?_⟩
  rcases apply_ok h with ⟨_, _, rfl⟩ | ⟨x, u, v, rfl, _⟩
  · -- an end marker of the file's own would be a second one
    obtain ⟨body, ending, hblock, _⟩ := hframed
    have hends := hlaws.one.2
    rw [hblock, ends_startMarker, ends_split, (separated_counts existing).2] at hends
    omega
  · rw [starts_split] at hnone
    omega

/-- A start marker that no end marker follows. -/
def Open (M : Markers) (existing : Text) : Prop :=
  ∃ x y, existing = x ++ (M.startMarker ++ y) ∧ M.ends y = 0

theorem not_open {x u v : Text} (hx : M.starts x = 0) (hu : M.starts u = 0) (hv : M.starts v = 0) :
    ¬ Open M (x ++ (M.startMarker ++ (u ++ (M.endMarker ++ v)))) := by
  rintro ⟨x', y', hsplit, hy'⟩
  have hstarts : M.starts (x' ++ (M.startMarker ++ y')) = 1 := by
    rw [← hsplit, starts_split, starts_endMarker, hx, hu, hv]
  rw [starts_split] at hstarts
  have hsame : x.length = x'.length := by
    have hfind : find M.startMarker (x' ++ (M.startMarker ++ y')) = some x'.length :=
      find_of_split M.lead_start (show M.starts x' = 0 by omega) y'
    have hfind' : find M.startMarker (x ++ (M.startMarker ++ (u ++ (M.endMarker ++ v))))
        = some x.length := find_of_split M.lead_start hx _
    rw [hsplit, hfind] at hfind'
    exact (Option.some.inj hfind').symm
  obtain ⟨rfl, htail⟩ := List.append_inj hsplit hsame
  obtain rfl := List.append_cancel_left htail
  rw [ends_split] at hy'
  omega

theorem apply_total (M : Markers) (existing block : Text) :
    (applyManagedBlockWithMarkers M existing block = some (.error (.duplicate M.startMarker)) ∧
      (1 < M.starts existing ∨ 1 < M.ends existing)) ∨
    (applyManagedBlockWithMarkers M existing block = some (.error (.unterminated M.startMarker)) ∧
      Open M existing) ∨
    (∃ updated, applyManagedBlockWithMarkers M existing block = some (.ok updated)) ∧
      ¬ (1 < M.starts existing ∨ 1 < M.ends existing) ∧ ¬ Open M existing := by
  by_cases hmany : 1 < M.starts existing ∨ 1 < M.ends existing
  · exact .inl ⟨apply_duplicate block hmany, hmany⟩
  have hfew : M.starts existing ≤ 1 ∧ M.ends existing ≤ 1 := by constructor <;> omega
  rcases existing_cases existing hfew.1 hfew.2 with
    hnone | ⟨x, y, rfl, hx, hy, hxend, hyend⟩ | ⟨x, u, v, rfl, hx, hu, hv, hxend, huend, hvend⟩
  · refine .inr (.inr ⟨⟨_, apply_append block hnone hfew.2⟩, hmany, ?_⟩)
    rintro ⟨x, y, rfl, _⟩
    rw [starts_split] at hnone
    omega
  · exact .inr (.inl ⟨apply_unterminated block hx hy hxend hyend, x, y, rfl, hyend⟩)
  · exact .inr (.inr ⟨⟨_, apply_replace block hx hu hv hxend huend hvend⟩, hmany,
      not_open hx hu hv⟩)

/-- Neither function reads outside the text. `apply_managed_block` panics exactly for files with a
repeated marker or a start marker without an end marker behind it. For a block with both markers the
laws hold exactly when nothing but a line ending surrounds the markers and the file has no end
marker on its own. -/
theorem managed_block_laws_iff (M : Markers) (existing block : Text) :
    applyManagedBlockWithMarkers M existing block ≠ none ∧
    (applyManagedBlock existing block = none ↔
      1 < pathMarkers.starts existing ∨ 1 < pathMarkers.ends existing ∨ Open pathMarkers existing) ∧
    ∀ updated, Marked M block → applyManagedBlockWithMarkers M existing block = some (.ok updated) →
      (BlockLaws M existing block updated ↔
        Framed M block ∧ (M.starts existing = 0 → M.ends existing = 0)) := by
  refine ⟨fun hpanic => ?_, ?_, ?_⟩
  · rcases apply_total M existing block with ⟨h, _⟩ | ⟨h, _⟩ | ⟨⟨_, h⟩, _⟩ <;> rw [h] at hpanic <;>
      cases hpanic
  · rcases apply_total pathMarkers existing block with ⟨h, hmany⟩ | ⟨h, hopen⟩ | ⟨⟨_, h⟩, hfew,
      hclosed⟩
    · simp only [applyManagedBlock, h, true_iff]
      rcases hmany with hmany | hmany
      · exact .inl hmany
      · exact .inr (.inl hmany)
    · simp only [applyManagedBlock, h, true_iff]
      exact .inr (.inr hopen)
    · simp only [applyManagedBlock, h, reduceCtorEq, false_iff]
      rintro (hmany | hmany | hopen)
      · exact hfew (.inl hmany)
      · exact hfew (.inr hmany)
      · exact hclosed hopen
  · intro updated hmarked h
    exact ⟨framed_of_laws hmarked h, fun hgood => laws_of_framed hmarked h hgood.1 hgood.2⟩

def earlierFile : Text :=
  "a\n".toList ++ (pathMarkers.startMarker
    ++ ("\nold\n".toList ++ (pathMarkers.endMarker ++ "\nb".toList)))

theorem pathExportBlock_marked (pathExpr : Text) (h : pathMarkers.starts
    (pathExportBlock pathExpr) = 1 ∧ pathMarkers.ends (pathExportBlock pathExpr) = 1) :
    Marked pathMarkers (pathExportBlock pathExpr) := by
  refine ⟨⟨[], "\nexport PATH=\"".toList ++ pathExpr ++ ":$PATH\"\n".toList, ['\n'], ?_⟩, h⟩
  simp [pathExportBlock]

theorem managed_block_laws_iff_sample :
    ∃ updated, applyManagedBlockWithMarkers pathMarkers earlierFile (pathExportBlock ['x'])
        = some (.ok updated) ∧
      BlockLaws pathMarkers earlierFile (pathExportBlock ['x']) updated := by
  have hmarked : Marked pathMarkers (pathExportBlock ['x']) :=
    pathExportBlock_marked ['x'] (by decide +kernel)
  have hok : (applyManagedBlockWithMarkers pathMarkers earlierFile (pathExportBlock ['x'])).any
      (·.isOk) := by decide +kernel
  obtain ⟨updated, hupdated⟩ : ∃ updated, applyManagedBlockWithMarkers pathMarkers earlierFile
      (pathExportBlock ['x']) = some (.ok updated) := by
    cases hresult : applyManagedBlockWithMarkers pathMarkers earlierFile
      (pathExportBlock ['x']) with
    | none =>
      rw [hresult] at hok
      cases hok
    | some result =>
      cases result with
      | ok updated => exact ⟨updated, rfl⟩
      | error error =>
        rw [hresult] at hok
        cases hok
  have hframed : Framed pathMarkers (pathExportBlock ['x']) :=
    ⟨"\nexport PATH=\"x:$PATH\"\n".toList, ['\n'], by decide +kernel, .inl rfl⟩
  exact ⟨updated, hupdated, ((managed_block_laws_iff pathMarkers earlierFile
    (pathExportBlock ['x'])).2.2 updated hmarked hupdated).mpr ⟨hframed, by decide +kernel⟩⟩

/-- A file that holds only a start marker makes `apply_managed_block` panic. In a file with an end
marker of its own the second application is an error. A block with a line in front of its start
marker grows with every application. -/
theorem managed_block_law_failures :
    applyManagedBlock pathMarkers.startMarker (pathExportBlock ['x']) = none ∧
    (applyManagedBlock pathMarkers.endMarker (pathExportBlock ['x'])).isSome = true ∧
    ((applyManagedBlock pathMarkers.endMarker (pathExportBlock ['x'])).bind fun updated =>
      applyManagedBlock updated (pathExportBlock ['x'])) = none ∧
    ((applyManagedBlock [] ('a' :: '\n' :: pathExportBlock ['x'])).bind fun updated =>
      applyManagedBlock updated ('a' :: '\n' :: pathExportBlock ['x']))
      = some ('a' :: '\n' :: 'a' :: '\n' :: pathExportBlock ['x']) := by
  decide +kernel

end Volicord.ManagedBlock
