import Mathlib.Data.List.Infix

/-! Searching a text for a needle whose first character occurs in it only once, so that
occurrences do not overlap. -/
namespace TextSearch
variable {α : Type} [DecidableEq α] {text x : List α}

/-- Non-overlapping occurrences from left to right; the number counts what is left of the last
occurrence. -/
def countMatches (needle : List α) : Nat → List α → Nat
  | _, [] => 0
  | 0, c :: rest =>
    if needle.isPrefixOf (c :: rest) then 1 + countMatches needle (needle.length - 1) rest
    else countMatches needle 0 rest
  | skip + 1, _ :: rest => countMatches needle skip rest

def find (needle : List α) : List α → Option Nat
  | [] => if needle.isEmpty then some 0 else none
  | c :: rest =>
    if needle.isPrefixOf (c :: rest) then some 0 else (find needle rest).map (· + 1)

/-- The number of places an occurrence starts at. -/
def positions (needle : List α) : List α → Nat
  | [] => 0
  | c :: rest => (if needle.isPrefixOf (c :: rest) then 1 else 0) + positions needle rest

theorem isPrefixOf_barrier {needle x y : List α} {c : α} (hc : c ∉ needle) :
    needle.isPrefixOf (x ++ c :: y) = needle.isPrefixOf x := by
  induction needle generalizing x with
  | nil => simp
  | cons d needle ih =>
    rw [List.mem_cons, not_or] at hc
    cases x with
    | nil => simp [List.isPrefixOf, Ne.symm hc.1]
    | cons e x => simp [List.isPrefixOf, ih hc.2]

section Needle
variable {lead : α} {tail : List α}

theorem positions_cons_ne {c : α} (hc : c ≠ lead) (x : List α) :
    positions (lead :: tail) (c :: x) = positions (lead :: tail) x := by
  simp [positions, List.isPrefixOf, Ne.symm hc]

theorem positions_of_notMem (hx : lead ∉ x) (y : List α) :
    positions (lead :: tail) (x ++ y) = positions (lead :: tail) y := by
  induction x with
  | nil => rfl
  | cons c x ih =>
    rw [List.mem_cons, not_or] at hx
    rw [List.cons_append, positions_cons_ne (Ne.symm hx.1), ih hx.2]

/-- No occurrence reaches across an element that only the front of the needle may hold. -/
theorem positions_barrier {c : α} (hc : c ∉ tail) (x y : List α) : positions (lead :: tail)
    (x ++ c :: y) = positions (lead :: tail) x + positions (lead :: tail) (c :: y) := by
  induction x with
  | nil => simp [positions]
  | cons d x ih =>
    rw [List.cons_append, positions, positions, ih, List.isPrefixOf, List.isPrefixOf,
      isPrefixOf_barrier hc]
    omega

theorem positions_self (hlead : lead ∉ tail) (y : List α) :
    positions (lead :: tail) (lead :: tail ++ y) = 1 + positions (lead :: tail) y := by
  have hmatch : (lead :: tail).isPrefixOf (lead :: (tail ++ y)) :=
    List.isPrefixOf_iff_prefix.mpr (List.prefix_append _ _)
  rw [List.cons_append, positions, if_pos hmatch, positions_of_notMem hlead]

theorem positions_split (hlead : lead ∉ tail) (x y : List α) : positions (lead :: tail)
    (x ++ (lead :: tail ++ y)) = positions (lead :: tail) x + 1 + positions (lead :: tail) y := by
  rw [List.cons_append, positions_barrier hlead, ← List.cons_append, positions_self hlead]
  omega

theorem positions_le_append (x y : List α) :
    positions (lead :: tail) y ≤ positions (lead :: tail) (x ++ y) := by
  induction x with
  | nil => exact le_rfl
  | cons c x ih =>
    rw [List.cons_append, positions]
    omega

theorem countMatches_skip (x y : List α) (needle : List α) :
    countMatches needle x.length (x ++ y) = countMatches needle 0 y := by
  induction x with
  | nil => rfl
  | cons c x ih => simpa [countMatches] using ih

theorem countMatches_eq_positions (hlead : lead ∉ tail) (text : List α) :
    countMatches (lead :: tail) 0 text = positions (lead :: tail) text := by
  induction hlength : text.length using Nat.strong_induction_on generalizing text with
  | _ n ih =>
    cases text with
    | nil => rfl
    | cons c rest =>
      rw [countMatches]
      by_cases hmatch : (lead :: tail).isPrefixOf (c :: rest)
      · obtain ⟨y, hy⟩ := List.isPrefixOf_iff_prefix.mp hmatch
        rw [List.cons_append] at hy
        obtain ⟨rfl, rfl⟩ := List.cons.inj hy
        have hrest := ih y.length (by
          rw [← hlength, List.length_cons, List.length_append]
          omega) y rfl
        rw [if_pos hmatch, List.length_cons, Nat.add_sub_cancel, countMatches_skip, hrest,
          ← List.cons_append, positions_self hlead]
      · have hrest := ih rest.length (by
          rw [← hlength, List.length_cons]
          omega) rest rfl
        rw [if_neg hmatch, hrest, positions, if_neg hmatch]
        omega

theorem find_eq_none_iff : find (lead :: tail) text = none ↔ positions (lead :: tail) text = 0 := by
  induction text with
  | nil => simp [find, positions]
  | cons c rest ih =>
    rw [find, positions]
    split_ifs with hmatch
    · simp
    · simp [ih]

theorem find_eq_some {i : Nat} (h : find (lead :: tail) text = some i) :
    ∃ x y, text = x ++ (lead :: tail ++ y) ∧ x.length = i ∧ positions (lead :: tail) x = 0 := by
  induction text generalizing i with
  | nil => simp [find] at h
  | cons c rest ih =>
    rw [find] at h
    split_ifs at h with hmatch
    · obtain ⟨y, hy⟩ := List.isPrefixOf_iff_prefix.mp hmatch
      exact ⟨[], y, hy.symm, Option.some.inj h, rfl⟩
    · obtain ⟨j, hj, rfl⟩ := Option.map_eq_some_iff.mp h
      obtain ⟨x, y, rfl, rfl, hx⟩ := ih hj
      refine ⟨c :: x, y, rfl, rfl, ?_⟩
      have hhead : ¬ (lead :: tail).isPrefixOf (c :: x) := by
        intro hprefix
        refine hmatch (List.isPrefixOf_iff_prefix.mpr ?_)
        exact (List.isPrefixOf_iff_prefix.mp hprefix).trans (List.prefix_append (c :: x) _)
      rw [positions, if_neg hhead, hx]

theorem find_of_split (hlead : lead ∉ tail) (hx : positions (lead :: tail) x = 0)
    (y : List α) : find (lead :: tail) (x ++ (lead :: tail ++ y)) = some x.length := by
  induction x with
  | nil =>
    have hmatch : (lead :: tail).isPrefixOf (lead :: (tail ++ y)) :=
      List.isPrefixOf_iff_prefix.mpr (List.prefix_append _ _)
    rw [List.nil_append, List.cons_append, find, if_pos hmatch]
    rfl
  | cons c x ih =>
    rw [positions] at hx
    have hhead : ¬ (lead :: tail).isPrefixOf (c :: (x ++ lead :: (tail ++ y))) := by
      intro hmatch
      rw [List.isPrefixOf, isPrefixOf_barrier hlead, ← List.isPrefixOf] at hmatch
      rw [if_pos hmatch] at hx
      omega
    rw [List.cons_append, List.cons_append, find, if_neg hhead, ← List.cons_append, ih (by omega)]
    rfl

end Needle
end TextSearch
