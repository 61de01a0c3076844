import Volicord.Lib.Table

/-! How the rows of a table may move, and which rows it may hold side by side: a law is stated
once for a table, and each statement keeps it. -/
namespace Relational
variable {κ α : Type} [DecidableEq κ] {key : α → κ}

structure Law (α : Type) where
  (moves apart : α → α → Prop)
  refl : ∀ row, moves row row := by grind
  trans : ∀ {a b c}, moves a b → moves b c → moves a c := by grind
  keeps : ∀ {a b a' b'}, moves a a' → moves b b' → apart a b → apart a' b' := by grind

namespace Table
variable {law : Law α} {t t₁ t' : Table key} {row : α}

/-- Every row is still there and has moved by the law, and rows that stood apart still do. -/
structure Obeys (law : Law α) (t t' : Table key) : Prop where
  moves : ∀ k row, t.find? k = some row → ∃ row', t'.find? k = some row' ∧ law.moves row row'
  apart : t.rows.Pairwise law.apart → t'.rows.Pairwise law.apart

theorem Obeys.refl (t : Table key) : t.Obeys law t :=
  ⟨fun _ row hrow => ⟨row, hrow, law.refl row⟩, id⟩

theorem Obeys.trans (h : t.Obeys law t₁) (h' : t₁.Obeys law t') : t.Obeys law t' := by
  refine ⟨fun k row hrow => ?_, h'.apart ∘ h.apart⟩
  obtain ⟨row₁, hrow₁, hmove⟩ := h.moves k row hrow
  obtain ⟨row', hrow', hmove'⟩ := h'.moves k row₁ hrow₁
  exact ⟨row', hrow', law.trans hmove hmove'⟩

theorem Obeys.insert (h : t.insert? row = some t') (hrow : ∀ old ∈ t.rows, law.apart old row) :
    t.Obeys law t' := by
  obtain ⟨hfresh, hrows⟩ := insert?_eq_some h
  refine ⟨fun k old hold => ⟨old, ?_, law.refl old⟩, fun hapart => ?_⟩
  · rw [find?_insert? h]
    by_cases hk : key row = k
    · rw [hk, hold] at hfresh
      cases hfresh
    · rw [if_neg hk, hold]
  · rw [hrows]
    simpa [List.pairwise_append] using ⟨hapart, hrow⟩

theorem Obeys.updateWhere {p : α → Bool} {f : α → α} {hf : ∀ row, key (f row) = key row}
    (h : ∀ row ∈ t.rows, p row → law.moves row (f row)) : t.Obeys law (t.updateWhere p f hf) := by
  have hmove : ∀ row ∈ t.rows, law.moves row (if p row then f row else row) := by
    intro row hrow
    by_cases hp : p row
    · rw [if_pos hp]
      exact h row hrow hp
    · rw [if_neg hp]
      exact law.refl row
  refine ⟨fun k row hrow => ⟨_, ?_, hmove row (mem_of_find? hrow)⟩, fun hapart => ?_⟩
  · rw [find?_updateWhere, hrow]
    rfl
  · exact List.pairwise_map.mpr (hapart.imp_of_mem fun ha hb => law.keeps (hmove _ ha) (hmove _ hb))

theorem Obeys.update {k : κ} {f : α → α} {hf : ∀ row, key (f row) = key row}
    (h : ∀ row, t.find? k = some row → law.moves row (f row)) : t.Obeys law (t.update k f hf) := by
  refine .updateWhere fun row hrow hk => h row ?_
  rw [← of_decide_eq_true hk]
  exact find?_of_mem hrow

end Table
end Relational
