import Mathlib.Data.List.Nodup

/-! Relational tables with a primary key: rows in insertion order, no key twice. What a
statement does to a table is read off through `find?`, one lemma per statement. -/
namespace Relational
variable {κ α : Type} [DecidableEq κ]

structure Table (key : α → κ) where
  rows : List α
  keysNodup : (rows.map key).Nodup

namespace Table
variable {key : α → κ}

instance [DecidableEq α] : DecidableEq (Table key) := fun s t =>
  decidable_of_iff (s.rows = t.rows) (by cases s; cases t; simp)

def empty : Table key := ⟨[], List.nodup_nil⟩

variable (t : Table key) {other row : α}

def find? (k : κ) : Option α := t.rows.find? fun row => key row = k

section
variable {t : Table key} {k : κ}

theorem find?_eq_none : t.find? k = none ↔ ∀ row ∈ t.rows, key row ≠ k := by simp [find?]

theorem key_of_find? (h : t.find? k = some row) : key row = k := by
  have := List.find?_some h
  simpa using this

theorem mem_of_find? (h : t.find? k = some row) : row ∈ t.rows := List.mem_of_find?_eq_some h

end

theorem find?_of_mem {t : Table key} (h : row ∈ t.rows) : t.find? (key row) = some row := by
  cases hfind : t.find? (key row) with
  | none => exact absurd rfl (find?_eq_none.mp hfind row h)
  | some other =>
    have hkey := key_of_find? hfind
    have := List.inj_on_of_nodup_map t.keysNodup (mem_of_find? hfind) h hkey
    rw [this]

/-- `INSERT`, which a row with the same key makes fail. -/
def insert? (row : α) : Option (Table key) :=
  if h : t.find? (key row) = none then
    some ⟨t.rows ++ [row], by
      have habsent := find?_eq_none.mp h
      rw [List.map_append, List.nodup_append]
      refine ⟨t.keysNodup, List.nodup_singleton _, ?_⟩
      intro k hk k' hk' heq
      obtain ⟨other, hother, rfl⟩ := List.mem_map.mp hk
      simp only [List.map_cons, List.map_nil, List.mem_singleton] at hk'
      exact habsent other hother (heq.trans hk')⟩
  else none

theorem insert?_eq_some {t t' : Table key} (h : t.insert? row = some t') :
    t.find? (key row) = none ∧ t'.rows = t.rows ++ [row] := by
  unfold insert? at h
  split at h
  · exact ⟨‹_›, by rw [← Option.some.inj h]⟩
  · cases h

theorem exists_insert? {t : Table key} (h : t.find? (key row) = none) :
    ∃ t', t.insert? row = some t' := by
  unfold insert?
  rw [dif_pos h]
  exact ⟨_, rfl⟩

theorem find?_insert? {t t' : Table key} (h : t.insert? row = some t') (k : κ) :
    t'.find? k = if key row = k then some row else t.find? k := by
  obtain ⟨habsent, hrows⟩ := insert?_eq_some h
  unfold find? at habsent ⊢
  rw [hrows, List.find?_append]
  by_cases hk : key row = k
  · subst hk
    simp [habsent]
  · simp [hk]

theorem mem_insert? {t t' : Table key} (h : t.insert? row = some t') :
    other ∈ t'.rows ↔ other ∈ t.rows ∨ other = row := by
  rw [(insert?_eq_some h).2, List.mem_append, List.mem_singleton]

/-- `INSERT OR IGNORE`. -/
def insertOrIgnore (row : α) : Table key := (t.insert? row).getD t

theorem mem_insertOrIgnore {t : Table key}
    (h : other ∈ (t.insertOrIgnore row).rows) : other ∈ t.rows ∨ other = row := by
  unfold insertOrIgnore at h
  cases hinsert : t.insert? row with
  | none =>
    rw [hinsert] at h
    exact .inl h
  | some t' =>
    rw [hinsert] at h
    exact (mem_insert? hinsert).mp h

/-- `UPDATE … SET … WHERE`; the assignment leaves the key alone. -/
def updateWhere (p : α → Bool) (f : α → α) (hf : ∀ row, key (f row) = key row := by intros; rfl) :
    Table key :=
  ⟨t.rows.map fun row => if p row then f row else row, by
    have hkeys : key ∘ (fun row => if p row then f row else row) = key := by
      funext row
      by_cases hp : p row <;> simp [hp, hf]
    rw [List.map_map, hkeys]
    exact t.keysNodup⟩

theorem find?_updateWhere (p : α → Bool) (f : α → α) (hf : ∀ row, key (f row) = key row) (k : κ) :
    (t.updateWhere p f hf).find? k = (t.find? k).map fun row => if p row then f row else row := by
  unfold find? updateWhere
  rw [List.find?_map]
  congr 2
  funext row
  by_cases hp : p row <;> simp [hp, hf]

/-- Update of the row with key `k`. -/
def update (k : κ) (f : α → α) (hf : ∀ row, key (f row) = key row := by intros; rfl) : Table key :=
  t.updateWhere (fun row => key row = k) f hf

theorem find?_update (k : κ) (f : α → α) (hf : ∀ row, key (f row) = key row) (k' : κ) :
    (t.update k f hf).find? k' = if k' = k then (t.find? k').map f else t.find? k' := by
  unfold update
  rw [find?_updateWhere]
  cases hfind : t.find? k' with
  | none => simp
  | some row =>
    rw [← key_of_find? hfind]
    by_cases hk : key row = k <;> simp [hk]

/-- `DELETE … WHERE`. -/
def deleteWhere (p : α → Bool) : Table key :=
  ⟨t.rows.filter (fun row => !p row), t.keysNodup.sublist (List.filter_sublist.map key)⟩

omit [DecidableEq κ] in
theorem mem_deleteWhere {t : Table key} {p : α → Bool} :
    row ∈ (t.deleteWhere p).rows ↔ row ∈ t.rows ∧ p row = false := by
  simp [deleteWhere]

theorem find?_deleteWhere (p : α → Bool) (k : κ) : (t.deleteWhere p).find? k = (t.find? k).filter
    fun row => !p row := by
  cases hfind : t.find? k with
  | none =>
    have habsent := find?_eq_none.mp hfind
    exact find?_eq_none.mpr fun row hrow => habsent row (mem_deleteWhere.mp hrow).1
  | some row =>
    obtain rfl := key_of_find? hfind
    cases hp : p row with
    | false =>
      rw [find?_of_mem (mem_deleteWhere.mpr ⟨mem_of_find? hfind, hp⟩)]
      simp [Option.filter, hp]
    | true =>
      -- the only row with this key is the deleted one
      have hgone : (t.deleteWhere p).find? (key row) = none := by
        refine find?_eq_none.mpr fun other hother hkey => ?_
        obtain ⟨hmem, hkept⟩ := mem_deleteWhere.mp hother
        have hsame := find?_of_mem hmem
        rw [hkey, hfind] at hsame
        rw [← Option.some.inj hsame, hp] at hkept
        cases hkept
      rw [hgone]
      simp [Option.filter, hp]

/-- `INSERT … ON CONFLICT DO UPDATE`. -/
def upsert (row : α) : Table key :=
  (t.insert? row).getD (t.updateWhere (fun _ => true) (fun old =>
    if key old = key row then row else old) (by
      intro old
      by_cases h : key old = key row <;> simp [h]))

end Table

/-- The first element of every key, as `entry(key).or_insert(row)` leaves it in a map. -/
def firstByKey (key : α → κ) : List α → List α
  | [] => []
  | row :: rows => row :: (firstByKey key rows).filter (key · ≠ key row)

end Relational
