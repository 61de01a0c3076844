import Mathlib.Data.List.Dedup
import Mathlib.Data.List.Sort
import Mathlib.Order.Basic

/-! Lists that are sorted and free of duplicates, and enumerations ranked by the texts of
their members. -/
namespace Sorted
variable {α β : Type*}

/-- `sort` followed by `dedup`. -/
def sortDedup [LinearOrder α] (xs : List α) : List α := (xs.insertionSort (· ≤ ·)).dedup

theorem mem_sortDedup [LinearOrder α] {xs : List α} {x : α} : x ∈ sortDedup xs ↔ x ∈ xs := by
  rw [sortDedup, List.mem_dedup, List.mem_insertionSort]

theorem sortDedup_pairwise [LinearOrder α] (xs : List α) : (sortDedup xs).Pairwise (· < ·) := by
  have hle : (sortDedup xs).Pairwise (· ≤ ·) :=
    (List.pairwise_insertionSort (· ≤ ·) xs).sublist (List.dedup_sublist _)
  have hne : (sortDedup xs).Pairwise (· ≠ ·) := List.nodup_dedup _
  exact (hle.and hne).imp fun h => lt_of_le_of_ne h.1 h.2

theorem sortDedup_congr [LinearOrder α] {xs ys : List α} (h : ∀ x, x ∈ xs ↔ x ∈ ys) :
    sortDedup xs = sortDedup ys := by
  have hperm : (sortDedup xs).Perm (sortDedup ys) := by
    refine (List.perm_ext_iff_of_nodup (List.nodup_dedup _) (List.nodup_dedup _)).mpr fun x => ?_
    rw [← sortDedup, ← sortDedup, mem_sortDedup, mem_sortDedup, h]
  exact hperm.eq_of_pairwise (fun _ _ _ _ hab hba => absurd hab (lt_asymm hba))
    (sortDedup_pairwise xs) (sortDedup_pairwise ys)

/-- No two neighbours are out of order, as the source checks with `windows(2)`. -/
def increasing [LT α] [DecidableLT α] : List α → Bool
  | a :: b :: rest => decide (a < b) && increasing (b :: rest)
  | _ => true

theorem increasing_of_pairwise [LT α] [DecidableLT α] {xs : List α} (h : xs.Pairwise (· < ·)) :
    increasing xs := by
  induction xs with
  | nil => rfl
  | cons a rest ih =>
    cases rest with
    | nil => rfl
    | cons b rest =>
      rw [List.pairwise_cons] at h
      have hab : a < b := h.1 b (List.mem_cons_self ..)
      simp [increasing, hab, ih h.2]

end Sorted
