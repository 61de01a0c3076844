import Mathlib.Order.Defs.Unbundled
import Volicord.Types.ProductPath

/-! The containment of product paths, component by component. -/
namespace Volicord
open Result
variable {a b path : ProductRelativePath}

/-- The `/`-separated components of a text. -/
def slashComponents (value : String) : List String :=
  (value.toList.splitOn '/').map String.ofList

section Intercalate
variable {α : Type}

theorem intercalate_append (separator : List α) {front back : List (List α)} (hfront : front ≠ [])
    (hback : back ≠ []) : separator.intercalate (front ++ back) = separator.intercalate front ++
    (separator ++ separator.intercalate back) := by
  induction front with
  | nil => exact absurd rfl hfront
  | cons first rest ih =>
    cases rest with
    | nil =>
      obtain ⟨head, tail, rfl⟩ := List.exists_cons_of_ne_nil hback
      simp [List.intercalate, List.intersperse]
    | cons second rest =>
      have hrest := ih (by simp)
      simp only [List.intercalate, List.intersperse, List.cons_append, List.flatten_cons,
        List.append_assoc] at hrest ⊢
      rw [hrest]

end Intercalate

theorem join_slashComponents (value : String) :
    ['/'].intercalate ((slashComponents value).map String.toList) = value.toList := by
  have hlists : (slashComponents value).map String.toList = value.toList.splitOn '/' := by
    simp [slashComponents]
  rw [hlists, List.intercalate_splitOn]

theorem slashComponents_injective : Function.Injective slashComponents := by
  intro a b h
  rw [← String.toList_inj, ← join_slashComponents a, h, join_slashComponents b]

theorem slashComponents_ne_nil (value : String) : slashComponents value ≠ [] := by
  simp [slashComponents]

theorem slashComponents_beneath (scope tail : String) :
    slashComponents (scope ++ ("/" ++ tail)) = slashComponents scope ++ slashComponents tail := by
  simp [slashComponents, List.splitOn_append_cons_self]

theorem beneath_of_components {path scope : String} {rest : List String} (hrest : rest ≠ [])
    (h : slashComponents path = slashComponents scope ++ rest) :
    ∃ tail, path = scope ++ ("/" ++ tail) := by
  refine ⟨String.ofList (['/'].intercalate (rest.map String.toList)), ?_⟩
  have hscope : (slashComponents scope).map String.toList ≠ [] := by simp [slashComponents_ne_nil]
  have htail : rest.map String.toList ≠ [] := by simpa using hrest
  rw [← String.toList_inj, ← join_slashComponents path, h, List.map_append,
    intercalate_append _ hscope htail, join_slashComponents scope]
  simp

namespace ProductRelativePath

def components (path : ProductRelativePath) : List String := slashComponents path.text

theorem isWithin_iff_components {path scope : ProductRelativePath} :
    path.isWithin scope ↔ scope.components <+: path.components := by
  rw [isWithin_iff]
  constructor
  · rintro (rfl | ⟨tail, htext⟩)
    · exact List.prefix_refl _
    · refine ⟨slashComponents tail, ?_⟩
      rw [components, components, htext, slashComponents_beneath]
  · rintro ⟨rest, hrest⟩
    cases rest with
    | nil =>
      left
      refine text_injective (slashComponents_injective ?_)
      simpa [components] using hrest.symm
    | cons first rest =>
      right
      exact beneath_of_components (List.cons_ne_nil first rest) hrest.symm

theorem isWithin_antisymm (hab : a.isWithin b) (hba : b.isWithin a) : a = b := by
  have hprefix := isWithin_iff_components.mp hab
  have hprefix' := isWithin_iff_components.mp hba
  exact text_injective (slashComponents_injective (hprefix'.eq_of_length_le hprefix.length_le))

theorem isWithin_isPartialOrder :
    IsPartialOrder ProductRelativePath fun path scope => path.isWithin scope = true where
  refl := isWithin_refl
  trans _ _ _ := isWithin_trans
  antisymm _ _ := isWithin_antisymm

theorem isWithin_comparable (ha : path.isWithin a)
    (hb : path.isWithin b) : a.isWithin b ∨ b.isWithin a := by
  have hab := List.prefix_or_prefix_of_prefix (isWithin_iff_components.mp ha)
    (isWithin_iff_components.mp hb)
  rcases hab with h | h
  · exact .inr (isWithin_iff_components.mpr h)
  · exact .inl (isWithin_iff_components.mpr h)

theorem checkPathComponent_ok {component : List Char} (h : checkPathComponent component = .ok ()) :
    component ≠ [] ∧ component ≠ ['.'] ∧ component ≠ ['.', '.'] := by
  refine ⟨?_, ?_, ?_⟩ <;> rintro rfl <;> cases h

theorem checkPathComponents_ok {parts : List (List Char)}
    (h : parts.forM checkPathComponent = .ok ()) :
    ∀ part ∈ parts, checkPathComponent part = .ok () := by
  induction parts with
  | nil => simp
  | cons first rest ih =>
    obtain ⟨_, hfirst, hrest⟩ := bind_eq_ok.mp h
    intro part hpart
    rcases List.mem_cons.mp hpart with rfl | hmem
    · exact hfirst
    · exact ih hrest part hmem

theorem components_proper (path : ProductRelativePath) {component : String}
    (h : component ∈ path.components) : component ≠ "" ∧ component ≠ "." ∧ component ≠ ".." := by
  have hvalid := path.valid
  simp only [validateProductRelativePath, steps_ok] at hvalid
  obtain ⟨_, _, _, _, _, hcomponents⟩ := hvalid
  obtain ⟨letters, hletters, rfl⟩ := List.mem_map.mp h
  obtain ⟨hempty, hcurrent, hparent⟩ :=
    checkPathComponent_ok (checkPathComponents_ok hcomponents letters hletters)
  refine ⟨?_, ?_, ?_⟩ <;> intro heq <;> rw [← String.toList_inj, String.toList_ofList] at heq
  · exact hempty heq
  · exact hcurrent heq
  · exact hparent heq

end ProductRelativePath

theorem WriteTicketPathScope.separates (scope : WriteTicketPathScope)
    (hallowed : ∃ a ∈ scope.allowed, path.isWithin a) :
    ∀ d ∈ scope.denied, path.isWithin d = false := by
  obtain ⟨a, ha, hpa⟩ := hallowed
  intro d hd
  rw [← Bool.not_eq_true]
  intro hpd
  have hoverlap : pathScopesOverlap scope.allowed scope.denied := by
    refine List.any_eq_true.mpr ⟨a, ha, List.any_eq_true.mpr ⟨d, hd, ?_⟩⟩
    rw [Bool.or_eq_true]
    exact ProductRelativePath.isWithin_comparable hpa hpd
  rw [scope.disjoint] at hoverlap
  cases hoverlap

/-- Containment of accepted texts is the prefix order on their components, which are proper names,
and a Write Ticket's scope separates the allowed from the denied paths and all that lies beneath
them. -/
theorem product_paths_ordered :
    (∀ p s path scope, ProductRelativePath.parse p = .ok path →
      ProductRelativePath.parse s = .ok scope →
      (path.isWithin scope = true ↔ slashComponents s <+: slashComponents p)) ∧
    IsPartialOrder ProductRelativePath (fun path scope => path.isWithin scope = true) ∧
    (∀ p path, ProductRelativePath.parse p = .ok path →
      ∀ component ∈ slashComponents p, component ≠ "" ∧ component ≠ "." ∧ component ≠ "..") ∧
    ∀ allowed denied scope, WriteTicketPathScope.new allowed denied = .ok scope →
      ∀ q : ProductRelativePath,
        ¬ ((∃ a ∈ allowed, q.isWithin a = true) ∧ ∃ d ∈ denied, q.isWithin d = true) := by
  refine ⟨?_, ProductRelativePath.isWithin_isPartialOrder, ?_, ?_⟩
  · intro p s path scope hp hs
    rw [← ProductRelativePath.text_of_parse hp, ← ProductRelativePath.text_of_parse hs]
    exact ProductRelativePath.isWithin_iff_components
  · intro p path hp component hcomponent
    rw [← ProductRelativePath.text_of_parse hp] at hcomponent
    exact path.components_proper hcomponent
  · rintro allowed denied scope hnew q ⟨hallowed, d, hd, hqd⟩
    obtain ⟨rfl, rfl⟩ := WriteTicketPathScope.new_ok hnew
    have hseparate := scope.separates hallowed d hd
    rw [hqd] at hseparate
    cases hseparate

def sourcePath : ProductRelativePath := ⟨"src", by decide +kernel⟩
def siblingPath : ProductRelativePath := ⟨"srcs", by decide +kernel⟩
def filePath : ProductRelativePath := ⟨"src/lib.rs", by decide +kernel⟩

/-- A file beneath `src`, and a scope that allows `src` and denies `srcs`. -/
def sampleScopePaths : WriteTicketPathScope :=
  ⟨[sourcePath], [siblingPath], by simp, by simp, by decide +kernel⟩

theorem product_paths_ordered_sample :
    (filePath.isWithin sourcePath = true ↔
      slashComponents "src" <+: slashComponents "src/lib.rs") ∧
    (∀ component ∈ slashComponents "src/lib.rs",
      component ≠ "" ∧ component ≠ "." ∧ component ≠ "..") ∧
    ¬ ((∃ a ∈ [sourcePath], filePath.isWithin a = true) ∧
      ∃ d ∈ [siblingPath], filePath.isWithin d = true) := by
  have hfile : ProductRelativePath.parse "src/lib.rs" = .ok filePath := filePath.parse_text
  have hscope : WriteTicketPathScope.new [sourcePath] [siblingPath] = .ok sampleScopePaths := by
    decide +kernel
  obtain ⟨hwithin, _, hproper, hseparate⟩ := product_paths_ordered
  exact ⟨hwithin _ _ filePath sourcePath hfile sourcePath.parse_text, hproper _ filePath hfile,
    hseparate _ _ sampleScopePaths hscope filePath⟩

end Volicord
