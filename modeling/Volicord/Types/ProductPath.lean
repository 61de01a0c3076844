import Mathlib.Data.List.Nodup
import Volicord.Lib.Result
import Volicord.Types.Values

/-! Product Repository relative paths, which are lexically valid by construction, the
containment order on them, and the path scope of a Write Ticket. -/
namespace Volicord
open Result

inductive ProductPathError where
  | empty | absolute | platformPrefix | backslash | emptyComponent | currentDirectory
  | parentTraversal | nul
deriving DecidableEq

/-- `reason`, which is also its text. -/
def ProductPathError.reason : ProductPathError → String
  | .empty => "product_path_empty"
  | .absolute => "product_path_absolute"
  | .platformPrefix => "product_path_platform_prefix"
  | .backslash => "product_path_backslash"
  | .emptyComponent => "product_path_empty_component"
  | .currentDirectory => "product_path_current_directory_component"
  | .parentTraversal => "product_path_parent_traversal"
  | .nul => "product_path_nul"

def hasWindowsDrivePrefix (value : String) : Bool :=
  match value.toList with
  | drive :: ':' :: _ => drive.isAlpha
  | _ => false

def checkPathComponent (component : List Char) : Except ProductPathError Unit :=
  match component with
  | [] => .error .emptyComponent
  | ['.'] => .error .currentDirectory
  | ['.', '.'] => .error .parentTraversal
  | _ => .ok ()

def validateProductRelativePath (value : String) : Except ProductPathError Unit := do
  ensure (!Text.isBlank value) .empty
  ensure (!value.toList.contains '\x00') .nul
  ensure (!value.toList.contains '\\') .backslash
  ensure (!Text.startsWith value "/") .absolute
  ensure (!hasWindowsDrivePrefix value) .platformPrefix
  (value.toList.splitOn '/').forM checkPathComponent

/-- A normalized path relative to one Product Repository. -/
structure ProductRelativePath where
  text : String
  valid : validateProductRelativePath text = .ok ()
deriving DecidableEq

namespace ProductRelativePath
variable {path scope : ProductRelativePath}

theorem text_injective : Function.Injective text := by
  rintro ⟨a, _⟩ ⟨b, _⟩ rfl
  rfl

def parse (value : String) : Except ProductPathError ProductRelativePath :=
  match h : validateProductRelativePath value with
  | .ok () => .ok ⟨value, h⟩
  | .error error => .error error

theorem parse_text (path : ProductRelativePath) : parse path.text = .ok path := by
  unfold parse
  split
  · rfl
  · rename_i h
    rw [path.valid] at h
    cases h

theorem text_of_parse {value : String} (h : parse value = .ok path) : path.text = value := by
  unfold parse at h
  split at h
  · rw [← Except.ok.inj h]
  · cases h

/-- The path is the scope or lies beneath it. -/
def isWithin (path scope : ProductRelativePath) : Bool :=
  path = scope || (Text.strip scope.text path.text).any fun rest => Text.startsWith rest "/"

theorem startsWith_slash {rest : String} :
    Text.startsWith rest "/" ↔ ∃ tail, rest = "/" ++ tail := by
  constructor
  · intro h
    obtain ⟨tail, htail⟩ := List.isPrefixOf_iff_prefix.mp h
    refine ⟨String.ofList tail, ?_⟩
    rw [← String.toList_inj, ← htail]
    simp
  · rintro ⟨tail, rfl⟩
    simp [Text.startsWith]

theorem isWithin_iff : path.isWithin scope ↔
      path = scope ∨ ∃ tail, path.text = scope.text ++ ("/" ++ tail) := by
  unfold isWithin
  rw [Bool.or_eq_true, decide_eq_true_eq, Option.any_eq_true]
  refine or_congr Iff.rfl ⟨?_, ?_⟩
  · rintro ⟨rest, hstrip, hslash⟩
    obtain ⟨tail, rfl⟩ := startsWith_slash.mp hslash
    exact ⟨tail, Text.strip_eq_some hstrip⟩
  · rintro ⟨tail, htext⟩
    refine ⟨"/" ++ tail, ?_, startsWith_slash.mpr ⟨tail, rfl⟩⟩
    rw [htext, Text.strip_append]

@[simp] theorem isWithin_refl (path : ProductRelativePath) : path.isWithin path :=
  isWithin_iff.mpr (.inl rfl)

theorem isWithin_trans {path middle scope : ProductRelativePath} (h₁ : path.isWithin middle)
    (h₂ : middle.isWithin scope) : path.isWithin scope := by
  rcases isWithin_iff.mp h₁ with rfl | ⟨tail₁, ht₁⟩
  · exact h₂
  rcases isWithin_iff.mp h₂ with rfl | ⟨tail₂, ht₂⟩
  · exact h₁
  refine isWithin_iff.mpr (.inr ⟨tail₂ ++ ("/" ++ tail₁), ?_⟩)
  rw [ht₁, ht₂]
  simp only [String.append_assoc]

end ProductRelativePath

def parseProductPaths (rawPaths : List String) :
    Except ProductPathError (List ProductRelativePath) :=
  rawPaths.mapM ProductRelativePath.parse

theorem parseProductPaths_texts (paths : List ProductRelativePath) :
    parseProductPaths (paths.map (·.text)) = .ok paths :=
  mapM_eq_ok.mpr (List.forall₂_map_left_iff.mpr
    (List.forall₂_same.mpr fun path _ => path.parse_text))

/-- Containment of two texts; a text that is no path is within nothing. -/
def pathIsWithin (path scope : String) : Bool :=
  match ProductRelativePath.parse path, ProductRelativePath.parse scope with
  | .ok path, .ok scope => path.isWithin scope
  | _, _ => false

theorem pathIsWithin_iff {path scope : String} : pathIsWithin path scope ↔ ∃ p s :
    ProductRelativePath, p.text = path ∧ s.text = scope ∧ p.isWithin s := by
  constructor
  · intro h
    unfold pathIsWithin at h
    split at h
    · rename_i p s hp hs
      exact ⟨p, s, ProductRelativePath.text_of_parse hp, ProductRelativePath.text_of_parse hs, h⟩
    · cases h
  · rintro ⟨p, s, rfl, rfl, h⟩
    simp [pathIsWithin, ProductRelativePath.parse_text, h]

@[simp] theorem pathIsWithin_text (path scope : ProductRelativePath) :
    pathIsWithin path.text scope.text = path.isWithin scope := by
  simp [pathIsWithin, ProductRelativePath.parse_text]

theorem pathIsWithin_trans {path middle scope : String} (h₁ : pathIsWithin path middle)
    (h₂ : pathIsWithin middle scope) : pathIsWithin path scope := by
  obtain ⟨p, m, hp, hm, hpm⟩ := pathIsWithin_iff.mp h₁
  obtain ⟨m', s, hm', hs, hms⟩ := pathIsWithin_iff.mp h₂
  have hmid : m' = m := by
    cases m
    cases m'
    congr 1
    exact hm'.trans hm.symm
  subst hmid
  exact pathIsWithin_iff.mpr ⟨p, s, hp, hs, ProductRelativePath.isWithin_trans hpm hms⟩

def pathsAreAuthorized (observedPaths authorizedPaths : List String) : Bool :=
  !observedPaths.isEmpty && !authorizedPaths.isEmpty &&
  observedPaths.all fun path => authorizedPaths.any (pathIsWithin path)

inductive WriteTicketPathScopeError where
  | duplicateAllowedPath | duplicateDeniedPath | allowedDeniedOverlap
deriving DecidableEq

def pathScopesOverlap (allowed denied : List ProductRelativePath) : Bool :=
  allowed.any fun a => denied.any fun d => a.isWithin d || d.isWithin a

/-- Allowed and denied paths of one Write Ticket: unique and disjoint. -/
structure WriteTicketPathScope where
  (allowed denied : List ProductRelativePath)
  allowedNodup : allowed.Nodup
  deniedNodup : denied.Nodup
  disjoint : pathScopesOverlap allowed denied = false
deriving DecidableEq

def WriteTicketPathScope.new (allowed denied : List ProductRelativePath) :
    Except WriteTicketPathScopeError WriteTicketPathScope :=
  if ha : allowed.Nodup then
    if hd : denied.Nodup then
      if ho : pathScopesOverlap allowed denied = false then .ok ⟨allowed, denied, ha, hd, ho⟩
      else .error .allowedDeniedOverlap
    else .error .duplicateDeniedPath
  else .error .duplicateAllowedPath

theorem WriteTicketPathScope.new_ok {allowed denied : List ProductRelativePath}
    {scope : WriteTicketPathScope} (h : WriteTicketPathScope.new allowed denied = .ok scope) :
    scope.allowed = allowed ∧ scope.denied = denied := by
  unfold WriteTicketPathScope.new at h
  split at h
  · split at h
    · split at h
      · rw [← Except.ok.inj h]
        exact ⟨rfl, rfl⟩
      · cases h
    · cases h
  · cases h

end Volicord
