import Mathlib.Data.List.Basic
import Mathlib.Data.String.Basic

/-! JSON values as `serde_json` holds them. Without `preserve_order` a JSON object is
a `BTreeMap`, so its members are strictly increasing in their keys. -/
namespace Volicord

inductive Json where
  | null
  | bool (b : Bool)
  | int (n : Int)
  | float (digits : String)
  | str (s : String)
  | arr (items : List Json)
  | obj (members : List (String × Json))

namespace Json

mutual
def decEq : (a b : Json) → Decidable (a = b)
  | .null, b => match b with
    | .null => isTrue rfl
    | .bool _ | .int _ | .float _ | .str _ | .arr _ | .obj _ => isFalse (by simp)
  | .bool x, b => match b with
    | .bool y => decidable_of_iff (x = y) (by simp)
    | .null | .int _ | .float _ | .str _ | .arr _ | .obj _ => isFalse (by simp)
  | .int x, b => match b with
    | .int y => decidable_of_iff (x = y) (by simp)
    | .null | .bool _ | .float _ | .str _ | .arr _ | .obj _ => isFalse (by simp)
  | .float x, b => match b with
    | .float y => decidable_of_iff (x = y) (by simp)
    | .null | .bool _ | .int _ | .str _ | .arr _ | .obj _ => isFalse (by simp)
  | .str x, b => match b with
    | .str y => decidable_of_iff (x = y) (by simp)
    | .null | .bool _ | .int _ | .float _ | .arr _ | .obj _ => isFalse (by simp)
  | .arr x, b => match b with
    | .arr y => @decidable_of_iff _ (x = y) (by simp) (decEqItems x y)
    | .null | .bool _ | .int _ | .float _ | .str _ | .obj _ => isFalse (by simp)
  | .obj x, b => match b with
    | .obj y => @decidable_of_iff _ (x = y) (by simp) (decEqMembers x y)
    | .null | .bool _ | .int _ | .float _ | .str _ | .arr _ => isFalse (by simp)
def decEqItems : (a b : List Json) → Decidable (a = b)
  | [], [] => isTrue rfl
  | [], _ :: _ => isFalse (by simp)
  | _ :: _, [] => isFalse (by simp)
  | x :: xs, y :: ys =>
    @decidable_of_iff _ (x = y ∧ xs = ys) (by simp)
      (@instDecidableAnd _ _ (decEq x y) (decEqItems xs ys))
def decEqMembers : (a b : List (String × Json)) → Decidable (a = b)
  | [], [] => isTrue rfl
  | [], _ :: _ => isFalse (by simp)
  | _ :: _, [] => isFalse (by simp)
  | (k, x) :: xs, (l, y) :: ys =>
    @decidable_of_iff _ (k = l ∧ x = y ∧ xs = ys) (by simp [and_assoc])
      (@instDecidableAnd _ _ inferInstance
        (@instDecidableAnd _ _ (decEq x y) (decEqMembers xs ys)))
end

instance : DecidableEq Json := decEq

/- The `BTreeMap` invariant at every nesting depth. -/
mutual
def wellFormed : Json → Bool
  | .arr items => itemsWellFormed items
  | .obj members => decide ((members.map Prod.fst).Pairwise (· < ·)) && membersWellFormed members
  | _ => true
def itemsWellFormed : List Json → Bool
  | [] => true
  | item :: items => item.wellFormed && itemsWellFormed items
def membersWellFormed : List (String × Json) → Bool
  | [] => true
  | (_, child) :: members => child.wellFormed && membersWellFormed members
end

/-- A string or null. -/
def isText : Json → Bool
  | .null | .str _ => true
  | _ => false

/-- An object whose members are strings or null. -/
def flat : Json → Bool
  | .obj members => members.all (·.2.isText)
  | _ => false

/-- `BTreeMap::insert` on the list of entries in key order. -/
def insertMember (key : String) (child : Json) : List (String × Json) → List (String × Json)
  | [] => [(key, child)]
  | (k, c) :: members =>
    if key < k then (key, child) :: (k, c) :: members
    else if key = k then (key, child) :: members
    else (k, c) :: insertMember key child members

/- The source's `sort_json_value`: every object is rebuilt through a `BTreeMap`. -/
mutual
def sortJsonValue : Json → Json
  | .arr items => .arr (sortItems items)
  | .obj members => .obj (sortMembers [] members)
  | other => other
def sortItems : List Json → List Json
  | [] => []
  | item :: items => item.sortJsonValue :: sortItems items
def sortMembers (sorted : List (String × Json)) : List (String × Json) → List (String × Json)
  | [] => sorted
  | (key, child) :: members => sortMembers (insertMember key child.sortJsonValue sorted) members
end

theorem insertMember_last (key : String) (child : Json) (members : List (String × Json))
    (h : ∀ k ∈ members.map Prod.fst, k < key) :
    insertMember key child members = members ++ [(key, child)] := by
  induction members with
  | nil => rfl
  | cons m members ih =>
    obtain ⟨k, c⟩ := m
    simp only [List.map_cons, List.mem_cons, forall_eq_or_imp] at h
    have hk : ¬ key < k := lt_asymm h.1
    have hne : key ≠ k := fun he => lt_irrefl _ (he ▸ h.1)
    simp [insertMember, hk, hne, ih h.2]

/- On a value that already satisfies the map invariant sorting changes nothing. -/
mutual
theorem sortJsonValue_eq (j : Json) (h : j.wellFormed) : j.sortJsonValue = j := by
  cases j with
  | arr items => simp only [sortJsonValue, sortItems_eq items h]
  | obj members =>
    simp only [wellFormed, Bool.and_eq_true, decide_eq_true_eq] at h
    have := sortMembers_eq [] members (by simpa using h.1) h.2
    simp only [sortJsonValue, this, List.nil_append]
  | null | bool | int | float | str => rfl
theorem sortItems_eq (items : List Json) (h : itemsWellFormed items) : sortItems items = items := by
  cases items with
  | nil => rfl
  | cons item items =>
    simp only [itemsWellFormed, Bool.and_eq_true] at h
    simp only [sortItems, sortJsonValue_eq item h.1, sortItems_eq items h.2]
theorem sortMembers_eq (sorted members : List (String × Json))
    (hk : ((sorted ++ members).map Prod.fst).Pairwise (· < ·))
    (hw : membersWellFormed members) : sortMembers sorted members = sorted ++ members := by
  cases members with
  | nil => simp [sortMembers]
  | cons m members =>
    obtain ⟨key, child⟩ := m
    simp only [membersWellFormed, Bool.and_eq_true] at hw
    have hlast : ∀ k ∈ sorted.map Prod.fst, k < key := by
      rw [List.map_append, List.pairwise_append] at hk
      exact fun k hmem => hk.2.2 k hmem key (by simp)
    have hrest := sortMembers_eq (sorted ++ [(key, child)]) members (by simpa using hk) hw.2
    rw [sortMembers, sortJsonValue_eq child hw.1, insertMember_last key child sorted hlast, hrest]
    simp
end

end Json

/-- A `serde_json::Map`. -/
def JsonObject := { members : List (String × Json) // (Json.obj members).wellFormed = true }

instance : DecidableEq JsonObject := inferInstanceAs (DecidableEq (Subtype _))

def JsonObject.toJson (o : JsonObject) : Json := .obj o.val

/-- The parts of `serde_json` the code calls: printing a value and reading a text. -/
structure SerdeJson where
  print : Json → String
  parse : String → Option Json

/-- Distinct values print differently. -/
def SerdeJson.PrintsApart (J : SerdeJson) : Prop :=
  ∀ a b : Json, a.wellFormed → b.wellFormed → J.print a = J.print b → a = b

/-- What the replay of stored contexts assumes of `serde_json`: beside that, flat objects are read
back. Deeper values are not, as the reader has a depth limit, and neither are all numbers. -/
structure SerdeJson.Lawful (J : SerdeJson) : Prop where
  apart : J.PrintsApart
  parse_print : ∀ a : Json, a.wellFormed → a.flat → J.parse (J.print a) = some a

namespace SerdeJson
variable (J : SerdeJson)

def canonicalJsonString (j : Json) : String := J.print j.sortJsonValue

/-- `serde_json::from_str::<JsonObject>`. -/
def parseObject (text : String) : Option JsonObject :=
  match J.parse text with
  | some (.obj members) => if h : (Json.obj members).wellFormed = true then some ⟨members, h⟩
    else none
  | _ => none

def isJsonText (text : String) : Bool := (J.parse text).isSome

def isObjectText (text : String) : Bool :=
  match J.parse text with
  | some (.obj _) => true
  | _ => false

end SerdeJson
end Volicord
