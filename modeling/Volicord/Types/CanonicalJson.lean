import Mathlib.Data.List.Perm.Basic
import Mathlib.Data.List.Sort
import Volicord.Lib.Framing
import Volicord.Types.JsonText

/-! Canonical JSON texts: equal exactly for values that are equal up to the order of object
members, and unchanged by reading and writing them again. -/
namespace Volicord
open Framing
variable {c : Char}

namespace Json
variable {members ms ns sorted : List (String × Json)} {child : Json} {key : String}

/- Equality of JSON values: arrays item by item, objects up to the order of their members. -/
mutual
inductive Same : Json → Json → Prop
  | null : Same .null .null
  | bool (b : Bool) : Same (.bool b) (.bool b)
  | int (n : Int) : Same (.int n) (.int n)
  | float (digits : String) : Same (.float digits) (.float digits)
  | str (s : String) : Same (.str s) (.str s)
  | arr {items items' : List Json} : SameItems items items' → Same (.arr items) (.arr items')
  | obj {members ordered members' : List (String × Json)} : SameMembers members ordered →
      ordered.Perm members' → Same (.obj members) (.obj members')
inductive SameItems : List Json → List Json → Prop
  | nil : SameItems [] []
  | cons {item item' : Json} {items items' : List Json} : Same item item' →
      SameItems items items' → SameItems (item :: items) (item' :: items')
inductive SameMembers : List (String × Json) → List (String × Json) → Prop
  | nil : SameMembers [] []
  | cons (key : String) {child child' : Json} {members members' : List (String × Json)} :
      Same child child' → SameMembers members members' →
      SameMembers ((key, child) :: members) ((key, child') :: members')
end

/- The keys of an object are unique, at every nesting depth. -/
mutual
def uniqueKeys : Json → Bool
  | .arr items => itemsUniqueKeys items
  | .obj members => decide (members.map Prod.fst).Nodup && membersUniqueKeys members
  | _ => true
def itemsUniqueKeys : List Json → Bool
  | [] => true
  | item :: items => item.uniqueKeys && itemsUniqueKeys items
def membersUniqueKeys : List (String × Json) → Bool
  | [] => true
  | (_, child) :: members => child.uniqueKeys && membersUniqueKeys members
end

theorem membersUniqueKeys_iff : membersUniqueKeys members ↔ ∀ m ∈ members, m.2.uniqueKeys := by
  induction members with
  | nil => simp [membersUniqueKeys]
  | cons m members ih => simp [membersUniqueKeys, ih]

def sortChild (m : String × Json) : String × Json := (m.1, m.2.sortJsonValue)

@[simp] theorem fst_sortChild (m : String × Json) : (sortChild m).1 = m.1 := rfl

/- Inserting a member into a map. -/

theorem mem_keys_insertMember {key k : String}
    (h : k ∈ (insertMember key child members).map Prod.fst) :
    k = key ∨ k ∈ members.map Prod.fst := by
  induction members with
  | nil => simpa [insertMember] using h
  | cons m members ih =>
    obtain ⟨l, c⟩ := m
    rw [insertMember] at h
    split_ifs at h with hlt heq
    · simpa using h
    · simp only [List.map_cons, List.mem_cons] at h ⊢
      tauto
    · simp only [List.map_cons, List.mem_cons] at h ⊢
      rcases h with h | h
      · exact .inr (.inl h)
      · rcases ih h with h | h
        · exact .inl h
        · exact .inr (.inr h)

theorem insertMember_increasing (h : (members.map Prod.fst).Pairwise (· < ·)) :
    ((insertMember key child members).map Prod.fst).Pairwise (· < ·) := by
  induction members with
  | nil => simp [insertMember]
  | cons m members ih =>
    obtain ⟨l, c⟩ := m
    rw [List.map_cons, List.pairwise_cons] at h
    obtain ⟨hhead, htail⟩ := h
    rw [insertMember]
    split_ifs with hlt heq
    · simp only [List.map_cons, List.pairwise_cons, List.mem_cons, forall_eq_or_imp]
      exact ⟨⟨hlt, fun k hk => hlt.trans (hhead k hk)⟩, hhead, htail⟩
    · subst heq
      exact List.pairwise_cons.mpr ⟨hhead, htail⟩
    · refine List.pairwise_cons.mpr ⟨fun k hk => ?_, ih htail⟩
      rcases mem_keys_insertMember hk with rfl | hk
      · exact lt_of_le_of_ne (not_lt.mp hlt) fun hkey => heq hkey.symm
      · exact hhead k hk

theorem insertMember_perm (h : key ∉ members.map Prod.fst) :
    (insertMember key child members).Perm ((key, child) :: members) := by
  induction members with
  | nil => exact List.Perm.refl _
  | cons m members ih =>
    obtain ⟨l, c⟩ := m
    rw [List.map_cons, List.mem_cons, not_or] at h
    rw [insertMember]
    split_ifs with hlt heq
    · exact List.Perm.refl _
    · exact absurd heq h.1
    · exact ((ih h.2).cons (l, c)).trans (List.Perm.swap ..)

theorem sortMembers_increasing (members : List (String × Json))
    (h : (sorted.map Prod.fst).Pairwise (· < ·)) :
    ((sortMembers sorted members).map Prod.fst).Pairwise (· < ·) := by
  induction members generalizing sorted with
  | nil => exact h
  | cons m members ih =>
    rw [sortMembers]
    exact ih (insertMember_increasing h)

theorem sortMembers_perm (h : (sorted.map Prod.fst ++ members.map Prod.fst).Nodup) :
    (sortMembers sorted members).Perm (sorted ++ members.map sortChild) := by
  induction members generalizing sorted with
  | nil => simp [sortMembers]
  | cons m members ih =>
    obtain ⟨key, child⟩ := m
    rw [List.map_cons] at h
    have hkey : key ∉ sorted.map Prod.fst := by
      intro hmem
      exact (List.nodup_append.mp h).2.2 key hmem key List.mem_cons_self rfl
    have hinsert : (insertMember key child.sortJsonValue sorted).Perm
        ((key, child.sortJsonValue) :: sorted) := insertMember_perm hkey
    have hmiddle : (sorted.map Prod.fst ++ key :: members.map Prod.fst).Perm
        ((insertMember key child.sortJsonValue sorted).map Prod.fst ++ members.map Prod.fst) := by
      refine List.perm_middle.trans ?_
      rw [← List.cons_append]
      exact ((hinsert.map Prod.fst).append_right _).symm
    have hrest := ih (hmiddle.nodup_iff.mp h)
    rw [sortMembers]
    refine hrest.trans ((hinsert.append_right _).trans ?_)
    exact List.perm_middle.symm

theorem eq_of_perm_of_increasing (hperm : ms.Perm ns) (hms : (ms.map Prod.fst).Pairwise (· < ·))
    (hns : (ns.map Prod.fst).Pairwise (· < ·)) : ms = ns := by
  have hms := List.pairwise_map.mp hms
  have hns := List.pairwise_map.mp hns
  exact hperm.eq_of_pairwise (fun a b _ _ hab hba => absurd hab (lt_asymm hba)) hms hns

theorem sortMembers_eq_iff (hms : (ms.map Prod.fst).Nodup) (hns : (ns.map Prod.fst).Nodup) :
    sortMembers [] ms = sortMembers [] ns ↔ (ms.map sortChild).Perm (ns.map sortChild) := by
  have hperm : ∀ {xs : List (String × Json)}, (xs.map Prod.fst).Nodup →
      (sortMembers [] xs).Perm (xs.map sortChild) := fun {xs} hxs => by
    have hperm : (sortMembers [] xs).Perm ([] ++ xs.map sortChild) :=
      sortMembers_perm (by simpa using hxs)
    simpa using hperm
  constructor
  · intro h
    exact (hperm hms).symm.trans (h ▸ hperm hns)
  · intro h
    exact eq_of_perm_of_increasing ((hperm hms).trans (h.trans (hperm hns).symm))
      (sortMembers_increasing ms List.Pairwise.nil) (sortMembers_increasing ns List.Pairwise.nil)

theorem exists_perm_map {α β : Type} {f : α → β} {xs : List β} {ys : List α}
    (h : xs.Perm (ys.map f)) : ∃ zs : List α, zs.Perm ys ∧ zs.map f = xs := by
  generalize hys : ys.map f = image at h
  induction h generalizing ys with
  | nil => exact ⟨[], by simp [List.map_eq_nil_iff.mp hys], rfl⟩
  | cons x _ ih =>
    obtain ⟨y, rest, rfl, rfl, hrest⟩ := List.map_eq_cons_iff.mp hys
    obtain ⟨zs, hzs, hmap⟩ := ih hrest
    exact ⟨y :: zs, hzs.cons y, by simp [hmap]⟩
  | swap a b l =>
    obtain ⟨y, rest, rfl, rfl, hrest⟩ := List.map_eq_cons_iff.mp hys
    obtain ⟨z, rest', rfl, rfl, rfl⟩ := List.map_eq_cons_iff.mp hrest
    exact ⟨z :: y :: rest', List.Perm.swap .., rfl⟩
  | trans _ _ ih₁ ih₂ =>
    obtain ⟨zs, hzs, hmap⟩ := ih₂ hys
    obtain ⟨ws, hws, hmap'⟩ := ih₁ hmap
    exact ⟨ws, hws.trans hzs, hmap'⟩

theorem SameMembers.keys : ∀ {ms ns : List (String × Json)}, SameMembers ms ns →
    ms.map Prod.fst = ns.map Prod.fst
  | _, _, .nil => rfl
  | _, _, .cons key _ hrest => by simp [hrest.keys]

/- Values that are the same sort to one value. -/
mutual
theorem sort_eq_of_same (a : Json) {b : Json} (ha : a.uniqueKeys) (h : Same a b) :
    a.sortJsonValue = b.sortJsonValue := by
  cases a with
  | null | bool | int | float | str =>
    cases h
    rfl
  | arr items =>
    cases h with
    | arr hitems => rw [sortJsonValue, sortJsonValue, sortItems_eq_of_same items ha hitems]
  | obj members =>
    cases h with
    | obj hmembers hperm =>
      rename_i ordered members'
      simp only [uniqueKeys, Bool.and_eq_true, decide_eq_true_eq] at ha
      have hkeys : (ordered.map Prod.fst).Nodup := hmembers.keys ▸ ha.1
      have hkeys' : (members'.map Prod.fst).Nodup := (hperm.map Prod.fst).nodup_iff.mp hkeys
      have hsorted : sortMembers [] members = sortMembers [] members' := by
        rw [sortMembers_eq_iff ha.1 hkeys', map_sortChild_of_same members ha.2 hmembers]
        exact hperm.map sortChild
      rw [sortJsonValue, sortJsonValue, hsorted]
theorem sortItems_eq_of_same (items : List Json) {items' : List Json}
    (hitems : itemsUniqueKeys items) (h : SameItems items items') :
    sortItems items = sortItems items' := by
  cases items with
  | nil =>
    cases h
    rfl
  | cons item items =>
    cases h with
    | cons hitem hrest =>
      simp only [itemsUniqueKeys, Bool.and_eq_true] at hitems
      rw [sortItems, sortItems, sort_eq_of_same item hitems.1 hitem,
        sortItems_eq_of_same items hitems.2 hrest]
theorem map_sortChild_of_same (members : List (String × Json)) {members' : List (String × Json)}
    (hmembers : membersUniqueKeys members) (h : SameMembers members members') :
    members.map sortChild = members'.map sortChild := by
  match members with
  | [] =>
    cases h
    rfl
  | (key, child) :: members =>
    cases h with
    | cons _ hchild hrest =>
      simp only [membersUniqueKeys, Bool.and_eq_true] at hmembers
      rw [List.map_cons, List.map_cons, map_sortChild_of_same members hmembers.2 hrest]
      simp only [sortChild, sort_eq_of_same child hmembers.1 hchild]
end

/- Values that sort to one value are the same. -/
mutual
theorem same_of_sort_eq (a b : Json) (ha : a.uniqueKeys) (hb : b.uniqueKeys)
    (h : a.sortJsonValue = b.sortJsonValue) : Same a b := by
  cases a with
  | null | bool | int | float | str =>
    cases b <;> simp only [sortJsonValue, reduceCtorEq] at h
    cases h
    constructor
  | arr items =>
    cases b <;> simp only [sortJsonValue, reduceCtorEq, arr.injEq] at h
    exact .arr (sameItems_of_sort_eq items _ ha hb h)
  | obj members =>
    cases b <;> simp only [sortJsonValue, reduceCtorEq, obj.injEq] at h
    rename_i members'
    simp only [uniqueKeys, Bool.and_eq_true, decide_eq_true_eq] at ha hb
    -- order the right members like the left ones
    obtain ⟨ordered, hperm, hmap⟩ := exists_perm_map ((sortMembers_eq_iff ha.1 hb.1).mp h)
    have hordered : membersUniqueKeys ordered := by
      rw [membersUniqueKeys_iff] at hb ⊢
      exact fun m hm => hb.2 m (hperm.mem_iff.mp hm)
    exact .obj (sameMembers_of_map_eq members ordered ha.2 hordered hmap.symm) hperm
theorem sameItems_of_sort_eq (items items' : List Json) (hitems : itemsUniqueKeys items)
    (hitems' : itemsUniqueKeys items') (h : sortItems items = sortItems items') :
    SameItems items items' := by
  cases items with
  | nil =>
    cases items' with
    | nil => exact .nil
    | cons => simp [sortItems] at h
  | cons item items =>
    cases items' with
    | nil => simp [sortItems] at h
    | cons item' items' =>
      simp only [sortItems, List.cons.injEq] at h
      simp only [itemsUniqueKeys, Bool.and_eq_true] at hitems hitems'
      exact .cons (same_of_sort_eq item item' hitems.1 hitems'.1 h.1)
        (sameItems_of_sort_eq items items' hitems.2 hitems'.2 h.2)
theorem sameMembers_of_map_eq (members members' : List (String × Json))
    (hmembers : membersUniqueKeys members) (hmembers' : membersUniqueKeys members')
    (h : members.map sortChild = members'.map sortChild) : SameMembers members members' := by
  match members, members' with
  | [], [] => exact .nil
  | [], _ :: _ => simp at h
  | _ :: _, [] => simp at h
  | (key, child) :: members, (key', child') :: members' =>
    simp only [List.map_cons, List.cons.injEq, sortChild, Prod.mk.injEq] at h
    simp only [membersUniqueKeys, Bool.and_eq_true] at hmembers hmembers'
    obtain ⟨⟨rfl, hchild⟩, hrest⟩ := h
    exact .cons key (same_of_sort_eq child child' hmembers.1 hmembers'.1 hchild)
      (sameMembers_of_map_eq members members' hmembers.2 hmembers'.2 hrest)
end

/- Sorting builds a map at every depth. -/

theorem insertMember_wellFormed (hchild : child.wellFormed) (h : membersWellFormed members) :
    membersWellFormed (insertMember key child members) := by
  induction members with
  | nil => simp [insertMember, membersWellFormed, hchild]
  | cons m members ih =>
    obtain ⟨l, c⟩ := m
    simp only [membersWellFormed, Bool.and_eq_true] at h
    rw [insertMember]
    split_ifs <;> simp [membersWellFormed, hchild, h.1, h.2, ih h.2]

mutual
theorem sortJsonValue_wellFormed (j : Json) : j.sortJsonValue.wellFormed := by
  cases j with
  | null | bool | int | float | str => rfl
  | arr items => exact sortItems_wellFormed items
  | obj members =>
    simp only [sortJsonValue, wellFormed, Bool.and_eq_true, decide_eq_true_eq]
    exact ⟨sortMembers_increasing members List.Pairwise.nil, sortMembers_wellFormed [] members rfl⟩
theorem sortItems_wellFormed (items : List Json) : itemsWellFormed (sortItems items) := by
  cases items with
  | nil => rfl
  | cons item items =>
    simp [sortItems, itemsWellFormed, sortJsonValue_wellFormed item, sortItems_wellFormed items]
theorem sortMembers_wellFormed (sorted members : List (String × Json))
    (h : membersWellFormed sorted) : membersWellFormed (sortMembers sorted members) := by
  match members with
  | [] => exact h
  | (key, child) :: members =>
    exact sortMembers_wellFormed _ members
      (insertMember_wellFormed (sortJsonValue_wellFormed child) h)
end

end Json

/-- How `serde_json` writes scalars. -/
structure ScalarText where
  int : Int → List Char
  (float string : String → List Char)

def isNumeral (c : Char) : Bool :=
  c.isDigit || c = '-' || c = '+' || c = '.' || c = 'e' || c = 'E'

/-- What is assumed of the texts of scalars: they differ for different scalars, a number consists of
the characters of numerals, and a string is quoted, so that it marks its own end. -/
structure ScalarText.Lawful (S : ScalarText) : Prop where
  int_numeral : ∀ n, S.int n ≠ [] ∧ ∀ c ∈ S.int n, isNumeral c
  float_numeral : ∀ digits, S.float digits ≠ [] ∧ ∀ c ∈ S.float digits, isNumeral c
  int_injective : Function.Injective S.int
  float_injective : Function.Injective S.float
  int_ne_float : ∀ n digits, S.int n ≠ S.float digits
  string_quoted : ∀ s, ∃ rest, S.string s = '"' :: rest
  string_delimited : SelfDelimiting S.string

namespace ScalarText
variable {S : ScalarText} {s t text x : List Char}

/- `serde_json::to_vec`: no whitespace, a comma in front of every item but the first. -/
mutual
def toVec (S : ScalarText) : Json → List Char
  | .null => ['n', 'u', 'l', 'l']
  | .bool true => ['t', 'r', 'u', 'e']
  | .bool false => ['f', 'a', 'l', 's', 'e']
  | .int n => S.int n
  | .float digits => S.float digits
  | .str s => S.string s
  | .arr [] => ['[', ']']
  | .arr (item :: items) => '[' :: (toVec S item ++ furtherItems S items)
  | .obj [] => ['\x7b', '\x7d']
  | .obj ((key, child) :: members) =>
    '\x7b' :: (S.string key ++ ':' :: (toVec S child ++ furtherMembers S members))
def furtherItems (S : ScalarText) : List Json → List Char
  | [] => [']']
  | item :: items => ',' :: (toVec S item ++ furtherItems S items)
def furtherMembers (S : ScalarText) : List (String × Json) → List Char
  | [] => ['\x7d']
  | (key, child) :: members =>
    ',' :: (S.string key ++ ':' :: (toVec S child ++ furtherMembers S members))
end

/-- The kind of a value, which the first character of its text tells. -/
def kind : Json → Nat
  | .null => 0
  | .bool true => 1
  | .bool false => 2
  | .int _ | .float _ => 3
  | .str _ => 4
  | .arr _ => 5
  | .obj _ => 6

def leadKind (c : Char) : Option Nat :=
  if c = 'n' then some 0 else if c = 't' then some 1 else if c = 'f' then some 2
  else if isNumeral c then some 3 else if c = '"' then some 4 else if c = '[' then some 5
  else if c = '\x7b' then some 6 else none

theorem leadKind_numeral (h : isNumeral c) : leadKind c = some 3 := by
  unfold leadKind
  split_ifs with hn ht hf
  · subst hn
    cases h
  · subst ht
    cases h
  · subst hf
    cases h
  · rfl

theorem lead_numeral (h : text ≠ [] ∧ ∀ c ∈ text, isNumeral c) :
    ∃ c rest, text = c :: rest ∧ leadKind c = some 3 := by
  obtain ⟨c, rest, rfl⟩ := List.exists_cons_of_ne_nil h.1
  exact ⟨c, rest, rfl, leadKind_numeral (h.2 c List.mem_cons_self)⟩

theorem toVec_lead (h : S.Lawful) (j : Json) :
    ∃ c rest, S.toVec j = c :: rest ∧ leadKind c = some (kind j) := by
  match j with
  | .null => exact ⟨'n', _, by rw [toVec], rfl⟩
  | .bool true => exact ⟨'t', _, by rw [toVec], rfl⟩
  | .bool false => exact ⟨'f', _, by rw [toVec], rfl⟩
  | .int n => simpa only [toVec, kind] using lead_numeral (h.int_numeral n)
  | .float digits => simpa only [toVec, kind] using lead_numeral (h.float_numeral digits)
  | .str s =>
    obtain ⟨rest, hrest⟩ := h.string_quoted s
    exact ⟨'"', rest, by rw [toVec, hrest], rfl⟩
  | .arr [] => exact ⟨'[', _, by rw [toVec], rfl⟩
  | .arr (item :: items) => exact ⟨'[', _, by rw [toVec], rfl⟩
  | .obj [] => exact ⟨'\x7b', _, by rw [toVec], rfl⟩
  | .obj ((key, child) :: members) => exact ⟨'\x7b', _, by rw [toVec], rfl⟩

theorem kind_eq_of_toVec (h : S.Lawful) {a b : Json}
    (heq : S.toVec a ++ s = S.toVec b ++ t) : kind a = kind b := by
  obtain ⟨c, rest, ha, hc⟩ := toVec_lead h a
  obtain ⟨d, rest', hb, hd⟩ := toVec_lead h b
  rw [ha, hb] at heq
  obtain ⟨rfl, _⟩ := List.cons.inj heq
  exact Option.some.inj (hc.symm.trans hd)

theorem toVec_ne_of_leadKind (h : S.Lawful) (j : Json) (hc : leadKind c = none)
    : S.toVec j ++ s ≠ c :: t := by
  obtain ⟨d, rest, hj, hd⟩ := toVec_lead h j
  intro heq
  rw [hj] at heq
  obtain ⟨rfl, _⟩ := List.cons.inj heq
  rw [hc] at hd
  cases hd

def Stops (text : List Char) : Prop := ∀ c ∈ text.head?, isNumeral c = false

theorem stops_cons (h : isNumeral c = false) : Stops (c :: text) := by
  intro d hd
  obtain rfl := Option.some.inj hd
  exact h

theorem furtherItems_stops (items : List Json) : Stops (S.furtherItems items ++ s) := by
  cases items with
  | nil => exact stops_cons rfl
  | cons => exact stops_cons rfl

theorem furtherMembers_stops (members : List (String × Json)) :
    Stops (S.furtherMembers members ++ s) := by
  cases members with
  | nil => exact stops_cons rfl
  | cons => exact stops_cons rfl

theorem takeWhile_numeral (hx : ∀ c ∈ x, isNumeral c) (hs : Stops s) :
    (x ++ s).takeWhile isNumeral = x := by
  rw [List.takeWhile_append_of_pos hx]
  cases s with
  | nil => simp
  | cons c s => simp [hs c rfl]

theorem numeral_cancel {x y s t : List Char} (hx : ∀ c ∈ x, isNumeral c) (hy : ∀ c ∈ y, isNumeral c)
    (hs : Stops s) (ht : Stops t) (h : x ++ s = y ++ t) : x = y ∧ s = t := by
  have hfront := congrArg (List.takeWhile isNumeral) h
  rw [takeWhile_numeral hx hs, takeWhile_numeral hy ht] at hfront
  subst hfront
  exact ⟨rfl, List.append_cancel_left h⟩

/- The text of a value can be read off the front of any text that lets its numbers end. -/
mutual
theorem toVec_cancel (h : S.Lawful) (a b : Json) {s t : List Char} (hs : Stops s) (ht : Stops t)
    (heq : S.toVec a ++ s = S.toVec b ++ t) : a = b ∧ s = t := by
  have hkind := kind_eq_of_toVec h heq
  match a, b with
  | .null, .null => exact ⟨rfl, List.append_cancel_left heq⟩
  | .bool true, .bool true => exact ⟨rfl, List.append_cancel_left heq⟩
  | .bool false, .bool false => exact ⟨rfl, List.append_cancel_left heq⟩
  | .int m, .int n =>
    rw [toVec, toVec] at heq
    obtain ⟨hnumber, hrest⟩ := numeral_cancel (h.int_numeral m).2 (h.int_numeral n).2 hs ht heq
    exact ⟨congrArg Json.int (h.int_injective hnumber), hrest⟩
  | .float m, .float n =>
    rw [toVec, toVec] at heq
    obtain ⟨hnumber, hrest⟩ := numeral_cancel (h.float_numeral m).2 (h.float_numeral n).2 hs ht heq
    exact ⟨congrArg Json.float (h.float_injective hnumber), hrest⟩
  | .int m, .float n =>
    rw [toVec, toVec] at heq
    exact absurd (numeral_cancel (h.int_numeral m).2 (h.float_numeral n).2 hs ht heq).1
      (h.int_ne_float m n)
  | .float m, .int n =>
    rw [toVec, toVec] at heq
    exact absurd (numeral_cancel (h.float_numeral m).2 (h.int_numeral n).2 hs ht heq).1.symm
      (h.int_ne_float n m)
  | .str x, .str y =>
    rw [toVec, toVec] at heq
    obtain ⟨rfl, hrest⟩ := h.string_delimited.cons_eq heq
    exact ⟨rfl, hrest⟩
  | .arr [], .arr [] => exact ⟨rfl, List.append_cancel_left heq⟩
  | .arr (x :: xs), .arr (y :: ys) =>
    simp only [toVec, List.cons_append, List.append_assoc, List.cons.injEq, true_and] at heq
    obtain ⟨rfl, hrest⟩ := toVec_cancel h x y (furtherItems_stops xs) (furtherItems_stops ys) heq
    obtain ⟨rfl, hend⟩ := furtherItems_cancel h xs ys hrest
    exact ⟨rfl, hend⟩
  | .arr [], .arr (y :: ys) =>
    simp only [toVec, List.cons_append, List.append_assoc, List.cons.injEq, true_and] at heq
    exact absurd heq.symm (toVec_ne_of_leadKind h y rfl)
  | .arr (x :: xs), .arr [] =>
    simp only [toVec, List.cons_append, List.append_assoc, List.cons.injEq, true_and] at heq
    exact absurd heq (toVec_ne_of_leadKind h x rfl)
  | .obj [], .obj [] => exact ⟨rfl, List.append_cancel_left heq⟩
  | .obj ((k, x) :: ms), .obj ((l, y) :: ns) =>
    simp only [toVec, List.cons_append, List.append_assoc, List.cons.injEq, true_and] at heq
    obtain ⟨rfl, hcolon⟩ := h.string_delimited.cons_eq heq
    obtain ⟨rfl, hrest⟩ := toVec_cancel h x y (furtherMembers_stops ms)
      (furtherMembers_stops ns) (List.cons.inj hcolon).2
    obtain ⟨rfl, hend⟩ := furtherMembers_cancel h ms ns hrest
    exact ⟨rfl, hend⟩
  | .obj [], .obj ((l, y) :: ns) =>
    obtain ⟨rest, hquote⟩ := h.string_quoted l
    simp [toVec, hquote] at heq
  | .obj ((k, x) :: ms), .obj [] =>
    obtain ⟨rest, hquote⟩ := h.string_quoted k
    simp [toVec, hquote] at heq
  | .bool true, .bool false | .bool false, .bool true => cases hkind
  | .null, .bool true | .null, .bool false | .null, .int _ | .null, .float _ | .null, .str _
  | .null, .arr _ | .null, .obj _ => cases hkind
  | .bool true, .null | .bool true, .int _ | .bool true, .float _ | .bool true, .str _
  | .bool true, .arr _ | .bool true, .obj _ => cases hkind
  | .bool false, .null | .bool false, .int _ | .bool false, .float _ | .bool false, .str _
  | .bool false, .arr _ | .bool false, .obj _ => cases hkind
  | .int _, .null | .int _, .bool true | .int _, .bool false | .int _, .str _ | .int _, .arr _
  | .int _, .obj _ => cases hkind
  | .float _, .null | .float _, .bool true | .float _, .bool false | .float _, .str _
  | .float _, .arr _ | .float _, .obj _ => cases hkind
  | .str _, .null | .str _, .bool true | .str _, .bool false | .str _, .int _ | .str _, .float _
  | .str _, .arr _ | .str _, .obj _ => cases hkind
  | .arr _, .null | .arr _, .bool true | .arr _, .bool false | .arr _, .int _ | .arr _, .float _
  | .arr _, .str _ | .arr _, .obj _ => cases hkind
  | .obj _, .null | .obj _, .bool true | .obj _, .bool false | .obj _, .int _ | .obj _, .float _
  | .obj _, .str _ | .obj _, .arr _ => cases hkind
theorem furtherItems_cancel (h : S.Lawful) (xs ys : List Json) {s t : List Char}
    (heq : S.furtherItems xs ++ s = S.furtherItems ys ++ t) : xs = ys ∧ s = t := by
  match xs, ys with
  | [], [] => exact ⟨rfl, List.append_cancel_left heq⟩
  | [], _ :: _ => simp [furtherItems] at heq
  | _ :: _, [] => simp [furtherItems] at heq
  | x :: xs, y :: ys =>
    simp only [furtherItems, List.cons_append, List.append_assoc, List.cons.injEq, true_and] at heq
    obtain ⟨rfl, hrest⟩ := toVec_cancel h x y (furtherItems_stops xs) (furtherItems_stops ys) heq
    obtain ⟨rfl, hend⟩ := furtherItems_cancel h xs ys hrest
    exact ⟨rfl, hend⟩
theorem furtherMembers_cancel (h : S.Lawful) (ms ns : List (String × Json)) {s t : List Char}
    (heq : S.furtherMembers ms ++ s = S.furtherMembers ns ++ t) : ms = ns ∧ s = t := by
  match ms, ns with
  | [], [] => exact ⟨rfl, List.append_cancel_left heq⟩
  | [], _ :: _ => simp [furtherMembers] at heq
  | _ :: _, [] => simp [furtherMembers] at heq
  | (k, x) :: ms, (l, y) :: ns =>
    simp only [furtherMembers, List.cons_append, List.append_assoc, List.cons.injEq,
      true_and] at heq
    obtain ⟨rfl, hcolon⟩ := h.string_delimited.cons_eq heq
    obtain ⟨rfl, hrest⟩ := toVec_cancel h x y (furtherMembers_stops ms)
      (furtherMembers_stops ns) (List.cons.inj hcolon).2
    obtain ⟨rfl, hend⟩ := furtherMembers_cancel h ms ns hrest
    exact ⟨rfl, hend⟩
end

theorem toVec_injective (h : S.Lawful) : Function.Injective S.toVec := by
  intro a b heq
  have hnil : Stops [] := fun c hc => by cases hc
  exact (toVec_cancel h a b hnil hnil (by rw [heq])).1

/-- `serde_json` with these scalars and this reader. -/
def serde (S : ScalarText) (parse : String → Option Json) : SerdeJson :=
  ⟨fun j => String.ofList (S.toVec j), parse⟩

theorem serde_print_injective (h : S.Lawful) (parse : String → Option Json) :
    Function.Injective (S.serde parse).print := by
  intro a b heq
  refine toVec_injective h ?_
  simpa [serde] using congrArg String.toList heq

end ScalarText

/-- Canonical texts are equal exactly for values that are the same, and reading one and writing it
again gives it back. The reader is assumed to read what the writer has written. -/
theorem canonical_json_exact (S : ScalarText) (hS : S.Lawful) (parse : String → Option Json)
    (hparse : ∀ j : Json, j.wellFormed = true →
      parse ((S.serde parse).print j) = some j) :
    (∀ a b : Json, a.uniqueKeys = true → b.uniqueKeys = true →
      ((S.serde parse).canonicalJsonString a = (S.serde parse).canonicalJsonString b ↔
        Json.Same a b)) ∧
    ∀ a : Json, ∃ value, (S.serde parse).parse
      ((S.serde parse).canonicalJsonString a) = some value ∧
      (S.serde parse).canonicalJsonString value = (S.serde parse).canonicalJsonString a := by
  constructor
  · intro a b ha hb
    constructor
    · intro heq
      exact Json.same_of_sort_eq a b ha hb (ScalarText.serde_print_injective hS parse heq)
    · intro hsame
      rw [SerdeJson.canonicalJsonString, SerdeJson.canonicalJsonString,
        Json.sort_eq_of_same a ha hsame]
  · intro a
    refine ⟨a.sortJsonValue, hparse _ a.sortJsonValue_wellFormed, ?_⟩
    rw [SerdeJson.canonicalJsonString, SerdeJson.canonicalJsonString,
      Json.sortJsonValue_eq _ a.sortJsonValue_wellFormed]

/- A concrete writer of scalars; a floating-point number is given by its digits, of which each
character is written as a number. -/

def charCode (c : Char) : List Char := (toString c.toNat).toList ++ ['e']

theorem charCode_selfDelimiting : SelfDelimiting charCode := by
  have hdigits : ∀ n : Nat, 'e' ∉ (toString n).toList := by
    intro n hmem
    have hdigit := isDigit_of_mem_toString hmem
    revert hdigit
    decide
  intro a b s t h
  simp only [charCode, List.append_assoc, List.cons_append, List.nil_append] at h
  obtain ⟨hcode, hrest⟩ := append_cons_cancel (hdigits _) (hdigits _) h
  have hnat := toString_nat_injective (String.toList_inj.mp hcode)
  exact ⟨Char.toNat_inj.mp hnat, hrest⟩

def plainScalars : ScalarText where
  int n := (toString n).toList
  float digits := '.' :: digits.toList.flatMap charCode
  string s := '"' :: JsonText.encodeChars s.toList

theorem isNumeral_of_mem_nat {n : Nat} (h : c ∈ (toString n).toList) : isNumeral c := by
  simp [isNumeral, isDigit_of_mem_toString h]

theorem isNumeral_of_mem_int {n : Int} (h : c ∈ (toString n).toList) : isNumeral c := by
  cases n with
  | ofNat n => exact isNumeral_of_mem_nat h
  | negSucc n =>
    have hsign : (toString (Int.negSucc n)).toList = '-' :: (toString (n + 1)).toList := by
      change ("-" ++ toString (n + 1)).toList = _
      simp
    rw [hsign, List.mem_cons] at h
    rcases h with rfl | h
    · decide
    · exact isNumeral_of_mem_nat h

theorem toString_nat_ne_nil (n : Nat) : (toString n).toList ≠ [] := by
  rw [toString_nat]
  exact Nat.toDigits_ne_nil

theorem plainScalars_lawful : plainScalars.Lawful where
  int_numeral n := by
    refine ⟨?_, fun c hc => isNumeral_of_mem_int hc⟩
    cases n with
    | ofNat n => exact toString_nat_ne_nil n
    | negSucc n =>
      change ("-" ++ toString (n + 1)).toList ≠ []
      simp
  float_numeral digits := by
    refine ⟨List.cons_ne_nil _ _, fun c hc => ?_⟩
    rcases List.mem_cons.mp hc with rfl | hc
    · decide
    · obtain ⟨d, _, hd⟩ := List.mem_flatMap.mp hc
      rcases List.mem_append.mp hd with hd | hd
      · exact isNumeral_of_mem_nat hd
      · obtain rfl := List.mem_singleton.mp hd
        decide
  int_injective a b h := toString_int_injective (String.toList_inj.mp h)
  float_injective a b h := by
    refine String.toList_inj.mp (charCode_selfDelimiting.flatMap_injective ?_ (List.cons.inj h).2)
    intro c
    simp [charCode]
  int_ne_float n digits h := by
    have hmem : '.' ∈ (toString n).toList := by
      change (toString n).toList = _ at h
      rw [h]
      exact List.mem_cons_self
    cases n with
    | ofNat n =>
      have hdigit := isDigit_of_mem_toString hmem
      revert hdigit
      decide
    | negSucc n =>
      have hsign : (toString (Int.negSucc n)).toList = '-' :: (toString (n + 1)).toList := by
        change ("-" ++ toString (n + 1)).toList = _
        simp
      rw [hsign] at hmem
      have hdigit := isDigit_of_mem_toString (List.mem_of_ne_of_mem (by decide) hmem)
      revert hdigit
      decide
  string_quoted s := ⟨_, rfl⟩
  string_delimited a b s t h := by
    have htexts : JsonText.encodeChars a.toList ++ s = JsonText.encodeChars b.toList ++ t :=
      (List.cons.inj h).2
    have hdecode := congrArg JsonText.decodeChars htexts
    rw [JsonText.decodeChars_encodeChars, JsonText.decodeChars_encodeChars] at hdecode
    obtain ⟨htext, hrest⟩ := Prod.mk.inj (Option.some.inj hdecode)
    exact ⟨String.toList_inj.mp htext, hrest⟩

open Classical in
/-- The reader that undoes a lawful writer. -/
noncomputable def ScalarText.reader (S : ScalarText) (text : String) : Option Json :=
  if h : ∃ j, String.ofList (S.toVec j) = text then some h.choose else none

theorem ScalarText.reader_print {S : ScalarText} (h : S.Lawful) (j : Json) :
    S.reader ((S.serde S.reader).print j) = some j := by
  have hprinted : ∃ j', String.ofList (S.toVec j') = (S.serde S.reader).print j := ⟨j, rfl⟩
  rw [reader, dif_pos hprinted]
  exact congrArg some (serde_print_injective h S.reader hprinted.choose_spec)

theorem canonical_json_exact_sample :
    ((plainScalars.serde plainScalars.reader).canonicalJsonString
        (.obj [("b", .arr [.int 1, .int 2]), ("a", .null)])
      = (plainScalars.serde plainScalars.reader).canonicalJsonString
        (.obj [("a", .null), ("b", .arr [.int 1, .int 2])]) ↔
    Json.Same (.obj [("b", .arr [.int 1, .int 2]), ("a", .null)])
      (.obj [("a", .null), ("b", .arr [.int 1, .int 2])])) ∧
    ∃ value, (plainScalars.serde plainScalars.reader).parse
        ((plainScalars.serde plainScalars.reader).canonicalJsonString (.obj [("a", .null)]))
        = some value ∧
      (plainScalars.serde plainScalars.reader).canonicalJsonString value
        = (plainScalars.serde plainScalars.reader).canonicalJsonString (.obj [("a", .null)]) := by
  have hexact := canonical_json_exact plainScalars plainScalars_lawful plainScalars.reader
    fun j _ => ScalarText.reader_print plainScalars_lawful j
  exact ⟨hexact.1 _ _ (by decide) (by decide), hexact.2 _⟩

end Volicord
