import Volicord.Types.Json
import Volicord.Types.Values

/-! A text format for JSON values that satisfies everything assumed of `serde_json`:
a quotation mark ends a string, `!` stands in front of one that is part of it, and each list
entry has a comma. It makes the assumptions executable on concrete inputs. -/
namespace Volicord.JsonText

def encodeChars : List Char → List Char
  | [] => ['"']
  | c :: cs => if c = '"' ∨ c = '!' then '!' :: c :: encodeChars cs else c :: encodeChars cs

mutual
def encode : Json → List Char
  | .null => ['n']
  | .bool true => ['t']
  | .bool false => ['f']
  | .int (.ofNat n) => 'p' :: encodeChars (List.replicate n 'x')
  | .int (.negSucc n) => 'm' :: encodeChars (List.replicate n 'x')
  | .float digits => 'd' :: encodeChars digits.toList
  | .str s => 's' :: encodeChars s.toList
  | .arr items => 'a' :: encodeItems items
  | .obj members => 'o' :: encodeMembers members
def encodeItems : List Json → List Char
  | [] => [']']
  | item :: items => ',' :: (encode item ++ encodeItems items)
def encodeMembers : List (String × Json) → List Char
  | [] => [')']
  | (key, child) :: members =>
    ',' :: (encodeChars key.toList ++ (encode child ++ encodeMembers members))
end

def decodeChars : List Char → Option (List Char × List Char)
  | '"' :: rest => some ([], rest)
  | '!' :: c :: rest => (decodeChars rest).map fun r => (c :: r.1, r.2)
  | c :: rest => (decodeChars rest).map fun r => (c :: r.1, r.2)
  | [] => none

mutual
def decode : Nat → List Char → Option (Json × List Char)
  | 0, _ => none
  | fuel + 1, text => match text with
    | 'n' :: rest => some (.null, rest)
    | 't' :: rest => some (.bool true, rest)
    | 'f' :: rest => some (.bool false, rest)
    | 'p' :: rest => (decodeChars rest).map fun r => (.int (.ofNat r.1.length), r.2)
    | 'm' :: rest => (decodeChars rest).map fun r => (.int (.negSucc r.1.length), r.2)
    | 'd' :: rest => (decodeChars rest).map fun r => (.float (String.ofList r.1), r.2)
    | 's' :: rest => (decodeChars rest).map fun r => (.str (String.ofList r.1), r.2)
    | 'a' :: rest => (decodeItems fuel rest).map fun r => (.arr r.1, r.2)
    | 'o' :: rest => (decodeMembers fuel rest).map fun r => (.obj r.1, r.2)
    | _ => none
def decodeItems : Nat → List Char → Option (List Json × List Char)
  | 0, _ => none
  | fuel + 1, text => match text with
    | ']' :: rest => some ([], rest)
    | ',' :: rest => (decode fuel rest).bind fun item =>
        (decodeItems fuel item.2).map fun r => (item.1 :: r.1, r.2)
    | _ => none
def decodeMembers : Nat → List Char → Option (List (String × Json) × List Char)
  | 0, _ => none
  | fuel + 1, text => match text with
    | ')' :: rest => some ([], rest)
    | ',' :: rest => (decodeChars rest).bind fun key => (decode fuel key.2).bind fun child =>
        (decodeMembers fuel child.2).map fun r => ((String.ofList key.1, child.1) :: r.1, r.2)
    | _ => none
end

theorem decodeChars_encodeChars (cs rest : List Char) :
    decodeChars (encodeChars cs ++ rest) = some (cs, rest) := by
  induction cs with
  | nil => rfl
  | cons c cs ih =>
    unfold encodeChars
    split
    · rw [List.cons_append, List.cons_append, decodeChars, ih]
      rfl
    · rename_i hplain
      have hplain : c ≠ '"' ∧ c ≠ '!' := not_or.mp hplain
      rw [List.cons_append, decodeChars, ih]
      · rfl
      · exact hplain.1
      · exact fun _ _ h _ => hplain.2 h

/- Decoding with more fuel than the encoded length gives the value back. -/
mutual
theorem decode_encode (j : Json) (fuel : Nat) (rest : List Char)
    (h : (encode j).length < fuel) : decode fuel (encode j ++ rest) = some (j, rest) := by
  obtain _ | fuel := fuel
  · omega
  match j with
  | .null => rfl
  | .bool true => rfl
  | .bool false => rfl
  | .int (.ofNat n) => simp [encode, decode, decodeChars_encodeChars]
  | .int (.negSucc n) => simp [encode, decode, decodeChars_encodeChars]
  | .float digits => simp [encode, decode, decodeChars_encodeChars]
  | .str s => simp [encode, decode, decodeChars_encodeChars]
  | .arr items =>
    simp only [encode, List.length_cons] at h
    simp [encode, decode, decodeItems_encodeItems items fuel rest (by omega)]
  | .obj members =>
    simp only [encode, List.length_cons] at h
    simp [encode, decode, decodeMembers_encodeMembers members fuel rest (by omega)]
theorem decodeItems_encodeItems (items : List Json) (fuel : Nat) (rest : List Char)
    (h : (encodeItems items).length < fuel) :
    decodeItems fuel (encodeItems items ++ rest) = some (items, rest) := by
  obtain _ | fuel := fuel
  · omega
  match items with
  | [] => rfl
  | item :: items =>
    simp only [encodeItems, List.length_cons, List.length_append] at h
    simp [encodeItems, decodeItems, decode_encode item fuel _ (by omega),
      decodeItems_encodeItems items fuel rest (by omega)]
theorem decodeMembers_encodeMembers (members : List (String × Json)) (fuel : Nat)
    (rest : List Char) (h : (encodeMembers members).length < fuel) :
    decodeMembers fuel (encodeMembers members ++ rest) = some (members, rest) := by
  obtain _ | fuel := fuel
  · omega
  match members with
  | [] => rfl
  | (key, child) :: members =>
    simp only [encodeMembers, List.length_cons, List.length_append] at h
    simp [encodeMembers, decodeMembers, decodeChars_encodeChars,
      decode_encode child fuel _ (by omega),
      decodeMembers_encodeMembers members fuel rest (by omega)]
end

def print (j : Json) : String := String.ofList (encode j)

def parse (text : String) : Option Json :=
  match decode (text.toList.length + 1) text.toList with
  | some (j, []) => some j
  | _ => none

theorem parse_print (j : Json) : parse (print j) = some j := by
  have h := decode_encode j ((encode j).length + 1) [] (by omega)
  rw [List.append_nil] at h
  simp [parse, print, h]

/-- The usual text of the empty object is read too: the source has it as a literal. -/
def serde : SerdeJson :=
  ⟨print, fun text => (parse text).or (if text = "\x7b\x7d" then some (.obj []) else none)⟩

theorem serde_printsApart : serde.PrintsApart := by
  intro a b _ _ h
  have := congrArg parse h
  rwa [serde, parse_print, parse_print, Option.some.injEq] at this

theorem serde_lawful : serde.Lawful where
  apart := serde_printsApart
  parse_print a _ _ := by simp only [serde, parse_print, Option.some_or]

end Volicord.JsonText

/-- Instants written in unary: every instant from zero on reads back. -/
def Volicord.ClockText.chrono : Volicord.Chrono where
  year _ := 2026
  toCanonicalString t := String.ofList (List.replicate t.toNat 'x')
  parse text := some text.toList.length
