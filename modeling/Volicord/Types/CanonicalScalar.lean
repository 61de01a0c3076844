import Mathlib.Data.List.Infix
import Volicord.Lib.Framing

/-! `canonical_scalar.rs`: one specification of a scalar, and the three validators generated from
it: the byte loop, the SQLite predicate and the JSON Schema pattern. -/
namespace Volicord
variable {members : List Char} {c : Char}

structure CanonicalScalarSpec where
  semanticName : String
  (minimumLength maximumLength : Nat)
  allowedAsciiBytes : List UInt8
  forbiddenCompleteValues : List String

def utf8Bytes (value : String) : List UInt8 := value.toList.flatMap String.utf8EncodeChar

/-- `char::from(byte)`. -/
def byteChar (byte : UInt8) : Char := Char.ofNat byte.toNat

/- What SQLite makes of the predicate. -/

/-- One conjunct of the predicate, over one text value. -/
inductive SqliteClause where
  | byteLengthBetween (least most : Nat)
  | byteLengthIsLength
  | notGlob (pattern : List Char)
  | differsFrom (literal : String)

def beforeNul (value : String) : List Char := value.toList.takeWhile (· ≠ '\x00')

inductive GlobToken where
  | star
  | one
  | literal (c : Char)
  -- a set that starts with a bracket keeps it apart: no range can start at it
  | set (invert bracket : Bool) (members : List Char)

/-- The tokens of a pattern; inside of a set, what is known of it so far. -/
def scanGlob : Option (Bool × Bool × List Char) → List Char → Option (List GlobToken)
  | none, [] => some []
  | none, '*' :: rest => (scanGlob none rest).map (.star :: ·)
  | none, '?' :: rest => (scanGlob none rest).map (.one :: ·)
  | none, '[' :: '^' :: ']' :: rest => scanGlob (some (true, true, [])) rest
  | none, '[' :: '^' :: rest => scanGlob (some (true, false, [])) rest
  | none, '[' :: ']' :: rest => scanGlob (some (false, true, [])) rest
  | none, '[' :: rest => scanGlob (some (false, false, [])) rest
  | none, c :: rest => (scanGlob none rest).map (.literal c :: ·)
  | some _, [] => none
  | some (invert, bracket, members), c :: rest =>
    if c = ']' then (scanGlob none rest).map (.set invert bracket members :: ·)
    else scanGlob (some (invert, bracket, members ++ [c])) rest

def seenInSet (c : Char) : Option Char → List Char → Bool
  | _, [] => false
  | some prior, '-' :: next :: rest => (prior ≤ c && c ≤ next) || seenInSet c none rest
  | _, member :: rest => c = member || seenInSet c (some member) rest

def globMatch : List GlobToken → List Char → Bool
  | [], text => text.isEmpty
  | .star :: tokens, text => text.tails.any (globMatch tokens)
  | _ :: _, [] => false
  | .one :: tokens, _ :: text => globMatch tokens text
  | .literal d :: tokens, c :: text => c = d && globMatch tokens text
  | .set invert bracket members :: tokens, c :: text =>
    (((bracket && c = ']') || seenInSet c none members) != invert) && globMatch tokens text

def sqliteGlob (pattern : List Char) (value : String) : Bool :=
  (scanGlob none pattern).any fun tokens => globMatch tokens (beforeNul value)

def SqliteClause.holds (value : String) : SqliteClause → Bool
  | .byteLengthBetween least most =>
    least ≤ (utf8Bytes value).length && (utf8Bytes value).length ≤ most
  | .byteLengthIsLength => (utf8Bytes value).length = (beforeNul value).length
  | .notGlob pattern => !sqliteGlob pattern value
  | .differsFrom literal => value ≠ literal

/- What a JSON Schema validator makes of the pattern: one class with bounds, between anchors.
Anything else is outside of this fragment and matches nothing. -/

def classEscapes : List Char := ['\\', '[', ']', '-', '^']

def regexMembers : List Char → Option (List Char × List Char)
  | [] => none
  | ']' :: rest => some ([], rest)
  | '\\' :: c :: rest =>
    if c ∈ classEscapes then (regexMembers rest).map fun r => (c :: r.1, r.2) else none
  | c :: rest =>
    if c ∈ classEscapes then none else (regexMembers rest).map fun r => (c :: r.1, r.2)

def readDecimal (text : List Char) : Option (Nat × List Char) :=
  let digits := text.takeWhile Char.isDigit
  if digits.isEmpty then none else some (Nat.ofDigitChars 10 digits 0, text.dropWhile Char.isDigit)

structure BoundedClass where
  members : List Char
  (least most : Nat)

def readBounds (members rest : List Char) : Option BoundedClass :=
  match rest with
  | '\x7b' :: rest => match readDecimal rest with
    | some (least, ',' :: rest) => match readDecimal rest with
      | some (most, ['\x7d', '$']) => some ⟨members, least, most⟩
      | _ => none
    | _ => none
  | _ => none

def readPattern : List Char → Option BoundedClass
  | '^' :: '[' :: rest => (regexMembers rest).bind fun r => readBounds r.1 r.2
  | _ => none

def regexMatches (pattern : List Char) (value : String) : Bool :=
  (readPattern pattern).any fun bounded =>
    bounded.least ≤ value.toList.length && value.toList.length ≤ bounded.most
    && value.toList.all bounded.members.contains

namespace CanonicalScalarSpec

variable (spec : CanonicalScalarSpec)

def accepts (value : String) : Bool :=
  let bytes := utf8Bytes value
  (spec.minimumLength ≤ bytes.length && bytes.length ≤ spec.maximumLength)
  && bytes.all spec.allowedAsciiBytes.contains
  && !spec.forbiddenCompleteValues.contains value

def classMember (byte : UInt8) : List Char :=
  if byteChar byte ∈ classEscapes then ['\\', byteChar byte] else [byteChar byte]

def jsonSchemaPattern : List Char :=
  '^' :: '[' :: (spec.allowedAsciiBytes.flatMap classMember ++ ']' :: '\x7b' ::
    ((toString spec.minimumLength).toList ++ ',' :: ((toString spec.maximumLength).toList
      ++ ['\x7d', '$'])))

def sqliteGlobClass : List Char :=
  (if spec.allowedAsciiBytes.contains 93 then [']'] else [])
  ++ (if spec.allowedAsciiBytes.contains 45 then ['-'] else [])
  ++ (spec.allowedAsciiBytes.filter fun byte => !(byte = 93 || byte = 45)).map byteChar

/-- `sqlite_non_null_predicate`: the conjuncts, in order. -/
def sqliteNonNullPredicate : List SqliteClause :=
  [.byteLengthBetween spec.minimumLength spec.maximumLength, .byteLengthIsLength,
    .notGlob ('*' :: '[' :: '^' :: (spec.sqliteGlobClass ++ [']', '*']))]
  ++ spec.forbiddenCompleteValues.map .differsFrom

/-- An alphabet that can be written into all three languages: ASCII, at least one byte, and
without the bytes that end an SQL text. -/
structure Portable : Prop where
  ascii : ∀ byte ∈ spec.allowedAsciiBytes, byte.toNat < 128
  nonempty : spec.allowedAsciiBytes ≠ []
  quotable : ∀ byte ∈ spec.allowedAsciiBytes, byte ≠ 0 ∧ byte ≠ 39

def alphabet : List Char := spec.allowedAsciiBytes.map byteChar

end CanonicalScalarSpec

def baselineRefSpec : CanonicalScalarSpec where
  semanticName := "BaselineRef"
  minimumLength := 1
  maximumLength := 64
  allowedAsciiBytes := utf8Bytes "-0123456789_abcdefghijklmnopqrstuvwxyz"
  forbiddenCompleteValues := ["null"]

/- Bytes and characters. -/

theorem toNat_byteChar (byte : UInt8) : (byteChar byte).toNat = byte.toNat := by
  have hlt := byte.toNat_lt
  have hvalid : byte.toNat.isValidChar := Or.inl (by omega)
  unfold byteChar Char.ofNat
  rw [dif_pos hvalid]
  rfl

theorem byteChar_injective : Function.Injective byteChar := by
  intro a b h
  have hnat := congrArg Char.toNat h
  rw [toNat_byteChar, toNat_byteChar] at hnat
  exact UInt8.toNat_inj.mp hnat

theorem utf8EncodeChar_byteChar {byte : UInt8} (h : byte.toNat < 128) :
    String.utf8EncodeChar (byteChar byte) = [byte] := by
  have hval : (byteChar byte).val.toNat = byte.toNat := toNat_byteChar byte
  have hle : (byteChar byte).val.toNat ≤ 0x7f := by omega
  unfold String.utf8EncodeChar
  simp only [hval] at hle ⊢
  rw [if_pos hle, UInt8.ofNat_toNat]

theorem exists_high_byte (h : 0x7f < c.val.toNat) :
    ∃ byte ∈ String.utf8EncodeChar c, 128 ≤ byte.toNat := by
  unfold String.utf8EncodeChar
  dsimp only
  rw [if_neg (by omega)]
  split_ifs
  all_goals
    refine ⟨_, List.mem_cons_self, ?_⟩
    rw [UInt8.toNat_ofNat']
    omega

theorem encoded_in_iff {allowed : List UInt8} (hascii : ∀ byte ∈ allowed, byte.toNat < 128)
    (c : Char) : (∀ byte ∈ String.utf8EncodeChar c, byte ∈ allowed) ↔ c ∈ allowed.map byteChar := by
  constructor
  · intro h
    by_cases hc : 0x7f < c.val.toNat
    · obtain ⟨byte, hbyte, hhigh⟩ := exists_high_byte hc
      have hlow := hascii byte (h byte hbyte)
      omega
    · have hbyte : byteChar (UInt8.ofNat c.toNat) = c := by
        rw [← Char.toNat_inj, toNat_byteChar, UInt8.toNat_ofNat']
        change c.val.toNat % 2 ^ 8 = c.val.toNat
        omega
      have hencoded : String.utf8EncodeChar c = [UInt8.ofNat c.toNat] := by
        have hsmall : (UInt8.ofNat c.toNat).toNat < 128 := by
          rw [UInt8.toNat_ofNat']
          change c.val.toNat % 2 ^ 8 < 128
          omega
        rw [← utf8EncodeChar_byteChar hsmall, hbyte]
      have hmem := h (UInt8.ofNat c.toNat) (by rw [hencoded]; exact List.mem_singleton_self _)
      exact List.mem_map.mpr ⟨_, hmem, hbyte⟩
  · intro h byte hbyte
    obtain ⟨allowedByte, hallowed, rfl⟩ := List.mem_map.mp h
    rw [utf8EncodeChar_byteChar (hascii allowedByte hallowed), List.mem_singleton] at hbyte
    exact hbyte ▸ hallowed

theorem length_le_utf8Bytes (text : List Char) :
    text.length ≤ (text.flatMap String.utf8EncodeChar).length := by
  induction text with
  | nil => exact Nat.le_refl _
  | cons c text ih =>
    have hpos : 0 < (String.utf8EncodeChar c).length :=
      List.length_pos_iff.mpr String.utf8EncodeChar_ne_nil
    rw [List.flatMap_cons, List.length_append, List.length_cons]
    omega

/- The pattern's fragment. -/

theorem regexMembers_escaped (members : List UInt8) (rest : List Char) :
    regexMembers (members.flatMap CanonicalScalarSpec.classMember ++ ']' :: rest)
      = some (members.map byteChar, rest) := by
  induction members with
  | nil => rfl
  | cons byte members ih =>
    rw [List.flatMap_cons, List.append_assoc, List.map_cons]
    by_cases hescape : byteChar byte ∈ classEscapes
    · have hmember : CanonicalScalarSpec.classMember byte = ['\\', byteChar byte] := if_pos hescape
      rw [hmember, List.cons_append, List.cons_append, List.nil_append, regexMembers,
        if_pos hescape, ih]
      rfl
    · have hbracket : byteChar byte ≠ ']' := by
        rintro h
        rw [h] at hescape
        exact hescape (by decide)
      have hbackslash : byteChar byte ≠ '\\' := by
        rintro h
        rw [h] at hescape
        exact hescape (by decide)
      have hmember : CanonicalScalarSpec.classMember byte = [byteChar byte] := if_neg hescape
      rw [hmember, List.cons_append, List.nil_append, regexMembers, if_neg hescape, ih]
      · rfl
      · exact hbracket
      · exact fun _ _ h _ => hbackslash h

theorem readDecimal_toString (n : Nat) (hc : c.isDigit = false) (rest : List Char) :
    readDecimal ((toString n).toList ++ c :: rest) = some (n, c :: rest) := by
  have hdigits : ∀ d ∈ (toString n).toList, d.isDigit := fun d hd =>
    Framing.isDigit_of_mem_toString hd
  have htake : ((toString n).toList ++ c :: rest).takeWhile Char.isDigit = (toString n).toList := by
    rw [List.takeWhile_append_of_pos hdigits]
    simp [hc]
  have hdrop : ((toString n).toList ++ c :: rest).dropWhile Char.isDigit = c :: rest := by
    rw [List.dropWhile_append_of_pos hdigits]
    simp [hc]
  have hne : (toString n).toList.isEmpty = false := by
    rw [Framing.toString_nat, List.isEmpty_eq_false_iff]
    exact Nat.toDigits_ne_nil
  simp only [readDecimal, htake, hdrop, hne]
  rw [Framing.toString_nat, Nat.ofDigitChars_ten_toDigits]
  rfl

theorem readPattern_jsonSchemaPattern (spec : CanonicalScalarSpec) :
    readPattern spec.jsonSchemaPattern
      = some ⟨spec.alphabet, spec.minimumLength, spec.maximumLength⟩ := by
  have hcomma : Char.isDigit ',' = false := by decide
  have hbrace : Char.isDigit '\x7d' = false := by decide
  rw [CanonicalScalarSpec.jsonSchemaPattern, readPattern, regexMembers_escaped, Option.bind_some,
    readBounds]
  simp only [readDecimal_toString _ hcomma, readDecimal_toString _ hbrace]
  rfl

/- The set of the glob pattern. -/

theorem scanGlob_members (h : ']' ∉ members) (invert bracket : Bool) (known rest : List Char) :
    scanGlob (some (invert, bracket, known)) (members ++ ']' :: rest)
      = (scanGlob none rest).map (.set invert bracket (known ++ members) :: ·) := by
  induction members generalizing known with
  | nil => simp [scanGlob]
  | cons c members ih =>
    rw [List.mem_cons, not_or] at h
    rw [List.cons_append, scanGlob, if_neg (Ne.symm h.1), ih h.2]
    simp

theorem seenInSet_of_notMem (h : '-' ∉ members) (c : Char)
    (prior : Option Char) : seenInSet c prior members = members.contains c := by
  induction members generalizing prior with
  | nil => cases prior <;> rfl
  | cons m members ih =>
    rw [List.mem_cons, not_or] at h
    rw [seenInSet, ih h.2, List.contains_cons]
    · rw [Bool.beq_eq_decide_eq]
    · exact fun _ _ _ _ hdash _ => h.1 hdash.symm

theorem seenInSet_hyphen (h : '-' ∉ members) (c : Char) :
    seenInSet c none ('-' :: members) = ('-' :: members).contains c := by
  rw [seenInSet, seenInSet_of_notMem h, List.contains_cons, Bool.beq_eq_decide_eq]
  intro _ _ _ hprior
  cases hprior

theorem globMatch_somewhere (bracket : Bool) (members text : List Char) :
    globMatch [.star, .set true bracket members, .star] text
      = text.any fun c => !((bracket && c = ']') || seenInSet c none members) := by
  have hstar : ∀ rest : List Char, globMatch [.star] rest := by
    intro rest
    rw [globMatch, List.any_eq_true]
    exact ⟨[], (List.mem_tails _ _).mpr (List.nil_suffix), rfl⟩
  rw [globMatch]
  induction text with
  | nil => rfl
  | cons c text ih =>
    rw [List.tails, List.any_cons, List.any_cons, ih, globMatch, hstar, Bool.and_true,
      Bool.bne_true]

namespace CanonicalScalarSpec
variable {spec : CanonicalScalarSpec}

theorem mem_alphabet_byte {byte : UInt8} : byteChar byte ∈ spec.alphabet ↔
    byte ∈ spec.allowedAsciiBytes := by
  rw [alphabet, List.mem_map]
  constructor
  · rintro ⟨other, hother, heq⟩
    exact byteChar_injective heq ▸ hother
  · intro h
    exact ⟨byte, h, rfl⟩

def plainMembers (spec : CanonicalScalarSpec) : List Char :=
  (spec.allowedAsciiBytes.filter fun byte => !(byte = 93 || byte = 45)).map byteChar

theorem mem_plainMembers : c ∈ spec.plainMembers ↔ c ∈ spec.alphabet ∧ c ≠ ']' ∧ c ≠ '-' := by
  have hbracket : ∀ byte : UInt8, byteChar byte = ']' ↔ byte = 93 := fun byte =>
    byteChar_injective.eq_iff' (by decide)
  have hhyphen : ∀ byte : UInt8, byteChar byte = '-' ↔ byte = 45 := fun byte =>
    byteChar_injective.eq_iff' (by decide)
  simp only [plainMembers, alphabet, List.mem_map, List.mem_filter, Bool.not_eq_true',
    Bool.or_eq_false_iff, decide_eq_false_iff_not]
  constructor
  · rintro ⟨byte, ⟨hmem, hne⟩, rfl⟩
    exact ⟨⟨byte, hmem, rfl⟩, (hbracket byte).not.mpr hne.1, (hhyphen byte).not.mpr hne.2⟩
  · rintro ⟨⟨byte, hmem, rfl⟩, h₁, h₂⟩
    exact ⟨byte, ⟨hmem, (hbracket byte).not.mp h₁, (hhyphen byte).not.mp h₂⟩, rfl⟩

theorem contains_byte_iff (byte : UInt8) :
    spec.allowedAsciiBytes.contains byte ↔ byteChar byte ∈ spec.alphabet := by
  rw [List.contains_iff_mem, mem_alphabet_byte]

def setMembers (spec : CanonicalScalarSpec) : List Char :=
  (if spec.allowedAsciiBytes.contains 45 then ['-'] else []) ++ spec.plainMembers

theorem bracket_notMem_setMembers : ']' ∉ spec.setMembers := by
  intro h
  rcases List.mem_append.mp h with h | h
  · split_ifs at h
    · exact absurd (List.mem_singleton.mp h) (by decide)
    · cases h
  · exact (mem_plainMembers.mp h).2.1 rfl

theorem seenInSet_setMembers (c : Char) :
    seenInSet c none spec.setMembers ↔ c ∈ spec.alphabet ∧ c ≠ ']' := by
  have hplain : '-' ∉ spec.plainMembers := fun h => (mem_plainMembers.mp h).2.2 rfl
  have hhyphen : spec.allowedAsciiBytes.contains 45 ↔ '-' ∈ spec.alphabet := contains_byte_iff 45
  unfold setMembers
  split_ifs with hallowed
  · rw [List.singleton_append, seenInSet_hyphen hplain, List.contains_iff_mem, List.mem_cons,
      mem_plainMembers]
    constructor
    · rintro (rfl | h)
      · exact ⟨hhyphen.mp hallowed, by decide⟩
      · exact ⟨h.1, h.2.1⟩
    · rintro ⟨hc, hbracket⟩
      by_cases hdash : c = '-'
      · exact .inl hdash
      · exact .inr ⟨hc, hbracket, hdash⟩
  · rw [List.nil_append, seenInSet_of_notMem hplain, List.contains_iff_mem, mem_plainMembers]
    constructor
    · exact fun h => ⟨h.1, h.2.1⟩
    · rintro ⟨hc, hbracket⟩
      refine ⟨hc, hbracket, ?_⟩
      rintro rfl
      exact hallowed (hhyphen.mpr hc)

theorem scanGlob_pattern (hnonempty : spec.allowedAsciiBytes ≠ []) :
    scanGlob none ('*' :: '[' :: '^' :: (spec.sqliteGlobClass ++ [']', '*']))
      = some [.star, .set true (spec.allowedAsciiBytes.contains 93) spec.setMembers, .star] := by
  have hclass : spec.sqliteGlobClass
      = (if spec.allowedAsciiBytes.contains 93 then [']'] else []) ++ spec.setMembers := by
    rw [sqliteGlobClass, setMembers, plainMembers, List.append_assoc]
  have hscan : ∀ bracket, scanGlob (some (true, bracket, [])) (spec.setMembers ++ [']', '*'])
      = some [.set true bracket spec.setMembers, .star] := by
    intro bracket
    rw [scanGlob_members bracket_notMem_setMembers]
    rfl
  rw [hclass]
  by_cases hbracket : spec.allowedAsciiBytes.contains 93
  · rw [hbracket, if_pos rfl, List.singleton_append, List.cons_append, scanGlob, scanGlob, hscan]
    rfl
  · rw [Bool.not_eq_true] at hbracket
    rw [hbracket, if_neg (by decide), List.nil_append, scanGlob, scanGlob, hscan]
    · rfl
    · -- the set does not start with a bracket, because it has a member and none is a bracket
      intro rest hrest
      have hmembers : spec.setMembers ≠ [] := by
        obtain ⟨byte, hbyte⟩ := List.exists_mem_of_ne_nil _ hnonempty
        have hseen : seenInSet (byteChar byte) none spec.setMembers := by
          refine (seenInSet_setMembers _).mpr ⟨mem_alphabet_byte.mpr hbyte, ?_⟩
          intro heq
          have hmem : byteChar 93 ∈ spec.alphabet := by
            rw [show byteChar 93 = ']' by decide, ← heq]
            exact mem_alphabet_byte.mpr hbyte
          rw [(contains_byte_iff 93).mpr hmem] at hbracket
          cases hbracket
        intro hnil
        rw [hnil] at hseen
        cases hseen
      obtain ⟨c, tail, htail⟩ := List.exists_cons_of_ne_nil hmembers
      rw [htail, List.cons_append] at hrest
      have hmem : c ∈ spec.setMembers := by
        rw [htail]
        exact List.mem_cons_self
      exact bracket_notMem_setMembers ((List.cons.inj hrest).1 ▸ hmem)

theorem sqliteGlob_pattern (hnonempty : spec.allowedAsciiBytes ≠ []) (value : String) :
    (!sqliteGlob ('*' :: '[' :: '^' :: (spec.sqliteGlobClass ++ [']', '*'])) value) ↔
      ∀ c ∈ beforeNul value, c ∈ spec.alphabet := by
  have hbracket : spec.allowedAsciiBytes.contains 93 ↔ ']' ∈ spec.alphabet := contains_byte_iff 93
  rw [sqliteGlob, scanGlob_pattern hnonempty, Option.any_some, globMatch_somewhere,
    Bool.not_eq_true', List.any_eq_false]
  refine forall₂_congr fun c _ => ?_
  rw [Bool.not_eq_true', Bool.not_eq_false, Bool.or_eq_true, Bool.and_eq_true, decide_eq_true_eq,
    seenInSet_setMembers, hbracket]
  constructor
  · rintro (⟨h, rfl⟩ | h)
    · exact h
    · exact h.1
  · intro h
    by_cases hc : c = ']'
    · exact .inl ⟨hc ▸ h, hc⟩
    · exact .inr ⟨h, hc⟩

end CanonicalScalarSpec

/- The three validators. -/
section Agree
variable {spec : CanonicalScalarSpec} {value : String}

section
variable (h : spec.Portable)
include h

theorem nul_notMem_alphabet : '\x00' ∉ spec.alphabet := by
  intro hmem
  obtain ⟨byte, hbyte, heq⟩ := List.mem_map.mp hmem
  have hzero : byteChar byte = byteChar 0 := heq.trans (by decide)
  exact (h.quotable byte hbyte).1 (byteChar_injective hzero)

theorem lengths_of_alphabet (hvalue : ∀ c ∈ value.toList, c ∈ spec.alphabet) :
    (utf8Bytes value).length = value.toList.length ∧ beforeNul value = value.toList := by
  constructor
  · have hlength : ∀ text : List Char, (∀ c ∈ text, c ∈ spec.alphabet) →
        (text.flatMap String.utf8EncodeChar).length = text.length := by
      intro text htext
      induction text with
      | nil => rfl
      | cons c text ih =>
        obtain ⟨byte, hbyte, rfl⟩ := List.mem_map.mp (htext c List.mem_cons_self)
        rw [List.flatMap_cons, utf8EncodeChar_byteChar (h.ascii byte hbyte), List.length_append,
          ih fun d hd => htext d (List.mem_cons_of_mem _ hd), List.length_cons]
        exact Nat.add_comm _ _
    exact hlength value.toList hvalue
  · have hall : ∀ c ∈ value.toList, (decide (c ≠ '\x00')) = true := by
      intro c hc
      rw [decide_eq_true_eq]
      rintro rfl
      exact nul_notMem_alphabet h (hvalue _ hc)
    have htake : (value.toList ++ []).takeWhile (fun c => decide (c ≠ '\x00'))
        = value.toList ++ [].takeWhile fun c => decide (c ≠ '\x00') :=
      List.takeWhile_append_of_pos hall
    rwa [List.append_nil, List.takeWhile_nil, List.append_nil] at htake

theorem accepts_iff : spec.accepts value ↔
    (spec.minimumLength ≤ (utf8Bytes value).length ∧
      (utf8Bytes value).length ≤ spec.maximumLength) ∧
      (∀ c ∈ value.toList, c ∈ spec.alphabet) ∧ value ∉ spec.forbiddenCompleteValues := by
  have hbytes : (utf8Bytes value).all spec.allowedAsciiBytes.contains ↔
      ∀ c ∈ value.toList, c ∈ spec.alphabet := by
    rw [List.all_eq_true, utf8Bytes]
    constructor
    · intro hall c hc
      refine (encoded_in_iff h.ascii c).mp fun byte hbyte => ?_
      exact List.contains_iff_mem.mp (hall byte (List.mem_flatMap.mpr ⟨c, hc, hbyte⟩))
    · intro hall byte hbyte
      obtain ⟨c, hc, hmem⟩ := List.mem_flatMap.mp hbyte
      exact List.contains_iff_mem.mpr ((encoded_in_iff h.ascii c).mpr (hall c hc) byte hmem)
  rw [CanonicalScalarSpec.accepts, Bool.and_eq_true, Bool.and_eq_true, Bool.and_eq_true,
    decide_eq_true_eq, decide_eq_true_eq, hbytes, Bool.not_eq_true', and_assoc,
    ← Bool.not_eq_true, List.contains_iff_mem]

theorem sqlite_iff : spec.sqliteNonNullPredicate.all (SqliteClause.holds value) ↔
      spec.accepts value := by
  have hclauses : spec.sqliteNonNullPredicate.all (SqliteClause.holds value) ↔
      ((spec.minimumLength ≤ (utf8Bytes value).length ∧
          (utf8Bytes value).length ≤ spec.maximumLength) ∧
        (utf8Bytes value).length = (beforeNul value).length ∧
        (∀ c ∈ beforeNul value, c ∈ spec.alphabet)) ∧ value ∉ spec.forbiddenCompleteValues := by
    simp only [CanonicalScalarSpec.sqliteNonNullPredicate, List.all_append, List.all_cons,
      List.all_nil, Bool.and_true, Bool.and_eq_true, SqliteClause.holds, decide_eq_true_eq,
      CanonicalScalarSpec.sqliteGlob_pattern h.nonempty, List.all_map, List.all_eq_true,
      Function.comp_apply]
    refine and_congr_right fun _ => ⟨?_, ?_⟩
    · intro hall hmem
      exact hall value hmem rfl
    · rintro hne literal hliteral rfl
      exact hne hliteral
  rw [hclauses, accepts_iff h]
  constructor
  · rintro ⟨⟨hbounds, hlength, hglob⟩, hforbidden⟩
    -- more characters than SQLite sees would be more bytes than it counts
    have hbytes : value.toList.length ≤ (utf8Bytes value).length := length_le_utf8Bytes _
    have hseen : beforeNul value = value.toList :=
      (List.takeWhile_prefix _).eq_of_length_le (by rw [← beforeNul]; omega)
    rw [hseen] at hglob
    exact ⟨hbounds, hglob, hforbidden⟩
  · rintro ⟨hbounds, halphabet, hforbidden⟩
    obtain ⟨hlength, hseen⟩ := lengths_of_alphabet h halphabet
    rw [hseen]
    exact ⟨⟨hbounds, hlength, halphabet⟩, hforbidden⟩

theorem regex_iff :
    (regexMatches spec.jsonSchemaPattern value ∧ value ∉ spec.forbiddenCompleteValues) ↔
      spec.accepts value := by
  have hmatches : regexMatches spec.jsonSchemaPattern value ↔
      (spec.minimumLength ≤ value.toList.length ∧ value.toList.length ≤ spec.maximumLength) ∧
        ∀ c ∈ value.toList, c ∈ spec.alphabet := by
    rw [regexMatches, readPattern_jsonSchemaPattern, Option.any_some]
    simp only [Bool.and_eq_true, decide_eq_true_eq, List.all_eq_true, List.contains_iff_mem]
  rw [hmatches, accepts_iff h]
  constructor
  · rintro ⟨⟨hbounds, halphabet⟩, hforbidden⟩
    rw [(lengths_of_alphabet h halphabet).1]
    exact ⟨hbounds, halphabet, hforbidden⟩
  · rintro ⟨hbounds, halphabet, hforbidden⟩
    rw [(lengths_of_alphabet h halphabet).1] at hbounds
    exact ⟨⟨hbounds, halphabet⟩, hforbidden⟩

end

end Agree

/-- The byte loop, the SQLite predicate and the JSON Schema pattern accept the same texts. -/
theorem scalar_validators_agree (spec : CanonicalScalarSpec) (h : spec.Portable) (value : String) :
    (spec.accepts value = true ↔
      spec.sqliteNonNullPredicate.all (SqliteClause.holds value) = true) ∧
    (spec.accepts value = true ↔
      regexMatches spec.jsonSchemaPattern value = true ∧
        value ∉ spec.forbiddenCompleteValues) :=
  ⟨(sqlite_iff h).symm, (regex_iff h).symm⟩

theorem baselineRefSpec_portable : baselineRefSpec.Portable :=
  ⟨by decide +kernel, by decide +kernel, by decide +kernel⟩

theorem scalar_validators_agree_sample :
    baselineRefSpec.accepts "baseline-example-001" = true ∧
    baselineRefSpec.sqliteNonNullPredicate.all (SqliteClause.holds "baseline-example-001") = true ∧
    regexMatches baselineRefSpec.jsonSchemaPattern "baseline-example-001" = true := by
  have haccepts : baselineRefSpec.accepts "baseline-example-001" := by decide +kernel
  obtain ⟨hsqlite, hregex⟩ :=
    scalar_validators_agree baselineRefSpec baselineRefSpec_portable "baseline-example-001"
  exact ⟨haccepts, hsqlite.mp haccepts, (hregex.mp haccepts).1⟩

end Volicord
