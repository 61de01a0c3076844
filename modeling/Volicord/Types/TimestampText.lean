import Volicord.Types.Values

/-! The texts of instants. Columns hold the text of an instant, and some comparisons are made on
the texts and some on the instants; the two orders are not the same, since `chrono` prints as
many fractional digits as the instant needs. -/
namespace Volicord

structure Chrono.Stamp (C : Chrono) (text : String) (t : UtcTimestamp) : Prop where
  printed : text = C.toCanonicalString t
  representable : C.ensureCanonicalRfc3339Representable t

structure Chrono.Before (C : Chrono) (a b : String) : Prop where
  text : a ≤ b
  instant : ∃ s t, C.Stamp a s ∧ C.Stamp b t ∧ s ≤ t

namespace Chrono
variable {C : Chrono} {a b c : String} {s t : UtcTimestamp}

theorem Stamp.parse (h : C.Stamp a t) : C.parse a = some t := by
  rw [h.printed]
  exact parse_of_representable h.representable

theorem Stamp.unique (hs : C.Stamp a s) (ht : C.Stamp a t) : s = t :=
  Option.some.inj (hs.parse.symm.trans ht.parse)

theorem Before.refl (h : C.Stamp a t) : C.Before a a := ⟨le_rfl, t, t, h, h, le_rfl⟩

theorem Before.trans (h : C.Before a b) (h' : C.Before b c) : C.Before a c := by
  obtain ⟨s, t, hs, ht, hle⟩ := h.instant
  obtain ⟨t', u, ht', hu, hle'⟩ := h'.instant
  rw [ht.unique ht'] at hle
  exact ⟨le_trans h.text h'.text, s, u, hs, hu, le_trans hle hle'⟩

theorem Before.right (h : C.Before a b) : ∃ t, C.Stamp b t := by
  obtain ⟨_, t, _, ht, _⟩ := h.instant
  exact ⟨t, ht⟩

def TextAgrees (C : Chrono) (a b : String) : Prop :=
  ∀ s t, C.Stamp a s → C.Stamp b t → (a < b ↔ s < t)

theorem TextAgrees.before (h : C.TextAgrees b a) (ha : C.Stamp a s) (hb : C.Stamp b t)
    (hle : ¬ b < a) : C.Before a b :=
  ⟨not_lt.mp hle, s, t, ha, hb, not_lt.mp fun hlt => hle ((h t s hb ha).mpr hlt)⟩

end Chrono

/-! RFC 3339 texts as `chrono` prints them with `SecondsFormat::AutoSi`, and the reading of
exactly these texts. -/
namespace Rfc3339

def digits : Nat → Nat → List Char
  | 0, _ => []
  | width + 1, n => digits width (n / 10) ++ [Char.ofNat (48 + n % 10)]

def civilFromDays (days : Int) : Int × Nat × Nat :=
  let shifted := days + 719468
  let era := shifted / 146097
  let dayOfEra := (shifted % 146097).toNat
  let yearOfEra := (dayOfEra - dayOfEra / 1460 + dayOfEra / 36524 - dayOfEra / 146096) / 365
  let dayOfYear := dayOfEra - (365 * yearOfEra + yearOfEra / 4 - yearOfEra / 100)
  let shiftedMonth := (5 * dayOfYear + 2) / 153
  let month := if shiftedMonth < 10 then shiftedMonth + 3 else shiftedMonth - 9
  let year := era * 400 + yearOfEra + if month ≤ 2 then 1 else 0
  (year, month, dayOfYear - (153 * shiftedMonth + 2) / 5 + 1)

def daysFromCivil (year : Int) (month day : Nat) : Int :=
  let shiftedYear := if month ≤ 2 then year - 1 else year
  let era := shiftedYear / 400
  let yearOfEra := (shiftedYear % 400).toNat
  let shiftedMonth := if 2 < month then month - 3 else month + 9
  let dayOfYear := (153 * shiftedMonth + 2) / 5 + day - 1
  era * 146097 + (yearOfEra * 365 + yearOfEra / 4 - yearOfEra / 100 + dayOfYear : Nat) - 719468

/-- No digits, or as many as the milliseconds, microseconds or nanoseconds need. -/
def fraction (nanos : Nat) : List Char :=
  if nanos = 0 then []
  else if nanos % 1000000 = 0 then '.' :: digits 3 (nanos / 1000000)
  else if nanos % 1000 = 0 then '.' :: digits 6 (nanos / 1000)
  else '.' :: digits 9 nanos

def print (t : UtcTimestamp) : String :=
  let seconds := t / 1000000000
  let (year, month, day) := civilFromDays (seconds / 86400)
  let second := (seconds % 86400).toNat
  String.ofList (digits 4 year.toNat ++ '-' :: digits 2 month ++ '-' :: digits 2 day
    ++ 'T' :: digits 2 (second / 3600) ++ ':' :: digits 2 (second / 60 % 60)
    ++ ':' :: digits 2 (second % 60) ++ fraction (t % 1000000000).toNat ++ ['Z'])

def number (chars : List Char) : Nat := chars.foldl (fun n c => 10 * n + (c.toNat - 48)) 0

def decode (chars : List Char) : UtcTimestamp :=
  let field (start width : Nat) := number ((chars.drop start).take width)
  let fractional := ((chars.drop 20).filter Char.isDigit)
  let seconds := daysFromCivil (field 0 4) (field 5 2) (field 8 2) * 86400
    + (field 11 2 * 3600 + field 14 2 * 60 + field 17 2 : Nat)
  seconds * 1000000000 + (number fractional * 10 ^ (9 - fractional.length) : Nat)

def parse (text : String) : Option UtcTimestamp :=
  let t := decode text.toList
  if print t = text then some t else none

def chrono : Chrono where
  year t := (civilFromDays (t / 1000000000 / 86400)).1
  toCanonicalString := print
  parse := parse

example : print 1767225600500000000 = "2026-01-01T00:00:00.500Z" := by decide +kernel

end Rfc3339
end Volicord
