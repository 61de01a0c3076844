import Mathlib.Algebra.Group.Nat.Defs
import Mathlib.Data.List.Induction

/-! Encodings that mark their own end, so that a concatenation can be taken apart. -/
namespace Framing

variable {α β : Type} {encode : α → List β} {m n width : Nat}

/-- Whatever follows, the encoded value can be read off the front. -/
def SelfDelimiting (encode : α → List β) : Prop :=
  ∀ a b s t, encode a ++ s = encode b ++ t → a = b ∧ s = t

section
variable (h : SelfDelimiting encode)
include h

theorem SelfDelimiting.cons_eq {a b : α}
    {s t : List β} (heq : encode a ++ s = encode b ++ t) : a = b ∧ s = t :=
  h a b s t heq

theorem SelfDelimiting.flatMap_eq {xs ys : List α} (hlength : xs.length = ys.length)
    (heq : xs.flatMap encode = ys.flatMap encode) : xs = ys := by
  induction xs generalizing ys with
  | nil =>
    cases ys with
    | nil => rfl
    | cons => cases hlength
  | cons x xs ih =>
    cases ys with
    | nil => cases hlength
    | cons y ys =>
      rw [List.flatMap_cons, List.flatMap_cons] at heq
      obtain ⟨rfl, hrest⟩ := h.cons_eq heq
      rw [ih (Nat.succ.inj hlength) hrest]

theorem SelfDelimiting.flatMap_injective
    (hne : ∀ a, encode a ≠ []) : Function.Injective (List.flatMap encode) := by
  intro xs
  induction xs with
  | nil =>
    intro ys heq
    cases ys with
    | nil => rfl
    | cons y ys => exact absurd heq.symm (by simp [hne y])
  | cons x xs ih =>
    intro ys heq
    cases ys with
    | nil => exact absurd heq (by simp [hne x])
    | cons y ys =>
      rw [List.flatMap_cons, List.flatMap_cons] at heq
      obtain ⟨rfl, hrest⟩ := h.cons_eq heq
      rw [ih hrest]

end

theorem append_cons_cancel {c : α} {l₁ l₂ r₁ r₂ : List α} (h₁ : c ∉ l₁) (h₂ : c ∉ l₂)
    (h : l₁ ++ c :: r₁ = l₂ ++ c :: r₂) : l₁ = l₂ ∧ r₁ = r₂ := by
  induction l₁ generalizing l₂ with
  | nil =>
    cases l₂ with
    | nil => exact ⟨rfl, (List.cons.inj h).2⟩
    | cons d l₂ =>
      obtain ⟨rfl, _⟩ := List.cons.inj h
      exact absurd List.mem_cons_self h₂
  | cons d l₁ ih =>
    cases l₂ with
    | nil =>
      obtain ⟨rfl, _⟩ := List.cons.inj h
      exact absurd List.mem_cons_self h₁
    | cons e l₂ =>
      obtain ⟨rfl, htail⟩ := List.cons.inj h
      obtain ⟨rfl, hrest⟩ := ih (fun hmem => h₁ (List.mem_cons_of_mem _ hmem))
        (fun hmem => h₂ (List.mem_cons_of_mem _ hmem)) htail
      exact ⟨rfl, hrest⟩

theorem append_cancel_of_size {a b : String} {s t : List Char}
    (hsize : a.utf8ByteSize = b.utf8ByteSize) (h : a.toList ++ s = b.toList ++ t) :
    a = b ∧ s = t := by
  have hempty : ∀ {x y : String} {d : List Char}, x.utf8ByteSize = y.utf8ByteSize →
      y.toList = x.toList ++ d → d = [] := by
    intro x y d hxy hd
    have hy : y = x ++ String.ofList d := by
      rw [← String.toList_inj, hd, String.toList_append, String.toList_ofList]
    rw [hy, String.utf8ByteSize_append] at hxy
    have hzero : (String.ofList d).utf8ByteSize = 0 := by omega
    rw [String.utf8ByteSize_eq_zero_iff] at hzero
    simpa using congrArg String.toList hzero
  rcases List.append_eq_append_iff.mp h with ⟨d, hb, hs⟩ | ⟨d, ha, ht⟩
  · obtain rfl := hempty hsize hb
    refine ⟨?_, by simpa using hs⟩
    rw [← String.toList_inj, hb, List.append_nil]
  · obtain rfl := hempty hsize.symm ha
    refine ⟨?_, by simpa using ht.symm⟩
    rw [← String.toList_inj, ha, List.append_nil]

/-- Numerals. -/
theorem toString_nat (n : Nat) : (toString n).toList = Nat.toDigits 10 n := by
  simp [toString, Nat.repr]

theorem isDigit_of_mem_toString {c : Char} (h : c ∈ (toString n).toList) : c.isDigit := by
  rw [toString_nat] at h
  exact Nat.isDigit_of_mem_toDigits (by decide) (by decide) h

theorem toString_nat_injective : Function.Injective (toString : Nat → String) := by
  intro m n h
  have hdigits : Nat.toDigits 10 m = Nat.toDigits 10 n := by rw [← toString_nat, ← toString_nat, h]
  rw [← Nat.ofDigitChars_ten_toDigits (n := m), hdigits, Nat.ofDigitChars_ten_toDigits]

theorem toString_int_injective : Function.Injective (toString : Int → String) := by
  have hsign : ∀ m n : Nat, toString m ≠ "-" ++ toString n := by
    intro m n h
    have hmem : '-' ∈ (toString m).toList := by simp [h]
    have hdigit := isDigit_of_mem_toString hmem
    revert hdigit
    decide
  intro a b h
  cases a with
  | ofNat m =>
    cases b with
    | ofNat n =>
      have hnat : m = n := toString_nat_injective h
      rw [hnat]
    | negSucc n => exact absurd h (hsign m (n + 1))
  | negSucc m =>
    cases b with
    | ofNat n => exact absurd h.symm (hsign n (m + 1))
    | negSucc n =>
      have hdigits : ("-" ++ toString (m + 1)).toList = ("-" ++ toString (n + 1)).toList :=
        congrArg String.toList h
      have hsucc : toString (m + 1) = toString (n + 1) := by
        simpa [← String.toList_inj] using hdigits
      have hnat := toString_nat_injective hsucc
      rw [Nat.succ.inj hnat]

/- Canonical decimals: no leading zero. -/

theorem head_toDigits_ne (hn : 0 < n) : (Nat.toDigits 10 n).head? ≠ some '0' := by
  induction n using Nat.strongRecOn with
  | ind n ih =>
    by_cases hlt : n < 10
    · rw [Nat.toDigits_of_lt_base hlt]
      simp only [List.head?_cons, ne_eq, Option.some.injEq, Nat.digitChar_eq_zero]
      omega
    · rw [Nat.toDigits_of_base_le (by decide) (by omega)]
      have hhead := ih (n / 10) (by omega) (by omega)
      obtain ⟨d, ds, hds⟩ := List.exists_cons_of_ne_nil
        (Nat.toDigits_ne_nil (n := n / 10) (b := 10))
      rw [hds] at hhead ⊢
      simpa using hhead

theorem toString_canonical (n : Nat) :
    (toString n).toList.length ≤ 1 ∨ (toString n).toList.head? ≠ some '0' := by
  rw [toString_nat]
  by_cases hn : n = 0
  · left
    rw [hn, Nat.toDigits_zero]
    exact Nat.le_refl 1
  · exact .inr (head_toDigits_ne (by omega))

theorem digitChar_of_isDigit {c : Char} (h : c.isDigit) :
    c.toNat - 48 < 10 ∧ (c.toNat - 48).digitChar = c := by
  have hrange : 48 ≤ c.toNat ∧ c.toNat ≤ 57 := by
    simpa [Char.isDigit, UInt32.le_iff_toNat_le] using h
  have hlt : c.toNat - 48 < 10 := by omega
  refine ⟨hlt, ?_⟩
  rw [← Char.toNat_inj, Nat.toNat_digitChar_of_lt_ten hlt]
  omega

section
variable {digits : List Char} (hdigits : ∀ c ∈ digits, c.isDigit) (hne : digits ≠ [])
include hdigits hne

theorem ofDigitChars_pos (hhead : digits.head? ≠ some '0') : 0 < Nat.ofDigitChars 10 digits 0 := by
  obtain ⟨c, rest, rfl⟩ := List.exists_cons_of_ne_nil hne
  obtain ⟨hlt, hchar⟩ := digitChar_of_isDigit (hdigits c List.mem_cons_self)
  have hpos : 0 < c.toNat - 48 := by
    rcases Nat.eq_zero_or_pos (c.toNat - 48) with hzero | hpos
    · rw [hzero] at hchar
      exact absurd (congrArg some hchar.symm) hhead
    · exact hpos
  rw [Nat.ofDigitChars_cons, Nat.ofDigitChars_eq_ofDigitChars_zero]
  have hscaled : 0 < 10 ^ rest.length * (10 * 0 + (c.toNat - '0'.toNat)) :=
    Nat.mul_pos (Nat.pow_pos (by decide)) (by simpa using hpos)
  omega

theorem toString_ofDigitChars (hcanonical : digits.length ≤ 1 ∨ digits.head? ≠ some '0') :
    (toString (Nat.ofDigitChars 10 digits 0)).toList = digits := by
  rw [toString_nat]
  induction digits using List.reverseRecOn with
  | nil => exact absurd rfl hne
  | append_singleton front c ih =>
    obtain ⟨hlt, hchar⟩ := digitChar_of_isDigit (hdigits c (by simp))
    have hvalue : Nat.ofDigitChars 10 (front ++ [c]) 0
        = 10 * Nat.ofDigitChars 10 front 0 + (c.toNat - 48) := by
      rw [Nat.ofDigitChars_append, Nat.ofDigitChars_cons, Nat.ofDigitChars_nil]
      rfl
    cases front with
    | nil =>
      have hsingle : Nat.ofDigitChars 10 ([] ++ [c]) 0 = c.toNat - 48 := by
        rw [hvalue, Nat.ofDigitChars_nil]
        omega
      rw [hsingle, Nat.toDigits_of_lt_base hlt, hchar]
      rfl
    | cons d front =>
      have hhead : (d :: front).head? ≠ some '0' := by
        rcases hcanonical with hshort | hhead
        · simp at hshort
        · simpa using hhead
      have hfront : ∀ c ∈ d :: front, c.isDigit := fun c hc => hdigits c (List.mem_append_left _ hc)
      have hpos := ofDigitChars_pos hfront (List.cons_ne_nil d front) hhead
      have hprint := ih hfront (List.cons_ne_nil d front) (.inr hhead)
      rw [hvalue, ← Nat.toDigits_append_toDigits (by decide) hpos hlt, hprint,
        Nat.toDigits_of_lt_base hlt, hchar]

end

/- Numbers of a fixed width. -/

/-- The last bytes of a number, the most significant first. -/
def beBytes : Nat → Nat → List UInt8
  | 0, _ => []
  | width + 1, n => beBytes width (n / 256) ++ [UInt8.ofNat n]

@[simp] theorem length_beBytes (width n : Nat) : (beBytes width n).length = width := by
  induction width generalizing n with
  | zero => rfl
  | succ width ih => rw [beBytes, List.length_append, ih, List.length_singleton]

theorem beBytes_injective (hm : m < 256 ^ width) (hn : n < 256 ^ width)
    (h : beBytes width m = beBytes width n) : m = n := by
  induction width generalizing m n with
  | zero =>
    rw [Nat.pow_zero] at hm hn
    omega
  | succ width ih =>
    rw [Nat.pow_succ] at hm hn
    obtain ⟨hfront, hlast⟩ := List.append_inj' h rfl
    have hdiv : m / 256 = n / 256 := ih (by omega) (by omega) hfront
    have hmod : m % 256 = n % 256 := by
      have hbyte := congrArg UInt8.toNat (List.cons.inj hlast).1
      rwa [UInt8.toNat_ofNat', UInt8.toNat_ofNat'] at hbyte
    omega

theorem beBytes_cancel {s t : List UInt8} (hm : m < 256 ^ width)
    (hn : n < 256 ^ width) (h : beBytes width m ++ s = beBytes width n ++ t) : m = n ∧ s = t := by
  obtain ⟨hbytes, hrest⟩ := List.append_inj h (by simp)
  exact ⟨beBytes_injective hm hn hbytes, hrest⟩

/-- A text behind its size in bytes and a colon, and in front of a fixed end. -/
def lengthFramed (ending : List Char) (text : String) : List Char :=
  (toString text.utf8ByteSize).toList ++ ':' :: (text.toList ++ ending)

theorem lengthFramed_selfDelimiting (ending : List Char) :
    SelfDelimiting (lengthFramed ending) := by
  intro a b s t h
  have hcolon : ∀ n : Nat, ':' ∉ (toString n).toList := by
    intro n hmem
    have hdigit := isDigit_of_mem_toString hmem
    revert hdigit
    decide
  simp only [lengthFramed, List.append_assoc, List.cons_append] at h
  obtain ⟨hsize, hrest⟩ := append_cons_cancel (hcolon _) (hcolon _) h
  have hsize := toString_nat_injective (String.toList_inj.mp hsize)
  obtain ⟨rfl, htail⟩ := append_cancel_of_size hsize hrest
  exact ⟨rfl, List.append_cancel_left htail⟩

end Framing
