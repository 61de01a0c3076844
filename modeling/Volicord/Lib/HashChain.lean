import Mathlib.Data.List.Basic

/-! Append-only logs in which every entry carries the next sequence number and the hash
of the entry in front of it. -/
namespace HashChain
variable {E H : Type*} (seq : E → Int) (prev : E → Option H) (hash : E → H)

/-- The entries continue a log whose next sequence number is `n` and whose last hash is `p`. -/
def Linked : Int → Option H → List E → Prop
  | _, _, [] => True
  | n, p, e :: es => seq e = n ∧ prev e = p ∧ Linked (n + 1) (some (hash e)) es

/-- The hash a following entry has to name. -/
def lastHash : Option H → List E → Option H
  | p, [] => p
  | _, e :: es => lastHash (some (hash e)) es

variable {seq prev hash} {p : Option H} {n : Int} {es : List E}

theorem lastHash_eq_getLast? (p : Option H) (es : List E) :
    lastHash hash p es = (es.getLast?.map hash).or p := by
  induction es generalizing p with
  | nil => rfl
  | cons e es ih =>
    rw [lastHash, ih]
    cases es with
    | nil => rfl
    | cons f fs => simp [List.getLast?_cons]

theorem linked_append {es fs : List E} : Linked seq prev hash n p (es ++ fs) ↔
    Linked seq prev hash n p es ∧ Linked seq prev hash (n + es.length) (lastHash hash p es) fs := by
  induction es generalizing n p with
  | nil => simp [Linked, lastHash]
  | cons e es ih =>
    have hlen : n + 1 + (es.length : Int) = n + ((es.length + 1 : Nat) : Int) := by omega
    simp only [List.cons_append, Linked, ih, lastHash, List.length_cons, hlen, and_assoc]

theorem Linked.seq_getElem
    (h : Linked seq prev hash n p es) (i : Nat) (hi : i < es.length) : seq es[i] = n + i := by
  induction es generalizing n p i with
  | nil => simp at hi
  | cons e es ih =>
    cases i with
    | zero => simpa using h.1
    | succ i =>
      have := ih h.2.2 i (by simpa using hi)
      rw [List.getElem_cons_succ, this]
      omega

theorem Linked.prev_head {e : E}
    (h : Linked seq prev hash n p es) (he : es[0]? = some e) : prev e = p := by
  cases es with
  | nil => simp at he
  | cons f es =>
    obtain rfl : f = e := by simpa using he
    exact h.2.1

theorem Linked.prev_succ {i : Nat} {e f : E} (h : Linked seq prev hash n p es)
    (he : es[i]? = some e) (hf : es[i + 1]? = some f) : prev f = some (hash e) := by
  induction es generalizing n p i with
  | nil => simp at he
  | cons g es ih =>
    cases i with
    | zero =>
      obtain rfl : g = e := by simpa using he
      exact h.2.2.prev_head (by simpa using hf)
    | succ i => exact ih h.2.2 (by simpa using he) (by simpa using hf)

end HashChain
