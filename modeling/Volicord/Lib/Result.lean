import Mathlib.Control.Basic
import Mathlib.Data.List.Forall2

/-! Fallible computations in `Except`: guards, conversion from `Option`, and the
inversion of a successful chain. -/
namespace Result
universe u v
variable {ε : Type u} {α β : Type v} {f : α → Except ε β} {m : Except ε α} {e error : ε}
  {xs : List α} {P : α → β → Prop}

instance decidableEqExcept [DecidableEq ε] [DecidableEq α] : DecidableEq (Except ε α)
  | .ok a, .ok b => decidable_of_iff (a = b) (by simp)
  | .error a, .error b => decidable_of_iff (a = b) (by simp)
  | .ok _, .error _ => isFalse (by simp)
  | .error _, .ok _ => isFalse (by simp)

def okOr (error : ε) : Option α → Except ε α
  | some a => .ok a
  | none => .error error

/-- Go on when the condition holds, fail otherwise. -/
def ensure (condition : Bool) (error : ε) : Except ε Unit :=
  if condition then .ok () else .error error

@[simp] theorem okOr_eq_ok {o : Option α} {a : α} : okOr error o = .ok a ↔ o = some a := by
  cases o <;> simp [okOr]

@[simp] theorem ensure_eq_ok {c : Bool} {u : Unit} : ensure c error = .ok u ↔ c := by
  cases c <;> simp [ensure]

@[simp] theorem ok_bind (a : α) (f : α → Except ε β) : (Except.ok a >>= f) = f a := rfl

@[simp] theorem error_bind (e : ε) (f : α → Except ε β) : (Except.error e >>= f) = .error e := rfl

theorem bind_eq_ok {b : β} : (m >>= f) = .ok b ↔ ∃ a, m = .ok a ∧ f a = .ok b := by
  cases m with
  | ok a => simp
  | error e => simp

theorem bind_eq_error : (m >>= f) = .error e ↔ m = .error e ∨ ∃ a, m = .ok a ∧ f a = .error e := by
  cases m with
  | ok a => simp
  | error e => simp

theorem ensure_eq_error {c : Bool} : ensure c error = .error e ↔ c = false ∧ error = e := by
  cases c <;> simp [ensure]

theorem okOr_eq_error {o : Option α} : okOr error o = .error e ↔ o = none ∧ error = e := by
  cases o <;> simp [okOr]

theorem mapError_eq_error {ε' : Type u} {f : ε → ε'} {e : ε'} :
    m.mapError f = .error e ↔ ∃ e₀, m = .error e₀ ∧ f e₀ = e := by
  cases m <;> simp [Except.mapError]

theorem pure_eq_ok {a b : α} : (pure a : Except ε α) = .ok b ↔ a = b := by simp [pure, Except.pure]

/-- The rules that invert a chain of guards and calls, as one set for `simp`. -/
theorem steps_ok : (∀ {ε α β : Type} {m : Except ε α} {f : α → Except ε β} {b : β},
      (m >>= f) = .ok b ↔ ∃ a, m = .ok a ∧ f a = .ok b) ∧
    (∀ {ε : Type} {c : Bool} {error : ε} {u : Unit}, ensure c error = .ok u ↔ c) ∧
    (∀ {ε α : Type} {error : ε} {o : Option α} {a : α}, okOr error o = .ok a ↔ o = some a) ∧
    (∀ {ε α : Type} {a b : α}, (pure a : Except ε α) = .ok b ↔ a = b) ∧
    ∀ {p : Prop}, (∃ _ : Unit, p) ↔ p :=
  ⟨bind_eq_ok, ensure_eq_ok, okOr_eq_ok, pure_eq_ok, exists_const Unit⟩

theorem exists_of_toBool (h : m.toBool) : ∃ a, m = .ok a := by
  cases m with
  | ok a => exact ⟨a, rfl⟩
  | error e => cases h

theorem map_eq_ok {f : α → β} {b : β} : m.map f = .ok b ↔ ∃ a, m = .ok a ∧ f a = b := by
  cases m <;> simp [Except.map]

theorem mapError_eq_ok {ε' : Type u} {f : ε → ε'} {a : α} : m.mapError f = .ok a ↔ m = .ok a := by
  cases m <;> simp [Except.mapError]

/-- The join point a conditional `let x ← if c then m else m'` leaves behind. -/
theorem ite_bind_eq_ok {c : Prop} [Decidable c] {m m' : Except ε α} {b : β} :
    (if c then m >>= f else m' >>= f) = .ok b
      ↔ ∃ a, (if c then m else m') = .ok a ∧ f a = .ok b := by
  split <;> exact bind_eq_ok

theorem mapM_eq_ok {ys : List β} :
    xs.mapM f = .ok ys ↔ List.Forall₂ (fun x y => f x = .ok y) xs ys := by
  induction xs generalizing ys with
  | nil =>
    rw [List.mapM_nil, pure_eq_ok, List.forall₂_nil_left_iff]
    exact eq_comm
  | cons x xs ih =>
    rw [List.mapM_cons, bind_eq_ok, List.forall₂_cons_left_iff]
    refine exists_congr fun y => ?_
    rw [bind_eq_ok, ← exists_and_left]
    refine exists_congr fun zs => ?_
    rw [ih, pure_eq_ok, eq_comm (a := y :: zs)]

theorem exists_mapM_eq_ok (h : ∀ x ∈ xs, ∃ y, f x = .ok y ∧ P x y) :
    ∃ ys, xs.mapM f = .ok ys ∧ List.Forall₂ P xs ys := by
  induction xs with
  | nil => exact ⟨[], rfl, .nil⟩
  | cons x xs ih =>
    obtain ⟨y, hy, hP⟩ := h x (List.mem_cons_self ..)
    obtain ⟨ys, hys, hrest⟩ := ih fun z hz => h z (List.mem_cons_of_mem _ hz)
    exact ⟨y :: ys, by simp [List.mapM_cons, hy, hys, pure, Except.pure], .cons hP hrest⟩

theorem mapM_eq_map {g : α → β} (h : ∀ x ∈ xs, f x = .ok (g x)) : xs.mapM f = .ok (xs.map g) :=
  mapM_eq_ok.mpr (List.forall₂_map_right_iff.mpr (List.forall₂_same.mpr h))

theorem exists_of_forall₂ {ys : List β} (h : List.Forall₂ P xs ys) : ∀ y ∈ ys, ∃ x ∈ xs, P x y := by
  induction h with
  | nil => simp
  | cons hP _ ih =>
    intro y hy
    rcases List.mem_cons.mp hy with rfl | hy
    · exact ⟨_, List.mem_cons_self .., hP⟩
    · obtain ⟨x, hx, hxy⟩ := ih y hy
      exact ⟨x, List.mem_cons_of_mem _ hx, hxy⟩

end Result
