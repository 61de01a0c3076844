import Mathlib.Control.Basic

/-! Computations inside one atomic transaction. A body works on a private copy of
the state and may fail half way; only a body that ends with `commit` publishes
its copy. -/
namespace Transaction
variable {S A ε α β : Type}

/-- A failing computation keeps the working copy it had reached. -/
abbrev TxM (S ε : Type) := ExceptT ε (StateM S)

def exec (m : TxM S ε α) (s : S) : Except ε α × S := m.run.run s

inductive Ending (α : Type) where
  | commit (value : α)
  | rollback (value : α)

/-- Atomicity: an error or a rollback restores the state the transaction began with. -/
def transact (body : TxM S ε (Ending α)) (s : S) : Except ε α × S :=
  match exec body s with
  | (.ok (.commit a), s') => (.ok a, s')
  | (.ok (.rollback a), _) => (.ok a, s)
  | (.error e, _) => (.error e, s)

/-- Run a computation on one component of the state. -/
def zoom (proj : S → A) (put : A → S → S) (m : TxM A ε α) : TxM S ε α := do
  let s ← get
  match exec m (proj s) with
  | (.ok a, c) => set (put c s); return a
  | (.error e, c) => set (put c s); throw e

@[simp] theorem exec_pure (a : α) (s : S) : exec (pure a : TxM S ε α) s = (.ok a, s) := rfl

@[simp] theorem exec_throw (e : ε) (s : S) : exec (throw e : TxM S ε α) s = (.error e, s) := rfl

@[simp] theorem exec_get (s : S) : exec (get : TxM S ε S) s = (.ok s, s) := rfl

@[simp] theorem exec_set (s t : S) : exec (set t : TxM S ε PUnit) s = (.ok ⟨⟩, t) := rfl

@[simp] theorem exec_modify (f : S → S) (s : S) :
    exec (modify f : TxM S ε PUnit) s = (.ok ⟨⟩, f s) := rfl

theorem exec_bind (m : TxM S ε α) (f : α → TxM S ε β) (s : S) :
    exec (m >>= f) s = match exec m s with
      | (.ok a, s') => exec (f a) s'
      | (.error e, s') => (.error e, s') := by
  simp only [exec, ExceptT.run_bind, StateT.run_bind]
  rcases h : (m.run.run s) with ⟨r, s'⟩
  cases r <;> rfl

theorem exec_bind_ok {m : TxM S ε α} {f : α → TxM S ε β} {s t : S} {b : β} : exec (m >>= f) s =
    (.ok b, t) ↔ ∃ a s', exec m s = (.ok a, s') ∧ exec (f a) s' = (.ok b, t) := by
  rw [exec_bind]
  rcases exec m s with ⟨r, s'⟩
  cases r with
  | ok a =>
    refine ⟨fun h => ⟨a, s', rfl, h⟩, ?_⟩
    rintro ⟨_, _, h, hf⟩
    cases h
    exact hf
  | error e => simp

@[simp] theorem exec_liftExcept (r : Except ε α) (s : S) :
    exec (liftExcept r : TxM S ε α) s = (r, s) := by
  cases r <;> rfl

@[simp] theorem exec_get_bind (f : S → TxM S ε β) (s : S) : exec (get >>= f) s = exec (f s) s := rfl

theorem exec_lift_bind_ok {r : Except ε α} {f : α → TxM S ε β} {s t : S} {b : β} :
    exec (liftExcept r >>= f) s = (.ok b, t) ↔ ∃ a, r = .ok a ∧ exec (f a) s = (.ok b, t) := by
  rw [exec_bind, exec_liftExcept]
  cases r <;> simp

theorem exec_lift_bind {r : Except ε α} {a : α} (h : r = .ok a) (f : α → TxM S ε β) (s : S) :
    exec (liftExcept r >>= f) s = exec (f a) s := by
  rw [exec_bind, exec_liftExcept, h]

/-- A change made behind two checks, the second of the state, is made in full. -/
theorem exec_checked_modify {r : Except ε Unit} {check : S → Except ε Unit} {f : S → S} {s t : S}
    {u : PUnit} (h : exec (do liftExcept r; liftExcept (check (← get)); modify f : TxM S ε PUnit) s
      = (.ok u, t)) : t = f s := by
  obtain ⟨_, _, h⟩ := exec_lift_bind_ok.mp h
  rw [exec_get_bind] at h
  obtain ⟨_, _, h⟩ := exec_lift_bind_ok.mp h
  rw [exec_modify] at h
  exact (Prod.mk.inj h).2.symm

theorem exec_zoom_ok {proj : S → A} {put : A → S → S} {m : TxM A ε α} {s t : S} {a : α} :
    exec (zoom proj put m) s = (.ok a, t) ↔ ∃ c, exec m (proj s) = (.ok a, c) ∧ t = put c s := by
  unfold zoom
  rw [exec_get_bind]
  rcases exec m (proj s) with ⟨r, c⟩
  cases r with
  | ok x =>
    change (Except.ok x, put c s) = (.ok a, t) ↔ _
    constructor
    · rintro h
      cases h
      exact ⟨c, rfl, rfl⟩
    · rintro ⟨_, h, rfl⟩
      cases h
      rfl
  | error e =>
    change (Except.error e, put c s) = (.ok a, t) ↔ _
    simp

/-- A transaction publishes its working copy or leaves the state as it was. -/
theorem transact_cases (body : TxM S ε (Ending α)) (s : S) :
    (∃ a t, exec body s = (.ok (.commit a), t) ∧ transact body s = (.ok a, t)) ∨
    (∃ a t, exec body s = (.ok (.rollback a), t) ∧ transact body s = (.ok a, s)) ∨
    ∃ e, transact body s = (.error e, s) := by
  unfold transact
  rcases exec body s with ⟨r, t⟩
  cases r with
  | error e => exact .inr (.inr ⟨e, rfl⟩)
  | ok ending =>
    cases ending with
    | commit a => exact .inl ⟨a, t, rfl, rfl⟩
    | rollback a => exact .inr (.inl ⟨a, t, rfl, rfl⟩)

end Transaction
