import Mathlib.Data.List.Basic
import Mathlib.Data.Int.Order.Basic

/-! Deterministic labelled transition systems, their runs and their traces: the induction
rules every result about a whole run goes through, and the rule for work that was prepared on
an earlier state and is only carried out while nobody has moved the version on. -/
namespace Transition
variable {σ ο ρ : Type*}

/-- One executed operation: what it started from, what it answered, where it ended. -/
structure Event (σ ο ρ : Type*) where
  before : σ
  op : ο
  result : ρ
  after : σ

def fire (step : σ → ο → ρ × σ) (s : σ) (o : ο) : Event σ ο ρ :=
  ⟨s, o, (step s o).1, (step s o).2⟩

def run (step : σ → ο → ρ × σ) : σ → List ο → σ
  | s, [] => s
  | s, o :: ops => run step (step s o).2 ops

def trace (step : σ → ο → ρ × σ) : σ → List ο → List (Event σ ο ρ)
  | _, [] => []
  | s, o :: ops => fire step s o :: trace step (step s o).2 ops

variable {step : σ → ο → ρ × σ} {ops : List ο}

theorem run_append (s : σ) (u v : List ο) : run step s (u ++ v) = run step (run step s u) v := by
  induction u generalizing s with
  | nil => rfl
  | cons o u ih => exact ih (step s o).2

theorem eq_fire_of_mem_trace {s : σ} {e : Event σ ο ρ}
    (h : e ∈ trace step s ops) : e = fire step e.before e.op := by
  induction ops generalizing s with
  | nil => simp [trace] at h
  | cons o ops ih =>
    rcases List.mem_cons.mp h with rfl | ht
    · rfl
    · exact ih ht

section
variable {I : σ → Prop} (hstep : ∀ s o, I s → I (step s o).2)
include hstep

theorem run_invariant (s : σ) (ops : List ο) (h : I s) : I (run step s ops) := by
  induction ops generalizing s with
  | nil => exact h
  | cons o ops ih => exact ih _ (hstep s o h)

theorem trace_invariant {s : σ} (h : I s) {e : Event σ ο ρ} (he : e ∈ trace step s ops) :
    I e.before := by
  induction ops generalizing s with
  | nil => simp [trace] at he
  | cons o ops ih =>
    rcases List.mem_cons.mp he with rfl | ht
    · exact h
    · exact ih (hstep s o h) ht

/-- A fact that an event establishes about the state it leaves, and that every step
keeps, holds in front of every later event of the trace; an invariant may help both. -/
theorem trace_pairwise_of
    {R : Event σ ο ρ → σ → Prop} (hmake : ∀ s o, I s → R (fire step s o) (step s o).2)
    (hkeep : ∀ e s o, I s → R e s → R e (step s o).2) (s : σ) (ops : List ο) (h : I s) :
    (trace step s ops).Pairwise fun e f => R e f.before := by
  induction ops generalizing s with
  | nil => exact List.Pairwise.nil
  | cons o ops ih =>
    refine List.pairwise_cons.mpr ⟨fun f hf => ?_, ih _ (hstep s o h)⟩
    have hlater := trace_invariant (I := fun s' => I s' ∧ R (fire step s o) s')
      (fun s' o' h' => ⟨hstep s' o' h'.1, hkeep _ s' o' h'.1 h'.2⟩)
      ⟨hstep s o h, hmake s o h⟩ hf
    exact hlater.2

end

theorem trace_pairwise (step : σ → ο → ρ × σ) {R : Event σ ο ρ → σ → Prop}
    (hmake : ∀ s o, R (fire step s o) (step s o).2) (hkeep : ∀ e s o, R e s → R e (step s o).2)
    (s : σ) (ops : List ο) : (trace step s ops).Pairwise fun e f => R e f.before :=
  trace_pairwise_of (I := fun _ => True) (fun _ _ _ => trivial) (fun s o _ => hmake s o)
    (fun e s o _ => hkeep e s o) s ops trivial

section
variable {I : σ → Prop} {C : Event σ ο ρ → Prop}
  (hstep : ∀ s o, I s → C (fire step s o) → I (step s o).2)
include hstep

/-- An invariant that only steps of a certain kind keep, along a run made of such steps. -/
theorem run_invariant_of_trace (s : σ) (ops : List ο) (h : I s)
    (hops : ∀ e ∈ trace step s ops, C e) : I (run step s ops) := by
  induction ops generalizing s with
  | nil => exact h
  | cons o ops ih =>
    have hfirst := hops _ (List.mem_cons_self ..)
    exact ih _ (hstep s o h hfirst) fun e he => hops e (List.mem_cons_of_mem _ he)

theorem trace_invariant_of_trace {s : σ} (h : I s) (hops : ∀ e ∈ trace step s ops, C e)
    {e : Event σ ο ρ} (he : e ∈ trace step s ops) : I e.before := by
  induction ops generalizing s with
  | nil => simp [trace] at he
  | cons o ops ih =>
    rcases List.mem_cons.mp he with rfl | ht
    · exact h
    · have hfirst := hops _ (List.mem_cons_self ..)
      exact ih (hstep s o h hfirst) (fun f hf => hops f (List.mem_cons_of_mem _ hf)) ht

end

/-- Where one step meets a law exactly under a condition, and a lawful step keeps the invariant
this rests on, a run is lawful exactly if each of its steps meets the condition. -/
theorem trace_forall_iff {I : σ → Prop} {O : ο → Prop} {P C : Event σ ο ρ → Prop}
    (hstep : ∀ s o, I s → O o → (P (fire step s o) ↔ C (fire step s o)))
    (hnext : ∀ s o, I s → P (fire step s o) → I (step s o).2) {s : σ} (h : I s)
    (hops : ∀ o ∈ ops, O o) : (∀ e ∈ trace step s ops, P e) ↔ ∀ e ∈ trace step s ops, C e := by
  induction ops generalizing s with
  | nil => simp [trace]
  | cons o ops ih =>
    rw [trace, List.forall_mem_cons, List.forall_mem_cons, hstep s o h (hops o List.mem_cons_self)]
    refine and_congr_right fun hfirst => ih (hnext s o h ?_) fun o ho =>
      hops o (List.mem_cons_of_mem _ ho)
    exact (hstep s o h (hops o List.mem_cons_self)).mpr hfirst

/-- What every single step accounts for, a run accounts for: the events of `P` spend no more than
the start holds and the events of `Q` supply. -/
theorem run_balance {H : σ → Nat} {P Q : Event σ ο ρ → Bool}
    (hstep : ∀ s o, H (step s o).2 + (P (fire step s o)).toNat
      ≤ H s + (Q (fire step s o)).toNat) (s : σ) (ops : List ο) :
    H (run step s ops) + (trace step s ops).countP P ≤ H s + (trace step s ops).countP Q := by
  induction ops generalizing s with
  | nil => simp [run, trace]
  | cons o ops ih =>
    have hfirst := hstep s o
    have hrest := ih (step s o).2
    simp only [run, trace, List.countP_cons]
    cases hspend : P (fire step s o) <;> cases hsupply : Q (fire step s o) <;>
      simp [hspend, hsupply] at hfirst ⊢ <;> omega

theorem run_count {H : σ → Nat} {Q : Event σ ο ρ → Bool}
    (hstep : ∀ s o, H (step s o).2 = H s + (Q (fire step s o)).toNat) (s : σ) (ops : List ο) : H
    (run step s ops) = H s + (trace step s ops).countP Q := by
  induction ops generalizing s with
  | nil => rfl
  | cons o ops ih =>
    have hfirst := hstep s o
    simp only [run, trace, List.countP_cons, ih]
    cases hsupply : Q (fire step s o) <;> simp [hsupply] at hfirst ⊢ <;> omega

/-- What a run leaves behind was there at its start or was made by one of its events. -/
theorem exists_event_of_run {α : Type*} {I : σ → Prop} (hkeep : ∀ s o, I s → I (step s o).2)
    {H : σ → α → Prop} {M : Event σ ο ρ → α → Prop}
    (hstep : ∀ s o a, I s → H (step s o).2 a → H s a ∨ M (fire step s o) a) {s : σ} (h : I s)
    {a : α} (ha : H (run step s ops) a) : H s a ∨ ∃ e ∈ trace step s ops, M e a := by
  induction ops generalizing s with
  | nil => exact .inl ha
  | cons o ops ih =>
    rcases ih (hkeep s o h) ha with hnext | ⟨e, he, hmakes⟩
    · rcases hstep s o a h hnext with hhas | hmakes
      · exact .inl hhas
      · exact .inr ⟨_, List.mem_cons_self .., hmakes⟩
    · exact .inr ⟨e, List.mem_cons_of_mem _ he, hmakes⟩

end Transition

/-! Optimistic work. -/
namespace Optimistic
variable {σ τ : Type*} {version : σ → Int} {Sees : τ → σ → Prop}

/-- What was read at version `basis` is still true of `s` unless the version has moved on. -/
def Current (version : σ → Int) (Sees : τ → σ → Prop) (s : σ) (basis : Int) (seen : τ) : Prop :=
  basis ≤ version s ∧ (basis = version s → Sees seen s)

/-- A step keeps prepared work current when it moves the version on or keeps what was seen. -/
theorem Current.step {s s' : σ} {basis : Int} {seen : τ} (h : Current version Sees s basis seen)
    (hle : version s ≤ version s') (hkeep : version s = version s' → Sees seen s → Sees seen s') :
    Current version Sees s' basis seen := by
  refine ⟨le_trans h.1 hle, fun heq => ?_⟩
  have hsame : version s = version s' := le_antisymm hle (heq ▸ h.1)
  exact hkeep hsame (h.2 (heq.trans hsame.symm))

end Optimistic
