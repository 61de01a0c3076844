import Volicord.Lib.Result

/-! Frames: the part of a state an operation may touch, given by the way that part of one state
is laid over another. Whatever lies outside the frame is unchanged. -/
namespace Result
variable {σ α ε : Type}

/-- A reflexive and transitive relation that every step respects relates the two ends of a
successful fold. -/
theorem foldlM_rel {R : σ → σ → Prop} (hrefl : ∀ s, R s s)
    (htrans : ∀ s₁ s₂ s₃, R s₁ s₂ → R s₂ s₃ → R s₁ s₃) {f : σ → α → Except ε σ} {xs : List α}
    (hstep : ∀ s s', ∀ x ∈ xs, f s x = .ok s' → R s s') {s s' : σ}
    (h : xs.foldlM f s = .ok s') : R s s' := by
  induction xs generalizing s with
  | nil =>
    obtain rfl := Except.ok.inj h
    exact hrefl s
  | cons x xs ih =>
    rw [List.foldlM_cons, bind_eq_ok] at h
    obtain ⟨s₁, hfirst, hrest⟩ := h
    have hkeep := fun s s' y hy => hstep s s' y (List.mem_cons_of_mem x hy)
    exact htrans _ _ _ (hstep s s₁ x (List.mem_cons_self ..) hfirst) (ih hkeep hrest)

end Result

structure Frame (σ : Type) where
  overlay : σ → σ → σ
  overlay_self : ∀ s, overlay s s = s
  overlay_overlay : ∀ s₁ s₂ s₃, overlay (overlay s₁ s₂) s₃ = overlay s₁ s₃

namespace Frame
variable {σ α ε : Type} (F : Frame σ)

def Only (s s' : σ) : Prop := F.overlay s s' = s'

theorem Only.refl (s : σ) : F.Only s s := F.overlay_self s

variable {F}

theorem Only.trans {s₁ s₂ s₃ : σ} (h : F.Only s₁ s₂) (h' : F.Only s₂ s₃) : F.Only s₁ s₃ := by
  unfold Only at h h' ⊢
  rw [← h, F.overlay_overlay] at h'
  exact h'

theorem Only.foldlM {f : σ → α → Except ε σ} {xs : List α}
    (hstep : ∀ s s', ∀ x ∈ xs, f s x = .ok s' → F.Only s s') {s s' : σ}
    (h : xs.foldlM f s = .ok s') : F.Only s s' :=
  Result.foldlM_rel (Only.refl F) (fun _ _ _ => Only.trans) hstep h

theorem Only.mono {G : Frame σ} {s s' : σ} (h : F.Only s s')
    (hle : ∀ s₁ s₂, G.overlay s₁ (F.overlay s₁ s₂) = F.overlay s₁ s₂) : G.Only s s' := by
  unfold Only at h ⊢
  rw [← h]
  exact hle s s'

/-- A part of the state that the frame never lays over is the same before and after. -/
theorem Only.eq {s s' : σ} {β : Type} (h : F.Only s s') (read : σ → β)
    (hread : ∀ s₁ s₂, read (F.overlay s₁ s₂) = read s₁) : read s' = read s := by
  rw [← h]
  exact hread s s'

end Frame
