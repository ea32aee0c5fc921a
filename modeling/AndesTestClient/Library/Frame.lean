import AndesTestClient.Library.Imperative

namespace Imperative

variable {ε σ τ α β γ δ : Type} {f : σ → γ}

/-- The code leaves `f` of the state as it is, whether it returns or throws. -/
def Keeps (f : σ → γ) (p : Prog ε σ α) : Prop := ∀ s r s', exec p s = some (r, s') → f s' = f s

theorem keeps_step {g : σ → Except ε α × σ} (h : ∀ s, f (g s).2 = f s) : Keeps f (step g) := by
  intro s r s' hrun
  rw [exec_step, Option.some.injEq] at hrun
  have hs := h s
  rwa [hrun] at hs

theorem keeps_update {g : σ → σ} (h : ∀ s, f (g s) = f s) : Keeps f (update g : Prog ε σ Unit) :=
  keeps_step h

theorem keeps_observe (g : σ → α) : Keeps f (observe g : Prog ε σ α) := keeps_step fun _ ↦ rfl

theorem keeps_pure (a : α) : Keeps f (pure a : Prog ε σ α) := by
  intro s r s' hrun
  cases hrun
  rfl

theorem keeps_throw (e : ε) : Keeps f (throw e : Prog ε σ α) := by
  intro s r s' hrun
  cases hrun
  rfl

theorem keeps_outOfFuel : Keeps f (outOfFuel : Prog ε σ α) := by
  intro s r s' hrun
  cases hrun

theorem Keeps.bind {p : Prog ε σ α} {q : α → Prog ε σ β} (hp : Keeps f p) (hq : ∀ a, Keeps f (q a)) :
    Keeps f (p >>= q) := by
  intro s r s' hrun
  rw [exec_bind] at hrun
  rcases hs : exec p s with _ | ⟨e | a, s₁⟩
  · rw [hs] at hrun
    cases hrun
  · rw [hs] at hrun
    cases hrun
    exact hp s _ _ hs
  · rw [hs] at hrun
    exact (hq a s₁ r s' hrun).trans (hp s _ _ hs)

theorem Keeps.tryCatch {p : Prog ε σ α} {handler : ε → Prog ε σ α} (hp : Keeps f p)
    (hh : ∀ e, Keeps f (handler e)) : Keeps f (tryCatch p handler) := by
  intro s r s' hrun
  rw [exec_tryCatch] at hrun
  rcases hs : exec p s with _ | ⟨e | a, s₁⟩
  · rw [hs] at hrun
    cases hrun
  · rw [hs] at hrun
    exact (hh e s₁ r s' hrun).trans (hp s _ _ hs)
  · rw [hs] at hrun
    cases hrun
    exact hp s _ _ hs

theorem Keeps.forM {p : α → Prog ε σ Unit} {l : List α} (hp : ∀ a ∈ l, Keeps f (p a)) :
    Keeps f (forM l p) := by
  induction l with
  | nil => exact keeps_pure _
  | cons a l ih =>
    rw [List.forM_cons]
    refine (hp a List.mem_cons_self).bind fun _ ↦ ih fun b hb ↦ ?_
    exact hp b (List.mem_cons_of_mem a hb)

theorem Keeps.within {get : τ → σ} {put : σ → τ → τ} {g : τ → δ} {p : Prog ε σ α}
    (hp : Keeps f p) (hput : ∀ s t, f s = f (get t) → g (put s t) = g t) :
    Keeps g (within get put p) := by
  intro t r t' hrun
  rw [exec_within, Option.map_eq_some_iff] at hrun
  obtain ⟨⟨r', s⟩, hs, heq⟩ := hrun
  cases heq
  exact hput s t (hp _ _ _ hs)

end Imperative
