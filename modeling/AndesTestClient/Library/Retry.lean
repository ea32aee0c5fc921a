import Mathlib.Data.Nat.Init
import Mathlib.Tactic.Common

namespace Retry

variable {σ β : Type}

/-- From `s` the code returns `b`, whatever fuel it still has. -/
def Stops (run : ℕ → σ → Option β) (s : σ) (b : β) : Prop := ∀ fuel, run (fuel + 1) s = some b

/-- From `s` the code comes to call itself from `s₁`. -/
def Repeats (run : ℕ → σ → Option β) (s s₁ : σ) : Prop := ∀ fuel, run (fuel + 1) s = run fuel s₁

variable (run : ℕ → σ → Option β) {P : σ → Prop}

/-- Code that stops or repeats with less left to do returns. The induction is on what is left, and
enough fuel is more than that. -/
theorem returns {Q : σ → β → Prop} (μ : σ → ℕ)
    (hstep : ∀ s, P s → (∃ b, Stops run s b ∧ Q s b) ∨
      ∃ s₁, Repeats run s s₁ ∧ P s₁ ∧ μ s₁ < μ s ∧ ∀ b, Q s₁ b → Q s b) {s : σ} (hs : P s) :
    ∃ b, (∀ fuel, μ s < fuel → run fuel s = some b) ∧ Q s b := by
  induction hn : μ s using Nat.strong_induction_on generalizing s with
  | _ n ih =>
    rcases hstep s hs with ⟨b, hstops, hb⟩ | ⟨s₁, hrepeats, hs₁, hlt, hq⟩
    · refine ⟨b, ?_, hb⟩
      intro fuel hfuel
      obtain ⟨fuel, rfl⟩ := Nat.exists_eq_add_one_of_ne_zero (Nat.ne_zero_of_lt hfuel)
      exact hstops fuel
    · obtain ⟨b, hrun, hb⟩ := ih _ (hn ▸ hlt) hs₁ rfl
      refine ⟨b, ?_, hq b hb⟩
      intro fuel hfuel
      obtain ⟨fuel, rfl⟩ := Nat.exists_eq_add_one_of_ne_zero (Nat.ne_zero_of_lt hfuel)
      exact (hrepeats fuel).trans (hrun fuel (by omega))

/-- Code that repeats from every state of a kind never returns. -/
theorem never_returns (hzero : ∀ s, run 0 s = none) (hstep : ∀ s, P s → ∃ s₁, Repeats run s s₁ ∧ P s₁)
    (fuel : ℕ) {s : σ} (hs : P s) : run fuel s = none := by
  induction fuel generalizing s with
  | zero => exact hzero s
  | succ fuel ih =>
    obtain ⟨s₁, hrepeats, hs₁⟩ := hstep s hs
    exact (hrepeats fuel).trans (ih hs₁)

end Retry
