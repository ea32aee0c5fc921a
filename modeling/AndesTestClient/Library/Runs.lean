import Mathlib.Data.Nat.Notation

namespace Runs

variable {S T A : Type} {step : S → A → Option S} {s s₁ s' : S} {a : A} {actions : List A}
  {P : S → Prop}

theorem split (hrun : (a :: actions).foldlM step s = some s') :
    ∃ s₁, step s a = some s₁ ∧ actions.foldlM step s₁ = some s' := by
  rw [List.foldlM_cons] at hrun
  exact Option.bind_eq_some_iff.mp hrun

theorem cons (hstep : step s a = some s₁) (hrun : actions.foldlM step s₁ = some s') :
    (a :: actions).foldlM step s = some s' := by
  rw [List.foldlM_cons]
  exact Option.bind_eq_some_iff.mpr ⟨s₁, hstep, hrun⟩

theorem single (hstep : step s a = some s') : [a].foldlM step s = some s' := cons hstep rfl

/-- What every step keeps, every run keeps. -/
theorem invariant (hstep : ∀ {s a s'}, P s → step s a = some s' → P s') (h : P s)
    (hrun : actions.foldlM step s = some s') : P s' := by
  induction actions generalizing s with
  | nil =>
    cases hrun
    exact h
  | cons a actions ih =>
    obtain ⟨s₁, hfirst, hrest⟩ := split hrun
    exact ih (hstep h hfirst) hrest

/-- What follows a fold over the actions in every step follows it in every run. -/
theorem follows {R : S → T → Prop} {f : T → A → T} {t : T}
    (hstep : ∀ {s t a s'}, R s t → step s a = some s' → R s' (f t a)) (h : R s t)
    (hrun : actions.foldlM step s = some s') : R s' (actions.foldl f t) := by
  induction actions generalizing s t with
  | nil =>
    cases hrun
    exact h
  | cons a actions ih =>
    obtain ⟨s₁, hfirst, hrest⟩ := split hrun
    exact ih (hstep h hfirst) hrest

theorem history {R : S → List A → Prop}
    (hstep : ∀ {s done a s'}, R s done → step s a = some s' → R s' (done ++ [a])) (h : R s [])
    (hrun : actions.foldlM step s = some s') : R s' actions := by
  have hdone := follows (f := fun done a ↦ done ++ [a]) (fun h hfirst ↦ hstep h hfirst) h hrun
  rwa [List.foldl_append_eq_append, List.nil_append, ← List.flatMap_def, List.flatMap_singleton'] at hdone

/-- Where every step lowers a measure, no run is longer than what the measure has lost. -/
theorem bounded {measure : S → ℕ} (hstep : ∀ {s a s'}, P s → step s a = some s' → P s')
    (hlower : ∀ {s a s'}, P s → step s a = some s' → measure s' < measure s) (h : P s)
    (hrun : actions.foldlM step s = some s') : actions.length + measure s' ≤ measure s := by
  induction actions generalizing s with
  | nil =>
    cases hrun
    exact Nat.le_of_eq (Nat.zero_add _)
  | cons a actions ih =>
    obtain ⟨s₁, hfirst, hrest⟩ := split hrun
    have hlt := hlower h hfirst
    have hle := ih (hstep h hfirst) hrest
    rw [List.length_cons]
    omega

/-- Where a step lowers a measure or changes nothing, a run does what few of its steps do. -/
theorem effective {measure : S → ℕ} (hstep : ∀ {s a s'}, P s → step s a = some s' → P s')
    (hlower : ∀ {s a s'}, P s → step s a = some s' → s' = s ∨ measure s' < measure s) (h : P s)
    (hrun : actions.foldlM step s = some s') : ∃ moving : List A, moving.Sublist actions ∧
      moving.foldlM step s = some s' ∧ moving.length + measure s' ≤ measure s := by
  induction actions generalizing s with
  | nil =>
    cases hrun
    exact ⟨[], .slnil, rfl, Nat.le_of_eq (Nat.zero_add _)⟩
  | cons a actions ih =>
    obtain ⟨s₁, hfirst, hrest⟩ := split hrun
    obtain ⟨moving, hsublist, hmoving, hle⟩ := ih (hstep h hfirst) hrest
    rcases hlower h hfirst with rfl | hlt
    · exact ⟨moving, hsublist.cons a, hmoving, hle⟩
    · refine ⟨a :: moving, hsublist.cons_cons a, cons hfirst hmoving, ?_⟩
      rw [List.length_cons]
      omega

/-- Where a step that lowers the measure can be made until `Q` holds, some run comes to `Q`. -/
theorem settles {Q : S → Prop} {measure : S → ℕ}
    (hstep : ∀ {s a s'}, P s → step s a = some s' → P s')
    (henabled : ∀ {s}, P s → ¬ Q s → ∃ a s', step s a = some s' ∧ measure s' < measure s) (h : P s) :
    ∃ (rest : List A) (s' : S), rest.foldlM step s = some s' ∧ Q s' := by
  induction hm : measure s using Nat.strongRecOn generalizing s with
  | ind n ih =>
    by_cases hq : Q s
    · exact ⟨[], s, rfl, hq⟩
    · obtain ⟨a, s₁, hfirst, hlt⟩ := henabled h hq
      obtain ⟨rest, s', hrest, hq'⟩ := ih (measure s₁) (hm ▸ hlt) (hstep h hfirst) rfl
      exact ⟨a :: rest, s', cons hfirst hrest, hq'⟩

/-- Where every step is one of the abstract system, refusals included, so is every run. -/
theorem simulation {abstract : S → T} {step' : T → A → Option T}
    (hstep : ∀ {s a s'}, P s → step s a = some s' → P s')
    (hsimulates : ∀ {s} (a : A), P s → (step s a).map abstract = step' (abstract s) a) (h : P s)
    (actions : List A) : (actions.foldlM step s).map abstract = actions.foldlM step' (abstract s) := by
  induction actions generalizing s with
  | nil => rfl
  | cons a actions ih =>
    rw [List.foldlM_cons, List.foldlM_cons, ← hsimulates a h]
    cases hfirst : step s a with
    | none => rfl
    | some s₁ => exact ih (hstep h hfirst)

end Runs
