import Mathlib.Algebra.Order.Ring.Int
import Mathlib.Tactic.Common

namespace Imperative

variable {ε σ τ α β : Type}

/-- Imperative code over a state `σ` that may throw an `ε`. `none` is reserved for
code that has not returned within its fuel. -/
abbrev Prog (ε σ : Type) := ExceptT ε (StateT σ Option)

def exec (p : Prog ε σ α) (s : σ) : Option (Except ε α × σ) := (ExceptT.run p).run s

def step (f : σ → Except ε α × σ) : Prog ε σ α := ExceptT.mk fun s ↦ some (f s)

def update (f : σ → σ) : Prog ε σ Unit := step fun s ↦ (.ok (), f s)

def observe (f : σ → α) : Prog ε σ α := step fun s ↦ (.ok (f s), s)

def outOfFuel : Prog ε σ α := ExceptT.mk fun _ ↦ none

/-- Code of one component, acting on the state of the object that holds it. -/
def within (get : τ → σ) (put : σ → τ → τ) (p : Prog ε σ α) : Prog ε τ α :=
  ExceptT.mk fun t ↦ (exec p (get t)).map fun r ↦ (r.1, put r.2 t)

/-- Code of a callee, whose exceptions are among those of the caller. -/
def adapt {ε' : Type} (f : ε → ε') (p : Prog ε σ α) : Prog ε' σ α :=
  ExceptT.mk fun s ↦ (exec p s).map fun r ↦ (r.1.mapError f, r.2)

@[simp] theorem exec_step (f : σ → Except ε α × σ) (s : σ) : exec (step f) s = some (f s) := rfl

@[simp] theorem exec_update (f : σ → σ) (s : σ) :
    exec (update f : Prog ε σ Unit) s = some (.ok (), f s) := rfl

@[simp] theorem exec_observe (f : σ → α) (s : σ) :
    exec (observe f : Prog ε σ α) s = some (.ok (f s), s) := rfl

@[simp] theorem exec_outOfFuel (s : σ) : exec (outOfFuel : Prog ε σ α) s = none := rfl

@[simp] theorem exec_pure (a : α) (s : σ) : exec (pure a : Prog ε σ α) s = some (.ok a, s) := rfl

@[simp] theorem exec_throw (e : ε) (s : σ) :
    exec (throw e : Prog ε σ α) s = some (.error e, s) := rfl

@[simp] theorem exec_within (get : τ → σ) (put : σ → τ → τ) (p : Prog ε σ α) (t : τ) :
    exec (within get put p) t = (exec p (get t)).map fun r ↦ (r.1, put r.2 t) := rfl

@[simp] theorem exec_adapt {ε' : Type} (f : ε → ε') (p : Prog ε σ α) (s : σ) :
    exec (adapt f p) s = (exec p s).map fun r ↦ (r.1.mapError f, r.2) := rfl

theorem exec_bind (p : Prog ε σ α) (f : α → Prog ε σ β) (s : σ) :
    exec (p >>= f) s = (exec p s).bind fun
      | (.ok a, s') => exec (f a) s'
      | (.error e, s') => some (.error e, s') := by
  simp only [exec, ExceptT.run_bind, StateT.run_bind]
  rcases (p.run.run s) with _ | ⟨_ | _, s'⟩ <;> rfl

theorem exec_map (f : α → β) (p : Prog ε σ α) (s : σ) :
    exec (f <$> p) s = (exec p s).map fun r ↦ (r.1.map f, r.2) := by
  rw [← bind_pure_comp, exec_bind]
  rcases exec p s with _ | ⟨_ | _, s'⟩ <;> rfl

theorem exec_tryCatch (p : Prog ε σ α) (handler : ε → Prog ε σ α) (s : σ) :
    exec (tryCatch p handler) s = (exec p s).bind fun
      | (.ok a, s') => some (.ok a, s')
      | (.error e, s') => exec (handler e) s' := by
  change (StateT.run (ExceptT.run (ExceptT.tryCatch p handler)) s) = _
  simp only [ExceptT.tryCatch, ExceptT.run_mk, StateT.run_bind]
  change (exec p s).bind _ = _
  rcases exec p s with _ | ⟨_ | _, s'⟩ <;> rfl

theorem exec_bind_ok {p : Prog ε σ α} {f : α → Prog ε σ β} {s s' : σ} {a : α}
    (h : exec p s = some (.ok a, s')) : exec (p >>= f) s = exec (f a) s' := by
  rw [exec_bind, h]; rfl

theorem exec_bind_error {p : Prog ε σ α} {f : α → Prog ε σ β} {s s' : σ} {e : ε}
    (h : exec p s = some (.error e, s')) : exec (p >>= f) s = some (.error e, s') := by
  rw [exec_bind, h]; rfl

theorem exec_bind_inv {p : Prog ε σ α} {f : α → Prog ε σ β} {s s' : σ} {b : β}
    (h : exec (p >>= f) s = some (.ok b, s')) :
    ∃ a s₁, exec p s = some (.ok a, s₁) ∧ exec (f a) s₁ = some (.ok b, s') := by
  rw [exec_bind] at h
  rcases hp : exec p s with _ | ⟨_ | a, s₁⟩
  · rw [hp] at h
    cases h
  · rw [hp] at h
    cases h
  · rw [hp] at h
    exact ⟨a, s₁, rfl, h⟩

theorem exec_tryCatch_ok {p : Prog ε σ α} {handler : ε → Prog ε σ α} {s s' : σ} {a : α}
    (h : exec p s = some (.ok a, s')) : exec (tryCatch p handler) s = some (.ok a, s') := by
  rw [exec_tryCatch, h]; rfl

theorem exec_tryCatch_error {p : Prog ε σ α} {handler : ε → Prog ε σ α} {s s' : σ} {e : ε}
    (h : exec p s = some (.error e, s')) : exec (tryCatch p handler) s = exec (handler e) s' := by
  rw [exec_tryCatch, h]; rfl

theorem exec_tryCatch_bind_ok {p : Prog ε σ β} {f : β → Prog ε σ α} {handler : ε → Prog ε σ α}
    {s s' : σ} {b : β} (h : exec p s = some (.ok b, s')) :
    exec (tryCatch (p >>= f) handler) s = exec (tryCatch (f b) handler) s' := by
  rw [exec_tryCatch, exec_tryCatch, exec_bind_ok h]

theorem exec_within_of {get : τ → σ} {put : σ → τ → τ} {p : Prog ε σ α} {t : τ}
    {r : Except ε α} {s : σ} (h : exec p (get t) = some (r, s)) :
    exec (within get put p) t = some (r, put s t) := by
  rw [exec_within, h]; rfl

/-- The code returns or throws, and what it answers and leaves satisfies `Q`. -/
def Ends (p : Prog ε σ α) (Q : Except ε α → σ → Prop) (s : σ) : Prop :=
  ∃ r s', exec p s = some (r, s') ∧ Q r s'

theorem Ends.mono {p : Prog ε σ α} {Q Q' : Except ε α → σ → Prop} {s : σ} (h : Ends p Q s)
    (hq : ∀ r s', Q r s' → Q' r s') : Ends p Q' s := by
  obtain ⟨r, s', hrun, hr⟩ := h
  exact ⟨r, s', hrun, hq r s' hr⟩

theorem ends_iff {p : Prog ε σ α} {Q : Except ε α → σ → Prop} {s s' : σ} {r : Except ε α}
    (h : exec p s = some (r, s')) : Ends p Q s ↔ Q r s' := by
  constructor
  · intro hends
    obtain ⟨r₁, s₁, hrun, hq⟩ := hends
    rw [h] at hrun
    cases hrun
    exact hq
  · intro hq
    exact ⟨r, s', h, hq⟩

@[simp] theorem ends_step {f : σ → Except ε α × σ} {Q : Except ε α → σ → Prop} {s : σ} :
    Ends (step f) Q s ↔ Q (f s).1 (f s).2 := by
  simp [Ends, Prod.ext_iff]

@[simp] theorem ends_update {f : σ → σ} {Q : Except ε Unit → σ → Prop} {s : σ} :
    Ends (update f) Q s ↔ Q (.ok ()) (f s) := ends_step

@[simp] theorem ends_observe {f : σ → α} {Q : Except ε α → σ → Prop} {s : σ} :
    Ends (observe f) Q s ↔ Q (.ok (f s)) s := ends_step

@[simp] theorem ends_pure {a : α} {Q : Except ε α → σ → Prop} {s : σ} :
    Ends (pure a) Q s ↔ Q (.ok a) s := by
  simp [Ends]

@[simp] theorem ends_throw {e : ε} {Q : Except ε α → σ → Prop} {s : σ} :
    Ends (throw e) Q s ↔ Q (.error e) s := by
  simp [Ends]

@[simp] theorem ends_update_bind {f : σ → σ} {g : Unit → Prog ε σ β} {Q : Except ε β → σ → Prop}
    {s : σ} : Ends (update f >>= g) Q s ↔ Ends (g ()) Q (f s) := by
  simp only [Ends, exec_bind_ok (exec_update f s)]

@[simp] theorem ends_observe_bind {f : σ → α} {g : α → Prog ε σ β} {Q : Except ε β → σ → Prop}
    {s : σ} : Ends (observe f >>= g) Q s ↔ Ends (g (f s)) Q s := by
  simp only [Ends, exec_bind_ok (exec_observe f s)]

theorem Ends.bind {p : Prog ε σ α} {f : α → Prog ε σ β} {R : Except ε α → σ → Prop}
    {Q : Except ε β → σ → Prop} {s : σ} (h : Ends p R s)
    (hok : ∀ a s', R (.ok a) s' → Ends (f a) Q s')
    (herror : ∀ e s', R (.error e) s' → Q (.error e) s') : Ends (p >>= f) Q s := by
  obtain ⟨e | a, s', hrun, hr⟩ := h
  · exact ⟨_, s', exec_bind_error hrun, herror _ s' hr⟩
  · obtain ⟨r, s'', hrest, hq⟩ := hok _ s' hr
    exact ⟨r, s'', (exec_bind_ok hrun).trans hrest, hq⟩

theorem Ends.tryCatch {p : Prog ε σ α} {handler : ε → Prog ε σ α} {R Q : Except ε α → σ → Prop}
    {s : σ} (h : Ends p R s) (hok : ∀ a s', R (.ok a) s' → Q (.ok a) s')
    (herror : ∀ e s', R (.error e) s' → Ends (handler e) Q s') : Ends (tryCatch p handler) Q s := by
  obtain ⟨e | a, s', hrun, hr⟩ := h
  · obtain ⟨r, s'', hrest, hq⟩ := herror e s' hr
    exact ⟨r, s'', (exec_tryCatch_error hrun).trans hrest, hq⟩
  · exact ⟨_, s', exec_tryCatch_ok hrun, hok _ s' hr⟩

theorem Ends.within {get : τ → σ} {put : σ → τ → τ} {p : Prog ε σ α} {t : τ}
    {Q : Except ε α → τ → Prop} (h : Ends p (fun r s ↦ Q r (put s t)) (get t)) :
    Ends (within get put p) Q t := by
  obtain ⟨r, s, hrun, hq⟩ := h
  exact ⟨r, _, exec_within_of hrun, hq⟩

/-- `for (int i = …; i <= bound; i++)`: the index is a wrapping 32-bit integer and is
compared with a 64-bit bound. The body returns the index it leaves behind. -/
def countedLoop (bound : Int64) (body : Int32 → Prog ε σ Int32) : ℕ → Int32 → Prog ε σ Unit
  | 0, _ => outOfFuel
  | fuel + 1, i =>
    if i.toInt64 ≤ bound then do
      let i' ← body i
      countedLoop bound body fuel (i' + 1)
    else pure ()

variable {bound : Int64} {body : Int32 → Prog ε σ Int32}

theorem countedLoop_done {i : Int32} (h : bound.toInt < i.toInt) (fuel : ℕ) (s : σ) :
    exec (countedLoop bound body (fuel + 1) i) s = some (.ok (), s) := by
  have hi : ¬ i.toInt64 ≤ bound := by
    rw [Int64.le_iff_toInt_le, Int32.toInt_toInt64]; omega
  rw [countedLoop, if_neg hi, exec_pure]

theorem countedLoop_next {i i' : Int32} (h : i.toInt ≤ bound.toInt) {fuel : ℕ} {s s' : σ}
    (hb : exec (body i) s = some (.ok i', s')) :
    exec (countedLoop bound body (fuel + 1) i) s = exec (countedLoop bound body fuel (i' + 1)) s' := by
  have hi : i.toInt64 ≤ bound := by
    rw [Int64.le_iff_toInt_le, Int32.toInt_toInt64]; exact h
  rw [countedLoop, if_pos hi, exec_bind_ok hb]

theorem countedLoop_throw {i : Int32} (h : i.toInt ≤ bound.toInt) {fuel : ℕ} {s s' : σ} {e : ε}
    (hb : exec (body i) s = some (.error e, s')) :
    exec (countedLoop bound body (fuel + 1) i) s = some (.error e, s') := by
  have hi : i.toInt64 ≤ bound := by
    rw [Int64.le_iff_toInt_le, Int32.toInt_toInt64]; exact h
  rw [countedLoop, if_pos hi, exec_bind_error hb]

theorem toInt_ofNat {k : ℕ} (h : k < 2 ^ 31) : (Int32.ofNat k).toInt = k :=
  Int32.toInt_ofNat_of_lt h

theorem ofNat_succ (k : ℕ) : Int32.ofNat k + 1 = Int32.ofNat (k + 1) :=
  (Int32.ofNat_add k 1).symm

theorem ofNat_succ_sub_one (k : ℕ) : Int32.ofNat (k + 1) - 1 = Int32.ofNat k := by
  rw [← ofNat_succ]
  exact Int32.add_sub_cancel _ _

/-- A loop whose bound is below the largest 32-bit integer ends. A pass advances, or it counts the
index back and lowers the measure `μ`, or it throws; the invariant `P` counts the passes that
advanced. -/
theorem countedLoop_progress (body : Int32 → Prog ε σ Int32) (P : ℕ → σ → Prop)
    (Q : ε → σ → Prop) (μ : σ → ℕ) {n : ℕ} (hn : n = bound.toInt.toNat) (hbound : bound.toInt < 2 ^ 31 - 1)
    (hbody : ∀ k < n, ∀ s, P k s → ∃ r s', exec (body (Int32.ofNat (k + 1))) s = some (r, s') ∧
      ((r = .ok (Int32.ofNat (k + 1)) ∧ P (k + 1) s' ∧ μ s' ≤ μ s) ∨
        (r = .ok (Int32.ofNat k) ∧ P k s' ∧ μ s' < μ s) ∨ (∃ e, r = .error e ∧ Q e s')))
    {fuel : ℕ} {s : σ} (hs : P 0 s) (hfuel : n + μ s < fuel) :
    ∃ r s', exec (countedLoop bound body fuel 1) s = some (r, s') ∧
      ((r = .ok () ∧ P n s') ∨ (∃ e, r = .error e ∧ Q e s')) := by
  have hloop : ∀ fuel k, k ≤ n → ∀ s, P k s → n - k + μ s < fuel →
      ∃ r s', exec (countedLoop bound body fuel (Int32.ofNat (k + 1))) s = some (r, s') ∧
        ((r = .ok () ∧ P n s') ∨ (∃ e, r = .error e ∧ Q e s')) := by
    intro fuel
    induction fuel with
    | zero => intro k _ s _ hfuel; omega
    | succ fuel ih =>
      intro k hk s hs hfuel
      have hi : (Int32.ofNat (k + 1)).toInt = (k + 1 : ℕ) := toInt_ofNat (by omega)
      by_cases hlast : k = n
      · subst hlast
        exact ⟨.ok (), s, countedLoop_done (by omega) fuel s, .inl ⟨rfl, hs⟩⟩
      · obtain ⟨r, s₁, hrun, ⟨rfl, hs₁, hμ⟩ | ⟨rfl, hs₁, hμ⟩ | ⟨e, rfl, hq⟩⟩ :=
          hbody k (by omega) s hs
        · rw [countedLoop_next (by omega) hrun, ofNat_succ]
          exact ih (k + 1) (by omega) s₁ hs₁ (by omega)
        · rw [countedLoop_next (by omega) hrun, ofNat_succ]
          exact ih k hk s₁ hs₁ (by omega)
        · exact ⟨.error e, s₁, countedLoop_throw (by omega) hrun, .inr ⟨e, rfl, hq⟩⟩
  exact hloop fuel 0 (Nat.zero_le n) s hs (by omega)

theorem countedLoop_counts (P : ℕ → σ → Prop) {n : ℕ} (hn : n = bound.toInt.toNat)
    (hbound : bound.toInt < 2 ^ 31 - 1)
    (hbody : ∀ k < n, ∀ s, P k s → ∃ s',
      exec (body (Int32.ofNat (k + 1))) s = some (.ok (Int32.ofNat (k + 1)), s') ∧ P (k + 1) s')
    {s : σ} (hs : P 0 s) {fuel : ℕ} (hfuel : n < fuel) :
    ∃ s', exec (countedLoop bound body fuel 1) s = some (.ok (), s') ∧ P n s' := by
  have hpass : ∀ k < n, ∀ s, P k s → ∃ r s',
      exec (body (Int32.ofNat (k + 1))) s = some (r, s') ∧
      ((r = .ok (Int32.ofNat (k + 1)) ∧ P (k + 1) s' ∧ 0 ≤ 0) ∨
        (r = .ok (Int32.ofNat k) ∧ P k s' ∧ 0 < 0) ∨ (∃ e, r = .error e ∧ False)) := by
    intro k hk s hs
    obtain ⟨s', hrun, hs'⟩ := hbody k hk s hs
    exact ⟨_, s', hrun, .inl ⟨rfl, hs', le_rfl⟩⟩
  obtain ⟨r, s', hrun, ⟨rfl, hs'⟩ | ⟨_, _, hfalse⟩⟩ :=
    countedLoop_progress body P (fun _ _ ↦ False) (fun _ ↦ 0) hn hbound hpass hs hfuel
  · exact ⟨s', hrun, hs'⟩
  · exact hfalse.elim

/-- From the largest 32-bit integer on, the index wraps before it passes the bound, and a body
that always returns keeps the loop running forever. -/
theorem countedLoop_diverges (body : Int32 → Prog ε σ Int32) (P : σ → Prop) (hbound : 2 ^ 31 - 1 ≤ bound.toInt)
    (hbody : ∀ i s, P s → ∃ s', exec (body i) s = some (.ok i, s') ∧ P s')
    (fuel : ℕ) (i : Int32) {s : σ} (hs : P s) :
    exec (countedLoop bound body fuel i) s = none := by
  induction fuel generalizing i s with
  | zero => rfl
  | succ fuel ih =>
    obtain ⟨s', hrun, hs'⟩ := hbody i s hs
    have hi := i.toInt_lt
    rw [countedLoop_next (by omega) hrun]
    exact ih (i + 1) hs'

end Imperative
