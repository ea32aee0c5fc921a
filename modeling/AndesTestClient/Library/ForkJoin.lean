import AndesTestClient.Library.Runs
import Mathlib.Tactic.SplitIfs

namespace ForkJoin

variable {E T G A : Type}

/-- A main thread that starts one thread for each entry, in order, and then joins them in the same
order. Starting uses a state of the main thread and may fail; a thread that has ended does not
move any more. -/
structure Design (E T G A : Type) where
  entries : List E
  launch : E → G → Option (T × G)
  advance : ℕ → E → A → T → Option T
  ended : T → Bool
  ended_stays : ∀ i e a t, ended t = true → advance i e a t = none

inductive Point
  | launching
  | joining (n : ℕ)
  | complete
deriving DecidableEq, Repr

structure State (T G : Type) where
  own : G
  threads : List T := []
  point : Point := .launching

inductive Action (A : Type)
  | main
  | thread (i : ℕ) (a : A)
deriving DecidableEq, Repr

namespace Design

variable (d : Design E T G A)

def main (s : State T G) : Option (State T G) :=
  match s.point with
  | .launching =>
    match d.entries[s.threads.length]? with
    | some e => (d.launch e s.own).map fun x ↦ { s with own := x.2, threads := s.threads ++ [x.1] }
    | none => some { s with point := .joining 0 }
  | .joining n =>
    match s.threads[n]? with
    | some t => if d.ended t then some { s with point := .joining (n + 1) } else none
    | none => some { s with point := .complete }
  | .complete => none

def turn (s : State T G) (i : ℕ) (a : A) : Option (State T G) :=
  d.entries[i]?.bind fun e ↦ s.threads[i]?.bind fun t ↦
    (d.advance i e a t).map fun t' ↦ { s with threads := s.threads.set i t' }

def step (s : State T G) : Action A → Option (State T G)
  | .main => d.main s
  | .thread i a => d.turn s i a

def run (s : State T G) (actions : List (Action A)) : Option (State T G) := actions.foldlM d.step s

structure Local (I : ℕ → E → T → Prop) : Prop where
  launch : ∀ (i : ℕ) e g t g', d.entries[i]? = some e → d.launch e g = some (t, g') → I i e t
  advance : ∀ (i : ℕ) e a t t', d.entries[i]? = some e → I i e t → d.advance i e a t = some t' → I i e t'

def Joined (s : State T G) : Prop :=
  match s.point with
  | .launching => True
  | .joining n => s.threads.length = d.entries.length ∧
      ∀ i < n, ∀ t : T, s.threads[i]? = some t → d.ended t = true
  | .complete => s.threads.length = d.entries.length ∧
      ∀ (i : ℕ) (t : T), s.threads[i]? = some t → d.ended t = true

structure Inv (I : ℕ → E → T → Prop) (s : State T G) : Prop where
  length_le : s.threads.length ≤ d.entries.length
  holds : ∀ (i : ℕ) (e : E) (t : T), d.entries[i]? = some e → s.threads[i]? = some t → I i e t
  joined : d.Joined s

variable {d} {I : ℕ → E → T → Prop} {s s' : State T G}

theorem init_inv (I : ℕ → E → T → Prop) (g : G) : d.Inv I { own := g } where
  length_le := Nat.zero_le _
  holds _ _ _ _ ht := by simp at ht
  joined := trivial

theorem Inv.launch (hl : d.Local I) (hi : d.Inv I s) (hpoint : s.point = .launching) {e : E} {x : T × G}
    (he : d.entries[s.threads.length]? = some e) (hx : d.launch e s.own = some x) :
    d.Inv I { s with own := x.2, threads := s.threads ++ [x.1] } where
  length_le := by
    obtain ⟨hlt, -⟩ := List.getElem?_eq_some_iff.mp he
    rw [List.length_append, List.length_singleton]
    exact hlt
  holds i e' t he' ht := by
    rcases Nat.lt_trichotomy i s.threads.length with hlt | rfl | hgt
    · rw [List.getElem?_append_left hlt] at ht
      exact hi.holds i e' t he' ht
    · rw [List.getElem?_concat_length] at ht
      cases he.symm.trans he'
      cases ht
      exact hl.launch _ e s.own x.1 x.2 he hx
    · have hle : (s.threads ++ [x.1]).length ≤ i := by
        rw [List.length_append, List.length_singleton]
        exact hgt
      rw [List.getElem?_eq_none hle] at ht
      cases ht
  joined := by
    simp only [Joined, hpoint]

theorem main_inv (hl : d.Local I) (hi : d.Inv I s) (hstep : d.main s = some s') : d.Inv I s' := by
  have hjoined := hi.joined
  rw [main] at hstep
  split at hstep
  case h_1 hpoint =>
    split at hstep
    case h_1 e he =>
      obtain ⟨x, hx, rfl⟩ := Option.map_eq_some_iff.mp hstep
      exact hi.launch hl hpoint he hx
    case h_2 he =>
      cases hstep
      have hlength := List.getElem?_eq_none_iff.mp he
      exact ⟨hi.length_le, hi.holds, Nat.le_antisymm hi.length_le hlength,
        fun i hlt ↦ absurd hlt (Nat.not_lt_zero i)⟩
  case h_2 n hpoint =>
    simp only [Joined, hpoint] at hjoined
    split at hstep
    case h_1 t ht =>
      split_ifs at hstep with hended
      cases hstep
      refine ⟨hi.length_le, hi.holds, hjoined.1, ?_⟩
      intro i hlt t' ht'
      rcases Nat.lt_succ_iff_lt_or_eq.mp hlt with hlt | rfl
      · exact hjoined.2 i hlt t' ht'
      · cases ht.symm.trans ht'
        exact hended
    case h_2 ht =>
      cases hstep
      refine ⟨hi.length_le, hi.holds, hjoined.1, ?_⟩
      intro i t' ht'
      obtain ⟨hlt, -⟩ := List.getElem?_eq_some_iff.mp ht'
      exact hjoined.2 i (Nat.lt_of_lt_of_le hlt (List.getElem?_eq_none_iff.mp ht)) t' ht'
  case h_3 => cases hstep

/-- A thread that moves has not ended, so what has been joined stays as it is. -/
theorem turn_inv (hl : d.Local I) (hi : d.Inv I s) {i : ℕ} {a : A} (hstep : d.turn s i a = some s') :
    d.Inv I s' := by
  obtain ⟨e, he, hstep⟩ := Option.bind_eq_some_iff.mp hstep
  obtain ⟨t, ht, hstep⟩ := Option.bind_eq_some_iff.mp hstep
  obtain ⟨t', ht', rfl⟩ := Option.map_eq_some_iff.mp hstep
  have hrunning : d.ended t ≠ true := by
    intro hended
    cases (d.ended_stays i e a t hended).symm.trans ht'
  have hjoined := hi.joined
  refine ⟨by simpa using hi.length_le, ?_, ?_⟩
  · intro j e' u he' hu
    by_cases hij : i = j
    · subst hij
      obtain ⟨hlt, -⟩ := List.getElem?_eq_some_iff.mp ht
      rw [List.getElem?_set_self hlt] at hu
      cases he.symm.trans he'
      cases hu
      exact hl.advance i e a t t' he (hi.holds i e t he ht) ht'
    · rw [List.getElem?_set_ne hij] at hu
      exact hi.holds j e' u he' hu
  · cases hpoint : s.point with
    | launching => simp only [Joined]
    | joining n =>
      simp only [Joined, hpoint, List.length_set] at hjoined ⊢
      refine ⟨hjoined.1, ?_⟩
      intro j hj u hu
      have hij : i ≠ j := by
        intro hij
        exact hrunning (hjoined.2 i (hij ▸ hj) t ht)
      rw [List.getElem?_set_ne hij] at hu
      exact hjoined.2 j hj u hu
    | complete =>
      simp only [Joined, hpoint] at hjoined
      exact absurd (hjoined.2 i t ht) hrunning

theorem step_inv (hl : d.Local I) (hi : d.Inv I s) {action : Action A}
    (hstep : d.step s action = some s') : d.Inv I s' := by
  cases action with
  | main => exact main_inv hl hi hstep
  | thread i a => exact turn_inv hl hi hstep

theorem run_inv (hl : d.Local I) (hi : d.Inv I s) {actions : List (Action A)}
    (hrun : d.run s actions = some s') : d.Inv I s' :=
  Runs.invariant (fun hi hstep ↦ step_inv hl hi hstep) hi hrun

theorem Inv.complete (hi : d.Inv I s) (hpoint : s.point = .complete) {i : ℕ} {e : E}
    (he : d.entries[i]? = some e) : ∃ t, s.threads[i]? = some t ∧ d.ended t = true ∧ I i e t := by
  have hjoined := hi.joined
  simp only [Joined, hpoint] at hjoined
  obtain ⟨hlt, -⟩ := List.getElem?_eq_some_iff.mp he
  rw [← hjoined.1] at hlt
  have ht := List.getElem?_eq_getElem hlt
  exact ⟨_, ht, hjoined.2 i _ ht, hi.holds i e _ he ht⟩

end Design

end ForkJoin
