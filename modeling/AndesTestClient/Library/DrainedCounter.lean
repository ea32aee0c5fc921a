import Mathlib.Algebra.Group.Hom.Defs
import Mathlib.Algebra.BigOperators.Group.List.Basic
import Mathlib.Algebra.Order.Monoid.Unbundled.Basic
import Mathlib.Tactic.Abel

namespace DrainedCounter

variable {V : Type} [AddCommGroup V]

/-- A counter of limited width. Others add to it, and one reader drains it: it reads the value,
and in a later step subtracts what it has read. `counted` is what has been added so far and
`atRead` what had been added at the latest read; `reads` holds each value read with the number
counted since the read before, and `subtracted` the values subtracted so far. -/
structure Counter (V : Type) where
  value : V
  pending : Option V := none
  counted : ℕ := 0
  atRead : ℕ := 0
  reads : List (V × ℕ) := []
  subtracted : List V := []

namespace Counter

def add (of : ℕ → V) (n : ℕ) (c : Counter V) : Counter V :=
  { c with value := c.value + of n, counted := c.counted + n }

def read (c : Counter V) : Counter V :=
  { c with
    pending := some c.value
    atRead := c.counted
    reads := c.reads ++ [(c.value, c.counted - c.atRead)] }

def subtract (c : Counter V) : Counter V :=
  match c.pending with
  | some v => { c with value := c.value - v, pending := none, subtracted := c.subtracted ++ [v] }
  | none => c

/-- The law of a drained counter: nothing is lost between the counter and the values subtracted,
also while a value has been read and not yet subtracted, every value read stands for what was counted
since the read before, and what is subtracted is what was read. -/
structure Law (of : ℕ →+ V) (c : Counter V) : Prop where
  balance : c.subtracted.sum + c.value = of c.counted
  atRead_le : c.atRead ≤ c.counted
  drained : c.subtracted.sum + c.pending.getD 0 = of c.atRead
  reads_eq : ∀ r ∈ c.reads, r.1 = of r.2
  subtracted_eq : c.reads.map Prod.fst = c.subtracted ++ c.pending.toList

variable {of : ℕ →+ V} {c : Counter V}

@[simp]
theorem subtract_counted (c : Counter V) : c.subtract.counted = c.counted := by
  unfold subtract
  split <;> rfl

@[simp]
theorem subtract_atRead (c : Counter V) : c.subtract.atRead = c.atRead := by
  unfold subtract
  split <;> rfl

@[simp]
theorem subtract_reads (c : Counter V) : c.subtract.reads = c.reads := by
  unfold subtract
  split <;> rfl

@[simp]
theorem subtract_pending (c : Counter V) : c.subtract.pending = none := by
  unfold subtract
  split
  · rfl
  · assumption

theorem law_zero (of : ℕ →+ V) : Law of ({ value := 0 } : Counter V) :=
  ⟨by simp, le_rfl, by simp, by simp, rfl⟩

theorem Law.add (h : Law of c) (n : ℕ) : Law of (c.add of n) where
  balance := by
    change c.subtracted.sum + (c.value + of n) = of (c.counted + n)
    rw [map_add, ← h.balance, add_assoc]
  atRead_le := Nat.le_trans h.atRead_le (Nat.le_add_right _ n)
  drained := h.drained
  reads_eq := h.reads_eq
  subtracted_eq := h.subtracted_eq

theorem Law.value_eq (h : Law of c) (hp : c.pending = none) :
    c.value = of (c.counted - c.atRead) := by
  have hdrained := h.drained
  rw [hp, Option.getD_none, add_zero] at hdrained
  have hsplit : of c.counted = of c.atRead + of (c.counted - c.atRead) := by
    rw [← map_add, Nat.add_sub_cancel' h.atRead_le]
  exact add_left_cancel (a := c.subtracted.sum) (by rw [h.balance, hsplit, hdrained])

theorem Law.read (h : Law of c) (hp : c.pending = none) : Law of c.read where
  balance := h.balance
  atRead_le := le_rfl
  drained := h.balance
  reads_eq r hr := by
    rcases List.mem_append.mp hr with hr | hr
    · exact h.reads_eq r hr
    · rw [List.mem_singleton.mp hr]
      exact h.value_eq hp
  subtracted_eq := by
    have hsubtracted := h.subtracted_eq
    rw [hp, Option.toList_none, List.append_nil] at hsubtracted
    simp only [Counter.read, List.map_append, hsubtracted, List.map_singleton, Option.toList_some]

theorem Law.subtract (h : Law of c) : Law of c.subtract := by
  unfold Counter.subtract
  split
  case h_2 => exact h
  case h_1 v hp =>
    have hdrained := h.drained
    rw [hp, Option.getD_some] at hdrained
    refine ⟨?_, h.atRead_le, ?_, h.reads_eq, ?_⟩
    · rw [← h.balance]
      simp only [List.sum_append, List.sum_singleton]
      abel
    · simp only [List.sum_append, List.sum_singleton, Option.getD_none, add_zero]
      exact hdrained
    · have hsubtracted := h.subtracted_eq
      rw [hp, Option.toList_some] at hsubtracted
      rw [Option.toList_none, List.append_nil]
      exact hsubtracted

end Counter

end DrainedCounter
