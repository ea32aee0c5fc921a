import Mathlib.Data.List.Infix
import Mathlib.Tactic.Common

namespace Template

variable {α : Type}

theorem intercalate_length (sep x : List α) (xs : List (List α)) :
    (sep.intercalate (x :: xs)).length = (x :: xs).flatten.length + xs.length * sep.length := by
  induction xs generalizing x with
  | nil => simp
  | cons y ys ih =>
    have h := ih y
    rw [List.intercalate_cons_cons, List.length_append, List.length_append, h]
    simp only [List.flatten_cons, List.length_append, List.length_cons, Nat.add_mul]
    omega

/-- Two separators that join the same pieces to one text are equal, if they join anything. -/
theorem intercalate_inj {sep sep' : List α} {xs : List (List α)} (hxs : 2 ≤ xs.length)
    (h : sep.intercalate xs = sep'.intercalate xs) : sep = sep' := by
  match xs with
  | x :: y :: ys =>
    have hlength := congrArg List.length h
    rw [intercalate_length, intercalate_length, Nat.add_left_cancel_iff] at hlength
    have hsep : sep.length = sep'.length := Nat.eq_of_mul_eq_mul_left (Nat.succ_pos _) hlength
    rw [List.intercalate_cons_cons, List.intercalate_cons_cons, List.append_assoc,
      List.append_assoc] at h
    exact (List.append_inj (List.append_cancel_left h) hsep).1

variable [DecidableEq α] (p q : α)

def pieces : List α → List (List α)
  | [] => [[]]
  | [c] => [[c]]
  | c :: c' :: rest =>
    if c = p ∧ c' = q then [] :: pieces rest else (pieces (c' :: rest)).modifyHead (c :: ·)

theorem pieces_ne_nil (s : List α) : pieces p q s ≠ [] := by
  fun_induction pieces p q s with
  | case1 => simp
  | case2 => simp
  | case3 => simp
  | case4 c c' rest hmark ih => simpa using ih

theorem two_le_pieces {s : List α} (h : [p, q] <:+: s) : 2 ≤ (pieces p q s).length := by
  fun_induction pieces p q s with
  | case1 => simp at h
  | case2 c =>
    have hle := h.length_le
    simp at hle
  | case3 c c' rest hmark ih =>
    have hpos := List.length_pos_iff.mpr (pieces_ne_nil p q rest)
    rw [List.length_cons]
    omega
  | case4 c c' rest hmark ih =>
    rw [List.length_modifyHead]
    apply ih
    rcases List.infix_cons_iff.mp h with hhead | htail
    · rw [List.cons_prefix_cons, List.cons_prefix_cons] at hhead
      exact absurd ⟨hhead.1.symm, hhead.2.1.symm⟩ hmark
    · exact htail

theorem pieces_eq_singleton {s : List α} (h : ¬ [p, q] <:+: s) : pieces p q s = [s] := by
  fun_induction pieces p q s with
  | case1 => rfl
  | case2 c => rfl
  | case3 c c' rest hmark ih =>
    obtain ⟨rfl, rfl⟩ := hmark
    exact absurd (List.prefix_append [c, c'] rest).isInfix h
  | case4 c c' rest hmark ih =>
    rw [ih fun htail ↦ h (List.infix_cons_iff.mpr (.inr htail))]
    rfl

end Template
