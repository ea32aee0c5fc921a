import Mathlib.Data.List.Basic
import Mathlib.Tactic.Common

namespace Delimited

variable {α : Type}

theorem append_last_inj {c : α} {xs ys us vs : List α} (hu : c ∉ us) (hv : c ∉ vs)
    (h : xs ++ c :: us = ys ++ c :: vs) : xs = ys ∧ us = vs := by
  rcases List.append_eq_append_iff.mp h with ⟨zs, rfl, hz⟩ | ⟨zs, rfl, hz⟩
  · cases zs with
    | nil => simpa using hz
    | cons z zs =>
      rw [List.cons_append, List.cons.injEq] at hz
      exact absurd (hz.2 ▸ List.mem_append_right zs List.mem_cons_self) hu
  · cases zs with
    | nil => simpa [eq_comm] using hz
    | cons z zs =>
      rw [List.cons_append, List.cons.injEq] at hz
      exact absurd (hz.2 ▸ List.mem_append_right zs List.mem_cons_self) hv

theorem marker_shift {p : α} {us vs xs zs : List α} (hp : p ∉ us) (hzs : zs ≠ [])
    (h : p :: us ++ xs = zs ++ (p :: us ++ vs)) :
    ∃ ws, zs = p :: us ++ ws ∧ xs = ws ++ (p :: us) ++ vs := by
  rcases List.append_eq_append_iff.mp h with ⟨ws, hz, hx⟩ | ⟨ws, hmark, hrest⟩
  · exact ⟨ws, hz, by rw [hx, List.append_assoc]⟩
  · obtain ⟨z, zs, rfl⟩ := List.exists_cons_of_ne_nil hzs
    rw [List.cons_append, List.cons.injEq] at hmark
    obtain ⟨rfl, rfl⟩ := hmark
    cases ws with
    | nil => exact ⟨[], by simp, by simpa using hrest.symm⟩
    | cons w ws =>
      rw [List.cons_append, List.cons_append, List.cons.injEq] at hrest
      exact absurd (hrest.1 ▸ List.mem_append_right zs List.mem_cons_self) hp

/-- Two ways to split one text at such a marker: the same, or one of them cuts the other's rest at
a later marker. -/
theorem marker_cases {p : α} {us as bs xs ys : List α} (hp : p ∉ us)
    (h : as ++ (p :: us) ++ xs = bs ++ (p :: us) ++ ys) :
    (as = bs ∧ xs = ys) ∨
    (∃ ws, xs = ws ++ (p :: us) ++ ys ∧ bs = as ++ (p :: us) ++ ws) ∨
    (∃ ws, ys = ws ++ (p :: us) ++ xs ∧ as = bs ++ (p :: us) ++ ws) := by
  rw [List.append_assoc, List.append_assoc] at h
  rcases List.append_eq_append_iff.mp h with ⟨zs, rfl, hz⟩ | ⟨zs, rfl, hz⟩
  · by_cases hzs : zs = []
    · subst hzs
      exact .inl ⟨by simp, by simpa using hz⟩
    · obtain ⟨ws, rfl, hx⟩ := marker_shift hp hzs hz
      exact .inr (.inl ⟨ws, hx, by rw [List.append_assoc]⟩)
  · by_cases hzs : zs = []
    · subst hzs
      exact .inl ⟨by simp, by simpa using hz.symm⟩
    · obtain ⟨ws, rfl, hx⟩ := marker_shift hp hzs hz
      exact .inr (.inr ⟨ws, hx, by rw [List.append_assoc]⟩)

end Delimited
