import AndesTestClient.Library.Delimited
import Mathlib.Data.Int.Basic
import Mathlib.Data.List.Nodup

namespace Decimal

open Delimited

theorem repr_inj {m n : ℕ} (h : m.repr = n.repr) : m = n := by
  have hd := congrArg (fun s ↦ Nat.ofDigitChars 10 s.toList 0) h
  simpa only [Nat.toList_repr, Nat.ofDigitChars_ten_toDigits] using hd

theorem isDigit_of_mem_repr {c : Char} {n : ℕ} (h : c ∈ n.repr.toList) : c.isDigit :=
  Nat.isDigit_of_mem_toDigits (by decide) (by decide) (Nat.toList_repr ▸ h)

theorem isDigit_or_minus_of_mem {c : Char} {n : ℤ} (h : c ∈ (toString n).toList) :
    c.isDigit ∨ c = '-' := by
  rw [Int.toString_eq_repr, Int.repr_eq_if] at h
  split at h
  · exact .inl (isDigit_of_mem_repr h)
  · rw [String.toList_append, List.mem_append] at h
    rcases h with h | h
    · exact .inr (by simpa using h)
    · exact .inl (isDigit_of_mem_repr h)

theorem minus_append_ne {m n : ℕ} : "-" ++ m.repr ≠ n.repr := by
  intro h
  have hm : '-' ∈ n.repr.toList := by rw [← h]; simp
  exact absurd (isDigit_of_mem_repr hm) (by decide)

theorem int_inj {m n : ℤ} (h : toString m = toString n) : m = n := by
  rw [Int.toString_eq_repr, Int.toString_eq_repr, Int.repr_eq_if, Int.repr_eq_if] at h
  split at h <;> split at h
  · have := repr_inj h
    omega
  · exact absurd h.symm minus_append_ne
  · exact absurd h minus_append_ne
  · have hr : (-m).toNat = (-n).toNat := by
      apply repr_inj
      have hl := congrArg String.toList h
      rw [String.toList_append, String.toList_append] at hl
      exact String.toList_inj.mp (List.append_cancel_left hl)
    omega

theorem notMem {sep : Char} (hdigit : ¬ sep.isDigit) (hminus : sep ≠ '-') (n : ℤ) :
    sep ∉ (toString n).toList := fun h ↦ (isDigit_or_minus_of_mem h).elim hdigit hminus

theorem notMem_of_nonneg {sep : Char} (hdigit : ¬ sep.isDigit) {n : ℤ} (hn : 0 ≤ n) :
    sep ∉ (toString n).toList := by
  rw [Int.toString_eq_repr, Int.repr_eq_if, if_pos hn]
  exact fun h ↦ hdigit (isDigit_of_mem_repr h)

/-- A text and a number joined by glue that ends in a separator no decimal contains can be
read back. -/
theorem suffix_inj {sep : Char} {s t glue : String} (pre : List Char)
    (hglue : glue.toList = pre ++ [sep]) {m n : ℤ}
    (hm : sep ∉ (toString m).toList) (hn : sep ∉ (toString n).toList)
    (h : s ++ glue ++ toString m = t ++ glue ++ toString n) : s = t ∧ m = n := by
  have hl := congrArg String.toList h
  simp only [String.toList_append, hglue, List.append_assoc, List.singleton_append] at hl
  rw [← List.append_assoc, ← List.append_assoc] at hl
  obtain ⟨hst, hmn⟩ := append_last_inj hm hn hl
  exact ⟨String.toList_inj.mp (List.append_cancel_right hst), int_inj (String.toList_inj.mp hmn)⟩

/-- Texts together with numbered copies of them: only a text that is itself one of the copies
repeats another. -/
theorem nodup_numbered_iff {α : Type} {glue : String} (sep : Char) (pre : List Char)
    (hglue : glue.toList = pre ++ [sep]) (hdigit : ¬ sep.isDigit) (hminus : sep ≠ '-')
    (key : α → String) (numbers : α → List ℤ) {list : List α} (hkeys : (list.map key).Nodup)
    (hnumbers : ∀ c ∈ list, (numbers c).Nodup) :
    (list.map key ++
      list.flatMap fun c ↦ (numbers c).map fun n ↦ key c ++ glue ++ toString n).Nodup ↔
    ∀ c ∈ list, ∀ n ∈ numbers c, ∀ d ∈ list, key d ≠ key c ++ glue ++ toString n := by
  have hinj : ∀ {s t : String} {m n : ℤ}, s ++ glue ++ toString m = t ++ glue ++ toString n →
      s = t ∧ m = n :=
    fun h ↦ suffix_inj pre hglue (notMem hdigit hminus _) (notMem hdigit hminus _) h
  have hcopies : (list.flatMap fun c ↦
      (numbers c).map fun n ↦ key c ++ glue ++ toString n).Nodup := by
    rw [List.nodup_flatMap]
    refine ⟨fun c hc ↦ (hnumbers c hc).map fun m n h ↦ (hinj h).2, ?_⟩
    refine (List.pairwise_map.mp hkeys).imp fun {c d} hne ↦ ?_
    intro s hs ht
    obtain ⟨m, -, rfl⟩ := List.mem_map.mp hs
    obtain ⟨n, -, h⟩ := List.mem_map.mp ht
    exact hne (hinj h).1.symm
  rw [List.nodup_append]
  constructor
  · intro h c hc n hn d hd
    obtain ⟨-, -, h⟩ := h
    exact h _ (List.mem_map_of_mem hd) _
      (List.mem_flatMap.mpr ⟨c, hc, List.mem_map.mpr ⟨n, hn, rfl⟩⟩)
  · intro h
    refine ⟨hkeys, hcopies, ?_⟩
    intro s hs t ht
    obtain ⟨d, hd, rfl⟩ := List.mem_map.mp hs
    obtain ⟨c, hc, ht⟩ := List.mem_flatMap.mp ht
    obtain ⟨n, hn, rfl⟩ := List.mem_map.mp ht
    exact h c hc n hn d hd

end Decimal
