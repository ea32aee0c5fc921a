import Mathlib.Data.List.Nodup

namespace Interleaving

variable {ι α κ : Type} [DecidableEq ι]

def contribution (log : List (ι × α)) (i : ι) : List α := (log.filter (·.1 = i)).map (·.2)

/-- The log interleaves beginnings of the parties' own sequences. -/
def Interleaves (own : ι → List α) (log : List (ι × α)) : Prop := ∀ i, contribution log i <+: own i

variable {log : List (ι × α)} {own : ι → List α} {i : ι} {a : α}

theorem mem_contribution : a ∈ contribution log i ↔ (i, a) ∈ log := by
  simp [contribution]

theorem contribution_cons_self (log : List (ι × α)) :
    contribution ((i, a) :: log) i = a :: contribution log i := by
  simp [contribution]

theorem contribution_cons_ne {j : ι} (h : i ≠ j) (log : List (ι × α)) :
    contribution ((i, a) :: log) j = contribution log j := by
  simp [contribution, h]

theorem Interleaves.mem_own (h : Interleaves own log) (ha : (i, a) ∈ log) : a ∈ own i :=
  (h i).subset (mem_contribution.mpr ha)

/-- Keys that repeat neither within the contribution of one party nor across two parties do not
repeat at all. -/
theorem nodup_of_contributions (key : α → κ) (hown : ∀ i, ((contribution log i).map key).Nodup)
    (hcross : ∀ e ∈ log, ∀ f ∈ log, e.1 ≠ f.1 → key e.2 ≠ key f.2) :
    (log.map fun e ↦ key e.2).Nodup := by
  induction log with
  | nil => exact List.nodup_nil
  | cons e log ih =>
    obtain ⟨i, a⟩ := e
    have hself := hown i
    rw [contribution_cons_self, List.map_cons, List.nodup_cons] at hself
    rw [List.map_cons, List.nodup_cons]
    refine ⟨fun hmem ↦ ?_, ih (fun j ↦ ?_) fun e he f hf ↦
      hcross e (List.mem_cons_of_mem _ he) f (List.mem_cons_of_mem _ hf)⟩
    · obtain ⟨⟨j, b⟩, hb, hkey⟩ := List.mem_map.mp hmem
      by_cases hij : i = j
      · subst hij
        exact hself.1 (List.mem_map.mpr ⟨b, mem_contribution.mpr hb, hkey⟩)
      · exact hcross _ List.mem_cons_self _ (List.mem_cons_of_mem _ hb) hij hkey.symm
    · by_cases hij : i = j
      · exact hij ▸ hself.2
      · exact contribution_cons_ne hij log ▸ hown j

theorem interleaves_heads {j : ι} (hij : i ≠ j) {a b : α} {as bs : List α} (hi : own i = a :: as)
    (hj : own j = b :: bs) : Interleaves own [(i, a), (j, b)] := by
  intro k
  by_cases hki : k = i
  · subst hki
    rw [contribution_cons_self, contribution_cons_ne hij.symm, hi]
    exact ⟨as, rfl⟩
  · rw [contribution_cons_ne (Ne.symm hki)]
    by_cases hkj : k = j
    · subst hkj
      rw [contribution_cons_self, hj]
      exact ⟨bs, rfl⟩
    · rw [contribution_cons_ne (Ne.symm hkj)]
      exact List.nil_prefix

end Interleaving
