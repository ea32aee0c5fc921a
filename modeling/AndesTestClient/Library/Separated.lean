import AndesTestClient.Library.Delimited

namespace Separated

open Delimited

variable {α : Type}

def join : List α → List (List α × List α) → List α
  | f, [] => f
  | f, (s, g) :: rest => f ++ s ++ join g rest

theorem join_append (x f : List α) (rest : List (List α × List α)) :
    join (x ++ f) rest = x ++ join f rest := by
  cases rest with
  | nil => rfl
  | cons e rest => simp only [join, List.append_assoc]

/-- The first letter of the separator does not come again in it, so that it cannot overlap itself. -/
def Solid (s : List α) : Prop := ∃ p us, s = p :: us ∧ p ∉ us

/-- Some separator is also found inside one of the two fields beside it, and what lies beyond it
could be that field alone. -/
def AbsorbsSeparator (ok : List α → Prop) : List α → List (List α × List α) → Prop
  | _, [] => False
  | f, (s, g) :: rest =>
    (∃ a x, ok a ∧ f = a ++ s ++ x) ∨ (∃ x b, ok b ∧ g = x ++ s ++ b) ∨ AbsorbsSeparator ok g rest

theorem Solid.cases {s as bs xs ys : List α} (hs : Solid s) (h : as ++ s ++ xs = bs ++ s ++ ys) :
    (as = bs ∧ xs = ys) ∨ (∃ ws, xs = ws ++ s ++ ys ∧ bs = as ++ s ++ ws) ∨
    (∃ ws, ys = ws ++ s ++ xs ∧ as = bs ++ s ++ ws) := by
  obtain ⟨p, us, rfl, hp⟩ := hs
  exact marker_cases hp h

variable {ok : List α → Prop} {f f' g g' : List α} {rest rest' : List (List α × List α)}

theorem absorbs_of_late (hext : ∀ x a y, ok a → ok (x ++ a ++ y)) {s w : List α}
    (hsolid : ∀ e ∈ rest, Solid e.1) (hseps : rest'.map Prod.fst = rest.map Prod.fst)
    (hg' : ok g') (hrest' : ∀ e ∈ rest', ok e.2) (h : join g rest = w ++ s ++ join g' rest') :
    (∃ x b, ok b ∧ g = x ++ s ++ b) ∨ AbsorbsSeparator ok g rest := by
  induction rest generalizing g g' rest' s w with
  | nil =>
    obtain rfl := List.map_eq_nil_iff.mp hseps
    exact .inl ⟨w, g', hg', h⟩
  | cons e rest ih =>
    obtain ⟨s₁, g₁⟩ := e
    obtain ⟨⟨s₁', g₁'⟩, rest', rfl, rfl, htail⟩ := List.map_eq_cons_iff.mp hseps
    have hg₁' : ok g₁' := hrest' _ List.mem_cons_self
    have hlater : ∀ e ∈ rest', ok e.2 := fun e he ↦ hrest' e (List.mem_cons_of_mem _ he)
    have h' : g ++ s₁' ++ join g₁ rest = w ++ s ++ g' ++ s₁' ++ join g₁' rest' := by
      simpa only [join, List.append_assoc] using h
    rcases (hsolid _ List.mem_cons_self).cases h' with ⟨rfl, -⟩ | ⟨ws, hlate, -⟩ | ⟨ws, -, rfl⟩
    · exact .inl ⟨w, g', hg', rfl⟩
    · have hdeep := ih (fun e he ↦ hsolid e (List.mem_cons_of_mem _ he)) htail hg₁' hlater hlate
      exact .inr (.inr hdeep)
    · refine .inl ⟨w, g' ++ (s₁' ++ ws), ?_, by simp only [List.append_assoc]⟩
      exact hext [] g' (s₁' ++ ws) hg'

/-- Two readings of one text, in the first of which no field absorbs a separator, are the same. -/
theorem join_inj (hext : ∀ x a y, ok a → ok (x ++ a ++ y)) (hsolid : ∀ e ∈ rest, Solid e.1)
    (hseps : rest'.map Prod.fst = rest.map Prod.fst) (hf' : ok f') (hrest' : ∀ e ∈ rest', ok e.2)
    (habsorbs : ¬ AbsorbsSeparator ok f rest) (h : join f' rest' = join f rest) :
    f' = f ∧ rest' = rest := by
  induction rest generalizing f f' rest' with
  | nil =>
    obtain rfl := List.map_eq_nil_iff.mp hseps
    exact ⟨h, rfl⟩
  | cons e rest ih =>
    obtain ⟨s, g⟩ := e
    obtain ⟨⟨s', g'⟩, rest', rfl, rfl, htail⟩ := List.map_eq_cons_iff.mp hseps
    simp only [AbsorbsSeparator, not_or] at habsorbs
    obtain ⟨hleft, hright, hdeep⟩ := habsorbs
    have hg' : ok g' := hrest' _ List.mem_cons_self
    have hlater : ∀ e ∈ rest', ok e.2 := fun e he ↦ hrest' e (List.mem_cons_of_mem _ he)
    have hsolid' : ∀ e ∈ rest, Solid e.1 := fun e he ↦ hsolid e (List.mem_cons_of_mem _ he)
    rcases (hsolid _ List.mem_cons_self).cases h.symm with ⟨rfl, hjoin⟩ | ⟨ws, hlate, -⟩ | ⟨ws, -, hf⟩
    · obtain ⟨rfl, rfl⟩ := ih hsolid' htail hg' hlater hdeep hjoin.symm
      exact ⟨rfl, rfl⟩
    · rcases absorbs_of_late hext hsolid' htail hg' hlater hlate with hin | hin
      · exact absurd hin hright
      · exact absurd hin hdeep
    · exact absurd ⟨f', ws, hf', hf⟩ hleft

/-- A field that absorbs a separator gives a second reading. -/
theorem AbsorbsSeparator.reading (hext : ∀ x a y, ok a → ok (x ++ a ++ y)) (hf : ok f)
    (hrest : ∀ e ∈ rest, ok e.2) (habsorbs : AbsorbsSeparator ok f rest)
    (hsolid : ∀ e ∈ rest, Solid e.1) :
    ∃ f' rest', rest'.map Prod.fst = rest.map Prod.fst ∧ ok f' ∧ (∀ e ∈ rest', ok e.2) ∧
      join f' rest' = join f rest ∧ ¬ (f' = f ∧ rest' = rest) := by
  induction rest generalizing f with
  | nil => exact absurd habsorbs id
  | cons e rest ih =>
    obtain ⟨s, g⟩ := e
    have hg : ok g := hrest _ List.mem_cons_self
    have hlater : ∀ e ∈ rest, ok e.2 := fun e he ↦ hrest e (List.mem_cons_of_mem _ he)
    have hlonger : ∀ x a : List α, x ++ s ++ a ≠ a := by
      intro x a hx
      obtain ⟨p, us, hs : s = p :: us, -⟩ := hsolid _ List.mem_cons_self
      have hlength := congrArg List.length hx
      simp only [hs, List.length_append, List.length_cons] at hlength
      omega
    rcases habsorbs with ⟨a, x, ha, rfl⟩ | ⟨x, b, hb, rfl⟩ | hdeep
    · refine ⟨a, (s, x ++ s ++ g) :: rest, rfl, ha, ?_, by simp [join, join_append], ?_⟩
      · rw [List.forall_mem_cons]
        exact ⟨by simpa using hext (x ++ s) g [] hg, hlater⟩
      · intro h
        simp only [List.cons.injEq, Prod.mk.injEq] at h
        exact hlonger x g h.2.1.2
    · refine ⟨f ++ s ++ x, (s, b) :: rest, rfl, ?_, ?_, by simp [join, join_append], ?_⟩
      · simpa using hext [] f (s ++ x) hf
      · rw [List.forall_mem_cons]
        exact ⟨hb, hlater⟩
      · intro h
        simp only [List.cons.injEq, Prod.mk.injEq] at h
        exact hlonger x b h.2.1.2.symm
    · obtain ⟨g', rest', hseps, hg', hrest', hjoin, hne⟩ :=
        ih hg hlater hdeep fun e he ↦ hsolid e (List.mem_cons_of_mem _ he)
      refine ⟨f, (s, g') :: rest', by simp [hseps], hf, ?_, by simp only [join, hjoin], ?_⟩
      · rw [List.forall_mem_cons]
        exact ⟨hg', hrest'⟩
      · intro h
        simp only [List.cons.injEq, Prod.mk.injEq] at h
        exact hne ⟨h.2.1.2, h.2.2⟩

/-- Fields joined by given separators can be read back exactly when none absorbs a separator. -/
theorem reads_back_iff (hext : ∀ x a y, ok a → ok (x ++ a ++ y)) (hsolid : ∀ e ∈ rest, Solid e.1)
    (hf : ok f) (hrest : ∀ e ∈ rest, ok e.2) :
    (∀ f' rest', rest'.map Prod.fst = rest.map Prod.fst → ok f' → (∀ e ∈ rest', ok e.2) →
      join f' rest' = join f rest → f' = f ∧ rest' = rest) ↔ ¬ AbsorbsSeparator ok f rest := by
  constructor
  · intro hreads habsorbs
    obtain ⟨f', rest', hseps, hf', hrest', hjoin, hne⟩ := habsorbs.reading hext hf hrest hsolid
    exact hne (hreads f' rest' hseps hf' hrest' hjoin)
  · intro habsorbs f' rest' hseps hf' hrest' hjoin
    exact join_inj hext hsolid hseps hf' hrest' habsorbs hjoin

end Separated
