import AndesTestClient.Library.RingInvariant
import AndesTestClient.Library.Runs
import Mathlib.Algebra.BigOperators.Group.List.Basic
import Mathlib.Algebra.Ring.Nat

namespace RingBuffer

variable {S L H : Type}

/-- A bound on the points that a call of the handler comes by: each one ranks below the last. -/
structure Ranking (d : Design S L H) where
  rank : L → ℕ
  bound : ℕ
  enter_le : ∀ h, rank (d.enter h) ≤ bound
  advance_lt : ∀ l c l', d.advance l c = some (.inl l') → rank l' < rank l

namespace Design

variable {d : Design S L H} {h₀ : H} {s s' : State S L H} {turns : List Turn}

def jobSteps (d : Design S L H) (n : ℕ) : ℕ := ((d.jobs.drop n).map (·.length + 2)).sum

def producing (d : Design S L H) (s : State S L H) : ℕ :=
  match s.claimed with
  | none => d.jobSteps s.published
  | some rest => rest.length + 1 + d.jobSteps (s.published + 1)

/-- The steps that the handler can still make: for each call the entry, its points, the clears and
the release. -/
def consuming (r : Ranking d) (s : State S L H) : ℕ :=
  match s.handler with
  | .idle _ => (d.jobs.length - s.handled) * (r.bound + d.clears.length + 3)
  | .busy l _ => (d.jobs.length - (s.handled + 1)) * (r.bound + d.clears.length + 3) +
      (r.rank l + d.clears.length + 2)
  | .clearing _ rest => (d.jobs.length - (s.handled + 1)) * (r.bound + d.clears.length + 3) +
      (rest.length + 1)

def work (r : Ranking d) (s : State S L H) : ℕ := d.producing s + consuming r s

theorem length_events (d : Design S L H) : d.events.length = d.jobs.length := List.length_map _

theorem jobSteps_of_get {n : ℕ} {job : List (S → S)} (hjob : d.jobs[n]? = some job) :
    d.jobSteps n = job.length + 2 + d.jobSteps (n + 1) := by
  obtain ⟨hlt, hget⟩ := List.getElem?_eq_some_iff.mp hjob
  rw [jobSteps, List.drop_eq_getElem_cons hlt, hget, List.map_cons, List.sum_cons, jobSteps]

theorem produce_work (r : Ranking d) (hstep : d.produce s = some s') : work r s' + 1 = work r s := by
  rw [produce] at hstep
  split at hstep
  case h_1 hclaimed =>
    split_ifs at hstep
    obtain ⟨job, hjob, rfl⟩ := Option.map_eq_some_iff.mp hstep
    have hsteps := jobSteps_of_get hjob
    simp only [work, producing, consuming, hclaimed]
    omega
  case h_2 w rest hclaimed =>
    cases hstep
    simp only [work, producing, consuming, hclaimed, List.length_cons]
    omega
  case h_3 hclaimed =>
    cases hstep
    simp only [work, producing, consuming, hclaimed, List.length_nil]
    omega

theorem consume_work (r : Ranking d) (hi : d.Inv h₀ s) (hstep : d.consume s = some s') :
    work r s' < work r s := by
  have hproducing : s'.claimed = s.claimed → s'.published = s.published →
      d.producing s' = d.producing s := by
    intro hclaimed hpublished
    rw [producing, producing, hclaimed, hpublished]
  rw [consume] at hstep
  split at hstep
  case h_1 h hh =>
    split_ifs at hstep with hlt
    cases hstep
    have hjobs : s.handled < d.jobs.length :=
      length_events d ▸ Nat.lt_of_lt_of_le hlt hi.published_le_jobs
    have hleft : d.jobs.length - s.handled = d.jobs.length - (s.handled + 1) + 1 := by omega
    have henter := r.enter_le h
    rw [work, work, hproducing rfl rfl]
    simp only [consuming, hh, hleft, Nat.succ_mul]
    omega
  case h_2 l loads hh =>
    obtain ⟨x, hadvance, rfl⟩ := Option.map_eq_some_iff.mp hstep
    cases x with
    | inl l' =>
      have hrank := r.advance_lt _ _ _ hadvance
      rw [work, work, hproducing rfl rfl]
      simp only [consuming, hh]
      omega
    | inr h' =>
      rw [work, work, hproducing rfl rfl]
      simp only [consuming, hh]
      omega
  case h_3 h w rest hh =>
    cases hstep
    rw [work, work, hproducing rfl rfl]
    simp only [consuming, hh, List.length_cons]
    omega
  case h_4 h hh =>
    cases hstep
    rw [work, work, hproducing rfl rfl]
    simp only [consuming, hh, List.length_nil]
    omega

theorem step_work (r : Ranking d) (hi : d.Inv h₀ s) {turn : Turn} (hstep : d.step s turn = some s') :
    work r s' < work r s := by
  cases turn with
  | producer => exact Nat.lt_of_succ_le (produce_work r hstep).le
  | handler => exact consume_work r hi hstep

theorem run_work (r : Ranking d) (hi : d.Inv h₀ s) (hrun : d.run s turns = some s') :
    turns.length + work r s' ≤ work r s :=
  Runs.bounded (fun hi hstep ↦ step_inv hi hstep) (fun hi hstep ↦ step_work r hi hstep) hi hrun

theorem init_work (r : Ranking d) (h₀ : H) : work r (d.init h₀) =
    (d.jobs.map (·.length + 2)).sum + d.jobs.length * (r.bound + d.clears.length + 3) := by
  rw [work, producing, consuming]
  simp only [init, jobSteps, List.drop_zero, Nat.sub_zero]

theorem Inv.produce_stuck (hi : d.Inv h₀ s) (hproduce : d.produce s = none) :
    s.claimed = none ∧ (s.published = d.jobs.length ∨ s.handled < s.published) := by
  have hle := hi.published_le_jobs
  rw [length_events] at hle
  rw [produce] at hproduce
  split at hproduce
  case h_1 hclaimed =>
    refine ⟨hclaimed, ?_⟩
    split_ifs at hproduce with hroom
    · rw [Option.map_eq_none_iff, List.getElem?_eq_none_iff] at hproduce
      exact .inl (Nat.le_antisymm hle hproduce)
    · exact .inr (Nat.lt_of_lt_of_le (Nat.lt_add_of_pos_right d.size_pos) (Nat.not_lt.mp hroom))
  case h_2 => cases hproduce
  case h_3 => cases hproduce

theorem Inv.consume_stuck (hi : d.Inv h₀ s) (hconsume : d.consume s = none) :
    (s.handled = s.published ∧ ∃ h, s.handler = .idle h) ∨
      ∃ l loads c, s.handler = .busy l loads ∧ d.events[s.handled]? = some c ∧ d.advance l c = none := by
  have hsound := hi.sound
  cases hh : s.handler with
  | idle h =>
    simp only [consume, hh, ite_eq_right_iff, reduceCtorEq, imp_false, Nat.not_lt] at hconsume
    exact .inl ⟨Nat.le_antisymm hi.handled_le hconsume, h, rfl⟩
  | busy l loads =>
    simp only [Sound, hh] at hsound
    obtain ⟨hlt, -, h, c, -, hc, -⟩ := hsound
    have hslot := hi.slot_eq hh hlt hc
    simp only [consume, hh, hslot, Option.map_eq_none_iff] at hconsume
    exact .inr ⟨l, loads, c, rfl, hc, hconsume⟩
  | clearing h rest => cases rest <;> simp only [consume, hh, reduceCtorEq] at hconsume

end Design

end RingBuffer
