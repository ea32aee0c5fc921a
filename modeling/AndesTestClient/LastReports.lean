import AndesTestClient.Completion

namespace AndesTestClient

open Imperative RingBuffer

/-- What the virtual machine gets done of the program when it goes down in a state: the calls of the
hook, if it is registered. -/
def MainState.shutDown (s : MainState) : Option (Except Thrown Unit × List HookCall) :=
  if s.hookRegistered then exec (Main.shutdownHook s.reporters.made s.threads.length) []
  else some (.ok (), [])

def MainState.Joined (s : MainState) : Prop :=
  (∃ n, s.point = .joining n) ∨ s.point = .complete

namespace ReportSettings

/-- Each reporter but the one for JMX gives a last report, before it is closed and before any thread
is interrupted. Of the running ones, two are closed, and each thread is interrupted once. -/
structure LastCalls (settings : ReportSettings) (threads : ℕ) (calls : List HookCall) : Prop where
  report_iff : ∀ reporter, .report reporter ∈ calls ↔
    reporter ∈ settings.reporters.made ∧ reporter ≠ .jmxReporter
  close_iff : ∀ reporter, .close reporter ∈ calls ↔
    reporter ∈ settings.reporters.running ∧ (reporter = .jmxReporter ∨ reporter = .csvReporter)
  reports_first : calls.Pairwise fun call later ↦
    ∀ reporter, later = .report reporter → call ≠ .close reporter ∧ ∀ i, call ≠ .interrupt i
  interrupts_eq : ∀ i, calls.count (.interrupt i) = if i < threads then 1 else 0

theorem lastCalls (settings : ReportSettings) (threads : ℕ) : settings.LastCalls threads
    (Main.reporterCalls settings.reporters.made ++ (List.range threads).map .interrupt) := by
  have hnever : ∀ i, .interrupt i ∉ Main.reporterCalls settings.reporters.made := by
    intro i
    simp only [Main.reporterCalls]
    split_ifs <;> simp
  refine ⟨fun reporter ↦ ?_, fun reporter ↦ ?_, ?_, fun i ↦ ?_⟩
  · have hmem : .report reporter ∈ Main.reporterCalls settings.reporters.made ↔
        reporter ∈ settings.reporters.made ∧ reporter ≠ .jmxReporter := by
      obtain ⟨console, _, jmx, csv, _, _⟩ := settings
      cases jmx <;> cases csv <;> cases reporter <;> simp [Main.reporterCalls, reporters]
    simp [hmem]
  · have hmem : .close reporter ∈ Main.reporterCalls settings.reporters.made ↔
        reporter ∈ settings.reporters.running ∧ (reporter = .jmxReporter ∨ reporter = .csvReporter) := by
      obtain ⟨console, _, jmx, csv, _, _⟩ := settings
      cases console <;> cases jmx <;> cases csv <;> cases reporter <;>
        simp [Main.reporterCalls, reporters]
    simp [hmem]
  · refine List.pairwise_append.mpr ⟨?_, ?_, fun call _ later hlater reporter h ↦ ?_⟩
    · obtain ⟨console, _, jmx, csv, _, _⟩ := settings
      cases jmx <;> cases csv <;> simp [Main.reporterCalls, reporters]
    · exact List.pairwise_map.mpr (List.pairwise_of_forall fun _ _ _ h ↦ HookCall.noConfusion h)
    · obtain ⟨i, -, rfl⟩ := List.mem_map.mp hlater
      cases h
  · rw [List.count_append, List.count_eq_zero.mpr (hnever i), Nat.zero_add,
      List.count_map_of_injective _ _ fun _ _ h ↦ HookCall.interrupt.inj h, List.count_range]

end ReportSettings

namespace Startup

variable {p : Startup} {s s' : MainState} {actions : List (ForkJoin.Action Turn)}

theorem Inv.joined (hi : p.Inv s) (hjoined : s.Joined) : p.Reports s.reporters ∧
    s.threads.length = p.entries.length ∧ s.hookRegistered = true := by
  have hat := hi.atPoint
  rcases hjoined with ⟨n, hpoint⟩ | hpoint
  · simp only [AtPoint, hpoint] at hat
    exact ⟨hat.1, hat.2.1, hat.2.2.2⟩
  · simp only [AtPoint, hpoint] at hat
    exact ⟨hat.1, hat.2.1, hat.2.2.2⟩

theorem Inv.not_joined (hi : p.Inv s) (hjoined : ¬ s.Joined) : s.hookRegistered = false := by
  have hat := hi.atPoint
  cases hpoint : s.point with
  | reporting =>
    simp only [AtPoint, hpoint] at hat
    exact hat.2.2.2.2
  | launching =>
    simp only [AtPoint, hpoint] at hat
    exact hat.2.2
  | joining n => exact absurd (.inl ⟨n, hpoint⟩) hjoined
  | complete => exact absurd (.inr hpoint) hjoined
  | failed t =>
    simp only [AtPoint, hpoint] at hat
    exact hat.2

theorem Inv.shutDown (hi : p.Inv s) (hjoined : s.Joined) : s.shutDown = some (.ok (),
    Main.reporterCalls p.settings.reporters.made ++ (List.range p.entries.length).map .interrupt) := by
  obtain ⟨hreports, hlength, hhook⟩ := hi.joined hjoined
  rw [MainState.shutDown, if_pos hhook, hreports.reporters_eq, hlength, Main.exec_shutdownHook]
  · rfl
  · rw [ReportSettings.reporters, List.append_assoc]
    exact List.subset_append_left _ _

theorem step_joined (hjoined : s.Joined) {action : ForkJoin.Action Turn}
    (hstep : p.step s action = some s') : s'.Joined := by
  cases action with
  | thread i a =>
    obtain ⟨-, -, -, -, -, -, rfl⟩ := turn_threads hstep
    exact hjoined
  | main =>
    change p.main s = some s' at hstep
    rcases hjoined with ⟨n, hpoint⟩ | hpoint
    · simp only [main, hpoint] at hstep
      split at hstep
      · split_ifs at hstep
        cases hstep
        exact .inl ⟨n + 1, rfl⟩
      · cases hstep
        exact .inr rfl
    · simp only [main, hpoint] at hstep
      cases hstep

/-- Whenever the virtual machine goes down, the hook meets no null reference. From its joins on `main`
has it make the last calls of all reporters and threads, and nothing that still goes on changes them;
before, and after a failure, there is no last report at all. Of a program that is over there are last
reports exactly when it could start everything. -/
theorem shut_down (hrun : p.run {} actions = some s) :
    ∃ calls, s.shutDown = some (.ok (), calls) ∧
      (s.Joined → p.Starts ∧ p.settings.LastCalls p.entries.length calls ∧
        ∀ actions' s', p.run s actions' = some s' → s'.shutDown = s.shutDown) ∧
      (¬ s.Joined → calls = []) ∧
      (Over s → (.report .consoleReporter ∈ calls ↔ p.Starts)) := by
  have hi := run_inv init_inv hrun
  by_cases hjoined : s.Joined
  · obtain ⟨hreports, hlength, -⟩ := hi.joined hjoined
    have hstarts := hi.starts hreports.accepted hlength
    have hlast := p.settings.lastCalls p.entries.length
    refine ⟨_, hi.shutDown hjoined, fun _ ↦ ⟨hstarts, hlast, fun actions' s' hrun' ↦ ?_⟩,
      fun h ↦ absurd hjoined h, fun _ ↦ iff_of_true ?_ hstarts⟩
    · have hjoined' : s'.Joined := Runs.invariant (fun h hstep ↦ step_joined h hstep) hjoined hrun'
      rw [(run_inv hi hrun').shutDown hjoined', hi.shutDown hjoined]
    · rw [hlast.report_iff]
      simp [ReportSettings.reporters]
  · have hnone : s.shutDown = some (.ok (), []) := by
      rw [MainState.shutDown, hi.not_joined hjoined]
      rfl
    refine ⟨[], hnone, fun h ↦ absurd h hjoined, fun _ ↦ rfl, fun hover ↦ ?_⟩
    rcases hover.point_eq with hpoint | ⟨t, hpoint⟩
    · exact absurd (.inr hpoint) hjoined
    · have hat := hi.atPoint
      simp only [AtPoint, hpoint] at hat
      exact iff_of_false List.not_mem_nil hat.1.not_starts

def withReports : Startup :=
  { noSession with
    environment := fun _ _ _ ↦ .returns
    settings :=
      { jmxReportEnable := true
        csvReportEnable := true
        csvUpdateInterval := 10
        csvGaugeUpdateInterval := 1000 } }

theorem shut_down_withReports :
    ∃ s, withReports.run {} [.main, .main, .main, .thread 0 .producer, .main] = some s ∧
      s.point = .joining 0 ∧
      ∃ calls, s.shutDown = some (.ok (), calls) ∧
        (s.Joined → withReports.Starts ∧
          withReports.settings.LastCalls withReports.entries.length calls ∧
          ∀ actions' s', withReports.run s actions' = some s' → s'.shutDown = s.shutDown) ∧
        (¬ s.Joined → calls = []) ∧
        (Over s → (.report .consoleReporter ∈ calls ↔ withReports.Starts)) := by
  have hruns : (withReports.run {} [.main, .main, .main, .thread 0 .producer, .main]).map
      MainState.point = some (.joining 0) := by
    decide +kernel
  obtain ⟨s, hs, hpoint⟩ := Option.map_eq_some_iff.mp hruns
  exact ⟨s, hs, hpoint, shut_down hs⟩

end Startup

end AndesTestClient
