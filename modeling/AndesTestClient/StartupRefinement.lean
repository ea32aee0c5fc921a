import AndesTestClient.Startup

namespace AndesTestClient

open Imperative RingBuffer

namespace Startup

variable {p : Startup} {s s' : MainState} {actions : List (ForkJoin.Action Turn)}

/-- What is left of `main` without its set-ups, its reporters and its histograms. -/
def clean (p : Startup) : ForkJoin.Design JmsEndpoint EndpointThread MetricRegistry Turn :=
  Main.process p.fuel p.tc p.surroundings

def MainPoint.toForkJoin : MainPoint → ForkJoin.Point
  | .joining n => .joining n
  | .complete => .complete
  | _ => .launching

def abstractState (s : MainState) : ForkJoin.State EndpointThread MetricRegistry :=
  { own := s.registries.gauges, threads := s.threads, point := MainPoint.toForkJoin s.point }

theorem clean_launch {e : JmsEndpoint} {g : MetricRegistry} (hnew : e.endpointConfig.gaugeName ∉ g.names) :
    p.clean.launch e g =
      some (.started, { names := g.names ++ [e.endpointConfig.gaugeName] }) := by
  have hstart : exec (Main.start (fun _ ↦ true) e.endpointConfig) g = _ :=
    Main.exec_start_accepted rfl g
  rw [Main.exec_register_new hnew] at hstart
  simp only [clean, Main.process, hstart]

theorem launchNext_abstract (hstarts : p.Starts) (hi : p.Inv s) (hpoint : s.point = .launching) :
    (p.launchNext s).map abstractState = p.clean.main (abstractState s) := by
  have hlaunching : (abstractState s).point = .launching := by
    simp only [abstractState, hpoint, MainPoint.toForkJoin]
  cases he : p.entries[s.threads.length]? with
  | none =>
    have hentry : p.clean.entries[(abstractState s).threads.length]? = none := he
    simp only [launchNext, he, ForkJoin.Design.main, hlaunching, hentry]
    rfl
  | some e =>
    have hentry : p.clean.entries[(abstractState s).threads.length]? = some e := he
    rcases e.launch_outcome (p.environment s.threads.length) hi.sorted with
      ⟨-, hnew, x, hrun, -, hnames⟩ | ⟨t, x, -, -, -, hrefused⟩
    · have hlaunch : p.clean.launch e (abstractState s).own = _ := clean_launch hnew
      have hgauges : x.2.gauges =
          { names := s.registries.gauges.names ++ [e.endpointConfig.gaugeName] } := by rw [← hnames]
      simp only [launchNext, he, hrun, ForkJoin.Design.main, hlaunching, hentry, hlaunch]
      simp only [Option.map_some, abstractState, hpoint, MainPoint.toForkJoin, hgauges]
    · rw [hi.gauges_eq] at hrefused
      have htaken := hrefused.connects_imp (hstarts.connects _ e he)
      exact absurd htaken (nodup_map_iff.mp hstarts.nodup _ e he)

theorem turn_abstract (s : MainState) (i : ℕ) (a : Turn) :
    (p.turn s i a).map abstractState = p.clean.turn (abstractState s) i a := by
  have hentries : p.clean.entries = p.entries := rfl
  have hthreads : (abstractState s).threads = s.threads := rfl
  rw [turn, ForkJoin.Design.turn, hentries, hthreads]
  cases p.entries[i]? with
  | none => rfl
  | some e =>
    cases s.threads[i]? with
    | none => rfl
    | some t =>
      simp only [Option.bind_some, Option.map_map]
      rfl

theorem step_abstract (hstarts : p.Starts) (hi : p.Inv s) (hreported : s.point ≠ .reporting)
    (action : ForkJoin.Action Turn) :
    (p.step s action).map abstractState = p.clean.step (abstractState s) action := by
  cases action with
  | thread i a => exact turn_abstract s i a
  | main =>
    change (p.main s).map abstractState = p.clean.main (abstractState s)
    cases hpoint : s.point with
    | reporting => exact absurd hpoint hreported
    | failed t =>
      have hat := hi.atPoint
      simp only [AtPoint, hpoint] at hat
      exact absurd hstarts hat.1.not_starts
    | launching =>
      simp only [main, hpoint]
      exact launchNext_abstract hstarts hi hpoint
    | joining n =>
      have hjoining : (abstractState s).point = .joining n := by
        simp only [abstractState, hpoint, MainPoint.toForkJoin]
      have hthreads : (abstractState s).threads = s.threads := rfl
      simp only [main, hpoint, ForkJoin.Design.main, hjoining, hthreads]
      cases s.threads[n]? with
      | none => rfl
      | some t =>
        have hended : p.clean.ended t = t.hasEnded := rfl
        simp only [hended]
        cases t.hasEnded <;> rfl
    | complete =>
      have hcomplete : (abstractState s).point = .complete := by
        simp only [abstractState, hpoint, MainPoint.toForkJoin]
      simp only [main, hpoint, ForkJoin.Design.main, hcomplete]
      rfl

theorem step_reported (hreported : s.point ≠ .reporting) {action : ForkJoin.Action Turn}
    (hstep : p.step s action = some s') : s'.point ≠ .reporting := by
  cases action with
  | thread i a =>
    obtain ⟨-, -, -, -, -, -, rfl⟩ := turn_threads hstep
    exact hreported
  | main =>
    change p.main s = some s' at hstep
    rw [main] at hstep
    cases hpoint : s.point with
    | reporting => exact absurd hpoint hreported
    | launching =>
      simp only [hpoint, launchNext] at hstep
      split at hstep
      · cases hstep
        exact MainPoint.noConfusion
      · split at hstep <;> cases hstep <;> exact MainPoint.noConfusion
    | joining n =>
      simp only [hpoint] at hstep
      split at hstep
      · split_ifs at hstep
        cases hstep
        exact MainPoint.noConfusion
      · cases hstep
        exact MainPoint.noConfusion
    | complete => simp only [hpoint] at hstep; cases hstep
    | failed t => simp only [hpoint] at hstep; cases hstep

theorem run_abstract (hstarts : p.Starts) (hi : p.Inv s) (hreported : s.point ≠ .reporting)
    (actions : List (ForkJoin.Action Turn)) :
    (p.run s actions).map abstractState = p.clean.run (abstractState s) actions := by
  apply Runs.simulation (P := fun s ↦ p.Inv s ∧ s.point ≠ .reporting) ?_ ?_ ⟨hi, hreported⟩
  · intro s action s₁ h hstep
    exact ⟨step_inv h.1 hstep, step_reported h.2 hstep⟩
  · intro s action h
    exact step_abstract hstarts h.1 h.2 action

/-- When `main` can start everything, the program does, step by step and in every interleaving, what
the process does in which nothing is ever refused. -/
theorem run_refines (hstarts : p.Starts) (actions : List (ForkJoin.Action Turn)) :
    (p.run {} (.main :: actions)).map abstractState =
      (Main.process p.fuel p.tc p.surroundings).run { own := {} } actions := by
  obtain ⟨r, hglobal, -, hgauges⟩ := Main.exec_globalMetrics
  obtain ⟨-, hrun⟩ := (Main.startStatReporting_startsIff p.settings {} (List.nil_subset _)).resolve_right
    fun h ↦ h.1 hstarts.accepted
  let s₁ : MainState :=
    { registries := r, reporters := .append {} p.settings.reporters, point := .launching }
  have hstep : p.step {} .main = some s₁ := by simp only [step, main, report, hglobal, hrun, s₁]
  have hfirst : p.run {} (.main :: actions) = p.run s₁ actions := by
    rw [run, List.foldlM_cons, hstep]
    rfl
  have habstract : abstractState s₁ = { own := {} } := by
    simp only [abstractState, s₁, hgauges, MainPoint.toForkJoin]
  rw [hfirst, run_abstract hstarts (step_inv init_inv hstep) MainPoint.noConfusion, habstract]
  rfl

def withSession : Startup := { noSession with environment := fun _ _ _ ↦ .returns }

def consumerFirst : List (ForkJoin.Action Turn) :=
  [.main, .thread 0 .producer, .main, .main, .thread 1 .producer, .main, .main, .main]

theorem run_refines_withSession :
    (withSession.run {} (.main :: consumerFirst)).map MainState.point = some .complete ∧
    (withSession.run {} (.main :: consumerFirst)).map abstractState =
      (Main.process withSession.fuel withSession.tc withSession.surroundings).run { own := {} }
        consumerFirst := by
  have hpresent : ∀ e ∈ withSession.entries,
      ¬ Setup.Missing e.endpointConfig.config e.destinationKind := by
    simp only [Setup.Missing]
    decide
  have hlookup : ∀ e ∈ withSession.entries, .lookup none ∉ e.calls := by decide
  have hstarts : withSession.Starts := by
    refine ⟨⟨by decide, by decide, by decide⟩, fun i e he ↦ ?_, by decide⟩
    exact ⟨hpresent e (List.mem_of_getElem? he), Setup.returns_of_present (hlookup e (List.mem_of_getElem? he))⟩
  have hcompletes : (withSession.run {} (.main :: consumerFirst)).map MainState.point =
      some .complete := by
    decide +kernel
  exact ⟨hcompletes, run_refines hstarts consumerFirst⟩

end Startup

end AndesTestClient
