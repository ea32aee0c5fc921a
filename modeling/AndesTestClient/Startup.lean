import AndesTestClient.Library.Runs
import AndesTestClient.MetricNames
import AndesTestClient.OpenConnections
import AndesTestClient.Reporting
import AndesTestClient.Setup

namespace AndesTestClient

open Imperative Registries RingBuffer

namespace JmsEndpoint

def setUp (environment : Environment) : JmsEndpoint → Prog SetupThrown Setup Unit
  | subscriber .queueReceiver conf => AMQPQueueReceiver.subscribe environment conf
  | subscriber .topicSubscriber conf => AMQPTopicSubscriber.subscribe environment conf
  | subscriber .durableTopicSubscriber conf => AMQPDurableTopicSubscriber.subscribe environment conf
  | publisher .queueSender conf => AMQPQueueSender.init environment conf
  | publisher .topicPublisher conf => AMQPTopicPublisher.init environment conf

def launch (environment : Environment) (e : JmsEndpoint) :
    Prog SetupThrown (Setup × Registries) Unit := do
  within Prod.fst (fun setup x ↦ (setup, x.2)) (e.setUp environment)
  within Prod.snd (fun r x ↦ (x.1, r)) (adapt .thrown e.endpointConfig.construct)

end JmsEndpoint

inductive MainPoint
  | reporting
  | launching
  | joining (n : ℕ)
  | complete
  | failed (t : SetupThrown)
deriving DecidableEq, Repr

/-- `abandoned` are the calls of a set-up whose endpoint has got no thread. -/
structure MainState where
  point : MainPoint := .reporting
  reporters : Reporters := {}
  registries : Registries := {}
  threads : List EndpointThread := []
  abandoned : List SetupCall := []
  hookRegistered : Bool := false

/-- What a run of the program is given: its configuration, what JNDI and JMS answer to each
endpoint, and what each thread meets. -/
structure Startup where
  fuel : ℕ
  tc : TestConfiguration
  settings : ReportSettings
  environment : ℕ → Environment
  surroundings : ℕ → Surroundings

namespace Startup

variable (p : Startup)

def entries : List JmsEndpoint := Main.jmsEndpoints p.tc

def report (s : MainState) : Option MainState :=
  match exec Main.globalMetrics s.registries with
  | some (.ok (), r) =>
    match exec (Main.startStatReporting p.settings) s.reporters with
    | some (.ok (), reporters) => some { s with registries := r, reporters, point := .launching }
    | some (.error t, reporters) =>
      some { s with registries := r, reporters, point := .failed (.thrown t) }
    | none => none
  | _ => none

/-- The exception of a set-up or of a constructor ends `main`, and the endpoint gets no thread. -/
def launchNext (s : MainState) : Option MainState :=
  match p.entries[s.threads.length]? with
  | none => some { s with hookRegistered := true, point := .joining 0 }
  | some e =>
    match exec (e.launch (p.environment s.threads.length)) ({}, s.registries) with
    | some (.ok (), x) => some { s with registries := x.2, threads := s.threads ++ [.started] }
    | some (.error t, x) =>
      some { s with registries := x.2, abandoned := x.1.calls, point := .failed t }
    | none => none

def main (s : MainState) : Option MainState :=
  match s.point with
  | .reporting => p.report s
  | .launching => p.launchNext s
  | .joining n =>
    match s.threads[n]? with
    | some t => if t.hasEnded then some { s with point := .joining (n + 1) } else none
    | none => some { s with point := .complete }
  | .complete => none
  | .failed _ => none

def turn (s : MainState) (i : ℕ) (a : Turn) : Option MainState :=
  p.entries[i]?.bind fun e ↦ s.threads[i]?.bind fun t ↦
    (t.advance p.fuel (p.surroundings i) e a).map fun t' ↦ { s with threads := s.threads.set i t' }

/-- The threads that have been started go on when `main` has failed. -/
def step (s : MainState) : ForkJoin.Action Turn → Option MainState
  | .main => p.main s
  | .thread i a => p.turn s i a

def run (s : MainState) (actions : List (ForkJoin.Action Turn)) : Option MainState :=
  actions.foldlM p.step s

end Startup

namespace JmsEndpoint

def message : JmsEndpoint → String
  | subscriber _ _ => "Subscriber initialisation failed. Subscriber id "
  | publisher _ _ => "Publisher initialisation failed. Publisher id "

def destinationKind : JmsEndpoint → Option String
  | subscriber .queueReceiver _ => some "queue."
  | subscriber .topicSubscriber _ => none
  | subscriber .durableTopicSubscriber _ => some "topic."
  | publisher .queueSender _ => some "queue."
  | publisher .topicPublisher _ => some "topic."

def lastCalls : JmsEndpoint → List SetupCall
  | subscriber .queueReceiver conf =>
    [Setup.subscriberSession conf, .lookup conf.queueName, .createConsumer]
  | subscriber .topicSubscriber conf =>
    [Setup.subscriberSession conf, .createDestination conf.queueName, .createSubscriber]
  | subscriber .durableTopicSubscriber conf =>
    [Setup.subscriberSession conf, .lookup conf.queueName, .createDurableSubscriber conf.subscriptionID]
  | publisher .queueSender conf =>
    [Setup.publisherSession conf, .createDestination conf.queueName, .createSender]
  | publisher .topicPublisher conf =>
    [Setup.publisherSession conf, .lookup conf.queueName, .createPublisher]

theorem setUp_eq (environment : Environment) (e : JmsEndpoint) : e.setUp environment =
    Setup.connect environment e.message e.destinationKind e.lastCalls e.endpointConfig.config := by
  rcases e with ⟨kind, conf⟩ | ⟨kind, conf⟩ <;> cases kind <;> rfl

def calls (e : JmsEndpoint) : List SetupCall :=
  Setup.plan e.endpointConfig.config (Setup.contextProperties e.endpointConfig.config e.destinationKind)
    e.lastCalls

def Connects (environment : Environment) (e : JmsEndpoint) : Prop :=
  Setup.Connects environment e.destinationKind e.lastCalls e.endpointConfig.config

/-- Why an endpoint gets no thread, with the exception and the calls that have returned. A set-up
has failed, or its gauge has a name that is taken. -/
inductive Refused (environment : Environment) (taken : List String) (e : JmsEndpoint) :
    SetupThrown → List SetupCall → Prop
  | setUp {t : SetupThrown} {made : List SetupCall} (h : ¬ e.Connects environment)
    (hfails : Setup.Fails environment e.message e.destinationKind e.lastCalls
      e.endpointConfig.config t made) : Refused environment taken e t made
  | gauge (h : e.Connects environment) (htaken : e.endpointConfig.gaugeName ∈ taken) :
    Refused environment taken e (.thrown .illegalArgumentException) e.calls

variable {environment : Environment} {e : JmsEndpoint} {r : Registries}

theorem launch_outcome (environment : Environment) (e : JmsEndpoint) (hs : Sorted r) :
    (e.Connects environment ∧ e.endpointConfig.gaugeName ∉ r.gauges.names ∧ ∃ x,
      exec (e.launch environment) ({}, r) = some (.ok (), x) ∧ Sorted x.2 ∧
      x.2.gauges.names = r.gauges.names ++ [e.endpointConfig.gaugeName]) ∨
    ∃ t x, exec (e.launch environment) ({}, r) = some (.error t, x) ∧ Sorted x.2 ∧
      x.2.gauges = r.gauges ∧ e.Refused environment r.gauges.names t x.1.calls := by
  rcases Setup.connect_outcome environment e.message e.destinationKind e.lastCalls
    e.endpointConfig.config with ⟨hconnects, setup, hrun, hcalls⟩ | ⟨hnot, t, setup, hrun, hfails⟩
  · rw [← setUp_eq] at hrun
    have hset : exec (within Prod.fst (fun setup x ↦ (setup, x.2)) (e.setUp environment)) ({}, r) =
        some (.ok (), (setup, r)) := exec_within_of hrun
    by_cases htaken : e.endpointConfig.gaugeName ∈ r.gauges.names
    · obtain ⟨r', hconstruct, hs', hg, -⟩ := hs.construct _ (Main.exec_register_taken htaken)
      refine .inr ⟨.thrown .illegalArgumentException, (setup, r'), ?_, hs', hg, ?_⟩
      · rw [launch, exec_bind_ok hset]
        simp [hconstruct]
        rfl
      · rw [hcalls]
        exact .gauge hconnects htaken
    · obtain ⟨r', hconstruct, hs', hg, -⟩ := hs.construct _ (Main.exec_register_new htaken)
      refine .inl ⟨hconnects, htaken, (setup, r'), ?_, hs', ?_⟩
      · rw [launch, exec_bind_ok hset]
        simp [hconstruct]
        rfl
      · rw [hg]
  · rw [← setUp_eq] at hrun
    have hset : exec (within Prod.fst (fun setup x ↦ (setup, x.2)) (e.setUp environment)) ({}, r) =
        some (.error t, (setup, r)) := exec_within_of hrun
    exact .inr ⟨t, (setup, r), exec_bind_error hset, hs, rfl, .setUp hnot hfails⟩

def Unconnected (environment : Environment) (e : JmsEndpoint) : Prop :=
  Setup.Missing e.endpointConfig.config e.destinationKind ∨
    ∃ k ≤ 2, ∃ t, Setup.Stops environment [] e.calls k t

theorem Refused.not_made_iff {taken : List String} {t : SetupThrown} {made : List SetupCall}
    (h : e.Refused environment taken t made) :
    .createConnection ∉ made ↔ e.Unconnected environment := by
  cases h with
  | setUp h hfails =>
    cases hfails with
    | missing hmissing => exact iff_of_true List.not_mem_nil (.inl hmissing)
    | @stopped hpresent k t hstops =>
      rw [Setup.mem_take_plan, Nat.not_lt]
      constructor
      · exact fun hk ↦ .inr ⟨k, hk, t, hstops⟩
      · rintro (hmissing | ⟨j, hj, t', hstops'⟩)
        · exact absurd hmissing hpresent
        · rwa [hstops.index_eq hstops']
  | gauge h htaken =>
    refine iff_of_false (fun hnot ↦ hnot (by simp [calls, Setup.plan])) ?_
    rintro (hmissing | ⟨j, hj, t', hstops⟩)
    · exact h.present hmissing
    · exact h.returns.not_stops hstops

theorem Refused.connects_imp {taken : List String} {t : SetupThrown} {made : List SetupCall}
    (h : e.Refused environment taken t made) (hconnects : e.Connects environment) :
    e.endpointConfig.gaugeName ∈ taken := by
  cases h with
  | setUp hnot => exact absurd hconnects hnot
  | gauge _ htaken => exact htaken

end JmsEndpoint

namespace Startup

variable {p : Startup} {s s' : MainState} {t : SetupThrown} {actions : List (ForkJoin.Action Turn)}

def gaugeNames (p : Startup) (k : ℕ) : List String :=
  (p.entries.take k).map (·.endpointConfig.gaugeName)

structure Startable (p : Startup) (i : ℕ) (e : JmsEndpoint) : Prop where
  connects : e.Connects (p.environment i)
  gauge_new : e.endpointConfig.gaugeName ∉ p.gaugeNames i

/-- Where `main` has failed, and what it has left behind there. -/
inductive Failed (p : Startup) (s : MainState) : SetupThrown → Prop
  | reporting (h : ¬ p.settings.Accepted) (hthreads : s.threads = []) (habandoned : s.abandoned = []) :
    Failed p s (.thrown .illegalArgumentException)
  | endpoint {t : SetupThrown} {e : JmsEndpoint} (h : p.settings.Accepted)
    (he : p.entries[s.threads.length]? = some e)
    (hrefused : e.Refused (p.environment s.threads.length) (p.gaugeNames s.threads.length) t s.abandoned) :
    Failed p s t

structure Reports (p : Startup) (reporters : Reporters) : Prop where
  accepted : p.settings.Accepted
  reporters_eq : reporters = p.settings.reporters

def AtPoint (p : Startup) (s : MainState) : Prop :=
  match s.point with
  | .reporting => s.registries = {} ∧ s.reporters = {} ∧ s.threads = [] ∧ s.abandoned = [] ∧
      s.hookRegistered = false
  | .launching => p.Reports s.reporters ∧ s.abandoned = [] ∧ s.hookRegistered = false
  | .joining _ => p.Reports s.reporters ∧ s.threads.length = p.entries.length ∧ s.abandoned = [] ∧
      s.hookRegistered = true
  | .complete => p.Reports s.reporters ∧ s.threads.length = p.entries.length ∧ s.abandoned = [] ∧
      s.hookRegistered = true
  | .failed t => p.Failed s t ∧ s.hookRegistered = false

structure Inv (p : Startup) (s : MainState) : Prop where
  length_le : s.threads.length ≤ p.entries.length
  startable : ∀ i < s.threads.length, ∀ e : JmsEndpoint, p.entries[i]? = some e → p.Startable i e
  gauges_eq : s.registries.gauges.names = p.gaugeNames s.threads.length
  sorted : Sorted s.registries
  atPoint : p.AtPoint s

theorem init_inv : p.Inv {} where
  length_le := Nat.zero_le _
  startable i hi := absurd hi (Nat.not_lt_zero i)
  gauges_eq := rfl
  sorted := Main.empty_sorted
  atPoint := ⟨rfl, rfl, rfl, rfl, rfl⟩

theorem report_inv (hi : p.Inv s) (hpoint : s.point = .reporting) (hstep : p.report s = some s') :
    p.Inv s' := by
  have hat := hi.atPoint
  simp only [AtPoint, hpoint] at hat
  obtain ⟨hregistries, hreporters, hthreads, habandoned, hhook⟩ := hat
  obtain ⟨r, hglobal, hsorted, hgauges⟩ := Main.exec_globalMetrics
  have hnames : r.gauges.names = p.gaugeNames s.threads.length := by
    rw [hgauges, hthreads]
    rfl
  rw [report, hregistries, hreporters, hglobal] at hstep
  rcases Main.startStatReporting_startsIff p.settings {} (List.nil_subset _) with
    ⟨haccepted, hrun⟩ | ⟨hrefused, reporters, hrun⟩
  · simp only [hrun] at hstep
    cases hstep
    exact ⟨hi.length_le, hi.startable, hnames, hsorted, ⟨haccepted, rfl⟩, habandoned, hhook⟩
  · simp only [hrun] at hstep
    cases hstep
    exact ⟨hi.length_le, hi.startable, hnames, hsorted, .reporting hrefused hthreads habandoned, hhook⟩

theorem launchNext_inv (hi : p.Inv s) (hpoint : s.point = .launching)
    (hstep : p.launchNext s = some s') : p.Inv s' := by
  have hat := hi.atPoint
  simp only [AtPoint, hpoint] at hat
  obtain ⟨hreports, habandoned, hhook⟩ := hat
  rw [launchNext] at hstep
  cases he : p.entries[s.threads.length]? with
  | none =>
    simp only [he] at hstep
    cases hstep
    have hlength := Nat.le_antisymm hi.length_le (List.getElem?_eq_none_iff.mp he)
    exact ⟨hi.length_le, hi.startable, hi.gauges_eq, hi.sorted, hreports, hlength, habandoned, rfl⟩
  | some e =>
    simp only [he] at hstep
    rcases e.launch_outcome (p.environment s.threads.length) hi.sorted with
      ⟨hconnects, hnew, x, hrun, hsorted, hnames⟩ | ⟨t, x, hrun, hsorted, hgauges, hrefused⟩
    · simp only [hrun] at hstep
      cases hstep
      obtain ⟨hlt, -⟩ := List.getElem?_eq_some_iff.mp he
      rw [hi.gauges_eq] at hnew hnames
      refine ⟨?_, ?_, ?_, hsorted, ?_⟩
      · rwa [List.length_append, List.length_singleton]
      · intro i hlt' d hd
        rw [List.length_append, List.length_singleton] at hlt'
        rcases Nat.lt_succ_iff_lt_or_eq.mp hlt' with hlt' | rfl
        · exact hi.startable i hlt' d hd
        · cases he.symm.trans hd
          exact ⟨hconnects, hnew⟩
      · rw [hnames, List.length_append, List.length_singleton, gaugeNames, gaugeNames, List.take_add_one,
          he, List.map_append]
        rfl
      · simp only [AtPoint, hpoint]
        exact ⟨hreports, habandoned, hhook⟩
    · simp only [hrun] at hstep
      cases hstep
      rw [hi.gauges_eq] at hrefused
      exact ⟨hi.length_le, hi.startable, hgauges ▸ hi.gauges_eq, hsorted,
        .endpoint hreports.accepted he hrefused, hhook⟩

theorem main_inv (hi : p.Inv s) (hstep : p.main s = some s') : p.Inv s' := by
  rw [main] at hstep
  cases hpoint : s.point with
  | reporting =>
    simp only [hpoint] at hstep
    exact report_inv hi hpoint hstep
  | launching =>
    simp only [hpoint] at hstep
    exact launchNext_inv hi hpoint hstep
  | joining n =>
    simp only [hpoint] at hstep
    have hat := hi.atPoint
    simp only [AtPoint, hpoint] at hat
    split at hstep
    · split_ifs at hstep
      cases hstep
      exact ⟨hi.length_le, hi.startable, hi.gauges_eq, hi.sorted, hat⟩
    · cases hstep
      exact ⟨hi.length_le, hi.startable, hi.gauges_eq, hi.sorted, hat⟩
  | complete => simp only [hpoint] at hstep; cases hstep
  | failed t => simp only [hpoint] at hstep; cases hstep

theorem turn_threads {i : ℕ} {a : Turn} (hstep : p.turn s i a = some s') :
    ∃ e u u', p.entries[i]? = some e ∧ s.threads[i]? = some u ∧
      u.advance p.fuel (p.surroundings i) e a = some u' ∧
      s' = { s with threads := s.threads.set i u' } := by
  obtain ⟨e, he, hstep⟩ := Option.bind_eq_some_iff.mp hstep
  obtain ⟨u, hu, hstep⟩ := Option.bind_eq_some_iff.mp hstep
  obtain ⟨u', hu', rfl⟩ := Option.map_eq_some_iff.mp hstep
  exact ⟨e, u, u', he, hu, hu', rfl⟩

theorem Failed.congr (h : p.Failed s t) (hlength : s'.threads.length = s.threads.length)
    (habandoned : s'.abandoned = s.abandoned) : p.Failed s' t := by
  cases h with
  | reporting hrefused hthreads hnone =>
    refine .reporting hrefused ?_ (habandoned.trans hnone)
    rw [← List.length_eq_zero_iff, hlength, hthreads]
    rfl
  | endpoint haccepted he hrefused =>
    rw [← hlength] at he hrefused
    exact .endpoint haccepted he (habandoned ▸ hrefused)

theorem turn_inv (hi : p.Inv s) {i : ℕ} {a : Turn} (hstep : p.turn s i a = some s') : p.Inv s' := by
  obtain ⟨e, u, u', he, hu, -, rfl⟩ := turn_threads hstep
  have hlength : (s.threads.set i u').length = s.threads.length := List.length_set
  have hne : s.threads ≠ [] := List.ne_nil_of_mem (List.mem_of_getElem? hu)
  have hat := hi.atPoint
  refine ⟨hlength ▸ hi.length_le, hlength ▸ hi.startable, hlength ▸ hi.gauges_eq, hi.sorted, ?_⟩
  cases hpoint : s.point with
  | reporting =>
    simp only [AtPoint, hpoint] at hat
    exact absurd hat.2.2.1 hne
  | launching =>
    simp only [AtPoint, hpoint] at hat ⊢
    exact hat
  | joining n =>
    simp only [AtPoint, hpoint] at hat ⊢
    exact hlength ▸ hat
  | complete =>
    simp only [AtPoint, hpoint] at hat ⊢
    exact hlength ▸ hat
  | failed t =>
    simp only [AtPoint, hpoint] at hat ⊢
    exact ⟨hat.1.congr hlength rfl, hat.2⟩

theorem step_inv (hi : p.Inv s) {action : ForkJoin.Action Turn} (hstep : p.step s action = some s') :
    p.Inv s' := by
  cases action with
  | main => exact main_inv hi hstep
  | thread i a => exact turn_inv hi hstep

theorem run_inv (hi : p.Inv s) (hrun : p.run s actions = some s') : p.Inv s' :=
  Runs.invariant (fun hi hstep ↦ step_inv hi hstep) hi hrun

theorem launches (hi : p.Inv s) (hpoint : s.point = .launching) :
    ∃ actions s', p.run s actions = some s' ∧ (s'.point = .joining 0 ∨ ∃ t, s'.point = .failed t) := by
  induction hleft : p.entries.length - s.threads.length generalizing s with
  | zero =>
    have hnone : p.entries[s.threads.length]? = none :=
      List.getElem?_eq_none_iff.mpr (Nat.sub_eq_zero_iff_le.mp hleft)
    have hstep : p.step s .main = some { s with hookRegistered := true, point := .joining 0 } := by
      simp only [step, main, hpoint, launchNext, hnone]
    exact ⟨[.main], _, Runs.single hstep, .inl rfl⟩
  | succ n ih =>
    have hlt : s.threads.length < p.entries.length := by omega
    obtain ⟨e, he⟩ : ∃ e, p.entries[s.threads.length]? = some e := ⟨_, List.getElem?_eq_getElem hlt⟩
    rcases e.launch_outcome (p.environment s.threads.length) hi.sorted with
      ⟨-, -, x, hrun, -⟩ | ⟨t, x, hrun, -⟩
    · let s₁ : MainState :=
        { s with point := .launching, registries := x.2, threads := s.threads ++ [.started] }
      have hstep : p.step s .main = some s₁ := by
        simp only [step, main, hpoint, launchNext, he, hrun, s₁]
      have hleft₁ : p.entries.length - s₁.threads.length = n := by
        simp only [s₁, List.length_append, List.length_singleton]
        omega
      obtain ⟨actions, s', hrest, hend⟩ := ih (step_inv hi hstep) rfl hleft₁
      exact ⟨.main :: actions, s', Runs.cons hstep hrest, hend⟩
    · have hstep : p.step s .main =
          some { s with registries := x.2, abandoned := x.1.calls, point := .failed t } := by
        simp only [step, main, hpoint, launchNext, he, hrun]
      exact ⟨[.main], _, Runs.single hstep, .inr ⟨t, rfl⟩⟩

theorem comes_to_joins_or_failure (p : Startup) :
    ∃ actions s, p.run {} actions = some s ∧ (s.point = .joining 0 ∨ ∃ t, s.point = .failed t) := by
  obtain ⟨r, hglobal, -⟩ := Main.exec_globalMetrics
  rcases Main.startStatReporting_startsIff p.settings {} (List.nil_subset _) with
    ⟨-, hrun⟩ | ⟨-, reporters, hrun⟩
  · have hstep : p.step {} .main = some
        { registries := r, reporters := .append {} p.settings.reporters, point := .launching } := by
      simp only [step, main, report, hglobal, hrun]
    obtain ⟨actions, s, hrest, hend⟩ := launches (step_inv init_inv hstep) rfl
    exact ⟨.main :: actions, s, Runs.cons hstep hrest, hend⟩
  · have hstep : p.step {} .main = some
        { registries := r, reporters, point := .failed (.thrown .illegalArgumentException) } := by
      simp only [step, main, report, hglobal, hrun]
    exact ⟨[.main], _, Runs.single hstep, .inr ⟨_, rfl⟩⟩

structure Starts (p : Startup) : Prop where
  accepted : p.settings.Accepted
  connects : ∀ (i : ℕ) (e : JmsEndpoint), p.entries[i]? = some e → e.Connects (p.environment i)
  nodup : (p.entries.map (·.endpointConfig.gaugeName)).Nodup

theorem nodup_map_iff {α β : Type} {f : α → β} {list : List α} :
    (list.map f).Nodup ↔ ∀ (k : ℕ) (a : α), list[k]? = some a → f a ∉ (list.take k).map f := by
  rw [List.nodup_iff_pairwise_ne, List.pairwise_map, List.pairwise_iff_getElem]
  constructor
  · intro h k a ha hmem
    obtain ⟨hk, rfl⟩ := List.getElem?_eq_some_iff.mp ha
    obtain ⟨b, hb, hname⟩ := List.mem_map.mp hmem
    obtain ⟨j, hj, rfl⟩ := List.mem_take_iff_getElem.mp hb
    exact h j k (by omega) hk (by omega) hname
  · intro h i j hi hj hij hname
    refine h j _ (List.getElem?_eq_getElem hj) (List.mem_map.mpr ⟨_, ?_, hname⟩)
    exact List.mem_take_iff_getElem.mpr ⟨i, by omega, rfl⟩

theorem Failed.not_starts (h : p.Failed s t) : ¬ p.Starts := by
  intro hstarts
  cases h with
  | reporting hrefused => exact hrefused hstarts.accepted
  | @endpoint _ e _ he hrefused =>
    exact nodup_map_iff.mp hstarts.nodup _ e he (hrefused.connects_imp (hstarts.connects _ e he))

theorem Inv.starts (hi : p.Inv s) (haccepted : p.settings.Accepted)
    (hlength : s.threads.length = p.entries.length) : p.Starts := by
  have hall : ∀ (i : ℕ) (e : JmsEndpoint), p.entries[i]? = some e → p.Startable i e := by
    intro i e he
    obtain ⟨hlt, -⟩ := List.getElem?_eq_some_iff.mp he
    exact hi.startable i (hlength ▸ hlt) e he
  exact ⟨haccepted, fun i e he ↦ (hall i e he).connects,
    nodup_map_iff.mpr fun i e he ↦ (hall i e he).gauge_new⟩

/-- In some run `main` comes to its joins exactly when it can start everything, and in some run it
fails exactly when it cannot. What the started threads do meanwhile makes no difference. -/
theorem joins_iff_starts (p : Startup) :
    ((∃ actions s n, p.run {} actions = some s ∧ s.point = .joining n) ↔ p.Starts) ∧
    ((∃ actions s t, p.run {} actions = some s ∧ s.point = .failed t) ↔ ¬ p.Starts) := by
  have hstarts : ∀ actions s n, p.run {} actions = some s → s.point = .joining n → p.Starts := by
    intro actions s n hrun hpoint
    have hi := run_inv init_inv hrun
    have hat := hi.atPoint
    simp only [AtPoint, hpoint] at hat
    exact hi.starts hat.1.accepted hat.2.1
  have hfails : ∀ actions s t, p.run {} actions = some s → s.point = .failed t → ¬ p.Starts := by
    intro actions s t hrun hpoint
    have hat := (run_inv init_inv hrun).atPoint
    simp only [AtPoint, hpoint] at hat
    exact hat.1.not_starts
  obtain ⟨actions, s, hrun, hend⟩ := comes_to_joins_or_failure p
  constructor
  · constructor
    · rintro ⟨actions, s, n, hrun, hpoint⟩
      exact hstarts actions s n hrun hpoint
    · intro h
      rcases hend with hpoint | ⟨t, hpoint⟩
      · exact ⟨actions, s, 0, hrun, hpoint⟩
      · exact absurd h (hfails actions s t hrun hpoint)
  · constructor
    · rintro ⟨actions, s, t, hrun, hpoint⟩
      exact hfails actions s t hrun hpoint
    · intro h
      rcases hend with hpoint | ⟨t, hpoint⟩
      · exact absurd (hstarts actions s 0 hrun hpoint) h
      · exact ⟨actions, s, t, hrun, hpoint⟩

def TrackedThreads (p : Startup) (s : MainState) : Prop :=
  ∀ (i : ℕ) (e : JmsEndpoint) (u : EndpointThread), p.entries[i]? = some e → s.threads[i]? = some u →
    u.Tracked p.fuel (p.surroundings i) e

theorem main_threads (hstep : p.main s = some s') :
    s'.threads = s.threads ∨ s'.threads = s.threads ++ [.started] := by
  rw [main] at hstep
  split at hstep
  · rw [report] at hstep
    split at hstep
    · split at hstep <;> cases hstep <;> exact .inl rfl
    · cases hstep
  · rw [launchNext] at hstep
    split at hstep
    · cases hstep
      exact .inl rfl
    · split at hstep <;> cases hstep
      · exact .inr rfl
      · exact .inl rfl
  · split at hstep
    · split_ifs at hstep
      cases hstep
      exact .inl rfl
    · cases hstep
      exact .inl rfl
  · cases hstep
  · cases hstep

/-- No thread is interrupted, and no counter wraps. -/
structure Undisturbed (p : Startup) : Prop where
  uninterrupted : ∀ i, (p.surroundings i).thread.Uninterrupted
  count_lt : ∀ e ∈ p.entries, e.endpointConfig.config.messageCount.toInt < 2 ^ 31 - 1
  count_lt_fuel : ∀ e ∈ p.entries, e.endpointConfig.config.messageCount.toInt.toNat < p.fuel

theorem step_tracked (hp : p.Undisturbed) (ht : p.TrackedThreads s) {action : ForkJoin.Action Turn}
    (hstep : p.step s action = some s') : p.TrackedThreads s' := by
  intro i e u he hget
  cases action with
  | main =>
    rcases main_threads hstep with hthreads | hthreads
    · rw [hthreads] at hget
      exact ht i e u he hget
    · rw [hthreads, List.getElem?_append] at hget
      split_ifs at hget
      · exact ht i e u he hget
      · rw [List.mem_singleton.mp (List.mem_of_getElem? hget)]
        trivial
  | thread j a =>
    obtain ⟨d, v, v', hd, hv, hadvance, rfl⟩ := turn_threads hstep
    by_cases hij : j = i
    · subst hij
      obtain ⟨hlt, -⟩ := List.getElem?_eq_some_iff.mp hv
      rw [List.getElem?_set_self hlt] at hget
      cases hd.symm.trans he
      cases hget
      have hmem := List.mem_of_getElem? he
      exact EndpointThread.advance_tracked (hp.uninterrupted j) (hp.count_lt e hmem)
        (hp.count_lt_fuel e hmem) (ht j e v he hv) hadvance
    · rw [List.getElem?_set_ne hij] at hget
      exact ht i e u he hget

theorem run_tracked (hp : p.Undisturbed) (ht : p.TrackedThreads s) (hrun : p.run s actions = some s') :
    p.TrackedThreads s' :=
  Runs.invariant (fun ht hstep ↦ step_tracked hp ht hstep) ht hrun

theorem failed_stays (hpoint : s.point = .failed t) (hrun : p.run s actions = some s') :
    s'.point = .failed t ∧ s'.abandoned = s.abandoned ∧ s'.threads.length = s.threads.length ∧
      s'.hookRegistered = s.hookRegistered := by
  apply Runs.invariant (P := fun s₁ ↦ s₁.point = .failed t ∧ s₁.abandoned = s.abandoned ∧
    s₁.threads.length = s.threads.length ∧ s₁.hookRegistered = s.hookRegistered) ?_
    ⟨hpoint, rfl, rfl, rfl⟩ hrun
  intro s₁ action s₂ h hstep
  obtain ⟨hfailed, habandoned, hlength, hhook⟩ := h
  cases action with
  | main => simp [step, main, hfailed] at hstep
  | thread i a =>
    obtain ⟨-, -, u', -, -, -, rfl⟩ := turn_threads hstep
    exact ⟨hfailed, habandoned, List.length_set.trans hlength, hhook⟩

theorem Failed.not_made_iff (h : p.Failed s t) : .createConnection ∉ s.abandoned ↔
    ¬ p.settings.Accepted ∨ ∃ e, p.entries[s.threads.length]? = some e ∧
      e.Unconnected (p.environment s.threads.length) := by
  cases h with
  | reporting hrefused _ hnone =>
    rw [hnone]
    exact iff_of_true List.not_mem_nil (.inl hrefused)
  | @endpoint _ e haccepted he hrefused =>
    rw [hrefused.not_made_iff]
    constructor
    · exact fun h ↦ .inr ⟨e, he, h⟩
    · rintro (h | ⟨d, hd, h⟩)
      · exact absurd haccepted h
      · cases he.symm.trans hd
        exact h

/-- When `main` fails, the threads are those of the endpoints before the one it fails at. No further
one is ever started, the hook that would interrupt them is not registered, and nobody closes the
connection that the failed set-up may have made: once the threads have ended, all connections are
closed exactly when each thread has got to a `close` that closes its own and the set-up has failed
before it made one. -/
theorem failed_startup (hp : p.Undisturbed) (hrun : p.run {} actions = some s)
    (hpoint : s.point = .failed t) :
    p.Failed s t ∧ s.hookRegistered = false ∧
    (∀ i < s.threads.length, ∀ e, p.entries[i]? = some e → p.Startable i e) ∧
    (∀ actions' s', p.run s actions' = some s' → s'.point = .failed t ∧
      s'.abandoned = s.abandoned ∧ s'.threads.length = s.threads.length ∧ s'.hookRegistered = false) ∧
    ((∀ u ∈ s.threads, u.hasEnded = true) →
      ((∀ u ∈ s.threads, u.connectionOpen = false) ∧ .createConnection ∉ s.abandoned ↔
        (∀ i < s.threads.length, ∀ e, p.entries[i]? = some e →
          e.Completes (p.surroundings i) ∧ e.ClosesConnection) ∧
        (¬ p.settings.Accepted ∨ ∃ e, p.entries[s.threads.length]? = some e ∧
          e.Unconnected (p.environment s.threads.length)))) := by
  have hi := run_inv init_inv hrun
  have hat := hi.atPoint
  simp only [AtPoint, hpoint] at hat
  obtain ⟨hfailed, hhook⟩ := hat
  refine ⟨hfailed, hhook, hi.startable, fun actions' s' hrun' ↦ ?_, fun hended ↦ ?_⟩
  · obtain ⟨hpoint', habandoned, hlength, hhook'⟩ := failed_stays hpoint hrun'
    exact ⟨hpoint', habandoned, hlength, hhook'.trans hhook⟩
  · have htracked : p.TrackedThreads s :=
      run_tracked hp (fun i e u _ hget ↦ by simp at hget) hrun
    have hthread : ∀ i < s.threads.length, ∀ e, p.entries[i]? = some e → ∃ u, s.threads[i]? = some u ∧
        (u.connectionOpen = false ↔ e.Completes (p.surroundings i) ∧ e.ClosesConnection) := by
      intro i hlt e he
      have hget := List.getElem?_eq_getElem hlt
      have hu := htracked i e _ he hget
      have hend := hended _ (List.mem_of_getElem? hget)
      revert hget hu hend
      generalize s.threads[i] = u
      intro hget hu hend
      cases u with
      | ended c => exact ⟨_, hget, hu⟩
      | started => cases hend
      | handing messages s => cases hend
    refine and_congr ⟨fun hclosed i hlt e he ↦ ?_, fun h u hmem ↦ ?_⟩ hfailed.not_made_iff
    · obtain ⟨u, hget, hiff⟩ := hthread i hlt e he
      exact hiff.mp (hclosed u (List.mem_of_getElem? hget))
    · obtain ⟨i, hget⟩ := List.getElem?_of_mem hmem
      obtain ⟨hlt, -⟩ := List.getElem?_eq_some_iff.mp hget
      have he := List.getElem?_eq_getElem (Nat.lt_of_lt_of_le hlt hi.length_le)
      obtain ⟨u', hget', hiff⟩ := hthread i hlt _ he
      cases hget.symm.trans hget'
      exact hiff.mpr (h i hlt _ he)

def oneMessage : PubSubConfig :=
  { queueName := some "q"
    initialContextFactory := some "f"
    connectionFactoryName := some "c"
    messageCount := 1 }

/-- A subscriber that takes its message, and a publisher that gets a connection and no session. -/
def noSession : Startup where
  fuel := 2
  tc :=
    { queueSubscribers := [{ oneMessage with id := some "a" }]
      queuePublishers := [{ oneMessage with id := some "b" }] }
  settings := { csvGaugeUpdateInterval := 1000 }
  environment i _ c := if i = 1 ∧ c = .createSession false AUTO_ACKNOWLEDGE then .raises else .returns
  surroundings _ := { incoming := fun _ ↦ { body := .text (some "m") } }

theorem failed_startup_noSession :
    ∃ s, noSession.run {} [.main, .main, .main, .thread 0 .producer] = some s ∧
      let t := .thrown (.atcException "Publisher initialisation failed. Publisher id b")
      noSession.Failed s t ∧ s.hookRegistered = false ∧
      (∀ i < s.threads.length, ∀ e, noSession.entries[i]? = some e → noSession.Startable i e) ∧
      (∀ actions' s', noSession.run s actions' = some s' → s'.point = .failed t ∧
        s'.abandoned = s.abandoned ∧ s'.threads.length = s.threads.length ∧
        s'.hookRegistered = false) ∧
      ((∀ u ∈ s.threads, u.hasEnded = true) →
        ((∀ u ∈ s.threads, u.connectionOpen = false) ∧ .createConnection ∉ s.abandoned ↔
          (∀ i < s.threads.length, ∀ e, noSession.entries[i]? = some e →
            e.Completes (noSession.surroundings i) ∧ e.ClosesConnection) ∧
          (¬ noSession.settings.Accepted ∨ ∃ e, noSession.entries[s.threads.length]? = some e ∧
            e.Unconnected (noSession.environment s.threads.length)))) := by
  have hruns : (noSession.run {} [.main, .main, .main, .thread 0 .producer]).map MainState.point =
      some (.failed (.thrown (.atcException "Publisher initialisation failed. Publisher id b"))) := by
    decide +kernel
  obtain ⟨s, hs, hpoint⟩ := Option.map_eq_some_iff.mp hruns
  have hp : noSession.Undisturbed := ⟨fun _ ↦ ⟨rfl, by simp [noSession]⟩, by decide, by decide⟩
  exact ⟨s, hs, failed_startup hp hs hpoint⟩

end Startup

end AndesTestClient
