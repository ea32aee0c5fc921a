import AndesTestClient.Gauges

namespace AndesTestClient

open ConfigReader Imperative

inductive MetricType
  | histogram
  | meter
deriving DecidableEq, Repr

/-- `Main.METRICS` and `Main.GAUGES`. A metric is known by its name: who asks for a name twice is
given the same object. -/
structure Registries where
  metrics : List (String × MetricType) := []
  gauges : MetricRegistry := {}
deriving DecidableEq, Repr

namespace Registries

/-- `MetricRegistry.getOrAdd`. A name that is taken by a metric of another type is refused. -/
def getOrAdd (type : MetricType) (name : String) : Java Registries Unit :=
  step fun r ↦
    match r.metrics.find? (·.1 = name) with
    | none => (.ok (), { r with metrics := r.metrics ++ [(name, type)] })
    | some metric =>
      if metric.2 = type then (.ok (), r) else (.error .illegalArgumentException, r)

def histogram (name : String) : Java Registries Unit := getOrAdd .histogram name

def meter (name : String) : Java Registries Unit := getOrAdd .meter name

def onGauges {α : Type} (p : Java MetricRegistry α) : Java Registries α :=
  within gauges (fun g r ↦ { r with gauges := g }) p

end Registries

open Registries

namespace ConsumerThread

def latencyName (conf : PubSubConfig) : String :=
  MetricRegistry.name "consumer"
    [conf.queueName, some ("consumer id " ++ concatenated conf.id), some "latency"]

def rateName (conf : PubSubConfig) : String :=
  MetricRegistry.name "consumer"
    [conf.queueName, some ("consumer id " ++ concatenated conf.id), some "rate"]

def construct (conf : PubSubConfig) : Java Registries Unit := do
  histogram (latencyName conf)
  meter (rateName conf)
  onGauges (MetricRegistry.register (gaugeName conf))

end ConsumerThread

namespace PublisherThread

def meterName (conf : PubSubConfig) : String :=
  MetricRegistry.name "publisher"
    [conf.queueName, some ("publisher id " ++ concatenated conf.id), some "meter"]

def construct (conf : PubSubConfig) : Java Registries Unit := do
  meter (meterName conf)
  onGauges (MetricRegistry.register (gaugeName conf))

end PublisherThread

namespace EndpointConfig

def construct : EndpointConfig → Java Registries Unit
  | subscriber conf => ConsumerThread.construct conf.toPubSubConfig
  | publisher conf => PublisherThread.construct conf.toPubSubConfig

def metricNames : EndpointConfig → List (String × MetricType)
  | subscriber conf => [(ConsumerThread.latencyName conf.toPubSubConfig, .histogram),
      (ConsumerThread.rateName conf.toPubSubConfig, .meter)]
  | publisher conf => [(PublisherThread.meterName conf.toPubSubConfig, .meter)]

end EndpointConfig

namespace Main

def globalMetrics : Java Registries Unit := do
  histogram (MetricRegistry.name "global" [some "consumer", some "latency"])
  meter (MetricRegistry.name "global" [some "consumer", some "rate"])

def refusal : EndpointConfig → Thrown
  | .subscriber conf =>
    .atcException ("Subscriber initialisation failed. Subscriber id " ++ concatenated conf.id)
  | .publisher conf =>
    .atcException ("Publisher initialisation failed. Publisher id " ++ concatenated conf.id)

def startThread (accepts : EndpointConfig → Bool) (e : EndpointConfig) : Java Registries Unit := do
  if !accepts e then throw (refusal e)
  e.construct

def startThreads (accepts : EndpointConfig → Bool) (tc : TestConfiguration) : Java Registries Unit := do
  globalMetrics
  forM (endpoints tc) (startThread accepts)

end Main

namespace MetricRegistry

theorem name_concat {first part : String} (hfirst : first ≠ "") (hpart : part ≠ "")
    (parts : List (Option String)) :
    name first (parts ++ [some part]) = name first parts ++ "." ++ part := by
  have hne : ∀ (parts : List (Option String)) {builder : String}, builder ≠ "" →
      parts.foldl append builder ≠ "" := by
    intro parts
    induction parts with
    | nil => exact fun h ↦ h
    | cons p parts ih => exact fun h ↦ ih (append_ne_empty h p)
  have hstart : append "" (some first) ≠ "" := by
    rw [append, if_neg hfirst, if_pos rfl]
    exact hfirst
  rw [name, List.foldl_append]
  exact append_part (hne parts hstart) hpart

end MetricRegistry

/-- The last two letters of a name, by which the kinds of metrics and gauges are told apart. -/
def ending (name : String) : List Char := name.toList.reverse.take 2

def endings : MetricType → List (List Char)
  | .histogram => [ending ".latency"]
  | .meter => [ending ".rate", ending ".meter"]

def gaugeEndings : List (List Char) := [ending ".receiving-stats", ending ".gauge"]

theorem ending_append (x : String) {suffix : String} (h : 2 ≤ suffix.toList.length) :
    ending (x ++ suffix) = ending suffix := by
  rw [ending, String.toList_append, List.reverse_append, ending]
  exact List.take_append_of_le_length (by rwa [List.length_reverse])

theorem ending_name {first part : String} (hfirst : first ≠ "") (hpart : part ≠ "")
    (hlength : 2 ≤ ("." ++ part).toList.length) (parts : List (Option String)) :
    ending (MetricRegistry.name first (parts ++ [some part])) = ending ("." ++ part) := by
  rw [MetricRegistry.name_concat hfirst hpart, String.append_assoc]
  exact ending_append _ hlength

theorem endings_inj {type type' : MetricType} {letters : List Char} (h : letters ∈ endings type)
    (h' : letters ∈ endings type') : type = type' := by
  have hapart : ∀ l ∈ endings .histogram, l ∉ endings .meter := by decide
  cases type <;> cases type'
  · rfl
  · exact absurd h' (hapart _ h)
  · exact absurd h (hapart _ h')
  · rfl

theorem endings_gauge {type : MetricType} : ∀ l ∈ endings type, l ∉ gaugeEndings := by
  cases type <;> decide

theorem ending_metricNames (e : EndpointConfig) : ∀ m ∈ e.metricNames, ending m.1 ∈ endings m.2 := by
  have hconsumer : "consumer" ≠ "" := by decide
  cases e with
  | subscriber conf =>
    intro m hm
    rcases List.mem_cons.mp hm with rfl | hm
    · have hname : ending (ConsumerThread.latencyName conf.toPubSubConfig) = ending ".latency" :=
        ending_name hconsumer (by decide) (by decide) [_, _]
      rw [hname]
      exact List.mem_cons_self
    · rw [List.mem_singleton.mp hm]
      have hname : ending (ConsumerThread.rateName conf.toPubSubConfig) = ending ".rate" :=
        ending_name hconsumer (by decide) (by decide) [_, _]
      rw [hname]
      exact List.mem_cons_self
  | publisher conf =>
    intro m hm
    rw [List.mem_singleton.mp hm]
    have hname : ending (PublisherThread.meterName conf.toPubSubConfig) = ending ".meter" :=
      ending_name (by decide) (by decide) (by decide) [_, _]
    rw [hname]
    exact List.mem_cons_of_mem _ List.mem_cons_self

theorem ending_gaugeName (e : EndpointConfig) : ending e.gaugeName ∈ gaugeEndings := by
  cases e with
  | subscriber conf =>
    have hname : ending (ConsumerThread.gaugeName conf.toPubSubConfig) = ending ".receiving-stats" :=
      ending_name (by decide) (by decide) (by decide) [_]
    rw [EndpointConfig.gaugeName, hname]
    exact List.mem_cons_self
  | publisher conf =>
    have hname : ending (PublisherThread.gaugeName conf.toPubSubConfig) = ending ".gauge" :=
      ending_name (by decide) (by decide) (by decide) [_, _]
    rw [EndpointConfig.gaugeName, hname]
    exact List.mem_cons_of_mem _ List.mem_cons_self

theorem threadName_eq {first marker last : String} (hfirst : first ≠ "") (hmarker : marker ≠ "")
    (hlast : last ≠ "") (c : PubSubConfig) :
    MetricRegistry.name first [c.queueName, some (marker ++ concatenated c.id), some last] =
      first ++ "." ++ queuePart c.queueName ++ marker ++ concatenated c.id ++ "." ++ last := by
  have hstart : MetricRegistry.append "" (some first) = first := by
    rw [MetricRegistry.append, if_neg hfirst, if_pos rfl]
  have hqueue : MetricRegistry.append first c.queueName ≠ "" :=
    MetricRegistry.append_ne_empty hfirst _
  rw [MetricRegistry.name, List.foldl_cons, List.foldl_cons, List.foldl_cons, List.foldl_nil, hstart,
    MetricRegistry.append_part (MetricRegistry.append_ne_empty hqueue _) hlast,
    MetricRegistry.append_part hqueue (by simp [hmarker]), append_queueName hfirst]
  simp [String.append_assoc]

def ownPart (marker : String) (c : PubSubConfig) : String :=
  queuePart c.queueName ++ marker ++ concatenated c.id

theorem threadName_inj (first marker last : String) (hfirst : first ≠ "") (hmarker : marker ≠ "")
    (hlast : last ≠ "") (c d : PubSubConfig) :
    MetricRegistry.name first [c.queueName, some (marker ++ concatenated c.id), some last] =
        MetricRegistry.name first [d.queueName, some (marker ++ concatenated d.id), some last] ↔
      ownPart marker c = ownPart marker d := by
  have hsplit : ∀ c : PubSubConfig, first ++ "." ++ queuePart c.queueName ++ marker ++
      concatenated c.id ++ "." ++ last = first ++ "." ++ ownPart marker c ++ "." ++ last := by
    intro c
    simp [ownPart, String.append_assoc]
  rw [threadName_eq hfirst hmarker hlast, threadName_eq hfirst hmarker hlast, hsplit, hsplit]
  constructor
  · intro h
    have hl := congrArg String.toList h
    simp only [String.toList_append, List.append_cancel_right_eq, List.append_assoc,
      List.append_cancel_left_eq] at hl
    exact String.toList_inj.mp hl
  · exact fun h ↦ by rw [h]

theorem meter_eq_iff_gauge_eq (c d : PubSubConfig) :
    PublisherThread.meterName c = PublisherThread.meterName d ↔
      PublisherThread.gaugeName c = PublisherThread.gaugeName d := by
  have hmeter := threadName_inj "publisher" "publisher id " "meter"
    (by decide) (by decide) (by decide) c d
  have hgauge := threadName_inj "Publisher" "publisher id " "gauge"
    (by decide) (by decide) (by decide) c d
  exact hmeter.trans hgauge.symm

theorem latency_eq_iff_rate_eq (c d : PubSubConfig) :
    ConsumerThread.latencyName c = ConsumerThread.latencyName d ↔
      ConsumerThread.rateName c = ConsumerThread.rateName d := by
  have hlatency := threadName_inj "consumer" "consumer id " "latency"
    (by decide) (by decide) (by decide) c d
  have hrate := threadName_inj "consumer" "consumer id " "rate"
    (by decide) (by decide) (by decide) c d
  exact hlatency.trans hrate.symm

def LatenciesMeet (c d : PubSubConfig) : Prop :=
  ∃ x, c.id = some (x ++ "." ++ "consumer id " ++ concatenated d.id) ∧
    d.queueName = some (queuePart c.queueName ++ "consumer id " ++ x)

theorem LatenciesMeet.ownPart_eq {c d : PubSubConfig} (h : LatenciesMeet c d) :
    ownPart "consumer id " c = ownPart "consumer id " d := by
  obtain ⟨x, hid, hqueue⟩ := h
  have hpart : queuePart d.queueName = queuePart c.queueName ++ "consumer id " ++ x ++ "." := by
    rw [hqueue, queuePart]
    simp [isEmpty, concatenated]
  rw [ownPart, ownPart, hpart, hid]
  simp [concatenated, String.append_assoc]

theorem latency_eq_iff {c d : PubSubConfig} (hc : isEmpty c.id = false) (hd : isEmpty d.id = false)
    (hne : c.id ≠ d.id) :
    ConsumerThread.latencyName c = ConsumerThread.latencyName d ↔
      LatenciesMeet c d ∨ LatenciesMeet d c := by
  have hlatency := threadName_inj "consumer" "consumer id " "latency" (by decide) (by decide)
    (by decide) c d
  refine hlatency.trans ⟨fun h ↦ ?_, fun h ↦ ?_⟩
  · have hl := congrArg String.toList h
    simp only [ownPart, String.toList_append] at hl
    have hmarker : 'c' ∉ "onsumer id ".toList := by decide
    rcases Delimited.marker_cases hmarker hl with
      ⟨-, hid⟩ | ⟨ws, hid, hqueue⟩ | ⟨ws, hid, hqueue⟩
    · refine absurd ?_ hne
      rw [(id_eq_some hc).1, (id_eq_some hd).1, String.toList_inj.mp hid]
    · exact .inl (meet_of_split "consumer id" hc hid hqueue)
    · exact .inr (meet_of_split "consumer id" hd hid hqueue)
  · rcases h with h | h
    · exact h.ownPart_eq
    · exact h.ownPart_eq.symm

namespace Registries

structure Sorted (r : Registries) : Prop where
  metrics : ∀ m ∈ r.metrics, ending m.1 ∈ endings m.2
  gauges : ∀ n ∈ r.gauges.names, ending n ∈ gaugeEndings
  nodup : (r.metrics.map Prod.fst).Nodup

variable {r r' : Registries} {name : String} {type : MetricType}

theorem Sorted.gauge_new (hs : Sorted r) {m : String × MetricType} (hm : m ∈ r.metrics) :
    m.1 ∉ r.gauges.names :=
  fun h ↦ endings_gauge _ (hs.metrics m hm) (hs.gauges _ h)

structure Granted (r : Registries) (m : String × MetricType) (r' : Registries) : Prop where
  sorted : Sorted r'
  gauges_eq : r'.gauges = r.gauges
  mem : m ∈ r'.metrics
  subset : r.metrics ⊆ r'.metrics

theorem Sorted.getOrAdd (hs : Sorted r) (hname : ending name ∈ endings type) :
    ∃ r', exec (getOrAdd type name) r = some (.ok (), r') ∧ Granted r (name, type) r' := by
  cases hfind : r.metrics.find? (·.1 = name) with
  | none =>
    have hnew : ∀ m ∈ r.metrics, m.1 ≠ name := by simpa using List.find?_eq_none.mp hfind
    refine ⟨{ r with metrics := r.metrics ++ [(name, type)] }, ?_, ⟨?_, hs.gauges, ?_⟩, rfl, ?_, ?_⟩
    · simp [Registries.getOrAdd, hfind]
    · intro m hm
      rcases List.mem_append.mp hm with hm | hm
      · exact hs.metrics m hm
      · rw [List.mem_singleton.mp hm]
        exact hname
    · rw [List.map_append, List.nodup_append]
      refine ⟨hs.nodup, List.nodup_singleton _, ?_⟩
      intro n hn n' hn' heq
      obtain ⟨m, hm, rfl⟩ := List.mem_map.mp hn
      exact hnew m hm (heq.trans (List.mem_singleton.mp hn'))
    · exact List.mem_append_right _ List.mem_cons_self
    · exact List.subset_append_left _ _
  | some m =>
    have hm := List.mem_of_find?_eq_some hfind
    have hmname : m.1 = name := by simpa using List.find?_some hfind
    have htype : m.2 = type := endings_inj (hs.metrics m hm) (hmname ▸ hname)
    have hmem : (name, type) ∈ r.metrics := by
      rw [← hmname, ← htype]
      exact hm
    exact ⟨r, by simp [Registries.getOrAdd, hfind, htype], hs, rfl, hmem, List.Subset.refl _⟩

theorem Sorted.register (hs : Sorted r) (hname : ending name ∈ gaugeEndings) {g : MetricRegistry}
    {a : Except Thrown Unit} (hrun : exec (MetricRegistry.register name) r.gauges = some (a, g)) :
    exec (onGauges (MetricRegistry.register name)) r = some (a, { r with gauges := g }) ∧
      Sorted { r with gauges := g } := by
  refine ⟨exec_within_of hrun, hs.metrics, ?_, hs.nodup⟩
  rw [MetricRegistry.register, exec_step] at hrun
  split_ifs at hrun with htaken
  · cases hrun
    exact hs.gauges
  · cases hrun
    intro n hn
    rcases List.mem_append.mp hn with hn | hn
    · exact hs.gauges n hn
    · rw [List.mem_singleton.mp hn]
      exact hname

theorem Sorted.construct (hs : Sorted r) (e : EndpointConfig) {g : MetricRegistry}
    {a : Except Thrown Unit} (hrun : exec (MetricRegistry.register e.gaugeName) r.gauges = some (a, g)) :
    ∃ r', exec e.construct r = some (a, r') ∧ Sorted r' ∧ r'.gauges = g ∧
      e.metricNames ⊆ r'.metrics ∧ r.metrics ⊆ r'.metrics := by
  have hnames := ending_metricNames e
  have hgauge := ending_gaugeName e
  cases e with
  | subscriber conf =>
    obtain ⟨r₁, hlatency, h₁⟩ := hs.getOrAdd (hnames _ List.mem_cons_self)
    obtain ⟨r₂, hrate, h₂⟩ := h₁.sorted.getOrAdd (hnames _ (List.mem_cons_of_mem _ List.mem_cons_self))
    rw [← h₁.gauges_eq, ← h₂.gauges_eq] at hrun
    obtain ⟨hregister, h₃⟩ := h₂.sorted.register hgauge hrun
    refine ⟨{ r₂ with gauges := g }, ?_, h₃, rfl, ?_, List.Subset.trans h₁.subset h₂.subset⟩
    · rw [EndpointConfig.construct, ConsumerThread.construct, histogram, exec_bind_ok hlatency, meter,
        exec_bind_ok hrate]
      exact hregister
    · intro m hm
      rcases List.mem_cons.mp hm with rfl | hm
      · exact h₂.subset h₁.mem
      · rw [List.mem_singleton.mp hm]
        exact h₂.mem
  | publisher conf =>
    obtain ⟨r₁, hmeter, h₁⟩ := hs.getOrAdd (hnames _ List.mem_cons_self)
    rw [← h₁.gauges_eq] at hrun
    obtain ⟨hregister, h₂⟩ := h₁.sorted.register hgauge hrun
    refine ⟨{ r₁ with gauges := g }, ?_, h₂, rfl, ?_, h₁.subset⟩
    · rw [EndpointConfig.construct, PublisherThread.construct, meter, exec_bind_ok hmeter]
      exact hregister
    · intro m hm
      rw [List.mem_singleton.mp hm]
      exact h₁.mem

end Registries

namespace Main

variable {accepts : EndpointConfig → Bool} {r : Registries} {list : List EndpointConfig}

theorem exec_startThread (hs : Sorted r) (e : EndpointConfig) {g : MetricRegistry}
    {a : Except Thrown Unit} (hrun : exec (start accepts e) r.gauges = some (a, g)) :
    ∃ r', exec (startThread accepts e) r = some (a, r') ∧ Sorted r' ∧ r'.gauges = g ∧
      (a = .ok () → e.metricNames ⊆ r'.metrics) ∧ r.metrics ⊆ r'.metrics := by
  cases haccepts : accepts e with
  | false =>
    have hrefused : exec (start accepts e) r.gauges = some (.error (refusal e), r.gauges) := by
      cases e <;> simp [start, startSubscriber, startPublisher, haccepts, refusal]
    cases hrefused.symm.trans hrun
    refine ⟨r, ?_, hs, rfl, ?_, List.Subset.refl _⟩
    · simp [startThread, haccepts]
    · intro ha
      cases ha
  | true =>
    rw [exec_start_accepted haccepts] at hrun
    obtain ⟨r', hconstruct, hs', hg, hnames, hsubset⟩ := hs.construct e hrun
    refine ⟨r', ?_, hs', hg, fun _ ↦ hnames, hsubset⟩
    simp [startThread, haccepts, hconstruct]

theorem start_ends (accepts : EndpointConfig → Bool) (e : EndpointConfig) (registry : MetricRegistry) :
    ∃ a g, exec (start accepts e) registry = some (a, g) := by
  cases haccepts : accepts e with
  | false =>
    obtain ⟨message, hrefused⟩ := exec_start_refused haccepts registry
    exact ⟨_, _, hrefused⟩
  | true =>
    rw [exec_start_accepted haccepts, MetricRegistry.register, exec_step]
    exact ⟨_, _, rfl⟩

theorem starts_end (accepts : EndpointConfig → Bool) (list : List EndpointConfig) (registry : MetricRegistry) :
    ∃ a g, exec (forM list (start accepts)) registry = some (a, g) := by
  induction list generalizing registry with
  | nil => exact ⟨_, _, rfl⟩
  | cons e list ih =>
    rw [List.forM_cons]
    obtain ⟨a, g, hfirst⟩ := start_ends accepts e registry
    cases a with
    | error t => exact ⟨_, _, exec_bind_error hfirst⟩
    | ok u =>
      rw [exec_bind_ok hfirst]
      exact ih g

theorem exec_startThreads (hs : Sorted r) {g : MetricRegistry} {a : Except Thrown Unit}
    (hrun : exec (forM list (start accepts)) r.gauges = some (a, g)) :
    ∃ r', exec (forM list (startThread accepts)) r = some (a, r') ∧ Sorted r' ∧ r'.gauges = g ∧
      (a = .ok () → ∀ e ∈ list, e.metricNames ⊆ r'.metrics) ∧ r.metrics ⊆ r'.metrics := by
  induction list generalizing r with
  | nil =>
    cases hrun
    exact ⟨r, rfl, hs, rfl, fun _ e he ↦ absurd he List.not_mem_nil, List.Subset.refl _⟩
  | cons e list ih =>
    rw [List.forM_cons] at hrun ⊢
    obtain ⟨a₁, g₁, hfirst⟩ := start_ends accepts e r.gauges
    obtain ⟨r₁, hthread, hs₁, hg₁, hnames, hsubset⟩ := exec_startThread hs e hfirst
    cases a₁ with
    | error t =>
      rw [exec_bind_error hfirst] at hrun
      cases hrun
      exact ⟨r₁, exec_bind_error hthread, hs₁, hg₁, nofun, hsubset⟩
    | ok u =>
      rw [exec_bind_ok hfirst, ← hg₁] at hrun
      obtain ⟨r', hrest, hs', hg, hall, hsubset'⟩ := ih hs₁ hrun
      refine ⟨r', (exec_bind_ok hthread).trans hrest, hs', hg, ?_, List.Subset.trans hsubset hsubset'⟩
      intro ha d hd
      rcases List.mem_cons.mp hd with rfl | hd
      · exact List.Subset.trans (hnames rfl) hsubset'
      · exact hall ha d hd

theorem nodup_of_started {registry g : MetricRegistry}
    (hrun : exec (forM list (start accepts)) registry = some (.ok (), g)) :
    (list.map (·.gaugeName)).Nodup := by
  suffices h : (list.map (·.gaugeName)).Nodup ∧ ∀ e ∈ list, e.gaugeName ∉ registry.names from h.1
  induction list generalizing registry with
  | nil => simp
  | cons e list ih =>
    rw [List.forM_cons] at hrun
    have haccepts : accepts e = true := by
      by_contra h
      obtain ⟨message, hrefused⟩ := exec_start_refused (Bool.not_eq_true _ ▸ h) registry
      rw [exec_bind_error hrefused] at hrun
      cases hrun
    have hfirst := exec_start_accepted haccepts registry
    by_cases htaken : e.gaugeName ∈ registry.names
    · rw [exec_register_taken htaken] at hfirst
      rw [exec_bind_error hfirst] at hrun
      cases hrun
    · rw [exec_register_new htaken] at hfirst
      rw [exec_bind_ok hfirst] at hrun
      obtain ⟨hnodup, hnew⟩ := ih hrun
      refine ⟨List.nodup_cons.mpr ⟨fun hmem ↦ ?_, hnodup⟩, fun d hd ↦ ?_⟩
      · obtain ⟨d, hd, hname⟩ := List.mem_map.mp hmem
        exact hnew d hd (hname ▸ List.mem_append_right _ List.mem_cons_self)
      · rcases List.mem_cons.mp hd with rfl | hd
        · exact htaken
        · exact fun h ↦ hnew d hd (List.mem_append_left _ h)

theorem empty_sorted : Sorted {} := ⟨by simp, by simp, List.nodup_nil⟩

theorem exec_globalMetrics : ∃ r, exec globalMetrics {} = some (.ok (), r) ∧ Sorted r ∧
    r.gauges = {} := by
  have hhistogram : ending (MetricRegistry.name "global" [some "consumer", some "latency"]) ∈
      endings .histogram := by decide
  have hmeter : ending (MetricRegistry.name "global" [some "consumer", some "rate"]) ∈
      endings .meter := by decide
  obtain ⟨r₁, hlatency, h₁⟩ := empty_sorted.getOrAdd hhistogram
  obtain ⟨r₂, hrate, h₂⟩ := h₁.sorted.getOrAdd hmeter
  refine ⟨r₂, ?_, h₂.sorted, h₂.gauges_eq.trans h₁.gauges_eq⟩
  rw [globalMetrics, histogram, exec_bind_ok hlatency]
  exact hrate

theorem startThreads_gauges (accepts : EndpointConfig → Bool) (tc : TestConfiguration) :
    ∃ a r, exec (startThreads accepts tc) {} = some (a, r) ∧
      exec (startEndpoints accepts tc) {} = some (a, r.gauges) ∧ Sorted r ∧
      (a = .ok () → ∀ e ∈ endpoints tc, e.metricNames ⊆ r.metrics) := by
  obtain ⟨r₀, hglobal, hs, hgauges⟩ := exec_globalMetrics
  obtain ⟨a, g, hrun⟩ := starts_end accepts (endpoints tc) r₀.gauges
  obtain ⟨r, hthreads, hs', rfl, hnames, -⟩ := exec_startThreads hs hrun
  refine ⟨a, r, ?_, ?_, hs', hnames⟩
  · rw [startThreads, exec_bind_ok hglobal]
    exact hthreads
  · rw [startEndpoints_eq, ← hgauges]
    exact hrun

/-- `METRICS` refuses nothing, so that `main` starts its threads and stops where the gauges alone
make it stop. No metric has the name of a gauge, though both registries are reported into files of
one directory, and no two publishers that have been started count into one meter. -/
theorem startThreads_metrics (accepts : EndpointConfig → Bool) (tc : TestConfiguration) :
    ∃ a r, exec (startThreads accepts tc) {} = some (a, r) ∧
      exec (startEndpoints accepts tc) {} = some (a, r.gauges) ∧
      (r.metrics.map Prod.fst).Nodup ∧ (∀ m ∈ r.metrics, m.1 ∉ r.gauges.names) ∧
      (a = .ok () → (∀ e ∈ endpoints tc, e.metricNames ⊆ r.metrics) ∧
        ((tc.topicPublishers ++ tc.queuePublishers).map
          (PublisherThread.meterName ·.toPubSubConfig)).Nodup) := by
  obtain ⟨a, r, hthreads, hstart, hs, hnames⟩ := startThreads_gauges accepts tc
  refine ⟨a, r, hthreads, hstart, hs.nodup, fun m hm ↦ hs.gauge_new hm, fun ha ↦ ⟨hnames ha, ?_⟩⟩
  rw [startEndpoints_eq, ha] at hstart
  have hpublishers : ((tc.topicPublishers ++ tc.queuePublishers).map .publisher).Sublist
      (endpoints tc) := by
    rw [List.map_append, endpoints, List.append_assoc]
    exact List.sublist_append_right _ _
  have hnodup := (hpublishers.map _).nodup (nodup_of_started hstart)
  rw [List.map_map] at hnodup
  rw [List.nodup_iff_pairwise_ne, List.pairwise_map] at hnodup ⊢
  exact hnodup.imp fun hne heq ↦ hne ((meter_eq_iff_gauge_eq _ _).mp heq)

def subscribers (tc : TestConfiguration) : List SubscriberConfig :=
  tc.topicSubscribers ++ tc.queueSubscribers ++ tc.durableTopicSubscribers

/-- Two consumers that have been started record into one histogram exactly when they count into one
meter, and that is when a queue name and an id meet; nothing refuses it. -/
theorem histograms_shared_iff {accepts : EndpointConfig → Bool} {tc : TestConfiguration}
    {r : Registries} (hids : ∀ c ∈ subscribers tc, isEmpty c.id = false)
    (hrun : exec (startThreads accepts tc) {} = some (.ok (), r)) :
    (subscribers tc).Pairwise fun c d ↦
      (ConsumerThread.latencyName c.toPubSubConfig = ConsumerThread.latencyName d.toPubSubConfig ↔
        LatenciesMeet c.toPubSubConfig d.toPubSubConfig ∨
        LatenciesMeet d.toPubSubConfig c.toPubSubConfig) ∧
      (ConsumerThread.rateName c.toPubSubConfig = ConsumerThread.rateName d.toPubSubConfig ↔
        ConsumerThread.latencyName c.toPubSubConfig = ConsumerThread.latencyName d.toPubSubConfig) := by
  obtain ⟨a, r', hthreads, hstart, -⟩ := startThreads_gauges accepts tc
  cases hrun.symm.trans hthreads
  rw [startEndpoints_eq] at hstart
  have hsubscribers : ((subscribers tc).map .subscriber).Sublist (endpoints tc) := by
    rw [endpoints, List.append_assoc, subscribers, List.map_append, List.map_append]
    exact List.sublist_append_left _ _
  have hnodup := (hsubscribers.map _).nodup (nodup_of_started hstart)
  rw [List.map_map, List.nodup_iff_pairwise_ne, List.pairwise_map] at hnodup
  refine hnodup.imp_of_mem fun {c d} hc hd hne ↦ ⟨?_, (latency_eq_iff_rate_eq _ _).symm⟩
  refine latency_eq_iff (hids c hc) (hids d hd) fun hid ↦ hne ?_
  change ConsumerThread.gaugeName c.toPubSubConfig = ConsumerThread.gaugeName d.toPubSubConfig
  rw [ConsumerThread.gaugeName, ConsumerThread.gaugeName, hid]

/-- The queue `q` with the id `x.consumer id b`, and the queue `q.consumer id x` with the id `b`. -/
def meetingHistograms : TestConfiguration :=
  { queueSubscribers :=
      [{ id := some "x.consumer id b", queueName := some "q" },
        { id := some "b", queueName := some "q.consumer id x" }] }

theorem histograms_shared_pair : ∃ r,
    exec (startThreads (fun _ ↦ true) meetingHistograms) {} = some (.ok (), r) ∧
    (subscribers meetingHistograms).Pairwise fun c d ↦
      (ConsumerThread.latencyName c.toPubSubConfig = ConsumerThread.latencyName d.toPubSubConfig ↔
        LatenciesMeet c.toPubSubConfig d.toPubSubConfig ∨
        LatenciesMeet d.toPubSubConfig c.toPubSubConfig) ∧
      (ConsumerThread.rateName c.toPubSubConfig = ConsumerThread.rateName d.toPubSubConfig ↔
        ConsumerThread.latencyName c.toPubSubConfig =
          ConsumerThread.latencyName d.toPubSubConfig) := by
  have hstarted : (exec (startThreads (fun _ ↦ true) meetingHistograms) {}).map Prod.fst =
      some (.ok ()) := by decide +kernel
  obtain ⟨⟨a, r⟩, hrun, ha⟩ := Option.map_eq_some_iff.mp hstarted
  cases ha
  exact ⟨r, hrun, histograms_shared_iff (by decide) hrun⟩

end Main

end AndesTestClient
