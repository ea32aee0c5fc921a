import AndesTestClient.Config

namespace AndesTestClient

open Imperative

structure MetricRegistry where
  names : List String := []
deriving DecidableEq, Repr

namespace MetricRegistry

def append (builder : String) : Option String → String
  | none => builder
  | some part => if part = "" then builder else if builder = "" then part else builder ++ "." ++ part

def name (first : String) (names : List (Option String)) : String :=
  names.foldl append (append "" (some first))

/-- A name that is already taken is refused. -/
def register (name : String) : Java MetricRegistry Unit :=
  step fun registry ↦
    if name ∈ registry.names then (.error .illegalArgumentException, registry)
    else (.ok (), { names := registry.names ++ [name] })

end MetricRegistry

def ConsumerThread.gaugeName (conf : PubSubConfig) : String :=
  MetricRegistry.name "org.atc.ConsumerThread" [conf.id, some "receiving-stats"]

def PublisherThread.gaugeName (conf : PubSubConfig) : String :=
  MetricRegistry.name "Publisher"
    [conf.queueName, some ("publisher id " ++ concatenated conf.id), some "gauge"]

inductive EndpointConfig
  | subscriber (conf : SubscriberConfig)
  | publisher (conf : PublisherConfig)
deriving DecidableEq, Repr

namespace EndpointConfig

def config : EndpointConfig → PubSubConfig
  | subscriber conf => conf.toPubSubConfig
  | publisher conf => conf.toPubSubConfig

def gaugeName : EndpointConfig → String
  | subscriber conf => ConsumerThread.gaugeName conf.toPubSubConfig
  | publisher conf => PublisherThread.gaugeName conf.toPubSubConfig

end EndpointConfig

namespace Main

variable (accepts : EndpointConfig → Bool)

/-- `subscribe`, which fails when the broker does not accept the subscriber, and the constructor
of its thread. -/
def startSubscriber (conf : SubscriberConfig) : Java MetricRegistry Unit := do
  if !accepts (.subscriber conf) then
    throw (.atcException ("Subscriber initialisation failed. Subscriber id " ++ concatenated conf.id))
  MetricRegistry.register (ConsumerThread.gaugeName conf.toPubSubConfig)

def startPublisher (conf : PublisherConfig) : Java MetricRegistry Unit := do
  if !accepts (.publisher conf) then
    throw (.atcException ("Publisher initialisation failed. Publisher id " ++ concatenated conf.id))
  MetricRegistry.register (PublisherThread.gaugeName conf.toPubSubConfig)

/-- The five loops of `main`, with `GAUGES` as the state. -/
def startEndpoints (tc : TestConfiguration) : Java MetricRegistry Unit := do
  forM tc.topicSubscribers (startSubscriber accepts)
  forM tc.queueSubscribers (startSubscriber accepts)
  forM tc.durableTopicSubscribers (startSubscriber accepts)
  forM tc.topicPublishers (startPublisher accepts)
  forM tc.queuePublishers (startPublisher accepts)

def endpoints (tc : TestConfiguration) : List EndpointConfig :=
  tc.topicSubscribers.map .subscriber ++ tc.queueSubscribers.map .subscriber ++
    tc.durableTopicSubscribers.map .subscriber ++ tc.topicPublishers.map .publisher ++
    tc.queuePublishers.map .publisher

def start : EndpointConfig → Java MetricRegistry Unit
  | .subscriber conf => startSubscriber accepts conf
  | .publisher conf => startPublisher accepts conf

theorem startEndpoints_eq (tc : TestConfiguration) :
    startEndpoints accepts tc = forM (endpoints tc) (start accepts) := by
  simp only [startEndpoints, endpoints, List.forM_append, List.forM_map, start, bind_assoc]

variable {accepts} {e : EndpointConfig}

theorem exec_start_refused (h : accepts e = false) (registry : MetricRegistry) :
    ∃ message, exec (start accepts e) registry =
      some (.error (.atcException message), registry) := by
  cases e <;> exact ⟨_, by simp [start, startSubscriber, startPublisher, h]; rfl⟩

theorem exec_start_accepted (h : accepts e = true) (registry : MetricRegistry) :
    exec (start accepts e) registry = exec (MetricRegistry.register e.gaugeName) registry := by
  cases e <;> simp [start, startSubscriber, startPublisher, h, EndpointConfig.gaugeName]

variable {registry : MetricRegistry}

theorem exec_register_new {n : String} (h : n ∉ registry.names) :
    exec (MetricRegistry.register n) registry =
      some (.ok (), { names := registry.names ++ [n] }) := by
  simp [MetricRegistry.register, h]

theorem exec_register_taken {n : String} (h : n ∈ registry.names) :
    exec (MetricRegistry.register n) registry =
      some (.error .illegalArgumentException, registry) := by
  simp [MetricRegistry.register, h]

def NeverRaises (p : Java MetricRegistry Unit) : MetricRegistry → Prop :=
  Ends p fun r _ ↦ r ≠ .error .illegalArgumentException

theorem neverRaises_forM (accepts : EndpointConfig → Bool) {list : List EndpointConfig}
    (hnodup : (list.map (·.gaugeName)).Nodup)
    (hnew : ∀ e ∈ list, e.gaugeName ∉ registry.names) :
    NeverRaises (forM list (start accepts)) registry := by
  induction list generalizing registry with
  | nil => simp [NeverRaises]
  | cons e list ih =>
    rw [List.map_cons, List.nodup_cons] at hnodup
    rw [List.forM_cons]
    cases haccepts : accepts e with
    | false =>
      obtain ⟨message, hrun⟩ := exec_start_refused haccepts registry
      exact ⟨_, _, exec_bind_error hrun, by simp⟩
    | true =>
      have hrun := exec_start_accepted haccepts registry
      rw [exec_register_new (hnew e List.mem_cons_self)] at hrun
      have hrest : ∀ d ∈ list, d.gaugeName ∉ registry.names ++ [e.gaugeName] := by
        intro d hd hmem
        rcases List.mem_append.mp hmem with hmem | hmem
        · exact hnew d (List.mem_cons_of_mem e hd) hmem
        · exact hnodup.1 (List.mem_singleton.mp hmem ▸ List.mem_map_of_mem hd)
      obtain ⟨r, registry', hrest, hr⟩ := ih hnodup.2 hrest
      exact ⟨r, registry', (exec_bind_ok hrun).trans hrest, hr⟩

theorem nodup_of_neverRaises {list : List EndpointConfig}
    (h : NeverRaises (forM list (start fun _ ↦ true)) registry) :
    (list.map (·.gaugeName)).Nodup ∧ ∀ e ∈ list, e.gaugeName ∉ registry.names := by
  induction list generalizing registry with
  | nil => simp
  | cons e list ih =>
    obtain ⟨r, registry', hrun, hr⟩ := h
    rw [List.forM_cons] at hrun
    have hstart : exec (start (fun _ ↦ true) e) registry = _ := exec_start_accepted rfl registry
    have he : e.gaugeName ∉ registry.names := by
      intro hmem
      rw [exec_register_taken hmem] at hstart
      rw [exec_bind_error hstart] at hrun
      cases hrun
      exact hr rfl
    rw [exec_register_new he] at hstart
    rw [exec_bind_ok hstart] at hrun
    obtain ⟨hnodup, hnew⟩ := ih ⟨r, registry', hrun, hr⟩
    refine ⟨?_, fun d hd ↦ ?_⟩
    · rw [List.map_cons, List.nodup_cons]
      refine ⟨fun hmem ↦ ?_, hnodup⟩
      obtain ⟨d, hd, hde⟩ := List.mem_map.mp hmem
      exact hnew d hd (by simp [hde])
    · rcases List.mem_cons.mp hd with rfl | hd
      · exact he
      · exact fun hmem ↦ hnew d hd (List.mem_append_left _ hmem)

theorem neverRaises_iff (tc : TestConfiguration) :
    (∀ accepts, NeverRaises (startEndpoints accepts tc) {}) ↔
      ((endpoints tc).map (·.gaugeName)).Nodup := by
  simp only [startEndpoints_eq]
  exact ⟨fun h ↦ (nodup_of_neverRaises (h _)).1, fun h accepts ↦ neverRaises_forM accepts h (by simp)⟩

end Main

end AndesTestClient
