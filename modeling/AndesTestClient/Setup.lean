import AndesTestClient.SimpleConsumer

namespace AndesTestClient

open Imperative

inductive SetupCall
  | initialContext (properties : List (String × String))
  | lookup (name : Option String)
  | createConnection
  | start
  | createSession (transacted : Bool) (acknowledgeMode : ℕ)
  | createDestination (name : Option String)
  | createSender
  | createPublisher
  | createConsumer
  | createSubscriber
  | createDurableSubscriber (name : Option String)
deriving DecidableEq, Repr

/-- How a call ends: with the exception it declares, with one it does not, or with neither. -/
inductive Answer
  | returns
  | raises
  | raisesUnchecked
deriving DecidableEq, Repr

/-- What a call is answered may depend on all calls before it. -/
abbrev Environment := List SetupCall → SetupCall → Answer

inductive SetupThrown
  | jmsException
  | namingException
  | runtimeException
  | thrown (t : Thrown)
deriving DecidableEq, Repr

structure Setup where
  properties : List (String × String) := []
  calls : List SetupCall := []
deriving DecidableEq, Repr

def INITIAL_CONTEXT_FACTORY : String := "java.naming.factory.initial"

def AUTO_ACKNOWLEDGE : ℕ := 1

def CLIENT_ACKNOWLEDGE : ℕ := 2

namespace SetupCall

def exception : SetupCall → SetupThrown
  | initialContext _ => .namingException
  | lookup _ => .namingException
  | _ => .jmsException

end SetupCall

namespace Setup

def insert (key value : String) (properties : List (String × String)) : List (String × String) :=
  properties.filter (fun p ↦ p.1 ≠ key) ++ [(key, value)]

def put (key : String) : Option String → Prog SetupThrown Setup Unit
  | some value => update fun s ↦ { s with properties := insert key value s.properties }
  | none => throw (.thrown .nullPointerException)

/-- What the call throws, if anything. `InitialContext.lookup` looks for a scheme in the name before
it does anything else, and that raises at a null. -/
def raised (environment : Environment) (done : List SetupCall) (c : SetupCall) : Option SetupThrown :=
  if c = .lookup none then some (.thrown .nullPointerException)
  else match environment done c with
    | .returns => none
    | .raises => some c.exception
    | .raisesUnchecked => some .runtimeException

def call (environment : Environment) (c : SetupCall) : Prog SetupThrown Setup Unit :=
  step fun s ↦
    match raised environment s.calls c with
    | none => (.ok (), { s with calls := s.calls ++ [c] })
    | some t => (.error t, s)

/-- The properties of the context. All classes but one name their destination there. -/
def putAll (kind : Option String) (conf : PubSubConfig) : Prog SetupThrown Setup Unit := do
  put INITIAL_CONTEXT_FACTORY conf.initialContextFactory
  put (concatenated conf.connectionFactoryPrefix ++ "." ++ concatenated conf.connectionFactoryName)
    (some conf.getTCPConnectionURL)
  match kind with
  | some kind => put (kind ++ concatenated conf.queueName) conf.queueName
  | none => pure ()

def plan (conf : PubSubConfig) (properties : List (String × String)) (last : List SetupCall) :
    List SetupCall :=
  [.initialContext properties, .lookup conf.connectionFactoryName, .createConnection, .start] ++ last

/-- The catch clause, for a `JMSException` alone. -/
def caught (message : String) (conf : PubSubConfig) : SetupThrown → SetupThrown
  | .jmsException => .thrown (.atcException (message ++ concatenated conf.id))
  | t => t

def connect (environment : Environment) (message : String) (kind : Option String)
    (last : List SetupCall) (conf : PubSubConfig) : Prog SetupThrown Setup Unit :=
  tryCatch
    (do
      putAll kind conf
      let properties ← observe Setup.properties
      forM (plan conf properties last) (call environment))
    fun t ↦ throw (caught message conf t)

def publisherSession (conf : PublisherConfig) : SetupCall :=
  if conf.isTransactional then .createSession true 0 else .createSession false AUTO_ACKNOWLEDGE

def subscriberSession (conf : SubscriberConfig) : SetupCall :=
  if conf.enableClientAcknowledgment then .createSession false CLIENT_ACKNOWLEDGE
  else if conf.isTransactional then .createSession true AUTO_ACKNOWLEDGE
  else .createSession false AUTO_ACKNOWLEDGE

end Setup

open Setup

def AMQPQueueSender.init (environment : Environment) (conf : PublisherConfig) :
    Prog SetupThrown Setup Unit :=
  connect environment "Publisher initialisation failed. Publisher id " (some "queue.")
    [publisherSession conf, .createDestination conf.queueName, .createSender] conf.toPubSubConfig

def AMQPTopicPublisher.init (environment : Environment) (conf : PublisherConfig) :
    Prog SetupThrown Setup Unit :=
  connect environment "Publisher initialisation failed. Publisher id " (some "topic.")
    [publisherSession conf, .lookup conf.queueName, .createPublisher] conf.toPubSubConfig

def AMQPQueueReceiver.subscribe (environment : Environment) (conf : SubscriberConfig) :
    Prog SetupThrown Setup Unit :=
  connect environment "Subscriber initialisation failed. Subscriber id " (some "queue.")
    [subscriberSession conf, .lookup conf.queueName, .createConsumer] conf.toPubSubConfig

/-- The one class whose context does not know its destination. -/
def AMQPTopicSubscriber.subscribe (environment : Environment) (conf : SubscriberConfig) :
    Prog SetupThrown Setup Unit :=
  connect environment "Subscriber initialisation failed. Subscriber id " none
    [subscriberSession conf, .createDestination conf.queueName, .createSubscriber] conf.toPubSubConfig

def AMQPDurableTopicSubscriber.subscribe (environment : Environment) (conf : SubscriberConfig) :
    Prog SetupThrown Setup Unit :=
  connect environment "Subscriber initialisation failed. Subscriber id " (some "topic.")
    [subscriberSession conf, .lookup conf.queueName, .createDurableSubscriber conf.subscriptionID]
    conf.toPubSubConfig

namespace Setup

variable {environment : Environment} {message : String} {kind : Option String}
  {last list : List SetupCall} {conf : PubSubConfig} {s : Setup}

def Returns (environment : Environment) (done list : List SetupCall) : Prop :=
  ∀ (k : ℕ) (c : SetupCall), list[k]? = some c → raised environment (done ++ list.take k) c = none

/-- The first `k` calls of `list` return, and the next one throws `t`. -/
structure Stops (environment : Environment) (done list : List SetupCall) (k : ℕ) (t : SetupThrown) :
    Prop where
  returns : Returns environment done (list.take k)
  raises : ∃ c, list[k]? = some c ∧ raised environment (done ++ list.take k) c = some t

theorem returns_cons {done : List SetupCall} {c : SetupCall} :
    Returns environment done (c :: list) ↔
      raised environment done c = none ∧ Returns environment (done ++ [c]) list := by
  constructor
  · intro h
    refine ⟨by simpa using h 0 c rfl, fun k d hd ↦ ?_⟩
    simpa using h (k + 1) d hd
  · rintro ⟨hc, hlist⟩ k d hd
    cases k with
    | zero =>
      cases hd
      simpa using hc
    | succ k => simpa using hlist k d hd

theorem Stops.cons {done : List SetupCall} {c : SetupCall} {k : ℕ} {t : SetupThrown}
    (hc : raised environment done c = none) (h : Stops environment (done ++ [c]) list k t) :
    Stops environment done (c :: list) (k + 1) t := by
  obtain ⟨hreturns, d, hd, ht⟩ := h
  refine ⟨?_, d, hd, ?_⟩
  · rw [List.take_succ_cons]
    exact returns_cons.mpr ⟨hc, hreturns⟩
  · simpa using ht

theorem Returns.not_stops {done : List SetupCall} {k : ℕ} {t : SetupThrown}
    (h : Returns environment done list) : ¬ Stops environment done list k t := by
  rintro ⟨-, c, hc, ht⟩
  cases (h k c hc).symm.trans ht

theorem Stops.returns_le {done : List SetupCall} {j k : ℕ} {t t' : SetupThrown}
    (h : Stops environment done list j t) (h' : Stops environment done list k t') : j ≤ k := by
  by_contra hlt
  have hlt := Nat.lt_of_not_le hlt
  obtain ⟨-, c, hc, ht⟩ := h'
  have hreturns := h.returns k c (by rwa [List.getElem?_take_of_lt hlt])
  rw [List.take_take, Nat.min_eq_left hlt.le] at hreturns
  cases hreturns.symm.trans ht

theorem Stops.index_eq {done : List SetupCall} {j k : ℕ} {t t' : SetupThrown}
    (h : Stops environment done list j t) (h' : Stops environment done list k t') : j = k :=
  Nat.le_antisymm (h.returns_le h') (h'.returns_le h)

theorem raised_lookup_none (environment : Environment) (done : List SetupCall) :
    raised environment done (.lookup none) = some (.thrown .nullPointerException) := if_pos rfl

theorem raised_of_present {done : List SetupCall} {c : SetupCall} (hc : c ≠ .lookup none)
    (hanswer : environment done c = .returns) : raised environment done c = none := by
  rw [raised, if_neg hc, hanswer]

theorem returns_of_present {done : List SetupCall} (hlist : .lookup none ∉ list) :
    Returns (fun _ _ ↦ .returns) done list := by
  intro k c hc
  refine raised_of_present ?_ rfl
  rintro rfl
  exact hlist (List.mem_of_getElem? hc)

theorem exec_calls (environment : Environment) (list : List SetupCall) (s : Setup) :
    (Returns environment s.calls list ∧
      exec (forM list (call environment)) s =
        some (.ok (), { s with calls := s.calls ++ list })) ∨
    ∃ k t, Stops environment s.calls list k t ∧
      exec (forM list (call environment)) s =
        some (.error t, { s with calls := s.calls ++ list.take k }) := by
  induction list generalizing s with
  | nil => exact .inl ⟨fun k c h ↦ by simp at h, by simp⟩
  | cons c list ih =>
    rw [List.forM_cons]
    cases hraised : raised environment s.calls c with
    | none =>
      have hcall : exec (call environment c) s = some (.ok (), { s with calls := s.calls ++ [c] }) := by
        simp [call, hraised]
      rw [exec_bind_ok hcall]
      rcases ih { s with calls := s.calls ++ [c] } with ⟨hreturns, hrun⟩ | ⟨k, t, hstops, hrun⟩
      · exact .inl ⟨returns_cons.mpr ⟨hraised, hreturns⟩, by rw [hrun]; simp⟩
      · exact .inr ⟨k + 1, t, hstops.cons hraised, by rw [hrun]; simp⟩
    | some t =>
      have hcall : exec (call environment c) s = some (.error t, s) := by
        simp [call, hraised]
      refine .inr ⟨0, t, ⟨fun k d h ↦ by simp at h, c, rfl, ?_⟩, ?_⟩
      · simpa using hraised
      · rw [exec_bind_error hcall]
        simp

def Missing (conf : PubSubConfig) (kind : Option String) : Prop :=
  conf.initialContextFactory = none ∨ kind ≠ none ∧ conf.queueName = none

def contextProperties (conf : PubSubConfig) (kind : Option String) : List (String × String) :=
  let properties := insert
    (concatenated conf.connectionFactoryPrefix ++ "." ++ concatenated conf.connectionFactoryName)
    conf.getTCPConnectionURL
    (insert INITIAL_CONTEXT_FACTORY (concatenated conf.initialContextFactory) [])
  match kind with
  | some kind => insert (kind ++ concatenated conf.queueName) (concatenated conf.queueName) properties
  | none => properties

structure Connects (environment : Environment) (kind : Option String) (last : List SetupCall)
    (conf : PubSubConfig) : Prop where
  present : ¬ Missing conf kind
  returns : Returns environment [] (plan conf (contextProperties conf kind) last)

inductive Fails (environment : Environment) (message : String) (kind : Option String)
    (last : List SetupCall) (conf : PubSubConfig) : SetupThrown → List SetupCall → Prop
  | missing (h : Missing conf kind) :
    Fails environment message kind last conf (.thrown .nullPointerException) []
  | stopped (h : ¬ Missing conf kind) {k : ℕ} {t : SetupThrown}
    (hstops : Stops environment [] (plan conf (contextProperties conf kind) last) k t) :
    Fails environment message kind last conf (caught message conf t)
      ((plan conf (contextProperties conf kind) last).take k)

theorem exec_putAll_missing (h : Missing conf kind) : ∃ s,
    exec (putAll kind conf) {} = some (.error (.thrown .nullPointerException), s) ∧ s.calls = [] := by
  cases hfactory : conf.initialContextFactory with
  | none => exact ⟨{}, by simp [putAll, hfactory, put], rfl⟩
  | some factory =>
    obtain ⟨hkind, hqueue⟩ := h.resolve_left (by simp [hfactory])
    obtain ⟨kind, rfl⟩ := Option.ne_none_iff_exists'.mp hkind
    exact ⟨_, by simp [putAll, hfactory, hqueue, put, exec_bind]; rfl, rfl⟩

theorem exec_putAll (h : ¬ Missing conf kind) :
    exec (putAll kind conf) {} = some (.ok (), { properties := contextProperties conf kind }) := by
  obtain ⟨hfactory, hqueue⟩ := not_or.mp h
  obtain ⟨factory, hfactory⟩ := Option.ne_none_iff_exists'.mp hfactory
  cases kind with
  | none => simp [putAll, hfactory, put, exec_bind, contextProperties, concatenated]
  | some kind =>
    obtain ⟨queueName, hqueue⟩ := Option.ne_none_iff_exists'.mp fun h ↦ hqueue ⟨by simp, h⟩
    simp [putAll, hfactory, hqueue, put, exec_bind, contextProperties, concatenated]

theorem connect_outcome (environment : Environment) (message : String) (kind : Option String)
    (last : List SetupCall) (conf : PubSubConfig) :
    (Connects environment kind last conf ∧ ∃ s,
      exec (connect environment message kind last conf) {} = some (.ok (), s) ∧
      s.calls = plan conf (contextProperties conf kind) last) ∨
    (¬ Connects environment kind last conf ∧ ∃ t s,
      exec (connect environment message kind last conf) {} = some (.error t, s) ∧
      Fails environment message kind last conf t s.calls) := by
  by_cases hmissing : Missing conf kind
  · obtain ⟨s, hput, hcalls⟩ := exec_putAll_missing hmissing
    refine .inr ⟨fun h ↦ h.present hmissing, .thrown .nullPointerException, s, ?_, ?_⟩
    · rw [connect, exec_tryCatch, exec_bind_error hput]
      rfl
    · rw [hcalls]
      exact .missing hmissing
  · have hput := exec_putAll hmissing
    let s₀ : Setup := { properties := contextProperties conf kind }
    have hbody : exec (do
        putAll kind conf
        let properties ← observe Setup.properties
        forM (plan conf properties last) (call environment)) {} =
        exec (forM (plan conf s₀.properties last) (call environment)) s₀ :=
      (exec_bind_ok hput).trans (exec_bind_ok (exec_observe _ _))
    rcases exec_calls environment (plan conf (contextProperties conf kind) last) s₀ with
      ⟨hreturns, hrun⟩ | ⟨k, t, hstops, hrun⟩
    · exact .inl ⟨⟨hmissing, hreturns⟩, _, exec_tryCatch_ok (hbody.trans hrun), rfl⟩
    · exact .inr ⟨fun h ↦ h.returns.not_stops hstops, caught message conf t, _,
        exec_tryCatch_error (hbody.trans hrun), .stopped hmissing hstops⟩

/-- Whatever has failed, the connection has been made when its call is among those that have
returned, and that is the third. -/
theorem mem_take_plan {properties : List (String × String)} {k : ℕ} :
    .createConnection ∈ (plan conf properties last).take k ↔ 2 < k := by
  constructor
  · intro h
    by_contra hk
    have hfirst : .createConnection ∈ (plan conf properties last).take 2 :=
      List.take_subset_take_left _ (Nat.le_of_not_lt hk) h
    simp [plan] at hfirst
  · intro hk
    have hthree : .createConnection ∈ (plan conf properties last).take 3 := by simp [plan]
    exact List.take_subset_take_left _ hk hthree

end Setup

end AndesTestClient
