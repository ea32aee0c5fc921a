import AndesTestClient.Library.ForkJoin
import AndesTestClient.ForeignMessages
import AndesTestClient.Main
import AndesTestClient.Shutdown
import AndesTestClient.TransactionalRun

namespace AndesTestClient

open Imperative RingBuffer
open DisruptorBasedPublisher (Shutdown Known disruptor move move_known)

/-- An endpoint of the configuration with the class that `main` makes for its list. -/
inductive JmsEndpoint
  | subscriber (kind : ReceiverKind) (conf : SubscriberConfig)
  | publisher (kind : PublisherKind) (conf : PublisherConfig)
deriving DecidableEq, Repr

def JmsEndpoint.endpointConfig : JmsEndpoint → EndpointConfig
  | subscriber _ conf => .subscriber conf
  | publisher _ conf => .publisher conf

/-- What a thread meets: a message at each `receive`, the interrupts of its waits, and the clock. Of an
endpoint that has been connected no call fails. -/
structure Surroundings where
  incoming : ℕ → JmsMessage
  thread : Thread := {}
  clock : List Int64 := []

def HandlerPoint.handler : HandlerPoint → TxPublishHandler
  | .dispatch h => h
  | .add h => h
  | .send h => h
  | .commit h => h
  | .close h => h
  | .resend h => h

def DisruptorBasedPublisher.Shutdown.connectionOpen (s : Shutdown) : Bool :=
  match s.ring.handler with
  | .idle h => h.publisher.connectionOpen
  | .busy point _ => point.handler.publisher.connectionOpen
  | .clearing h _ => h.publisher.connectionOpen

/-- A thread of the list that `main` joins. A transactional publisher that has put its events
together hands them over to its handler before it ends. -/
inductive EndpointThread
  | started
  | handing (messages : List ATCMessage) (s : Shutdown)
  | ended (connectionOpen : Bool)

namespace EndpointThread

def connectionOpen : EndpointThread → Bool
  | started => true
  | handing _ s => s.connectionOpen
  | ended connectionOpen => connectionOpen

def hasEnded : EndpointThread → Bool
  | ended _ => true
  | _ => false

/-- `run`, on the consumer that `subscribe` or the publisher that `init` has connected. However it
ends, with an exception or without one, it leaves its connection as it is then. -/
def run (fuel : ℕ) (w : Surroundings) : JmsEndpoint → Option EndpointThread
  | .subscriber kind conf =>
    (exec (ConsumerThread.run fuel) (.new kind conf w.incoming w.thread w.clock)).map fun x ↦
      ended x.2.consumer.connectionOpen
  | .publisher kind conf =>
    let publisher := SimplePublisher.init kind conf
    (exec (PublisherThread.run fuel) { publisher := publisher, thread := w.thread }).map fun x ↦
      match x.1, conf.isTransactional, TxPublishHandler.new conf.transactionBatchSize publisher with
      | .ok (), true, .ok h₀ =>
        let messages := x.2.published.filterMap PublishEvent.atcMessage
        handing messages { ring := (disruptor fuel messages).init h₀ }
      | _, _, _ => ended x.2.publisher.connectionOpen

def handOver (fuel : ℕ) (messages : List ATCMessage) (s : Shutdown) : Turn → Option EndpointThread
  | .producer =>
    if s.point = .returned then some (ended s.connectionOpen)
    else (move (disruptor fuel messages) s .producer).map (handing messages)
  | .handler => (move (disruptor fuel messages) s .handler).map (handing messages)

def advance (fuel : ℕ) (w : Surroundings) (e : JmsEndpoint) (turn : Turn) :
    EndpointThread → Option EndpointThread
  | started =>
    match turn with
    | .producer => run fuel w e
    | .handler => none
  | handing messages s => handOver fuel messages s turn
  | ended _ => none

end EndpointThread

namespace Main

def jmsEndpoints (tc : TestConfiguration) : List JmsEndpoint :=
  tc.topicSubscribers.map (.subscriber .topicSubscriber) ++
    tc.queueSubscribers.map (.subscriber .queueReceiver) ++
    tc.durableTopicSubscribers.map (.subscriber .durableTopicSubscriber) ++
    tc.topicPublishers.map (.publisher .topicPublisher) ++
    tc.queuePublishers.map (.publisher .queueSender)

theorem jmsEndpoints_configs (tc : TestConfiguration) :
    (jmsEndpoints tc).map (·.endpointConfig) = endpoints tc := by
  simp only [jmsEndpoints, endpoints, List.map_append, List.map_map]
  rfl

/-- `main` from its first loop to its last statement, on a broker that accepts every endpoint. It
ends early when a gauge name is taken. -/
def process (fuel : ℕ) (tc : TestConfiguration) (w : ℕ → Surroundings) :
    ForkJoin.Design JmsEndpoint EndpointThread MetricRegistry Turn where
  entries := jmsEndpoints tc
  launch e registry :=
    match exec (start (fun _ ↦ true) e.endpointConfig) registry with
    | some (.ok (), registry') => some (.started, registry')
    | _ => none
  advance i e turn t := t.advance fuel (w i) e turn
  ended := EndpointThread.hasEnded
  ended_stays i e turn t h := by
    cases t with
    | ended c => rfl
    | _ => cases h

end Main

namespace JmsEndpoint

def Completes (w : Surroundings) : JmsEndpoint → Prop
  | subscriber _ conf => 0 ≤ conf.messagesPerSecond.toInt ∧
      ∀ k < conf.messageCount.toInt.toNat, (w.incoming k).body ≠ .other
  | publisher _ conf => 0 ≤ conf.messagesPerSecond.toInt ∧
      (conf.isTransactional = true → 0 ≤ conf.transactionBatchSize.toInt)

def ClosesConnection : JmsEndpoint → Prop
  | subscriber .topicSubscriber _ => False
  | _ => True

end JmsEndpoint

namespace EndpointThread

structure Handing (fuel : ℕ) (kind : PublisherKind) (conf : PublisherConfig)
    (messages : List ATCMessage) (s : Shutdown) : Prop where
  transactional : conf.isTransactional = true
  rate_nonneg : 0 ≤ conf.messagesPerSecond.toInt
  batch_nonneg : 0 ≤ conf.transactionBatchSize.toInt
  length_lt : messages.length < 2 ^ 31
  inv : (disruptor fuel messages).Inv
    { batchSize := conf.transactionBatchSize, publisher := .init kind conf } s.ring
  known : Known (disruptor fuel messages) s
  errorLogged_eq : s.errorLogged = false

/-- What is known of a thread by itself. Its connection is closed at its end exactly when it has
got to its `close` and the `close` of its class closes the connection. -/
def Tracked (fuel : ℕ) (w : Surroundings) (e : JmsEndpoint) : EndpointThread → Prop
  | started => True
  | handing messages s => ∃ kind conf, e = .publisher kind conf ∧ Handing fuel kind conf messages s
  | ended connectionOpen => connectionOpen = false ↔ e.Completes w ∧ e.ClosesConnection

variable {fuel : ℕ} {w : Surroundings} {t : EndpointThread}

theorem filterMap_atcMessage (ms : List ATCMessage) :
    (ms.map PublishEvent.ofMessage ++ [PublishEvent.close]).filterMap PublishEvent.atcMessage = ms := by
  rw [List.filterMap_append, List.filterMap_map]
  exact (List.append_nil _).trans List.filterMap_some

theorem subscriber_tracked (hu : w.thread.Uninterrupted) {kind : ReceiverKind}
    {conf : SubscriberConfig} (hN : conf.messageCount.toInt < 2 ^ 31 - 1)
    (hfuel : conf.messageCount.toInt.toNat < fuel)
    (hrun : run fuel w (.subscriber kind conf) = some t) :
    Tracked fuel w (.subscriber kind conf) t := by
  let t₀ := ConsumerThread.new kind conf w.incoming w.thread w.clock
  obtain ⟨x, hx, rfl⟩ := Option.map_eq_some_iff.mp hrun
  by_cases hrate : 0 ≤ conf.messagesPerSecond.toInt
  case neg =>
    have hrefused := ConsumerThread.run_refused (t := t₀) (Int.not_le.mp hrate) fuel
    cases hx.symm.trans hrefused
    exact iff_of_false (by simp [t₀, ConsumerThread.new, SimpleConsumer.subscribe])
      fun h ↦ hrate h.1.1
  obtain ⟨r, t', hends, ⟨rfl, hsurvived, htext⟩ | ⟨rfl, hopen, k, hk, hother⟩⟩ :=
    ConsumerThread.run_outcome (t := t₀) ⟨rfl, rfl, rfl, rfl⟩
      (SimpleConsumer.subscribe_holds kind conf w.incoming) hu hrate hN rfl hfuel
  · cases hx.symm.trans hends
    have hclosed : t'.consumer.connectionOpen = decide (kind = .topicSubscriber) :=
      hsurvived.shut.connectionOpen_eq.trans (Bool.true_and _)
    have hcompletes : JmsEndpoint.Completes w (.subscriber kind conf) := ⟨hrate, htext⟩
    rw [Tracked, hclosed, and_iff_right hcompletes]
    cases kind <;> simp [JmsEndpoint.ClosesConnection]
  · cases hx.symm.trans hends
    exact iff_of_false (by rw [hopen]; exact Bool.noConfusion) fun h ↦ h.1.2 k hk hother

variable {kind : PublisherKind} {conf : PublisherConfig} {messages : List ATCMessage}
  {s s' : Shutdown}

theorem plain_tracked (hu : w.thread.Uninterrupted) (htx : conf.isTransactional = false)
    (hN : conf.messageCount.toInt < 2 ^ 31 - 1) (hfuel : conf.messageCount.toInt.toNat < fuel)
    (hrun : run fuel w (.publisher kind conf) = some t) :
    Tracked fuel w (.publisher kind conf) t := by
  let t₀ : PublisherThread := { publisher := .init kind conf, thread := w.thread }
  have hcalm : t₀.Calm := ⟨rfl, rfl, rfl, rfl, rfl, hu⟩
  have hplain := PublisherThread.run_plain (t := t₀) htx fuel
  obtain ⟨x, hx, rfl⟩ := Option.map_eq_some_iff.mp hrun
  rw [htx]
  by_cases hrate : 0 ≤ conf.messagesPerSecond.toInt
  · obtain ⟨t', hpublish, -, hclosed⟩ := PublisherThread.publish_calm hcalm hrate hN hfuel
    cases hx.symm.trans (hplain.trans hpublish)
    exact iff_of_true hclosed ⟨⟨hrate, fun h ↦ by cases htx.symm.trans h⟩, trivial⟩
  · have hrefused := PublisherThread.publish_refused (t := t₀) (Int.not_le.mp hrate) fuel
    cases hx.symm.trans (hplain.trans hrefused)
    exact iff_of_false Bool.noConfusion fun h ↦ hrate h.1.1

theorem transactional_tracked (htx : conf.isTransactional = true)
    (hN : conf.messageCount.toInt < 2 ^ 31 - 1) (hfuel : conf.messageCount.toInt.toNat < fuel)
    (hrun : run fuel w (.publisher kind conf) = some t) :
    Tracked fuel w (.publisher kind conf) t := by
  let t₀ : PublisherThread := { publisher := .init kind conf, thread := w.thread }
  have hstart := PublisherThread.run_transactional (t := t₀) htx fuel
  obtain ⟨x, hx, rfl⟩ := Option.map_eq_some_iff.mp hrun
  by_cases hentered : 0 ≤ conf.transactionBatchSize.toInt ∧ 0 ≤ conf.messagesPerSecond.toInt
  case neg =>
    have hrefused := PublisherThread.transactionalPublish_refused (t := t₀)
      ((not_and_or.mp hentered).imp Int.not_le.mp Int.not_le.mp) fuel
    cases hx.symm.trans (hstart.trans hrefused)
    exact iff_of_false Bool.noConfusion fun h ↦ hentered ⟨h.1.2 htx, h.1.1⟩
  obtain ⟨hbatch, hrate⟩ := hentered
  have hnew : TxPublishHandler.new conf.transactionBatchSize (.init kind conf) = _ :=
    TxPublishHandler.new_ok hbatch
  obtain ⟨t', hpublish, hpublished⟩ :=
    PublisherThread.transactionalPublish_published (t := t₀) rfl hbatch hrate hN hfuel
  cases hx.symm.trans (hstart.trans hpublish)
  simp only [htx, hnew]
  refine ⟨kind, conf, rfl, htx, hrate, hbatch, ?_, Design.init_inv _ _, ⟨rfl, rfl⟩, rfl⟩
  rw [hpublished, filterMap_atcMessage, PublisherThread.transactionalMessages, List.length_map,
    List.length_range]
  change conf.messageCount.toInt.toNat < 2 ^ 31
  omega

theorem Handing.move (hh : Handing fuel kind conf messages s) {m : DisruptorBasedPublisher.Move}
    (hm : m ≠ .timeout) (hstep : move (disruptor fuel messages) s m = some s') :
    Handing fuel kind conf messages s' := by
  obtain ⟨hinv, hknown, hlog⟩ := move_known hh.inv hh.known hstep
  refine ⟨hh.transactional, hh.rate_nonneg, hh.batch_nonneg, hh.length_lt, hinv, hknown, ?_⟩
  rw [← Bool.not_eq_true, hlog, hh.errorLogged_eq]
  exact fun h ↦ h.elim Bool.noConfusion hm

theorem Handing.closed (hh : Handing fuel kind conf messages s) (hreturned : s.point = .returned) :
    s.connectionOpen = false := by
  have hknown := hh.known
  simp only [Known, hreturned, hh.errorLogged_eq] at hknown
  obtain ⟨⟨hpublished, hhandled, -⟩, -⟩ := hknown.resolve_right fun h ↦ Bool.noConfusion h.2
  obtain ⟨h, hidle⟩ := hh.inv.idle_of_drained hhandled
  have hrun := DisruptorBasedPublisher.callsAll_onEvents
    (hh.inv.callsAll hidle (hhandled.trans hpublished))
  rw [DisruptorBasedPublisher.events_eq] at hrun
  obtain ⟨h', hevents, -, hclosed, -⟩ :=
    TxPublishHandler.events_calm kind hh.transactional hh.batch_nonneg fuel hh.length_lt
  cases hrun.symm.trans hevents
  rw [DisruptorBasedPublisher.Shutdown.connectionOpen, hidle]
  exact hclosed

theorem advance_tracked (hu : w.thread.Uninterrupted) {e : JmsEndpoint}
    (hN : e.endpointConfig.config.messageCount.toInt < 2 ^ 31 - 1)
    (hfuel : e.endpointConfig.config.messageCount.toInt.toNat < fuel) {turn : Turn}
    {t' : EndpointThread} (ht : Tracked fuel w e t) (hstep : advance fuel w e turn t = some t') :
    Tracked fuel w e t' := by
  cases t with
  | started =>
    cases turn with
    | handler => cases hstep
    | producer =>
      cases e with
      | subscriber kind conf => exact subscriber_tracked hu hN hfuel hstep
      | publisher kind conf =>
        cases htx : conf.isTransactional with
        | false => exact plain_tracked hu htx hN hfuel hstep
        | true => exact transactional_tracked htx hN hfuel hstep
  | handing messages s =>
    obtain ⟨kind, conf, rfl, hh⟩ := ht
    cases turn with
    | producer =>
      rw [advance, handOver] at hstep
      split_ifs at hstep with hreturned
      · cases hstep
        exact iff_of_true (hh.closed hreturned)
          ⟨⟨hh.rate_nonneg, fun _ ↦ hh.batch_nonneg⟩, trivial⟩
      · obtain ⟨s', hmove, rfl⟩ := Option.map_eq_some_iff.mp hstep
        exact ⟨kind, conf, rfl, hh.move (by simp) hmove⟩
    | handler =>
      obtain ⟨s', hmove, rfl⟩ := Option.map_eq_some_iff.mp hstep
      exact ⟨kind, conf, rfl, hh.move (by simp) hmove⟩
  | ended c => cases hstep

end EndpointThread

namespace Main

variable {fuel : ℕ} {tc : TestConfiguration} {w : ℕ → Surroundings}

theorem mem_endpoints {e : JmsEndpoint} (he : e ∈ jmsEndpoints tc) :
    e.endpointConfig ∈ endpoints tc := by
  rw [← jmsEndpoints_configs]
  exact List.mem_map_of_mem he

theorem process_local (hu : ∀ i, (w i).thread.Uninterrupted)
    (hN : ∀ e ∈ endpoints tc, e.config.messageCount.toInt < 2 ^ 31 - 1)
    (hfuel : ∀ e ∈ endpoints tc, e.config.messageCount.toInt.toNat < fuel) :
    (process fuel tc w).Local fun i e t ↦ t.Tracked fuel (w i) e where
  launch i e registry t registry' _ h := by
    simp only [process] at h
    split at h
    · cases h
      trivial
    · cases h
  advance i e turn t t' he ht h := by
    have hmem := mem_endpoints (List.mem_of_getElem? he)
    exact EndpointThread.advance_tracked (hu i) (hN _ hmem) (hfuel _ hmem) ht h

theorem closesConnection_iff :
    (∀ e ∈ jmsEndpoints tc, e.ClosesConnection) ↔ tc.topicSubscribers = [] := by
  constructor
  · intro h
    rw [List.eq_nil_iff_forall_not_mem]
    intro conf hconf
    exact h (.subscriber .topicSubscriber conf) (by simp [jmsEndpoints, hconf])
  · intro h e he
    cases e with
    | publisher kind conf => trivial
    | subscriber kind conf =>
      cases kind with
      | topicSubscriber => simp [jmsEndpoints, h] at he
      | _ => trivial

/-- In every run that comes to the end of `main` and that no failure, interrupt or timeout disturbs,
each endpoint has had its thread, and all connections are closed exactly when there is no topic
subscriber and every thread has got to its `close`. -/
theorem all_closed_iff (fuel : ℕ) (tc : TestConfiguration) (w : ℕ → Surroundings)
    (hu : ∀ i, (w i).thread.Uninterrupted)
    (hN : ∀ e ∈ endpoints tc, e.config.messageCount.toInt < 2 ^ 31 - 1)
    (hfuel : ∀ e ∈ endpoints tc, e.config.messageCount.toInt.toNat < fuel)
    (actions : List (ForkJoin.Action Turn)) {s : ForkJoin.State EndpointThread MetricRegistry}
    (hrun : (process fuel tc w).run { own := {} } actions = some s) (hcomplete : s.point = .complete) :
    s.threads.length = (jmsEndpoints tc).length ∧
    ((∀ t ∈ s.threads, t.connectionOpen = false) ↔
      tc.topicSubscribers = [] ∧
        ∀ (i : ℕ) e, (jmsEndpoints tc)[i]? = some e → e.Completes (w i)) := by
  have hi := ForkJoin.Design.run_inv (process_local hu hN hfuel) (ForkJoin.Design.init_inv _ _) hrun
  have hjoined := hi.joined
  simp only [ForkJoin.Design.Joined, hcomplete] at hjoined
  refine ⟨hjoined.1, ?_⟩
  have hthread : ∀ (i : ℕ) e, (jmsEndpoints tc)[i]? = some e → ∃ t, s.threads[i]? = some t ∧
      (t.connectionOpen = false ↔ e.Completes (w i) ∧ e.ClosesConnection) := by
    intro i e he
    obtain ⟨t, ht, hended, htracked⟩ := hi.complete hcomplete he
    cases t with
    | ended c => exact ⟨_, ht, htracked⟩
    | started => cases hended
    | handing messages s => cases hended
  rw [← closesConnection_iff]
  constructor
  · intro hclosed
    have hboth : ∀ (i : ℕ) e, (jmsEndpoints tc)[i]? = some e →
        e.Completes (w i) ∧ e.ClosesConnection := by
      intro i e he
      obtain ⟨t, ht, hiff⟩ := hthread i e he
      exact hiff.mp (hclosed t (List.mem_of_getElem? ht))
    refine ⟨fun e he ↦ ?_, fun i e he ↦ (hboth i e he).1⟩
    obtain ⟨i, hi⟩ := List.getElem?_of_mem he
    exact (hboth i e hi).2
  · intro h t ht
    obtain ⟨i, hi⟩ := List.getElem?_of_mem ht
    obtain ⟨hlt, -⟩ := List.getElem?_eq_some_iff.mp hi
    have he := List.getElem?_eq_getElem (hjoined.1 ▸ hlt)
    obtain ⟨t', ht', hiff⟩ := hthread i _ he
    cases hi.symm.trans ht'
    exact hiff.mpr ⟨h.2 i _ he, h.1 _ (List.mem_of_getElem? he)⟩

theorem all_closed_iff_pair :
    let conf : PublisherConfig :=
      { id := some "b", messageCount := 1, isTransactional := true, transactionBatchSize := 1 }
    let tc : TestConfiguration :=
      { queueSubscribers := [{ id := some "a", messageCount := 1 }], queuePublishers := [conf] }
    let w : ℕ → Surroundings := fun _ ↦ { incoming := fun _ ↦ { body := .text (some "m") } }
    let actions : List (ForkJoin.Action Turn) := [List.replicate 3 .main, [.thread 0 .producer],
      List.replicate 9 (.thread 1 .producer), List.replicate 16 (.thread 1 .handler),
      List.replicate 4 (.thread 1 .producer), List.replicate 3 .main].flatten
    ∃ s, (process 2 tc w).run { own := {} } actions = some s ∧
      s.threads.length = (jmsEndpoints tc).length ∧
      ((∀ t ∈ s.threads, t.connectionOpen = false) ↔
        tc.topicSubscribers = [] ∧
          ∀ (i : ℕ) e, (jmsEndpoints tc)[i]? = some e → e.Completes (w i)) := by
  intro conf tc w actions
  have hruns : ((process 2 tc w).run { own := {} } actions).map ForkJoin.State.point =
      some .complete := by decide +kernel
  obtain ⟨s, hs, hcomplete⟩ := Option.map_eq_some_iff.mp hruns
  exact ⟨s, hs, all_closed_iff 2 tc w (fun _ ↦ ⟨rfl, by simp [w]⟩) (by decide) (by decide) actions hs
    hcomplete⟩

/-- The thread of a topic subscriber takes its message, closes its consumer and ends; the
connection is still open when `main` is through. -/
theorem topic_subscriber_stays_open :
    let tc : TestConfiguration :=
      { topicSubscribers := [{ id := some "a", messageCount := 1 }] }
    let w : ℕ → Surroundings := fun _ ↦ { incoming := fun _ ↦ { body := .text (some "m") } }
    ∃ s, (process 2 tc w).run { own := {} }
        [.main, .main, .thread 0 .producer, .main, .main] = some s ∧
      s.point = .complete ∧ s.threads.length = 1 ∧ (∀ i, (w i).thread.Uninterrupted) ∧
      (∀ (i : ℕ) e, (jmsEndpoints tc)[i]? = some e → e.Completes (w i)) ∧
      ¬ ∀ t ∈ s.threads, t.connectionOpen = false := by
  intro tc w
  refine ⟨_, rfl, rfl, rfl, fun _ ↦ ⟨rfl, by simp [w]⟩, ?_, ?_⟩
  · intro i e he
    rw [List.mem_singleton.mp (List.mem_of_getElem? he)]
    exact ⟨by decide, fun _ _ ↦ JmsBody.noConfusion⟩
  · intro h
    exact Bool.noConfusion (h _ List.mem_cons_self)

end Main

end AndesTestClient
