import AndesTestClient.Startup
import AndesTestClient.Termination

namespace AndesTestClient

open Imperative RingBuffer
open DisruptorBasedPublisher (Shutdown ShutdownPoint Known disruptor ranking produceOrStop)

namespace TxPublishHandler

theorem onEvent_of_onEvents {fuel : ℕ} {es fs : List PublishEvent} {c : PublishEvent}
    {h₀ h h' : TxPublishHandler} (hall : exec (onEvents fuel (es ++ c :: fs)) h₀ = some (.ok (), h'))
    (hes : exec (onEvents fuel es) h₀ = some (.ok (), h)) :
    ∃ h₁, exec (onEvent fuel c) h = some (.ok (), h₁) := by
  rw [onEvents_append, exec_bind_ok hes] at hall
  change exec (onEvent fuel c >>= fun _ ↦ onEvents fuel fs) h = _ at hall
  cases hc : exec (onEvent fuel c) h with
  | none => simp [exec_bind, hc] at hall
  | some x =>
    obtain ⟨⟨e⟩ | ⟨⟨⟩⟩, h₁⟩ := x
    · rw [exec_bind_error hc] at hall
      cases hall
    · exact ⟨h₁, rfl⟩

end TxPublishHandler

namespace DisruptorBasedPublisher

def ShutdownPoint.left : ShutdownPoint → ℕ
  | .publishing => 5
  | .waiting => 4
  | .halted => 3
  | .terminating => 2
  | .returned => 1

def Shutdown.work (fuel : ℕ) (messages : List ATCMessage) (s : Shutdown) : ℕ :=
  Design.work (ranking fuel messages) s.ring + s.point.left

variable {fuel : ℕ} {messages : List ATCMessage} {s s' : Shutdown}

theorem produceOrStop_work (hstep : produceOrStop (disruptor fuel messages) s = some s') :
    s' = s ∨ s'.work fuel messages < s.work fuel messages := by
  rw [produceOrStop] at hstep
  cases hpoint : s.point <;> simp only [hpoint] at hstep
  case publishing =>
    right
    split_ifs at hstep
    · cases hstep
      simp only [Shutdown.work, hpoint, ShutdownPoint.left]
      omega
    · obtain ⟨ring, hring, rfl⟩ := Option.map_eq_some_iff.mp hstep
      have hwork := Design.produce_work (ranking fuel messages) hring
      simp only [Shutdown.work, hpoint]
      omega
  case waiting =>
    split_ifs at hstep
    · cases hstep
      exact .inl rfl
    · cases hstep
      right
      simp only [Shutdown.work, hpoint, ShutdownPoint.left]
      omega
  case halted =>
    cases hstep
    right
    simp only [Shutdown.work, hpoint, ShutdownPoint.left]
    omega
  case terminating =>
    cases hstep
    right
    simp only [Shutdown.work, hpoint, ShutdownPoint.left]
    omega
  case returned => cases hstep

theorem consume_work {h₀ : TxPublishHandler} (hi : (disruptor fuel messages).Inv h₀ s.ring)
    {ring : State PublishEvent HandlerPoint TxPublishHandler}
    (hring : (disruptor fuel messages).consume s.ring = some ring) :
    Shutdown.work fuel messages { s with ring := ring } < s.work fuel messages := by
  have hwork := Design.consume_work (ranking fuel messages) hi hring
  simp only [Shutdown.work]
  omega

end DisruptorBasedPublisher

def JmsEndpoint.mostSteps : JmsEndpoint → ℕ
  | subscriber _ _ => 1
  | publisher _ conf =>
    if conf.isTransactional then 14 * conf.messageCount.toInt.toNat + 19 else 1

namespace EndpointThread

def work (fuel : ℕ) (e : JmsEndpoint) : EndpointThread → ℕ
  | started => e.mostSteps
  | handing messages s => s.work fuel messages
  | ended _ => 0

variable {fuel : ℕ} {w : Surroundings} {t t' : EndpointThread} {kind : PublisherKind}
  {conf : PublisherConfig} {messages : List ATCMessage} {s : Shutdown}

theorem mostSteps_pos (e : JmsEndpoint) : 0 < e.mostSteps := by
  cases e with
  | subscriber kind conf => exact Nat.one_pos
  | publisher kind conf =>
    rw [JmsEndpoint.mostSteps]
    split_ifs <;> omega

theorem subscriber_run (hu : w.thread.Uninterrupted) {kind : ReceiverKind} {conf : SubscriberConfig}
    (hN : conf.messageCount.toInt < 2 ^ 31 - 1) (hfuel : conf.messageCount.toInt.toNat < fuel) :
    ∃ c, run fuel w (.subscriber kind conf) = some (ended c) := by
  let t₀ := ConsumerThread.new kind conf w.incoming w.thread w.clock
  obtain ⟨x, hx⟩ : ∃ x, exec (ConsumerThread.run fuel) t₀ = some x := by
    by_cases hrate : 0 ≤ conf.messagesPerSecond.toInt
    · obtain ⟨r, t', hends, -⟩ := ConsumerThread.run_outcome (t := t₀) ⟨rfl, rfl, rfl, rfl⟩
        (SimpleConsumer.subscribe_holds kind conf w.incoming) hu hrate hN rfl hfuel
      exact ⟨_, hends⟩
    · exact ⟨_, ConsumerThread.run_refused (t := t₀) (Int.not_le.mp hrate) fuel⟩
  exact ⟨_, Option.map_eq_some_iff.mpr ⟨x, hx, rfl⟩⟩

theorem plain_run (hu : w.thread.Uninterrupted) (htx : conf.isTransactional = false)
    (hN : conf.messageCount.toInt < 2 ^ 31 - 1) (hfuel : conf.messageCount.toInt.toNat < fuel) :
    ∃ c, run fuel w (.publisher kind conf) = some (ended c) := by
  let t₀ : PublisherThread := { publisher := .init kind conf, thread := w.thread }
  obtain ⟨x, hx⟩ : ∃ x, exec (PublisherThread.run fuel) t₀ = some x := by
    rw [PublisherThread.run_plain (t := t₀) htx fuel]
    by_cases hrate : 0 ≤ conf.messagesPerSecond.toInt
    · obtain ⟨t', hpublish, -⟩ :=
        PublisherThread.publish_calm (t := t₀) ⟨rfl, rfl, rfl, rfl, rfl, hu⟩ hrate hN hfuel
      exact ⟨_, hpublish⟩
    · exact ⟨_, PublisherThread.publish_refused (t := t₀) (Int.not_le.mp hrate) fuel⟩
  refine ⟨x.2.publisher.connectionOpen, Option.map_eq_some_iff.mpr ⟨x, hx, ?_⟩⟩
  rw [htx]
  obtain ⟨⟨e⟩ | ⟨⟨⟩⟩, t'⟩ := x <;> rfl

theorem transactional_run (htx : conf.isTransactional = true)
    (hN : conf.messageCount.toInt < 2 ^ 31 - 1) (hfuel : conf.messageCount.toInt.toNat < fuel) :
    (∃ c, run fuel w (.publisher kind conf) = some (ended c)) ∨
      ∃ messages h₀, run fuel w (.publisher kind conf) =
        some (handing messages { ring := (disruptor fuel messages).init h₀ }) ∧
        messages.length = conf.messageCount.toInt.toNat := by
  let t₀ : PublisherThread := { publisher := .init kind conf, thread := w.thread }
  have hstart := PublisherThread.run_transactional (t := t₀) htx fuel
  by_cases hentered : 0 ≤ conf.transactionBatchSize.toInt ∧ 0 ≤ conf.messagesPerSecond.toInt
  case neg =>
    have hrefused := PublisherThread.transactionalPublish_refused (t := t₀)
      ((not_and_or.mp hentered).imp Int.not_le.mp Int.not_le.mp) fuel
    exact .inl ⟨_, Option.map_eq_some_iff.mpr ⟨_, hstart.trans hrefused, rfl⟩⟩
  obtain ⟨hbatch, hrate⟩ := hentered
  have hnew : TxPublishHandler.new conf.transactionBatchSize (.init kind conf) = _ :=
    TxPublishHandler.new_ok hbatch
  obtain ⟨t', hpublish, hpublished⟩ :=
    PublisherThread.transactionalPublish_published (t := t₀) rfl hbatch hrate hN hfuel
  refine .inr ⟨t'.published.filterMap PublishEvent.atcMessage,
    { batchSize := conf.transactionBatchSize, publisher := .init kind conf },
    Option.map_eq_some_iff.mpr ⟨_, hstart.trans hpublish, ?_⟩, ?_⟩
  · simp only [htx, hnew]
  · rw [hpublished, filterMap_atcMessage, PublisherThread.transactionalMessages, List.length_map,
      List.length_range]
    rfl

theorem run_work (hu : w.thread.Uninterrupted) {e : JmsEndpoint}
    (hN : e.endpointConfig.config.messageCount.toInt < 2 ^ 31 - 1)
    (hfuel : e.endpointConfig.config.messageCount.toInt.toNat < fuel) :
    ∃ t, run fuel w e = some t ∧ t.work fuel e < e.mostSteps := by
  cases e with
  | subscriber kind conf =>
    obtain ⟨c, hrun⟩ := subscriber_run hu hN hfuel
    exact ⟨_, hrun, mostSteps_pos _⟩
  | publisher kind conf =>
    cases htx : conf.isTransactional with
    | false =>
      obtain ⟨c, hrun⟩ := plain_run hu htx hN hfuel
      exact ⟨_, hrun, mostSteps_pos _⟩
    | true =>
      rcases transactional_run htx hN hfuel with ⟨c, hrun⟩ | ⟨messages, h₀, hrun, hlength⟩
      · exact ⟨_, hrun, mostSteps_pos _⟩
      · refine ⟨_, hrun, ?_⟩
        simp only [work, Shutdown.work, DisruptorBasedPublisher.work_init, ShutdownPoint.left, hlength,
          JmsEndpoint.mostSteps, htx, if_true]
        omega

theorem Handing.consumes (hh : Handing fuel kind conf messages s)
    (hbacklog : s.ring.handled < s.ring.published) :
    ∃ ring, (disruptor fuel messages).consume s.ring = some ring := by
  rw [← Option.ne_none_iff_exists']
  intro hnone
  have hi := hh.inv
  rcases hi.consume_stuck hnone with ⟨hdrained, -⟩ | ⟨point, loads, c, hbusy, hc, hstuck⟩
  · exact absurd hbacklog (hdrained ▸ Nat.lt_irrefl _)
  · have hsound := hi.sound
    simp only [Design.Sound, hbusy] at hsound
    obtain ⟨-, -, h, c', hd, hc', -, hreach⟩ := hsound
    cases hc.symm.trans hc'
    obtain ⟨h', hevents, -⟩ := TxPublishHandler.events_calm kind hh.transactional hh.batch_nonneg fuel
      hh.length_lt
    obtain ⟨hlt, hget⟩ := List.getElem?_eq_some_iff.mp hc
    have hsplit : (disruptor fuel messages).events = (disruptor fuel messages).events.take s.ring.handled ++
        c :: (disruptor fuel messages).events.drop (s.ring.handled + 1) := by
      rw [← hget, ← List.drop_eq_getElem_cons hlt, List.take_append_drop]
    rw [← DisruptorBasedPublisher.events_eq fuel, hsplit] at hevents
    obtain ⟨h₁, hcall⟩ :=
      TxPublishHandler.onEvent_of_onEvents hevents (DisruptorBasedPublisher.callsAll_onEvents hd)
    exact DisruptorBasedPublisher.proceeds hcall hreach hstuck

theorem advance_work (hu : w.thread.Uninterrupted) {e : JmsEndpoint}
    (hN : e.endpointConfig.config.messageCount.toInt < 2 ^ 31 - 1)
    (hfuel : e.endpointConfig.config.messageCount.toInt.toNat < fuel) {turn : Turn}
    (ht : Tracked fuel w e t) (hstep : advance fuel w e turn t = some t') :
    t' = t ∨ t'.work fuel e < t.work fuel e := by
  cases t with
  | started =>
    cases turn with
    | handler => cases hstep
    | producer =>
      obtain ⟨u, hrun, hlt⟩ := run_work hu hN hfuel
      cases hrun.symm.trans hstep
      exact .inr hlt
  | handing messages s =>
    obtain ⟨kind, conf, rfl, hh⟩ := ht
    cases turn with
    | producer =>
      rw [advance, handOver] at hstep
      split_ifs at hstep with hreturned
      · cases hstep
        right
        simp only [work, Shutdown.work, hreturned, ShutdownPoint.left]
        omega
      · obtain ⟨s', hmove, rfl⟩ := Option.map_eq_some_iff.mp hstep
        rcases DisruptorBasedPublisher.produceOrStop_work hmove with rfl | hlt
        · exact .inl rfl
        · exact .inr hlt
    | handler =>
      obtain ⟨s', hmove, rfl⟩ := Option.map_eq_some_iff.mp hstep
      simp only [DisruptorBasedPublisher.move] at hmove
      split_ifs at hmove
      obtain ⟨ring, hring, rfl⟩ := Option.map_eq_some_iff.mp hmove
      exact .inr (DisruptorBasedPublisher.consume_work hh.inv hring)
  | ended c => cases hstep

theorem Handing.handler_turn (hh : Handing fuel kind conf messages s) (hrunning : s.processorHalted = false)
    (hbacklog : s.ring.handled < s.ring.published) (w : Surroundings) (e : JmsEndpoint) :
    ∃ t', advance fuel w e .handler (handing messages s) = some t' ∧
      t'.work fuel e < (handing messages s).work fuel e := by
  obtain ⟨ring, hring⟩ := hh.consumes hbacklog
  refine ⟨handing messages { s with ring := ring }, ?_, DisruptorBasedPublisher.consume_work hh.inv hring⟩
  simp only [advance, handOver, DisruptorBasedPublisher.move, hrunning, hring]
  rfl

theorem producer_turn {s' : Shutdown} (hstep : produceOrStop (disruptor fuel messages) s = some s')
    (hne : s' ≠ s) (w : Surroundings) (e : JmsEndpoint) :
    ∃ t', advance fuel w e .producer (handing messages s) = some t' ∧
      t'.work fuel e < (handing messages s).work fuel e := by
  have hpoint : s.point ≠ .returned := by
    intro hreturned
    simp only [produceOrStop, hreturned] at hstep
    cases hstep
  refine ⟨handing messages s', ?_, (DisruptorBasedPublisher.produceOrStop_work hstep).resolve_left hne⟩
  simp only [advance, handOver, hpoint, if_false, DisruptorBasedPublisher.move, hstep]
  rfl

/-- The producer and the handler never both wait for one another. -/
theorem Handing.enabled (hh : Handing fuel kind conf messages s) (w : Surroundings) (e : JmsEndpoint) :
    ∃ turn t', advance fuel w e turn (handing messages s) = some t' ∧
      t'.work fuel e < (handing messages s).work fuel e := by
  have hknown := hh.known
  have hpoints : ∀ s', produceOrStop (disruptor fuel messages) s = some s' → s'.point ≠ s.point →
      ∃ turn t', advance fuel w e turn (handing messages s) = some t' ∧
        t'.work fuel e < (handing messages s).work fuel e := by
    intro s' hstep hne
    exact ⟨.producer, producer_turn hstep (fun h ↦ hne (congrArg Shutdown.point h)) w e⟩
  cases hpoint : s.point with
  | publishing =>
    simp only [Known, hpoint] at hknown
    by_cases hall : s.ring.published = (disruptor fuel messages).jobs.length ∧ s.ring.claimed = none
    · apply hpoints { s with point := .waiting }
      · simp only [produceOrStop, hpoint, if_pos hall]
      · simp only [hpoint, ne_eq, reduceCtorEq, not_false_eq_true]
    cases hproduce : (disruptor fuel messages).produce s.ring with
    | some ring =>
      have hstep : produceOrStop (disruptor fuel messages) s = some { s with ring := ring } := by
        simp only [produceOrStop, hpoint, if_neg hall, hproduce]
        rfl
      refine ⟨.producer, producer_turn hstep ?_ w e⟩
      intro h
      have hwork := Design.produce_work (ranking fuel messages) hproduce
      have hring : ring = s.ring := congrArg Shutdown.ring h
      rw [hring] at hwork
      exact Nat.succ_ne_self _ hwork
    | none =>
      obtain ⟨hclaimed, hpublished | hbacklog⟩ := hh.inv.produce_stuck hproduce
      · exact absurd ⟨hpublished, hclaimed⟩ hall
      · exact ⟨.handler, hh.handler_turn hknown.1 hbacklog w e⟩
  | waiting =>
    simp only [Known, hpoint] at hknown
    by_cases hbacklog : s.ring.handled < s.ring.published
    · exact ⟨.handler, hh.handler_turn hknown.1 hbacklog w e⟩
    · apply hpoints { s with processorHalted := true, point := .halted }
      · simp only [produceOrStop, hpoint]
        exact if_neg hbacklog
      · simp only [hpoint, ne_eq, reduceCtorEq, not_false_eq_true]
  | halted =>
    apply hpoints { s with executorShutdown := true, point := .terminating }
    · simp only [produceOrStop, hpoint]
    · simp only [hpoint, ne_eq, reduceCtorEq, not_false_eq_true]
  | terminating =>
    apply hpoints { s with point := .returned }
    · simp only [produceOrStop, hpoint]
    · simp only [hpoint, ne_eq, reduceCtorEq, not_false_eq_true]
  | returned =>
    refine ⟨.producer, ended s.connectionOpen, ?_, ?_⟩
    · simp only [advance, handOver, hpoint, if_true]
    · simp only [work, Shutdown.work, hpoint, ShutdownPoint.left]
      omega

theorem enabled (hu : w.thread.Uninterrupted) {e : JmsEndpoint}
    (hN : e.endpointConfig.config.messageCount.toInt < 2 ^ 31 - 1)
    (hfuel : e.endpointConfig.config.messageCount.toInt.toNat < fuel) (ht : Tracked fuel w e t)
    (hended : t.hasEnded = false) :
    ∃ turn t', advance fuel w e turn t = some t' ∧ t'.work fuel e < t.work fuel e := by
  cases t with
  | started =>
    obtain ⟨u, hrun, hlt⟩ := run_work hu hN hfuel
    exact ⟨.producer, u, hrun, hlt⟩
  | handing messages s =>
    obtain ⟨kind, conf, -, hh⟩ := ht
    exact hh.enabled w e
  | ended c => cases hended

end EndpointThread

namespace Startup

variable {p : Startup} {s s' : MainState} {actions : List (ForkJoin.Action Turn)} {fuel : ℕ}

def threadsWork (fuel : ℕ) : List JmsEndpoint → List EndpointThread → ℕ
  | [], _ => 0
  | e :: es, [] => e.mostSteps + threadsWork fuel es []
  | e :: es, t :: ts => t.work fuel e + threadsWork fuel es ts

/-- What is left to `main`: its report, a launch for each endpoint, the registration of its hook, a
join for each endpoint, and its end. -/
def mainWork (p : Startup) (s : MainState) : ℕ :=
  match s.point with
  | .reporting => 2 * p.entries.length + 3
  | .launching => 2 * p.entries.length + 2 - s.threads.length
  | .joining n => p.entries.length - n + 1
  | .complete => 0
  | .failed _ => 0

def work (p : Startup) (s : MainState) : ℕ := p.mainWork s + threadsWork p.fuel p.entries s.threads

def mostSteps (p : Startup) : ℕ :=
  2 * p.entries.length + 3 + (p.entries.map JmsEndpoint.mostSteps).sum

structure Over (s : MainState) : Prop where
  point_eq : s.point = .complete ∨ ∃ t, s.point = .failed t
  ended : ∀ u ∈ s.threads, u.hasEnded = true

theorem threadsWork_nil (fuel : ℕ) (es : List JmsEndpoint) :
    threadsWork fuel es [] = (es.map JmsEndpoint.mostSteps).sum := by
  induction es with
  | nil => rfl
  | cons e es ih => rw [threadsWork, ih, List.map_cons, List.sum_cons]

theorem threadsWork_started {es : List JmsEndpoint} {ts : List EndpointThread}
    (hlt : ts.length < es.length) :
    threadsWork fuel es (ts ++ [.started]) = threadsWork fuel es ts := by
  induction es generalizing ts with
  | nil => exact absurd hlt (Nat.not_lt_zero _)
  | cons e es ih =>
    cases ts with
    | nil => rfl
    | cons t ts => rw [List.cons_append, threadsWork, threadsWork, ih (Nat.lt_of_succ_lt_succ hlt)]

theorem threadsWork_set {es : List JmsEndpoint} {ts : List EndpointThread} {i : ℕ} {e : JmsEndpoint}
    {u u' : EndpointThread} (he : es[i]? = some e) (hu : ts[i]? = some u)
    (hlt : u'.work fuel e < u.work fuel e) :
    threadsWork fuel es (ts.set i u') < threadsWork fuel es ts := by
  induction es generalizing ts i with
  | nil => cases he
  | cons d es ih =>
    cases ts with
    | nil => cases hu
    | cons t ts =>
      cases i with
      | zero =>
        cases he
        cases hu
        exact Nat.add_lt_add_right hlt _
      | succ i => exact Nat.add_lt_add_left (ih he hu) _

theorem launchNext_work (hi : p.Inv s) (hpoint : s.point = .launching)
    (hstep : p.launchNext s = some s') : p.work s' < p.work s := by
  have hle := hi.length_le
  rw [launchNext] at hstep
  split at hstep
  case h_1 hnone =>
    cases hstep
    have hlength := List.getElem?_eq_none_iff.mp hnone
    simp only [work, mainWork, hpoint]
    omega
  case h_2 e he =>
    obtain ⟨hlt, -⟩ := List.getElem?_eq_some_iff.mp he
    split at hstep
    · cases hstep
      simp only [work, mainWork, hpoint, threadsWork_started hlt, List.length_append,
        List.length_singleton]
      omega
    · cases hstep
      simp only [work, mainWork, hpoint]
      omega
    · cases hstep

theorem main_work (hi : p.Inv s) (hstep : p.main s = some s') : p.work s' < p.work s := by
  have hat := hi.atPoint
  rw [main] at hstep
  cases hpoint : s.point with
  | reporting =>
    simp only [AtPoint, hpoint] at hat
    simp only [hpoint, report] at hstep
    split at hstep
    · split at hstep <;> cases hstep
      · simp only [work, mainWork, hpoint, hat.2.2.1, List.length_nil]
        omega
      · simp only [work, mainWork, hpoint]
        omega
    · cases hstep
  | launching =>
    simp only [hpoint] at hstep
    exact launchNext_work hi hpoint hstep
  | joining n =>
    simp only [AtPoint, hpoint] at hat
    simp only [hpoint] at hstep
    split at hstep
    case h_1 t ht =>
      obtain ⟨hlt, -⟩ := List.getElem?_eq_some_iff.mp ht
      split_ifs at hstep
      cases hstep
      simp only [work, mainWork, hpoint]
      omega
    case h_2 =>
      cases hstep
      simp only [work, mainWork, hpoint]
      omega
  | complete => simp only [hpoint] at hstep; cases hstep
  | failed t => simp only [hpoint] at hstep; cases hstep

theorem turn_work {i : ℕ} {e : JmsEndpoint} {u u' : EndpointThread}
    (he : p.entries[i]? = some e) (hu : s.threads[i]? = some u)
    (hlt : u'.work p.fuel e < u.work p.fuel e) :
    p.work { s with threads := s.threads.set i u' } < p.work s := by
  have hthreads := threadsWork_set he hu hlt
  have hmain : p.mainWork { s with threads := s.threads.set i u' } = p.mainWork s := by
    simp only [mainWork, List.length_set]
  simp only [work, hmain]
  omega

theorem step_work (hp : p.Undisturbed) (hi : p.Inv s) (ht : p.TrackedThreads s)
    {action : ForkJoin.Action Turn} (hstep : p.step s action = some s') :
    s' = s ∨ p.work s' < p.work s := by
  cases action with
  | main => exact .inr (main_work hi hstep)
  | thread i a =>
    obtain ⟨e, u, u', he, hu, hadvance, rfl⟩ := turn_threads hstep
    have hmem := List.mem_of_getElem? he
    rcases EndpointThread.advance_work (hp.uninterrupted i) (hp.count_lt e hmem)
      (hp.count_lt_fuel e hmem) (ht i e u he hu) hadvance with rfl | hlt
    · obtain ⟨hi, rfl⟩ := List.getElem?_eq_some_iff.mp hu
      left
      rw [List.set_getElem_self]
    · exact .inr (turn_work he hu hlt)

theorem main_enabled (hi : p.Inv s) (hended : ∀ u ∈ s.threads, u.hasEnded = true)
    (hpoint : ¬ (s.point = .complete ∨ ∃ t, s.point = .failed t)) : ∃ s', p.main s = some s' := by
  have hat := hi.atPoint
  cases hp : s.point with
  | reporting =>
    simp only [AtPoint, hp] at hat
    obtain ⟨r, hglobal, -⟩ := Main.exec_globalMetrics
    rcases Main.startStatReporting_startsIff p.settings s.reporters (List.nil_subset _) with
      ⟨-, hrun⟩ | ⟨-, reporters, hrun⟩
    · simp only [main, hp, report, hat.1, hglobal, hrun]
      exact ⟨_, rfl⟩
    · simp only [main, hp, report, hat.1, hglobal, hrun]
      exact ⟨_, rfl⟩
  | launching =>
    cases he : p.entries[s.threads.length]? with
    | none =>
      simp only [main, hp, launchNext, he]
      exact ⟨_, rfl⟩
    | some e =>
      rcases e.launch_outcome (p.environment s.threads.length) hi.sorted with
        ⟨-, -, x, hrun, -⟩ | ⟨t, x, hrun, -⟩
      · simp only [main, hp, launchNext, he, hrun]
        exact ⟨_, rfl⟩
      · simp only [main, hp, launchNext, he, hrun]
        exact ⟨_, rfl⟩
  | joining n =>
    cases hn : s.threads[n]? with
    | none =>
      simp only [main, hp, hn]
      exact ⟨_, rfl⟩
    | some t =>
      simp only [main, hp, hn, hended t (List.mem_of_getElem? hn), if_true]
      exact ⟨_, rfl⟩
  | complete => exact absurd (.inl hp) hpoint
  | failed t => exact absurd (.inr ⟨t, hp⟩) hpoint

theorem enabled (hp : p.Undisturbed) (hi : p.Inv s) (ht : p.TrackedThreads s) (hover : ¬ Over s) :
    ∃ action s', p.step s action = some s' ∧ p.work s' < p.work s := by
  by_cases hended : ∀ u ∈ s.threads, u.hasEnded = true
  · obtain ⟨s', hmain⟩ := main_enabled hi hended fun hpoint ↦ hover ⟨hpoint, hended⟩
    exact ⟨.main, s', hmain, main_work hi hmain⟩
  · simp only [not_forall, Bool.not_eq_true] at hended
    obtain ⟨u, hmem, hu⟩ := hended
    obtain ⟨i, hget⟩ := List.getElem?_of_mem hmem
    obtain ⟨hlt, -⟩ := List.getElem?_eq_some_iff.mp hget
    have he := List.getElem?_eq_getElem (Nat.lt_of_lt_of_le hlt hi.length_le)
    have hentry := List.mem_of_getElem? he
    obtain ⟨a, u', hadvance, hwork⟩ := EndpointThread.enabled (hp.uninterrupted i)
      (hp.count_lt _ hentry) (hp.count_lt_fuel _ hentry) (ht i _ u he hget) hu
    refine ⟨.thread i a, { s with threads := s.threads.set i u' }, ?_, turn_work he hget hwork⟩
    simp only [step, turn, he, hget, Option.bind_some, hadvance, Option.map_some]

theorem Over.stays (h : Over s) (action : ForkJoin.Action Turn) : p.step s action = none := by
  cases action with
  | main =>
    rcases h.point_eq with hpoint | ⟨t, hpoint⟩
    · simp only [step, main, hpoint]
    · simp only [step, main, hpoint]
  | thread i a =>
    cases hstep : p.step s (.thread i a) with
    | none => rfl
    | some s' =>
      obtain ⟨e, u, u', -, hu, hadvance, -⟩ := turn_threads hstep
      have hended := h.ended u (List.mem_of_getElem? hu)
      cases u with
      | ended c => cases hadvance
      | started => cases hended
      | handing messages s => cases hended

/-- Whatever is refused, and in whatever order `main` and the threads go on, the program comes to its
end. A run gets where it gets in a bounded number of its steps, the others only look at what a
handler has still to do; a state in which no step changes anything is an end, and one can always
be reached. -/
theorem program_ends (hp : p.Undisturbed) (hrun : p.run {} actions = some s) :
    (∃ moving : List (ForkJoin.Action Turn), moving.Sublist actions ∧ p.run {} moving = some s ∧
      moving.length ≤ p.mostSteps) ∧
    ((∀ action s', p.step s action = some s' → s' = s) ↔ Over s) ∧
    ∃ rest s', p.run s rest = some s' ∧ Over s' := by
  have hinit : p.Inv {} ∧ p.TrackedThreads {} :=
    ⟨init_inv, fun i e u _ hget ↦ by simp at hget⟩
  have hkeep : ∀ {s a s'}, p.Inv s ∧ p.TrackedThreads s → p.step s a = some s' →
      p.Inv s' ∧ p.TrackedThreads s' := by
    intro s a s' h hstep
    exact ⟨step_inv h.1 hstep, step_tracked hp h.2 hstep⟩
  have hs := Runs.invariant hkeep hinit hrun
  refine ⟨?_, ⟨fun hstuck ↦ ?_, fun h action s' hstep ↦ ?_⟩, ?_⟩
  · obtain ⟨moving, hsublist, hmoving, hle⟩ :=
      Runs.effective hkeep (fun h hstep ↦ step_work hp h.1 h.2 hstep) hinit hrun
    refine ⟨moving, hsublist, hmoving, (Nat.le_add_right _ _).trans (hle.trans ?_)⟩
    rw [work, mainWork, threadsWork_nil, mostSteps]
  · by_contra hover
    obtain ⟨action, s', hstep, hlt⟩ := enabled hp hs.1 hs.2 hover
    rw [hstuck action s' hstep] at hlt
    exact Nat.lt_irrefl _ hlt
  · rw [h.stays action] at hstep
    cases hstep
  · exact Runs.settles hkeep (fun h hover ↦ enabled hp h.1 h.2 hover) hs

/-- A transactional publisher, and one whose set-up fails while the first hands its message over. -/
def handingOver : Startup :=
  { noSession with
    tc :=
      { topicPublishers :=
          [{ oneMessage with id := some "a", isTransactional := true, transactionBatchSize := 1 }]
        queuePublishers := [{ oneMessage with id := some "b" }] } }

theorem program_ends_handingOver :
    let actions : List (ForkJoin.Action Turn) := List.replicate 3 .main ++
      List.replicate 11 (.thread 0 .producer) ++ List.replicate 3 (.thread 0 .handler)
    ∃ s, handingOver.run {} actions = some s ∧
      (∃ moving : List (ForkJoin.Action Turn), moving.Sublist actions ∧
        handingOver.run {} moving = some s ∧ moving.length ≤ handingOver.mostSteps) ∧
      ((∀ action s', handingOver.step s action = some s' → s' = s) ↔ Over s) ∧
      ∃ rest s', handingOver.run s rest = some s' ∧ Over s' := by
  intro actions
  have hruns : (handingOver.run {} actions).isSome := by decide +kernel
  obtain ⟨s, hs⟩ := Option.isSome_iff_exists.mp hruns
  have hp : handingOver.Undisturbed :=
    ⟨fun _ ↦ ⟨rfl, by simp [handingOver, noSession]⟩, by decide, by decide⟩
  exact ⟨s, hs, program_ends hp hs⟩

end Startup

end AndesTestClient
