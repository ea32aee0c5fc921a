import AndesTestClient.EventPoints
import AndesTestClient.Library.Runs
import AndesTestClient.TransactionalEvents

namespace AndesTestClient

open Imperative RingBuffer

namespace DisruptorBasedPublisher

open TxPublishHandler

def Shutdown.handler (s : Shutdown) : TxPublishHandler :=
  match s.ring.handler with
  | .idle h => h
  | .busy point _ => point.handler
  | .clearing h _ => h

variable {fuel k : ℕ} {messages : List ATCMessage} {h₀ h : TxPublishHandler} {s s' : Shutdown}
  {ms : List Move}

theorem moves_inv {d : Design PublishEvent HandlerPoint TxPublishHandler} (hi : d.Inv h₀ s.ring)
    (hk : Known d s) (hrun : moves d s ms = some s') : d.Inv h₀ s'.ring := by
  have hmoves : d.Inv h₀ s'.ring ∧ Known d s' := by
    apply Runs.invariant (P := fun s ↦ d.Inv h₀ s.ring ∧ Known d s) ?_ ⟨hi, hk⟩ hrun
    intro s m s₁ h hstep
    obtain ⟨hi₁, hk₁, -⟩ := move_known h.1 h.2 hstep
    exact ⟨hi₁, hk₁⟩
  exact hmoves.1

theorem init_known {d : Design PublishEvent HandlerPoint TxPublishHandler} :
    Known d { ring := d.init h₀ } := ⟨rfl, rfl⟩

theorem dealt_after (hk : k ≤ messages.length) (hd : (disruptor fuel messages).Dealt h₀ k h) :
    After fuel h₀ (messages.take k) h := by
  have hlength : k ≤ (messages.map PublishEvent.ofMessage).length := by rwa [List.length_map]
  rw [Design.Dealt, events_eq, List.take_append_of_le_length hlength, ← List.map_take] at hd
  exact callsAll_onEvents hd

theorem dealt_close (hd : (disruptor fuel messages).Dealt h₀ (messages.length + 1) h) :
    ∃ h₁, (disruptor fuel messages).Dealt h₀ messages.length h₁ ∧
      (disruptor fuel messages).Calls .close h₁ h := by
  rw [Design.Dealt, events_eq, List.take_of_length_le (by simp)] at hd
  obtain ⟨h₁, hcalls, hcall⟩ := hd.last
  refine ⟨h₁, ?_, hcall⟩
  rw [Design.Dealt, events_eq, List.take_left' (by simp)]
  exact hcalls

/-- A transactional publisher thread before its run, on a publisher that has sent nothing yet. -/
structure Entering (t : PublisherThread) : Prop where
  transactional : t.publisher.config.isTransactional = true
  ready : t.publisher.Ready
  transaction_eq : t.publisher.session.transaction = []
  committed_eq : t.publisher.session.committed = []
  trace_eq : t.trace = []
  batch_pos : 1 ≤ t.publisher.config.transactionBatchSize.toInt
  rate_nonneg : 0 ≤ t.publisher.config.messagesPerSecond.toInt
  count_lt : t.publisher.config.messageCount.toInt < 2 ^ 31 - 1

def allMessages (t : PublisherThread) : List ATCMessage :=
  PublisherThread.transactionalMessages t.publisher.config t.publisher.config.messageCount.toInt.toNat

variable {t : PublisherThread}

theorem Entering.length_lt (he : Entering t) : (allMessages t).length < 2 ^ 31 := by
  have hN := he.count_lt
  rw [allMessages, PublisherThread.transactionalMessages, List.length_map, List.length_range]
  omega

theorem Entering.handler (he : Entering t) : ∃ h₀,
    TxPublishHandler.new t.publisher.config.transactionBatchSize t.publisher = .ok h₀ ∧ Fresh h₀ ∧
      h₀.batchSize = t.publisher.config.transactionBatchSize ∧ h₀.publisher = t.publisher := by
  have hbatch := he.batch_pos
  have hnew : TxPublishHandler.new t.publisher.config.transactionBatchSize t.publisher = _ :=
    new_ok (by omega)
  exact ⟨_, hnew, new_fresh hnew he.ready he.transaction_eq he.committed_eq⟩

theorem Entering.run (he : Entering t) (hfuel : t.publisher.config.messageCount.toInt.toNat +
    t.publisher.createFaults.length < fuel) : ∃ t', exec (PublisherThread.run fuel) t = some (.ok (), t') ∧
      t'.published = (allMessages t).map .ofMessage ++ [.close] := by
  have hbatch := he.batch_pos
  obtain ⟨t', hrun, hpublished⟩ := PublisherThread.transactionalPublish_published he.trace_eq
    (by omega) he.rate_nonneg he.count_lt hfuel
  exact ⟨t', (PublisherThread.run_transactional he.transactional fuel).trans hrun, hpublished⟩

theorem dealt_closed (he : Entering t) (hfresh : Fresh h₀)
    (hbatch : h₀.batchSize = t.publisher.config.transactionBatchSize)
    (hpublisher : h₀.publisher = t.publisher) (hfaults : t.publisher.faults.length < fuel)
    (hd : (disruptor fuel (allMessages t)).Dealt h₀ ((allMessages t).length + 1) h) :
    (t.publisher.closeFaults = [] ∧ h.publisher.sessionOpen = false ∧
      h.publisher.connectionOpen = false ∧ ∃ n ≤ (allMessages t).length, Shown (allMessages t) n h ∧
        ((allMessages t).length : ℤ) < n + t.publisher.config.transactionBatchSize.toInt) ∨
    (t.publisher.closeFaults ≠ [] ∧ Shown (allMessages t) (allMessages t).length h) := by
  have hB : 1 ≤ h₀.batchSize.toInt := hbatch ▸ he.batch_pos
  have hfuel : h₀.publisher.faults.length < fuel := hpublisher ▸ hfaults
  obtain ⟨g, hd, point, hreach, hlast⟩ := dealt_close hd
  have ha := dealt_after le_rfl hd
  obtain ⟨n, hr⟩ := ha.atRest hfresh hB hfuel le_rfl
  have hclose : g.publisher.closeFaults = t.publisher.closeFaults := by
    rw [ha.closeFaults_eq hfresh hB hfuel, hpublisher]
  have hpending := hr.pending_lt
  rw [hr.pending_length le_rfl, hbatch] at hpending
  rw [← hclose]
  rcases (Closing.reach hr hreach).leave hr hfuel he.length_lt hlast with
    ⟨hf, hsession, hconnection, hshown⟩ | ⟨hf, hshown⟩
  · exact .inl ⟨hf, hsession, hconnection, n, hr.le, hshown, by omega⟩
  · exact .inr ⟨hf, hshown⟩

/-- When `shutdown` has returned and its timeout has not passed, either the publisher is closed and
what is missing at the broker is shorter than a batch, or closing has failed and nothing is
missing. -/
theorem shutdown_delivers (he : Entering t) (hfaults : t.publisher.faults.length < fuel)
    {h₀ : TxPublishHandler}
    (hnew : TxPublishHandler.new t.publisher.config.transactionBatchSize t.publisher = .ok h₀)
    (hmoves : moves (disruptor fuel (allMessages t))
      { ring := (disruptor fuel (allMessages t)).init h₀ } ms = some s)
    (hreturned : s.point = .returned) (hpatient : .timeout ∉ ms) :
    (t.publisher.closeFaults = [] ∧ s.handler.publisher.sessionOpen = false ∧
      s.handler.publisher.connectionOpen = false ∧ ∃ n ≤ (allMessages t).length,
        Shown (allMessages t) n s.handler ∧
        ((allMessages t).length : ℤ) < n + t.publisher.config.transactionBatchSize.toInt) ∨
    (t.publisher.closeFaults ≠ [] ∧
      Shown (allMessages t) (allMessages t).length s.handler) := by
  obtain ⟨h₁, hnew₁, hfresh, hbatch, hpublisher⟩ := he.handler
  cases hnew.symm.trans hnew₁
  have hinit := Design.init_inv (disruptor fuel (allMessages t)) h₀
  have hi := moves_inv hinit init_known hmoves
  obtain ⟨hk, hlog⟩ := moves_known hinit init_known hmoves
  have hquiet : s.errorLogged ≠ true := fun h ↦ hpatient (by simpa [h] using hlog)
  simp only [Known, hreturned] at hk
  obtain ⟨⟨hpublished, hhandled, -⟩, -⟩ := hk.resolve_right fun h ↦ hquiet h.2
  obtain ⟨h, hidle⟩ := hi.idle_of_drained hhandled
  have hall : s.ring.handled = (allMessages t).length + 1 := by
    rw [hhandled, hpublished]
    simp [disruptor]
  have hsound := hi.sound
  simp only [Design.Sound, hidle, hall] at hsound
  rw [Shutdown.handler, hidle]
  exact dealt_closed he hfresh hbatch hpublisher hfaults hsound.1

theorem shutdown_delivers_pending :
    let config : PublisherConfig := { messageCount := 1, isTransactional := true, transactionBatchSize := 2 }
    let t : PublisherThread :=
      { publisher := { SimplePublisher.init .queueSender config with closeFaults := [0] } }
    let ms : List Move := [List.replicate 8 .producer, List.replicate 17 .handler,
      List.replicate 3 .producer].flatten
    ∃ h₀ s, TxPublishHandler.new config.transactionBatchSize t.publisher = .ok h₀ ∧
      moves (disruptor 1 (allMessages t)) { ring := (disruptor 1 (allMessages t)).init h₀ } ms = some s ∧
      s.point = .returned ∧
      ((t.publisher.closeFaults = [] ∧ s.handler.publisher.sessionOpen = false ∧
        s.handler.publisher.connectionOpen = false ∧ ∃ n ≤ (allMessages t).length,
          Shown (allMessages t) n s.handler ∧
          ((allMessages t).length : ℤ) < n + t.publisher.config.transactionBatchSize.toInt) ∨
      (t.publisher.closeFaults ≠ [] ∧ Shown (allMessages t) (allMessages t).length s.handler)) := by
  intro config t ms
  have he : Entering t :=
    ⟨rfl, ⟨rfl, rfl, rfl⟩, rfl, rfl, rfl, by decide, by decide, by decide⟩
  let h₀ : TxPublishHandler := { batchSize := 2, publisher := t.publisher }
  have hruns : (moves (disruptor 1 (allMessages t)) { ring := (disruptor 1 (allMessages t)).init h₀ }
      ms).map Shutdown.point = some .returned := by decide +kernel
  obtain ⟨s, hs, hreturned⟩ := Option.map_eq_some_iff.mp hruns
  exact ⟨h₀, s, rfl, hs, hreturned, shutdown_delivers he (by decide) rfl hs hreturned (by decide)⟩

end DisruptorBasedPublisher

end AndesTestClient
