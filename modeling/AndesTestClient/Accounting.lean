import AndesTestClient.ForeignMessages
import AndesTestClient.Release

namespace AndesTestClient

open Imperative

theorem blocks_start {α : Type} (block : ℕ → List α) {k n : ℕ} (h : k < n) {l : List α}
    (hl : l <+: block k) : (List.range k).flatMap block ++ l <+: (List.range n).flatMap block := by
  obtain ⟨rest, hrest⟩ := hl
  obtain ⟨m, rfl⟩ := Nat.exists_eq_add_of_lt h
  have hrange : List.range (k + m + 1) =
      List.range k ++ k :: (List.range m).map (k + 1 + ·) := by
    rw [Nat.add_assoc, List.range_add, List.range_succ_eq_map, List.map_cons, List.map_map]
    congr 2
    apply List.map_congr_left
    intro i _
    simp only [Function.comp_apply]
    omega
  rw [hrange, List.flatMap_append, List.flatMap_cons, ← hrest, List.append_assoc,
    List.prefix_append_right_inj]
  exact List.prefix_append _ _

namespace PublisherThread

def plainMessages (config : PublisherConfig) (n : ℕ) : List ATCMessage :=
  (List.range n).map fun k ↦ plainMessage config (Int32.ofNat (k + 1))

theorem plainMessages_succ (config : PublisherConfig) (n : ℕ) : plainMessages config (n + 1) =
    plainMessages config n ++ [plainMessage config (Int32.ofNat (n + 1))] := by
  rw [plainMessages, List.range_succ, List.map_append, List.map_singleton, plainMessages]

/-- On a session without transactions the broker shows the first `n` messages, each as it was sent. -/
def Visible (config : PublisherConfig) (n : ℕ) (p : SimplePublisher) : Prop :=
  List.Forall₂ (fun m tx ↦ List.Forall₂ MessageUtils.Carries [m] tx) (plainMessages config n)
    p.session.committed

theorem visible_iff {config : PublisherConfig} {n : ℕ} {p : SimplePublisher} : Visible config n p ↔
    p.session.committed = (plainMessages config n).map fun m ↦ [MessageUtils.fromATCToJMS m] := by
  have hone : ∀ m tx, List.Forall₂ MessageUtils.Carries [m] tx ↔ tx = [MessageUtils.fromATCToJMS m] :=
    fun _ _ ↦ MessageUtils.forall₂_carries_iff
  exact forall₂_iff_eq_map hone

structure Sent (t : PublisherThread) (limited : Bool) (k : ℕ) (t' : PublisherThread) : Prop where
  transacted_eq : t'.publisher.session.transacted = false
  visible : Visible t.publisher.config k t'.publisher
  faults_suffix : t'.publisher.faults <:+ t.publisher.faults
  sentCount_eq : t'.sentCount.added = k
  publishRate_eq : t'.publishRate.count = k
  trace_eq : t'.trace = passes (publishPass t.publisher.config limited) k

/-- After a run, however it came to its end: `k` messages have been counted, and the broker shows them
and at most one more, whose send has raised after it acted. -/
structure Accounted (t : PublisherThread) (n k v : ℕ) (t' : PublisherThread) : Prop where
  sentCount_eq : t'.sentCount.added = k
  publishRate_eq : t'.publishRate.count = k
  visible : Visible t.publisher.config v t'.publisher
  le_visible : k ≤ v
  visible_le : v ≤ n
  ahead : v ≠ k → v = k + 1 ∧ .raises true ∈ t.publisher.faults

structure Untouched (t : PublisherThread) : Prop where
  transacted_eq : t.publisher.session.transacted = false
  committed_eq : t.publisher.session.committed = []
  sentCount_eq : t.sentCount.added = 0
  publishRate_eq : t.publishRate.count = 0
  trace_eq : t.trace = []

variable {t t₁ t' : PublisherThread} {limited : Bool} {fuel n k v : ℕ}

theorem Untouched.sent (hu : Untouched t) : Sent t limited 0 t where
  transacted_eq := hu.transacted_eq
  visible := visible_iff.mpr hu.committed_eq
  faults_suffix := List.suffix_rfl
  sentCount_eq := hu.sentCount_eq
  publishRate_eq := hu.publishRate_eq
  trace_eq := hu.trace_eq

theorem Visible.send {config : PublisherConfig} {p q : SimplePublisher} (hv : Visible config k p)
    (htransacted : p.session.transacted = false)
    (hq : q.session = p.session.send (MessageUtils.fromATCToJMS (plainMessage config (Int32.ofNat (k + 1))))) :
    Visible config (k + 1) q ∧ q.session.transacted = false := by
  have hsent : q.session = { p.session with committed := p.session.committed ++
      [[MessageUtils.fromATCToJMS (plainMessage config (Int32.ofNat (k + 1)))]] } := by
    have hnot : ¬ p.session.transacted = true := by
      rw [htransacted]
      exact Bool.false_ne_true
    rw [hq, Session.send, if_neg hnot]
  refine ⟨?_, ?_⟩
  · rw [visible_iff, hsent, plainMessages_succ, List.map_append, List.map_singleton,
      ← visible_iff.mp hv]
  · rw [hsent]
    exact htransacted

theorem sendSteps_start (config : PublisherConfig) (limited : Bool) (i : Int32) :
    sendSteps config limited i <+: publishPass config limited i := List.prefix_append _ _

theorem Sent.stopped (h : Sent t limited k t₁) (hk : k < n) {l : List PublisherStep}
    (hl : l <+: publishPass t.publisher.config limited (Int32.ofNat (k + 1))) :
    t₁.trace ++ l <+: passes (publishPass t.publisher.config limited) n := by
  rw [h.trace_eq]
  exact blocks_start (fun k ↦ publishPass t.publisher.config limited (Int32.ofNat (k + 1))) hk hl

theorem Sent.accounted (h : Sent t limited k t₁) (hk : k ≤ n) : Accounted t n k k t₁ where
  sentCount_eq := h.sentCount_eq
  publishRate_eq := h.publishRate_eq
  visible := h.visible
  le_visible := le_rfl
  visible_le := hk
  ahead hne := absurd rfl hne

theorem Accounted.of_eq (h : Accounted t n k v t₁) (hsent : t'.sentCount = t₁.sentCount)
    (hrate : t'.publishRate = t₁.publishRate)
    (hcommitted : t'.publisher.session.committed = t₁.publisher.session.committed) :
    Accounted t n k v t' where
  sentCount_eq := by rw [hsent, h.sentCount_eq]
  publishRate_eq := by rw [hrate, h.publishRate_eq]
  visible := by
    rw [Visible, hcommitted]
    exact h.visible
  le_visible := h.le_visible
  visible_le := h.visible_le
  ahead := h.ahead

theorem Sent.counted (h : Sent t limited k t₁) {q : SimplePublisher} (u : Thread)
    (hsession : q.session = t₁.publisher.session.send
      (MessageUtils.fromATCToJMS (plainMessage t.publisher.config (Int32.ofNat (k + 1)))))
    (hsuffix : q.faults <:+ t₁.publisher.faults) :
    Sent t limited (k + 1) { t₁ with
      publisher := q
      sentCount := t₁.sentCount.incrementAndGet
      publishRate := t₁.publishRate.mark 1
      thread := u
      trace := t₁.trace ++ publishPass t.publisher.config limited (Int32.ofNat (k + 1)) } := by
  have hone : Int32.toInt 1 = 1 := rfl
  obtain ⟨hvisible, htransacted⟩ := h.visible.send h.transacted_eq hsession
  refine ⟨htransacted, hvisible, hsuffix.trans h.faults_suffix, ?_, ?_, ?_⟩
  · simp only [AtomicInteger.incrementAndGet, AtomicInteger.addAndGet, h.sentCount_eq, hone]
    exact (Nat.cast_succ k).symm
  · simp only [Meter.mark, h.publishRate_eq, hone]
    exact (Nat.cast_succ k).symm
  · simp only [h.trace_eq, passes_succ]

theorem Sent.pass (h : Sent t limited k t₁) (hk : k < n) :
    ∃ r t₂, exec (publishBody t.publisher.config limited (Int32.ofNat (k + 1))) t₁ = some (r, t₂) ∧
      ((r = .ok (Int32.ofNat (k + 1)) ∧ Sent t limited (k + 1) t₂) ∨
        (∃ e, r = .error e ∧ e.Handled ∧ (∃ k' v, Accounted t n k' v t₂) ∧
          t₂.trace <+: passes (publishPass t.publisher.config limited) n)) := by
  obtain ⟨r, t₂, hrun, ho⟩ :=
    publishBody_outcome t.publisher.config limited (Int32.ofNat (k + 1)) t₁
  refine ⟨r, t₂, hrun, ?_⟩
  cases ho with
  | @createFailed e q hcreate =>
    obtain ⟨r', q', hcreate', hr'⟩ := SimplePublisher.createTextMessage_ends
      (messageContent t.publisher.config) t₁.publisher
    cases hcreate.symm.trans hcreate'
    obtain ⟨e', he⟩ : ∃ e', e = .atcException e' := by
      rcases hr' with ⟨hok, -⟩ | ⟨e', he, -⟩
      · cases hok
      · cases he
        exact ⟨e', rfl⟩
    have hsession := (SimplePublisher.createTextMessage_frame hcreate).1
    refine .inr ⟨e, rfl, .inl ⟨e', he⟩, ⟨k, k, (h.accounted hk.le).of_eq rfl rfl ?_⟩, h.stopped hk ?_⟩
    · exact congrArg Session.committed hsession
    · exact ⟨_, rfl⟩
  | @sendFailed e q q' hcreate hsend =>
    obtain ⟨hsession, hfaults⟩ := SimplePublisher.createTextMessage_frame hcreate
    obtain ⟨r', q₁, hsend', -, ⟨hok, -⟩ | ⟨⟨e', he⟩, hcase⟩⟩ := SimplePublisher.send_outcome
      (plainMessage t.publisher.config (Int32.ofNat (k + 1))) q
    · rw [hok, hsend] at hsend'
      cases hsend'
    cases hsend.symm.trans hsend'
    cases he
    refine .inr ⟨_, rfl, .inl ⟨e', rfl⟩, ?_, h.stopped hk (sendSteps_start _ _ _)⟩
    rcases hcase with hunsent | ⟨hacted, hraises⟩
    · refine ⟨k, k, (h.accounted hk.le).of_eq rfl rfl ?_⟩
      exact congrArg Session.committed (hunsent.trans hsession)
    · rw [hsession] at hacted
      rw [hfaults] at hraises
      refine ⟨k, k + 1, h.sentCount_eq, h.publishRate_eq, ?_, Nat.le_succ k, hk, fun _ ↦ ⟨rfl, ?_⟩⟩
      · exact (h.visible.send h.transacted_eq hacted).1
      · exact h.faults_suffix.subset hraises
  | @sent q q' r u hcreate hsend hwait =>
    obtain ⟨hsession, hfaults⟩ := SimplePublisher.createTextMessage_frame hcreate
    obtain ⟨r', q₁, hsend', hsuffix, ⟨-, hsent⟩ | ⟨⟨e', he⟩, -⟩⟩ := SimplePublisher.send_outcome
      (plainMessage t.publisher.config (Int32.ofNat (k + 1))) q
    case inr =>
      rw [he, hsend] at hsend'
      cases hsend'
    cases hsend.symm.trans hsend'
    rw [hsession] at hsent
    have hnext := h.counted u hsent (hfaults ▸ hsuffix)
    have hr : r = .ok () ∨ r = .error .interruptedException := by
      split at hwait
      · obtain ⟨r', u', hsleep, hr', -⟩ := Thread.sleep_ends t₁.thread
        cases hwait.symm.trans hsleep
        exact hr'
      · exact .inl hwait.1
    rcases hr with rfl | rfl
    · exact .inl ⟨rfl, hnext⟩
    · exact .inr ⟨_, rfl, .inr rfl, ⟨k + 1, k + 1, hnext.accounted hk⟩, h.stopped hk List.prefix_rfl⟩

/-- For any failures of its creations, sends and closes and any interrupts: a run returns, its steps
are the first steps of an undisturbed run, and the messages counted are those that the broker shows,
but for the last one when its send has raised after it acted. -/
theorem publish_accounted (hu : Untouched t) (hrate : 0 ≤ t.publisher.config.messagesPerSecond.toInt)
    (hN : t.publisher.config.messageCount.toInt < 2 ^ 31 - 1)
    (hfuel : t.publisher.config.messageCount.toInt.toNat < fuel) :
    ∃ t' k v, exec (publish fuel) t = some (.ok (), t') ∧
      t'.trace <+: passes (publishPass t.publisher.config
        (t.publisher.config.messagesPerSecond ≠ 0)) t.publisher.config.messageCount.toInt.toNat ++
          [.close] ∧
      Accounted t t.publisher.config.messageCount.toInt.toNat k v t' := by
  let N := t.publisher.config.messageCount.toInt.toNat
  let limited : Bool := decide (t.publisher.config.messagesPerSecond ≠ 0)
  have hloop := countedLoop_progress (publishBody t.publisher.config limited) (Sent t limited)
    (fun e t' ↦ e.Handled ∧ (∃ k v, Accounted t N k v t') ∧
      t'.trace <+: passes (publishPass t.publisher.config limited) N) (fun _ ↦ 0) rfl hN
    (fun k hk t₁ h ↦ by
      obtain ⟨r, t₂, hrun, ⟨rfl, h₂⟩ | ⟨e, rfl, hstop⟩⟩ := h.pass hk
      · exact ⟨_, t₂, hrun, .inl ⟨rfl, h₂, le_rfl⟩⟩
      · exact ⟨_, t₂, hrun, .inr (.inr ⟨e, rfl, hstop⟩)⟩)
    (s := t) hu.sent (by omega)
  rw [publish_run hrate]
  obtain ⟨r, t₁, hrun, ⟨rfl, h⟩ | ⟨e, rfl, he, ⟨k, v, ha⟩, htrace⟩⟩ := hloop
  · obtain ⟨r, q, hclose, hq, hr⟩ := SimplePublisher.close_outcome t₁.publisher
    have htail : exec (do
        countedLoop t.publisher.config.messageCount (publishBody t.publisher.config limited) fuel 1
        log .close
        onPublisher SimplePublisher.close) t =
          some (r, { t₁ with trace := t₁.trace ++ [.close], publisher := q }) := by
      rw [exec_bind_ok hrun, exec_bind_ok (exec_log .close t₁)]
      exact exec_onPublisher (t := { t₁ with trace := t₁.trace ++ [.close] }) hclose
    have htrace : t₁.trace ++ [.close] <+:
        passes (publishPass t.publisher.config limited) N ++ [.close] := by
      exact (congrArg (· ++ [.close]) h.trace_eq).symm ▸ List.prefix_rfl
    have ha : Accounted t N N N { t₁ with trace := t₁.trace ++ [.close], publisher := q } :=
      (h.accounted le_rfl).of_eq rfl rfl hq.committed_eq
    rcases hr with ⟨-, rfl, -⟩ | ⟨-, e, rfl⟩
    · exact ⟨_, N, N, exec_tryCatch_ok htail, htrace, ha⟩
    · exact ⟨_, N, N, exec_tryCatch_error htail, htrace, ha⟩
  · have htrace := htrace.trans (List.prefix_append _ [.close])
    rcases he with ⟨message, rfl⟩ | rfl
    · exact ⟨t₁, k, v, exec_tryCatch_error (exec_bind_error hrun), htrace, ha⟩
    · exact ⟨_, k, v, exec_tryCatch_error (exec_bind_error hrun), htrace, ha.of_eq rfl rfl rfl⟩

theorem publish_accounted_ahead :
    let conf : PublisherConfig := { id := some "p", messageCount := 3, messagesPerSecond := 10 }
    let t : PublisherThread := { publisher :=
      { SimplePublisher.init .topicPublisher conf with faults := [.returns, .raises true] } }
    ∃ t' k v, exec (publish 4) t = some (.ok (), t') ∧
      t'.trace <+: passes (publishPass conf (conf.messagesPerSecond ≠ 0)) conf.messageCount.toInt.toNat ++
        [.close] ∧
      Accounted t conf.messageCount.toInt.toNat k v t' := by
  intro conf t
  exact publish_accounted (t := t) ⟨rfl, rfl, rfl, rfl, rfl⟩ (by decide) (by decide) (by decide)

end PublisherThread

namespace ConsumerThread

structure Metered (t : ConsumerThread) (k : ℕ) (t' : ConsumerThread) : Prop where
  receivedCount_eq : t'.receivedCount.added = t.receivedCount.added + k
  consumerRate_eq : t'.consumerRate.count = t.consumerRate.count + k
  globalConsumerRate_eq : t'.globalConsumerRate.count = t.globalConsumerRate.count + k
  latencyHist_eq : t'.latencyHist = t.latencyHist ++ latencies t.clock t.consumer.incoming k
  globalLatencyHist_eq :
    t'.globalLatencyHist = t.globalLatencyHist ++ latencies t.clock t.consumer.incoming k

structure Passed (t : ConsumerThread) (limited : Bool) (k : ℕ) (t' : ConsumerThread) : Prop where
  position : t'.consumer.At t.consumer.incoming k
  metered : Metered t k t'
  clock_eq : t'.clock = t.clock.drop k
  trace_eq : t'.trace = t.trace ++ passes t.consumer.config limited t.consumer.incoming k

/-- After a run, however it came to its end: `k` messages have been counted, and at most one more has
been taken from the broker. -/
structure Accounted (t : ConsumerThread) (n k : ℕ) (t' : ConsumerThread) : Prop where
  metered : Metered t k t'
  position : t'.consumer.At t.consumer.incoming k ∨ t'.consumer.At t.consumer.incoming (k + 1)
  le : k ≤ n

variable {t t₁ t' : ConsumerThread} {limited : Bool} {fuel n k : ℕ}

theorem Metered.of_eq (h : Metered t k t₁) (hcount : t'.receivedCount = t₁.receivedCount)
    (hrate : t'.consumerRate = t₁.consumerRate)
    (hglobalRate : t'.globalConsumerRate = t₁.globalConsumerRate)
    (hhist : t'.latencyHist = t₁.latencyHist)
    (hglobalHist : t'.globalLatencyHist = t₁.globalLatencyHist) : Metered t k t' where
  receivedCount_eq := by rw [hcount, h.receivedCount_eq]
  consumerRate_eq := by rw [hrate, h.consumerRate_eq]
  globalConsumerRate_eq := by rw [hglobalRate, h.globalConsumerRate_eq]
  latencyHist_eq := by rw [hhist, h.latencyHist_eq]
  globalLatencyHist_eq := by rw [hglobalHist, h.globalLatencyHist_eq]

theorem pass_eq (config : SubscriberConfig) (limited : Bool) (m : JmsMessage) (i : Int32) :
    pass config limited m i = startSteps limited i ++ [.received (MessageUtils.fromJMSToATC m)] ++
      waitSteps config ++ delaySteps config := by
  simp only [pass, startSteps, waitSteps, delaySteps, List.append_assoc]

theorem Passed.stopped (h : Passed t limited k t₁) (hk : k < n) {l : List ConsumerStep}
    (hl : l <+: pass t.consumer.config limited (t.consumer.incoming k) (Int32.ofNat (k + 1))) :
    t₁.trace ++ l <+: t.trace ++ passes t.consumer.config limited t.consumer.incoming n := by
  rw [h.trace_eq, List.append_assoc, List.prefix_append_right_inj]
  exact blocks_start
    (fun k ↦ pass t.consumer.config limited (t.consumer.incoming k) (Int32.ofNat (k + 1))) hk hl

theorem timestamp_eq {j : JmsMessage} {m : ATCMessage} (hm : some m = MessageUtils.fromJMSToATC j) :
    m.timestamp = j.jmsTimestamp := by
  unfold MessageUtils.fromJMSToATC at hm
  cases hbody : j.body with
  | text text =>
    rw [hbody] at hm
    cases hm
    rfl
  | other =>
    rw [hbody] at hm
    cases hm

theorem Passed.counted (h : Passed t limited k t₁) {c : SimpleConsumer} {m : ATCMessage} (u : Thread)
    (hposition : c.At t.consumer.incoming (k + 1))
    (hm : some m = MessageUtils.fromJMSToATC (t.consumer.incoming k)) :
    Passed t limited (k + 1) { t₁ with
      consumer := c
      latencyHist := t₁.latencyHist ++ [t₁.clock.headD 0 - m.timestamp]
      globalLatencyHist := t₁.globalLatencyHist ++ [t₁.clock.headD 0 - m.timestamp]
      receivedCount := t₁.receivedCount.incrementAndGet
      consumerRate := t₁.consumerRate.mark 1
      globalConsumerRate := t₁.globalConsumerRate.mark 1
      thread := u
      clock := t₁.clock.tail
      trace := t₁.trace ++ startSteps limited (Int32.ofNat (k + 1)) ++ [.received (some m)] ++
        waitSteps t.consumer.config ++ delaySteps t.consumer.config } := by
  have hone : Int32.toInt 1 = 1 := rfl
  have hmetered := h.metered
  have hnow : t₁.clock.headD 0 = t.clock.getD k 0 := by
    rw [h.clock_eq]
    exact headD_drop t.clock k 0
  refine ⟨hposition, ⟨?_, ?_, ?_, ?_, ?_⟩, ?_, ?_⟩
  · simp only [AtomicInteger.incrementAndGet, AtomicInteger.addAndGet, hone,
      hmetered.receivedCount_eq, Nat.cast_succ, add_assoc]
  · simp only [Meter.mark, hone, hmetered.consumerRate_eq, Nat.cast_succ, add_assoc]
  · simp only [Meter.mark, hone, hmetered.globalConsumerRate_eq, Nat.cast_succ, add_assoc]
  · rw [latencies_succ, ← List.append_assoc, ← hmetered.latencyHist_eq, hnow, timestamp_eq hm]
  · rw [latencies_succ, ← List.append_assoc, ← hmetered.globalLatencyHist_eq, hnow, timestamp_eq hm]
  · change t₁.clock.tail = _
    rw [h.clock_eq, List.tail_drop]
  · change t₁.trace ++ _ ++ _ ++ _ ++ _ = _
    rw [h.trace_eq, passes_succ, pass_eq, ← hm]
    simp only [List.append_assoc]

theorem Passed.next (h : Passed t limited k t₁) (hk : k < n) :
    ∃ r t₂, exec (consumeBody t.consumer.config limited (Int32.ofNat (k + 1))) t₁ = some (r, t₂) ∧
      ((r = .ok (Int32.ofNat (k + 1)) ∧ Passed t limited (k + 1) t₂) ∨
        (∃ e, r = .error e ∧ (e.Handled ∨ e = .nullPointerException) ∧ (∃ k', Accounted t n k' t₂) ∧
          t₂.trace <+: t.trace ++ passes t.consumer.config limited t.consumer.incoming n)) := by
  obtain ⟨r', c', hreceive', hcase⟩ := SimpleConsumer.receive_outcome h.position
  obtain ⟨r, t₂, hrun, ho⟩ := consumeBody_outcome t.consumer.config limited (Int32.ofNat (k + 1)) t₁
  refine ⟨r, t₂, hrun, ?_⟩
  cases ho with
  | @receiveFailed e c hreceive =>
    cases hreceive.symm.trans hreceive'
    obtain ⟨hok, -⟩ | ⟨⟨e', he⟩, hposition⟩ := hcase
    · cases hok
    cases he
    refine .inr ⟨_, rfl, .inl (.inl ⟨e', rfl⟩), ⟨k, h.metered.of_eq rfl rfl rfl rfl rfl, hposition, hk.le⟩,
      h.stopped hk ?_⟩
    rw [pass_eq, List.append_assoc, List.append_assoc]
    exact List.prefix_append _ _
  | @nullMessage c u hreceive hwait =>
    cases hreceive.symm.trans hreceive'
    obtain ⟨hok, hposition⟩ | ⟨⟨e', he⟩, -⟩ := hcase
    case inr => cases he
    refine .inr ⟨_, rfl, .inr rfl, ⟨k, h.metered.of_eq rfl rfl rfl rfl rfl, .inr hposition, hk.le⟩, ?_⟩
    have hbeginning : startSteps limited (Int32.ofNat (k + 1)) ++ [.received none] ++
        waitSteps t.consumer.config <+: pass t.consumer.config limited (t.consumer.incoming k)
          (Int32.ofNat (k + 1)) := by
      rw [pass_eq, ← Except.ok.inj hok]
      exact List.prefix_append _ _
    have hstopped := h.stopped hk hbeginning
    simp only [← List.append_assoc] at hstopped ⊢
    exact hstopped
  | @counted m c u u' r hreceive hwait hdelay =>
    cases hreceive.symm.trans hreceive'
    obtain ⟨hok, hposition⟩ | ⟨⟨e', he⟩, -⟩ := hcase
    case inr => cases he
    have hm : some m = MessageUtils.fromJMSToATC (t.consumer.incoming k) := Except.ok.inj hok
    have hnext := h.counted u' hposition hm
    have hr := (delay_outcome hdelay).1
    rcases hr with rfl | rfl
    · exact .inl ⟨rfl, hnext⟩
    · refine .inr ⟨_, rfl, .inl (.inr rfl), ⟨k + 1, hnext.metered, .inl hposition, hk⟩, ?_⟩
      have hstopped := h.stopped hk (List.prefix_refl (pass t.consumer.config limited
        (t.consumer.incoming k) (Int32.ofNat (k + 1))))
      rw [pass_eq, ← hm] at hstopped
      simp only [← List.append_assoc] at hstopped ⊢
      exact hstopped

theorem finish_outcome (config : SubscriberConfig) {incoming : ℕ → JmsMessage}
    (h : t.consumer.At incoming n) : ∃ r c l, exec (finish config) t =
        some (r, { t with consumer := c, trace := t.trace ++ l }) ∧
      (r = .ok () ∨ ∃ e, r = .error (.atcException e)) ∧ c.At incoming n ∧ l <+: finishSteps config := by
  have hclose : ∀ t₁ : ConsumerThread, t₁.consumer.At incoming n → ∃ r c, exec (do
      log .close
      onConsumer SimpleConsumer.close) t₁ =
        some (r, { t₁ with consumer := c, trace := t₁.trace ++ [.close] }) ∧
      (r = .ok () ∨ ∃ e, r = .error (.atcException e)) ∧ c.At incoming n := by
    intro t₁ ht₁
    obtain ⟨r, c, hrun, hr, hc⟩ := SimpleConsumer.at_close ht₁
    refine ⟨r, c, ?_, hr, hc⟩
    rw [exec_bind_ok (exec_log .close t₁)]
    exact exec_onConsumer (t := { t₁ with trace := t₁.trace ++ [.close] }) hrun
  cases hu : config.unsubscribeOnFinish with
  | false =>
    obtain ⟨r, c, hrun, hr, hc⟩ := hclose t h
    refine ⟨r, c, [.close], ?_, hr, hc, ?_⟩
    · rw [finish, hu]
      exact hrun
    · rw [finishSteps, hu]
      exact List.prefix_rfl
  | true =>
    let t₁ : ConsumerThread := { t with trace := t.trace ++ [.unsubscribe] }
    obtain ⟨r, c, hrun, hr, hc⟩ := SimpleConsumer.at_unsubscribe h
    have hstep : exec (onConsumer SimpleConsumer.unsubscribe) t₁ =
        some (r, { t₁ with consumer := c }) := exec_onConsumer (t := t₁) hrun
    have hstart : exec (finish config) t = exec (do
        onConsumer SimpleConsumer.unsubscribe
        log .close
        onConsumer SimpleConsumer.close) t₁ := by
      rw [finish, hu, if_pos rfl, exec_bind_ok (exec_log .unsubscribe t)]
    have hsteps : finishSteps config = [.unsubscribe, .close] := by
      rw [finishSteps, hu]
      rfl
    rw [hstart, hsteps]
    rcases hr with rfl | ⟨e, rfl⟩
    · obtain ⟨r, c', hrun', hr', hc'⟩ := hclose { t₁ with consumer := c } hc
      refine ⟨r, c', [.unsubscribe, .close], ?_, hr', hc', List.prefix_rfl⟩
      rw [exec_bind_ok hstep, hrun']
      simp only [t₁, List.append_assoc, List.singleton_append]
    · exact ⟨_, c, [.unsubscribe], exec_bind_error hstep, .inr ⟨e, rfl⟩, hc, ⟨[.close], rfl⟩⟩

/-- For any messages, any failures of the calls on the broker and any interrupts: a run returns or
ends with the null pointer of a message that is not a text message, its steps are the first steps
of an undisturbed run, each counted message has gone into every metric once, and no more than one
message has been taken and not counted. -/
theorem run_accounted (hreceived : t.consumer.received = 0)
    (hrate : 0 ≤ t.consumer.config.messagesPerSecond.toInt)
    (hN : t.consumer.config.messageCount.toInt < 2 ^ 31 - 1)
    (hfuel : t.consumer.config.messageCount.toInt.toNat < fuel) :
    ∃ r t' k, exec (run fuel) t = some (r, t') ∧ (r = .ok () ∨ r = .error .nullPointerException) ∧
      t'.trace <+: t.trace ++ passes t.consumer.config (t.consumer.config.messagesPerSecond ≠ 0)
        t.consumer.incoming t.consumer.config.messageCount.toInt.toNat ++
          finishSteps t.consumer.config ∧
      Accounted t t.consumer.config.messageCount.toInt.toNat k t' := by
  let N := t.consumer.config.messageCount.toInt.toNat
  let limited : Bool := decide (t.consumer.config.messagesPerSecond ≠ 0)
  have hloop := countedLoop_progress (consumeBody t.consumer.config limited) (Passed t limited)
    (fun e t' ↦ (e.Handled ∨ e = .nullPointerException) ∧ (∃ k, Accounted t N k t') ∧
      t'.trace <+: t.trace ++ passes t.consumer.config limited t.consumer.incoming N) (fun _ ↦ 0) rfl hN
    (fun k hk t₁ h ↦ by
      obtain ⟨r, t₂, hrun, ⟨rfl, h₂⟩ | ⟨e, rfl, hstop⟩⟩ := h.next hk
      · exact ⟨_, t₂, hrun, .inl ⟨rfl, h₂, le_rfl⟩⟩
      · exact ⟨_, t₂, hrun, .inr (.inr ⟨e, rfl, hstop⟩)⟩)
    (s := t) ⟨⟨rfl, hreceived⟩, ⟨by simp, by simp, by simp, by simp [latencies], by simp [latencies]⟩, rfl,
      by simp [passes]⟩ (by omega)
  rw [run_eq hrate]
  obtain ⟨r, t₁, hrun, ⟨rfl, h⟩ | ⟨e, rfl, he, ⟨k, ha⟩, htrace⟩⟩ := hloop
  · obtain ⟨r, c, l, hfinish, hr, hc, hl⟩ := finish_outcome t.consumer.config h.position
    have htail : exec (do
        countedLoop t.consumer.config.messageCount (consumeBody t.consumer.config limited) fuel 1
        finish t.consumer.config) t = some (r, { t₁ with consumer := c, trace := t₁.trace ++ l }) := by
      rw [exec_bind_ok hrun, hfinish]
    have htrace : t₁.trace ++ l <+: t.trace ++
        passes t.consumer.config limited t.consumer.incoming N ++ finishSteps t.consumer.config := by
      rw [h.trace_eq, List.prefix_append_right_inj]
      exact hl
    have ha : Accounted t N N { t₁ with consumer := c, trace := t₁.trace ++ l } :=
      ⟨h.metered.of_eq rfl rfl rfl rfl rfl, .inl hc, le_rfl⟩
    rcases hr with rfl | ⟨e, rfl⟩
    · exact ⟨_, _, N, exec_tryCatch_ok htail, .inl rfl, htrace, ha⟩
    · exact ⟨_, _, N, exec_tryCatch_error htail, .inl rfl, htrace, ha⟩
  · have htrace := htrace.trans (List.prefix_append _ (finishSteps t.consumer.config))
    rcases he with (⟨message, rfl⟩ | rfl) | rfl
    · exact ⟨_, t₁, k, exec_tryCatch_error (exec_bind_error hrun), .inl rfl, htrace, ha⟩
    · exact ⟨_, _, k, exec_tryCatch_error (exec_bind_error hrun), .inl rfl, htrace,
        ha.metered.of_eq rfl rfl rfl rfl rfl, ha.position, ha.le⟩
    · exact ⟨_, t₁, k, exec_tryCatch_error (exec_bind_error hrun), .inr rfl, htrace, ha⟩

theorem run_accounted_acknowledgement :
    let conf : SubscriberConfig :=
      { messageCount := 3, enableClientAcknowledgment := true, unsubscribeOnFinish := true }
    let c : SimpleConsumer := .subscribe .durableTopicSubscriber conf fun _ ↦ { body := .text none }
    let t : ConsumerThread := { consumer :=
      { c with faults := [.returns, .returns, .returns, .raises true] } }
    ∃ r t' k, exec (run 4) t = some (r, t') ∧ (r = .ok () ∨ r = .error .nullPointerException) ∧
      t'.trace <+: t.trace ++ passes t.consumer.config (t.consumer.config.messagesPerSecond ≠ 0)
        t.consumer.incoming t.consumer.config.messageCount.toInt.toNat ++
          finishSteps t.consumer.config ∧
      Accounted t t.consumer.config.messageCount.toInt.toNat k t' := by
  intro conf c t
  exact run_accounted (t := t) rfl (by decide) (by decide) (by decide)

end ConsumerThread

end AndesTestClient
