import AndesTestClient.ConsumerThread

namespace AndesTestClient

open Imperative

namespace ConsumerThread

def latencies (clock : List Int64) (incoming : ℕ → JmsMessage) (n : ℕ) : List Int64 :=
  (List.range n).map fun k ↦ clock.getD k 0 - (incoming k).jmsTimestamp

theorem latencies_succ (clock : List Int64) (incoming : ℕ → JmsMessage) (n : ℕ) :
    latencies clock incoming (n + 1) =
      latencies clock incoming n ++ [clock.getD n 0 - (incoming n).jmsTimestamp] := by
  rw [latencies, List.range_succ, List.map_append, List.map_singleton, latencies]

structure Measured (t : ConsumerThread) (n : ℕ) (t' : ConsumerThread) : Prop where
  received_eq : t'.consumer.received = n
  receivedCount_eq : t'.receivedCount.added = t.receivedCount.added + n
  consumerRate_eq : t'.consumerRate.count = t.consumerRate.count + n
  globalConsumerRate_eq : t'.globalConsumerRate.count = t.globalConsumerRate.count + n
  latencyHist_eq : t'.latencyHist = t.latencyHist ++ latencies t.clock t.consumer.incoming n
  globalLatencyHist_eq :
    t'.globalLatencyHist = t.globalLatencyHist ++ latencies t.clock t.consumer.incoming n

structure Survived (t : ConsumerThread) (n : ℕ) (t' : ConsumerThread) : Prop where
  measured : Measured t n t'
  shut : t.consumer.Shut t'.consumer
  trace_eq : t'.trace = t.trace ++ passes t.consumer.config
    (t.consumer.config.messagesPerSecond ≠ 0) t.consumer.incoming n ++ finishSteps t.consumer.config

variable {t t' : ConsumerThread} {config : SubscriberConfig} {limited : Bool} {fuel n : ℕ}

structure Progressed (config : SubscriberConfig) (limited : Bool) (t : ConsumerThread) (k : ℕ)
    (t' : ConsumerThread) : Prop where
  consumed : Consumed config limited t k t'
  measured : Measured t k t'
  uninterrupted : t'.thread.Uninterrupted
  clock_eq : t'.clock = t.clock.drop k
  connectionOpen_eq : t'.consumer.connectionOpen = t.consumer.connectionOpen
  text : ∀ j < k, (t.consumer.incoming j).body ≠ .other

theorem Progressed.text_message {k : ℕ} {t₁ : ConsumerThread} {text : Option String}
    (h : Progressed config limited t k t₁) (htext : (t.consumer.incoming k).body = .text text) :
    ∃ t₂, exec (consumeBody config limited (Int32.ofNat (k + 1))) t₁ =
        some (.ok (Int32.ofNat (k + 1)), t₂) ∧ Progressed config limited t (k + 1) t₂ := by
  have hnext : t₁.consumer.incoming t₁.consumer.received = t.consumer.incoming k := by
    rw [h.consumed.same.incoming_eq, h.consumed.holds.received_eq]
  obtain ⟨r, t₂, hrun, htook, -, hcalm⟩ :=
    consumeBody_takes h.consumed.sound (Int32.ofNat (k + 1)) (by rw [hnext, htext])
  obtain ⟨rfl, hu⟩ := hcalm h.uninterrupted
  obtain ⟨r', t₂', hrun', ho⟩ := consumeBody_outcome config limited (Int32.ofNat (k + 1)) t₁
  rw [hrun] at hrun'
  have hr : .ok (Int32.ofNat (k + 1)) = r' := congrArg Prod.fst (Option.some.inj hrun')
  have ht : t₂ = t₂' := congrArg Prod.snd (Option.some.inj hrun')
  have hreceived := SimpleConsumer.exec_receive h.consumed.sound
  rw [hnext] at hreceived
  subst ht
  refine ⟨t₂, hrun, ?_⟩
  cases ho with
  | receiveFailed => cases hr
  | nullMessage => cases hr
  | @counted m c u u' r hreceive hwait hdelay =>
    rw [hreceived] at hreceive
    have hm := congrArg Prod.fst (Option.some.inj hreceive)
    have htime : m.timestamp = (t.consumer.incoming k).jmsTimestamp := by
      simp only [MessageUtils.fromJMSToATC, htext] at hm
      cases hm
      rfl
    have hnow : t₁.clock.headD 0 = t.clock.getD k 0 := by
      rw [h.clock_eq, List.headD_eq_head?_getD, List.head?_drop, List.getD_eq_getElem?_getD]
    have hconsumed := h.consumed.next htook
    have hone : Int32.toInt 1 = 1 := rfl
    have hrate := h.measured.consumerRate_eq
    have hglobalRate := h.measured.globalConsumerRate_eq
    refine ⟨hconsumed, ⟨hconsumed.holds.received_eq, hconsumed.receivedCount_eq, ?_, ?_, ?_, ?_⟩, hu,
      ?_, ?_, ?_⟩
    · simp only [Meter.mark, hone]
      omega
    · simp only [Meter.mark, hone]
      omega
    · rw [latencies_succ, ← List.append_assoc, ← h.measured.latencyHist_eq, hnow, htime]
    · rw [latencies_succ, ← List.append_assoc, ← h.measured.globalLatencyHist_eq, hnow, htime]
    · change t₁.clock.tail = _
      rw [h.clock_eq, List.tail_drop]
    · obtain ⟨settled, unsettled, hframe⟩ := t₁.consumer.afterReceive_frame
      rw [htook.consumer_eq, hframe]
      exact h.connectionOpen_eq
    · refine Nat.forall_lt_succ_right.mpr ⟨h.text, ?_⟩
      rw [htext]
      exact JmsBody.noConfusion

theorem Progressed.foreign_message {k : ℕ} {t₁ : ConsumerThread}
    (h : Progressed config limited t k t₁) (hbody : (t.consumer.incoming k).body = .other) :
    ∃ t₂, exec (consumeBody config limited (Int32.ofNat (k + 1))) t₁ =
        some (.error .nullPointerException, t₂) ∧
      t₂.consumer.connectionOpen = t.consumer.connectionOpen := by
  have hreceived := SimpleConsumer.exec_receive h.consumed.sound
  rw [h.consumed.same.incoming_eq, h.consumed.holds.received_eq] at hreceived
  have hnull : MessageUtils.fromJMSToATC (t.consumer.incoming k) = none := by
    simp only [MessageUtils.fromJMSToATC, hbody]
  rw [hnull] at hreceived
  obtain ⟨r, t₂, hrun, ho⟩ := consumeBody_outcome config limited (Int32.ofNat (k + 1)) t₁
  cases ho with
  | receiveFailed hreceive =>
    rw [hreceived] at hreceive
    cases hreceive
  | nullMessage hreceive =>
    rw [hreceived] at hreceive
    cases hreceive
    obtain ⟨settled, unsettled, hframe⟩ := t₁.consumer.afterReceive_frame
    refine ⟨_, hrun, ?_⟩
    rw [hframe]
    exact h.connectionOpen_eq
  | counted hreceive =>
    rw [hreceived] at hreceive
    cases hreceive

theorem loop_survives (config : SubscriberConfig) (limited : Bool) (hs : t.consumer.Sound)
    (hh : t.consumer.Holds 0) (hu : t.thread.Uninterrupted) {bound : Int64}
    (hbound : bound.toInt < 2 ^ 31 - 1) (hn : n = bound.toInt.toNat) (hfuel : n < fuel) :
    ∃ r t', exec (countedLoop bound (consumeBody config limited) fuel 1) t = some (r, t') ∧
      ((r = .ok () ∧ Progressed config limited t n t') ∨
        (r = .error .nullPointerException ∧
          t'.consumer.connectionOpen = t.consumer.connectionOpen ∧
          ∃ k < n, (t.consumer.incoming k).body = .other)) := by
  obtain ⟨r, t', hrun, ⟨rfl, ht'⟩ | ⟨e, rfl, rfl, hforeign⟩⟩ := countedLoop_progress
    (consumeBody config limited) (Progressed config limited t)
    (fun e t' ↦ e = .nullPointerException ∧
      t'.consumer.connectionOpen = t.consumer.connectionOpen ∧
      ∃ k < n, (t.consumer.incoming k).body = .other)
    (fun _ ↦ 0) hn hbound
    (by
      intro k hk t₁ h
      cases hbody : (t.consumer.incoming k).body with
      | text text =>
        obtain ⟨t₂, hrun, ht₂⟩ := h.text_message hbody
        exact ⟨_, t₂, hrun, .inl ⟨rfl, ht₂, le_rfl⟩⟩
      | other =>
        obtain ⟨t₂, hrun, hopen⟩ := h.foreign_message hbody
        exact ⟨_, t₂, hrun, .inr (.inr ⟨_, rfl, rfl, hopen, k, hk, hbody⟩)⟩)
    (s := t) ⟨⟨hs, .refl _, hh, by simp, by simp [passes]⟩,
      ⟨hh.received_eq, by simp, by simp, by simp, by simp [latencies], by simp [latencies]⟩, hu, rfl,
      rfl, fun j hj ↦ absurd hj (Nat.not_lt_zero j)⟩ (by omega)
  · exact ⟨_, t', hrun, .inl ⟨rfl, ht'⟩⟩
  · exact ⟨_, t', hrun, .inr ⟨rfl, hforeign⟩⟩

/-- Each run of a thread that nothing disturbs: it takes and measures its messages and closes the
consumer, or a message that is not a text message ends it outside its handlers and nothing is
closed. -/
theorem run_outcome (hs : t.consumer.Sound) (hh : t.consumer.Holds 0) (hu : t.thread.Uninterrupted)
    (hrate : 0 ≤ t.consumer.config.messagesPerSecond.toInt)
    (hN : t.consumer.config.messageCount.toInt < 2 ^ 31 - 1)
    (hn : n = t.consumer.config.messageCount.toInt.toNat) (hfuel : n < fuel) :
    ∃ r t', exec (run fuel) t = some (r, t') ∧
      ((r = .ok () ∧ Survived t n t' ∧ ∀ k < n, (t.consumer.incoming k).body ≠ .other) ∨
        (r = .error .nullPointerException ∧
          t'.consumer.connectionOpen = t.consumer.connectionOpen ∧
          ∃ k < n, (t.consumer.incoming k).body = .other)) := by
  rw [run_eq hrate]
  obtain ⟨r, t₁, hloop, ⟨rfl, h⟩ | ⟨rfl, hforeign⟩⟩ := loop_survives t.consumer.config
    (t.consumer.config.messagesPerSecond ≠ 0) hs hh hu hN hn hfuel
  · obtain ⟨c, hfinish, hclosed, hshut⟩ := exec_finish t.consumer.config h.consumed.sound
    have hm := h.measured
    refine ⟨_, _, exec_tryCatch_ok ((exec_bind_ok hloop).trans hfinish), .inl ⟨rfl, ⟨⟨?_,
      hm.receivedCount_eq, hm.consumerRate_eq, hm.globalConsumerRate_eq, hm.latencyHist_eq,
      hm.globalLatencyHist_eq⟩, ⟨hshut.consumerOpen_eq, hshut.sessionOpen_eq, ?_⟩, ?_⟩, h.text⟩⟩
    · exact hclosed.received_eq.trans hm.received_eq
    · rw [hshut.connectionOpen_eq, h.connectionOpen_eq, h.consumed.same.kind_eq]
    · rw [h.consumed.trace_eq]
  · exact ⟨_, t₁, exec_tryCatch_error (exec_bind_error hloop), .inr ⟨rfl, hforeign⟩⟩

/-- For each of the three receivers and every sequence of messages of any kinds: the run survives
exactly when its rate is accepted and the messages it takes are text messages. -/
theorem survives_iff (kind : ReceiverKind) (conf : SubscriberConfig) (incoming : ℕ → JmsMessage)
    {thread : Thread} (hu : thread.Uninterrupted) (clock : List Int64)
    (hN : conf.messageCount.toInt < 2 ^ 31 - 1) (hfuel : conf.messageCount.toInt.toNat < fuel) :
    (∃ t', exec (run fuel) (new kind conf incoming thread clock) = some (.ok (), t') ∧
        Survived (new kind conf incoming thread clock) conf.messageCount.toInt.toNat t') ↔
      0 ≤ conf.messagesPerSecond.toInt ∧
        ∀ k < conf.messageCount.toInt.toNat, (incoming k).body ≠ .other := by
  let t := new kind conf incoming thread clock
  by_cases hrate : 0 ≤ conf.messagesPerSecond.toInt
  case neg =>
    have hrefused := run_refused (t := t) (Int.not_le.mp hrate) fuel
    refine iff_of_false ?_ fun h ↦ hrate h.1
    intro h
    obtain ⟨t', hrun, -⟩ := h
    cases hrun.symm.trans hrefused
  obtain ⟨r, t', hrun, hend⟩ := run_outcome (t := t) ⟨rfl, rfl, rfl, rfl⟩
    (SimpleConsumer.subscribe_holds kind conf incoming) hu hrate hN rfl hfuel
  rcases hend with ⟨rfl, hsurvived, htext⟩ | ⟨rfl, -, k, hk, hother⟩
  · exact iff_of_true ⟨t', hrun, hsurvived⟩ ⟨hrate, htext⟩
  · refine iff_of_false ?_ fun h ↦ h.2 k hk hother
    intro h
    obtain ⟨t₁, hrun₁, -⟩ := h
    cases hrun₁.symm.trans hrun

theorem survives_iff_second_foreign :
    let conf : SubscriberConfig := { messageCount := 2, enableClientAcknowledgment := true }
    let incoming : ℕ → JmsMessage := fun k ↦ { body := if k = 1 then .other else .text none }
    (∃ t', exec (run 3) (new .queueReceiver conf incoming {} [50]) = some (.ok (), t') ∧
        Survived (new .queueReceiver conf incoming {} [50]) conf.messageCount.toInt.toNat t') ↔
      0 ≤ conf.messagesPerSecond.toInt ∧
        ∀ k < conf.messageCount.toInt.toNat, (incoming k).body ≠ .other :=
  survives_iff _ _ _ ⟨rfl, by simp⟩ _ (by decide) (by decide)

/-- One message that is not a text message: it has been acknowledged when the thread dies, nothing
is counted and the consumer stays open. -/
theorem foreign_message_kills :
    let conf : SubscriberConfig := { messageCount := 1, enableClientAcknowledgment := true }
    let m : JmsMessage := { body := .other }
    ∃ t', exec (run 2) (new .queueReceiver conf (fun _ ↦ m) {} []) =
        some (.error .nullPointerException, t') ∧
      t'.consumer.settled = [m] ∧ t'.receivedCount.added = 0 ∧ t'.latencyHist = [] ∧
      t'.consumer.consumerOpen = true ∧ t'.consumer.connectionOpen = true :=
  ⟨_, rfl, rfl, rfl, rfl, rfl, rfl⟩

end ConsumerThread

end AndesTestClient
