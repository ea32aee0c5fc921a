import AndesTestClient.SimpleConsumer

namespace AndesTestClient

open Imperative

inductive ConsumerStep
  | iteration (i : Int32)
  | acquire
  | received (m : Option ATCMessage)
  | receiveWait (milliseconds : Int64)
  | wait (milliseconds : Int32)
  | unsubscribe
  | close
deriving DecidableEq, Repr

/-- `clock` holds the coming readings of the system clock. -/
structure ConsumerThread where
  consumer : SimpleConsumer
  receivedCount : AtomicInteger := {}
  consumerRate : Meter := {}
  latencyHist : List Int64 := []
  globalConsumerRate : Meter := {}
  globalLatencyHist : List Int64 := []
  clock : List Int64 := []
  thread : Thread := {}
  trace : List ConsumerStep := []

namespace ConsumerThread

def onConsumer {α : Type} (p : Java SimpleConsumer α) : Java ConsumerThread α :=
  within consumer (fun c t ↦ { t with consumer := c }) p

def onThread {α : Type} (p : Java Thread α) : Java ConsumerThread α :=
  within thread (fun t s ↦ { s with thread := t }) p

def log (s : ConsumerStep) : Java ConsumerThread Unit :=
  update fun t ↦ { t with trace := t.trace ++ [s] }

def currentTimeMillis : Java ConsumerThread Int64 :=
  step fun t ↦ (.ok (t.clock.headD 0), { t with clock := t.clock.tail })

/-- An interrupt of the wait after a receive only sets the interrupt status again. -/
def receiveWait (config : SubscriberConfig) : Java ConsumerThread Unit := do
  if 0 < config.receiveWaitTimeMillis then
    log (.receiveWait config.receiveWaitTimeMillis)
    tryCatch (onThread Thread.sleep) fun
      | .interruptedException => onThread Thread.interrupt
      | e => throw e

def count (latency : Int64) : Java ConsumerThread Unit := do
  update fun t ↦ { t with latencyHist := t.latencyHist ++ [latency] }
  update fun t ↦ { t with globalLatencyHist := t.globalLatencyHist ++ [latency] }
  update fun t ↦ { t with receivedCount := t.receivedCount.incrementAndGet }
  update fun t ↦ { t with consumerRate := t.consumerRate.mark 1 }
  update fun t ↦ { t with globalConsumerRate := t.globalConsumerRate.mark 1 }

def delay (config : SubscriberConfig) : Java ConsumerThread Unit := do
  if 0 < config.delayBetweenMsgs then
    log (.wait config.delayBetweenMsgs)
    onThread Thread.sleep

/-- The body of the loop. A message that is not a text message has been converted to null, and
the latency dereferences it. -/
def consumeBody (config : SubscriberConfig) (limited : Bool) (i : Int32) :
    Java ConsumerThread Int32 := do
  log (.iteration i)
  if limited then log .acquire
  let message ← onConsumer SimpleConsumer.receive
  log (.received message)
  receiveWait config
  let now ← currentTimeMillis
  let message ← nonNull message
  count (now - message.timestamp)
  delay config
  pure i

def finish (config : SubscriberConfig) : Java ConsumerThread Unit := do
  if config.unsubscribeOnFinish then
    log .unsubscribe
    onConsumer SimpleConsumer.unsubscribe
    log .close
    onConsumer SimpleConsumer.close
  else
    log .close
    onConsumer SimpleConsumer.close

def run (fuel : ℕ) : Java ConsumerThread Unit := do
  let config ← observe (·.consumer.config)
  let limited ← rateLimiter config.messagesPerSecond
  tryCatch (do
      countedLoop config.messageCount (consumeBody config limited) fuel 1
      finish config) fun
    | .atcException _ => pure ()
    | .interruptedException => onThread Thread.interrupt
    | e => throw e

def pass (config : SubscriberConfig) (limited : Bool) (m : JmsMessage) (i : Int32) :
    List ConsumerStep :=
  [.iteration i] ++ (if limited then [.acquire] else []) ++
    [.received (MessageUtils.fromJMSToATC m)] ++
    (if 0 < config.receiveWaitTimeMillis then [.receiveWait config.receiveWaitTimeMillis] else []) ++
    (if 0 < config.delayBetweenMsgs then [.wait config.delayBetweenMsgs] else [])

@[simp] theorem exec_log (s : ConsumerStep) (t : ConsumerThread) :
    exec (log s) t = some (.ok (), { t with trace := t.trace ++ [s] }) := rfl

theorem exec_onConsumer {α : Type} {p : Java SimpleConsumer α} {t : ConsumerThread}
    {r : Except Thrown α} {c : SimpleConsumer} (h : exec p t.consumer = some (r, c)) :
    exec (onConsumer p) t = some (r, { t with consumer := c }) := exec_within_of h

def new (kind : ReceiverKind) (conf : SubscriberConfig) (incoming : ℕ → JmsMessage)
    (thread : Thread) (clock : List Int64) : ConsumerThread :=
  { consumer := .subscribe kind conf incoming, thread := thread, clock := clock }

def passes (config : SubscriberConfig) (limited : Bool) (incoming : ℕ → JmsMessage) (n : ℕ) :
    List ConsumerStep :=
  (List.range n).flatMap fun k ↦ pass config limited (incoming k) (Int32.ofNat (k + 1))

theorem passes_succ (config : SubscriberConfig) (limited : Bool) (incoming : ℕ → JmsMessage)
    (n : ℕ) : passes config limited incoming (n + 1) =
      passes config limited incoming n ++ pass config limited (incoming n) (Int32.ofNat (n + 1)) := by
  rw [passes, List.range_succ, List.flatMap_append, List.flatMap_singleton, passes]

variable {t t' : ConsumerThread} {config : SubscriberConfig} {limited : Bool}

def startSteps (limited : Bool) (i : Int32) : List ConsumerStep :=
  [.iteration i] ++ (if limited then [.acquire] else [])

def waitSteps (config : SubscriberConfig) : List ConsumerStep :=
  if 0 < config.receiveWaitTimeMillis then [.receiveWait config.receiveWaitTimeMillis] else []

def delaySteps (config : SubscriberConfig) : List ConsumerStep :=
  if 0 < config.delayBetweenMsgs then [.wait config.delayBetweenMsgs] else []

def WaitsOut (config : SubscriberConfig) (u u' : Thread) : Prop :=
  if 0 < config.receiveWaitTimeMillis then
    exec Thread.sleep u = some (.ok (), u') ∨
      ∃ v, exec Thread.sleep u = some (.error .interruptedException, v) ∧
        u' = { v with interrupted := true }
  else u' = u

theorem receiveWait_outcome (config : SubscriberConfig) (t : ConsumerThread) :
    ∃ u, exec (receiveWait config) t =
        some (.ok (), { t with thread := u, trace := t.trace ++ waitSteps config }) ∧
      WaitsOut config t.thread u := by
  by_cases hw : 0 < config.receiveWaitTimeMillis
  case neg => exact ⟨t.thread, by simp [receiveWait, waitSteps, hw], by simp [WaitsOut, hw]⟩
  obtain ⟨r, u, hsleep, hr, -⟩ := Thread.sleep_ends t.thread
  rcases hr with rfl | rfl
  · refine ⟨u, ?_, by simp [WaitsOut, hw, hsleep]⟩
    simp [receiveWait, waitSteps, hw, exec_bind, exec_tryCatch, onThread, hsleep]
  · refine ⟨{ u with interrupted := true }, ?_, by simp [WaitsOut, hw, hsleep]⟩
    simp [receiveWait, waitSteps, hw, exec_bind, exec_tryCatch, onThread, hsleep, Thread.interrupt]

inductive ConsumeOutcome (config : SubscriberConfig) (limited : Bool) (i : Int32)
    (t : ConsumerThread) : Except Thrown Int32 → ConsumerThread → Prop
  | receiveFailed {e : Thrown} {c : SimpleConsumer}
      (hreceive : exec SimpleConsumer.receive t.consumer = some (.error e, c)) :
      ConsumeOutcome config limited i t (.error e)
        { t with consumer := c, trace := t.trace ++ startSteps limited i }
  | nullMessage {c : SimpleConsumer} {u : Thread}
      (hreceive : exec SimpleConsumer.receive t.consumer = some (.ok none, c))
      (hwait : WaitsOut config t.thread u) :
      ConsumeOutcome config limited i t (.error .nullPointerException)
        { t with
          consumer := c
          thread := u
          clock := t.clock.tail
          trace := t.trace ++ startSteps limited i ++ [.received none] ++ waitSteps config }
  | counted {m : ATCMessage} {c : SimpleConsumer} {u u' : Thread} {r : Except Thrown Unit}
      (hreceive : exec SimpleConsumer.receive t.consumer = some (.ok (some m), c))
      (hwait : WaitsOut config t.thread u)
      (hdelay : if 0 < config.delayBetweenMsgs then exec Thread.sleep u = some (r, u')
        else r = .ok () ∧ u' = u) :
      ConsumeOutcome config limited i t (r.map fun _ ↦ i)
        { t with
          consumer := c
          latencyHist := t.latencyHist ++ [t.clock.headD 0 - m.timestamp]
          globalLatencyHist := t.globalLatencyHist ++ [t.clock.headD 0 - m.timestamp]
          receivedCount := t.receivedCount.incrementAndGet
          consumerRate := t.consumerRate.mark 1
          globalConsumerRate := t.globalConsumerRate.mark 1
          thread := u'
          clock := t.clock.tail
          trace := t.trace ++ startSteps limited i ++ [.received (some m)] ++ waitSteps config ++
            delaySteps config }

structure Took (config : SubscriberConfig) (limited : Bool) (i : Int32) (t t' : ConsumerThread) :
    Prop where
  consumer_eq : t'.consumer = t.consumer.afterReceive
  receivedCount_eq : t'.receivedCount = t.receivedCount.incrementAndGet
  consumerRate_eq : t'.consumerRate = t.consumerRate.mark 1
  globalConsumerRate_eq : t'.globalConsumerRate = t.globalConsumerRate.mark 1
  trace_eq : t'.trace =
    t.trace ++ pass config limited (t.consumer.incoming t.consumer.received) i

theorem exec_count (latency : Int64) (t : ConsumerThread) :
    exec (count latency) t = some (.ok (), { t with
      latencyHist := t.latencyHist ++ [latency]
      globalLatencyHist := t.globalLatencyHist ++ [latency]
      receivedCount := t.receivedCount.incrementAndGet
      consumerRate := t.consumerRate.mark 1
      globalConsumerRate := t.globalConsumerRate.mark 1 }) := rfl

theorem exec_currentTimeMillis (t : ConsumerThread) : exec currentTimeMillis t =
    some (.ok (t.clock.headD 0), { t with clock := t.clock.tail }) := rfl

theorem consumeBody_outcome (config : SubscriberConfig) (limited : Bool) (i : Int32)
    (t : ConsumerThread) :
    ∃ r t', exec (consumeBody config limited i) t = some (r, t') ∧
      ConsumeOutcome config limited i t r t' := by
  let t₀ : ConsumerThread := { t with trace := t.trace ++ startSteps limited i }
  have hstart : exec (consumeBody config limited i) t = exec (do
      let message ← onConsumer SimpleConsumer.receive
      log (.received message)
      receiveWait config
      let now ← currentTimeMillis
      let message ← nonNull message
      count (now - message.timestamp)
      delay config
      pure i) t₀ := by
    cases limited <;> simp [consumeBody, startSteps, exec_bind, t₀]
  obtain ⟨r, c, hreceive, -⟩ := SimpleConsumer.receive_ends t.consumer
  have hreceived := exec_onConsumer (t := t₀) hreceive
  rw [hstart]
  rcases r with e | m
  · exact ⟨_, _, exec_bind_error hreceived, .receiveFailed hreceive⟩
  obtain ⟨u, hrun, hwait⟩ := receiveWait_outcome config
    { t₀ with consumer := c, trace := t₀.trace ++ [.received m] }
  rw [exec_bind_ok hreceived, exec_bind_ok (exec_log _ _), exec_bind_ok hrun,
    exec_bind_ok (exec_currentTimeMillis _)]
  cases m with
  | none =>
    exact ⟨_, _, exec_bind_error (exec_throw _ _), .nullMessage hreceive hwait⟩
  | some m =>
    rw [nonNull, exec_bind_ok (exec_pure m _), exec_bind_ok (exec_count _ _)]
    by_cases hd : 0 < config.delayBetweenMsgs
    · obtain ⟨r, u', hsleep, -⟩ := Thread.sleep_ends u
      refine ⟨_, _, ?_, .counted hreceive hwait (by rw [if_pos hd]; exact hsleep)⟩
      cases r <;> simp [delay, delaySteps, exec_bind, exec_map, onThread, hd, hsleep, Except.map, t₀]
    · refine ⟨_, _, ?_, .counted hreceive hwait (by rw [if_neg hd]; exact ⟨rfl, rfl⟩)⟩
      simp [delay, delaySteps, hd, Except.map, t₀]

theorem WaitsOut.uninterrupted {u u' : Thread} (h : WaitsOut config u u') (hu : u.Uninterrupted) :
    u'.Uninterrupted := by
  obtain ⟨v, hsleep, hv⟩ := Thread.sleep_uninterrupted hu
  unfold WaitsOut at h
  split at h
  · rcases h with h | ⟨w, h, -⟩
    · rw [hsleep] at h
      cases h
      exact hv
    · rw [hsleep] at h
      cases h
  · rwa [h]

theorem delay_outcome {u u' : Thread} {r : Except Thrown Unit}
    (h : if 0 < config.delayBetweenMsgs then exec Thread.sleep u = some (r, u')
      else r = .ok () ∧ u' = u) :
    (r = .ok () ∨ r = .error .interruptedException) ∧
      (u.Uninterrupted → r = .ok () ∧ u'.Uninterrupted) := by
  split at h
  · obtain ⟨r', v, hsleep, hv⟩ := Thread.sleep_ends u
    rw [h] at hsleep
    cases hsleep
    exact hv
  · obtain ⟨rfl, rfl⟩ := h
    exact ⟨.inl rfl, fun hu ↦ ⟨rfl, hu⟩⟩

theorem consumeBody_takes (hs : t.consumer.Sound) (i : Int32) {text : Option String}
    (htext : (t.consumer.incoming t.consumer.received).body = .text text) :
    ∃ r t', exec (consumeBody config limited i) t = some (r, t') ∧
      Took config limited i t t' ∧ (r = .ok i ∨ r = .error .interruptedException) ∧
      (t.thread.Uninterrupted → r = .ok i ∧ t'.thread.Uninterrupted) := by
  obtain ⟨m, hm⟩ : ∃ m, MessageUtils.fromJMSToATC (t.consumer.incoming t.consumer.received) =
      some m := by simp [MessageUtils.fromJMSToATC, htext]
  have hreceived := SimpleConsumer.exec_receive hs
  obtain ⟨r, t', hrun, ho⟩ := consumeBody_outcome config limited i t
  cases ho with
  | receiveFailed hreceive =>
    rw [hreceived] at hreceive
    cases hreceive
  | nullMessage hreceive hwait =>
    rw [hreceived, hm] at hreceive
    cases hreceive
  | @counted m' c u u' r hreceive hwait hdelay =>
    rw [hreceived, hm] at hreceive
    cases hreceive
    have htrace : t.trace ++ startSteps limited i ++ [.received (some m)] ++ waitSteps config ++
        delaySteps config =
          t.trace ++ pass config limited (t.consumer.incoming t.consumer.received) i := by
      simp only [pass, hm, startSteps, waitSteps, delaySteps, List.append_assoc]
    obtain ⟨hr, hu⟩ := delay_outcome hdelay
    refine ⟨_, _, hrun, ⟨rfl, rfl, rfl, rfl, htrace⟩, ?_, ?_⟩
    · rcases hr with rfl | rfl
      · exact .inl rfl
      · exact .inr rfl
    · intro h
      obtain ⟨rfl, hu'⟩ := hu (hwait.uninterrupted h)
      exact ⟨rfl, hu'⟩

structure Consumed (config : SubscriberConfig) (limited : Bool) (t : ConsumerThread) (k : ℕ)
    (t' : ConsumerThread) : Prop where
  sound : t'.consumer.Sound
  same : t.consumer.Same t'.consumer
  holds : t'.consumer.Holds k
  receivedCount_eq : t'.receivedCount.added = t.receivedCount.added + k
  trace_eq : t'.trace = t.trace ++ passes config limited t.consumer.incoming k

theorem Consumed.next {k : ℕ} {t₁ t₂ : ConsumerThread} (h : Consumed config limited t k t₁)
    (ht : Took config limited (Int32.ofNat (k + 1)) t₁ t₂) :
    Consumed config limited t (k + 1) t₂ where
  sound := by rw [ht.consumer_eq]; exact SimpleConsumer.afterReceive_sound h.sound
  same := by rw [ht.consumer_eq]; exact h.same.trans t₁.consumer.afterReceive_same
  holds := by rw [ht.consumer_eq]; exact SimpleConsumer.afterReceive_holds h.holds
  receivedCount_eq := by
    have hone : Int32.toInt 1 = 1 := rfl
    have hcount := h.receivedCount_eq
    simp only [ht.receivedCount_eq, AtomicInteger.incrementAndGet, AtomicInteger.addAndGet, hone]
    omega
  trace_eq := by
    rw [ht.trace_eq, h.trace_eq, h.same.incoming_eq, h.holds.received_eq, passes_succ,
      List.append_assoc]

theorem run_eq (hrate : 0 ≤ t.consumer.config.messagesPerSecond.toInt) (fuel : ℕ) :
    exec (run fuel) t = exec (tryCatch (do
      countedLoop t.consumer.config.messageCount (consumeBody t.consumer.config
        (t.consumer.config.messagesPerSecond ≠ 0)) fuel 1
      finish t.consumer.config) fun
        | .atcException _ => pure ()
        | .interruptedException => onThread Thread.interrupt
        | e => throw e) t := by
  rw [run, exec_bind_ok (exec_observe _ t), exec_bind_ok (rateLimiter_run hrate t)]

theorem run_refused (hrate : t.consumer.config.messagesPerSecond.toInt < 0) (fuel : ℕ) :
    exec (run fuel) t = some (.error .illegalArgumentException, t) := by
  rw [run, exec_bind_ok (exec_observe _ t)]
  exact exec_bind_error (rateLimiter_negative hrate t)

theorem loop_consumes (config : SubscriberConfig) (limited : Bool) {bound : Int64}
    (hbound : bound.toInt < 2 ^ 31 - 1)
    (hs : t.consumer.Sound) (hh : t.consumer.Holds 0)
    (htext : ∀ k < bound.toInt.toNat, ∃ text, (t.consumer.incoming k).body = .text text)
    {fuel : ℕ} (hfuel : bound.toInt.toNat < fuel) :
    ∃ r t', exec (countedLoop bound (consumeBody config limited) fuel 1) t = some (r, t') ∧
      ((r = .ok () ∧ Consumed config limited t bound.toInt.toNat t' ∧
          (t.thread.Uninterrupted → t'.thread.Uninterrupted)) ∨
        (r = .error .interruptedException ∧ ¬ t.thread.Uninterrupted ∧
          ∃ k, 0 < k ∧ k ≤ bound.toInt.toNat ∧ Consumed config limited t k t')) := by
  obtain ⟨r, t', hrun, ⟨rfl, hc, hu⟩ | ⟨e, rfl, rfl, hq⟩⟩ := countedLoop_progress
    (consumeBody config limited)
    (fun k t' ↦ Consumed config limited t k t' ∧ (t.thread.Uninterrupted → t'.thread.Uninterrupted))
    (fun e t' ↦ e = .interruptedException ∧ ¬ t.thread.Uninterrupted ∧
      ∃ k, 0 < k ∧ k ≤ bound.toInt.toNat ∧ Consumed config limited t k t')
    (fun _ ↦ 0) rfl hbound
    (by
      intro k hk t₁ h
      obtain ⟨hc, hu⟩ := h
      obtain ⟨text, htext⟩ := htext k hk
      have htext₁ : (t₁.consumer.incoming t₁.consumer.received).body = .text text := by
        rw [hc.same.incoming_eq, hc.holds.received_eq, htext]
      obtain ⟨r, t₂, hrun, htook, rfl | rfl, hr⟩ :=
        consumeBody_takes hc.sound (Int32.ofNat (k + 1)) htext₁
      · exact ⟨_, t₂, hrun, .inl ⟨rfl, ⟨hc.next htook, fun h ↦ (hr (hu h)).2⟩, le_rfl⟩⟩
      · exact ⟨_, t₂, hrun, .inr (.inr ⟨_, rfl, rfl, fun h ↦ absurd (hr (hu h)).1 (by simp),
          k + 1, Nat.succ_pos k, hk, hc.next htook⟩)⟩)
    (s := t) ⟨⟨hs, .refl _, hh, by simp, by simp [passes]⟩, id⟩ (by omega)
  · exact ⟨_, t', hrun, .inl ⟨rfl, hc, hu⟩⟩
  · exact ⟨_, t', hrun, .inr ⟨rfl, hq⟩⟩

def finishSteps (config : SubscriberConfig) : List ConsumerStep :=
  (if config.unsubscribeOnFinish then [.unsubscribe] else []) ++ [.close]

theorem exec_finish (config : SubscriberConfig) (hs : t.consumer.Sound) :
    ∃ c, exec (finish config) t =
        some (.ok (), { t with consumer := c, trace := t.trace ++ finishSteps config }) ∧
      t.consumer.Closed c ∧ t.consumer.Shut c := by
  cases hu : config.unsubscribeOnFinish with
  | false =>
    obtain ⟨c, hclose, hc⟩ := SimpleConsumer.exec_close hs.closeFaults
    exact ⟨c, by simp [finish, finishSteps, hu, exec_bind, onConsumer, hclose], hc⟩
  | true =>
    obtain ⟨b, hunsubscribe⟩ := SimpleConsumer.exec_unsubscribe hs
    obtain ⟨c, hclose, hc, hshut⟩ :=
      SimpleConsumer.exec_close (c := { t.consumer with subscribed := b }) hs.closeFaults
    exact ⟨c, by simp [finish, finishSteps, hu, exec_bind, onConsumer, hunsubscribe, hclose],
      ⟨hc.incoming_eq, hc.received_eq, hc.settled_eq, hc.unsettled_eq, hc.redelivered_eq⟩,
      ⟨hshut.consumerOpen_eq, hshut.sessionOpen_eq, hshut.connectionOpen_eq⟩⟩

variable {fuel : ℕ}

/-- The run of a thread on a broker that fails nothing: it takes every message and closes its
consumer, or an interrupt ends it after at least one message, with the session open. -/
theorem run_consumes (hrate : 0 ≤ t.consumer.config.messagesPerSecond.toInt)
    (hN : t.consumer.config.messageCount.toInt < 2 ^ 31 - 1)
    (hs : t.consumer.Sound) (hh : t.consumer.Holds 0)
    (htext : ∀ k < t.consumer.config.messageCount.toInt.toNat,
      ∃ text, (t.consumer.incoming k).body = .text text)
    (hfuel : t.consumer.config.messageCount.toInt.toNat < fuel) :
    ∃ t' k t₁, exec (run fuel) t = some (.ok (), t') ∧
      Consumed t.consumer.config (t.consumer.config.messagesPerSecond ≠ 0) t k t₁ ∧
      t'.receivedCount = t₁.receivedCount ∧
      ((k = t.consumer.config.messageCount.toInt.toNat ∧ t₁.consumer.Closed t'.consumer ∧
          t'.trace = t₁.trace ++ finishSteps t.consumer.config) ∨
        (¬ t.thread.Uninterrupted ∧ 0 < k ∧ k ≤ t.consumer.config.messageCount.toInt.toNat ∧
          t'.consumer = t₁.consumer)) := by
  rw [run_eq hrate]
  obtain ⟨r, t₁, hloop, ⟨rfl, hc, -⟩ | ⟨rfl, hu, k, hpos, hle, hc⟩⟩ :=
    loop_consumes t.consumer.config (t.consumer.config.messagesPerSecond ≠ 0) hN hs hh htext hfuel
  · obtain ⟨c, hfinish, hclosed, -⟩ := exec_finish t.consumer.config hc.sound
    exact ⟨_, _, t₁, exec_tryCatch_ok ((exec_bind_ok hloop).trans hfinish), hc, rfl,
      .inl ⟨rfl, hclosed, rfl⟩⟩
  · exact ⟨_, k, t₁, exec_tryCatch_error (exec_bind_error hloop), hc, rfl,
      .inr ⟨hu, hpos, hle, rfl⟩⟩

end ConsumerThread

end AndesTestClient
