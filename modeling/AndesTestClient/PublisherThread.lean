import AndesTestClient.TxPublishHandler

namespace AndesTestClient

open Imperative

/-- What a publisher thread does, in order. `iteration` marks a pass through the body of the loop
with its index, `created` the message that the pass has made and numbered. -/
inductive PublisherStep
  | iteration (i : Int32)
  | created (m : ATCMessage)
  | acquire
  | send (m : ATCMessage)
  | publish (event : PublishEvent)
  | wait (milliseconds : Int32)
  | retryWait
  | close
  | shutdown
deriving DecidableEq, Repr

structure PublisherThread where
  publisher : SimplePublisher
  sentCount : AtomicInteger := {}
  publishRate : Meter := {}
  thread : Thread := {}
  trace : List PublisherStep := []
deriving DecidableEq, Repr

namespace PublisherThread

def DEFAULT_CONTENT : String := "Test Message"

def onPublisher {α : Type} (p : Java SimplePublisher α) : Java PublisherThread α :=
  within publisher (fun p t ↦ { t with publisher := p }) p

def onThread {α : Type} (p : Java Thread α) : Java PublisherThread α :=
  within thread (fun t s ↦ { s with thread := t }) p

def log (s : PublisherStep) : Java PublisherThread Unit :=
  update fun t ↦ { t with trace := t.trace ++ [s] }

def messageContent (config : PublisherConfig) : Option String :=
  if isEmpty config.messageContent then some DEFAULT_CONTENT else config.messageContent

def count : Java PublisherThread Unit := do
  update fun t ↦ { t with sentCount := t.sentCount.incrementAndGet }
  update fun t ↦ { t with publishRate := t.publishRate.mark 1 }

def publishBody (config : PublisherConfig) (limited : Bool) (i : Int32) :
    Java PublisherThread Int32 := do
  log (.iteration i)
  let atcMessage ← onPublisher (SimplePublisher.createTextMessage (messageContent config))
  let atcMessage := { atcMessage with
    messageId := some (concatenated config.id ++ "-" ++ integerToString i) }
  log (.created atcMessage)
  if limited then log .acquire
  log (.send atcMessage)
  onPublisher (SimplePublisher.send atcMessage)
  count
  if 0 < config.delayBetweenMsgs then
    log (.wait config.delayBetweenMsgs)
    onThread Thread.sleep
  pure i

def publish (fuel : ℕ) : Java PublisherThread Unit := do
  let config ← observe (·.publisher.config)
  let limited ← rateLimiter config.messagesPerSecond
  tryCatch (do
      countedLoop config.messageCount (publishBody config limited) fuel 1
      log .close
      onPublisher SimplePublisher.close) fun
    | .atcException _ => pure ()
    | .interruptedException => onThread Thread.interrupt
    | e => throw e

/-- A pass whose message could not be created waits and counts the index back, so that the next
pass repeats it. -/
def transactionalBody (config : PublisherConfig) (limited : Bool) (i : Int32) :
    Java PublisherThread Int32 := do
  log (.iteration i)
  tryCatch (do
      let atcMessage ← onPublisher (SimplePublisher.createTextMessage (messageContent config))
      let atcMessage := { atcMessage with messageId := some (integerToString i) }
      log (.created atcMessage)
      if limited then log .acquire
      log (.publish (.ofMessage atcMessage))
      pure i) fun
    | .atcException _ => do
      log .retryWait
      tryCatch (onThread Thread.sleep) fun
        | .interruptedException => onThread Thread.interrupt
        | e => throw e
      pure (i - 1)
    | e => throw e

/-- The handler is made with the disruptor, before the rate limiter and the loop. -/
def transactionalPublish (fuel : ℕ) : Java PublisherThread Unit := do
  let config ← observe (·.publisher.config)
  if config.transactionBatchSize < 0 then throw .illegalArgumentException
  let limited ← rateLimiter config.messagesPerSecond
  countedLoop config.messageCount (transactionalBody config limited) fuel 1
  log (.publish .close)
  log .shutdown

def run (fuel : ℕ) : Java PublisherThread Unit := do
  let config ← observe (·.publisher.config)
  if config.isTransactional then transactionalPublish fuel else publish fuel

theorem messageContent_eq (config : PublisherConfig) : messageContent config =
    if config.messageContent.getD "" = "" then some "Test Message" else config.messageContent := by
  simp only [messageContent, isEmpty, beq_iff_eq, DEFAULT_CONTENT]

def plainMessage (config : PublisherConfig) (i : Int32) : ATCMessage :=
  { text := if config.messageContent.getD "" = "" then some "Test Message" else config.messageContent
    messageId := some (concatenated config.id ++ "-" ++ integerToString i) }

def transactionalMessage (config : PublisherConfig) (i : Int32) : ATCMessage :=
  { text := if config.messageContent.getD "" = "" then some "Test Message" else config.messageContent
    messageId := some (integerToString i) }

theorem plainMessage_eq (config : PublisherConfig) (i : Int32) : plainMessage config i =
    { text := messageContent config
      messageId := some (concatenated config.id ++ "-" ++ integerToString i) } := by
  rw [plainMessage, messageContent_eq]

theorem transactionalMessage_eq (config : PublisherConfig) (i : Int32) :
    transactionalMessage config i =
      { text := messageContent config, messageId := some (integerToString i) } := by
  rw [transactionalMessage, messageContent_eq]

structure Calm (t : PublisherThread) : Prop where
  senderOpen : t.publisher.senderOpen = true
  sessionOpen : t.publisher.sessionOpen = true
  createFaults : t.publisher.createFaults = []
  faults : t.publisher.faults = []
  closeFaults : t.publisher.closeFaults = []
  uninterrupted : t.thread.Uninterrupted

def publishPass (config : PublisherConfig) (limited : Bool) (i : Int32) : List PublisherStep :=
  [.iteration i, .created (plainMessage config i)] ++ (if limited then [.acquire] else []) ++
    [.send (plainMessage config i)] ++
    (if 0 < config.delayBetweenMsgs then [.wait config.delayBetweenMsgs] else [])

def transactionalPass (config : PublisherConfig) (limited : Bool) (i : Int32) :
    List PublisherStep :=
  [.iteration i, .created (transactionalMessage config i)] ++
    (if limited then [.acquire] else []) ++
    [.publish (.ofMessage (transactionalMessage config i))]

@[simp] theorem exec_log (s : PublisherStep) (t : PublisherThread) :
    exec (log s) t = some (.ok (), { t with trace := t.trace ++ [s] }) := rfl

@[simp] theorem exec_count (t : PublisherThread) :
    exec count t = some (.ok (), { t with
      sentCount := t.sentCount.incrementAndGet
      publishRate := t.publishRate.mark 1 }) := rfl

theorem exec_onPublisher {α : Type} {p : Java SimplePublisher α} {t : PublisherThread}
    {r : Except Thrown α} {q : SimplePublisher} (h : exec p t.publisher = some (r, q)) :
    exec (onPublisher p) t = some (r, { t with publisher := q }) := exec_within_of h

theorem onPublisher_ends {α : Type} {p : Java SimplePublisher α} {t : PublisherThread}
    {Q : Except Thrown α → SimplePublisher → Prop} (h : Ends p Q t.publisher) :
    Ends (onPublisher p) (fun r t' ↦ ∃ q, t' = { t with publisher := q } ∧ Q r q) t :=
  Ends.within (h.mono fun _ q hq ↦ ⟨q, rfl, hq⟩)

theorem onThread_ends {α : Type} {p : Java Thread α} {t : PublisherThread}
    {Q : Except Thrown α → Thread → Prop} (h : Ends p Q t.thread) :
    Ends (onThread p) (fun r t' ↦ ∃ u, t' = { t with thread := u } ∧ Q r u) t :=
  Ends.within (h.mono fun _ u hu ↦ ⟨u, rfl, hu⟩)

def sendSteps (config : PublisherConfig) (limited : Bool) (i : Int32) : List PublisherStep :=
  [.iteration i, .created (plainMessage config i)] ++ (if limited then [.acquire] else []) ++
    [.send (plainMessage config i)]

/-- How a pass of `publish` ends, told by the calls that it makes. -/
inductive PublishOutcome (config : PublisherConfig) (limited : Bool) (i : Int32)
    (t : PublisherThread) : Except Thrown Int32 → PublisherThread → Prop
  | createFailed {e : Thrown} {q : SimplePublisher}
      (hcreate : exec (SimplePublisher.createTextMessage (messageContent config)) t.publisher =
        some (.error e, q)) :
      PublishOutcome config limited i t (.error e)
        { t with publisher := q, trace := t.trace ++ [.iteration i] }
  | sendFailed {e : Thrown} {q q' : SimplePublisher}
      (hcreate : exec (SimplePublisher.createTextMessage (messageContent config)) t.publisher =
        some (.ok { text := messageContent config }, q))
      (hsend : exec (SimplePublisher.send (plainMessage config i)) q = some (.error e, q')) :
      PublishOutcome config limited i t (.error e)
        { t with publisher := q', trace := t.trace ++ sendSteps config limited i }
  | sent {q q' : SimplePublisher} {r : Except Thrown Unit} {u : Thread}
      (hcreate : exec (SimplePublisher.createTextMessage (messageContent config)) t.publisher =
        some (.ok { text := messageContent config }, q))
      (hsend : exec (SimplePublisher.send (plainMessage config i)) q = some (.ok (), q'))
      (hwait : if 0 < config.delayBetweenMsgs then exec Thread.sleep t.thread = some (r, u)
        else r = .ok () ∧ u = t.thread) :
      PublishOutcome config limited i t (r.map fun _ ↦ i)
        { t with
          publisher := q'
          sentCount := t.sentCount.incrementAndGet
          publishRate := t.publishRate.mark 1
          thread := u
          trace := t.trace ++ publishPass config limited i }

theorem publishBody_outcome (config : PublisherConfig) (limited : Bool) (i : Int32)
    (t : PublisherThread) :
    ∃ r t', exec (publishBody config limited i) t = some (r, t') ∧
      PublishOutcome config limited i t r t' := by
  obtain ⟨r, q, hcreate, hr⟩ := SimplePublisher.createTextMessage_ends (messageContent config) t.publisher
  rcases hr with ⟨rfl, -⟩ | ⟨e, rfl, -⟩
  case inr =>
    refine ⟨_, _, ?_, .createFailed hcreate⟩
    simp [publishBody, exec_bind, onPublisher, hcreate]
  obtain ⟨r, q', hsend, -⟩ := SimplePublisher.send_ends (plainMessage config i) q
  have hstart : exec (publishBody config limited i) t = exec (do
      onPublisher (SimplePublisher.send (plainMessage config i))
      count
      if 0 < config.delayBetweenMsgs then
        log (.wait config.delayBetweenMsgs)
        onThread Thread.sleep
      pure i) { t with publisher := q, trace := t.trace ++ sendSteps config limited i } := by
    cases limited <;>
      simp [publishBody, sendSteps, plainMessage_eq, exec_bind, onPublisher, hcreate]
  rcases r with e | ⟨⟨⟩⟩
  · refine ⟨_, _, ?_, .sendFailed hcreate hsend⟩
    rw [hstart]
    exact exec_bind_error (exec_onPublisher (t := { t with
      publisher := q, trace := t.trace ++ sendSteps config limited i }) hsend)
  rw [hstart, exec_bind_ok (exec_onPublisher (t := { t with
      publisher := q, trace := t.trace ++ sendSteps config limited i }) hsend)]
  by_cases hdelay : 0 < config.delayBetweenMsgs
  · obtain ⟨r, u, hsleep, -⟩ := Thread.sleep_ends t.thread
    refine ⟨_, _, ?_, .sent hcreate hsend (by rw [if_pos hdelay]; exact hsleep)⟩
    cases r <;> simp [exec_bind, exec_map, onThread, hdelay, hsleep, publishPass, sendSteps, Except.map]
  · refine ⟨_, _, ?_, .sent hcreate hsend (by rw [if_neg hdelay]; exact ⟨rfl, rfl⟩)⟩
    simp [exec_map, hdelay, publishPass, sendSteps, Except.map]

inductive TransactionalOutcome (config : PublisherConfig) (limited : Bool) (i : Int32)
    (t : PublisherThread) : Except Thrown Int32 → PublisherThread → Prop
  | published {q : SimplePublisher}
      (hcreate : exec (SimplePublisher.createTextMessage (messageContent config)) t.publisher =
        some (.ok { text := messageContent config }, q)) :
      TransactionalOutcome config limited i t (.ok i)
        { t with publisher := q, trace := t.trace ++ transactionalPass config limited i }
  | retried {e : String} {q : SimplePublisher} (u : Thread)
      (hcreate : exec (SimplePublisher.createTextMessage (messageContent config)) t.publisher =
        some (.error (.atcException e), q)) :
      TransactionalOutcome config limited i t (.ok (i - 1))
        { t with
          publisher := q, thread := u, trace := t.trace ++ [.iteration i, .retryWait] }

theorem transactionalBody_outcome (config : PublisherConfig) (limited : Bool) (i : Int32)
    (t : PublisherThread) :
    ∃ r t', exec (transactionalBody config limited i) t = some (r, t') ∧
      TransactionalOutcome config limited i t r t' := by
  obtain ⟨r, q, hcreate, hr⟩ := SimplePublisher.createTextMessage_ends (messageContent config) t.publisher
  rcases hr with ⟨rfl, -⟩ | ⟨e, rfl, -⟩
  · refine ⟨_, _, ?_, .published hcreate⟩
    cases limited <;>
      simp [transactionalBody, transactionalPass, transactionalMessage_eq, exec_bind, exec_map,
        exec_tryCatch, Except.map, onPublisher, hcreate]
  · obtain ⟨r, u, hsleep, hr, -⟩ := Thread.sleep_ends t.thread
    rcases hr with rfl | rfl
    · refine ⟨_, _, ?_, .retried u hcreate⟩
      simp [transactionalBody, exec_bind, exec_map, exec_tryCatch, Except.map, onPublisher, onThread,
        hcreate, hsleep]
    · refine ⟨_, _, ?_, .retried { u with interrupted := true } hcreate⟩
      simp [transactionalBody, exec_bind, exec_map, exec_tryCatch, Except.map, onPublisher, onThread,
        hcreate, hsleep, Thread.interrupt]

theorem publishBody_calm {t : PublisherThread} (hc : Calm t) (config : PublisherConfig)
    (limited : Bool) (i : Int32) :
    ∃ t', exec (publishBody config limited i) t = some (.ok i, t') ∧ Calm t' ∧
      t'.trace = t.trace ++ publishPass config limited i := by
  have hcreated := SimplePublisher.exec_createTextMessage hc.createFaults (messageContent config)
  have hsent := SimplePublisher.exec_send hc.senderOpen hc.sessionOpen hc.faults
    (plainMessage config i)
  obtain ⟨r, t', hrun, ho⟩ := publishBody_outcome config limited i t
  cases ho with
  | createFailed hcreate =>
    rw [hcreated] at hcreate
    cases hcreate
  | sendFailed hcreate hsend =>
    rw [hcreated] at hcreate
    cases hcreate
    rw [hsent] at hsend
    cases hsend
  | @sent q q' r u hcreate hsend hwait =>
    rw [hcreated] at hcreate
    cases hcreate
    rw [hsent] at hsend
    cases hsend
    have hwaited : r = .ok () ∧ u.Uninterrupted := by
      split at hwait
      · obtain ⟨u', hsleep, hu'⟩ := Thread.sleep_uninterrupted hc.uninterrupted
        rw [hsleep] at hwait
        cases hwait
        exact ⟨rfl, hu'⟩
      · obtain ⟨rfl, rfl⟩ := hwait
        exact ⟨rfl, hc.uninterrupted⟩
    obtain ⟨rfl, hu⟩ := hwaited
    exact ⟨_, hrun, ⟨hc.senderOpen, hc.sessionOpen, hc.createFaults, hc.faults, hc.closeFaults, hu⟩,
      rfl⟩

theorem transactionalBody_calm {t : PublisherThread} (hc : Calm t) (config : PublisherConfig)
    (limited : Bool) (i : Int32) :
    ∃ t', exec (transactionalBody config limited i) t = some (.ok i, t') ∧ Calm t' ∧
      t'.trace = t.trace ++ transactionalPass config limited i := by
  have hcreated := SimplePublisher.exec_createTextMessage hc.createFaults (messageContent config)
  obtain ⟨r, t', hrun, ho⟩ := transactionalBody_outcome config limited i t
  cases ho with
  | published hcreate =>
    rw [hcreated] at hcreate
    cases hcreate
    exact ⟨_, hrun, ⟨hc.senderOpen, hc.sessionOpen, hc.createFaults, hc.faults, hc.closeFaults,
      hc.uninterrupted⟩, rfl⟩
  | retried u hcreate =>
    rw [hcreated] at hcreate
    cases hcreate

def passes (pass : Int32 → List PublisherStep) (n : ℕ) : List PublisherStep :=
  (List.range n).flatMap fun k ↦ pass (Int32.ofNat (k + 1))

theorem passes_succ (pass : Int32 → List PublisherStep) (n : ℕ) :
    passes pass (n + 1) = passes pass n ++ pass (Int32.ofNat (n + 1)) := by
  rw [passes, List.range_succ, List.flatMap_append, List.flatMap_singleton, passes]

theorem loop_calm {bound : Int64} {body : Int32 → Java PublisherThread Int32}
    {pass : Int32 → List PublisherStep}
    (hbody : ∀ {t}, Calm t → ∀ i, ∃ t', exec (body i) t = some (.ok i, t') ∧ Calm t' ∧
      t'.trace = t.trace ++ pass i)
    (hbound : bound.toInt < 2 ^ 31 - 1) {t : PublisherThread} (hc : Calm t) {fuel : ℕ}
    (hfuel : bound.toInt.toNat < fuel) :
    ∃ t', exec (countedLoop bound body fuel 1) t = some (.ok (), t') ∧ Calm t' ∧
      t'.trace = t.trace ++ passes pass bound.toInt.toNat := by
  refine countedLoop_counts (fun k t' ↦ Calm t' ∧ t'.trace = t.trace ++ passes pass k) rfl hbound
    ?_ ⟨hc, by simp [passes]⟩ hfuel
  intro k _ t₁ h
  obtain ⟨hc₁, htrace₁⟩ := h
  obtain ⟨t₂, hrun, hc₂, htrace₂⟩ := hbody hc₁ (Int32.ofNat (k + 1))
  exact ⟨t₂, hrun, hc₂, by rw [htrace₂, htrace₁, passes_succ, List.append_assoc]⟩

theorem loop_diverges {bound : Int64} {body : Int32 → Java PublisherThread Int32}
    {pass : Int32 → List PublisherStep}
    (hbody : ∀ {t}, Calm t → ∀ i, ∃ t', exec (body i) t = some (.ok i, t') ∧ Calm t' ∧
      t'.trace = t.trace ++ pass i)
    (hbound : 2 ^ 31 - 1 ≤ bound.toInt) {t : PublisherThread} (hc : Calm t) (fuel : ℕ) :
    exec (countedLoop bound body fuel 1) t = none := by
  refine countedLoop_diverges _ Calm hbound (fun i t hc ↦ ?_) fuel 1 hc
  obtain ⟨t', hrun, hc', -⟩ := hbody hc i
  exact ⟨t', hrun, hc'⟩

variable {t : PublisherThread} {fuel : ℕ}

theorem publish_run (hrate : 0 ≤ t.publisher.config.messagesPerSecond.toInt) (fuel : ℕ) :
    exec (publish fuel) t = exec (tryCatch (do
      countedLoop t.publisher.config.messageCount (publishBody t.publisher.config
        (t.publisher.config.messagesPerSecond ≠ 0)) fuel 1
      log .close
      onPublisher SimplePublisher.close) fun
        | .atcException _ => pure ()
        | .interruptedException => onThread Thread.interrupt
        | e => throw e) t := by
  rw [publish, exec_bind_ok (exec_observe _ t), exec_bind_ok (rateLimiter_run hrate t)]

theorem publish_refused (hrate : t.publisher.config.messagesPerSecond.toInt < 0) (fuel : ℕ) :
    exec (publish fuel) t = some (.error .illegalArgumentException, t) := by
  rw [publish, exec_bind_ok (exec_observe _ t)]
  exact exec_bind_error (rateLimiter_negative hrate t)

theorem publish_calm (hc : Calm t) (hrate : 0 ≤ t.publisher.config.messagesPerSecond.toInt)
    (hN : t.publisher.config.messageCount.toInt < 2 ^ 31 - 1)
    (hfuel : t.publisher.config.messageCount.toInt.toNat < fuel) :
    ∃ t', exec (publish fuel) t = some (.ok (), t') ∧
      t'.trace = t.trace ++
        passes (publishPass t.publisher.config (t.publisher.config.messagesPerSecond ≠ 0))
          t.publisher.config.messageCount.toInt.toNat ++ [.close] ∧
      t'.publisher.connectionOpen = false := by
  let config := t.publisher.config
  let limited : Bool := decide (config.messagesPerSecond ≠ 0)
  obtain ⟨t₁, hloop, hc₁, htrace⟩ :=
    loop_calm (fun hc i ↦ publishBody_calm hc config limited i) hN hc hfuel
  obtain ⟨q, hclose, -, hclosed, -⟩ := SimplePublisher.exec_close hc₁.closeFaults
  refine ⟨{ t₁ with trace := t₁.trace ++ [.close], publisher := q }, ?_, by rw [htrace], hclosed⟩
  rw [publish_run hrate]
  apply exec_tryCatch_ok
  rw [exec_bind_ok hloop, exec_bind_ok (exec_log .close t₁)]
  exact exec_onPublisher (t := { t₁ with trace := t₁.trace ++ [.close] }) hclose

theorem publish_diverges (hc : Calm t) (hrate : 0 ≤ t.publisher.config.messagesPerSecond.toInt)
    (hN : 2 ^ 31 - 1 ≤ t.publisher.config.messageCount.toInt) (fuel : ℕ) :
    exec (publish fuel) t = none := by
  rw [publish_run hrate, exec_tryCatch, exec_bind,
    loop_diverges (fun hc i ↦ publishBody_calm hc _ _ i) hN hc fuel]
  rfl

theorem transactionalPublish_refused (h : t.publisher.config.transactionBatchSize.toInt < 0 ∨
    t.publisher.config.messagesPerSecond.toInt < 0) (fuel : ℕ) :
    exec (transactionalPublish fuel) t = some (.error .illegalArgumentException, t) := by
  rw [transactionalPublish, exec_bind_ok (exec_observe _ t)]
  by_cases hbatch : t.publisher.config.transactionBatchSize < 0
  · rw [if_pos hbatch]
    rfl
  · rw [if_neg hbatch]
    rw [Int32.lt_iff_toInt_lt, Int32.toInt_zero] at hbatch
    exact exec_bind_error (rateLimiter_negative (h.resolve_left hbatch) t)

theorem run_plain (h : t.publisher.config.isTransactional = false) (fuel : ℕ) :
    exec (run fuel) t = exec (publish fuel) t := by
  rw [run, exec_bind_ok (exec_observe _ t), h]
  rfl

theorem run_transactional (h : t.publisher.config.isTransactional = true) (fuel : ℕ) :
    exec (run fuel) t = exec (transactionalPublish fuel) t := by
  rw [run, exec_bind_ok (exec_observe _ t), h]
  rfl

theorem transactionalPublish_run (hbatch : 0 ≤ t.publisher.config.transactionBatchSize.toInt)
    (hrate : 0 ≤ t.publisher.config.messagesPerSecond.toInt) (fuel : ℕ) :
    exec (transactionalPublish fuel) t = exec (do
      countedLoop t.publisher.config.messageCount (transactionalBody t.publisher.config
        (t.publisher.config.messagesPerSecond ≠ 0)) fuel 1
      log (.publish .close)
      log .shutdown) t := by
  have hneg : ¬ t.publisher.config.transactionBatchSize < 0 := by
    rw [Int32.lt_iff_toInt_lt, Int32.toInt_zero]
    omega
  rw [transactionalPublish, exec_bind_ok (exec_observe _ t), if_neg hneg]
  exact exec_bind_ok (rateLimiter_run hrate t)

theorem transactionalPublish_calm (hc : Calm t)
    (hbatch : 0 ≤ t.publisher.config.transactionBatchSize.toInt)
    (hrate : 0 ≤ t.publisher.config.messagesPerSecond.toInt)
    (hN : t.publisher.config.messageCount.toInt < 2 ^ 31 - 1)
    (hfuel : t.publisher.config.messageCount.toInt.toNat < fuel) :
    ∃ t', exec (transactionalPublish fuel) t = some (.ok (), t') ∧
      t'.trace = t.trace ++
        passes (transactionalPass t.publisher.config (t.publisher.config.messagesPerSecond ≠ 0))
          t.publisher.config.messageCount.toInt.toNat ++ [.publish .close, .shutdown] := by
  let config := t.publisher.config
  let limited : Bool := decide (config.messagesPerSecond ≠ 0)
  obtain ⟨t₁, hloop, -, htrace⟩ :=
    loop_calm (fun hc i ↦ transactionalBody_calm hc config limited i) hN hc hfuel
  refine ⟨{ t₁ with trace := t₁.trace ++ [.publish .close] ++ [.shutdown] }, ?_, ?_⟩
  · rw [transactionalPublish_run hbatch hrate, exec_bind_ok hloop, exec_bind_ok (exec_log _ t₁),
      exec_log]
  · simp only [htrace, List.append_assoc, List.singleton_append]
    rfl

/-- Whatever creations fail and whatever waits are interrupted, the loop makes its counted passes in
order, with retries between them that leave nothing in what `f` reads of the trace. -/
theorem transactionalPublish_collects {β : Type} (f : List PublisherStep → List β) (item : Int32 → β)
    (happend : ∀ steps steps', f (steps ++ steps') = f steps ++ f steps')
    (hpass : ∀ limited i, f (transactionalPass t.publisher.config limited i) = [item i])
    (hretry : ∀ i, f [.iteration i, .retryWait] = [])
    (hbatch : 0 ≤ t.publisher.config.transactionBatchSize.toInt)
    (hrate : 0 ≤ t.publisher.config.messagesPerSecond.toInt)
    (hN : t.publisher.config.messageCount.toInt < 2 ^ 31 - 1)
    (hfuel : t.publisher.config.messageCount.toInt.toNat + t.publisher.createFaults.length < fuel) :
    ∃ t', exec (transactionalPublish fuel) t = some (.ok (), t') ∧
      f t'.trace = f t.trace ++ (List.range t.publisher.config.messageCount.toInt.toNat).map
        (fun k ↦ item (Int32.ofNat (k + 1))) ++ f [.publish .close, .shutdown] := by
  let config := t.publisher.config
  let limited : Bool := decide (config.messagesPerSecond ≠ 0)
  have hloop := countedLoop_progress (transactionalBody config limited)
    (fun k t' ↦ f t'.trace = f t.trace ++ (List.range k).map fun k ↦ item (Int32.ofNat (k + 1)))
    (fun _ _ ↦ False) (fun t' ↦ t'.publisher.createFaults.length) rfl hN
    (fun k hk t₁ ht₁ ↦ by
      obtain ⟨r, t₂, hrun, ho⟩ := transactionalBody_outcome config limited (Int32.ofNat (k + 1)) t₁
      refine ⟨r, t₂, hrun, ?_⟩
      cases ho with
      | published hcreate =>
        refine .inl ⟨rfl, ?_, SimplePublisher.createFaults_le hcreate⟩
        rw [happend, ht₁, hpass, List.range_succ, List.map_append, List.map_singleton,
          List.append_assoc]
      | retried u hcreate =>
        refine .inr (.inl ⟨by rw [ofNat_succ_sub_one], ?_, SimplePublisher.createFaults_lt hcreate⟩)
        rw [happend, hretry, List.append_nil, ht₁])
    (List.append_nil _).symm hfuel
  obtain ⟨r, t₁, hrun, ⟨rfl, ht₁⟩ | ⟨e, -, hfalse⟩⟩ := hloop
  · refine ⟨{ t₁ with trace := t₁.trace ++ [.publish .close] ++ [.shutdown] }, ?_, ?_⟩
    · rw [transactionalPublish_run hbatch hrate, exec_bind_ok hrun, exec_bind_ok (exec_log _ t₁),
        exec_log]
    · rw [← ht₁, ← happend, List.append_assoc, List.singleton_append]
  · exact hfalse.elim

theorem transactionalPublish_diverges (hc : Calm t)
    (hbatch : 0 ≤ t.publisher.config.transactionBatchSize.toInt)
    (hrate : 0 ≤ t.publisher.config.messagesPerSecond.toInt)
    (hN : 2 ^ 31 - 1 ≤ t.publisher.config.messageCount.toInt) (fuel : ℕ) :
    exec (transactionalPublish fuel) t = none := by
  rw [transactionalPublish_run hbatch hrate, exec_bind,
    loop_diverges (fun hc i ↦ transactionalBody_calm hc _ _ i) hN hc fuel]
  rfl

end PublisherThread

end AndesTestClient
