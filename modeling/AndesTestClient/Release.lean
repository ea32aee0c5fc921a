import AndesTestClient.ConsumerThread
import AndesTestClient.PublisherThread

namespace AndesTestClient

open Imperative

/-- `close` is called exactly once, and no step of the work comes after it. -/
def ReleasedOnce {α : Type} (close : α) (work : α → Prop) (trace : List α) : Prop :=
  ∃ before after, trace = before ++ close :: after ∧ close ∉ before ∧ close ∉ after ∧
    ∀ s ∈ after, ¬ work s

theorem releasedOnce_concat {α : Type} {close : α} {work : α → Prop} {before : List α}
    (h : close ∉ before) : ReleasedOnce close work (before ++ [close]) :=
  ⟨before, [], rfl, h, List.not_mem_nil, by simp⟩

theorem ReleasedOnce.mem {α : Type} {close : α} {work : α → Prop} {trace : List α}
    (h : ReleasedOnce close work trace) : close ∈ trace := by
  obtain ⟨before, after, rfl, -⟩ := h
  exact List.mem_append_right _ List.mem_cons_self

def Thrown.Handled (e : Thrown) : Prop := (∃ message, e = .atcException message) ∨
  e = .interruptedException

namespace PublisherThread

def Work : PublisherStep → Prop
  | .iteration _ => True
  | .send _ => True
  | _ => False

/-- A publisher that has been set up, with messages that can all be created. Its sends, its waits and
its close may raise. -/
structure Started (t : PublisherThread) : Prop where
  senderOpen : t.publisher.senderOpen = true
  sessionOpen : t.publisher.sessionOpen = true
  createFaults : t.publisher.createFaults = []
  trace_eq : t.trace = []

/-- In the pass after `k` others the send returns, and no interrupt ends the wait if there is one. -/
def GoesThrough (t : PublisherThread) (k : ℕ) : Prop :=
  t.publisher.faults.getD k .returns = .returns ∧
    (0 < t.publisher.config.delayBetweenMsgs →
      t.thread.interrupted = false ∧ t.thread.interrupts.getD k false = false)

structure Reached (t : PublisherThread) (k : ℕ) (t' : PublisherThread) : Prop where
  senderOpen : t'.publisher.senderOpen = true
  sessionOpen : t'.publisher.sessionOpen = true
  createFaults : t'.publisher.createFaults = []
  faults_eq : t'.publisher.faults = t.publisher.faults.drop k
  thread_eq : 0 < t.publisher.config.delayBetweenMsgs → t'.thread = t.thread.afterWaits k
  not_closed : .close ∉ t'.trace
  through : ∀ j < k, t.GoesThrough j

variable {t t₁ : PublisherThread} {limited : Bool} {fuel n k : ℕ}

theorem close_not_mem_sendSteps (config : PublisherConfig) (limited : Bool) (i : Int32) :
    .close ∉ sendSteps config limited i := by
  cases limited <;> simp [sendSteps]

theorem close_not_mem_publishPass (config : PublisherConfig) (limited : Bool) (i : Int32) :
    .close ∉ publishPass config limited i := by
  rw [publishPass, List.mem_append, not_or]
  refine ⟨close_not_mem_sendSteps config limited i, ?_⟩
  split_ifs <;> simp

theorem Reached.waited (h : Reached t k t₁) {r : Except Thrown Unit} {u : Thread}
    (hwait : if 0 < t.publisher.config.delayBetweenMsgs then exec Thread.sleep t₁.thread = some (r, u)
      else r = .ok () ∧ u = t₁.thread) :
    (r = .ok () ∧ (0 < t.publisher.config.delayBetweenMsgs →
        t.thread.interrupted = false ∧ t.thread.interrupts.getD k false = false) ∧
      (0 < t.publisher.config.delayBetweenMsgs → u = t.thread.afterWaits (k + 1))) ∨
    (r = .error .interruptedException ∧ 0 < t.publisher.config.delayBetweenMsgs ∧
      ¬ (t.thread.interrupted = false ∧ t.thread.interrupts.getD k false = false)) := by
  by_cases hdelay : 0 < t.publisher.config.delayBetweenMsgs
  · rw [if_pos hdelay] at hwait
    obtain ⟨u', hsleep, hu'⟩ := Thread.exec_sleep t.thread k
    rw [h.thread_eq hdelay, hsleep] at hwait
    by_cases hquiet : t.thread.interrupted = false ∧ t.thread.interrupts.getD k false = false
    · rw [if_pos hquiet] at hwait
      cases hwait
      exact .inl ⟨rfl, fun _ ↦ hquiet, fun _ ↦ hu' hquiet.1⟩
    · rw [if_neg hquiet] at hwait
      cases hwait
      exact .inr ⟨rfl, hdelay, hquiet⟩
  · rw [if_neg hdelay] at hwait
    exact .inl ⟨hwait.1, fun hd ↦ absurd hd hdelay, fun hd ↦ absurd hd hdelay⟩

theorem Reached.pass (h : Reached t k t₁) (limited : Bool) (i : Int32) :
    ∃ r t₂, exec (publishBody t.publisher.config limited i) t₁ = some (r, t₂) ∧
      ((r = .ok i ∧ Reached t (k + 1) t₂) ∨
        (∃ e, r = .error e ∧ e.Handled ∧ .close ∉ t₂.trace ∧ ¬ t.GoesThrough k)) := by
  obtain ⟨r, t₂, hrun, ho⟩ := publishBody_outcome t.publisher.config limited i t₁
  have hcreated := SimplePublisher.exec_createTextMessage h.createFaults
    (messageContent t.publisher.config)
  obtain ⟨e, q, hsent, hqfaults, hqsender, hqsession, hqcreate⟩ := SimplePublisher.exec_send_open
    h.senderOpen h.sessionOpen (plainMessage t.publisher.config i)
  rw [h.faults_eq, headD_drop] at hsent
  refine ⟨r, t₂, hrun, ?_⟩
  cases ho with
  | createFailed hcreate =>
    rw [hcreated] at hcreate
    cases hcreate
  | @sendFailed e' q₁ q' hcreate hsend =>
    rw [hcreated] at hcreate
    cases hcreate
    rw [hsent] at hsend
    split_ifs at hsend with hfault
    · cases hsend
    cases hsend
    refine .inr ⟨_, rfl, .inl ⟨_, rfl⟩, ?_, fun h ↦ hfault h.1⟩
    rw [List.mem_append, not_or]
    exact ⟨h.not_closed, close_not_mem_sendSteps _ _ _⟩
  | @sent q₁ q' r u hcreate hsend hwait =>
    rw [hcreated] at hcreate
    cases hcreate
    rw [hsent] at hsend
    split_ifs at hsend with hfault
    case neg => cases hsend
    cases hsend
    have hnot_closed : .close ∉ t₁.trace ++ publishPass t.publisher.config limited i := by
      rw [List.mem_append, not_or]
      exact ⟨h.not_closed, close_not_mem_publishPass _ _ _⟩
    have hdrop : (t.publisher.faults.drop k).tail = t.publisher.faults.drop (k + 1) := List.tail_drop
    rcases h.waited hwait with ⟨rfl, hquiet, hu⟩ | ⟨rfl, hdelay, hloud⟩
    · refine .inl ⟨rfl, ⟨hqsender, hqsession, hqcreate.trans h.createFaults, ?_, hu, hnot_closed,
        Nat.forall_lt_succ_right.mpr ⟨h.through, hfault, hquiet⟩⟩⟩
      rw [hqfaults, h.faults_eq, hdrop]
    · exact .inr ⟨_, rfl, .inr rfl, hnot_closed, fun h ↦ hloud (h.2 hdelay)⟩

theorem publish_released (hs : Started t) (hrate : 0 ≤ t.publisher.config.messagesPerSecond.toInt)
    (hN : t.publisher.config.messageCount.toInt < 2 ^ 31 - 1)
    (hn : n = t.publisher.config.messageCount.toInt.toNat) (hfuel : n < fuel) :
    ∃ t', exec (publish fuel) t = some (.ok (), t') ∧
      (ReleasedOnce .close Work t'.trace ↔ ∀ k < n, t.GoesThrough k) := by
  let limited : Bool := decide (t.publisher.config.messagesPerSecond ≠ 0)
  have hloop := countedLoop_progress (publishBody t.publisher.config limited) (Reached t)
    (fun e t' ↦ e.Handled ∧ .close ∉ t'.trace ∧ ∃ k < n, ¬ t.GoesThrough k) (fun _ ↦ 0) hn hN
    (fun k hk t₁ h ↦ by
      obtain ⟨r, t₂, hrun, ⟨rfl, h₂⟩ | ⟨e, rfl, he, hnot_closed, hk'⟩⟩ :=
        h.pass limited (Int32.ofNat (k + 1))
      · exact ⟨_, t₂, hrun, .inl ⟨rfl, h₂, le_rfl⟩⟩
      · exact ⟨_, t₂, hrun, .inr (.inr ⟨e, rfl, he, hnot_closed, k, hk, hk'⟩)⟩)
    (s := t) ⟨hs.senderOpen, hs.sessionOpen, hs.createFaults, rfl, fun _ ↦ rfl,
      by rw [hs.trace_eq]; exact List.not_mem_nil, by simp⟩ (by omega)
  rw [publish_run hrate]
  obtain ⟨r, t₁, hrun, ⟨rfl, h⟩ | ⟨e, rfl, he, hnot_closed, k, hk, hk'⟩⟩ := hloop
  · obtain ⟨r, q, hclose, hr⟩ := SimplePublisher.close_ends t₁.publisher
    have htail : exec (do
        countedLoop t.publisher.config.messageCount (publishBody t.publisher.config limited) fuel 1
        log .close
        onPublisher SimplePublisher.close) t =
          some (r, { t₁ with trace := t₁.trace ++ [.close], publisher := q }) := by
      rw [exec_bind_ok hrun, exec_bind_ok (exec_log .close t₁)]
      exact exec_onPublisher (t := { t₁ with trace := t₁.trace ++ [.close] }) hclose
    have hreleased : ReleasedOnce .close Work (t₁.trace ++ [.close]) ↔ ∀ k < n, t.GoesThrough k :=
      iff_of_true (releasedOnce_concat h.not_closed) h.through
    rcases hr with rfl | ⟨e, rfl⟩
    · exact ⟨_, exec_tryCatch_ok htail, hreleased⟩
    · exact ⟨_, exec_tryCatch_error htail, hreleased⟩
  · have hunreleased : ReleasedOnce .close Work t₁.trace ↔ ∀ k < n, t.GoesThrough k :=
      iff_of_false (fun h ↦ hnot_closed h.mem) fun h ↦ hk' (h k hk)
    rcases he with ⟨message, rfl⟩ | rfl
    · exact ⟨t₁, exec_tryCatch_error (exec_bind_error hrun), hunreleased⟩
    · exact ⟨_, exec_tryCatch_error (exec_bind_error hrun), hunreleased⟩

end PublisherThread

namespace ConsumerThread

open SimpleConsumer (receiveCalls)

def Work : ConsumerStep → Prop
  | .iteration _ => True
  | .received _ => True
  | _ => False

structure Started (t : ConsumerThread) : Prop where
  consumerOpen : t.consumer.consumerOpen = true
  sessionOpen : t.consumer.sessionOpen = true
  received_eq : t.consumer.received = 0
  trace_eq : t.trace = []

def waits (config : SubscriberConfig) : ℕ := if 0 < config.receiveWaitTimeMillis then 2 else 1

def Quiet (config : SubscriberConfig) (u : Thread) (k : ℕ) : Prop :=
  u.interrupted = false ∧ ∀ i < waits config, u.interrupts.getD (waits config * k + i) false = false

def Receives (t : ConsumerThread) (k : ℕ) : Prop :=
  ∀ i < receiveCalls t.consumer.config,
    t.consumer.faults.getD (receiveCalls t.consumer.config * k + i) .returns = .returns

def TextUpTo (t : ConsumerThread) (k : ℕ) : Prop := ∀ j < k, (t.consumer.incoming j).body ≠ .other

/-- In the passes that it comes to, every call of the broker's client returns, and where there is a
wait between messages no interrupt reaches the thread. A message that is not a text message ends
the passes. -/
structure GoesThrough (t : ConsumerThread) (n : ℕ) : Prop where
  receives : ∀ k < n, t.TextUpTo k → t.Receives k
  quiet : ∀ k < n, t.TextUpTo (k + 1) → 0 < t.consumer.config.delayBetweenMsgs →
    Quiet t.consumer.config t.thread k
  unsubscribes : t.TextUpTo n → t.consumer.config.unsubscribeOnFinish →
    t.consumer.kind = .durableTopicSubscriber →
    t.consumer.faults.getD (receiveCalls t.consumer.config * n) .returns = .returns

structure Reached (t : ConsumerThread) (k : ℕ) (t' : ConsumerThread) : Prop where
  consumerOpen : t'.consumer.consumerOpen = true
  sessionOpen : t'.consumer.sessionOpen = true
  same : t.consumer.Same t'.consumer
  received_eq : t'.consumer.received = k
  faults_eq : t'.consumer.faults = t.consumer.faults.drop (receiveCalls t.consumer.config * k)
  thread_eq : 0 < t.consumer.config.delayBetweenMsgs →
    t'.thread = t.thread.afterWaits (waits t.consumer.config * k)
  not_closed : .close ∉ t'.trace
  text : t.TextUpTo k
  receives : ∀ j < k, t.Receives j
  quiet : ∀ j < k, 0 < t.consumer.config.delayBetweenMsgs → Quiet t.consumer.config t.thread j

variable {t t₁ : ConsumerThread} {config : SubscriberConfig} {limited : Bool} {fuel n k : ℕ}

theorem waits_pos (config : SubscriberConfig) : 0 < waits config := by
  unfold waits
  split_ifs <;> omega

theorem quiet_one {u : Thread} (hw : ¬ 0 < config.receiveWaitTimeMillis) :
    Quiet config u k ↔
      u.interrupted = false ∧ u.interrupts.getD (waits config * k) false = false := by
  have hwaits : waits config = 1 := if_neg hw
  constructor
  · intro h
    exact ⟨h.1, h.2 0 (waits_pos config)⟩
  · intro h
    refine ⟨h.1, fun i hi ↦ ?_⟩
    obtain rfl : i = 0 := by omega
    exact h.2

theorem quiet_two {u : Thread} (hw : 0 < config.receiveWaitTimeMillis) :
    Quiet config u k ↔
      (u.interrupted = false ∧ u.interrupts.getD (waits config * k) false = false) ∧
      u.interrupts.getD (waits config * k + 1) false = false := by
  have hwaits : waits config = 2 := if_pos hw
  constructor
  · intro h
    exact ⟨⟨h.1, h.2 0 (waits_pos config)⟩, h.2 1 (by omega)⟩
  · intro h
    refine ⟨h.1.1, fun i hi ↦ ?_⟩
    obtain rfl | rfl : i = 0 ∨ i = 1 := by omega
    · exact h.1.2
    · exact h.2

theorem wait_outcome {u u₂ : Thread} {r : Except Thrown Unit}
    (hw : ¬ 0 < config.receiveWaitTimeMillis)
    (hdelay : exec Thread.sleep (u.afterWaits (waits config * k)) = some (r, u₂)) :
    (r = .ok () ∧ Quiet config u k ∧ u₂ = u.afterWaits (waits config * (k + 1))) ∨
      (r = .error .interruptedException ∧ ¬ Quiet config u k) := by
  have hwaits : waits config = 1 := if_neg hw
  rw [quiet_one hw]
  obtain ⟨v, hsleep, hv⟩ := u.exec_sleep (waits config * k)
  rw [hsleep] at hdelay
  by_cases hquiet : u.interrupted = false ∧ u.interrupts.getD (waits config * k) false = false
  · rw [if_pos hquiet] at hdelay
    cases hdelay
    exact .inl ⟨rfl, hquiet, by rw [hv hquiet.1, hwaits, Nat.mul_succ]⟩
  · rw [if_neg hquiet] at hdelay
    cases hdelay
    exact .inr ⟨rfl, hquiet⟩

theorem two_waits_outcome {u u₁ u₂ : Thread} {r : Except Thrown Unit}
    (hw : 0 < config.receiveWaitTimeMillis)
    (hwait : WaitsOut config (u.afterWaits (waits config * k)) u₁)
    (hdelay : exec Thread.sleep u₁ = some (r, u₂)) :
    (r = .ok () ∧ Quiet config u k ∧ u₂ = u.afterWaits (waits config * (k + 1))) ∨
      (r = .error .interruptedException ∧ ¬ Quiet config u k) := by
  have hwaits : waits config = 2 := if_pos hw
  rw [quiet_two hw]
  obtain ⟨v, hfirst, hv⟩ := u.exec_sleep (waits config * k)
  rw [WaitsOut, if_pos hw, hfirst] at hwait
  by_cases hquiet : u.interrupted = false ∧ u.interrupts.getD (waits config * k) false = false
  case neg =>
    rw [if_neg hquiet] at hwait
    rcases hwait with h | ⟨v', -, rfl⟩
    · cases h
    · rw [Thread.sleep, exec_step, if_pos rfl] at hdelay
      cases hdelay
      exact .inr ⟨rfl, fun h ↦ hquiet h.1⟩
  rw [if_pos hquiet] at hwait
  rcases hwait with h | ⟨_, h, -⟩
  case inr => cases h
  cases h
  obtain ⟨v', hsecond, hv'⟩ := u.exec_sleep (waits config * k + 1)
  rw [hv hquiet.1, hsecond] at hdelay
  by_cases hnext : u.interrupts.getD (waits config * k + 1) false = false
  · rw [if_pos ⟨hquiet.1, hnext⟩] at hdelay
    cases hdelay
    exact .inl ⟨rfl, ⟨hquiet, hnext⟩, by rw [hv' hquiet.1, hwaits, Nat.mul_succ]⟩
  · rw [if_neg fun h ↦ hnext h.2] at hdelay
    cases hdelay
    exact .inr ⟨rfl, fun h ↦ hnext h.2⟩

theorem waits_outcome {u u₁ u₂ : Thread} {r : Except Thrown Unit}
    (hwait : WaitsOut config (u.afterWaits (waits config * k)) u₁)
    (hdelay : exec Thread.sleep u₁ = some (r, u₂)) :
    (r = .ok () ∧ Quiet config u k ∧ u₂ = u.afterWaits (waits config * (k + 1))) ∨
      (r = .error .interruptedException ∧ ¬ Quiet config u k) := by
  by_cases hw : 0 < config.receiveWaitTimeMillis
  · exact two_waits_outcome hw hwait hdelay
  · rw [WaitsOut, if_neg hw] at hwait
    rw [hwait] at hdelay
    exact wait_outcome hw hdelay

theorem close_not_mem_steps (config : SubscriberConfig) (limited : Bool) (i : Int32)
    (m : Option ATCMessage) : .close ∉ startSteps limited i ++ [.received m] ++ waitSteps config ++
      delaySteps config := by
  unfold startSteps waitSteps delaySteps
  cases limited <;> split_ifs <;> simp

theorem Reached.receive (h : Reached t k t₁) :
    (t.Receives k → exec SimpleConsumer.receive t₁.consumer =
      some (.ok (MessageUtils.fromJMSToATC (t.consumer.incoming k)),
        (t₁.consumer.withFaults (t.consumer.faults.drop
          (receiveCalls t.consumer.config * (k + 1)))).afterReceive)) ∧
    (¬ t.Receives k → ∃ e c, exec SimpleConsumer.receive t₁.consumer =
      some (.error (.atcException e), c)) := by
  have hreceive := SimpleConsumer.exec_receive_open h.consumerOpen h.sessionOpen
  rw [h.same.config_eq, h.same.incoming_eq, h.received_eq, h.faults_eq, List.drop_drop,
    ← Nat.mul_succ] at hreceive
  simp only [List.getD_eq_getElem?_getD, List.getElem?_drop] at hreceive
  simp only [Receives, List.getD_eq_getElem?_getD]
  exact hreceive

theorem fromJMSToATC_eq_none {m : JmsMessage} : MessageUtils.fromJMSToATC m = none ↔ m.body = .other := by
  unfold MessageUtils.fromJMSToATC
  cases m.body <;> simp

theorem Reached.waited (h : Reached t k t₁) {r : Except Thrown Unit} {u u' : Thread}
    (hwait : WaitsOut t.consumer.config t₁.thread u)
    (hdelay : if 0 < t.consumer.config.delayBetweenMsgs then exec Thread.sleep u = some (r, u')
      else r = .ok () ∧ u' = u) :
    (r = .ok () ∧
      (0 < t.consumer.config.delayBetweenMsgs → Quiet t.consumer.config t.thread k) ∧
      (0 < t.consumer.config.delayBetweenMsgs →
        u' = t.thread.afterWaits (waits t.consumer.config * (k + 1)))) ∨
    (r = .error .interruptedException ∧ 0 < t.consumer.config.delayBetweenMsgs ∧
      ¬ Quiet t.consumer.config t.thread k) := by
  by_cases hd : 0 < t.consumer.config.delayBetweenMsgs
  · rw [if_pos hd] at hdelay
    rw [h.thread_eq hd] at hwait
    rcases waits_outcome hwait hdelay with ⟨hr, hquiet, hu'⟩ | ⟨hr, hloud⟩
    · exact .inl ⟨hr, fun _ ↦ hquiet, fun _ ↦ hu'⟩
    · exact .inr ⟨hr, hd, hloud⟩
  · rw [if_neg hd] at hdelay
    exact .inl ⟨hdelay.1, fun h ↦ absurd h hd, fun h ↦ absurd h hd⟩

theorem Reached.pass (h : Reached t k t₁) (limited : Bool) (i : Int32) :
    ∃ r t₂, exec (consumeBody t.consumer.config limited i) t₁ = some (r, t₂) ∧
      ((r = .ok i ∧ Reached t (k + 1) t₂) ∨
        (r = .error .nullPointerException ∧ t.Receives k ∧ (t.consumer.incoming k).body = .other) ∨
        (∃ e, r = .error e ∧ e.Handled ∧ .close ∉ t₂.trace ∧
          (t.Receives k → (t.consumer.incoming k).body ≠ .other ∧
            0 < t.consumer.config.delayBetweenMsgs ∧ ¬ Quiet t.consumer.config t.thread k))) := by
  obtain ⟨r, t₂, hrun, ho⟩ := consumeBody_outcome t.consumer.config limited i t₁
  refine ⟨r, t₂, hrun, ?_⟩
  by_cases hreceives : t.Receives k
  case neg =>
    obtain ⟨e, c, hraised⟩ := h.receive.2 hreceives
    cases ho with
    | receiveFailed hreceive =>
      rw [hraised] at hreceive
      cases hreceive
      have hstart := close_not_mem_steps t.consumer.config limited i none
      simp only [List.mem_append, not_or] at hstart
      refine .inr (.inr ⟨_, rfl, .inl ⟨e, rfl⟩, ?_, fun h ↦ absurd h hreceives⟩)
      rw [List.mem_append, not_or]
      exact ⟨h.not_closed, hstart.1.1.1⟩
    | nullMessage hreceive =>
      rw [hraised] at hreceive
      cases hreceive
    | counted hreceive =>
      rw [hraised] at hreceive
      cases hreceive
  have hreceived := h.receive.1 hreceives
  cases ho with
  | receiveFailed hreceive =>
    rw [hreceived] at hreceive
    cases hreceive
  | nullMessage hreceive =>
    rw [hreceived] at hreceive
    have hnull := congrArg Prod.fst (Option.some.inj hreceive)
    exact .inr (.inl ⟨rfl, hreceives, fromJMSToATC_eq_none.mp (Except.ok.inj hnull)⟩)
  | @counted m c u u' r hreceive hwait hdelay =>
    rw [hreceived] at hreceive
    have hm := Except.ok.inj (congrArg Prod.fst (Option.some.inj hreceive))
    have hc : _ = c := congrArg Prod.snd (Option.some.inj hreceive)
    have htext : (t.consumer.incoming k).body ≠ .other := by
      intro hother
      rw [fromJMSToATC_eq_none.mpr hother] at hm
      cases hm
    have hnot_closed : .close ∉ t₁.trace ++ startSteps limited i ++ [.received (some m)] ++
        waitSteps t.consumer.config ++ delaySteps t.consumer.config := by
      have hsteps := close_not_mem_steps t.consumer.config limited i (some m)
      simp only [List.append_assoc, List.mem_append, not_or] at hsteps ⊢
      exact ⟨h.not_closed, hsteps⟩
    obtain ⟨settled, unsettled, hframe⟩ := (t₁.consumer.withFaults (t.consumer.faults.drop
      (receiveCalls t.consumer.config * (k + 1)))).afterReceive_frame
    rw [hframe] at hc
    have htexts : t.TextUpTo (k + 1) := Nat.forall_lt_succ_right.mpr ⟨h.text, htext⟩
    have hall : ∀ j < k + 1, t.Receives j :=
      Nat.forall_lt_succ_right.mpr ⟨h.receives, hreceives⟩
    subst hc
    rcases h.waited hwait hdelay with ⟨rfl, hquiet, hu'⟩ | ⟨rfl, hd, hloud⟩
    · exact .inl ⟨rfl, ⟨h.consumerOpen, h.sessionOpen, h.same.trans ⟨rfl, rfl, rfl, rfl⟩,
        congrArg (· + 1) h.received_eq, rfl, hu', hnot_closed, htexts, hall,
        Nat.forall_lt_succ_right.mpr ⟨h.quiet, hquiet⟩⟩⟩
    · exact .inr (.inr ⟨_, rfl, .inr rfl, hnot_closed, fun _ ↦ ⟨htext, hd, hloud⟩⟩)

theorem Reached.finish (h : Reached t n t₁) : ∃ r t₂, exec (finish t.consumer.config) t₁ =
      some (r, t₂) ∧ (r = .ok () ∨ ∃ e, r = .error (.atcException e)) ∧
    (ReleasedOnce .close Work t₂.trace ↔ (t.consumer.config.unsubscribeOnFinish →
      t.consumer.kind = .durableTopicSubscriber →
      t.consumer.faults.getD (receiveCalls t.consumer.config * n) .returns = .returns)) := by
  have hclosed : ∀ t' : ConsumerThread, .close ∉ t'.trace → ∃ (r : Except Thrown Unit)
      (t₂ : ConsumerThread), exec (do
      log .close
      onConsumer SimpleConsumer.close) t' = some (r, t₂) ∧
      (r = .ok () ∨ ∃ e, r = .error (.atcException e)) ∧ ReleasedOnce .close Work t₂.trace := by
    intro t' ht'
    obtain ⟨r, c, hclose, hr⟩ := SimpleConsumer.close_ends t'.consumer
    refine ⟨r, { t' with trace := t'.trace ++ [.close], consumer := c }, ?_, hr,
      releasedOnce_concat ht'⟩
    rw [exec_bind_ok (exec_log .close t')]
    exact exec_onConsumer (t := { t' with trace := t'.trace ++ [.close] }) hclose
  cases hu : t.consumer.config.unsubscribeOnFinish with
  | false =>
    obtain ⟨r, t₂, hrun, hr, hreleased⟩ := hclosed t₁ h.not_closed
    refine ⟨r, t₂, ?_, hr, iff_of_true hreleased (by simp)⟩
    rw [ConsumerThread.finish, hu]
    exact hrun
  | true =>
    let t₂ : ConsumerThread := { t₁ with trace := t₁.trace ++ [.unsubscribe] }
    have hnot_closed : .close ∉ t₂.trace := by
      simp [t₂, h.not_closed]
    obtain ⟨e, c, hunsubscribe⟩ := SimpleConsumer.exec_unsubscribe_open h.sessionOpen
    rw [h.same.kind_eq, h.faults_eq, headD_drop] at hunsubscribe
    have hrun : exec (ConsumerThread.finish t.consumer.config) t₁ = exec (do
        onConsumer SimpleConsumer.unsubscribe
        log .close
        onConsumer SimpleConsumer.close) t₂ := by
      rw [ConsumerThread.finish, hu, if_pos rfl, exec_bind_ok (exec_log .unsubscribe t₁)]
    have hstep := exec_onConsumer (t := t₂) hunsubscribe
    rw [hrun]
    split_ifs at hstep with hsubscribed
    · obtain ⟨r, t₃, hrest, hr, hreleased⟩ := hclosed { t₂ with consumer := c } hnot_closed
      exact ⟨r, t₃, (exec_bind_ok hstep).trans hrest, hr, iff_of_true hreleased fun _ ↦ hsubscribed⟩
    · refine ⟨_, _, exec_bind_error hstep, .inr ⟨e, rfl⟩, iff_of_false ?_ fun h ↦ hsubscribed (h rfl)⟩
      exact fun h ↦ hnot_closed h.mem

theorem run_released (hs : Started t) (hrate : 0 ≤ t.consumer.config.messagesPerSecond.toInt)
    (hN : t.consumer.config.messageCount.toInt < 2 ^ 31 - 1)
    (hn : n = t.consumer.config.messageCount.toInt.toNat) (hfuel : n < fuel) :
    ∃ r t', exec (run fuel) t = some (r, t') ∧
      ((r = .ok () → ReleasedOnce .close Work t'.trace) ↔ t.GoesThrough n) := by
  let limited : Bool := decide (t.consumer.config.messagesPerSecond ≠ 0)
  have hloop := countedLoop_progress (consumeBody t.consumer.config limited) (Reached t)
    (fun e t' ↦ (e = .nullPointerException ∧ t.GoesThrough n) ∨
      (e.Handled ∧ .close ∉ t'.trace ∧ ¬ t.GoesThrough n)) (fun _ ↦ 0) hn hN
    (fun k hk t₁ h ↦ by
      obtain ⟨r, t₂, hrun, ⟨rfl, h₂⟩ | ⟨rfl, hreceives, hother⟩ | ⟨e, rfl, he, hnot_closed, hstop⟩⟩ :=
        h.pass limited (Int32.ofNat (k + 1))
      · exact ⟨_, t₂, hrun, .inl ⟨rfl, h₂, le_rfl⟩⟩
      · have hends : ∀ j, t.TextUpTo j → j ≤ k := fun j hj ↦ not_lt.mp fun hlt ↦ hj k hlt hother
        refine ⟨_, t₂, hrun, .inr (.inr ⟨_, rfl, .inl ⟨rfl, ?_, ?_, ?_⟩⟩)⟩
        · intro j _ hj
          rcases (hends j hj).lt_or_eq with hlt | rfl
          · exact h.receives j hlt
          · exact hreceives
        · exact fun j _ hj hd ↦ h.quiet j (hends _ hj) hd
        · exact fun hall ↦ absurd (hends n hall) (by omega)
      · refine ⟨_, t₂, hrun, .inr (.inr ⟨e, rfl, .inr ⟨he, hnot_closed, fun hgoes ↦ ?_⟩⟩)⟩
        obtain ⟨htext, hd, hloud⟩ := hstop (hgoes.receives k hk h.text)
        exact hloud (hgoes.quiet k hk (Nat.forall_lt_succ_right.mpr ⟨h.text, htext⟩) hd))
    (s := t) ⟨hs.consumerOpen, hs.sessionOpen, .refl _, hs.received_eq, by simp,
      fun _ ↦ rfl, by rw [hs.trace_eq]; exact List.not_mem_nil, by simp [TextUpTo], by simp, by simp⟩
    (by omega)
  rw [run_eq hrate]
  obtain ⟨r, t₁, hrun, ⟨rfl, h⟩ | ⟨e, rfl, ⟨rfl, hgoes⟩ | ⟨he, hnot_closed, hstops⟩⟩⟩ := hloop
  · obtain ⟨r, t₂, hfinish, hr, hreleased⟩ := h.finish
    have hgoes : ReleasedOnce .close Work t₂.trace ↔ t.GoesThrough n := by
      rw [hreleased]
      exact ⟨fun hu ↦ ⟨fun k hk _ ↦ h.receives k hk, fun k hk _ ↦ h.quiet k hk, fun _ ↦ hu⟩,
        fun hgoes ↦ hgoes.unsubscribes h.text⟩
    have htail : exec (do
        countedLoop t.consumer.config.messageCount (consumeBody t.consumer.config limited) fuel 1
        finish t.consumer.config) t = some (r, t₂) := by
      rw [exec_bind_ok hrun, hfinish]
    rcases hr with rfl | ⟨e, rfl⟩
    · exact ⟨_, t₂, exec_tryCatch_ok htail, (imp_iff_right rfl).trans hgoes⟩
    · exact ⟨_, t₂, exec_tryCatch_error htail, (imp_iff_right rfl).trans hgoes⟩
  · exact ⟨_, t₁, exec_tryCatch_error (exec_bind_error hrun), iff_of_true (by simp) hgoes⟩
  · have hunreleased : (.ok () = (.ok () : Except Thrown Unit) → ReleasedOnce .close Work t₁.trace) ↔
        t.GoesThrough n := iff_of_false (fun h ↦ hnot_closed (h rfl).mem) hstops
    rcases he with ⟨message, rfl⟩ | rfl
    · exact ⟨_, t₁, exec_tryCatch_error (exec_bind_error hrun), hunreleased⟩
    · exact ⟨_, _, exec_tryCatch_error (exec_bind_error hrun), hunreleased⟩

end ConsumerThread

/-- For any two threads, one of each kind, and any failures of their calls and interrupts of their
waits: the publisher is released by a run that returns exactly when every pass goes through, and
the consumer exactly when every pass that is come to does and so does the unsubscribe. -/
theorem released_iff {p : PublisherThread} {c : ConsumerThread} {fuel : ℕ} (hp : p.Started)
    (hc : c.Started) (hNp : p.publisher.config.messageCount.toInt < 2 ^ 31 - 1)
    (hNc : c.consumer.config.messageCount.toInt < 2 ^ 31 - 1)
    (hfuelp : p.publisher.config.messageCount.toInt.toNat < fuel)
    (hfuelc : c.consumer.config.messageCount.toInt.toNat < fuel) :
    (Ends (PublisherThread.publish fuel)
        (fun r p' ↦ r = .ok () → ReleasedOnce .close PublisherThread.Work p'.trace) p ↔
      p.publisher.config.messagesPerSecond.toInt < 0 ∨
        ∀ k < p.publisher.config.messageCount.toInt.toNat, p.GoesThrough k) ∧
    (Ends (ConsumerThread.run fuel)
        (fun r c' ↦ r = .ok () → ReleasedOnce .close ConsumerThread.Work c'.trace) c ↔
      c.consumer.config.messagesPerSecond.toInt < 0 ∨
        c.GoesThrough c.consumer.config.messageCount.toInt.toNat) := by
  constructor
  · by_cases hrate : 0 ≤ p.publisher.config.messagesPerSecond.toInt
    case neg =>
      rw [ends_iff (PublisherThread.publish_refused (Int.not_le.mp hrate) fuel)]
      exact iff_of_true (by simp) (.inl (Int.not_le.mp hrate))
    obtain ⟨p', hrun, hreleased⟩ := PublisherThread.publish_released hp hrate hNp rfl hfuelp
    rw [ends_iff hrun, imp_iff_right rfl, hreleased, or_iff_right (Int.not_lt.mpr hrate)]
  · by_cases hrate : 0 ≤ c.consumer.config.messagesPerSecond.toInt
    case neg =>
      rw [ends_iff (ConsumerThread.run_refused (Int.not_le.mp hrate) fuel)]
      exact iff_of_true (by simp) (.inl (Int.not_le.mp hrate))
    obtain ⟨r, c', hrun, hreleased⟩ := ConsumerThread.run_released hc hrate hNc rfl hfuelc
    rw [ends_iff hrun, hreleased, or_iff_right (Int.not_lt.mpr hrate)]

theorem released_iff_second_send :
    let conf : PublisherConfig := { messageCount := 2 }
    let conf' : SubscriberConfig := { messageCount := 1, unsubscribeOnFinish := true }
    let p : PublisherThread := { publisher :=
      { SimplePublisher.init .queueSender conf with faults := [.returns, .raises true] } }
    let c : ConsumerThread :=
      .new .durableTopicSubscriber conf' (fun _ ↦ { body := .text none }) ⟨false, [true]⟩ []
    (Ends (PublisherThread.publish 3)
        (fun r p' ↦ r = .ok () → ReleasedOnce .close PublisherThread.Work p'.trace) p ↔
      conf.messagesPerSecond.toInt < 0 ∨ ∀ k < conf.messageCount.toInt.toNat, p.GoesThrough k) ∧
    (Ends (ConsumerThread.run 3)
        (fun r c' ↦ r = .ok () → ReleasedOnce .close ConsumerThread.Work c'.trace) c ↔
      conf'.messagesPerSecond.toInt < 0 ∨ c.GoesThrough conf'.messageCount.toInt.toNat) := by
  intro conf conf' p c
  exact released_iff (p := p) (c := c) ⟨rfl, rfl, rfl, rfl⟩ ⟨rfl, rfl, rfl, rfl⟩ (by decide) (by decide)
    (by decide) (by decide)

/-- One failed send, or one interrupted wait: the run returns, and nothing has been closed. -/
theorem failed_send_leaks :
    let conf : PublisherConfig := { messageCount := 1 }
    let conf' : SubscriberConfig := { messageCount := 1, delayBetweenMsgs := 5 }
    (∃ p', exec (PublisherThread.publish 2) { publisher :=
        { SimplePublisher.init .queueSender conf with faults := [.raises false] } } =
          some (.ok (), p') ∧
      .close ∉ p'.trace ∧ p'.publisher.connectionOpen = true) ∧
    (∃ c', exec (ConsumerThread.run 2) (.new .queueReceiver conf' (fun _ ↦ { body := .text none })
        ⟨false, [true]⟩ []) = some (.ok (), c') ∧
      .close ∉ c'.trace ∧ c'.consumer.connectionOpen = true) :=
  ⟨⟨_, rfl, by decide, rfl⟩, ⟨_, rfl, by decide, rfl⟩⟩

end AndesTestClient
