import AndesTestClient.SimplePublisher

namespace AndesTestClient

open Imperative

inductive ReceiverKind
  | queueReceiver
  | topicSubscriber
  | durableTopicSubscriber
deriving DecidableEq, Repr

inductive SessionMode
  | autoAcknowledge
  | clientAcknowledge
  | transacted
deriving DecidableEq, Repr

/-- A consumer with its JMS objects and the part of the broker it reads from: `incoming` is what
the broker delivers to it, `received` counts what it has taken. A message is unsettled until the
broker takes it as acknowledged, and closing the session gives the unsettled ones back. -/
structure SimpleConsumer where
  kind : ReceiverKind
  config : SubscriberConfig
  mode : SessionMode
  incoming : ℕ → JmsMessage
  received : ℕ := 0
  settled : List JmsMessage := []
  unsettled : List JmsMessage := []
  redelivered : List JmsMessage := []
  consumerOpen : Bool := true
  sessionOpen : Bool := true
  connectionOpen : Bool := true
  subscribed : Bool := true
  faults : List CallOutcome := []
  closeFaults : List ℕ := []

namespace SimpleConsumer

def sessionMode (conf : SubscriberConfig) : SessionMode :=
  if conf.enableClientAcknowledgment then .clientAcknowledge
  else if conf.isTransactional then .transacted
  else .autoAcknowledge

def subscribe (kind : ReceiverKind) (conf : SubscriberConfig) (incoming : ℕ → JmsMessage) :
    SimpleConsumer :=
  { kind := kind, config := conf, mode := sessionMode conf, incoming := incoming }

def deliver (c : SimpleConsumer) : SimpleConsumer :=
  match c.mode with
  | .autoAcknowledge =>
    { c with received := c.received + 1, settled := c.settled ++ [c.incoming c.received] }
  | _ => { c with received := c.received + 1, unsettled := c.unsettled ++ [c.incoming c.received] }

/-- `message.acknowledge()`: all that a client-acknowledging session has received is settled,
and on any other session nothing happens. -/
def acknowledged (c : SimpleConsumer) : SimpleConsumer :=
  match c.mode with
  | .clientAcknowledge => { c with settled := c.settled ++ c.unsettled, unsettled := [] }
  | _ => c

def call (usable : Bool) (act : SimpleConsumer → SimpleConsumer) (message : String) :
    Java SimpleConsumer Unit :=
  step fun c ↦
    let error : Except Thrown Unit :=
      .error (.atcException (message ++ concatenated c.config.id))
    if usable then
      match c.faults.headD .returns with
      | .returns => (.ok (), act { c with faults := c.faults.tail })
      | .raises acted =>
        (error, if acted then act { c with faults := c.faults.tail }
          else { c with faults := c.faults.tail })
    else (error, c)

/-- `receive`, the same in the three classes. `none` stands for null. -/
def receive : Java SimpleConsumer (Option ATCMessage) := do
  let c ← observe id
  call (c.sessionOpen && c.consumerOpen) deliver
    "Error occurred while processing received message. Subscriber id: "
  let message := c.incoming c.received
  if c.config.enableClientAcknowledgment then
    call c.sessionOpen acknowledged
      "Error occurred while processing received message. Subscriber id: "
  pure (MessageUtils.fromJMSToATC message)

/-- Closing a session rolls back what it has not settled, and closing a connection closes the
sessions made on it. -/
def closeObject (s : CloseStep) (c : SimpleConsumer) : SimpleConsumer :=
  match s with
  | .endpoint => { c with consumerOpen := false }
  | .session =>
    { c with sessionOpen := false, unsettled := [], redelivered := c.redelivered ++ c.unsettled }
  | .stop => c
  | .connection =>
    { c with
      connectionOpen := false
      sessionOpen := false
      unsettled := []
      redelivered := c.redelivered ++ c.unsettled }

def closeAll (steps : List CloseStep) (message : String) : Java SimpleConsumer Unit :=
  step fun c ↦
    match c.closeFaults with
    | [] => (.ok (), steps.foldl (fun c s ↦ c.closeObject s) c)
    | n :: rest =>
      (.error (.atcException (message ++ concatenated c.config.id)),
        (steps.take n).foldl (fun c s ↦ c.closeObject s) { c with closeFaults := rest })

end SimpleConsumer

def AMQPQueueReceiver.close : Java SimpleConsumer Unit :=
  SimpleConsumer.closeAll [.endpoint, .session, .stop, .connection]
    "Exception occurred while closing publisher "

/-- The connection is stopped and stays open. -/
def AMQPTopicSubscriber.close : Java SimpleConsumer Unit :=
  SimpleConsumer.closeAll [.endpoint, .session, .stop] "Exception occurred while closing subscriber "

def AMQPDurableTopicSubscriber.close : Java SimpleConsumer Unit :=
  SimpleConsumer.closeAll [.endpoint, .session, .connection]
    "Exception occurred while closing subscriber "

def AMQPDurableTopicSubscriber.unsubscribe : Java SimpleConsumer Unit := do
  let c ← observe id
  SimpleConsumer.call c.sessionOpen (fun c ↦ { c with subscribed := false })
    "Exception occurred while un-subscribing subscriber "

namespace SimpleConsumer

def close : Java SimpleConsumer Unit := do
  let c ← observe id
  match c.kind with
  | .queueReceiver => AMQPQueueReceiver.close
  | .topicSubscriber => AMQPTopicSubscriber.close
  | .durableTopicSubscriber => AMQPDurableTopicSubscriber.close

def unsubscribe : Java SimpleConsumer Unit := do
  let c ← observe id
  match c.kind with
  | .durableTopicSubscriber => AMQPDurableTopicSubscriber.unsubscribe
  | _ => pure ()

structure Sound (c : SimpleConsumer) : Prop where
  consumerOpen : c.consumerOpen = true
  sessionOpen : c.sessionOpen = true
  faults : c.faults = []
  closeFaults : c.closeFaults = []

/-- Where the first `n` messages taken from the broker are while the session is open: a
transacted session holds them all back, the other two have settled them. -/
structure Holds (c : SimpleConsumer) (n : ℕ) : Prop where
  mode_eq : c.mode = sessionMode c.config
  received_eq : c.received = n
  settled_eq : c.settled =
    if c.mode = .transacted then [] else (List.range n).map c.incoming
  unsettled_eq : c.unsettled =
    if c.mode = .transacted then (List.range n).map c.incoming else []
  redelivered_eq : c.redelivered = []

structure Same (c c' : SimpleConsumer) : Prop where
  kind_eq : c'.kind = c.kind
  config_eq : c'.config = c.config
  mode_eq : c'.mode = c.mode
  incoming_eq : c'.incoming = c.incoming

theorem Same.refl (c : SimpleConsumer) : Same c c := ⟨rfl, rfl, rfl, rfl⟩

theorem Same.trans {c c' c'' : SimpleConsumer} (h : Same c c') (h' : Same c' c'') : Same c c'' :=
  ⟨h'.kind_eq.trans h.kind_eq, h'.config_eq.trans h.config_eq, h'.mode_eq.trans h.mode_eq,
    h'.incoming_eq.trans h.incoming_eq⟩

variable {c : SimpleConsumer} {n : ℕ}

theorem exec_call (hf : c.faults = []) (act : SimpleConsumer → SimpleConsumer) (message : String) :
    exec (call true act message) c = some (.ok (), act c) := by
  cases c
  simp only at hf
  simp [call, hf]

theorem call_ends (usable : Bool) (act : SimpleConsumer → SimpleConsumer) (message : String)
    (c : SimpleConsumer) : Ends (call usable act message)
      (fun r _ ↦ r = .ok () ∨ ∃ e, r = .error (.atcException e)) c := by
  rw [call, ends_step]
  cases usable
  · exact .inr ⟨_, rfl⟩
  · cases c.faults.headD .returns
    · exact .inl rfl
    · exact .inr ⟨_, rfl⟩

theorem receive_ends (c : SimpleConsumer) :
    Ends receive (fun r _ ↦ (∃ m, r = .ok m) ∨ ∃ e, r = .error (.atcException e)) c := by
  rw [receive, ends_observe_bind]
  refine (call_ends _ _ _ c).bind ?_ ?_
  · intro _ c₁ _
    split_ifs
    · refine (call_ends _ _ _ c₁).bind ?_ ?_
      · intro _ c₂ _
        exact ends_pure.mpr (.inl ⟨_, rfl⟩)
      · intro e c₂ h
        rcases h with h | ⟨e', h⟩
        · cases h
        · exact .inr ⟨e', by rw [Except.error.inj h]⟩
    · exact ends_pure.mpr (.inl ⟨_, rfl⟩)
  · intro e c₁ h
    rcases h with h | ⟨e', h⟩
    · cases h
    · exact .inr ⟨e', by rw [Except.error.inj h]⟩

theorem close_ends (c : SimpleConsumer) :
    Ends close (fun r _ ↦ r = .ok () ∨ ∃ e, r = .error (.atcException e)) c := by
  rw [close, ends_observe_bind]
  split <;> simp only [AMQPQueueReceiver.close, AMQPTopicSubscriber.close,
    AMQPDurableTopicSubscriber.close, closeAll, ends_step] <;> cases c.closeFaults <;> simp

theorem sessionMode_transacted {conf : SubscriberConfig} :
    sessionMode conf = .transacted ↔
      conf.enableClientAcknowledgment = false ∧ conf.isTransactional = true := by
  unfold sessionMode
  cases conf.enableClientAcknowledgment <;> cases conf.isTransactional <;> simp

theorem subscribe_holds (kind : ReceiverKind) (conf : SubscriberConfig)
    (incoming : ℕ → JmsMessage) : Holds (subscribe kind conf incoming) 0 :=
  ⟨rfl, rfl, by simp [subscribe], by simp [subscribe], rfl⟩

def afterReceive (c : SimpleConsumer) : SimpleConsumer :=
  if c.config.enableClientAcknowledgment then c.deliver.acknowledged else c.deliver

theorem deliver_faults (c : SimpleConsumer) : c.deliver.faults = c.faults := by
  unfold deliver
  cases c.mode <;> rfl

def withFaults (faults : List CallOutcome) (c : SimpleConsumer) : SimpleConsumer :=
  { c with faults := faults }

@[simp] theorem withFaults_config (faults : List CallOutcome) (c : SimpleConsumer) :
    (c.withFaults faults).config = c.config := rfl

theorem deliver_withFaults (faults faults' : List CallOutcome) (c : SimpleConsumer) :
    ((c.withFaults faults).deliver).withFaults faults' = (c.withFaults faults').deliver := by
  simp only [deliver, withFaults]
  cases c.mode <;> rfl

def receiveCalls (conf : SubscriberConfig) : ℕ := if conf.enableClientAcknowledgment then 2 else 1

theorem exec_call_open (act : SimpleConsumer → SimpleConsumer) (message : String)
    (c : SimpleConsumer) : ∃ e c', exec (call true act message) c =
        some (if c.faults.headD .returns = .returns then .ok () else .error (.atcException e), c') ∧
      (c.faults.headD .returns = .returns → c' = act (c.withFaults c.faults.tail)) := by
  rw [call, exec_step]
  cases c.faults.headD .returns with
  | returns => exact ⟨"", _, rfl, fun _ ↦ rfl⟩
  | raises acted => exact ⟨_, _, rfl, fun h ↦ absurd h (by simp)⟩

theorem exec_receive_open (hconsumer : c.consumerOpen = true) (hsession : c.sessionOpen = true) :
    ((∀ i < receiveCalls c.config, c.faults.getD i .returns = .returns) →
      exec receive c = some (.ok (MessageUtils.fromJMSToATC (c.incoming c.received)),
        (c.withFaults (c.faults.drop (receiveCalls c.config))).afterReceive)) ∧
    (¬ (∀ i < receiveCalls c.config, c.faults.getD i .returns = .returns) →
      ∃ e c', exec receive c = some (.error (.atcException e), c')) := by
  let message := "Error occurred while processing received message. Subscriber id: "
  have hstart : exec receive c = exec (do
      call true deliver message
      if c.config.enableClientAcknowledgment then call true acknowledged message
      pure (MessageUtils.fromJMSToATC (c.incoming c.received))) c := by
    rw [receive, exec_bind_ok (exec_observe id c)]
    simp only [id_eq, hsession, hconsumer, Bool.and_self, message]
  obtain ⟨e, c₁, hfirst, hc₁⟩ := exec_call_open deliver message c
  have hhead : c.faults.headD .returns = c.faults.getD 0 .returns := headD_drop c.faults 0 _
  rw [hhead] at hfirst hc₁
  rw [hstart]
  by_cases h₀ : c.faults.getD 0 .returns = .returns
  case neg =>
    rw [if_neg h₀] at hfirst
    refine ⟨fun h ↦ absurd (h 0 ?_) h₀, fun _ ↦ ⟨e, c₁, exec_bind_error hfirst⟩⟩
    unfold receiveCalls
    split_ifs <;> omega
  rw [if_pos h₀, hc₁ h₀] at hfirst
  rw [exec_bind_ok hfirst, afterReceive, withFaults_config]
  cases hack : c.config.enableClientAcknowledgment with
  | false =>
    have hcalls : receiveCalls c.config = 1 := by rw [receiveCalls, hack]; rfl
    rw [hcalls, List.drop_one]
    refine ⟨fun _ ↦ rfl, fun h ↦ absurd (fun i hi ↦ ?_) h⟩
    rw [Nat.lt_one_iff.mp hi, h₀]
  | true =>
    have hcalls : receiveCalls c.config = 2 := by rw [receiveCalls, hack]; rfl
    obtain ⟨e', c₂, hsecond, hc₂⟩ := exec_call_open acknowledged message
      (c.withFaults c.faults.tail).deliver
    have hnext : ((c.withFaults c.faults.tail).deliver).faults = c.faults.drop 1 :=
      (deliver_faults _).trans List.drop_one.symm
    rw [hnext, headD_drop] at hsecond hc₂
    rw [deliver_withFaults, List.tail_drop] at hc₂
    rw [hcalls]
    by_cases h₁ : c.faults.getD 1 .returns = .returns
    · rw [if_pos h₁, hc₂ h₁] at hsecond
      refine ⟨fun _ ↦ ?_, fun h ↦ absurd (fun i hi ↦ ?_) h⟩
      · exact exec_bind_ok hsecond
      · obtain rfl | rfl : i = 0 ∨ i = 1 := by omega
        · exact h₀
        · exact h₁
    · rw [if_neg h₁] at hsecond
      exact ⟨fun h ↦ absurd (h 1 Nat.one_lt_two) h₁, fun _ ↦ ⟨e', c₂, exec_bind_error hsecond⟩⟩

theorem exec_receive (hs : c.Sound) :
    exec receive c = some (.ok (MessageUtils.fromJMSToATC (c.incoming c.received)), c.afterReceive) := by
  have hrun := (exec_receive_open hs.consumerOpen hs.sessionOpen).1 (by simp [hs.faults])
  rwa [hs.faults, List.drop_nil, ← hs.faults] at hrun

theorem afterReceive_frame (c : SimpleConsumer) : ∃ settled unsettled, c.afterReceive =
    { c with received := c.received + 1, settled := settled, unsettled := unsettled } := by
  unfold afterReceive acknowledged deliver
  cases hack : c.config.enableClientAcknowledgment <;> cases c.mode <;>
    simp only [Bool.false_eq_true, if_false, if_true] <;> exact ⟨_, _, rfl⟩

theorem afterReceive_same (c : SimpleConsumer) : Same c c.afterReceive := by
  obtain ⟨settled, unsettled, h⟩ := c.afterReceive_frame
  rw [h]
  exact ⟨rfl, rfl, rfl, rfl⟩

theorem afterReceive_sound (hs : c.Sound) : c.afterReceive.Sound := by
  obtain ⟨settled, unsettled, h⟩ := c.afterReceive_frame
  rw [h]
  exact ⟨hs.consumerOpen, hs.sessionOpen, hs.faults, hs.closeFaults⟩

theorem afterReceive_holds (h : c.Holds n) : c.afterReceive.Holds (n + 1) := by
  have hmode := h.mode_eq
  have hsettled := h.settled_eq
  have hunsettled := h.unsettled_eq
  have hreceived := h.received_eq
  have hlast : (List.range (n + 1)).map c.incoming =
      (List.range n).map c.incoming ++ [c.incoming n] := by
    rw [List.range_succ, List.map_append, List.map_singleton]
  unfold sessionMode at hmode
  unfold afterReceive acknowledged deliver
  cases hack : c.config.enableClientAcknowledgment <;>
    cases htx : c.config.isTransactional <;> simp only [hack, htx] at hmode <;>
    simp [hmode] at hsettled hunsettled <;>
    refine ⟨?_, ?_, ?_, ?_, ?_⟩ <;>
    simp [sessionMode, hack, htx, hmode, hsettled, hunsettled, hreceived, hlast, h.redelivered_eq]

theorem exec_unsubscribe (hs : c.Sound) :
    ∃ b, exec unsubscribe c = some (.ok (), { c with subscribed := b }) := by
  rw [unsubscribe, exec_bind_ok (exec_observe id c), id_eq]
  split
  · refine ⟨false, Eq.trans ?_ (exec_call hs.faults (fun c ↦ { c with subscribed := false })
      "Exception occurred while un-subscribing subscriber ")⟩
    rw [AMQPDurableTopicSubscriber.unsubscribe, exec_bind_ok (exec_observe id c), id_eq,
      hs.sessionOpen]
  · exact ⟨c.subscribed, rfl⟩

theorem exec_unsubscribe_open (hsession : c.sessionOpen = true) :
    ∃ e c', exec unsubscribe c = some (if c.kind = .durableTopicSubscriber →
      c.faults.headD .returns = .returns then .ok () else .error (.atcException e), c') := by
  obtain ⟨e, c', hcall, -⟩ := exec_call_open (fun c ↦ { c with subscribed := false })
    "Exception occurred while un-subscribing subscriber " c
  rw [unsubscribe, exec_bind_ok (exec_observe id c), id_eq]
  cases c.kind with
  | durableTopicSubscriber =>
    refine ⟨e, c', ?_⟩
    simp only [AMQPDurableTopicSubscriber.unsubscribe]
    rw [exec_bind_ok (exec_observe id c), id_eq, hsession, hcall]
    simp only [forall_const]
  | queueReceiver => exact ⟨"", c, by simp⟩
  | topicSubscriber => exact ⟨"", c, by simp⟩

structure Closed (c c' : SimpleConsumer) : Prop where
  incoming_eq : c'.incoming = c.incoming
  received_eq : c'.received = c.received
  settled_eq : c'.settled = c.settled
  unsettled_eq : c'.unsettled = []
  redelivered_eq : c'.redelivered = c.redelivered ++ c.unsettled

structure Shut (c c' : SimpleConsumer) : Prop where
  consumerOpen_eq : c'.consumerOpen = false
  sessionOpen_eq : c'.sessionOpen = false
  connectionOpen_eq : c'.connectionOpen = (c.connectionOpen && decide (c.kind = .topicSubscriber))

theorem exec_close (h : c.closeFaults = []) :
    ∃ c', exec close c = some (.ok (), c') ∧ Closed c c' ∧ Shut c c' := by
  have hrun : ∀ steps message, exec (closeAll steps message) c =
      some (.ok (), steps.foldl (fun c s ↦ c.closeObject s) c) := by
    intro steps message
    rw [closeAll, exec_step, h]
  rw [close, exec_bind_ok (exec_observe id c), id_eq]
  cases hkind : c.kind with
  | queueReceiver =>
    exact ⟨_, hrun _ _, ⟨rfl, rfl, rfl, rfl, by simp [closeObject]⟩,
      ⟨rfl, rfl, by simp [closeObject, hkind]⟩⟩
  | topicSubscriber =>
    exact ⟨_, hrun _ _, ⟨rfl, rfl, rfl, rfl, rfl⟩, ⟨rfl, rfl, by simp [closeObject, hkind]⟩⟩
  | durableTopicSubscriber =>
    exact ⟨_, hrun _ _, ⟨rfl, rfl, rfl, rfl, by simp [closeObject]⟩,
      ⟨rfl, rfl, by simp [closeObject, hkind]⟩⟩

theorem call_outcome (usable : Bool) (act : SimpleConsumer → SimpleConsumer) (message : String)
    (c : SimpleConsumer) : ∃ r c' faults, exec (call usable act message) c = some (r, c') ∧
      ((r = .ok () ∧ c' = act (c.withFaults faults)) ∨ ((∃ e, r = .error (.atcException e)) ∧
        (c' = c.withFaults faults ∨ c' = act (c.withFaults faults)))) := by
  cases usable with
  | false => exact ⟨_, _, c.faults, rfl, .inr ⟨⟨_, rfl⟩, .inl rfl⟩⟩
  | true =>
    rw [call, exec_step]
    cases c.faults.headD .returns with
    | returns => exact ⟨_, _, c.faults.tail, rfl, .inl ⟨rfl, rfl⟩⟩
    | raises acted =>
      refine ⟨_, _, c.faults.tail, rfl, .inr ⟨⟨_, rfl⟩, ?_⟩⟩
      cases acted with
      | false => exact .inl rfl
      | true => exact .inr rfl

def At (c : SimpleConsumer) (incoming : ℕ → JmsMessage) (n : ℕ) : Prop :=
  c.incoming = incoming ∧ c.received = n

theorem at_deliver {incoming : ℕ → JmsMessage} (h : c.At incoming n) (faults : List CallOutcome) :
    (c.withFaults faults).deliver.At incoming (n + 1) := by
  obtain ⟨rfl, rfl⟩ := h
  unfold deliver
  cases (c.withFaults faults).mode <;> exact ⟨rfl, rfl⟩

theorem at_acknowledged {incoming : ℕ → JmsMessage} (h : c.At incoming n) (faults : List CallOutcome) :
    (c.withFaults faults).acknowledged.At incoming n := by
  obtain ⟨rfl, rfl⟩ := h
  unfold acknowledged
  cases (c.withFaults faults).mode <;> exact ⟨rfl, rfl⟩

theorem receive_outcome {incoming : ℕ → JmsMessage} (h : c.At incoming n) :
    ∃ r c', exec receive c = some (r, c') ∧
      ((r = .ok (MessageUtils.fromJMSToATC (incoming n)) ∧ c'.At incoming (n + 1)) ∨
        ((∃ e, r = .error (.atcException e)) ∧ (c'.At incoming n ∨ c'.At incoming (n + 1)))) := by
  let message := "Error occurred while processing received message. Subscriber id: "
  have hnext : c.incoming c.received = incoming n := by rw [h.1, h.2]
  obtain ⟨r, c₁, faults, hcall, hcase⟩ := call_outcome (c.sessionOpen && c.consumerOpen) deliver message c
  rw [receive, exec_bind_ok (exec_observe id c)]
  rcases hcase with ⟨rfl, rfl⟩ | ⟨⟨e, rfl⟩, hc₁⟩
  case inr =>
    refine ⟨_, c₁, exec_bind_error hcall, .inr ⟨⟨e, rfl⟩, ?_⟩⟩
    rcases hc₁ with rfl | rfl
    · exact .inl h
    · exact .inr (at_deliver h faults)
  have h₁ := at_deliver h faults
  simp only [id_eq]
  rw [exec_bind_ok hcall, hnext]
  by_cases hack : c.config.enableClientAcknowledgment = true
  case neg =>
    rw [if_neg hack]
    exact ⟨_, _, rfl, .inl ⟨rfl, h₁⟩⟩
  rw [if_pos hack]
  obtain ⟨r, c₂, faults', hcall', hcase'⟩ :=
    call_outcome c.sessionOpen acknowledged message (c.withFaults faults).deliver
  rcases hcase' with ⟨rfl, rfl⟩ | ⟨⟨e, rfl⟩, hc₂⟩
  · exact ⟨_, _, exec_bind_ok hcall', .inl ⟨rfl, at_acknowledged h₁ faults'⟩⟩
  · refine ⟨_, c₂, exec_bind_error hcall', .inr ⟨⟨e, rfl⟩, .inr ?_⟩⟩
    rcases hc₂ with rfl | rfl
    · exact h₁
    · exact at_acknowledged h₁ faults'

theorem at_closeObjects {incoming : ℕ → JmsMessage} (h : c.At incoming n) (steps : List CloseStep) :
    (steps.foldl (fun c s ↦ c.closeObject s) c).At incoming n := by
  induction steps generalizing c with
  | nil => exact h
  | cons s steps ih =>
    apply ih
    cases s <;> exact h

theorem at_closeAll {incoming : ℕ → JmsMessage} (h : c.At incoming n) (steps : List CloseStep)
    (message : String) : Ends (closeAll steps message)
      (fun r c' ↦ (r = .ok () ∨ ∃ e, r = .error (.atcException e)) ∧ c'.At incoming n) c := by
  rw [closeAll, ends_step]
  cases c.closeFaults with
  | nil => exact ⟨.inl rfl, at_closeObjects h steps⟩
  | cons m rest =>
    refine ⟨.inr ⟨_, rfl⟩, ?_⟩
    have hrest : ({ c with closeFaults := rest } : SimpleConsumer).At incoming n := h
    exact at_closeObjects hrest (steps.take m)

theorem at_close {incoming : ℕ → JmsMessage} (h : c.At incoming n) : Ends close
    (fun r c' ↦ (r = .ok () ∨ ∃ e, r = .error (.atcException e)) ∧ c'.At incoming n) c := by
  rw [close, ends_observe_bind]
  cases (id c).kind <;> exact at_closeAll h _ _

theorem at_unsubscribe {incoming : ℕ → JmsMessage} (h : c.At incoming n) : Ends unsubscribe
    (fun r c' ↦ (r = .ok () ∨ ∃ e, r = .error (.atcException e)) ∧ c'.At incoming n) c := by
  rw [unsubscribe, ends_observe_bind]
  cases (id c).kind with
  | queueReceiver => exact ends_pure.mpr ⟨.inl rfl, h⟩
  | topicSubscriber => exact ends_pure.mpr ⟨.inl rfl, h⟩
  | durableTopicSubscriber =>
    simp only [AMQPDurableTopicSubscriber.unsubscribe]
    rw [ends_observe_bind]
    obtain ⟨r, c', faults, hcall, hcase⟩ := call_outcome (id c).sessionOpen
      (fun c ↦ { c with subscribed := false }) "Exception occurred while un-subscribing subscriber " c
    refine ⟨r, c', hcall, ?_⟩
    rcases hcase with ⟨rfl, rfl⟩ | ⟨he, hc'⟩
    · exact ⟨.inl rfl, h⟩
    · refine ⟨.inr he, ?_⟩
      rcases hc' with rfl | rfl <;> exact h

end SimpleConsumer

end AndesTestClient
