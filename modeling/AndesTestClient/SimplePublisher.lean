import AndesTestClient.Config
import AndesTestClient.Message

namespace AndesTestClient

open Imperative

/-- The session of a publisher with the part of the broker it writes to: the transactions made
visible so far, a message sent outside a transaction being one of its own. -/
structure Session where
  transacted : Bool
  transaction : List JmsMessage := []
  committed : List (List JmsMessage) := []
deriving DecidableEq, Repr

namespace Session

def send (m : JmsMessage) (s : Session) : Session :=
  if s.transacted then { s with transaction := s.transaction ++ [m] }
  else { s with committed := s.committed ++ [[m]] }

def commit (s : Session) : Session :=
  { s with transaction := [], committed := s.committed ++ [s.transaction] }

def rollback (s : Session) : Session := { s with transaction := [] }

end Session

/-- How the next call on the session ends. A call that raises may have acted all the same, but
no failed commit makes a message visible. -/
inductive CallOutcome
  | returns
  | raises (acted : Bool)
deriving DecidableEq, Repr

inductive PublisherKind
  | queueSender
  | topicPublisher
deriving DecidableEq, Repr

/-- A publisher with its JMS objects. The failure patterns of its calls are lists whose end
means no further failure; `failures` counts the exceptions raised so far. -/
structure SimplePublisher where
  kind : PublisherKind
  config : PublisherConfig
  session : Session
  senderOpen : Bool := true
  sessionOpen : Bool := true
  connectionOpen : Bool := true
  createFaults : List Bool := []
  faults : List CallOutcome := []
  closeFaults : List ℕ := []
  failures : ℕ := 0
deriving DecidableEq, Repr

inductive CloseStep
  | endpoint
  | session
  | stop
  | connection
deriving DecidableEq, Repr

namespace SimplePublisher

def init (kind : PublisherKind) (conf : PublisherConfig) : SimplePublisher :=
  { kind := kind, config := conf, session := { transacted := conf.isTransactional } }

/-- `try { … } catch (JMSException e)` around one call on the session. On a closed object the
call raises at once and leaves the failure pattern alone. -/
def call (usable : Bool) (act onRaise : Session → Session) (message : String) :
    Java SimplePublisher Unit :=
  step fun p ↦
    let error : Except Thrown Unit :=
      .error (.atcException (message ++ concatenated p.config.id))
    if usable then
      match p.faults.headD .returns with
      | .returns => (.ok (), { p with session := act p.session, faults := p.faults.tail })
      | .raises acted =>
        (error, { p with
          session := if acted then onRaise p.session else p.session
          faults := p.faults.tail
          failures := p.failures + 1 })
    else (error, { p with failures := p.failures + 1 })

def createTextMessage (text : Option String) : Java SimplePublisher ATCMessage :=
  step fun p ↦
    if p.createFaults.headD false then
      (.error (.atcException ""), { p with
        createFaults := p.createFaults.tail
        failures := p.failures + 1 })
    else (.ok { text := text }, { p with createFaults := p.createFaults.tail })

def send (atcMessage : ATCMessage) : Java SimplePublisher Unit := do
  let p ← observe id
  let m := MessageUtils.fromATCToJMS atcMessage
  call (p.sessionOpen && p.senderOpen) (Session.send m) (Session.send m)
    "Error occurred while sending message. Publisher id"

def commit : Java SimplePublisher Unit := do
  let p ← observe id
  call (p.sessionOpen && p.session.transacted) Session.commit Session.rollback
    "Error occurred while committing. Publisher id "

def rollback : Java SimplePublisher Unit := do
  let p ← observe id
  call (p.sessionOpen && p.session.transacted) Session.rollback Session.rollback
    "Error occurred while rolling back. Publisher id "

/-- Closing a session discards its open transaction, and closing a connection closes the
sessions made on it. -/
def closeObject (s : CloseStep) (p : SimplePublisher) : SimplePublisher :=
  match s with
  | .endpoint => { p with senderOpen := false }
  | .session => { p with sessionOpen := false, session := p.session.rollback }
  | .stop => p
  | .connection =>
    { p with connectionOpen := false, sessionOpen := false, session := p.session.rollback }

/-- The close steps in order. A failure takes effect after some prefix of them. -/
def closeAll (steps : List CloseStep) : Java SimplePublisher Unit :=
  step fun p ↦
    match p.closeFaults with
    | [] => (.ok (), steps.foldl (fun p s ↦ p.closeObject s) p)
    | n :: rest =>
      (.error (.atcException
        ("Exception occurred while closing publisher " ++ concatenated p.config.id)),
        (steps.take n).foldl (fun p s ↦ p.closeObject s)
          { p with closeFaults := rest, failures := p.failures + 1 })

end SimplePublisher

def AMQPQueueSender.close : Java SimplePublisher Unit :=
  SimplePublisher.closeAll [.endpoint, .session, .connection]

def AMQPTopicPublisher.close : Java SimplePublisher Unit :=
  SimplePublisher.closeAll [.endpoint, .session, .stop, .connection]

namespace SimplePublisher

def close : Java SimplePublisher Unit := do
  let p ← observe id
  match p.kind with
  | .queueSender => AMQPQueueSender.close
  | .topicPublisher => AMQPTopicPublisher.close

structure Ready (p : SimplePublisher) : Prop where
  sender : p.senderOpen = true
  session : p.sessionOpen = true
  transacted : p.session.transacted = true

structure Returned (p p' : SimplePublisher) : Prop where
  ready : p'.Ready
  faults_le : p'.faults.length ≤ p.faults.length
  closeFaults_eq : p'.closeFaults = p.closeFaults
  failures_eq : p'.failures = p.failures

structure Raised (p p' : SimplePublisher) : Prop where
  ready : p'.Ready
  committed_eq : p'.session.committed = p.session.committed
  faults_lt : p'.faults.length < p.faults.length
  closeFaults_eq : p'.closeFaults = p.closeFaults
  failures_lt : p.failures < p'.failures

theorem Returned.trans {p q r : SimplePublisher} (h : Returned p q) (h' : Returned q r) :
    Returned p r :=
  ⟨h'.ready, Nat.le_trans h'.faults_le h.faults_le, h'.closeFaults_eq.trans h.closeFaults_eq,
    h'.failures_eq.trans h.failures_eq⟩

theorem Returned.raised {p q r : SimplePublisher} (h : Returned p q)
    (hc : q.session.committed = p.session.committed) (h' : Raised q r) : Raised p r :=
  ⟨h'.ready, h'.committed_eq.trans hc, Nat.lt_of_lt_of_le h'.faults_lt h.faults_le,
    h'.closeFaults_eq.trans h.closeFaults_eq, h.failures_eq ▸ h'.failures_lt⟩

theorem call_cases (act onRaise : Session → Session) (message : String) (p : SimplePublisher) :
    (∃ rest, exec (call true act onRaise message) p =
        some (.ok (), { p with session := act p.session, faults := rest }) ∧
      rest.length ≤ p.faults.length) ∨
    (∃ e session rest, exec (call true act onRaise message) p =
        some (.error (.atcException e), { p with
          session := session
          faults := rest
          failures := p.failures + 1 }) ∧
      (session = p.session ∨ session = onRaise p.session) ∧ rest.length < p.faults.length) := by
  cases hf : p.faults with
  | nil => exact .inl ⟨[], by simp [call, hf], le_rfl⟩
  | cons o rest =>
    cases o with
    | returns => exact .inl ⟨rest, by simp [call, hf], Nat.le_succ _⟩
    | raises acted =>
      refine .inr ⟨message ++ concatenated p.config.id,
        if acted then onRaise p.session else p.session, rest, by simp [call, hf], ?_,
        Nat.lt_succ_self _⟩
      cases acted
      · exact .inl rfl
      · exact .inr rfl

theorem call_spec {p : SimplePublisher} (hp : p.Ready) {act onRaise : Session → Session}
    (hact : (act p.session).transacted = true)
    (hraise : (onRaise p.session).transacted = true ∧
      (onRaise p.session).committed = p.session.committed) (message : String) :
    (∃ p', exec (call true act onRaise message) p = some (.ok (), p') ∧ Returned p p' ∧
      p'.session = act p.session) ∨
    (∃ e p', exec (call true act onRaise message) p = some (.error (.atcException e), p') ∧
      Raised p p' ∧ (p'.session = p.session ∨ p'.session = onRaise p.session)) := by
  rcases call_cases act onRaise message p with ⟨rest, hrun, hle⟩ | ⟨e, session, rest, hrun, hs, hlt⟩
  · exact .inl ⟨_, hrun, ⟨⟨hp.sender, hp.session, hact⟩, hle, rfl, rfl⟩, rfl⟩
  · refine .inr ⟨e, _, hrun, ⟨⟨hp.sender, hp.session, ?_⟩, ?_, hlt, rfl, Nat.lt_succ_self _⟩, hs⟩
    · rcases hs with rfl | rfl
      · exact hp.transacted
      · exact hraise.1
    · rcases hs with rfl | rfl
      · rfl
      · exact hraise.2

theorem send_spec {p : SimplePublisher} (hp : p.Ready) (m : ATCMessage) :
    (∃ p', exec (send m) p = some (.ok (), p') ∧ Returned p p' ∧
      p'.session.committed = p.session.committed ∧
      p'.session.transaction = p.session.transaction ++ [MessageUtils.fromATCToJMS m]) ∨
    (∃ e p', exec (send m) p = some (.error (.atcException e), p') ∧ Raised p p' ∧
      (p'.session.transaction = p.session.transaction ∨
        p'.session.transaction = p.session.transaction ++ [MessageUtils.fromATCToJMS m])) := by
  have hsent : p.session.send (MessageUtils.fromATCToJMS m) = { p.session with
      transaction := p.session.transaction ++ [MessageUtils.fromATCToJMS m] } := by
    rw [Session.send, if_pos hp.transacted]
  have htransacted : (p.session.send (MessageUtils.fromATCToJMS m)).transacted = true := by
    rw [hsent]
    exact hp.transacted
  rw [send, exec_bind_ok (exec_observe id p), id_eq, hp.sender, hp.session]
  have hcall := call_spec hp htransacted ⟨htransacted, by rw [hsent]⟩
    "Error occurred while sending message. Publisher id"
  rcases hcall with ⟨p', hrun, hp', hsession⟩ | ⟨e, p', hrun, hp', hsession⟩
  · exact .inl ⟨p', hrun, hp', by rw [hsession, hsent], by rw [hsession, hsent]⟩
  · refine .inr ⟨e, p', hrun, hp', hsession.imp (congrArg Session.transaction) ?_⟩
    intro hacted
    rw [hacted, hsent]

theorem commit_call {p : SimplePublisher} (hsession : p.sessionOpen = true)
    (htransacted : p.session.transacted = true) :
    exec commit p = exec (call true Session.commit Session.rollback
      "Error occurred while committing. Publisher id ") p := by
  rw [commit, exec_bind_ok (exec_observe id p), id_eq, hsession, htransacted]
  rfl

theorem rollback_call {p : SimplePublisher} (hsession : p.sessionOpen = true)
    (htransacted : p.session.transacted = true) :
    exec rollback p = exec (call true Session.rollback Session.rollback
      "Error occurred while rolling back. Publisher id ") p := by
  rw [rollback, exec_bind_ok (exec_observe id p), id_eq, hsession, htransacted]
  rfl

theorem commit_spec {p : SimplePublisher} (hp : p.Ready) :
    (∃ p', exec commit p = some (.ok (), p') ∧ Returned p p' ∧ p'.session = p.session.commit) ∨
    (∃ e p', exec commit p = some (.error (.atcException e), p') ∧ Raised p p' ∧
      (p'.session = p.session ∨ p'.session = p.session.rollback)) := by
  rw [commit_call hp.session hp.transacted]
  exact call_spec hp hp.transacted ⟨hp.transacted, rfl⟩ _

theorem rollback_spec {p : SimplePublisher} (hp : p.Ready) :
    (∃ p', exec rollback p = some (.ok (), p') ∧ Returned p p' ∧
      p'.session = p.session.rollback) ∨
    (∃ e p', exec rollback p = some (.error (.atcException e), p') ∧ Raised p p' ∧
      (p'.session = p.session ∨ p'.session = p.session.rollback)) := by
  rw [rollback_call hp.session hp.transacted]
  exact call_spec hp hp.transacted ⟨hp.transacted, rfl⟩ _

theorem createTextMessage_ends (text : Option String) (p : SimplePublisher) :
    Ends (createTextMessage text) (fun r q ↦
      (r = .ok { text := text } ∧ q.createFaults.length ≤ p.createFaults.length) ∨
      ∃ e, r = .error (.atcException e) ∧ q.createFaults.length < p.createFaults.length) p := by
  rw [createTextMessage, ends_step]
  cases hf : p.createFaults with
  | nil => exact .inl ⟨rfl, by simp⟩
  | cons b rest =>
    cases b with
    | false => exact .inl ⟨rfl, by simp⟩
    | true => exact .inr ⟨"", rfl, by simp⟩

theorem createFaults_le {text : Option String} {p q : SimplePublisher} {r : Except Thrown ATCMessage}
    (h : exec (createTextMessage text) p = some (r, q)) :
    q.createFaults.length ≤ p.createFaults.length := by
  obtain ⟨r', q', hrun, hr⟩ := createTextMessage_ends text p
  rw [h] at hrun
  cases hrun
  rcases hr with ⟨-, hle⟩ | ⟨e, -, hlt⟩
  · exact hle
  · exact hlt.le

theorem createFaults_lt {text : Option String} {p q : SimplePublisher} {e : Thrown}
    (h : exec (createTextMessage text) p = some (.error e, q)) :
    q.createFaults.length < p.createFaults.length := by
  obtain ⟨r', q', hrun, hr⟩ := createTextMessage_ends text p
  rw [h] at hrun
  cases hrun
  rcases hr with ⟨hok, -⟩ | ⟨e, -, hlt⟩
  · cases hok
  · exact hlt

theorem send_ends (m : ATCMessage) (p : SimplePublisher) : Ends (send m) (fun _ _ ↦ True) p := by
  simp [send, call]

theorem close_ends (p : SimplePublisher) :
    Ends close (fun r _ ↦ r = .ok () ∨ ∃ e, r = .error (.atcException e)) p := by
  rw [close, ends_observe_bind]
  split <;> simp only [AMQPQueueSender.close, AMQPTopicPublisher.close, closeAll, ends_step] <;>
    cases p.closeFaults <;> simp

variable {p : SimplePublisher}

theorem exec_createTextMessage (h : p.createFaults = []) (text : Option String) :
    exec (createTextMessage text) p = some (.ok { text := text }, p) := by
  cases p
  simp only at h
  simp [createTextMessage, h]

theorem exec_call (hf : p.faults = []) (act onRaise : Session → Session) (message : String) :
    exec (call true act onRaise message) p = some (.ok (), { p with session := act p.session }) := by
  cases p
  simp only at hf
  simp [call, hf]

theorem exec_send (hsender : p.senderOpen = true) (hsession : p.sessionOpen = true)
    (hf : p.faults = []) (m : ATCMessage) :
    exec (send m) p =
      some (.ok (), { p with session := p.session.send (MessageUtils.fromATCToJMS m) }) := by
  rw [← exec_call hf (Session.send (MessageUtils.fromATCToJMS m))
    (Session.send (MessageUtils.fromATCToJMS m))
    "Error occurred while sending message. Publisher id", send,
    exec_bind_ok (exec_observe id p), id_eq, hsender, hsession]
  rfl

theorem exec_send_open (hsender : p.senderOpen = true) (hsession : p.sessionOpen = true)
    (m : ATCMessage) : ∃ e q, exec (send m) p =
        some (if p.faults.headD .returns = .returns then .ok () else .error (.atcException e), q) ∧
      q.faults = p.faults.tail ∧ q.senderOpen = true ∧ q.sessionOpen = true ∧
      q.createFaults = p.createFaults := by
  let sent := p.session.send (MessageUtils.fromATCToJMS m)
  rw [send, exec_bind_ok (exec_observe id p), id_eq, hsender, hsession, call, exec_step]
  cases p.faults.headD .returns with
  | returns =>
    exact ⟨"", { p with session := sent, faults := p.faults.tail }, rfl, rfl, hsender, hsession, rfl⟩
  | raises acted =>
    exact ⟨_, { p with
      session := if acted then sent else p.session
      faults := p.faults.tail
      failures := p.failures + 1 }, rfl, rfl, hsender, hsession, rfl⟩

theorem exec_commit (hsession : p.sessionOpen = true) (htransacted : p.session.transacted = true)
    (hf : p.faults = []) :
    exec commit p = some (.ok (), { p with session := p.session.commit }) := by
  have husable : (p.sessionOpen && p.session.transacted) = true := by
    rw [hsession, htransacted]
    rfl
  rw [commit, exec_bind_ok (exec_observe id p), id_eq, husable]
  exact exec_call hf _ _ _

theorem exec_close (h : p.closeFaults = []) :
    ∃ q, exec close p = some (.ok (), q) ∧ q.sessionOpen = false ∧ q.connectionOpen = false ∧
      q.session.transaction = [] ∧ q.session.committed = p.session.committed := by
  have hrun : ∀ steps, exec (closeAll steps) p =
      some (.ok (), steps.foldl (fun p s ↦ p.closeObject s) p) := by
    intro steps
    rw [closeAll, exec_step, h]
  rw [close, exec_bind_ok (exec_observe id p), id_eq]
  cases p.kind with
  | queueSender => exact ⟨_, hrun _, rfl, rfl, rfl, rfl⟩
  | topicPublisher => exact ⟨_, hrun _, rfl, rfl, rfl, rfl⟩

structure ClosedFrom (p q : SimplePublisher) : Prop where
  committed_eq : q.session.committed = p.session.committed
  transacted_eq : q.session.transacted = p.session.transacted
  faults_eq : q.faults = p.faults

theorem closedFrom_closeObjects (steps : List CloseStep) (p : SimplePublisher) :
    ClosedFrom p (steps.foldl (fun p s ↦ p.closeObject s) p) := by
  induction steps generalizing p with
  | nil => exact ⟨rfl, rfl, rfl⟩
  | cons s steps ih =>
    have hrest := ih (p.closeObject s)
    have hfirst : ClosedFrom p (p.closeObject s) := by
      cases s <;> exact ⟨rfl, rfl, rfl⟩
    exact ⟨hrest.committed_eq.trans hfirst.committed_eq, hrest.transacted_eq.trans hfirst.transacted_eq,
      hrest.faults_eq.trans hfirst.faults_eq⟩

theorem close_outcome (p : SimplePublisher) : ∃ r q, exec close p = some (r, q) ∧ ClosedFrom p q ∧
    ((p.closeFaults = [] ∧ r = .ok () ∧ q.sessionOpen = false ∧ q.connectionOpen = false) ∨
      (p.closeFaults ≠ [] ∧ ∃ e, r = .error (.atcException e))) := by
  have hraises : ∀ (steps : List CloseStep) n rest, p.closeFaults = n :: rest → ∃ e q,
      exec (closeAll steps) p = some (.error (.atcException e), q) ∧ ClosedFrom p q := by
    intro steps n rest hf
    have hclosed := closedFrom_closeObjects (steps.take n)
      { p with closeFaults := rest, failures := p.failures + 1 }
    exact ⟨_, _, by rw [closeAll, exec_step, hf],
      hclosed.committed_eq, hclosed.transacted_eq, hclosed.faults_eq⟩
  have hreturns : ∀ steps : List CloseStep, p.closeFaults = [] →
      exec (closeAll steps) p = some (.ok (), steps.foldl (fun p s ↦ p.closeObject s) p) := by
    intro steps hf
    rw [closeAll, exec_step, hf]
  rw [close, exec_bind_ok (exec_observe id p), id_eq]
  cases hf : p.closeFaults with
  | nil =>
    cases p.kind with
    | queueSender =>
      exact ⟨_, _, hreturns _ hf, closedFrom_closeObjects _ p, .inl ⟨rfl, rfl, rfl, rfl⟩⟩
    | topicPublisher =>
      exact ⟨_, _, hreturns _ hf, closedFrom_closeObjects _ p, .inl ⟨rfl, rfl, rfl, rfl⟩⟩
  | cons n rest =>
    cases p.kind with
    | queueSender =>
      obtain ⟨e, q, hrun, hq⟩ := hraises [.endpoint, .session, .connection] n rest hf
      exact ⟨_, q, hrun, hq, .inr ⟨List.cons_ne_nil n rest, e, rfl⟩⟩
    | topicPublisher =>
      obtain ⟨e, q, hrun, hq⟩ := hraises [.endpoint, .session, .stop, .connection] n rest hf
      exact ⟨_, q, hrun, hq, .inr ⟨List.cons_ne_nil n rest, e, rfl⟩⟩

theorem call_outcome (usable : Bool) (act onRaise : Session → Session) (message : String)
    (p : SimplePublisher) : ∃ r q, exec (call usable act onRaise message) p = some (r, q) ∧
      q.faults <:+ p.faults ∧ ((r = .ok () ∧ q.session = act p.session) ∨
        ((∃ e, r = .error (.atcException e)) ∧ (q.session = p.session ∨
          (q.session = onRaise p.session ∧ .raises true ∈ p.faults)))) := by
  cases usable with
  | false => exact ⟨_, _, rfl, List.suffix_rfl, .inr ⟨⟨_, rfl⟩, .inl rfl⟩⟩
  | true =>
    cases hf : p.faults with
    | nil => exact ⟨.ok (), _, by simp [call, hf]; rfl, List.suffix_rfl, .inl ⟨rfl, rfl⟩⟩
    | cons o rest =>
      have hrest : rest <:+ o :: rest := List.suffix_cons o rest
      cases o with
      | returns => exact ⟨.ok (), _, by simp [call, hf]; rfl, hrest, .inl ⟨rfl, rfl⟩⟩
      | raises acted =>
        refine ⟨_, { p with
          session := if acted then onRaise p.session else p.session
          faults := rest
          failures := p.failures + 1 }, by simp [call, hf]; rfl, hrest, .inr ⟨⟨_, rfl⟩, ?_⟩⟩
        cases acted with
        | false => exact .inl rfl
        | true => exact .inr ⟨rfl, List.mem_cons_self⟩

theorem send_outcome (m : ATCMessage) (p : SimplePublisher) : ∃ r q, exec (send m) p = some (r, q) ∧
    q.faults <:+ p.faults ∧ ((r = .ok () ∧ q.session = p.session.send (MessageUtils.fromATCToJMS m)) ∨
      ((∃ e, r = .error (.atcException e)) ∧ (q.session = p.session ∨
        (q.session = p.session.send (MessageUtils.fromATCToJMS m) ∧ .raises true ∈ p.faults)))) := by
  rw [send, exec_bind_ok (exec_observe id p), id_eq]
  exact call_outcome _ _ _ _ p

theorem createTextMessage_frame {text : Option String} {p q : SimplePublisher}
    {r : Except Thrown ATCMessage} (h : exec (createTextMessage text) p = some (r, q)) :
    q.session = p.session ∧ q.faults = p.faults := by
  rw [createTextMessage, exec_step, Option.some.injEq] at h
  split at h
  · cases h
    exact ⟨rfl, rfl⟩
  · cases h
    exact ⟨rfl, rfl⟩

end SimplePublisher

end AndesTestClient
