import AndesTestClient.ExactlyOnce
import AndesTestClient.Resend
import AndesTestClient.Library.Frame

namespace AndesTestClient

open Imperative

namespace SimplePublisher

theorem call_keeps (usable : Bool) (act onRaise : Session → Session) (message : String) :
    Keeps connectionOpen (call usable act onRaise message) := by
  refine keeps_step fun p ↦ ?_
  cases usable
  · rfl
  · cases p.faults.headD .returns <;> rfl

theorem send_keeps (m : ATCMessage) : Keeps connectionOpen (send m) :=
  (keeps_observe _).bind fun _ ↦ call_keeps _ _ _ _

theorem commit_keeps : Keeps connectionOpen commit :=
  (keeps_observe _).bind fun _ ↦ call_keeps _ _ _ _

theorem rollback_keeps : Keeps connectionOpen rollback :=
  (keeps_observe _).bind fun _ ↦ call_keeps _ _ _ _

variable {p : SimplePublisher}

theorem exec_close_raises {n : ℕ} {rest : List ℕ} (h : p.closeFaults = n :: rest)
    (hsender : p.senderOpen = true) (hsession : p.sessionOpen = true)
    (hconnection : p.connectionOpen = true) :
    ∃ e q, exec close p = some (.error (.atcException e), q) ∧ q.senderOpen = decide (n = 0) ∧
      q.sessionOpen = decide (n ≤ 1) ∧ (n ≤ 1 → q.connectionOpen = true) ∧ q.faults = p.faults ∧
      q.session.transacted = p.session.transacted := by
  have hclosed : ∀ steps : List CloseStep, steps = [.endpoint, .session, .connection] ∨
      steps = [.endpoint, .session, .stop, .connection] →
      let q := (steps.take n).foldl (fun p s ↦ p.closeObject s)
        { p with closeFaults := rest, failures := p.failures + 1 }
      q.senderOpen = decide (n = 0) ∧ q.sessionOpen = decide (n ≤ 1) ∧
        (n ≤ 1 → q.connectionOpen = true) ∧ q.faults = p.faults ∧
        q.session.transacted = p.session.transacted := by
    intro steps hsteps
    rcases hsteps with rfl | rfl <;> rcases n with _ | _ | _ | _ | n <;>
      simp [closeObject, Session.rollback, hsender, hsession, hconnection]
  rw [close, exec_bind_ok (exec_observe id p), id_eq]
  cases p.kind with
  | queueSender =>
    exact ⟨_, _, by rw [AMQPQueueSender.close, closeAll, exec_step, h], hclosed _ (.inl rfl)⟩
  | topicPublisher =>
    exact ⟨_, _, by rw [AMQPTopicPublisher.close, closeAll, exec_step, h], hclosed _ (.inr rfl)⟩

end SimplePublisher

namespace TxPublishHandler

def connectionOpen (h : TxPublishHandler) : Bool := h.publisher.connectionOpen

theorem onPublisher_keeps {α : Type} {p : Java SimplePublisher α}
    (hp : Keeps SimplePublisher.connectionOpen p) : Keeps connectionOpen (onPublisher p) :=
  hp.within fun _ _ h ↦ h

theorem onThread_keeps {α : Type} (p : Java Thread α) : Keeps connectionOpen (onThread p) := by
  unfold onThread
  apply Keeps.within (f := fun _ ↦ ())
  · intro _ _ _ _
    rfl
  · intro _ _ _
    rfl

theorem countBatch_keeps : Keeps connectionOpen countBatch := by
  refine (keeps_update ?_).bind fun _ ↦ (keeps_update ?_).bind fun _ ↦ keeps_update ?_ <;>
    exact fun _ ↦ rfl

theorem tryResend_keeps : Keeps connectionOpen tryResend := by
  refine (onThread_keeps _).bind fun _ ↦ (onPublisher_keeps SimplePublisher.rollback_keeps).bind fun _ ↦ ?_
  refine (keeps_observe _).bind fun _ ↦ ?_
  refine (Keeps.forM fun m _ ↦ onPublisher_keeps (SimplePublisher.send_keeps m)).bind fun _ ↦ ?_
  exact (onPublisher_keeps SimplePublisher.commit_keeps).bind fun _ ↦ countBatch_keeps

theorem resend_keeps (fuel : ℕ) : Keeps connectionOpen (resend fuel) := by
  induction fuel with
  | zero => exact keeps_outOfFuel
  | succ fuel ih =>
    refine tryResend_keeps.tryCatch fun e ↦ ?_
    cases e with
    | atcException => exact ih
    | interruptedException => exact onThread_keeps _
    | nullPointerException => exact keeps_throw _
    | illegalArgumentException => exact keeps_throw _

theorem commitFullBatch_keeps : Keeps connectionOpen commitFullBatch := by
  refine (keeps_observe _).bind fun h ↦ ?_
  split_ifs
  · exact (onPublisher_keeps SimplePublisher.commit_keeps).bind fun _ ↦ countBatch_keeps
  · exact keeps_pure _

theorem onEvent_message_keeps (fuel : ℕ) (m : ATCMessage) :
    Keeps connectionOpen (onEvent fuel (.ofMessage m)) := by
  refine Keeps.tryCatch ?_ fun e ↦ ?_
  · rw [tryEvent_ofMessage]
    refine (keeps_update ?_).bind fun _ ↦
      (onPublisher_keeps (SimplePublisher.send_keeps m)).bind fun _ ↦ commitFullBatch_keeps
    exact fun _ ↦ rfl
  · cases e with
    | atcException => exact resend_keeps fuel
    | interruptedException => exact keeps_throw _
    | nullPointerException => exact keeps_throw _
    | illegalArgumentException => exact keeps_throw _

variable {fuel : ℕ} {h₀ h h' : TxPublishHandler} {ms : List ATCMessage}

theorem After.connectionOpen_eq (ha : After fuel h₀ ms h) : h.connectionOpen = h₀.connectionOpen := by
  refine Keeps.forM (fun e he ↦ ?_) _ _ _ ha
  obtain ⟨m, -, rfl⟩ := List.mem_map.mp he
  exact onEvent_message_keeps fuel m

theorem resend_stuck (P : TxPublishHandler → Prop)
    (hP : ∀ h, P h → ∃ e h', exec tryResend h = some (.error (.atcException e), h') ∧ P h')
    (fuel : ℕ) {h : TxPublishHandler} (hh : P h) : exec (resend fuel) h = none := by
  refine Retry.never_returns (fun fuel ↦ exec (resend fuel)) (fun _ ↦ rfl) ?_ fuel hh
  intro h hh
  obtain ⟨e, h', hrun, hh'⟩ := hP h hh
  exact ⟨h', resend_repeats hrun, hh'⟩

theorem resend_session_closed (fuel : ℕ) (hu : h.thread.Uninterrupted)
    (hclosed : h.publisher.sessionOpen = false) : exec (resend fuel) h = none := by
  refine resend_stuck (fun h ↦ h.thread.Uninterrupted ∧ h.publisher.sessionOpen = false) ?_ fuel
    ⟨hu, hclosed⟩
  intro h hh
  obtain ⟨u, hsleep, hu⟩ := Thread.sleep_uninterrupted hh.1
  have hslept : exec (onThread Thread.sleep) h = some (.ok (), { h with thread := u }) :=
    exec_within_of hsleep
  obtain ⟨e, hrollback⟩ : ∃ e, exec SimplePublisher.rollback h.publisher =
      some (.error (.atcException e),
        { h.publisher with failures := h.publisher.failures + 1 }) := by
    rw [SimplePublisher.rollback, exec_bind_ok (exec_observe id _), id_eq, hh.2]
    exact ⟨_, rfl⟩
  refine ⟨e, { h with
    thread := u
    publisher := { h.publisher with failures := h.publisher.failures + 1 } }, ?_, hu, hh.2⟩
  rw [tryResend, exec_bind_ok hslept]
  exact exec_bind_error (exec_onPublisher (h := { h with thread := u }) hrollback)

/-- With the sender closed and a message pending no attempt succeeds, whatever its calls meet. -/
theorem resend_sender_closed (fuel : ℕ) (hu : h.thread.Uninterrupted)
    (hsession : h.publisher.sessionOpen = true) (htransacted : h.publisher.session.transacted = true)
    (hclosed : h.publisher.senderOpen = false) (hpending : h.messagesList ≠ []) :
    exec (resend fuel) h = none := by
  refine resend_stuck (fun h ↦ h.thread.Uninterrupted ∧ h.publisher.sessionOpen = true ∧
    h.publisher.session.transacted = true ∧ h.publisher.senderOpen = false ∧ h.messagesList ≠ []) ?_
    fuel ⟨hu, hsession, htransacted, hclosed, hpending⟩
  intro h hg
  obtain ⟨hu, hsession, htransacted, hclosed, hpending⟩ := hg
  obtain ⟨u, hsleep, hu⟩ := Thread.sleep_uninterrupted hu
  have hslept : exec (onThread Thread.sleep) h = some (.ok (), { h with thread := u }) :=
    exec_within_of hsleep
  have hrollback := SimplePublisher.rollback_call hsession htransacted
  rw [tryResend, exec_bind_ok hslept]
  rcases SimplePublisher.call_cases Session.rollback Session.rollback _ h.publisher with
    ⟨rest, hrolled, -⟩ | ⟨e, session, rest, hrolled, hs, -⟩
  case inr =>
    refine ⟨e, _, exec_bind_error (exec_onPublisher (h := { h with thread := u })
      (hrollback.trans hrolled)), hu, hsession, ?_, hclosed, hpending⟩
    rcases hs with rfl | rfl <;> exact htransacted
  obtain ⟨m, rest', hlist⟩ := List.exists_cons_of_ne_nil hpending
  let q : SimplePublisher := { h.publisher with session := h.publisher.session.rollback, faults := rest }
  obtain ⟨e, hsend⟩ : ∃ e, exec (SimplePublisher.send m) q =
      some (.error (.atcException e), { q with failures := q.failures + 1 }) := by
    rw [SimplePublisher.send, exec_bind_ok (exec_observe id q), id_eq]
    simp only [q, hclosed, Bool.and_false, SimplePublisher.call, exec_step, Bool.false_eq_true, if_false]
    exact ⟨_, rfl⟩
  have hsends : ∀ l, l = m :: rest' →
      exec (forM l fun m ↦ onPublisher (SimplePublisher.send m)) { h with thread := u, publisher := q } =
        some (.error (.atcException e),
          { h with thread := u, publisher := { q with failures := q.failures + 1 } }) := by
    intro l hl
    rw [hl, List.forM_cons]
    exact exec_bind_error (exec_onPublisher (h := { h with thread := u, publisher := q }) hsend)
  refine ⟨e, { h with thread := u, publisher := { q with failures := q.failures + 1 } }, ?_, hu,
    hsession, htransacted, hclosed, hpending⟩
  rw [exec_bind_ok (exec_onPublisher (h := { h with thread := u }) (hrollback.trans hrolled)),
    exec_bind_ok (exec_observe _ _)]
  exact exec_bind_error (hsends _ hlist)

/-- The handler before a close event during which only closing the publisher can fail, with the
number of close steps that take effect before each failure. -/
def closing (closeFaults : List ℕ) (h : TxPublishHandler) : TxPublishHandler :=
  { h with publisher := { h.publisher with faults := [], closeFaults := closeFaults } }

structure Closable (h : TxPublishHandler) : Prop where
  live : h.Live
  connectionOpen_eq : h.publisher.connectionOpen = true
  pending_lt : (h.messagesList.length : ℤ) < h.batchSize.toInt

theorem After.closable (ha : After fuel h₀ ms h) (hfresh : Fresh h₀)
    (hopen : h₀.publisher.connectionOpen = true) (hB : 1 ≤ h₀.batchSize.toInt)
    (hfuel : h₀.publisher.faults.length < fuel) : Closable h := by
  obtain ⟨h₁, txs, hrun, hlive, hb, -, hx⟩ := exactly_once_run hfresh (by omega) hfuel ms
  rw [After, ha] at hrun
  cases hrun
  refine ⟨hlive, ha.connectionOpen_eq.trans hopen, ?_⟩
  rw [hb]
  exact hx.pending_lt

theorem Closable.exec_close (hc : Closable h) {closeFaults : List ℕ}
    {r : Except Thrown Unit} {q : SimplePublisher}
    (hclose : exec SimplePublisher.close (h.closing closeFaults).publisher = some (r, q)) :
    exec (tryEvent .close) (h.closing closeFaults) =
      some (r, { h.closing closeFaults with publisher := q }) := by
  have hsize : size h.messagesList ≠ h.batchSize := by
    rw [Ne, size_eq_iff hc.pending_lt.le]
    exact hc.pending_lt.ne
  have hopen : exec commitFullBatch (h.closing closeFaults) = some (.ok (), h.closing closeFaults) := by
    rw [commitFullBatch, exec_bind_ok (exec_observe id _), id_eq]
    exact congrArg (exec · (h.closing closeFaults)) (if_neg hsize)
  rw [tryEvent_close, exec_bind_ok hopen]
  exact exec_onPublisher hclose

/-- A failed close is followed by `resend`, and by nothing that closes the publisher again. -/
theorem Closable.close_raises (hc : Closable h) (n : ℕ) (rest : List ℕ) :
    ∃ q, (∀ fuel, exec (onEvent fuel .close) (h.closing (n :: rest)) =
        exec (resend fuel) { h.closing (n :: rest) with publisher := q }) ∧
      q.senderOpen = decide (n = 0) ∧ q.sessionOpen = decide (n ≤ 1) ∧
      (n ≤ 1 → q.connectionOpen = true) ∧ q.faults = [] ∧ q.session.transacted = true := by
  obtain ⟨e, q, hclose, hsender, hsession, hconnection, hf, htransacted⟩ :=
    SimplePublisher.exec_close_raises (p := (h.closing (n :: rest)).publisher) rfl
      hc.live.ready.sender hc.live.ready.session hc.connectionOpen_eq
  refine ⟨q, fun fuel ↦ ?_, hsender, hsession, hconnection, hf,
    htransacted.trans hc.live.ready.transacted⟩
  exact exec_tryCatch_error (hc.exec_close hclose)

/-- A failed close lets the event return only when the session has stayed open and nothing has to be
sent on a closed sender; and then the connection stays open too. -/
theorem Closable.close_returns_iff (hc : Closable h) (n : ℕ) (rest : List ℕ) :
    (∃ fuel h', exec (onEvent fuel .close) (h.closing (n :: rest)) = some (.ok (), h')) ↔
      n = 0 ∨ (n = 1 ∧ h.messagesList = []) := by
  obtain ⟨q, hrun, hsender, hsession, -, hf, htransacted⟩ := hc.close_raises n rest
  have hu : ({ h.closing (n :: rest) with publisher := q } : TxPublishHandler).thread.Uninterrupted :=
    hc.live.uninterrupted
  simp only [hrun]
  rcases n with _ | _ | n
  · refine iff_of_true ?_ (.inl rfl)
    have hh : Repairable { h.closing (0 :: rest) with publisher := q } :=
      ⟨hu, hsession, htransacted, .inl hsender⟩
    obtain ⟨h', hresend, -⟩ := hh.resend
    exact ⟨1, h', hresend 1 (by simp [hf])⟩
  · by_cases hlist : h.messagesList = []
    · refine iff_of_true ?_ (.inr ⟨rfl, hlist⟩)
      have hh : Repairable { h.closing (1 :: rest) with publisher := q } :=
        ⟨hu, hsession, htransacted, .inr hlist⟩
      obtain ⟨h', hresend, -⟩ := hh.resend
      exact ⟨1, h', hresend 1 (by simp [hf])⟩
    · refine iff_of_false ?_ (by simp [hlist])
      intro hreturns
      obtain ⟨fuel, h', hresend⟩ := hreturns
      rw [resend_sender_closed fuel hu hsession htransacted hsender hlist] at hresend
      cases hresend
  · refine iff_of_false ?_ (by omega)
    intro hreturns
    obtain ⟨fuel, h', hresend⟩ := hreturns
    rw [resend_session_closed fuel hu (hsession.trans (by simp))] at hresend
    cases hresend

/-- For every batch size from 1 on, every state that message events without interruption lead to and
every finite pattern of failures of close: the close event returns with the connection closed
exactly when closing does not fail. -/
theorem close_survives_iff (hfresh : Fresh h₀) (hopen : h₀.publisher.connectionOpen = true)
    (hB : 1 ≤ h₀.batchSize.toInt) (hfuel : h₀.publisher.faults.length < fuel)
    (ha : After fuel h₀ ms h) (closeFaults : List ℕ) :
    (∃ fuel' h', exec (onEvent fuel' .close) (h.closing closeFaults) = some (.ok (), h') ∧
      h'.publisher.connectionOpen = false) ↔ closeFaults = [] := by
  have hc := ha.closable hfresh hopen hB hfuel
  cases closeFaults with
  | nil =>
    obtain ⟨q, hclose, -, hclosed, -⟩ := SimplePublisher.exec_close
      (p := (h.closing []).publisher) rfl
    exact iff_of_true ⟨0, _, exec_tryCatch_ok (hc.exec_close hclose), hclosed⟩ rfl
  | cons n rest =>
    refine iff_of_false ?_ (List.cons_ne_nil n rest)
    intro hsurvives
    obtain ⟨fuel', h', hrun, hclosed⟩ := hsurvives
    obtain ⟨q, hresend, -, -, hconnection, -⟩ := hc.close_raises n rest
    have hn : n ≤ 1 := by
      rcases (hc.close_returns_iff n rest).mp ⟨fuel', h', hrun⟩ with rfl | ⟨rfl, -⟩ <;> omega
    rw [hresend] at hrun
    have hkept : h'.publisher.connectionOpen = q.connectionOpen := resend_keeps fuel' _ _ _ hrun
    rw [hclosed, hconnection hn] at hkept
    cases hkept

theorem close_survives_iff_pending :
    let h₀ : TxPublishHandler :=
      { batchSize := 2, publisher := .init .topicPublisher { isTransactional := true } }
    ∃ h, After 1 h₀ [{ text := some "a" }] h ∧
      ((∃ fuel h', exec (onEvent fuel .close) (h.closing [1]) = some (.ok (), h') ∧
        h'.publisher.connectionOpen = false) ↔ ([1] : List ℕ) = []) := by
  intro h₀
  have hfresh : Fresh h₀ := ⟨⟨⟨rfl, rfl, rfl⟩, rfl, by simp [h₀]⟩, rfl, rfl, rfl, rfl, rfl⟩
  obtain ⟨h, txs, ha, -⟩ :=
    exactly_once_run hfresh (by decide) (show 0 < 1 by decide) [{ text := some "a" }]
  exact ⟨h, ha, close_survives_iff hfresh rfl (by decide) (by decide) ha [1]⟩

/-- Closing fails once. With nothing closed yet the event returns and leaves the connection open; with
the sender and the session closed it never returns. -/
theorem failing_close_leaks :
    let h : TxPublishHandler :=
      { batchSize := 2, publisher := .init .queueSender { isTransactional := true } }
    (∃ h', exec (onEvent 1 .close) (h.closing [0]) = some (.ok (), h') ∧
      h'.publisher.connectionOpen = true) ∧
    ∀ fuel, exec (onEvent fuel .close) (h.closing [2]) = none := by
  intro h
  refine ⟨⟨_, rfl, rfl⟩, fun fuel ↦ ?_⟩
  have hc : Closable h := ⟨⟨⟨rfl, rfl, rfl⟩, rfl, by simp [h]⟩, rfl, by decide⟩
  obtain ⟨q, hrun, -, hsession, -⟩ := hc.close_raises 2 []
  rw [hrun]
  exact resend_session_closed fuel hc.live.uninterrupted (hsession.trans (by decide))

end TxPublishHandler

end AndesTestClient
