import AndesTestClient.SimplePublisher
import AndesTestClient.Library.Retry
import Mathlib.Order.Basic

namespace AndesTestClient

open Imperative Retry

inductive EventType
  | MessageEvent
  | CLOSE_PUB
deriving DecidableEq, Repr

/-- A slot of the ring buffer; both fields are null in a free one. -/
structure PublishEvent where
  atcMessage : Option ATCMessage := none
  type : Option EventType := none
deriving DecidableEq, Repr

namespace PublishEvent

def ofMessage (m : ATCMessage) : PublishEvent := ⟨some m, some .MessageEvent⟩

def close : PublishEvent := ⟨none, some .CLOSE_PUB⟩

end PublishEvent

structure TxPublishHandler where
  messagesList : List ATCMessage := []
  batchSize : Int32
  publisher : SimplePublisher
  sentCount : AtomicInteger := {}
  publishRate : Meter := {}
  thread : Thread := {}
deriving DecidableEq, Repr

namespace TxPublishHandler

/-- The constructor. `new ArrayList<>(batchSize)` refuses a negative capacity. -/
def new (batchSize : Int32) (publisher : SimplePublisher) : Except Thrown TxPublishHandler :=
  if batchSize < 0 then .error .illegalArgumentException
  else .ok { batchSize := batchSize, publisher := publisher }

def onPublisher {α : Type} (p : Java SimplePublisher α) : Java TxPublishHandler α :=
  within publisher (fun p h ↦ { h with publisher := p }) p

def onThread {α : Type} (p : Java Thread α) : Java TxPublishHandler α :=
  within thread (fun t h ↦ { h with thread := t }) p

def countBatch : Java TxPublishHandler Unit := do
  update fun h ↦ { h with sentCount := h.sentCount.addAndGet (size h.messagesList) }
  update fun h ↦ { h with publishRate := h.publishRate.mark (size h.messagesList) }
  update fun h ↦ { h with messagesList := [] }

def tryResend : Java TxPublishHandler Unit := do
  onThread Thread.sleep
  onPublisher SimplePublisher.rollback
  let messagesList ← observe TxPublishHandler.messagesList
  forM messagesList fun atcMessage ↦ onPublisher (SimplePublisher.send atcMessage)
  onPublisher SimplePublisher.commit
  countBatch

/-- The method calls itself from its own `catch` block. -/
def resend : ℕ → Java TxPublishHandler Unit
  | 0 => outOfFuel
  | fuel + 1 =>
    tryCatch tryResend fun
      | .atcException _ => resend fuel
      | .interruptedException => onThread Thread.interrupt
      | e => throw e

def commitFullBatch : Java TxPublishHandler Unit := do
  let h ← observe id
  if size h.messagesList = h.batchSize then
    onPublisher SimplePublisher.commit
    countBatch

/-- The `try` block of `onEvent`. A message event without a message ends in the null dereference
of `send`, which ends the handler too, so the null that `add` left in the list is not kept. -/
def tryEvent (event : PublishEvent) : Java TxPublishHandler Unit := do
  if event.type ≠ some .CLOSE_PUB then
    let atcMessage ← nonNull event.atcMessage
    update fun h ↦ { h with messagesList := h.messagesList ++ [atcMessage] }
    onPublisher (SimplePublisher.send atcMessage)
  commitFullBatch
  if event.type = some .CLOSE_PUB then
    onPublisher SimplePublisher.close

/-- The `finally` block clears the slot that `event` was read from. -/
def onEvent (fuel : ℕ) (event : PublishEvent) : Java TxPublishHandler Unit :=
  tryCatch (tryEvent event) fun
    | .atcException _ => resend fuel
    | e => throw e

def onEvents (fuel : ℕ) (events : List PublishEvent) : Java TxPublishHandler Unit :=
  forM events (onEvent fuel)

theorem new_ok {batchSize : Int32} {publisher : SimplePublisher} (h : 0 ≤ batchSize.toInt) :
    new batchSize publisher = .ok { batchSize := batchSize, publisher := publisher } := by
  refine if_neg ?_
  rw [Int32.lt_iff_toInt_lt, Int32.toInt_zero]
  omega

theorem onEvents_nil (fuel : ℕ) (h : TxPublishHandler) :
    exec (onEvents fuel []) h = some (.ok (), h) := rfl

theorem onEvents_append (fuel : ℕ) (es fs : List PublishEvent) (h : TxPublishHandler) :
    exec (onEvents fuel (es ++ fs)) h = exec (do onEvents fuel es; onEvents fuel fs) h := by
  simp only [onEvents, List.forM_append]

theorem onEvents_snoc {fuel : ℕ} {es : List PublishEvent} {e : PublishEvent}
    {h h₁ h₂ : TxPublishHandler} (hes : exec (onEvents fuel es) h = some (.ok (), h₁))
    (he : exec (onEvent fuel e) h₁ = some (.ok (), h₂)) :
    exec (onEvents fuel (es ++ [e])) h = some (.ok (), h₂) := by
  rw [onEvents_append, exec_bind_ok hes]
  change exec (onEvent fuel e >>= fun _ ↦ pure ()) h₁ = _
  rw [exec_bind_ok he, exec_pure]

theorem exec_onPublisher {α : Type} {p : Java SimplePublisher α} {h : TxPublishHandler}
    {r : Except Thrown α} {q : SimplePublisher} (hp : exec p h.publisher = some (r, q)) :
    exec (onPublisher p) h = some (r, { h with publisher := q }) :=
  exec_within_of hp

theorem exec_countBatch (h : TxPublishHandler) :
    exec countBatch h = some (.ok (), { h with
      messagesList := []
      sentCount := h.sentCount.addAndGet (size h.messagesList)
      publishRate := h.publishRate.mark (size h.messagesList) }) := rfl

structure Live (h : TxPublishHandler) : Prop where
  ready : h.publisher.Ready
  uninterrupted : h.thread.Uninterrupted

/-- The pending list is visible as one transaction, counted once. -/
structure Flushed (h h' : TxPublishHandler) : Prop where
  live : h'.Live
  messagesList_eq : h'.messagesList = []
  transaction_eq : h'.publisher.session.transaction = []
  committed_eq : h'.publisher.session.committed =
    h.publisher.session.committed ++ [h.messagesList.map MessageUtils.fromATCToJMS]
  sentCount_eq : h'.sentCount = h.sentCount.addAndGet (size h.messagesList)
  publishRate_eq : h'.publishRate = h.publishRate.mark (size h.messagesList)
  batchSize_eq : h'.batchSize = h.batchSize
  faults_le : h'.publisher.faults.length ≤ h.publisher.faults.length
  closeFaults_eq : h'.publisher.closeFaults = h.publisher.closeFaults
  failures_le : h.publisher.failures ≤ h'.publisher.failures

structure Stalled (h h' : TxPublishHandler) : Prop where
  uninterrupted : h'.thread.Uninterrupted
  messagesList_eq : h'.messagesList = h.messagesList
  sentCount_eq : h'.sentCount = h.sentCount
  publishRate_eq : h'.publishRate = h.publishRate
  batchSize_eq : h'.batchSize = h.batchSize
  raised : SimplePublisher.Raised h.publisher h'.publisher

theorem Stalled.live {h h' : TxPublishHandler} (hs : Stalled h h') : h'.Live :=
  ⟨hs.raised.ready, hs.uninterrupted⟩

theorem Stalled.flushed {h h₁ h₂ : TxPublishHandler} (hs : Stalled h h₁) (hf : Flushed h₁ h₂) :
    Flushed h h₂ where
  live := hf.live
  messagesList_eq := hf.messagesList_eq
  transaction_eq := hf.transaction_eq
  committed_eq := by rw [hf.committed_eq, hs.messagesList_eq, hs.raised.committed_eq]
  sentCount_eq := by rw [hf.sentCount_eq, hs.messagesList_eq, hs.sentCount_eq]
  publishRate_eq := by rw [hf.publishRate_eq, hs.messagesList_eq, hs.publishRate_eq]
  batchSize_eq := hf.batchSize_eq.trans hs.batchSize_eq
  faults_le := hf.faults_le.trans hs.raised.faults_lt.le
  closeFaults_eq := hf.closeFaults_eq.trans hs.raised.closeFaults_eq
  failures_le := hs.raised.failures_lt.le.trans hf.failures_le

theorem sendAll_spec (messages : List ATCMessage) {h : TxPublishHandler}
    (hp : h.publisher.Ready) :
    (∃ q, exec (forM messages fun m ↦ onPublisher (SimplePublisher.send m)) h =
        some (.ok (), { h with publisher := q }) ∧ SimplePublisher.Returned h.publisher q ∧
      q.session.committed = h.publisher.session.committed ∧
      q.session.transaction =
        h.publisher.session.transaction ++ messages.map MessageUtils.fromATCToJMS) ∨
    (∃ e q, exec (forM messages fun m ↦ onPublisher (SimplePublisher.send m)) h =
        some (.error (.atcException e), { h with publisher := q }) ∧
      SimplePublisher.Raised h.publisher q ∧ ∃ l, l <+: messages.map MessageUtils.fromATCToJMS ∧
        q.session.transaction = h.publisher.session.transaction ++ l) := by
  induction messages generalizing h with
  | nil => exact .inl ⟨h.publisher, rfl, ⟨hp, le_rfl, rfl, rfl⟩, rfl, by simp⟩
  | cons m messages ih =>
    simp only [List.forM_cons]
    rcases SimplePublisher.send_spec hp m with ⟨q, hrun, hq, hc, ht⟩ | ⟨e, q, hrun, hq, ht⟩
    · rw [exec_bind_ok (exec_onPublisher hrun)]
      rcases ih (h := { h with publisher := q }) hq.ready with
        ⟨q', hrest, hq', hc', ht'⟩ | ⟨e, q', hrest, hq', l, hl, ht'⟩
      · exact .inl ⟨q', hrest, hq.trans hq', hc'.trans hc, by simp [ht', ht]⟩
      · refine .inr ⟨e, q', hrest, hq.raised hc hq', MessageUtils.fromATCToJMS m :: l, ?_,
          by simp [ht', ht]⟩
        rw [List.map_cons]
        exact List.cons_prefix_cons.mpr ⟨rfl, hl⟩
    · refine .inr ⟨e, q, exec_bind_error (exec_onPublisher hrun), hq, ?_⟩
      rcases ht with ht | ht
      · exact ⟨[], List.nil_prefix, by rw [ht, List.append_nil]⟩
      · exact ⟨[MessageUtils.fromATCToJMS m], List.prefix_append _ _, ht⟩

def afterWait : Java TxPublishHandler Unit := do
  onPublisher SimplePublisher.rollback
  let messagesList ← observe TxPublishHandler.messagesList
  forM messagesList fun atcMessage ↦ onPublisher (SimplePublisher.send atcMessage)
  onPublisher SimplePublisher.commit
  countBatch

theorem tryResend_eq : tryResend = (do onThread Thread.sleep; afterWait) := rfl

theorem afterWait_outcome {h : TxPublishHandler} (hp : h.publisher.Ready) :
    (∃ q, exec afterWait h = some (.ok (), { h with
        messagesList := []
        publisher := q
        sentCount := h.sentCount.addAndGet (size h.messagesList)
        publishRate := h.publishRate.mark (size h.messagesList) }) ∧
      SimplePublisher.Returned h.publisher q ∧ q.session.transaction = [] ∧
      q.session.committed = h.publisher.session.committed ++
        [h.messagesList.map MessageUtils.fromATCToJMS]) ∨
    (∃ e q, exec afterWait h = some (.error (.atcException e), { h with publisher := q }) ∧
      SimplePublisher.Raised h.publisher q ∧
      (q.session.transaction = h.publisher.session.transaction ∨
        q.session.transaction <+: h.messagesList.map MessageUtils.fromATCToJMS)) := by
  rw [afterWait]
  rcases SimplePublisher.rollback_spec hp with ⟨p, hrun, hp₁, hps⟩ | ⟨e, p, hrun, hp₁, hps⟩
  case inr =>
    refine .inr ⟨e, p, exec_bind_error (exec_onPublisher hrun), hp₁, hps.imp ?_ ?_⟩
    · exact congrArg Session.transaction
    · intro hrolled
      rw [hrolled]
      exact List.nil_prefix
  rw [exec_bind_ok (exec_onPublisher hrun), exec_bind_ok (exec_observe _ _)]
  have hpc : p.session.committed = h.publisher.session.committed := by rw [hps]; rfl
  have hpt : p.session.transaction = [] := by rw [hps]; rfl
  rcases sendAll_spec h.messagesList (h := { h with publisher := p }) hp₁.ready with
    ⟨q, hrun, hq, hqc, hqt⟩ | ⟨e, q, hrun, hq, l, hl, hqt⟩
  case inr =>
    refine .inr ⟨e, q, exec_bind_error hrun, hp₁.raised hpc hq, .inr ?_⟩
    rw [hqt, hpt]
    exact hl
  have hpq := hp₁.trans hq
  rw [hpt, List.nil_append] at hqt
  rw [exec_bind_ok hrun]
  rcases SimplePublisher.commit_spec hq.ready with ⟨r, hrun, hr, hrs⟩ | ⟨e, r, hrun, hr, hrs⟩
  case inr =>
    refine .inr ⟨e, r, exec_bind_error (exec_onPublisher hrun), hpq.raised (hqc.trans hpc) hr, .inr ?_⟩
    rcases hrs with hrs | hrs
    · have htransaction := congrArg Session.transaction hrs
      exact htransaction.trans hqt ▸ List.prefix_rfl
    · rw [hrs]
      exact List.nil_prefix
  rw [exec_bind_ok (exec_onPublisher hrun)]
  refine .inl ⟨r, exec_countBatch _, hpq.trans hr, ?_, ?_⟩
  · rw [hrs]
    rfl
  · rw [hrs, Session.commit, hqt, hqc, hpc]

theorem tryResend_spec {h : TxPublishHandler} (hl : h.Live) :
    (∃ h', exec tryResend h = some (.ok (), h') ∧ Flushed h h') ∨
    (∃ e h', exec tryResend h = some (.error (.atcException e), h') ∧ Stalled h h') := by
  obtain ⟨t, hsleep, ht⟩ := Thread.sleep_uninterrupted hl.uninterrupted
  have hslept : exec (onThread Thread.sleep) h = some (.ok (), { h with thread := t }) :=
    exec_within_of hsleep
  rw [tryResend_eq, exec_bind_ok hslept]
  rcases afterWait_outcome (h := { h with thread := t }) hl.ready with
    ⟨q, hrun, hq, hqt, hqc⟩ | ⟨e, q, hrun, hq, -⟩
  · exact .inl ⟨_, hrun, ⟨hq.ready, ht⟩, rfl, hqt, hqc, rfl, rfl, rfl, hq.faults_le,
      hq.closeFaults_eq, hq.failures_eq.ge⟩
  · exact .inr ⟨e, _, hrun, ht, rfl, rfl, rfl, rfl, hq⟩

theorem resend_stops {h h' : TxPublishHandler} (hrun : exec tryResend h = some (.ok (), h')) :
    Stops (fun fuel ↦ exec (resend fuel)) h (.ok (), h') := fun _ ↦ exec_tryCatch_ok hrun

theorem resend_repeats {h h₁ : TxPublishHandler} {e : String}
    (hrun : exec tryResend h = some (.error (.atcException e), h₁)) :
    Repeats (fun fuel ↦ exec (resend fuel)) h h₁ := fun _ ↦ exec_tryCatch_error hrun

/-- An attempt from `h` ends in `Q`, or fails in a state from which the next one starts, with fewer
failures left to come, and from which `Q` is as good as from `h`. -/
def Attempts (P : TxPublishHandler → Prop) (Q : TxPublishHandler → TxPublishHandler → Prop)
    (h : TxPublishHandler) : Prop :=
  (∃ h', exec tryResend h = some (.ok (), h') ∧ Q h h') ∨
  ∃ e h₁, exec tryResend h = some (.error (.atcException e), h₁) ∧ P h₁ ∧
    h₁.publisher.faults.length < h.publisher.faults.length ∧ ∀ h', Q h₁ h' → Q h h'

theorem resend_returns {P : TxPublishHandler → Prop} {Q : TxPublishHandler → TxPublishHandler → Prop}
    (hattempt : ∀ h, P h → Attempts P Q h) {h : TxPublishHandler} (hh : P h) :
    ∃ h', (∀ fuel, h.publisher.faults.length < fuel → exec (resend fuel) h = some (.ok (), h')) ∧
      Q h h' := by
  obtain ⟨⟨r, h'⟩, hrun, rfl, hq⟩ := Retry.returns (fun fuel ↦ exec (resend fuel))
    (Q := fun h b ↦ b.1 = .ok () ∧ Q h b.2) (fun h ↦ h.publisher.faults.length) (fun h hh ↦ by
      rcases hattempt h hh with ⟨h', hrun, hq⟩ | ⟨e, h₁, hrun, hh₁, hlt, hq⟩
      · exact .inl ⟨_, resend_stops hrun, rfl, hq⟩
      · exact .inr ⟨h₁, resend_repeats hrun, hh₁, hlt, fun b hb ↦ ⟨hb.1, hq _ hb.2⟩⟩) hh
  exact ⟨h', hrun, hq⟩

theorem resend_flushes {h : TxPublishHandler} (hl : h.Live) :
    ∃ h', (∀ fuel, h.publisher.faults.length < fuel → exec (resend fuel) h = some (.ok (), h')) ∧
      Flushed h h' := by
  refine resend_returns (P := Live) ?_ hl
  intro h hl
  rcases tryResend_spec hl with ⟨h', hrun, hf⟩ | ⟨e, h₁, hrun, hs⟩
  · exact .inl ⟨h', hrun, hf⟩
  · exact .inr ⟨e, h₁, hrun, hs.live, hs.raised.faults_lt, fun _ hf ↦ hs.flushed hf⟩

theorem tryEvent_ofMessage (m : ATCMessage) :
    tryEvent (.ofMessage m) = (do
      update fun h ↦ { h with messagesList := h.messagesList ++ [m] }
      onPublisher (SimplePublisher.send m)
      commitFullBatch) := by
  simp [tryEvent, PublishEvent.ofMessage, nonNull]

theorem tryEvent_close :
    tryEvent .close = (do commitFullBatch; onPublisher SimplePublisher.close) := by
  simp [tryEvent, PublishEvent.close]

structure Kept (h : TxPublishHandler) (m : ATCMessage) (h' : TxPublishHandler) : Prop where
  live : h'.Live
  messagesList_eq : h'.messagesList = h.messagesList ++ [m]
  transaction_eq : h'.publisher.session.transaction =
    h.publisher.session.transaction ++ [MessageUtils.fromATCToJMS m]
  committed_eq : h'.publisher.session.committed = h.publisher.session.committed
  sentCount_eq : h'.sentCount = h.sentCount
  publishRate_eq : h'.publishRate = h.publishRate
  batchSize_eq : h'.batchSize = h.batchSize
  faults_le : h'.publisher.faults.length ≤ h.publisher.faults.length
  closeFaults_eq : h'.publisher.closeFaults = h.publisher.closeFaults
  failures_eq : h'.publisher.failures = h.publisher.failures

theorem commitFullBatch_spec {h : TxPublishHandler} (hl : h.Live)
    (htx : h.publisher.session.transaction = h.messagesList.map MessageUtils.fromATCToJMS) :
    (size h.messagesList ≠ h.batchSize ∧ exec commitFullBatch h = some (.ok (), h)) ∨
    (size h.messagesList = h.batchSize ∧
      ((∃ h', exec commitFullBatch h = some (.ok (), h') ∧ Flushed h h') ∨
        (∃ e h', exec commitFullBatch h = some (.error (.atcException e), h') ∧ Stalled h h'))) := by
  by_cases hsize : size h.messagesList = h.batchSize
  case neg =>
    exact .inl ⟨hsize, by simp [commitFullBatch, exec_bind, hsize]⟩
  have hrun : exec commitFullBatch h = exec (do onPublisher SimplePublisher.commit; countBatch) h := by
    rw [commitFullBatch, exec_bind_ok (exec_observe id h), id_eq, if_pos hsize]
  rw [hrun]
  refine .inr ⟨hsize, ?_⟩
  rcases SimplePublisher.commit_spec hl.ready with ⟨q, hq, hr, hs⟩ | ⟨e, q, hq, hr, -⟩
  · rw [exec_bind_ok (exec_onPublisher hq)]
    refine .inl ⟨_, exec_countBatch _, ⟨hr.ready, hl.uninterrupted⟩, rfl, ?_, ?_, rfl, rfl, rfl,
      hr.faults_le, hr.closeFaults_eq, hr.failures_eq.ge⟩
    · change q.session.transaction = []
      rw [hs]; rfl
    · change q.session.committed = _
      rw [hs, Session.commit, htx]
  · exact .inr ⟨e, _, exec_bind_error (exec_onPublisher hq), hl.uninterrupted, rfl, rfl, rfl, rfl, hr⟩

/-- A message event adds its message to a batch that stays open, or ends with the whole list
committed because it was full or because a call failed. -/
theorem onEvent_message {fuel : ℕ} {h : TxPublishHandler} (hl : h.Live) (m : ATCMessage)
    (htx : h.publisher.session.transaction = h.messagesList.map MessageUtils.fromATCToJMS)
    (hfuel : h.publisher.faults.length < fuel) :
    ∃ h', exec (onEvent fuel (.ofMessage m)) h = some (.ok (), h') ∧
      ((size h'.messagesList ≠ h.batchSize ∧ Kept h m h') ∨
        (Flushed { h with messagesList := h.messagesList ++ [m] } h' ∧
          (size (h.messagesList ++ [m]) = h.batchSize ∨
            h.publisher.failures < h'.publisher.failures))) := by
  let h₀ : TxPublishHandler := { h with messagesList := h.messagesList ++ [m] }
  have hadd : exec (tryEvent (.ofMessage m)) h =
      exec (do onPublisher (SimplePublisher.send m); commitFullBatch) h₀ := by
    rw [tryEvent_ofMessage, exec_bind_ok (exec_update _ h)]
  have hresend : ∀ h₁ : TxPublishHandler, Stalled h₀ h₁ → ∃ h', exec (resend fuel) h₁ =
      some (.ok (), h') ∧ Flushed h₀ h' ∧ h.publisher.failures < h'.publisher.failures := by
    intro h₁ hs
    have hlt : h₁.publisher.faults.length < h.publisher.faults.length := hs.raised.faults_lt
    obtain ⟨h', hrun, hf⟩ := resend_flushes hs.live
    exact ⟨h', hrun fuel (by omega), hs.flushed hf, hs.raised.failures_lt.trans_le hf.failures_le⟩
  rcases SimplePublisher.send_spec hl.ready m with ⟨q, hsend, hq, hqc, hqt⟩ | ⟨e, q, hsend, hq, -⟩
  case inr =>
    obtain ⟨h', hrun, hf, hlt⟩ := hresend { h₀ with publisher := q }
      ⟨hl.uninterrupted, rfl, rfl, rfl, rfl, hq⟩
    refine ⟨h', ?_, .inr ⟨hf, .inr hlt⟩⟩
    have hfail := hadd.trans (exec_bind_error (exec_onPublisher (h := h₀) hsend))
    exact (exec_tryCatch_error hfail).trans hrun
  let h₁ : TxPublishHandler := { h₀ with publisher := q }
  have hl₁ : h₁.Live := ⟨hq.ready, hl.uninterrupted⟩
  have htx₁ : h₁.publisher.session.transaction =
      h₁.messagesList.map MessageUtils.fromATCToJMS := by
    change q.session.transaction = (h.messagesList ++ [m]).map _
    rw [hqt, htx, List.map_append, List.map_singleton]
  have hstep : exec (tryEvent (.ofMessage m)) h = exec commitFullBatch h₁ :=
    hadd.trans (exec_bind_ok (exec_onPublisher (h := h₀) hsend))
  have hflushed : ∀ {h'}, Flushed h₁ h' → Flushed h₀ h' := fun hf ↦
    { hf with
      committed_eq := hf.committed_eq.trans (by rw [hqc])
      faults_le := hf.faults_le.trans hq.faults_le
      closeFaults_eq := hf.closeFaults_eq.trans hq.closeFaults_eq
      failures_le := hq.failures_eq ▸ hf.failures_le }
  rcases commitFullBatch_spec hl₁ htx₁ with ⟨hne, hrun⟩ | ⟨heq, ⟨h', hrun, hf⟩ | ⟨e, h₂, hrun, hs⟩⟩
  · refine ⟨h₁, exec_tryCatch_ok (hstep.trans hrun), .inl ⟨hne, ?_⟩⟩
    exact ⟨hl₁, rfl, hqt, hqc, rfl, rfl, rfl, hq.faults_le, hq.closeFaults_eq, hq.failures_eq⟩
  · exact ⟨h', exec_tryCatch_ok (hstep.trans hrun), .inr ⟨hflushed hf, .inl heq⟩⟩
  · have hs₀ : Stalled h₀ h₂ := { hs with raised := hq.raised hqc hs.raised }
    obtain ⟨h', hrest, hf, hlt⟩ := hresend h₂ hs₀
    exact ⟨h', (exec_tryCatch_error (hstep.trans hrun)).trans hrest, .inr ⟨hf, .inr hlt⟩⟩

theorem exec_commitFullBatch {h : TxPublishHandler} (hp : h.publisher.Ready) (hf : h.publisher.faults = []) :
    exec commitFullBatch h = some (.ok (), if size h.messagesList = h.batchSize then
      { h with
        messagesList := []
        sentCount := h.sentCount.addAndGet (size h.messagesList)
        publishRate := h.publishRate.mark (size h.messagesList)
        publisher := { h.publisher with session := h.publisher.session.commit } }
      else h) := by
  rw [commitFullBatch, exec_bind_ok (exec_observe id h), id_eq]
  by_cases hsize : size h.messagesList = h.batchSize
  · have hcommit := SimplePublisher.exec_commit hp.session hp.transacted hf
    rw [if_pos hsize, if_pos hsize, exec_bind_ok (exec_onPublisher hcommit)]
    rfl
  · rw [if_neg hsize, if_neg hsize, exec_pure]

theorem onEvent_calm {h : TxPublishHandler} (hp : h.publisher.Ready) (hf : h.publisher.faults = [])
    (fuel : ℕ) (m : ATCMessage) :
    exec (onEvent fuel (.ofMessage m)) h = some (.ok (),
      let sent := h.publisher.session.send (MessageUtils.fromATCToJMS m)
      if size (h.messagesList ++ [m]) = h.batchSize then { h with
        messagesList := []
        sentCount := h.sentCount.addAndGet (size (h.messagesList ++ [m]))
        publishRate := h.publishRate.mark (size (h.messagesList ++ [m]))
        publisher := { h.publisher with session := sent.commit } }
      else { h with
        messagesList := h.messagesList ++ [m]
        publisher := { h.publisher with session := sent } }) := by
  let h₁ : TxPublishHandler := { h with
    messagesList := h.messagesList ++ [m]
    publisher := { h.publisher with
      session := h.publisher.session.send (MessageUtils.fromATCToJMS m) } }
  have hp₁ : h₁.publisher.Ready := by
    refine ⟨hp.sender, hp.session, ?_⟩
    simp [h₁, Session.send, hp.transacted]
  have hrun : exec (tryEvent (.ofMessage m)) h = exec commitFullBatch h₁ := by
    rw [tryEvent_ofMessage, exec_bind_ok (exec_update _ h)]
    exact exec_bind_ok (exec_onPublisher (h := { h with messagesList := h.messagesList ++ [m] })
      (SimplePublisher.exec_send hp.sender hp.session hf m))
  exact exec_tryCatch_ok (hrun.trans (exec_commitFullBatch hp₁ hf))

end TxPublishHandler

end AndesTestClient
