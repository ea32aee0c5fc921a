import AndesTestClient.ExactlyOnce
import AndesTestClient.FailingClose
import AndesTestClient.OpenConnections

namespace AndesTestClient

open Imperative RingBuffer

namespace TxPublishHandler

/-- The broker shows the first `n` messages, each once and in order, and they have been counted. -/
structure Shown (messages : List ATCMessage) (n : ℕ) (h : TxPublishHandler) : Prop where
  visible : List.Forall₂ MessageUtils.Carries (messages.take n) h.publisher.session.committed.flatten
  sentCount_eq : h.sentCount.added = n
  publishRate_eq : h.publishRate.count = n

/-- Between two events, with the first `k` messages handled: they are shown but for a pending rest
that does not fill a batch. -/
structure AtRest (h₀ : TxPublishHandler) (messages : List ATCMessage) (k n : ℕ) (h : TxPublishHandler) :
    Prop where
  live : h.Live
  batchSize_eq : h.batchSize = h₀.batchSize
  faults_le : h.publisher.faults.length ≤ h₀.publisher.faults.length
  transaction_eq : h.publisher.session.transaction = h.messagesList.map MessageUtils.fromATCToJMS
  le : n ≤ k
  pending_eq : h.messagesList = (messages.take k).drop n
  pending_lt : (h.messagesList.length : ℤ) < h₀.batchSize.toInt
  shown : Shown messages n h

def taken (m : ATCMessage) (h : TxPublishHandler) : TxPublishHandler :=
  { h with messagesList := h.messagesList ++ [m] }

variable {fuel k n : ℕ} {h₀ h h' h₁ h₂ g : TxPublishHandler} {m : ATCMessage} {messages : List ATCMessage}

theorem After.atRest (hfresh : Fresh h₀) (hB : 1 ≤ h₀.batchSize.toInt)
    (hfuel : h₀.publisher.faults.length < fuel) (hk : k ≤ messages.length)
    (ha : After fuel h₀ (messages.take k) h) : ∃ n, AtRest h₀ messages k n h := by
  obtain ⟨h', txs, hrun, hlive, hb, hfaults, hx⟩ :=
    exactly_once_run hfresh (by omega) hfuel (messages.take k)
  cases ha.symm.trans hrun
  have hlength := congrArg List.length hx.in_order
  rw [List.length_append, List.length_take, Nat.min_eq_left hk] at hlength
  have hle : txs.flatten.length ≤ k := by omega
  have htake : messages.take txs.flatten.length = txs.flatten := by
    have hbeginning : txs.flatten <+: messages := by
      refine List.IsPrefix.trans ?_ (List.take_prefix k messages)
      rw [← hx.in_order]
      exact List.prefix_append _ _
    exact (List.prefix_iff_eq_take.mp hbeginning).symm
  refine ⟨txs.flatten.length, hlive, hb, hfaults, hx.transaction_eq, hle, ?_, hx.pending_lt, ?_⟩
  · rw [← hx.in_order, List.drop_left]
  · refine ⟨?_, hx.sentCount_eq, hx.publishRate_eq⟩
    rw [MessageUtils.forall₂_carries_iff, hx.committed_eq, htake, List.map_flatten]

theorem After.closeFaults_eq {ms : List ATCMessage} (hfresh : Fresh h₀) (hB : 1 ≤ h₀.batchSize.toInt)
    (hfuel : h₀.publisher.faults.length < fuel) (ha : After fuel h₀ ms h) :
    h.publisher.closeFaults = h₀.publisher.closeFaults := by
  induction ms using List.reverseRecOn generalizing h with
  | nil =>
    cases ha.symm.trans (onEvents_nil fuel h₀)
    rfl
  | append_singleton ms m ih =>
    obtain ⟨h₁, txs, ha₁, hl, -, hfaults, hx⟩ := exactly_once_run hfresh (by omega) hfuel ms
    obtain ⟨h₂, hrun, hcase⟩ := onEvent_message hl m hx.transaction_eq (hfaults.trans_lt hfuel)
    have hkept : h₂.publisher.closeFaults = h₁.publisher.closeFaults := by
      rcases hcase with ⟨-, hk⟩ | ⟨hf, -⟩
      · exact hk.closeFaults_eq
      · exact hf.closeFaults_eq
    cases ha.symm.trans (ha₁.snoc hrun)
    exact hkept.trans (ih ha₁)

theorem AtRest.pending_length (hr : AtRest h₀ messages k n h) (hk : k ≤ messages.length) :
    h.messagesList.length = k - n := by
  rw [hr.pending_eq, List.length_drop, List.length_take, Nat.min_eq_left hk]

theorem Shown.visible_eq (hs : Shown messages n h) : h.publisher.session.committed.flatten =
    (messages.take n).map MessageUtils.fromATCToJMS :=
  MessageUtils.forall₂_carries_iff.mp hs.visible

theorem Shown.extend {l : List ATCMessage} (hs : Shown messages n h) (hn : n ≤ k)
    (hk : k ≤ messages.length) (hlength : messages.length < 2 ^ 31) (hl : l = (messages.take k).drop n)
    (hcommitted : g.publisher.session.committed =
      h.publisher.session.committed ++ [l.map MessageUtils.fromATCToJMS])
    (hsent : g.sentCount = h.sentCount.addAndGet (size l))
    (hrate : g.publishRate = h.publishRate.mark (size l)) : Shown messages k g := by
  have hsize : (size l).toInt = k - n := by
    have hl' : l.length = k - n := by
      rw [hl, List.length_drop, List.length_take, Nat.min_eq_left hk]
    rw [size_toInt (by omega), hl']
    omega
  refine ⟨?_, ?_, ?_⟩
  · have hsplit : messages.take n ++ l = messages.take k := by
      rw [hl]
      have htake : messages.take n = (messages.take k).take n := by
        rw [List.take_take, Nat.min_eq_left hn]
      rw [htake, List.take_append_drop]
    rw [MessageUtils.forall₂_carries_iff, hcommitted, List.flatten_append, List.flatten_singleton,
      hs.visible_eq, ← List.map_append, hsplit]
  · rw [hsent, AtomicInteger.addAndGet, hs.sentCount_eq, hsize]
    exact add_sub_cancel _ _
  · rw [hrate, Meter.mark, hs.publishRate_eq, hsize]
    exact add_sub_cancel _ _

theorem Shown.of_eq (hs : Shown messages n h)
    (hcommitted : g.publisher.session.committed = h.publisher.session.committed)
    (hsent : g.sentCount = h.sentCount) (hrate : g.publishRate = h.publishRate) :
    Shown messages n g :=
  ⟨by rw [hcommitted]; exact hs.visible, by rw [hsent, hs.sentCount_eq],
    by rw [hrate, hs.publishRate_eq]⟩

theorem Kept.flushed (hk : Kept h m h₁) (hf : Flushed h₁ h₂) : Flushed (h.taken m) h₂ where
  live := hf.live
  messagesList_eq := hf.messagesList_eq
  transaction_eq := hf.transaction_eq
  committed_eq := by
    rw [hf.committed_eq, hk.committed_eq, hk.messagesList_eq]
    rfl
  sentCount_eq := by
    rw [hf.sentCount_eq, hk.sentCount_eq, hk.messagesList_eq]
    rfl
  publishRate_eq := by
    rw [hf.publishRate_eq, hk.publishRate_eq, hk.messagesList_eq]
    rfl
  batchSize_eq := hf.batchSize_eq.trans hk.batchSize_eq
  faults_le := hf.faults_le.trans hk.faults_le
  closeFaults_eq := hf.closeFaults_eq.trans hk.closeFaults_eq
  failures_le := hk.failures_eq ▸ hf.failures_le

theorem Kept.stalled (hk : Kept h m h₁) (hs : Stalled h₁ h₂) : Stalled (h.taken m) h₂ where
  uninterrupted := hs.uninterrupted
  messagesList_eq := hs.messagesList_eq.trans hk.messagesList_eq
  sentCount_eq := hs.sentCount_eq.trans hk.sentCount_eq
  publishRate_eq := hs.publishRate_eq.trans hk.publishRate_eq
  batchSize_eq := hs.batchSize_eq.trans hk.batchSize_eq
  raised :=
    { ready := hs.raised.ready
      committed_eq := hs.raised.committed_eq.trans hk.committed_eq
      faults_lt := hs.raised.faults_lt.trans_le hk.faults_le
      closeFaults_eq := hs.raised.closeFaults_eq.trans hk.closeFaults_eq
      failures_lt := hk.failures_eq ▸ hs.raised.failures_lt }

/-- Where the call of a message event is, told by what it has done to the handler it found. -/
def During (h : TxPublishHandler) (m : ATCMessage) : HandlerPoint → Prop
  | .dispatch g => g = h
  | .add g => g = h
  | .send g => g = h.taken m
  | .commit g => Kept h m g
  | .close g => Kept h m g ∨ Flushed (h.taken m) g
  | .resend g => Stalled (h.taken m) g

theorem During.advance (hl : h.Live)
    (htx : h.publisher.session.transaction = h.messagesList.map MessageUtils.fromATCToJMS)
    {point point' : HandlerPoint} (hd : During h m point)
    (hstep : HandlerPoint.advance fuel point (.ofMessage m) = some (.inl point')) :
    During h m point' := by
  cases point with
  | dispatch g =>
    cases hd
    cases hstep
    rfl
  | add g =>
    cases hd
    cases hstep
    rfl
  | send g =>
    cases hd
    change HandlerPoint.next (.inl ∘ .commit)
      (exec (onPublisher (SimplePublisher.send m)) (h.taken m)) = _ at hstep
    rcases SimplePublisher.send_spec hl.ready m with ⟨q, hsend, hq, hqc, hqt⟩ | ⟨e, q, hsend, hq, -⟩
    · rw [exec_onPublisher (h := h.taken m) hsend] at hstep
      cases hstep
      exact ⟨⟨hq.ready, hl.uninterrupted⟩, rfl, hqt, hqc, rfl, rfl, rfl, hq.faults_le,
        hq.closeFaults_eq, hq.failures_eq⟩
    · rw [exec_onPublisher (h := h.taken m) hsend] at hstep
      cases hstep
      exact ⟨hl.uninterrupted, rfl, rfl, rfl, rfl, hq⟩
  | commit g =>
    have hkept : Kept h m g := hd
    have hgtx : g.publisher.session.transaction = g.messagesList.map MessageUtils.fromATCToJMS := by
      rw [hkept.transaction_eq, htx, hkept.messagesList_eq, List.map_append, List.map_singleton]
    change HandlerPoint.next (.inl ∘ .close) (exec commitFullBatch g) = _ at hstep
    rcases commitFullBatch_spec hkept.live hgtx with
      ⟨-, hrun⟩ | ⟨-, ⟨g', hrun, hf⟩ | ⟨e, g', hrun, hs⟩⟩
    · rw [hrun] at hstep
      cases hstep
      exact .inl hkept
    · rw [hrun] at hstep
      cases hstep
      exact .inr (hkept.flushed hf)
    · rw [hrun] at hstep
      cases hstep
      exact hkept.stalled hs
  | close g => cases hstep
  | resend g =>
    simp only [HandlerPoint.advance] at hstep
    split at hstep <;> cases hstep

theorem During.reach (hl : h.Live)
    (htx : h.publisher.session.transaction = h.messagesList.map MessageUtils.fromATCToJMS)
    {point : HandlerPoint} (hreach : Relation.ReflTransGen
      (fun l l' ↦ HandlerPoint.advance fuel l (.ofMessage m) = some (.inl l')) (.dispatch h) point) :
    During h m point := by
  induction hreach with
  | refl => rfl
  | tail _ hstep ih => exact ih.advance hl htx hstep

/-- In the middle of a message event, the broker shows what it showed before or, when the batch has
been committed already, everything up to the message of the event. -/
theorem During.shown (hr : AtRest h₀ messages k n h) (hk : k < messages.length)
    (hlength : messages.length < 2 ^ 31) (hm : messages[k]? = some m) {point : HandlerPoint}
    (hd : During h m point) : Shown messages n point.handler ∨ Shown messages (k + 1) point.handler := by
  cases point with
  | dispatch g =>
    cases hd
    exact .inl hr.shown
  | add g =>
    cases hd
    exact .inl hr.shown
  | send g =>
    cases hd
    exact .inl (hr.shown.of_eq rfl rfl rfl)
  | commit g =>
    have hkept : Kept h m g := hd
    exact .inl (hr.shown.of_eq hkept.committed_eq hkept.sentCount_eq hkept.publishRate_eq)
  | close g =>
    rcases hd with hkept | hf
    · exact .inl (hr.shown.of_eq hkept.committed_eq hkept.sentCount_eq hkept.publishRate_eq)
    · have hlist : h.messagesList ++ [m] = (messages.take (k + 1)).drop n := by
        rw [List.take_add_one, hm, List.drop_append_of_le_length, ← hr.pending_eq]
        · rfl
        · rw [List.length_take, Nat.min_eq_left hk.le]
          exact hr.le
      exact .inr (hr.shown.extend (hr.le.trans (Nat.le_succ k)) hk hlength hlist hf.committed_eq
        hf.sentCount_eq hf.publishRate_eq)
  | resend g =>
    have hs : Stalled (h.taken m) g := hd
    exact .inl (hr.shown.of_eq hs.raised.committed_eq hs.sentCount_eq hs.publishRate_eq)

theorem resend_never_or_repairs (hu : g.thread.Uninterrupted)
    (htransacted : g.publisher.session.transacted = true) :
    (∀ fuel, exec (resend fuel) g = none) ∨
      ∃ h', (∀ fuel, g.publisher.faults.length < fuel → exec (resend fuel) g = some (.ok (), h')) ∧
        Repaired g h' := by
  by_cases hsession : g.publisher.sessionOpen = true
  case neg =>
    exact .inl fun fuel ↦ resend_session_closed fuel hu (Bool.not_eq_true _ ▸ hsession)
  by_cases hsender : g.publisher.senderOpen = true ∨ g.messagesList = []
  case neg =>
    rw [not_or] at hsender
    exact .inl fun fuel ↦
      resend_sender_closed fuel hu hsession htransacted (Bool.not_eq_true _ ▸ hsender.1) hsender.2
  have hg : Repairable g := ⟨hu, hsession, htransacted, hsender⟩
  exact .inr hg.resend

theorem repaired_of_returned (hu : g.thread.Uninterrupted)
    (htransacted : g.publisher.session.transacted = true) (hfuel : g.publisher.faults.length < fuel)
    (hrun : exec (resend fuel) g = some (.ok (), h')) : Repaired g h' := by
  rcases resend_never_or_repairs hu htransacted with hnever | ⟨h'', hresend, hr⟩
  · rw [hnever fuel] at hrun
    cases hrun
  · cases hrun.symm.trans (hresend fuel hfuel)
    exact hr

structure Unclosed (h g : TxPublishHandler) : Prop where
  uninterrupted : g.thread.Uninterrupted
  transacted : g.publisher.session.transacted = true
  faults_eq : g.publisher.faults = h.publisher.faults
  messagesList_eq : g.messagesList = h.messagesList
  committed_eq : g.publisher.session.committed = h.publisher.session.committed
  sentCount_eq : g.sentCount = h.sentCount
  publishRate_eq : g.publishRate = h.publishRate
  failed : h.publisher.closeFaults ≠ []

def Closing (h : TxPublishHandler) : HandlerPoint → Prop
  | .dispatch g => g = h
  | .commit g => g = h
  | .close g => g = h
  | .resend g => Unclosed h g
  | _ => False

theorem AtRest.not_full (hr : AtRest h₀ messages k n h) : size h.messagesList ≠ h.batchSize := by
  rw [hr.batchSize_eq, Ne, size_eq_iff hr.pending_lt.le]
  exact hr.pending_lt.ne

theorem Closing.advance (hr : AtRest h₀ messages k n h) {point point' : HandlerPoint}
    (hc : Closing h point)
    (hstep : HandlerPoint.advance fuel point .close = some (.inl point')) : Closing h point' := by
  cases point with
  | dispatch g =>
    cases hc
    cases hstep
    rfl
  | commit g =>
    cases hc
    change HandlerPoint.next (.inl ∘ .close) (exec commitFullBatch h) = _ at hstep
    rw [commitFullBatch, exec_bind_ok (exec_observe id h), id_eq, if_neg hr.not_full] at hstep
    cases hstep
    rfl
  | close g =>
    cases hc
    change HandlerPoint.next .inr (exec (onPublisher SimplePublisher.close) h) = _ at hstep
    obtain ⟨r, q, hclose, hq, ⟨-, rfl, -⟩ | ⟨hf, e, rfl⟩⟩ := SimplePublisher.close_outcome h.publisher
    · rw [exec_onPublisher hclose] at hstep
      cases hstep
    · rw [exec_onPublisher hclose] at hstep
      cases hstep
      exact ⟨hr.live.uninterrupted, hq.transacted_eq.trans hr.live.ready.transacted, hq.faults_eq, rfl,
        hq.committed_eq, rfl, rfl, hf⟩
  | resend g =>
    simp only [HandlerPoint.advance] at hstep
    split at hstep <;> cases hstep
  | add g => exact hc.elim
  | send g => exact hc.elim

theorem Closing.reach (hr : AtRest h₀ messages k n h) {point : HandlerPoint}
    (hreach : Relation.ReflTransGen
      (fun l l' ↦ HandlerPoint.advance fuel l .close = some (.inl l')) (.dispatch h) point) :
    Closing h point := by
  induction hreach with
  | refl => rfl
  | tail _ hstep ih => exact ih.advance hr hstep

theorem Closing.shown (hr : AtRest h₀ messages k n h) {point : HandlerPoint} (hc : Closing h point) :
    Shown messages n point.handler := by
  cases point with
  | dispatch g =>
    cases hc
    exact hr.shown
  | commit g =>
    cases hc
    exact hr.shown
  | close g =>
    cases hc
    exact hr.shown
  | resend g =>
    have hu : Unclosed h g := hc
    exact hr.shown.of_eq hu.committed_eq hu.sentCount_eq hu.publishRate_eq
  | add g => exact hc.elim
  | send g => exact hc.elim

theorem Closing.leave (hr : AtRest h₀ messages messages.length n h)
    (hfuel : h₀.publisher.faults.length < fuel) (hlength : messages.length < 2 ^ 31)
    {point : HandlerPoint} (hc : Closing h point)
    (hstep : HandlerPoint.advance fuel point .close = some (.inr h')) :
    (h.publisher.closeFaults = [] ∧ h'.publisher.sessionOpen = false ∧
        h'.publisher.connectionOpen = false ∧ Shown messages n h') ∨
      (h.publisher.closeFaults ≠ [] ∧ Shown messages messages.length h') := by
  cases point with
  | dispatch g => cases hstep
  | commit g =>
    cases hc
    change HandlerPoint.next (.inl ∘ .close) (exec commitFullBatch h) = _ at hstep
    rw [commitFullBatch, exec_bind_ok (exec_observe id h), id_eq, if_neg hr.not_full] at hstep
    cases hstep
  | close g =>
    cases hc
    change HandlerPoint.next .inr (exec (onPublisher SimplePublisher.close) h) = _ at hstep
    obtain ⟨r, q, hclose, hq, ⟨hf, rfl, hsession, hconnection⟩ | ⟨-, e, rfl⟩⟩ :=
      SimplePublisher.close_outcome h.publisher
    · rw [exec_onPublisher hclose] at hstep
      cases hstep
      exact .inl ⟨hf, hsession, hconnection, hr.shown.of_eq hq.committed_eq rfl rfl⟩
    · rw [exec_onPublisher hclose] at hstep
      cases hstep
  | resend g =>
    have hu : Unclosed h g := hc
    simp only [HandlerPoint.advance] at hstep
    split at hstep
    case h_2 => cases hstep
    case h_1 g' hrun =>
      cases hstep
      have hfaults : g.publisher.faults.length < fuel := by
        rw [hu.faults_eq]
        exact hr.faults_le.trans_lt hfuel
      have hrepaired := repaired_of_returned hu.uninterrupted hu.transacted hfaults hrun
      refine .inr ⟨hu.failed, hr.shown.extend hr.le le_rfl hlength hr.pending_eq ?_ ?_ ?_⟩
      · rw [hrepaired.committed_eq, hu.committed_eq, hu.messagesList_eq]
      · rw [hrepaired.sentCount_eq, hu.sentCount_eq, hu.messagesList_eq]
      · rw [hrepaired.publishRate_eq, hu.publishRate_eq, hu.messagesList_eq]
  | add g => exact hc.elim
  | send g => exact hc.elim

end TxPublishHandler

end AndesTestClient
