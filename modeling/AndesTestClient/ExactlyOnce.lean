import AndesTestClient.TxPublishHandler
import Mathlib.Data.List.Induction

namespace AndesTestClient

open Imperative

namespace TxPublishHandler

def After (fuel : ℕ) (h₀ : TxPublishHandler) (ms : List ATCMessage) (h : TxPublishHandler) : Prop :=
  exec (onEvents fuel (ms.map PublishEvent.ofMessage)) h₀ = some (.ok (), h)

/-- Some call on the session raised while event number `n` of `ms` was handled. -/
def FailedDuring (fuel : ℕ) (h₀ : TxPublishHandler) (ms : List ATCMessage) (n : ℕ) : Prop :=
  ∃ h h', After fuel h₀ (ms.take n) h ∧ After fuel h₀ (ms.take (n + 1)) h' ∧
    h.publisher.failures < h'.publisher.failures

structure Fresh (h : TxPublishHandler) : Prop where
  live : h.Live
  messagesList_eq : h.messagesList = []
  transaction_eq : h.publisher.session.transaction = []
  committed_eq : h.publisher.session.committed = []
  added_eq : h.sentCount.added = 0
  count_eq : h.publishRate.count = 0

/-- The messages `txs` that the broker has made visible and the pending list are together the
messages handled so far. -/
structure ExactlyOnce (fuel : ℕ) (h₀ : TxPublishHandler) (ms : List ATCMessage)
    (h : TxPublishHandler) (txs : List (List ATCMessage)) : Prop where
  committed_carries :
    List.Forall₂ (List.Forall₂ MessageUtils.Carries) txs h.publisher.session.committed
  in_order : txs.flatten ++ h.messagesList = ms
  transaction_carries :
    List.Forall₂ MessageUtils.Carries h.messagesList h.publisher.session.transaction
  pending_lt : (h.messagesList.length : ℤ) < h₀.batchSize.toInt
  batch_le : ∀ t ∈ txs, t ≠ [] ∧ (t.length : ℤ) ≤ h₀.batchSize.toInt
  batch_eq : ∀ (i : ℕ) (hi : i < txs.length), (txs[i].length : ℤ) = h₀.batchSize.toInt ∨
    FailedDuring fuel h₀ ms ((txs.take (i + 1)).flatten.length - 1)
  sentCount_eq : h.sentCount.added = txs.flatten.length
  publishRate_eq : h.publishRate.count = txs.flatten.length

variable {fuel : ℕ} {h₀ h h' : TxPublishHandler} {ms : List ATCMessage}
  {txs : List (List ATCMessage)}

theorem committed_carries_iff : List.Forall₂ (List.Forall₂ MessageUtils.Carries) txs
      h.publisher.session.committed ↔
    h.publisher.session.committed = txs.map (·.map MessageUtils.fromATCToJMS) :=
  forall₂_iff_eq_map @MessageUtils.forall₂_carries_iff

theorem ExactlyOnce.committed_eq (hx : ExactlyOnce fuel h₀ ms h txs) :
    h.publisher.session.committed = txs.map (·.map MessageUtils.fromATCToJMS) :=
  committed_carries_iff.mp hx.committed_carries

theorem ExactlyOnce.transaction_eq (hx : ExactlyOnce fuel h₀ ms h txs) :
    h.publisher.session.transaction = h.messagesList.map MessageUtils.fromATCToJMS :=
  MessageUtils.forall₂_carries_iff.mp hx.transaction_carries

theorem After.snoc {m : ATCMessage} (ha : After fuel h₀ ms h)
    (he : exec (onEvent fuel (.ofMessage m)) h = some (.ok (), h')) :
    After fuel h₀ (ms ++ [m]) h' := by
  rw [After, List.map_append, List.map_singleton]
  exact onEvents_snoc ha he

theorem FailedDuring.append {n : ℕ} (hn : n < ms.length) (h : FailedDuring fuel h₀ ms n)
    (ns : List ATCMessage) : FailedDuring fuel h₀ (ms ++ ns) n := by
  rwa [FailedDuring, List.take_append_of_le_length hn.le, List.take_append_of_le_length hn]

theorem size_eq_iff {l : List ATCMessage} {B : Int32} (hl : (l.length : ℤ) ≤ B.toInt) :
    size l = B ↔ (l.length : ℤ) = B.toInt := by
  have hB := B.toInt_lt
  rw [← Int32.toInt_inj, size_toInt (by omega)]

theorem ExactlyOnce.batch_append (hx : ExactlyOnce fuel h₀ ms h txs) (ns : List ATCMessage)
    (i : ℕ) (hi : i < txs.length) : (txs[i].length : ℤ) = h₀.batchSize.toInt ∨
      FailedDuring fuel h₀ (ms ++ ns) ((txs.take (i + 1)).flatten.length - 1) := by
  refine (hx.batch_eq i hi).imp id fun hf ↦ hf.append ?_ ns
  have hpos : 0 < txs[i].length :=
    List.length_pos_iff.mpr (hx.batch_le _ (List.getElem_mem hi)).1
  have htake : (txs.take (i + 1)).flatten.length = (txs.take i).flatten.length + txs[i].length := by
    rw [List.take_succ_eq_append_getElem hi, List.flatten_append, List.length_append]
    simp
  have hle : (txs.take (i + 1)).flatten.length ≤ txs.flatten.length := by
    have hsplit := congrArg (·.flatten.length) (List.take_append_drop (i + 1) txs)
    simp only [List.flatten_append, List.length_append] at hsplit
    omega
  have hms := congrArg List.length hx.in_order
  rw [List.length_append] at hms
  omega

theorem ExactlyOnce.kept {m : ATCMessage} (hx : ExactlyOnce fuel h₀ ms h txs)
    (hb : h.batchSize = h₀.batchSize) (hk : Kept h m h')
    (hne : size h'.messagesList ≠ h.batchSize) : ExactlyOnce fuel h₀ (ms ++ [m]) h' txs where
  committed_carries := by
    rw [hk.committed_eq]
    exact hx.committed_carries
  in_order := by rw [hk.messagesList_eq, ← List.append_assoc, hx.in_order]
  transaction_carries := by
    rw [MessageUtils.forall₂_carries_iff, hk.transaction_eq, hx.transaction_eq, hk.messagesList_eq,
      List.map_append, List.map_singleton]
  pending_lt := by
    have hlt := hx.pending_lt
    have hlen : h'.messagesList.length = h.messagesList.length + 1 := by simp [hk.messagesList_eq]
    rw [hb, Ne, size_eq_iff (by omega)] at hne
    omega
  batch_le := hx.batch_le
  batch_eq := hx.batch_append [m]
  sentCount_eq := by rw [hk.sentCount_eq, hx.sentCount_eq]
  publishRate_eq := by rw [hk.publishRate_eq, hx.publishRate_eq]

theorem ExactlyOnce.flushed {m : ATCMessage} (hx : ExactlyOnce fuel h₀ ms h txs)
    (hb : h.batchSize = h₀.batchSize) (ha : After fuel h₀ ms h)
    (ha' : After fuel h₀ (ms ++ [m]) h')
    (hf : Flushed { h with messagesList := h.messagesList ++ [m] } h')
    (hwhy : size (h.messagesList ++ [m]) = h.batchSize ∨
      h.publisher.failures < h'.publisher.failures) :
    ExactlyOnce fuel h₀ (ms ++ [m]) h' (txs ++ [h.messagesList ++ [m]]) := by
  have hlt := hx.pending_lt
  have hlen : (h.messagesList ++ [m]).length = h.messagesList.length + 1 := by simp
  have hB := h₀.batchSize.toInt_lt
  have hsize : (size (h.messagesList ++ [m])).toInt = (h.messagesList ++ [m]).length :=
    size_toInt (by omega)
  have hflat : (txs ++ [h.messagesList ++ [m]]).flatten = ms ++ [m] := by
    rw [List.flatten_append, List.flatten_singleton, ← List.append_assoc, hx.in_order]
  have hcount : ((txs ++ [h.messagesList ++ [m]]).flatten.length : ℤ) =
      txs.flatten.length + (h.messagesList ++ [m]).length := by simp
  refine ⟨?_, ?_, ?_, ?_, ?_, ?_, ?_, ?_⟩
  · rw [committed_carries_iff]
    simp only [hf.committed_eq, hx.committed_eq, List.map_append, List.map_cons, List.map_nil]
  · rw [hf.messagesList_eq, List.append_nil, hflat]
  · rw [hf.transaction_eq, hf.messagesList_eq]
    exact .nil
  · rw [hf.messagesList_eq]
    simp only [List.length_nil]
    omega
  · intro t ht
    rcases List.mem_append.mp ht with ht | ht
    · exact hx.batch_le t ht
    · rw [List.mem_singleton.mp ht]
      exact ⟨by simp, by omega⟩
  · intro i hi
    by_cases hold : i < txs.length
    · rw [List.getElem_append_left hold, List.take_append_of_le_length hold]
      exact hx.batch_append [m] i hold
    · have hlast : i = txs.length := by
        rw [List.length_append, List.length_singleton] at hi
        omega
      subst hlast
      rw [List.getElem_concat_length rfl, List.take_of_length_le (by simp), hflat]
      rcases hwhy with hfull | hfail
      · rw [hb, size_eq_iff (by omega)] at hfull
        exact .inl hfull
      · refine .inr ⟨h, h', ?_, ?_, hfail⟩
        · simpa using ha
        · rwa [List.take_of_length_le (by simp)]
  · rw [hf.sentCount_eq, hcount]
    simp only [AtomicInteger.addAndGet, hsize, hx.sentCount_eq]
  · rw [hf.publishRate_eq, hcount]
    simp only [Meter.mark, hsize, hx.publishRate_eq]

theorem exactly_once_run (hfresh : Fresh h₀) (hB : 0 < h₀.batchSize.toInt)
    (hfuel : h₀.publisher.faults.length < fuel) (ms : List ATCMessage) :
    ∃ h txs, After fuel h₀ ms h ∧ h.Live ∧ h.batchSize = h₀.batchSize ∧
      h.publisher.faults.length ≤ h₀.publisher.faults.length ∧ ExactlyOnce fuel h₀ ms h txs := by
  induction ms using List.reverseRecOn with
  | nil =>
    refine ⟨h₀, [], onEvents_nil fuel h₀, hfresh.live, rfl, le_rfl, ?_⟩
    refine ⟨?_, hfresh.messagesList_eq, ?_, ?_, by simp, by simp, hfresh.added_eq, hfresh.count_eq⟩
    · rw [hfresh.committed_eq]
      exact .nil
    · rw [hfresh.transaction_eq, hfresh.messagesList_eq]
      exact .nil
    · rw [hfresh.messagesList_eq]
      exact hB
  | append_singleton ms m ih =>
    obtain ⟨h, txs, ha, hl, hb, hfaults, hx⟩ := ih
    obtain ⟨h', hrun, hcase⟩ := onEvent_message hl m hx.transaction_eq (hfaults.trans_lt hfuel)
    have ha' := ha.snoc hrun
    rcases hcase with ⟨hne, hk⟩ | ⟨hf, hwhy⟩
    · exact ⟨h', txs, ha', hk.live, hk.batchSize_eq.trans hb, hk.faults_le.trans hfaults,
        hx.kept hb hk hne⟩
    · exact ⟨h', _, ha', hf.live, hf.batchSize_eq.trans hb, hf.faults_le.trans hfaults,
        hx.flushed hb ha ha' hf hwhy⟩

theorem new_fresh {B : Int32} {p : SimplePublisher} (hn : TxPublishHandler.new B p = .ok h)
    (hp : p.Ready) (ht : p.session.transaction = []) (hc : p.session.committed = []) :
    Fresh h ∧ h.batchSize = B ∧ h.publisher = p := by
  rw [TxPublishHandler.new] at hn
  split at hn
  · cases hn
  · cases hn
    exact ⟨⟨⟨hp, rfl, by simp⟩, rfl, ht, hc, rfl, rfl⟩, rfl, rfl⟩

/-- For every batch size from 1 on, every sequence of message events and every finite pattern of
failures, with no interruption: the handler returns from every event, and the invariant holds. -/
theorem exactly_once (hfresh : Fresh h₀) (hB : 1 ≤ h₀.batchSize.toInt)
    (hfuel : h₀.publisher.faults.length < fuel) (ms : List ATCMessage) :
    ∃ h txs, After fuel h₀ ms h ∧ ExactlyOnce fuel h₀ ms h txs := by
  obtain ⟨h, txs, ha, -, -, -, hx⟩ := exactly_once_run hfresh (by omega) hfuel ms
  exact ⟨h, txs, ha, hx⟩

theorem exactly_once_two_failures :
    let p : SimplePublisher := { SimplePublisher.init .queueSender { isTransactional := true } with
      faults := [.returns, .raises true, .raises true] }
    let h₀ : TxPublishHandler := { batchSize := 2, publisher := p }
    let ms : List ATCMessage := [{ text := some "a" }, { text := some "b" }, { text := some "c" }]
    ∃ h txs, After 4 h₀ ms h ∧ ExactlyOnce 4 h₀ ms h txs :=
  exactly_once ⟨⟨⟨rfl, rfl, rfl⟩, rfl, by simp⟩, rfl, rfl, rfl, rfl, rfl⟩ (by decide) (by decide) _

end TxPublishHandler

end AndesTestClient
