import AndesTestClient.PublisherThread
import Mathlib.Data.List.Induction
import Mathlib.Algebra.Order.Ring.Int

namespace AndesTestClient

open Imperative

namespace PublisherThread

def handedOver (steps : List PublisherStep) : List PublishEvent :=
  steps.filterMap fun
    | .publish event => some event
    | _ => none

def published (t : PublisherThread) : List PublishEvent := handedOver t.trace

theorem handedOver_append (steps steps' : List PublisherStep) :
    handedOver (steps ++ steps') = handedOver steps ++ handedOver steps' := List.filterMap_append

theorem handedOver_transactionalPass (config : PublisherConfig) (limited : Bool) (i : Int32) :
    handedOver (transactionalPass config limited i) = [.ofMessage (transactionalMessage config i)] := by
  cases limited <;> rfl

def transactionalMessages (config : PublisherConfig) (n : ℕ) : List ATCMessage :=
  (List.range n).map fun k ↦ transactionalMessage config (Int32.ofNat (k + 1))

theorem transactionalPublish_published {t : PublisherThread} {fuel : ℕ} (htrace : t.trace = [])
    (hbatch : 0 ≤ t.publisher.config.transactionBatchSize.toInt)
    (hrate : 0 ≤ t.publisher.config.messagesPerSecond.toInt)
    (hN : t.publisher.config.messageCount.toInt < 2 ^ 31 - 1)
    (hfuel : t.publisher.config.messageCount.toInt.toNat + t.publisher.createFaults.length < fuel) :
    ∃ t', exec (transactionalPublish fuel) t = some (.ok (), t') ∧
      t'.published = (transactionalMessages t.publisher.config
        t.publisher.config.messageCount.toInt.toNat).map .ofMessage ++ [.close] := by
  obtain ⟨t', hrun, ht'⟩ := transactionalPublish_collects handedOver
    (fun i ↦ .ofMessage (transactionalMessage t.publisher.config i)) handedOver_append
    (handedOver_transactionalPass _) (fun _ ↦ rfl) hbatch hrate hN hfuel
  refine ⟨t', hrun, ?_⟩
  rw [published, ht', htrace, transactionalMessages, List.map_map]
  rfl

end PublisherThread

namespace TxPublishHandler

/-- What the handler holds after `ms` when no call has raised: the batches filled so far are
visible, the rest is pending. A batch size of zero fills no batch. -/
structure Batched (B : ℕ) (ms : List ATCMessage) (h : TxPublishHandler) : Prop where
  ready : h.publisher.Ready
  faults_eq : h.publisher.faults = []
  closeFaults_eq : h.publisher.closeFaults = []
  batchSize_eq : h.batchSize.toInt = B
  messagesList_eq : h.messagesList = ms.drop (ms.length - ms.length % B)
  transaction_eq : h.publisher.session.transaction = h.messagesList.map MessageUtils.fromATCToJMS
  committed_eq : h.publisher.session.committed.flatten =
    (ms.take (ms.length - ms.length % B)).map MessageUtils.fromATCToJMS

variable {h : TxPublishHandler} {B : ℕ} {ms : List ATCMessage} {fuel : ℕ}

theorem Batched.pending_length (hb : Batched B ms h) : h.messagesList.length = ms.length % B := by
  have hle := Nat.mod_le ms.length B
  rw [hb.messagesList_eq, List.length_drop]
  omega

theorem size_eq_batchSize_iff (hB : h.batchSize.toInt = B) {l : List ATCMessage}
    (hl : l.length < 2 ^ 31) : size l = h.batchSize ↔ l.length = B := by
  rw [← Int32.toInt_inj, size_toInt hl, hB, Nat.cast_inj]

theorem mod_succ (k B : ℕ) : (k + 1) % B = if k % B + 1 = B then 0 else k % B + 1 := by
  rw [← Nat.mod_add_mod]
  split_ifs with hfull
  · rw [hfull, Nat.mod_self]
  · rcases Nat.eq_zero_or_pos B with rfl | hB
    · rw [Nat.mod_zero]
    · have hlt := Nat.mod_lt k hB
      exact Nat.mod_eq_of_lt (by omega)

theorem Batched.message (hb : Batched B ms h) (fuel : ℕ) (m : ATCMessage) (hlen : ms.length + 1 < 2 ^ 31) :
    ∃ h', exec (onEvent fuel (.ofMessage m)) h = some (.ok (), h') ∧ Batched B (ms ++ [m]) h' := by
  have hle := Nat.mod_le ms.length B
  have hpending := hb.pending_length
  have hlen' : (ms ++ [m]).length = ms.length + 1 := by simp
  have hsent : h.publisher.session.send (MessageUtils.fromATCToJMS m) = { h.publisher.session with
      transaction := (h.messagesList ++ [m]).map MessageUtils.fromATCToJMS } := by
    rw [Session.send, if_pos hb.ready.transacted, hb.transaction_eq, List.map_append, List.map_singleton]
  have hsize : size (h.messagesList ++ [m]) = h.batchSize ↔ ms.length % B + 1 = B := by
    rw [size_eq_batchSize_iff hb.batchSize_eq (by simp [hpending]; omega)]
    simp [hpending]
  have hrun := onEvent_calm hb.ready hb.faults_eq fuel m
  rw [hsent] at hrun
  refine ⟨_, hrun, ?_⟩
  by_cases hfull : ms.length % B + 1 = B
  · have hmod : (ms ++ [m]).length - (ms ++ [m]).length % B = (ms ++ [m]).length := by
      rw [hlen', mod_succ, if_pos hfull, Nat.sub_zero]
    rw [if_pos (hsize.mpr hfull)]
    refine ⟨⟨hb.ready.sender, hb.ready.session, hb.ready.transacted⟩, hb.faults_eq,
      hb.closeFaults_eq, hb.batchSize_eq, ?_, rfl, ?_⟩
    · rw [hmod, List.drop_length]
    · simp only [Session.commit, List.flatten_append, List.flatten_singleton]
      rw [hmod, List.take_length, hb.committed_eq, hb.messagesList_eq, ← List.map_append,
        ← List.append_assoc, List.take_append_drop]
  · have hmod : (ms ++ [m]).length - (ms ++ [m]).length % B = ms.length - ms.length % B := by
      rw [hlen', mod_succ, if_neg hfull]
      omega
    rw [if_neg (mt hsize.mp hfull)]
    refine ⟨⟨hb.ready.sender, hb.ready.session, hb.ready.transacted⟩, hb.faults_eq,
      hb.closeFaults_eq, hb.batchSize_eq, ?_, rfl, ?_⟩
    · rw [hmod, List.drop_append_of_le_length (by omega), ← hb.messagesList_eq]
    · rw [hmod, List.take_append_of_le_length (by omega)]
      exact hb.committed_eq

theorem batched_run (fuel : ℕ) (hb : Batched B [] h) (ms : List ATCMessage) (hlen : ms.length < 2 ^ 31) :
    ∃ h', exec (onEvents fuel (ms.map .ofMessage)) h = some (.ok (), h') ∧ Batched B ms h' := by
  induction ms using List.reverseRecOn with
  | nil => exact ⟨h, onEvents_nil fuel h, hb⟩
  | append_singleton ms m ih =>
    rw [List.length_append, List.length_singleton] at hlen
    obtain ⟨h₁, hrun, hb₁⟩ := ih (by omega)
    obtain ⟨h₂, hevent, hb₂⟩ := hb₁.message fuel m hlen
    exact ⟨h₂, by rw [List.map_append]; exact onEvents_snoc hrun hevent, hb₂⟩

/-- The close event commits nothing: a batch that is not full is discarded with its session. -/
theorem Batched.close (hb : Batched B ms h) (fuel : ℕ) (hlen : ms.length < 2 ^ 31) :
    ∃ h', exec (onEvent fuel .close) h = some (.ok (), h') ∧
      h'.publisher.sessionOpen = false ∧ h'.publisher.connectionOpen = false ∧
      h'.publisher.session.transaction = [] ∧
      h'.publisher.session.committed.flatten =
        (ms.take (ms.length - ms.length % B)).map MessageUtils.fromATCToJMS := by
  have hcommit := exec_commitFullBatch hb.ready hb.faults_eq
  have hpending := hb.pending_length
  have hle := Nat.mod_le ms.length B
  -- A list as long as the batch has been committed before, so only the empty one can match.
  have hempty : size h.messagesList = h.batchSize → h.messagesList = [] := by
    rw [size_eq_batchSize_iff hb.batchSize_eq (by omega), hpending]
    intro hfull
    rcases Nat.eq_zero_or_pos B with hB | hB
    · exact List.length_eq_zero_iff.mp (by rw [hpending, hfull, hB])
    · have hlt := Nat.mod_lt ms.length hB
      omega
  split_ifs at hcommit with hsize
  · have htx : h.publisher.session.transaction = [] := by
      rw [hb.transaction_eq, hempty hsize, List.map_nil]
    obtain ⟨q, hclose, hq, hqclosed, hqt, hqc⟩ := SimplePublisher.exec_close
      (p := { h.publisher with session := h.publisher.session.commit }) hb.closeFaults_eq
    refine ⟨_, exec_tryCatch_ok ((congrArg (exec · h) tryEvent_close).trans
      ((exec_bind_ok hcommit).trans (exec_onPublisher hclose))), hq, hqclosed, hqt, ?_⟩
    rw [← hb.committed_eq]
    simp only [hqc, Session.commit, htx, List.flatten_append, List.flatten_singleton,
        List.append_nil]
  · obtain ⟨q, hclose, hq, hqclosed, hqt, hqc⟩ := SimplePublisher.exec_close hb.closeFaults_eq
    refine ⟨_, exec_tryCatch_ok ((congrArg (exec · h) tryEvent_close).trans
      ((exec_bind_ok hcommit).trans (exec_onPublisher hclose))), hq, hqclosed, hqt, ?_⟩
    rw [← hb.committed_eq]
    exact congrArg List.flatten hqc

theorem events_calm (kind : PublisherKind) {conf : PublisherConfig} (htx : conf.isTransactional = true)
    (hbatch : 0 ≤ conf.transactionBatchSize.toInt) (fuel : ℕ) (hlen : ms.length < 2 ^ 31) :
    ∃ h, exec (onEvents fuel (ms.map .ofMessage ++ [.close]))
        { batchSize := conf.transactionBatchSize, publisher := .init kind conf } = some (.ok (), h) ∧
      h.publisher.sessionOpen = false ∧ h.publisher.connectionOpen = false ∧
      h.publisher.session.committed.flatten =
        (ms.take (ms.length - ms.length % conf.transactionBatchSize.toInt.toNat)).map
          MessageUtils.fromATCToJMS := by
  have hb : Batched conf.transactionBatchSize.toInt.toNat []
      { batchSize := conf.transactionBatchSize, publisher := .init kind conf } :=
    ⟨⟨rfl, rfl, htx⟩, rfl, rfl, (Int.toNat_of_nonneg hbatch).symm, rfl, rfl, rfl⟩
  obtain ⟨h₁, hmessages, hb₁⟩ := batched_run fuel hb ms hlen
  obtain ⟨h, hclose, hsession, hconnection, -, hcommitted⟩ := hb₁.close fuel hlen
  exact ⟨h, onEvents_snoc hmessages hclose, hsession, hconnection, hcommitted⟩

/-- A run that nothing disturbs hands every message over, and the broker shows all of them at its
end exactly when the batch size divides their number. -/
theorem committed_iff (kind : PublisherKind) (conf : PublisherConfig)
    (htx : conf.isTransactional = true) (hbatch : 0 ≤ conf.transactionBatchSize.toInt)
    (hrate : 0 ≤ conf.messagesPerSecond.toInt) (hN₀ : 0 ≤ conf.messageCount.toInt)
    (hN : conf.messageCount.toInt < 2 ^ 31 - 1) {fuel : ℕ}
    (hfuel : conf.messageCount.toInt.toNat < fuel) :
    ∃ t' h₀ h,
      exec (PublisherThread.run fuel) { publisher := .init kind conf } = some (.ok (), t') ∧
      t'.published = (PublisherThread.transactionalMessages conf
        conf.messageCount.toInt.toNat).map .ofMessage ++ [.close] ∧
      TxPublishHandler.new conf.transactionBatchSize (.init kind conf) = .ok h₀ ∧
      exec (onEvents fuel t'.published) h₀ = some (.ok (), h) ∧
      h.publisher.sessionOpen = false ∧
      (List.Forall₂ MessageUtils.Carries
          (PublisherThread.transactionalMessages conf conf.messageCount.toInt.toNat)
          h.publisher.session.committed.flatten ↔
        conf.transactionBatchSize.toInt ∣ conf.messageCount.toInt) := by
  let t : PublisherThread := { publisher := .init kind conf }
  let n := conf.messageCount.toInt.toNat
  let B := conf.transactionBatchSize.toInt.toNat
  let ms := PublisherThread.transactionalMessages conf n
  have hms : ms.length = n := by simp [ms, PublisherThread.transactionalMessages]
  have hlen : ms.length < 2 ^ 31 := by omega
  obtain ⟨t', hrun, hpub⟩ :=
    PublisherThread.transactionalPublish_published (t := t) rfl hbatch hrate hN hfuel
  let h₀ : TxPublishHandler :=
    { batchSize := conf.transactionBatchSize, publisher := .init kind conf }
  have hnew : TxPublishHandler.new conf.transactionBatchSize (.init kind conf) = .ok h₀ :=
    new_ok hbatch
  obtain ⟨h, hevents, hopen, -, hcommitted⟩ := events_calm kind htx hbatch fuel hlen
  change _ = (ms.take (ms.length - ms.length % B)).map _ at hcommitted
  refine ⟨t', h₀, h, (PublisherThread.run_transactional htx fuel).trans hrun, hpub, hnew, ?_, hopen, ?_⟩
  · rw [hpub]
    exact hevents
  · have hdvd : conf.transactionBatchSize.toInt ∣ conf.messageCount.toInt ↔ n % B = 0 := by
      rw [← Int.toNat_of_nonneg hbatch, ← Int.toNat_of_nonneg hN₀, Int.natCast_dvd_natCast]
      exact Nat.dvd_iff_mod_eq_zero
    rw [hdvd, MessageUtils.forall₂_carries_iff, hcommitted, ← hms]
    have hle := Nat.mod_le ms.length B
    constructor
    · intro heq
      have hcount := congrArg List.length heq
      change ((ms.take _).map _).length = (ms.map _).length at hcount
      rw [List.length_map, List.length_map, List.length_take] at hcount
      omega
    · intro hmod
      rw [hmod, Nat.sub_zero, List.take_length]

theorem committed_iff_three_in_twos :
    let conf : PublisherConfig :=
      { isTransactional := true, transactionBatchSize := 2, messageCount := 3 }
    ∃ t' h₀ h,
      exec (PublisherThread.run 4) { publisher := .init .queueSender conf } = some (.ok (), t') ∧
      t'.published = (PublisherThread.transactionalMessages conf
        conf.messageCount.toInt.toNat).map .ofMessage ++ [.close] ∧
      TxPublishHandler.new conf.transactionBatchSize (.init .queueSender conf) = .ok h₀ ∧
      exec (onEvents 4 t'.published) h₀ = some (.ok (), h) ∧
      h.publisher.sessionOpen = false ∧
      (List.Forall₂ MessageUtils.Carries
          (PublisherThread.transactionalMessages conf conf.messageCount.toInt.toNat)
          h.publisher.session.committed.flatten ↔
        conf.transactionBatchSize.toInt ∣ conf.messageCount.toInt) :=
  committed_iff .queueSender _ rfl (by decide) (by decide) (by decide) (by decide) (by decide)

/-- Three messages in batches of two: the third is sent, and discarded when the session closes. -/
theorem tail_is_lost :
    let conf : PublisherConfig :=
      { isTransactional := true, transactionBatchSize := 2, messageCount := 3 }
    ∃ t' h₀ h,
      exec (PublisherThread.run 4) { publisher := .init .queueSender conf } = some (.ok (), t') ∧
      TxPublishHandler.new 2 (.init .queueSender conf) = .ok h₀ ∧
      exec (onEvents 4 t'.published) h₀ = some (.ok (), h) ∧
      h.publisher.sessionOpen = false ∧
      List.Forall₂ MessageUtils.Carries (PublisherThread.transactionalMessages conf 2)
        h.publisher.session.committed.flatten ∧
      ¬ List.Forall₂ MessageUtils.Carries (PublisherThread.transactionalMessages conf 3)
        h.publisher.session.committed.flatten := by
  refine ⟨_, _, _, rfl, rfl, rfl, rfl, MessageUtils.forall₂_carries_iff.mpr rfl, fun h ↦ ?_⟩
  exact absurd h.length_eq (by decide)

end TxPublishHandler

end AndesTestClient
