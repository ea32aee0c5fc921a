import AndesTestClient.ConsumerThread

namespace AndesTestClient

open Imperative

namespace ConsumerThread

/-- Every message counted as received is settled at the broker, and none has gone back to it. -/
structure AllSettled (t : ConsumerThread) : Prop where
  settled_eq : t.consumer.settled =
    (List.range t.receivedCount.added.toNat).map t.consumer.incoming
  unsettled_eq : t.consumer.unsettled = []
  redelivered_eq : t.consumer.redelivered = []

def HoldsBack (conf : SubscriberConfig) : Prop :=
  conf.enableClientAcknowledgment = false ∧ conf.isTransactional = true

variable {t t₁ t' : ConsumerThread} {config : SubscriberConfig} {limited : Bool} {k : ℕ}

theorem Consumed.settled (h : Consumed config limited t k t₁) :
    t₁.consumer.settled =
        (if t₁.consumer.mode = .transacted then [] else (List.range k).map t.consumer.incoming) ∧
      t₁.consumer.unsettled =
        (if t₁.consumer.mode = .transacted then (List.range k).map t.consumer.incoming else []) := by
  rw [← h.same.incoming_eq]
  exact ⟨h.holds.settled_eq, h.holds.unsettled_eq⟩

theorem Consumed.allSettled_iff (h : Consumed config limited t k t₁)
    (hzero : t.receivedCount.added = 0) (hcount : t'.receivedCount = t₁.receivedCount)
    (hend : t₁.consumer.Closed t'.consumer ∨ t'.consumer = t₁.consumer) :
    AllSettled t' ↔ (t₁.consumer.mode ≠ .transacted ∨ k = 0) := by
  obtain ⟨hsettled, hunsettled⟩ := h.settled
  have hk : t'.receivedCount.added.toNat = k := by
    rw [hcount, h.receivedCount_eq, hzero]
    omega
  have hincoming : t'.consumer.incoming = t.consumer.incoming := by
    rcases hend with hc | hc
    · exact hc.incoming_eq.trans h.same.incoming_eq
    · rw [hc, h.same.incoming_eq]
  have hkeep : t'.consumer.settled = t₁.consumer.settled := by
    rcases hend with hc | hc
    · exact hc.settled_eq
    · rw [hc]
  constructor
  · intro ha
    by_contra hcon
    obtain ⟨hmode, hpos⟩ : t₁.consumer.mode = .transacted ∧ k ≠ 0 := by tauto
    have hempty := ha.settled_eq
    rw [hkeep, hsettled, if_pos hmode, hk] at hempty
    have hlen := congrArg List.length hempty
    simp only [List.length_nil, List.length_map, List.length_range] at hlen
    exact hpos hlen.symm
  · intro hcase
    have hall : t₁.consumer.settled = (List.range k).map t.consumer.incoming ∧
        t₁.consumer.unsettled = [] := by
      rw [hsettled, hunsettled]
      rcases hcase with hmode | rfl
      · simp [hmode]
      · simp
    refine ⟨by rw [hkeep, hall.1, hk, hincoming], ?_, ?_⟩
    · rcases hend with hc | hc
      · exact hc.unsettled_eq
      · rw [hc, hall.2]
    · rcases hend with hc | hc
      · rw [hc.redelivered_eq, h.holds.redelivered_eq, hall.2, List.append_nil]
      · rw [hc, h.holds.redelivered_eq]

/-- For every configuration, each of the three receivers and every broker that fails nothing,
the run ends, and it has settled every message it has counted unless its session is transacted
and has received one. -/
theorem settled_iff (kind : ReceiverKind) (conf : SubscriberConfig) (incoming : ℕ → JmsMessage)
    (thread : Thread) (clock : List Int64) (hN : conf.messageCount.toInt < 2 ^ 31 - 1)
    (htext : ∀ k < conf.messageCount.toInt.toNat, ∃ text, (incoming k).body = .text text)
    {fuel : ℕ} (hfuel : conf.messageCount.toInt.toNat < fuel) :
    ∃ r t', exec (run fuel) (new kind conf incoming thread clock) = some (r, t') ∧
      (thread.Uninterrupted → 0 ≤ conf.messagesPerSecond.toInt →
        r = .ok () ∧ t'.receivedCount.added = conf.messageCount.toInt.toNat) ∧
      (AllSettled t' ↔ ¬ (HoldsBack conf ∧ 0 < conf.messageCount.toInt ∧
        0 ≤ conf.messagesPerSecond.toInt)) := by
  let t := new kind conf incoming thread clock
  by_cases hrate : 0 ≤ conf.messagesPerSecond.toInt
  case neg =>
    refine ⟨_, t, run_refused (t := t) (Int.not_le.mp hrate) fuel, fun _ h ↦ absurd h hrate, ?_⟩
    exact iff_of_true ⟨rfl, rfl, rfl⟩ fun h ↦ hrate h.2.2
  obtain ⟨t', k, t₁, hrun, hc, hcount, hend⟩ := run_consumes (t := t) hrate hN
    ⟨rfl, rfl, rfl, rfl⟩ (SimpleConsumer.subscribe_holds kind conf incoming) htext hfuel
  have hmode : t₁.consumer.mode = .transacted ↔ HoldsBack conf := by
    rw [hc.same.mode_eq]
    exact SimpleConsumer.sessionMode_transacted
  have hk : k = 0 ↔ conf.messageCount.toInt ≤ 0 := by
    have hconf : t.consumer.config = conf := rfl
    rw [hconf] at hend
    rcases hend with ⟨rfl, -⟩ | ⟨-, hpos, hle, -⟩ <;> omega
  refine ⟨.ok (), t', hrun, fun hu _ ↦ ⟨rfl, ?_⟩, ?_⟩
  · rcases hend with ⟨rfl, -⟩ | ⟨hu', -⟩
    · rw [hcount, hc.receivedCount_eq]
      exact Int.zero_add _
    · exact absurd hu hu'
  · rw [hc.allSettled_iff rfl hcount (hend.imp (·.2.1) (·.2.2.2)), Ne, hmode, hk]
    constructor
    · intro h hall
      rcases h with h | h
      · exact h hall.1
      · exact Int.not_lt.mpr h hall.2.1
    · intro h
      by_cases hholds : HoldsBack conf
      · exact .inr (Int.not_lt.mp fun hpos ↦ h ⟨hholds, hpos, hrate⟩)
      · exact .inl hholds

/-- One message on a transacted session: it is counted, and goes back to the broker. -/
theorem transacted_redelivers :
    let conf : SubscriberConfig := { isTransactional := true, messageCount := 1 }
    let m : JmsMessage := { body := .text (some "a") }
    ∃ t', exec (run 2) (new .queueReceiver conf (fun _ ↦ m) {} []) = some (.ok (), t') ∧
      t'.receivedCount.added = 1 ∧ t'.consumer.settled = [] ∧ t'.consumer.redelivered = [m] ∧
      ¬ AllSettled t' := by
  refine ⟨_, rfl, rfl, rfl, rfl, fun h ↦ ?_⟩
  exact absurd h.redelivered_eq (List.cons_ne_nil _ _)

theorem settled_iff_transacted :
    let conf : SubscriberConfig := { isTransactional := true, messageCount := 1 }
    ∃ r t', exec (run 2) (new .queueReceiver conf (fun _ ↦ { body := .text (some "a") }) {} []) =
        some (r, t') ∧
      (({} : Thread).Uninterrupted → 0 ≤ conf.messagesPerSecond.toInt →
        r = .ok () ∧ t'.receivedCount.added = conf.messageCount.toInt.toNat) ∧
      (AllSettled t' ↔ ¬ (HoldsBack conf ∧ 0 < conf.messageCount.toInt ∧
        0 ≤ conf.messagesPerSecond.toInt)) :=
  settled_iff _ _ _ _ _ (by decide) (fun _ _ ↦ ⟨_, rfl⟩) (by decide)

end ConsumerThread

end AndesTestClient
