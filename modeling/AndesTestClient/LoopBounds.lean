import AndesTestClient.ConsumerThread
import AndesTestClient.PublisherThread

namespace AndesTestClient

open Imperative

def oneTo (n : ℕ) : List ℤ := (List.range n).map fun k : ℕ ↦ (k : ℤ) + 1

def Honours {σ : Type} (code : ℕ → Java σ Unit) (iterations : σ → List ℤ) (messageCount : Int64)
    (s : σ) : Prop :=
  ∃ fuel s', exec (code fuel) s = some (.ok (), s') ∧
    iterations s' = oneTo messageCount.toInt.toNat

theorem not_honours {σ : Type} {code : ℕ → Java σ Unit} {s : σ} (h : ∀ fuel, exec (code fuel) s = none)
    (iterations : σ → List ℤ) (messageCount : Int64) : ¬ Honours code iterations messageCount s := by
  intro hhonours
  obtain ⟨fuel, s', hrun, -⟩ := hhonours
  rw [h fuel] at hrun
  cases hrun

theorem filterMap_passes {α : Type} {pass : ℕ → List α} {mark : α → Option ℤ} {n : ℕ}
    (hn : n < 2 ^ 31) (hpass : ∀ k, (pass k).filterMap mark = [(Int32.ofNat (k + 1)).toInt]) :
    ((List.range n).flatMap pass).filterMap mark = oneTo n := by
  induction n with
  | zero => rfl
  | succ n ih =>
    rw [List.range_succ, List.flatMap_append, List.flatMap_singleton, List.filterMap_append,
      ih (by omega), hpass, toInt_ofNat hn, oneTo, oneTo, List.range_succ, List.map_append]
    rfl

namespace PublisherThread

def iterations (t : PublisherThread) : List ℤ :=
  t.trace.filterMap fun
    | .iteration i => some i.toInt
    | _ => none

variable {t : PublisherThread}

theorem publish_honours_iff (hc : Calm t) (htrace : t.trace = [])
    (hrate : 0 ≤ t.publisher.config.messagesPerSecond.toInt) :
    Honours publish iterations t.publisher.config.messageCount t ↔
      t.publisher.config.messageCount.toInt < 2 ^ 31 - 1 := by
  constructor
  · intro h
    by_contra hN
    exact not_honours (publish_diverges hc hrate (Int.not_lt.mp hN)) _ _ h
  · intro hN
    obtain ⟨t', hrun, ht', -⟩ := publish_calm hc hrate hN (Nat.lt_succ_self _)
    refine ⟨_, t', hrun, ?_⟩
    rw [iterations, ht', htrace, List.nil_append, List.filterMap_append, passes,
      filterMap_passes (by omega)]
    · exact List.append_nil _
    · intro k
      unfold publishPass
      split_ifs <;> rfl

theorem transactionalPublish_honours_iff (hc : Calm t) (htrace : t.trace = [])
    (hbatch : 0 ≤ t.publisher.config.transactionBatchSize.toInt)
    (hrate : 0 ≤ t.publisher.config.messagesPerSecond.toInt) :
    Honours transactionalPublish iterations t.publisher.config.messageCount t ↔
      t.publisher.config.messageCount.toInt < 2 ^ 31 - 1 := by
  constructor
  · intro h
    by_contra hN
    exact not_honours (transactionalPublish_diverges hc hbatch hrate (Int.not_lt.mp hN)) _ _ h
  · intro hN
    obtain ⟨t', hrun, ht'⟩ := transactionalPublish_calm hc hbatch hrate hN (Nat.lt_succ_self _)
    refine ⟨_, t', hrun, ?_⟩
    rw [iterations, ht', htrace, List.nil_append, List.filterMap_append, passes,
      filterMap_passes (by omega)]
    · exact List.append_nil _
    · intro k
      unfold transactionalPass
      split_ifs <;> rfl

end PublisherThread

namespace ConsumerThread

def iterations (t : ConsumerThread) : List ℤ :=
  t.trace.filterMap fun
    | .iteration i => some i.toInt
    | _ => none

structure Calm (t : ConsumerThread) : Prop where
  sound : t.consumer.Sound
  text : ∀ k, ∃ text, (t.consumer.incoming k).body = .text text
  uninterrupted : t.thread.Uninterrupted

variable {t : ConsumerThread}

theorem run_diverges (hc : Calm t) (hrate : 0 ≤ t.consumer.config.messagesPerSecond.toInt)
    (hN : 2 ^ 31 - 1 ≤ t.consumer.config.messageCount.toInt) (fuel : ℕ) :
    exec (run fuel) t = none := by
  have hloop := countedLoop_diverges
    (consumeBody t.consumer.config (t.consumer.config.messagesPerSecond ≠ 0)) Calm hN
    (fun i t₁ hc₁ ↦ by
      obtain ⟨text, htext⟩ := hc₁.text t₁.consumer.received
      obtain ⟨r, t₂, hrun, htook, -, hr⟩ := consumeBody_takes hc₁.sound i htext
      obtain ⟨rfl, hu⟩ := hr hc₁.uninterrupted
      refine ⟨t₂, hrun, ?_, ?_, hu⟩
      · rw [htook.consumer_eq]
        exact SimpleConsumer.afterReceive_sound hc₁.sound
      · rw [htook.consumer_eq, t₁.consumer.afterReceive_same.incoming_eq]
        exact hc₁.text) fuel 1 hc
  rw [run_eq hrate, exec_tryCatch, exec_bind, hloop]
  rfl

theorem run_honours_iff (hc : Calm t) (hh : t.consumer.Holds 0) (htrace : t.trace = [])
    (hrate : 0 ≤ t.consumer.config.messagesPerSecond.toInt) :
    Honours run iterations t.consumer.config.messageCount t ↔
      t.consumer.config.messageCount.toInt < 2 ^ 31 - 1 := by
  constructor
  · intro h
    by_contra hN
    exact not_honours (run_diverges hc hrate (Int.not_lt.mp hN)) _ _ h
  · intro hN
    obtain ⟨t', k, t₁, hrun, hcons, -, ⟨rfl, -, ht'⟩ | ⟨hu, -⟩⟩ :=
      run_consumes hrate hN hc.sound hh (fun k _ ↦ hc.text k) (Nat.lt_succ_self _)
    · refine ⟨_, t', hrun, ?_⟩
      rw [iterations, ht', hcons.trace_eq, htrace, List.nil_append, List.filterMap_append, passes,
        filterMap_passes (by omega)]
      · unfold finishSteps
        split_ifs <;> exact List.append_nil _
      · intro k
        unfold pass
        split_ifs <;> rfl
    · exact absurd hc.uninterrupted hu

end ConsumerThread

structure PublisherThread.Prepared (N : Int64) (t : PublisherThread) : Prop where
  calm : t.Calm
  trace_eq : t.trace = []
  messageCount_eq : t.publisher.config.messageCount = N
  messagesPerSecond_nonneg : 0 ≤ t.publisher.config.messagesPerSecond.toInt

structure ConsumerThread.Prepared (N : Int64) (t : ConsumerThread) : Prop where
  calm : t.Calm
  holds : t.consumer.Holds 0
  trace_eq : t.trace = []
  messageCount_eq : t.consumer.config.messageCount = N
  messagesPerSecond_nonneg : 0 ≤ t.consumer.config.messagesPerSecond.toInt

/-- Each of the three loops ends after the passes 1 to `N` if and only if `N` is below the
largest 32-bit integer. -/
theorem loops_honour_iff {N : Int64} {p : PublisherThread} {c : ConsumerThread}
    (hp : p.Prepared N) (hc : c.Prepared N) :
    (Honours PublisherThread.publish PublisherThread.iterations N p ↔ N.toInt < 2 ^ 31 - 1) ∧
    (0 ≤ p.publisher.config.transactionBatchSize.toInt →
      (Honours PublisherThread.transactionalPublish PublisherThread.iterations N p ↔
        N.toInt < 2 ^ 31 - 1)) ∧
    (Honours ConsumerThread.run ConsumerThread.iterations N c ↔ N.toInt < 2 ^ 31 - 1) := by
  refine ⟨?_, fun hbatch ↦ ?_, ?_⟩
  · rw [← hp.messageCount_eq]
    exact PublisherThread.publish_honours_iff hp.calm hp.trace_eq hp.messagesPerSecond_nonneg
  · rw [← hp.messageCount_eq]
    exact PublisherThread.transactionalPublish_honours_iff hp.calm hp.trace_eq hbatch
      hp.messagesPerSecond_nonneg
  · rw [← hc.messageCount_eq]
    exact ConsumerThread.run_honours_iff hc.calm hc.holds hc.trace_eq hc.messagesPerSecond_nonneg

def newPublisherThread (N : Int64) : PublisherThread :=
  { publisher := .init .queueSender { messageCount := N } }

def newConsumerThread (N : Int64) : ConsumerThread :=
  .new .queueReceiver { messageCount := N } (fun _ ↦ { body := .text (some "a") }) {} []

theorem newPublisherThread_calm (N : Int64) : (newPublisherThread N).Calm :=
  ⟨rfl, rfl, rfl, rfl, rfl, rfl, by simp [newPublisherThread]⟩

theorem newConsumerThread_calm (N : Int64) : (newConsumerThread N).Calm :=
  ⟨⟨rfl, rfl, rfl, rfl⟩, fun _ ↦ ⟨_, rfl⟩, rfl, by simp [newConsumerThread, ConsumerThread.new]⟩

theorem loops_honour_iff_three :
    (Honours PublisherThread.publish PublisherThread.iterations 3 (newPublisherThread 3) ↔
      Int64.toInt 3 < 2 ^ 31 - 1) ∧
    (0 ≤ (newPublisherThread 3).publisher.config.transactionBatchSize.toInt →
      (Honours PublisherThread.transactionalPublish PublisherThread.iterations 3
        (newPublisherThread 3) ↔ Int64.toInt 3 < 2 ^ 31 - 1)) ∧
    (Honours ConsumerThread.run ConsumerThread.iterations 3 (newConsumerThread 3) ↔
      Int64.toInt 3 < 2 ^ 31 - 1) :=
  loops_honour_iff ⟨newPublisherThread_calm 3, rfl, rfl, by decide⟩
    ⟨newConsumerThread_calm 3, SimpleConsumer.subscribe_holds _ _ _, rfl, rfl, by decide⟩

/-- At the largest 32-bit integer none of the three loops ends. -/
theorem loops_diverge_at_maxInt :
    ¬ Honours PublisherThread.publish PublisherThread.iterations 2147483647
      (newPublisherThread 2147483647) ∧
    ¬ Honours PublisherThread.transactionalPublish PublisherThread.iterations 2147483647
      (newPublisherThread 2147483647) ∧
    ¬ Honours ConsumerThread.run ConsumerThread.iterations 2147483647
      (newConsumerThread 2147483647) := by
  refine ⟨not_honours (fun fuel ↦ ?_) _ _, not_honours (fun fuel ↦ ?_) _ _,
    not_honours (fun fuel ↦ ?_) _ _⟩
  · exact PublisherThread.publish_diverges (newPublisherThread_calm _) (by decide) (by decide) fuel
  · exact PublisherThread.transactionalPublish_diverges (newPublisherThread_calm _) (by decide)
      (by decide) (by decide) fuel
  · exact ConsumerThread.run_diverges (newConsumerThread_calm _) (by decide) (by decide) fuel

end AndesTestClient
