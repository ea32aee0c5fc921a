import AndesTestClient.PublisherThread

namespace AndesTestClient

open Imperative

namespace PublisherThread

/-- The steps that set the pace: a permit taken, a message handed on, a wait between messages. -/
inductive PacingStep
  | acquire
  | handOver
  | wait (milliseconds : Int32)
deriving DecidableEq, Repr

def pacing (trace : List PublisherStep) : List PacingStep :=
  trace.filterMap fun
    | .acquire => some .acquire
    | .send _ => some .handOver
    | .publish event => if event.type = some .MessageEvent then some .handOver else none
    | .wait milliseconds => some (.wait milliseconds)
    | _ => none

@[simp] theorem pacing_append (steps steps' : List PublisherStep) :
    pacing (steps ++ steps') = pacing steps ++ pacing steps' := List.filterMap_append

def transactionalPacing (limited : Bool) : List PacingStep :=
  (if limited then [.acquire] else []) ++ [.handOver]

def publishPacing (config : PublisherConfig) (limited : Bool) : List PacingStep :=
  transactionalPacing limited ++
    (if 0 < config.delayBetweenMsgs then [.wait config.delayBetweenMsgs] else [])

theorem pacing_publishPass (config : PublisherConfig) (limited : Bool) (i : Int32) :
    pacing (publishPass config limited i) = publishPacing config limited := by
  cases limited <;> by_cases hdelay : 0 < config.delayBetweenMsgs <;>
    simp [pacing, publishPass, publishPacing, transactionalPacing, hdelay]

theorem pacing_transactionalPass (config : PublisherConfig) (limited : Bool) (i : Int32) :
    pacing (transactionalPass config limited i) = transactionalPacing limited := by
  cases limited <;> simp [pacing, transactionalPass, transactionalPacing, PublishEvent.ofMessage]

theorem pacing_passes {pass : Int32 → List PublisherStep} {block : List PacingStep}
    (hpass : ∀ i, pacing (pass i) = block) (n : ℕ) :
    pacing (passes pass n) = (List.replicate n block).flatten := by
  induction n with
  | zero => rfl
  | succ n ih =>
    rw [passes_succ, pacing_append, ih, hpass, List.replicate_succ', List.flatten_append,
      List.flatten_singleton]

theorem replicate_flatten_eq_iff (config : PublisherConfig) (limited : Bool) (n : ℕ) :
    (List.replicate n (publishPacing config limited)).flatten =
        (List.replicate n (transactionalPacing limited)).flatten ↔
      n = 0 ∨ config.delayBetweenMsgs ≤ 0 := by
  constructor
  · intro h
    by_contra! hn
    have hdelay : 0 < config.delayBetweenMsgs := Int32.not_le.mp hn.2
    have hlength := congrArg List.length h
    simp only [List.length_flatten, List.map_replicate, List.sum_replicate_nat] at hlength
    have hblock := Nat.eq_of_mul_eq_mul_left (Nat.pos_of_ne_zero hn.1) hlength
    rw [publishPacing, if_pos hdelay, List.length_append, List.length_singleton] at hblock
    omega
  · intro h
    rcases h with rfl | hdelay
    · rfl
    · rw [publishPacing, if_neg (Int32.not_lt.mpr hdelay), List.append_nil]

theorem replicate_flatten_nil_iff (config : PublisherConfig) (limited : Bool) (n : ℕ) :
    (List.replicate n (publishPacing config limited)).flatten = pacing [] ↔ n = 0 := by
  constructor
  · intro h
    by_contra hn
    have hmem := List.flatten_eq_nil_iff.mp h _ (List.mem_replicate.mpr ⟨hn, rfl⟩)
    simp [publishPacing, transactionalPacing] at hmem
  · rintro rfl
    rfl

variable {t t' : PublisherThread} {fuel : ℕ}

/-- Two runs of one configuration, one in each mode, in which nothing fails: they pace their
messages alike exactly when there are none, or when there is no delay to forget and the
transactional loop is entered at all. -/
theorem pacing_eq_iff (c : PublisherConfig) (hc : Calm t) (hc' : Calm t')
    (hplain : t.publisher.config = { c with isTransactional := false })
    (htransactional : t'.publisher.config = { c with isTransactional := true })
    (ht : t.trace = []) (ht' : t'.trace = []) (hrate : 0 ≤ c.messagesPerSecond.toInt)
    (hN : c.messageCount.toInt < 2 ^ 31 - 1) (hfuel : c.messageCount.toInt.toNat < fuel) :
    ∃ r u r' u', exec (run fuel) t = some (r, u) ∧ exec (run fuel) t' = some (r', u') ∧
      (pacing u.trace = pacing u'.trace ↔ c.messageCount.toInt ≤ 0 ∨
        (c.delayBetweenMsgs ≤ 0 ∧ 0 ≤ c.transactionBatchSize.toInt)) := by
  let limited : Bool := decide (c.messagesPerSecond ≠ 0)
  have hrun : exec (run fuel) t = exec (publish fuel) t := run_plain (by rw [hplain]) fuel
  have hrun' : exec (run fuel) t' = exec (transactionalPublish fuel) t' :=
    run_transactional (by rw [htransactional]) fuel
  obtain ⟨u, hu, htrace, -⟩ := publish_calm hc (by rwa [hplain]) (by rwa [hplain])
    (by rw [hplain]; exact hfuel)
  rw [hplain, ht, List.nil_append] at htrace
  have hpaced : pacing u.trace =
      (List.replicate c.messageCount.toInt.toNat (publishPacing c limited)).flatten := by
    rw [htrace, pacing_append, pacing_passes (pacing_publishPass _ _)]
    exact List.append_nil _
  by_cases hbatch : 0 ≤ c.transactionBatchSize.toInt
  case neg =>
    refine ⟨_, u, _, t', hrun.trans hu, hrun'.trans (transactionalPublish_refused (.inl ?_) fuel), ?_⟩
    · rw [htransactional]
      exact Int.not_le.mp hbatch
    · rw [hpaced, ht', replicate_flatten_nil_iff]
      omega
  obtain ⟨u', hu', htrace'⟩ := transactionalPublish_calm hc' (by rwa [htransactional])
    (by rwa [htransactional]) (by rwa [htransactional]) (by rw [htransactional]; exact hfuel)
  rw [htransactional, ht', List.nil_append] at htrace'
  have hpaced' : pacing u'.trace =
      (List.replicate c.messageCount.toInt.toNat (transactionalPacing limited)).flatten := by
    rw [htrace', pacing_append, pacing_passes (pacing_transactionalPass _ _)]
    exact List.append_nil _
  refine ⟨_, u, _, u', hrun.trans hu, hrun'.trans hu', ?_⟩
  rw [hpaced, hpaced', replicate_flatten_eq_iff, Int.toNat_eq_zero]
  constructor
  · intro h
    exact h.imp_right fun hdelay ↦ ⟨hdelay, hbatch⟩
  · intro h
    exact h.imp_right And.left

def startedOn (c : PublisherConfig) : PublisherThread := { publisher := .init .queueSender c }

theorem startedOn_calm (c : PublisherConfig) : Calm (startedOn c) :=
  ⟨rfl, rfl, rfl, rfl, rfl, rfl, by simp [startedOn]⟩

theorem pacing_eq_iff_limited :
    let c : PublisherConfig := { messageCount := 2, messagesPerSecond := 7 }
    ∃ r u r' u',
      exec (run 3) (startedOn { c with isTransactional := false }) = some (r, u) ∧
      exec (run 3) (startedOn { c with isTransactional := true }) = some (r', u') ∧
      (pacing u.trace = pacing u'.trace ↔ (2 : Int64).toInt ≤ 0 ∨
        ((0 : Int32) ≤ 0 ∧ 0 ≤ (0 : Int32).toInt)) :=
  pacing_eq_iff { messageCount := 2, messagesPerSecond := 7 } (startedOn_calm _) (startedOn_calm _)
    rfl rfl rfl rfl (by decide) (by decide) (by decide)

theorem delay_is_forgotten :
    let c : PublisherConfig := { messageCount := 1, delayBetweenMsgs := 5 }
    let paced : PublisherThread → Option (List PacingStep) :=
      fun t ↦ (exec (run 2) t).map fun x ↦ pacing x.2.trace
    paced (startedOn c) = some [.handOver, .wait 5] ∧
      paced (startedOn { c with isTransactional := true }) = some [.handOver] := by
  decide

end PublisherThread

end AndesTestClient
