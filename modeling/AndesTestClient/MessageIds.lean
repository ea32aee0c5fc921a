import AndesTestClient.Library.Decimal
import AndesTestClient.Library.Interleaving
import AndesTestClient.PublisherThread

namespace AndesTestClient

open Imperative Interleaving

namespace PublisherThread

def createdIn (steps : List PublisherStep) : List ATCMessage :=
  steps.filterMap fun
    | .created m => some m
    | _ => none

def created (t : PublisherThread) : List ATCMessage := createdIn t.trace

@[simp] theorem createdIn_append (steps steps' : List PublisherStep) :
    createdIn (steps ++ steps') = createdIn steps ++ createdIn steps' := List.filterMap_append

theorem createdIn_transactionalPass (config : PublisherConfig) (limited : Bool) (i : Int32) :
    createdIn (transactionalPass config limited i) = [transactionalMessage config i] := by
  cases limited <;> rfl

def message (config : PublisherConfig) (i : Int32) : ATCMessage :=
  if config.isTransactional then transactionalMessage config i else plainMessage config i

def messages (config : PublisherConfig) (n : ℕ) : List ATCMessage :=
  (List.range n).map fun k ↦ message config (Int32.ofNat (k + 1))

theorem messages_succ (config : PublisherConfig) (n : ℕ) :
    messages config (n + 1) = messages config n ++ [message config (Int32.ofNat (n + 1))] := by
  rw [messages, List.range_succ, List.map_append, List.map_singleton, messages]

variable {t : PublisherThread} {config : PublisherConfig}

theorem publishBody_ends (config : PublisherConfig) (limited : Bool) (i : Int32)
    (t : PublisherThread) :
    Ends (publishBody config limited i) (fun r t' ↦
      (r = .ok i ∧ t'.created = t.created ++ [plainMessage config i]) ∨
      ∃ e, r = .error e ∧
        (t'.created = t.created ∨ t'.created = t.created ++ [plainMessage config i])) t := by
  obtain ⟨r, t', hrun, ho⟩ := publishBody_outcome config limited i t
  refine ⟨r, t', hrun, ?_⟩
  cases ho with
  | createFailed hcreate => exact .inr ⟨_, rfl, .inl (by simp [created, createdIn])⟩
  | sendFailed hcreate hsend =>
    refine .inr ⟨_, rfl, .inr ?_⟩
    cases limited <;> simp [created, createdIn, sendSteps]
  | @sent q q' r u hcreate hsend hwait =>
    have hmade : createdIn (publishPass config limited i) = [plainMessage config i] := by
      cases limited <;> by_cases hdelay : 0 < config.delayBetweenMsgs <;>
        simp [createdIn, publishPass, hdelay]
    have hcreated : createdIn (t.trace ++ publishPass config limited i) =
        t.created ++ [plainMessage config i] := by
      rw [createdIn_append, hmade, created]
    cases r with
    | error e => exact .inr ⟨e, rfl, .inr hcreated⟩
    | ok _ => exact .inl ⟨rfl, hcreated⟩

variable {fuel : ℕ}

theorem publish_creates (hplain : t.publisher.config.isTransactional = false)
    (hstart : t.created = []) (hN : t.publisher.config.messageCount.toInt < 2 ^ 31 - 1)
    (hfuel : t.publisher.config.messageCount.toInt.toNat < fuel) :
    Ends (publish fuel) (fun _ t' ↦ ∃ k ≤ t.publisher.config.messageCount.toInt.toNat,
      t'.created = messages t.publisher.config k) t := by
  let config := t.publisher.config
  let n := config.messageCount.toInt.toNat
  have hmessage : ∀ i, message config i = plainMessage config i := fun i ↦ by
    rw [message, if_neg (by rw [hplain]; exact Bool.false_ne_true)]
  by_cases hrate : 0 ≤ config.messagesPerSecond.toInt
  case neg => exact ⟨_, t, publish_refused (Int.not_le.mp hrate) fuel, 0, Nat.zero_le _, hstart⟩
  rw [Ends, publish_run hrate]
  have hloop := countedLoop_progress (publishBody config (config.messagesPerSecond ≠ 0))
    (fun k t' ↦ t'.created = messages config k)
    (fun _ t' ↦ ∃ k ≤ n, t'.created = messages config k) (fun _ ↦ 0) rfl hN
    (fun k hk t₁ ht₁ ↦ by
      apply (publishBody_ends config _ _ t₁).mono
      intro r t₂ h
      rcases h with ⟨rfl, ht₂⟩ | ⟨e, rfl, ht₂⟩
      · exact .inl ⟨rfl, by rw [ht₂, ht₁, messages_succ, hmessage], le_rfl⟩
      · refine .inr (.inr ⟨e, rfl, ?_⟩)
        rcases ht₂ with ht₂ | ht₂
        · exact ⟨k, hk.le, ht₂.trans ht₁⟩
        · exact ⟨k + 1, hk, by rw [ht₂, ht₁, messages_succ, hmessage]⟩) hstart hfuel
  refine Ends.tryCatch (R := fun _ t' ↦ ∃ k ≤ n, t'.created = messages config k)
    (Ends.bind hloop ?_ ?_) (fun _ _ h ↦ h) ?_
  · intro _ t₁ h
    rcases h with ⟨-, ht₁⟩ | ⟨e, he, -⟩
    · rw [log, ends_update_bind]
      apply (onPublisher_ends (SimplePublisher.close_ends _)).mono
      intro r t₂ h
      obtain ⟨q, rfl, -⟩ := h
      exact ⟨n, le_rfl, Eq.trans (by simp [created, createdIn]) ht₁⟩
    · cases he
  · intro e t₁ h
    rcases h with h | ⟨e', -, ht₁⟩
    · cases h.1
    · exact ht₁
  · intro e t₁ ht₁
    split
    · exact ends_pure.mpr ht₁
    · apply (onThread_ends (Q := fun _ _ ↦ True) (ends_update.mpr trivial)).mono
      intro r t₂ h
      obtain ⟨u, rfl, -⟩ := h
      exact ht₁
    · exact ends_throw.mpr ht₁

def Transmits (config : PublisherConfig) : Prop :=
  config.isTransactional = true ∧ 0 < config.messageCount.toInt ∧
    0 ≤ config.messagesPerSecond.toInt ∧ 0 ≤ config.transactionBatchSize.toInt

theorem transactionalPublish_creates (htx : t.publisher.config.isTransactional = true)
    (hstart : t.created = []) (hN : t.publisher.config.messageCount.toInt < 2 ^ 31 - 1)
    (hfuel : t.publisher.config.messageCount.toInt.toNat + t.publisher.createFaults.length < fuel) :
    Ends (transactionalPublish fuel) (fun _ t' ↦
      ∃ k ≤ t.publisher.config.messageCount.toInt.toNat,
        t'.created = messages t.publisher.config k ∧
        (Transmits t.publisher.config → k = t.publisher.config.messageCount.toInt.toNat) ∧
        (0 < k → Transmits t.publisher.config)) t := by
  let config := t.publisher.config
  let n := config.messageCount.toInt.toNat
  have hmessage : ∀ i, message config i = transactionalMessage config i := fun i ↦ by
    rw [message, if_pos htx]
  have hnone : ¬ Transmits config → ∃ k ≤ n, t.created = messages config k ∧
      (Transmits config → k = n) ∧ (0 < k → Transmits config) := fun h ↦
    ⟨0, Nat.zero_le n, hstart, fun h' ↦ absurd h' h, fun h' ↦ absurd h' (Nat.lt_irrefl 0)⟩
  by_cases hbatch : 0 ≤ config.transactionBatchSize.toInt
  case neg =>
    exact ⟨_, t, transactionalPublish_refused (.inl (Int.not_le.mp hbatch)) fuel,
      hnone fun h ↦ hbatch h.2.2.2⟩
  by_cases hrate : 0 ≤ config.messagesPerSecond.toInt
  case neg =>
    exact ⟨_, t, transactionalPublish_refused (.inr (Int.not_le.mp hrate)) fuel,
      hnone fun h ↦ hrate h.2.2.1⟩
  obtain ⟨t', hrun, ht'⟩ := transactionalPublish_collects createdIn (transactionalMessage config)
    createdIn_append (createdIn_transactionalPass config) (fun _ ↦ rfl) hbatch hrate hN hfuel
  refine ⟨_, t', hrun, n, le_rfl, ?_, fun _ ↦ rfl, fun hpos ↦ ?_⟩
  · rw [created, ht', ← created, hstart, messages, funext hmessage, List.nil_append]
    exact List.append_nil _
  · exact ⟨htx, Int.pos_iff_toNat_pos.mpr hpos, hrate, hbatch⟩

theorem run_creates (hstart : t.created = [])
    (hN : t.publisher.config.messageCount.toInt < 2 ^ 31 - 1)
    (hfuel : t.publisher.config.messageCount.toInt.toNat + t.publisher.createFaults.length < fuel) :
    Ends (run fuel) (fun _ t' ↦
      ∃ k ≤ t.publisher.config.messageCount.toInt.toNat,
        t'.created = messages t.publisher.config k ∧
        (Transmits t.publisher.config → k = t.publisher.config.messageCount.toInt.toNat) ∧
        (t.publisher.config.isTransactional = true → 0 < k → Transmits t.publisher.config)) t := by
  cases htx : t.publisher.config.isTransactional with
  | true =>
    rw [Ends, run_transactional htx]
    apply (transactionalPublish_creates htx hstart hN hfuel).mono
    intro r t' h
    obtain ⟨k, hk, ht', hall, hpos⟩ := h
    exact ⟨k, hk, ht', hall, fun _ ↦ hpos⟩
  | false =>
    rw [Ends, run_plain htx]
    apply (publish_creates htx hstart hN (by omega)).mono
    intro r t' h
    obtain ⟨k, hk, ht'⟩ := h
    exact ⟨k, hk, ht', fun h ↦ absurd (htx.symm.trans h.1) Bool.false_ne_true,
      fun h ↦ absurd h Bool.false_ne_true⟩

theorem messageId_plain {config : PublisherConfig} (h : config.isTransactional = false) (i : Int32) :
    (message config i).messageId = some (concatenated config.id ++ "-" ++ toString i.toInt) := by
  rw [message, if_neg (by rw [h]; exact Bool.false_ne_true)]
  rfl

theorem messageId_transactional {config : PublisherConfig} (h : config.isTransactional = true)
    (i : Int32) : (message config i).messageId = some (toString i.toInt) := by
  rw [message, if_pos h]
  rfl

theorem minus_notMem {n : ℤ} (hn : 0 ≤ n) : '-' ∉ (toString n).toList :=
  Decimal.notMem_of_nonneg (by decide) hn

theorem messageId_inj {c c' : PublisherConfig} {i j : Int32} (hi : 0 ≤ i.toInt) (hj : 0 ≤ j.toInt)
    (h : (message c i).messageId = (message c' j).messageId) :
    i = j ∧ c.isTransactional = c'.isTransactional ∧
      (c.isTransactional = false → concatenated c.id = concatenated c'.id) := by
  have hne : ∀ {s : String} {m n : ℤ}, 0 ≤ n → s ++ "-" ++ toString m ≠ toString n := by
    intro s m n hn heq
    apply minus_notMem hn
    rw [← heq]
    simp
  cases hc : c.isTransactional <;> cases hc' : c'.isTransactional
  · rw [messageId_plain hc, messageId_plain hc', Option.some.injEq] at h
    obtain ⟨hid, hij⟩ := Decimal.suffix_inj [] rfl (minus_notMem hi) (minus_notMem hj) h
    exact ⟨Int32.toInt_inj.mp hij, rfl, fun _ ↦ hid⟩
  · rw [messageId_plain hc, messageId_transactional hc', Option.some.injEq] at h
    exact absurd h (hne hj)
  · rw [messageId_transactional hc, messageId_plain hc', Option.some.injEq] at h
    exact absurd h.symm (hne hi)
  · rw [messageId_transactional hc, messageId_transactional hc', Option.some.injEq] at h
    exact ⟨Int32.toInt_inj.mp (Decimal.int_inj h), rfl, by simp⟩

theorem mem_messages {n : ℕ} (hn : n < 2 ^ 31 - 1) {m : ATCMessage} (hm : m ∈ messages config n) :
    ∃ i : Int32, 0 ≤ i.toInt ∧ m = message config i := by
  obtain ⟨k, hk, rfl⟩ := List.mem_map.mp hm
  have hlt := List.mem_range.mp hk
  exact ⟨_, by rw [toInt_ofNat (by omega)]; omega, rfl⟩

theorem messages_ids_nodup (config : PublisherConfig) {n : ℕ} (hn : n < 2 ^ 31 - 1) :
    ((messages config n).map ATCMessage.messageId).Nodup := by
  rw [messages, List.map_map]
  refine List.Nodup.map_on (fun j hj k hk h ↦ ?_) List.nodup_range
  have hj' := List.mem_range.mp hj
  have hk' := List.mem_range.mp hk
  have hjn : (Int32.ofNat (j + 1)).toInt = (j + 1 : ℕ) := toInt_ofNat (by omega)
  have hkn : (Int32.ofNat (k + 1)).toInt = (k + 1 : ℕ) := toInt_ofNat (by omega)
  obtain ⟨heq, -⟩ := messageId_inj (by omega) (by omega) h
  rw [heq, hkn] at hjn
  omega

theorem messages_eq_cons (htx : config.isTransactional = true) {n : ℕ} (hn : 0 < n) :
    ∃ ms, messages config n = transactionalMessage config 1 :: ms := by
  obtain ⟨n, rfl⟩ := Nat.exists_eq_succ_of_ne_zero hn.ne'
  rw [messages, List.range_succ_eq_map, List.map_cons, message, if_pos htx]
  exact ⟨_, rfl⟩

/-- Publishers with different ids share a message id only when both number their messages without
the publisher's id. -/
theorem transactional_of_messageId_eq {c c' : PublisherConfig} {n n' : ℕ} {m m' : ATCMessage}
    (hne : concatenated c.id ≠ concatenated c'.id) (hn : n < 2 ^ 31 - 1) (hn' : n' < 2 ^ 31 - 1)
    (hm : m ∈ messages c n) (hm' : m' ∈ messages c' n') (h : m.messageId = m'.messageId) :
    c.isTransactional = true ∧ c'.isTransactional = true := by
  obtain ⟨i, hi, rfl⟩ := mem_messages hn hm
  obtain ⟨j, hj, rfl⟩ := mem_messages hn' hm'
  obtain ⟨-, hmode, hplain⟩ := messageId_inj hi hj h
  cases htx : c.isTransactional with
  | false => exact absurd (hplain htx) hne
  | true => exact ⟨rfl, hmode ▸ htx⟩

end PublisherThread

open PublisherThread

variable {ι : Type} [DecidableEq ι]

/-- For publishers with different ids, whatever fails while they run: no interleaving of what they
create repeats a message id if and only if at most one of them transmits in transactions. -/
theorem ids_nodup_iff {thread : ι → PublisherThread} (ident : ι → String)
    (hident : ∀ i, (thread i).publisher.config.id = some (ident i))
    (hdistinct : Function.Injective ident) (hstart : ∀ i, (thread i).trace = [])
    (hN : ∀ i, (thread i).publisher.config.messageCount.toInt < 2 ^ 31 - 1) (fuel : ι → ℕ)
    (hfuel : ∀ i, (thread i).publisher.config.messageCount.toInt.toNat +
      (thread i).publisher.createFaults.length < fuel i) :
    ∃ (r : ι → Except Thrown Unit) (t' : ι → PublisherThread),
      (∀ i, exec (run (fuel i)) (thread i) = some (r i, t' i)) ∧
      ((∀ log, Interleaves (fun i ↦ (t' i).created) log →
          (log.map fun e ↦ e.2.messageId).Nodup) ↔
        ∀ i j, Transmits (thread i).publisher.config → Transmits (thread j).publisher.config →
          i = j) := by
  choose r t' hrun k hk hcreated hall hpos using fun i ↦
    run_creates (congrArg createdIn (hstart i)) (hN i) (hfuel i)
  have hlt : ∀ i, k i < 2 ^ 31 - 1 := fun i ↦ by
    have hi := hN i
    have hki := hk i
    omega
  refine ⟨r, t', hrun, fun h i j hi hj ↦ ?_, fun h log hlog ↦ ?_⟩
  · by_contra hij
    have hfirst : ∀ i, Transmits (thread i).publisher.config → ∃ ms, (t' i).created =
        transactionalMessage (thread i).publisher.config 1 :: ms := by
      intro i hi
      rw [hcreated i, hall i hi]
      exact messages_eq_cons hi.1 (Int.pos_iff_toNat_pos.mp hi.2.1)
    obtain ⟨as, has⟩ := hfirst i hi
    obtain ⟨bs, hbs⟩ := hfirst j hj
    have hnodup := h _ (interleaves_heads hij has hbs)
    simp [transactionalMessage] at hnodup
  · refine nodup_of_contributions ATCMessage.messageId (fun i ↦ ?_) ?_
    · have hown := messages_ids_nodup (thread i).publisher.config (hlt i)
      rw [← hcreated i] at hown
      exact hown.sublist ((hlog i).sublist.map _)
    · rintro ⟨i, m⟩ hm ⟨j, m'⟩ hm' hij heq
      have hmi : m ∈ messages (thread i).publisher.config (k i) := hcreated i ▸ hlog.mem_own hm
      have hmj : m' ∈ messages (thread j).publisher.config (k j) := hcreated j ▸ hlog.mem_own hm'
      have hne : concatenated (thread i).publisher.config.id ≠
          concatenated (thread j).publisher.config.id := by
        rw [hident, hident]
        exact fun h ↦ hij (hdistinct h)
      obtain ⟨htx, htx'⟩ := transactional_of_messageId_eq hne (hlt i) (hlt j) hmi hmj heq
      have htransmits : ∀ {i m}, m ∈ messages (thread i).publisher.config (k i) →
          (thread i).publisher.config.isTransactional = true →
          Transmits (thread i).publisher.config := by
        intro i m hm htx
        apply hpos i htx
        apply Nat.pos_of_ne_zero
        intro hzero
        rw [hzero] at hm
        cases hm
      exact hij (h i j (htransmits hmi htx) (htransmits hmj htx'))

def transactionalPair (i : Bool) : PublisherThread :=
  { publisher := .init .queueSender
      { id := some (if i then "a__2" else "a"), isTransactional := true, messageCount := 1 } }

theorem ids_nodup_iff_pair :
    ∃ (r : Bool → Except Thrown Unit) (t' : Bool → PublisherThread),
      (∀ i, exec (run 2) (transactionalPair i) = some (r i, t' i)) ∧
      ((∀ log, Interleaves (fun i ↦ (t' i).created) log →
          (log.map fun e ↦ e.2.messageId).Nodup) ↔
        ∀ i j, Transmits (transactionalPair i).publisher.config →
          Transmits (transactionalPair j).publisher.config → i = j) :=
  ids_nodup_iff (fun i ↦ if i then "a__2" else "a") (fun i ↦ by cases i <;> rfl)
    (fun i j h ↦ by revert h; cases i <;> cases j <;> decide) (fun _ ↦ rfl)
    (fun i ↦ by cases i <;> decide) (fun _ ↦ 2) (fun i ↦ by cases i <;> decide)

/-- Both of them number their only message 1. -/
theorem transactional_ids_clash :
    ∃ (t' : Bool → PublisherThread) (log : List (Bool × ATCMessage)),
      (∀ i, exec (run 2) (transactionalPair i) = some (.ok (), t' i)) ∧
      Interleaves (fun i ↦ (t' i).created) log ∧
      log.map (fun e ↦ (e.1, e.2.messageId)) = [(false, some "1"), (true, some "1")] ∧
      ¬ (log.map fun e ↦ e.2.messageId).Nodup := by
  let m : ATCMessage := { messageId := some "1", text := some "Test Message" }
  let steps : List PublisherStep :=
    [.iteration 1, .created m, .publish (.ofMessage m), .publish .close, .shutdown]
  refine ⟨fun i ↦ { transactionalPair i with trace := steps }, [(false, m), (true, m)],
    fun i ↦ ?_, interleaves_heads Bool.false_ne_true rfl rfl, rfl, by simp⟩
  cases i <;> rfl

end AndesTestClient
