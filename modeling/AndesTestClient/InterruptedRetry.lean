import AndesTestClient.ExactlyOnce
import Mathlib.Data.List.Count

namespace AndesTestClient

open Imperative

namespace TxPublishHandler

/-- A message event with what meets the handler while it handles it: the failures of its calls, and
the interrupts of its thread, pending or arriving. -/
structure Delivery where
  message : ATCMessage
  faults : List CallOutcome := []
  thread : Thread := {}

def Delivery.onto (d : Delivery) (h : TxPublishHandler) : TxPublishHandler :=
  { h with publisher := { h.publisher with faults := d.faults }, thread := d.thread }

def handle (fuel : ℕ) (d : Delivery) : Java TxPublishHandler Unit := do
  update d.onto
  onEvent fuel (.ofMessage d.message)

def Handled (fuel : ℕ) (h₀ : TxPublishHandler) (ds : List Delivery) (h : TxPublishHandler) : Prop :=
  exec (forM ds (handle fuel)) h₀ = some (.ok (), h)

def quiet (m : ATCMessage) : Delivery := { message := m }

/-- The open transaction holds the pending list, which is not full. -/
structure InStep (h : TxPublishHandler) : Prop where
  transaction_eq : h.publisher.session.transaction = h.messagesList.map MessageUtils.fromATCToJMS
  pending_lt : (h.messagesList.length : ℤ) < h.batchSize.toInt

/-- No message of `ms` is lost or falsely counted: the list is never longer than a batch, what was
counted is what the broker shows, and each message cleared from the list is shown once. -/
structure Accounted (ms : List ATCMessage) (h : TxPublishHandler) : Prop where
  size_le : (h.messagesList.length : ℤ) ≤ h.batchSize.toInt
  count_eq : h.sentCount.added = h.publisher.session.committed.flatten.length
  once : ∃ cleared, cleared ++ h.messagesList = ms ∧ ∀ m ∈ cleared,
    h.publisher.session.committed.flatten.count (MessageUtils.fromATCToJMS m) = cleared.count m

/-- How `resend` ends: the pending list is visible as a transaction, or an interrupt has ended the
retries with the list still pending. -/
inductive ResendOutcome (h : TxPublishHandler) : TxPublishHandler → Prop
  | republished {q : SimplePublisher} {u : Thread} (hready : q.Ready)
      (htransaction : q.session.transaction = [])
      (hcommitted : q.session.committed =
        h.publisher.session.committed ++ [h.messagesList.map MessageUtils.fromATCToJMS]) :
      ResendOutcome h { h with
        messagesList := []
        publisher := q
        sentCount := h.sentCount.addAndGet (size h.messagesList)
        publishRate := h.publishRate.mark (size h.messagesList)
        thread := u }
  | abandoned {q : SimplePublisher} {u : Thread} (hready : q.Ready)
      (htransaction : q.session.transaction = h.publisher.session.transaction ∨
        q.session.transaction <+: h.messagesList.map MessageUtils.fromATCToJMS)
      (hcommitted : q.session.committed = h.publisher.session.committed) :
      ResendOutcome h { h with publisher := q, thread := u }

inductive EventOutcome (h : TxPublishHandler) (m : ATCMessage) : TxPublishHandler → Prop
  | kept {q : SimplePublisher} (hready : q.Ready)
      (hopen : size (h.messagesList ++ [m]) ≠ h.batchSize)
      (htransaction : q.session.transaction =
        h.publisher.session.transaction ++ [MessageUtils.fromATCToJMS m])
      (hcommitted : q.session.committed = h.publisher.session.committed) :
      EventOutcome h m { h with messagesList := h.messagesList ++ [m], publisher := q }
  | committed {q : SimplePublisher} (hready : q.Ready)
      (hfull : size (h.messagesList ++ [m]) = h.batchSize)
      (htransaction : q.session.transaction = [])
      (hcommitted : q.session.committed = h.publisher.session.committed ++
        [h.publisher.session.transaction ++ [MessageUtils.fromATCToJMS m]]) :
      EventOutcome h m { h with
        messagesList := []
        publisher := q
        sentCount := h.sentCount.addAndGet (size (h.messagesList ++ [m]))
        publishRate := h.publishRate.mark (size (h.messagesList ++ [m])) }
  | resent {q : SimplePublisher} {h' : TxPublishHandler}
      (htransaction : q.session.transaction = h.publisher.session.transaction ∨
        q.session.transaction =
          h.publisher.session.transaction ++ [MessageUtils.fromATCToJMS m] ∨
        q.session.transaction = [])
      (hcommitted : q.session.committed = h.publisher.session.committed)
      (hresent : ResendOutcome
        { h with messagesList := h.messagesList ++ [m], publisher := q } h') :
      EventOutcome h m h'

variable {fuel : ℕ} {h h' h₀ : TxPublishHandler} {m : ATCMessage} {ms : List ATCMessage}
  {ds : List Delivery}

theorem ResendOutcome.of_failed {u : Thread} {q : SimplePublisher}
    (hq : SimplePublisher.Raised h.publisher q)
    (hqt : q.session.transaction = h.publisher.session.transaction ∨
      q.session.transaction <+: h.messagesList.map MessageUtils.fromATCToJMS)
    (ho : ResendOutcome { h with thread := u, publisher := q } h') : ResendOutcome h h' := by
  cases ho with
  | republished hready ht hc =>
    exact .republished hready ht (hc.trans (by rw [hq.committed_eq]))
  | abandoned hready ht hc =>
    refine .abandoned hready ?_ (hc.trans hq.committed_eq)
    rcases ht with ht | ht
    · exact hqt.imp ht.trans fun hsent ↦ by rwa [ht]
    · exact .inr ht

theorem resend_outcome {h : TxPublishHandler} (hp : h.publisher.Ready) :
    ∃ h', (∀ fuel, h.publisher.faults.length < fuel → exec (resend fuel) h = some (.ok (), h')) ∧
      ResendOutcome h h' := by
  obtain ⟨⟨r, h'⟩, hrun, rfl, ho⟩ := Retry.returns (fun fuel ↦ exec (resend fuel))
    (P := fun h ↦ h.publisher.Ready) (Q := fun h b ↦ b.1 = .ok () ∧ ResendOutcome h b.2)
    (fun h ↦ h.publisher.faults.length) (fun h hp ↦ by
      obtain ⟨r, u, hsleep, hr, -⟩ := Thread.sleep_ends h.thread
      have hslept : exec (onThread Thread.sleep) h = some (r, { h with thread := u }) :=
        exec_within_of hsleep
      rcases hr with rfl | rfl
      case inr =>
        refine .inl ⟨_, fun _ ↦ exec_tryCatch_error (exec_bind_error hslept), rfl, ?_⟩
        exact .abandoned hp (.inl rfl) rfl
      have hattempt := (congrArg (exec · h) tryResend_eq).trans (exec_bind_ok hslept)
      rcases afterWait_outcome (h := { h with thread := u }) hp with
        ⟨q, hrun, hq, hqt, hqc⟩ | ⟨e, q, hrun, hq, hqt⟩
      · exact .inl ⟨_, resend_stops (hattempt.trans hrun), rfl, .republished hq.ready hqt hqc⟩
      · exact .inr ⟨_, resend_repeats (hattempt.trans hrun), hq.ready, hq.faults_lt,
          fun b hb ↦ ⟨hb.1, hb.2.of_failed hq hqt⟩⟩) hp
  exact ⟨h', hrun, ho⟩

theorem onEvent_outcome (hp : h.publisher.Ready) (hfuel : h.publisher.faults.length < fuel)
    (m : ATCMessage) :
    ∃ h', exec (onEvent fuel (.ofMessage m)) h = some (.ok (), h') ∧ EventOutcome h m h' := by
  let h₁ : TxPublishHandler := { h with messagesList := h.messagesList ++ [m] }
  have hadd : exec (tryEvent (.ofMessage m)) h =
      exec (do onPublisher (SimplePublisher.send m); commitFullBatch) h₁ := by
    rw [tryEvent_ofMessage, exec_bind_ok (exec_update _ h)]
  rcases SimplePublisher.send_spec hp m with ⟨q, hsend, hq, hqc, hqt⟩ | ⟨e, q, hsend, hq, hqt⟩
  case inr =>
    have hfailed := hadd.trans (exec_bind_error (exec_onPublisher (h := h₁) hsend))
    have hlt := hq.faults_lt
    obtain ⟨h', hrun, ho⟩ := resend_outcome (h := { h₁ with publisher := q }) hq.ready
    exact ⟨h', (exec_tryCatch_error hfailed).trans (hrun fuel (hlt.trans hfuel)),
      .resent (hqt.imp_right .inl) hq.committed_eq ho⟩
  have hsent := hadd.trans (exec_bind_ok (exec_onPublisher (h := h₁) hsend))
  by_cases hfull : size (h.messagesList ++ [m]) = h.batchSize
  case neg =>
    have hopen : exec commitFullBatch { h₁ with publisher := q } =
        some (.ok (), { h₁ with publisher := q }) := by
      rw [commitFullBatch, exec_bind_ok (exec_observe id _), id_eq, if_neg hfull, exec_pure]
    exact ⟨_, exec_tryCatch_ok (hsent.trans hopen), .kept hq.ready hfull hqt hqc⟩
  have hcommit : exec commitFullBatch { h₁ with publisher := q } =
      exec (do onPublisher SimplePublisher.commit; countBatch) { h₁ with publisher := q } := by
    rw [commitFullBatch, exec_bind_ok (exec_observe id _), id_eq, if_pos hfull]
  rw [hcommit] at hsent
  rcases SimplePublisher.commit_spec hq.ready with ⟨p, hrun, hp, hps⟩ | ⟨e, p, hrun, hp, hps⟩
  · refine ⟨_, exec_tryCatch_ok ((hsent.trans (exec_bind_ok (exec_onPublisher
      (h := { h₁ with publisher := q }) hrun))).trans (exec_countBatch _)), ?_⟩
    refine .committed hp.ready hfull ?_ ?_
    · rw [hps]
      rfl
    · rw [hps, Session.commit, hqt, hqc]
  · have hfailed := hsent.trans (exec_bind_error (exec_onPublisher
      (h := { h₁ with publisher := q }) hrun))
    have hlt := hp.faults_lt.trans_le hq.faults_le
    obtain ⟨h', hrest, ho⟩ := resend_outcome (h := { h₁ with publisher := p }) hp.ready
    refine ⟨h', (exec_tryCatch_error hfailed).trans (hrest fuel (hlt.trans hfuel)), .resent (.inr ?_)
      (hp.committed_eq.trans hqc) ho⟩
    rcases hps with hps | hps
    · exact .inl (by rw [hps, hqt])
    · exact .inr (by rw [hps]; rfl)

/-- What holds in every state of every run: the open transaction is a part of the pending list. -/
structure Steady (B : Int32) (h : TxPublishHandler) : Prop where
  ready : h.publisher.Ready
  batchSize_eq : h.batchSize = B
  sublist : h.publisher.session.transaction.Sublist (h.messagesList.map MessageUtils.fromATCToJMS)

theorem ResendOutcome.steady {B : Int32} (ho : ResendOutcome h h') (hb : h.batchSize = B)
    (hsub : h.publisher.session.transaction.Sublist (h.messagesList.map MessageUtils.fromATCToJMS)) :
    Steady B h' := by
  cases ho with
  | republished hready ht hc =>
    refine ⟨hready, hb, ?_⟩
    simp only [ht]
    exact List.nil_sublist _
  | abandoned hready ht hc =>
    refine ⟨hready, hb, ?_⟩
    rcases ht with ht | ht
    · simp only [ht]
      exact hsub
    · exact ht.sublist

theorem EventOutcome.steady {B : Int32} (ho : EventOutcome h m h') (hs : Steady B h) :
    Steady B h' := by
  have hadded : (h.publisher.session.transaction ++ [MessageUtils.fromATCToJMS m]).Sublist
      ((h.messagesList ++ [m]).map MessageUtils.fromATCToJMS) := by
    rw [List.map_append, List.map_singleton]
    exact hs.sublist.append (List.Sublist.refl _)
  cases ho with
  | kept hready hopen ht hc =>
    refine ⟨hready, hs.batchSize_eq, ?_⟩
    simp only [ht]
    exact hadded
  | committed hready hfull ht hc =>
    refine ⟨hready, hs.batchSize_eq, ?_⟩
    simp only [ht]
    exact List.nil_sublist _
  | resent ht hc ho =>
    apply ho.steady hs.batchSize_eq
    rcases ht with ht | ht | ht
    · simp only [ht]
      rw [List.map_append]
      exact hs.sublist.trans (List.sublist_append_left _ _)
    · simp only [ht]
      exact hadded
    · simp only [ht]
      exact List.nil_sublist _

/-- The books of a run that has been in step: the broker shows the cleared messages in order, and
the count is theirs. -/
structure Booked (ms cleared : List ATCMessage) (h : TxPublishHandler) : Prop where
  size_le : (h.messagesList.length : ℤ) ≤ h.batchSize.toInt
  in_order : cleared ++ h.messagesList = ms
  committed_eq : h.publisher.session.committed.flatten = cleared.map MessageUtils.fromATCToJMS
  count_eq : h.sentCount.added = cleared.length

theorem Booked.accounted {cleared : List ATCMessage} (hb : Booked ms cleared h) : Accounted ms h where
  size_le := hb.size_le
  count_eq := by rw [hb.count_eq, hb.committed_eq, List.length_map]
  once := by
    refine ⟨cleared, hb.in_order, fun m _ ↦ ?_⟩
    rw [hb.committed_eq, List.count_map_of_injective _ _ MessageUtils.fromATCToJMS_injective]

theorem Booked.clear {cleared l : List ATCMessage} {p : SimplePublisher} {u : Thread} {r : Meter}
    (hb : Booked ms cleared h) (hl : l.length < 2 ^ 31) (hl' : l = h.messagesList ++ [m])
    (hpositive : 0 ≤ h.batchSize.toInt)
    (hc : p.session.committed =
      h.publisher.session.committed ++ [l.map MessageUtils.fromATCToJMS]) :
    Booked (ms ++ [m]) (cleared ++ l) { h with
      messagesList := []
      publisher := p
      sentCount := h.sentCount.addAndGet (size l)
      publishRate := r
      thread := u } where
  size_le := hpositive
  in_order := by
    rw [List.append_nil, hl', ← List.append_assoc, hb.in_order]
  committed_eq := by
    simp only [hc, List.flatten_append, List.flatten_singleton, hb.committed_eq, List.map_append]
  count_eq := by
    simp only [AtomicInteger.addAndGet, size_toInt hl, hb.count_eq, List.length_append]
    push_cast
    rfl

theorem EventOutcome.booked {cleared : List ATCMessage} (ho : EventOutcome h m h') (hi : InStep h)
    (hb : Booked ms cleared h) : ∃ cleared', Booked (ms ++ [m]) cleared' h' := by
  have hlt := hi.pending_lt
  have hB := h.batchSize.toInt_lt
  have hlen : (h.messagesList ++ [m]).length = h.messagesList.length + 1 := by simp
  have hadded : (h.messagesList ++ [m]).length < 2 ^ 31 := by omega
  have hpositive : 0 ≤ h.batchSize.toInt := by omega
  have hpending : cleared ++ (h.messagesList ++ [m]) = ms ++ [m] := by
    rw [← List.append_assoc, hb.in_order]
  cases ho with
  | kept hready hopen ht hc =>
    refine ⟨cleared, ?_, hpending, ?_, hb.count_eq⟩
    · simp only [hlen]
      omega
    · simp only [hc, hb.committed_eq]
  | committed hready hfull ht hc =>
    refine ⟨_, hb.clear hadded rfl hpositive ?_⟩
    rw [hc, hi.transaction_eq, List.map_append, List.map_singleton]
  | resent ht hc ho =>
    cases ho with
    | republished hready ht' hc' =>
      refine ⟨_, hb.clear hadded rfl hpositive ?_⟩
      rw [hc']
      simp only [hc]
    | abandoned hready ht' hc' =>
      refine ⟨cleared, ?_, hpending, ?_, hb.count_eq⟩
      · simp only [hlen]
        omega
      · simp only [hc', hc, hb.committed_eq]

theorem exec_handle (d : Delivery) (h : TxPublishHandler) :
    exec (handle fuel d) h = exec (onEvent fuel (.ofMessage d.message)) (d.onto h) := by
  rw [handle, exec_bind_ok (exec_update d.onto h)]

theorem Handled.snoc {d : Delivery} (hh : Handled fuel h₀ ds h)
    (hd : exec (handle fuel d) h = some (.ok (), h')) : Handled fuel h₀ (ds ++ [d]) h' := by
  rw [Handled, List.forM_append, exec_bind_ok hh]
  change exec (handle fuel d >>= fun _ ↦ pure ()) h = _
  rw [exec_bind_ok hd, exec_pure]

theorem Handled.append {ds' : List Delivery} (hh : Handled fuel h₀ ds h)
    (hh' : Handled fuel h ds' h') : Handled fuel h₀ (ds ++ ds') h' := by
  rw [Handled, List.forM_append, exec_bind_ok hh]
  exact hh'

theorem Handled.unique (hh : Handled fuel h₀ ds h) (hh' : Handled fuel h₀ ds h') : h = h' := by
  rw [Handled, hh] at hh'
  cases hh'
  rfl

theorem After.handled (ha : After fuel h₀ ms h) :
    ∃ ds, ds.map Delivery.message = ms ∧ Handled fuel h₀ ds h := by
  induction ms generalizing h₀ with
  | nil =>
    cases (onEvents_nil fuel h₀).symm.trans ha
    exact ⟨[], rfl, rfl⟩
  | cons m ms ih =>
    obtain ⟨⟨⟩, h₁, hevent, hrest⟩ := exec_bind_inv ha
    obtain ⟨ds, rfl, hrun⟩ := ih hrest
    let d : Delivery := ⟨m, h₀.publisher.faults, h₀.thread⟩
    refine ⟨d :: ds, rfl, ?_⟩
    rw [Handled, List.forM_cons, exec_bind_ok ((exec_handle d h₀).trans hevent)]
    exact hrun

theorem handled_run (hfresh : Fresh h₀) (hB : 1 ≤ h₀.batchSize.toInt)
    (hfuel : ∀ d ∈ ds, d.faults.length < fuel) :
    ∃ h, Handled fuel h₀ ds h ∧ Steady h₀.batchSize h ∧
      ((∀ n < ds.length, ∀ h, Handled fuel h₀ (ds.take n) h → InStep h) →
        ∃ cleared, Booked (ds.map Delivery.message) cleared h) := by
  induction ds using List.reverseRecOn with
  | nil =>
    refine ⟨h₀, rfl, ⟨hfresh.live.ready, rfl, ?_⟩, fun _ ↦ ⟨[], ?_, ?_, ?_, hfresh.added_eq⟩⟩
    · rw [hfresh.transaction_eq]
      exact List.nil_sublist _
    · rw [hfresh.messagesList_eq]
      exact Int.le_of_lt (Int.lt_of_lt_of_le Int.zero_lt_one hB)
    · exact hfresh.messagesList_eq
    · rw [hfresh.committed_eq]
      rfl
  | append_singleton ds d ih =>
    obtain ⟨h, hrun, hs, hbooked⟩ := ih fun d' hd' ↦ hfuel d' (List.mem_append_left _ hd')
    have hd := hfuel d (List.mem_append_right _ (List.mem_singleton_self d))
    obtain ⟨h', hevent, ho⟩ := onEvent_outcome (h := d.onto h)
      ⟨hs.ready.sender, hs.ready.session, hs.ready.transacted⟩ hd d.message
    refine ⟨h', hrun.snoc ((exec_handle d h).trans hevent), ho.steady
      ⟨⟨hs.ready.sender, hs.ready.session, hs.ready.transacted⟩, hs.batchSize_eq, hs.sublist⟩, ?_⟩
    intro hsteps
    have hlen : (ds ++ [d]).length = ds.length + 1 := by simp
    obtain ⟨cleared, hb⟩ := hbooked fun n hn h₁ hh₁ ↦ hsteps n (by omega) h₁
      (by rwa [List.take_append_of_le_length hn.le])
    have hi : InStep h := hsteps ds.length (by omega) h
      (by rwa [List.take_append_of_le_length le_rfl, List.take_length])
    rw [List.map_append, List.map_singleton]
    exact ho.booked ⟨hi.transaction_eq, hi.pending_lt⟩
      ⟨hb.size_le, hb.in_order, hb.committed_eq, hb.count_eq⟩

theorem quiet_onto (hr : h.publisher.Ready) (m : ATCMessage) :
    ((quiet m).onto h).publisher.Ready ∧
      ((quiet m).onto h).publisher.session.send (MessageUtils.fromATCToJMS m) =
        { h.publisher.session with
          transaction := h.publisher.session.transaction ++ [MessageUtils.fromATCToJMS m] } :=
  ⟨⟨hr.sender, hr.session, hr.transacted⟩, if_pos hr.transacted⟩

theorem quiet_open (hr : h.publisher.Ready) (fuel : ℕ)
    (hopen : size (h.messagesList ++ [m]) ≠ h.batchSize) :
    ∃ q, exec (handle fuel (quiet m)) h = some (.ok (), { h with
        messagesList := h.messagesList ++ [m], publisher := q, thread := {} }) ∧ q.Ready ∧
      q.session.committed = h.publisher.session.committed ∧
      q.session.transaction = h.publisher.session.transaction ++ [MessageUtils.fromATCToJMS m] := by
  obtain ⟨hready, hsent⟩ := quiet_onto hr m
  have hrun := onEvent_calm hready rfl fuel m
  simp only [hsent] at hrun
  exact ⟨_, (exec_handle _ h).trans (hrun.trans (congrArg some (congrArg (Prod.mk _) (if_neg hopen)))),
    ⟨hr.sender, hr.session, hr.transacted⟩, rfl, rfl⟩

theorem quiet_full (hr : h.publisher.Ready) (fuel : ℕ)
    (hfull : size (h.messagesList ++ [m]) = h.batchSize) :
    ∃ q, exec (handle fuel (quiet m)) h = some (.ok (), { h with
        messagesList := []
        publisher := q
        sentCount := h.sentCount.addAndGet (size (h.messagesList ++ [m]))
        publishRate := h.publishRate.mark (size (h.messagesList ++ [m]))
        thread := {} }) ∧ q.Ready ∧
      q.session.committed = h.publisher.session.committed ++
        [h.publisher.session.transaction ++ [MessageUtils.fromATCToJMS m]] ∧
      q.session.transaction = [] := by
  obtain ⟨hready, hsent⟩ := quiet_onto hr m
  have hrun := onEvent_calm hready rfl fuel m
  simp only [hsent] at hrun
  exact ⟨_, (exec_handle _ h).trans (hrun.trans (congrArg some (congrArg (Prod.mk _) (if_pos hfull)))),
    ⟨hr.sender, hr.session, hr.transacted⟩, rfl, rfl⟩

theorem quiet_kept (fuel : ℕ) (hr : h.publisher.Ready) (ns : List ATCMessage)
    (hlt : ((h.messagesList ++ ns).length : ℤ) < h.batchSize.toInt) :
    ∃ h', Handled fuel h (ns.map quiet) h' ∧ h'.publisher.Ready ∧ h'.batchSize = h.batchSize ∧
      h'.messagesList = h.messagesList ++ ns ∧ h'.sentCount = h.sentCount ∧
      h'.publisher.session.committed = h.publisher.session.committed ∧
      h'.publisher.session.transaction =
        h.publisher.session.transaction ++ ns.map MessageUtils.fromATCToJMS := by
  induction ns using List.reverseRecOn with
  | nil =>
    exact ⟨h, rfl, hr, rfl, (List.append_nil _).symm, rfl, rfl, (List.append_nil _).symm⟩
  | append_singleton ns m ih =>
    rw [← List.append_assoc, List.length_append, List.length_singleton] at hlt
    obtain ⟨h₁, hrun, hr₁, hb, hlist, hcount, hcommitted, ht⟩ := ih (by omega)
    have hopen : size (h₁.messagesList ++ [m]) ≠ h₁.batchSize := by
      intro hsize
      rw [hlist, hb, size_eq_iff (by rw [List.length_append, List.length_singleton]; omega),
        List.length_append, List.length_singleton] at hsize
      omega
    obtain ⟨q, hevent, hq, hqc, hqt⟩ := quiet_open hr₁ fuel hopen
    rw [List.map_append, List.map_singleton, List.map_append, List.map_singleton]
    refine ⟨_, hrun.snoc hevent, hq, hb, ?_, hcount, hqc.trans hcommitted, ?_⟩
    · rw [← List.append_assoc, ← hlist]
    · rw [← List.append_assoc, ← ht, hqt]

theorem InStep.quiet_event (hi : InStep h) (hr : h.publisher.Ready) (fuel : ℕ) (m : ATCMessage) :
    ∃ h', exec (handle fuel (quiet m)) h = some (.ok (), h') ∧ InStep h' ∧ h'.publisher.Ready := by
  have hlt := hi.pending_lt
  by_cases hfull : size (h.messagesList ++ [m]) = h.batchSize
  · obtain ⟨q, hevent, hq, -, hqt⟩ := quiet_full hr fuel hfull
    refine ⟨_, hevent, ⟨hqt, ?_⟩, hq⟩
    simp only [List.length_nil]
    omega
  · obtain ⟨q, hevent, hq, -, hqt⟩ := quiet_open hr fuel hfull
    refine ⟨_, hevent, ⟨?_, ?_⟩, hq⟩
    · simp only [hqt, hi.transaction_eq, List.map_append, List.map_singleton]
    · rw [size_eq_iff (by rw [List.length_append, List.length_singleton]; omega)] at hfull
      simp only [List.length_append, List.length_singleton] at hfull ⊢
      omega

theorem InStep.quiet_run (hi : InStep h) (hr : h.publisher.Ready) (fuel : ℕ) (ns : List ATCMessage) :
    ∃ h', Handled fuel h (ns.map quiet) h' ∧ InStep h' ∧ h'.publisher.Ready := by
  induction ns using List.reverseRecOn with
  | nil => exact ⟨h, rfl, hi, hr⟩
  | append_singleton ns m ih =>
    obtain ⟨h₁, hrun, hi₁, hr₁⟩ := ih
    obtain ⟨h₂, hevent, h₂'⟩ := hi₁.quiet_event hr₁ fuel m
    rw [List.map_append, List.map_singleton]
    exact ⟨h₂, hrun.snoc hevent, h₂'⟩

theorem pending_lt_of_accounted {B : Int32} (hs : Steady B h)
    (hquiet : ∀ ns h', Handled fuel h (ns.map quiet) h' → Accounted (ms ++ ns) h') :
    (h.messagesList.length : ℤ) < h.batchSize.toInt := by
  have hsize := (hquiet [] h rfl).size_le
  by_contra hge
  obtain ⟨m⟩ : Nonempty ATCMessage := ⟨{}⟩
  have hopen : size (h.messagesList ++ [m]) ≠ h.batchSize := by
    have hfull : size h.messagesList = h.batchSize := (size_eq_iff hsize).mpr (by omega)
    rw [← hfull, size, size, List.length_append, List.length_singleton, ← ofNat_succ]
    simp
  obtain ⟨q, hevent, -⟩ := quiet_open hs.ready fuel hopen
  have hstart : Handled fuel h [] h := rfl
  have hlonger := (hquiet [m] _ (hstart.snoc hevent)).size_le
  simp only [List.length_append, List.length_singleton] at hlonger
  omega

theorem transaction_eq_of_accounted {B : Int32} (hs : Steady B h)
    (hquiet : ∀ ns h', Handled fuel h (ns.map quiet) h' → Accounted (ms ++ ns) h') :
    h.publisher.session.transaction = h.messagesList.map MessageUtils.fromATCToJMS := by
  have hlt := pending_lt_of_accounted hs hquiet
  have hcount := (hquiet [] h rfl).count_eq
  obtain ⟨m⟩ : Nonempty ATCMessage := ⟨{}⟩
  obtain ⟨ns, hns⟩ : ∃ ns : List ATCMessage,
      ((h.messagesList ++ ns).length : ℤ) + 1 = h.batchSize.toInt := by
    refine ⟨List.replicate (h.batchSize.toInt.toNat - h.messagesList.length - 1) m, ?_⟩
    rw [List.length_append, List.length_replicate]
    omega
  obtain ⟨h₁, hrun, hr₁, hb, hlist, hcount₁, hcommitted, ht⟩ :=
    quiet_kept fuel hs.ready ns (by omega)
  have hlast : ((h₁.messagesList ++ [m]).length : ℤ) = h.batchSize.toInt := by
    rw [hlist, List.length_append, List.length_singleton]
    exact hns
  have hfull : size (h₁.messagesList ++ [m]) = h₁.batchSize := by
    rw [hb, size_eq_iff hlast.le, hlast]
  obtain ⟨q, hevent, -, hqc, -⟩ := quiet_full hr₁ fuel hfull
  have hend := (hquiet (ns ++ [m]) _ (by
    rw [List.map_append, List.map_singleton]
    exact hrun.snoc hevent)).count_eq
  simp only [AtomicInteger.addAndGet, hfull, hb, hcount₁, hqc, hcommitted, ht, List.flatten_append,
    List.length_append, List.flatten_singleton, List.length_map, List.length_singleton] at hend
  apply hs.sublist.eq_of_length
  rw [List.length_map]
  rw [List.length_append] at hns
  push_cast at hend hns
  omega

theorem accounted_of_inStep (hfresh : Fresh h₀) (hB : 1 ≤ h₀.batchSize.toInt) {ds : List Delivery}
    (hfuel : ∀ d ∈ ds, d.faults.length < fuel)
    (hsteps : ∀ n < ds.length, ∀ h, Handled fuel h₀ (ds.take n) h → InStep h)
    (hh : Handled fuel h₀ ds h) : Accounted (ds.map Delivery.message) h := by
  obtain ⟨h₁, hrun, -, hbooked⟩ := handled_run hfresh hB hfuel
  obtain ⟨cleared, hb⟩ := hbooked hsteps
  rw [hh.unique hrun]
  exact hb.accounted

theorem inStep_quiet_tail {ds : List Delivery} {h₁ : TxPublishHandler} (hrun : Handled fuel h₀ ds h₁)
    (hp : h₁.publisher.Ready) (hsteps : ∀ n ≤ ds.length, ∀ h, Handled fuel h₀ (ds.take n) h → InStep h)
    (ns : List ATCMessage) (j : ℕ) (hh : Handled fuel h₀ ((ds ++ ns.map quiet).take j) h) :
    InStep h := by
  rw [List.take_append, ← List.map_take] at hh
  rcases Nat.le_total j ds.length with hle | hle
  · rw [Nat.sub_eq_zero_of_le hle, List.take_zero, List.map_nil, List.append_nil] at hh
    exact hsteps j hle h hh
  · rw [List.take_of_length_le hle] at hh
    have hi := hsteps ds.length le_rfl h₁ (by rwa [List.take_length])
    obtain ⟨h₂, hrest, hi₂, -⟩ := hi.quiet_run hp fuel (ns.take (j - ds.length))
    rw [hh.unique (hrun.append hrest)]
    exact hi₂

/-- For every batch size from 1 on, every sequence of message events and all failures and
interrupts that meet them: every run returns; in a run whose events are all handled in step no
message is lost or falsely counted; and the states of a run are all in step exactly when no quiet
continuation of any part of it loses or falsely counts a message. -/
theorem accounted_iff_inStep (hfresh : Fresh h₀) (hB : 1 ≤ h₀.batchSize.toInt) (hpos : 0 < fuel)
    (ds : List Delivery) (hfuel : ∀ d ∈ ds, d.faults.length < fuel) :
    (∃ h, Handled fuel h₀ ds h) ∧
    ((∀ n < ds.length, ∀ h, Handled fuel h₀ (ds.take n) h → InStep h) →
      ∀ n ≤ ds.length, ∀ h, Handled fuel h₀ (ds.take n) h →
        Accounted ((ds.take n).map Delivery.message) h) ∧
    ((∀ n ≤ ds.length, ∀ ns h, Handled fuel h₀ (ds.take n ++ ns.map quiet) h →
        Accounted ((ds.take n).map Delivery.message ++ ns) h) ↔
      ∀ n ≤ ds.length, ∀ h, Handled fuel h₀ (ds.take n) h → InStep h) := by
  have htake : ∀ n, ∀ d ∈ ds.take n, d.faults.length < fuel :=
    fun n d hd ↦ hfuel d (List.mem_of_mem_take hd)
  refine ⟨?_, ?_, ?_, ?_⟩
  · obtain ⟨h, hrun, -⟩ := handled_run hfresh hB hfuel
    exact ⟨h, hrun⟩
  · intro hsteps n hn h hh
    refine accounted_of_inStep hfresh hB (htake n) (fun j hj h₂ hh₂ ↦ ?_) hh
    rw [List.length_take] at hj
    rw [List.take_take, min_eq_left (by omega)] at hh₂
    exact hsteps j (by omega) h₂ hh₂
  · intro hquiet n hn h hh
    obtain ⟨h₁, hrun, hs, -⟩ := handled_run hfresh hB (htake n)
    rw [hh.unique hrun]
    have hafter : ∀ ns h', Handled fuel h₁ (ns.map quiet) h' →
        Accounted ((ds.take n).map Delivery.message ++ ns) h' :=
      fun ns h' hns ↦ hquiet n hn ns h' (hrun.append hns)
    exact ⟨transaction_eq_of_accounted hs hafter, pending_lt_of_accounted hs hafter⟩
  · intro hsteps n hn ns h hh
    obtain ⟨h₁, hrun, hs, -⟩ := handled_run hfresh hB (htake n)
    have hall : ∀ d ∈ ds.take n ++ ns.map quiet, d.faults.length < fuel := by
      intro d hd
      rcases List.mem_append.mp hd with hd | hd
      · exact htake n d hd
      · obtain ⟨m, -, rfl⟩ := List.mem_map.mp hd
        exact hpos
    have hsteps' : ∀ j ≤ (ds.take n).length, ∀ h, Handled fuel h₀ ((ds.take n).take j) h → InStep h := by
      intro j hj h₂ hh₂
      rw [List.length_take] at hj
      rw [List.take_take, min_eq_left (by omega)] at hh₂
      exact hsteps j (by omega) h₂ hh₂
    have haccounted := accounted_of_inStep hfresh hB hall
      (fun j _ _ hh₂ ↦ inStep_quiet_tail hrun hs.ready hsteps' ns j hh₂) hh
    rw [List.map_append, List.map_map] at haccounted
    have hmessages : ns.map (Delivery.message ∘ quiet) = ns := List.map_id ns
    rwa [hmessages] at haccounted

theorem accounted_iff_inStep_three :
    let p : SimplePublisher := .init .queueSender { isTransactional := true }
    let h₀ : TxPublishHandler := { batchSize := 2, publisher := p }
    let ds : List Delivery := [quiet { text := some "a" },
      ⟨{ text := some "b" }, [.raises false, .raises true], ⟨false, [false, true]⟩⟩,
      quiet { text := some "c" }]
    (∃ h, Handled 3 h₀ ds h) ∧
    ((∀ n < ds.length, ∀ h, Handled 3 h₀ (ds.take n) h → InStep h) →
      ∀ n ≤ ds.length, ∀ h, Handled 3 h₀ (ds.take n) h →
        Accounted ((ds.take n).map Delivery.message) h) ∧
    ((∀ n ≤ ds.length, ∀ ns h, Handled 3 h₀ (ds.take n ++ ns.map quiet) h →
        Accounted ((ds.take n).map Delivery.message ++ ns) h) ↔
      ∀ n ≤ ds.length, ∀ h, Handled 3 h₀ (ds.take n) h → InStep h) := by
  intro p h₀ ds
  exact accounted_iff_inStep ⟨⟨⟨rfl, rfl, rfl⟩, rfl, by simp [h₀]⟩, rfl, rfl, rfl, rfl, rfl⟩
    (by decide) (by decide) ds (by simp [ds, quiet])

/-- Batches of two: the first send fails and its wait is interrupted, the second event meets no
failure. The commit counts two messages and shows one, and the first is neither shown nor pending. -/
theorem interrupted_retry_loses :
    let p : SimplePublisher := .init .queueSender { isTransactional := true }
    let h₀ : TxPublishHandler := { batchSize := 2, publisher := p }
    let m : ATCMessage := { text := some "a" }
    let m' : ATCMessage := { text := some "b" }
    ∃ h, Handled 2 h₀ [⟨m, [.raises false], ⟨false, [true]⟩⟩, ⟨m', [], ⟨true, []⟩⟩] h ∧
      h.messagesList = [] ∧ h.sentCount.added = 2 ∧
      h.publisher.session.committed = [[MessageUtils.fromATCToJMS m']] ∧ ¬ Accounted [m, m'] h := by
  refine ⟨_, rfl, rfl, rfl, rfl, fun h ↦ ?_⟩
  exact absurd h.count_eq (by decide)

end TxPublishHandler

end AndesTestClient
