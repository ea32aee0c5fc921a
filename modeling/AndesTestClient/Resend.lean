import AndesTestClient.TxPublishHandler

namespace AndesTestClient

open Imperative

namespace TxPublishHandler

structure Repairable (h : TxPublishHandler) : Prop where
  uninterrupted : h.thread.Uninterrupted
  session : h.publisher.sessionOpen = true
  transacted : h.publisher.session.transacted = true
  sender : h.publisher.senderOpen = true ∨ h.messagesList = []

structure Repaired (h h' : TxPublishHandler) : Prop where
  committed_eq : h'.publisher.session.committed =
    h.publisher.session.committed ++ [h.messagesList.map MessageUtils.fromATCToJMS]
  messagesList_eq : h'.messagesList = []
  transaction_eq : h'.publisher.session.transaction = []
  sentCount_eq : h'.sentCount = h.sentCount.addAndGet (size h.messagesList)
  publishRate_eq : h'.publishRate = h.publishRate.mark (size h.messagesList)

theorem Flushed.repaired {h h' : TxPublishHandler} (hf : Flushed h h') : Repaired h h' where
  committed_eq := hf.committed_eq
  messagesList_eq := hf.messagesList_eq
  transaction_eq := hf.transaction_eq
  sentCount_eq := hf.sentCount_eq
  publishRate_eq := hf.publishRate_eq

theorem Repaired.of_failed {h h₁ h' : TxPublishHandler} (hr : Repaired h₁ h')
    (hcommitted : h₁.publisher.session.committed = h.publisher.session.committed)
    (hlist : h₁.messagesList = h.messagesList) (hsent : h₁.sentCount = h.sentCount)
    (hrate : h₁.publishRate = h.publishRate) : Repaired h h' where
  committed_eq := by rw [hr.committed_eq, hcommitted, hlist]
  messagesList_eq := hr.messagesList_eq
  transaction_eq := hr.transaction_eq
  sentCount_eq := by rw [hr.sentCount_eq, hsent, hlist]
  publishRate_eq := by rw [hr.publishRate_eq, hrate, hlist]

theorem tryResend_nothing {h : TxPublishHandler} (hlist : h.messagesList = []) {t : Thread}
    {p : SimplePublisher} (hsleep : exec Thread.sleep h.thread = some (.ok (), t))
    (hrollback : exec SimplePublisher.rollback h.publisher = some (.ok (), p)) :
    exec tryResend h = exec (do onPublisher SimplePublisher.commit; countBatch)
      { h with thread := t, publisher := p } := by
  have hslept : exec (onThread Thread.sleep) h = some (.ok (), { h with thread := t }) :=
    exec_within_of hsleep
  have hrolled : exec (onPublisher SimplePublisher.rollback) { h with thread := t } =
      some (.ok (), { h with thread := t, publisher := p }) := exec_onPublisher hrollback
  have hnone : ∀ l, l = [] →
      exec (forM l fun m ↦ onPublisher (SimplePublisher.send m)) { h with thread := t, publisher := p } =
        some (.ok (), { h with thread := t, publisher := p }) := by
    intro l hl
    rw [hl]
    rfl
  rw [tryResend, exec_bind_ok hslept, exec_bind_ok hrolled, exec_bind_ok (exec_observe _ _),
    exec_bind_ok (hnone _ hlist)]

theorem Repairable.failed {h : TxPublishHandler} (hh : Repairable h) (hlist : h.messagesList = [])
    {t : Thread} (ht : t.Uninterrupted) (q : SimplePublisher) (hopen : q.sessionOpen = true)
    (hsession : q.session = h.publisher.session ∨ q.session = h.publisher.session.rollback) :
    Repairable { h with thread := t, publisher := q } ∧
      ∀ h', Repaired { h with thread := t, publisher := q } h' → Repaired h h' := by
  have hkept : q.session.transacted = h.publisher.session.transacted ∧
      q.session.committed = h.publisher.session.committed := by
    rcases hsession with hs | hs
    · rw [hs]
      exact ⟨rfl, rfl⟩
    · rw [hs]
      exact ⟨rfl, rfl⟩
  refine ⟨⟨ht, hopen, hkept.1.trans hh.transacted, .inr hlist⟩, ?_⟩
  intro h' hr
  exact hr.of_failed hkept.2 rfl rfl rfl

theorem Repairable.attempt_nothing {h : TxPublishHandler} (hh : Repairable h)
    (hlist : h.messagesList = []) : Attempts Repairable Repaired h := by
  obtain ⟨t, hsleep, ht⟩ := Thread.sleep_uninterrupted hh.uninterrupted
  have hslept : exec (onThread Thread.sleep) h = some (.ok (), { h with thread := t }) :=
    exec_within_of hsleep
  have hrollback := SimplePublisher.rollback_call hh.session hh.transacted
  rcases SimplePublisher.call_cases Session.rollback Session.rollback _ h.publisher with
    ⟨rest, hrolled, hle⟩ | ⟨e, session, rest, hrolled, hs, hlt⟩
  case inr =>
    obtain ⟨hh₁, hr⟩ := hh.failed hlist ht { h.publisher with
      session := session
      faults := rest
      failures := h.publisher.failures + 1 } hh.session hs
    refine .inr ⟨e, _, ?_, hh₁, hlt, hr⟩
    rw [tryResend, exec_bind_ok hslept]
    exact exec_bind_error (exec_onPublisher (h := { h with thread := t }) (hrollback.trans hrolled))
  let p : SimplePublisher := { h.publisher with session := h.publisher.session.rollback, faults := rest }
  have hattempt := tryResend_nothing hlist hsleep (hrollback.trans hrolled)
  have hcommit := SimplePublisher.commit_call (p := p) hh.session hh.transacted
  rcases SimplePublisher.call_cases Session.commit Session.rollback _ p with
    ⟨rest', hcommitted, -⟩ | ⟨e, session, rest', hcommitted, hs, hlt⟩
  · rw [exec_bind_ok (exec_onPublisher (h := { h with thread := t, publisher := p })
      (hcommit.trans hcommitted))] at hattempt
    refine .inl ⟨_, hattempt.trans (exec_countBatch _), ?_, rfl, rfl, rfl, rfl⟩
    rw [hlist]
    rfl
  · rw [exec_bind_error (exec_onPublisher (h := { h with thread := t, publisher := p })
      (hcommit.trans hcommitted))] at hattempt
    obtain ⟨hh₁, hr⟩ := hh.failed hlist ht { p with
      session := session
      faults := rest'
      failures := p.failures + 1 } hh.session (.inr (hs.elim id id))
    exact .inr ⟨e, _, hattempt, hh₁, hlt.trans_le hle, hr⟩

theorem Repairable.attempt {h : TxPublishHandler} (hh : Repairable h) :
    Attempts Repairable Repaired h := by
  by_cases hsender : h.publisher.senderOpen = true
  · rcases tryResend_spec ⟨⟨hsender, hh.session, hh.transacted⟩, hh.uninterrupted⟩ with
      ⟨h', hrun, hf⟩ | ⟨e, h₁, hrun, hs⟩
    · exact .inl ⟨h', hrun, hf.repaired⟩
    · have hready := hs.live.ready
      have hh₁ : Repairable h₁ :=
        ⟨hs.uninterrupted, hready.session, hready.transacted, .inl hready.sender⟩
      refine .inr ⟨e, h₁, hrun, hh₁, hs.raised.faults_lt, ?_⟩
      intro h' hr
      exact hr.of_failed hs.raised.committed_eq hs.messagesList_eq hs.sentCount_eq hs.publishRate_eq
  · exact hh.attempt_nothing (hh.sender.resolve_left hsender)

theorem Repairable.resend {h : TxPublishHandler} (hh : Repairable h) :
    ∃ h', (∀ fuel, h.publisher.faults.length < fuel → exec (resend fuel) h = some (.ok (), h')) ∧
      Repaired h h' :=
  resend_returns (fun _ ↦ Repairable.attempt) hh

/-- Whatever the open transaction holds and however many attempts fail, at the rollback, at a send or
at the commit: `resend` returns, with the pending list visible once as one transaction and counted
once. -/
theorem resend_repairs {h : TxPublishHandler} (hh : Repairable h) :
    ∃ h', (∀ fuel, h.publisher.faults.length < fuel → exec (resend fuel) h = some (.ok (), h')) ∧
      (∃ tx, List.Forall₂ MessageUtils.Carries h.messagesList tx ∧
        h'.publisher.session.committed = h.publisher.session.committed ++ [tx]) ∧
      h'.messagesList = [] ∧ h'.publisher.session.transaction = [] ∧
      h'.sentCount = h.sentCount.addAndGet (size h.messagesList) ∧
      h'.publishRate = h.publishRate.mark (size h.messagesList) := by
  obtain ⟨h', hrun, hr⟩ := hh.resend
  have hcarried : List.Forall₂ MessageUtils.Carries h.messagesList
      (h.messagesList.map MessageUtils.fromATCToJMS) := MessageUtils.forall₂_carries_iff.mpr rfl
  exact ⟨h', hrun, ⟨_, hcarried, hr.committed_eq⟩, hr.messagesList_eq, hr.transaction_eq, hr.sentCount_eq,
    hr.publishRate_eq⟩

/-- Two messages are pending while the open transaction holds another one. The rollback raises
without having acted, then the second send raises after it has acted, then the commit raises. -/
theorem resend_repairs_three_failures :
    let unrelated := MessageUtils.fromATCToJMS { text := some "x" }
    let p : SimplePublisher := { SimplePublisher.init .queueSender { isTransactional := true } with
      session := { transacted := true, transaction := [unrelated] }
      faults := [.raises false, .returns, .returns, .raises true, .returns, .returns, .returns,
        .raises false] }
    let h : TxPublishHandler :=
      { batchSize := 5, publisher := p, messagesList := [{ text := some "a" }, { text := some "b" }] }
    ∃ h', (∀ fuel, 8 < fuel → exec (resend fuel) h = some (.ok (), h')) ∧
      (∃ tx, List.Forall₂ MessageUtils.Carries h.messagesList tx ∧
        h'.publisher.session.committed = [tx]) ∧
      h'.messagesList = [] ∧ h'.publisher.session.transaction = [] ∧
      h'.sentCount = ⟨2, 2⟩ ∧ h'.publishRate = ⟨2⟩ := by
  intro unrelated p h
  exact resend_repairs (h := h) ⟨⟨rfl, by simp [h]⟩, rfl, rfl, .inl rfl⟩

end TxPublishHandler

end AndesTestClient
