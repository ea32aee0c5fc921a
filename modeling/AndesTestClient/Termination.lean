import AndesTestClient.Delivery
import AndesTestClient.Library.RingProgress

namespace AndesTestClient

open Imperative RingBuffer

namespace HandlerPoint

def rank : HandlerPoint → ℕ
  | .dispatch _ => 5
  | .add _ => 4
  | .send _ => 3
  | .commit _ => 2
  | .close _ => 1
  | .resend _ => 0

theorem next_cases {on : TxPublishHandler → HandlerPoint ⊕ TxPublishHandler} {p : HandlerPoint}
    {x : Option (Except Thrown Unit × TxPublishHandler)} (hx : next on x = some (.inl p)) :
    (∃ h, on h = .inl p) ∨ ∃ h, p = .resend h := by
  rw [next.eq_def] at hx
  split at hx
  · exact .inl ⟨_, Option.some.inj hx⟩
  · cases hx
    exact .inr ⟨_, rfl⟩
  · cases hx

/-- `onEvent` has no loop but that of `resend`: each statement is behind the one before it. -/
theorem rank_lt {fuel : ℕ} {p p' : HandlerPoint} {c : PublishEvent}
    (hstep : advance fuel p c = some (.inl p')) : p'.rank < p.rank := by
  cases p with
  | dispatch h =>
    cases hstep
    split_ifs <;> simp [rank]
  | add h =>
    obtain ⟨m, -, hm⟩ := Option.map_eq_some_iff.mp hstep
    cases hm
    simp [rank]
  | send h =>
    obtain ⟨m, -, hstep⟩ := Option.bind_eq_some_iff.mp hstep
    rcases next_cases hstep with ⟨g, hg⟩ | ⟨g, rfl⟩
    · cases hg
      simp [rank]
    · simp [rank]
  | commit h =>
    rcases next_cases hstep with ⟨g, hg⟩ | ⟨g, rfl⟩
    · cases hg
      simp [rank]
    · simp [rank]
  | close h =>
    simp only [advance] at hstep
    split_ifs at hstep
    · rcases next_cases hstep with ⟨g, hg⟩ | ⟨g, rfl⟩
      · cases hg
      · simp [rank]
    · cases hstep
  | resend h =>
    simp only [advance] at hstep
    split at hstep <;> cases hstep

end HandlerPoint

namespace DisruptorBasedPublisher

variable {fuel : ℕ} {c : PublishEvent} {h h' : TxPublishHandler} {point : HandlerPoint}

theorem next_of_guarded {p q : Java TxPublishHandler Unit} (fuel : ℕ)
    (on : TxPublishHandler → HandlerPoint ⊕ TxPublishHandler)
    (hrun : exec (tryCatch (do p; q) (onException fuel)) h = some (.ok (), h')) :
    HandlerPoint.next on (exec p h) ≠ none := by
  cases hp : exec p h with
  | none => simp [exec_tryCatch, exec_bind, hp] at hrun
  | some r =>
    obtain ⟨⟨e⟩ | ⟨⟨⟩⟩, g⟩ := r
    · rw [exec_tryCatch_error (exec_bind_error hp)] at hrun
      cases e <;> first | exact Option.some_ne_none _ | cases hrun
    · exact Option.some_ne_none _

theorem advance_of_remaining (hrun : remaining fuel c point = some (.ok (), h')) :
    HandlerPoint.advance fuel point c ≠ none := by
  cases point with
  | dispatch h => exact Option.some_ne_none _
  | add h =>
    cases hm : c.atcMessage with
    | none =>
      simp only [remaining, fromAdd, hm] at hrun
      cases hrun
    | some m =>
      simp only [HandlerPoint.advance, hm]
      exact Option.some_ne_none _
  | send h =>
    cases hm : c.atcMessage with
    | none =>
      simp only [remaining, fromSend, hm] at hrun
      cases hrun
    | some m =>
      simp only [HandlerPoint.advance, hm]
      simp only [remaining, fromSend, hm] at hrun
      exact next_of_guarded fuel _ ((exec_tryCatch_bind_ok (exec_pure m h)).symm.trans hrun)
  | commit h => exact next_of_guarded fuel _ hrun
  | close h =>
    simp only [HandlerPoint.advance]
    split_ifs with htype
    · simp only [remaining, fromClose, if_pos htype] at hrun
      rw [← bind_pure_unit (x := TxPublishHandler.onPublisher SimplePublisher.close)] at hrun
      exact next_of_guarded fuel _ hrun
    · exact Option.some_ne_none _
  | resend h =>
    change exec (TxPublishHandler.resend fuel) h = _ at hrun
    simp only [HandlerPoint.advance, hrun]
    exact Option.some_ne_none _

theorem proceeds (hcall : exec (TxPublishHandler.onEvent fuel c) h = some (.ok (), h'))
    (hreach : Relation.ReflTransGen (fun l l' ↦ HandlerPoint.advance fuel l c = some (.inl l'))
      (.dispatch h) point) : HandlerPoint.advance fuel point c ≠ none := by
  have hrun : remaining fuel c (.dispatch h) = remaining fuel c point := by
    induction hreach with
    | refl => rfl
    | tail _ hstep ih => exact ih.trans (remaining_advance hstep)
  exact advance_of_remaining (hrun.symm.trans hcall)

end DisruptorBasedPublisher

namespace TxPublishHandler

variable {fuel k n : ℕ} {h₀ h : TxPublishHandler} {messages : List ATCMessage} {point : HandlerPoint}

end TxPublishHandler

namespace DisruptorBasedPublisher

open TxPublishHandler

variable {fuel : ℕ} {messages : List ATCMessage} {h₀ : TxPublishHandler} {t : PublisherThread}
  {s : State PublishEvent HandlerPoint TxPublishHandler} {turns : List Turn}

def ranking (fuel : ℕ) (messages : List ATCMessage) : Ranking (disruptor fuel messages) where
  rank := HandlerPoint.rank
  bound := 5
  enter_le _ := le_rfl
  advance_lt _ _ _ := HandlerPoint.rank_lt

theorem work_init (h₀ : TxPublishHandler) :
    Design.work (ranking fuel messages) ((disruptor fuel messages).init h₀) =
      14 * messages.length + 13 := by
  have hjobs : ((disruptor fuel messages).jobs.map (·.length + 2)).sum = 4 * messages.length + 3 := by
    have hwrites : (fun job : List (PublishEvent → PublishEvent) ↦ job.length + 2) ∘ publish =
        Function.const _ 4 := rfl
    change ((messages.map publish ++ [closePublisher]).map (·.length + 2)).sum = _
    rw [List.map_append, List.map_map, hwrites, List.sum_append, List.map_const,
      List.sum_replicate_nat, Nat.mul_comm]
    rfl
  have hlength : (disruptor fuel messages).jobs.length = messages.length + 1 := by
    simp [disruptor]
  rw [Design.init_work, hjobs, hlength]
  change _ + (messages.length + 1) * (5 + 2 + 3) = _
  omega

end DisruptorBasedPublisher

end AndesTestClient
