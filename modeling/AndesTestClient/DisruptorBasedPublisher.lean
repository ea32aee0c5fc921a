import AndesTestClient.Library.RingInvariant
import AndesTestClient.TxPublishHandler

namespace AndesTestClient

open Imperative RingBuffer

def PublishEvent.clear : List (PublishEvent → PublishEvent) :=
  [fun e ↦ { e with atcMessage := none }, fun e ↦ { e with type := none }]

/-- Where `onEvent` is: about to choose by the type, to read the message for the list, to read it
again for the session, to compare the size of the list, to read the type again, or to retry. -/
inductive HandlerPoint
  | dispatch (h : TxPublishHandler)
  | add (h : TxPublishHandler)
  | send (h : TxPublishHandler)
  | commit (h : TxPublishHandler)
  | close (h : TxPublishHandler)
  | resend (h : TxPublishHandler)
deriving DecidableEq, Repr

namespace HandlerPoint

def next (on : TxPublishHandler → HandlerPoint ⊕ TxPublishHandler) :
    Option (Except Thrown Unit × TxPublishHandler) → Option (HandlerPoint ⊕ TxPublishHandler)
  | some (.ok (), h) => some (on h)
  | some (.error (.atcException _), h) => some (.inl (.resend h))
  | _ => none

/-- One statement of `onEvent`, with the value that its slot has when it is executed. -/
def advance (fuel : ℕ) (point : HandlerPoint) (event : PublishEvent) :
    Option (HandlerPoint ⊕ TxPublishHandler) :=
  match point with
  | .dispatch h => some (.inl (if event.type ≠ some .CLOSE_PUB then .add h else .commit h))
  | .add h => event.atcMessage.map fun m ↦
      .inl (.send { h with messagesList := h.messagesList ++ [m] })
  | .send h => event.atcMessage.bind fun m ↦
      next (.inl ∘ .commit) (exec (TxPublishHandler.onPublisher (SimplePublisher.send m)) h)
  | .commit h => next (.inl ∘ .close) (exec TxPublishHandler.commitFullBatch h)
  | .close h =>
    if event.type = some .CLOSE_PUB then
      next .inr (exec (TxPublishHandler.onPublisher SimplePublisher.close) h)
    else some (.inr h)
  | .resend h =>
    match exec (TxPublishHandler.resend fuel) h with
    | some (.ok (), h') => some (.inr h')
    | _ => none

end HandlerPoint

namespace DisruptorBasedPublisher

def DEFAULT_DISRUPTOR_BUFFER_SIZE : ℕ := 4096

/-- The writes of `publish` between the claim and the publication of its slot. -/
def publish (atcMessage : ATCMessage) : List (PublishEvent → PublishEvent) :=
  [fun e ↦ { e with atcMessage := some atcMessage }, fun e ↦ { e with type := some .MessageEvent }]

/-- The message field is left as it is found. -/
def closePublisher : List (PublishEvent → PublishEvent) :=
  [fun e ↦ { e with type := some .CLOSE_PUB }]

def disruptor (fuel : ℕ) (ms : List ATCMessage) :
    Design PublishEvent HandlerPoint TxPublishHandler where
  size := DEFAULT_DISRUPTOR_BUFFER_SIZE
  size_pos := by decide
  empty := {}
  jobs := ms.map publish ++ [closePublisher]
  clears := PublishEvent.clear
  cleared _ _ := rfl
  enter := .dispatch
  advance := HandlerPoint.advance fuel

variable {fuel : ℕ} {ms : List ATCMessage} {c : PublishEvent} {h h' h₀ : TxPublishHandler}

theorem events_eq (fuel : ℕ) (ms : List ATCMessage) :
    (disruptor fuel ms).events = ms.map .ofMessage ++ [.close] := by
  simp only [Design.events, disruptor, List.map_append, List.map_map]
  rfl

def onException (fuel : ℕ) : Thrown → Java TxPublishHandler Unit
  | .atcException _ => TxPublishHandler.resend fuel
  | e => throw e

def fromClose (event : PublishEvent) : Java TxPublishHandler Unit := do
  if event.type = some .CLOSE_PUB then
    TxPublishHandler.onPublisher SimplePublisher.close

def fromCommit (event : PublishEvent) : Java TxPublishHandler Unit := do
  TxPublishHandler.commitFullBatch
  fromClose event

def fromSend (event : PublishEvent) : Java TxPublishHandler Unit := do
  let atcMessage ← nonNull event.atcMessage
  TxPublishHandler.onPublisher (SimplePublisher.send atcMessage)
  fromCommit event

def fromAdd (event : PublishEvent) : Java TxPublishHandler Unit := do
  let atcMessage ← nonNull event.atcMessage
  update fun h ↦ { h with messagesList := h.messagesList ++ [atcMessage] }
  fromSend event

def remaining (fuel : ℕ) (event : PublishEvent) :
    HandlerPoint → Option (Except Thrown Unit × TxPublishHandler)
  | .dispatch h => exec (TxPublishHandler.onEvent fuel event) h
  | .add h => exec (tryCatch (fromAdd event) (onException fuel)) h
  | .send h => exec (tryCatch (fromSend event) (onException fuel)) h
  | .commit h => exec (tryCatch (fromCommit event) (onException fuel)) h
  | .close h => exec (tryCatch (fromClose event) (onException fuel)) h
  | .resend h => exec (TxPublishHandler.resend fuel) h

theorem exec_tryEvent (event : PublishEvent) (h : TxPublishHandler) :
    exec (TxPublishHandler.tryEvent event) h =
      exec (if event.type ≠ some .CLOSE_PUB then fromAdd event else fromCommit event) h := by
  by_cases htype : event.type = some .CLOSE_PUB
  · simp [TxPublishHandler.tryEvent, fromCommit, fromClose, htype]
  · cases hm : event.atcMessage <;>
      simp [TxPublishHandler.tryEvent, fromAdd, fromSend, fromCommit, fromClose, htype, hm, nonNull]

def rest (fuel : ℕ) (event : PublishEvent) :
    HandlerPoint ⊕ TxPublishHandler → Option (Except Thrown Unit × TxPublishHandler)
  | .inl point => remaining fuel event point
  | .inr h => some (.ok (), h)

theorem exec_guarded (fuel : ℕ) (c : PublishEvent) {p q : Java TxPublishHandler Unit}
    {on : TxPublishHandler → HandlerPoint ⊕ TxPublishHandler} {x : HandlerPoint ⊕ TxPublishHandler}
    (hx : HandlerPoint.next on (exec p h) = some x)
    (hon : ∀ h', exec (tryCatch q (onException fuel)) h' = rest fuel c (on h')) :
    exec (tryCatch (do p; q) (onException fuel)) h = rest fuel c x := by
  cases hp : exec p h with
  | none => simp [HandlerPoint.next, hp] at hx
  | some r =>
    obtain ⟨⟨e⟩ | ⟨⟨⟩⟩, h'⟩ := r
    · cases e <;> simp only [HandlerPoint.next, hp, Option.some.injEq, reduceCtorEq] at hx
      subst hx
      exact exec_tryCatch_error (exec_bind_error hp)
    · simp only [HandlerPoint.next, hp, Option.some.injEq] at hx
      subst hx
      exact (exec_tryCatch_bind_ok hp).trans (hon h')

theorem remaining_advance {point : HandlerPoint} {x : HandlerPoint ⊕ TxPublishHandler}
    (hx : HandlerPoint.advance fuel point c = some x) : remaining fuel c point = rest fuel c x := by
  cases point with
  | dispatch h =>
    cases hx
    change exec (tryCatch (TxPublishHandler.tryEvent c) (onException fuel)) h = _
    rw [exec_tryCatch, exec_tryEvent, ← exec_tryCatch]
    split_ifs <;> rfl
  | add h =>
    obtain ⟨m, hm, rfl⟩ := Option.map_eq_some_iff.mp hx
    change exec (tryCatch (fromAdd c) (onException fuel)) h = _
    rw [fromAdd, hm]
    exact (exec_tryCatch_bind_ok (exec_pure m h)).trans (exec_tryCatch_bind_ok (exec_update _ h))
  | send h =>
    obtain ⟨m, hm, hx⟩ := Option.bind_eq_some_iff.mp hx
    change exec (tryCatch (fromSend c) (onException fuel)) h = _
    rw [fromSend, hm]
    exact exec_guarded fuel c hx fun _ ↦ rfl
  | commit h => exact exec_guarded fuel c hx fun _ ↦ rfl
  | close h =>
    change exec (tryCatch (fromClose c) (onException fuel)) h = _
    rw [fromClose]
    simp only [HandlerPoint.advance] at hx
    split_ifs at hx with htype
    · have hguarded := exec_guarded fuel c (q := pure ()) hx fun _ ↦ rfl
      rwa [if_pos htype, ← bind_pure_unit (x := TxPublishHandler.onPublisher SimplePublisher.close)]
    · cases hx
      rw [if_neg htype]
      rfl
  | resend h =>
    change exec (TxPublishHandler.resend fuel) h = _
    simp only [HandlerPoint.advance] at hx
    split at hx
    · rename_i hrun
      cases hx
      exact hrun
    · cases hx

theorem calls_onEvent (hcall : (disruptor fuel ms).Calls c h h') :
    exec (TxPublishHandler.onEvent fuel c) h = some (.ok (), h') := by
  obtain ⟨point, hreach, hlast⟩ := hcall
  have hrun : remaining fuel c (.dispatch h) = remaining fuel c point := by
    clear hlast
    induction hreach with
    | refl => rfl
    | tail _ hstep ih => exact ih.trans (remaining_advance hstep)
  exact hrun.trans (remaining_advance hlast)

theorem callsAll_onEvents {events : List PublishEvent}
    (hcalls : (disruptor fuel ms).CallsAll h₀ events h) :
    exec (TxPublishHandler.onEvents fuel events) h₀ = some (.ok (), h) := by
  induction hcalls with
  | nil => exact TxPublishHandler.onEvents_nil fuel h₀
  | snoc _ hcall ih => exact TxPublishHandler.onEvents_snoc ih (calls_onEvent hcall)

/-- For every number of messages and every interleaving of the two threads, `onEvent` reads the
published events in order, each as it was published however often it reads it, and when it has
dealt with all of them it has done what direct calls do. -/
theorem hand_off_refines (fuel : ℕ) (ms : List ATCMessage) (h₀ : TxPublishHandler)
    (turns : List Turn) {s : State PublishEvent HandlerPoint TxPublishHandler}
    (hrun : (disruptor fuel ms).run ((disruptor fuel ms).init h₀) turns = some s) :
    s.reads.filterMap List.head? <+: ms.map .ofMessage ++ [.close] ∧
    (∀ (n : ℕ) loads, s.reads[n]? = some loads →
      ∀ c ∈ loads, (ms.map .ofMessage ++ [.close])[n]? = some c) ∧
    (∀ h, s.handler = .idle h → s.handled = ms.length + 1 →
      exec (TxPublishHandler.onEvents fuel (ms.map .ofMessage ++ [.close])) h₀ = some (.ok (), h)) := by
  have hi := Design.run_inv (Design.init_inv (disruptor fuel ms) h₀) hrun
  rw [← events_eq fuel ms]
  refine ⟨hi.reads_prefix, fun n loads hn c hc ↦ hi.mem_reads hn hc, fun h hh hall ↦ ?_⟩
  exact callsAll_onEvents (hi.callsAll hh (by simpa [disruptor] using hall))

theorem hand_off_refines_one :
    let m : ATCMessage := { text := some "a" }
    let p : SimplePublisher := .init .queueSender { isTransactional := true }
    let turns : List Turn := List.replicate 4 .producer ++ List.replicate 3 .handler ++
      List.replicate 2 .producer ++ List.replicate 6 .handler ++ [.producer] ++
      List.replicate 7 .handler
    ∃ s, (disruptor 1 [m]).run ((disruptor 1 [m]).init { batchSize := 1, publisher := p }) turns =
        some s ∧
      s.reads.filterMap List.head? <+: [m].map .ofMessage ++ [.close] ∧
      (∀ (n : ℕ) loads, s.reads[n]? = some loads →
        ∀ c ∈ loads, ([m].map .ofMessage ++ [PublishEvent.close])[n]? = some c) ∧
      (∀ h, s.handler = .idle h → s.handled = 1 + 1 →
        exec (TxPublishHandler.onEvents 1 ([m].map .ofMessage ++ [.close]))
          { batchSize := 1, publisher := p } = some (.ok (), h)) := by
  intro m p turns
  have hruns : ((disruptor 1 [m]).run ((disruptor 1 [m]).init { batchSize := 1, publisher := p })
      turns).isSome := rfl
  obtain ⟨s, hs⟩ := Option.isSome_iff_exists.mp hruns
  exact ⟨s, hs, hand_off_refines 1 [m] _ turns hs⟩

end DisruptorBasedPublisher

end AndesTestClient
