import AndesTestClient.DisruptorBasedPublisher

namespace AndesTestClient

open RingBuffer

namespace DisruptorBasedPublisher

/-- Where the producer is: in its loop and in `closePublisher`, in `disruptor.shutdown` waiting for
the backlog, after the halt, in `executorPool.awaitTermination`, or back in its caller. -/
inductive ShutdownPoint
  | publishing
  | waiting
  | halted
  | terminating
  | returned
deriving DecidableEq, Repr

structure Shutdown where
  ring : State PublishEvent HandlerPoint TxPublishHandler
  point : ShutdownPoint := .publishing
  processorHalted : Bool := false
  executorShutdown : Bool := false
  interrupted : Bool := false
  errorLogged : Bool := false

inductive Move
  | producer
  | handler
  | timeout
  | interrupt
deriving DecidableEq, Repr

variable (d : Design PublishEvent HandlerPoint TxPublishHandler)

def hasBacklog (s : State PublishEvent HandlerPoint TxPublishHandler) : Prop :=
  s.handled < s.published

instance (s : State PublishEvent HandlerPoint TxPublishHandler) : Decidable (hasBacklog s) :=
  inferInstanceAs (Decidable (s.handled < s.published))

/-- The producer publishes its events and then calls `shutdown`. While there is a backlog,
`disruptor.shutdown` only looks again. An interrupt ends `awaitTermination` early. -/
def produceOrStop (s : Shutdown) : Option Shutdown :=
  match s.point with
  | .publishing =>
    if s.ring.published = d.jobs.length ∧ s.ring.claimed = none then some { s with point := .waiting }
    else (d.produce s.ring).map fun ring ↦ { s with ring := ring }
  | .waiting =>
    if hasBacklog s.ring then some s else some { s with processorHalted := true, point := .halted }
  | .halted => some { s with executorShutdown := true, point := .terminating }
  | .terminating => some { s with point := .returned }
  | .returned => none

/-- The `TimeoutException` is logged, and the statements after `disruptor.shutdown` are skipped. -/
def timeout (s : Shutdown) : Option Shutdown :=
  if s.point = .waiting ∧ hasBacklog s.ring then
    some { s with errorLogged := true, point := .returned }
  else none

def move (s : Shutdown) : Move → Option Shutdown
  | .producer => produceOrStop d s
  | .handler =>
    if s.processorHalted then none else (d.consume s.ring).map fun ring ↦ { s with ring := ring }
  | .timeout => timeout s
  | .interrupt => some { s with interrupted := true }

def moves (s : Shutdown) (ms : List Move) : Option Shutdown := ms.foldlM (move d) s

variable {d} {h₀ : TxPublishHandler} {s s' : Shutdown}

def Stopped (d : Design PublishEvent HandlerPoint TxPublishHandler) (s : Shutdown) : Prop :=
  s.ring.published = d.jobs.length ∧ s.ring.handled = s.ring.published ∧
    s.processorHalted = true ∧ s.executorShutdown = true

/-- What is known at each point of the producer. A producer that is back has either stopped the
handler or logged the timeout and left it running. -/
def Known (d : Design PublishEvent HandlerPoint TxPublishHandler) (s : Shutdown) : Prop :=
  match s.point with
  | .publishing => s.processorHalted = false ∧ s.errorLogged = false
  | .waiting => s.processorHalted = false ∧ s.errorLogged = false ∧
      s.ring.published = d.jobs.length ∧ s.ring.claimed = none
  | .halted => Stopped d { s with executorShutdown := true } ∧ s.errorLogged = false
  | .terminating => Stopped d s ∧ s.errorLogged = false
  | .returned => Stopped d s ∧ s.errorLogged = false ∨
      s.processorHalted = false ∧ s.errorLogged = true

theorem consume_published {ring ring' : State PublishEvent HandlerPoint TxPublishHandler}
    (h : d.consume ring = some ring') :
    ring'.published = ring.published ∧ ring'.claimed = ring.claimed := by
  rw [Design.consume] at h
  split at h
  · split_ifs at h
    cases h
    exact ⟨rfl, rfl⟩
  · obtain ⟨x, -, rfl⟩ := Option.map_eq_some_iff.mp h
    cases x <;> exact ⟨rfl, rfl⟩
  · cases h
    exact ⟨rfl, rfl⟩
  · cases h
    exact ⟨rfl, rfl⟩

theorem produceOrStop_known (hi : d.Inv h₀ s.ring) (hk : Known d s)
    (hstep : produceOrStop d s = some s') :
    d.Inv h₀ s'.ring ∧ Known d s' ∧ s'.errorLogged = s.errorLogged := by
  rw [produceOrStop] at hstep
  cases hp : s.point <;> simp only [Known, hp] at hk hstep
  case publishing =>
    split_ifs at hstep with hend
    · cases hstep
      exact ⟨hi, ⟨hk.1, hk.2, hend.1, hend.2⟩, rfl⟩
    · obtain ⟨ring, hring, rfl⟩ := Option.map_eq_some_iff.mp hstep
      refine ⟨Design.produce_inv hi hring, ?_, rfl⟩
      simpa only [Known, hp] using hk
  case waiting =>
    split_ifs at hstep with hbacklog
    · cases hstep
      refine ⟨hi, ?_, rfl⟩
      simpa only [Known, hp] using hk
    · cases hstep
      have hle := hi.handled_le
      have hnot : ¬ s.ring.handled < s.ring.published := hbacklog
      exact ⟨hi, ⟨⟨hk.2.2.1, by simp only; omega, rfl, rfl⟩, hk.2.1⟩, rfl⟩
  case halted =>
    cases hstep
    exact ⟨hi, hk, rfl⟩
  case terminating =>
    cases hstep
    exact ⟨hi, .inl hk, rfl⟩
  case returned => cases hstep

theorem consume_known (hi : d.Inv h₀ s.ring) (hk : Known d s) (hrunning : s.processorHalted = false)
    {ring : State PublishEvent HandlerPoint TxPublishHandler} (hring : d.consume s.ring = some ring) :
    d.Inv h₀ ring ∧ Known d { s with ring := ring } := by
  obtain ⟨hpublished, hclaimed⟩ := consume_published hring
  refine ⟨Design.consume_inv hi hring, ?_⟩
  have hnot : ∀ {s : Shutdown}, s.processorHalted = false → ¬ Stopped d s :=
    fun h hs ↦ Bool.false_ne_true (h.symm.trans hs.2.2.1)
  cases hp : s.point <;> simp only [Known, hp] at hk ⊢
  case publishing => exact hk
  case waiting => exact ⟨hk.1, hk.2.1, hpublished.trans hk.2.2.1, hclaimed.trans hk.2.2.2⟩
  case halted => exact absurd hk.1 (hnot hrunning)
  case terminating => exact absurd hk.1 (hnot hrunning)
  case returned => exact hk.imp (fun h ↦ absurd h.1 (hnot hrunning)) id

theorem move_known {m : Move} (hi : d.Inv h₀ s.ring) (hk : Known d s) (hstep : move d s m = some s') :
    d.Inv h₀ s'.ring ∧ Known d s' ∧
      (s'.errorLogged = true ↔ s.errorLogged = true ∨ m = .timeout) := by
  cases m with
  | producer =>
    obtain ⟨hi', hk', hlog⟩ := produceOrStop_known hi hk hstep
    exact ⟨hi', hk', by simp [hlog]⟩
  | handler =>
    simp only [move] at hstep
    split_ifs at hstep with hhalted
    obtain ⟨ring, hring, rfl⟩ := Option.map_eq_some_iff.mp hstep
    obtain ⟨hi', hk'⟩ := consume_known hi hk (Bool.not_eq_true _ ▸ hhalted) hring
    exact ⟨hi', hk', by simp⟩
  | timeout =>
    simp only [move, timeout] at hstep
    split_ifs at hstep with hwait
    cases hstep
    simp only [Known, hwait.1] at hk
    exact ⟨hi, .inr ⟨hk.1, rfl⟩, by simp⟩
  | interrupt =>
    cases hstep
    exact ⟨hi, hk, by simp⟩

theorem moves_known {ms : List Move} (hi : d.Inv h₀ s.ring) (hk : Known d s)
    (hrun : moves d s ms = some s') :
    Known d s' ∧ (s'.errorLogged = true ↔ s.errorLogged = true ∨ .timeout ∈ ms) := by
  refine (Runs.history (R := fun s₁ done ↦ d.Inv h₀ s₁.ring ∧ Known d s₁ ∧
    (s₁.errorLogged = true ↔ s.errorLogged = true ∨ .timeout ∈ done)) ?_ ⟨hi, hk, by simp⟩ hrun).2
  rintro s₁ done m s₂ ⟨hi₁, hk₁, hlog₁⟩ hstep
  obtain ⟨hi₂, hk₂, hlog₂⟩ := move_known hi₁ hk₁ hstep
  refine ⟨hi₂, hk₂, ?_⟩
  rw [hlog₂, hlog₁, List.mem_append, List.mem_singleton, or_assoc, @eq_comm _ m]

/-- In every run in which `shutdown` has returned, it has stopped a handler that has dealt with
every event, the close event included, if and only if the timeout never passed. -/
theorem stopped_iff (fuel : ℕ) (messages : List ATCMessage) (h₀ : TxPublishHandler)
    (ms : List Move) {s : Shutdown}
    (hrun : moves (disruptor fuel messages) { ring := (disruptor fuel messages).init h₀ } ms = some s)
    (hreturned : s.point = .returned) :
    Stopped (disruptor fuel messages) s ↔ .timeout ∉ ms := by
  have hstart : Known (disruptor fuel messages) { ring := (disruptor fuel messages).init h₀ } :=
    ⟨rfl, rfl⟩
  obtain ⟨hk, hlog⟩ := moves_known (Design.init_inv (disruptor fuel messages) h₀) hstart hrun
  simp only [Known, hreturned] at hk
  have htimeout : s.errorLogged = true ↔ .timeout ∈ ms := by simpa using hlog
  rw [← htimeout]
  rcases hk with ⟨hstopped, herror⟩ | ⟨hrunning, herror⟩
  · exact iff_of_true hstopped (by simp [herror])
  · exact iff_of_false (fun h ↦ Bool.false_ne_true (hrunning.symm.trans h.2.2.1)) (by simp [herror])

theorem stopped_iff_patient :
    let h₀ : TxPublishHandler :=
      { batchSize := 1, publisher := .init .queueSender { isTransactional := true } }
    let ms : List Move := List.replicate 4 .producer ++ List.replicate 7 .handler ++
      List.replicate 3 .producer
    ∃ s, moves (disruptor 1 []) { ring := (disruptor 1 []).init h₀ } ms = some s ∧
      (Stopped (disruptor 1 []) s ↔ .timeout ∉ ms) := by
  intro h₀ ms
  have hruns : ((moves (disruptor 1 []) { ring := (disruptor 1 []).init h₀ } ms).map
      Shutdown.point) = some .returned := rfl
  obtain ⟨s, hs, hreturned⟩ := Option.map_eq_some_iff.mp hruns
  exact ⟨s, hs, stopped_iff 1 [] h₀ ms hs hreturned⟩

/-- The timeout passes before the handler has looked at the close event. -/
theorem timeout_leaves_running :
    let h₀ : TxPublishHandler :=
      { batchSize := 1, publisher := .init .queueSender { isTransactional := true } }
    let ms : List Move := List.replicate 4 .producer ++ [.timeout]
    ∃ s, moves (disruptor 1 []) { ring := (disruptor 1 []).init h₀ } ms = some s ∧
      s.point = .returned ∧ s.interrupted = false ∧ s.ring.published = 1 ∧ s.ring.handled = 0 ∧
      s.processorHalted = false ∧ s.executorShutdown = false ∧ ¬ Stopped (disruptor 1 []) s := by
  refine ⟨_, rfl, rfl, rfl, rfl, rfl, rfl, rfl, fun h ↦ ?_⟩
  exact Bool.false_ne_true h.2.2.1

end DisruptorBasedPublisher

end AndesTestClient
