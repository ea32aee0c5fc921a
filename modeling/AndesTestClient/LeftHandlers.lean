import AndesTestClient.Completion

namespace AndesTestClient

open Imperative RingBuffer
open DisruptorBasedPublisher (Known)

/-- A transactional publisher whose rate limiter is refused after the constructor of its
`DisruptorBasedPublisher` has started the handler. -/
def JmsEndpoint.LeavesHandler : JmsEndpoint → Prop
  | subscriber _ _ => False
  | publisher _ conf => conf.isTransactional = true ∧ 0 ≤ conf.transactionBatchSize.toInt ∧
      conf.messagesPerSecond.toInt < 0

namespace EndpointThread

/-- Whether a thread that ends with this turn leaves the thread of its handler behind. The handler is
made and its `run` ends with an exception, or the executor of the handler has not been shut down. -/
def leavesHandler (fuel : ℕ) (w : Surroundings) (e : JmsEndpoint) : EndpointThread → Bool
  | started =>
    match e with
    | .subscriber _ _ => false
    | .publisher kind conf =>
      let publisher := SimplePublisher.init kind conf
      match exec (PublisherThread.run fuel) { publisher := publisher, thread := w.thread },
        conf.isTransactional, TxPublishHandler.new conf.transactionBatchSize publisher with
      | some (.error _, _), true, .ok _ => true
      | _, _, _ => false
  | handing _ s => !(s.processorHalted && s.executorShutdown)
  | ended _ => false

variable {fuel : ℕ} {w : Surroundings} {t t' : EndpointThread}

theorem publisher_leaves_iff {kind : PublisherKind} {conf : PublisherConfig}
    (hN : conf.messageCount.toInt < 2 ^ 31 - 1) (hfuel : conf.messageCount.toInt.toNat < fuel) :
    leavesHandler fuel w (.publisher kind conf) started = true ↔
      JmsEndpoint.LeavesHandler (.publisher kind conf) := by
  let t₀ : PublisherThread := { publisher := .init kind conf, thread := w.thread }
  cases htx : conf.isTransactional with
  | false => simp [leavesHandler, JmsEndpoint.LeavesHandler, htx]
  | true =>
    have hstart := PublisherThread.run_transactional (t := t₀) htx fuel
    by_cases hbatch : 0 ≤ conf.transactionBatchSize.toInt
    case neg =>
      have hnew : ∃ e, TxPublishHandler.new conf.transactionBatchSize (.init kind conf) = .error e := by
        refine ⟨_, if_pos ?_⟩
        rwa [Int32.lt_iff_toInt_lt, Int32.toInt_zero, ← Int.not_le]
      obtain ⟨e, hnew⟩ := hnew
      simp [leavesHandler, JmsEndpoint.LeavesHandler, hnew, hbatch]
    have hnew : TxPublishHandler.new conf.transactionBatchSize (.init kind conf) = _ :=
      TxPublishHandler.new_ok hbatch
    by_cases hrate : 0 ≤ conf.messagesPerSecond.toInt
    · obtain ⟨t', hpublish, -⟩ :=
        PublisherThread.transactionalPublish_published (t := t₀) rfl hbatch hrate hN hfuel
      have hrun : exec (PublisherThread.run fuel)
        { publisher := .init kind conf, thread := w.thread } = _ := hstart.trans hpublish
      simp [leavesHandler, JmsEndpoint.LeavesHandler, hnew, hrun, hrate]
    · have hrefused := PublisherThread.transactionalPublish_refused (t := t₀)
        (.inr (Int.not_le.mp hrate)) fuel
      have hrun : exec (PublisherThread.run fuel)
        { publisher := .init kind conf, thread := w.thread } = _ := hstart.trans hrefused
      simp [leavesHandler, JmsEndpoint.LeavesHandler, htx, hnew, hrun, hbatch, Int.not_le.mp hrate]

theorem Handing.leaves_nothing {kind : PublisherKind} {conf : PublisherConfig} {messages : List ATCMessage}
    {s : DisruptorBasedPublisher.Shutdown} (hh : Handing fuel kind conf messages s)
    (hreturned : s.point = .returned) (e : JmsEndpoint) :
    leavesHandler fuel w e (handing messages s) = false := by
  have hknown := hh.known
  simp only [Known, hreturned, hh.errorLogged_eq] at hknown
  obtain ⟨⟨-, -, hhalted, hshutdown⟩, -⟩ := hknown.resolve_right fun h ↦ Bool.noConfusion h.2
  simp only [leavesHandler, hhalted, hshutdown, Bool.and_self, Bool.not_true]

theorem leavesHandler_iff {e : JmsEndpoint} (hN : e.endpointConfig.config.messageCount.toInt < 2 ^ 31 - 1)
    (hfuel : e.endpointConfig.config.messageCount.toInt.toNat < fuel) (ht : Tracked fuel w e t)
    {turn : Turn} (hstep : advance fuel w e turn t = some t') (hended : t'.hasEnded = true) :
    leavesHandler fuel w e t = true ↔ e.LeavesHandler := by
  cases t with
  | started =>
    cases e with
    | subscriber kind conf => simp [leavesHandler, JmsEndpoint.LeavesHandler]
    | publisher kind conf => exact publisher_leaves_iff hN hfuel
  | handing messages s =>
    obtain ⟨kind, conf, rfl, hh⟩ := ht
    have hreturned : s.point = .returned := by
      by_contra hpoint
      cases turn with
      | producer =>
        simp only [advance, handOver, if_neg hpoint] at hstep
        obtain ⟨s', -, rfl⟩ := Option.map_eq_some_iff.mp hstep
        cases hended
      | handler =>
        obtain ⟨s', -, rfl⟩ := Option.map_eq_some_iff.mp hstep
        cases hended
    rw [hh.leaves_nothing hreturned]
    exact iff_of_false Bool.noConfusion fun h ↦ Int.not_lt.mpr hh.rate_nonneg h.2.2
  | ended c => cases hstep

end EndpointThread

/-- The program, and the endpoints whose handlers run on in their executors after them. Nothing will
halt them and they are no daemons: the virtual machine does not go down while one is left. -/
structure VirtualMachine where
  program : MainState := {}
  left : List ℕ := []

namespace Startup

variable (p : Startup)

def machineStep (v : VirtualMachine) : ForkJoin.Action Turn → Option VirtualMachine
  | .main => (p.main v.program).map fun s ↦ { v with program := s }
  | .thread i a => p.entries[i]?.bind fun e ↦ v.program.threads[i]?.bind fun t ↦
      (t.advance p.fuel (p.surroundings i) e a).map fun t' ↦
        { program := { v.program with threads := v.program.threads.set i t' }
          left := if t'.hasEnded && t.leavesHandler p.fuel (p.surroundings i) e then v.left ++ [i]
            else v.left }

def machineRun (v : VirtualMachine) (actions : List (ForkJoin.Action Turn)) : Option VirtualMachine :=
  actions.foldlM p.machineStep v

structure Reached (i : ℕ) : Prop where
  accepted : p.settings.Accepted
  startable : ∀ j ≤ i, ∀ e : JmsEndpoint, p.entries[j]? = some e → p.Startable j e

def Left (s : MainState) (i : ℕ) : Prop :=
  ∃ e t, p.entries[i]? = some e ∧ s.threads[i]? = some t ∧ t.hasEnded = true ∧ e.LeavesHandler

structure MachineInv (v : VirtualMachine) : Prop where
  inv : p.Inv v.program
  tracked : p.TrackedThreads v.program
  left_iff : ∀ i, i ∈ v.left ↔ p.Left v.program i

variable {p} {v v' : VirtualMachine} {s s' : MainState} {actions : List (ForkJoin.Action Turn)}

theorem machineStep_program (v : VirtualMachine) (action : ForkJoin.Action Turn) :
    (p.machineStep v action).map VirtualMachine.program = p.step v.program action := by
  cases action with
  | main =>
    change ((p.main v.program).map _).map _ = p.main v.program
    rw [Option.map_map]
    exact Option.map_id'
  | thread i a =>
    simp only [machineStep, step, turn]
    cases p.entries[i]? with
    | none => rfl
    | some e =>
      cases v.program.threads[i]? with
      | none => rfl
      | some t =>
        simp only [Option.bind_some, Option.map_map]
        rfl

theorem main_left (hstep : p.main s = some s') (i : ℕ) : p.Left s' i ↔ p.Left s i := by
  rcases main_threads hstep with hthreads | hthreads
  · rw [Left, Left, hthreads]
  · rw [Left, Left, hthreads]
    constructor
    · rintro ⟨e, t, he, hget, hended, hleaves⟩
      rw [List.getElem?_append] at hget
      split_ifs at hget
      · exact ⟨e, t, he, hget, hended, hleaves⟩
      · rw [List.mem_singleton.mp (List.mem_of_getElem? hget)] at hended
        cases hended
    · rintro ⟨e, t, he, hget, hended, hleaves⟩
      obtain ⟨hlt, -⟩ := List.getElem?_eq_some_iff.mp hget
      exact ⟨e, t, he, by rw [List.getElem?_append_left hlt, hget], hended, hleaves⟩

theorem machineStep_inv (hp : p.Undisturbed) (hi : p.MachineInv v) {action : ForkJoin.Action Turn}
    (hstep : p.machineStep v action = some v') : p.MachineInv v' := by
  have hprogram : p.step v.program action = some v'.program := by
    rw [← machineStep_program, hstep]
    rfl
  refine ⟨step_inv hi.inv hprogram, step_tracked hp hi.tracked hprogram, fun j ↦ ?_⟩
  cases action with
  | main =>
    obtain ⟨s, hmain, rfl⟩ := Option.map_eq_some_iff.mp hstep
    exact (hi.left_iff j).trans (main_left hmain j).symm
  | thread i a =>
    obtain ⟨e, he, hstep⟩ := Option.bind_eq_some_iff.mp hstep
    obtain ⟨t, ht, hstep⟩ := Option.bind_eq_some_iff.mp hstep
    obtain ⟨t', hadvance, rfl⟩ := Option.map_eq_some_iff.mp hstep
    have hmem := List.mem_of_getElem? he
    obtain ⟨hlt, -⟩ := List.getElem?_eq_some_iff.mp ht
    by_cases hij : i = j
    · subst hij
      have hleaves := EndpointThread.leavesHandler_iff (hp.count_lt e hmem) (hp.count_lt_fuel e hmem)
        (hi.tracked i e t he ht) hadvance
      have hnot : i ∉ v.left := by
        rw [hi.left_iff]
        rintro ⟨-, u, -, hu, hended, -⟩
        cases ht.symm.trans hu
        cases t with
        | ended c => cases hadvance
        | started => cases hended
        | handing messages s => cases hended
      have hleft : p.Left { v.program with threads := v.program.threads.set i t' } i ↔
          t'.hasEnded = true ∧ e.LeavesHandler := by
        simp only [Left, he, List.getElem?_set_self hlt, Option.some.injEq]
        constructor
        · rintro ⟨_, _, rfl, rfl, h⟩
          exact h
        · exact fun h ↦ ⟨e, t', rfl, rfl, h⟩
      rw [hleft]
      cases hended : t'.hasEnded with
      | false => simpa using hnot
      | true =>
        rw [← hleaves hended]
        cases t.leavesHandler p.fuel (p.surroundings i) e <;> simp [hnot]
    · have hleft : p.Left { v.program with threads := v.program.threads.set i t' } j ↔
          p.Left v.program j := by
        simp only [Left, List.getElem?_set_ne hij]
      rw [hleft, ← hi.left_iff]
      split_ifs
      · simp [Ne.symm hij]
      · rfl

theorem Inv.started_iff (hi : p.Inv s) (hover : Over s) {i : ℕ} (hlt : i < p.entries.length) :
    i < s.threads.length ↔ p.Reached i := by
  have hat := hi.atPoint
  have hstartable : i < s.threads.length → ∀ j ≤ i, ∀ e : JmsEndpoint, p.entries[j]? = some e →
      p.Startable j e :=
    fun hi' j hj ↦ hi.startable j (Nat.lt_of_le_of_lt hj hi')
  rcases hover.point_eq with hpoint | ⟨t, hpoint⟩
  · simp only [AtPoint, hpoint] at hat
    exact ⟨fun h ↦ ⟨hat.1.accepted, hstartable h⟩, fun _ ↦ hat.2.1.symm ▸ hlt⟩
  · simp only [AtPoint, hpoint] at hat
    obtain ⟨hfailed, -⟩ := hat
    cases hfailed with
    | reporting hrefused hthreads =>
      rw [hthreads]
      exact iff_of_false (Nat.not_lt_zero i) fun h ↦ hrefused h.accepted
    | @endpoint _ e haccepted he hrefused =>
      refine ⟨fun h ↦ ⟨haccepted, hstartable h⟩, fun h ↦ Nat.lt_of_not_le fun hle ↦ ?_⟩
      have hnext := h.startable _ hle e he
      exact hnext.gauge_new (hrefused.connects_imp hnext.connects)

theorem init_machineInv : p.MachineInv {} where
  inv := init_inv
  tracked i e u _ hget := by simp at hget
  left_iff i := iff_of_false List.not_mem_nil fun h ↦ by simp [Left] at h

theorem machineRun_inv (hp : p.Undisturbed) (hi : p.MachineInv v)
    (hrun : p.machineRun v actions = some v') : p.MachineInv v' :=
  Runs.invariant (fun hi hstep ↦ machineStep_inv hp hi hstep) hi hrun

def NoneLeft (p : Startup) : Prop :=
  ∀ i e, p.entries[i]? = some e → p.Reached i → ¬ e.LeavesHandler

theorem MachineInv.left_nil_iff (hi : p.MachineInv v) (hover : Over v.program) :
    v.left = [] ↔ p.NoneLeft := by
  rw [List.eq_nil_iff_forall_not_mem]
  constructor
  · intro hnone i e he hreached hleaves
    obtain ⟨hlt, -⟩ := List.getElem?_eq_some_iff.mp he
    have hstarted := (hi.inv.started_iff hover hlt).mpr hreached
    have hget := List.getElem?_eq_getElem hstarted
    exact hnone i ((hi.left_iff i).mpr
      ⟨e, _, he, hget, hover.ended _ (List.mem_of_getElem? hget), hleaves⟩)
  · intro hnone i hleft
    obtain ⟨e, t, he, hget, -, hleaves⟩ := (hi.left_iff i).mp hleft
    obtain ⟨hlt, -⟩ := List.getElem?_eq_some_iff.mp he
    obtain ⟨hstarted, -⟩ := List.getElem?_eq_some_iff.mp hget
    exact hnone i e he ((hi.inv.started_iff hover hlt).mp hstarted) hleaves

theorem machine_enabled (hp : p.Undisturbed) (hi : p.MachineInv v) (hover : ¬ Over v.program) :
    ∃ action v', p.machineStep v action = some v' ∧ p.work v'.program < p.work v.program := by
  obtain ⟨action, s, hstep, hlt⟩ := enabled hp hi.inv hi.tracked hover
  rw [← machineStep_program] at hstep
  obtain ⟨v', hmachine, rfl⟩ := Option.map_eq_some_iff.mp hstep
  exact ⟨action, v', hmachine, hlt⟩

/-- The handlers left behind are, at any time, those of the ended publishers whose rate limiter has
been refused. So far as its own threads go, a program that is over lets the virtual machine go down,
and one that is not can still get there, exactly when `main` reaches no publisher of that kind. -/
theorem goes_down_iff (hp : p.Undisturbed) (hrun : p.machineRun {} actions = some v) :
    (∀ i, i ∈ v.left ↔ p.Left v.program i) ∧
    (Over v.program → (v.left = [] ↔ p.NoneLeft)) ∧
    ((∃ rest v', p.machineRun v rest = some v' ∧ Over v'.program ∧ v'.left = []) ↔ p.NoneLeft) := by
  have hi := machineRun_inv hp init_machineInv hrun
  refine ⟨hi.left_iff, hi.left_nil_iff, fun h ↦ ?_, fun h ↦ ?_⟩
  · obtain ⟨rest, v', hrest, hover, hnone⟩ := h
    exact ((machineRun_inv hp hi hrest).left_nil_iff hover).mp hnone
  · obtain ⟨rest, v', hrest, hover⟩ := Runs.settles (fun hi hstep ↦ machineStep_inv hp hi hstep)
      (fun hi hover ↦ machine_enabled hp hi hover) hi
    exact ⟨rest, v', hrest, hover, ((machineRun_inv hp hi hrest).left_nil_iff hover).mpr h⟩

/-- A transactional publisher with a negative rate, and a plain one that ends well. -/
def refusedRate : Startup :=
  { noSession with
    tc :=
      { topicPublishers :=
          [{ oneMessage with id := some "a", isTransactional := true, messagesPerSecond := -1 }]
        queuePublishers := [{ oneMessage with id := some "b" }] }
    environment := fun _ _ _ ↦ .returns }

theorem goes_down_iff_refusedRate :
    let actions : List (ForkJoin.Action Turn) := List.replicate 4 .main ++
      [.thread 0 .producer, .thread 1 .producer] ++ List.replicate 3 .main
    ∃ v, refusedRate.machineRun {} actions = some v ∧ v.program.point = .complete ∧ v.left = [0] ∧
      (∀ i, i ∈ v.left ↔ refusedRate.Left v.program i) ∧
      (Over v.program → (v.left = [] ↔ refusedRate.NoneLeft)) ∧
      ((∃ rest v', refusedRate.machineRun v rest = some v' ∧ Over v'.program ∧ v'.left = []) ↔
        refusedRate.NoneLeft) := by
  intro actions
  have hruns : (refusedRate.machineRun {} actions).map (fun v ↦ (v.program.point, v.left)) =
      some (.complete, [0]) := by
    decide +kernel
  obtain ⟨v, hv, hends⟩ := Option.map_eq_some_iff.mp hruns
  have hp : refusedRate.Undisturbed :=
    ⟨fun _ ↦ ⟨rfl, by simp [refusedRate, noSession]⟩, by decide, by decide⟩
  exact ⟨v, hv, congrArg Prod.fst hends, congrArg Prod.snd hends, goes_down_iff hp hv⟩

end Startup

end AndesTestClient
