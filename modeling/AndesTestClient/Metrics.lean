import AndesTestClient.ConsumerThread
import AndesTestClient.Library.DrainedCounter
import AndesTestClient.Library.Runs
import AndesTestClient.PublisherThread
import Mathlib.Algebra.BigOperators.Fin
import Mathlib.Data.Int.ModEq
import Mathlib.Tactic.Ring

namespace AndesTestClient

open DrainedCounter Imperative

instance int32AddCommGroup : AddCommGroup Int32 where
  add_assoc := Int32.add_assoc
  zero_add := Int32.zero_add
  add_zero := Int32.add_zero
  add_comm := Int32.add_comm
  neg_add_cancel := Int32.add_left_neg
  sub_eq_add_neg := Int32.sub_eq_add_neg
  nsmul := nsmulRec
  zsmul := zsmulRec

def int32OfNat : ℕ →+ Int32 where
  toFun := Int32.ofNat
  map_zero' := rfl
  map_add' := Int32.ofNat_add

/-- Who counts. Only a transactional publisher counts more than one message at once. -/
inductive EndpointKind
  | consumer
  | publisher
  | transactionalPublisher
deriving DecidableEq, Repr

inductive Counting
  | idle
  | counted (n : ℕ)
  | marked (n : ℕ)
deriving DecidableEq, Repr

structure Endpoint where
  count : Counter Int32 := { value := 0 }
  rate : Meter := {}
  counting : Counting := .idle

/-- The metrics of a test run. `reporting` is the endpoint whose `getValue` is between its two
statements. -/
structure Metrics (ι : Type) where
  endpoint : ι → Endpoint := fun _ ↦ {}
  globalConsumerRate : Meter := {}
  reporting : Option ι := none

inductive Action (ι : Type)
  | count (i : ι) (n : ℕ)
  | mark (i : ι)
  | markGlobal (i : ι)
  | get (i : ι)
  | subtract
deriving DecidableEq, Repr

namespace Metrics

variable {ι : Type} [DecidableEq ι] (kind : ι → EndpointKind)

def put (s : Metrics ι) (i : ι) (e : Endpoint) : Metrics ι :=
  { s with endpoint := Function.update s.endpoint i e }

def step (s : Metrics ι) : Action ι → Option (Metrics ι)
  | .count i n =>
    let e := s.endpoint i
    if e.counting = .idle ∧ n < 2 ^ 31 ∧ (kind i = .transactionalPublisher ∨ n = 1) then
      some (s.put i { e with count := e.count.add Int32.ofNat n, counting := .counted n })
    else none
  | .mark i =>
    let e := s.endpoint i
    match e.counting with
    | .counted n => some (s.put i { e with
        rate := e.rate.mark (Int32.ofNat n)
        counting := if kind i = .consumer then .marked n else .idle })
    | _ => none
  | .markGlobal i =>
    let e := s.endpoint i
    match e.counting with
    | .marked n => some { s.put i { e with counting := .idle } with
        globalConsumerRate := s.globalConsumerRate.mark (Int32.ofNat n) }
    | _ => none
  | .get i =>
    let e := s.endpoint i
    if s.reporting = none then
      some { s.put i { e with count := e.count.read } with reporting := some i }
    else none
  | .subtract =>
    s.reporting.map fun i ↦
      { s.put i { s.endpoint i with count := (s.endpoint i).count.subtract } with reporting := none }

inductive Stepped (s : Metrics ι) : Action ι → Metrics ι → Prop
  | count {i : ι} {n : ℕ} (hidle : (s.endpoint i).counting = .idle) (hn : n < 2 ^ 31) :
    Stepped s (.count i n) (s.put i { s.endpoint i with
      count := (s.endpoint i).count.add Int32.ofNat n, counting := .counted n })
  | mark {i : ι} {n : ℕ} (hcounted : (s.endpoint i).counting = .counted n) :
    Stepped s (.mark i) (s.put i { s.endpoint i with
      rate := (s.endpoint i).rate.mark (Int32.ofNat n)
      counting := if kind i = .consumer then .marked n else .idle })
  | markGlobal {i : ι} {n : ℕ} (hmarked : (s.endpoint i).counting = .marked n) :
    Stepped s (.markGlobal i) { s.put i { s.endpoint i with counting := .idle } with
      globalConsumerRate := s.globalConsumerRate.mark (Int32.ofNat n) }
  | get (i : ι) (hr : s.reporting = none) :
    Stepped s (.get i) { s.put i { s.endpoint i with count := (s.endpoint i).count.read } with
      reporting := some i }
  | subtract {i : ι} (hr : s.reporting = some i) :
    Stepped s .subtract { s.put i { s.endpoint i with count := (s.endpoint i).count.subtract } with
      reporting := none }

variable {kind} in
theorem stepped {s s' : Metrics ι} {a : Action ι} (hstep : step kind s a = some s') :
    Stepped kind s a s' := by
  cases a with
  | count i n =>
    simp only [step] at hstep
    split_ifs at hstep with hc
    cases hstep
    exact .count hc.1 hc.2.1
  | mark i =>
    simp only [step] at hstep
    split at hstep
    case h_2 => cases hstep
    case h_1 n hcounted =>
      cases hstep
      exact .mark hcounted
  | markGlobal i =>
    simp only [step] at hstep
    split at hstep
    case h_2 => cases hstep
    case h_1 n hmarked =>
      cases hstep
      exact .markGlobal hmarked
  | get i =>
    simp only [step] at hstep
    split_ifs at hstep with hr
    cases hstep
    exact .get i hr
  | subtract =>
    obtain ⟨i, hr, rfl⟩ := Option.map_eq_some_iff.mp hstep
    exact .subtract hr

def run (s : Metrics ι) (actions : List (Action ι)) : Option (Metrics ι) := actions.foldlM (step kind) s

def unmarked : Counting → ℕ
  | .counted n => n
  | _ => 0

def unmarkedGlobal : Counting → ℕ
  | .idle => 0
  | .counted n => n
  | .marked n => n

structure EndpointLaw (k : EndpointKind) (e : Endpoint) : Prop where
  count : e.count.Law int32OfNat
  rate_eq : e.rate.count + unmarked e.counting = e.count.counted
  small : unmarkedGlobal e.counting < 2 ^ 31
  marked : ∀ n, e.counting = .marked n → k = .consumer

def globalShare (kind : EndpointKind) (e : Endpoint) : ℤ :=
  if kind = .consumer then e.count.counted - unmarkedGlobal e.counting else 0

structure Inv [Fintype ι] (s : Metrics ι) : Prop where
  law : ∀ i, EndpointLaw (kind i) (s.endpoint i)
  pending : ∀ i, s.reporting ≠ some i → (s.endpoint i).count.pending = none
  global_eq : s.globalConsumerRate.count = ∑ i, globalShare (kind i) (s.endpoint i)

variable [Fintype ι] {kind} {s s' : Metrics ι}

omit [DecidableEq ι] in
theorem init_inv : Inv kind ({} : Metrics ι) where
  law _ := ⟨Counter.law_zero int32OfNat, rfl, Nat.two_pow_pos 31, by simp⟩
  pending i _ := rfl
  global_eq := by simp [globalShare, unmarkedGlobal]

theorem sum_update (g : ι → Endpoint → ℤ) (f : ι → Endpoint) (i : ι) (e : Endpoint) :
    ∑ j, g j (Function.update f i e j) = ∑ j, g j (f j) + (g i e - g i (f i)) := by
  have hdiff : ∑ j, (g j (Function.update f i e j) - g j (f j)) = g i e - g i (f i) := by
    rw [Finset.sum_eq_single i]
    · rw [Function.update_self]
    · intro j _ hj
      rw [Function.update_of_ne hj, sub_self]
    · exact fun h ↦ absurd (Finset.mem_univ i) h
  rw [← hdiff, Finset.sum_sub_distrib]
  ring

theorem Inv.put (hi : Inv kind s) {i : ι} {e : Endpoint} {g : Meter} {r : Option ι} (he : EndpointLaw (kind i) e)
    (hpending : r ≠ some i → e.count.pending = none) (hothers : ∀ j, j ≠ i → s.reporting = some j →
      r = some j)
    (hg : g.count = s.globalConsumerRate.count +
      (globalShare (kind i) e - globalShare (kind i) (s.endpoint i))) :
    Inv kind { s.put i e with globalConsumerRate := g, reporting := r } where
  law j := by
    by_cases hj : j = i
    · subst hj
      simpa [Metrics.put] using he
    · simpa [Metrics.put, hj] using hi.law j
  pending j hr := by
    by_cases hj : j = i
    · subst hj
      simpa [Metrics.put] using hpending hr
    · simpa [Metrics.put, hj] using hi.pending j fun h ↦ hr (hothers j hj h)
  global_eq := by
    change g.count = ∑ j, globalShare (kind j) (Function.update s.endpoint i e j)
    rw [sum_update fun j ↦ globalShare (kind j), hg, hi.global_eq]

theorem meter_mark {n : ℕ} (hn : n < 2 ^ 31) (m : Meter) :
    (m.mark (Int32.ofNat n)).count = m.count + n := by
  rw [Meter.mark, toInt_ofNat hn]

theorem Inv.count (hi : Inv kind s) {i : ι} {n : ℕ} (hidle : (s.endpoint i).counting = .idle)
    (hn : n < 2 ^ 31) : Inv kind (s.put i { s.endpoint i with
      count := (s.endpoint i).count.add Int32.ofNat n, counting := .counted n }) := by
  have hl := hi.law i
  have hrate := hl.rate_eq
  simp only [hidle, unmarked, Nat.cast_zero, add_zero] at hrate
  refine hi.put (r := s.reporting) (g := s.globalConsumerRate) ⟨hl.count.add n, ?_, hn, by simp⟩
    (hi.pending i) (fun _ _ h ↦ h) ?_
  · rw [hrate]
    exact (Nat.cast_add _ _).symm
  · simp only [globalShare, hidle, unmarkedGlobal, Counter.add]
    split_ifs <;> push_cast <;> ring

theorem Inv.mark (hi : Inv kind s) {i : ι} {n : ℕ} (hcounted : (s.endpoint i).counting = .counted n) :
    Inv kind (s.put i { s.endpoint i with
      rate := (s.endpoint i).rate.mark (Int32.ofNat n)
      counting := if kind i = .consumer then .marked n else .idle }) := by
  have hl := hi.law i
  have hn := hl.small
  have hrate := hl.rate_eq
  simp only [hcounted, unmarked, unmarkedGlobal] at hn hrate
  refine hi.put (r := s.reporting) (g := s.globalConsumerRate) ⟨hl.count, ?_, ?_, ?_⟩
    (hi.pending i) (fun _ _ h ↦ h) ?_
  · rw [meter_mark hn, ← hrate]
    split_ifs <;> exact add_zero _
  · split_ifs
    · exact hn
    · exact Nat.two_pow_pos 31
  · intro m hm
    split_ifs at hm with hk
    exact hk
  · by_cases hk : kind i = .consumer <;> simp [hk, globalShare, hcounted, unmarkedGlobal]

theorem Inv.markGlobal (hi : Inv kind s) {i : ι} {n : ℕ}
    (hmarked : (s.endpoint i).counting = .marked n) :
    Inv kind { s.put i { s.endpoint i with counting := .idle } with
      globalConsumerRate := s.globalConsumerRate.mark (Int32.ofNat n) } := by
  have hl := hi.law i
  have hn := hl.small
  have hrate := hl.rate_eq
  simp only [hmarked, unmarked, unmarkedGlobal] at hn hrate
  refine hi.put (r := s.reporting) ⟨hl.count, hrate, Nat.two_pow_pos 31, by simp⟩
    (hi.pending i) (fun _ _ h ↦ h) ?_
  rw [meter_mark hn]
  simp [globalShare, hmarked, unmarkedGlobal, hl.marked n hmarked]

theorem Inv.get (hi : Inv kind s) (i : ι) (hr : s.reporting = none) :
    Inv kind { s.put i { s.endpoint i with count := (s.endpoint i).count.read } with
      reporting := some i } := by
  have hl := hi.law i
  refine hi.put (g := s.globalConsumerRate) ⟨hl.count.read (hi.pending i (by simp [hr])),
    hl.rate_eq, hl.small, hl.marked⟩ (fun h ↦ absurd rfl h) (fun j _ h ↦ by rw [hr] at h; cases h) ?_
  simp [globalShare, Counter.read]

theorem Inv.subtract (hi : Inv kind s) {i : ι} (hr : s.reporting = some i) :
    Inv kind { s.put i { s.endpoint i with count := (s.endpoint i).count.subtract } with
      reporting := none } := by
  have hl := hi.law i
  refine hi.put (g := s.globalConsumerRate) ⟨hl.count.subtract, ?_, hl.small, hl.marked⟩
    (fun _ ↦ Counter.subtract_pending _) (fun j hj h ↦ ?_) ?_
  · rw [Counter.subtract_counted]
    exact hl.rate_eq
  · exact absurd (Option.some.inj (h.symm.trans hr)) hj
  · simp [globalShare]

theorem step_inv (hi : Inv kind s) {a : Action ι} (hstep : step kind s a = some s') :
    Inv kind s' := by
  cases stepped hstep with
  | count hidle hn => exact hi.count hidle hn
  | mark hcounted => exact hi.mark hcounted
  | markGlobal hmarked => exact hi.markGlobal hmarked
  | get i hr => exact hi.get i hr
  | subtract hr => exact hi.subtract hr

theorem run_inv (hi : Inv kind s) {actions : List (Action ι)}
    (hrun : run kind s actions = some s') : Inv kind s' :=
  Runs.invariant (fun h hstep ↦ step_inv h hstep) hi hrun

/-- What the actions of a run say about an endpoint: how many messages it has counted, how many of
them since the last `get` of its gauge, and how many between each `get` and the one before. -/
structure Tally where
  counted : ℕ := 0
  since : ℕ := 0
  between : List ℕ := []
deriving DecidableEq, Repr

def Tally.next (i : ι) (t : Tally) : Action ι → Tally
  | .count j n => if j = i then { t with counted := t.counted + n, since := t.since + n } else t
  | .get j => if j = i then { t with since := 0, between := t.between ++ [t.since] } else t
  | _ => t

def tally (i : ι) (actions : List (Action ι)) : Tally := actions.foldl (Tally.next i) {}

structure Tallied (i : ι) (s : Metrics ι) (t : Tally) : Prop where
  counted_eq : (s.endpoint i).count.counted = t.counted
  since_eq : (s.endpoint i).count.counted = (s.endpoint i).count.atRead + t.since
  between_eq : (s.endpoint i).count.reads.map Prod.snd = t.between

omit [Fintype ι] in
theorem Tallied.others {i j : ι} {t : Tally} {e : Endpoint} (h : Tallied i s t) (hne : i ≠ j)
    (hs' : s'.endpoint = Function.update s.endpoint j e) : Tallied i s' t := by
  have he : s'.endpoint i = s.endpoint i := by rw [hs', Function.update_of_ne hne]
  exact ⟨by rw [he, h.counted_eq], by rw [he, h.since_eq], by rw [he, h.between_eq]⟩

omit [Fintype ι] in
theorem Tallied.kept {i j : ι} {t : Tally} {e : Endpoint} (h : Tallied i s t)
    (hs' : s'.endpoint = Function.update s.endpoint j e)
    (hcounted : e.count.counted = (s.endpoint j).count.counted)
    (hatRead : e.count.atRead = (s.endpoint j).count.atRead)
    (hreads : e.count.reads = (s.endpoint j).count.reads) : Tallied i s' t := by
  by_cases hij : i = j
  · subst hij
    have he : s'.endpoint i = e := by rw [hs', Function.update_self]
    exact ⟨by rw [he, hcounted, h.counted_eq], by rw [he, hcounted, hatRead, h.since_eq],
      by rw [he, hreads, h.between_eq]⟩
  · exact h.others hij hs'

omit [Fintype ι] in
theorem Tallied.next {i : ι} {t : Tally} {a : Action ι} (h : Tallied i s t)
    (hstep : step kind s a = some s') : Tallied i s' (t.next i a) := by
  cases stepped hstep with
  | @count j n hidle hn =>
    by_cases hj : j = i
    · subst hj
      have hsince := h.since_eq
      refine ⟨?_, ?_, ?_⟩
      · simp [Metrics.put, Tally.next, Counter.add, h.counted_eq]
      · simp only [Metrics.put, Function.update_self, Tally.next, Counter.add, if_true]
        omega
      · simpa [Metrics.put, Tally.next, Counter.add] using h.between_eq
    · rw [Tally.next, if_neg hj]
      exact h.others (Ne.symm hj) rfl
  | mark => exact h.kept rfl rfl rfl rfl
  | markGlobal => exact h.kept rfl rfl rfl rfl
  | get j hr =>
    by_cases hj : j = i
    · subst hj
      have hsince := h.since_eq
      refine ⟨?_, ?_, ?_⟩
      · simp [Metrics.put, Tally.next, Counter.read, h.counted_eq]
      · simp [Metrics.put, Tally.next, Counter.read]
      · simp only [Metrics.put, Function.update_self, Tally.next, Counter.read, if_true,
          List.map_append, h.between_eq, List.map_singleton]
        congr 2
        omega
    · rw [Tally.next, if_neg hj]
      exact h.others (Ne.symm hj) rfl
  | subtract =>
    exact h.kept rfl (Counter.subtract_counted _) (Counter.subtract_atRead _)
      (Counter.subtract_reads _)

omit [Fintype ι] in
theorem run_tallied (i : ι) {actions : List (Action ι)} (hrun : run kind {} actions = some s) :
    Tallied i s (tally i actions) :=
  Runs.follows (fun h hstep ↦ h.next hstep) ⟨rfl, rfl, rfl⟩ hrun

theorem modEq_of_ofInt_eq {a b : ℤ} (h : Int32.ofInt a = Int32.ofInt b) : a ≡ b [ZMOD 2 ^ 32] := by
  have hb := congrArg (fun v : Int32 ↦ v.toInt % (Int32.size : ℕ)) h
  simp only [Int32.toInt_ofInt, Int.bmod_emod] at hb
  exact hb

theorem ofInt_sum (l : List Int32) : Int32.ofInt (l.map Int32.toInt).sum = l.sum := by
  induction l with
  | nil => rfl
  | cons v l ih =>
    rw [List.map_cons, List.sum_cons, List.sum_cons, Int32.ofInt_add, ih, Int32.ofInt_toInt]

def getValue : Java AtomicInteger Int32 := do
  let val ← observe AtomicInteger.value
  update (AtomicInteger.addAndGet (-val))
  pure val

def Shows (e : Endpoint) (count : AtomicInteger) (rate : Meter) : Prop :=
  e.count.value = count.value ∧ e.rate = rate

/-- Where the source counts and where it reports, run alone, it takes the steps of the model: a plain
publisher after each send, a transactional one for a batch, a consumer after each message, and the
gauge. -/
structure Sites (kind : ι → EndpointKind) (s : Metrics ι) : Prop where
  publisher : ∀ (i : ι) (t : PublisherThread), (s.endpoint i).counting = .idle →
    kind i ≠ .consumer → Shows (s.endpoint i) t.sentCount t.publishRate →
    ∃ t' s', exec PublisherThread.count t = some (.ok (), t') ∧
      run kind s [.count i 1, .mark i] = some s' ∧ (s'.endpoint i).counting = .idle ∧
      Shows (s'.endpoint i) t'.sentCount t'.publishRate
  batch : ∀ (i : ι) (h : TxPublishHandler), (s.endpoint i).counting = .idle →
    kind i = .transactionalPublisher → h.messagesList.length < 2 ^ 31 →
    Shows (s.endpoint i) h.sentCount h.publishRate →
    ∃ h' s', exec TxPublishHandler.countBatch h = some (.ok (), h') ∧
      run kind s [.count i h.messagesList.length, .mark i] = some s' ∧
      (s'.endpoint i).counting = .idle ∧ Shows (s'.endpoint i) h'.sentCount h'.publishRate
  consumer : ∀ (i : ι) (t : ConsumerThread) (latency : Int64), (s.endpoint i).counting = .idle →
    kind i = .consumer → Shows (s.endpoint i) t.receivedCount t.consumerRate →
    s.globalConsumerRate = t.globalConsumerRate →
    ∃ t' s', exec (ConsumerThread.count latency) t = some (.ok (), t') ∧
      run kind s [.count i 1, .mark i, .markGlobal i] = some s' ∧
      (s'.endpoint i).counting = .idle ∧ Shows (s'.endpoint i) t'.receivedCount t'.consumerRate ∧
      s'.globalConsumerRate = t'.globalConsumerRate
  gauge : ∀ (i : ι) (a : AtomicInteger) (m : Meter), s.reporting = none → Shows (s.endpoint i) a m →
    ∃ val a' s', exec getValue a = some (.ok val, a') ∧
      run kind s [.get i, .subtract] = some s' ∧ Shows (s'.endpoint i) a' m ∧
      ∃ k, (s'.endpoint i).count.reads = (s.endpoint i).count.reads ++ [(val, k)]

omit [Fintype ι] in
theorem publisher_count_steps {i : ι} {t : PublisherThread} (hidle : (s.endpoint i).counting = .idle)
    (hk : kind i ≠ .consumer) (hs : Shows (s.endpoint i) t.sentCount t.publishRate) :
    ∃ t' s', exec PublisherThread.count t = some (.ok (), t') ∧
      run kind s [.count i 1, .mark i] = some s' ∧ (s'.endpoint i).counting = .idle ∧
      Shows (s'.endpoint i) t'.sentCount t'.publishRate := by
  have hrun : run kind s [.count i 1, .mark i] = some (s.put i
      { count := (s.endpoint i).count.add Int32.ofNat 1, rate := (s.endpoint i).rate.mark 1 }) := by
    simp [run, step, hidle, hk, Metrics.put]
  refine ⟨_, _, PublisherThread.exec_count t, hrun, by simp [Metrics.put], ?_, ?_⟩
  · simp [Metrics.put, Counter.add, AtomicInteger.incrementAndGet, AtomicInteger.addAndGet, hs.1]
  · simp [Metrics.put, hs.2]

omit [Fintype ι] in
theorem countBatch_steps {i : ι} {h : TxPublishHandler} (hidle : (s.endpoint i).counting = .idle)
    (hk : kind i = .transactionalPublisher) (hlen : h.messagesList.length < 2 ^ 31)
    (hs : Shows (s.endpoint i) h.sentCount h.publishRate) :
    ∃ h' s', exec TxPublishHandler.countBatch h = some (.ok (), h') ∧
      run kind s [.count i h.messagesList.length, .mark i] = some s' ∧
      (s'.endpoint i).counting = .idle ∧ Shows (s'.endpoint i) h'.sentCount h'.publishRate := by
  have hlen' : h.messagesList.length < 2147483648 := hlen
  have hrun : run kind s [.count i h.messagesList.length, .mark i] = some (s.put i
      { count := (s.endpoint i).count.add Int32.ofNat h.messagesList.length
        rate := (s.endpoint i).rate.mark (size h.messagesList) }) := by
    simp [run, step, hidle, hlen', hk, Metrics.put, size]
  refine ⟨_, _, TxPublishHandler.exec_countBatch h, hrun, by simp [Metrics.put], ?_, ?_⟩
  · simp [Metrics.put, Counter.add, AtomicInteger.addAndGet, size, hs.1]
  · simp [Metrics.put, hs.2]

omit [Fintype ι] in
theorem consumer_count_steps {i : ι} {t : ConsumerThread} (latency : Int64)
    (hidle : (s.endpoint i).counting = .idle) (hk : kind i = .consumer)
    (hs : Shows (s.endpoint i) t.receivedCount t.consumerRate)
    (hg : s.globalConsumerRate = t.globalConsumerRate) :
    ∃ t' s', exec (ConsumerThread.count latency) t = some (.ok (), t') ∧
      run kind s [.count i 1, .mark i, .markGlobal i] = some s' ∧
      (s'.endpoint i).counting = .idle ∧ Shows (s'.endpoint i) t'.receivedCount t'.consumerRate ∧
      s'.globalConsumerRate = t'.globalConsumerRate := by
  have hrun : run kind s [.count i 1, .mark i, .markGlobal i] = some { s.put i
      { count := (s.endpoint i).count.add Int32.ofNat 1, rate := (s.endpoint i).rate.mark 1 } with
        globalConsumerRate := s.globalConsumerRate.mark 1 } := by
    simp [run, step, hidle, hk, Metrics.put]
  refine ⟨_, _, ConsumerThread.exec_count latency t, hrun, by simp [Metrics.put], ⟨?_, ?_⟩, ?_⟩
  · simp [Metrics.put, Counter.add, AtomicInteger.incrementAndGet, AtomicInteger.addAndGet, hs.1]
  · simp [Metrics.put, hs.2]
  · rw [hg]

omit [Fintype ι] in
theorem getValue_steps {i : ι} {a : AtomicInteger} {m : Meter} (hr : s.reporting = none)
    (hs : Shows (s.endpoint i) a m) :
    ∃ val a' s', exec getValue a = some (.ok val, a') ∧
      run kind s [.get i, .subtract] = some s' ∧ Shows (s'.endpoint i) a' m ∧
      ∃ k, (s'.endpoint i).count.reads = (s.endpoint i).count.reads ++ [(val, k)] := by
  have hrun : run kind s [.get i, .subtract] = some { s.put i { s.endpoint i with
      count := (s.endpoint i).count.read.subtract } with reporting := none } := by
    simp [run, step, hr, Metrics.put]
  refine ⟨a.value, a.addAndGet (-a.value), _, rfl, hrun, ⟨?_, ?_⟩,
    (s.endpoint i).count.counted - (s.endpoint i).count.atRead, ?_⟩
  · simp [Metrics.put, Counter.subtract, Counter.read, AtomicInteger.addAndGet, hs.1]
  · simpa [Metrics.put] using hs.2
  · simp [Metrics.put, Counter.subtract, Counter.read, hs.1]

omit [Fintype ι] in
theorem sites (kind : ι → EndpointKind) (s : Metrics ι) : Sites kind s where
  publisher _ _ := publisher_count_steps
  batch _ _ := countBatch_steps
  consumer _ _ latency := consumer_count_steps latency
  gauge _ _ _ := getValue_steps

/-- What the reports and the meters of a test run tell of the messages that the actions count, for
any interleaving of the threads and the reporter. `subtracted` and `reads` are the gauge values
subtracted and returned so far, each of the latter with the number of messages counted between its
`get` and the one before. -/
structure Conserved (kind : ι → EndpointKind) (actions : List (Action ι)) (s : Metrics ι) : Prop where
  balance : ∀ i, ((s.endpoint i).count.subtracted.map Int32.toInt).sum +
    (s.endpoint i).count.value.toInt ≡ (tally i actions).counted [ZMOD 2 ^ 32]
  subtracted : ∀ i, (s.endpoint i).count.reads.map Prod.fst =
    (s.endpoint i).count.subtracted ++ (s.endpoint i).count.pending.toList
  between : ∀ i, (s.endpoint i).count.reads.map Prod.snd = (tally i actions).between
  exact : ∀ i, ∀ r ∈ (s.endpoint i).count.reads, r.2 < 2 ^ 31 → 0 ≤ r.1.toInt ∧ r.1.toInt = r.2
  meters : (∀ i, (s.endpoint i).counting = .idle) →
    (∀ i, (s.endpoint i).rate.count = (tally i actions).counted) ∧
    s.globalConsumerRate.count = ∑ i with kind i = .consumer, (s.endpoint i).rate.count

theorem Inv.conserved {actions : List (Action ι)} (hi : Inv kind s)
    (ht : ∀ i, Tallied i s (tally i actions)) : Conserved kind actions s where
  balance i := by
    apply modEq_of_ofInt_eq
    rw [Int32.ofInt_add, ofInt_sum, Int32.ofInt_toInt, Int32.ofInt_eq_ofNat, ← (ht i).counted_eq]
    exact (hi.law i).count.balance
  subtracted i := (hi.law i).count.subtracted_eq
  between i := (ht i).between_eq
  exact i r hr hlt := by
    have hval : r.1.toInt = r.2 := by
      rw [(hi.law i).count.reads_eq r hr]
      exact toInt_ofNat hlt
    exact ⟨by omega, hval⟩
  meters hidle := by
    have hrate : ∀ i, (s.endpoint i).rate.count = (s.endpoint i).count.counted := fun i ↦ by
      have hl := (hi.law i).rate_eq
      simpa [hidle i, unmarked] using hl
    refine ⟨fun i ↦ by rw [hrate, (ht i).counted_eq], ?_⟩
    rw [hi.global_eq, Finset.sum_filter]
    refine Finset.sum_congr rfl fun i _ ↦ ?_
    rw [globalShare, hidle i, unmarkedGlobal, Nat.cast_zero, sub_zero, hrate]

/-- For any number of endpoints of any kinds and any interleaving of their counting steps with the
two steps of the reporter. -/
theorem conserved_run (kind : ι → EndpointKind) (actions : List (Action ι)) {s : Metrics ι}
    (hrun : run kind {} actions = some s) : Conserved kind actions s ∧ Sites kind s :=
  ⟨(run_inv init_inv hrun).conserved fun i ↦ run_tallied i hrun, sites kind s⟩

theorem conserved_run_two :
    let kind : Bool → EndpointKind := fun i ↦ if i then .consumer else .transactionalPublisher
    let actions : List (Action Bool) := [.count true 1, .get true, .mark true, .count false 5,
      .markGlobal true, .count true 1, .subtract, .get false, .mark false, .subtract]
    ∃ s, run kind {} actions = some s ∧ Conserved kind actions s ∧ Sites kind s := by
  intro kind actions
  have hruns : (run kind {} actions).isSome := rfl
  obtain ⟨s, hs⟩ := Option.isSome_iff_exists.mp hruns
  exact ⟨s, hs, conserved_run kind actions hs⟩

end Metrics

end AndesTestClient
