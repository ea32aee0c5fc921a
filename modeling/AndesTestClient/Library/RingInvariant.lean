import AndesTestClient.Library.RingBuffer
import AndesTestClient.Library.Runs
import Mathlib.Data.List.Forall2
import Mathlib.Order.Interval.Finset.Nat

namespace RingBuffer

variable {S L H : Type}

namespace Design

variable {d : Design S L H} {h₀ : H} {s s' : State S L H}

@[simp] theorem fill_nil (c : S) : fill [] c = c := rfl

@[simp] theorem fill_cons (w : S → S) (ws : List (S → S)) (c : S) :
    fill (w :: ws) c = fill ws (w c) := rfl

theorem modify_same (slots : ℕ → S) (i : ℕ) (w : S → S) : modify slots i w i = w (slots i) :=
  if_pos rfl

theorem modify_other {slots : ℕ → S} {i j : ℕ} (h : j ≠ i) (w : S → S) :
    modify slots i w j = slots j := if_neg h

def Saw (c : S) (loads : List S) : Prop := loads ≠ [] ∧ ∀ c' ∈ loads, c' = c

def Dealt (d : Design S L H) (h₀ : H) (n : ℕ) (h : H) : Prop := d.CallsAll h₀ (d.events.take n) h

def Sound (d : Design S L H) (h₀ : H) (s : State S L H) : Prop :=
  match s.handler with
  | .idle h => d.Dealt h₀ s.handled h ∧ s.past.length = s.handled
  | .busy l loads => s.handled < s.published ∧ s.past.length = s.handled ∧ ∃ h c,
      d.Dealt h₀ s.handled h ∧ d.events[s.handled]? = some c ∧ (∀ c' ∈ loads, c' = c) ∧
      Relation.ReflTransGen (fun l l' ↦ d.advance l c = some (.inl l')) (d.enter h) l
  | .clearing h rest => s.handled < s.published ∧ s.past.length = s.handled + 1 ∧
      d.Dealt h₀ (s.handled + 1) h ∧ fill rest (s.slots (s.handled % d.size)) = d.empty

def Clearing (s : State S L H) : Prop :=
  match s.handler with
  | .clearing _ _ => True
  | _ => False

/-- The invariant of the ring. In the window of `size` sequences that begins with the one the
handler is at, a published slot holds its own event, the claimed slot becomes that event by the
writes still to be made, and every other slot is empty. -/
structure Inv (d : Design S L H) (h₀ : H) (s : State S L H) : Prop where
  handled_le : s.handled ≤ s.published
  published_le : s.published ≤ s.handled + d.size
  published_le_jobs : s.published ≤ d.events.length
  full : ∀ n c, s.handled ≤ n → n < s.published → d.events[n]? = some c →
    (n = s.handled → ¬ Clearing s) → s.slots (n % d.size) = c
  claimed : ∀ rest, s.claimed = some rest → s.published < s.handled + d.size ∧
    d.events[s.published]? = some (fill rest (s.slots (s.published % d.size)))
  free : ∀ n, s.published ≤ n → n < s.handled + d.size → (n = s.published → s.claimed = none) →
    s.slots (n % d.size) = d.empty
  sound : d.Sound h₀ s
  past : List.Forall₂ Saw (d.events.take s.past.length) s.past

theorem init_inv (d : Design S L H) (h₀ : H) : d.Inv h₀ (d.init h₀) where
  handled_le := le_rfl
  published_le := Nat.zero_le _
  published_le_jobs := Nat.zero_le _
  full n c hn hlt := absurd hlt (Nat.not_lt_zero n)
  claimed rest h := by cases h
  free n _ _ _ := rfl
  sound := ⟨.nil, rfl⟩
  past := .nil

theorem slot_ne {a m n size : ℕ} (hm : a ≤ m) (hm' : m < a + size) (hn : a ≤ n) (hn' : n < a + size)
    (h : m ≠ n) : m % size ≠ n % size :=
  fun heq ↦ h (Nat.mod_injOn_Ico a size (by simp [hm, hm']) (by simp [hn, hn']) heq)

theorem Inv.claim (hi : d.Inv h₀ s) (hroom : s.published < s.handled + d.size)
    (hclaimed : s.claimed = none) {job : List (S → S)} (hjob : d.jobs[s.published]? = some job) :
    d.Inv h₀ { s with claimed := some job } where
  handled_le := hi.handled_le
  published_le := hi.published_le
  published_le_jobs := hi.published_le_jobs
  full := hi.full
  claimed rest h := by
    cases h
    refine ⟨hroom, ?_⟩
    rw [hi.free _ le_rfl hroom fun _ ↦ hclaimed, events, List.getElem?_map, hjob]
    rfl
  free n hn hlt h := hi.free n hn hlt fun _ ↦ hclaimed
  sound := hi.sound
  past := hi.past

theorem Inv.write (hi : d.Inv h₀ s) {w : S → S} {rest : List (S → S)}
    (hclaimed : s.claimed = some (w :: rest)) :
    d.Inv h₀ { s with
      slots := modify s.slots (s.published % d.size) w, claimed := some rest } := by
  obtain ⟨hroom, hevent⟩ := hi.claimed _ hclaimed
  have hle := hi.handled_le
  have hother : ∀ n, s.handled ≤ n → n < s.handled + d.size → n ≠ s.published →
      modify s.slots (s.published % d.size) w (n % d.size) = s.slots (n % d.size) :=
    fun n hn hn' hne ↦ modify_other (slot_ne hn hn' hle hroom hne) w
  exact
    { handled_le := hle
      published_le := hi.published_le
      published_le_jobs := hi.published_le_jobs
      full := by
        intro n c hn hlt hc h
        dsimp only
        rw [hother n hn (Nat.lt_trans hlt hroom) (Nat.ne_of_lt hlt)]
        exact hi.full n c hn hlt hc h
      claimed := by
        intro _ h
        cases h
        refine ⟨hroom, ?_⟩
        dsimp only
        rw [modify_same]
        exact hevent
      free := by
        intro n hn hlt h
        have hne : n ≠ s.published := fun heq ↦ by cases h heq
        dsimp only
        rw [hother n (Nat.le_trans hle hn) hlt hne]
        exact hi.free n hn hlt fun heq ↦ absurd heq hne
      sound := by
        have hsound := hi.sound
        cases hh : s.handler <;> simp only [Sound, hh] at hsound ⊢
        · exact hsound
        · exact hsound
        · obtain ⟨hlt, hpast, hdealt, hempty⟩ := hsound
          rw [hother _ le_rfl (Nat.lt_trans hlt hroom) (Nat.ne_of_lt hlt)]
          exact ⟨hlt, hpast, hdealt, hempty⟩
      past := hi.past }

theorem Inv.publish (hi : d.Inv h₀ s) (hclaimed : s.claimed = some []) :
    d.Inv h₀ { s with claimed := none, published := s.published + 1 } := by
  obtain ⟨hroom, hevent⟩ := hi.claimed _ hclaimed
  exact
    { handled_le := Nat.le_succ_of_le hi.handled_le
      published_le := hroom
      published_le_jobs := (List.getElem?_eq_some_iff.mp hevent).1
      full := by
        intro n c hn hlt hc h
        rcases Nat.lt_succ_iff_lt_or_eq.mp hlt with hlt | rfl
        · exact hi.full n c hn hlt hc h
        · exact Option.some.inj (hevent.symm.trans hc)
      claimed := by
        intro _ h
        cases h
      free := by
        intro n hn hlt h
        exact hi.free n (Nat.le_of_succ_le hn) hlt fun heq ↦
          absurd hn (heq ▸ Nat.not_succ_le_self n)
      sound := by
        have hsound := hi.sound
        cases hh : s.handler <;> simp only [Sound, hh] at hsound ⊢
        · exact hsound
        · exact ⟨Nat.lt_succ_of_lt hsound.1, hsound.2⟩
        · exact ⟨Nat.lt_succ_of_lt hsound.1, hsound.2⟩
      past := hi.past }

theorem produce_inv (hi : d.Inv h₀ s) (hstep : d.produce s = some s') : d.Inv h₀ s' := by
  rw [produce] at hstep
  split at hstep
  case h_1 hclaimed =>
    split_ifs at hstep with hroom
    obtain ⟨job, hjob, rfl⟩ := Option.map_eq_some_iff.mp hstep
    exact hi.claim hroom hclaimed hjob
  case h_2 w rest hclaimed =>
    cases hstep
    exact hi.write hclaimed
  case h_3 hclaimed =>
    cases hstep
    exact hi.publish hclaimed

theorem Inv.event (hi : d.Inv h₀ s) (hlt : s.handled < s.published) :
    ∃ c, d.events[s.handled]? = some c :=
  ⟨_, List.getElem?_eq_getElem (Nat.lt_of_lt_of_le hlt hi.published_le_jobs)⟩

theorem Inv.enter (hi : d.Inv h₀ s) {h : H} (hh : s.handler = .idle h)
    (hlt : s.handled < s.published) :
    d.Inv h₀ { s with handler := .busy (d.enter h) [] } where
  handled_le := hi.handled_le
  published_le := hi.published_le
  published_le_jobs := hi.published_le_jobs
  full n c hn hlt hc _ := hi.full n c hn hlt hc fun _ ↦ by simp [Clearing, hh]
  claimed := hi.claimed
  free := hi.free
  sound := by
    have hsound := hi.sound
    simp only [Sound, hh] at hsound
    obtain ⟨c, hc⟩ := hi.event hlt
    exact ⟨hlt, hsound.2, h, c, hsound.1, hc, by simp, .refl⟩
  past := hi.past

theorem Inv.slot_eq (hi : d.Inv h₀ s) {l : L} {loads : List S} (hh : s.handler = .busy l loads)
    {c : S} (hlt : s.handled < s.published) (hc : d.events[s.handled]? = some c) :
    s.slots (s.handled % d.size) = c :=
  hi.full s.handled c le_rfl hlt hc fun _ ↦ by simp [Clearing, hh]

theorem Inv.load (hi : d.Inv h₀ s) {l l' : L} {loads : List S} (hh : s.handler = .busy l loads)
    (hadvance : d.advance l (s.slots (s.handled % d.size)) = some (.inl l')) :
    d.Inv h₀ { s with handler := .busy l' (loads ++ [s.slots (s.handled % d.size)]) } where
  handled_le := hi.handled_le
  published_le := hi.published_le
  published_le_jobs := hi.published_le_jobs
  full n c hn hlt hc _ := hi.full n c hn hlt hc fun _ ↦ by simp [Clearing, hh]
  claimed := hi.claimed
  free := hi.free
  sound := by
    have hsound := hi.sound
    simp only [Sound, hh] at hsound
    obtain ⟨hlt, hpast, h, c, hdealt, hc, hloads, hreach⟩ := hsound
    have hslot := hi.slot_eq hh hlt hc
    rw [hslot] at hadvance ⊢
    refine ⟨hlt, hpast, h, c, hdealt, hc, ?_, hreach.tail hadvance⟩
    intro c' hc'
    rcases List.mem_append.mp hc' with hc' | hc'
    · exact hloads c' hc'
    · exact List.mem_singleton.mp hc'
  past := hi.past

theorem fill_clears {n : ℕ} {c : S} (hc : d.events[n]? = some c) : fill d.clears c = d.empty := by
  rw [events, List.getElem?_map] at hc
  obtain ⟨job, hjob, rfl⟩ := Option.map_eq_some_iff.mp hc
  exact d.cleared job (List.mem_of_getElem? hjob)

theorem Inv.leave (hi : d.Inv h₀ s) {l : L} {h' : H} {loads : List S}
    (hh : s.handler = .busy l loads)
    (hadvance : d.advance l (s.slots (s.handled % d.size)) = some (.inr h')) :
    d.Inv h₀ { s with
      handler := .clearing h' d.clears
      past := s.past ++ [loads ++ [s.slots (s.handled % d.size)]] } := by
  have hsound := hi.sound
  simp only [Sound, hh] at hsound
  obtain ⟨hlt, hpast, h, c, hdealt, hc, hloads, hreach⟩ := hsound
  have hslot := hi.slot_eq hh hlt hc
  have htake : d.events.take (s.handled + 1) = d.events.take s.handled ++ [c] := by
    rw [List.take_add_one, hc]
    rfl
  rw [hslot] at hadvance ⊢
  have hsaw : Saw c (loads ++ [c]) := by
    refine ⟨by simp, ?_⟩
    intro c' hc'
    rcases List.mem_append.mp hc' with hc' | hc'
    · exact hloads c' hc'
    · exact List.mem_singleton.mp hc'
  have hlength : (s.past ++ [loads ++ [c]]).length = s.handled + 1 := by
    rw [List.length_append, List.length_singleton, hpast]
  exact
    { handled_le := hi.handled_le
      published_le := hi.published_le
      published_le_jobs := hi.published_le_jobs
      full := by
        intro n c' hn hlt' hc' hne
        exact hi.full n c' hn hlt' hc' fun heq ↦ absurd trivial (hne heq)
      claimed := hi.claimed
      free := hi.free
      sound := by
        refine ⟨hlt, hlength, ?_, ?_⟩
        · rw [Dealt, htake]
          exact .snoc hdealt ⟨l, hreach, hadvance⟩
        · rw [hslot]
          exact fill_clears hc
      past := by
        have hold := hi.past
        rw [hpast] at hold
        rw [hlength, htake]
        exact List.rel_append hold (.cons hsaw .nil) }

theorem Inv.clear (hi : d.Inv h₀ s) {h : H} {w : S → S} {rest : List (S → S)}
    (hh : s.handler = .clearing h (w :: rest)) :
    d.Inv h₀ { s with
      slots := modify s.slots (s.handled % d.size) w, handler := .clearing h rest } := by
  have hsound := hi.sound
  simp only [Sound, hh] at hsound
  obtain ⟨hlt, hpast, hdealt, hempty⟩ := hsound
  have hsize := d.size_pos
  have hother : ∀ n, s.handled ≤ n → n < s.handled + d.size → n ≠ s.handled →
      modify s.slots (s.handled % d.size) w (n % d.size) = s.slots (n % d.size) :=
    fun n hn hn' hne ↦ modify_other (slot_ne hn hn' le_rfl (by omega) hne) w
  exact
    { handled_le := hi.handled_le
      published_le := hi.published_le
      published_le_jobs := hi.published_le_jobs
      full := by
        intro n c hn hlt' hc hne
        -- the slot being cleared is the handler's own, which no longer has to be full
        have hn' : n ≠ s.handled := fun heq ↦ absurd trivial (hne heq)
        dsimp only
        rw [hother n hn (Nat.lt_of_lt_of_le hlt' hi.published_le) hn']
        exact hi.full n c hn hlt' hc fun heq ↦ absurd heq hn'
      claimed := by
        intro rest h
        obtain ⟨hroom, hevent⟩ := hi.claimed rest h
        refine ⟨hroom, ?_⟩
        dsimp only
        rw [hother _ hi.handled_le hroom (Nat.ne_of_gt hlt)]
        exact hevent
      free := by
        intro n hn hlt' h
        have hn' : n ≠ s.handled := Nat.ne_of_gt (Nat.lt_of_lt_of_le hlt hn)
        dsimp only
        rw [hother n (Nat.le_trans hi.handled_le hn) hlt' hn']
        exact hi.free n hn hlt' h
      sound := by
        refine ⟨hlt, hpast, hdealt, ?_⟩
        dsimp only
        rw [modify_same]
        exact hempty
      past := hi.past }

theorem Inv.release (hi : d.Inv h₀ s) {h : H} (hh : s.handler = .clearing h []) :
    d.Inv h₀ { s with handler := .idle h, handled := s.handled + 1 } := by
  have hsound := hi.sound
  simp only [Sound, hh] at hsound
  obtain ⟨hlt, hpast, hdealt, hempty⟩ := hsound
  exact
    { handled_le := hlt
      published_le := by
        have hle := hi.published_le
        simp only
        omega
      published_le_jobs := hi.published_le_jobs
      full := by
        intro n c hn hlt' hc _
        exact hi.full n c (Nat.le_of_succ_le hn) hlt' hc fun heq ↦
          absurd hn (heq ▸ Nat.not_succ_le_self n)
      claimed := by
        intro rest h
        obtain ⟨hroom, hevent⟩ := hi.claimed rest h
        refine ⟨?_, hevent⟩
        simp only
        omega
      free := by
        intro n hn hlt' h
        -- the slot that has been cleared comes into the window at its end
        by_cases hlast : n < s.handled + d.size
        · exact hi.free n hn hlast h
        · have hn' : n = s.handled + d.size := by
            simp only at hlt'
            omega
          subst hn'
          rw [Nat.add_mod_right]
          exact hempty
      sound := ⟨hdealt, hpast⟩
      past := hi.past }

theorem consume_inv (hi : d.Inv h₀ s) (hstep : d.consume s = some s') : d.Inv h₀ s' := by
  rw [consume] at hstep
  split at hstep
  case h_1 h hh =>
    split_ifs at hstep with hlt
    cases hstep
    exact hi.enter hh hlt
  case h_2 l loads hh =>
    obtain ⟨x, hadvance, rfl⟩ := Option.map_eq_some_iff.mp hstep
    cases x with
    | inl l' => exact hi.load hh hadvance
    | inr h' => exact hi.leave hh hadvance
  case h_3 h w rest hh =>
    cases hstep
    exact hi.clear hh
  case h_4 h hh =>
    cases hstep
    exact hi.release hh

theorem step_inv (hi : d.Inv h₀ s) {turn : Turn} (hstep : d.step s turn = some s') : d.Inv h₀ s' := by
  cases turn with
  | producer => exact produce_inv hi hstep
  | handler => exact consume_inv hi hstep

theorem run_inv (hi : d.Inv h₀ s) {turns : List Turn} (hrun : d.run s turns = some s') :
    d.Inv h₀ s' := Runs.invariant (fun hi hstep ↦ step_inv hi hstep) hi hrun

theorem Saw.head {c : S} {loads : List S} (h : Saw c loads) : loads.head? = some c := by
  obtain ⟨c', loads', rfl⟩ := List.exists_cons_of_ne_nil h.1
  rw [List.head?_cons, h.2 c' List.mem_cons_self]

theorem filterMap_head {cs : List S} {past : List (List S)} (h : List.Forall₂ Saw cs past) :
    past.filterMap List.head? = cs := by
  induction h with
  | nil => rfl
  | cons hsaw _ ih => rw [List.filterMap_cons_some hsaw.head, ih]

theorem Inv.reads_prefix (hi : d.Inv h₀ s) : s.reads.filterMap List.head? <+: d.events := by
  have hpast := filterMap_head hi.past
  have hsound := hi.sound
  rw [State.reads, List.filterMap_append, hpast]
  cases hh : s.handler with
  | idle h => simpa using List.take_prefix _ _
  | clearing h rest => simpa using List.take_prefix _ _
  | busy l loads =>
    simp only [Sound, hh] at hsound
    obtain ⟨hlt, hlen, h, c, -, hc, hloads, -⟩ := hsound
    cases loads with
    | nil =>
      change d.events.take s.past.length ++ [] <+: d.events
      rw [List.append_nil]
      exact List.take_prefix _ _
    | cons c' loads =>
      have hhead : [c' :: loads].filterMap List.head? = [c] := by
        rw [hloads c' List.mem_cons_self]
        rfl
      have htake : d.events.take (s.handled + 1) = d.events.take s.handled ++ [c] := by
        rw [List.take_add_one, hc]
        rfl
      simp only [hhead, hlen, ← htake]
      exact List.take_prefix _ _

/-- Every load of call number `n` sees event number `n`. -/
theorem Inv.mem_reads (hi : d.Inv h₀ s) {n : ℕ} {loads : List S} (hn : s.reads[n]? = some loads)
    {c : S} (hc : c ∈ loads) : d.events[n]? = some c := by
  have hsound := hi.sound
  by_cases hlt : n < s.past.length
  · rw [State.reads, List.getElem?_append_left hlt, List.getElem?_eq_getElem hlt,
      Option.some.injEq] at hn
    have hlen : n < (d.events.take s.past.length).length := by rw [hi.past.length_eq]; exact hlt
    have hsaw := hi.past.get hlen hlt
    simp only [List.get_eq_getElem, hn] at hsaw
    rw [hsaw.2 c hc, List.getElem_take]
    exact List.getElem?_eq_getElem _
  · rw [State.reads, List.getElem?_append_right (Nat.not_lt.mp hlt)] at hn
    cases hh : s.handler with
    | idle h => simp [hh] at hn
    | clearing h rest => simp [hh] at hn
    | busy l loads' =>
      simp only [Sound, hh] at hsound
      obtain ⟨-, hlen, h, c', -, hc', hloads, -⟩ := hsound
      simp only [hh, List.getElem?_singleton] at hn
      split_ifs at hn with hzero
      cases hn
      rw [hloads c hc, ← hc']
      congr 1
      omega

theorem Inv.idle_of_drained (hi : d.Inv h₀ s) (hall : s.handled = s.published) :
    ∃ h, s.handler = .idle h := by
  have hsound := hi.sound
  cases hh : s.handler with
  | idle h => exact ⟨h, rfl⟩
  | busy l loads =>
    simp only [Sound, hh] at hsound
    exact absurd hsound.1 (hall ▸ Nat.lt_irrefl _)
  | clearing h rest =>
    simp only [Sound, hh] at hsound
    exact absurd hsound.1 (hall ▸ Nat.lt_irrefl _)

theorem Inv.callsAll (hi : d.Inv h₀ s) {h : H} (hh : s.handler = .idle h)
    (hall : s.handled = d.jobs.length) : d.CallsAll h₀ d.events h := by
  have hsound := hi.sound
  simp only [Sound, hh, Dealt, hall] at hsound
  rw [List.take_of_length_le (by simp [events])] at hsound
  exact hsound.1

theorem CallsAll.last {cs : List S} {c : S} {h₀ h : H} (hcalls : d.CallsAll h₀ (cs ++ [c]) h) :
    ∃ h₁, d.CallsAll h₀ cs h₁ ∧ d.Calls c h₁ h := by
  generalize hevents : cs ++ [c] = events at hcalls
  cases hcalls with
  | nil => exact absurd hevents (by simp)
  | @snoc cs' c' h₁ _ hprevious hcall =>
    obtain ⟨rfl, hc⟩ := List.append_inj' hevents rfl
    cases hc
    exact ⟨h₁, hprevious, hcall⟩

end Design

end RingBuffer
