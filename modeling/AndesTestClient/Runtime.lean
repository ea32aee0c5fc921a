import AndesTestClient.Library.Imperative

namespace AndesTestClient

open Imperative

/-- What the code throws: its own exception with its message, and those of the Java platform
that one of its calls raises. -/
inductive Thrown
  | atcException (message : String)
  | interruptedException
  | nullPointerException
  | illegalArgumentException
deriving DecidableEq, Repr

abbrev Java (σ : Type) := Prog Thrown σ

def nonNull {σ α : Type} : Option α → Java σ α
  | some a => pure a
  | none => throw .nullPointerException

def concatenated (s : Option String) : String := s.getD "null"

def integerToString (i : Int32) : String := toString i.toInt

/-- `Character.isWhitespace` of the Java versions that the build targets, 7 and 8, with U+180E. -/
def isWhitespace (c : Char) : Bool :=
  (9 ≤ c.toNat && c.toNat ≤ 13) || (28 ≤ c.toNat && c.toNat ≤ 32) || c.toNat == 0x1680 ||
  c.toNat == 0x180E ||
  (0x2000 ≤ c.toNat && c.toNat ≤ 0x200A && c.toNat != 0x2007) ||
  c.toNat == 0x2028 || c.toNat == 0x2029 || c.toNat == 0x205F || c.toNat == 0x3000

/-- `StringUtils.isBlank`: null, empty or whitespace only. -/
def isBlank (s : Option String) : Bool := (s.getD "").toList.all isWhitespace

def isEmpty (s : Option String) : Bool := s.getD "" == ""

/-- The scan of `String.replace("%d", …)`: from the left, and never into the replacement. -/
def replaceScan (replacement : List Char) : List Char → List Char
  | '%' :: 'd' :: rest => replacement ++ replaceScan replacement rest
  | c :: rest => c :: replaceScan replacement rest
  | [] => []

def replaceMarker (s replacement : String) : String :=
  String.ofList (replaceScan replacement.toList s.toList)

/-- The interrupt status of a thread, with the interrupts that arrive during its next waits. -/
structure Thread where
  interrupted : Bool := false
  interrupts : List Bool := []
deriving DecidableEq, Repr

/-- `Thread.sleep`: an interrupt, pending or arriving, is consumed and ends the wait. -/
def Thread.sleep : Java Thread Unit :=
  step fun t ↦
    if t.interrupted then (.error .interruptedException, { t with interrupted := false })
    else if t.interrupts.headD false then
      (.error .interruptedException, { t with interrupts := t.interrupts.tail })
    else (.ok (), { t with interrupts := t.interrupts.tail })

def Thread.interrupt : Java Thread Unit := update fun t ↦ { t with interrupted := true }

def Thread.Uninterrupted (t : Thread) : Prop :=
  t.interrupted = false ∧ ∀ b ∈ t.interrupts, b = false

theorem Thread.sleep_uninterrupted {t : Thread} (h : t.Uninterrupted) :
    ∃ t' : Thread, exec Thread.sleep t = some (.ok (), t') ∧ t'.Uninterrupted := by
  obtain ⟨hpending, harriving⟩ := h
  refine ⟨{ t with interrupts := t.interrupts.tail }, ?_, hpending,
    fun b hb ↦ harriving b (List.mem_of_mem_tail hb)⟩
  have hhead : t.interrupts.headD false = false := by
    cases hi : t.interrupts with
    | nil => rfl
    | cons b bs => exact harriving b (by rw [hi]; exact List.mem_cons_self)
  simp only [Thread.sleep, exec_step, hpending, hhead, Bool.false_eq_true, if_false]

theorem Thread.sleep_ends (t : Thread) : Ends Thread.sleep (fun r t' ↦
    (r = .ok () ∨ r = .error .interruptedException) ∧
    (t.Uninterrupted → r = .ok () ∧ t'.Uninterrupted)) t := by
  by_cases h : t.Uninterrupted
  · obtain ⟨t', hrun, ht'⟩ := Thread.sleep_uninterrupted h
    exact ⟨.ok (), t', hrun, .inl rfl, fun _ ↦ ⟨rfl, ht'⟩⟩
  · simp only [Thread.sleep, ends_step]
    split_ifs
    · exact ⟨.inr rfl, fun h' ↦ absurd h' h⟩
    · exact ⟨.inr rfl, fun h' ↦ absurd h' h⟩
    · exact ⟨.inl rfl, fun h' ↦ absurd h' h⟩

def Thread.afterWaits (t : Thread) (k : ℕ) : Thread := ⟨t.interrupted, t.interrupts.drop k⟩

theorem headD_drop {α : Type} (l : List α) (k : ℕ) (a : α) : (l.drop k).headD a = l.getD k a := by
  rw [List.headD_eq_head?_getD, List.head?_drop, List.getD_eq_getElem?_getD]

theorem Thread.exec_sleep (t : Thread) (k : ℕ) : ∃ u, exec Thread.sleep (t.afterWaits k) = some
      (if t.interrupted = false ∧ t.interrupts.getD k false = false then .ok ()
        else .error .interruptedException, u) ∧
    (t.interrupted = false → u = t.afterWaits (k + 1)) := by
  obtain ⟨pending, arriving⟩ := t
  have htail : (arriving.drop k).tail = arriving.drop (k + 1) := List.tail_drop
  simp only [Thread.sleep, exec_step, Thread.afterWaits, headD_drop, htail]
  cases pending
  · cases arriving.getD k false
    · exact ⟨_, by simp only [Bool.false_eq_true, if_false, and_self, if_true], fun _ ↦ rfl⟩
    · exact ⟨_, by simp only [Bool.false_eq_true, if_false, if_true, Bool.true_eq_false, and_false],
        fun _ ↦ rfl⟩
  · exact ⟨⟨false, arriving.drop k⟩, by simp, fun h ↦ absurd h (by simp)⟩

/-- Whether the loop is given a `RateLimiter`, whose factory refuses a rate that is not
positive. -/
def rateLimiter {σ : Type} (messagesPerSecond : Int32) : Java σ Bool :=
  if messagesPerSecond ≠ 0 then
    if messagesPerSecond < 0 then throw .illegalArgumentException else pure true
  else pure false

theorem rateLimiter_run {σ : Type} {rate : Int32} (h : 0 ≤ rate.toInt) (s : σ) :
    exec (rateLimiter rate) s = some (.ok (decide (rate ≠ 0)), s) := by
  have hneg : ¬ rate < 0 := by
    rw [Int32.lt_iff_toInt_lt, Int32.toInt_zero]
    omega
  by_cases hz : rate = 0
  · simp [rateLimiter, hz]
  · simp [rateLimiter, hz, hneg]

theorem rateLimiter_negative {σ : Type} {rate : Int32} (h : rate.toInt < 0) (s : σ) :
    exec (rateLimiter rate) s = some (.error .illegalArgumentException, s) := by
  have hneg : rate < 0 := by rwa [Int32.lt_iff_toInt_lt, Int32.toInt_zero]
  have hne : rate ≠ 0 := by rintro rfl; exact absurd h (by decide)
  simp [rateLimiter, hne, hneg]

/-- `AtomicInteger`, with the running total of what was added to it. -/
structure AtomicInteger where
  value : Int32 := 0
  added : ℤ := 0
deriving DecidableEq, Repr

def AtomicInteger.addAndGet (delta : Int32) (a : AtomicInteger) : AtomicInteger :=
  ⟨a.value + delta, a.added + delta.toInt⟩

def AtomicInteger.incrementAndGet (a : AtomicInteger) : AtomicInteger := a.addAndGet 1

structure Meter where
  count : ℤ := 0
deriving DecidableEq, Repr

def Meter.mark (n : Int32) (m : Meter) : Meter := ⟨m.count + n.toInt⟩

def size {α : Type} (l : List α) : Int32 := Int32.ofNat l.length

theorem size_toInt {α : Type} {l : List α} (h : l.length < 2 ^ 31) : (size l).toInt = l.length :=
  toInt_ofNat h

end AndesTestClient
