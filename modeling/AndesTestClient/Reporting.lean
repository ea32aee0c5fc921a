import AndesTestClient.Runtime

namespace AndesTestClient

open Imperative

structure ReportSettings where
  enableConsoleReport : Bool := false
  consoleReportUpdateInterval : Int32 := 0
  jmxReportEnable : Bool := false
  csvReportEnable : Bool := false
  csvUpdateInterval : Int32 := 0
  csvGaugeUpdateInterval : Int32 := 0
deriving DecidableEq, Repr

inductive Reporter
  | csvGaugeReporter
  | consoleReporter
  | slf4jReporter
  | jmxReporter
  | csvReporter
deriving DecidableEq, Repr

/-- The static fields of `Main` that hold a reporter, and which of the reporters run. -/
structure Reporters where
  made : List Reporter := []
  running : List Reporter := []
deriving DecidableEq, Repr

def Reporters.append (reporters new : Reporters) : Reporters where
  made := reporters.made ++ new.made
  running := reporters.running ++ new.running

theorem Reporters.append_assoc (a b c : Reporters) : (a.append b).append c = a.append (b.append c) := by
  simp only [Reporters.append, List.append_assoc]

namespace Main

def makeReporter (reporter : Reporter) : Java Reporters Unit :=
  update fun reporters ↦ { reporters with made := reporters.made ++ [reporter] }

/-- `start` of a reporter, on a field that may be null. The executor of a scheduled reporter takes no
period that is not positive; the JMX reporter has none. -/
def startReporter (reporter : Reporter) (interval : Option Int32) : Java Reporters Unit :=
  step fun reporters ↦
    if reporter ∉ reporters.made then (.error .nullPointerException, reporters)
    else if interval.all fun i ↦ 0 < i.toInt then
      (.ok (), { reporters with running := reporters.running ++ [reporter] })
    else (.error .illegalArgumentException, reporters)

def startCSVReport (csvReportRefreshRate : Int32) : Java Reporters Unit := do
  makeReporter .csvReporter
  startReporter .csvReporter (some csvReportRefreshRate)

def startStatReporting (settings : ReportSettings) : Java Reporters Unit := do
  makeReporter .consoleReporter
  makeReporter .csvGaugeReporter
  startReporter .csvGaugeReporter (some settings.csvGaugeUpdateInterval)
  makeReporter .slf4jReporter
  if settings.enableConsoleReport then
    startReporter .consoleReporter (some settings.consoleReportUpdateInterval)
    startReporter .slf4jReporter (some settings.consoleReportUpdateInterval)
  if settings.jmxReportEnable then
    makeReporter .jmxReporter
    startReporter .jmxReporter none
  if settings.csvReportEnable then
    startCSVReport settings.csvUpdateInterval

end Main

namespace ReportSettings

structure Accepted (settings : ReportSettings) : Prop where
  gauge : 0 < settings.csvGaugeUpdateInterval.toInt
  console : settings.enableConsoleReport = true → 0 < settings.consoleReportUpdateInterval.toInt
  csv : settings.csvReportEnable = true → 0 < settings.csvUpdateInterval.toInt

/-- The console reporter and the one for SLF4J are made in any case, for the report of the end. -/
def reporters (settings : ReportSettings) : Reporters where
  made := [.consoleReporter, .csvGaugeReporter, .slf4jReporter] ++
    (if settings.jmxReportEnable then [.jmxReporter] else []) ++
    if settings.csvReportEnable then [.csvReporter] else []
  running := [.csvGaugeReporter] ++
    (if settings.enableConsoleReport then [.consoleReporter, .slf4jReporter] else []) ++
    (if settings.jmxReportEnable then [.jmxReporter] else []) ++
    if settings.csvReportEnable then [.csvReporter] else []

end ReportSettings

namespace Main

/-- Where the fields `held` are not null, the code ends well exactly when `P` holds, with `new` made and
started, and is refused a period otherwise. -/
def StartsIff (held : List Reporter) (P : Prop) (new : Reporters) (p : Java Reporters Unit) : Prop :=
  ∀ reporters : Reporters, held ⊆ reporters.made →
    (P ∧ exec p reporters = some (.ok (), reporters.append new)) ∨
    (¬ P ∧ ∃ reporters', exec p reporters = some (.error .illegalArgumentException, reporters'))

variable {held : List Reporter} {P Q : Prop} {new new' : Reporters}
  {p q : Java Reporters Unit}

theorem makeReporter_startsIff (held : List Reporter) (reporter : Reporter) :
    StartsIff held True { made := [reporter] } (makeReporter reporter) := by
  intro reporters _
  left
  rw [makeReporter, exec_update, Reporters.append, List.append_nil]
  exact ⟨trivial, rfl⟩

theorem startReporter_startsIff (reporter : Reporter) (interval : Option Int32) (h : reporter ∈ held) :
    StartsIff held (interval.all (fun i ↦ 0 < i.toInt) = true) { running := [reporter] }
      (startReporter reporter interval) := by
  intro reporters hheld
  have hmade : ¬ reporter ∉ reporters.made := not_not_intro (hheld h)
  by_cases hinterval : interval.all (fun i ↦ 0 < i.toInt) = true
  · left
    rw [startReporter, exec_step, if_neg hmade, if_pos hinterval, Reporters.append, List.append_nil]
    exact ⟨hinterval, rfl⟩
  · right
    rw [startReporter, exec_step, if_neg hmade, if_neg hinterval]
    exact ⟨hinterval, _, rfl⟩

theorem StartsIff.congr (hp : StartsIff held P new p) (h : P ↔ Q) (hnew : new = new') :
    StartsIff held Q new' p := by
  rwa [← propext h, ← hnew]

theorem StartsIff.bind (hp : StartsIff held P new p) (hq : StartsIff (held ++ new.made) Q new' q) :
    StartsIff held (P ∧ Q) (new.append new') (do p; q) := by
  intro reporters hheld
  rcases hp reporters hheld with ⟨h, hrun⟩ | ⟨h, reporters₁, hrun⟩
  · have hheld₁ : held ++ new.made ⊆ (reporters.append new).made :=
      List.append_subset.mpr ⟨List.subset_append_of_subset_left _ hheld, List.subset_append_right _ _⟩
    rcases hq _ hheld₁ with ⟨h', hrun'⟩ | ⟨h', reporters₂, hrun'⟩
    · rw [Reporters.append_assoc] at hrun'
      exact .inl ⟨⟨h, h'⟩, (exec_bind_ok hrun).trans hrun'⟩
    · exact .inr ⟨fun hboth ↦ h' hboth.2, reporters₂, (exec_bind_ok hrun).trans hrun'⟩
  · exact .inr ⟨fun hboth ↦ h hboth.1, reporters₁, exec_bind_error hrun⟩

theorem StartsIff.when (hp : StartsIff held P new p) (b : Bool) :
    StartsIff held (b = true → P) (if b then new else {}) (if b then p else pure ()) := by
  cases b with
  | false =>
    intro reporters _
    left
    refine ⟨fun h ↦ Bool.noConfusion h, ?_⟩
    simp [Reporters.append]
  | true => simpa using hp

theorem startCSVReport_startsIff (held : List Reporter) (csvReportRefreshRate : Int32) :
    StartsIff held (0 < csvReportRefreshRate.toInt)
      { made := [.csvReporter], running := [.csvReporter] } (startCSVReport csvReportRefreshRate) := by
  have hstart := (makeReporter_startsIff held .csvReporter).bind
    (startReporter_startsIff .csvReporter (some csvReportRefreshRate) (by simp))
  exact hstart.congr (by simp) rfl

theorem startStatReporting_startsIff (settings : ReportSettings) :
    StartsIff [] settings.Accepted settings.reporters (startStatReporting settings) := by
  have hconsole {held : List Reporter} (h : [.consoleReporter, .slf4jReporter] ⊆ held) :=
    (startReporter_startsIff .consoleReporter (some settings.consoleReportUpdateInterval)
      (h (by simp))).bind
    (startReporter_startsIff .slf4jReporter (some settings.consoleReportUpdateInterval)
      (List.mem_append_left _ (h (by simp))))
  have hjmx (held : List Reporter) := (makeReporter_startsIff held .jmxReporter).bind
    (startReporter_startsIff .jmxReporter none (by simp))
  have hall := (makeReporter_startsIff [] .consoleReporter).bind
    ((makeReporter_startsIff _ .csvGaugeReporter).bind
      ((startReporter_startsIff .csvGaugeReporter (some settings.csvGaugeUpdateInterval) (by simp)).bind
        ((makeReporter_startsIff _ .slf4jReporter).bind
          (((hconsole (by simp)).when settings.enableConsoleReport).bind
            (((hjmx _).when settings.jmxReportEnable).bind
              ((startCSVReport_startsIff _ settings.csvUpdateInterval).when settings.csvReportEnable))))))
  have haccepted : StartsIff [] settings.Accepted settings.reporters _ := hall.congr ?_ ?_
  · obtain ⟨console, _, jmx, csv, _, _⟩ := settings
    cases console <;> cases jmx <;> cases csv <;> simpa [startStatReporting] using haccepted
  · simp only [Option.all_some, Option.all_none, decide_eq_true_eq, and_self, true_and, imp_true_iff]
    exact ⟨fun h ↦ ⟨h.1, h.2.1, h.2.2⟩, fun h ↦ ⟨h.gauge, h.console, h.csv⟩⟩
  · obtain ⟨console, _, jmx, csv, _, _⟩ := settings
    cases console <;> cases jmx <;> cases csv <;> rfl

end Main

inductive HookCall
  | report (reporter : Reporter)
  | close (reporter : Reporter)
  | interrupt (thread : ℕ)
deriving DecidableEq, Repr

namespace Main

def callReporter (made : List Reporter) (reporter : Reporter) (call : Reporter → HookCall) :
    Java (List HookCall) Unit :=
  step fun calls ↦
    if reporter ∈ made then (.ok (), calls ++ [call reporter])
    else (.error .nullPointerException, calls)

/-- `run` of the thread that `main` gives to `addShutdownHook`. -/
def shutdownHook (made : List Reporter) (threads : ℕ) : Java (List HookCall) Unit := do
  callReporter made .slf4jReporter .report
  callReporter made .csvGaugeReporter .report
  callReporter made .consoleReporter .report
  if .jmxReporter ∈ made then
    callReporter made .jmxReporter .close
  if .csvReporter ∈ made then
    callReporter made .csvReporter .report
    callReporter made .csvReporter .close
  forM (List.range threads) fun i ↦ update fun calls ↦ calls ++ [.interrupt i]

def reporterCalls (made : List Reporter) : List HookCall :=
  [.report .slf4jReporter, .report .csvGaugeReporter, .report .consoleReporter] ++
    (if .jmxReporter ∈ made then [.close .jmxReporter] else []) ++
    if .csvReporter ∈ made then [.report .csvReporter, .close .csvReporter] else []

variable {made : List Reporter} {calls : List HookCall}

theorem exec_callReporter {reporter : Reporter} (h : reporter ∈ made) (call : Reporter → HookCall)
    (calls : List HookCall) :
    exec (callReporter made reporter call) calls = some (.ok (), calls ++ [call reporter]) := by
  rw [callReporter, exec_step, if_pos h]

theorem exec_interrupts (threads : List ℕ) (calls : List HookCall) :
    exec (forM threads fun i ↦ (update fun calls ↦ calls ++ [.interrupt i] : Java (List HookCall) Unit))
      calls = some (.ok (), calls ++ threads.map .interrupt) := by
  induction threads generalizing calls with
  | nil => rw [List.map_nil, List.append_nil]; rfl
  | cons i threads ih =>
    rw [List.forM_cons, exec_bind_ok (exec_update _ calls), ih, List.map_cons, List.append_assoc]
    rfl

theorem exec_shutdownHook (h : [.consoleReporter, .csvGaugeReporter, .slf4jReporter] ⊆ made)
    (threads : ℕ) :
    exec (shutdownHook made threads) calls =
      some (.ok (), calls ++ (reporterCalls made ++ (List.range threads).map .interrupt)) := by
  have hslf4j : .slf4jReporter ∈ made := h (by simp)
  have hgauge : .csvGaugeReporter ∈ made := h (by simp)
  have hconsole : .consoleReporter ∈ made := h (by simp)
  rw [shutdownHook, reporterCalls, exec_bind_ok (exec_callReporter hslf4j _ _),
    exec_bind_ok (exec_callReporter hgauge _ _), exec_bind_ok (exec_callReporter hconsole _ _)]
  by_cases hjmx : .jmxReporter ∈ made <;> by_cases hcsv : .csvReporter ∈ made <;>
    simp [exec_bind, exec_callReporter, exec_interrupts, hjmx, hcsv]

end Main

end AndesTestClient
