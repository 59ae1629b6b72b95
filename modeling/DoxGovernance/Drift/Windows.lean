import DoxGovernance.Drift.Service
import DoxGovernance.Ingestion.Storage
import DoxGovernance.Lib.Run
import Mathlib.Data.List.Induction

/-!
# What a drift window counts

A window reaches back from the present, and an event is in it when its `timestamp` is. The
timestamp is documented as the time at which the server received the event, but it is the
client's: it passes unchanged into the row. A window counts the events that were received in
it exactly when every event is stamped with the time of its receipt.
-/

set_option autoImplicit false

namespace Dox
open IngestionService

/-- A computation that looks at the events of an agent in a window. -/
inductive DriftOp where
  | computeBaseline (scan : Scan EventRecord) (create : BaselineCreate)
  | analyze (service : DriftDetectionService) (baselineScan : Scan AgentBaseline)
      (eventScan : Scan EventRecord) (request : AnalyzeRequest)

namespace DriftOp

def tenantId : DriftOp → String
  | computeBaseline _ create => create.tenantId
  | analyze _ _ _ request => request.tenantId

def agentId : DriftOp → String
  | computeBaseline _ create => create.agentId
  | analyze _ _ _ request => request.agentId

def lookbackHours : DriftOp → Nat
  | computeBaseline _ create => create.lookbackHours
  | analyze _ _ _ request => request.lookbackHours

/-- The events that the computation reads. -/
def window (w : World) : DriftOp → List EventRecord
  | computeBaseline scan create => orderByAsc (·.timestamp) (w.events.select scan
      (DriftDetectionService.inWindow w.clock create.tenantId create.agentId create.lookbackHours))
  | analyze _ _ eventScan request => w.events.select eventScan
      (DriftDetectionService.inWindow w.clock request.tenantId request.agentId
        request.lookbackHours)

def exec : DriftOp → Service Unit
  | computeBaseline scan create => do
    let _ ← DriftDetectionService.computeBaseline scan create
    return ()
  | analyze service baselineScan eventScan request => do
    let _ ← service.analyze baselineScan eventScan request
    return ()

theorem mem_window {op : DriftOp} {w : World} {record : EventRecord} :
    record ∈ op.window w ↔ record ∈ w.events.rows ∧ record.tenantId = op.tenantId ∧
      record.agentId = op.agentId ∧
      w.clock.withinHours op.lookbackHours record.timestamp = true := by
  cases op with
  | computeBaseline scan create =>
    rw [window, mem_orderByAsc, Table.mem_select, DriftDetectionService.inWindow,
      Bool.and_eq_true, Bool.and_eq_true, decide_eq_true_iff, decide_eq_true_iff, and_assoc]
    rfl
  | analyze service baselineScan eventScan request =>
    rw [window, Table.mem_select, DriftDetectionService.inWindow, Bool.and_eq_true,
      Bool.and_eq_true, decide_eq_true_iff, decide_eq_true_iff, and_assoc]
    rfl

end DriftOp

/-- A baseline counts the events of its window. -/
theorem computeBaseline_counts (scan : Scan EventRecord) (create : BaselineCreate) (w : World) :
    ∃ baseline w', DriftDetectionService.computeBaseline scan create w = (.ok baseline, w') ∧
      baseline.totalEvents = ((DriftOp.computeBaseline scan create).window w).length ∧
      baseline.eventCounts =
        DriftDetectionService.countTypes ((DriftOp.computeBaseline scan create).window w) :=
  ⟨_, _, rfl, rfl, rfl⟩

theorem analyze_reports (service : DriftDetectionService) (baselineScan : Scan AgentBaseline)
    (eventScan : Scan EventRecord) (request : AnalyzeRequest) (w : World) :
    ∃ baseline alertCreated alerts, service.analyze baselineScan eventScan request w =
      (.ok (DriftDetectionService.driftReport request baseline
        ((DriftOp.analyze service baselineScan eventScan request).window w) alertCreated),
        {w with alerts}) := by
  obtain ⟨alerts, hrun, -⟩ := service.analyze_returns
    (rfl : DriftDetectionService.getActiveBaseline baselineScan request.tenantId request.agentId w =
      _)
    (rfl : DriftDetectionService.recentEvents eventScan request w = _)
  exact ⟨_, _, alerts, hrun⟩

/-- A report counts the events of its window. -/
theorem analyze_counts (service : DriftDetectionService) (baselineScan : Scan AgentBaseline)
    (eventScan : Scan EventRecord) (request : AnalyzeRequest) (w : World) :
    ∃ report w', service.analyze baselineScan eventScan request w = (.ok report, w') ∧
      report.driftScore.recentEventCount =
        ((DriftOp.analyze service baselineScan eventScan request).window w).length := by
  obtain ⟨baseline, alertCreated, alerts, hrun⟩ :=
    analyze_reports service baselineScan eventScan request w
  exact ⟨_, _, hrun, rfl⟩

/-! ### Runs -/

inductive StreamOp where
  | ingest (service : IngestionService) (op : IngestOp) (outage : Outage)
  | drift (op : DriftOp)

/-- An ingestion or a drift computation, with the time it is made at. -/
structure StreamCall where
  time : Datetime
  op : StreamOp

namespace StreamCall
variable (sha256 : ByteArray → String)

def step (w : World) (call : StreamCall) : World :=
  match call.op with
  | .ingest service op outage => (op.run service sha256 outage (w.at call.time)).2
  | .drift op => (op.exec (w.at call.time)).2

/-- The condition on a call: an ingestion that is accepted has every event stamped with the time
of the call. -/
def StampedOnReceipt (w : World) (call : StreamCall) : Prop :=
  match call.op with
  | .ingest service op _ => service.Admissible call.time.date w op.events →
      ∀ e ∈ op.events, e.timestamp = call.time
  | .drift _ => True

/-- The call that stored the record was made at this time. -/
def ReceivedAt (w : World) (calls : List StreamCall) (record : EventRecord) (time : Datetime) :
    Prop :=
  ∃ before call after, calls = before ++ call :: after ∧ call.time = time ∧
    record ∉ (before.foldl (step sha256) w).events.rows ∧
    record ∈ (step sha256 (before.foldl (step sha256) w) call).events.rows

/-- A computation made after the calls counts the events of its agent that were received in its
window. -/
def CountsReceived (w : World) (calls : List StreamCall) (time : Datetime) (op : DriftOp) : Prop :=
  ∀ record, record ∈ op.window ((calls.foldl (step sha256) w).at time) ↔
    record.tenantId = op.tenantId ∧ record.agentId = op.agentId ∧
      ∃ received, ReceivedAt sha256 w calls record received ∧
        time.withinHours op.lookbackHours received = true ∧ received ≤ time

/-- Every computation of a run does. -/
def WindowsRight (w : World) (calls : List StreamCall) : Prop :=
  ∀ before time op after, calls = before ++ ⟨time, .drift op⟩ :: after →
    CountsReceived sha256 w before time op

/-! ### What one call does -/

section Step
variable {sha256} {w : World} {records : List EventRecord} {events : List CanonicalEvent}
  {time : Datetime}

theorem stamped_iff
    (h : List.Forall₂ (fun r e => r.createdAt = time ∧ r.timestamp = e.timestamp) records events) :
    (∀ e ∈ events, e.timestamp = time) ↔ ∀ r ∈ records, r.timestamp = r.createdAt := by
  induction h with
  | nil => simp
  | cons hfirst _ ih =>
    rw [List.forall_mem_cons, List.forall_mem_cons, ih, hfirst.1, hfirst.2]

theorem createdAt_of_forall₂
    (h : List.Forall₂ (fun r e => r.createdAt = time ∧ r.timestamp = e.timestamp) records events) :
    ∀ r ∈ records, r.createdAt = time := by
  induction h with
  | nil => exact fun r hr => absurd hr List.not_mem_nil
  | cons hfirst _ ih => exact List.forall_mem_cons.mpr ⟨hfirst.1, ih⟩

theorem exec_run (op : DriftOp) (w : World) :
    (op.exec w).2.events = w.events ∧ (op.exec w).2.clock = w.clock := by
  cases op with
  | computeBaseline scan create => exact ⟨rfl, rfl⟩
  | analyze service baselineScan eventScan request =>
    obtain ⟨baseline, alertCreated, alerts, hrun⟩ :=
      analyze_reports service baselineScan eventScan request w
    rw [DriftOp.exec, Effect.bind_ok hrun]
    exact ⟨rfl, rfl⟩

theorem run_sameClock (service : IngestionService) (op : IngestOp) (outage : Outage) :
    Effect.Keeps SameClock (op.run service sha256 outage) :=
  IngestOp.run_keeps @SameClock.trans checkAndIncrement_sameClock (fun _ _ _ => rfl)
    (fun _ _ _ _ => rfl) sha256 outage op

variable (sha256) in
/-- The step lemma: a call appends records that are inserted at its time, and they are stamped
with it exactly when the call meets the condition. -/
theorem step_spec (w : World) (call : StreamCall) :
    (step sha256 w call).clock = call.time ∧
    ∃ records, (step sha256 w call).events.rows = w.events.rows ++ records ∧
      (∀ r ∈ records, r.createdAt = call.time) ∧
      (StampedOnReceipt w call ↔ ∀ r ∈ records, r.timestamp = r.createdAt) := by
  obtain ⟨time, op⟩ := call
  cases op with
  | drift op =>
    obtain ⟨hevents, hclock⟩ := exec_run op (w.at time)
    refine ⟨hclock, [], ?_, ?_, ?_⟩
    · rw [List.append_nil]
      exact congrArg Table.rows hevents
    · exact fun r hr => absurd hr List.not_mem_nil
    · exact iff_of_true trivial fun r hr => absurd hr List.not_mem_nil
  | ingest service op outage =>
    refine ⟨run_sameClock service op outage (w.at time), ?_⟩
    rcases run_stores op outage (w.at time) with ⟨hadmissible, records, hrows, hrecords⟩ |
      ⟨hrefused, hevents⟩
    · refine ⟨records, hrows, createdAt_of_forall₂ hrecords, ?_⟩
      rw [← stamped_iff hrecords]
      exact ⟨fun h => h ((admissible_at time).mp hadmissible), fun h _ => h⟩
    · refine ⟨[], ?_, fun r hr => absurd hr List.not_mem_nil, ?_⟩
      · rw [List.append_nil]
        exact congrArg Table.rows hevents
      · refine iff_of_true (fun h => ?_) fun r hr => absurd hr List.not_mem_nil
        exact absurd ((admissible_at time).mpr h) hrefused

end Step

/-! ### What a run has received -/

/-- Every event is stamped with the time of its receipt. -/
def Stamped (w : World) : Prop := ∀ r ∈ w.events.rows, r.timestamp = r.createdAt

def CreatedBefore (w : World) : Prop := ∀ r ∈ w.events.rows, r.createdAt ≤ w.clock

section Run
variable {sha256} {w : World} {calls : List StreamCall} {record : EventRecord} {time : Datetime}

theorem rows_grow (w : World) (calls : List StreamCall) :
    w.events.rows <+: (calls.foldl (step sha256) w).events.rows := by
  induction calls generalizing w with
  | nil => exact List.prefix_rfl
  | cons call calls ih =>
    obtain ⟨-, records, hrows, -⟩ := step_spec sha256 w call
    have hfirst : w.events.rows <+: (step sha256 w call).events.rows := by
      rw [hrows]
      exact List.prefix_append _ _
    exact hfirst.trans (ih (step sha256 w call))

/-- What was received is what is stored, and `created_at` is the time of its receipt. -/
theorem receivedAt_iff (hempty : w.events.rows = []) : ReceivedAt sha256 w calls record time ↔
    record ∈ (calls.foldl (step sha256) w).events.rows ∧ record.createdAt = time := by
  constructor
  · rintro ⟨before, call, after, rfl, rfl, hnot, hmem⟩
    obtain ⟨-, records, hrows, hcreated, -⟩ :=
      step_spec sha256 (before.foldl (step sha256) w) call
    constructor
    · rw [List.foldl_append, List.foldl_cons]
      exact (rows_grow _ after).subset hmem
    · rw [hrows] at hmem
      rcases List.mem_append.mp hmem with hold | hnew
      · exact absurd hold hnot
      · exact hcreated record hnew
  · rintro ⟨hmem, rfl⟩
    induction calls using List.reverseRecOn with
    | nil =>
      rw [List.foldl_nil, hempty] at hmem
      exact absurd hmem List.not_mem_nil
    | append_singleton calls call ih =>
      by_cases hold : record ∈ (calls.foldl (step sha256) w).events.rows
      · obtain ⟨before, earlier, after, rfl, htime, hnot, hstored⟩ := ih hold
        refine ⟨before, earlier, after ++ [call], ?_, htime, hnot, hstored⟩
        rw [List.append_assoc, List.cons_append]
      · rw [List.foldl_append] at hmem
        obtain ⟨-, records, hrows, hcreated, -⟩ :=
          step_spec sha256 (calls.foldl (step sha256) w) call
        refine ⟨calls, call, [], rfl, ?_, hold, hmem⟩
        rw [List.foldl_cons, List.foldl_nil, hrows] at hmem
        rcases List.mem_append.mp hmem with h | hnew
        · exact absurd h hold
        · exact (hcreated record hnew).symm

/-- A window counts what was received in it when it judges the stored events by their timestamps
as by the times of their receipt. -/
theorem countsReceived_iff (hempty : w.events.rows = []) {op : DriftOp} :
    CountsReceived sha256 w calls time op ↔
      ∀ r ∈ (calls.foldl (step sha256) w).events.rows, r.tenantId = op.tenantId →
        r.agentId = op.agentId → (time.withinHours op.lookbackHours r.timestamp = true ↔
          time.withinHours op.lookbackHours r.createdAt = true ∧ r.createdAt ≤ time) := by
  constructor
  · intro h r hr htenant hagent
    have hcounts := h r
    rw [DriftOp.mem_window] at hcounts
    constructor
    · intro hstamp
      obtain ⟨-, -, received, hreceived, hwindow⟩ := hcounts.mp ⟨hr, htenant, hagent, hstamp⟩
      rw [((receivedAt_iff hempty).mp hreceived).2]
      exact hwindow
    · intro hwindow
      exact (hcounts.mpr ⟨htenant, hagent, r.createdAt,
        (receivedAt_iff hempty).mpr ⟨hr, rfl⟩, hwindow⟩).2.2.2
  · intro h r
    rw [DriftOp.mem_window]
    constructor
    · rintro ⟨hr, htenant, hagent, hstamp⟩
      exact ⟨htenant, hagent, r.createdAt, (receivedAt_iff hempty).mpr ⟨hr, rfl⟩,
        (h r hr htenant hagent).mp hstamp⟩
    · rintro ⟨htenant, hagent, received, hreceived, hwindow⟩
      obtain ⟨hr, rfl⟩ := (receivedAt_iff hempty).mp hreceived
      exact ⟨hr, htenant, hagent, (h r hr htenant hagent).mpr hwindow⟩

theorem createdBefore_run (hempty : w.events.rows = [])
    (hclock : Run.Meets (step sha256) (fun w call => w.clock ≤ call.time) w calls) :
    CreatedBefore (calls.foldl (step sha256) w) := by
  have keep : ∀ (w : World) (call : StreamCall), w.clock ≤ call.time → CreatedBefore w →
      CreatedBefore (step sha256 w call) := by
    intro w call htime h r hr
    obtain ⟨hnow, records, hrows, hcreated, -⟩ := step_spec sha256 w call
    rw [hnow]
    rw [hrows] at hr
    rcases List.mem_append.mp hr with hold | hnew
    · exact le_trans (h r hold) htime
    · exact le_of_eq (hcreated r hnew)
  apply Run.invariant keep hclock
  intro r hr
  rw [hempty] at hr
  exact absurd hr List.not_mem_nil

theorem stamped_run (hempty : w.events.rows = [])
    (hstamped : Run.Meets (step sha256) StampedOnReceipt w calls) :
    Stamped (calls.foldl (step sha256) w) := by
  have keep : ∀ (w : World) (call : StreamCall), StampedOnReceipt w call → Stamped w →
      Stamped (step sha256 w call) := by
    intro w call hok h r hr
    obtain ⟨-, records, hrows, -, hiff⟩ := step_spec sha256 w call
    rw [hrows] at hr
    rcases List.mem_append.mp hr with hold | hnew
    · exact h r hold
    · exact hiff.mp hok r hnew
  apply Run.invariant keep hstamped
  intro r hr
  rw [hempty] at hr
  exact absurd hr List.not_mem_nil

/-- An event that was received just now under another timestamp is misjudged by the window of 24
hours that starts at the later of the two times. -/
theorem stamped_of_counts {r : EventRecord} {now : Datetime} (hnow : now = r.createdAt)
    (h : ∀ t, now ≤ t → (t.withinHours 24 r.timestamp = true ↔
      t.withinHours 24 r.createdAt = true ∧ r.createdAt ≤ t)) : r.timestamp = r.createdAt := by
  subst hnow
  obtain ⟨latest, hlatest⟩ : ∃ latest, latest = max r.timestamp r.createdAt := ⟨_, rfl⟩
  have hinstant := latest.instant_nextDay
  have hcreated : r.createdAt ≤ latest.nextDay := by
    apply Datetime.instant_le_iff.mp
    have hle : r.createdAt.instant ≤ latest.instant :=
      Datetime.instant_le_iff.mpr (hlatest ▸ le_max_right r.timestamp r.createdAt)
    omega
  have hjudged := h latest.nextDay hcreated
  simp only [Datetime.withinHours, decide_eq_true_iff, hinstant, hcreated, and_true] at hjudged
  have hsame : latest ≤ r.timestamp ↔ latest ≤ r.createdAt := by
    rw [← Datetime.instant_le_iff, ← Datetime.instant_le_iff]
    omega
  rw [hlatest, max_le_iff, max_le_iff] at hsame
  rcases le_total r.timestamp r.createdAt with hle | hle
  · exact le_antisymm hle (hsame.mpr ⟨hle, le_refl _⟩).2
  · exact le_antisymm (hsame.mp ⟨le_refl _, hle⟩).1 hle

theorem counts_of_stamped (hempty : w.events.rows = [])
    (hclock : Run.Meets (step sha256) (fun w call => w.clock ≤ call.time) w calls)
    (hstamped : Run.Meets (step sha256) StampedOnReceipt w calls)
    (htime : (calls.foldl (step sha256) w).clock ≤ time) (op : DriftOp) :
    CountsReceived sha256 w calls time op := by
  rw [countsReceived_iff hempty]
  intro r hr _ _
  rw [stamped_run hempty hstamped r hr]
  exact (and_iff_left (le_trans (createdBefore_run hempty hclock r hr) htime)).symm

/-- When every computation that can be made after a call counts what was received, the call has
met the condition. -/
theorem stampedOnReceipt_of_counts (hempty : w.events.rows = []) {call : StreamCall}
    (h : ∀ time op, ((calls ++ [call]).foldl (step sha256) w).clock ≤ time →
      CountsReceived sha256 w (calls ++ [call]) time op) :
    StampedOnReceipt (calls.foldl (step sha256) w) call := by
  obtain ⟨hnow, records, hrows, hcreated, hiff⟩ :=
    step_spec sha256 (calls.foldl (step sha256) w) call
  have hlast : (calls ++ [call]).foldl (step sha256) w =
      step sha256 (calls.foldl (step sha256) w) call := List.foldl_append
  rw [hiff]
  intro r hr
  have hstored : r ∈ ((calls ++ [call]).foldl (step sha256) w).events.rows := by
    rw [hlast, hrows]
    exact List.mem_append_right _ hr
  apply stamped_of_counts (hcreated r hr).symm
  intro t ht
  rw [← hnow, ← hlast] at ht
  have hcounts := h t
    (.computeBaseline .stored {tenantId := r.tenantId, agentId := r.agentId}) ht
  exact (countsReceived_iff hempty).mp hcounts r hstored rfl rfl

end Run

/-- In every run from an empty events table under a clock that does not go back, whose calls all
meet the condition, every drift computation counts the events that were received in its window.
And the condition is met all along exactly when, after every call of the run, every computation
that could be made from then on would. -/
theorem windows_right (sha256 : ByteArray → String) (w : World) (calls : List StreamCall)
    (hempty : w.events.rows = [])
    (hclock : Run.Meets (step sha256) (fun w call => w.clock ≤ call.time) w calls) :
    (Run.Meets (step sha256) StampedOnReceipt w calls → WindowsRight sha256 w calls) ∧
    ((∀ before after, calls = before ++ after → ∀ time op,
        (before.foldl (step sha256) w).clock ≤ time → CountsReceived sha256 w before time op) ↔
      Run.Meets (step sha256) StampedOnReceipt w calls) := by
  have hcounts : Run.Meets (step sha256) StampedOnReceipt w calls →
      ∀ before after, calls = before ++ after → ∀ time op,
        (before.foldl (step sha256) w).clock ≤ time →
          CountsReceived sha256 w before time op := by
    rintro hstamped before after rfl time op htime
    exact counts_of_stamped hempty hclock.prefix hstamped.prefix htime op
  refine ⟨?_, ?_, hcounts⟩
  · intro hstamped before time op after hsplit
    exact hcounts hstamped before _ hsplit time op (Run.meets_iff.mp hclock before _ after hsplit)
  · intro hall
    apply Run.meets_iff.mpr
    intro before call after hsplit
    apply stampedOnReceipt_of_counts hempty
    apply hall (before ++ [call]) after
    rw [hsplit, List.append_assoc, List.singleton_append]

/-- The sample event is ingested, and the last hour of its agent is analysed at the same time. -/
def ingestThenAnalyze (time : Datetime) : List StreamCall :=
  [⟨time, .ingest attached (.ingest (sampleEvent 1 .agentStarted)) {}⟩,
    ⟨time, .drift (.analyze ⟨true⟩ .stored .stored {tenantId := "acme", agentId := "a1"})⟩]

theorem windows_right_sample :
    WindowsRight sampleSha256 sampleWorld (ingestThenAnalyze sampleNoon) := by
  apply (windows_right sampleSha256 sampleWorld (ingestThenAnalyze sampleNoon) rfl ?_).1
  · refine ⟨?_, trivial, trivial⟩
    intro _ e he
    rw [List.mem_singleton.mp he]
    rfl
  · exact ⟨le_refl sampleNoon, le_refl sampleNoon, trivial⟩

/-- The event carries the time of the day before it is received: the analysis does not count it. -/
theorem late_event_not_counted :
    ¬WindowsRight sampleSha256 sampleWorld (ingestThenAnalyze sampleNextNoon) := by
  intro h
  obtain ⟨r, hrows, htenant, hagent, hstamp, hcreated⟩ : ∃ r,
      (((ingestThenAnalyze sampleNextNoon).take 1).foldl (step sampleSha256)
        sampleWorld).events.rows = [r] ∧ r.tenantId = "acme" ∧ r.agentId = "a1" ∧
      r.timestamp = sampleNoon ∧ r.createdAt = sampleNextNoon :=
    ⟨_, rfl, rfl, rfl, rfl, rfl⟩
  have hcounts := h ((ingestThenAnalyze sampleNextNoon).take 1) sampleNextNoon _ [] rfl
  have hr : r ∈ (((ingestThenAnalyze sampleNextNoon).take 1).foldl (step sampleSha256)
      sampleWorld).events.rows := by
    rw [hrows]
    exact List.mem_singleton_self r
  have hjudged := (countsReceived_iff rfl).mp hcounts r hr htenant hagent
  rw [hstamp, hcreated] at hjudged
  revert hjudged
  decide

end StreamCall

end Dox
