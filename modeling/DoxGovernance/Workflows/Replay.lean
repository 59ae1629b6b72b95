import DoxGovernance.Audit.Service
import DoxGovernance.Query.Service
import DoxGovernance.Workflows.Invoke

/-!
# The replay workflow

The graph lists the events of a session, notes whether the agent started and ended, walks
the events into a log, and records a summary. The list is one page of at most 500 events,
cut while the newest come first, so the replay is that of the whole session exactly when
it has no more than 500 events.
-/

set_option autoImplicit false

namespace Dox
namespace Replay

/-- An event of the state, with the texts that the graph gives it. -/
structure Event where
  eventId : String
  eventType : String
  agentId : String
  timestamp : String
  payload : Payload

structure State where
  tenantId : String
  sessionId : String
  agentId : Option String := none
  events : List Event := []
  replayedCount : Nat := 0
  skippedCount : Nat := 0
  replayLog : List String := []
  hasAgentStarted : Bool := false
  hasAgentCompleted : Bool := false
  error : Option String := none
  completed : Bool := false

/-- The calls that fail, with the message of the exception. -/
structure Faults where
  listEvents : Option String := none
  record : Option String := none

inductive Node where
  | loadEvents | validateEvents | replayEvents | summarize
deriving DecidableEq

def event (record : EventRecord) : Event where
  eventId := Text.uuid record.eventId
  eventType := record.eventType.value
  agentId := record.agentId
  timestamp := Text.isoformat record.timestamp
  payload := record.payload

variable (faults : Faults) (scan : Scan EventRecord) (audit : Bool)

def sessionFilter (state : State) : EventFilter where
  tenantId := state.tenantId
  sessionId := some state.sessionId
  agentId := state.agentId
  limit := 500

def loadEvents (state : State) : Service State :=
  attempt (do
    let records ← failing faults.listEvents
      (EventQueryService.listEvents scan (sessionFilter state))
    return {state with events := (orderByAsc (·.timestamp) records).map event, error := none})
  fun message => {state with events := [], error := some message}

def validateEvents (state : State) : Service State :=
  let types := state.events.map Event.eventType
  return {state with
    hasAgentStarted := types.contains "agent_started"
    hasAgentCompleted := types.contains "agent_completed" || types.contains "agent_failed"}

def logLine (event : Event) : String := "[" ++ event.eventType ++ "] " ++ event.eventId

/-- The walk appends a line for every event; an event of the state has all its keys, so that
none is skipped. -/
def replayEvents (state : State) : Service State :=
  return {state with
    replayedCount := state.events.length
    skippedCount := 0
    replayLog := state.events.map logLine}

/-- The entry of a replay; the identifier of the session must fit its column. -/
def summaryEntry (state : State) : Option AuditEntryCreate :=
  let agentId := orText state.agentId ((state.events.head?.map Event.agentId).getD "unknown")
  if h : 1 ≤ state.sessionId.length ∧ state.sessionId.length ≤ 255 then
    some {
      tenantId := state.tenantId
      actorEmail := "system"
      action := "replay_completed"
      resourceType := "session"
      resourceId := state.sessionId
      summary := "Replay of session " ++ (state.sessionId ++ (" (agent=" ++ (agentId ++ ("): " ++
        (toString state.replayedCount ++ (" replayed, " ++ (toString state.skippedCount ++
          " skipped")))))))
      extra := .ofScalars
        ["replayed_count", "skipped_count", "has_agent_started", "has_agent_completed"]
        [.int state.replayedCount, .int state.skippedCount, .bool state.hasAgentStarted,
          .bool state.hasAgentCompleted]
      resourceIdFits := h
      summaryNonempty := Text.append_ne_empty (by decide) _ }
  else none

def recordSummary (state : State) : Service Unit := do
  match summaryEntry state with
  | some create =>
    let _ ← failing faults.record (AuditService.record create)
    return ()
  | none => Effect.raise (.valueError "String should have at most 255 characters")

def summarize (state : State) : Service State := do
  if audit then Effect.recover (recordSummary faults state) fun _ => pure ()
  return {state with completed := true}

/-- `build_replay_graph`. -/
def graph : StateGraph Node State World Exc where
  start := .loadEvents
  node
    | .loadEvents => loadEvents faults scan
    | .validateEvents => validateEvents
    | .replayEvents => replayEvents
    | .summarize => summarize faults audit
  next
    | .loadEvents, state =>
      if truthy state.error || state.events.isEmpty then none else some .validateEvents
    | .validateEvents, _ => some .replayEvents
    | .replayEvents, _ => some .summarize
    | .summarize, _ => none

/-! ### What a replay should be -/

def sessionRows (w : World) (tenantId sessionId : String) : List EventRecord :=
  w.events.rows.filter fun r => r.tenantId = tenantId && r.sessionId = sessionId

/-- The state holds every one of the rows once, in the order of their timestamps. -/
structure Replays (rows : List EventRecord) (final : State) : Prop where
  completed : final.completed = true
  ordered : ∃ records : List EventRecord, records.Perm rows ∧
    records.Pairwise (fun a b => a.timestamp ≤ b.timestamp) ∧
    final.events = records.map event ∧ final.replayLog = records.map fun r => logLine (event r)
  count : final.replayedCount = rows.length
  started : final.hasAgentStarted = true ↔ ∃ r ∈ rows, r.eventType = .agentStarted
  ended : final.hasAgentCompleted = true ↔
    ∃ r ∈ rows, r.eventType = .agentCompleted ∨ r.eventType = .agentFailed

section Load
variable {w : World} {scan : Scan EventRecord} {state : State}

/-- The records the graph loads, in the order of the replay. -/
def loaded (w : World) (scan : Scan EventRecord) (state : State) : List EventRecord :=
  orderByAsc (·.timestamp) (page 0 500
    (orderByDesc (·.timestamp) (w.events.select scan (sessionFilter state).keeps)))

theorem keeps_sessionFilter (hagent : state.agentId = none) : (sessionFilter state).keeps =
    fun r => r.tenantId = state.tenantId && r.sessionId = state.sessionId := by
  funext r
  simp [EventFilter.keeps, sessionFilter, hagent]

variable (w scan) in
theorem perm_selected (hagent : state.agentId = none) :
    (orderByDesc (·.timestamp) (w.events.select scan (sessionFilter state).keeps)).Perm
      (sessionRows w state.tenantId state.sessionId) := by
  rw [keeps_sessionFilter hagent]
  exact (perm_orderByDesc _ _).trans (Table.perm_select _ _ _)

theorem length_loaded (hagent : state.agentId = none) : (loaded w scan state).length =
    min 500 (sessionRows w state.tenantId state.sessionId).length := by
  rw [loaded, length_orderByAsc, length_page, (perm_selected w scan hagent).length_eq, Nat.sub_zero]

variable (w scan) in
theorem perm_loaded (hagent : state.agentId = none)
    (h : (sessionRows w state.tenantId state.sessionId).length ≤ 500) :
    (loaded w scan state).Perm (sessionRows w state.tenantId state.sessionId) := by
  have hselected := perm_selected w scan hagent
  refine (perm_orderByAsc _ _).trans ?_
  rw [page_of_length_le (hselected.length_eq.trans_le h)]
  exact hselected

/-- Whether a loaded event has a type, seen from the texts of the state. -/
theorem contains_type (records : List EventRecord) (t : EventType) :
    ((records.map event).map Event.eventType).contains t.value = true ↔
      ∃ r ∈ records, r.eventType = t := by
  rw [List.contains_iff_mem, List.map_map, List.mem_map]
  refine exists_congr fun r => and_congr_right fun _ => ?_
  exact EventType.value_injective.eq_iff

end Load

section Run
variable {faults : Faults} {scan : Scan EventRecord} {audit : Bool} {w w' : World}
  {s state : State}

theorem loadEvents_run (hlist : faults.listEvents = none) : loadEvents faults scan s w =
    (.ok {s with events := (loaded w scan s).map event, error := none}, w) := by
  have hlisted : EventQueryService.listEvents scan (sessionFilter s) w = (.ok _, w) :=
    Effect.gets_run _ w
  refine attempt_ok ?_
  rw [hlist, failing_none, Effect.bind_ok hlisted]
  rfl

variable (faults audit) in
theorem summarize_run (s : State) (w : World) :
    ∃ w', summarize faults audit s w = (.ok {s with completed := true}, w') := by
  cases audit with
  | false => exact ⟨w, rfl⟩
  | true =>
    obtain ⟨w', hrecord⟩ : ∃ w', Effect.recover (recordSummary faults s) (fun _ => pure ()) w =
        (.ok (), w') := by
      cases hrun : recordSummary faults s w with
      | mk r w' =>
        cases r with
        | ok u => exact ⟨w', Effect.recover_ok hrun⟩
        | error e => exact ⟨w', Effect.recover_error hrun⟩
    refine ⟨w', ?_⟩
    rw [summarize, if_pos rfl, Effect.bind_ok hrecord]
    rfl

/-- The state in which a replay of records ends. -/
def replayed (state : State) (records : List EventRecord) : State :=
  let events := records.map event
  let types := events.map Event.eventType
  {state with
    events := events
    error := none
    hasAgentStarted := types.contains "agent_started"
    hasAgentCompleted := types.contains "agent_completed" || types.contains "agent_failed"
    replayedCount := events.length
    skippedCount := 0
    replayLog := events.map logLine
    completed := true}

theorem replayedCount_replayed (state : State) (records : List EventRecord) :
    (replayed state records).replayedCount = records.length := List.length_map event

variable (faults audit) in
theorem ainvoke_replays (hlist : faults.listEvents = none) (hne : loaded w scan state ≠ []) :
    ∃ w', ainvoke (graph faults scan audit) state w =
      (.ok (replayed state (loaded w scan state)), w') := by
  have hnext : (graph faults scan audit).next .loadEvents {state with
      events := (loaded w scan state).map event, error := none} = some .validateEvents := by
    simp [graph, hne]
  obtain ⟨w', hsummarize⟩ := summarize_run faults audit
    {replayed state (loaded w scan state) with completed := state.completed} w
  refine ⟨w', ?_⟩
  rw [ainvoke]
  refine (StateGraph.run_step (loadEvents_run hlist) hnext 24).trans ?_
  refine (StateGraph.run_step (v := Node.validateEvents) rfl rfl 23).trans ?_
  refine (StateGraph.run_step (v := Node.replayEvents) rfl rfl 22).trans ?_
  exact StateGraph.run_end hsummarize rfl 21

end Run

section Judge
variable {w : World} {scan : Scan EventRecord} {state : State}

/-- The replay of a session of at most 500 events is the whole session. -/
theorem replays_of_le (hagent : state.agentId = none)
    (h : (sessionRows w state.tenantId state.sessionId).length ≤ 500) :
    Replays (sessionRows w state.tenantId state.sessionId) (replayed state (loaded w scan state)) := by
  have hperm := perm_loaded w scan hagent h
  have hmem : ∀ t, ((((loaded w scan state).map event).map Event.eventType).contains
      (EventType.value t) = true) ↔
      ∃ r ∈ sessionRows w state.tenantId state.sessionId, r.eventType = t := by
    intro t
    rw [contains_type]
    refine exists_congr fun r => and_congr_left fun _ => ?_
    exact hperm.mem_iff
  refine ⟨rfl, ⟨loaded w scan state, hperm, pairwise_orderByAsc _ _, rfl, ?_⟩, ?_, ?_, ?_⟩
  · rw [replayed]
    dsimp only
    rw [List.map_map]
    rfl
  · rw [replayedCount_replayed, hperm.length_eq]
  · exact hmem .agentStarted
  · rw [replayed]
    dsimp only
    rw [Bool.or_eq_true]
    refine (or_congr (hmem .agentCompleted) (hmem .agentFailed)).trans ?_
    constructor
    · rintro (⟨r, hr, ht⟩ | ⟨r, hr, ht⟩)
      · exact ⟨r, hr, Or.inl ht⟩
      · exact ⟨r, hr, Or.inr ht⟩
    · rintro ⟨r, hr, ht | ht⟩
      · exact Or.inl ⟨r, hr, ht⟩
      · exact Or.inr ⟨r, hr, ht⟩

theorem not_replays_of_lt (hagent : state.agentId = none)
    (h : 500 < (sessionRows w state.tenantId state.sessionId).length) :
    ¬Replays (sessionRows w state.tenantId state.sessionId)
      (replayed state (loaded w scan state)) := by
  intro hreplays
  have hcount := hreplays.count
  rw [replayedCount_replayed, length_loaded hagent] at hcount
  omega

end Judge

/-- For every session with stored events, the replay of all agents is faithful exactly when the
session has at most 500 events. -/
theorem replays_iff (scan : Scan EventRecord) (audit : Bool) (w : World) (state : State)
    (hagent : state.agentId = none)
    (hsome : 1 ≤ (sessionRows w state.tenantId state.sessionId).length) :
    ∃ final w', ainvoke (graph {} scan audit) state w = (.ok final, w') ∧
      (Replays (sessionRows w state.tenantId state.sessionId) final ↔
        (sessionRows w state.tenantId state.sessionId).length ≤ 500) := by
  have hne : loaded w scan state ≠ [] := by
    apply List.ne_nil_of_length_pos
    rw [length_loaded hagent]
    omega
  obtain ⟨w', hrun⟩ := ainvoke_replays {} audit rfl hne
  refine ⟨_, w', hrun, fun hreplays => ?_, replays_of_le hagent⟩
  exact not_lt.mp fun hlt => not_replays_of_lt hagent hlt hreplays

/-- A world with one session of `n` events. -/
def longSession (n : Nat) : World where
  clock := sampleNoon
  events := ⟨(List.range n).map (sampleRecord .modelCalled), by
    rw [List.map_map]
    exact List.nodup_range.map fun _ _ h => h⟩

def sampleState : State := {tenantId := "acme", sessionId := "s1"}

/-- The stored events of the session of the sample state. -/
def sampleRows (n : Nat) : List EventRecord :=
  sessionRows (longSession n) sampleState.tenantId sampleState.sessionId

theorem length_sampleRows (n : Nat) : (sampleRows n).length = n := by
  have hall : sampleRows n = (longSession n).events.rows := by
    apply List.filter_eq_self.mpr
    intro r hr
    obtain ⟨i, _, rfl⟩ := List.mem_map.mp hr
    rfl
  rw [hall, longSession, List.length_map, List.length_range]

theorem replays_iff_sample :
    ∃ final w', ainvoke (graph {} .stored true) sampleState (longSession 2) = (.ok final, w') ∧
      (Replays (sampleRows 2) final ↔ (sampleRows 2).length ≤ 500) :=
  replays_iff .stored true (longSession 2) sampleState rfl (by decide)

/-- Of a session of more than 500 events, 500 are replayed. -/
theorem longSession_cut {n : Nat} (hn : 500 < n) :
    ∃ final w', ainvoke (graph {} .stored true) sampleState (longSession n) = (.ok final, w') ∧
      final.replayedCount = 500 ∧ ¬Replays (sampleRows n) final := by
  have hlength := length_sampleRows n
  rw [sampleRows] at hlength ⊢
  have hloaded : (loaded (longSession n) .stored sampleState).length = 500 := by
    rw [length_loaded rfl, hlength]
    omega
  have hne : loaded (longSession n) .stored sampleState ≠ [] := by
    apply List.ne_nil_of_length_pos
    omega
  obtain ⟨w', hrun⟩ := ainvoke_replays {} true rfl hne
  refine ⟨_, w', hrun, (replayedCount_replayed _ _).trans hloaded, not_replays_of_lt rfl ?_⟩
  rw [hlength]
  exact hn

theorem session_of_501_cut :
    ∃ final w', ainvoke (graph {} .stored true) sampleState (longSession 501) = (.ok final, w') ∧
      final.replayedCount = 500 ∧ ¬Replays (sampleRows 501) final :=
  longSession_cut (by decide)

end Replay
end Dox
