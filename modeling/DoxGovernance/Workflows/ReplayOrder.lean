import DoxGovernance.Ingestion.Storage
import DoxGovernance.Sdk.Builder
import DoxGovernance.Workflows.Replay

/-!
# The order of a replayed session

The order in which a builder made its events is that of their sequence numbers, which the
replay never reads: it sorts by the timestamps. Events of different timestamps are listed in
the order of their numbers when the clock of the builder never went back; events of equal
timestamps are listed in the order in which the database returned them.
-/

set_option autoImplicit false
set_option maxRecDepth 4096

namespace Dox
open EventBuilder (Emission Precedes)

namespace EventBuilder

/-- A returned event is stamped with the time of its call. -/
theorem timestamp_of_mem {self : EventBuilder} {emissions : List Emission} {event : CanonicalEvent}
    (h : event ∈ self.returned emissions) :
    ∃ emission ∈ emissions, event.timestamp = emission.draw.now := by
  induction emissions generalizing self with
  | nil => cases h
  | cons emission emissions ih =>
    have hlater : event ∈ self.advance.returned emissions →
        ∃ e ∈ emission :: emissions, event.timestamp = e.draw.now := by
      intro hmem
      obtain ⟨e, he, htime⟩ := ih hmem
      exact ⟨e, List.mem_cons_of_mem _ he, htime⟩
    cases haccepts : self.accepts emission.call with
    | true =>
      obtain ⟨first, hreturned, -, htime⟩ := returned_accepted haccepts emissions
      rw [hreturned] at h
      rcases List.mem_cons.mp h with rfl | hmem
      · exact ⟨emission, List.mem_cons_self, htime⟩
      · exact hlater hmem
    | false =>
      rw [returned_refused haccepts] at h
      exact hlater h

/-- The clock of the builder does not go back. -/
def Clocked (emissions : List Emission) : Prop :=
  emissions.Pairwise fun e f => e.draw.now ≤ f.draw.now

theorem returned_ordered (self : EventBuilder) {emissions : List Emission}
    (h : Clocked emissions) :
    (self.returned emissions).Pairwise fun a b => a.timestamp ≤ b.timestamp := by
  induction emissions generalizing self with
  | nil => exact List.Pairwise.nil
  | cons emission emissions ih =>
    obtain ⟨hfirst, hrest⟩ := List.pairwise_cons.mp h
    cases haccepts : self.accepts emission.call with
    | true =>
      obtain ⟨event, hreturned, -, htime⟩ := returned_accepted haccepts emissions
      rw [hreturned, List.pairwise_cons]
      refine ⟨fun later hlater => ?_, ih self.advance hrest⟩
      obtain ⟨e, he, hlatertime⟩ := timestamp_of_mem hlater
      rw [htime, hlatertime]
      exact hfirst e he
    | false =>
      rw [returned_refused haccepts]
      exact ih self.advance hrest

/-- An event that is stamped earlier was made earlier. -/
theorem precedes_of_timestamp_lt {self : EventBuilder} {emissions : List Emission}
    (h : Clocked emissions) {a b : CanonicalEvent} (ha : a ∈ self.returned emissions)
    (hb : b ∈ self.returned emissions) (hlt : a.timestamp < b.timestamp) : Precedes a b := by
  have hforward : (self.returned emissions).Pairwise fun x y =>
      x.timestamp < y.timestamp → Precedes x y := by
    refine (returned_increasing emissions).imp ?_
    exact fun hnumbers _ => hnumbers
  have hbackward : (self.returned emissions).Pairwise fun x y =>
      y.timestamp < x.timestamp → Precedes y x := by
    refine (returned_ordered self h).imp ?_
    exact fun htimes hback => absurd hback (not_lt.mpr htimes)
  have hall := List.Pairwise.forall_of_forall_of_flip
    (fun x _ hx => absurd hx (lt_irrefl x.timestamp)) hforward hbackward
  exact hall ha hb hlt

end EventBuilder

namespace Replay

/-- The event is one of the session of the state, and of its agent where there is one. -/
structure Covers (state : State) (event : CanonicalEvent) : Prop where
  tenantId : event.tenantId = state.tenantId
  sessionId : event.sessionId = state.sessionId
  agentId : ∀ agent, state.agentId = some agent → event.agentId = agent

section Loaded
variable {sha256 : ByteArray → String} {scan : Scan EventRecord} {w : World} {state : State}

theorem keeps_of_covers {record : EventRecord} {event : CanonicalEvent} (hcovers : Covers state event)
    (h : record.IsOf sha256 event) : (sessionFilter state).keeps record = true := by
  have hrecord := h.describes
  have hagent : state.agentId.all (record.agentId = ·) = true := by
    rw [Option.all_eq_true]
    intro agent hagent
    rw [decide_eq_true_iff, hrecord.agentId]
    exact hcovers.agentId agent hagent
  simp [EventFilter.keeps, sessionFilter, hagent, hrecord.tenantId, hrecord.sessionId,
    hcovers.tenantId, hcovers.sessionId]

theorem loaded_subset : ∀ r ∈ loaded w scan state, r ∈ w.events.rows := by
  intro r hr
  have hpage := (mem_orderByAsc _).mp hr
  have hselected := (mem_orderByDesc _).mp (mem_of_mem_page hpage)
  exact (Table.mem_select.mp hselected).1

theorem nodup_loaded : ((loaded w scan state).map EventRecord.eventId).Nodup := by
  have hselected : ((w.events.select scan (sessionFilter state).keeps).map
      EventRecord.eventId).Nodup := by
    rw [((w.events.perm_select scan _).map _).nodup_iff]
    exact w.events.unique.sublist (List.filter_sublist.map _)
  rw [loaded, ((perm_orderByAsc _ _).map _).nodup_iff, page]
  refine List.Nodup.sublist ((List.take_sublist _ _).map _) ?_
  rw [List.drop_zero, ((perm_orderByDesc _ _).map _).nodup_iff]
  exact hselected

theorem mem_loaded (hcount : w.events.rows.countP (sessionFilter state).keeps ≤ 500)
    {r : EventRecord} (hr : r ∈ w.events.rows) (hkeeps : (sessionFilter state).keeps r = true) :
    r ∈ loaded w scan state := by
  have hlength : (orderByDesc (·.timestamp)
      (w.events.select scan (sessionFilter state).keeps)).length ≤ 500 := by
    rw [length_orderByDesc, (w.events.perm_select scan _).length_eq, ← List.countP_eq_length_filter]
    exact hcount
  rw [loaded, page_of_length_le hlength, mem_orderByAsc, mem_orderByDesc, Table.mem_select]
  exact ⟨hr, hkeeps⟩

/-- The replay ends, and lists what it has loaded. -/
theorem ainvoke_lists (audit : Bool) : ∃ final w', ainvoke (graph {} scan audit) state w =
    (.ok final, w') ∧ final.events = (loaded w scan state).map event := by
  by_cases hne : loaded w scan state = []
  · have hload := @loadEvents_run {} scan w state rfl
    have hnext : (graph {} scan audit).next .loadEvents {state with
        events := (loaded w scan state).map event, error := none} = none := by
      simp [graph, hne]
    exact ⟨_, w, StateGraph.run_end (v := Node.loadEvents) hload hnext 24, rfl⟩
  · obtain ⟨w', hrun⟩ := ainvoke_replays {} audit rfl hne
    exact ⟨_, w', hrun, rfl⟩

end Loaded

/-- What is listed of a session of one builder: the records in the order of their timestamps, those
of different timestamps in the order of the numbers, and each event once if there is room. -/
structure Lists (sha256 : ByteArray → String) (w : World) (state : State)
    (events : List CanonicalEvent) (records : List EventRecord) : Prop where
  stored : ∀ r ∈ records, r ∈ w.events.rows
  nodup : (records.map EventRecord.eventId).Nodup
  ordered : records.Pairwise fun r s => r.timestamp ≤ s.timestamp
  numbered : records.Pairwise fun r s => ∀ e ∈ events, ∀ f ∈ events, r.IsOf sha256 e →
    s.IsOf sha256 f → e.timestamp ≠ f.timestamp → Precedes e f
  complete : w.events.rows.countP (sessionFilter state).keeps ≤ 500 →
    ∀ e ∈ events, ∃! r, r ∈ records ∧ r.IsOf sha256 e

theorem lists_loaded {sha256 : ByteArray → String} {scan : Scan EventRecord} {w : World}
    {state : State} {builder : EventBuilder} {emissions : List Emission}
    (hclock : EventBuilder.Clocked emissions)
    (hstored : IngestionService.Stored sha256 (builder.returned emissions) w)
    (hcovers : ∀ e ∈ builder.returned emissions, Covers state e) :
    Lists sha256 w state (builder.returned emissions) (loaded w scan state) := by
  refine ⟨loaded_subset, nodup_loaded, pairwise_orderByAsc _ _, ?_, fun hcount e he => ?_⟩
  · refine (pairwise_orderByAsc EventRecord.timestamp _).imp ?_
    intro r s htimes e he f hf hr hs hne
    rw [hr.describes.timestamp, hs.describes.timestamp] at htimes
    exact EventBuilder.precedes_of_timestamp_lt hclock he hf (lt_of_le_of_ne htimes hne)
  · obtain ⟨r, hr, hof⟩ := hstored e he
    refine ⟨r, ⟨mem_loaded hcount hr (keeps_of_covers (hcovers e he) hof), hof⟩, ?_⟩
    rintro s ⟨hs, hofs⟩
    have hids : s.eventId = r.eventId := hofs.describes.eventId.trans hof.describes.eventId.symm
    exact List.inj_on_of_nodup_map w.events.unique (loaded_subset s hs) hr hids

/-- The replay of a session whose events one builder has made lists them in the order of their
timestamps, and events of different timestamps in the order of their sequence numbers. -/
theorem replay_order (self : IngestionService) (sha256 : ByteArray → String)
    (scan : Scan EventRecord) (audit : Bool) (w : World) (calls : List IngestCall) (state : State)
    (builder : EventBuilder) (emissions : List Emission)
    (hclock : EventBuilder.Clocked emissions)
    (hcalls : Run.Meets (IngestCall.step self sha256)
      (fun w call => self.raises sha256 w call = false) w calls)
    (hall : ∀ e ∈ builder.returned emissions, ∃ call ∈ calls, e ∈ call.op.events)
    (hcovers : ∀ e ∈ builder.returned emissions, Covers state e) :
    ∃ final w' records,
      ainvoke (graph {} scan audit) state (calls.foldl (IngestCall.step self sha256) w) =
        (.ok final, w') ∧
      final.events = records.map event ∧
      Lists sha256 (calls.foldl (IngestCall.step self sha256) w) state
        (builder.returned emissions) records := by
  have hstored : IngestionService.Stored sha256 (builder.returned emissions)
      (calls.foldl (IngestCall.step self sha256) w) := by
    intro e he
    exact IngestionService.stored_of_run hcalls e (List.mem_flatMap.mpr (hall e he))
  obtain ⟨final, w', hrun, hevents⟩ := ainvoke_lists audit
  exact ⟨final, w', _, hrun, hevents, lists_loaded hclock hstored hcovers⟩

/-- The start and the end of an agent within one microsecond. -/
def samePair : List Emission :=
  [⟨EventBuilder.agentStarted noArguments, sampleDraw 1⟩,
    ⟨EventBuilder.agentCompleted noArguments, sampleDraw 2⟩]

def detached : IngestionService := {sentinel := false, quota := false}

def pairCalls : List IngestCall :=
  [{time := sampleNoon, op := .ingestBatch (sampleBuilder.returned samePair)}]

theorem samePair_clocked : EventBuilder.Clocked samePair :=
  List.pairwise_pair.mpr (le_refl sampleNoon)

theorem pairCalls_return : Run.Meets (IngestCall.step detached sampleSha256)
    (fun w call => detached.raises sampleSha256 w call = false) sampleWorld pairCalls :=
  ⟨by decide +kernel, trivial⟩

theorem samePair_covered : ∀ e ∈ sampleBuilder.returned samePair, Covers sampleState e := by
  have hfields : ∀ e ∈ sampleBuilder.returned samePair,
      e.tenantId = sampleState.tenantId ∧ e.sessionId = sampleState.sessionId := by decide +kernel
  intro e he
  exact ⟨(hfields e he).1, (hfields e he).2, fun _ hagent => nomatch hagent⟩

theorem replay_order_sample :
    ∃ final w' records, ainvoke (graph {} .newest true) sampleState
        (pairCalls.foldl (IngestCall.step detached sampleSha256) sampleWorld) = (.ok final, w') ∧
      final.events = records.map event ∧
      Lists sampleSha256 (pairCalls.foldl (IngestCall.step detached sampleSha256) sampleWorld)
        sampleState (sampleBuilder.returned samePair) records :=
  replay_order detached sampleSha256 .newest true sampleWorld pairCalls sampleState sampleBuilder
    samePair samePair_clocked pairCalls_return
    (fun _ he => ⟨_, List.mem_singleton_self _, he⟩) samePair_covered

/-- The event with number 2 is listed first. -/
theorem same_instant_reversed :
    EventBuilder.Clocked samePair ∧
    (sampleBuilder.returned samePair).map (fun e => (e.eventId, e.sequenceNumber)) =
      [(1, some 1), (2, some 2)] ∧
    ∃ final w', ainvoke (graph {} .newest true) sampleState
        (pairCalls.foldl (IngestCall.step detached sampleSha256) sampleWorld) = (.ok final, w') ∧
      final.events.map Event.eventId = [Text.uuid 2, Text.uuid 1] := by
  obtain ⟨final, w', hrun, hevents⟩ := @ainvoke_lists .newest
    (pairCalls.foldl (IngestCall.step detached sampleSha256) sampleWorld) sampleState true
  refine ⟨samePair_clocked, by decide, final, w', hrun, ?_⟩
  rw [hevents]
  decide +kernel

end Replay
end Dox
