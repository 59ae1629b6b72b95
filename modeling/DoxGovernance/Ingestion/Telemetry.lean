import DoxGovernance.Ingestion.Outages

/-!
# Stored, published, counted, alerted

Whatever outages a run of calls meets, the published events are stored ones in the order they
were stored, the alerts are those of published trigger events in the order they were published,
and no more events are counted than published. So an event is published at most once and alerted
at most once, and a consumer of the bus or of the alerts never meets an event that is not stored.
-/

set_option autoImplicit false

namespace Dox
namespace IngestionService
open Effect

def publishedEvents (w : World) : List CanonicalEvent := w.bus.map Message.event

def countedEvents (w : World) : Nat := (w.metrics.map Metric.value).sum

/-- Each stage of a world is a part of the one before it. -/
structure Chained (sha256 : ByteArray → String) (w : World) : Prop where
  stored : ∀ r ∈ w.events.rows, r.Describes sha256 r.rawEvent
  topics : ∀ m ∈ w.bus, m.topic = ingestedTopic
  published : (publishedEvents w).Sublist (w.events.rows.map EventRecord.rawEvent)
  alerted : (alertEventIds w).Sublist
    (((publishedEvents w).filter fun e => (triggerMap e.eventType).isSome).map fun e => some e.eventId)
  counted : countedEvents w ≤ (publishedEvents w).length

section Step
variable {self : IngestionService} {sha256 : ByteArray → String} {outage : Outage}
  {w w' : World} {metric : Metric} {records : List EventRecord} {events : List CanonicalEvent}

theorem Chained.congr (h : Chained sha256 w) (hevents : w'.events = w.events)
    (hbus : w'.bus = w.bus) (halerts : w'.alerts = w.alerts) (hmetrics : w'.metrics = w.metrics) :
    Chained sha256 w' := by
  obtain ⟨hstored, htopics, hpublished, halerted, hcounted⟩ := h
  refine ⟨?_, ?_, ?_, ?_, ?_⟩
  · rw [hevents]
    exact hstored
  · rw [hbus]
    exact htopics
  · rw [publishedEvents, hbus, hevents]
    exact hpublished
  · rw [alertEventIds, publishedEvents, hbus, halerts]
    exact halerted
  · rw [countedEvents, publishedEvents, hbus, hmetrics]
    exact hcounted

theorem rawEvents_of_describes (h : List.Forall₂ (EventRecord.Describes sha256) records events) :
    records.map EventRecord.rawEvent = events := by
  induction h with
  | nil => rfl
  | cons hdescribes _ ih => rw [List.map_cons, hdescribes.rawEvent, ih]

/-- The events appended by a call come after the stored ones. -/
theorem Chained.append (h : Chained sha256 w)
    (hdescribes : List.Forall₂ (EventRecord.Describes sha256) records events)
    (hrows : w'.events.rows = w.events.rows ++ records) (hbus : w'.bus = w.bus)
    (halerts : w'.alerts = w.alerts) (hmetrics : w'.metrics = w.metrics) :
    Chained sha256 w' where
  stored := by
    intro r hr
    rw [hrows] at hr
    rcases List.mem_append.mp hr with hold | hnew
    · exact h.stored r hold
    · obtain ⟨e, _, hre⟩ := event_of_record hdescribes hnew
      rw [hre.rawEvent]
      exact hre
  topics := by
    rw [hbus]
    exact h.topics
  published := by
    rw [publishedEvents, hbus, hrows, List.map_append]
    exact h.published.trans (List.sublist_append_left _ _)
  alerted := by
    rw [alertEventIds, publishedEvents, hbus, halerts]
    exact h.alerted
  counted := by
    rw [countedEvents, publishedEvents, hbus, hmetrics]
    exact h.counted

section Announced
variable (h : self.Announced outage metric events w w')
include h

theorem Announced.published_eq :
    publishedEvents w' = publishedEvents w ++ beforeFault (publishFault outage) events := by
  rw [publishedEvents, h.bus, List.map_append, List.map_map]
  exact congrArg (publishedEvents w ++ ·) (List.map_id _)

theorem Announced.events_eq : w'.events = w.events := by
  obtain ⟨bus, alerts, metrics, rfl⟩ := h.rest
  rfl

/-- The alerts that an announcement raises are those of published trigger events. -/
theorem Announced.alerts_sublist : ∃ ids, alertEventIds w' = alertEventIds w ++ ids ∧
    ids.Sublist (((beforeFault (publishFault outage) events).filter
      fun e => (triggerMap e.eventType).isSome).map fun e => some e.eventId) := by
  refine ⟨_, h.alerts, ?_⟩
  by_cases hfault : events.findSome? (publishFault outage) = none
  · rw [if_pos hfault, beforeFault_of_none (findSome?_fault_iff.mp hfault)]
    apply List.Sublist.map
    rw [alerted]
    split
    · exact beforeFault_sublist.filter _
    · exact List.nil_sublist _
  · rw [if_neg hfault]
    exact List.nil_sublist _

theorem Announced.counted_le (hvalue : metric.value ≤ events.length) :
    countedEvents w' ≤ countedEvents w + (beforeFault (publishFault outage) events).length := by
  rw [countedEvents, h.metrics, List.map_append, List.sum_append]
  apply Nat.add_le_add_left
  by_cases hfault : events.findSome? (publishFault outage) = none
  · rw [if_pos hfault, beforeFault_of_none (findSome?_fault_iff.mp hfault)]
    simpa using hvalue
  · rw [if_neg hfault]
    exact Nat.zero_le _

end Announced

/-- What an announcement adds extends the chain of a world to which its events were appended. -/
theorem Chained.announced (h : Chained sha256 w) (hpublished : (publishedEvents w ++ events).Sublist
      (w.events.rows.map EventRecord.rawEvent))
    (hvalue : metric.value ≤ events.length) (hannounced : self.Announced outage metric events w w') :
    Chained sha256 w' where
  stored := by
    rw [hannounced.events_eq]
    exact h.stored
  topics := by
    intro m hm
    rw [hannounced.bus] at hm
    rcases List.mem_append.mp hm with hold | hnew
    · exact h.topics m hold
    · obtain ⟨e, _, rfl⟩ := List.mem_map.mp hnew
      rfl
  published := by
    rw [hannounced.published_eq, hannounced.events_eq]
    exact (beforeFault_sublist.append_left _).trans hpublished
  alerted := by
    obtain ⟨ids, hids, hsub⟩ := hannounced.alerts_sublist
    rw [hids, hannounced.published_eq, List.filter_append, List.map_append]
    exact h.alerted.append hsub
  counted := by
    rw [hannounced.published_eq, List.length_append]
    exact (hannounced.counted_le hvalue).trans (Nat.add_le_add_right h.counted _)

theorem submit_chained (h : Chained sha256 w) (hvalue : metric.value ≤ events.length) :
    Chained sha256 (self.submit sha256 outage metric events w).2 := by
  by_cases hadmissible : self.Admissible w.clock.date w events
  · obtain ⟨w', records, haccept, hdescribes, hrows, -, quotas, table, next, rfl⟩ :=
      accept_spec sha256 rfl hadmissible
    have happended : Chained sha256 {w with quotas, events := table, nextUuid := next} :=
      h.append hdescribes hrows rfl rfl rfl
    obtain ⟨w'', hannounce, hannounced⟩ := self.announce_eq outage metric events
      {w with quotas, events := table, nextUuid := next}
    have hleft : (self.submit sha256 outage metric events w).2 = w'' := by
      rw [submit, bind_ok haccept, bind_run, hannounce]
      cases self.announceFault outage events with
      | none => rfl
      | some e => rfl
    rw [hleft]
    refine happended.announced ?_ hvalue hannounced
    dsimp only
    rw [hrows, List.map_append, rawEvents_of_describes hdescribes]
    exact h.published.append_right events
  · obtain ⟨w', e, haccept, quotas, next, rfl⟩ := accept_refuses sha256 rfl hadmissible
    rw [submit, bind_error haccept]
    exact h.congr rfl rfl rfl rfl

end Step

variable (self : IngestionService) (sha256 : ByteArray → String)

/-- The step lemma: a call keeps the chain, whatever outage it meets. -/
theorem step_chained {w : World} (h : Chained sha256 w) (call : IngestCall) :
    Chained sha256 (call.step self sha256 w) := by
  have hat : Chained sha256 (w.at call.time) := h.congr rfl rfl rfl rfl
  unfold IngestCall.step
  by_cases hempty : call.op.events = []
  · rw [IngestOp.run_of_empty hempty]
    exact hat
  · rw [IngestOp.run_eq_submit hempty]
    apply submit_chained hat
    cases call.op with
    | ingest event => exact Nat.le_refl 1
    | ingestBatch events => exact Nat.le_refl _

theorem chained_empty (start : Datetime) : Chained sha256 {clock := start} where
  stored := fun _ hr => absurd hr List.not_mem_nil
  topics := fun _ hm => absurd hm List.not_mem_nil
  published := List.nil_sublist _
  alerted := List.nil_sublist _
  counted := Nat.le_refl 0

/-- In a chained world an event is published at most once, and alerted at most once. -/
theorem Chained.once {sha256 : ByteArray → String} {w : World} (h : Chained sha256 w) :
    ((publishedEvents w).map CanonicalEvent.eventId).Nodup ∧ (alertEventIds w).Nodup := by
  have hids : (w.events.rows.map EventRecord.rawEvent).map CanonicalEvent.eventId =
      w.events.rows.map EventRecord.eventId := by
    rw [List.map_map]
    exact List.map_congr_left fun r hr => (h.stored r hr).eventId.symm
  have hpublished : ((publishedEvents w).map CanonicalEvent.eventId).Nodup := by
    have hunique := w.events.unique
    rw [← hids] at hunique
    exact hunique.sublist (h.published.map _)
  refine ⟨hpublished, h.alerted.nodup ?_⟩
  have htriggers := hpublished.sublist
    ((List.filter_sublist (p := fun e => (triggerMap e.eventType).isSome)).map CanonicalEvent.eventId)
  have hsome := htriggers.map (Option.some_injective Uuid)
  rw [List.map_map] at hsome
  exact hsome

/-- The run lemma: every run of calls from empty tables, with any outages, keeps the chain, and
publishes and alerts every event at most once. -/
theorem run_chained (start : Datetime) (calls : List IngestCall) :
    Chained sha256 (calls.foldl (IngestCall.step self sha256) {clock := start}) ∧
      ((publishedEvents (calls.foldl (IngestCall.step self sha256) {clock := start})).map
        CanonicalEvent.eventId).Nodup ∧
      (alertEventIds (calls.foldl (IngestCall.step self sha256) {clock := start})).Nodup := by
  have hkeep : ∀ w call, True → Chained sha256 w →
      Chained sha256 (IngestCall.step self sha256 w call) :=
    fun _ call _ h => step_chained self sha256 h call
  have hchained := Run.invariant hkeep (Run.meets_true _ calls) (chained_empty sha256 start)
  exact ⟨hchained, hchained.once⟩

end IngestionService
end Dox
