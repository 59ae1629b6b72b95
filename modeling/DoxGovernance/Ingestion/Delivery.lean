import DoxGovernance.Ingestion.Acceptance
import DoxGovernance.Lib.Run

/-!
# Delivery

Every stored event should have been published, and every stored event of a trigger type
should have raised one alert. As the records are committed first, a call whose publishing
or alerting fails leaves stored events that no retry can reach: the retry is refused for
the identifiers. In a run where no accepted call is disturbed, every state is delivered.
-/

set_option autoImplicit false

namespace Dox
namespace IngestionService

def alerted (self : IngestionService) (events : List CanonicalEvent) : List CanonicalEvent :=
  if self.sentinel then events.filter fun e => (triggerMap e.eventType).isSome else []

/-- The outage hits none of the events that are published and none that are alerted. -/
def Undisturbed (self : IngestionService) (outage : Outage) (events : List CanonicalEvent) : Prop :=
  (∀ e ∈ events, outage.publish e.eventId = none) ∧
    ∀ e ∈ self.alerted events, outage.alert e.eventId = none

def alertEventIds (w : World) : List (Option Uuid) := w.alerts.rows.map SentinelAlert.eventId

section Announce
variable {self : IngestionService} {outage : Outage} {events : List CanonicalEvent}

theorem publish_spec (h : ∀ e ∈ events, outage.publish e.eventId = none) (w : World) :
    Effect.forEach (publish outage) events w =
      (.ok (), {w with bus := w.bus ++ events.map fun e => ⟨ingestedTopic, e⟩}) := by
  induction events generalizing w with
  | nil => simp
  | cons e es ih =>
    have hfirst : publish outage e w =
        (.ok (), {w with bus := w.bus ++ [⟨ingestedTopic, e⟩]}) := by
      unfold publish
      rw [h e List.mem_cons_self]
      rfl
    rw [Effect.forEach_cons, Effect.bind_ok hfirst,
      ih fun d hd => h d (List.mem_cons_of_mem e hd)]
    simp only [List.map_cons, List.append_assoc, List.singleton_append]

theorem alerted_cons (e : CanonicalEvent) (es : List CanonicalEvent) :
    self.alerted (e :: es) = self.alerted [e] ++ self.alerted es := by
  unfold alerted
  cases self.sentinel with
  | false => rfl
  | true => rw [if_pos rfl, if_pos rfl, if_pos rfl, ← List.filter_append, List.singleton_append]

/-- An event of a trigger type raises one alert with its identifier, any other event none. -/
theorem runSentinel_spec {e : CanonicalEvent} (w : World)
    (h : ∀ d ∈ self.alerted [e], outage.alert d.eventId = none) :
    ∃ alerts, self.runSentinel outage e w = (.ok (), {w with alerts}) ∧
      alerts.rows.map SentinelAlert.eventId =
        alertEventIds w ++ (self.alerted [e]).map fun d => some d.eventId := by
  unfold runSentinel
  unfold alerted at h ⊢
  cases hsentinel : self.sentinel with
  | false => exact ⟨w.alerts, rfl, by simp [alertEventIds]⟩
  | true =>
    rw [hsentinel, if_pos rfl] at h
    rw [if_pos rfl, if_pos rfl]
    cases htrigger : triggerMap e.eventType with
    | none =>
      refine ⟨w.alerts, ?_, ?_⟩
      · rw [SentinelService.evaluateEvent_of_none htrigger, Effect.forEach_nil]
      · simp [alertEventIds, htrigger]
    | some trigger =>
      have hclear : outage.alert e.eventId = none := by
        apply h e
        simp [htrigger]
      refine ⟨w.alerts.add (SentinelService.newAlert w.clock
        (SentinelService.triggeredAlert trigger e)) fun _ => rfl, ?_, ?_⟩
      · rw [SentinelService.evaluateEvent_of_some htrigger, Effect.forEach_cons, createAlert, hclear]
        rfl
      · simp [alertEventIds, htrigger, SentinelService.newAlert, SentinelService.triggeredAlert]

theorem runSentinels_spec (w : World)
    (h : ∀ d ∈ self.alerted events, outage.alert d.eventId = none) :
    ∃ alerts, Effect.forEach (self.runSentinel outage) events w = (.ok (), {w with alerts}) ∧
      alerts.rows.map SentinelAlert.eventId =
        alertEventIds w ++ (self.alerted events).map fun d => some d.eventId := by
  induction events generalizing w with
  | nil => exact ⟨w.alerts, rfl, by simp [alerted, alertEventIds]⟩
  | cons e es ih =>
    rw [alerted_cons] at h ⊢
    obtain ⟨alerts, hfirst, hids⟩ := runSentinel_spec w fun d hd =>
      h d (List.mem_append_left _ hd)
    obtain ⟨alerts', hrest, hids'⟩ := ih {w with alerts} fun d hd =>
      h d (List.mem_append_right _ hd)
    refine ⟨alerts', by rw [Effect.forEach_cons, Effect.bind_ok hfirst, hrest], ?_⟩
    rw [hids', alertEventIds, hids, List.map_append, List.append_assoc]

/-- The second half of an undisturbed call publishes every event and raises every alert. -/
theorem announce_spec (w : World) (metric : Metric) (h : self.Undisturbed outage events) :
    ∃ w', self.announce outage metric events w = (.ok (), w') ∧
      w'.bus = w.bus ++ events.map (fun e => ⟨ingestedTopic, e⟩) ∧
      alertEventIds w' = alertEventIds w ++ (self.alerted events).map (fun e => some e.eventId) ∧
      ∃ bus alerts metrics, w' = {w with bus, alerts, metrics} := by
  have hpublish := publish_spec h.1 w
  obtain ⟨alerts, hsentinel, hids⟩ := runSentinels_spec
    {w with
      bus := w.bus ++ events.map (fun e => ⟨ingestedTopic, e⟩)
      metrics := w.metrics ++ [metric]} h.2
  refine ⟨{w with
    bus := w.bus ++ events.map (fun e => ⟨ingestedTopic, e⟩)
    metrics := w.metrics ++ [metric]
    alerts}, ?_, rfl, hids, _, _, _, rfl⟩
  rw [announce, Effect.bind_ok hpublish]
  exact hsentinel

end Announce

/-! ### The invariant -/

/-- Every stored event has been published, and has one alert if its type is a trigger. -/
structure Delivered (w : World) : Prop where
  published : ∀ r ∈ w.events.rows, (⟨ingestedTopic, r.rawEvent⟩ : Message) ∈ w.bus
  alerted : ∀ r ∈ w.events.rows, (triggerMap r.eventType).isSome →
    (alertEventIds w).count (some r.eventId) = 1

/-- A delivered world whose alerts are about stored events. -/
structure Settled (w : World) : Prop extends Delivered w where
  known : ∀ id, some id ∈ alertEventIds w → ∃ r ∈ w.events.rows, r.eventId = id

section Step
variable {self : IngestionService} {sha256 : ByteArray → String} {outage : Outage} {w : World}
  {records : List EventRecord} {events : List CanonicalEvent}

theorem settled_empty (t : Datetime) : Settled {clock := t} where
  published := fun _ hr => absurd hr List.not_mem_nil
  alerted := fun _ hr => absurd hr List.not_mem_nil
  known := fun _ hid => absurd hid List.not_mem_nil

/-- Worlds with the same events, alerts and messages are settled together. -/
theorem Settled.congr {w' : World} (h : Settled w) (hevents : w'.events = w.events)
    (halerts : w'.alerts = w.alerts) (hbus : w'.bus = w.bus) : Settled w' := by
  obtain ⟨⟨hpublished, halerted⟩, hknown⟩ := h
  refine ⟨⟨?_, ?_⟩, ?_⟩
  · rw [hevents, hbus]
    exact hpublished
  · rw [alertEventIds, hevents, halerts]
    exact halerted
  · rw [alertEventIds, hevents, halerts]
    exact hknown

theorem event_of_record (h : List.Forall₂ (EventRecord.Describes sha256) records events)
    {r : EventRecord} (hr : r ∈ records) : ∃ e ∈ events, r.Describes sha256 e := by
  induction h with
  | nil => cases hr
  | cons hdescribes _ ih =>
    rcases List.mem_cons.mp hr with rfl | hmem
    · exact ⟨_, List.mem_cons_self, hdescribes⟩
    · obtain ⟨e, he, hre⟩ := ih hmem
      exact ⟨e, List.mem_cons_of_mem _ he, hre⟩

/-- Among events with distinct identifiers, a trigger's identifier is alerted once. -/
theorem count_alerted (hsentinel : self.sentinel = true)
    (hdistinct : (events.map CanonicalEvent.eventId).Nodup) {e : CanonicalEvent} (he : e ∈ events)
    (htrigger : (triggerMap e.eventType).isSome) :
    ((self.alerted events).map fun d => some d.eventId).count (some e.eventId) = 1 := by
  have hsub : ((self.alerted events).map fun d => some d.eventId).Nodup := by
    rw [alerted, hsentinel, if_pos rfl]
    have hids : ((events.filter fun d => (triggerMap d.eventType).isSome).map
        CanonicalEvent.eventId).Nodup := hdistinct.sublist (List.filter_sublist.map _)
    have hsome := hids.map (Option.some_injective Uuid)
    rw [List.map_map] at hsome
    exact hsome
  apply List.count_eq_one_of_mem hsub
  refine List.mem_map.mpr ⟨e, ?_, rfl⟩
  rw [alerted, hsentinel, if_pos rfl]
  exact List.mem_filter.mpr ⟨he, htrigger⟩

section Append
variable {w' : World}

theorem append_published (h : Settled w)
    (hdescribes : List.Forall₂ (EventRecord.Describes sha256) records events)
    (hrows : w'.events.rows = w.events.rows ++ records)
    (hbus : w'.bus = w.bus ++ events.map fun e => ⟨ingestedTopic, e⟩) :
    ∀ r ∈ w'.events.rows, (⟨ingestedTopic, r.rawEvent⟩ : Message) ∈ w'.bus := by
  intro r hr
  rw [hbus]
  rw [hrows] at hr
  rcases List.mem_append.mp hr with hold | hnew
  · exact List.mem_append_left _ (h.published r hold)
  · obtain ⟨e, he, hre⟩ := event_of_record hdescribes hnew
    rw [hre.rawEvent]
    exact List.mem_append_right _ (List.mem_map.mpr ⟨e, he, rfl⟩)

theorem mem_of_mem_alerted (hsentinel : self.sentinel = true) {e : CanonicalEvent}
    (he : e ∈ self.alerted events) : e ∈ events := by
  rw [alerted, hsentinel, if_pos rfl] at he
  exact (List.mem_filter.mp he).1

/-- An old record keeps its alert, and a new one has the alert of its event. -/
theorem append_alerted (h : Settled w) (hsentinel : self.sentinel = true)
    (hdescribes : List.Forall₂ (EventRecord.Describes sha256) records events)
    (hdistinct : (events.map CanonicalEvent.eventId).Nodup)
    (hfresh : ∀ e ∈ events, ∀ r ∈ w.events.rows, r.eventId ≠ e.eventId)
    (hrows : w'.events.rows = w.events.rows ++ records)
    (hids : alertEventIds w' =
      alertEventIds w ++ (self.alerted events).map fun e => some e.eventId) :
    ∀ r ∈ w'.events.rows, (triggerMap r.eventType).isSome →
      (alertEventIds w').count (some r.eventId) = 1 := by
  intro r hr htrigger
  rw [hids, List.count_append]
  rw [hrows] at hr
  rcases List.mem_append.mp hr with hold | hnew
  · have hcount : ((self.alerted events).map fun e => some e.eventId).count (some r.eventId) = 0 := by
      apply List.count_eq_zero.mpr
      intro hmem
      obtain ⟨e, he, hsome⟩ := List.mem_map.mp hmem
      exact hfresh e (mem_of_mem_alerted hsentinel he) r hold (Option.some.inj hsome).symm
    rw [h.alerted r hold htrigger, hcount]
  · obtain ⟨e, he, hre⟩ := event_of_record hdescribes hnew
    rw [hre.eventType] at htrigger
    have hcount : (alertEventIds w).count (some e.eventId) = 0 := by
      apply List.count_eq_zero.mpr
      intro hmem
      obtain ⟨q, hq, hid⟩ := h.known _ hmem
      exact hfresh e he q hq hid
    rw [hre.eventId, hcount, count_alerted hsentinel hdistinct he htrigger]

theorem append_known (h : Settled w) (hsentinel : self.sentinel = true)
    (hdescribes : List.Forall₂ (EventRecord.Describes sha256) records events)
    (hrows : w'.events.rows = w.events.rows ++ records)
    (hids : alertEventIds w' =
      alertEventIds w ++ (self.alerted events).map fun e => some e.eventId) :
    ∀ id, some id ∈ alertEventIds w' → ∃ r ∈ w'.events.rows, r.eventId = id := by
  intro id hid
  rw [hids] at hid
  rw [hrows]
  rcases List.mem_append.mp hid with hold | hnew
  · obtain ⟨r, hr, hrid⟩ := h.known id hold
    exact ⟨r, List.mem_append_left _ hr, hrid⟩
  · obtain ⟨e, he, hsome⟩ := List.mem_map.mp hnew
    have hmem : e.eventId ∈ records.map EventRecord.eventId := by
      rw [eventIds_of_describes hdescribes]
      exact List.mem_map_of_mem (mem_of_mem_alerted hsentinel he)
    obtain ⟨r, hr, hrid⟩ := List.mem_map.mp hmem
    exact ⟨r, List.mem_append_right _ hr, hrid.trans (Option.some.inj hsome)⟩

/-- Appending the records, the messages and the alerts of a list of new events. -/
theorem Settled.append (h : Settled w) (hsentinel : self.sentinel = true)
    (hdescribes : List.Forall₂ (EventRecord.Describes sha256) records events)
    (hdistinct : (events.map CanonicalEvent.eventId).Nodup)
    (hunused : ∀ e ∈ events, w.events.find? e.eventId = none)
    (hrows : w'.events.rows = w.events.rows ++ records)
    (hbus : w'.bus = w.bus ++ events.map fun e => ⟨ingestedTopic, e⟩)
    (hids : alertEventIds w' =
      alertEventIds w ++ (self.alerted events).map fun e => some e.eventId) : Settled w' := by
  have hfresh : ∀ e ∈ events, ∀ r ∈ w.events.rows, r.eventId ≠ e.eventId :=
    fun e he => Table.find?_eq_none_iff.mp (hunused e he)
  exact {
    published := append_published h hdescribes hrows hbus
    alerted := append_alerted h hsentinel hdescribes hdistinct hfresh hrows hids
    known := append_known h hsentinel hdescribes hrows hids }

end Append

/-- The condition on a call: if it is accepted, it is not disturbed. -/
def Proper (self : IngestionService) (w : World) (call : IngestCall) : Prop :=
  self.Admissible call.time.date w call.op.events → self.Undisturbed call.outage call.op.events

theorem step_settled (hsentinel : self.sentinel = true) (h : Settled w) {call : IngestCall}
    (hproper : self.Proper w call) : Settled (call.step self sha256 w) := by
  have hat : Settled (w.at call.time) := h.congr rfl rfl rfl
  unfold IngestCall.step
  by_cases hempty : call.op.events = []
  · rw [IngestOp.run_of_empty hempty]
    exact hat
  rw [IngestOp.run_eq_submit hempty, submit]
  have hday : (w.at call.time).clock.date = call.time.date := rfl
  by_cases hadmissible : self.Admissible call.time.date (w.at call.time) call.op.events
  · obtain ⟨w', records, haccept, hdescribes, hrows, -, quotas, table, next, rfl⟩ :=
      accept_spec sha256 hday hadmissible
    obtain ⟨w'', hannounce, hbus, hids, bus, alerts, metrics, rfl⟩ :=
      announce_spec {w.at call.time with quotas, events := table, nextUuid := next} call.op.metric
        (hproper ((admissible_at call.time).mp hadmissible))
    rw [Effect.bind_ok haccept, Effect.bind_ok hannounce]
    exact hat.append hsentinel hdescribes hadmissible.distinct hadmissible.unused hrows hbus hids
  · obtain ⟨w', e, haccept, quotas, next, rfl⟩ := accept_refuses sha256 hday hadmissible
    rw [Effect.bind_error haccept]
    exact hat.congr rfl rfl rfl

end Step

/-- In every run from a settled world whose accepted calls are not disturbed, every state
reached is delivered, whichever calls were refused or were retries. -/
theorem delivered_of_proper (quota : Bool) (sha256 : ByteArray → String) (w : World)
    (hsettled : Settled w) (calls : List IngestCall)
    (hrun : Run.Meets (IngestCall.step ⟨true, quota⟩ sha256) (Proper ⟨true, quota⟩) w calls)
    (before after : List IngestCall) (hsplit : calls = before ++ after) :
    Delivered (before.foldl (IngestCall.step ⟨true, quota⟩ sha256) w) := by
  subst hsplit
  have hkeep : ∀ w call, Proper ⟨true, quota⟩ w call → Settled w →
      Settled (call.step ⟨true, quota⟩ sha256 w) :=
    fun w call hproper h => step_settled rfl h hproper
  exact (Run.invariant hkeep hrun.prefix hsettled).toDelivered

def sampleSubmission : IngestOp := .ingest (sampleEvent 1 .agentFailed)

/-- An event of a trigger type, ingested and submitted again. -/
theorem delivered_of_proper_sample :
    Delivered ([⟨sampleNoon, sampleSubmission, {}⟩, ⟨sampleNoon, sampleSubmission, {}⟩].foldl
      (IngestCall.step ⟨true, true⟩ sampleSha256) sampleWorld) := by
  refine delivered_of_proper true sampleSha256 sampleWorld (settled_empty sampleNoon)
    [⟨sampleNoon, sampleSubmission, {}⟩, ⟨sampleNoon, sampleSubmission, {}⟩] ?_ _ [] rfl
  exact ⟨fun _ => ⟨fun _ _ => rfl, fun _ _ => rfl⟩, fun _ => ⟨fun _ _ => rfl, fun _ _ => rfl⟩,
    trivial⟩

/-- The publish of the first try fails; the client submits the event again. -/
def lostPublish : List IngestCall :=
  [⟨sampleNoon, sampleSubmission, {publish := fun _ => some "connection lost"}⟩,
    ⟨sampleNoon, sampleSubmission, {}⟩]

/-- The retry is refused, and the stored event is neither published nor alerted. -/
theorem undelivered_after_retry :
    ((sampleSubmission.run ⟨true, true⟩ sampleSha256 {} ((lostPublish.take 1).foldl
      (IngestCall.step ⟨true, true⟩ sampleSha256) sampleWorld)).1.toOption.isNone = true) ∧
    ¬Delivered (lostPublish.foldl (IngestCall.step ⟨true, true⟩ sampleSha256) sampleWorld) := by
  refine ⟨by decide, fun h => ?_⟩
  have hbus : (lostPublish.foldl (IngestCall.step ⟨true, true⟩ sampleSha256)
      sampleWorld).bus.length = 0 := by decide
  have hrows : 0 < (lostPublish.foldl (IngestCall.step ⟨true, true⟩ sampleSha256)
      sampleWorld).events.rows.length := by decide
  obtain ⟨r, hr⟩ := List.exists_mem_of_length_pos hrows
  have hmessage := h.published r hr
  rw [List.length_eq_zero_iff.mp hbus] at hmessage
  cases hmessage

end IngestionService
end Dox
