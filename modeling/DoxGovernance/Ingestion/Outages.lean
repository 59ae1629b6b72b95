import DoxGovernance.Ingestion.Delivery
import DoxGovernance.Lib.Abort

/-!
# What an outage leaves of a call

The second half of a call publishes the events in order, counts them, and raises the alerts in
order. It stops at the first failure, so what it leaves is known exactly: the messages of the
events before the first that cannot be published; and when all could be, the count and the alerts
of the events before the first whose alert fails.
-/

set_option autoImplicit false

namespace Dox
namespace IngestionService
open Effect

variable (self : IngestionService) (outage : Outage)

def publishFault (event : CanonicalEvent) : Option Exc :=
  (outage.publish event.eventId).map Exc.outage

def raisesAlert (event : CanonicalEvent) : Bool :=
  self.sentinel && (triggerMap event.eventType).isSome

def alertFault (event : CanonicalEvent) : Option Exc :=
  if self.raisesAlert event then (outage.alert event.eventId).map Exc.outage else none

/-- What the second half of a call raises, if anything. -/
def announceFault (events : List CanonicalEvent) : Option Exc :=
  (events.findSome? (publishFault outage)).or (events.findSome? (self.alertFault outage))

def withMessage (event : CanonicalEvent) (w : World) : World :=
  {w with bus := w.bus ++ [⟨ingestedTopic, event⟩]}

def withAlert (event : CanonicalEvent) (w : World) : World :=
  if self.raisesAlert event then
    match triggerMap event.eventType with
    | some trigger =>
      (SentinelService.createAlert (SentinelService.triggeredAlert trigger event) w).2
    | none => w
  else w

/-- What an announcement adds to the world. -/
structure Announced (service : IngestionService) (metric : Metric)
    (events : List CanonicalEvent) (w w' : World) : Prop where
  bus : w'.bus = w.bus ++ (beforeFault (publishFault outage) events).map fun e => ⟨ingestedTopic, e⟩
  metrics : w'.metrics = w.metrics ++
    if events.findSome? (publishFault outage) = none then [metric] else []
  alerts : alertEventIds w' = alertEventIds w ++
    if events.findSome? (publishFault outage) = none then
      (service.alerted (beforeFault (service.alertFault outage) events)).map fun e => some e.eventId
    else []
  rest : ∃ bus alerts metrics, w' = {w with bus, alerts, metrics}

section Faults
variable {self outage} {events : List CanonicalEvent} {w : World}

theorem alerted_eq_filter : self.alerted events = events.filter self.raisesAlert := by
  unfold alerted raisesAlert
  cases self.sentinel with
  | true => rfl
  | false => simp

theorem publishFault_eq_none {event : CanonicalEvent} :
    publishFault outage event = none ↔ outage.publish event.eventId = none :=
  Option.map_eq_none_iff

theorem alertFault_eq_none {event : CanonicalEvent} : self.alertFault outage event = none ↔
    (self.raisesAlert event = true → outage.alert event.eventId = none) := by
  unfold alertFault
  split
  · rename_i h
    rw [Option.map_eq_none_iff]
    exact ⟨fun hnone _ => hnone, fun hnone => hnone h⟩
  · rename_i h
    exact ⟨fun _ hraises => absurd hraises h, fun _ => rfl⟩

/-- An announcement goes through when the outage hits none of it. -/
theorem announceFault_eq_none :
    self.announceFault outage events = none ↔ self.Undisturbed outage events := by
  rw [announceFault, Option.or_eq_none_iff, findSome?_fault_iff, findSome?_fault_iff, Undisturbed,
    alerted_eq_filter]
  simp only [publishFault_eq_none, alertFault_eq_none, List.mem_filter, and_imp]

theorem publish_eq : publish outage =
    fun event => faulting (publishFault outage event) (withMessage event) := by
  funext event
  unfold publish publishFault
  cases outage.publish event.eventId with
  | none => rfl
  | some message => rfl

theorem runSentinel_eq : self.runSentinel outage =
    fun event => faulting (self.alertFault outage event) (self.withAlert event) := by
  funext event
  unfold runSentinel alertFault withAlert raisesAlert
  cases self.sentinel with
  | false => rfl
  | true =>
    cases htrigger : triggerMap event.eventType with
    | none =>
      rw [SentinelService.evaluateEvent_of_none htrigger]
      rfl
    | some trigger =>
      rw [SentinelService.evaluateEvent_of_some htrigger]
      funext w
      rw [forEach_cons, createAlert]
      cases outage.alert event.eventId with
      | none => rfl
      | some message => rfl

theorem foldl_withMessage (events : List CanonicalEvent) (w : World) :
    events.foldl (fun w e => withMessage e w) w =
      {w with bus := w.bus ++ events.map fun e => ⟨ingestedTopic, e⟩} := by
  induction events generalizing w with
  | nil => simp
  | cons e es ih =>
    rw [List.foldl_cons, ih]
    simp [withMessage]

variable (self) in
theorem foldl_withAlert (events : List CanonicalEvent) (w : World) : ∃ alerts,
    events.foldl (fun w e => self.withAlert e w) w = {w with alerts} ∧
      alerts.rows.map SentinelAlert.eventId =
        alertEventIds w ++ (self.alerted events).map fun e => some e.eventId := by
  have hspec : ∃ alerts, forEach (self.runSentinel {}) events w = (.ok (), {w with alerts}) ∧
      alerts.rows.map SentinelAlert.eventId =
        alertEventIds w ++ (self.alerted events).map fun e => some e.eventId :=
    runSentinels_spec w fun _ _ => rfl
  obtain ⟨alerts, hrun, hids⟩ := hspec
  refine ⟨alerts, ?_, hids⟩
  have hclear : ∀ e ∈ events, self.alertFault {} e = none :=
    fun _ _ => alertFault_eq_none.mpr fun _ => rfl
  rw [runSentinel_eq, forEach_faulting, beforeFault_of_none hclear] at hrun
  exact congrArg Prod.snd hrun

variable (outage) in
theorem publishes_eq (events : List CanonicalEvent) (w : World) :
    forEach (publish outage) events w = (outcome (events.findSome? (publishFault outage)), {w with
      bus := w.bus ++
        (beforeFault (publishFault outage) events).map fun e => ⟨ingestedTopic, e⟩}) := by
  rw [publish_eq, forEach_faulting, foldl_withMessage]

variable (self outage) in
/-- The second half of a call raises the first fault, and leaves what comes before it. -/
theorem announce_eq (metric : Metric) (events : List CanonicalEvent) (w : World) : ∃ w',
    self.announce outage metric events w = (outcome (self.announceFault outage events), w') ∧
      self.Announced outage metric events w w' := by
  have hpublish := publishes_eq outage events w
  unfold announceFault
  cases hfault : events.findSome? (publishFault outage) with
  | some e =>
    rw [hfault] at hpublish
    refine ⟨_, bind_error hpublish, rfl, ?_, ?_, _, _, _, rfl⟩
    · rw [hfault]
      exact (List.append_nil _).symm
    · rw [hfault]
      exact (List.append_nil _).symm
  | none =>
    rw [hfault] at hpublish
    let published : World := {w with
      bus := w.bus ++ (beforeFault (publishFault outage) events).map fun e => ⟨ingestedTopic, e⟩
      metrics := w.metrics ++ [metric]}
    obtain ⟨alerts, hfold, hids⟩ := foldl_withAlert self
      (beforeFault (self.alertFault outage) events) published
    have hsentinel : forEach (self.runSentinel outage) events published =
        (outcome (events.findSome? (self.alertFault outage)), {published with alerts}) := by
      rw [runSentinel_eq, forEach_faulting, hfold]
    refine ⟨_, (bind_ok hpublish).trans hsentinel, rfl, ?_, ?_, _, _, _, rfl⟩
    · rw [hfault, if_pos rfl]
    · rw [hfault, if_pos rfl]
      exact hids

end Faults
end IngestionService
end Dox
