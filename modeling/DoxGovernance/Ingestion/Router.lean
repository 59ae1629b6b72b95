import DoxGovernance.Ingestion.Acceptance
import DoxGovernance.Quota.Router
import DoxGovernance.Sentinel.Router

/-!
# The ingestion routes

A request carries one event or up to a hundred, each with a tenant of its own. It charges
the quotas of these tenants, stores the events and raises alerts for them; the response
holds the identifiers of the events.
-/

set_option autoImplicit false

namespace Dox

structure BatchIngestRequest where
  events : List CanonicalEvent
  bounds : 1 ≤ events.length ∧ events.length ≤ 100

inductive IngestionRequest where
  | ingestEvent (event : CanonicalEvent)
  | ingestBatch (request : BatchIngestRequest)

namespace IngestionRequest
open Exposure IngestionService

def events : IngestionRequest → List CanonicalEvent
  | ingestEvent event => [event]
  | ingestBatch request => request.events

def target (request : IngestionRequest) : Target :=
  .tenants (request.events.map CanonicalEvent.tenantId)

variable (service : IngestionService) (sha256 : ByteArray → String) (outage : Outage)

def handle : IngestionRequest → Service Body
  | ingestEvent event => do
    let record ← service.ingest sha256 outage event
    return .ingest {eventId := record.eventId, receivedAt := ← now}
  | ingestBatch request => do
    let records ← service.ingestBatch sha256 outage request.events
    return .ingestBatch {
      accepted := records.length
      eventIds := records.map EventRecord.eventId }

section Answers
variable {tenantIds : List String}

theorem checkQuota_keeps {t : String} (ht : t ∈ tenantIds) :
    Effect.Keeps (exposure.Confined (Target.tenants tenantIds).Names) (service.checkQuota t) := by
  intro w
  unfold checkQuota
  split
  · obtain ⟨q, hwrote, _⟩ := QuotaService.checkAndIncrement_wrote t w
    exact QuotaRequest.confined_of_wrote hwrote ht
  · exact Confined.refl w

theorem fromCanonical_keeps {S : Row → Prop} (event : CanonicalEvent) :
    Effect.Keeps (exposure.Confined S) (fromCanonical sha256 event) := by
  intro w
  cases hhash : event.recordable with
  | true =>
    obtain ⟨record, hrun, _⟩ := fromCanonical_spec sha256 w hhash
    rw [hrun]
    exact confined_of_nextUuid
  | false =>
    obtain ⟨e, -, hrun⟩ := fromCanonical_refuses sha256 w hhash
    rw [hrun]
    exact confined_of_nextUuid

theorem fromCanonical_returns (event : CanonicalEvent) :
    Effect.Returns (fun r => r.Describes sha256 event) (fromCanonical sha256 event) := by
  intro w record h
  cases hhash : event.recordable with
  | true =>
    obtain ⟨record', hrun, hdescribes⟩ := fromCanonical_spec sha256 w hhash
    rw [hrun] at h
    cases h
    exact hdescribes
  | false =>
    obtain ⟨e, -, hrun⟩ := fromCanonical_refuses sha256 w hhash
    rw [hrun] at h
    cases h

/-- The part of a response that comes from the stored records. -/
def eventIds (records : List EventRecord) : List Item := records.map fun r => .eventId r.eventId

/-- Committed records are rows of their tenants and carry the identifiers of the events. -/
theorem insertRecords_concerns {records : List EventRecord}
    (h : ∀ r ∈ records, r.tenantId ∈ tenantIds) :
    exposure.Concerns (Target.tenants tenantIds).Names eventIds
      (do insertRecords records; return records) := by
  intro w
  rcases insertRecords_cases records w with ⟨e, hrun⟩ | ⟨table, hrun, hrows⟩
  · rw [Effect.bind_error hrun]
    exact ⟨Confined.refl w, fun _ h => nomatch h⟩
  · rw [Effect.bind_ok hrun, Effect.pure_run]
    constructor
    · intro row hrow
      cases row with
      | event r =>
        show r ∈ w.events.rows ↔ r ∈ table.rows
        rw [hrows, List.mem_append, or_iff_left fun hr => hrow (h r hr)]
      | _ => exact Iff.rfl
    · intro rs hrs
      cases hrs
      apply shown_map Row.event
      intro r hr
      refine ⟨?_, h r hr, rfl⟩
      show r ∈ table.rows
      rw [hrows]
      exact List.mem_append_right _ hr

theorem accept_concerns (events : List CanonicalEvent) :
    exposure.Concerns (Target.tenants (events.map CanonicalEvent.tenantId)).Names eventIds
      (service.accept sha256 events) := by
  apply Concerns.bind
  · apply Effect.Keeps.forEach Confined.trans Confined.refl
    intro event hevent
    exact checkQuota_keeps service (List.mem_map_of_mem hevent)
  intro _
  refine Concerns.bind_returns ?_ (Effect.Returns.mapEach fun event _ =>
    fromCanonical_returns sha256 event) ?_
  · apply Effect.Keeps.mapEach Confined.trans Confined.refl
    intro event _
    exact fromCanonical_keeps sha256 event
  intro records hrecords
  apply insertRecords_concerns
  intro r hr
  obtain ⟨event, hevent, hdescribes⟩ := hrecords r hr
  rw [hdescribes.tenantId]
  exact List.mem_map_of_mem hevent

/-! ### After the commit -/

/-- Only rows of the tenants change, and no stored event. -/
def Announces (tenantIds : List String) (w w' : World) : Prop :=
  exposure.Confined (Target.tenants tenantIds).Names w w' ∧ w'.events = w.events

theorem Announces.refl (w : World) : Announces tenantIds w w := ⟨Confined.refl w, rfl⟩

theorem Announces.trans {a b c : World} (hab : Announces tenantIds a b)
    (hbc : Announces tenantIds b c) : Announces tenantIds a c :=
  ⟨hab.1.trans hbc.1, hbc.2.trans hab.2⟩

theorem publish_announces (event : CanonicalEvent) :
    Effect.Keeps (Announces tenantIds) (publish outage event) := by
  apply keeps_failing Announces.refl
  intro w
  refine ⟨fun row _ => ?_, rfl⟩
  cases row <;> exact Iff.rfl

theorem increment_announces (name : String) (value : Nat) (tags : List (String × String)) :
    Effect.Keeps (Announces tenantIds) (increment name value tags) := by
  intro w
  refine ⟨fun row _ => ?_, rfl⟩
  cases row <;> exact Iff.rfl

theorem runSentinel_announces {event : CanonicalEvent} (h : event.tenantId ∈ tenantIds) :
    Effect.Keeps (Announces tenantIds) (service.runSentinel outage event) := by
  unfold runSentinel
  split
  · apply Effect.Keeps.forEach (@Announces.trans _) Announces.refl
    intro create hcreate
    have htenant : create.tenantId = event.tenantId := by
      unfold SentinelService.evaluateEvent at hcreate
      split at hcreate
      · cases hcreate
      · rw [List.mem_singleton.mp hcreate]
        rfl
    apply keeps_failing Announces.refl
    intro w
    refine ⟨(SentinelRequest.createAlert_concerns create w).1.mono fun row hrow => ?_, rfl⟩
    rw [← htenant] at h
    rw [Target.Names, List.mem_singleton.mp hrow]
    exact h
  · exact Effect.Keeps.pure Announces.refl _

theorem announce_announces (metric : Metric) (events : List CanonicalEvent) :
    Effect.Keeps (Announces (events.map CanonicalEvent.tenantId))
      (service.announce outage metric events) := by
  apply Effect.Keeps.bind (@Announces.trans _)
  · apply Effect.Keeps.forEach (@Announces.trans _) Announces.refl
    intro event _
    exact publish_announces outage event
  intro _
  apply Effect.Keeps.bind (@Announces.trans _) (increment_announces _ _ _)
  intro _
  apply Effect.Keeps.forEach (@Announces.trans _) Announces.refl
  intro event hevent
  exact runSentinel_announces service outage (List.mem_map_of_mem hevent)

theorem submit_concerns (metric : Metric) (events : List CanonicalEvent) :
    exposure.Concerns (Target.tenants (events.map CanonicalEvent.tenantId)).Names eventIds
      (service.submit sha256 outage metric events) := by
  apply Concerns.followed (accept_concerns service sha256 events)
  · intro _ w
    exact (announce_announces service outage metric events w).1
  · intro records w item hitem hshown
    obtain ⟨r, _, rfl⟩ := List.mem_map.mp hitem
    obtain ⟨row, hheld, hnamed, hshows⟩ := hshown
    refine ⟨row, ?_, hnamed, hshows⟩
    cases row with
    | event stored =>
      obtain ⟨_, hevents⟩ := announce_announces service outage metric events w
      have hstored : stored ∈ (service.announce outage metric events w).2.events.rows := by
        rw [hevents]
        exact hheld
      exact hstored
    | _ => exact hshows.elim

theorem run_concerns (op : IngestOp) :
    exposure.Concerns (Target.tenants (op.events.map CanonicalEvent.tenantId)).Names eventIds
      (op.run service sha256 outage) := by
  by_cases hempty : op.events = []
  · rw [IngestOp.run_of_empty hempty]
    intro w
    refine ⟨Confined.refl w, fun records hrecords => ?_⟩
    cases hrecords
    exact fun _ h => absurd h List.not_mem_nil
  · rw [IngestOp.run_eq_submit hempty]
    exact submit_concerns service sha256 outage _ _

theorem answers (request : IngestionRequest) :
    Answers request.target (request.handle service sha256 outage) := by
  cases request with
  | ingestEvent event =>
    intro w
    obtain ⟨hconfined, hshown⟩ := run_concerns service sha256 outage (.ingest event) w
    rw [IngestOp.run, Effect.bind_run] at hconfined hshown
    rw [handle, Effect.bind_run]
    cases hrun : service.ingest sha256 outage event w with
    | mk r w' =>
      rw [hrun] at hconfined hshown
      cases r with
      | error e => exact ⟨hconfined, fun _ h => nomatch h⟩
      | ok record =>
        refine ⟨hconfined, fun body hbody => ?_⟩
        cases hbody
        exact hshown [record] rfl
  | ingestBatch request =>
    apply Concerns.map
    intro w
    obtain ⟨hconfined, hshown⟩ := run_concerns service sha256 outage (.ingestBatch request.events) w
    refine ⟨hconfined, fun records hrecords => ?_⟩
    have hitems := hshown records hrecords
    rw [eventIds, ← Function.comp_def Item.eventId, ← List.map_map] at hitems
    exact hitems

end Answers

end IngestionRequest
end Dox
