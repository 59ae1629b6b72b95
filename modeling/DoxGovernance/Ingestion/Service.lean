import DoxGovernance.Quota.Account
import DoxGovernance.Sentinel.Service

/-!
# The ingestion service

A call charges the quota of each event's tenant, builds the records, inserts them in one
commit, and then publishes the events, counts them and raises the alerts of the trigger
types, each alert in a commit of its own. Publishing and the commit of an alert may fail;
an `Outage` says for which events.
-/

set_option autoImplicit false

namespace Dox

/-- The events whose publishing and whose alert fail, with the message of the exception. -/
structure Outage where
  publish : Uuid → Option String := fun _ => none
  alert : Uuid → Option String := fun _ => none

/-- Which of the optional services are attached. -/
structure IngestionService where
  sentinel : Bool
  quota : Bool

def ingestedTopic : String := "dox.events.ingested"

namespace IngestionService

/-- `EventRecord.from_canonical`. -/
def fromCanonical (sha256 : ByteArray → String) (event : CanonicalEvent) : Service EventRecord := do
  let id ← uuid4
  match EventRecord.fromCanonical sha256 id (← now) event with
  | .ok record => return record
  | .error e => Effect.raise e

def insertRecords (records : List EventRecord) : Service Unit := fun w =>
  match records.findSome? EventRecord.columnError with
  | some message => (.error (.dataError message), w)
  | none =>
    match w.events.insertAll? records with
    | some events => (.ok (), {w with events})
    | none => (.error (.integrityError "uq_events_event_id"), w)

/-- The commit of records appends them, or raises and changes nothing. -/
theorem insertRecords_cases (records : List EventRecord) (w : World) :
    (∃ e, insertRecords records w = (.error e, w)) ∨
    ∃ table, insertRecords records w = (.ok (), {w with events := table}) ∧
      table.rows = w.events.rows ++ records := by
  cases hcolumns : records.findSome? EventRecord.columnError with
  | some message => exact Or.inl ⟨.dataError message, by simp only [insertRecords, hcolumns]⟩
  | none =>
    cases htable : w.events.insertAll? records with
    | none =>
      refine Or.inl ⟨.integrityError "uq_events_event_id", ?_⟩
      simp only [insertRecords, hcolumns, htable]
    | some table =>
      exact Or.inr ⟨table, by simp only [insertRecords, hcolumns, htable],
        Table.insertAll?_eq_some htable⟩

def publish (outage : Outage) (event : CanonicalEvent) : Service Unit :=
  failing (outage.publish event.eventId) <|
    Effect.change fun w => ((), {w with bus := w.bus ++ [⟨ingestedTopic, event⟩]})

def increment (name : String) (value : Nat) (tags : List (String × String)) : Service Unit :=
  Effect.change fun w => ((), {w with metrics := w.metrics ++ [⟨name, value, tags⟩]})

def createAlert (outage : Outage) (event : CanonicalEvent) (create : SentinelAlertCreate) :
    Service Unit :=
  failing (outage.alert event.eventId) do
    let _ ← SentinelService.createAlert create
    return ()

variable (self : IngestionService) (sha256 : ByteArray → String) (outage : Outage)

/-- `_check_quota`. -/
def checkQuota (tenantId : String) : Service Unit :=
  if self.quota then QuotaService.checkAndIncrement tenantId else pure ()

/-- `_run_sentinel`. -/
def runSentinel (event : CanonicalEvent) : Service Unit :=
  if self.sentinel then
    Effect.forEach (createAlert outage event) (SentinelService.evaluateEvent event)
  else pure ()

def ingest (event : CanonicalEvent) : Service EventRecord := do
  self.checkQuota event.tenantId
  let record ← fromCanonical sha256 event
  insertRecords [record]
  publish outage event
  increment "events.ingested" 1 [("event_type", event.eventType.value)]
  self.runSentinel outage event
  return record

def ingestBatch (events : List CanonicalEvent) : Service (List EventRecord) :=
  match events with
  | [] => return []
  | _ :: _ => do
    Effect.forEach (fun event => self.checkQuota event.tenantId) events
    let records ← Effect.mapEach (fromCanonical sha256) events
    insertRecords records
    Effect.forEach (publish outage) events
    increment "events.ingested_batch" events.length []
    Effect.forEach (self.runSentinel outage) events
    return records

/-! ### The two halves of a call -/

/-- Everything up to the commit of the records. -/
def accept (events : List CanonicalEvent) : Service (List EventRecord) := do
  Effect.forEach (fun event => self.checkQuota event.tenantId) events
  let records ← Effect.mapEach (fromCanonical sha256) events
  insertRecords records
  return records

/-- Everything after it. -/
def announce (metric : Metric) (events : List CanonicalEvent) : Service Unit := do
  Effect.forEach (publish outage) events
  increment metric.name metric.value metric.tags
  Effect.forEach (self.runSentinel outage) events

def submit (metric : Metric) (events : List CanonicalEvent) : Service (List EventRecord) := do
  let records ← self.accept sha256 events
  self.announce outage metric events
  return records

theorem ingest_eq_submit (event : CanonicalEvent) :
    (do return [← self.ingest sha256 outage event]) = self.submit sha256 outage
      ⟨"events.ingested", 1, [("event_type", event.eventType.value)]⟩ [event] := by
  simp only [ingest, submit, accept, announce, Effect.forEach_cons, Effect.mapEach_cons,
    bind_assoc, pure_bind]
  rfl

theorem ingestBatch_eq_submit {events : List CanonicalEvent} (h : events ≠ []) :
    self.ingestBatch sha256 outage events =
      self.submit sha256 outage ⟨"events.ingested_batch", events.length, []⟩ events := by
  cases events with
  | nil => exact absurd rfl h
  | cons event events =>
    simp only [ingestBatch, submit, accept, announce, bind_assoc, pure_bind]

end IngestionService

inductive IngestOp where
  | ingest (event : CanonicalEvent)
  | ingestBatch (events : List CanonicalEvent)

namespace IngestOp

def events : IngestOp → List CanonicalEvent
  | ingest event => [event]
  | ingestBatch events => events

def metric : IngestOp → Metric
  | ingest event => ⟨"events.ingested", 1, [("event_type", event.eventType.value)]⟩
  | ingestBatch events => ⟨"events.ingested_batch", events.length, []⟩

def run (self : IngestionService) (sha256 : ByteArray → String) (outage : Outage) :
    IngestOp → Service (List EventRecord)
  | ingest event => do return [← self.ingest sha256 outage event]
  | ingestBatch events => self.ingestBatch sha256 outage events

variable {self : IngestionService} {sha256 : ByteArray → String} {outage : Outage} {op : IngestOp}

theorem run_of_empty (h : op.events = []) : op.run self sha256 outage = pure [] := by
  cases op with
  | ingest event => cases h
  | ingestBatch events =>
    rw [show events = [] from h]
    rfl

theorem run_eq_submit (h : op.events ≠ []) :
    op.run self sha256 outage = self.submit sha256 outage op.metric op.events := by
  cases op with
  | ingest event => exact self.ingest_eq_submit sha256 outage event
  | ingestBatch events => exact self.ingestBatch_eq_submit sha256 outage h

end IngestOp

/-! ### What a call keeps -/

section Keeps
variable {R : World → World → Prop} (trans : ∀ {a b c}, R a b → R b c → R a c)
  (hcheck : ∀ tenantId, Effect.Keeps R (QuotaService.checkAndIncrement tenantId))
  (hrecord : ∀ w nextUuid events, R w {w with nextUuid, events})
  (hannounce : ∀ w alerts bus metrics, R w {w with alerts, bus, metrics})
  {self : IngestionService} (sha256 : ByteArray → String) (outage : Outage)

namespace IngestionService

section Accept
include hrecord

theorem refl_of_record (w : World) : R w w := hrecord w w.nextUuid w.events

theorem insertRecords_keeps (records : List EventRecord) :
    Effect.Keeps R (insertRecords records) := by
  intro w
  rcases insertRecords_cases records w with ⟨e, hrun⟩ | ⟨table, hrun, _⟩
  · rw [hrun]
    exact refl_of_record hrecord w
  · rw [hrun]
    exact hrecord w w.nextUuid table

include hcheck in
theorem checkQuota_keeps (tenantId : String) : Effect.Keeps R (self.checkQuota tenantId) := by
  unfold checkQuota
  split
  · exact hcheck tenantId
  · exact Effect.Keeps.pure (refl_of_record hrecord) ()

include trans

theorem fromCanonical_keeps (event : CanonicalEvent) :
    Effect.Keeps R (fromCanonical sha256 event) := by
  apply Effect.Keeps.bind @trans
  · exact Effect.Keeps.change fun w => hrecord w (w.nextUuid + 1) w.events
  intro id
  apply Effect.Keeps.bind @trans
  · exact Effect.Keeps.gets (refl_of_record hrecord) _
  intro time
  cases EventRecord.fromCanonical sha256 id time event with
  | ok record => exact Effect.Keeps.pure (refl_of_record hrecord) record
  | error e => exact Effect.Keeps.raise (refl_of_record hrecord) e

include hcheck

theorem accept_keeps (events : List CanonicalEvent) :
    Effect.Keeps R (self.accept sha256 events) := by
  apply Effect.Keeps.bind @trans
  · apply Effect.Keeps.forEach @trans (refl_of_record hrecord)
    exact fun event _ => checkQuota_keeps hcheck hrecord event.tenantId
  intro _
  apply Effect.Keeps.bind @trans
  · apply Effect.Keeps.mapEach @trans (refl_of_record hrecord)
    exact fun event _ => fromCanonical_keeps @trans hrecord sha256 event
  intro records
  apply Effect.Keeps.bind @trans (insertRecords_keeps hrecord records)
  exact fun _ => Effect.Keeps.pure (refl_of_record hrecord) records

end Accept

section Announce
include hannounce

theorem refl_of_announce (w : World) : R w w := hannounce w w.alerts w.bus w.metrics

theorem publish_keeps (event : CanonicalEvent) : Effect.Keeps R (publish outage event) :=
  keeps_failing (refl_of_announce hannounce)
    (Effect.Keeps.change fun w => hannounce w w.alerts _ w.metrics)

include trans

theorem createAlert_keeps (event : CanonicalEvent) (create : SentinelAlertCreate) :
    Effect.Keeps R (createAlert outage event create) := by
  apply keeps_failing (refl_of_announce hannounce)
  apply Effect.Keeps.bind @trans
  · exact Effect.Keeps.change fun w => hannounce w _ w.bus w.metrics
  · exact fun _ => Effect.Keeps.pure (refl_of_announce hannounce) ()

theorem runSentinel_keeps (event : CanonicalEvent) :
    Effect.Keeps R (self.runSentinel outage event) := by
  unfold runSentinel
  split
  · apply Effect.Keeps.forEach @trans (refl_of_announce hannounce)
    exact fun create _ => createAlert_keeps @trans hannounce outage event create
  · exact Effect.Keeps.pure (refl_of_announce hannounce) ()

theorem announce_keeps (metric : Metric) (events : List CanonicalEvent) :
    Effect.Keeps R (self.announce outage metric events) := by
  apply Effect.Keeps.bind @trans
  · apply Effect.Keeps.forEach @trans (refl_of_announce hannounce)
    exact fun event _ => publish_keeps hannounce outage event
  intro _
  apply Effect.Keeps.bind @trans
  · exact Effect.Keeps.change fun w => hannounce w w.alerts w.bus _
  intro _
  apply Effect.Keeps.forEach @trans (refl_of_announce hannounce)
  exact fun event _ => runSentinel_keeps @trans hannounce outage event

end Announce

end IngestionService

open IngestionService in
include trans hcheck hrecord hannounce in
/-- A call keeps what its checks keep and what depends on neither the events nor the alerts, the
messages and the metrics. -/
theorem IngestOp.run_keeps (op : IngestOp) : Effect.Keeps R (op.run self sha256 outage) := by
  have refl := refl_of_record hrecord
  by_cases hempty : op.events = []
  · rw [IngestOp.run_of_empty hempty]
    exact Effect.Keeps.pure refl []
  · rw [IngestOp.run_eq_submit hempty]
    apply Effect.Keeps.bind @trans (accept_keeps @trans hcheck hrecord sha256 op.events)
    intro records
    apply Effect.Keeps.bind @trans (announce_keeps @trans hannounce outage op.metric op.events)
    exact fun _ => Effect.Keeps.pure refl records

end Keeps

/-- A call of the service, with the time it is made at and the outage it meets. -/
structure IngestCall where
  time : Datetime
  op : IngestOp
  outage : Outage := {}

def IngestCall.step (self : IngestionService) (sha256 : ByteArray → String) (w : World)
    (call : IngestCall) : World :=
  (call.op.run self sha256 call.outage (w.at call.time)).2

end Dox
