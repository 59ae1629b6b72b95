import DoxGovernance.Audit.Integrity
import DoxGovernance.World

/-!
# The query service

Stored events are read by identifier, or listed by a filter with the newest first and cut
to a page; the oldest events of a tenant are verified against their digests.
-/

set_option autoImplicit false

namespace Dox

structure EventFilter where
  tenantId : String
  agentId : Option String := none
  eventType : Option EventType := none
  environment : Option Environment := none
  sessionId : Option String := none
  fromTs : Option Datetime := none
  toTs : Option Datetime := none
  limit : Nat := 50
  offset : Nat := 0
  limitBounds : 1 ≤ limit ∧ limit ≤ 500 := by decide

def EventFilter.keeps (filters : EventFilter) (record : EventRecord) : Bool :=
  record.tenantId = filters.tenantId && filters.agentId.all (record.agentId = ·) &&
    filters.eventType.all (record.eventType = ·) &&
    filters.environment.all (record.environment = ·) &&
    filters.sessionId.all (record.sessionId = ·) && filters.fromTs.all (· ≤ record.timestamp) &&
    filters.toTs.all (record.timestamp ≤ ·)

namespace EventQueryService

def getEvent (eventId : Uuid) : Service EventRecord := fun w =>
  match w.events.find? eventId with
  | some record => (.ok record, w)
  | none => (.error (.notFound s!"Event {Text.uuid eventId} not found"), w)

theorem getEvent_finds (eventId : Uuid) :
    Effect.Finds (fun w => w.events.find? eventId) (getEvent eventId) := by
  constructor
  · intro w _ hfind
    simp only [getEvent, hfind]
  · intro w hfind
    simp only [getEvent, hfind]
    exact ⟨_, rfl⟩

def listEvents (scan : Scan EventRecord) (filters : EventFilter) : Service (List EventRecord) :=
  Effect.gets fun w => page filters.offset filters.limit
    (orderByDesc (·.timestamp) (w.events.select scan filters.keeps))

def countEvents (filters : EventFilter) : Service Nat :=
  Effect.gets fun w => w.events.rows.countP filters.keeps

def verifyIntegrity (sha256 : ByteArray → String) (scan : Scan EventRecord) (tenantId : String)
    (limit : Nat) : Service IntegrityReport := do
  let records ← Effect.gets fun w => page 0 limit
    (orderByAsc (·.timestamp) (w.events.select scan fun r => r.tenantId = tenantId))
  match verifyTenantIntegrity sha256 records with
  | .ok report => return report
  | .error e => Effect.raise e

end EventQueryService
end Dox
