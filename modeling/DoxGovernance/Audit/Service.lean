import DoxGovernance.Lib.Text
import DoxGovernance.World

/-!
# The audit service

Governance actions are recorded in a table that is only appended to, and listed newest
first.
-/

set_option autoImplicit false

namespace Dox

structure AuditEntryCreate where
  tenantId : String
  actorId : Option Uuid := none
  actorEmail : String := "system"
  action : String
  resourceType : String
  resourceId : String
  summary : String
  extra : Payload := ∅
  actionFits : 1 ≤ action.length ∧ action.length ≤ 100 := by decide
  resourceTypeFits : 1 ≤ resourceType.length ∧ resourceType.length ≤ 100 := by decide
  resourceIdFits : 1 ≤ resourceId.length ∧ resourceId.length ≤ 255 := by decide
  summaryNonempty : summary ≠ "" := by decide

/-- An identifier fits where a resource is named. -/
theorem uuid_fits (id : Uuid) : 1 ≤ (Text.uuid id).length ∧ (Text.uuid id).length ≤ 255 := by
  rw [Text.length_uuid]
  decide

/-- The kind of resource that the workflows record fits, too. -/
theorem sentinelAlert_fits : 1 ≤ "sentinel_alert".length ∧ "sentinel_alert".length ≤ 100 := by
  decide

namespace AuditService

def newEntry (now : Datetime) (create : AuditEntryCreate) (id : Uuid) : AuditEntry where
  id := id
  tenantId := create.tenantId
  actorId := create.actorId
  actorEmail := create.actorEmail
  action := create.action
  resourceType := create.resourceType
  resourceId := create.resourceId
  summary := create.summary
  extra := create.extra
  createdAt := now

def record (create : AuditEntryCreate) : Service AuditEntry :=
  Effect.change fun w => (newEntry w.clock create w.auditEntries.next,
    {w with auditEntries := w.auditEntries.add (newEntry w.clock create) fun _ => rfl})

def get (entryId : Uuid) : Service AuditEntry := fun w =>
  match w.auditEntries.find? entryId with
  | some entry => (.ok entry, w)
  | none => (.error (.notFound s!"Audit entry {Text.uuid entryId} not found"), w)

theorem get_finds (entryId : Uuid) :
    Effect.Finds (fun w => w.auditEntries.find? entryId) (get entryId) := by
  constructor
  · intro w _ hfind
    simp only [get, hfind]
  · intro w hfind
    simp only [get, hfind]
    exact ⟨_, rfl⟩

structure Filter where
  tenantId : String
  action : Option String := none
  resourceType : Option String := none
  actorId : Option Uuid := none

def Filter.keeps (filter : Filter) (entry : AuditEntry) : Bool :=
  entry.tenantId = filter.tenantId && filter.action.all (entry.action = ·) &&
    filter.resourceType.all (entry.resourceType = ·) &&
    filter.actorId.all fun actor => entry.actorId = some actor

def listForTenant (scan : Scan AuditEntry) (filter : Filter) (limit offset : Nat) :
    Service (List AuditEntry) :=
  Effect.gets fun w =>
    page offset limit (orderByDesc (·.createdAt) (w.auditEntries.select scan filter.keeps))

def countForTenant (filter : Filter) : Service Nat :=
  Effect.gets fun w => w.auditEntries.rows.countP filter.keeps

end AuditService
end Dox
