import DoxGovernance.Audit.Service
import DoxGovernance.Gateway.Responses

/-!
# The audit routes

Entries are recorded and listed for the tenant that the request names. A single entry is
named by its tenant and its identifier, and is not found under another tenant.
-/

set_option autoImplicit false

namespace Dox

inductive AuditRequest where
  | recordEntry (create : AuditEntryCreate)
  | listEntries (filter : AuditService.Filter) (query : PageQuery 500)
  | getEntry (tenantId : String) (entryId : Uuid)

namespace AuditRequest
open Exposure

def target : AuditRequest → Target
  | recordEntry create => .tenants [create.tenantId]
  | listEntries filter _ => .tenants [filter.tenantId]
  | getEntry tenantId entryId => .auditEntry tenantId entryId

/-- What a session says to a query while it opens the connection for another one. -/
def concurrentOperations : Exc :=
  .outage "This session is provisioning a new connection; concurrent operations are not permitted"

/-- The entry, unless it is of another tenant. -/
def ownEntry (tenantId : String) (entry : AuditEntry) : Service Body :=
  if entry.tenantId ≠ tenantId then Effect.raise (.httpException 404 "Audit entry not found")
  else return .auditEntry entry

/-- `coldPool` says that the first query of the session has to open a connection. -/
def handle (scan : Scan AuditEntry) (coldPool : Bool) : AuditRequest → Service Body
  | recordEntry create => do
    return .auditEntry (← AuditService.record create)
  | listEntries filter query =>
    -- `asyncio.gather` starts the second query while the first one waits for the connection
    if coldPool then Effect.raise concurrentOperations
    else do
      let entries ← AuditService.listForTenant scan filter query.limit query.offset
      let total ← AuditService.countForTenant filter
      return .auditEntries ⟨⟨entries, total⟩, query.limit, query.offset⟩
  | getEntry tenantId entryId => do
    ownEntry tenantId (← orNotFound "Audit entry not found" (AuditService.get entryId))

theorem confined_auditEntries {S : Row → Prop} {w : World} {auditEntries : Numbered AuditEntry.id}
    (h : ∀ e, ¬S (.auditEntry e) → (e ∈ w.auditEntries.rows ↔ e ∈ auditEntries.rows)) :
    exposure.Confined S w {w with auditEntries} := by
  intro row hrow
  cases row with
  | auditEntry e => exact h e hrow
  | _ => exact Iff.rfl

section Answers
variable (scan : Scan AuditEntry) (coldPool : Bool)

theorem record_concerns (create : AuditEntryCreate) :
    exposure.Concerns (Target.tenants [create.tenantId]).Names (fun e => [.auditEntry e])
      (AuditService.record create) := by
  apply concerns_add .auditEntry World.auditEntries fun w auditEntries => {w with auditEntries}
  · exact confined_auditEntries
  · exact id
  · exact fun _ => rfl
  · exact fun _ _ => List.mem_cons_self

theorem listForTenant_concerns (filter : AuditService.Filter) (limit offset : Nat) :
    exposure.Concerns (Target.tenants [filter.tenantId]).Names (fun es => es.map .auditEntry)
      (AuditService.listForTenant scan filter limit offset) := by
  apply Concerns.gets
  intro w
  apply shown_map Row.auditEntry
  intro e he
  obtain ⟨hmem, hkeeps⟩ := Table.mem_select.mp ((mem_orderByDesc _).mp (mem_of_mem_page he))
  simp only [AuditService.Filter.keeps, Bool.and_eq_true, decide_eq_true_eq] at hkeeps
  exact ⟨hmem, List.mem_singleton.mpr hkeeps.1.1.1, rfl⟩

theorem getEntry_concerns (tenantId : String) (entryId : Uuid) :
    Answers (.auditEntry tenantId entryId)
      (orNotFound "Audit entry not found" (AuditService.get entryId) >>= ownEntry tenantId) := by
  apply Concerns.lookup_bind (orNotFound_finds (AuditService.get_finds entryId) _)
  intro w entry hfind
  unfold ownEntry
  split
  · exact ⟨Confined.refl w, fun _ h => nomatch h⟩
  · rename_i htenant
    refine ⟨Confined.refl w, fun body hbody => ?_⟩
    cases hbody
    exact shown_one (.auditEntry entry) (Table.mem_of_find? hfind)
      ⟨not_not.mp htenant, Table.key_of_find? hfind⟩ rfl

theorem answers (request : AuditRequest) :
    Answers request.target (request.handle scan coldPool) := by
  cases request with
  | recordEntry create => exact Concerns.map (record_concerns create)
  | listEntries filter query =>
    dsimp only [handle]
    split
    · exact Concerns.raise _
    intro w
    obtain ⟨_, hshown⟩ := listForTenant_concerns scan filter query.limit query.offset w
    refine ⟨Confined.refl w, fun body hbody => ?_⟩
    cases hbody
    exact hshown _ rfl
  | getEntry tenantId entryId => exact getEntry_concerns tenantId entryId

end Answers

end AuditRequest
end Dox
