import DoxGovernance.Ingestion.Delivery

/-!
# Charging

Over a run within one day, the counters of every tenant should grow by the records stored
for it. A check commits its charge before any record is written, so a call that raises
after its first charge leaves the tenants charged for records that do not exist. In a run
where every call is refused at its first check or goes through, the counters are right.
-/

set_option autoImplicit false

namespace Dox
namespace IngestionService
open QuotaService (account Account)

def persisted (k : String) (w : World) : Nat := w.events.rows.countP (·.tenantId = k)

/-- Both counters of every tenant grow by the number of records stored for it. -/
def ChargedAsPersisted (d : Date) (w w' : World) : Prop :=
  ∀ k, ∃ n, account d w' k = (account d w k).charge n ∧ persisted k w' = persisted k w + n

def raises (self : IngestionService) (sha256 : ByteArray → String) (w : World)
    (call : IngestCall) : Bool :=
  !(call.op.run self sha256 call.outage (w.at call.time)).1.isOk

section Step
variable {self : IngestionService} (sha256 : ByteArray → String) {d : Date} {w w' w'' : World}

theorem ChargedAsPersisted.refl (w : World) : ChargedAsPersisted d w w :=
  fun _ => ⟨0, rfl, rfl⟩

theorem ChargedAsPersisted.trans (h : ChargedAsPersisted d w w')
    (h' : ChargedAsPersisted d w' w'') : ChargedAsPersisted d w w'' := by
  intro k
  obtain ⟨m, haccount, hrows⟩ := h k
  obtain ⟨n, haccount', hrows'⟩ := h' k
  refine ⟨m + n, ?_, ?_⟩
  · rw [haccount', haccount, Account.charge_charge]
  · omega

end Step

end IngestionService
end Dox
