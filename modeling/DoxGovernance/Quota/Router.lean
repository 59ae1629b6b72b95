import DoxGovernance.Gateway.Responses

/-!
# The quota routes

Every quota route names its tenant, and writes and returns the row of that tenant.
-/

set_option autoImplicit false

namespace Dox

inductive QuotaRequest where
  | provisionQuota (create : QuotaProvision)
  | getQuotaStatus (tenantId : String)
  | resetDailyQuota (tenantId : String)

namespace QuotaRequest
open Exposure

def target : QuotaRequest → Target
  | provisionQuota create => .tenants [create.tenantId]
  | getQuotaStatus tenantId | resetDailyQuota tenantId => .tenants [tenantId]

def handle : QuotaRequest → Service Body
  | provisionQuota create => do
    return .quota (toStatus (← QuotaService.provision create))
  | getQuotaStatus tenantId => do
    return .quota (← QuotaService.getStatus tenantId)
  | resetDailyQuota tenantId => do
    return .quota (← QuotaService.resetDaily tenantId)

section Wrote
variable {t : String} {q : TenantQuota} {w w' : World} (h : QuotaService.Wrote t q w w')
include h

/-- Writing the row of a tenant leaves the rows of the others alone. -/
theorem confined_of_wrote {tenantIds : List String} (ht : t ∈ tenantIds) :
    exposure.Confined (Target.tenants tenantIds).Names w w' := by
  obtain ⟨quotas, rfl, hfind⟩ := h
  intro row hrow
  cases row with
  | quota p =>
    have hne : p.tenantId ≠ t := by
      intro hp
      apply hrow
      rw [← hp] at ht
      exact ht
    have hsame := hfind p.tenantId
    rw [if_neg hne] at hsame
    constructor
    · intro hp
      exact Table.mem_of_find? (hsame.trans (Table.find?_of_mem hp))
    · intro hp
      exact Table.mem_of_find? (hsame.symm.trans (Table.find?_of_mem hp))
  | _ => exact Iff.rfl

theorem has_of_wrote : w'.Has (.quota q) ∧ q.tenantId = t := by
  obtain ⟨quotas, rfl, hfind⟩ := h
  have hsome := hfind t
  rw [if_pos rfl] at hsome
  exact ⟨Table.mem_of_find? hsome, Table.key_of_find? hsome⟩

end Wrote

/-- A call that writes a tenant's row and responds with what the row shows. -/
theorem concerns_of_wrote {α : Type} {t : String} {items : α → List Item} {call : Service α}
    (h : ∀ w, ∃ w' a q, call w = (.ok a, w') ∧ QuotaService.Wrote t q w w' ∧
      ∀ item ∈ items a, (Row.quota q).Shows item) :
    exposure.Concerns (Target.tenants [t]).Names items call := by
  intro w
  obtain ⟨w', a, q, hrun, hwrote, hshows⟩ := h w
  rw [hrun]
  refine ⟨confined_of_wrote hwrote List.mem_cons_self, fun b hb item hitem => ?_⟩
  cases hb
  obtain ⟨hheld, htenant⟩ := has_of_wrote hwrote
  exact ⟨.quota q, hheld, List.mem_singleton.mpr htenant, hshows item hitem⟩

theorem getStatus_concerns (t : String) : exposure.Concerns (Target.tenants [t]).Names
    (fun status => [.quota status]) (QuotaService.getStatus t) := by
  apply concerns_of_wrote
  intro w
  obtain ⟨w', hrun, hwrote⟩ := QuotaService.getStatus_spec t w
  exact ⟨w', _, _, hrun, hwrote, by simp [Row.Shows]⟩

theorem provision_concerns (create : QuotaProvision) :
    exposure.Concerns (Target.tenants [create.tenantId]).Names
      (fun quota => [.quota (toStatus quota)]) (QuotaService.provision create) := by
  apply concerns_of_wrote
  intro w
  obtain ⟨w', hrun, hwrote⟩ := QuotaService.provision_spec create w
  exact ⟨w', _, _, hrun, hwrote, by simp [Row.Shows]⟩

theorem resetDaily_concerns (t : String) : exposure.Concerns (Target.tenants [t]).Names
    (fun status => [.quota status]) (QuotaService.resetDaily t) := by
  apply concerns_of_wrote
  intro w
  obtain ⟨w', hrun, hwrote⟩ := QuotaService.resetDaily_spec t w
  exact ⟨w', _, _, hrun, hwrote, by simp [Row.Shows]⟩

theorem answers (request : QuotaRequest) : Answers request.target request.handle := by
  cases request with
  | provisionQuota create => exact Concerns.map (provision_concerns create)
  | getQuotaStatus tenantId => exact Concerns.map (getStatus_concerns tenantId)
  | resetDailyQuota tenantId => exact Concerns.map (resetDaily_concerns tenantId)

end QuotaRequest
end Dox
