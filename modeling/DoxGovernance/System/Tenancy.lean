import DoxGovernance.Gateway.Isolation
import DoxGovernance.Gateway.Noninterference
import DoxGovernance.Lib.Ownership
import DoxGovernance.System.Lifecycle

/-!
# Requests that keep to a tenant

A request keeps to a tenant when it names the tenant, or a row that no other tenant has. It then
changes rows of the tenant only. As no request removes or moves a row, every other tenant still
has the same rows in the same order.
-/

set_option autoImplicit false

namespace Dox
open Exposure

/-- The same rows of a tenant, in the same order. -/
structure SameRows (t : String) (w v : World) : Prop where
  events : w.events.ownedBy EventRecord.tenantId t = v.events.ownedBy EventRecord.tenantId t
  quotas : w.quotas.ownedBy TenantQuota.tenantId t = v.quotas.ownedBy TenantQuota.tenantId t
  alerts : w.alerts.ownedBy SentinelAlert.tenantId t = v.alerts.ownedBy SentinelAlert.tenantId t
  policies : w.policies.ownedBy Policy.tenantId t = v.policies.ownedBy Policy.tenantId t
  baselines : w.baselines.ownedBy AgentBaseline.tenantId t =
    v.baselines.ownedBy AgentBaseline.tenantId t
  webhooks : w.webhooks.ownedBy WebhookEndpoint.tenantId t =
    v.webhooks.ownedBy WebhookEndpoint.tenantId t
  agents : w.agents.ownedBy AgentProfile.tenantId t = v.agents.ownedBy AgentProfile.tenantId t
  auditEntries : w.auditEntries.ownedBy AuditEntry.tenantId t =
    v.auditEntries.ownedBy AuditEntry.tenantId t

/-- Every row is still in its place under its key and its tenant; a quota has no place. -/
structure World.Extends (w w' : World) : Prop where
  events : w.events.Extends EventRecord.tenantId w'.events
  alerts : w.alerts.Extends SentinelAlert.tenantId w'.alerts.toTable
  policies : w.policies.Extends Policy.tenantId w'.policies.toTable
  baselines : w.baselines.Extends AgentBaseline.tenantId w'.baselines.toTable
  webhooks : w.webhooks.Extends WebhookEndpoint.tenantId w'.webhooks.toTable
  agents : w.agents.Extends AgentProfile.tenantId w'.agents.toTable
  auditEntries : w.auditEntries.Extends AuditEntry.tenantId w'.auditEntries.toTable

section Extends
open Table (Extends)

theorem World.Extends.refl (w : World) : w.Extends w :=
  ⟨.refl _, .refl _, .refl _, .refl _, .refl _, .refl _, .refl _⟩

theorem World.Extends.trans {w w' w'' : World} (h : w.Extends w') (h' : w'.Extends w'') :
    w.Extends w'' where
  events := h.events.trans h'.events
  alerts := h.alerts.trans h'.alerts
  policies := h.policies.trans h'.policies
  baselines := h.baselines.trans h'.baselines
  webhooks := h.webhooks.trans h'.webhooks
  agents := h.agents.trans h'.agents
  auditEntries := h.auditEntries.trans h'.auditEntries

theorem Write.extends {sha256 : ByteArray → String} {p : Place} {w w' : World}
    (h : Write sha256 p w w') : w.Extends w' := by
  have hrefl := World.Extends.refl w
  cases h with
  | uuid => exact {hrefl with}
  | insertEvents _ _ hinsert =>
    exact {hrefl with events := .of_append (Table.insertAll?_eq_some hinsert)}
  | writeQuota _ hwrote =>
    obtain ⟨quotas, rfl, -⟩ := hwrote
    exact {hrefl with}
  | createAlert _ create =>
    exact {hrefl with
      alerts := w.alerts.extends_add (SentinelService.newAlert w.clock create) fun _ => rfl}
  | resolveAlert _ alertId action =>
    exact {hrefl with
      alerts := w.alerts.extends_update alertId (f := SentinelService.resolved w.clock action)
        (fun _ => rfl) fun _ => rfl}
  | createPolicy _ create =>
    exact {hrefl with
      policies := w.policies.extends_add (SentinelService.newPolicy w.clock create) fun _ => rfl}
  | updatePolicy _ policyId update =>
    exact {hrefl with
      policies := w.policies.extends_update policyId (f := PolicyEvaluatorService.patched update)
        (fun _ => rfl) fun _ => rfl}
  | deactivatePolicy _ policyId =>
    exact {hrefl with
      policies := w.policies.extends_update policyId (f := ({· with isActive := false}))
        (fun _ => rfl) fun _ => rfl}
  | replaceBaselines _ create records =>
    have hdeactivated : w.baselines.Extends AgentBaseline.tenantId _ :=
      w.baselines.extends_modify (DriftDetectionService.isActiveOf create.tenantId create.agentId)
        (f := ({· with isActive := false})) (fun _ => rfl) fun _ => rfl
    exact {hrefl with
      baselines := hdeactivated.trans (Numbered.extends_add _
        (DriftDetectionService.newBaseline w.clock create records) fun _ => rfl)}
  | deactivateBaseline _ baselineId =>
    exact {hrefl with
      baselines := w.baselines.extends_update baselineId (f := ({· with isActive := false}))
        (fun _ => rfl) fun _ => rfl}
  | registerWebhook _ create =>
    exact {hrefl with
      webhooks := w.webhooks.extends_add (NotificationService.newWebhook w.clock create)
        fun _ => rfl}
  | deactivateWebhook _ webhookId =>
    exact {hrefl with
      webhooks := w.webhooks.extends_update webhookId (f := ({· with isActive := false}))
        (fun _ => rfl) fun _ => rfl}
  | recordDelivery _ webhook success =>
    exact {hrefl with
      webhooks := w.webhooks.extends_update webhook.id (f := ({· with
        lastDeliveredAt := some w.clock
        failureCount := if success then 0 else webhook.failureCount + 1}))
        (fun _ => rfl) fun _ => rfl}
  | createAgent hadd => exact {hrefl with agents := .of_append (Constrained.rows_add? hadd)}
  | saveAgent _ change _ profile =>
    have hkeys := AgentRegistryService.keys_written w.clock change
    exact {hrefl with
      agents := w.agents.extends_update profile.id (fun p => (hkeys p).1)
        fun p => congrArg Prod.fst (hkeys p).2}
  | recordEntry _ create =>
    exact {hrefl with
      auditEntries := w.auditEntries.extends_add (AuditService.newEntry w.clock create)
        fun _ => rfl}
  | publish => exact {hrefl with}
  | increment => exact {hrefl with}

/-- Where the rows of one tenant have changed, the rows of the others are the same. -/
theorem sameRows_of_confined {t u : String} {w w' : World} (hne : t ≠ u) (hextends : w.Extends w')
    (h : exposure.Confined (fun row => row.tenantId = u) w w') : SameRows t w' w := by
  have hother : ∀ {k : String}, k = t → ¬k = u := by
    rintro k rfl
    exact hne
  exact {
    events := hextends.events.ownedBy_eq fun r hr => h (.event r) (hother hr)
    quotas := Table.ownedBy_key_eq fun q hq => (h (.quota q) (hother hq)).symm
    alerts := hextends.alerts.ownedBy_eq fun a ha => h (.alert a) (hother ha)
    policies := hextends.policies.ownedBy_eq fun p hp => h (.policy p) (hother hp)
    baselines := hextends.baselines.ownedBy_eq fun b hb => h (.baseline b) (hother hb)
    webhooks := hextends.webhooks.ownedBy_eq fun e he => h (.webhook e) (hother he)
    agents := hextends.agents.ownedBy_eq fun p hp => h (.agent p) (hother hp)
    auditEntries := hextends.auditEntries.ownedBy_eq fun e he => h (.auditEntry e) (hother he) }

end Extends

/-! ### What a request names -/

/-- The tenant is named, or a row that no other tenant has. -/
def Target.KeepsTo (t : String) (w : World) : Target → Prop
  | tenants tenantIds => ∀ tenantId ∈ tenantIds, tenantId = t
  | event id => ∀ r ∈ w.events.rows, r.eventId = id → r.tenantId = t
  | alert id => ∀ a ∈ w.alerts.rows, a.id = id → a.tenantId = t
  | policy id => ∀ p ∈ w.policies.rows, p.id = id → p.tenantId = t
  | baseline id => ∀ b ∈ w.baselines.rows, b.id = id → b.tenantId = t
  | webhook id => ∀ e ∈ w.webhooks.rows, e.id = id → e.tenantId = t
  | agent id => ∀ p ∈ w.agents.rows, p.id = id → p.tenantId = t
  | auditEntry tenantId _ => tenantId = t

/-- The events that a request brings. -/
def Route.events : Route → List CanonicalEvent
  | ingestion request => request.events
  | _ => []

/-- The request names the tenant or its rows, and brings no event that another tenant has. -/
structure Route.KeepsTo (t : String) (w : World) (route : Route) : Prop where
  target : route.target.KeepsTo t w
  events : ∀ event ∈ route.events, (Target.event event.eventId).KeepsTo t w

instance (t : String) (w : World) : (target : Target) → Decidable (target.KeepsTo t w)
  | .tenants tenantIds => inferInstanceAs (Decidable (∀ tenantId ∈ tenantIds, tenantId = t))
  | .event id => inferInstanceAs (Decidable (∀ r ∈ w.events.rows, r.eventId = id → r.tenantId = t))
  | .alert id => inferInstanceAs (Decidable (∀ a ∈ w.alerts.rows, a.id = id → a.tenantId = t))
  | .policy id => inferInstanceAs (Decidable (∀ p ∈ w.policies.rows, p.id = id → p.tenantId = t))
  | .baseline id => inferInstanceAs (Decidable (∀ b ∈ w.baselines.rows, b.id = id → b.tenantId = t))
  | .webhook id => inferInstanceAs (Decidable (∀ e ∈ w.webhooks.rows, e.id = id → e.tenantId = t))
  | .agent id => inferInstanceAs (Decidable (∀ p ∈ w.agents.rows, p.id = id → p.tenantId = t))
  | .auditEntry tenantId _ => inferInstanceAs (Decidable (tenantId = t))

theorem Route.keepsTo_iff {t : String} {w : World} {route : Route} : route.KeepsTo t w ↔
    route.target.KeepsTo t w ∧
      ∀ event ∈ route.events, (Target.event event.eventId).KeepsTo t w :=
  ⟨fun h => ⟨h.target, h.events⟩, fun h => ⟨h.1, h.2⟩⟩

instance (t : String) (w : World) (route : Route) : Decidable (route.KeepsTo t w) :=
  decidable_of_iff' _ Route.keepsTo_iff

/-- Where there are only rows of a tenant, a row of another cannot be named. -/
theorem Target.KeepsTo.of_only {t : String} {w v : World} {target : Target}
    (h : target.KeepsTo t w) (honly : ∀ row, v.Has row → row.tenantId = t) :
    target.KeepsTo t v := by
  cases target with
  | tenants tenantIds => exact h
  | event id => exact fun r hr _ => honly (.event r) hr
  | alert id => exact fun a ha _ => honly (.alert a) ha
  | policy id => exact fun p hp _ => honly (.policy p) hp
  | baseline id => exact fun b hb _ => honly (.baseline b) hb
  | webhook id => exact fun e he _ => honly (.webhook e) he
  | agent id => exact fun p hp _ => honly (.agent p) hp
  | auditEntry tenantId id => exact h

section Confined
variable {S : Row → Prop} {w : World} {α β : Type}

theorem confined_bind {call : Service α} {f : α → Service β}
    (h : exposure.Confined S w (call w).2)
    (hf : ∀ a w', exposure.Confined S w' (f a w').2) :
    exposure.Confined S w ((call >>= f) w).2 := by
  rw [Effect.bind_run]
  cases hrun : call w with
  | mk r w' =>
    rw [hrun] at h
    cases r with
    | ok a => exact h.trans (hf a w')
    | error e => exact h

theorem confined_map {call : Service α} {f : α → β} (h : exposure.Confined S w (call w).2) :
    exposure.Confined S w ((do return f (← call)) w).2 :=
  confined_bind h fun _ w' => Confined.refl w'

theorem confined_orNotFound {call : Service α} (detail : String)
    (h : exposure.Confined S w (call w).2) :
    exposure.Confined S w (orNotFound detail call w).2 := by
  unfold orNotFound Effect.recover
  cases hrun : call w with
  | mk r w' =>
    rw [hrun] at h
    cases r with
    | ok a => exact h
    | error e => exact h

/-- A lookup changes nothing, and what follows it knows the row. -/
theorem confined_lookup {find : World → Option α} {call : Service α}
    (hfinds : Effect.Finds find call) {f : α → Service β}
    (hf : ∀ a, find w = some a → exposure.Confined S w (f a w).2) :
    exposure.Confined S w ((call >>= f) w).2 := by
  cases hfind : find w with
  | some a =>
    rw [Effect.bind_ok (hfinds.found hfind)]
    exact hf a hfind
  | none =>
    obtain ⟨e, hrun⟩ := hfinds.missing hfind
    rw [Effect.bind_error hrun]
    exact Confined.refl w

end Confined

section KeepsTo
variable {t : String} {w : World}

theorem confined_save {profileId : Uuid} (h : (Target.agent profileId).KeepsTo t w)
    {profile : AgentProfile} (hfind : w.agents.find? profileId = some profile)
    (change : AgentRegistryService.Columns → AgentRegistryService.Columns) :
    exposure.Confined (fun row => row.tenantId = t) w
      (AgentRegistryService.save change profile w).2 := by
  have hid : profile.id = profileId := Table.key_of_find? hfind
  have hids : ∀ p ∈ w.agents.rows, p.id = profile.id → p.tenantId = t :=
    fun p hp hsame => h p hp (hsame.trans hid)
  refine RegistryRequest.confined_agents fun p hp => Numbered.mem_update_of_owner ?_ hids hp
  exact fun q => congrArg Prod.fst (AgentRegistryService.keys_written w.clock change q).2

/-- A request that keeps to a tenant changes rows of the tenant only. -/
theorem Route.confined_of_keepsTo (gateway : Gateway) (scans : Scans) (outage : Outage)
    {route : Route} (h : route.target.KeepsTo t w) :
    exposure.Confined (fun row => row.tenantId = t) w
      (route.handle gateway scans outage w).2 := by
  by_cases hplaces : route.places = []
  · have hwrites := route.handle_writes gateway scans outage w
    rw [hplaces] at hwrites
    exact hwrites.relation Confined.refl Confined.trans fun p hp => absurd hp List.not_mem_nil
  have htenants : ∀ tenantIds, route.target = .tenants tenantIds →
      exposure.Confined (fun row => row.tenantId = t) w
        (route.handle gateway scans outage w).2 := by
    intro tenantIds htarget
    have hanswers := route.answers gateway scans outage w
    rw [htarget] at h hanswers
    exact hanswers.1.mono fun row hnamed => h row.tenantId hnamed
  -- the others write the row that they look up
  cases route with
  | audit request =>
    cases request with
    | recordEntry create => exact htenants _ rfl
    | listEntries filter query => exact htenants _ rfl
    | getEntry tenantId entryId => exact absurd rfl hplaces
  | compliance request => exact htenants _ rfl
  | drift request =>
    cases request with
    | computeBaseline create => exact htenants _ rfl
    | listBaselines tenantId agentId activeOnly => exact htenants _ rfl
    | getBaseline baselineId => exact absurd rfl hplaces
    | deactivateBaseline baselineId =>
      refine confined_map (confined_orNotFound _ (confined_lookup
        (DriftDetectionService.getBaseline_finds baselineId) fun baseline _ => ?_))
      refine DriftRequest.confined_baselines fun b hb => Numbered.mem_update_of_owner ?_ h hb
      exact fun _ => rfl
    | analyzeDrift request => exact htenants _ rfl
  | ingestion request => exact htenants _ rfl
  | notify request =>
    cases request with
    | registerWebhook create => exact htenants _ rfl
    | listWebhooks tenantId activeOnly => exact htenants _ rfl
    | getWebhook webhookId => exact absurd rfl hplaces
    | deactivateWebhook webhookId =>
      refine confined_map (confined_orNotFound _ (confined_lookup
        (NotificationService.getWebhook_finds webhookId) fun webhook _ => ?_))
      refine NotifyRequest.confined_webhooks fun e he => Numbered.mem_update_of_owner ?_ h he
      exact fun _ => rfl
    | dispatch request => exact htenants _ rfl
  | policy request =>
    cases request with
    | getPolicy policyId => exact absurd rfl hplaces
    | updatePolicy policyId update =>
      refine confined_map (confined_orNotFound _ (confined_lookup
        (PolicyEvaluatorService.getPolicy_finds policyId) fun policy _ => ?_))
      refine SentinelRequest.confined_policies fun p hp => Numbered.mem_update_of_owner ?_ h hp
      exact fun _ => rfl
    | evaluatePolicies request => exact htenants _ rfl
  | query request => exact absurd rfl hplaces
  | quota request => cases request <;> exact htenants _ rfl
  | registry request =>
    cases request with
    | registerAgent create => exact htenants _ rfl
    | listAgents tenantId activeOnly query => exact htenants _ rfl
    | getAgent profileId => exact absurd rfl hplaces
    | updateAgent profileId update =>
      have hupdated := confined_orNotFound "Agent not found" (confined_lookup
        (AgentRegistryService.get_finds profileId) fun profile hfind => confined_save h hfind
          (AgentRegistryService.patched update))
      dsimp only [handle, RegistryRequest.handle]
      rw [Effect.bind_ok (Effect.gets_run _ w)]
      refine confined_bind hupdated fun profile w' => ?_
      split
      · exact Confined.refl w'
      · exact Confined.refl w'
    | deactivateAgent profileId =>
      exact confined_map (confined_orNotFound _ (confined_lookup
        (AgentRegistryService.get_finds profileId) fun profile hfind => confined_save h hfind _))
    | heartbeat tenantId agentId => exact htenants _ rfl
  | sentinel request =>
    cases request with
    | createAlert create => exact htenants _ rfl
    | listAlerts filter query => exact htenants _ rfl
    | getAlert alertId => exact absurd rfl hplaces
    | resolveAlert alertId action =>
      refine confined_map (confined_orNotFound _ (confined_lookup
        (SentinelService.getAlert_finds alertId) fun alert _ => ?_))
      refine SentinelRequest.confined_alerts fun a ha => Numbered.mem_update_of_owner ?_ h ha
      exact fun _ => rfl
    | createPolicy create => exact htenants _ rfl
    | listPolicies tenantId activeOnly => exact htenants _ rfl
    | deactivatePolicy policyId =>
      refine confined_map (confined_orNotFound _ ?_)
      unfold SentinelService.deactivatePolicy
      split
      · exact Confined.refl w
      · refine SentinelRequest.confined_policies fun p hp => Numbered.mem_update_of_owner ?_ h hp
        exact fun _ => rfl

theorem Gateway.confined_of_keepsTo (gateway : Gateway) {request : Request}
    (h : request.route.target.KeepsTo t w) :
    exposure.Confined (fun row => row.tenantId = t) w (gateway.handle request w).2 := by
  cases hauthorised : gateway.authorise request w.clock with
  | error e =>
    rw [handle_of_refused hauthorised]
    exact Confined.refl w
  | ok payload =>
    rw [handle_of_authorised hauthorised]
    unfold withSession
    split
    · exact Route.confined_of_keepsTo gateway request.scans request.outage h
    · exact Confined.refl w

end KeepsTo

end Dox
