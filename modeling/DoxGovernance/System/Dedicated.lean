import DoxGovernance.Lib.Purge
import DoxGovernance.System.Alike

/-!
# A deployment of one's own

In a run of requests that each keep to a tenant, no tenant can tell that the others are there: its
requests get the answers of a deployment that holds its rows alone and serves its requests alone.
Identifiers are random: each request comes with those that are drawn for it.
-/

set_option autoImplicit false

namespace Dox

/-- A request that is made for a tenant, and the first of the identifiers that are drawn for it. -/
structure Arrival where
  tenantId : String
  time : Datetime
  firstId : Uuid
  request : Request

/-- From a number on, no identifier is in use. -/
structure World.Unused (w : World) (n : Uuid) : Prop where
  alerts : ∀ a ∈ w.alerts.rows, a.id < n
  policies : ∀ p ∈ w.policies.rows, p.id < n
  baselines : ∀ b ∈ w.baselines.rows, b.id < n
  webhooks : ∀ e ∈ w.webhooks.rows, e.id < n
  agents : ∀ p ∈ w.agents.rows, p.id < n
  auditEntries : ∀ e ∈ w.auditEntries.rows, e.id < n

namespace World

theorem unused_iff {w : World} {n : Uuid} : w.Unused n ↔
    (∀ a ∈ w.alerts.rows, a.id < n) ∧ (∀ p ∈ w.policies.rows, p.id < n) ∧
      (∀ b ∈ w.baselines.rows, b.id < n) ∧ (∀ e ∈ w.webhooks.rows, e.id < n) ∧
      (∀ p ∈ w.agents.rows, p.id < n) ∧ ∀ e ∈ w.auditEntries.rows, e.id < n :=
  ⟨fun ⟨ha, hp, hb, hw, hg, he⟩ => ⟨ha, hp, hb, hw, hg, he⟩,
    fun ⟨ha, hp, hb, hw, hg, he⟩ => ⟨ha, hp, hb, hw, hg, he⟩⟩

instance (w : World) (n : Uuid) : Decidable (w.Unused n) := decidable_of_iff' _ unused_iff

/-- The identifiers of the next request are drawn from a number on. -/
def drawing (w : World) (n : Uuid) : World :=
  {w with
    nextUuid := n
    alerts := w.alerts.drawing n
    policies := w.policies.drawing n
    baselines := w.baselines.drawing n
    webhooks := w.webhooks.drawing n
    agents := w.agents.drawing n
    auditEntries := w.auditEntries.drawing n}

/-- A deployment with the rows of one tenant. -/
def only (w : World) (t : String) : World :=
  {w with
    events := w.events.only EventRecord.tenantId t
    quotas := w.quotas.only TenantQuota.tenantId t
    alerts := w.alerts.only SentinelAlert.tenantId t
    policies := w.policies.only Policy.tenantId t
    baselines := w.baselines.only AgentBaseline.tenantId t
    webhooks := w.webhooks.only WebhookEndpoint.tenantId t
    agents := w.agents.only AgentProfile.tenantId t
    auditEntries := w.auditEntries.only AuditEntry.tenantId t}

variable {w : World} {t : String} {time : Datetime} {n : Uuid}

theorem has_drawing (row : Row) : ((w.at time).drawing n).Has row ↔ w.Has row := by
  cases row <;> simp [Has, drawing, World.at]

theorem keepsTo_drawing {target : Target} :
    target.KeepsTo t ((w.at time).drawing n) ↔ target.KeepsTo t w := by
  cases target <;> simp [Target.KeepsTo, drawing, World.at]

theorem routeKeepsTo_drawing {route : Route} (h : route.KeepsTo t w) :
    route.KeepsTo t ((w.at time).drawing n) :=
  ⟨keepsTo_drawing.mpr h.target, fun event hevent => keepsTo_drawing.mpr (h.events event hevent)⟩

theorem sameRows_drawing : SameRows t ((w.at time).drawing n) w := by
  constructor <;> simp [drawing, World.at]

theorem sameRows_only : SameRows t w (w.only t) := by
  constructor <;> exact (Table.ownedBy_only _).symm

theorem only_only {row : Row} (h : (w.only t).Has row) : row.tenantId = t := by
  cases row <;> exact (Table.mem_ownedBy.mp h).2

end World

/-- The worlds of a run and of a run with the requests of the tenant alone. -/
structure Apart (t : String) (w v : World) : Prop where
  rows : SameRows t w v
  only : ∀ row, v.Has row → row.tenantId = t

section Apart
variable {t : String} {w v : World} {time : Datetime} {n : Uuid}

theorem SameRows.trans {u : World} (h : SameRows t w v) (h' : SameRows t v u) : SameRows t w u where
  events := h.events.trans h'.events
  quotas := h.quotas.trans h'.quotas
  alerts := h.alerts.trans h'.alerts
  policies := h.policies.trans h'.policies
  baselines := h.baselines.trans h'.baselines
  webhooks := h.webhooks.trans h'.webhooks
  agents := h.agents.trans h'.agents
  auditEntries := h.auditEntries.trans h'.auditEntries

theorem SameTenant.sameRows (h : SameTenant t w v) : SameRows t w v := {h with}

/-- The identifiers that are unused in the one are unused in the other. -/
theorem Apart.unused (h : Apart t w v) (hunused : w.Unused n) : v.Unused n where
  alerts := fun a ha => hunused.alerts a
    ((Table.mem_of_ownedBy h.rows.alerts (h.only (.alert a) ha)).mpr ha)
  policies := fun p hp => hunused.policies p
    ((Table.mem_of_ownedBy h.rows.policies (h.only (.policy p) hp)).mpr hp)
  baselines := fun b hb => hunused.baselines b
    ((Table.mem_of_ownedBy h.rows.baselines (h.only (.baseline b) hb)).mpr hb)
  webhooks := fun e he => hunused.webhooks e
    ((Table.mem_of_ownedBy h.rows.webhooks (h.only (.webhook e) he)).mpr he)
  agents := fun p hp => hunused.agents p
    ((Table.mem_of_ownedBy h.rows.agents (h.only (.agent p) hp)).mpr hp)
  auditEntries := fun e he => hunused.auditEntries e
    ((Table.mem_of_ownedBy h.rows.auditEntries (h.only (.auditEntry e) he)).mpr he)

/-- With the same identifiers drawn, the second is a deployment of the tenant's own. -/
theorem Apart.dedicated (h : Apart t w v) (hunused : w.Unused n) :
    Dedicated t ((w.at time).drawing n) ((v.at time).drawing n) := by
  have hunused' := h.unused hunused
  have hsame : SameRows t ((w.at time).drawing n) ((v.at time).drawing n) := by
    constructor <;> simp [World.drawing, World.at, h.rows.events, h.rows.quotas, h.rows.alerts,
      h.rows.policies, h.rows.baselines, h.rows.webhooks, h.rows.agents, h.rows.auditEntries]
  have hnext : ∀ {ρ : Type} {key : ρ → Nat} {a b : Numbered key}, (∀ r ∈ a.rows, key r < n) →
      (∀ r ∈ b.rows, key r < n) → (a.drawing n).next = (b.drawing n).next :=
    fun ha hb => (Numbered.next_drawing ha).trans (Numbered.next_drawing hb).symm
  exact {hsame with
    clock := rfl
    nextUuid := rfl
    alertIds := hnext hunused.alerts hunused'.alerts
    baselineIds := hnext hunused.baselines hunused'.baselines
    policyIds := hnext hunused.policies hunused'.policies
    webhookIds := hnext hunused.webhooks hunused'.webhooks
    agentIds := hnext hunused.agents hunused'.agents
    entryIds := hnext hunused.auditEntries hunused'.auditEntries
    only := fun row hrow => h.only row (World.has_drawing row |>.mp hrow) }

end Apart

namespace Gateway
variable (gateway : Gateway)

def serve (w : World) (arrival : Arrival) : Answer × World :=
  gateway.respond arrival.request ((w.at arrival.time).drawing arrival.firstId)

/-- A request that keeps to the tenant that it is made for, with unused identifiers. -/
def Proper (w : World) (arrival : Arrival) : Prop :=
  arrival.request.route.KeepsTo arrival.tenantId w ∧ w.Unused arrival.firstId

instance (w : World) (arrival : Arrival) : Decidable (Proper w arrival) :=
  inferInstanceAs (Decidable (_ ∧ _))

variable {t : String} {w v : World} {arrival : Arrival}

theorem respond_after (request : Request) (w : World) :
    (gateway.respond request w).2 = (gateway.handle request w).2 := by
  unfold respond
  split
  · split <;> simp only [*]
  · simp only [*]

theorem serve_confined {u : String} (h : arrival.request.route.target.KeepsTo u w) :
    exposure.Confined (fun row => row.tenantId = u) w (gateway.serve w arrival).2 := by
  have hkeeps : arrival.request.route.target.KeepsTo u
      ((w.at arrival.time).drawing arrival.firstId) := World.keepsTo_drawing.mpr h
  intro row hrow
  rw [serve, respond_after]
  exact (World.has_drawing row).symm.trans (gateway.confined_of_keepsTo hkeeps row hrow)

/-- A request of another tenant leaves the rows of the tenant as they are. -/
theorem serve_other (hproper : Proper w arrival) (hne : arrival.tenantId ≠ t) :
    SameRows t (gateway.serve w arrival).2 w := by
  have hwrites := gateway.handle_writes arrival.request
    ((w.at arrival.time).drawing arrival.firstId)
  have hextends := hwrites.relation World.Extends.refl World.Extends.trans
    fun _ _ _ _ hwrite => hwrite.extends
  have hconfined := gateway.confined_of_keepsTo (w := (w.at arrival.time).drawing arrival.firstId)
    (World.keepsTo_drawing.mpr hproper.1.target)
  rw [serve, respond_after]
  exact (sameRows_of_confined hne.symm hextends hconfined).trans World.sameRows_drawing

/-- A request of the tenant gets the same answer in both, and leaves the tenant the same rows. -/
theorem serve_own (h : Apart t w v) (hproper : Proper w arrival) (hown : arrival.tenantId = t) :
    (gateway.serve w arrival).1 = (gateway.serve v arrival).1 ∧
      Apart t (gateway.serve w arrival).2 (gateway.serve v arrival).2 := by
  subst hown
  have hdedicated : Dedicated arrival.tenantId ((w.at arrival.time).drawing arrival.firstId)
      ((v.at arrival.time).drawing arrival.firstId) := h.dedicated hproper.2
  obtain ⟨hanswer, hafter⟩ := respond_alike hdedicated gateway (World.routeKeepsTo_drawing hproper.1)
  refine ⟨hanswer, hafter.sameRows, fun row hrow => ?_⟩
  by_contra hother
  have hconfined := serve_confined gateway (hproper.1.target.of_only h.only) row hother
  exact hother (h.only row (hconfined.mpr hrow))

theorem unwinds (t : String) : Purge.Unwinds gateway.serve (fun arrival => arrival.tenantId = t)
    Proper (Apart t) where
  others w v arrival hother hproper h := by
    have hsame := serve_other gateway hproper (of_decide_eq_false hother)
    exact ⟨hsame.trans h.rows, h.only⟩
  same w v arrival hown hproper h := serve_own gateway h hproper (of_decide_eq_true hown)

/-- In a run of requests that keep to their tenants, the answers to the requests of a tenant are
those of a deployment with its rows and its requests alone, and so are the rows that it has
afterwards. -/
theorem others_unnoticed (gateway : Gateway) (tenantId : String) (w : World) (arrivals : List Arrival)
    (h : Run.Meets (Simulation.step gateway.serve) Proper w arrivals) :
    ((Simulation.answers gateway.serve w arrivals).filter fun io => io.1.tenantId = tenantId) =
        Simulation.answers gateway.serve (w.only tenantId)
          (arrivals.filter fun arrival => arrival.tenantId = tenantId) ∧
      SameRows tenantId (arrivals.foldl (Simulation.step gateway.serve) w)
        ((arrivals.filter fun arrival => arrival.tenantId = tenantId).foldl
          (Simulation.step gateway.serve) (w.only tenantId)) := by
  have hapart : Apart tenantId w (w.only tenantId) :=
    ⟨World.sameRows_only, fun row hrow => World.only_only hrow⟩
  obtain ⟨hanswers, hrows⟩ := (unwinds gateway tenantId).purge hapart h
  exact ⟨hanswers, hrows.rows⟩

/-- An alert of one tenant is raised before the alert of another is resolved and listed. -/
def sampleArrivals : List Arrival := [
  ⟨"globex", sampleNoon, 5, {
    token := some "viewer@globex"
    route := .sentinel (.createAlert {
      tenantId := "globex"
      agentId := "a2"
      sentinelType := .memory
      severity := .low
      message := "memory detected" }) }⟩,
  ⟨"acme", sampleNoon, 9, {
    token := some "viewer@acme"
    route := .sentinel (.resolveAlert 0 .allow) }⟩,
  ⟨"acme", sampleNoon, 13, {
    token := some "viewer@acme"
    route := .sentinel (.listAlerts {tenantId := "acme"} {}) }⟩]

theorem others_unnoticed_sample :
    ((Simulation.answers sampleGateway.serve sampleAlertWorld sampleArrivals).filter
        fun io => io.1.tenantId = "acme") =
      Simulation.answers sampleGateway.serve (sampleAlertWorld.only "acme")
        (sampleArrivals.filter fun arrival => arrival.tenantId = "acme") ∧
      SameRows "acme"
        (sampleArrivals.foldl (Simulation.step sampleGateway.serve) sampleAlertWorld)
        ((sampleArrivals.filter fun arrival => arrival.tenantId = "acme").foldl
          (Simulation.step sampleGateway.serve) (sampleAlertWorld.only "acme")) :=
  others_unnoticed sampleGateway "acme" sampleAlertWorld sampleArrivals (by decide)

end Gateway
end Dox
