import DoxGovernance.Gateway.Isolation
import DoxGovernance.Gateway.Revocation
import DoxGovernance.Lib.Run
import DoxGovernance.System.Calls

/-!
# What each role can change

The routers that are open to a role, taken together, decide what its tokens can write to the
tables of the tenants' rows, to the bus and to the metrics. However many requests are sent to the
ten routers of these rows with tokens of one role, they write nothing outside its powers, and to
every place within them some request writes: a viewer writes to six of the ten places.
-/

set_option autoImplicit false

namespace Dox

def Place.all : List Place :=
  [.events, .quotas, .alerts, .policies, .baselines, .webhooks, .agents, .auditEntries, .bus,
    .metrics]

def UserRole.powers : UserRole → List Place
  | .agent => [.events, .quotas, .alerts, .agents, .bus, .metrics]
  | .viewer => [.quotas, .alerts, .policies, .baselines, .agents, .auditEntries]
  | .operator | .admin => Place.all

/-- Two worlds hold the same at a place. -/
def World.Same (w w' : World) : Place → Prop
  | .events => w'.events = w.events
  | .quotas => w'.quotas = w.quotas
  | .alerts => w'.alerts = w.alerts
  | .policies => w'.policies = w.policies
  | .baselines => w'.baselines = w.baselines
  | .webhooks => w'.webhooks = w.webhooks
  | .agents => w'.agents = w.agents
  | .auditEntries => w'.auditEntries = w.auditEntries
  | .bus => w'.bus = w.bus
  | .metrics => w'.metrics = w.metrics

namespace World
variable {w w' w'' : World}

theorem Same.refl (w : World) (p : Place) : w.Same w p := by
  cases p <;> rfl

theorem Same.trans {p : Place} (h : w.Same w' p) (h' : w'.Same w'' p) : w.Same w'' p := by
  cases p <;> exact Eq.trans h' h

theorem same_at (w : World) (time : Datetime) (p : Place) : w.Same (w.at time) p := by
  cases p <;> rfl

end World

section Writes
variable {sha256 : ByteArray → String} {w w' : World} {p q : Place}

/-- A write to one place leaves the others alone. -/
theorem Write.same (h : Write sha256 q w w') (hne : q ≠ p) : w.Same w' p := by
  cases h with
  | writeQuota _ hwrote =>
    obtain ⟨quotas, rfl, _⟩ := hwrote
    cases p with
    | quotas => exact absurd rfl hne
    | _ => rfl
  | _ => cases p <;> first | rfl | exact absurd rfl hne

theorem Writes.same {places : List Place} (h : Writes sha256 places w w') (hp : p ∉ places) :
    w.Same w' p := by
  refine h.relation (R := fun w w' => w.Same w' p) (fun w => .refl w p) .trans ?_
  intro q hq _ _ hwrite
  exact hwrite.same fun heq => hp (heq ▸ hq)

end Writes

namespace Route

/-- The places that the routes of the router of a route write to. -/
def routerPlaces : Route → List Place
  | audit _ => [.auditEntries]
  | compliance _ | quota _ => [.quotas]
  | drift _ => [.baselines]
  | ingestion _ => ingestionPlaces
  | notify _ => [.webhooks]
  | policy _ => [.policies]
  | registry _ => [.agents]
  | sentinel _ => [.alerts, .policies]
  | query _ => []

theorem places_subset (route : Route) : ∀ p ∈ route.places, p ∈ route.routerPlaces := by
  cases route with
  | audit request => cases request <;> simp [places, AuditRequest.places, routerPlaces]
  | drift request => cases request <;> simp [places, DriftRequest.places, routerPlaces]
  | notify request => cases request <;> simp [places, NotifyRequest.places, routerPlaces]
  | policy request => cases request <;> simp [places, PolicyRequest.places, routerPlaces]
  | registry request => cases request <;> simp [places, RegistryRequest.places, routerPlaces]
  | sentinel request => cases request <;> simp [places, SentinelRequest.places, routerPlaces]
  | _ => exact fun p hp => hp

/-- What a router writes is within the powers of every role that it is open to. -/
theorem routerPlaces_subset (route : Route) {role : UserRole} (h : role ∈ route.router.roles) :
    ∀ p ∈ route.routerPlaces, p ∈ role.powers := by
  revert h
  cases route <;> cases role <;> (dsimp only [router, routerPlaces]; decide)

end Route

/-- A request is let through with the claims of its token, when its role is listed. -/
theorem Gateway.claims_of_authorised {gateway : Gateway} {request : Request} {time : Datetime}
    {payload : TokenPayload} (h : gateway.authorise request time = .ok payload) :
    getCurrentUser (gateway.jwt time) request.token = .ok payload ∧
      payload.role ∈ request.route.router.roles.map UserRole.value := by
  rw [authorise_eq, SecuredRouter.authorise] at h
  split at h
  · cases h
  · rename_i found hfound
    unfold requireRole at h
    split at h
    · cases h
      exact ⟨hfound, by assumption⟩
    · cases h

structure RequestCall where
  time : Datetime
  request : Request

namespace RequestCall
variable (gateway : Gateway)

def step (w : World) (call : RequestCall) : World :=
  (gateway.handle call.request (w.at call.time)).2

/-- When the request is let through, it is with a token of the role. -/
def IsOf (role : UserRole) (call : RequestCall) : Prop :=
  ∀ payload, gateway.authorise call.request call.time = .ok payload → payload.role = role.value

variable {gateway}

theorem role_mem {role : UserRole} {call : RequestCall} (h : call.IsOf gateway role)
    {payload : TokenPayload} (hauth : gateway.authorise call.request call.time = .ok payload) :
    role ∈ call.request.route.router.roles := by
  have hmem := (Gateway.claims_of_authorised hauth).2
  rw [h payload hauth] at hmem
  exact (List.mem_map_of_injective UserRole.value_injective).mp hmem

/-- The step lemma: a request of a role keeps every place outside the powers of the role. -/
theorem step_same {role : UserRole} {call : RequestCall} (h : call.IsOf gateway role) {p : Place}
    (hp : p ∉ role.powers) (w : World) : w.Same (call.step gateway w) p := by
  refine (World.same_at w call.time p).trans ?_
  cases hauth : gateway.authorise call.request call.time with
  | error e =>
    rw [step, Gateway.handle_of_refused hauth]
    exact .refl _ p
  | ok payload =>
    refine (gateway.handle_writes call.request (w.at call.time)).same fun hmem => hp ?_
    exact call.request.route.routerPlaces_subset (role_mem h hauth) p
      (call.request.route.places_subset p hmem)

end RequestCall

/-! ### Requests that write -/

/-- A token library whose tokens are the names of the roles. -/
def roleJwt : JwtDecode := fun token =>
  if token ∈ ["admin", "operator", "viewer", "agent"] then .ok ⟨"u1", "acme", token, 4102444800⟩
  else .error "Signature verification failed."

def roleGateway : Gateway := {Gateway.sampleGateway with jwt := fun _ => roleJwt}

def blockedCall : Route := .ingestion (.ingestEvent (sampleEvent 1 .toolCallBlocked))

/-- A request of the role that writes to the place, where there is one. -/
def UserRole.writer (role : UserRole) : Place → Route
  | .events | .bus | .metrics => blockedCall
  | .quotas => if role = .agent then blockedCall else .quota (.getQuotaStatus "acme")
  | .alerts =>
    if role = .viewer then .sentinel (.createAlert {
      tenantId := "acme", agentId := "a1", sentinelType := .drift, severity := .low, message := "m" })
    else blockedCall
  | .policies => .samplePolicy
  | .baselines => .sampleBaseline
  | .webhooks => .sampleWebhook
  | .agents => .sampleAgent
  | .auditEntries => .audit (.recordEntry {
      tenantId := "acme", action := "a", resourceType := "t", resourceId := "r", summary := "s" })

def World.rowCount (w : World) : Place → Nat
  | .events => w.events.rows.length
  | .quotas => w.quotas.rows.length
  | .alerts => w.alerts.rows.length
  | .policies => w.policies.rows.length
  | .baselines => w.baselines.rows.length
  | .webhooks => w.webhooks.rows.length
  | .agents => w.agents.rows.length
  | .auditEntries => w.auditEntries.rows.length
  | .bus => w.bus.length
  | .metrics => w.metrics.length

theorem World.Same.rowCount {w w' : World} {p : Place} (h : w.Same w' p) :
    w'.rowCount p = w.rowCount p := by
  cases p <;> simp only [World.Same] at h <;> simp only [World.rowCount, h]

def UserRole.writeCall (role : UserRole) (p : Place) : RequestCall :=
  ⟨sampleNoon, {token := some role.value, route := role.writer p}⟩

theorem UserRole.writeCall_writes (role : UserRole) (p : Place) (h : p ∈ role.powers) :
    (((role.writeCall p).step roleGateway sampleWorld).rowCount p) = 1 := by
  revert h
  cases role <;> cases p <;> decide

theorem UserRole.writeCall_isOf (role : UserRole) (p : Place) :
    (role.writeCall p).IsOf roleGateway role := by
  intro payload hauth
  have hclaims := (Gateway.claims_of_authorised hauth).1
  have hjwt : getCurrentUser roleJwt (some role.value) =
      .ok ⟨"u1", "acme", role.value, 4102444800⟩ := by
    cases role <;> rfl
  cases hjwt.symm.trans hclaims
  rfl

/-- The powers of a role are exactly the places that requests to these routers with its tokens can
change, in any number and order, at any gateway. -/
theorem role_powers (role : UserRole) (p : Place) : p ∉ role.powers ↔
    ∀ (gateway : Gateway) (w : World) (calls : List RequestCall),
      (∀ call ∈ calls, call.IsOf gateway role) →
        w.Same (calls.foldl (RequestCall.step gateway) w) p := by
  constructor
  · intro hp gateway w calls hcalls
    have hrun : Run.Meets (RequestCall.step gateway)
        (fun _ call => call.IsOf gateway role ∧ True) w calls :=
      (Run.meets_true w calls).of_mem hcalls
    refine Run.relation (R := fun w w' => w.Same w' p) (fun w => .refl w p) .trans ?_ hrun
    exact fun w call hcall => RequestCall.step_same hcall.1 hp w
  · intro hall hp
    have hsame := hall roleGateway sampleWorld [role.writeCall p] fun call hcall => by
      rw [List.mem_singleton.mp hcall]
      exact role.writeCall_isOf p
    have hcount := hsame.rowCount
    rw [List.foldl_cons, List.foldl_nil, role.writeCall_writes p hp] at hcount
    cases p <;> cases hcount

end Dox
