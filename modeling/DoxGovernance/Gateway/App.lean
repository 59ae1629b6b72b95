import DoxGovernance.Audit.Router
import DoxGovernance.Auth.Dependencies
import DoxGovernance.Compliance.Router
import DoxGovernance.Drift.Router
import DoxGovernance.Ingestion.Router
import DoxGovernance.Notify.Router
import DoxGovernance.Policy.Router
import DoxGovernance.Query.Router
import DoxGovernance.Registry.Router

/-!
# The gateway

The secured routers with the roles that each is open to. A request is authenticated, its
role is checked, a session is opened, and the route handles it; the tenant of the token
takes part in none of these steps.
-/

set_option autoImplicit false

namespace Dox

/-- A request to one of the ten secured routers whose rows carry a tenant. The routers of the
tenants and of their users, and the public one that gives out tokens, are not among them. -/
inductive Route where
  | audit (request : AuditRequest)
  | compliance (request : ComplianceRequest)
  | drift (request : DriftRequest)
  | ingestion (request : IngestionRequest)
  | notify (request : NotifyRequest)
  | policy (request : PolicyRequest)
  | query (request : QueryRequest)
  | quota (request : QuotaRequest)
  | registry (request : RegistryRequest)
  | sentinel (request : SentinelRequest)

/-- What the database does in one request: the orders in which it reads the rows, and whether the
pool has to open a connection for it. -/
structure Scans where
  events : Scan EventRecord := .stored
  alerts : Scan SentinelAlert := .stored
  policies : Scan Policy := .stored
  baselines : Scan AgentBaseline := .stored
  webhooks : Scan WebhookEndpoint := .stored
  agents : Scan AgentProfile := .stored
  auditEntries : Scan AuditEntry := .stored
  coldPool : Bool := false

/-- What the gateway is started with: the libraries, and whether the database and the
adapters have been set up. -/
structure Gateway where
  jwt : Datetime → JwtDecode
  sha256 : ByteArray → String
  hmacSha256 : ByteArray → ByteArray → String
  database : Bool
  registry : Bool

structure Request where
  token : Option String
  route : Route
  scans : Scans := {}
  outage : Outage := {}

namespace Route

/-- `_SECURED_ROUTERS`. -/
def roles : Route → List UserRole
  | audit _ | compliance _ | drift _ | query _ | quota _ | sentinel _ => [.viewer, .operator, .admin]
  | ingestion _ => [.agent, .operator, .admin]
  | notify _ | policy _ => [.operator, .admin]
  | registry _ => [.agent, .viewer, .operator, .admin]

def target : Route → Target
  | audit request => request.target
  | compliance request => request.target
  | drift request => request.target
  | ingestion request => request.target
  | notify request => request.target
  | policy request => request.target
  | query request => request.target
  | quota request => request.target
  | registry request => request.target
  | sentinel request => request.target

variable (gateway : Gateway) (scans : Scans) (outage : Outage)

def handle : Route → Service Body
  | audit request => request.handle scans.auditEntries scans.coldPool
  | compliance request => request.handle scans.events scans.alerts scans.policies
  | drift request => request.handle {sentinel := false} scans.events scans.baselines
  | ingestion request =>
    if gateway.registry then
      request.handle {sentinel := true, quota := true} gateway.sha256 outage
    else Effect.raise (.outage "'State' object has no attribute 'registry'")
  | notify request => request.handle {http := none} gateway.hmacSha256 scans.webhooks
  | policy request => request.handle scans.policies
  | query request => request.handle gateway.sha256 scans.events
  | quota request => request.handle
  | registry request => request.handle scans.agents
  | sentinel request => request.handle scans.alerts scans.policies

theorem answers (route : Route) : Answers route.target (route.handle gateway scans outage) := by
  cases route with
  | audit request => exact request.answers scans.auditEntries scans.coldPool
  | compliance request => exact request.answers scans.events scans.alerts scans.policies
  | drift request => exact request.answers {sentinel := false} scans.events scans.baselines
  | ingestion request =>
    dsimp only [handle]
    split
    · exact request.answers {sentinel := true, quota := true} gateway.sha256 outage
    · exact Exposure.Concerns.raise _
  | notify request => exact request.answers {http := none} gateway.hmacSha256 scans.webhooks
  | policy request => exact request.answers scans.policies
  | query request => exact request.answers scans.events gateway.sha256
  | quota request => exact request.answers
  | registry request => exact request.answers scans.agents
  | sentinel request => exact request.answers scans.alerts scans.policies

end Route

namespace Gateway
variable (gateway : Gateway) (request : Request)

/-- `require_role(*roles)`, after `get_current_user`. -/
def authorise (time : Datetime) : Except Exc TokenPayload :=
  match getCurrentUser (gateway.jwt time) request.token with
  | .error e => .error e
  | .ok payload => requireRole request.route.roles payload

/-- `get_session`. -/
def withSession (route : Service Body) : Service Body :=
  if gateway.database then route
  else Effect.raise (.outage "Database not initialised — call init_db() first")

def handle : Service Body := do
  match gateway.authorise request (← now) with
  | .error e => Effect.raise e
  | .ok _ => gateway.withSession (request.route.handle gateway request.scans request.outage)

end Gateway
end Dox
