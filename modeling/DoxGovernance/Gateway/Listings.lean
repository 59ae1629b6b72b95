import DoxGovernance.Lib.Paging
import DoxGovernance.Query.Router
import DoxGovernance.Registry.Router
import DoxGovernance.Sentinel.Router
import DoxGovernance.Tenants.Service
import DoxGovernance.Users.Service

/-!
# Reading a listing to its end

The routes that list alerts, agents, users and tenants answer with a page and with the length
of that page as the total, so a client that reads on while its offset is below the total
stops after the first page. The routes that list events and audit entries count all rows,
and the same client reads every page.
-/

set_option autoImplicit false

namespace Dox
open Paging

/-! ### The routes for users and tenants -/

structure UserResponse where
  id : Uuid
  email : String
  tenantId : String
  role : String
  isActive : Bool
  createdAt : Datetime

def UserResponse.ofUser (user : User) : UserResponse where
  id := user.id
  email := user.email
  tenantId := user.tenantId
  role := user.role.value
  isActive := user.isActive
  createdAt := user.createdAt

structure TenantResponse where
  id : Uuid
  slug : String
  name : String
  subscriptionTier : String
  isActive : Bool
  createdAt : Datetime

def TenantResponse.ofTenant (tenant : Tenant) : TenantResponse where
  id := tenant.id
  slug := tenant.slug
  name := tenant.name
  subscriptionTier := tenant.subscriptionTier.value
  isActive := tenant.isActive
  createdAt := tenant.createdAt

/-- `GET /v1/users`. -/
def listUsers (scan : Scan User) (tenantId : String) (activeOnly : Bool) (query : PageQuery 200) :
    AccountService (Listing UserResponse) := do
  let users ← UserService.listForTenant scan tenantId activeOnly query.limit query.offset
  return ⟨users.map .ofUser, users.length⟩

/-- `GET /v1/tenants`. -/
def listTenants (scan : Scan Tenant) (activeOnly : Bool) (query : PageQuery 200) :
    AccountService (Listing TenantResponse) := do
  let tenants ← TenantService.listTenants scan activeOnly query.limit query.offset
  return ⟨tenants.map .ofTenant, tenants.length⟩

/-! ### What the client reads of an answer -/

/-- The rows and the total of a listing; a failed request shows neither. -/
def shown {α : Type} : Except Exc (Listing α) → List α × Nat
  | .ok listing => (listing.entries, listing.total)
  | .error _ => ([], 0)

def Body.alerts? : Body → Listing SentinelAlert
  | .alerts listing => listing
  | _ => ⟨[], 0⟩

def Body.agents? : Body → Listing AgentProfile
  | .agents listing => listing
  | _ => ⟨[], 0⟩

def Body.events? : Body → Listing EventSummary
  | .events listing => listing.toListing
  | _ => ⟨[], 0⟩

section Answers
variable {n : Nat} (query : PageQuery n)

def PageQuery.at (offset : Nat) : PageQuery n := {query with offset}

end Answers

section Answers
variable (query : PageQuery 200) (w : World) (a : Accounts)

/-- The answers to requests that differ in the offset, each read in an order of its own. -/
def alertsAnswer (filter : SentinelService.AlertFilter) (scans : Nat → Scan SentinelAlert)
    (offset : Nat) : List SentinelAlert × Nat :=
  shown ((((SentinelRequest.listAlerts filter (query.at offset)).handle (scans offset) .stored
    w).1).map Body.alerts?)

def agentsAnswer (tenantId : String) (activeOnly : Bool) (scans : Nat → Scan AgentProfile)
    (offset : Nat) : List AgentProfile × Nat :=
  shown ((((RegistryRequest.listAgents tenantId activeOnly (query.at offset)).handle (scans offset)
    w).1).map Body.agents?)

def usersAnswer (tenantId : String) (activeOnly : Bool) (scans : Nat → Scan User)
    (offset : Nat) : List UserResponse × Nat :=
  shown (listUsers (scans offset) tenantId activeOnly (query.at offset) a).1

def tenantsAnswer (activeOnly : Bool) (scans : Nat → Scan Tenant) (offset : Nat) :
    List TenantResponse × Nat :=
  shown (listTenants (scans offset) activeOnly (query.at offset) a).1

def matchingAlerts (filter : SentinelService.AlertFilter) : List SentinelAlert :=
  w.alerts.rows.filter filter.keeps

def matchingAgents (tenantId : String) (activeOnly : Bool) : List AgentProfile :=
  w.agents.rows.filter fun profile => profile.tenantId = tenantId && (!activeOnly || profile.isActive)

def matchingUsers (tenantId : String) (activeOnly : Bool) : List UserResponse :=
  (a.users.rows.filter fun user => user.tenantId = tenantId && (!activeOnly || user.isActive)).map
    .ofUser

def matchingTenants (activeOnly : Bool) : List TenantResponse :=
  (a.tenants.rows.filter fun tenant => !activeOnly || tenant.isActive).map .ofTenant

end Answers

section Selection
variable {ρ : Type} {κ : Type} {key : ρ → κ} {t : Table key} (scan : Scan ρ) {p : ρ → Bool}
  {created : ρ → Datetime} {limit : Nat}

theorem perm_sorted : (orderByDesc created (t.select scan p)).Perm (t.rows.filter p) :=
  (perm_orderByDesc created _).trans (t.perm_select scan p)

/-- The client of a route that reports the length of the page receives all of a selection exactly
when the selection fits on one page. -/
theorem complete_selection_iff {answer : Nat → List ρ × Nat}
    (hanswer : answer 0 =
      let rows := page 0 limit (orderByDesc created (t.select scan p))
      (rows, rows.length)) :
    Complete limit answer (t.rows.filter p) ↔ (t.rows.filter p).length ≤ limit :=
  complete_of_page_total_iff (perm_sorted scan) hanswer

/-- So does the client of a route that shows each row by `f`. -/
theorem complete_shown_iff {β : Type} {f : ρ → β} {answer : Nat → List β × Nat}
    (hanswer : answer 0 =
      let rows := page 0 limit (orderByDesc created (t.select scan p))
      (rows.map f, rows.length)) :
    Complete limit answer ((t.rows.filter p).map f) ↔ ((t.rows.filter p).map f).length ≤ limit := by
  have hpage : ∀ rows : List ρ, (page 0 limit rows).map f = page 0 limit (rows.map f) := by
    intro rows
    rw [page, page, List.map_take, List.map_drop]
  have hperm : ((orderByDesc created (t.select scan p)).map f).Perm ((t.rows.filter p).map f) :=
    (perm_sorted scan).map f
  apply complete_of_page_total_iff hperm
  rw [hanswer, ← hpage, List.length_map]

end Selection

/-! ### The sibling route that counts -/

def eventsAnswer (sha256 : ByteArray → String) (request : EventListRequest) (w : World)
    (scans : Nat → Scan EventRecord) (offset : Nat) : List EventSummary × Nat :=
  shown ((((QueryRequest.listEvents {request with query := request.query.at offset}).handle sha256
    (scans offset) w).1).map Body.events?)

theorem filters_at {request : EventListRequest} {filters : EventFilter}
    (h : request.filters = .ok filters) (offset : Nat) :
    EventListRequest.filters {request with query := request.query.at offset} =
      .ok {filters with offset} := by
  unfold EventListRequest.filters at h ⊢
  dsimp only
  cases htype : enumOf "EventType" EventType.ofValue? request.eventType with
  | error e => rw [htype] at h; cases h
  | ok eventType =>
    cases henv : enumOf "Environment" Environment.ofValue? request.environment with
    | error e => rw [htype, henv] at h; cases h
    | ok environment =>
      rw [htype, henv] at h
      cases h
      rfl

/-- The listing of events counts all that match, and the same client receives every one of them. -/
theorem events_complete (sha256 : ByteArray → String) {request : EventListRequest}
    {filters : EventFilter} (h : request.filters = .ok filters) (w : World)
    (hdistinct : ((w.events.rows.filter filters.keeps).map EventRecord.timestamp).Nodup)
    (scans : Nat → Scan EventRecord) :
    Complete filters.limit (eventsAnswer sha256 request w scans)
      ((w.events.rows.filter filters.keeps).map EventSummary.ofRecord) := by
  have hanswer : eventsAnswer sha256 request w scans = fun k =>
      ((page k filters.limit (orderByDesc EventRecord.timestamp
        ((scans k).order (w.events.rows.filter filters.keeps)))).map EventSummary.ofRecord,
        (w.events.rows.filter filters.keeps).length) := by
    funext k
    rw [eventsAnswer, QueryRequest.handle, filters_at h]
    have hcount : w.events.rows.countP filters.keeps =
        (w.events.rows.filter filters.keeps).length := List.countP_eq_length_filter
    rw [← hcount]
    rfl
  rw [hanswer]
  exact (complete_of_count filters.limitBounds.1 hdistinct fun k => rfl).map EventSummary.ofRecord

/-- On each of the four routes, a client that goes by the total receives every matching row exactly
once when the rows fit on one page, and otherwise it does not. -/
theorem listings_complete_iff (query : PageQuery 200) (w : World) (a : Accounts) :
    (∀ filter scans, Complete query.limit (alertsAnswer query w filter scans)
      (matchingAlerts w filter) ↔ (matchingAlerts w filter).length ≤ query.limit) ∧
    (∀ tenantId activeOnly scans,
      Complete query.limit (agentsAnswer query w tenantId activeOnly scans)
        (matchingAgents w tenantId activeOnly) ↔
          (matchingAgents w tenantId activeOnly).length ≤ query.limit) ∧
    (∀ tenantId activeOnly scans,
      Complete query.limit (usersAnswer query a tenantId activeOnly scans)
        (matchingUsers a tenantId activeOnly) ↔
          (matchingUsers a tenantId activeOnly).length ≤ query.limit) ∧
    (∀ activeOnly scans, Complete query.limit (tenantsAnswer query a activeOnly scans)
      (matchingTenants a activeOnly) ↔ (matchingTenants a activeOnly).length ≤ query.limit) := by
  refine ⟨fun filter scans => ?_, fun tenantId activeOnly scans => ?_,
    fun tenantId activeOnly scans => ?_, fun activeOnly scans => ?_⟩
  · exact complete_selection_iff (scans 0) rfl
  · exact complete_selection_iff (scans 0) rfl
  · exact complete_shown_iff (scans 0) rfl
  · exact complete_shown_iff (scans 0) rfl

def oneAtATime : PageQuery 200 := {limit := 1}

def alertAt (id : Uuid) (createdAt : Datetime) : SentinelAlert where
  id := id
  eventId := none
  tenantId := "acme"
  agentId := "a1"
  sentinelType := .drift
  severity := .low
  message := "m"
  details := ∅
  actionTaken := none
  isResolved := false
  resolvedAt := none
  createdAt := createdAt

def twoAlerts : World := {sampleWorld with
  alerts := ((∅ : Numbered SentinelAlert.id).add (alertAt · sampleNoon) fun _ => rfl).add
    (alertAt · sampleNextNoon) fun _ => rfl}

/-- Of two alerts, a client that asks for pages of one receives one. -/
theorem second_alert_missed :
    (alertsAnswer oneAtATime twoAlerts {tenantId := "acme"} (fun _ => .stored) 0).2 = 1 ∧
    (matchingAlerts twoAlerts {tenantId := "acme"}).length = 2 ∧
    ¬Complete 1 (alertsAnswer oneAtATime twoAlerts {tenantId := "acme"} fun _ => .stored)
      (matchingAlerts twoAlerts {tenantId := "acme"}) := by
  refine ⟨by decide +kernel, by decide +kernel, fun h => ?_⟩
  have hfits := (complete_selection_iff .stored rfl).mp h
  exact absurd hfits (by decide +kernel)

end Dox
