import DoxGovernance.Gateway.App

/-!
# What a request reaches

A handled request changes and returns only rows that the request itself names. The tenant of
the token restricts nothing: two tokens that are both let through are answered alike, and a
viewer of one tenant resolves the alert of another.
-/

set_option autoImplicit false

namespace Dox

namespace Gateway
open Exposure
variable {gateway : Gateway} {request : Request} {w : World}

theorem handle_of_refused {e : Exc} (h : gateway.authorise request w.clock = .error e) :
    gateway.handle request w = (.error e, w) := by
  rw [handle, Effect.bind_ok (now_run w), h]
  rfl

theorem handle_of_authorised {payload : TokenPayload}
    (h : gateway.authorise request w.clock = .ok payload) :
    gateway.handle request w =
      gateway.withSession (request.route.handle gateway request.scans request.outage) w := by
  rw [handle, Effect.bind_ok (now_run w), h]

variable (gateway request) in
theorem handle_answers : Answers request.route.target (gateway.handle request) := by
  intro w
  cases h : gateway.authorise request w.clock with
  | error e =>
    rw [handle_of_refused h]
    exact ⟨Confined.refl w, fun _ h => nomatch h⟩
  | ok payload =>
    rw [handle_of_authorised h]
    unfold withSession
    split
    · exact request.route.answers gateway request.scans request.outage w
    · exact ⟨Confined.refl w, fun _ h => nomatch h⟩

/-- The response and the store depend on the token only by whether it is let through. -/
theorem handle_congr {token : Option String} {payload payload' : TokenPayload}
    (h : gateway.authorise request w.clock = .ok payload)
    (h' : gateway.authorise {request with token} w.clock = .ok payload') :
    gateway.handle {request with token} w = gateway.handle request w := by
  rw [handle_of_authorised h, handle_of_authorised h']

/-- Every row of the request has the tenant: those that it changes, and those it returns. -/
def Isolates (gateway : Gateway) (request : Request) (tenantId : String) (w : World) : Prop :=
  exposure.Confined (fun row => row.tenantId = tenantId) w (gateway.handle request w).2 ∧
    ∀ body, (gateway.handle request w).1 = .ok body → ∀ item ∈ body.items,
      exposure.Shown (fun row => row.tenantId = tenantId) (gateway.handle request w).2 item

/-- Whoever sends it, a request touches and returns only rows that it names, and any two
tokens that are let through get the same answer and leave the same store. -/
theorem reaches_named (gateway : Gateway) (request : Request) :
    Answers request.route.target (gateway.handle request) ∧
      ∀ w token payload payload', gateway.authorise request w.clock = .ok payload →
        gateway.authorise {request with token} w.clock = .ok payload' →
        gateway.handle {request with token} w = gateway.handle request w :=
  ⟨gateway.handle_answers request, fun _ _ _ _ h h' => handle_congr h h'⟩

/-- A token library that knows one token of each of two tenants. -/
def sampleJwt : JwtDecode := fun token =>
  if token = "viewer@globex" then .ok ⟨"u1", "globex", "viewer", 4102444800⟩
  else if token = "viewer@acme" then .ok ⟨"u2", "acme", "viewer", 4102444800⟩
  else .error "Signature verification failed."

def sampleGateway : Gateway where
  jwt := fun _ => sampleJwt
  sha256 := sampleSha256
  hmacSha256 := fun _ => sampleSha256
  database := true
  registry := true

def sampleRequest : Request where
  token := some "viewer@globex"
  route := .sentinel (.resolveAlert 0 .allow)

def sampleAlertWorld : World := {sampleWorld with alerts := sampleAlerts}

theorem reaches_named_sample :
    sampleGateway.handle {sampleRequest with token := some "viewer@acme"} sampleAlertWorld =
      sampleGateway.handle sampleRequest sampleAlertWorld :=
  (reaches_named sampleGateway sampleRequest).2 sampleAlertWorld (some "viewer@acme")
    ⟨"u1", "globex", "viewer", 4102444800⟩ ⟨"u2", "acme", "viewer", 4102444800⟩ rfl rfl

/-- A viewer of one tenant resolves the alert of another. -/
theorem not_isolates : ¬∀ (gateway : Gateway) (request : Request) (w : World)
    (payload : TokenPayload), gateway.authorise request w.clock = .ok payload →
      payload.role ≠ "admin" → gateway.Isolates request payload.tenantId w := by
  intro h
  obtain ⟨hconfined, _⟩ := h sampleGateway sampleRequest sampleAlertWorld
    ⟨"u1", "globex", "viewer", 4102444800⟩ rfl (by decide)
  have hother : sampleAlert.tenantId ≠ "globex" := by decide
  have hkept := (hconfined (.alert sampleAlert) hother).mp List.mem_cons_self
  have hrows : (sampleGateway.handle sampleRequest sampleAlertWorld).2.alerts.rows.map
      SentinelAlert.isResolved = [true] := rfl
  have hresolved := List.mem_map_of_mem (f := SentinelAlert.isResolved) hkept
  rw [hrows] at hresolved
  cases List.mem_singleton.mp hresolved

end Gateway
end Dox
