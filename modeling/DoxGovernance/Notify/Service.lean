import DoxGovernance.Lib.JsonDumps
import DoxGovernance.Lib.Text
import DoxGovernance.World

/-!
# The notification service

A tenant's webhooks are registered, listed and deactivated. A dispatch posts a signed body
to each active webhook that subscribes to the type, one after the other, and commits after
each delivery how it went. Without an HTTP client every delivery fails.
-/

set_option autoImplicit false

namespace Dox

structure WebhookCreate where
  tenantId : String
  url : String
  secret : String
  eventTypes : List String := ["*"]
  description : String := ""
  secretLength : 16 ≤ secret.length := by decide
  urlScheme : ("http://".toList.isPrefixOf url.toList || "https://".toList.isPrefixOf url.toList) =
    true := by decide

structure DispatchRequest where
  tenantId : String
  sentinelType : String
  payload : Payload

structure WebhookDeliveryResult where
  webhookId : Uuid
  url : String
  success : Bool
  statusCode : Option Int
  error : Option String
  deliveredAt : Datetime

structure DispatchResult where
  deliveries : List WebhookDeliveryResult
  successful : Nat
  failed : Nat

/-- `post(url, content, headers)`: the status of the response, or the exception. -/
abbrev HttpClient := String → ByteArray → List (String × String) → Py Int

structure NotificationService where
  http : Option HttpClient

namespace NotificationService

def newWebhook (now : Datetime) (create : WebhookCreate) (id : Uuid) : WebhookEndpoint where
  id := id
  tenantId := create.tenantId
  url := create.url
  secret := create.secret
  eventTypes := create.eventTypes
  description := create.description
  isActive := true
  failureCount := 0
  lastDeliveredAt := none
  createdAt := now

def registerWebhook (create : WebhookCreate) : Service WebhookEndpoint :=
  Effect.change fun w => (newWebhook w.clock create w.webhooks.next,
    {w with webhooks := w.webhooks.add (newWebhook w.clock create) fun _ => rfl})

def getWebhook (webhookId : Uuid) : Service WebhookEndpoint := fun w =>
  match w.webhooks.find? webhookId with
  | some webhook => (.ok webhook, w)
  | none => (.error (.notFound s!"Webhook {Text.uuid webhookId} not found"), w)

theorem getWebhook_finds (webhookId : Uuid) :
    Effect.Finds (fun w => w.webhooks.find? webhookId) (getWebhook webhookId) := by
  constructor
  · intro w _ hfind
    simp only [getWebhook, hfind]
  · intro w hfind
    simp only [getWebhook, hfind]
    exact ⟨_, rfl⟩

def listWebhooks (scan : Scan WebhookEndpoint) (tenantId : String) (activeOnly : Bool) :
    Service (List WebhookEndpoint) :=
  Effect.gets fun w => orderByDesc (·.createdAt) (w.webhooks.select scan fun webhook =>
    webhook.tenantId = tenantId && (!activeOnly || webhook.isActive))

def deactivateWebhook (webhookId : Uuid) : Service WebhookEndpoint := do
  let webhook ← getWebhook webhookId
  Effect.change fun w => ({webhook with isActive := false},
    {w with webhooks := w.webhooks.update webhookId ({· with isActive := false}) fun _ => rfl})

section Deliver
variable (hmacSha256 : ByteArray → ByteArray → String)

def signPayload (body : ByteArray) (secret : String) : String :=
  "sha256=" ++ hmacSha256 secret.toUTF8 body

/-- The posted object; its text is ASCII. -/
def deliveryBody (deliveryId : Uuid) (sentinelType : String) (payload : Payload) (now : Datetime) :
    ByteArray :=
  (Str.toText (JsonDumps.dumps pyFloat (.obj [member "delivery_id" (textValue (Text.uuid deliveryId)),
    member "sentinel_type" (textValue sentinelType), member "payload" payload.json,
    member "delivered_at" (textValue (Text.isoformat now))]))).toUTF8

def deliveryHeaders (deliveryId : Uuid) (signature : String) : List (String × String) :=
  [("Content-Type", "application/json"), ("X-Dox-Signature-256", signature),
    ("X-Dox-Delivery", Text.uuid deliveryId)]

def isSuccess (status : Int) : Bool := 200 ≤ status && status < 300

/-- Whether a delivery succeeds, its status and its error; `str(exc)` may raise. -/
def outcome : Option (Py Int) → Py (Bool × Option Int × Option String)
  | none => .ok (false, none, none)
  | some (.error exc) => exc.str.map fun text => (false, none, some text)
  | some (.ok status) => .ok
    (isSuccess status, some status, if isSuccess status then none else some s!"HTTP {status}")

def recordDelivery (webhook : WebhookEndpoint) (success : Bool) : Service Unit :=
  Effect.change fun w => ((), {w with webhooks := w.webhooks.update webhook.id ({· with
    lastDeliveredAt := some w.clock
    failureCount := if success then 0 else webhook.failureCount + 1}) fun _ => rfl})

variable (service : NotificationService)

/-- The answer to the post of the signed body to the webhook, where there is a client. -/
def post (request : DispatchRequest) (webhook : WebhookEndpoint) (deliveryId : Uuid)
    (now : Datetime) : Option (Py Int) :=
  let body := deliveryBody deliveryId request.sentinelType request.payload now
  let headers := deliveryHeaders deliveryId (signPayload hmacSha256 body webhook.secret)
  service.http.map fun post => post webhook.url body headers

/-- `_deliver`. -/
def deliver (request : DispatchRequest) (webhook : WebhookEndpoint) :
    Service WebhookDeliveryResult := do
  let deliveryId ← uuid4
  let now ← now
  match outcome (service.post hmacSha256 request webhook deliveryId now) with
  | .error raised => Effect.raise (.ofPy raised)
  | .ok (success, statusCode, error) =>
    recordDelivery webhook success
    return {
      webhookId := webhook.id
      url := webhook.url
      success := success
      statusCode := statusCode
      error := error
      deliveredAt := now }

section Reports
variable {hmacSha256 service} (request : DispatchRequest) (webhook : WebhookEndpoint) (w : World)
  {success : Bool} {statusCode : Option Int} {error : Option String} {raised : PyException}

theorem deliver_of_report
    (h : outcome (service.post hmacSha256 request webhook w.nextUuid w.clock) =
      .ok (success, statusCode, error)) :
    service.deliver hmacSha256 request webhook w =
      (do recordDelivery webhook success
          return {
            webhookId := webhook.id
            url := webhook.url
            success := success
            statusCode := statusCode
            error := error
            deliveredAt := w.clock } : Service WebhookDeliveryResult)
        {w with nextUuid := w.nextUuid + 1} := by
  simp only [deliver, uuid4, now, Effect.bind_run, Effect.change_run, Effect.gets_run, h]

theorem deliver_of_raised
    (h : outcome (service.post hmacSha256 request webhook w.nextUuid w.clock) = .error raised) :
    service.deliver hmacSha256 request webhook w =
      (.error (.ofPy raised), {w with nextUuid := w.nextUuid + 1}) := by
  simp only [deliver, uuid4, now, Effect.bind_run, Effect.change_run, Effect.gets_run, h,
    Effect.raise_run]

end Reports

def subscribes (sentinelType : String) (webhook : WebhookEndpoint) : Bool :=
  webhook.eventTypes.contains "*" || webhook.eventTypes.contains sentinelType

def dispatch (scan : Scan WebhookEndpoint) (request : DispatchRequest) : Service DispatchResult := do
  let webhooks ← listWebhooks scan request.tenantId true
  let deliveries ← Effect.mapEach (service.deliver hmacSha256 request)
    (webhooks.filter (subscribes request.sentinelType))
  let successful := deliveries.countP (·.success)
  return {
    deliveries := deliveries
    successful := successful
    failed := deliveries.length - successful }

end Deliver

end NotificationService
end Dox
