import DoxGovernance.Gateway.Responses

/-!
# The notification routes

Webhooks are registered and listed for the tenant that the request names, and a dispatch
goes to that tenant's webhooks; a single webhook is named by its identifier alone.
-/

set_option autoImplicit false

namespace Dox

inductive NotifyRequest where
  | registerWebhook (create : WebhookCreate)
  | listWebhooks (tenantId : String) (activeOnly : Bool)
  | getWebhook (webhookId : Uuid)
  | deactivateWebhook (webhookId : Uuid)
  | dispatch (request : DispatchRequest)

namespace NotifyRequest
open Exposure

def target : NotifyRequest → Target
  | registerWebhook create => .tenants [create.tenantId]
  | listWebhooks tenantId _ => .tenants [tenantId]
  | getWebhook webhookId | deactivateWebhook webhookId => .webhook webhookId
  | dispatch request => .tenants [request.tenantId]

def handle (service : NotificationService) (hmacSha256 : ByteArray → ByteArray → String)
    (scan : Scan WebhookEndpoint) : NotifyRequest → Service Body
  | registerWebhook create => do
    return .webhook (.ofWebhook (← NotificationService.registerWebhook create))
  | listWebhooks tenantId activeOnly => do
    let webhooks ← NotificationService.listWebhooks scan tenantId activeOnly
    return .webhooks ⟨webhooks.map .ofWebhook, webhooks.length⟩
  | getWebhook webhookId => do
    return .webhook (.ofWebhook (← orNotFound "Webhook not found"
      (NotificationService.getWebhook webhookId)))
  | deactivateWebhook webhookId => do
    let _ ← orNotFound "Webhook not found" (NotificationService.deactivateWebhook webhookId)
    return .noContent
  | dispatch request => do
    return .dispatch (← service.dispatch hmacSha256 scan request)

theorem confined_webhooks {S : Row → Prop} {w : World} {webhooks : Numbered WebhookEndpoint.id}
    (h : ∀ e, ¬S (.webhook e) → (e ∈ w.webhooks.rows ↔ e ∈ webhooks.rows)) :
    exposure.Confined S w {w with webhooks} := by
  intro row hrow
  cases row with
  | webhook e => exact h e hrow
  | _ => exact Iff.rfl

section Answers

theorem registerWebhook_concerns (create : WebhookCreate) :
    exposure.Concerns (Target.tenants [create.tenantId]).Names
      (fun e => [.webhook (.ofWebhook e)]) (NotificationService.registerWebhook create) := by
  apply concerns_add .webhook World.webhooks fun w webhooks => {w with webhooks}
  · exact confined_webhooks
  · exact id
  · exact fun _ => rfl
  · exact fun _ _ => List.mem_cons_self

theorem listWebhooks_concerns (scan : Scan WebhookEndpoint) (tenantId : String)
    (activeOnly : Bool) : exposure.Concerns (Target.tenants [tenantId]).Names
      (fun es => (es.map WebhookResponse.ofWebhook).map .webhook)
      (NotificationService.listWebhooks scan tenantId activeOnly) := by
  apply Concerns.gets
  intro w
  rw [List.map_map]
  apply shown_map Row.webhook
  intro e he
  obtain ⟨hmem, hkeeps⟩ := Table.mem_select.mp ((mem_orderByDesc _).mp he)
  simp only [Bool.and_eq_true, decide_eq_true_eq] at hkeeps
  exact ⟨hmem, List.mem_singleton.mpr hkeeps.1, rfl⟩

theorem getWebhook_concerns (webhookId : Uuid) :
    exposure.Concerns (Target.webhook webhookId).Names (fun e => [.webhook (.ofWebhook e)])
      (NotificationService.getWebhook webhookId) := by
  apply Concerns.lookup (NotificationService.getWebhook_finds webhookId)
  intro w e hfind
  exact shown_one (.webhook e) (Table.mem_of_find? hfind) (Table.key_of_find? hfind) rfl

theorem deactivateWebhook_concerns (webhookId : Uuid) :
    exposure.Concerns (Target.webhook webhookId).Names (fun e => [.webhook (.ofWebhook e)])
      (NotificationService.deactivateWebhook webhookId) := by
  refine concerns_update .webhook World.webhooks (fun w webhooks => {w with webhooks}) ?_ ?_ ?_
    (NotificationService.getWebhook_finds webhookId) (fun _ => ({· with isActive := false}))
    (fun _ _ => rfl) ?_
  · exact confined_webhooks
  · exact id
  · exact fun _ => rfl
  · exact fun _ => Iff.rfl

/-! ### A dispatch -/

/-- What a delivery never changes of a webhook. -/
def identity (webhook : WebhookEndpoint) : Uuid × String × String :=
  (webhook.id, webhook.tenantId, webhook.url)

/-- From a store with these webhooks, only rows of the tenant change and the webhooks stay. -/
def Delivers (tenantId : String) (identities : List (Uuid × String × String)) (w w' : World) :
    Prop :=
  w.webhooks.rows.map identity = identities →
    exposure.Confined (Target.tenants [tenantId]).Names w w' ∧
      w'.webhooks.rows.map identity = identities

section Delivers
variable {tenantId : String} {identities : List (Uuid × String × String)}

theorem Delivers.refl (w : World) : Delivers tenantId identities w w :=
  fun h => ⟨Confined.refl w, h⟩

theorem Delivers.trans {a b c : World} (hab : Delivers tenantId identities a b)
    (hbc : Delivers tenantId identities b c) : Delivers tenantId identities a c := by
  intro h
  obtain ⟨hconfined, hb⟩ := hab h
  obtain ⟨hconfined', hc⟩ := hbc hb
  exact ⟨hconfined.trans hconfined', hc⟩

variable (service : NotificationService) (hmacSha256 : ByteArray → ByteArray → String)
  (request : DispatchRequest) {webhook : WebhookEndpoint}

/-- A row with the identifier of a webhook has its tenant, too. -/
theorem tenantId_of_identity {w : World} (hids : w.webhooks.rows.map identity = identities)
    (hwebhook : identity webhook ∈ identities) {e : WebhookEndpoint} (he : e ∈ w.webhooks.rows)
    (hid : e.id = webhook.id) : e.tenantId = webhook.tenantId := by
  rw [← hids] at hwebhook
  obtain ⟨stored, hstored, hsame⟩ := List.mem_map.mp hwebhook
  simp only [identity, Prod.mk.injEq] at hsame
  have heq : e = stored :=
    List.inj_on_of_nodup_map w.webhooks.unique he hstored (hid.trans hsame.1.symm)
  rw [heq, hsame.2.1]

theorem recordDelivery_delivers (htenant : webhook.tenantId = tenantId)
    (hwebhook : identity webhook ∈ identities) (success : Bool) :
    Effect.Keeps (Delivers tenantId identities)
      (NotificationService.recordDelivery webhook success) := by
  intro w hids
  constructor
  · apply confined_webhooks
    intro e he
    have hne : e.tenantId ≠ tenantId := fun h => he (List.mem_singleton.mpr h)
    by_cases hid : e.id = webhook.id
    · -- neither table holds it: a row with this identifier has the tenant's name
      constructor
      · intro hmem
        exact absurd ((tenantId_of_identity hids hwebhook hmem hid).trans htenant) hne
      · intro hmem
        rw [Numbered.rows_update, List.mem_map] at hmem
        obtain ⟨q, hq, rfl⟩ := hmem
        split at hid
        · rename_i hqid
          rw [if_pos hqid] at hne
          exact absurd ((tenantId_of_identity hids hwebhook hq hqid).trans htenant) hne
        · exact absurd hid (by assumption)
    · exact (Numbered.mem_update_of_ne hid).symm
  · have hsame : ((NotificationService.recordDelivery webhook success w).2.webhooks.rows).map
        identity = w.webhooks.rows.map identity := by
      simp only [NotificationService.recordDelivery, Effect.change_run, Numbered.rows_update,
        List.map_map]
      apply List.map_congr_left
      intro e _
      rw [Function.comp_apply]
      split <;> rfl
    exact hsame.trans hids

theorem deliver_delivers (htenant : webhook.tenantId = tenantId)
    (hwebhook : identity webhook ∈ identities) :
    Effect.Keeps (Delivers tenantId identities) (service.deliver hmacSha256 request webhook) := by
  apply Effect.Keeps.bind (@Delivers.trans _ _)
  · intro w hids
    exact ⟨confined_of_nextUuid, hids⟩
  intro deliveryId
  apply Effect.Keeps.bind (@Delivers.trans _ _) (Effect.Keeps.gets Delivers.refl _)
  intro now
  split
  · exact Effect.Keeps.raise Delivers.refl _
  · apply Effect.Keeps.bind (@Delivers.trans _ _) (recordDelivery_delivers htenant hwebhook _)
    intro _
    exact Effect.Keeps.pure Delivers.refl _

variable (webhook) in
theorem deliver_returns : Effect.Returns
    (fun result => result.webhookId = webhook.id ∧ result.url = webhook.url)
    (service.deliver hmacSha256 request webhook) := by
  intro w result h
  cases hreport : NotificationService.outcome
      (service.post hmacSha256 request webhook w.nextUuid w.clock) with
  | ok report =>
    rw [NotificationService.deliver_of_report request webhook w hreport] at h
    cases h
    exact ⟨rfl, rfl⟩
  | error raised =>
    rw [NotificationService.deliver_of_raised request webhook w hreport] at h
    cases h

/-- Where the webhooks keep their identities, a delivery names the webhook it went to. -/
theorem shown_delivery {w : World} (hids : w.webhooks.rows.map identity = identities)
    (hwebhook : identity webhook ∈ identities) (htenant : webhook.tenantId = tenantId)
    {result : WebhookDeliveryResult} (hid : result.webhookId = webhook.id)
    (hurl : result.url = webhook.url) :
    exposure.Shown (Target.tenants [tenantId]).Names w (.delivery result) := by
  rw [← hids] at hwebhook
  obtain ⟨after, hafter, hsame⟩ := List.mem_map.mp hwebhook
  simp only [identity, Prod.mk.injEq] at hsame
  refine ⟨.webhook after, hafter, List.mem_singleton.mpr (hsame.2.1.trans htenant), ?_⟩
  exact ⟨hid.trans hsame.1.symm, hurl.trans hsame.2.2.symm⟩

end Delivers

theorem dispatch_concerns (service : NotificationService)
    (hmacSha256 : ByteArray → ByteArray → String) (scan : Scan WebhookEndpoint)
    (request : DispatchRequest) :
    exposure.Concerns (Target.tenants [request.tenantId]).Names
      (fun result => result.deliveries.map .delivery)
      (service.dispatch hmacSha256 scan request) := by
  intro w
  rw [NotificationService.dispatch, NotificationService.listWebhooks,
    Effect.bind_ok (Effect.gets_run _ w)]
  set webhooks := (orderByDesc (·.createdAt) (w.webhooks.select scan fun webhook =>
    webhook.tenantId = request.tenantId && (!true || webhook.isActive))).filter
    (NotificationService.subscribes request.sentinelType) with hwebhooks
  have hown : ∀ webhook ∈ webhooks, webhook ∈ w.webhooks.rows ∧
      webhook.tenantId = request.tenantId := by
    intro webhook hmem
    rw [hwebhooks, List.mem_filter, mem_orderByDesc, Table.mem_select] at hmem
    simp only [Bool.and_eq_true, decide_eq_true_eq] at hmem
    exact ⟨hmem.1.1, hmem.1.2.1⟩
  have hkeeps : Effect.Keeps (Delivers request.tenantId (w.webhooks.rows.map identity))
      (Effect.mapEach (service.deliver hmacSha256 request) webhooks) := by
    apply Effect.Keeps.mapEach (@Delivers.trans _ _) Delivers.refl
    intro webhook hmem
    exact deliver_delivers service hmacSha256 request (hown webhook hmem).2
      (List.mem_map_of_mem (hown webhook hmem).1)
  obtain ⟨hconfined, hids⟩ := hkeeps w rfl
  rw [Effect.bind_run]
  cases hrun : Effect.mapEach (service.deliver hmacSha256 request) webhooks w with
  | mk r w' =>
    rw [hrun] at hconfined hids
    cases r with
    | error e => exact ⟨hconfined, fun _ h => nomatch h⟩
    | ok deliveries =>
      refine ⟨hconfined, fun result hresult => ?_⟩
      cases hresult
      intro item hitem
      obtain ⟨result, hresult, rfl⟩ := List.mem_map.mp hitem
      have hreturns := Effect.Returns.mapEach fun webhook (_ : webhook ∈ webhooks) =>
        deliver_returns service hmacSha256 request webhook
      obtain ⟨webhook, hwebhook, hid, hurl⟩ := hreturns w deliveries (by rw [hrun]) result hresult
      obtain ⟨stored, htenant⟩ := hown webhook hwebhook
      exact shown_delivery hids (List.mem_map_of_mem stored) htenant hid hurl

end Answers

theorem answers (service : NotificationService) (hmacSha256 : ByteArray → ByteArray → String)
    (scan : Scan WebhookEndpoint) (request : NotifyRequest) :
    Answers request.target (request.handle service hmacSha256 scan) := by
  cases request with
  | registerWebhook create => exact Concerns.map (registerWebhook_concerns create)
  | listWebhooks tenantId activeOnly =>
    exact Concerns.map (listWebhooks_concerns scan tenantId activeOnly)
  | getWebhook webhookId => exact Concerns.map (Concerns.rethrow (getWebhook_concerns webhookId))
  | deactivateWebhook webhookId =>
    exact Concerns.map (Concerns.rethrow (Concerns.silent
      (deactivateWebhook_concerns webhookId).keeps))
  | dispatch request => exact Concerns.map (dispatch_concerns service hmacSha256 scan request)

end NotifyRequest
end Dox
