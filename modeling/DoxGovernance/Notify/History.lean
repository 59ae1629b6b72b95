import DoxGovernance.Lib.Run
import DoxGovernance.Notify.Service

/-!
# The deliveries of a webhook

A dispatch makes one delivery to each webhook that it matches, whatever comes of the others,
unless an exception of the client has no text: that one ends it. Along a run of registrations,
deactivations and dispatches without such an exception, the failure count of a webhook is the
length of the block of failures that its deliveries end in; the count it starts with stands for
as many failures before the run.
-/

set_option autoImplicit false

namespace Dox
open NotificationService

/-- The length of the block of failures at the end of a history of successes. -/
def trailingFailures (history : List Bool) : Nat :=
  (history.reverse.takeWhile fun success => !success).length

@[simp] theorem trailingFailures_append_true (history : List Bool) :
    trailingFailures (history ++ [true]) = 0 := by
  simp [trailingFailures]

@[simp] theorem trailingFailures_append_false (history : List Bool) :
    trailingFailures (history ++ [false]) = trailingFailures history + 1 := by
  simp [trailingFailures]

theorem trailingFailures_replicate (n : Nat) : trailingFailures (List.replicate n false) = n := by
  induction n with
  | zero => rfl
  | succ n ih => rw [List.replicate_succ', trailingFailures_append_false, ih]

/-- The successes and failures of the deliveries to one webhook. -/
def ownHistory (webhookId : Uuid) (deliveries : List WebhookDeliveryResult) : List Bool :=
  (deliveries.filter fun d => d.webhookId = webhookId).map (·.success)

theorem ownHistory_append_self (deliveries : List WebhookDeliveryResult)
    (delivery : WebhookDeliveryResult) :
    ownHistory delivery.webhookId (deliveries ++ [delivery]) =
      ownHistory delivery.webhookId deliveries ++ [delivery.success] := by
  simp [ownHistory]

theorem ownHistory_append_ne {webhookId : Uuid} {delivery : WebhookDeliveryResult}
    (h : delivery.webhookId ≠ webhookId) (deliveries : List WebhookDeliveryResult) :
    ownHistory webhookId (deliveries ++ [delivery]) = ownHistory webhookId deliveries := by
  simp [ownHistory, h]

inductive NotifyOp where
  | registerWebhook (create : WebhookCreate)
  | deactivateWebhook (webhookId : Uuid)
  | dispatch (http : Option HttpClient) (scan : Scan WebhookEndpoint) (request : DispatchRequest)

structure NotifyCall where
  time : Datetime
  op : NotifyOp

/-- The tables, and all deliveries that were made in order. -/
structure NotifyLog where
  world : World
  deliveries : List WebhookDeliveryResult

section Runs
variable (hmacSha256 : ByteArray → ByteArray → String)

/-- The deliveries that a call makes. -/
def NotifyOp.exec : NotifyOp → Service (List WebhookDeliveryResult)
  | registerWebhook create => do
    let _ ← NotificationService.registerWebhook create
    return []
  | deactivateWebhook webhookId => do
    let _ ← NotificationService.deactivateWebhook webhookId
    return []
  | dispatch http scan request => do
    let result ← NotificationService.dispatch hmacSha256 ⟨http⟩ scan request
    return result.deliveries

def NotifyLog.step (c : NotifyLog) (call : NotifyCall) : NotifyLog :=
  let (outcome, w) := call.op.exec hmacSha256 (c.world.at call.time)
  ⟨w, c.deliveries ++ outcome.toOption.getD []⟩

end Runs

/-! ### What a delivery is to be -/

/-- What the client answers to the signed body of a delivery, where there is a client. -/
def NotificationService.answerTo (hmacSha256 : ByteArray → ByteArray → String)
    (http : Option HttpClient) (request : DispatchRequest) (webhook : WebhookEndpoint) (deliveryId : Uuid) (now : Datetime) :
    Option (Py Int) :=
  let body := deliveryBody deliveryId request.sentinelType request.payload now
  http.map fun post => post webhook.url body [("Content-Type", "application/json"),
    ("X-Dox-Signature-256", "sha256=" ++ hmacSha256 webhook.secret.toUTF8 body),
    ("X-Dox-Delivery", Text.uuid deliveryId)]

/-- What a delivery says of the answer to its post. -/
structure NotificationService.Reports (answer : Option (Py Int))
    (delivery : WebhookDeliveryResult) : Prop where
  success : delivery.success = true ↔ ∃ status, answer = some (.ok status) ∧ 200 ≤ status ∧
    status < 300
  statusCode : ∀ status, delivery.statusCode = some status ↔ answer = some (.ok status)
  error : ∀ text, delivery.error = some text ↔
    (∃ status, answer = some (.ok status) ∧ ¬(200 ≤ status ∧ status < 300) ∧
      text = s!"HTTP {status}") ∨
    ∃ exc, answer = some (.error exc) ∧ exc.str = .ok text

/-- An exception among the answers has a text. -/
def NotificationService.Printed (answer : Option (Py Int)) : Prop :=
  ∀ exc, answer = some (.error exc) → exc.Printable

theorem outcome_reports {answer : Option (Py Int)} {success : Bool} {statusCode : Option Int}
    {error : Option String} {delivery : WebhookDeliveryResult}
    (h : outcome answer = .ok (success, statusCode, error)) (hsuccess : delivery.success = success)
    (hstatus : delivery.statusCode = statusCode) (herror : delivery.error = error) :
    Reports answer delivery := by
  rcases answer with - | exc | status
  · cases h
    exact ⟨by simp [hsuccess], by simp [hstatus], by simp [herror]⟩
  · cases hstr : exc.str with
    | error raised =>
      rw [outcome, hstr] at h
      cases h
    | ok text =>
      rw [outcome, hstr] at h
      cases h
      exact ⟨by simp [hsuccess], by simp [hstatus], by simp [herror, hstr]⟩
  · cases h
    have hrange : isSuccess status = true ↔ 200 ≤ status ∧ status < 300 := by simp [isSuccess]
    refine ⟨?_, by simp [hstatus], fun text => ?_⟩
    · rw [hsuccess, hrange]
      simp
    · simp only [herror, Option.some.injEq, Except.ok.injEq, exists_eq_left', reduceCtorEq,
        false_and, exists_false, or_false, ← hrange]
      by_cases hok : isSuccess status = true
      · simp [hok]
      · simp [hok, eq_comm]

theorem outcome_ok_iff (answer : Option (Py Int)) :
    (∃ report, outcome answer = .ok report) ↔ Printed answer := by
  rcases answer with - | exc | status
  · exact iff_of_true ⟨_, rfl⟩ fun exc h => nomatch h
  · cases hstr : exc.str with
    | error raised =>
      have hraises : outcome (some (.error exc)) = .error raised := by
        rw [outcome, hstr]
        rfl
      rw [hraises]
      refine iff_of_false (fun ⟨_, h⟩ => nomatch h) fun h => ?_
      obtain ⟨text, htext⟩ := h exc rfl
      cases hstr.symm.trans htext
    | ok text =>
      refine iff_of_true ⟨(false, none, some text), ?_⟩ fun raised h => ?_
      · rw [outcome, hstr]
        rfl
      · cases h
        exact ⟨text, hstr⟩
  · exact iff_of_true ⟨_, rfl⟩ fun exc h => nomatch h

/-- The webhooks that a dispatch delivers to, in the order of the list. -/
def matchingWebhooks (scan : Scan WebhookEndpoint) (request : DispatchRequest) (w : World) :
    List WebhookEndpoint :=
  (orderByDesc (·.createdAt) (w.webhooks.select scan fun webhook =>
    webhook.tenantId = request.tenantId && (!true || webhook.isActive))).filter
      (subscribes request.sentinelType)

/-- Every count is that of the failures since the last success, and a webhook that is still to be
registered has no past. -/
structure Counted (initial : Uuid → Nat) (w : World) (deliveries : List WebhookDeliveryResult) :
    Prop where
  counts : ∀ webhook ∈ w.webhooks.rows, webhook.failureCount = trailingFailures
    (List.replicate (initial webhook.id) false ++ ownHistory webhook.id deliveries)
  fresh : ∀ webhookId, w.webhooks.next ≤ webhookId →
    initial webhookId = 0 ∧ ownHistory webhookId deliveries = []

section Deliver
variable (hmacSha256 : ByteArray → ByteArray → String) (service : NotificationService)
  (request : DispatchRequest)

/-- What is returned of a delivery that was posted at a time under an identifier. -/
structure NotificationService.Delivered (now : Datetime) (delivery : WebhookDeliveryResult)
    (posted : WebhookEndpoint × Uuid) : Prop where
  webhookId : delivery.webhookId = posted.1.id
  url : delivery.url = posted.1.url
  deliveredAt : delivery.deliveredAt = now
  reports : Reports (answerTo hmacSha256 service.http request posted.1 posted.2 now) delivery

/-- Whether the posts to the webhooks, numbered from an identifier on, all have a report. -/
def NotificationService.AllPrinted (now : Datetime) (next : Uuid)
    (webhooks : List WebhookEndpoint) : Prop :=
  ∀ posted ∈ webhooks.zipIdx next,
    Printed (answerTo hmacSha256 service.http request posted.1 posted.2 now)

section One
variable (webhook : WebhookEndpoint) (w : World)

theorem deliver_run
    (h : Printed (answerTo hmacSha256 service.http request webhook w.nextUuid w.clock)) :
    ∃ delivery w', service.deliver hmacSha256 request webhook w = (.ok delivery, w') ∧
      Delivered hmacSha256 service request w.clock delivery (webhook, w.nextUuid) ∧
      w'.nextUuid = w.nextUuid + 1 ∧ w'.clock = w.clock ∧
      w'.webhooks = w.webhooks.update webhook.id ({· with
        lastDeliveredAt := some w.clock
        failureCount := if delivery.success then 0 else webhook.failureCount + 1}) fun _ => rfl := by
  obtain ⟨⟨success, statusCode, error⟩, hreport⟩ := (outcome_ok_iff _).mpr h
  exact ⟨_, _, deliver_of_report request webhook w hreport,
    ⟨rfl, rfl, rfl, outcome_reports hreport rfl rfl rfl⟩, rfl, rfl, rfl⟩

theorem deliver_raises
    (h : ¬Printed (answerTo hmacSha256 service.http request webhook w.nextUuid w.clock)) :
    ∃ e w', service.deliver hmacSha256 request webhook w = (.error e, w') := by
  cases hreport : outcome (answerTo hmacSha256 service.http request webhook w.nextUuid w.clock) with
  | ok report => exact absurd ((outcome_ok_iff _).mp ⟨report, hreport⟩) h
  | error raised => exact ⟨_, _, deliver_of_raised request webhook w hreport⟩

end One

variable {initial : Uuid → Nat} {w : World} {deliveries : List WebhookDeliveryResult}
  {webhook : WebhookEndpoint}

theorem deliver_counted (h : Counted initial w deliveries) (hstored : webhook ∈ w.webhooks.rows)
    (hprinted : Printed (answerTo hmacSha256 service.http request webhook w.nextUuid w.clock)) :
    ∃ delivery w', service.deliver hmacSha256 request webhook w = (.ok delivery, w') ∧
      Delivered hmacSha256 service request w.clock delivery (webhook, w.nextUuid) ∧
      w'.nextUuid = w.nextUuid + 1 ∧ w'.clock = w.clock ∧
      Counted initial w' (deliveries ++ [delivery]) ∧
      ∀ other ∈ w.webhooks.rows, other.id ≠ webhook.id → other ∈ w'.webhooks.rows := by
  obtain ⟨delivery, w', hrun, hdelivered, hnextUuid, hclock, hwebhooks⟩ :=
    deliver_run hmacSha256 service request webhook w hprinted
  have hid : delivery.webhookId = webhook.id := hdelivered.webhookId
  refine ⟨delivery, w', hrun, hdelivered, hnextUuid, hclock,
    ⟨fun row hrow => ?_, fun webhookId hnext => ?_⟩, ?_⟩
  · rw [hwebhooks, Numbered.rows_update] at hrow
    obtain ⟨old, hold, rfl⟩ := List.mem_map.mp hrow
    have hcount := h.counts old hold
    split
    · rename_i hsame
      obtain rfl : old = webhook := List.inj_on_of_nodup_map w.webhooks.unique hold hstored hsame
      dsimp only
      rw [← hid, ownHistory_append_self, hid, ← List.append_assoc]
      cases delivery.success with
      | true => exact (trailingFailures_append_true _).symm
      | false =>
        rw [trailingFailures_append_false, ← hcount]
        rfl
    · rename_i hother
      rw [ownHistory_append_ne (by rw [hid]; exact Ne.symm hother)]
      exact hcount
  · have hbelow := w.webhooks.below webhook hstored
    have hsame : w'.webhooks.next = w.webhooks.next := by
      rw [hwebhooks]
      rfl
    rw [hsame] at hnext
    have hne : delivery.webhookId ≠ webhookId := by
      rw [hid]
      exact Nat.ne_of_lt (Nat.lt_of_lt_of_le hbelow hnext)
    rw [ownHistory_append_ne hne]
    exact h.fresh webhookId hnext
  · intro other hmem hother
    rw [hwebhooks]
    exact (Numbered.mem_update_of_ne hother).mpr hmem

/-- The loop over the webhooks makes one delivery to each. -/
theorem deliverEach_counted {webhooks : List WebhookEndpoint} (h : Counted initial w deliveries)
    (hstored : ∀ webhook ∈ webhooks, webhook ∈ w.webhooks.rows)
    (hdistinct : (webhooks.map WebhookEndpoint.id).Nodup)
    (hprinted : AllPrinted hmacSha256 service request w.clock w.nextUuid webhooks) :
    ∃ made w', Effect.mapEach (service.deliver hmacSha256 request) webhooks w = (.ok made, w') ∧
      List.Forall₂ (Delivered hmacSha256 service request w.clock) made
        (webhooks.zipIdx w.nextUuid) ∧
      Counted initial w' (deliveries ++ made) := by
  induction webhooks generalizing w deliveries with
  | nil => exact ⟨[], w, rfl, .nil, by rwa [List.append_nil]⟩
  | cons webhook webhooks ih =>
    rw [List.map_cons, List.nodup_cons] at hdistinct
    rw [AllPrinted, List.zipIdx_cons, List.forall_mem_cons] at hprinted
    obtain ⟨delivery, w', hrun, hdelivered, hnextUuid, hclock, hcounted, hothers⟩ :=
      deliver_counted hmacSha256 service request h (hstored webhook List.mem_cons_self) hprinted.1
    have hrest : ∀ other ∈ webhooks, other ∈ w'.webhooks.rows := by
      intro other hother
      apply hothers other (hstored other (List.mem_cons_of_mem _ hother))
      intro hsame
      exact hdistinct.1 (List.mem_map.mpr ⟨other, hother, hsame⟩)
    have hremaining : AllPrinted hmacSha256 service request w'.clock w'.nextUuid webhooks := by
      rw [hclock, hnextUuid]
      exact hprinted.2
    obtain ⟨made, w'', hruns, hmade, hcounted'⟩ := ih hcounted hrest hdistinct.2 hremaining
    rw [hclock, hnextUuid] at hmade
    refine ⟨delivery :: made, w'', ?_, ?_, ?_⟩
    · rw [Effect.mapEach_cons, Effect.bind_ok hrun, Effect.bind_ok hruns]
      rfl
    · rw [List.zipIdx_cons]
      exact .cons hdelivered hmade
    · rwa [List.append_assoc, List.singleton_append] at hcounted'

/-- The loop ends at the first exception without a text. -/
theorem deliverEach_raises {webhooks : List WebhookEndpoint}
    (h : ¬AllPrinted hmacSha256 service request w.clock w.nextUuid webhooks) :
    ∃ e w', Effect.mapEach (service.deliver hmacSha256 request) webhooks w = (.error e, w') := by
  induction webhooks generalizing w with
  | nil => exact absurd (fun _ hposted => absurd hposted List.not_mem_nil) h
  | cons webhook webhooks ih =>
    rw [Effect.mapEach_cons]
    by_cases hfirst : Printed (answerTo hmacSha256 service.http request webhook w.nextUuid w.clock)
    · obtain ⟨delivery, w', hrun, -, hnextUuid, hclock, -⟩ :=
        deliver_run hmacSha256 service request webhook w hfirst
      have hremaining : ¬AllPrinted hmacSha256 service request w'.clock w'.nextUuid webhooks := by
        rw [hclock, hnextUuid]
        refine fun hrest => h ?_
        rw [AllPrinted, List.zipIdx_cons, List.forall_mem_cons]
        exact ⟨hfirst, hrest⟩
      obtain ⟨e, w'', hruns⟩ := ih hremaining
      exact ⟨e, w'', (Effect.bind_ok hrun).trans (Effect.bind_error hruns)⟩
    · obtain ⟨e, w', hraise⟩ := deliver_raises hmacSha256 service request webhook w hfirst
      exact ⟨e, w', Effect.bind_error hraise⟩

end Deliver

section Dispatch
variable {scan : Scan WebhookEndpoint} {request : DispatchRequest} {w : World}
  {webhook : WebhookEndpoint}

theorem mem_matchingWebhooks : webhook ∈ matchingWebhooks scan request w ↔
    webhook ∈ w.webhooks.rows ∧ webhook.tenantId = request.tenantId ∧ webhook.isActive = true ∧
      ("*" ∈ webhook.eventTypes ∨ request.sentinelType ∈ webhook.eventTypes) := by
  rw [matchingWebhooks, List.mem_filter, mem_orderByDesc, Table.mem_select]
  simp [subscribes, and_assoc]

theorem nodup_matchingWebhooks (scan : Scan WebhookEndpoint) (request : DispatchRequest)
    (w : World) : ((matchingWebhooks scan request w).map WebhookEndpoint.id).Nodup := by
  set listed := w.webhooks.select scan fun webhook =>
    webhook.tenantId = request.tenantId && (!true || webhook.isActive)
  have hlisted : (listed.map WebhookEndpoint.id).Nodup := by
    have hperm := (w.webhooks.perm_select scan fun webhook =>
      webhook.tenantId = request.tenantId && (!true || webhook.isActive)).map WebhookEndpoint.id
    exact hperm.nodup_iff.mpr (w.webhooks.unique.sublist (List.filter_sublist.map _))
  have hordered : ((orderByDesc (·.createdAt) listed).map WebhookEndpoint.id).Nodup :=
    ((perm_orderByDesc _ listed).map _).nodup_iff.mpr hlisted
  exact hordered.sublist (List.filter_sublist.map _)

variable (hmacSha256 : ByteArray → ByteArray → String) (service : NotificationService)

/-- What a dispatch does: one delivery to each webhook that matches, in the order of the list, and
each reports the answer to its own post. -/
structure NotificationService.DeliversEach (scan : Scan WebhookEndpoint)
    (request : DispatchRequest) (w : World) (result : DispatchResult) : Prop where
  inOrder : List.Forall₂ (Delivered hmacSha256 service request w.clock) result.deliveries
    ((matchingWebhooks scan request w).zipIdx w.nextUuid)
  once : (result.deliveries.map (·.webhookId)).Nodup
  matching : ∀ webhookId, webhookId ∈ result.deliveries.map (·.webhookId) ↔
    ∃ webhook ∈ w.webhooks.rows, webhook.id = webhookId ∧ webhook.tenantId = request.tenantId ∧
      webhook.isActive = true ∧
      ("*" ∈ webhook.eventTypes ∨ request.sentinelType ∈ webhook.eventTypes)
  added : result.successful + result.failed = result.deliveries.length

/-- The answers that a dispatch gets have a status or an exception with a text. -/
def NotificationService.Dispatchable (scan : Scan WebhookEndpoint) (request : DispatchRequest)
    (w : World) : Prop :=
  AllPrinted hmacSha256 service request w.clock w.nextUuid (matchingWebhooks scan request w)

variable {hmacSha256 service} in
theorem map_webhookId {now : Datetime} {made : List WebhookDeliveryResult}
    {webhooks : List WebhookEndpoint} {next : Uuid}
    (h : List.Forall₂ (Delivered hmacSha256 service request now) made (webhooks.zipIdx next)) :
    made.map (·.webhookId) = webhooks.map WebhookEndpoint.id := by
  induction webhooks generalizing made next with
  | nil =>
    cases h
    rfl
  | cons webhook webhooks ih =>
    rw [List.zipIdx_cons] at h
    cases h with
    | cons hfirst hrest => rw [List.map_cons, List.map_cons, hfirst.webhookId, ih hrest]

theorem dispatch_eq (scan : Scan WebhookEndpoint) (request : DispatchRequest) (w : World) :
    service.dispatch hmacSha256 scan request w =
      (Effect.mapEach (service.deliver hmacSha256 request) (matchingWebhooks scan request w) >>=
        fun made => (pure {
          deliveries := made
          successful := made.countP (·.success)
          failed := made.length - made.countP (·.success) } : Service DispatchResult)) w :=
  Effect.bind_ok (Effect.gets_run _ w)

theorem dispatch_counted {initial : Uuid → Nat} {deliveries : List WebhookDeliveryResult}
    (h : Counted initial w deliveries) (hprinted : Dispatchable hmacSha256 service scan request w) :
    ∃ result w', service.dispatch hmacSha256 scan request w = (.ok result, w') ∧
      DeliversEach hmacSha256 service scan request w result ∧
      Counted initial w' (deliveries ++ result.deliveries) := by
  have hmatching : ∀ webhook ∈ matchingWebhooks scan request w, webhook ∈ w.webhooks.rows :=
    fun webhook hwebhook => (mem_matchingWebhooks.mp hwebhook).1
  have hdistinct := nodup_matchingWebhooks scan request w
  obtain ⟨made, w', hruns, hmade, hcounted⟩ :=
    deliverEach_counted hmacSha256 service request h hmatching hdistinct hprinted
  have hids := map_webhookId hmade
  refine ⟨_, w', (dispatch_eq hmacSha256 service scan request w).trans (Effect.bind_ok hruns),
    ⟨hmade, ?_, ?_, ?_⟩, hcounted⟩
  · rwa [hids]
  · intro webhookId
    simp only [hids, List.mem_map, mem_matchingWebhooks]
    constructor
    · rintro ⟨webhook, ⟨hstored, hmatch⟩, hid⟩
      exact ⟨webhook, hstored, hid, hmatch⟩
    · rintro ⟨webhook, hstored, hid, hmatch⟩
      exact ⟨webhook, ⟨hstored, hmatch⟩, hid⟩
  · exact Nat.add_sub_cancel' List.countP_le_length

/-- A client whose exceptions all have a text never ends a dispatch. -/
theorem dispatchable_of_printable {http : HttpClient}
    (h : ∀ url body headers exc, http url body headers = .error exc → exc.Printable) :
    Dispatchable hmacSha256 ⟨some http⟩ scan request w := by
  intro posted _ exc hexc
  exact h _ _ _ exc (Option.some.inj hexc)

/-- A dispatch returns only where every answer can be reported. -/
theorem dispatchable_of_returns {result : DispatchResult} {w' : World}
    (h : service.dispatch hmacSha256 scan request w = (.ok result, w')) :
    Dispatchable hmacSha256 service scan request w := by
  by_contra hnot
  obtain ⟨e, w'', hraise⟩ := deliverEach_raises hmacSha256 service request hnot
  rw [dispatch_eq, Effect.bind_error hraise] at h
  cases h

end Dispatch

/-- A dispatch of the call meets no exception without a text. -/
def NotifyCall.Printed (hmacSha256 : ByteArray → ByteArray → String) (w : World) :
    NotifyCall → Prop
  | ⟨time, .dispatch http scan request⟩ =>
    Dispatchable hmacSha256 ⟨http⟩ scan request (w.at time)
  | _ => True

section Steps
variable {initial : Uuid → Nat} {w : World} {deliveries : List WebhookDeliveryResult}

theorem registerWebhook_counted (h : Counted initial w deliveries) (create : WebhookCreate) :
    ∃ webhook w', registerWebhook create w = (.ok webhook, w') ∧ Counted initial w' deliveries := by
  refine ⟨_, _, rfl, fun row hrow => ?_, fun webhookId hnext => h.fresh webhookId ?_⟩
  · rcases List.mem_append.mp hrow with hold | hnew
    · exact h.counts row hold
    · obtain rfl := List.mem_singleton.mp hnew
      obtain ⟨hinitial, hhistory⟩ := h.fresh w.webhooks.next (Nat.le_refl _)
      dsimp only [newWebhook]
      rw [hinitial, hhistory]
      rfl
  · exact Nat.le_of_succ_le hnext

theorem deactivateWebhook_counted (h : Counted initial w deliveries) (webhookId : Uuid) :
    Counted initial (deactivateWebhook webhookId w).2 deliveries := by
  cases hfind : w.webhooks.find? webhookId with
  | none =>
    obtain ⟨e, hraise⟩ := (getWebhook_finds webhookId).missing hfind
    rw [deactivateWebhook, Effect.bind_error hraise]
    exact h
  | some webhook =>
    rw [deactivateWebhook, Effect.bind_ok ((getWebhook_finds webhookId).found hfind)]
    refine ⟨fun row hrow => ?_, h.fresh⟩
    rw [Effect.change_run, Numbered.rows_update] at hrow
    obtain ⟨old, hold, rfl⟩ := List.mem_map.mp hrow
    have hcount := h.counts old hold
    split
    · exact hcount
    · exact hcount

theorem step_counted (hmacSha256 : ByteArray → ByteArray → String) {c : NotifyLog}
    (h : Counted initial c.world c.deliveries) (call : NotifyCall)
    (hprinted : call.Printed hmacSha256 c.world) :
    Counted initial (c.step hmacSha256 call).world (c.step hmacSha256 call).deliveries := by
  have hcalled : Counted initial (c.world.at call.time) c.deliveries := ⟨h.counts, h.fresh⟩
  rcases call with ⟨time, create | webhookId | ⟨http, scan, request⟩⟩
  · obtain ⟨webhook, w', hrun, hkept⟩ := registerWebhook_counted hcalled create
    simp only [NotifyLog.step, NotifyOp.exec, Effect.bind_ok hrun]
    rwa [Effect.pure_run, Except.toOption, Option.getD_some, List.append_nil]
  · have hkept := deactivateWebhook_counted hcalled webhookId
    rcases hrun : deactivateWebhook webhookId (c.world.at time) with ⟨e | webhook, w'⟩
    all_goals
      rw [hrun] at hkept
      simpa [NotifyLog.step, NotifyOp.exec, Effect.bind_run, hrun, Except.toOption] using hkept
  · obtain ⟨result, w', hrun, -, hkept⟩ :=
      dispatch_counted hmacSha256 ⟨http⟩ hcalled hprinted
    simp only [NotifyLog.step, NotifyOp.exec, Effect.bind_ok hrun]
    exact hkept

end Steps

/-- The failures that a webhook stands at when the run starts; one that is not there yet has none. -/
def failuresBefore (w : World) (webhookId : Uuid) : Nat :=
  ((w.webhooks.find? webhookId).map WebhookEndpoint.failureCount).getD 0

theorem counted_start (w : World) : Counted (failuresBefore w) w [] := by
  constructor
  · intro webhook hstored
    rw [failuresBefore, Table.find?_of_mem hstored, ownHistory, List.filter_nil, List.map_nil,
      List.append_nil, trailingFailures_replicate]
    rfl
  · intro webhookId hnext
    have hnone : w.webhooks.find? webhookId = none := by
      rw [Table.find?_eq_none_iff]
      intro webhook hstored hid
      have hbelow := w.webhooks.below webhook hstored
      omega
    exact ⟨by rw [failuresBefore, hnone]; rfl, rfl⟩

/-- The log at the end of a run that starts from the given tables. -/
def NotifyLog.run (hmacSha256 : ByteArray → ByteArray → String) (w : World)
    (calls : List NotifyCall) : NotifyLog :=
  calls.foldl (NotifyLog.step hmacSha256) ⟨w, []⟩

/-- No dispatch of the run meets an exception without a text. -/
def NotifyLog.Printed (hmacSha256 : ByteArray → ByteArray → String) (w : World)
    (calls : List NotifyCall) : Prop :=
  Run.Meets (NotifyLog.step hmacSha256) (fun c call => call.Printed hmacSha256 c.world) ⟨w, []⟩
    calls

theorem run_counted {hmacSha256 : ByteArray → ByteArray → String} {w : World}
    {calls : List NotifyCall} (h : NotifyLog.Printed hmacSha256 w calls) :
    Counted (failuresBefore w) (NotifyLog.run hmacSha256 w calls).world
      (NotifyLog.run hmacSha256 w calls).deliveries := by
  have hkeep : ∀ (c : NotifyLog) (call : NotifyCall), call.Printed hmacSha256 c.world →
      Counted (failuresBefore w) c.world c.deliveries →
      Counted (failuresBefore w) (c.step hmacSha256 call).world
        (c.step hmacSha256 call).deliveries :=
    fun _ call hprinted hcounted => step_counted hmacSha256 hcounted call hprinted
  exact Run.invariant hkeep h (counted_start w)

/-- After any run without an exception that has no text, each failure count is that of the failures
since the last success; and the next dispatch makes one delivery to each webhook that it matches,
each with the report of its own post, exactly when it meets no such exception either. -/
theorem deliveries_counted (hmacSha256 : ByteArray → ByteArray → String) (w : World)
    (calls : List NotifyCall) (h : NotifyLog.Printed hmacSha256 w calls) :
    (∀ webhook ∈ (NotifyLog.run hmacSha256 w calls).world.webhooks.rows,
      webhook.failureCount = trailingFailures
        (List.replicate (failuresBefore w webhook.id) false ++
          ownHistory webhook.id (NotifyLog.run hmacSha256 w calls).deliveries)) ∧
    ∀ time http scan request,
      (∃ result w', NotificationService.dispatch hmacSha256 ⟨http⟩ scan request
          ((NotifyLog.run hmacSha256 w calls).world.at time) = (.ok result, w') ∧
        DeliversEach hmacSha256 ⟨http⟩ scan request
          ((NotifyLog.run hmacSha256 w calls).world.at time) result) ↔
      Dispatchable hmacSha256 ⟨http⟩ scan request
        ((NotifyLog.run hmacSha256 w calls).world.at time) := by
  have hcounted := run_counted h
  refine ⟨hcounted.counts, fun time http scan request => ⟨?_, fun hprinted => ?_⟩⟩
  · rintro ⟨result, w', hrun, -⟩
    exact dispatchable_of_returns hmacSha256 ⟨http⟩ hrun
  · have hcalled : Counted (failuresBefore w) ((NotifyLog.run hmacSha256 w calls).world.at time)
        (NotifyLog.run hmacSha256 w calls).deliveries := ⟨hcounted.counts, hcounted.fresh⟩
    obtain ⟨result, w', hrun, heach, -⟩ := dispatch_counted hmacSha256 ⟨http⟩ hcalled hprinted
    exact ⟨result, w', hrun, heach⟩

/-! ### Two webhooks of one tenant -/

def sampleMac : ByteArray → ByteArray → String := fun _ _ => "mac"

def sampleUrls : String × String := ("https://a.example.com/", "https://b.example.com/")

def sampleDispatch : DispatchRequest := ⟨"acme", "drift_detected", ∅⟩

/-- Two webhooks of the tenant and one of another. -/
def sampleRegistrations : List NotifyCall :=
  [⟨sampleNoon, .registerWebhook ⟨"acme", sampleUrls.1, "0123456789abcdef", ["*"], "",
      by decide, by decide⟩⟩,
    ⟨sampleNoon, .registerWebhook ⟨"acme", sampleUrls.2, "fedcba9876543210", ["drift_detected"],
      "", by decide, by decide⟩⟩,
    ⟨sampleNoon, .registerWebhook ⟨"globex", sampleUrls.1, "0123456789abcdef", ["*"], "",
      by decide, by decide⟩⟩]

/-- The first webhook gets the given answer, the other one a status 503. -/
def sampleHttp (first : Py Int) : HttpClient := fun url _ _ =>
  if url = sampleUrls.1 then first else .ok 503

theorem sampleHttp_printable {first : Py Int}
    (h : ∀ exc, first = .error exc → exc.Printable) (url : String) (body : ByteArray)
    (headers : List (String × String)) (exc : PyException)
    (hexc : sampleHttp first url body headers = .error exc) : exc.Printable := by
  unfold sampleHttp at hexc
  split at hexc
  · exact h exc hexc
  · cases hexc

/-- One dispatch whose first post times out, and one whose first post goes through. -/
def sampleDispatches : List NotifyCall :=
  [⟨sampleNoon, .dispatch (some (sampleHttp (.error (.printable "ConnectTimeout" "")))) .stored
      sampleDispatch⟩,
    ⟨sampleNextNoon, .dispatch (some (sampleHttp (.ok 204))) .newest sampleDispatch⟩]

theorem deliveries_counted_sample :
    let c := NotifyLog.run sampleMac sampleWorld (sampleRegistrations ++ sampleDispatches)
    c.world.webhooks.rows.map WebhookEndpoint.failureCount = [0, 2, 0] ∧
    (∀ webhook ∈ c.world.webhooks.rows, webhook.failureCount = trailingFailures
      (List.replicate (failuresBefore sampleWorld webhook.id) false ++
        ownHistory webhook.id c.deliveries)) ∧
    ∃ result w', NotificationService.dispatch sampleMac ⟨none⟩ .stored sampleDispatch
        (c.world.at sampleNextNoon) = (.ok result, w') ∧
      DeliversEach sampleMac ⟨none⟩ .stored sampleDispatch (c.world.at sampleNextNoon) result := by
  have hprinted : NotifyLog.Printed sampleMac sampleWorld
      (sampleRegistrations ++ sampleDispatches) := by
    refine ⟨trivial, trivial, trivial, ?_, ?_, trivial⟩
    · refine dispatchable_of_printable sampleMac (sampleHttp_printable ?_)
      rintro exc ⟨⟩
      exact ⟨"", rfl⟩
    · exact dispatchable_of_printable sampleMac (sampleHttp_printable fun exc h => nomatch h)
  obtain ⟨hcounts, hnext⟩ := deliveries_counted sampleMac sampleWorld _ hprinted
  refine ⟨by decide +kernel, hcounts, (hnext sampleNextNoon none .stored sampleDispatch).mpr ?_⟩
  exact fun posted _ exc h => nomatch h

/-- The first post raises an exception without a text: the dispatch raises, the second webhook gets
no delivery, and no failure is counted. -/
theorem dispatch_cut_short :
    let w := (NotifyLog.run sampleMac sampleWorld sampleRegistrations).world
    let first := PyException.unprintable "ProxyError" (.printable "RecursionError" "")
    let run := NotificationService.dispatch sampleMac ⟨some (sampleHttp (.error first))⟩ .stored
      sampleDispatch w
    (matchingWebhooks .stored sampleDispatch w).map WebhookEndpoint.url =
        [sampleUrls.1, sampleUrls.2] ∧
      (¬∃ result w', run = (.ok result, w')) ∧
      run.2.webhooks.rows.map WebhookEndpoint.failureCount = [0, 0, 0] ∧
      run.2.webhooks.rows.map WebhookEndpoint.lastDeliveredAt = [none, none, none] := by
  refine ⟨by decide +kernel, ?_, by decide +kernel, by decide +kernel⟩
  rintro ⟨result, w', hrun⟩
  cases congrArg (fun r => r.1.isOk) hrun

end Dox
