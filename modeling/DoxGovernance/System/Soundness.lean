import DoxGovernance.Gateway.Isolation
import DoxGovernance.Lib.Growth
import DoxGovernance.Lib.Run
import DoxGovernance.Quota.Account
import DoxGovernance.System.Calls

/-!
# What every stored row satisfies

In a run of calls that starts from empty tables, with no call before the time of the one before
it, every row of every table is well formed at every moment: no time in it is in the future, the
columns that belong together agree, the counters of a quota fit its windows, the counts of a
baseline add up, and no agent has two active baselines.
-/

set_option autoImplicit false

namespace Dox

/-! ### Well-formed rows -/

/-- A record holds the event it was made of, and fits its columns. -/
structure EventRecord.Sound (sha256 : ByteArray → String) (now : Datetime) (r : EventRecord) :
    Prop where
  describes : ∃ event, r.Describes sha256 event
  fits : r.columnError = none
  createdAt : r.createdAt ≤ now

/-- The limits are those of the tier, the windows have started, and the events of the day are
among those of the month. -/
structure TenantQuota.Sound (now : Datetime) (q : TenantQuota) : Prop where
  limits : (q.dailyLimit, q.monthlyLimit) = limitsForTier q.subscriptionTier
  day : q.dayWindowStart ≤ now
  month : q.monthWindowStart ≤ now
  counted : q.eventsToday ≤ q.eventsThisMonth
  sameMonth : 0 < q.eventsToday → q.dayWindowStart.monthIndex ≤ q.monthWindowStart.monthIndex

/-- An alert is open, or it is resolved with an action at a time. -/
structure SentinelAlert.Sound (now : Datetime) (a : SentinelAlert) : Prop where
  message : a.message ≠ ""
  createdAt : a.createdAt ≤ now
  action : a.isResolved = a.actionTaken.isSome
  time : a.isResolved = a.resolvedAt.isSome
  order : ∀ t ∈ a.resolvedAt, a.createdAt ≤ t ∧ t ≤ now

structure AgentBaseline.Sound (now : Datetime) (b : AgentBaseline) : Prop where
  lookback : 1 ≤ b.lookbackHours ∧ b.lookbackHours ≤ 720
  total : (b.eventCounts.map Prod.snd).sum = b.totalEvents
  distinct : (b.eventCounts.map Prod.fst).Nodup
  types : ∀ t ∈ b.eventCounts.map Prod.fst, ∃ eventType : EventType, t = eventType.value
  computed : b.createdAt = b.computedAt ∧ b.computedAt ≤ now

structure WebhookEndpoint.Sound (now : Datetime) (h : WebhookEndpoint) : Prop where
  secret : 16 ≤ h.secret.length
  scheme : ("http://".toList.isPrefixOf h.url.toList ||
    "https://".toList.isPrefixOf h.url.toList) = true
  createdAt : h.createdAt ≤ now
  failed : 0 < h.failureCount → h.lastDeliveredAt.isSome = true
  delivered : ∀ t ∈ h.lastDeliveredAt, t ≤ now

structure AgentProfile.Sound (now : Datetime) (p : AgentProfile) : Prop where
  updatedAt : p.createdAt ≤ p.updatedAt ∧ p.updatedAt ≤ now
  seen : ∀ t ∈ p.lastSeenAt, p.createdAt ≤ t ∧ t ≤ now

structure AuditEntry.Sound (now : Datetime) (e : AuditEntry) : Prop where
  action : 1 ≤ e.action.length ∧ e.action.length ≤ 100
  resourceType : 1 ≤ e.resourceType.length ∧ e.resourceType.length ≤ 100
  resourceId : 1 ≤ e.resourceId.length ∧ e.resourceId.length ≤ 255
  summary : e.summary ≠ ""
  createdAt : e.createdAt ≤ now

section Time
variable {now t' : Datetime} (h : now ≤ t')
include h

theorem EventRecord.Sound.later {sha256 : ByteArray → String} {r : EventRecord}
    (hr : r.Sound sha256 now) : r.Sound sha256 t' :=
  {hr with createdAt := hr.createdAt.trans h}

theorem TenantQuota.Sound.later {q : TenantQuota} (hq : q.Sound now) : q.Sound t' :=
  {hq with day := hq.day.trans h, month := hq.month.trans h}

theorem SentinelAlert.Sound.later {a : SentinelAlert} (ha : a.Sound now) : a.Sound t' :=
  {ha with
    createdAt := ha.createdAt.trans h
    order := fun t ht => ⟨(ha.order t ht).1, (ha.order t ht).2.trans h⟩}

theorem AgentBaseline.Sound.later {b : AgentBaseline} (hb : b.Sound now) : b.Sound t' :=
  {hb with computed := ⟨hb.computed.1, hb.computed.2.trans h⟩}

theorem WebhookEndpoint.Sound.later {e : WebhookEndpoint} (he : e.Sound now) : e.Sound t' :=
  {he with
    createdAt := he.createdAt.trans h
    delivered := fun t ht => (he.delivered t ht).trans h}

theorem AgentProfile.Sound.later {p : AgentProfile} (hp : p.Sound now) : p.Sound t' :=
  ⟨⟨hp.updatedAt.1, hp.updatedAt.2.trans h⟩,
    fun t ht => ⟨(hp.seen t ht).1, (hp.seen t ht).2.trans h⟩⟩

theorem AuditEntry.Sound.later {e : AuditEntry} (he : e.Sound now) : e.Sound t' :=
  {he with createdAt := he.createdAt.trans h}

end Time

/-! ### New and rewritten rows -/

section Rows
variable {now : Datetime}

theorem EventRecord.sound_fromCanonical {sha256 : ByteArray → String} {id : Uuid}
    {event : CanonicalEvent} {r : EventRecord}
    (h : EventRecord.fromCanonical sha256 id now event = .ok r) (hfits : r.columnError = none) :
    r.Sound sha256 now :=
  ⟨⟨event, fromCanonical_ok h⟩, hfits, (fromCanonical_createdAt h).le⟩

theorem SentinelAlert.sound_new (create : SentinelAlertCreate) (id : Uuid) :
    (SentinelService.newAlert now create id).Sound now :=
  ⟨create.messageNonempty, le_refl now, rfl, rfl, fun _ ht => nomatch ht⟩

theorem SentinelAlert.Sound.resolved {a : SentinelAlert} (ha : a.Sound now)
    (action : InterventionAction) : (SentinelService.resolved now action a).Sound now := by
  refine {ha with action := rfl, time := rfl, order := fun t ht => ?_}
  cases ht
  exact ⟨ha.createdAt, le_refl now⟩

theorem AgentBaseline.sound_new (create : BaselineCreate) (records : List EventRecord) (id : Uuid) :
    (DriftDetectionService.newBaseline now create records id).Sound now where
  lookback := create.lookbackBounds
  total := (Counter.sum_ofList _).trans (List.length_map _)
  distinct := Counter.nodup_ofList _
  types := by
    intro t ht
    obtain ⟨r, _, rfl⟩ := List.mem_map.mp (Counter.mem_keys_ofList.mp ht)
    exact ⟨r.eventType, rfl⟩
  computed := ⟨rfl, le_refl now⟩

theorem WebhookEndpoint.sound_new (create : WebhookCreate) (id : Uuid) :
    (NotificationService.newWebhook now create id).Sound now where
  secret := create.secretLength
  scheme := create.urlScheme
  createdAt := le_refl now
  failed := fun h => absurd h (Nat.lt_irrefl 0)
  delivered := fun _ ht => nomatch ht

theorem AgentProfile.sound_new (create : AgentProfileCreate) (id : Uuid) :
    (AgentRegistryService.newProfile now create id).Sound now :=
  ⟨⟨le_refl now, le_refl now⟩, fun _ ht => nomatch ht⟩

theorem AgentProfile.Sound.written {p : AgentProfile} (hp : p.Sound now)
    {change : AgentRegistryService.Columns → AgentRegistryService.Columns}
    (hseen : ∀ c, (change c).lastSeenAt = c.lastSeenAt ∨ (change c).lastSeenAt = some now) :
    (AgentRegistryService.written now change p).Sound now := by
  have hcreated : p.createdAt ≤ now := hp.updatedAt.1.trans hp.updatedAt.2
  unfold AgentRegistryService.written
  split
  · exact hp
  · refine ⟨⟨hcreated, le_refl now⟩, fun t ht => ?_⟩
    rw [AgentRegistryService.setColumns] at ht
    rcases hseen (AgentRegistryService.columns p) with h | h
    · rw [h] at ht
      exact hp.seen t ht
    · rw [h] at ht
      cases ht
      exact ⟨hcreated, le_refl now⟩

theorem AuditEntry.sound_new (create : AuditEntryCreate) (id : Uuid) :
    (AuditService.newEntry now create id).Sound now :=
  ⟨create.actionFits, create.resourceTypeFits, create.resourceIdFits, create.summaryNonempty,
    le_refl now⟩

end Rows

/-! ### The rows of a quota -/

namespace TenantQuota
open QuotaService
variable {now : Datetime} {q : TenantQuota}

theorem sound_init (now : Datetime) (tenantId : String) (tier : SubscriptionTier) :
    (newQuota now tenantId tier).Sound now :=
  ⟨rfl, le_refl now, le_refl now, le_refl 0, fun h => absurd h (Nat.lt_irrefl 0)⟩

theorem Sound.resetDay (hq : q.Sound now) :
    (Dox.resetDay now q).Sound now ∧
      (0 < (Dox.resetDay now q).eventsToday → now.date ≤ (Dox.resetDay now q).dayWindowStart.date) := by
  unfold Dox.resetDay
  split
  · exact ⟨{hq with
      day := le_refl now
      counted := Nat.zero_le _
      sameMonth := fun h => absurd h (Nat.lt_irrefl 0)}, fun h => absurd h (Nat.lt_irrefl 0)⟩
  · rename_i hsame
    exact ⟨hq, fun _ => not_lt.mp hsame⟩

/-- Restarting the windows leaves a month that is not before the current one. -/
theorem Sound.restarted (hq : q.Sound now) : (maybeResetWindows now q).Sound now ∧
    now.monthIndex ≤ (maybeResetWindows now q).monthWindowStart.monthIndex := by
  obtain ⟨hday, hsame⟩ := hq.resetDay
  unfold maybeResetWindows resetMonth
  split
  · rename_i hpast
    have hindex := Datetime.lt_monthStart_iff.mp hpast
    -- the day is still open, and it is in a month that has passed
    have hzero : (Dox.resetDay now q).eventsToday = 0 := by
      by_contra hne
      have hpos := Nat.pos_of_ne_zero hne
      have hnow : now.monthIndex ≤ (Dox.resetDay now q).dayWindowStart.monthIndex :=
        Date.monthIndex_mono (hsame hpos)
      have hmonth := hday.sameMonth hpos
      omega
    refine ⟨{hday with month := le_refl now, counted := ?_, sameMonth := ?_}, le_refl _⟩
    · exact hzero.le
    · exact fun h => absurd hzero h.ne'
  · rename_i hsame
    exact ⟨hday, not_lt.mp fun hlt => hsame (Datetime.lt_monthStart_iff.mpr hlt)⟩

theorem Sound.counted_one (hq : q.Sound now)
    (hmonth : now.monthIndex ≤ q.monthWindowStart.monthIndex) : (count q).Sound now :=
  {hq with
    counted := Nat.succ_le_succ hq.counted
    sameMonth := fun _ => (Datetime.monthIndex_mono hq.day).trans hmonth}

theorem Sound.next {w : World} (hquotas : ∀ q ∈ w.quotas.rows, q.Sound w.clock) {t : String}
    (h : Next w t q) : q.Sound w.clock := by
  have hrow : (rowOf w t).Sound w.clock := by
    unfold rowOf
    cases hfind : w.quotas.find? t with
    | none => exact sound_init w.clock t .starter
    | some q => exact hquotas q (Table.mem_of_find? hfind)
  cases h with
  | opened => exact hrow
  | restarted => exact hrow.restarted.1
  | counted hroom => exact hrow.restarted.1.counted_one hrow.restarted.2
  | zeroed =>
    exact {hrow with
      day := le_refl w.clock
      counted := Nat.zero_le _
      sameMonth := fun h => absurd h (Nat.lt_irrefl 0)}
  | tiered tier => exact {hrow with limits := rfl}

end TenantQuota

/-! ### The world -/

/-- No agent of a tenant has two active baselines. -/
def OneActive (baselines : List AgentBaseline) : Prop :=
  ∀ b ∈ baselines, ∀ c ∈ baselines, b.isActive = true → c.isActive = true →
    b.tenantId = c.tenantId → b.agentId = c.agentId → b.id = c.id

structure World.Sound (sha256 : ByteArray → String) (w : World) : Prop where
  events : ∀ r ∈ w.events.rows, r.Sound sha256 w.clock
  quotas : ∀ q ∈ w.quotas.rows, q.Sound w.clock
  alerts : ∀ a ∈ w.alerts.rows, a.Sound w.clock
  policies : ∀ p ∈ w.policies.rows, p.createdAt ≤ w.clock
  baselines : ∀ b ∈ w.baselines.rows, b.Sound w.clock
  oneActive : OneActive w.baselines.rows
  webhooks : ∀ h ∈ w.webhooks.rows, h.Sound w.clock
  agents : ∀ p ∈ w.agents.rows, p.Sound w.clock
  auditEntries : ∀ e ∈ w.auditEntries.rows, e.Sound w.clock

namespace World.Sound
variable {sha256 : ByteArray → String} {w w' : World}

theorem empty (sha256 : ByteArray → String) (start : Datetime) :
    ({clock := start} : World).Sound sha256 where
  events := fun _ h => nomatch h
  quotas := fun _ h => nomatch h
  alerts := fun _ h => nomatch h
  policies := fun _ h => nomatch h
  baselines := fun _ h => nomatch h
  oneActive := fun _ h => nomatch h
  webhooks := fun _ h => nomatch h
  agents := fun _ h => nomatch h
  auditEntries := fun _ h => nomatch h

theorem of_at (h : w.Sound sha256) {time : Datetime} (htime : w.clock ≤ time) :
    (w.at time).Sound sha256 where
  events := fun r hr => (h.events r hr).later htime
  quotas := fun q hq => (h.quotas q hq).later htime
  alerts := fun a ha => (h.alerts a ha).later htime
  policies := fun p hp => (h.policies p hp).trans htime
  baselines := fun b hb => (h.baselines b hb).later htime
  oneActive := h.oneActive
  webhooks := fun e he => (h.webhooks e he).later htime
  agents := fun p hp => (h.agents p hp).later htime
  auditEntries := fun e he => (h.auditEntries e he).later htime

end World.Sound

theorem oneActive_deactivate {baselines : Numbered AgentBaseline.id} (h : OneActive baselines.rows)
    (p : AgentBaseline → Bool) :
    OneActive (baselines.modify p ({· with isActive := false}) fun _ => rfl).rows := by
  intro b hb c hc hbactive hcactive htenant hagent
  obtain ⟨b', hb', rfl⟩ := List.mem_map.mp hb
  obtain ⟨c', hc', rfl⟩ := List.mem_map.mp hc
  cases hpb : p b' with
  | true => simp [hpb] at hbactive
  | false =>
    cases hpc : p c' with
    | true => simp [hpc] at hcactive
    | false =>
      simp only [hpb, hpc, Bool.false_eq_true, if_false] at hbactive hcactive htenant hagent ⊢
      exact h b' hb' c' hc' hbactive hcactive htenant hagent

theorem oneActive_add {baselines : Numbered AgentBaseline.id} (h : OneActive baselines.rows)
    {mk : Nat → AgentBaseline} (hmk : ∀ n, (mk n).id = n)
    (hfree : ∀ b ∈ baselines.rows, b.isActive = true →
      b.tenantId = (mk baselines.next).tenantId → b.agentId ≠ (mk baselines.next).agentId) :
    OneActive (baselines.add mk hmk).rows := by
  intro b hb c hc hbactive hcactive htenant hagent
  rcases Numbered.mem_add.mp hb with hbold | rfl
  · rcases Numbered.mem_add.mp hc with hcold | rfl
    · exact h b hbold c hcold hbactive hcactive htenant hagent
    · exact absurd hagent (hfree b hbold hbactive htenant)
  · rcases Numbered.mem_add.mp hc with hcold | rfl
    · exact absurd hagent.symm (hfree c hcold hcactive htenant.symm)
    · rfl

/-- Replacing the baselines of an agent leaves the new one as its only active one. -/
theorem oneActive_replace {w : World} (h : OneActive w.baselines.rows) (create : BaselineCreate)
    (records : List EventRecord) :
    OneActive (DriftDetectionService.replaceBaselines create records w).2.baselines.rows := by
  apply oneActive_add (oneActive_deactivate h _) fun _ => rfl
  intro b hb hactive htenant hagent
  obtain ⟨b', _, rfl⟩ := List.mem_map.mp hb
  cases hp : DriftDetectionService.isActiveOf create.tenantId create.agentId b' with
  | true => simp [hp] at hactive
  | false =>
    simp only [hp, Bool.false_eq_true, if_false] at hactive htenant hagent
    simp [DriftDetectionService.isActiveOf, hactive, htenant, hagent,
      DriftDetectionService.newBaseline] at hp

theorem Write.sound {sha256 : ByteArray → String} {p : Place} {w w' : World}
    (hwrite : Write sha256 p w w') (h : w.Sound sha256) : w'.Sound sha256 := by
  cases hwrite with
  | uuid => exact {h with}
  | insertEvents hrecords hfit hinsert =>
    refine {h with events := fun r hr => ?_}
    rw [Table.insertAll?_eq_some hinsert] at hr
    rcases List.mem_append.mp hr with hold | hnew
    · exact h.events r hold
    · obtain ⟨id, event, hmade⟩ := hrecords r hnew
      exact EventRecord.sound_fromCanonical hmade (List.findSome?_eq_none_iff.mp hfit r hnew)
  | writeQuota hnext hwrote =>
    have hnew := TenantQuota.Sound.next h.quotas hnext
    obtain ⟨quotas, rfl, hfind⟩ := hwrote
    refine {h with quotas := fun r hr => ?_}
    have hr' := hfind r.tenantId
    rw [Table.find?_of_mem hr] at hr'
    split at hr'
    · rw [Option.some.inj hr']
      exact hnew
    · exact h.quotas r (Table.mem_of_find? hr'.symm)
  | createAlert _ create =>
    exact {h with
      alerts := Numbered.forall_add h.alerts (fun _ => rfl) (SentinelAlert.sound_new create _)}
  | resolveAlert _ alertId action =>
    exact {h with
      alerts := Numbered.forall_modify h.alerts (SentinelService.resolved w.clock action)
        (fun _ => rfl) fun _ ha => ha.resolved action}
  | createPolicy _ create =>
    exact {h with policies := Numbered.forall_add h.policies (fun _ => rfl) (le_refl w.clock)}
  | updatePolicy _ policyId update =>
    exact {h with
      policies := Numbered.forall_modify h.policies (PolicyEvaluatorService.patched update)
        (fun _ => rfl) fun _ hp => hp}
  | deactivatePolicy _ policyId =>
    exact {h with
      policies := Numbered.forall_modify h.policies ({· with isActive := false}) (fun _ => rfl)
        fun _ hp => hp}
  | replaceBaselines _ create records =>
    exact {h with
      baselines := Numbered.forall_add
        (Numbered.forall_modify h.baselines ({· with isActive := false}) (fun _ => rfl)
          fun _ hb => {hb with})
        (fun _ => rfl) (AgentBaseline.sound_new create records _)
      oneActive := oneActive_replace h.oneActive create records}
  | deactivateBaseline _ baselineId =>
    exact {h with
      baselines := Numbered.forall_modify h.baselines ({· with isActive := false}) (fun _ => rfl)
        fun _ hb => {hb with}
      oneActive := oneActive_deactivate h.oneActive _}
  | registerWebhook _ create =>
    exact {h with
      webhooks := Numbered.forall_add h.webhooks (fun _ => rfl) (WebhookEndpoint.sound_new create _)}
  | deactivateWebhook _ webhookId =>
    exact {h with
      webhooks := Numbered.forall_modify h.webhooks ({· with isActive := false}) (fun _ => rfl)
        fun _ he => {he with}}
  | recordDelivery _ webhook success =>
    have hrows := Numbered.forall_modify h.webhooks ({· with
      lastDeliveredAt := some w.clock
      failureCount := if success then 0 else webhook.failureCount + 1}) (fun _ => rfl)
      (p := fun e => e.id = webhook.id) fun e he => {he with
        failed := fun _ => rfl
        delivered := fun t ht => (Option.some.inj ht).symm.le}
    exact {h with webhooks := hrows}
  | createAgent hadd =>
    refine {h with agents := fun r hr => ?_}
    rw [Constrained.rows_add? hadd] at hr
    rcases List.mem_append.mp hr with hold | hnew
    · exact h.agents r hold
    · rw [List.mem_singleton.mp hnew]
      exact AgentProfile.sound_new _ _
  | saveAgent _ change hseen profile =>
    exact {h with
      agents := Numbered.forall_modify h.agents (AgentRegistryService.written w.clock change)
        (fun p => (AgentRegistryService.keys_written w.clock change p).1)
        fun _ hp => hp.written hseen}
  | recordEntry _ create =>
    exact {h with
      auditEntries := Numbered.forall_add h.auditEntries (fun _ => rfl)
        (AuditEntry.sound_new create _)}
  | publish _ event => exact {h with}
  | increment _ name value tags => exact {h with}

/-- The step lemma. -/
theorem SystemCall.step_sound {gateway : Gateway} {w : World} {call : SystemCall}
    (htime : w.clock ≤ call.time) (h : w.Sound gateway.sha256) :
    (call.step gateway w).Sound gateway.sha256 :=
  (call.op.apply_writes gateway (w.at call.time)).invariant
    (fun _ _ _ _ hwrite => hwrite.sound) (h.of_at htime)

/-- The run lemma: from empty tables on, every row is well formed as long as time does not run
backwards. -/
theorem run_sound (gateway : Gateway) (start : Datetime) (calls : List SystemCall)
    (hordered : Run.Meets (SystemCall.step gateway) (fun w call => w.clock ≤ call.time)
      {clock := start} calls) :
    (calls.foldl (SystemCall.step gateway) {clock := start}).Sound gateway.sha256 :=
  Run.invariant (fun _ _ htime h => SystemCall.step_sound htime h) hordered
    (World.Sound.empty gateway.sha256 start)

theorem SystemCall.step_clock (gateway : Gateway) (w : World) (call : SystemCall) :
    (call.step gateway w).clock = call.time :=
  (call.op.apply_writes gateway (w.at call.time)).clock

/-- Calls in the order of their times. -/
theorem meets_of_ordered {gateway : Gateway} {w : World} {calls : List SystemCall}
    (h : (w.clock :: calls.map SystemCall.time).Pairwise (· ≤ ·)) :
    Run.Meets (SystemCall.step gateway) (fun w call => w.clock ≤ call.time) w calls := by
  induction calls generalizing w with
  | nil => trivial
  | cons call calls ih =>
    obtain ⟨hfirst, hrest⟩ := List.pairwise_cons.mp h
    refine ⟨hfirst call.time List.mem_cons_self, ih ?_⟩
    rw [SystemCall.step_clock]
    exact hrest

def adminGateway : Gateway :=
  {Gateway.sampleGateway with jwt := fun _ _ => .ok ⟨"u1", "acme", "admin", 4102444800⟩}

def adminCall (time : Datetime) (route : Route) : SystemCall :=
  ⟨time, .request {token := some "admin", route}⟩

/-- A day of a tenant, which writes to each of the eight tables: an event raises an alert, which a
workflow resolves on the next day with an entry of its own. -/
def writingCalls : List SystemCall := [
  adminCall sampleNoon (.quota (.provisionQuota {
    tenantId := "acme", subscriptionTier := .enterprise })),
  adminCall sampleNoon .sampleAgent,
  adminCall sampleNoon .samplePolicy,
  adminCall sampleNoon .sampleWebhook,
  adminCall sampleNoon (.ingestion (.ingestEvent (sampleEvent 1 .toolCallBlocked))),
  adminCall sampleNextNoon .sampleBaseline,
  ⟨sampleNextNoon, .sentinelResponse {} .stored {alertId := 0, tenantId := "acme"}⟩,
  adminCall sampleNextNoon (.registry (.updateAgent 0 {name := some "b"}))]

def World.rowCounts (w : World) : List Nat :=
  [w.events.rows.length, w.quotas.rows.length, w.alerts.rows.length, w.policies.rows.length,
    w.baselines.rows.length, w.webhooks.rows.length, w.agents.rows.length,
    w.auditEntries.rows.length]

theorem run_sound_sample :
    (writingCalls.foldl (SystemCall.step adminGateway) {clock := sampleNoon}).Sound
      adminGateway.sha256 ∧
    (writingCalls.foldl (SystemCall.step adminGateway) {clock := sampleNoon}).rowCounts =
      [1, 1, 1, 1, 1, 1, 1, 1] ∧
    (writingCalls.foldl (SystemCall.step adminGateway) {clock := sampleNoon}).alerts.rows.map
      SentinelAlert.isResolved = [true] :=
  ⟨run_sound adminGateway sampleNoon writingCalls (meets_of_ordered (by decide)), by decide,
    by decide⟩

end Dox
