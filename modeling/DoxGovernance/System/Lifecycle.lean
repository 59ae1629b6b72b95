import DoxGovernance.Lib.Growth
import DoxGovernance.Lib.Run
import DoxGovernance.System.Calls

/-!
# What never changes

Over any run of requests and workflows, the records of events, the audit entries, the messages
and the metrics are only added to. No row of another table is ever removed, and of a stored row
only few columns can change: an alert that is resolved stays so, a baseline or a webhook that is
deactivated stays so, and what identifies a row never changes.
-/

set_option autoImplicit false

namespace Dox

/-- What can have become of an alert. -/
structure SentinelAlert.Ages (a a' : SentinelAlert) : Prop where
  fixed : {a' with
    actionTaken := a.actionTaken
    isResolved := a.isResolved
    resolvedAt := a.resolvedAt} = a
  resolved : a.isResolved = true → a'.isResolved = true

/-- What can have become of a policy. -/
structure Policy.Ages (p p' : Policy) : Prop where
  id : p'.id = p.id
  tenantId : p'.tenantId = p.tenantId
  sentinelType : p'.sentinelType = p.sentinelType
  createdAt : p'.createdAt = p.createdAt

/-- What can have become of a baseline: it is not computed again, and not activated again. -/
structure AgentBaseline.Ages (b b' : AgentBaseline) : Prop where
  fixed : {b' with isActive := b.isActive} = b
  deactivated : b.isActive = false → b'.isActive = false

/-- What can have become of a webhook. -/
structure WebhookEndpoint.Ages (h h' : WebhookEndpoint) : Prop where
  fixed : {h' with
    isActive := h.isActive
    failureCount := h.failureCount
    lastDeliveredAt := h.lastDeliveredAt} = h
  deactivated : h.isActive = false → h'.isActive = false
  delivered : h.lastDeliveredAt.isSome = true → h'.lastDeliveredAt.isSome = true

/-- What can have become of the profile of an agent. -/
structure AgentProfile.Ages (p p' : AgentProfile) : Prop where
  id : p'.id = p.id
  agentKey : p'.agentKey = p.agentKey
  createdAt : p'.createdAt = p.createdAt
  seen : p.lastSeenAt.isSome = true → p'.lastSeenAt.isSome = true

section Ages

theorem SentinelAlert.Ages.refl (a : SentinelAlert) : a.Ages a := ⟨rfl, fun h => h⟩

theorem SentinelAlert.Ages.trans {a b c : SentinelAlert} (h : a.Ages b) (h' : b.Ages c) :
    a.Ages c := by
  refine ⟨?_, fun hresolved => h'.resolved (h.resolved hresolved)⟩
  rw [← h.fixed, ← h'.fixed]

theorem Policy.Ages.refl (p : Policy) : p.Ages p := ⟨rfl, rfl, rfl, rfl⟩

theorem Policy.Ages.trans {p q r : Policy} (h : p.Ages q) (h' : q.Ages r) : p.Ages r :=
  ⟨h'.id.trans h.id, h'.tenantId.trans h.tenantId, h'.sentinelType.trans h.sentinelType,
    h'.createdAt.trans h.createdAt⟩

theorem AgentBaseline.Ages.refl (b : AgentBaseline) : b.Ages b := ⟨rfl, fun h => h⟩

theorem AgentBaseline.Ages.trans {a b c : AgentBaseline} (h : a.Ages b) (h' : b.Ages c) :
    a.Ages c := by
  refine ⟨?_, fun hinactive => h'.deactivated (h.deactivated hinactive)⟩
  rw [← h.fixed, ← h'.fixed]

theorem WebhookEndpoint.Ages.refl (h : WebhookEndpoint) : h.Ages h :=
  ⟨rfl, fun h => h, fun h => h⟩

theorem WebhookEndpoint.Ages.trans {a b c : WebhookEndpoint} (h : a.Ages b) (h' : b.Ages c) :
    a.Ages c := by
  refine ⟨?_, fun hinactive => h'.deactivated (h.deactivated hinactive),
    fun hdelivered => h'.delivered (h.delivered hdelivered)⟩
  rw [← h.fixed, ← h'.fixed]

theorem AgentProfile.Ages.refl (p : AgentProfile) : p.Ages p :=
  ⟨rfl, rfl, rfl, fun h => h⟩

theorem AgentProfile.Ages.trans {p q r : AgentProfile} (h : p.Ages q) (h' : q.Ages r) : p.Ages r :=
  ⟨h'.id.trans h.id, h'.agentKey.trans h.agentKey, h'.createdAt.trans h.createdAt,
    fun hseen => h'.seen (h.seen hseen)⟩

end Ages

/-- What an earlier and a later world have in common. -/
structure Lifecycle (w w' : World) : Prop where
  events : w.events.rows <+: w'.events.rows
  auditEntries : w.auditEntries.rows <+: w'.auditEntries.rows
  bus : w.bus <+: w'.bus
  metrics : w.metrics <+: w'.metrics
  resolutions : w.resolutions <+: w'.resolutions
  quotas : Table.Kept (fun _ _ => True) w.quotas w'.quotas
  alerts : Table.Kept SentinelAlert.Ages w.alerts.toTable w'.alerts.toTable
  policies : Table.Kept Policy.Ages w.policies.toTable w'.policies.toTable
  baselines : Table.Kept AgentBaseline.Ages w.baselines.toTable w'.baselines.toTable
  webhooks : Table.Kept WebhookEndpoint.Ages w.webhooks.toTable w'.webhooks.toTable
  agents : Table.Kept AgentProfile.Ages w.agents.toTable w'.agents.toTable

namespace Lifecycle
variable {w w' w'' : World}

theorem refl (w : World) : Lifecycle w w where
  events := List.prefix_refl _
  auditEntries := List.prefix_refl _
  bus := List.prefix_refl _
  metrics := List.prefix_refl _
  resolutions := List.prefix_refl _
  quotas := Table.Kept.refl (fun _ => trivial) _
  alerts := Table.Kept.refl SentinelAlert.Ages.refl _
  policies := Table.Kept.refl Policy.Ages.refl _
  baselines := Table.Kept.refl AgentBaseline.Ages.refl _
  webhooks := Table.Kept.refl WebhookEndpoint.Ages.refl _
  agents := Table.Kept.refl AgentProfile.Ages.refl _

theorem trans (h : Lifecycle w w') (h' : Lifecycle w' w'') : Lifecycle w w'' where
  events := h.events.trans h'.events
  auditEntries := h.auditEntries.trans h'.auditEntries
  bus := h.bus.trans h'.bus
  metrics := h.metrics.trans h'.metrics
  resolutions := h.resolutions.trans h'.resolutions
  quotas := h.quotas.trans (fun _ _ => trivial) h'.quotas
  alerts := h.alerts.trans SentinelAlert.Ages.trans h'.alerts
  policies := h.policies.trans Policy.Ages.trans h'.policies
  baselines := h.baselines.trans AgentBaseline.Ages.trans h'.baselines
  webhooks := h.webhooks.trans WebhookEndpoint.Ages.trans h'.webhooks
  agents := h.agents.trans AgentProfile.Ages.trans h'.agents

/-- Only the clock has moved. -/
theorem of_at (w : World) (time : Datetime) : Lifecycle w (w.at time) :=
  {refl w with}

end Lifecycle

/-! ### One write -/

section Rows
variable {now : Datetime}

theorem SentinelAlert.ages_resolved (action : InterventionAction) (a : SentinelAlert) :
    a.Ages (SentinelService.resolved now action a) := ⟨rfl, fun _ => rfl⟩

theorem AgentProfile.ages_written {change : AgentRegistryService.Columns →
    AgentRegistryService.Columns}
    (hseen : ∀ c, (change c).lastSeenAt = c.lastSeenAt ∨ (change c).lastSeenAt = some now)
    (p : AgentProfile) : p.Ages (AgentRegistryService.written now change p) := by
  unfold AgentRegistryService.written
  split
  · exact Ages.refl p
  · refine ⟨rfl, rfl, rfl, fun hsome => ?_⟩
    rw [AgentRegistryService.setColumns]
    rcases hseen (AgentRegistryService.columns p) with h | h
    · rw [h]
      exact hsome
    · rw [h]
      rfl

end Rows

theorem Write.lifecycle {sha256 : ByteArray → String} {p : Place} {w w' : World}
    (h : Write sha256 p w w') : Lifecycle w w' := by
  cases h with
  | uuid => exact {Lifecycle.refl w with}
  | insertEvents _ _ hinsert =>
    refine {Lifecycle.refl w with events := ?_}
    rw [Table.insertAll?_eq_some hinsert]
    exact List.prefix_append _ _
  | writeQuota _ hwrote =>
    obtain ⟨quotas, rfl, hfind⟩ := hwrote
    refine {Lifecycle.refl w with quotas := fun k r hr => ?_}
    rw [hfind]
    split
    · exact ⟨_, rfl, trivial⟩
    · exact ⟨r, hr, trivial⟩
  | createAlert _ create =>
    exact {Lifecycle.refl w with alerts := Numbered.kept_add SentinelAlert.Ages.refl _ fun _ => rfl}
  | resolveAlert _ alertId action =>
    exact {Lifecycle.refl w with
      alerts := Numbered.kept_update SentinelAlert.Ages.refl alertId
        (SentinelService.resolved w.clock action) (fun _ => rfl)
        (SentinelAlert.ages_resolved action)
      resolutions := List.prefix_append _ _}
  | createPolicy _ create =>
    exact {Lifecycle.refl w with policies := Numbered.kept_add Policy.Ages.refl _ fun _ => rfl}
  | updatePolicy _ policyId update =>
    exact {Lifecycle.refl w with
      policies := Numbered.kept_update Policy.Ages.refl policyId
        (PolicyEvaluatorService.patched update) (fun _ => rfl) fun _ => ⟨rfl, rfl, rfl, rfl⟩}
  | deactivatePolicy _ policyId =>
    exact {Lifecycle.refl w with
      policies := Numbered.kept_update Policy.Ages.refl policyId ({· with isActive := false})
        (fun _ => rfl) fun _ => ⟨rfl, rfl, rfl, rfl⟩}
  | replaceBaselines _ create records =>
    have hdeactivate := Numbered.kept_modify (t := w.baselines) AgentBaseline.Ages.refl
      (DriftDetectionService.isActiveOf create.tenantId create.agentId)
      ({· with isActive := false}) (fun _ => rfl) fun _ => ⟨rfl, fun _ => rfl⟩
    exact {Lifecycle.refl w with
      baselines := hdeactivate.trans AgentBaseline.Ages.trans (Numbered.kept_add
        AgentBaseline.Ages.refl (DriftDetectionService.newBaseline w.clock create records)
          fun _ => rfl)}
  | deactivateBaseline _ baselineId =>
    exact {Lifecycle.refl w with
      baselines := Numbered.kept_update AgentBaseline.Ages.refl baselineId ({· with isActive := false})
        (fun _ => rfl) fun _ => ⟨rfl, fun _ => rfl⟩}
  | registerWebhook _ create =>
    exact {Lifecycle.refl w with
      webhooks := Numbered.kept_add WebhookEndpoint.Ages.refl _ fun _ => rfl}
  | deactivateWebhook _ webhookId =>
    exact {Lifecycle.refl w with
      webhooks := Numbered.kept_update WebhookEndpoint.Ages.refl webhookId ({· with isActive := false})
        (fun _ => rfl) fun _ => ⟨rfl, fun _ => rfl, fun h => h⟩}
  | recordDelivery _ webhook success =>
    exact {Lifecycle.refl w with
      webhooks := Numbered.kept_update WebhookEndpoint.Ages.refl webhook.id ({· with
        lastDeliveredAt := some w.clock
        failureCount := if success then 0 else webhook.failureCount + 1}) (fun _ => rfl)
        fun _ => ⟨rfl, fun h => h, fun _ => rfl⟩}
  | createAgent hadd =>
    refine {Lifecycle.refl w with agents := Table.kept_of_prefix AgentProfile.Ages.refl ?_}
    rw [Constrained.rows_add? hadd]
    exact List.prefix_append _ _
  | saveAgent _ change hseen profile =>
    exact {Lifecycle.refl w with
      agents := Numbered.kept_update AgentProfile.Ages.refl profile.id
        (AgentRegistryService.written w.clock change)
        (fun q => (AgentRegistryService.keys_written w.clock change q).1)
        (AgentProfile.ages_written hseen)}
  | recordEntry _ create =>
    exact {Lifecycle.refl w with auditEntries := List.prefix_append _ _}
  | publish _ event => exact {Lifecycle.refl w with bus := List.prefix_append _ _}
  | increment _ name value tags => exact {Lifecycle.refl w with metrics := List.prefix_append _ _}

/-- The step lemma. -/
theorem SystemCall.step_lifecycle (gateway : Gateway) (w : World) (call : SystemCall) :
    Lifecycle w (call.step gateway w) := by
  have hwrites := call.op.apply_writes gateway (w.at call.time)
  exact (Lifecycle.of_at w call.time).trans
    (hwrites.relation Lifecycle.refl Lifecycle.trans fun _ _ _ _ hwrite => hwrite.lifecycle)

/-- The run lemma: nothing that was stored is lost, and no row leaves its life. -/
theorem run_lifecycle (gateway : Gateway) (w : World) (calls : List SystemCall) :
    Lifecycle w (calls.foldl (SystemCall.step gateway) w) :=
  Run.relation Lifecycle.refl Lifecycle.trans (fun w call _ => call.step_lifecycle gateway w)
    (Run.meets_true w calls)

end Dox
