import DoxGovernance.Ingestion.Service
import DoxGovernance.Quota.History
import DoxGovernance.Quota.Reporting
import DoxGovernance.Tenants.Service

/-!
# Which tier is enforced

A tier is stored twice: in the tenant's own row and in its quota row. The limits of a check
are those of the quota row, whose tier is the one provisioned last, or that of the row that
the first check creates. Creating or updating a tenant does not reach it.
-/

set_option autoImplicit false

namespace Dox
open QuotaService

/-- A call on the tables of the other services. -/
def AccountService.within {α : Type} (call : Service α) : AccountService α := fun a =>
  ((call a.world).1, {a with world := (call a.world).2})

inductive TierOp where
  | createTenant (create : TenantCreate)
  | updateTenant (tenantId : Uuid) (update : TenantUpdate)
  | deactivateTenant (tenantId : Uuid)
  | activateTenant (tenantId : Uuid)
  | quota (op : QuotaOp)
  | ingest (service : IngestionService) (op : IngestOp) (outage : Outage)

structure TierCall where
  time : Datetime
  op : TierOp

namespace TierOp

def exec (sha256 : ByteArray → String) : TierOp → AccountService Unit
  | createTenant create => do
    let _ ← TenantService.create create
    return ()
  | updateTenant tenantId update => do
    let _ ← TenantService.update tenantId update
    return ()
  | deactivateTenant tenantId => TenantService.deactivate tenantId
  | activateTenant tenantId => do
    let _ ← TenantService.activate tenantId
    return ()
  | quota op => .within op.exec
  | ingest service op outage => .within do
    let _ ← op.run service sha256 outage
    return ()

/-- The tier that an operation provisions for a tenant. -/
def provisions (k : String) : TierOp → Option SubscriptionTier
  | quota op => op.provisions k
  | _ => none

end TierOp

def TierCall.step (sha256 : ByteArray → String) (a : Accounts) (call : TierCall) : Accounts :=
  (call.op.exec sha256 (a.at call.time)).2

/-- The tier provisioned last for a tenant whose tier was `tier` before the calls. -/
def tierProvisioned (k : String) (tier : SubscriptionTier) (calls : List TierCall) :
    SubscriptionTier :=
  calls.foldl (fun tier call => (call.op.provisions k).getD tier) tier

/-- A check of the tenant made now admits the event when its counters are below these limits. -/
structure Enforces (k : String) (limits : Nat × Nat) (w : World) : Prop where
  compares : limitsOf (effective w k) = limits
  admits : (checkAndIncrement k w).1.isOk = true ↔
    (effective w k).eventsToday < limits.1 ∧ (effective w k).eventsThisMonth < limits.2

theorem enforces_iff {k : String} {limits : Nat × Nat} {w : World} :
    Enforces k limits w ↔ limitsOf (effective w k) = limits := by
  constructor
  · exact Enforces.compares
  · rintro rfl
    refine ⟨rfl, ?_⟩
    by_cases hroom : HasRoom (effective w k)
    · obtain ⟨w', hrun, _⟩ := checkAndIncrement_admits hroom
      rw [hrun]
      exact iff_of_true rfl hroom
    · obtain ⟨w', detail, hrun, _⟩ := checkAndIncrement_refuses hroom
      rw [hrun]
      exact iff_of_false Bool.false_ne_true hroom

theorem limitsForTier_injective : Function.Injective limitsForTier := by
  intro s t h
  cases s <;> cases t <;> simp_all [limitsForTier]

/-! ### The plan of a tenant -/

/-- The tier of a row, with the limits stored beside it. -/
def planOf (q : TenantQuota) : SubscriptionTier × (Nat × Nat) := (q.subscriptionTier, limitsOf q)

def plan (w : World) (k : String) : SubscriptionTier × (Nat × Nat) := planOf (rowOf w k)

/-- The plan that comes with a tier. -/
def priced (tier : SubscriptionTier) : SubscriptionTier × (Nat × Nat) := (tier, limitsForTier tier)

def SamePlans (w w' : World) : Prop := ∀ k, plan w' k = plan w k

section Plan
variable {k t : String} {q : TenantQuota} {w w' : World}

theorem planOf_maybeResetWindows (now : Datetime) (q : TenantQuota) :
    planOf (maybeResetWindows now q) = planOf q := by
  rw [maybeResetWindows, resetMonth_fields, resetDay_fields]
  rfl

theorem planOf_effective (w : World) (k : String) : planOf (effective w k) = plan w k :=
  planOf_maybeResetWindows w.clock (rowOf w k)

/-- A plan does not depend on the time. -/
theorem plan_at (w : World) (time : Datetime) (k : String) : plan (w.at time) k = plan w k := by
  have hrows : (w.at time).quotas.find? k = w.quotas.find? k := rfl
  unfold plan rowOf
  rw [hrows]
  cases w.quotas.find? k with
  | none => rfl
  | some q => rfl

theorem plan_of_quotas (h : w'.quotas = w.quotas) : SamePlans w w' := by
  intro k
  unfold plan rowOf
  rw [h]
  cases w.quotas.find? k with
  | none => rfl
  | some q => rfl

theorem plan_of_wrote (h : Wrote t q w w') :
    plan w' k = if k = t then planOf q else plan w k := by
  unfold plan
  split
  · rename_i hk
    rw [hk, h.rowOf_same]
  · rename_i hk
    rw [h.rowOf_other hk]

theorem samePlans_of_wrote (h : Wrote t q w w') (hq : planOf q = plan w t) : SamePlans w w' := by
  intro k
  rw [plan_of_wrote h]
  split
  · rename_i hk
    rw [hk, hq]
  · rfl

theorem SamePlans.refl (w : World) : SamePlans w w := fun _ => rfl

theorem SamePlans.trans {w w' w'' : World} (h : SamePlans w w') (h' : SamePlans w' w'') :
    SamePlans w w'' := fun k => (h' k).trans (h k)

theorem checkAndIncrement_plans (t : String) :
    Effect.Keeps SamePlans (checkAndIncrement t) := by
  intro w
  obtain ⟨q, hwrote, hrow⟩ := checkAndIncrement_wrote t w
  apply samePlans_of_wrote hwrote
  rcases hrow with rfl | rfl
  · exact planOf_effective w t
  · rfl

theorem plan_exec (op : QuotaOp) (w : World) (k : String) :
    plan (op.exec w).2 k = ((op.provisions k).map priced).getD (plan w k) := by
  cases op with
  | provision create =>
    obtain ⟨w', hrun, hwrote⟩ := provision_spec create w
    rw [QuotaOp.exec, Effect.bind_ok hrun, Effect.pure_run, plan_of_wrote hwrote, QuotaOp.provisions]
    by_cases hk : create.tenantId = k
    · rw [if_pos hk, if_pos hk.symm]
      rfl
    · rw [if_neg hk, if_neg (Ne.symm hk)]
      rfl
  | getStatus t =>
    obtain ⟨w', hrun, hwrote⟩ := getStatus_spec t w
    rw [QuotaOp.exec, Effect.bind_ok hrun, Effect.pure_run]
    exact samePlans_of_wrote hwrote (planOf_effective w t) k
  | checkAndIncrement t => exact checkAndIncrement_plans t w k
  | resetDaily t =>
    obtain ⟨w', hrun, hwrote⟩ := resetDaily_spec t w
    rw [QuotaOp.exec, Effect.bind_ok hrun, Effect.pure_run]
    exact samePlans_of_wrote hwrote rfl k

end Plan

/-- Ingestion writes the quota rows only through checks. -/
theorem ingest_plans (service : IngestionService) (sha256 : ByteArray → String) (outage : Outage)
    (op : IngestOp) : Effect.Keeps SamePlans (op.run service sha256 outage) :=
  IngestOp.run_keeps @SamePlans.trans checkAndIncrement_plans (fun _ _ _ => plan_of_quotas rfl)
    (fun _ _ _ _ => plan_of_quotas rfl) sha256 outage op

/-! ### One call, and a run of calls -/

theorem plan_of_sameWorld {op : TierOp} {sha256 : ByteArray → String} {a : Accounts} {k : String}
    (hnone : op.provisions k = none)
    (h : Effect.Keeps TenantService.SameWorld (op.exec sha256)) :
    plan (op.exec sha256 a).2.world k = ((op.provisions k).map priced).getD (plan a.world k) := by
  rw [h a, hnone]
  rfl

theorem keeps_and_return {α : Type} {call : AccountService α}
    (h : Effect.Keeps TenantService.SameWorld call) :
    Effect.Keeps TenantService.SameWorld (do let _ ← call; return ()) := by
  apply Effect.Keeps.bind @TenantService.SameWorld.trans h
  exact fun _ => Effect.Keeps.pure TenantService.SameWorld.refl ()

theorem within_run {α : Type} (call : Service α) (a : Accounts) :
    (AccountService.within call a).2.world = (call a.world).2 := rfl

/-- The step lemma: a call gives a tenant the plan of the tier that it provisions for it, and no
other plan changes. -/
theorem plan_step (sha256 : ByteArray → String) (a : Accounts) (call : TierCall) (k : String) :
    plan (call.step sha256 a).world k =
      ((call.op.provisions k).map priced).getD (plan a.world k) := by
  rw [← plan_at a.world call.time, TierCall.step]
  change plan (call.op.exec sha256 (a.at call.time)).2.world k =
    ((call.op.provisions k).map priced).getD (plan (a.at call.time).world k)
  cases call.op with
  | createTenant create =>
    exact plan_of_sameWorld rfl (keeps_and_return (TenantService.create_keeps create))
  | updateTenant tenantId update =>
    exact plan_of_sameWorld rfl (keeps_and_return (TenantService.update_keeps tenantId update))
  | deactivateTenant tenantId =>
    exact plan_of_sameWorld rfl (TenantService.deactivate_keeps tenantId)
  | activateTenant tenantId =>
    exact plan_of_sameWorld rfl (keeps_and_return (TenantService.activate_keeps tenantId))
  | quota op =>
    rw [TierOp.exec, within_run]
    exact plan_exec op (a.at call.time).world k
  | ingest service op outage =>
    have hkeeps : Effect.Keeps SamePlans (do
        let _ ← op.run service sha256 outage
        return ()) := by
      apply Effect.Keeps.bind @SamePlans.trans (ingest_plans service sha256 outage op)
      exact fun _ => Effect.Keeps.pure SamePlans.refl ()
    exact hkeeps (a.at call.time).world k

/-- The run lemma: the plan of every tenant is that of the tier provisioned last. -/
theorem plan_run (sha256 : ByteArray → String) (calls : List TierCall) {a : Accounts} {k : String}
    {tier : SubscriptionTier} (h : plan a.world k = priced tier) :
    plan (calls.foldl (TierCall.step sha256) a).world k = priced (tierProvisioned k tier calls) := by
  induction calls generalizing a tier with
  | nil => exact h
  | cons call calls ih =>
    have hnext : plan (call.step sha256 a).world k =
        priced ((call.op.provisions k).getD tier) := by
      rw [plan_step, h]
      cases call.op.provisions k with
      | none => rfl
      | some provisioned => rfl
    exact ih hnext

/-- In every state of a run, from quota rows with the limits of their tiers, a check enforces the
limits of the tier in the tenant's quota row, which is the one provisioned last. They are the
limits of the tier in the tenant's own row exactly when that tier is the one provisioned last. -/
theorem enforces_provisioned (sha256 : ByteArray → String) (a : Accounts) (k : String)
    (hpriced : limitsOf (rowOf a.world k) = limitsForTier (rowOf a.world k).subscriptionTier)
    (calls : List TierCall) (time : Datetime) :
    Enforces k
        (limitsForTier (rowOf (calls.foldl (TierCall.step sha256) a).world k).subscriptionTier)
        ((calls.foldl (TierCall.step sha256) a).at time).world ∧
      (rowOf (calls.foldl (TierCall.step sha256) a).world k).subscriptionTier =
        tierProvisioned k (rowOf a.world k).subscriptionTier calls ∧
      ∀ tenant ∈ (calls.foldl (TierCall.step sha256) a).tenants.rows, tenant.slug = k →
        (Enforces k (limitsForTier tenant.subscriptionTier)
            ((calls.foldl (TierCall.step sha256) a).at time).world ↔
          tenant.subscriptionTier =
            tierProvisioned k (rowOf a.world k).subscriptionTier calls) := by
  have hstart : plan a.world k = priced (rowOf a.world k).subscriptionTier :=
    Prod.ext rfl hpriced
  have hrun := plan_run sha256 calls hstart
  have htier : (rowOf (calls.foldl (TierCall.step sha256) a).world k).subscriptionTier =
      tierProvisioned k (rowOf a.world k).subscriptionTier calls := congrArg Prod.fst hrun
  have hlimits : limitsOf (effective ((calls.foldl (TierCall.step sha256) a).at time).world k) =
      limitsForTier (tierProvisioned k (rowOf a.world k).subscriptionTier calls) := by
    have heffective := planOf_effective ((calls.foldl (TierCall.step sha256) a).at time).world k
    rw [show plan ((calls.foldl (TierCall.step sha256) a).at time).world k = _ from
      plan_at _ time k, hrun] at heffective
    exact congrArg Prod.snd heffective
  refine ⟨?_, htier, fun tenant _ _ => ?_⟩
  · rw [enforces_iff, htier]
    exact hlimits
  · rw [enforces_iff, hlimits]
    constructor
    · intro h
      exact limitsForTier_injective h.symm
    · rintro h
      rw [h]

def acmeEnterprise : TenantCreate where
  slug := "acme"
  name := "Acme"
  subscriptionTier := .enterprise

/-- The accounts after a tenant was created with the enterprise tier, and further calls. -/
def afterSignUp (calls : List TierCall) : Accounts :=
  (⟨sampleNoon, .createTenant acmeEnterprise⟩ :: calls).foldl (TierCall.step fun _ => "")
    {world := sampleWorld}

/-- Provisioning the same tier makes it the one that is enforced. -/
theorem enforces_provisioned_sample : Enforces "acme" (limitsForTier .enterprise)
    ((afterSignUp [⟨sampleNoon, .quota (.provision ⟨"acme", .enterprise⟩)⟩]).at
      sampleNoon).world :=
  ((enforces_provisioned (fun _ => "") {world := sampleWorld} "acme" rfl
    [⟨sampleNoon, .createTenant acmeEnterprise⟩,
      ⟨sampleNoon, .quota (.provision ⟨"acme", .enterprise⟩)⟩] sampleNoon).2.2
    (TenantService.newTenant sampleNoon acmeEnterprise 0) List.mem_cons_self rfl).mpr rfl

/-- A tenant that was created with the enterprise tier is allowed the thousand events a day of the
starter tier. -/
theorem enterprise_enforced_as_starter :
    (∃ tenant ∈ (afterSignUp []).tenants.rows, tenant.slug = "acme" ∧
      tenant.subscriptionTier = .enterprise) ∧
    ¬Enforces "acme" (limitsForTier .enterprise) ((afterSignUp []).at sampleNoon).world ∧
    Admits "acme" 1000 ((afterSignUp []).at sampleNoon).world := by
  refine ⟨⟨TenantService.newTenant sampleNoon acmeEnterprise 0, List.mem_cons_self, rfl, rfl⟩,
    ?_, ?_⟩
  · intro h
    have hlimits := h.compares
    revert hlimits
    decide
  · exact (admits_iff rfl).mpr rfl

end Dox
