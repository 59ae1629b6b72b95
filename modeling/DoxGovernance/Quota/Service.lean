import DoxGovernance.Lib.Text
import DoxGovernance.World

/-!
# The quota service

One row a tenant holds its limits, two counters and the starts of their windows. A check
creates the row if there is none, restarts the windows that have passed, and then refuses
the event or counts it; a refused check does not commit the restarted windows.
-/

set_option autoImplicit false

namespace Dox

structure QuotaProvision where
  tenantId : String
  subscriptionTier : SubscriptionTier := .starter

structure QuotaStatus where
  tenantId : String
  subscriptionTier : SubscriptionTier
  dailyLimit : Nat
  monthlyLimit : Nat
  eventsToday : Nat
  eventsThisMonth : Nat
  dailyRemaining : Nat
  monthlyRemaining : Nat
  isOverDailyLimit : Bool
  isOverMonthlyLimit : Bool
  dayWindowStart : Datetime
  monthWindowStart : Datetime
deriving DecidableEq

/-- `_limits_for_tier`: the daily and the monthly limit. -/
def limitsForTier : SubscriptionTier → Nat × Nat
  | .starter => (1000, 20000)
  | .professional => (10000, 200000)
  | .enterprise => (100000, 5000000)

def newQuota (now : Datetime) (tenantId : String) (tier : SubscriptionTier) : TenantQuota :=
  .init now tenantId tier (limitsForTier tier).1 (limitsForTier tier).2

/-- Two tenants with events counted; the second one has two left. -/
def sampleTenants : World where
  clock := sampleNoon
  quotas := ⟨[
    {newQuota sampleNoon "acme" .starter with eventsToday := 10, eventsThisMonth := 20},
    {newQuota sampleNoon "globex" .starter with eventsToday := 998, eventsThisMonth := 998}],
    by decide⟩

def resetDay (now : Datetime) (quota : TenantQuota) : TenantQuota :=
  if quota.dayWindowStart.date < now.date then
    {quota with eventsToday := 0, dayWindowStart := now}
  else quota

def resetMonth (now : Datetime) (quota : TenantQuota) : TenantQuota :=
  if quota.monthWindowStart < now.monthStart then
    {quota with eventsThisMonth := 0, monthWindowStart := now}
  else quota

/-- `_maybe_reset_windows`. -/
def maybeResetWindows (now : Datetime) (quota : TenantQuota) : TenantQuota :=
  resetMonth now (resetDay now quota)

/-- `_to_status`. -/
def toStatus (quota : TenantQuota) : QuotaStatus where
  tenantId := quota.tenantId
  subscriptionTier := quota.subscriptionTier
  dailyLimit := quota.dailyLimit
  monthlyLimit := quota.monthlyLimit
  eventsToday := quota.eventsToday
  eventsThisMonth := quota.eventsThisMonth
  dailyRemaining := quota.dailyLimit - quota.eventsToday
  monthlyRemaining := quota.monthlyLimit - quota.eventsThisMonth
  isOverDailyLimit := quota.eventsToday ≥ quota.dailyLimit
  isOverMonthlyLimit := quota.eventsThisMonth ≥ quota.monthlyLimit
  dayWindowStart := quota.dayWindowStart
  monthWindowStart := quota.monthWindowStart

namespace QuotaService

/-- `SELECT ... WHERE tenant_id = ...`. -/
def select (tenantId : String) : Service (Option TenantQuota) :=
  Effect.gets fun w => w.quotas.find? tenantId

def insert (quota : TenantQuota) : Service Unit := fun w =>
  match w.quotas.insert? quota with
  | some quotas => (.ok (), {w with quotas})
  | none => (.error (.integrityError "tenant_quotas_tenant_id_key"), w)

def save (quota : TenantQuota) : Service Unit :=
  Effect.change fun w => ((), {w with quotas := w.quotas.set quota})

/-- `_get_or_create`. -/
def getOrCreate (tenantId : String) : Service TenantQuota := do
  match ← select tenantId with
  | some quota => return quota
  | none =>
    let quota := newQuota (← now) tenantId .starter
    insert quota
    return quota

def provision (create : QuotaProvision) : Service TenantQuota := do
  match ← select create.tenantId with
  | none =>
    let quota := newQuota (← now) create.tenantId create.subscriptionTier
    insert quota
    return quota
  | some quota =>
    let quota := {quota with
      subscriptionTier := create.subscriptionTier
      dailyLimit := (limitsForTier create.subscriptionTier).1
      monthlyLimit := (limitsForTier create.subscriptionTier).2}
    save quota
    return quota

def getStatus (tenantId : String) : Service QuotaStatus := do
  let quota ← getOrCreate tenantId
  let quota := maybeResetWindows (← now) quota
  save quota
  return toStatus quota

def dailyMessage (quota : TenantQuota) (tenantId : String) : String :=
  s!"Daily event limit of {Text.thousands quota.dailyLimit} reached for tenant {Text.repr tenantId}"

def monthlyMessage (quota : TenantQuota) (tenantId : String) : String :=
  s!"Monthly event limit of {Text.thousands quota.monthlyLimit} reached for tenant " ++
    Text.repr tenantId

/-- `check_and_increment`. -/
def checkAndIncrement (tenantId : String) : Service Unit := do
  let quota ← getOrCreate tenantId
  let quota := maybeResetWindows (← now) quota
  if quota.eventsToday ≥ quota.dailyLimit then
    Effect.raise (.quotaExceeded (dailyMessage quota tenantId))
  else if quota.eventsThisMonth ≥ quota.monthlyLimit then
    Effect.raise (.quotaExceeded (monthlyMessage quota tenantId))
  else
    save {quota with
      eventsToday := quota.eventsToday + 1
      eventsThisMonth := quota.eventsThisMonth + 1}

def resetDaily (tenantId : String) : Service QuotaStatus := do
  let quota ← getOrCreate tenantId
  let quota := {quota with eventsToday := 0, dayWindowStart := ← now}
  save quota
  return toStatus quota

/-! ### What each operation leaves behind -/

/-- The row a tenant has, or would be given now. -/
def rowOf (w : World) (tenantId : String) : TenantQuota :=
  (w.quotas.find? tenantId).getD (newQuota w.clock tenantId .starter)

/-- `w'` is `w` with one row written: the row of the tenant is now `quota`. -/
def Wrote (tenantId : String) (quota : TenantQuota) (w w' : World) : Prop :=
  ∃ quotas, w' = {w with quotas} ∧
    ∀ k, quotas.find? k = if k = tenantId then some quota else w.quotas.find? k

theorem tenantId_rowOf (w : World) (t : String) : (rowOf w t).tenantId = t := by
  unfold rowOf
  cases h : w.quotas.find? t with
  | none => rfl
  | some quota => exact Table.key_of_find? h

theorem Wrote.clock {t : String} {q : TenantQuota} {w w' : World} (h : Wrote t q w w') :
    w'.clock = w.clock := by
  obtain ⟨quotas, rfl, _⟩ := h
  rfl

theorem Wrote.rowOf_same {t : String} {q : TenantQuota} {w w' : World} (h : Wrote t q w w') :
    rowOf w' t = q := by
  obtain ⟨quotas, rfl, hfind⟩ := h
  simp only [rowOf, hfind, if_pos, Option.getD_some]

theorem Wrote.rowOf_other {t : String} {q : TenantQuota} {w w' : World} (h : Wrote t q w w')
    {k : String} (hk : k ≠ t) : rowOf w' k = rowOf w k := by
  obtain ⟨quotas, rfl, hfind⟩ := h
  simp only [rowOf, hfind, if_neg hk]

theorem insert_spec {t : String} {q : TenantQuota} {w : World} (hq : q.tenantId = t)
    (hfind : w.quotas.find? t = none) :
    ∃ w', insert q w = (.ok (), w') ∧ Wrote t q w w' := by
  have hnew : (w.quotas.insert? q).isSome := by
    rw [Table.insert?_isSome_iff, hq]
    exact hfind
  obtain ⟨quotas, hquotas⟩ := Option.isSome_iff_exists.mp hnew
  refine ⟨{w with quotas}, by simp only [insert, hquotas], quotas, rfl, ?_⟩
  intro k
  rw [Table.find?_insert? hquotas, hq]
  by_cases hk : k = t
  · rw [if_pos hk, if_pos hk.symm]
  · rw [if_neg hk, if_neg (Ne.symm hk)]

theorem wrote_refl {t : String} {q : TenantQuota} {w : World} (hfind : w.quotas.find? t = some q) :
    Wrote t q w w := by
  refine ⟨w.quotas, rfl, fun k => ?_⟩
  by_cases hk : k = t
  · rw [if_pos hk, hk, hfind]
  · rw [if_neg hk]

theorem rowOf_of_find {t : String} {q : TenantQuota} {w : World}
    (hfind : w.quotas.find? t = some q) : rowOf w t = q := by
  rw [rowOf, hfind, Option.getD_some]

theorem rowOf_of_none {t : String} {w : World} (hfind : w.quotas.find? t = none) :
    rowOf w t = newQuota w.clock t .starter := by
  rw [rowOf, hfind, Option.getD_none]

theorem getOrCreate_spec (t : String) (w : World) :
    ∃ w', getOrCreate t w = (.ok (rowOf w t), w') ∧ Wrote t (rowOf w t) w w' := by
  cases hfind : w.quotas.find? t with
  | some quota =>
    rw [rowOf_of_find hfind]
    refine ⟨w, ?_, wrote_refl hfind⟩
    simp only [getOrCreate, select, Effect.bind_run, Effect.gets_run, hfind, Effect.pure_run]
  | none =>
    rw [rowOf_of_none hfind]
    obtain ⟨w', hinsert, hwrote⟩ := insert_spec
      (q := newQuota w.clock t .starter) rfl hfind
    refine ⟨w', ?_, hwrote⟩
    simp only [getOrCreate, select, now, Effect.bind_run, Effect.gets_run, hfind, hinsert,
      Effect.pure_run]

theorem save_spec {t : String} {q r : TenantQuota} {w w' : World} (h : Wrote t q w w')
    (hr : r.tenantId = t) : ∃ w'', save r w' = (.ok (), w'') ∧ Wrote t r w w'' := by
  obtain ⟨quotas, rfl, hfind⟩ := h
  refine ⟨{w with quotas := quotas.set r}, rfl, _, rfl, ?_⟩
  intro k
  rw [Table.find?_set, hr, hfind]
  by_cases hk : k = t
  · subst hk
    rw [if_pos rfl, if_pos rfl, if_pos rfl, Option.map_some]
  · rw [if_neg (Ne.symm hk), if_neg hk, if_neg hk]

theorem resetDay_fields (t : Datetime) (q : TenantQuota) :
    resetDay t q = {q with
      eventsToday := (resetDay t q).eventsToday
      dayWindowStart := (resetDay t q).dayWindowStart} := by
  unfold resetDay
  split <;> rfl

theorem resetMonth_fields (t : Datetime) (q : TenantQuota) :
    resetMonth t q = {q with
      eventsThisMonth := (resetMonth t q).eventsThisMonth
      monthWindowStart := (resetMonth t q).monthWindowStart} := by
  unfold resetMonth
  split <;> rfl

@[simp] theorem tenantId_maybeResetWindows (t : Datetime) (q : TenantQuota) :
    (maybeResetWindows t q).tenantId = q.tenantId := by
  rw [maybeResetWindows, resetMonth_fields, resetDay_fields]

@[simp] theorem limits_maybeResetWindows (t : Datetime) (q : TenantQuota) :
    (maybeResetWindows t q).dailyLimit = q.dailyLimit ∧
      (maybeResetWindows t q).monthlyLimit = q.monthlyLimit := by
  rw [maybeResetWindows, resetMonth_fields, resetDay_fields]
  exact ⟨rfl, rfl⟩

/-- The row a check decides on: the tenant's row with the windows that have passed restarted. -/
def effective (w : World) (tenantId : String) : TenantQuota :=
  maybeResetWindows w.clock (rowOf w tenantId)

def count (quota : TenantQuota) : TenantQuota :=
  {quota with
    eventsToday := quota.eventsToday + 1
    eventsThisMonth := quota.eventsThisMonth + 1}

@[simp] theorem tenantId_count (q : TenantQuota) : (count q).tenantId = q.tenantId := rfl

def HasRoom (quota : TenantQuota) : Prop :=
  quota.eventsToday < quota.dailyLimit ∧ quota.eventsThisMonth < quota.monthlyLimit

instance (quota : TenantQuota) : Decidable (HasRoom quota) :=
  inferInstanceAs (Decidable (_ ∧ _))

theorem tenantId_effective (w : World) (t : String) : (effective w t).tenantId = t := by
  rw [effective, tenantId_maybeResetWindows, tenantId_rowOf]

/-- A check counts the event when the row has room for it. -/
theorem checkAndIncrement_admits {t : String} {w : World} (h : HasRoom (effective w t)) :
    ∃ w', checkAndIncrement t w = (.ok (), w') ∧ Wrote t (count (effective w t)) w w' := by
  obtain ⟨w', hget, hwrote⟩ := getOrCreate_spec t w
  obtain ⟨w'', hsave, hwrote'⟩ := save_spec hwrote
    (r := count (effective w t)) ((tenantId_count _).trans (tenantId_effective w t))
  refine ⟨w'', ?_, hwrote'⟩
  rw [checkAndIncrement, Effect.bind_ok hget, Effect.bind_ok (now_run w'), hwrote.clock,
    ← effective, if_neg (Nat.not_le.mpr h.1), if_neg (Nat.not_le.mpr h.2)]
  exact hsave

/-- A check of a row without room raises and commits no more than the row it has created. -/
theorem checkAndIncrement_refuses {t : String} {w : World} (h : ¬HasRoom (effective w t)) :
    ∃ w' detail, checkAndIncrement t w = (.error (.quotaExceeded detail), w') ∧
      Wrote t (rowOf w t) w w' := by
  obtain ⟨w', hget, hwrote⟩ := getOrCreate_spec t w
  by_cases hday : (effective w t).eventsToday ≥ (effective w t).dailyLimit
  · refine ⟨w', dailyMessage (effective w t) t, ?_, hwrote⟩
    rw [checkAndIncrement, Effect.bind_ok hget, Effect.bind_ok (now_run w'), hwrote.clock,
      ← effective, if_pos hday, Effect.raise_run]
  · have hmonth : (effective w t).eventsThisMonth ≥ (effective w t).monthlyLimit := by
      unfold HasRoom at h
      omega
    refine ⟨w', monthlyMessage (effective w t) t, ?_, hwrote⟩
    rw [checkAndIncrement, Effect.bind_ok hget, Effect.bind_ok (now_run w'), hwrote.clock,
      ← effective, if_neg hday, if_pos hmonth, Effect.raise_run]

/-- Counted or refused, a check writes the row of its tenant and nothing else. -/
theorem checkAndIncrement_wrote (t : String) (w : World) :
    ∃ q, Wrote t q w (checkAndIncrement t w).2 ∧ (q = count (effective w t) ∨ q = rowOf w t) := by
  by_cases hroom : HasRoom (effective w t)
  · obtain ⟨w', hrun, hwrote⟩ := checkAndIncrement_admits hroom
    rw [hrun]
    exact ⟨_, hwrote, Or.inl rfl⟩
  · obtain ⟨w', detail, hrun, hwrote⟩ := checkAndIncrement_refuses hroom
    rw [hrun]
    exact ⟨_, hwrote, Or.inr rfl⟩

theorem getStatus_spec (t : String) (w : World) :
    ∃ w', getStatus t w = (.ok (toStatus (effective w t)), w') ∧
      Wrote t (effective w t) w w' := by
  obtain ⟨w', hget, hwrote⟩ := getOrCreate_spec t w
  obtain ⟨w'', hsave, hwrote'⟩ := save_spec hwrote (tenantId_effective w t)
  refine ⟨w'', ?_, hwrote'⟩
  rw [getStatus, Effect.bind_ok hget, Effect.bind_ok (now_run w'), hwrote.clock, ← effective,
    Effect.bind_ok hsave, Effect.pure_run]

def zeroDay (now : Datetime) (quota : TenantQuota) : TenantQuota :=
  {quota with eventsToday := 0, dayWindowStart := now}

theorem resetDaily_spec (t : String) (w : World) :
    ∃ w', resetDaily t w = (.ok (toStatus (zeroDay w.clock (rowOf w t))), w') ∧
      Wrote t (zeroDay w.clock (rowOf w t)) w w' := by
  obtain ⟨w', hget, hwrote⟩ := getOrCreate_spec t w
  obtain ⟨w'', hsave, hwrote'⟩ := save_spec hwrote
    (r := zeroDay w.clock (rowOf w t)) (tenantId_rowOf w t)
  refine ⟨w'', ?_, hwrote'⟩
  rw [resetDaily, Effect.bind_ok hget, Effect.bind_ok (now_run w'), hwrote.clock, ← zeroDay,
    Effect.bind_ok hsave, Effect.pure_run]

def setTier (tier : SubscriptionTier) (quota : TenantQuota) : TenantQuota :=
  {quota with
    subscriptionTier := tier
    dailyLimit := (limitsForTier tier).1
    monthlyLimit := (limitsForTier tier).2}

@[simp] theorem tenantId_setTier (tier : SubscriptionTier) (q : TenantQuota) :
    (setTier tier q).tenantId = q.tenantId := rfl

theorem provision_spec (create : QuotaProvision) (w : World) :
    ∃ w', provision create w =
        (.ok (setTier create.subscriptionTier (rowOf w create.tenantId)), w') ∧
      Wrote create.tenantId (setTier create.subscriptionTier (rowOf w create.tenantId)) w w' := by
  cases hfind : w.quotas.find? create.tenantId with
  | none =>
    rw [rowOf_of_none hfind]
    obtain ⟨w', hinsert, hwrote⟩ := insert_spec
      (q := setTier create.subscriptionTier (newQuota w.clock create.tenantId .starter)) rfl hfind
    refine ⟨w', ?_, hwrote⟩
    have hnew : newQuota w.clock create.tenantId create.subscriptionTier =
      setTier create.subscriptionTier (newQuota w.clock create.tenantId .starter) := rfl
    simp only [provision, select, now, Effect.bind_run, Effect.gets_run, hfind, hnew, hinsert,
      Effect.pure_run]
  | some quota =>
    rw [rowOf_of_find hfind]
    obtain ⟨w', hsave, hwrote⟩ := save_spec
      (r := setTier create.subscriptionTier quota) (wrote_refl hfind)
      ((tenantId_setTier _ _).trans (Table.key_of_find? hfind))
    refine ⟨w', ?_, hwrote⟩
    simp only [setTier] at hsave
    simp only [provision, select, Effect.bind_run, Effect.gets_run, hfind, hsave,
      Effect.pure_run, setTier]

end QuotaService

end Dox
