import DoxGovernance.Quota.Service

/-!
# Accounts

Seen from one day, a row is an account: its counters, with those of a passed window at
zero, and its limits. A check charges the account of its tenant one event when it has room
and leaves every account as it is otherwise; a loop of checks succeeds when no tenant
occurs in it more often than its account has room.
-/

set_option autoImplicit false

namespace Dox
namespace QuotaService

/-! ### The counters as of a day -/

def today (d : Date) (q : TenantQuota) : Nat :=
  if q.dayWindowStart.date < d then 0 else q.eventsToday

def thisMonth (d : Date) (q : TenantQuota) : Nat :=
  if q.monthWindowStart.monthIndex < d.monthIndex then 0 else q.eventsThisMonth

/-- Neither window of the row has passed. -/
def Current (d : Date) (q : TenantQuota) : Prop :=
  ¬q.dayWindowStart.date < d ∧ ¬q.monthWindowStart.monthIndex < d.monthIndex

instance (d : Date) (q : TenantQuota) : Decidable (Current d q) :=
  inferInstanceAs (Decidable (_ ∧ _))

def limitsOf (q : TenantQuota) : Nat × Nat := (q.dailyLimit, q.monthlyLimit)

section Reset
variable {d : Date} {now : Datetime} {q : TenantQuota}

theorem monthIndex_eq (h : now.date = d) : now.monthIndex = d.monthIndex := by
  rw [Datetime.monthIndex, h]

theorem resetDay_today (h : now.date = d) :
    (resetDay now q).eventsToday = today d q ∧ ¬(resetDay now q).dayWindowStart.date < d := by
  subst h
  by_cases hpast : q.dayWindowStart.date < now.date
  · have hrow : resetDay now q = {q with eventsToday := 0, dayWindowStart := now} := if_pos hpast
    rw [hrow, today, if_pos hpast]
    exact ⟨rfl, lt_irrefl _⟩
  · have hrow : resetDay now q = q := if_neg hpast
    rw [hrow, today, if_neg hpast]
    exact ⟨rfl, hpast⟩

theorem resetMonth_thisMonth (h : now.date = d) :
    (resetMonth now q).eventsThisMonth = thisMonth d q ∧
      ¬(resetMonth now q).monthWindowStart.monthIndex < d.monthIndex := by
  by_cases hpast : q.monthWindowStart < now.monthStart
  · have hrow : resetMonth now q = {q with eventsThisMonth := 0, monthWindowStart := now} :=
      if_pos hpast
    have hindex := Datetime.lt_monthStart_iff.mp hpast
    rw [monthIndex_eq h] at hindex
    rw [hrow, thisMonth, if_pos hindex, ← monthIndex_eq h]
    exact ⟨rfl, lt_irrefl _⟩
  · have hrow : resetMonth now q = q := if_neg hpast
    have hindex : ¬q.monthWindowStart.monthIndex < d.monthIndex := by
      rw [← monthIndex_eq h]
      exact fun hlt => hpast (Datetime.lt_monthStart_iff.mpr hlt)
    rw [hrow, thisMonth, if_neg hindex]
    exact ⟨rfl, hindex⟩

/-- Restarting the passed windows makes a row current and its counters those as of the day. -/
theorem maybeReset_current (h : now.date = d) :
    (maybeResetWindows now q).eventsToday = today d q ∧
      (maybeResetWindows now q).eventsThisMonth = thisMonth d q ∧
      Current d (maybeResetWindows now q) := by
  obtain ⟨htoday, hdate⟩ := resetDay_today (q := q) h
  obtain ⟨hmonth, hindex⟩ := resetMonth_thisMonth (q := resetDay now q) h
  have hday := resetMonth_fields now (resetDay now q)
  have hrest := resetDay_fields now q
  refine ⟨?_, ?_, ?_, hindex⟩
  · rw [maybeResetWindows, hday, htoday]
  · rw [maybeResetWindows, hmonth, hrest]
    rfl
  · rw [maybeResetWindows, hday]
    exact hdate

theorem maybeReset_of_current (h : now.date = d) (hq : Current d q) :
    maybeResetWindows now q = q := by
  have hday : resetDay now q = q := if_neg (by rw [h]; exact hq.1)
  rw [maybeResetWindows, hday]
  refine if_neg fun hlt => hq.2 ?_
  rw [← monthIndex_eq h]
  exact Datetime.lt_monthStart_iff.mp hlt

end Reset

/-! ### Accounts -/

@[ext] structure Account where
  today : Nat
  thisMonth : Nat
  dailyLimit : Nat
  monthlyLimit : Nat

namespace Account

def remaining (a : Account) : Nat := min (a.dailyLimit - a.today) (a.monthlyLimit - a.thisMonth)

def charge (a : Account) (n : Nat) : Account :=
  {a with today := a.today + n, thisMonth := a.thisMonth + n}

@[simp] theorem charge_zero (a : Account) : a.charge 0 = a := rfl

theorem charge_charge (a : Account) (m n : Nat) : (a.charge m).charge n = a.charge (m + n) := by
  simp only [charge, Nat.add_assoc]

theorem remaining_charge (a : Account) (n : Nat) :
    (a.charge n).remaining = a.remaining - n := by
  simp only [charge, remaining]
  omega

end Account

def accountOf (d : Date) (q : TenantQuota) : Account :=
  ⟨QuotaService.today d q, QuotaService.thisMonth d q, q.dailyLimit, q.monthlyLimit⟩

def newAccount : Account := ⟨0, 0, (limitsForTier .starter).1, (limitsForTier .starter).2⟩

def account (d : Date) (w : World) (tenantId : String) : Account :=
  ((w.quotas.find? tenantId).map (accountOf d)).getD newAccount

/-- Only the quota table differs between the worlds, and every account is charged as often as
its tenant occurs in the list. -/
def Charges (d : Date) (ts : List String) (w w' : World) : Prop :=
  (∃ quotas, w' = {w with quotas}) ∧ ∀ k, account d w' k = (account d w k).charge (ts.count k)

section Accounts
variable {d : Date} {w w' w'' : World} {t : String} {ts us : List String}

theorem Charges.clock (h : Charges d ts w w') : w'.clock = w.clock := by
  obtain ⟨⟨quotas, rfl⟩, _⟩ := h
  rfl

theorem Charges.remaining (h : Charges d ts w w') (k : String) :
    (account d w' k).remaining = (account d w k).remaining - ts.count k := by
  rw [h.2, Account.remaining_charge]

theorem Charges.trans (h : Charges d ts w w') (h' : Charges d us w' w'') :
    Charges d (ts ++ us) w w'' := by
  obtain ⟨⟨quotas, rfl⟩, haccount⟩ := h
  obtain ⟨⟨quotas', rfl⟩, haccount'⟩ := h'
  refine ⟨⟨quotas', rfl⟩, fun k => ?_⟩
  rw [haccount', haccount, Account.charge_charge, List.count_append]

theorem account_of_wrote {q : TenantQuota} (h : Wrote t q w w') (k : String) :
    account d w' k = if k = t then accountOf d q else account d w k := by
  obtain ⟨quotas, rfl, hfind⟩ := h
  unfold account
  rw [hfind]
  by_cases hk : k = t
  · rw [if_pos hk, if_pos hk, Option.map_some, Option.getD_some]
  · rw [if_neg hk, if_neg hk]

/-- Writing the row of a tenant charges what its account differs by, and nobody else. -/
theorem charges_of_wrote {q : TenantQuota} (h : Wrote t q w w')
    (hother : ∀ k, k ≠ t → ts.count k = 0)
    (hq : accountOf d q = (account d w t).charge (ts.count t)) : Charges d ts w w' := by
  have haccount := account_of_wrote (d := d) h
  obtain ⟨quotas, hw, _⟩ := h
  refine ⟨⟨quotas, hw⟩, fun k => ?_⟩
  rw [haccount]
  by_cases hk : k = t
  · rw [if_pos hk, hk, hq]
  · rw [if_neg hk, hother k hk, Account.charge_zero]

theorem accountOf_rowOf : accountOf d (rowOf w t) = account d w t := by
  unfold account
  cases hfind : w.quotas.find? t with
  | some q => rw [rowOf_of_find hfind, Option.map_some, Option.getD_some]
  | none =>
    rw [rowOf_of_none hfind, Option.map_none, Option.getD_none, accountOf, today, thisMonth]
    ext
    · exact ite_self 0
    · exact ite_self 0
    · rfl
    · rfl

/-- On the day of the clock, the row a check decides on shows the account. -/
theorem accountOf_effective (hd : w.clock.date = d) :
    Current d (effective w t) ∧ account d w t = ⟨(effective w t).eventsToday,
      (effective w t).eventsThisMonth, (effective w t).dailyLimit, (effective w t).monthlyLimit⟩ := by
  obtain ⟨htoday, hmonth, hcurrent⟩ := maybeReset_current (q := rowOf w t) hd
  obtain ⟨hdaily, hmonthly⟩ := limits_maybeResetWindows w.clock (rowOf w t)
  refine ⟨hcurrent, ?_⟩
  rw [← accountOf_rowOf, accountOf, effective, htoday, hmonth, hdaily, hmonthly]

theorem accountOf_count (hd : w.clock.date = d) :
    accountOf d (count (effective w t)) = (account d w t).charge 1 := by
  obtain ⟨hcurrent, haccount⟩ := accountOf_effective (t := t) hd
  have htoday : today d (count (effective w t)) = (effective w t).eventsToday + 1 :=
    if_neg hcurrent.1
  have hmonth : thisMonth d (count (effective w t)) = (effective w t).eventsThisMonth + 1 :=
    if_neg hcurrent.2
  rw [accountOf, htoday, hmonth, haccount]
  rfl

theorem hasRoom_effective (hd : w.clock.date = d) :
    HasRoom (effective w t) ↔ 0 < (account d w t).remaining := by
  rw [(accountOf_effective hd).2, HasRoom, Account.remaining]
  dsimp only
  omega

theorem check_charges (hd : w.clock.date = d) (h : 0 < (account d w t).remaining) :
    ∃ w', checkAndIncrement t w = (.ok (), w') ∧ Charges d [t] w w' := by
  obtain ⟨w', hrun, hwrote⟩ := checkAndIncrement_admits ((hasRoom_effective hd).mpr h)
  refine ⟨w', hrun, charges_of_wrote hwrote ?_ ?_⟩
  · intro k hk
    exact List.count_eq_zero.mpr (by simpa using hk)
  · rw [accountOf_count hd, List.count_singleton_self]

theorem check_refuses (hd : w.clock.date = d) (h : (account d w t).remaining = 0) :
    ∃ w' detail, checkAndIncrement t w = (.error (.quotaExceeded detail), w') ∧
      Charges d [] w w' := by
  have hroom : ¬HasRoom (effective w t) := by
    rw [hasRoom_effective hd]
    omega
  obtain ⟨w', detail, hrun, hwrote⟩ := checkAndIncrement_refuses hroom
  exact ⟨w', detail, hrun, charges_of_wrote hwrote (fun _ _ => rfl) accountOf_rowOf⟩

/-- Checks of a list of tenants all succeed when no tenant occurs more often than its account
has room, and charge each tenant its occurrences. -/
theorem checks_charge (hd : w.clock.date = d)
    (hroom : ∀ k, ts.count k ≤ (account d w k).remaining) :
    ∃ w', Effect.forEach checkAndIncrement ts w = (.ok (), w') ∧ Charges d ts w w' := by
  induction ts generalizing w with
  | nil => exact ⟨w, rfl, ⟨w.quotas, rfl⟩, fun _ => rfl⟩
  | cons t ts ih =>
    have hfirst : 0 < (account d w t).remaining := by
      have hcount := hroom t
      rw [List.count_cons_self] at hcount
      omega
    obtain ⟨w', hrun, hcharge⟩ := check_charges hd hfirst
    have hrest : ∀ k, ts.count k ≤ (account d w' k).remaining := by
      intro k
      have hcount := hroom k
      rw [← List.singleton_append, List.count_append] at hcount
      rw [hcharge.remaining]
      omega
    obtain ⟨w'', hloop, hcharges⟩ := ih (by rw [hcharge.clock, hd]) hrest
    refine ⟨w'', ?_, hcharge.trans hcharges⟩
    rw [Effect.forEach_cons, Effect.bind_ok hrun, hloop]

/-- Otherwise the loop raises, and writes to the quota table only. -/
theorem checks_refuse (hd : w.clock.date = d) (h : ∃ k, (account d w k).remaining < ts.count k) :
    ∃ w' e, Effect.forEach checkAndIncrement ts w = (.error e, w') ∧
      ∃ quotas, w' = {w with quotas} := by
  induction ts generalizing w with
  | nil =>
    obtain ⟨k, hk⟩ := h
    exact absurd hk (Nat.not_lt_zero _)
  | cons t ts ih =>
    rw [Effect.forEach_cons]
    rcases Nat.eq_zero_or_pos (account d w t).remaining with hnone | hfirst
    · obtain ⟨w', detail, hrun, hcharges⟩ := check_refuses hd hnone
      exact ⟨w', _, Effect.bind_error hrun, hcharges.1⟩
    · obtain ⟨w', hrun, hcharges⟩ := check_charges hd hfirst
      have hrest : ∃ k, (account d w' k).remaining < ts.count k := by
        obtain ⟨k, hk⟩ := h
        rw [← List.singleton_append, List.count_append] at hk
        refine ⟨k, ?_⟩
        rw [hcharges.remaining]
        by_cases hkt : t = k
        · subst hkt
          rw [List.count_singleton_self] at hk ⊢
          omega
        · have hcount : [t].count k = 0 := List.count_eq_zero.mpr (by simpa using Ne.symm hkt)
          rw [hcount] at hk ⊢
          omega
      obtain ⟨w'', e, hloop, quotas', hw⟩ := ih (by rw [hcharges.clock, hd]) hrest
      obtain ⟨quotas, rfl⟩ := hcharges.1
      exact ⟨w'', e, (Effect.bind_ok hrun).trans hloop, quotas', hw⟩

end Accounts

end QuotaService
end Dox
