import DoxGovernance.Quota.Account
import DoxGovernance.Quota.Router

/-!
# What a quota status promises

The lesser of the two remaining counts of a status should be the number of checks that are
still admitted. The account of the tenant decides how many are. A status is read off a row
as it is stored, so it promises too little when the window of its tightest limit has passed
and was not restarted: provisioning restarts no window, the daily reset only that of the
day, and the status query both.
-/

set_option autoImplicit false

namespace Dox
namespace QuotaService

section Admits
variable {d : Date} {t : String} {n : Nat} {w : World}

/-- So many checks of the tenant succeed one after the other, and the next one is refused. -/
def Admits (t : String) (n : Nat) (w : World) : Prop :=
  ∃ w' w'' detail, Effect.forEach checkAndIncrement (List.replicate n t) w = (.ok (), w') ∧
    checkAndIncrement t w' = (.error (.quotaExceeded detail), w'')

theorem admits_remaining (hd : w.clock.date = d) :
    Admits t (account d w t).remaining w := by
  have hroom : ∀ k, (List.replicate (account d w t).remaining t).count k ≤
      (account d w k).remaining := by
    intro k
    rw [List.count_replicate]
    split
    · rename_i hk
      rw [beq_iff_eq.mp hk]
    · exact Nat.zero_le _
  obtain ⟨w', hrun, hcharges⟩ := checks_charge hd hroom
  have hnone : (account d w' t).remaining = 0 := by
    rw [hcharges.remaining, List.count_replicate_self]
    omega
  obtain ⟨w'', detail, hrefused, _⟩ := check_refuses (hcharges.clock ▸ hd) hnone
  exact ⟨w', w'', detail, hrun, hrefused⟩

/-- Only one number of checks is admitted: the room of the account. -/
theorem admits_iff (hd : w.clock.date = d) : Admits t n w ↔ n = (account d w t).remaining := by
  constructor
  · rintro ⟨w', w'', detail, hrun, hrefused⟩
    by_cases hroom : ∀ k, (List.replicate n t).count k ≤ (account d w k).remaining
    · obtain ⟨w₁, hrun', hcharges⟩ := checks_charge hd hroom
      rw [hrun'] at hrun
      cases hrun
      have hle := hroom t
      have hleft := hcharges.remaining t
      rw [List.count_replicate_self] at hle hleft
      rcases Nat.eq_zero_or_pos (account d w' t).remaining with hnone | hsome
      · omega
      · obtain ⟨w₂, hadmitted, _⟩ := check_charges (hcharges.clock ▸ hd) hsome
        rw [hadmitted] at hrefused
        cases hrefused
    · simp only [not_forall, Nat.not_le] at hroom
      obtain ⟨w₁, e, hrun', _⟩ := checks_refuse hd hroom
      rw [hrun'] at hrun
      cases hrun
  · rintro rfl
    exact admits_remaining hd

end Admits

/-- The lesser of the two remaining counts. -/
def promised (status : QuotaStatus) : Nat := min status.dailyRemaining status.monthlyRemaining

/-- The status says how many checks are admitted, and raises a flag when it is none. -/
def Accurate (status : QuotaStatus) (w : World) : Prop :=
  Admits status.tenantId (promised status) w ∧
    ((status.isOverDailyLimit = true ∨ status.isOverMonthlyLimit = true) ↔ promised status = 0)

/-- The window of the day has not passed, or has counted nothing against the limit. -/
def DayOpen (d : Date) (limit : Nat) (q : TenantQuota) : Prop :=
  ¬q.dayWindowStart.date < d ∨ min q.eventsToday limit = 0

def MonthOpen (d : Date) (limit : Nat) (q : TenantQuota) : Prop :=
  ¬q.monthWindowStart.monthIndex < d.monthIndex ∨ min q.eventsThisMonth limit = 0

/-- A limit that leaves the least is that of an open window. -/
def TightIsOpen (d : Date) (limits : Nat × Nat) (q : TenantQuota) : Prop :=
  (limits.1 - q.eventsToday ≤ limits.2 - q.eventsThisMonth ∧ DayOpen d limits.1 q) ∨
    (limits.2 - q.eventsThisMonth ≤ limits.1 - q.eventsToday ∧ MonthOpen d limits.2 q)

/-- Two counts that can only grow keep their minimum exactly when a smaller one stays. -/
theorem min_eq_min_iff {a b a' b' : Nat} (ha : a ≤ a') (hb : b ≤ b') :
    min a b = min a' b' ↔ (a ≤ b ∧ a = a') ∨ (b ≤ a ∧ b = b') := by
  omega

/-- Restarting a passed window leaves the remaining count when there was nothing to gain. -/
theorem remaining_restarted_iff {passed : Prop} [Decidable passed] (counter limit : Nat) :
    limit - counter = limit - (if passed then 0 else counter) ↔
      ¬passed ∨ min counter limit = 0 := by
  split
  · rename_i h
    rw [or_iff_right (not_not.mpr h)]
    omega
  · exact iff_of_true rfl (Or.inl (by assumption))

/-- The room of a row's account is what the row shows exactly when its tightest limit is that of
an open window. -/
theorem promised_eq_remaining_iff (d : Date) (q : TenantQuota) :
    promised (toStatus q) = (accountOf d q).remaining ↔ TightIsOpen d (limitsOf q) q := by
  have hday : q.dailyLimit - q.eventsToday ≤ q.dailyLimit - today d q := by
    unfold today
    split <;> omega
  have hmonth : q.monthlyLimit - q.eventsThisMonth ≤ q.monthlyLimit - thisMonth d q := by
    unfold thisMonth
    split <;> omega
  rw [TightIsOpen, DayOpen, MonthOpen, ← remaining_restarted_iff, ← remaining_restarted_iff]
  exact min_eq_min_iff hday hmonth

theorem flags_iff (q : TenantQuota) :
    ((toStatus q).isOverDailyLimit = true ∨ (toStatus q).isOverMonthlyLimit = true) ↔
      promised (toStatus q) = 0 := by
  simp only [promised, toStatus, decide_eq_true_iff]
  omega

theorem accurate_iff {t : String} {q : TenantQuota} {w w' : World} (h : Wrote t q w w')
    (hq : q.tenantId = t) :
    Accurate (toStatus q) w' ↔ TightIsOpen w.clock.date (limitsOf q) q := by
  have haccount := account_of_wrote (d := w.clock.date) h t
  rw [if_pos rfl] at haccount
  rw [Accurate, and_iff_left (flags_iff q), admits_iff (d := w.clock.date) (by rw [h.clock]),
    show (toStatus q).tenantId = t from hq, haccount]
  exact promised_eq_remaining_iff _ q

/-- A row whose windows have just been restarted is tight in an open window. -/
theorem tightIsOpen_of_current {d : Date} {q : TenantQuota} (h : Current d q) :
    TightIsOpen d (limitsOf q) q := by
  rcases Nat.le_total (q.dailyLimit - q.eventsToday) (q.monthlyLimit - q.eventsThisMonth) with
    hle | hle
  · exact Or.inl ⟨hle, Or.inl h.1⟩
  · exact Or.inr ⟨hle, Or.inl h.2⟩

/-- After a daily reset only the month can be tight in a passed window. -/
theorem tightIsOpen_zeroDay_iff {now : Datetime} {q : TenantQuota} :
    TightIsOpen now.date (limitsOf (zeroDay now q)) (zeroDay now q) ↔
      q.dailyLimit ≤ q.monthlyLimit - q.eventsThisMonth ∨
        MonthOpen now.date q.monthlyLimit q := by
  have hopen : DayOpen now.date q.dailyLimit (zeroDay now q) := Or.inl (lt_irrefl _)
  have hmonth : MonthOpen now.date q.monthlyLimit (zeroDay now q) ↔
      MonthOpen now.date q.monthlyLimit q := Iff.rfl
  constructor
  · rintro (⟨hle, _⟩ | ⟨_, hpassed⟩)
    · exact Or.inl hle
    · exact Or.inr (hmonth.mp hpassed)
  · rintro (hle | hpassed)
    · exact Or.inl ⟨hle, hopen⟩
    · rcases Nat.le_total q.dailyLimit (q.monthlyLimit - q.eventsThisMonth) with hle | hle
      · exact Or.inl ⟨hle, hopen⟩
      · exact Or.inr ⟨hle, hmonth.mpr hpassed⟩

end QuotaService

namespace QuotaRequest
open QuotaService

/-- When the stored row lets the operation report what is admitted: provisioning when a tightest
of the new limits is that of an open window, a status query always, and a daily reset when the
month is not tight or its window is open. -/
def Timely (w : World) : QuotaRequest → Prop
  | provisionQuota create =>
    TightIsOpen w.clock.date (limitsForTier create.subscriptionTier) (rowOf w create.tenantId)
  | getQuotaStatus _ => True
  | resetDailyQuota tenantId =>
    (rowOf w tenantId).dailyLimit ≤
        (rowOf w tenantId).monthlyLimit - (rowOf w tenantId).eventsThisMonth ∨
      MonthOpen w.clock.date (rowOf w tenantId).monthlyLimit (rowOf w tenantId)

/-- For every stored state and every instant, each of the three quota routes answers, and what it
reports is accurate exactly when the operation is timely. -/
theorem accurate_iff_timely (request : QuotaRequest) (w : World) :
    ∃ status w', request.handle w = (.ok (.quota status), w') ∧
      (Accurate status w' ↔ request.Timely w) := by
  cases request with
  | provisionQuota create =>
    obtain ⟨w', hrun, hwrote⟩ := provision_spec create w
    refine ⟨_, w', Effect.bind_ok hrun, (accurate_iff hwrote ?_).trans Iff.rfl⟩
    rw [tenantId_setTier, tenantId_rowOf]
  | getQuotaStatus tenantId =>
    obtain ⟨w', hrun, hwrote⟩ := getStatus_spec tenantId w
    refine ⟨_, w', Effect.bind_ok hrun, ?_⟩
    rw [accurate_iff hwrote (tenantId_effective w tenantId)]
    exact iff_of_true (tightIsOpen_of_current (accountOf_effective rfl).1) trivial
  | resetDailyQuota tenantId =>
    obtain ⟨w', hrun, hwrote⟩ := resetDaily_spec tenantId w
    refine ⟨_, w', Effect.bind_ok hrun, ?_⟩
    rw [accurate_iff hwrote (tenantId_rowOf w tenantId)]
    exact tightIsOpen_zeroDay_iff

/-- One event was counted yesterday, and nothing has happened since. -/
def yesterdayCounted : World :=
  (checkAndIncrement "acme" sampleWorld).2.at sampleNextNoon

/-- Provisioning reports the event of yesterday against the limit of today. -/
theorem provisioned_status_stale :
    ∃ status w', handle (.provisionQuota {tenantId := "acme"}) yesterdayCounted =
        (.ok (.quota status), w') ∧
      promised status = 999 ∧ ¬Accurate status w' := by
  refine ⟨_, _, rfl, rfl, ?_⟩
  rintro ⟨hadmits, _⟩
  exact absurd ((admits_iff rfl).mp hadmits) (by decide)

end QuotaRequest
end Dox
