import DoxGovernance.Ingestion.Acceptance

/-!
# Admission of a batch

The quota stage of a batch checks its events one by one, creating and restarting rows as it
goes. What it decides and the rows it leaves depend only on how often each tenant occurs: it
goes through when no tenant occurs more often than its status says there is room.
-/

set_option autoImplicit false

namespace Dox
namespace QuotaService

def countTimes (n : Nat) (q : TenantQuota) : TenantQuota :=
  {q with
    eventsToday := q.eventsToday + n
    eventsThisMonth := q.eventsThisMonth + n}

theorem countTimes_count (n : Nat) (q : TenantQuota) :
    countTimes n (count q) = countTimes (n + 1) q := by
  simp only [countTimes, count, Nat.add_assoc, Nat.add_comm 1 n]

/-- The row of every tenant of the list is the one it would have been checked on, counted as
often as the tenant occurs; the other rows are as they were. -/
def Counted (ts : List String) (w w' : World) : Prop :=
  w'.clock = w.clock ∧ ∀ k, w'.quotas.find? k =
    if ts.count k = 0 then w.quotas.find? k else some (countTimes (ts.count k) (effective w k))

section Counted
variable {w w' w'' : World} {t : String} {ts us : List String}

/-- A row that has just been counted is checked as it is. -/
theorem effective_of_counted (h : Wrote t (count (effective w t)) w w') :
    effective w' t = count (effective w t) := by
  have hcurrent : Current w.clock.date (effective w t) := (accountOf_effective rfl).1
  rw [effective, h.clock, h.rowOf_same]
  exact maybeReset_of_current rfl hcurrent

theorem effective_of_other (h : Wrote t (count (effective w t)) w w') {k : String} (hk : k ≠ t) :
    effective w' k = effective w k := by
  rw [effective, effective, h.clock, h.rowOf_other hk]

theorem Counted.cons (h : Wrote t (count (effective w t)) w w') (h' : Counted ts w' w'') :
    Counted (t :: ts) w w'' := by
  refine ⟨h'.1.trans h.clock, fun k => ?_⟩
  rw [h'.2]
  by_cases hk : k = t
  · subst hk
    rw [effective_of_counted h, List.count_cons_self, if_neg (Nat.succ_ne_zero _),
      countTimes_count]
    obtain ⟨quotas, rfl, hfind⟩ := h
    split
    · rename_i hnone
      rw [hfind, if_pos rfl, hnone]
      rfl
    · rfl
  · rw [effective_of_other h hk, List.count_cons_of_ne (Ne.symm hk)]
    obtain ⟨quotas, rfl, hfind⟩ := h
    rw [hfind, if_neg hk]

theorem checks_counted (h : Effect.forEach checkAndIncrement ts w = (.ok (), w')) :
    Counted ts w w' := by
  induction ts generalizing w with
  | nil =>
    cases h
    exact ⟨rfl, fun _ => rfl⟩
  | cons t ts ih =>
    rw [Effect.forEach_cons] at h
    obtain ⟨_, v, hcheck, hrest⟩ := Effect.bind_eq_ok.mp h
    by_cases hroom : HasRoom (effective w t)
    · obtain ⟨v', hrun, hwrote⟩ := checkAndIncrement_admits hroom
      rw [hrun] at hcheck
      cases hcheck
      exact Counted.cons hwrote (ih hrest)
    · obtain ⟨v', detail, hrun, -⟩ := checkAndIncrement_refuses hroom
      rw [hrun] at hcheck
      cases hcheck

/-- The rows depend on how often each tenant occurs only. -/
theorem Counted.find?_eq (h : Counted ts w w') (h' : Counted us w w'') (hperm : ts.Perm us)
    (k : String) : w''.quotas.find? k = w'.quotas.find? k := by
  rw [h'.2, h.2, hperm.count_eq]

end Counted

/-- The status of a tenant shows what its account has left. -/
theorem getStatus_remaining (t : String) (w : World) :
    ∃ status w', getStatus t w = (.ok status, w') ∧
      min status.dailyRemaining status.monthlyRemaining = (account w.clock.date w t).remaining := by
  obtain ⟨w', hrun, -⟩ := getStatus_spec t w
  refine ⟨_, w', hrun, ?_⟩
  rw [(accountOf_effective rfl).2]
  rfl

end QuotaService

namespace IngestionService
open QuotaService (account)
variable (self : IngestionService)

/-- The loop of checks that `ingest_batch` begins with. -/
def quotaStage (events : List CanonicalEvent) : Service Unit :=
  Effect.forEach (fun event => self.checkQuota event.tenantId) events

def Accepts (events : List CanonicalEvent) (w : World) : Prop :=
  ∃ w', self.quotaStage events w = (.ok (), w')

theorem accepts_iff_isOk {events : List CanonicalEvent} {w : World} :
    self.Accepts events w ↔ (self.quotaStage events w).1.isOk = true := by
  unfold Accepts
  rcases self.quotaStage events w with ⟨_ | _, w'⟩
  · exact iff_of_false (fun ⟨_, h⟩ => nomatch h) Bool.false_ne_true
  · exact iff_of_true ⟨w', rfl⟩ rfl

/-- No tenant has more events in the batch than its status would say are left. -/
def WithinStatus (events : List CanonicalEvent) (w : World) : Prop :=
  ∀ t ∈ events.map CanonicalEvent.tenantId, ∃ status w',
    QuotaService.getStatus t w = (.ok status, w') ∧
    (events.map CanonicalEvent.tenantId).count t ≤
      min status.dailyRemaining status.monthlyRemaining

section Stage
variable {self} {events : List CanonicalEvent} {w w' : World}

theorem quotaStage_eq (hquota : self.quota = true) : self.quotaStage events =
    Effect.forEach QuotaService.checkAndIncrement (events.map CanonicalEvent.tenantId) := by
  rw [quotaStage, checkQuotas_eq, charged, hquota, if_pos rfl]

theorem withinStatus_iff : WithinStatus events w ↔
    ∀ k, (events.map CanonicalEvent.tenantId).count k ≤ (account w.clock.date w k).remaining := by
  constructor
  · intro h k
    by_cases hk : k ∈ events.map CanonicalEvent.tenantId
    · obtain ⟨status, w', hrun, hle⟩ := h k hk
      obtain ⟨status', w'', hrun', hremaining⟩ := QuotaService.getStatus_remaining k w
      rw [hrun] at hrun'
      cases hrun'
      exact hle.trans hremaining.le
    · rw [List.count_eq_zero.mpr hk]
      exact Nat.zero_le _
  · intro h t _
    obtain ⟨status, w', hrun, hremaining⟩ := QuotaService.getStatus_remaining t w
    exact ⟨status, w', hrun, (h t).trans hremaining.ge⟩

theorem accepts_iff_withinStatus (hquota : self.quota = true) :
    self.Accepts events w ↔ WithinStatus events w := by
  rw [Accepts, quotaStage_eq hquota, withinStatus_iff]
  constructor
  · rintro ⟨w', hrun⟩ k
    by_contra hover
    obtain ⟨w'', e, hrefused, -⟩ := QuotaService.checks_refuse rfl ⟨k, Nat.not_le.mp hover⟩
    rw [hrun] at hrefused
    cases hrefused
  · intro hroom
    obtain ⟨w', hrun, -⟩ := QuotaService.checks_charge rfl hroom
    exact ⟨w', hrun⟩

/-- A batch that the stage refuses raises what the stage raises. -/
theorem ingestBatch_refused (sha256 : ByteArray → String) (outage : Outage) (hne : events ≠ [])
    {e : Exc} (h : self.quotaStage events w = (.error e, w')) :
    self.ingestBatch sha256 outage events w = (.error e, w') := by
  cases events with
  | nil => exact absurd rfl hne
  | cons event events => exact Effect.bind_error h

end Stage

/-- The quota stage of a batch goes through exactly when no tenant has more events in it than
its status shows as remaining, for the day and for the month; else the batch raises. The order
of the events changes neither the decision nor the rows that are left. -/
theorem quotaStage_spec (hquota : self.quota = true) (events : List CanonicalEvent)
    (hne : events ≠ []) (w : World) :
    (self.Accepts events w ↔ WithinStatus events w) ∧
    (∀ sha256 outage, ¬self.Accepts events w →
      ∃ e w', self.ingestBatch sha256 outage events w = (.error e, w')) ∧
    ∀ events', events.Perm events' →
      (self.Accepts events' w ↔ self.Accepts events w) ∧
      ∀ w' w'', self.quotaStage events w = (.ok (), w') →
        self.quotaStage events' w = (.ok (), w'') →
        ∀ t, w''.quotas.find? t = w'.quotas.find? t := by
  refine ⟨accepts_iff_withinStatus hquota, ?_, ?_⟩
  · intro sha256 outage hnot
    rcases hrun : self.quotaStage events w with ⟨_ | _, w'⟩
    · exact ⟨_, w', ingestBatch_refused sha256 outage hne hrun⟩
    · exact absurd ⟨w', hrun⟩ hnot
  · intro events' hperm
    have htenants := hperm.map CanonicalEvent.tenantId
    refine ⟨?_, fun w' w'' hrun hrun' t => ?_⟩
    · rw [accepts_iff_withinStatus hquota, accepts_iff_withinStatus hquota, withinStatus_iff,
        withinStatus_iff]
      exact forall_congr' fun k => by rw [htenants.count_eq]
    · rw [quotaStage_eq hquota] at hrun hrun'
      exact (QuotaService.checks_counted hrun).find?_eq (QuotaService.checks_counted hrun')
        htenants t

theorem quotaStage_spec_sample :
    let service : IngestionService := {sentinel := true, quota := true}
    let overfull := sampleOtherEvent 5 .agentStarted :: sampleEvents
    (service.Accepts sampleEvents sampleTenants ∧ WithinStatus sampleEvents sampleTenants) ∧
    (¬WithinStatus overfull sampleTenants ∧ ∀ sha256 outage, ∃ e w',
      service.ingestBatch sha256 outage overfull sampleTenants = (.error e, w')) ∧
    service.Accepts sampleEvents.reverse sampleTenants ∧
    ∀ w' w'', service.quotaStage sampleEvents sampleTenants = (.ok (), w') →
      service.quotaStage sampleEvents.reverse sampleTenants = (.ok (), w'') →
      ∀ t, w''.quotas.find? t = w'.quotas.find? t := by
  intro service overfull
  have haccepts : service.Accepts sampleEvents sampleTenants :=
    service.accepts_iff_isOk.mpr (by decide +kernel)
  have hover : ¬service.Accepts overfull sampleTenants := by
    rw [accepts_iff_isOk]
    decide +kernel
  obtain ⟨hiff, -, hperms⟩ :=
    quotaStage_spec service rfl sampleEvents (List.cons_ne_nil _ _) sampleTenants
  obtain ⟨hiff', hraises, -⟩ :=
    quotaStage_spec service rfl overfull (List.cons_ne_nil _ _) sampleTenants
  obtain ⟨hsame, hrows⟩ := hperms _ (List.reverse_perm _).symm
  exact ⟨⟨haccepts, hiff.mp haccepts⟩, ⟨fun h => hover (hiff'.mpr h), fun sha256 outage =>
    hraises sha256 outage hover⟩, hsame.mpr haccepts, hrows⟩

end IngestionService
end Dox
