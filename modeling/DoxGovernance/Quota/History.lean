import DoxGovernance.Quota.Ledger

/-!
# The quota row refines the ledger

Under a clock that does not go back, the row of every tenant agrees with the ledger of the
calls made so far: its limits are those in force, and each counter is the number of
successes in the window the row is in, with no success in any later window. Hence every
call of a run succeeds exactly when the ledger allows it.
-/

set_option autoImplicit false

namespace Dox
open QuotaLedger QuotaService

def QuotaOp.exec : QuotaOp → Service Unit
  | provision create => do
    let _ ← QuotaService.provision create
    return ()
  | getStatus tenantId => do
    let _ ← QuotaService.getStatus tenantId
    return ()
  | checkAndIncrement tenantId => QuotaService.checkAndIncrement tenantId
  | resetDaily tenantId => do
    let _ ← QuotaService.resetDaily tenantId
    return ()

namespace QuotaCall

def run (call : QuotaCall) (w : World) : Except Exc Unit × World := call.op.exec (w.at call.time)

def succeeds (call : QuotaCall) (w : World) : Bool := (call.run w).1.isOk

end QuotaCall

namespace QuotaHistory

def step (s : World × QuotaLedger) (call : QuotaCall) : World × QuotaLedger :=
  ((call.run s.1).2, ⟨call, call.succeeds s.1⟩ :: s.2)

def play (w : World) (calls : List QuotaCall) : World × QuotaLedger := calls.foldl step (w, [])

/-- A row agrees with a ledger whose entries are no later than `T`. -/
structure Agrees (k : String) (l : QuotaLedger) (T : Datetime) (q : TenantQuota) : Prop where
  limits : (q.dailyLimit, q.monthlyLimit) = limitsInForce k l
  dayStart : q.dayWindowStart ≤ T
  monthStart : q.monthWindowStart ≤ T
  today : successesOn k q.dayWindowStart.date l = q.eventsToday
  laterDays : ∀ d, q.dayWindowStart.date < d → successesOn k d l = 0
  thisMonth : successesInMonth k q.monthWindowStart.monthIndex l = q.eventsThisMonth
  laterMonths : ∀ m, q.monthWindowStart.monthIndex < m → successesInMonth k m l = 0

section Agrees
variable {k : String} {l : QuotaLedger} {T t : Datetime} {q : TenantQuota}

theorem Agrees.mono (h : Agrees k l T q) (hT : T ≤ t) : Agrees k l t q :=
  {h with
    dayStart := le_trans h.dayStart hT
    monthStart := le_trans h.monthStart hT}

theorem Agrees.day (h : Agrees k l t q) :
    Agrees k l t (resetDay t q) ∧ (resetDay t q).dayWindowStart.date = t.date := by
  by_cases hpast : q.dayWindowStart.date < t.date
  · have hrow : resetDay t q = {q with eventsToday := 0, dayWindowStart := t} := if_pos hpast
    rw [hrow]
    refine ⟨?_, rfl⟩
    exact {h with
      dayStart := le_refl t
      today := h.laterDays _ hpast
      laterDays := fun d hd => h.laterDays d (lt_trans hpast hd)}
  · have hrow : resetDay t q = q := if_neg hpast
    rw [hrow]
    exact ⟨h, le_antisymm (Datetime.date_mono h.dayStart) (not_lt.mp hpast)⟩

theorem Agrees.monthly (h : Agrees k l t q) :
    Agrees k l t (resetMonth t q) ∧
      (resetMonth t q).monthWindowStart.monthIndex = t.monthIndex ∧
      (resetMonth t q).dayWindowStart = q.dayWindowStart := by
  by_cases hpast : q.monthWindowStart < t.monthStart
  · have hrow : resetMonth t q = {q with eventsThisMonth := 0, monthWindowStart := t} :=
      if_pos hpast
    rw [hrow]
    have hindex := Datetime.lt_monthStart_iff.mp hpast
    refine ⟨?_, rfl, rfl⟩
    exact {h with
      monthStart := le_refl t
      thisMonth := h.laterMonths _ hindex
      laterMonths := fun m hm => h.laterMonths m (lt_trans hindex hm)}
  · have hrow : resetMonth t q = q := if_neg hpast
    rw [hrow]
    refine ⟨h, le_antisymm (Datetime.monthIndex_mono h.monthStart) ?_, rfl⟩
    exact not_lt.mp fun hlt => hpast (Datetime.lt_monthStart_iff.mpr hlt)

/-- With its passed windows restarted, a row has both windows at the present. -/
theorem Agrees.current (h : Agrees k l t q) :
    Agrees k l t (maybeResetWindows t q) ∧
      (maybeResetWindows t q).dayWindowStart.date = t.date ∧
      (maybeResetWindows t q).monthWindowStart.monthIndex = t.monthIndex := by
  obtain ⟨hday, hdate⟩ := h.day
  obtain ⟨hboth, hindex, hkeep⟩ := hday.monthly
  rw [maybeResetWindows]
  exact ⟨hboth, by rw [hkeep, hdate], hindex⟩

/-- A ledger without entries of a tenant counts nothing for it. -/
theorem counts_of_foreign (h : ∀ e ∈ l, e.op.tenantId ≠ k) :
    (∀ d, successesOn k d l = 0) ∧ (∀ m, successesInMonth k m l = 0) ∧
      tierInForce k l = .starter := by
  have hnone : l.filter (fun e => e.op.concerns k) = [] := by
    apply List.filter_eq_nil_iff.mpr
    intro e he hconcerns
    apply h e he
    cases hop : e.op with
    | getStatus tenantId =>
      rw [hop] at hconcerns
      cases hconcerns
    | _ =>
      rw [hop] at hconcerns
      exact of_decide_eq_true hconcerns
  obtain ⟨hday, hmonth, htier⟩ := counts_filter k l
  rw [hnone] at hday hmonth htier
  exact ⟨fun d => (hday d).symm, fun m => (hmonth m).symm, htier.symm⟩

theorem agrees_newQuota (h : ∀ e ∈ l, e.op.tenantId ≠ k) :
    Agrees k l t (newQuota t k .starter) := by
  obtain ⟨hday, hmonth, htier⟩ := counts_of_foreign h
  exact {
    limits := by rw [limitsInForce, htier]; rfl
    dayStart := le_refl t
    monthStart := le_refl t
    today := hday _
    laterDays := fun d _ => hday d
    thisMonth := hmonth _
    laterMonths := fun m _ => hmonth m }

/-! ### One more entry -/

variable {e : QuotaEntry}

theorem Agrees.silent (h : Agrees k l T q) (he : Silent k e) : Agrees k (e :: l) T q where
  limits := by rw [limitsInForce, he.tierInForce_cons]; exact h.limits
  dayStart := h.dayStart
  monthStart := h.monthStart
  today := by rw [he.successesOn_cons, h.today]
  laterDays := fun d hd => by rw [he.successesOn_cons, h.laterDays d hd]
  thisMonth := by rw [he.successesInMonth_cons, h.thisMonth]
  laterMonths := fun m hm => by rw [he.successesInMonth_cons, h.laterMonths m hm]

/-- A success at a time in both windows of the row is counted by the row. -/
theorem Agrees.success (h : Agrees k l T q) (hadmits : admits k e = true)
    (hdate : q.dayWindowStart.date = e.time.date)
    (hindex : q.monthWindowStart.monthIndex = e.time.monthIndex) :
    Agrees k (e :: l) T (count q) := by
  have hop : e.op.resets k = false ∧ e.op.provisions k = none := by
    have hchecks : e.op.checks k = true := (Bool.and_eq_true_iff.mp hadmits).1
    revert hchecks
    cases e.op with
    | checkAndIncrement => exact fun _ => ⟨rfl, rfl⟩
    | provision | getStatus | resetDaily => exact fun h => nomatch h
  constructor
  · rw [limitsInForce, tierInForce_cons, hop.2, Option.getD_none]
    exact h.limits
  · exact h.dayStart
  · exact h.monthStart
  · have htoday := h.today
    rw [hdate] at htoday
    rw [successesOn_cons hop.1]
    simp only [count, htoday, hadmits, hdate, Bool.true_and, decide_true, if_true]
  · intro d hd
    have hne : e.time.date ≠ d := fun heq => absurd hd (by rw [← heq, ← hdate]; exact lt_irrefl _)
    rw [successesOn_cons hop.1, h.laterDays d hd]
    simp only [hne, decide_false, Bool.and_false, Bool.false_eq_true, if_false]
  · have hmonth := h.thisMonth
    rw [hindex] at hmonth
    rw [successesInMonth_cons]
    simp only [count, hmonth, hadmits, hindex, Bool.true_and, decide_true, if_true]
  · intro m hm
    have hne : e.time.monthIndex ≠ m := fun heq => absurd hm (by
      rw [← heq, ← hindex]
      exact lt_irrefl _)
    rw [successesInMonth_cons, h.laterMonths m hm]
    simp only [hne, decide_false, Bool.and_false, Bool.false_eq_true, if_false]

theorem Agrees.reset (h : Agrees k l t q) (hop : e.op = .resetDaily k) :
    Agrees k (e :: l) t (zeroDay t q) := by
  have hresets : e.op.resets k = true := by rw [hop]; exact decide_eq_true rfl
  have hadmits : admits k e = false := by rw [admits, hop]; rfl
  have hmonth (m : Nat) : successesInMonth k m (e :: l) = successesInMonth k m l := by
    rw [successesInMonth_cons, hadmits]
    rfl
  constructor
  · rw [limitsInForce, tierInForce_cons, hop]
    exact h.limits
  · exact le_refl t
  · exact h.monthStart
  · exact successesOn_reset hresets _ l
  · exact fun d _ => successesOn_reset hresets d l
  · rw [hmonth]
    exact h.thisMonth
  · intro m hm
    rw [hmonth]
    exact h.laterMonths m hm

theorem Agrees.provision (h : Agrees k l t q) {create : QuotaProvision}
    (hop : e.op = .provision create) (hk : create.tenantId = k) :
    Agrees k (e :: l) t (setTier create.subscriptionTier q) := by
  have hadmits : admits k e = false := by rw [admits, hop]; rfl
  have hresets : e.op.resets k = false := by rw [hop]; rfl
  have hday (d : Date) : successesOn k d (e :: l) = successesOn k d l := by
    rw [successesOn_cons hresets, hadmits]
    rfl
  have hmonth (m : Nat) : successesInMonth k m (e :: l) = successesInMonth k m l := by
    rw [successesInMonth_cons, hadmits]
    rfl
  constructor
  · have htier : e.op.provisions k = some create.subscriptionTier := by
      rw [hop]
      exact if_pos hk
    rw [limitsInForce, tierInForce_cons, htier]
    rfl
  · exact h.dayStart
  · exact h.monthStart
  · rw [hday]
    exact h.today
  · intro d hd
    rw [hday]
    exact h.laterDays d hd
  · rw [hmonth]
    exact h.thisMonth
  · intro m hm
    rw [hmonth]
    exact h.laterMonths m hm

end Agrees

/-! ### A run -/

/-- What a stored row, or its absence, says about the ledger. -/
def RowAgrees (k : String) (l : QuotaLedger) (T : Datetime) : Option TenantQuota → Prop
  | none => ∀ e ∈ l, e.op.tenantId ≠ k
  | some q => Agrees k l T q

def Inv (T : Datetime) (s : World × QuotaLedger) : Prop :=
  ∀ k, RowAgrees k s.2 T (s.1.quotas.find? k)

section Step
variable {w : World} {l : QuotaLedger} {T t : Datetime} {k : String}

theorem agrees_rowOf (h : Inv T (w, l)) (hT : T ≤ t) (k : String) :
    Agrees k l t (rowOf (w.at t) k) := by
  have hk := h k
  cases hfind : w.quotas.find? k with
  | none =>
    rw [hfind] at hk
    rw [rowOf_of_none (w := w.at t) hfind]
    exact agrees_newQuota hk
  | some q =>
    rw [hfind] at hk
    rw [rowOf_of_find (w := w.at t) hfind]
    exact hk.mono hT

/-- Writing a row that agrees with the extended ledger keeps the invariant: for every other
tenant the new entry is silent. -/
theorem inv_of_wrote (h : Inv T (w, l)) (hT : T ≤ t) {w' : World} {q : TenantQuota}
    {e : QuotaEntry} (hk : e.op.tenantId = k) (hwrote : Wrote k q (w.at t) w')
    (hq : Agrees k (e :: l) t q) : Inv t (w', e :: l) := by
  obtain ⟨quotas, rfl, hfind⟩ := hwrote
  intro k'
  rw [hfind k']
  by_cases hkk : k' = k
  · rw [if_pos hkk, hkk]
    exact hq
  · rw [if_neg hkk]
    have hother := h k'
    change RowAgrees k' (e :: l) t (w.quotas.find? k')
    cases hrow : w.quotas.find? k' with
    | none =>
      rw [hrow] at hother
      intro e' he'
      rcases List.mem_cons.mp he' with rfl | hmem
      · exact fun heq => hkk (heq.symm.trans hk)
      · exact hother e' hmem
    | some q' =>
      rw [hrow] at hother
      have hconcerns : e.op.concerns k' = false := by
        have hne : e.op.tenantId ≠ k' := fun heq => hkk (heq.symm.trans hk)
        revert hne
        cases e.op with
        | getStatus => exact fun _ => rfl
        | _ => exact fun hne => decide_eq_false hne
      exact (hother.mono hT).silent (silent_of_unconcerned hconcerns)

/-- A row has room exactly when the ledger allows the check. -/
theorem hasRoom_iff {q : TenantQuota} (h : Agrees k l t q) (hdate : q.dayWindowStart.date = t.date)
    (hindex : q.monthWindowStart.monthIndex = t.monthIndex) :
    HasRoom q ↔ allows l ⟨t, .checkAndIncrement k⟩ = true := by
  have hday := h.today
  have hmonth := h.thisMonth
  have hlimits := h.limits
  rw [hdate] at hday
  rw [hindex] at hmonth
  unfold HasRoom allows
  dsimp only
  rw [← hlimits, hday, hmonth, Bool.and_eq_true, decide_eq_true_iff, decide_eq_true_iff]

theorem step_of_run {call : QuotaCall} {r : Except Exc Unit} {w' : World}
    (hrun : call.run w = (r, w')) :
    call.succeeds w = r.isOk ∧ step (w, l) call = (w', ⟨call, r.isOk⟩ :: l) := by
  have hsucceeds : call.succeeds w = r.isOk := by rw [QuotaCall.succeeds, hrun]
  refine ⟨hsucceeds, ?_⟩
  rw [step, hsucceeds, hrun]

theorem silent_of_unsuccessful {e : QuotaEntry} (hop : e.op = .checkAndIncrement k)
    (hfail : e.succeeded = false) : Silent k e where
  admits := by rw [admits, hfail, Bool.and_false]
  resets := by rw [hop]; rfl
  provisions := by rw [hop]; rfl

/-- A call that ends in `r`, as the ledger allows, and writes a row agreeing with the ledger
extended by it. -/
theorem step_of_wrote (h : Inv T (w, l)) {call : QuotaCall} (hT : T ≤ call.time)
    {r : Except Exc Unit} {w' : World} {q : TenantQuota} (hrun : call.run w = (r, w'))
    (hallows : r.isOk = allows l call)
    (hwrote : Wrote call.op.tenantId q (w.at call.time) w')
    (hq : Agrees call.op.tenantId (⟨call, r.isOk⟩ :: l) call.time q) :
    call.succeeds w = allows l call ∧ Inv call.time (step (w, l) call) := by
  obtain ⟨hsucceeds, hstep⟩ := step_of_run (l := l) hrun
  rw [hsucceeds, hstep]
  exact ⟨hallows, inv_of_wrote h hT rfl hwrote hq⟩

theorem step_check (h : Inv T (w, l)) (hT : T ≤ t) (k : String) :
    QuotaCall.succeeds ⟨t, .checkAndIncrement k⟩ w = allows l ⟨t, .checkAndIncrement k⟩ ∧
      Inv t (step (w, l) ⟨t, .checkAndIncrement k⟩) := by
  have hrow := agrees_rowOf h hT k
  obtain ⟨hcurrent, hdate, hindex⟩ := hrow.current
  have hallows := hasRoom_iff hcurrent hdate hindex
  by_cases hroom : HasRoom (effective (w.at t) k)
  · obtain ⟨w', hrun, hwrote⟩ := checkAndIncrement_admits hroom
    have hadmits : admits k ⟨⟨t, .checkAndIncrement k⟩, true⟩ = true := by
      rw [admits, QuotaOp.checks, Bool.and_true, decide_eq_true_iff]
    exact step_of_wrote h hT hrun (hallows.mp hroom).symm hwrote
      (hcurrent.success hadmits hdate hindex)
  · obtain ⟨w', detail, hrun, hwrote⟩ := checkAndIncrement_refuses hroom
    have hnot : allows l ⟨t, .checkAndIncrement k⟩ = false := by
      rw [← Bool.not_eq_true]
      exact fun ha => hroom (hallows.mpr ha)
    exact step_of_wrote h hT hrun hnot.symm hwrote (hrow.silent (silent_of_unsuccessful rfl rfl))

/-- The step lemma: a call succeeds as the ledger allows, and the invariant is kept. -/
theorem step_agrees (h : Inv T (w, l)) (call : QuotaCall) (hT : T ≤ call.time) :
    call.succeeds w = allows l call ∧ Inv call.time (step (w, l) call) := by
  obtain ⟨t, op⟩ := call
  cases op with
  | provision create =>
    have hrow := agrees_rowOf h hT create.tenantId
    obtain ⟨w', hrun, hwrote⟩ := provision_spec create (w.at t)
    have hcall : QuotaCall.run ⟨t, .provision create⟩ w = (.ok (), w') := Effect.bind_ok hrun
    exact step_of_wrote h hT hcall rfl hwrote (hrow.provision rfl rfl)
  | getStatus k =>
    have hrow := (agrees_rowOf h hT k).current.1
    obtain ⟨w', hrun, hwrote⟩ := getStatus_spec k (w.at t)
    have hcall : QuotaCall.run ⟨t, .getStatus k⟩ w = (.ok (), w') := Effect.bind_ok hrun
    exact step_of_wrote h hT hcall rfl hwrote (hrow.silent (silent_of_unconcerned rfl))
  | resetDaily k =>
    have hrow := agrees_rowOf h hT k
    obtain ⟨w', hrun, hwrote⟩ := resetDaily_spec k (w.at t)
    have hcall : QuotaCall.run ⟨t, .resetDaily k⟩ w = (.ok (), w') := Effect.bind_ok hrun
    exact step_of_wrote h hT hcall rfl hwrote (hrow.reset rfl)
  | checkAndIncrement k => exact step_check h hT k

end Step

/-- The run lemma: from rows that agree with the ledger, every call of a run succeeds as the
ledger allows. -/
theorem foldl_step_refines {T : Datetime} {s : World × QuotaLedger} (h : Inv T s)
    {calls : List QuotaCall} (hlater : ∀ call ∈ calls, T ≤ call.time)
    (hclock : calls.Pairwise fun a b => a.time ≤ b.time) :
    (calls.foldl step s).2 = calls.foldl record s.2 := by
  induction calls generalizing s T with
  | nil => rfl
  | cons call calls ih =>
    obtain ⟨hsucceeds, hinv⟩ := step_agrees h call (hlater call List.mem_cons_self)
    obtain ⟨hhead, htail⟩ := List.pairwise_cons.mp hclock
    have hledger : (step s call).2 = record s.2 call := by rw [step, record, hsucceeds]
    rw [List.foldl_cons, List.foldl_cons, ih hinv hhead htail, hledger]

theorem play_refines {w : World} (hempty : w.quotas.rows = []) {calls : List QuotaCall}
    (hclock : calls.Pairwise fun a b => a.time ≤ b.time) :
    (play w calls).2 = calls.foldl record [] := by
  cases calls with
  | nil => rfl
  | cons call calls =>
    have hinv : Inv call.time (w, []) := by
      intro k
      have hfind : w.quotas.find? k = none := by rw [Table.find?, hempty]; rfl
      rw [hfind]
      exact fun e he => absurd he List.not_mem_nil
    refine foldl_step_refines hinv ?_ hclock
    intro c hc
    rcases List.mem_cons.mp hc with rfl | hmem
    · exact le_refl _
    · exact (List.pairwise_cons.mp hclock).1 c hmem

theorem play_concat (w : World) (calls : List QuotaCall) (call : QuotaCall) :
    (play w (calls ++ [call])).2 = ⟨call, call.succeeds (play w calls).1⟩ :: (play w calls).2 := by
  rw [play, List.foldl_append]
  rfl

/-- In every run from empty quota tables under a clock that does not go back, a check succeeds
exactly when its tenant's successes since the last reset on that date and its successes in that
month are below the limits in force; and dropping every call that is a status request or another
tenant's leaves the tenant's outcomes as they are. -/
theorem check_succeeds_iff (w : World) (hempty : w.quotas.rows = []) (calls : List QuotaCall)
    (hclock : calls.Pairwise fun a b => a.time ≤ b.time) :
    (∀ before t k after, calls = before ++ ⟨t, .checkAndIncrement k⟩ :: after →
      (QuotaCall.succeeds ⟨t, .checkAndIncrement k⟩ (play w before).1 = true ↔
        successesOn k t.date (play w before).2 < (limitsInForce k (play w before).2).1 ∧
        successesInMonth k t.monthIndex (play w before).2 <
          (limitsInForce k (play w before).2).2)) ∧
    ∀ k, (play w calls).2.filter (fun e => e.op.concerns k) =
      (play w (calls.filter fun call => call.op.concerns k)).2 := by
  constructor
  · rintro before t k after rfl
    have hfirst : (before ++ [(⟨t, .checkAndIncrement k⟩ : QuotaCall)]).Pairwise
        fun a b => a.time ≤ b.time := by
      refine hclock.sublist ?_
      rw [List.append_cons before _ after]
      exact List.sublist_append_left _ _
    have hbefore := play_refines hempty (hfirst.sublist (List.sublist_append_left _ _))
    have hboth := play_refines hempty hfirst
    rw [play_concat, List.foldl_append, ← hbefore] at hboth
    have hsucceeds := congrArg QuotaEntry.succeeded (List.cons.inj hboth).1
    dsimp only at hsucceeds
    rw [hsucceeds, allows, Bool.and_eq_true, decide_eq_true_iff, decide_eq_true_iff]
  · intro k
    have hfiltered := hclock.sublist (List.filter_sublist (p := fun c => c.op.concerns k))
    rw [play_refines hempty hclock, play_refines hempty hfiltered, filter_foldl_record]
    rfl

def sampleCalls : List QuotaCall :=
  [⟨sampleNoon, .checkAndIncrement "acme"⟩, ⟨sampleNoon, .getStatus "acme"⟩,
    ⟨sampleNoon, .checkAndIncrement "acme"⟩]

theorem check_succeeds_iff_sample :
    (∀ before t k after, sampleCalls = before ++ ⟨t, .checkAndIncrement k⟩ :: after →
      (QuotaCall.succeeds ⟨t, .checkAndIncrement k⟩ (play sampleWorld before).1 = true ↔
        successesOn k t.date (play sampleWorld before).2 <
          (limitsInForce k (play sampleWorld before).2).1 ∧
        successesInMonth k t.monthIndex (play sampleWorld before).2 <
          (limitsInForce k (play sampleWorld before).2).2)) ∧
    ∀ k, (play sampleWorld sampleCalls).2.filter (fun e => e.op.concerns k) =
      (play sampleWorld (sampleCalls.filter fun call => call.op.concerns k)).2 :=
  check_succeeds_iff sampleWorld rfl sampleCalls (by decide)

end QuotaHistory

end Dox
