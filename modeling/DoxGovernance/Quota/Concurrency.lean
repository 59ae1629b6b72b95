import DoxGovernance.Lib.Interleave
import DoxGovernance.Quota.Account

/-!
# Concurrent quota checks

The checks and daily resets of one tenant, each in its own database session, as steps: the
session reads the row, or finds none and inserts one; decides on the row it has in memory;
and writes back the columns it has changed, with the values it has computed. Other
sessions act between these steps. Nothing locks the row, so a check is counted correctly
only when the counters it writes over are those it read.
-/

set_option autoImplicit false

namespace Dox
namespace QuotaConcurrency
open QuotaService

inductive Request where
  | check
  | reset
deriving DecidableEq, Repr

inductive Outcome where
  | admitted
  | quotaExceeded
  | resetDone
  | integrityError
deriving DecidableEq, Repr

inductive Session where
  | waiting (request : Request)
  | absent (request : Request)
  | loaded (request : Request) (quota : TenantQuota)
  | writing (request : Request) (read changed : TenantQuota)
  | finished (request : Request) (outcome : Outcome)
deriving DecidableEq

/-- The committed row, and the admissions committed since the last reset of the day and in the
month. -/
structure Shared where
  row : Option TenantQuota
  admittedToday : Nat
  admittedThisMonth : Nat

/-- The value a column has after an update that sets it only when it was changed in memory. -/
def column {α : Type} [DecidableEq α] (f : TenantQuota → α) (read changed row : TenantQuota) : α :=
  if f changed = f read then f row else f changed

/-- `UPDATE` with the changed columns, on the row that is committed now. -/
def flush (read changed row : TenantQuota) : TenantQuota where
  tenantId := row.tenantId
  subscriptionTier := column (·.subscriptionTier) read changed row
  dailyLimit := column (·.dailyLimit) read changed row
  monthlyLimit := column (·.monthlyLimit) read changed row
  eventsToday := column (·.eventsToday) read changed row
  eventsThisMonth := column (·.eventsThisMonth) read changed row
  dayWindowStart := column (·.dayWindowStart) read changed row
  monthWindowStart := column (·.monthWindowStart) read changed row

def decision (now : Datetime) (quota : TenantQuota) : Request → Session
  | .check =>
    if QuotaService.HasRoom (maybeResetWindows now quota) then
      .writing .check quota (QuotaService.count (maybeResetWindows now quota))
    else .finished .check .quotaExceeded
  | .reset => .writing .reset quota (QuotaService.zeroDay now quota)

def commit (s : Shared) (read changed : TenantQuota) : Request → Shared × Session
  | .check =>
    ({ row := s.row.map (flush read changed)
       admittedToday := s.admittedToday + 1
       admittedThisMonth := s.admittedThisMonth + 1 }, .finished .check .admitted)
  | .reset =>
    ({s with row := s.row.map (flush read changed), admittedToday := 0},
      .finished .reset .resetDone)

/-- The next database step of a session, at a reading of the clock. -/
def act (tenantId : String) (now : Datetime) (s : Shared) : Session → Shared × Session
  | .waiting request =>
    match s.row with
    | none => (s, .absent request)
    | some quota => (s, .loaded request quota)
  | .absent request =>
    match s.row with
    | none =>
      let quota := newQuota now tenantId .starter
      ({s with row := some quota}, .loaded request quota)
    | some _ => (s, .finished request .integrityError)
  | .loaded request quota => (s, decision now quota request)
  | .writing request read changed => commit s read changed request
  | .finished request outcome => (s, .finished request outcome)

/-! ### The steps that lose nothing -/

/-- The condition on a step: an insertion finds no row; a check writes over the row it read, or
over one of the same windows with the counters it read; and a reset that leaves a counter of
zero unwritten finds it zero. -/
def UpToDate (d : Date) (s : Shared) : Session → Prop
  | .absent _ => s.row = none
  | .writing .check read _ =>
    match s.row with
    | some r => r = read ∨ Current d read ∧ Current d r ∧ r.eventsToday = read.eventsToday ∧
        r.eventsThisMonth = read.eventsThisMonth
    | none => True
  | .writing .reset read _ =>
    match s.row with
    | some r => read.eventsToday ≠ 0 ∨ r.eventsToday = 0
    | none => True
  | _ => True

/-- A step made on the day `d` that meets the condition. -/
def Proper (d : Date) (now : Datetime) (s : Shared) (l : Session) : Prop :=
  now.date = d ∧ UpToDate d s l

/-- The committed counters are the numbers of admissions, and these are within the limits. -/
def Counted (d : Date) (s : Shared) : Prop :=
  match s.row with
  | none => s.admittedToday = 0 ∧ s.admittedThisMonth = 0
  | some q => today d q = s.admittedToday ∧ thisMonth d q = s.admittedThisMonth ∧
      s.admittedToday ≤ q.dailyLimit ∧ s.admittedThisMonth ≤ q.monthlyLimit

/-- What a session knows: its row is still there with the limits it read, and what it is about
to write it computed on that day from a row with room. -/
def Knows (d : Date) (s : Shared) : Session → Prop
  | .waiting _ | .absent _ => True
  | .loaded _ quota => ∃ r, s.row = some r ∧ limitsOf r = limitsOf quota
  | .writing request read changed => ∃ r now, s.row = some r ∧ limitsOf r = limitsOf read ∧
      now.date = d ∧ match request with
        | .check => HasRoom (maybeResetWindows now read) ∧
            changed = count (maybeResetWindows now read)
        | .reset => changed = zeroDay now read
  | .finished .check outcome => outcome = .admitted ∨ outcome = .quotaExceeded
  | .finished .reset outcome => outcome = .resetDone

/-- A row, once committed, stays with its limits. -/
def RowKept (s s' : Shared) : Prop :=
  ∀ r, s.row = some r → ∃ r', s'.row = some r' ∧ limitsOf r' = limitsOf r

theorem Knows.stable {d : Date} {s s' : Shared} (hkept : RowKept s s') {m : Session}
    (h : Knows d s m) : Knows d s' m := by
  cases m with
  | waiting | absent => trivial
  | loaded request quota =>
    obtain ⟨r, hr, hlimits⟩ := h
    obtain ⟨r', hr', hsame⟩ := hkept r hr
    exact ⟨r', hr', hsame.trans hlimits⟩
  | writing request read changed =>
    obtain ⟨r, now, hr, hlimits, hrest⟩ := h
    obtain ⟨r', hr', hsame⟩ := hkept r hr
    exact ⟨r', now, hr', hsame.trans hlimits, hrest⟩
  | finished request outcome => cases request <;> exact h

section Flush
variable {d : Date} {now : Datetime} {read changed r : TenantQuota}

theorem column_self {α : Type} [DecidableEq α] (f : TenantQuota → α) :
    column f read changed read = f changed := by
  unfold column
  split
  · exact (by assumption : f changed = f read).symm
  · rfl

theorem column_unchanged {α : Type} [DecidableEq α] {f : TenantQuota → α}
    (h : f changed = f read) : column f read changed r = f r := if_pos h

theorem flush_self (h : changed.tenantId = read.tenantId) : flush read changed read = changed := by
  unfold flush
  simp only [column_self, ← h]

theorem limitsOf_flush (h : limitsOf changed = limitsOf read) :
    limitsOf (flush read changed r) = limitsOf r := by
  obtain ⟨hdaily, hmonthly⟩ := Prod.mk.inj h
  rw [limitsOf, limitsOf, flush]
  simp only [column_unchanged hdaily, column_unchanged hmonthly]

theorem limitsOf_count_maybeReset :
    limitsOf (count (maybeResetWindows now read)) = limitsOf read := by
  obtain ⟨hdaily, hmonthly⟩ := limits_maybeResetWindows now read
  rw [limitsOf, limitsOf, ← hdaily, ← hmonthly]
  rfl

/-- A check that writes over an up-to-date row counts one event more. -/
theorem flush_check (hnow : now.date = d)
    (hfresh : r = read ∨ Current d read ∧ Current d r ∧ r.eventsToday = read.eventsToday ∧
      r.eventsThisMonth = read.eventsThisMonth) :
    today d (flush read (count (maybeResetWindows now read)) r) = today d r + 1 ∧
      thisMonth d (flush read (count (maybeResetWindows now read)) r) = thisMonth d r + 1 ∧
      today d r = (maybeResetWindows now read).eventsToday ∧
      thisMonth d r = (maybeResetWindows now read).eventsThisMonth := by
  obtain ⟨htoday, hmonth, hcurrent⟩ := maybeReset_current (q := read) hnow
  rcases hfresh with rfl | ⟨hread, hr, heqToday, heqMonth⟩
  · have hkey : (count (maybeResetWindows now r)).tenantId = r.tenantId := by
      rw [tenantId_count, tenantId_maybeResetWindows]
    rw [flush_self hkey]
    refine ⟨?_, ?_, htoday.symm, hmonth.symm⟩
    · rw [today, count, if_neg hcurrent.1, htoday]
    · rw [thisMonth, count, if_neg hcurrent.2, hmonth]
  · rw [maybeReset_of_current hnow hread]
    have hday : (flush read (count read) r).dayWindowStart = r.dayWindowStart :=
      column_unchanged rfl
    have hstart : (flush read (count read) r).monthWindowStart = r.monthWindowStart :=
      column_unchanged rfl
    have hwroteToday : (flush read (count read) r).eventsToday = read.eventsToday + 1 :=
      if_neg (Nat.succ_ne_self _)
    have hwroteMonth : (flush read (count read) r).eventsThisMonth = read.eventsThisMonth + 1 :=
      if_neg (Nat.succ_ne_self _)
    refine ⟨?_, ?_, ?_, ?_⟩
    · rw [today, today, hday, if_neg hr.1, if_neg hr.1, hwroteToday, heqToday]
    · rw [thisMonth, thisMonth, hstart, if_neg hr.2, if_neg hr.2, hwroteMonth, heqMonth]
    · rw [today, if_neg hr.1, heqToday]
    · rw [thisMonth, if_neg hr.2, heqMonth]

theorem flush_reset (hfresh : read.eventsToday ≠ 0 ∨ r.eventsToday = 0) :
    today d (flush read (zeroDay now read) r) = 0 ∧
      thisMonth d (flush read (zeroDay now read) r) = thisMonth d r := by
  have hzero : (flush read (zeroDay now read) r).eventsToday = 0 := by
    change (if 0 = read.eventsToday then r.eventsToday else 0) = 0
    split
    · rcases hfresh with hread | hr
      · exact absurd (by assumption : 0 = read.eventsToday).symm hread
      · exact hr
    · rfl
  have hstart : (flush read (zeroDay now read) r).monthWindowStart = r.monthWindowStart :=
    column_unchanged rfl
  have hmonth : (flush read (zeroDay now read) r).eventsThisMonth = r.eventsThisMonth :=
    column_unchanged rfl
  refine ⟨?_, ?_⟩
  · rw [today, hzero]
    split <;> rfl
  · rw [thisMonth, thisMonth, hstart, hmonth]

end Flush

/-! ### Every proper step keeps the count -/

section Step
variable {tenantId : String} {d : Date} {now : Datetime} {s : Shared} {l : Session}

theorem rowKept_of_row_eq {s' : Shared} (h : s'.row = s.row) : RowKept s s' :=
  fun r hr => ⟨r, h.trans hr, rfl⟩

theorem rowKept_flush {s' : Shared} {read changed : TenantQuota}
    (hrow : s'.row = s.row.map (flush read changed)) (hlimits : limitsOf changed = limitsOf read) :
    RowKept s s' := by
  intro r hr
  refine ⟨flush read changed r, ?_, limitsOf_flush hlimits⟩
  rw [hrow, hr, Option.map_some]

theorem limitsOf_changed {request : Request} {read changed : TenantQuota}
    (h : Knows d s (.writing request read changed)) : limitsOf changed = limitsOf read := by
  obtain ⟨r, t, hr, hlimits, ht, hchanged⟩ := h
  cases request with
  | check => rw [hchanged.2, limitsOf_count_maybeReset]
  | reset => rw [hchanged]; rfl

theorem act_rowKept (h : Knows d s l) : RowKept s (act tenantId now s l).1 := by
  cases l with
  | waiting request =>
    apply rowKept_of_row_eq
    cases hrow : s.row <;> simp only [act, hrow]
  | absent request =>
    cases hrow : s.row with
    | none => exact fun r hr => by rw [hrow] at hr; cases hr
    | some q =>
      apply rowKept_of_row_eq
      simp only [act, hrow]
  | loaded => exact rowKept_of_row_eq rfl
  | writing request read changed =>
    have hlimits := limitsOf_changed h
    cases request with
    | check => exact rowKept_flush rfl hlimits
    | reset => exact rowKept_flush rfl hlimits
  | finished => exact rowKept_of_row_eq rfl

theorem commit_check_keeps {read changed : TenantQuota} (hcounted : Counted d s)
    (hknows : Knows d s (.writing .check read changed))
    (hfresh : UpToDate d s (.writing .check read changed)) :
    Counted d (commit s read changed .check).1 := by
  obtain ⟨r, t, hr, hlimits, ht, hroom, rfl⟩ := hknows
  simp only [UpToDate, hr] at hfresh
  simp only [Counted, hr] at hcounted
  obtain ⟨htoday, hmonth, _, _⟩ := hcounted
  obtain ⟨hnextToday, hnextMonth, hrowToday, hrowMonth⟩ := flush_check ht hfresh
  have hsame : limitsOf (count (maybeResetWindows t read)) = limitsOf read :=
    limitsOf_count_maybeReset
  have hkeep := limitsOf_flush (r := r) hsame
  obtain ⟨hdaily, hmonthly⟩ := Prod.mk.inj (hkeep.trans hlimits)
  obtain ⟨hdailyRead, hmonthlyRead⟩ := limits_maybeResetWindows t read
  obtain ⟨hroomToday, hroomMonth⟩ := hroom
  simp only [Counted, commit, hr, Option.map_some]
  refine ⟨by rw [hnextToday, htoday], by rw [hnextMonth, hmonth], ?_, ?_⟩
  · rw [hdaily, ← hdailyRead]
    omega
  · rw [hmonthly, ← hmonthlyRead]
    omega

theorem commit_reset_keeps {read changed : TenantQuota} (hcounted : Counted d s)
    (hknows : Knows d s (.writing .reset read changed))
    (hfresh : UpToDate d s (.writing .reset read changed)) :
    Counted d (commit s read changed .reset).1 := by
  obtain ⟨r, t, hr, hlimits, ht, rfl⟩ := hknows
  simp only [UpToDate, hr] at hfresh
  simp only [Counted, hr] at hcounted
  obtain ⟨_, hmonth, _, hmonthLimit⟩ := hcounted
  obtain ⟨hzero, hkeepMonth⟩ : today d (flush read (zeroDay t read) r) = 0 ∧
    thisMonth d (flush read (zeroDay t read) r) = thisMonth d r := flush_reset hfresh
  have hkeep := limitsOf_flush (r := r) (show limitsOf (zeroDay t read) = limitsOf read from rfl)
  obtain ⟨_, hmonthly⟩ := Prod.mk.inj hkeep
  simp only [Counted, commit, hr, Option.map_some]
  exact ⟨hzero, hkeepMonth.trans hmonth, Nat.zero_le _, by rw [hmonthly]; exact hmonthLimit⟩

theorem decision_knows {request : Request} {quota : TenantQuota} (hnow : now.date = d)
    (h : Knows d s (.loaded request quota)) : Knows d s (decision now quota request) := by
  obtain ⟨r, hr, hlimits⟩ := h
  cases request with
  | check =>
    by_cases hroom : HasRoom (maybeResetWindows now quota)
    · rw [decision, if_pos hroom]
      exact ⟨r, now, hr, hlimits, hnow, hroom, rfl⟩
    · rw [decision, if_neg hroom]
      exact Or.inr rfl
  | reset => exact ⟨r, now, hr, hlimits, hnow, rfl⟩

/-- The step lemma: a proper step keeps the count and what the acting session knows. -/
theorem act_keeps (hproper : Proper d now s l) (hcounted : Counted d s) (hknows : Knows d s l) :
    Counted d (act tenantId now s l).1 ∧
      Knows d (act tenantId now s l).1 (act tenantId now s l).2 := by
  obtain ⟨hnow, hfresh⟩ := hproper
  cases l with
  | waiting request =>
    unfold act
    cases hrow : s.row with
    | none => exact ⟨hcounted, trivial⟩
    | some q => exact ⟨hcounted, q, hrow, rfl⟩
  | absent request =>
    have hrow : s.row = none := hfresh
    simp only [Counted, hrow] at hcounted
    simp only [act, hrow]
    refine ⟨?_, newQuota now tenantId .starter, rfl, rfl⟩
    have hnew : today d (newQuota now tenantId .starter) = 0 ∧
        thisMonth d (newQuota now tenantId .starter) = 0 := by
      unfold today thisMonth
      constructor <;> split <;> rfl
    simp only [Counted, hcounted.1, hcounted.2]
    exact ⟨hnew.1, hnew.2, Nat.zero_le _, Nat.zero_le _⟩
  | loaded request quota => exact ⟨hcounted, decision_knows hnow hknows⟩
  | writing request read changed =>
    cases request with
    | check => exact ⟨commit_check_keeps hcounted hknows hfresh, Or.inl rfl⟩
    | reset => exact ⟨commit_reset_keeps hcounted hknows hfresh, rfl⟩
  | finished request outcome => exact ⟨hcounted, hknows⟩

end Step

def start (row : Option TenantQuota) (d : Date) (requests : Nat → Request) :
    Sessions Shared Session where
  shared := {
    row
    admittedToday := (row.map (today d)).getD 0
    admittedThisMonth := (row.map (thisMonth d)).getD 0 }
  session := fun i => .waiting (requests i)

/-- What the service promises of a state: each finished check was admitted or refused for the
quota, the admissions are within the limits, and none of them is lost from the counters. -/
structure Sound (d : Date) (c : Sessions Shared Session) : Prop where
  outcomes : ∀ i outcome, c.session i = .finished .check outcome →
    outcome = .admitted ∨ outcome = .quotaExceeded
  limits : ∀ q, c.shared.row = some q →
    c.shared.admittedToday ≤ q.dailyLimit ∧ c.shared.admittedThisMonth ≤ q.monthlyLimit
  counters : ∀ q, c.shared.row = some q →
    today d q = c.shared.admittedToday ∧ thisMonth d q = c.shared.admittedThisMonth
  absent : c.shared.row = none → c.shared.admittedToday = 0 ∧ c.shared.admittedThisMonth = 0

theorem sound_of_holds {d : Date} {c : Sessions Shared Session}
    (h : Sessions.Holds (Counted d) (Knows d) c) : Sound d c := by
  obtain ⟨hcounted, hknows⟩ := h
  constructor
  · intro i outcome hfinished
    have hi := hknows i
    rw [hfinished] at hi
    exact hi
  · intro q hq
    simp only [Counted, hq] at hcounted
    exact hcounted.2.2
  · intro q hq
    simp only [Counted, hq] at hcounted
    exact ⟨hcounted.1, hcounted.2.1⟩
  · intro hnone
    simp only [Counted, hnone] at hcounted
    exact hcounted

/-- From no row or from a row within its limits, a run on one day whose steps are all proper is
sound in every state it passes. -/
theorem sound_of_proper (tenantId : String) (d : Date) (row : Option TenantQuota)
    (hwithin : ∀ q, row = some q → today d q ≤ q.dailyLimit ∧ thisMonth d q ≤ q.monthlyLimit)
    (requests : Nat → Request) (schedule : List (Nat × Datetime))
    (hproper : Run.Meets (Sessions.step (act tenantId)) (Sessions.Guard (Proper d))
      (start row d requests) schedule) :
    ∀ before after, schedule = before ++ after →
      Sound d (before.foldl (Sessions.step (act tenantId)) (start row d requests)) := by
  rintro before after rfl
  have hstart : Sessions.Holds (Counted d) (Knows d) (start row d requests) := by
    refine ⟨?_, fun i => trivial⟩
    cases row with
    | none => exact ⟨rfl, rfl⟩
    | some q => exact ⟨rfl, rfl, hwithin q rfl⟩
  apply sound_of_holds
  exact Sessions.run_holds (fun _ _ _ hok hI hA => act_keeps hok hI hA)
    (fun _ _ _ _ _ _ hA hm => hm.stable (act_rowKept hA)) hproper.prefix hstart

/-- Session 0 creates the row and is admitted; then session 1 is. -/
def oneAfterTheOther : List (Nat × Datetime) :=
  [0, 0, 0, 0, 1, 1, 1].map fun i => (i, sampleNoon)

theorem sound_of_proper_sample :
    Sound sampleNoon.date (oneAfterTheOther.foldl (Sessions.step (act "acme"))
      (start none sampleNoon.date fun _ => .check)) := by
  refine sound_of_proper "acme" sampleNoon.date none (fun q hq => nomatch hq) (fun _ => .check)
    oneAfterTheOther ?_ oneAfterTheOther [] (List.append_nil _).symm
  exact ⟨⟨rfl, trivial⟩, ⟨rfl, rfl⟩, ⟨rfl, trivial⟩, ⟨rfl, Or.inl rfl⟩, ⟨rfl, trivial⟩,
    ⟨rfl, trivial⟩, ⟨rfl, Or.inl rfl⟩, trivial⟩

/-- Sessions 0 and 1 take turns. -/
def takingTurns (n : Nat) : List (Nat × Datetime) :=
  (List.range n).flatMap fun _ => [(0, sampleNoon), (1, sampleNoon)]

/-- Two checks that take turns on a stored row are both admitted and counted once; two that take
turns where there is no row end with one of them failing on the unique constraint. -/
theorem unsound_taking_turns :
    ((takingTurns 3).all fun k => k.2.date = sampleNoon.date) = true ∧
      ¬Sound sampleNoon.date ((takingTurns 3).foldl (Sessions.step (act "acme"))
        (start (some (newQuota sampleNoon "acme" .starter)) sampleNoon.date fun _ => .check)) ∧
      ¬Sound sampleNoon.date ((takingTurns 2).foldl (Sessions.step (act "acme"))
        (start none sampleNoon.date fun _ => .check)) := by
  refine ⟨by decide, fun h => ?_, fun h => ?_⟩
  · have hcounters := (h.counters _ rfl).1
    revert hcounters
    decide
  · have houtcome := h.outcomes 1 .integrityError (by decide)
    revert houtcome
    decide

/-! ### A session that is not interrupted -/

theorem alone_loaded (tenantId : String) (now : Datetime) (q : TenantQuota) (a m : Nat) :
    (Sessions.alone (act tenantId) [now, now] (⟨some q, a, m⟩, .loaded .check q)).1.row =
        some (if HasRoom (maybeResetWindows now q) then count (maybeResetWindows now q) else q) ∧
      (Sessions.alone (act tenantId) [now, now] (⟨some q, a, m⟩, .loaded .check q)).2 =
        .finished .check
          (if HasRoom (maybeResetWindows now q) then .admitted else .quotaExceeded) := by
  by_cases hroom : HasRoom (maybeResetWindows now q)
  · have hkey : (count (maybeResetWindows now q)).tenantId = q.tenantId := by
      rw [tenantId_count, tenantId_maybeResetWindows]
    simp only [Sessions.alone, List.foldl_cons, List.foldl_nil, act, decision, if_pos hroom, commit,
      Option.map_some, flush_self hkey, and_self]
  · simp only [Sessions.alone, List.foldl_cons, List.foldl_nil, act, decision, if_neg hroom,
      and_self]

/-- A check that no other session interrupts is `checkAndIncrement`: the same row and outcome. -/
theorem alone_check (t : String) (w : World) (a m : Nat) :
    ∃ n, (Sessions.alone (act t) (List.replicate n w.clock)
          (⟨w.quotas.find? t, a, m⟩, .waiting .check)).1.row =
        (checkAndIncrement t w).2.quotas.find? t ∧
      (Sessions.alone (act t) (List.replicate n w.clock)
          (⟨w.quotas.find? t, a, m⟩, .waiting .check)).2 = .finished .check
        (if (checkAndIncrement t w).1.isOk then .admitted else .quotaExceeded) := by
  have hcheck : (checkAndIncrement t w).2.quotas.find? t = some (if HasRoom (effective w t) then
      count (effective w t) else rowOf w t) ∧
      ((checkAndIncrement t w).1.isOk = true ↔ HasRoom (effective w t)) := by
    by_cases hroom : HasRoom (effective w t)
    · obtain ⟨w', hrun, quotas, rfl, hfind⟩ := checkAndIncrement_admits hroom
      rw [hrun, if_pos hroom]
      exact ⟨(hfind t).trans (if_pos rfl), iff_of_true rfl hroom⟩
    · obtain ⟨w', detail, hrun, quotas, rfl, hfind⟩ := checkAndIncrement_refuses hroom
      rw [hrun, if_neg hroom]
      exact ⟨(hfind t).trans (if_pos rfl), iff_of_false Bool.false_ne_true hroom⟩
  obtain ⟨hrow, hok⟩ := hcheck
  simp only [hrow, hok]
  cases hfind : w.quotas.find? t with
  | some q =>
    rw [effective, rowOf_of_find hfind]
    exact ⟨3, alone_loaded t w.clock q a m⟩
  | none =>
    rw [effective, rowOf_of_none hfind]
    exact ⟨4, alone_loaded t w.clock (newQuota w.clock t .starter) a m⟩

end QuotaConcurrency
end Dox
