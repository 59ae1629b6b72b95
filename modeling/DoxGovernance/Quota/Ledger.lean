import DoxGovernance.Quota.Service

/-!
# Quota by the ledger

The purpose of the quota service without its row: a ledger keeps every call and whether it
succeeded, and a check is allowed when the successful checks of the tenant on that date
since its last reset, and those of the calendar month, are below the limits of the tier
provisioned last. What a ledger allows a tenant depends only on the tenant's own checks,
resets and provisionings.
-/

set_option autoImplicit false

namespace Dox

inductive QuotaOp where
  | provision (create : QuotaProvision)
  | getStatus (tenantId : String)
  | checkAndIncrement (tenantId : String)
  | resetDaily (tenantId : String)

namespace QuotaOp

def tenantId : QuotaOp → String
  | provision create => create.tenantId
  | getStatus tenantId | checkAndIncrement tenantId | resetDaily tenantId => tenantId

def checks (k : String) : QuotaOp → Bool
  | checkAndIncrement tenantId => tenantId = k
  | _ => false

def resets (k : String) : QuotaOp → Bool
  | resetDaily tenantId => tenantId = k
  | _ => false

def provisions (k : String) : QuotaOp → Option SubscriptionTier
  | provision create => if create.tenantId = k then some create.subscriptionTier else none
  | _ => none

/-- Whether an operation can matter to the checks of a tenant. -/
def concerns (k : String) : QuotaOp → Bool
  | getStatus _ => false
  | op => op.tenantId = k

end QuotaOp

structure QuotaCall where
  time : Datetime
  op : QuotaOp

structure QuotaEntry extends QuotaCall where
  succeeded : Bool

/-- The entries of a run, the newest first. -/
abbrev QuotaLedger := List QuotaEntry

namespace QuotaLedger

def admits (k : String) (e : QuotaEntry) : Bool := e.op.checks k && e.succeeded

def successesOn (k : String) (d : Date) (l : QuotaLedger) : Nat :=
  (l.takeWhile fun e => !e.op.resets k).countP fun e => admits k e && e.time.date = d

def successesInMonth (k : String) (m : Nat) (l : QuotaLedger) : Nat :=
  l.countP fun e => admits k e && e.time.monthIndex = m

def tierInForce (k : String) (l : QuotaLedger) : SubscriptionTier :=
  (l.findSome? fun e => e.op.provisions k).getD .starter

def limitsInForce (k : String) (l : QuotaLedger) : Nat × Nat := limitsForTier (tierInForce k l)

/-- The rule: whether a call made now succeeds. -/
def allows (l : QuotaLedger) (call : QuotaCall) : Bool :=
  match call.op with
  | .checkAndIncrement k =>
    successesOn k call.time.date l < (limitsInForce k l).1 &&
      successesInMonth k call.time.monthIndex l < (limitsInForce k l).2
  | _ => true

def record (l : QuotaLedger) (call : QuotaCall) : QuotaLedger := ⟨call, allows l call⟩ :: l

theorem successesOn_reset {k : String} {e : QuotaEntry} (h : e.op.resets k = true) (d : Date)
    (l : QuotaLedger) : successesOn k d (e :: l) = 0 := by
  simp only [successesOn, List.takeWhile_cons, h, Bool.not_true, Bool.false_eq_true, if_false,
    List.countP_nil]

theorem successesOn_cons {k : String} {e : QuotaEntry} (h : e.op.resets k = false) (d : Date)
    (l : QuotaLedger) : successesOn k d (e :: l) =
      successesOn k d l + if admits k e && e.time.date = d then 1 else 0 := by
  simp only [successesOn, List.takeWhile_cons, h, Bool.not_false, if_true, List.countP_cons]

theorem successesInMonth_cons (k : String) (e : QuotaEntry) (m : Nat) (l : QuotaLedger) :
    successesInMonth k m (e :: l) =
      successesInMonth k m l + if admits k e && e.time.monthIndex = m then 1 else 0 :=
  List.countP_cons

theorem tierInForce_cons (k : String) (e : QuotaEntry) (l : QuotaLedger) :
    tierInForce k (e :: l) = (e.op.provisions k).getD (tierInForce k l) := by
  unfold tierInForce
  rw [List.findSome?_cons]
  cases e.op.provisions k <;> rfl

/-! ### Other calls do not matter -/

/-- An entry that neither counts for a tenant, nor resets its day, nor sets its tier. -/
structure Silent (k : String) (e : QuotaEntry) : Prop where
  admits : admits k e = false
  resets : e.op.resets k = false
  provisions : e.op.provisions k = none

theorem silent_of_unconcerned {k : String} {e : QuotaEntry} (h : e.op.concerns k = false) :
    Silent k e := by
  have hop : e.op.checks k = false ∧ e.op.resets k = false ∧ e.op.provisions k = none := by
    revert h
    cases e.op with
    | getStatus => exact fun _ => ⟨rfl, rfl, rfl⟩
    | provision create => exact fun h => ⟨rfl, rfl, if_neg (of_decide_eq_false h)⟩
    | checkAndIncrement => exact fun h => ⟨h, rfl, rfl⟩
    | resetDaily => exact fun h => ⟨rfl, h, rfl⟩
  exact ⟨by rw [QuotaLedger.admits, hop.1, Bool.false_and], hop.2.1, hop.2.2⟩

namespace Silent
variable {k : String} {e : QuotaEntry} (h : Silent k e) (l : QuotaLedger)
include h

theorem successesOn_cons (d : Date) : successesOn k d (e :: l) = successesOn k d l := by
  rw [QuotaLedger.successesOn_cons h.resets, h.admits]
  rfl

theorem successesInMonth_cons (m : Nat) :
    successesInMonth k m (e :: l) = successesInMonth k m l := by
  rw [QuotaLedger.successesInMonth_cons, h.admits]
  rfl

theorem tierInForce_cons : tierInForce k (e :: l) = tierInForce k l := by
  rw [QuotaLedger.tierInForce_cons, h.provisions, Option.getD_none]

end Silent

/-- Dropping the entries that do not concern a tenant changes none of its counts. -/
theorem counts_filter (k : String) (l : QuotaLedger) :
    (∀ d, successesOn k d (l.filter fun e => e.op.concerns k) = successesOn k d l) ∧
      (∀ m, successesInMonth k m (l.filter fun e => e.op.concerns k) = successesInMonth k m l) ∧
      tierInForce k (l.filter fun e => e.op.concerns k) = tierInForce k l := by
  induction l with
  | nil => exact ⟨fun _ => rfl, fun _ => rfl, rfl⟩
  | cons e l ih =>
    obtain ⟨hday, hmonth, htier⟩ := ih
    cases h : e.op.concerns k with
    | false =>
      have hs := silent_of_unconcerned h
      rw [List.filter_cons_of_neg (by simp [h])]
      refine ⟨fun d => ?_, fun m => ?_, ?_⟩
      · rw [hday, hs.successesOn_cons]
      · rw [hmonth, hs.successesInMonth_cons]
      · rw [htier, hs.tierInForce_cons]
    | true =>
      rw [List.filter_cons, if_pos h]
      refine ⟨fun d => ?_, fun m => ?_, ?_⟩
      · cases hreset : e.op.resets k with
        | true => rw [successesOn_reset hreset, successesOn_reset hreset]
        | false => rw [successesOn_cons hreset, successesOn_cons hreset, hday]
      · rw [successesInMonth_cons, successesInMonth_cons, hmonth]
      · rw [tierInForce_cons, tierInForce_cons, htier]

theorem allows_filter {k : String} {call : QuotaCall} (h : call.op.concerns k = true)
    (l : QuotaLedger) : allows (l.filter fun e => e.op.concerns k) call = allows l call := by
  obtain ⟨hday, hmonth, htier⟩ := counts_filter k l
  unfold allows
  cases hop : call.op with
  | checkAndIncrement tenantId =>
    rw [hop] at h
    have hk : tenantId = k := of_decide_eq_true h
    subst hk
    dsimp only
    rw [limitsInForce, limitsInForce, hday, hmonth, htier]
  | _ => rfl

/-- The entries of a tenant are those of the run without the calls that do not concern it. -/
theorem filter_foldl_record (k : String) (calls : List QuotaCall) (l : QuotaLedger) :
    (calls.foldl record l).filter (fun e => e.op.concerns k) =
      (calls.filter fun call => call.op.concerns k).foldl record
        (l.filter fun e => e.op.concerns k) := by
  induction calls generalizing l with
  | nil => rfl
  | cons call calls ih =>
    rw [List.foldl_cons, ih]
    cases h : call.op.concerns k with
    | false =>
      rw [List.filter_cons_of_neg (by simp [h]), record, List.filter_cons_of_neg (by simp [h])]
    | true =>
      rw [List.filter_cons, if_pos h, List.foldl_cons, record, record, allows_filter h,
        List.filter_cons, if_pos h]

end QuotaLedger

end Dox
