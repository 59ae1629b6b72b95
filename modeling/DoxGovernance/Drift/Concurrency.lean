import DoxGovernance.Lib.Interleave
import DoxGovernance.Drift.Service

/-!
# Concurrent baselines

Computations and deactivations of baselines, each in its own database session, as steps. A
computation reads the events, reads the agent's active baselines, and then commits the
deactivation of those it read together with a new active baseline. No constraint of the
table keeps a second active baseline out, so an agent has at most one as long as every
computation has read all that are active when it commits.
-/

set_option autoImplicit false

namespace Dox
namespace BaselineConcurrency
open DriftDetectionService

inductive Request where
  | compute (create : BaselineCreate)
  | deactivate (baselineId : Uuid)

inductive Session where
  | waiting (request : Request)
  | counted (create : BaselineCreate) (events : List EventRecord)
  | loaded (create : BaselineCreate) (events : List EventRecord) (oldRows : List AgentBaseline)
  | found (baseline : AgentBaseline)
  | finished (outcome : Except Exc AgentBaseline)

/-- A reading of the clock, and the orders in which the tables are scanned. -/
structure Tick where
  now : Datetime
  events : Scan EventRecord
  baselines : Scan AgentBaseline

/-- Whether a row is among those that were read as active. -/
def covers (read : List AgentBaseline) (row : AgentBaseline) : Bool :=
  read.any fun old => old.isActive && old.id = row.id

def deactivated (baseline : AgentBaseline) : AgentBaseline := {baseline with isActive := false}

theorem id_deactivated (baseline : AgentBaseline) : (deactivated baseline).id = baseline.id := rfl

/-- `UPDATE` of the rows that were read as active, after `is_active` was set to false on them. -/
def flush (read : List AgentBaseline) (t : Numbered AgentBaseline.id) :
    Numbered AgentBaseline.id :=
  t.modify (covers read) deactivated id_deactivated

def readEvents (x : Tick) (w : World) (create : BaselineCreate) : List EventRecord :=
  orderByAsc (·.timestamp) (w.events.select x.events
    (inWindow x.now create.tenantId create.agentId create.lookbackHours))

def readActive (x : Tick) (w : World) (create : BaselineCreate) : List AgentBaseline :=
  w.baselines.select x.baselines (isActiveOf create.tenantId create.agentId)

def commit (now : Datetime) (w : World) (create : BaselineCreate) (events : List EventRecord)
    (oldRows : List AgentBaseline) : World × Session :=
  let kept := flush oldRows w.baselines
  ({w with baselines := kept.add (newBaseline now create events) fun _ => rfl},
    .finished (.ok (newBaseline now create events kept.next)))

def sought : Except Exc AgentBaseline → Session
  | .ok baseline => .found baseline
  | .error e => .finished (.error e)

/-- The next database step of a session. -/
def act (x : Tick) (w : World) : Session → World × Session
  | .waiting (.compute create) => (w, .counted create (readEvents x w create))
  | .waiting (.deactivate baselineId) => (w, sought (getBaseline baselineId w).1)
  | .counted create events => (w, .loaded create events (readActive x w create))
  | .loaded create events oldRows => commit x.now w create events oldRows
  | .found baseline => ({w with baselines := flush [baseline] w.baselines},
      .finished (.ok (deactivated baseline)))
  | .finished outcome => (w, .finished outcome)

/-- Each tenant and agent has at most one active baseline. -/
def OneActive (w : World) : Prop :=
  ∀ tenantId agentId, w.baselines.rows.countP (isActiveOf tenantId agentId) ≤ 1

/-- A session that is about to add a baseline has read all that are active for the agent. -/
def ReadAll (_ : Tick) (w : World) : Session → Prop
  | .loaded create _ oldRows => ∀ row ∈ w.baselines.rows,
      isActiveOf create.tenantId create.agentId row = true → covers oldRows row = true
  | _ => True

section Flush
variable (tenantId agentId : String) (read : List AgentBaseline) (t : Numbered AgentBaseline.id)

theorem isActiveOf_deactivated (row : AgentBaseline) :
    isActiveOf tenantId agentId (deactivated row) = false := by
  simp [isActiveOf, deactivated]

theorem countP_flush : (flush read t).rows.countP (isActiveOf tenantId agentId) =
    t.rows.countP fun row => isActiveOf tenantId agentId row && !covers read row := by
  rw [flush, Numbered.rows_modify, List.countP_map]
  apply List.countP_congr
  intro row _
  rw [Function.comp_apply]
  cases hcovers : covers read row with
  | true => simp [isActiveOf_deactivated]
  | false => simp

theorem countP_flush_le : (flush read t).rows.countP (isActiveOf tenantId agentId) ≤
    t.rows.countP (isActiveOf tenantId agentId) := by
  rw [countP_flush]
  apply List.countP_mono_left
  intro row _ hrow
  exact (Bool.and_eq_true_iff.mp hrow).1

theorem countP_flush_eq_zero_iff :
    (flush read t).rows.countP (isActiveOf tenantId agentId) = 0 ↔
      ∀ row ∈ t.rows, isActiveOf tenantId agentId row = true → covers read row = true := by
  rw [countP_flush, List.countP_eq_zero]
  simp

end Flush

theorem isActiveOf_new {tenantId agentId : String} (now : Datetime) (create : BaselineCreate)
    (events : List EventRecord) (id : Uuid) :
    isActiveOf tenantId agentId (newBaseline now create events id) = true ↔
      create.tenantId = tenantId ∧ create.agentId = agentId := by
  rw [isActiveOf, Bool.and_eq_true_iff, Bool.and_eq_true_iff, decide_eq_true_iff,
    decide_eq_true_iff]
  exact and_iff_left rfl

theorem rows_commit (now : Datetime) (w : World) (create : BaselineCreate)
    (events : List EventRecord) (oldRows : List AgentBaseline) :
    (commit now w create events oldRows).1.baselines.rows = (flush oldRows w.baselines).rows ++
      [newBaseline now create events (flush oldRows w.baselines).next] := rfl

theorem countP_commit (now : Datetime) (w : World) (create : BaselineCreate)
    (events : List EventRecord) (oldRows : List AgentBaseline) (tenantId agentId : String) :
    (commit now w create events oldRows).1.baselines.rows.countP (isActiveOf tenantId agentId) =
      (flush oldRows w.baselines).rows.countP (isActiveOf tenantId agentId) +
        if create.tenantId = tenantId ∧ create.agentId = agentId then 1 else 0 := by
  rw [rows_commit, List.countP_append, List.countP_singleton]
  simp only [isActiveOf_new]

/-- A commit leaves one active baseline for each agent exactly when it has read all that are
active for its own. -/
theorem commit_oneActive_iff {now : Datetime} {w : World} {create : BaselineCreate}
    {events : List EventRecord} {oldRows : List AgentBaseline} (h : OneActive w) :
    OneActive (commit now w create events oldRows).1 ↔ ∀ row ∈ w.baselines.rows,
      isActiveOf create.tenantId create.agentId row = true → covers oldRows row = true := by
  rw [← countP_flush_eq_zero_iff]
  constructor
  · intro hone
    have hcount := hone create.tenantId create.agentId
    rw [countP_commit, if_pos ⟨rfl, rfl⟩] at hcount
    omega
  · intro hzero tenantId agentId
    rw [countP_commit]
    split
    · rename_i hpair
      obtain ⟨rfl, rfl⟩ := hpair
      omega
    · have hle := countP_flush_le tenantId agentId oldRows w.baselines
      have hone := h tenantId agentId
      omega

/-- The step lemma. -/
theorem act_oneActive_iff (x : Tick) (w : World) (l : Session) (h : OneActive w) :
    OneActive (act x w l).1 ↔ ReadAll x w l := by
  cases l with
  | waiting request =>
    rcases request with create | baselineId
    · exact iff_of_true h trivial
    · exact iff_of_true h trivial
  | counted create events => exact iff_of_true h trivial
  | loaded create events oldRows => exact commit_oneActive_iff h
  | found baseline =>
    refine iff_of_true ?_ trivial
    intro tenantId agentId
    exact Nat.le_trans (countP_flush_le tenantId agentId [baseline] w.baselines)
      (h tenantId agentId)
  | finished outcome => exact iff_of_true h trivial

def start (w : World) (requests : Nat → Request) : Sessions World Session where
  shared := w
  session := fun i => .waiting (requests i)

/-- In a run of any number of sessions each agent has at most one active baseline all along
exactly when every computation has read, by the time of its commit, all that are active then. -/
theorem one_active_iff (w : World) (hone : OneActive w) (requests : Nat → Request)
    (schedule : List (Nat × Tick)) :
    Sessions.Throughout act OneActive (start w requests) schedule ↔
      Run.Meets (Sessions.step act) (Sessions.Guard ReadAll) (start w requests) schedule :=
  Sessions.always_iff act_oneActive_iff hone

theorem sampleWorld_oneActive : OneActive sampleWorld := fun _ _ => Nat.zero_le 1

/-- Two sessions that compute a baseline of the same agent. -/
def twice (_ : Nat) : Request := .compute {tenantId := "acme", agentId := "a1"}

def turns (sessions : List Nat) : List (Nat × Tick) :=
  sessions.map fun i => (i, ⟨sampleNoon, .stored, .stored⟩)

theorem one_active_iff_sample :
    Sessions.Throughout act OneActive (start sampleWorld twice) (turns [0, 0, 0, 1, 1, 1]) := by
  refine (one_active_iff sampleWorld sampleWorld_oneActive twice (turns [0, 0, 0, 1, 1, 1])).mpr ?_
  refine ⟨trivial, trivial, ?_, trivial, trivial, ?_, trivial⟩
  · exact fun row hrow => absurd hrow List.not_mem_nil
  · intro row hrow _
    rw [List.mem_singleton.mp hrow]
    rfl

/-- When the two sessions take turns, the agent ends with two active baselines. -/
theorem two_active_taking_turns : OneActive sampleWorld ∧
    ¬Sessions.Throughout act OneActive (start sampleWorld twice)
      (turns [0, 1, 0, 1, 0, 1]) := by
  refine ⟨sampleWorld_oneActive, fun h => ?_⟩
  have hone := h (turns [0, 1, 0, 1, 0, 1]) [] rfl "acme" "a1"
  revert hone
  decide

/-! ### A session that is not interrupted -/

section Alone
variable (x : Tick) (w : World)

theorem covers_readActive {create : BaselineCreate} {row : AgentBaseline}
    (hrow : row ∈ w.baselines.rows) :
    covers (readActive x w create) row = isActiveOf create.tenantId create.agentId row := by
  rw [Bool.eq_iff_iff, covers, List.any_eq_true]
  constructor
  · rintro ⟨old, hold, hid⟩
    obtain ⟨hmem, hactive⟩ := Table.mem_select.mp hold
    have hsame : old.id = row.id := of_decide_eq_true (Bool.and_eq_true_iff.mp hid).2
    rw [← List.inj_on_of_nodup_map w.baselines.unique hmem hrow hsame]
    exact hactive
  · intro hactive
    refine ⟨row, Table.mem_select.mpr ⟨hrow, hactive⟩, ?_⟩
    exact Bool.and_eq_true_iff.mpr ⟨(Bool.and_eq_true_iff.mp hactive).2, decide_eq_true rfl⟩

/-- A computation that no other session interrupts is `computeBaseline`. -/
theorem alone_compute (create : BaselineCreate) (hnow : x.now = w.clock) :
    Sessions.alone act [x, x, x] (w, .waiting (.compute create)) =
      ((computeBaseline x.events create w).2,
        .finished (computeBaseline x.events create w).1) := by
  have hflush : flush (readActive x w create) w.baselines =
      w.baselines.modify (isActiveOf create.tenantId create.agentId)
        ({· with isActive := false}) fun _ => rfl := by
    apply Numbered.modify_congr
    intro row hrow
    exact covers_readActive x w hrow
  change commit x.now w create (readEvents x w create) (readActive x w create) = _
  unfold commit readEvents
  rw [hflush, hnow]
  rfl

/-- Such a computation leaves one active baseline for each agent. -/
theorem computeBaseline_oneActive (scan : Scan EventRecord) (create : BaselineCreate)
    (h : OneActive w) : OneActive (computeBaseline scan create w).2 := by
  have hrun : _ = (computeBaseline scan create w).2 :=
    congrArg Prod.fst (alone_compute ⟨w.clock, scan, .stored⟩ w create rfl)
  rw [← hrun]
  apply (commit_oneActive_iff h).mpr
  intro row hrow hactive
  exact (covers_readActive _ w hrow).trans hactive

theorem deactivated_of_inactive {row : AgentBaseline} (h : row.isActive = false) :
    deactivated row = row := by
  rw [deactivated, ← h]

/-- A row that is read inactive is not written, and would not change. -/
theorem flush_found {t : Numbered AgentBaseline.id} {baselineId : Uuid} {baseline : AgentBaseline}
    (hfind : t.find? baselineId = some baseline) :
    flush [baseline] t = t.update baselineId ({· with isActive := false}) fun _ => rfl := by
  apply Numbered.ext
  · rw [Numbered.rows_update, flush, Numbered.rows_modify]
    apply List.map_congr_left
    intro row hrow
    by_cases hid : row.id = baselineId
    · have hsame : row = baseline := by
        have hself := Table.find?_of_mem hrow
        rw [hid, hfind] at hself
        exact (Option.some.inj hself).symm
      subst hsame
      rw [if_pos hid]
      cases hactive : row.isActive with
      | true => exact if_pos (by simp [covers, hactive])
      | false =>
        rw [deactivated_of_inactive hactive, ite_self]
        exact (deactivated_of_inactive hactive).symm
    · have hne : baseline.id ≠ row.id := by
        rw [Table.key_of_find? hfind]
        exact Ne.symm hid
      rw [if_neg hid, if_neg (by simp [covers, hne])]
  · rfl

/-- A deactivation that no other session interrupts is `deactivateBaseline`. -/
theorem alone_deactivate (baselineId : Uuid) :
    Sessions.alone act [x, x] (w, .waiting (.deactivate baselineId)) =
      ((deactivateBaseline baselineId w).2, .finished (deactivateBaseline baselineId w).1) := by
  rw [Sessions.alone_cons, Sessions.alone_cons, deactivateBaseline]
  cases hfind : w.baselines.find? baselineId with
  | none =>
    obtain ⟨e, herror⟩ := (getBaseline_finds baselineId).missing hfind
    rw [Effect.bind_error herror]
    simp only [act, herror, sought]
    rfl
  | some baseline =>
    have hget := (getBaseline_finds baselineId).found hfind
    rw [Effect.bind_ok hget]
    simp only [act, hget, sought, flush_found hfind]
    rfl

end Alone

end BaselineConcurrency
end Dox
