import DoxGovernance.Lib.WriteBack
import DoxGovernance.Registry.Service

/-!
# Concurrent edits of a profile

Updates, deactivations and heartbeats of one agent, each in its own database session, as two
steps: the row is read and changed in memory, and the columns that have changed are written in one
commit. Two updates at once may leave a row that neither of them wrote, with columns of both; but
no column loses a value that was set.
-/

set_option autoImplicit false

namespace Dox
namespace ProfileEdits
open AgentRegistryService

inductive Column where
  | name | description | version | capabilities | tags | isActive | lastSeenAt
deriving DecidableEq

def Column.Value : Column → Type
  | .name | .version => String
  | .description => Option String
  | .capabilities => List String
  | .tags => List (String × String)
  | .isActive => Bool
  | .lastSeenAt => Option Datetime

instance : ∀ c : Column, DecidableEq c.Value
  | .name | .version => inferInstanceAs (DecidableEq String)
  | .description => inferInstanceAs (DecidableEq (Option String))
  | .capabilities => inferInstanceAs (DecidableEq (List String))
  | .tags => inferInstanceAs (DecidableEq (List (String × String)))
  | .isActive => inferInstanceAs (DecidableEq Bool)
  | .lastSeenAt => inferInstanceAs (DecidableEq (Option Datetime))

def Column.read : ∀ c : Column, Columns → c.Value
  | .name => Columns.name
  | .description => Columns.description
  | .version => Columns.version
  | .capabilities => Columns.capabilities
  | .tags => Columns.tags
  | .isActive => Columns.isActive
  | .lastSeenAt => Columns.lastSeenAt

/-- The value a column has after an update that sets it only when it was changed in memory. -/
def column {α : Type} [DecidableEq α] (f : Columns → α) (loaded changed current : Columns) : α :=
  if f changed = f loaded then f current else f changed

def merge (loaded changed current : Columns) : Columns where
  name := column (·.name) loaded changed current
  description := column (·.description) loaded changed current
  version := column (·.version) loaded changed current
  capabilities := column (·.capabilities) loaded changed current
  tags := column (·.tags) loaded changed current
  isActive := column (·.isActive) loaded changed current
  lastSeenAt := column (·.lastSeenAt) loaded changed current

theorem read_merge (loaded changed current : Columns) (c : Column) :
    c.read (merge loaded changed current) =
      if c.read changed = c.read loaded then c.read current else c.read changed := by
  cases c <;> rfl

/-- `UPDATE` with the changed columns, on the row that is committed now; none is sent when no column
has changed. -/
def flush (now : Datetime) (loaded changed current : AgentProfile) : AgentProfile :=
  if columns changed = columns loaded then current
  else setColumns now (merge (columns loaded) (columns changed) (columns current)) current

theorem read_flush (now : Datetime) (loaded changed current : AgentProfile) (c : Column) :
    c.read (columns (flush now loaded changed current)) =
      if c.read (columns changed) = c.read (columns loaded) then c.read (columns current)
      else c.read (columns changed) := by
  unfold flush
  split
  · rename_i hsame
    rw [if_pos (congrArg c.read hsame)]
  · exact read_merge (columns loaded) (columns changed) (columns current) c

def layout : WriteBack.Layout AgentProfile Column.Value Datetime where
  read c profile := c.read (columns profile)
  flush := flush
  read_flush := read_flush

inductive Request where
  | update (patch : AgentProfileUpdate)
  | delete
  | heartbeat (now : Datetime)

/-- What the call does to the columns in memory. -/
def Request.change : Request → Columns → Columns
  | .update patch => patched patch
  | .delete => ({· with isActive := false})
  | .heartbeat now => ({· with lastSeenAt := some now})

def Request.edit (request : Request) (profile : AgentProfile) : AgentProfile :=
  setColumns profile.updatedAt (request.change (columns profile)) profile

def Request.assigns : Request → ∀ c : Column, Option c.Value
  | .update patch, .name => patch.name
  | .update patch, .description => patch.description.map some
  | .update patch, .version => patch.version
  | .update patch, .capabilities => patch.capabilities
  | .update patch, .tags => patch.tags
  | .update patch, .isActive => patch.isActive
  | .delete, .isActive => some false
  | .heartbeat now, .lastSeenAt => some (some now)
  | _, _ => none

theorem read_change (request : Request) (old : Columns) (c : Column) :
    c.read (request.change old) = (request.assigns c).getD (c.read old) := by
  cases request with
  | update patch =>
    obtain ⟨name, description, version, capabilities, tags, isActive⟩ := patch
    cases c with
    | description => cases description <;> rfl
    | name | version | capabilities | tags | isActive | lastSeenAt => rfl
  | delete => cases c <;> rfl
  | heartbeat now => cases c <;> rfl

def edits : WriteBack.Edits layout Request where
  edit := Request.edit
  assigns := Request.assigns
  read_edit request profile c := read_change request (columns profile) c

/-! ### A call that is not interrupted -/

theorem merge_self (loaded changed : Columns) : merge loaded changed loaded = changed := by
  have hcolumn : ∀ {α : Type} [DecidableEq α] (f : Columns → α),
      column f loaded changed loaded = f changed := by
    intro α _ f
    unfold column
    split
    · exact (by assumption : f changed = f loaded).symm
    · rfl
  unfold merge
  simp only [hcolumn]

/-- Alone, a session leaves the row that the service writes. -/
theorem alone_written (now : Datetime) (request : Request) (profile : AgentProfile) :
    (Sessions.alone (WriteBack.act edits) [now, now] (profile, .waiting request)).1 =
      written now request.change profile := by
  show flush now profile (request.edit profile) profile = _
  have hcolumns : columns (request.edit profile) = request.change (columns profile) := rfl
  unfold flush written
  rw [hcolumns]
  split
  · rfl
  · rw [merge_self]

theorem save_stores {w : World} {profile : AgentProfile}
    (h : w.agents.find? profile.id = some profile) (request : Request) :
    (save request.change profile w).2.agents.find? profile.id =
      some (Sessions.alone (WriteBack.act edits) [w.clock, w.clock] (profile, .waiting request)).1 := by
  rw [alone_written]
  refine (Numbered.find?_update _ _ _ _ _).trans ?_
  rw [if_pos rfl, h]
  rfl

theorem update_eq_save {w : World} {profile : AgentProfile}
    (h : w.agents.find? profile.id = some profile) (patch : AgentProfileUpdate) :
    AgentRegistryService.update profile.id patch w =
      save (Request.update patch).change profile w :=
  Effect.bind_ok ((get_finds profile.id).found h)

theorem delete_eq_save {w : World} {profile : AgentProfile}
    (h : w.agents.find? profile.id = some profile) :
    (AgentRegistryService.delete profile.id w).2 = (save Request.delete.change profile w).2 := by
  rw [AgentRegistryService.delete, Effect.bind_ok ((get_finds profile.id).found h)]
  rfl

theorem heartbeat_eq_save {w : World} {profile : AgentProfile}
    (h : (w.agents.rows.find? fun p => p.agentKey = profile.agentKey) = some profile) :
    heartbeat profile.tenantId profile.agentId w =
      save (Request.heartbeat w.clock).change profile w :=
  Effect.bind_ok ((getByAgentId_finds profile.tenantId profile.agentId).found h)

/-! ### Every interleaving -/

/-- The row after a schedule of sessions. -/
def after (profile : AgentProfile) (requests : Nat → Request) (schedule : List (Nat × Datetime)) :
    AgentProfile :=
  (schedule.foldl (Sessions.step (WriteBack.act edits)) (WriteBack.start profile requests)).shared

/-- Every column is an atomic register: the sessions that set it have an order, in accordance with
real time, whose last value it holds. When each request sets one column at most, as heartbeats and
deactivations do, the sessions have one order for the whole row. -/
structure Atomic (profile : AgentProfile) (requests : Nat → Request)
    (schedule : List (Nat × Datetime)) : Prop where
  columns : ∀ c : Column,
    ∃ sessions, WriteBack.Linearized edits c profile requests schedule sessions
  row : (∀ i, WriteBack.Single edits (requests i)) →
    ∃ sessions, WriteBack.Serialized edits profile requests schedule sessions
  identity : (after profile requests schedule).id = profile.id ∧
    (after profile requests schedule).agentKey = profile.agentKey ∧
      (after profile requests schedule).createdAt = profile.createdAt

theorem identity_flush (now : Datetime) (loaded changed current : AgentProfile) :
    (flush now loaded changed current).id = current.id ∧
      (flush now loaded changed current).agentKey = current.agentKey ∧
      (flush now loaded changed current).createdAt = current.createdAt := by
  unfold flush
  split
  · exact ⟨rfl, rfl, rfl⟩
  · exact ⟨rfl, rfl, rfl⟩

theorem identity_act (now : Datetime) (row : AgentProfile)
    (l : WriteBack.Session AgentProfile Request) :
    (WriteBack.act edits now row l).1.id = row.id ∧
      (WriteBack.act edits now row l).1.agentKey = row.agentKey ∧
      (WriteBack.act edits now row l).1.createdAt = row.createdAt := by
  cases l with
  | waiting request | finished request => exact ⟨rfl, rfl, rfl⟩
  | loaded request loaded changed => exact identity_flush now loaded changed row

theorem edits_atomic (profile : AgentProfile) (requests : Nat → Request)
    (schedule : List (Nat × Datetime)) : Atomic profile requests schedule where
  columns c := WriteBack.linearizable edits c profile requests schedule
  row hsingle := WriteBack.serializable edits profile hsingle schedule
  identity := by
    have hkeep : ∀ (s : Sessions AgentProfile (WriteBack.Session AgentProfile Request)) k, True →
        (s.shared.id = profile.id ∧ s.shared.agentKey = profile.agentKey ∧
          s.shared.createdAt = profile.createdAt) →
        ((Sessions.step (WriteBack.act edits) s k).shared.id = profile.id ∧
          (Sessions.step (WriteBack.act edits) s k).shared.agentKey = profile.agentKey ∧
          (Sessions.step (WriteBack.act edits) s k).shared.createdAt = profile.createdAt) := by
      intro s k _ ⟨hid, hkey, hcreated⟩
      obtain ⟨hid', hkey', hcreated'⟩ := identity_act k.2 s.shared (s.session k.1)
      exact ⟨hid'.trans hid, hkey'.trans hkey, hcreated'.trans hcreated⟩
    exact Run.invariant hkeep (Run.meets_true _ schedule) ⟨rfl, rfl, rfl⟩

end ProfileEdits
end Dox
