import DoxGovernance.Lib.Text
import DoxGovernance.World

/-!
# The agent registry

A tenant registers each of its agents once; profiles are read, updated and deactivated by
identifier, and an agent reports that it is alive under its tenant and its own name. The
time of the last update of a row moves only when a column changes.
-/

set_option autoImplicit false

namespace Dox

structure AgentProfileCreate where
  tenantId : String
  agentId : String
  name : String
  description : Option String := none
  version : String := "1.0"
  capabilities : List String := []
  tags : List (String × String) := []

structure AgentProfileUpdate where
  name : Option String := none
  description : Option String := none
  version : Option String := none
  capabilities : Option (List String) := none
  tags : Option (List (String × String)) := none
  isActive : Option Bool := none

namespace AgentRegistryService

/-- `_get_by_tenant_and_agent`. -/
def getByTenantAndAgent (tenantId agentId : String) : Service (Option AgentProfile) :=
  Effect.gets fun w => w.agents.rows.find? fun profile => profile.agentKey = (tenantId, agentId)

def newProfile (now : Datetime) (create : AgentProfileCreate) (id : Uuid) : AgentProfile where
  id := id
  tenantId := create.tenantId
  agentId := create.agentId
  name := create.name
  description := create.description
  version := create.version
  capabilities := create.capabilities
  tags := create.tags
  isActive := true
  lastSeenAt := none
  createdAt := now
  updatedAt := now

def insert (create : AgentProfileCreate) : Service AgentProfile := fun w =>
  match w.agents.add? (newProfile w.clock create) fun _ => rfl with
  | some agents => (.ok (newProfile w.clock create w.agents.next), {w with agents})
  | none => (.error (.integrityError "uq_agent_profiles_tenant_agent"), w)

def create (create : AgentProfileCreate) : Service AgentProfile := do
  match ← getByTenantAndAgent create.tenantId create.agentId with
  | some _ => Effect.raise (.conflict
      s!"Agent '{create.agentId}' already registered for tenant '{create.tenantId}'")
  | none => insert create

def get (profileId : Uuid) : Service AgentProfile := fun w =>
  match w.agents.find? profileId with
  | some profile => (.ok profile, w)
  | none => (.error (.notFound s!"AgentProfile {Text.uuid profileId} not found"), w)

theorem get_finds (profileId : Uuid) :
    Effect.Finds (fun w => w.agents.find? profileId) (get profileId) := by
  constructor
  · intro w _ hfind
    simp only [get, hfind]
  · intro w hfind
    simp only [get, hfind]
    exact ⟨_, rfl⟩

def getByAgentId (tenantId agentId : String) : Service AgentProfile := do
  match ← getByTenantAndAgent tenantId agentId with
  | some profile => return profile
  | none => Effect.raise (.notFound s!"Agent '{agentId}' not found for tenant '{tenantId}'")

theorem getByAgentId_finds (tenantId agentId : String) :
    Effect.Finds (fun w => w.agents.rows.find? fun profile =>
      profile.agentKey = (tenantId, agentId)) (getByAgentId tenantId agentId) := by
  constructor
  · intro w _ hfind
    rw [getByAgentId, getByTenantAndAgent, Effect.bind_ok (Effect.gets_run _ w), hfind]
    rfl
  · intro w hfind
    rw [getByAgentId, getByTenantAndAgent, Effect.bind_ok (Effect.gets_run _ w), hfind]
    exact ⟨_, rfl⟩

def listForTenant (scan : Scan AgentProfile) (tenantId : String) (activeOnly : Bool)
    (limit offset : Nat) : Service (List AgentProfile) :=
  Effect.gets fun w => page offset limit (orderByDesc (·.createdAt)
    (w.agents.select scan fun profile =>
      profile.tenantId = tenantId && (!activeOnly || profile.isActive)))

/-- The columns of a profile that can change. -/
structure Columns where
  name : String
  description : Option String
  version : String
  capabilities : List String
  tags : List (String × String)
  isActive : Bool
  lastSeenAt : Option Datetime
deriving DecidableEq

def columns (profile : AgentProfile) : Columns :=
  ⟨profile.name, profile.description, profile.version, profile.capabilities, profile.tags,
    profile.isActive, profile.lastSeenAt⟩

/-- Whether a change of the columns changes those of a profile. -/
def changes (change : Columns → Columns) (profile : AgentProfile) : Bool :=
  change (columns profile) ≠ columns profile

def setColumns (now : Datetime) (new : Columns) (profile : AgentProfile) : AgentProfile :=
  {profile with
    name := new.name
    description := new.description
    version := new.version
    capabilities := new.capabilities
    tags := new.tags
    isActive := new.isActive
    lastSeenAt := new.lastSeenAt
    updatedAt := now}

/-- The row after an `UPDATE`, which is sent only when it changes a column. -/
def written (now : Datetime) (change : Columns → Columns) (profile : AgentProfile) :
    AgentProfile :=
  if change (columns profile) = columns profile then profile
  else setColumns now (change (columns profile)) profile

theorem keys_written (now : Datetime) (change : Columns → Columns) (profile : AgentProfile) :
    (written now change profile).id = profile.id ∧
      (written now change profile).agentKey = profile.agentKey := by
  unfold written
  split
  · exact ⟨rfl, rfl⟩
  · exact ⟨rfl, rfl⟩

def save (change : Columns → Columns) (profile : AgentProfile) : Service AgentProfile :=
  Effect.change fun w =>
    let agents := w.agents.update profile.id (written w.clock change)
      (fun p => (keys_written w.clock change p).1) fun p => (keys_written w.clock change p).2
    (written w.clock change profile, {w with agents})

def patched (update : AgentProfileUpdate) (columns : Columns) : Columns :=
  {columns with
    name := update.name.getD columns.name
    description := update.description <|> columns.description
    version := update.version.getD columns.version
    capabilities := update.capabilities.getD columns.capabilities
    tags := update.tags.getD columns.tags
    isActive := update.isActive.getD columns.isActive}

def update (profileId : Uuid) (update : AgentProfileUpdate) : Service AgentProfile := do
  save (patched update) (← get profileId)

def delete (profileId : Uuid) : Service Unit := do
  let _ ← save ({· with isActive := false}) (← get profileId)
  return ()

def heartbeat (tenantId agentId : String) : Service AgentProfile := do
  let profile ← getByAgentId tenantId agentId
  let now ← now
  save ({· with lastSeenAt := some now}) profile

end AgentRegistryService
end Dox
