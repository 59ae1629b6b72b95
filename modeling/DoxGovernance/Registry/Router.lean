import DoxGovernance.Gateway.Responses
import DoxGovernance.Registry.Service

/-!
# The registry routes

Agents are registered and listed for the tenant that the request names, and report under
their tenant and their own name; a single profile is named by its identifier alone. An update
that changes a profile is answered with an error after it has been committed.
-/

set_option autoImplicit false

namespace Dox

inductive RegistryRequest where
  | registerAgent (create : AgentProfileCreate)
  | listAgents (tenantId : String) (activeOnly : Bool) (query : PageQuery 200)
  | getAgent (profileId : Uuid)
  | updateAgent (profileId : Uuid) (update : AgentProfileUpdate)
  | deactivateAgent (profileId : Uuid)
  | heartbeat (tenantId agentId : String)

/-- `except ConflictError as exc: raise HTTPException(409, exc.detail)`. -/
def conflictAs : Exc → Exc
  | .conflict detail => .httpException 409 detail
  | e => e

namespace RegistryRequest
open Exposure

def target : RegistryRequest → Target
  | registerAgent create => .tenants [create.tenantId]
  | listAgents tenantId _ _ | heartbeat tenantId _ => .tenants [tenantId]
  | getAgent profileId | updateAgent profileId _ | deactivateAgent profileId => .agent profileId

def handle (scan : Scan AgentProfile) : RegistryRequest → Service Body
  | registerAgent create => do
    return .agent (← Effect.recover (AgentRegistryService.create create)
      fun e => Effect.raise (conflictAs e))
  | listAgents tenantId activeOnly query => do
    let profiles ← AgentRegistryService.listForTenant scan tenantId activeOnly query.limit
      query.offset
    return .agents ⟨profiles, profiles.length⟩
  | getAgent profileId => do
    return .agent (← orNotFound "Agent not found" (AgentRegistryService.get profileId))
  | updateAgent profileId update => do
    let before ← Effect.gets fun w => w.agents.find? profileId
    let profile ← orNotFound "Agent not found" (AgentRegistryService.update profileId update)
    -- the response reads `updated_at`, which the commit of a changed row leaves expired
    if before.any (AgentRegistryService.changes (AgentRegistryService.patched update)) then
      Effect.raise missingGreenlet
    else return .agent profile
  | deactivateAgent profileId => do
    orNotFound "Agent not found" (AgentRegistryService.delete profileId)
    return .noContent
  | heartbeat tenantId agentId => do
    let profile ← orNotFound "Agent not found" (AgentRegistryService.heartbeat tenantId agentId)
    return .heartbeat ⟨profile.agentId, profile.lastSeenAt⟩

theorem confined_agents {S : Row → Prop} {w : World}
    {agents : Constrained AgentProfile.id AgentProfile.agentKey}
    (h : ∀ p, ¬S (.agent p) → (p ∈ w.agents.rows ↔ p ∈ agents.rows)) :
    exposure.Confined S w {w with agents} := by
  intro row hrow
  cases row with
  | agent p => exact h p hrow
  | _ => exact Iff.rfl

section Answers

theorem create_concerns (create : AgentProfileCreate) :
    exposure.Concerns (Target.tenants [create.tenantId]).Names (fun p => [.agent p])
      (AgentRegistryService.create create) := by
  apply Concerns.bind
  · exact Effect.Keeps.gets Confined.refl _
  intro existing
  cases existing with
  | some _ => exact Concerns.raise _
  | none =>
    intro w
    dsimp only [AgentRegistryService.insert]
    cases hadd : w.agents.add? (AgentRegistryService.newProfile w.clock create) fun _ => rfl with
    | none => exact ⟨Confined.refl w, fun _ h => nomatch h⟩
    | some agents =>
      have hrows := Constrained.rows_add? hadd
      constructor
      · apply confined_agents
        intro p hp
        rw [hrows, List.mem_append, or_iff_left]
        intro hnew
        rw [List.mem_singleton.mp hnew] at hp
        exact hp List.mem_cons_self
      · intro p hp
        cases hp
        have hmem : AgentRegistryService.newProfile w.clock create w.agents.next ∈ agents.rows := by
          rw [hrows]
          exact List.mem_append_right _ List.mem_cons_self
        exact shown_one (.agent _) hmem List.mem_cons_self rfl

theorem listForTenant_concerns (scan : Scan AgentProfile) (tenantId : String) (activeOnly : Bool)
    (limit offset : Nat) :
    exposure.Concerns (Target.tenants [tenantId]).Names (fun ps => ps.map .agent)
      (AgentRegistryService.listForTenant scan tenantId activeOnly limit offset) := by
  apply Concerns.gets
  intro w
  apply shown_map Row.agent
  intro p hp
  obtain ⟨hmem, hkeeps⟩ := Table.mem_select.mp ((mem_orderByDesc _).mp (mem_of_mem_page hp))
  simp only [Bool.and_eq_true, decide_eq_true_eq] at hkeeps
  exact ⟨hmem, List.mem_singleton.mpr hkeeps.1, rfl⟩

/-- Saving a stored profile changes that profile alone, and neither of its keys. -/
theorem save_concerns {S : Row → Prop} (hS : ∀ p q, p.id = q.id → p.agentKey = q.agentKey →
    (S (.agent p) ↔ S (.agent q))) (change : AgentRegistryService.Columns →
    AgentRegistryService.Columns) {profile : AgentProfile} (hprofile : S (.agent profile)) {w : World}
    (hmem : profile ∈ w.agents.rows) :
    exposure.Confined S w (AgentRegistryService.save change profile w).2 ∧
      ∀ p, (AgentRegistryService.save change profile w).1 = .ok p →
        (AgentRegistryService.save change profile w).2.Has (.agent p) ∧ S (.agent p) := by
  have hfind := Table.find?_of_mem hmem
  obtain ⟨hid, hkey⟩ := AgentRegistryService.keys_written w.clock change profile
  have hwritten := (hS _ _ hid hkey).mpr hprofile
  constructor
  · apply confined_agents
    intro p hp
    refine (Numbered.mem_update_of_find hfind ?_ ?_).symm
    · rintro rfl
      exact hp hprofile
    · rintro rfl
      exact hp hwritten
  · intro p hp
    cases hp
    exact ⟨Numbered.mem_update_self hfind, hwritten⟩

theorem names_agent_congr (profileId : Uuid) (p q : AgentProfile) (hid : p.id = q.id)
    (_ : p.agentKey = q.agentKey) :
    (Target.agent profileId).Names (.agent p) ↔ (Target.agent profileId).Names (.agent q) := by
  rw [Target.Names, Target.Names, hid]

theorem get_concerns (profileId : Uuid) :
    exposure.Concerns (Target.agent profileId).Names (fun p => [.agent p])
      (AgentRegistryService.get profileId) := by
  apply Concerns.lookup (AgentRegistryService.get_finds profileId)
  intro w p hfind
  exact shown_one (.agent p) (Table.mem_of_find? hfind) (Table.key_of_find? hfind) rfl

theorem update_concerns (profileId : Uuid) (change : AgentRegistryService.Columns →
    AgentRegistryService.Columns) :
    exposure.Concerns (Target.agent profileId).Names (fun p => [.agent p])
      (AgentRegistryService.get profileId >>= AgentRegistryService.save change) := by
  apply Concerns.lookup_bind (AgentRegistryService.get_finds profileId)
  intro w profile hfind
  obtain ⟨hconfined, hsaved⟩ := save_concerns (names_agent_congr profileId) change
    (Table.key_of_find? hfind) (Table.mem_of_find? hfind)
  refine ⟨hconfined, fun p hp => ?_⟩
  obtain ⟨hheld, hnamed⟩ := hsaved p hp
  exact shown_one _ hheld hnamed rfl

theorem heartbeat_concerns (tenantId agentId : String) :
    exposure.Concerns (Target.tenants [tenantId]).Names
      (fun p => [.heartbeat ⟨p.agentId, p.lastSeenAt⟩])
      (AgentRegistryService.heartbeat tenantId agentId) := by
  apply Concerns.lookup_bind (AgentRegistryService.getByAgentId_finds tenantId agentId)
  intro w profile hfind
  have hkey : profile.agentKey = (tenantId, agentId) := by simpa using List.find?_some hfind
  have htenant : profile.tenantId = tenantId := congrArg Prod.fst hkey
  have hcongr : ∀ p q : AgentProfile, p.id = q.id → p.agentKey = q.agentKey →
      ((Target.tenants [tenantId]).Names (.agent p) ↔
        (Target.tenants [tenantId]).Names (.agent q)) := by
    intro p q _ hpq
    have hsame : p.tenantId = q.tenantId := congrArg Prod.fst hpq
    rw [Target.Names, Target.Names, Row.tenantId, Row.tenantId, hsame]
  obtain ⟨hconfined, hsaved⟩ := save_concerns hcongr ({· with lastSeenAt := some w.clock})
    (List.mem_singleton.mpr htenant) (List.mem_of_find?_eq_some hfind)
  refine ⟨hconfined, fun p hp => ?_⟩
  obtain ⟨hheld, hnamed⟩ := hsaved p hp
  exact shown_one _ hheld hnamed rfl

theorem answers (scan : Scan AgentProfile) (request : RegistryRequest) :
    Answers request.target (request.handle scan) := by
  cases request with
  | registerAgent create => exact Concerns.map (Concerns.rethrow (create_concerns create))
  | listAgents tenantId activeOnly query =>
    exact Concerns.map (listForTenant_concerns scan tenantId activeOnly _ _)
  | getAgent profileId => exact Concerns.map (Concerns.rethrow (get_concerns profileId))
  | updateAgent profileId update =>
    have hupdate := update_concerns profileId (AgentRegistryService.patched update)
    apply Concerns.bind (Effect.Keeps.gets Confined.refl _)
    intro before
    split
    · exact Concerns.bind (Concerns.rethrow hupdate).keeps fun _ => Concerns.raise _
    · exact Concerns.map (Concerns.rethrow hupdate)
  | deactivateAgent profileId =>
    apply Concerns.map
    apply Concerns.rethrow
    apply Concerns.silent
    rw [AgentRegistryService.delete, ← Effect.bind_assoc]
    exact Effect.Keeps.bind Confined.trans (update_concerns profileId _).keeps fun _ =>
      Effect.Keeps.pure Confined.refl ()
  | heartbeat tenantId agentId =>
    exact Concerns.map (Concerns.rethrow (heartbeat_concerns tenantId agentId))

end Answers

end RegistryRequest
end Dox
