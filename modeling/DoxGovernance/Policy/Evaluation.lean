import DoxGovernance.Policy.Service
import DoxGovernance.Sentinel.Service

/-!
# What an evaluation decides

The policies that apply to a request decide its action: the strongest of theirs, or `allow`
when none applies. The decision depends on the set of these policies alone, and more of them
never make it weaker. It blocks exactly when one of them has a blocking action.
-/

set_option autoImplicit false

namespace Dox
namespace PolicyEvaluatorService

/-- The policy is active, is the tenant's for the sentinel type, and is not meant for higher
severities only. -/
structure Applies (request : PolicyEvaluateRequest) (policy : Policy) : Prop where
  active : policy.isActive = true
  tenantId : policy.tenantId = request.tenantId
  sentinelType : policy.sentinelType = request.sentinelType
  severity : severityRank policy.severity ≤ severityRank request.severity

/-- The action is the strongest of the policies that apply, or `allow` when none does. -/
structure Decided (request : PolicyEvaluateRequest) (policies : List Policy)
    (action : InterventionAction) : Prop where
  attained : action = .allow ∨ ∃ p ∈ policies, Applies request p ∧ p.action = action
  bound : ∀ p ∈ policies, Applies request p → actionRank p.action ≤ actionRank action

/-- Every active policy is still there. -/
def Grows (policies policies' : List Policy) : Prop :=
  ∀ p ∈ policies, p.isActive = true → p ∈ policies'

section Decision
variable {request : PolicyEvaluateRequest} {policies policies' : List Policy}
  {action action' : InterventionAction} {severity : Severity}

theorem Applies.raise {policy : Policy} (h : Applies request policy)
    (hle : severityRank request.severity ≤ severityRank severity) :
    Applies {request with severity := severity} policy :=
  ⟨h.active, h.tenantId, h.sentinelType, h.severity.trans hle⟩

theorem Decided.mono {request' : PolicyEvaluateRequest} (h : Decided request policies action)
    (h' : Decided request' policies' action')
    (hsub : ∀ p ∈ policies, Applies request p → p ∈ policies' ∧ Applies request' p) :
    actionRank action ≤ actionRank action' := by
  rcases h.attained with rfl | ⟨p, hp, happlies, rfl⟩
  · exact Nat.zero_le _
  · obtain ⟨hp', happlies'⟩ := hsub p hp happlies
    exact h'.bound p hp' happlies'

theorem Decided.unique (h : Decided request policies action)
    (h' : Decided request policies action') : action = action' := by
  apply actionRank_injective
  apply le_antisymm
  · exact h.mono h' fun p hp happlies => ⟨hp, happlies⟩
  · exact h'.mono h fun p hp happlies => ⟨hp, happlies⟩

theorem Decided.le_iff (h : Decided request policies action) {rank : Nat} (hrank : 0 < rank) :
    rank ≤ actionRank action ↔
      ∃ p ∈ policies, Applies request p ∧ rank ≤ actionRank p.action := by
  constructor
  · intro hle
    rcases h.attained with rfl | ⟨p, hp, happlies, rfl⟩
    · exact absurd hle (Nat.not_le.mpr hrank)
    · exact ⟨p, hp, happlies, hle⟩
  · rintro ⟨p, hp, happlies, hle⟩
    exact hle.trans (h.bound p hp happlies)

theorem Decided.raise (h : Decided request policies action)
    (hle : severityRank request.severity ≤ severityRank severity)
    (h' : Decided {request with severity := severity} policies action') :
    actionRank action ≤ actionRank action' :=
  h.mono h' fun _ hp happlies => ⟨hp, happlies.raise hle⟩

theorem Decided.grow (h : Decided request policies action) (hgrows : Grows policies policies')
    (h' : Decided request policies' action') : actionRank action ≤ actionRank action' :=
  h.mono h' fun p hp happlies => ⟨hgrows p hp happlies.active, happlies⟩

/-- The winning action of the policies that apply is decided. -/
theorem winningAction_decided {matched : List Policy}
    (hmatched : ∀ p, p ∈ matched ↔ p ∈ policies ∧ Applies request p) :
    Decided request policies (winningAction matched) := by
  rcases eq_or_ne matched [] with rfl | hne
  · refine ⟨Or.inl rfl, fun p hp happlies => ?_⟩
    exact absurd ((hmatched p).mpr ⟨hp, happlies⟩) List.not_mem_nil
  · obtain ⟨⟨p, hp, hwins⟩, hmax⟩ := winningAction_spec hne
    obtain ⟨hstored, happlies⟩ := (hmatched p).mp hp
    refine ⟨Or.inr ⟨p, hstored, happlies, hwins⟩, fun q hq happlies' => ?_⟩
    exact hmax q ((hmatched q).mpr ⟨hq, happlies'⟩)

end Decision

section Evaluation
variable (scan : Scan Policy) (request : PolicyEvaluateRequest) (w : World)

theorem isCandidate_iff {policy : Policy} :
    isCandidate request.tenantId request.sentinelType policy = true ∧
      policyMatches policy request = true ↔ Applies request policy := by
  simp only [isCandidate, policyMatches, Bool.and_eq_true, decide_eq_true_iff]
  constructor
  · rintro ⟨⟨⟨htenant, htype⟩, hactive⟩, hseverity⟩
    exact ⟨hactive, htenant, htype, hseverity⟩
  · intro h
    exact ⟨⟨⟨h.tenantId, h.sentinelType⟩, h.active⟩, h.severity⟩

/-- An evaluation gives a decision on the stored policies. -/
theorem evaluate_decided : ∃ result, evaluate scan request w = (.ok result, w) ∧
    Decided request w.policies.rows result.action ∧
    (result.isBlocked = true ↔ actionRank .blockToolCall ≤ actionRank result.action) := by
  refine ⟨_, rfl, ?_, decide_eq_true_iff⟩
  apply winningAction_decided
  intro p
  rw [List.mem_filter, Table.mem_select, and_assoc, isCandidate_iff]

/-- No evaluation, in whatever order it reads the policies, decides on a weaker action. -/
def NotWeaker (action : InterventionAction) (request : PolicyEvaluateRequest) (w : World) : Prop :=
  ∀ scan, ∃ result, evaluate scan request w = (.ok result, w) ∧
    actionRank action ≤ actionRank result.action

variable {request w}

theorem notWeaker_of_decided {action : InterventionAction}
    (h : ∀ action', Decided request w.policies.rows action' → actionRank action ≤ actionRank action') :
    NotWeaker action request w := by
  intro scan
  obtain ⟨result, hrun, hdecided, -⟩ := evaluate_decided scan request w
  exact ⟨result, hrun, h _ hdecided⟩

theorem createPolicy_grows (create : PolicyCreate) (w : World) :
    Grows w.policies.rows (SentinelService.createPolicy create w).2.policies.rows :=
  fun _ hp _ => List.mem_append_left _ hp

/-- To activate a policy changes no policy that is active. -/
theorem activate_grows (policyId : Uuid) (w : World) : Grows w.policies.rows
    (updatePolicy policyId {isActive := some true} w).2.policies.rows := by
  intro p hp hactive
  cases hfind : w.policies.find? policyId with
  | none =>
    obtain ⟨e, herror⟩ := (getPolicy_finds policyId).missing hfind
    rw [updatePolicy, Effect.bind_error herror]
    exact hp
  | some policy =>
    rw [updatePolicy, Effect.bind_ok ((getPolicy_finds policyId).found hfind)]
    have hsame : patched {isActive := some true} p = p := by
      rw [patched, Option.getD_some, ← hactive]
      rfl
    refine List.mem_map.mpr ⟨p, hp, ?_⟩
    dsimp only
    split
    · exact hsame
    · rfl

end Evaluation

/-- An evaluation answers the same in whatever order it reads the policies. It blocks exactly
when a policy that applies has a blocking action. And neither a higher severity nor policies
that are added or activated weaken its action. -/
theorem evaluate_robust (scan : Scan Policy) (request : PolicyEvaluateRequest) (w : World) :
    ∃ result, evaluate scan request w = (.ok result, w) ∧
      (∀ scan', ∃ result', evaluate scan' request w = (.ok result', w) ∧
        result'.action = result.action ∧ result'.isBlocked = result.isBlocked) ∧
      (result.isBlocked = true ↔ ∃ p ∈ w.policies.rows, Applies request p ∧
        actionRank .blockToolCall ≤ actionRank p.action) ∧
      (∀ severity, severityRank request.severity ≤ severityRank severity →
        NotWeaker result.action {request with severity := severity} w) ∧
      (∀ w' : World, Grows w.policies.rows w'.policies.rows →
        NotWeaker result.action request w') ∧
      (∀ create, NotWeaker result.action request (SentinelService.createPolicy create w).2) ∧
      ∀ policyId, NotWeaker result.action request
        (updatePolicy policyId {isActive := some true} w).2 := by
  obtain ⟨result, hrun, hdecided, hblocked⟩ := evaluate_decided scan request w
  have hgrow : ∀ w' : World, Grows w.policies.rows w'.policies.rows →
      NotWeaker result.action request w' :=
    fun w' hgrows => notWeaker_of_decided fun _ h => hdecided.grow hgrows h
  refine ⟨result, hrun, fun scan' => ?_, ?_, fun severity hle => ?_, hgrow, fun create => ?_,
    fun policyId => ?_⟩
  · obtain ⟨result', hrun', hdecided', hblocked'⟩ := evaluate_decided scan' request w
    have haction := hdecided'.unique hdecided
    refine ⟨result', hrun', haction, ?_⟩
    rw [Bool.eq_iff_iff, hblocked, hblocked', haction]
  · rw [hblocked, hdecided.le_iff (by decide)]
  · exact notWeaker_of_decided fun _ h => hdecided.raise hle h
  · exact hgrow _ (createPolicy_grows create w)
  · exact hgrow _ (activate_grows policyId w)

end PolicyEvaluatorService
end Dox
