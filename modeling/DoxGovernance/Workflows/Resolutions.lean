import DoxGovernance.Sentinel.Router
import DoxGovernance.Workflows.HumanReview
import DoxGovernance.Workflows.SentinelResponse
import Mathlib.Data.List.Induction

/-!
# Resolving an alert again

An alert is resolved by the resolve route, by the sentinel-response graph and by the
human-review graph. None of them asks whether it is resolved already, so each commit of a
resolution replaces the action and the time of the one before, and the alert stays resolved.
-/

set_option autoImplicit false

namespace Dox
open SentinelService (resolved)

/-- A committed resolution, with the time of its commit. -/
structure Commit extends Resolution where
  time : Datetime
deriving DecidableEq

namespace Commit

/-- The alert after commits that were made in order. -/
def settle (k : Uuid) (commits : List Commit) (alert : SentinelAlert) : SentinelAlert :=
  commits.foldl (fun a c => if c.alertId = k then resolved c.time c.action a else a) alert

def lastOf (k : Uuid) (commits : List Commit) : Option Commit :=
  commits.reverse.find? fun c => c.alertId = k

/-- The alert as a commit leaves it, or as it is. -/
def standing (alert : SentinelAlert) : Option Commit → SentinelAlert
  | none => alert
  | some c => resolved c.time c.action alert

theorem settle_append (k : Uuid) (cs ds : List Commit) (alert : SentinelAlert) :
    settle k (cs ++ ds) alert = settle k ds (settle k cs alert) := List.foldl_append

/-- A resolution replaces the one before it. -/
theorem resolved_standing (t : Datetime) (action : InterventionAction) (alert : SentinelAlert)
    (last : Option Commit) : resolved t action (standing alert last) = resolved t action alert := by
  cases last with
  | none => rfl
  | some c => rfl

theorem lastOf_append_singleton (k : Uuid) (cs : List Commit) (c : Commit) :
    lastOf k (cs ++ [c]) = if c.alertId = k then some c else lastOf k cs := by
  rw [lastOf, List.reverse_append, List.reverse_singleton, List.singleton_append,
    List.find?_cons]
  by_cases hc : c.alertId = k
  · rw [decide_eq_true hc, if_pos hc]
  · rw [decide_eq_false hc, if_neg hc]
    rfl

/-- Only the last commit counts. -/
theorem settle_eq_standing (k : Uuid) (cs : List Commit) (alert : SentinelAlert) :
    settle k cs alert = standing alert (lastOf k cs) := by
  induction cs using List.reverseRecOn with
  | nil => rfl
  | append_singleton cs c ih =>
    rw [settle_append, ih, lastOf_append_singleton]
    by_cases hc : c.alertId = k
    · rw [if_pos hc]
      exact (if_pos hc).trans (resolved_standing c.time c.action alert _)
    · rw [if_neg hc]
      exact if_neg hc

theorem lastOf_append_isSome {k : Uuid} {cs : List Commit} (h : (lastOf k cs).isSome)
    (ds : List Commit) : (lastOf k (cs ++ ds)).isSome := by
  unfold lastOf at h ⊢
  rw [List.reverse_append, List.find?_append]
  cases ds.reverse.find? fun c => c.alertId = k with
  | none => exact h
  | some c => rfl

theorem isResolved_standing {last : Option Commit} (h : last.isSome) (alert : SentinelAlert) :
    (standing alert last).isResolved = true := by
  cases last with
  | none => cases h
  | some c => rfl

end Commit

/-! ### What one call commits -/

/-- The resolutions committed between two states, at the time of the first. -/
def commitsBetween (w w' : World) : List Commit :=
  (w'.resolutions.drop w.resolutions.length).map fun r => ⟨r, w.clock⟩

/-- The alerts of `w'` are those of `w` after the resolutions committed in between. -/
structure Settles (w w' : World) : Prop where
  clock : w'.clock = w.clock
  logged : w.resolutions <+: w'.resolutions
  alerts : ∀ k, w'.alerts.find? k =
    (w.alerts.find? k).map (Commit.settle k (commitsBetween w w'))

section Settles
variable {w w' w'' : World}

theorem commitsBetween_trans (hclock : w'.clock = w.clock) (h : w.resolutions <+: w'.resolutions)
    (h' : w'.resolutions <+: w''.resolutions) :
    commitsBetween w w'' = commitsBetween w w' ++ commitsBetween w' w'' := by
  obtain ⟨new, hnew⟩ := h
  obtain ⟨more, hmore⟩ := h'
  unfold commitsBetween
  rw [← hmore, List.drop_left, ← hnew, List.drop_left, List.append_assoc, List.drop_left,
    List.map_append, hclock]

theorem settles_of_same (hclock : w'.clock = w.clock) (halerts : w'.alerts = w.alerts)
    (hresolutions : w'.resolutions = w.resolutions) : Settles w w' := by
  have hnone : commitsBetween w w' = [] := by
    rw [commitsBetween, hresolutions, List.drop_length, List.map_nil]
  refine ⟨hclock, hresolutions ▸ List.prefix_rfl, fun k => ?_⟩
  rw [hnone, halerts]
  cases w.alerts.find? k with
  | none => rfl
  | some alert => rfl

theorem Settles.refl (w : World) : Settles w w := settles_of_same rfl rfl rfl

theorem Settles.trans (h : Settles w w') (h' : Settles w' w'') : Settles w w'' := by
  refine ⟨h'.clock.trans h.clock, h.logged.trans h'.logged, fun k => ?_⟩
  rw [h'.alerts, h.alerts, Option.map_map, commitsBetween_trans h.clock h.logged h'.logged]
  congr 1
  funext alert
  exact (Commit.settle_append k _ _ alert).symm

theorem resolve_settles (alertId : Uuid) (action : InterventionAction) (w : World) :
    Settles w (SentinelService.resolve alertId action w) := by
  have hnew : commitsBetween w (SentinelService.resolve alertId action w) =
      [⟨⟨alertId, action⟩, w.clock⟩] := by
    unfold commitsBetween SentinelService.resolve
    rw [List.drop_left]
    rfl
  refine ⟨rfl, List.prefix_append _ _, fun k => ?_⟩
  rw [hnew]
  refine (Numbered.find?_update w.alerts alertId _ _ k).trans ?_
  by_cases hk : k = alertId
  · subst hk
    rw [if_pos rfl]
    congr 1
    funext alert
    exact (if_pos rfl).symm
  · rw [if_neg hk]
    cases w.alerts.find? k with
    | none => rfl
    | some alert => exact congrArg some (if_neg (Ne.symm hk)).symm

end Settles

section Writers

theorem resolveAlert_settles (alertId : Uuid) (action : InterventionAction) :
    Effect.Keeps Settles (SentinelService.resolveAlert alertId action) := by
  apply Effect.Keeps.bind @Settles.trans
  · exact (SentinelService.getAlert_finds alertId).keeps Settles.refl
  · exact fun alert => Effect.Keeps.change fun w => resolve_settles alertId action w

theorem record_settles (create : AuditEntryCreate) :
    Effect.Keeps Settles (AuditService.record create) :=
  Effect.Keeps.change fun _ => settles_of_same rfl rfl rfl

theorem route_settles (alertScan : Scan SentinelAlert) (policyScan : Scan Policy)
    (alertId : Uuid) (action : InterventionAction) : Effect.Keeps Settles
      (SentinelRequest.handle alertScan policyScan (.resolveAlert alertId action)) := by
  apply Effect.Keeps.bind @Settles.trans
  · apply Effect.Keeps.recover @Settles.trans (resolveAlert_settles alertId action)
    exact fun e => Effect.Keeps.raise Settles.refl _
  · exact fun alert => Effect.Keeps.pure Settles.refl _

/-- A node that makes one call and writes what it returned into the state. -/
theorem node_settles {α σ : Type} {call : Service α} (h : Effect.Keeps Settles call)
    (fault : Option String) (update : α → σ) (handle : String → σ) :
    Effect.Keeps Settles (attempt (do
      let a ← failing fault call
      return update a) handle) := by
  apply attempt_keeps Settles.refl @Settles.trans
  apply Effect.Keeps.bind @Settles.trans
  · exact keeps_failing Settles.refl h
  · exact fun a => Effect.Keeps.pure Settles.refl _

namespace SentinelResponse
variable (faults : Faults) (scan : Scan Policy) (state : State)

theorem loadAlert_settles : Effect.Keeps Settles (loadAlert faults state) := by
  apply node_settles
  exact (SentinelService.getAlert_finds state.alertId).keeps Settles.refl

theorem findPolicy_settles : Effect.Keeps Settles (findPolicy faults scan state) := by
  apply attempt_keeps Settles.refl @Settles.trans
  apply Effect.Keeps.bind @Settles.trans
  · exact keeps_failing Settles.refl (Effect.Keeps.gets Settles.refl _)
  intro policies
  dsimp only
  split
  · exact Effect.Keeps.pure Settles.refl _
  · exact Effect.Keeps.pure Settles.refl _

theorem executeAction_settles : Effect.Keeps Settles (executeAction faults state) := by
  apply attempt_keeps Settles.refl @Settles.trans
  apply Effect.Keeps.bind @Settles.trans
  · unfold parseAction
    split
    · exact Effect.Keeps.pure Settles.refl _
    · exact Effect.Keeps.raise Settles.refl _
  intro action
  apply Effect.Keeps.bind @Settles.trans
  · exact keeps_failing Settles.refl (resolveAlert_settles state.alertId action)
  · exact fun alert => Effect.Keeps.pure Settles.refl _

theorem resolveWithDefault_settles : Effect.Keeps Settles (resolveWithDefault faults state) := by
  apply node_settles
  exact resolveAlert_settles state.alertId .warn

theorem recordOutcome_settles : Effect.Keeps Settles (recordOutcome faults state) := by
  apply node_settles
  exact record_settles (outcomeEntry state)

theorem ainvoke_settles : Effect.Keeps Settles (ainvoke (graph faults scan) state) := by
  refine ainvoke_keeps Settles.refl @Settles.trans (fun v s => ?_) state
  cases v with
  | loadAlert => exact loadAlert_settles faults s
  | findPolicy => exact findPolicy_settles faults scan s
  | executeAction => exact executeAction_settles faults s
  | resolveWithDefault => exact resolveWithDefault_settles faults s
  | recordOutcome => exact recordOutcome_settles faults s

end SentinelResponse

namespace HumanReview
variable (faults : Faults) (state : State)

theorem loadAlert_settles : Effect.Keeps Settles (loadAlert faults state) := by
  apply node_settles
  exact (SentinelService.getAlert_finds state.alertId).keeps Settles.refl

theorem requestReview_settles : Effect.Keeps Settles (requestReview faults state) := by
  apply node_settles
  exact record_settles (requestEntry state)

theorem recordDecision_settles : Effect.Keeps Settles (recordDecision faults state) := by
  apply attempt_keeps Settles.refl @Settles.trans
  apply Effect.Keeps.bind @Settles.trans
  · exact keeps_failing Settles.refl (resolveAlert_settles state.alertId _)
  intro alert
  apply Effect.Keeps.bind @Settles.trans
  · exact keeps_failing Settles.refl (record_settles _)
  · exact fun entry => Effect.Keeps.pure Settles.refl _

theorem ainvoke_settles : Effect.Keeps Settles (ainvoke (graph faults) state) := by
  refine ainvoke_keeps Settles.refl @Settles.trans (fun v s => ?_) state
  cases v with
  | loadAlert => exact loadAlert_settles faults s
  | requestReview => exact requestReview_settles faults s
  | recordDecision => exact recordDecision_settles faults s

end HumanReview

end Writers

/-! ### Runs -/

inductive ResolutionOp where
  | route (alertScan : Scan SentinelAlert) (policyScan : Scan Policy) (alertId : Uuid)
      (action : InterventionAction)
  | respond (faults : SentinelResponse.Faults) (scan : Scan Policy)
      (state : SentinelResponse.State)
  | review (faults : HumanReview.Faults) (state : HumanReview.State)

def ResolutionOp.exec : ResolutionOp → Service Unit
  | route alertScan policyScan alertId action => do
    let _ ← SentinelRequest.handle alertScan policyScan (.resolveAlert alertId action)
    return ()
  | respond faults scan state => do
    let _ ← ainvoke (SentinelResponse.graph faults scan) state
    return ()
  | review faults state => do
    let _ ← ainvoke (HumanReview.graph faults) state
    return ()

structure ResolutionCall where
  time : Datetime
  op : ResolutionOp

namespace ResolutionCall

def step (w : World) (call : ResolutionCall) : World := (call.op.exec (w.at call.time)).2

/-- The resolutions that a run commits, in order. -/
def commits (w : World) : List ResolutionCall → List Commit
  | [] => []
  | call :: calls => commitsBetween (w.at call.time) (call.step w) ++ commits (call.step w) calls

theorem step_settles (w : World) (call : ResolutionCall) :
    Settles (w.at call.time) (call.step w) := by
  have hkeeps : Effect.Keeps Settles call.op.exec := by
    cases call.op with
    | route alertScan policyScan alertId action =>
      apply Effect.Keeps.bind @Settles.trans
      · exact route_settles alertScan policyScan alertId action
      · exact fun _ => Effect.Keeps.pure Settles.refl ()
    | respond faults scan state =>
      apply Effect.Keeps.bind @Settles.trans (SentinelResponse.ainvoke_settles faults scan state)
      exact fun _ => Effect.Keeps.pure Settles.refl ()
    | review faults state =>
      apply Effect.Keeps.bind @Settles.trans (HumanReview.ainvoke_settles faults state)
      exact fun _ => Effect.Keeps.pure Settles.refl ()
  exact hkeeps (w.at call.time)

theorem find?_run (k : Uuid) (calls : List ResolutionCall) (w : World) :
    (calls.foldl step w).alerts.find? k =
      (w.alerts.find? k).map (Commit.settle k (commits w calls)) := by
  induction calls generalizing w with
  | nil =>
    cases hfind : w.alerts.find? k with
    | none => exact hfind
    | some alert => exact hfind
  | cons call calls ih =>
    have hfirst : (step w call).alerts.find? k =
        (w.alerts.find? k).map
          (Commit.settle k (commitsBetween (w.at call.time) (step w call))) :=
      (step_settles w call).alerts k
    rw [List.foldl_cons, ih, hfirst, Option.map_map]
    congr 1
    funext alert
    exact (Commit.settle_append k _ _ alert).symm

theorem commits_append (w : World) (calls more : List ResolutionCall) :
    commits w (calls ++ more) = commits w calls ++ commits (calls.foldl step w) more := by
  induction calls generalizing w with
  | nil => rfl
  | cons call calls ih =>
    rw [List.cons_append, commits, commits, ih, List.append_assoc]
    rfl

end ResolutionCall

open ResolutionCall Commit

/-- After any calls on the three paths, in any order, an alert stands as its last committed
resolution left it, with the action and the time of that commit; and once a resolution is
committed, it is resolved after every further calls. -/
theorem last_resolution_stands (w : World) (k : Uuid) (calls : List ResolutionCall) :
    (calls.foldl step w).alerts.find? k =
        (w.alerts.find? k).map (fun alert => standing alert (lastOf k (commits w calls))) ∧
      ((lastOf k (commits w calls)).isSome → ∀ more alert,
        ((calls ++ more).foldl step w).alerts.find? k = some alert → alert.isResolved = true) := by
  have hstands : ∀ calls, (calls.foldl step w).alerts.find? k =
      (w.alerts.find? k).map fun alert => standing alert (lastOf k (commits w calls)) := by
    intro calls
    rw [find?_run]
    congr 1
    funext alert
    exact settle_eq_standing k (commits w calls) alert
  refine ⟨hstands calls, ?_⟩
  intro hsome more alert hfind
  rw [hstands] at hfind
  obtain ⟨original, _, rfl⟩ := Option.map_eq_some_iff.mp hfind
  apply isResolved_standing
  rw [commits_append]
  exact lastOf_append_isSome hsome _

/-- The sample alert after a reviewer has approved it, and further calls. -/
def oneReviewed (calls : List ResolutionCall) : World :=
  (⟨sampleNoon, .review {} HumanReview.approval⟩ :: calls).foldl step HumanReview.oneAlert

/-- The sentinel response to the same alert a day later, when there is no policy. -/
def automatedResponse : ResolutionCall :=
  ⟨sampleNextNoon, .respond {} .stored {alertId := 0, tenantId := "acme"}⟩

/-- A reviewer approves an alert, and the next day the automated response replaces the decision. -/
theorem decision_replaced :
    ((oneReviewed []).alerts.find? 0).map (fun a => (a.isResolved, a.actionTaken, a.resolvedAt)) =
        some (true, some .allow, some sampleNoon) ∧
      ((oneReviewed [automatedResponse]).alerts.find? 0).map
          (fun a => (a.isResolved, a.actionTaken, a.resolvedAt)) =
        some (true, some .warn, some sampleNextNoon) := ⟨rfl, rfl⟩

end Dox
