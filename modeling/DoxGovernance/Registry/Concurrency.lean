import DoxGovernance.Lib.Interleave
import DoxGovernance.Registry.Router

/-!
# Concurrent registrations

Registrations of one agent, each in its own database session, as two steps: the lookup of the
profile, and the insertion with its commit. The unique constraint keeps a second profile out,
but a session that meets it there raises an exception that is not handled. One session
registers the agent and all others report the conflict exactly when no session inserts after
another one has since its lookup.
-/

set_option autoImplicit false

namespace Dox
namespace Registration
open AgentRegistryService

inductive Session where
  | waiting (create : AgentProfileCreate)
  | cleared (create : AgentProfileCreate)
  | finished (outcome : Except Exc AgentProfile)

def conflict (create : AgentProfileCreate) : Exc :=
  .conflict s!"Agent '{create.agentId}' already registered for tenant '{create.tenantId}'"

def lookedUp (create : AgentProfileCreate) : Option AgentProfile → Session
  | some _ => .finished (.error (conflict create))
  | none => .cleared create

def keyOf (create : AgentProfileCreate) : String × String := (create.tenantId, create.agentId)

def lookup (key : String × String) (w : World) : Option AgentProfile :=
  w.agents.rows.find? fun profile => profile.agentKey = key

/-- The next database step of a session; a profile is stamped with the time of its insertion. -/
def act (now : Datetime) (w : World) : Session → World × Session
  | .waiting create => (w, lookedUp create (lookup (keyOf create) w))
  | .cleared create =>
    ((AgentRegistryService.insert create (w.at now)).2,
      .finished (AgentRegistryService.insert create (w.at now)).1)
  | .finished outcome => (w, .finished outcome)

/-- A registration that no other session interrupts is `create`. -/
theorem alone_create (w : World) (create : AgentProfileCreate) :
    Sessions.alone act [w.clock, w.clock] (w, .waiting create) =
      ((AgentRegistryService.create create w).2,
        .finished (AgentRegistryService.create create w).1) := by
  have hget : getByTenantAndAgent create.tenantId create.agentId w =
      (.ok (lookup (keyOf create) w), w) := Effect.gets_run _ w
  rw [AgentRegistryService.create, Effect.bind_ok hget]
  simp only [Sessions.alone, List.foldl_cons, List.foldl_nil, act]
  cases lookup (keyOf create) w with
  | none => rfl
  | some profile => rfl

/-- The agent has a profile. -/
def Registered (key : String × String) (w : World) : Prop :=
  ∃ profile ∈ w.agents.rows, profile.agentKey = key

/-- A session that is about to insert finds the agent unregistered still. -/
def Uncontested (_ : Datetime) (w : World) : Session → Prop
  | .cleared create => ¬Registered (keyOf create) w
  | _ => True

section Insert
variable {key : String × String} {w : World} {create : AgentProfileCreate}

theorem lookup_isSome_iff : (lookup key w).isSome ↔ Registered key w := by
  rw [lookup, List.find?_isSome]
  simp only [decide_eq_true_iff]
  rfl

theorem insert_contested (h : Registered (keyOf create) w) :
    AgentRegistryService.insert create w =
      (.error (.integrityError "uq_agent_profiles_tenant_agent"), w) := by
  obtain ⟨profile, hrow, hkey⟩ := h
  rw [AgentRegistryService.insert]
  split
  · rename_i agents hadd
    have hfree := Constrained.isSome_add?_iff.mp (Option.isSome_of_eq_some hadd)
    exact absurd hkey (hfree profile hrow)
  · rfl

theorem insert_uncontested (h : ¬Registered (keyOf create) w) : ∃ agents,
    AgentRegistryService.insert create w =
        (.ok (newProfile w.clock create w.agents.next), {w with agents}) ∧
      agents.rows = w.agents.rows ++ [newProfile w.clock create w.agents.next] := by
  rw [AgentRegistryService.insert]
  split
  · rename_i agents hadd
    exact ⟨agents, rfl, Constrained.rows_add? hadd⟩
  · rename_i hadd
    have hsome : (w.agents.add? (newProfile w.clock create) fun _ => rfl).isSome :=
      Constrained.isSome_add?_iff.mpr fun profile hrow hkey => h ⟨profile, hrow, hkey⟩
    rw [hadd] at hsome
    cases hsome

end Insert
/-! ### Any number of registrations of one agent -/

def start (w : World) (creates : Nat → AgentProfileCreate) : Sessions World Session where
  shared := w
  session := fun i => .waiting (creates i)

def Finished (l : Session) : Prop := ∃ outcome, l = .finished outcome

/-- The session has returned the stored profile of the agent. -/
def Returned (key : String × String) (w : World) (l : Session) : Prop :=
  ∃ profile ∈ w.agents.rows, profile.agentKey = key ∧ l = .finished (.ok profile)

/-- The session has raised the exception that is answered with the status 409. -/
def Refused (l : Session) : Prop :=
  ∃ detail, l = .finished (.error (.conflict detail)) ∧
    conflictAs (.conflict detail) = .httpException 409 detail

/-- Every session that has finished has returned the profile or been refused, and when all that
were started have finished, one has returned it if the agent was not registered before, and
none if it was. -/
structure OneProfile (key : String × String) (w : World) (started : List Nat)
    (c : Sessions World Session) : Prop where
  finished : ∀ i, Finished (c.session i) →
    Returned key c.shared (c.session i) ∨ Refused (c.session i)
  one : ¬Registered key w → started ≠ [] → (∀ i ∈ started, Finished (c.session i)) →
    ∃ i, Returned key c.shared (c.session i) ∧ ∀ j, Returned key c.shared (c.session j) → j = i
  none : Registered key w → ∀ i, ¬Returned key c.shared (c.session i)

/-- What a session still has to do concerns the agent. -/
def About (key : String × String) : Session → Prop
  | .waiting create | .cleared create => keyOf create = key
  | .finished _ => True

/-- Until the agent is registered no session has finished; from then on every session that has
finished was refused, but for the one that registered it. -/
inductive Phase (key : String × String) (w : World) (c : Sessions World Session) : Prop
  | free (hbefore : ¬Registered key w) (hnow : ¬Registered key c.shared)
      (hrunning : ∀ i, ¬Finished (c.session i))
  | taken (hbefore : Registered key w) (hnow : Registered key c.shared)
      (hfinished : ∀ i, Finished (c.session i) → Refused (c.session i))
  | won (winner : Nat) (hbefore : ¬Registered key w)
      (hreturned : Returned key c.shared (c.session winner))
      (hfinished : ∀ i, i ≠ winner → Finished (c.session i) → Refused (c.session i))

section Steps
variable {key : String × String} {w : World} {c : Sessions World Session} {k : Nat × Datetime}

theorem Returned.registered {l : Session} (h : Returned key w l) : Registered key w := by
  obtain ⟨profile, hrow, hkey, -⟩ := h
  exact ⟨profile, hrow, hkey⟩

theorem Refused.not_returned {l : Session} (h : Refused l) : ¬Returned key w l := by
  obtain ⟨detail, rfl, -⟩ := h
  rintro ⟨profile, -, -, hsame⟩
  cases hsame

theorem refused_conflict (create : AgentProfileCreate) :
    Refused (.finished (.error (conflict create))) := ⟨_, rfl, rfl⟩

theorem act_about (now : Datetime) (w : World) {l : Session} (h : About key l) :
    About key (act now w l).2 := by
  cases l with
  | waiting create =>
    simp only [act]
    cases lookup (keyOf create) w with
    | none => exact h
    | some profile => trivial
  | cleared create => trivial
  | finished outcome => trivial

theorem Returned.finished {l : Session} (h : Returned key w l) : Finished l := by
  obtain ⟨profile, -, -, rfl⟩ := h
  exact ⟨_, rfl⟩

/-- A session acts without writing: it goes on, or is refused because the agent is registered. -/
theorem Phase.quiet {c' : Sessions World Session} {i : Nat} (h : Phase key w c)
    (hshared : c'.shared = c.shared) (hother : ∀ j, j ≠ i → c'.session j = c.session j)
    (hrunning : ¬Finished (c.session i))
    (hnew : ¬Finished (c'.session i) ∨ Registered key c.shared ∧ Refused (c'.session i)) :
    Phase key w c' := by
  cases h with
  | free hbefore hnow hnone =>
    refine .free hbefore (hshared ▸ hnow) fun j => ?_
    rcases eq_or_ne j i with rfl | hj
    · exact hnew.resolve_right fun h => hnow h.1
    · rw [hother j hj]
      exact hnone j
  | taken hbefore hnow hrefused =>
    refine .taken hbefore (hshared ▸ hnow) fun j hj => ?_
    rcases eq_or_ne j i with rfl | hne
    · exact (hnew.resolve_left fun h => h hj).2
    · rw [hother j hne] at hj ⊢
      exact hrefused j hj
  | won winner hbefore hreturned hrefused =>
    have hwinner : winner ≠ i := by
      rintro rfl
      exact hrunning hreturned.finished
    refine .won winner hbefore ?_ fun j hj hfinished => ?_
    · rw [hother winner hwinner, hshared]
      exact hreturned
    · rcases eq_or_ne j i with rfl | hne
      · exact (hnew.resolve_left fun h => h hfinished).2
      · rw [hother j hne] at hfinished ⊢
        exact hrefused j hj hfinished

/-- The first insertion wins. -/
theorem Phase.win {c' : Sessions World Session} {i : Nat} (h : Phase key w c)
    (hnow : ¬Registered key c.shared) (hother : ∀ j, j ≠ i → c'.session j = c.session j)
    (hreturned : Returned key c'.shared (c'.session i)) : Phase key w c' := by
  cases h with
  | free hbefore _ hnone =>
    refine .won i hbefore hreturned fun j hj hfinished => ?_
    rw [hother j hj] at hfinished
    exact absurd hfinished (hnone j)
  | taken hbefore hregistered _ => exact absurd hregistered hnow
  | won winner _ hwon _ => exact absurd hwon.registered hnow

theorem not_finished_waiting (create : AgentProfileCreate) : ¬Finished (.waiting create) := by
  rintro ⟨outcome, h⟩
  cases h

theorem not_finished_cleared (create : AgentProfileCreate) : ¬Finished (.cleared create) := by
  rintro ⟨outcome, h⟩
  cases h

/-- The step lemma. -/
theorem step_phase (habout : About key (c.session k.1)) (hok : Sessions.Guard Uncontested c k)
    (h : Phase key w c) : Phase key w (Sessions.step act c k) := by
  have hother : ∀ i, i ≠ k.1 → (Sessions.step act c k).session i = c.session i :=
    fun i hi => Sessions.session_step_ne act c hi
  have hself := Sessions.session_step_self act c k
  have hshared : (Sessions.step act c k).shared = (act k.2 c.shared (c.session k.1)).1 := rfl
  rw [Sessions.Guard] at hok
  cases hsession : c.session k.1 with
  | waiting create =>
    rw [hsession] at hself hshared habout
    obtain rfl : keyOf create = key := habout
    have hrunning : ¬Finished (c.session k.1) := by
      rw [hsession]
      exact not_finished_waiting create
    refine h.quiet hshared hother hrunning ?_
    rw [hself, act]
    cases hlookup : lookup (keyOf create) c.shared with
    | none => exact Or.inl (not_finished_cleared create)
    | some profile =>
      refine Or.inr ⟨?_, refused_conflict create⟩
      rw [← lookup_isSome_iff, hlookup]
      rfl
  | cleared create =>
    rw [hsession] at hself hshared habout hok
    obtain rfl : keyOf create = key := habout
    obtain ⟨agents, hinsert, hrows⟩ := insert_uncontested (w := c.shared.at k.2) hok
    rw [act, hinsert] at hself hshared
    refine h.win hok hother ⟨_, ?_, ?_, hself⟩
    · rw [hshared, hrows]
      exact List.mem_append_right _ (List.mem_singleton_self _)
    · rfl
  | finished outcome =>
    have hsame : Sessions.step act c k = c := Sessions.step_idle (by rw [hsession]; rfl)
    rw [hsame]
    exact h

theorem step_about (habout : ∀ i, About key (c.session i)) (k : Nat × Datetime) (i : Nat) :
    About key ((Sessions.step act c k).session i) := by
  rcases eq_or_ne i k.1 with rfl | hi
  · rw [Sessions.session_step_self]
    exact act_about k.2 c.shared (habout k.1)
  · rw [Sessions.session_step_ne act c hi]
    exact habout i

/-- A session that has finished does not change any more. -/
theorem finished_stays {i : Nat} {outcome : Except Exc AgentProfile}
    (h : c.session i = .finished outcome) (schedule : List (Nat × Datetime)) :
    (schedule.foldl (Sessions.step act) c).session i = .finished outcome := by
  induction schedule generalizing c with
  | nil => exact h
  | cons k schedule ih =>
    apply ih
    rcases eq_or_ne i k.1 with rfl | hi
    · rw [Sessions.session_step_self, h]
      rfl
    · rw [Sessions.session_step_ne act c hi]
      exact h

end Steps

section Runs
variable {key : String × String} {w : World} {creates : Nat → AgentProfileCreate}
  {schedule : List (Nat × Datetime)}

theorem start_phase (w : World) (key : String × String) (creates : Nat → AgentProfileCreate) :
    Phase key w (start w creates) := by
  by_cases hregistered : Registered key w
  · exact .taken hregistered hregistered fun i hi => absurd hi (not_finished_waiting (creates i))
  · exact .free hregistered hregistered fun i => not_finished_waiting (creates i)

/-- The invariant of a run whose sessions insert uncontested. -/
def Orderly (key : String × String) (w : World) (c : Sessions World Session) : Prop :=
  (∀ i, About key (c.session i)) ∧ Phase key w c

theorem run_phase (hkey : ∀ i, keyOf (creates i) = key)
    (hrun : Run.Meets (Sessions.step act) (Sessions.Guard Uncontested) (start w creates) schedule) :
    Phase key w (schedule.foldl (Sessions.step act) (start w creates)) := by
  have hstart : Orderly key w (start w creates) := ⟨hkey, start_phase w key creates⟩
  have keep : ∀ c k, Sessions.Guard Uncontested c k → Orderly key w c →
      Orderly key w (Sessions.step act c k) :=
    fun c k hok h => ⟨step_about h.1 k, step_phase (h.1 k.1) hok h.2⟩
  exact (Run.invariant keep hrun hstart).2

theorem Phase.oneProfile {c : Sessions World Session} (h : Phase key w c) (started : List Nat) :
    OneProfile key w started c := by
  cases h with
  | free hbefore hnow hnone =>
    refine ⟨fun i hi => absurd hi (hnone i), fun _ hstarted hall => ?_, fun h => absurd h hbefore⟩
    obtain ⟨i, hi⟩ := List.exists_mem_of_ne_nil started hstarted
    exact absurd (hall i hi) (hnone i)
  | taken hbefore hnow hrefused =>
    refine ⟨fun i hi => Or.inr (hrefused i hi), fun h => absurd hbefore h, fun _ i hi => ?_⟩
    exact (hrefused i hi.finished).not_returned hi
  | won winner hbefore hreturned hrefused =>
    refine ⟨fun i hi => ?_, fun _ _ _ => ⟨winner, hreturned, fun j hj => ?_⟩,
      fun h => absurd h hbefore⟩
    · rcases eq_or_ne i winner with rfl | hne
      · exact Or.inl hreturned
      · exact Or.inr (hrefused i hne hi)
    · by_contra hne
      exact (hrefused j hne hj.finished).not_returned hj

/-- The session that inserts too late raises what is not a conflict, and stays so. -/
theorem uncontested_of_oneProfile {started : List Nat}
    (h : OneProfile key w started (schedule.foldl (Sessions.step act) (start w creates))) :
    Run.Meets (Sessions.step act) (Sessions.Guard Uncontested) (start w creates) schedule := by
  rw [Run.meets_iff]
  rintro before k after rfl
  set c := before.foldl (Sessions.step act) (start w creates) with hc
  rw [Sessions.Guard]
  cases hsession : c.session k.1 with
  | waiting create => trivial
  | finished outcome => trivial
  | cleared create =>
    intro hregistered
    have hself := Sessions.session_step_self act c k
    rw [hsession, act, insert_contested (w := c.shared.at k.2) hregistered] at hself
    have hend := finished_stays hself after
    rw [List.foldl_append, List.foldl_cons, ← hc] at h
    rcases h.finished k.1 ⟨_, hend⟩ with hreturned | hrefused
    · obtain ⟨profile, -, -, hsame⟩ := hreturned
      rw [hend] at hsame
      cases hsame
    · obtain ⟨detail, hsame, -⟩ := hrefused
      rw [hend] at hsame
      cases hsame

end Runs

/-- In a run of any number of registrations of one agent, one returns the stored profile and all
others report the conflict exactly when no session inserts a profile after another has. -/
theorem one_profile_iff (key : String × String) (w : World) (creates : Nat → AgentProfileCreate)
    (hkey : ∀ i, keyOf (creates i) = key) (schedule : List (Nat × Datetime)) :
    OneProfile key w (schedule.map Prod.fst)
        (schedule.foldl (Sessions.step act) (start w creates)) ↔
      Run.Meets (Sessions.step act) (Sessions.Guard Uncontested) (start w creates) schedule :=
  ⟨uncontested_of_oneProfile, fun hrun => (run_phase hkey hrun).oneProfile _⟩

def sampleCreate (_ : Nat) : AgentProfileCreate := {tenantId := "acme", agentId := "a1", name := "n"}

def sampleSchedule (sessions : List Nat) : List (Nat × Datetime) :=
  sessions.map fun i => (i, sampleNoon)

/-- The second session looks the agent up after the first has committed. -/
theorem one_profile_iff_sample : OneProfile ("acme", "a1") sampleWorld [0, 0, 1]
    ((sampleSchedule [0, 0, 1]).foldl (Sessions.step act) (start sampleWorld sampleCreate)) := by
  apply (one_profile_iff ("acme", "a1") sampleWorld sampleCreate (fun _ => rfl)
    (sampleSchedule [0, 0, 1])).mpr
  refine ⟨trivial, ?_, trivial, trivial⟩
  rintro ⟨profile, hrow, -⟩
  cases hrow

/-- Both sessions look the agent up before either inserts: the second raises the exception of the
database. -/
theorem integrity_error_when_contested :
    ¬OneProfile ("acme", "a1") sampleWorld [0, 1, 0, 1] ((sampleSchedule [0, 1, 0, 1]).foldl
      (Sessions.step act) (start sampleWorld sampleCreate)) := by
  intro h
  have hsecond : ((sampleSchedule [0, 1, 0, 1]).foldl (Sessions.step act)
      (start sampleWorld sampleCreate)).session 1 =
        .finished (.error (.integrityError "uq_agent_profiles_tenant_agent")) := rfl
  rcases h.finished 1 ⟨_, hsecond⟩ with hreturned | hrefused
  · obtain ⟨profile, -, -, hsame⟩ := hreturned
    rw [hsecond] at hsame
    cases hsame
  · obtain ⟨detail, hsame, -⟩ := hrefused
    rw [hsecond] at hsame
    cases hsame

end Registration
end Dox
