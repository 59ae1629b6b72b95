import DoxGovernance.Auth.Service
import DoxGovernance.Gateway.App
import DoxGovernance.Lib.Run

/-!
# Tokens after a change of the user

The gateway looks at the claims of a token only, so a token works until it expires, whatever
happens to the row of its user. A request should be authorised only while the user is active
with a role that the router lists. In every run this holds throughout exactly when no user is
deactivated, or given a lesser role, while a token of the user has not expired.
-/

set_option autoImplicit false

namespace Dox

/-- The routers of `_SECURED_ROUTERS`. -/
inductive SecuredRouter where
  | audit | compliance | drift | ingestion | notify | policy | query | quota | registry
  | sentinel | tenant | users
deriving DecidableEq, Repr

namespace SecuredRouter

def roles : SecuredRouter → List UserRole
  | audit | compliance | drift | query | quota | sentinel => [.viewer, .operator, .admin]
  | ingestion => [.agent, .operator, .admin]
  | notify | policy => [.operator, .admin]
  | registry => [.agent, .viewer, .operator, .admin]
  | tenant | users => [.admin]

/-- `require_role(*roles)`, after `get_current_user`. -/
def authorise (router : SecuredRouter) (jwt : JwtDecode) (token : Option String) :
    Except Exc TokenPayload :=
  match getCurrentUser jwt token with
  | .error e => .error e
  | .ok payload => requireRole router.roles payload

end SecuredRouter

def Route.router : Route → SecuredRouter
  | audit _ => .audit
  | compliance _ => .compliance
  | drift _ => .drift
  | ingestion _ => .ingestion
  | notify _ => .notify
  | policy _ => .policy
  | query _ => .query
  | quota _ => .quota
  | registry _ => .registry
  | sentinel _ => .sentinel

/-- The gateway authorises a request as its router does. -/
theorem Gateway.authorise_eq (gateway : Gateway) (request : Request) (time : Datetime) :
    gateway.authorise request time =
      request.route.router.authorise (gateway.jwt time) request.token := by
  have hroles : request.route.roles = request.route.router.roles := by
    cases request.route <;> rfl
  cases huser : getCurrentUser (gateway.jwt time) request.token with
  | error e => simp only [authorise, SecuredRouter.authorise, huser]
  | ok payload => simp only [authorise, SecuredRouter.authorise, huser, hroles]

/-- `role` is admitted wherever `claimed` is. -/
def UserRole.Covers (role claimed : UserRole) : Prop :=
  role = claimed ∨ role = .admin ∨ role = .operator ∧ claimed ≠ .admin

instance (role claimed : UserRole) : Decidable (role.Covers claimed) :=
  inferInstanceAs (Decidable (_ ∨ _))

theorem UserRole.covers_iff {role claimed : UserRole} :
    role.Covers claimed ↔ ∀ router : SecuredRouter, claimed ∈ router.roles → role ∈ router.roles := by
  constructor
  · intro h router hclaimed
    rcases h with rfl | rfl | ⟨rfl, hne⟩
    · exact hclaimed
    · cases router <;> decide
    · cases router <;> revert hclaimed hne <;> cases claimed <;> decide
  · intro h
    have hadmin := h .users
    have hpolicy := h .policy
    have hingestion := h .ingestion
    have haudit := h .audit
    revert hadmin hpolicy hingestion haudit
    cases role <;> cases claimed <;> decide

theorem UserRole.value_injective : Function.Injective UserRole.value := by
  intro role role' h
  revert h
  cases role <;> cases role' <;> decide

section Authorise
variable (config : AuthConfig) (hjwt : config.jwt.Correct) {issue : Issue} {router : SecuredRouter}
  {t : Datetime}
include hjwt

/-- An issued token is authorised until it expires, on the routers of the role it was issued
with. -/
theorem authorise_isOk_iff :
    (router.authorise (config.jwt.decode t) (some (config.token issue))).isOk = true ↔
      (config.claims issue).Live t ∧ issue.user.role ∈ router.roles := by
  have hdecode := hjwt t (config.claims issue)
  by_cases hlive : (config.claims issue).Live t
  · rw [if_pos hlive] at hdecode
    have huser : getCurrentUser (config.jwt.decode t) (some (config.token issue)) =
        .ok (config.claims issue) := by
      simp only [getCurrentUser, decodeAccessToken, AuthConfig.token, hdecode]
    have hmem : (config.claims issue).role ∈ router.roles.map UserRole.value ↔
        issue.user.role ∈ router.roles := List.mem_map_of_injective UserRole.value_injective
    simp only [SecuredRouter.authorise, huser, requireRole, hmem]
    split
    · exact iff_of_true rfl ⟨hlive, by assumption⟩
    · exact iff_of_false Bool.false_ne_true fun h => absurd h.2 (by assumption)
  · rw [if_neg hlive] at hdecode
    simp only [SecuredRouter.authorise, getCurrentUser, decodeAccessToken, AuthConfig.token, hdecode]
    exact iff_of_false Bool.false_ne_true fun h => hlive h.1

end Authorise

namespace Accounts
variable (config : AuthConfig) (a : Accounts)

/-- Whatever is requested with an issued token now is authorised only if the user of the token is
active and the stored role is one of those the router allows. -/
def Current : Prop :=
  ∀ issue ∈ a.issued, ∀ router : SecuredRouter,
    (router.authorise (config.jwt.decode a.clock) (some (config.token issue))).isOk = true →
      ∃ user, a.users.find? issue.user.id = some user ∧ user.isActive = true ∧
        user.role ∈ router.roles

/-- Every token that has not expired is backed by an active user with a role that covers its own. -/
def Backed : Prop :=
  ∀ issue ∈ a.issued, (config.claims issue).Live a.clock →
    ∃ user, a.users.find? issue.user.id = some user ∧ user.isActive = true ∧
      user.role.Covers issue.user.role

variable {config a}

theorem current_iff_backed (hjwt : config.jwt.Correct) : Current config a ↔ Backed config a := by
  constructor
  · intro h issue hissue hlive
    have hregistry : issue.user.role ∈ SecuredRouter.registry.roles := by
      cases issue.user.role <;> decide
    obtain ⟨user, hfind, hactive, -⟩ :=
      h issue hissue .registry ((authorise_isOk_iff config hjwt).mpr ⟨hlive, hregistry⟩)
    refine ⟨user, hfind, hactive, UserRole.covers_iff.mpr ?_⟩
    intro router hrole
    obtain ⟨user', hfind', -, hrole'⟩ :=
      h issue hissue router ((authorise_isOk_iff config hjwt).mpr ⟨hlive, hrole⟩)
    rw [hfind] at hfind'
    rwa [Option.some.inj hfind']
  · intro h issue hissue router hok
    obtain ⟨hlive, hrole⟩ := (authorise_isOk_iff config hjwt).mp hok
    obtain ⟨user, hfind, hactive, hcovers⟩ := h issue hissue hlive
    exact ⟨user, hfind, hactive, UserRole.covers_iff.mp hcovers router hrole⟩

/-- Tokens only expire as time passes. -/
theorem Backed.at (h : Backed config a) {t : Datetime} (ht : a.clock ≤ t) :
    Backed config (a.at t) := by
  intro issue hissue hlive
  apply h issue hissue
  exact Int.le_trans (Datetime.timegm_mono ht) hlive

end Accounts

/-- A call that reads or changes the accounts, or a request with a token. -/
inductive AccountOp where
  | create (salt : String) (fields : UserCreate)
  | update (userId : Uuid) (fields : UserUpdate)
  | deactivate (userId : Uuid)
  | changePassword (salt : String) (userId : Uuid) (newPassword : String)
  | getToken (email password : String)
  | request (token : Option String) (router : SecuredRouter)

namespace AccountOp
open UserService (patched)
variable (config : AuthConfig)

/-- What the call leaves. The check of a token reads nothing. -/
def apply (op : AccountOp) (a : Accounts) : Accounts :=
  match op with
  | create salt fields => (UserService.create config.bcrypt salt fields a).2
  | update userId fields => (UserService.update userId fields a).2
  | deactivate userId => (UserService.deactivate userId a).2
  | changePassword salt userId new => (UserService.changePassword config.bcrypt salt userId new a).2
  | getToken email password => (AuthService.getToken config email password a).2
  | request _ _ => a

/-- The condition on a call: it does not deactivate a user, or give a role that covers less, while
a token of the user has not expired. -/
def Permitted (a : Accounts) : AccountOp → Prop
  | update userId fields => ∀ issue ∈ a.issued, issue.user.id = userId →
      (config.claims issue).Live a.clock →
        fields.isActive ≠ some false ∧ ∀ role ∈ fields.role, role.Covers issue.user.role
  | deactivate userId => ∀ issue ∈ a.issued, issue.user.id = userId →
      ¬(config.claims issue).Live a.clock
  | _ => True

def rights (user : User) : Bool × UserRole := (user.isActive, user.role)

/-- The rights that a call leaves to a user. -/
def newRights (user : User) : AccountOp → Bool × UserRole
  | update userId fields => if user.id = userId then rights (patched fields user) else rights user
  | deactivate userId => if user.id = userId then (false, user.role) else rights user
  | _ => rights user

section Rows
variable {config} {a : Accounts} {id : Uuid} {user : User}

theorem create_cases (bcrypt : Bcrypt) (salt : String) (fields : UserCreate) (a : Accounts) :
    (UserService.create bcrypt salt fields a).2 = a ∨
      ∃ users : Constrained User.id User.email, ∃ new,
        (UserService.create bcrypt salt fields a).2 = {a with users} ∧
          users.rows = a.users.rows ++ [new] := by
  rw [UserService.create, UserService.findByEmail, Effect.bind_ok (Effect.gets_run _ a)]
  cases a.users.rows.find? fun user => user.email = fields.email with
  | some user => exact Or.inl rfl
  | none =>
    dsimp only
    cases hhash : bcrypt.hashpw salt fields.password with
    | error message =>
      have hraise : UserService.hashPassword bcrypt salt fields.password a =
          (.error (.valueError message), a) := by
        simp only [UserService.hashPassword, hhash, Effect.raise_run]
      rw [Effect.bind_error hraise]
      exact Or.inl rfl
    | ok hashed =>
      have hreturn : UserService.hashPassword bcrypt salt fields.password a = (.ok hashed, a) := by
        simp only [UserService.hashPassword, hhash, Effect.pure_run]
      rw [Effect.bind_ok hreturn, UserService.insert]
      cases hadd : a.users.add? (UserService.newUser a.clock hashed fields) fun _ => rfl with
      | none => exact Or.inl rfl
      | some users => exact Or.inr ⟨users, _, rfl, Constrained.rows_add? hadd⟩

/-- A rewriting of one row under its key leaves every row there, rewritten or not. -/
theorem find?_users_update (userId : Uuid) (f : User → User) (hf : ∀ r, (f r).id = r.id)
    (hemail : ∀ r, (f r).email = r.email) (h : a.users.find? id = some user) :
    (a.users.update userId f hf hemail).find? id =
      some (if user.id = userId then f user else user) := by
  have hfind := Numbered.find?_update a.users.toNumbered userId f hf id
  rw [h] at hfind
  refine hfind.trans ?_
  rw [Table.key_of_find? h]
  split <;> rfl

theorem id_ne_of_missing {userId : Uuid} (h : a.users.find? id = some user)
    (hnone : a.users.find? userId = none) : user.id ≠ userId := by
  rintro rfl
  rw [Table.find?_of_mem (Table.mem_of_find? h)] at hnone
  cases hnone

/-- A call that looks a user up and rewrites it rewrites no other user. -/
theorem find?_get_update {β : Type} (userId : Uuid) (f : User → User) (hf : ∀ r, (f r).id = r.id)
    (hemail : ∀ r, (f r).email = r.email) (answer : User → β) (h : a.users.find? id = some user) :
    (((do
      let found ← UserService.get userId
      Effect.change fun a => (answer found, {a with users := a.users.update userId f hf hemail})) :
        AccountService β) a).2.users.find? id = some (if user.id = userId then f user else user) := by
  cases hfind : a.users.find? userId with
  | none =>
    rw [Effect.bind_error (UserService.get_of_none hfind), if_neg (id_ne_of_missing h hfind)]
    exact h
  | some found =>
    rw [Effect.bind_ok (UserService.get_of_find hfind)]
    exact find?_users_update userId f hf hemail h

variable (config) in
/-- A call leaves every user stored, with the rights that it leaves to the user. -/
theorem find?_apply (op : AccountOp) (h : a.users.find? id = some user) :
    ∃ user', (op.apply config a).users.find? id = some user' ∧ rights user' = op.newRights user := by
  cases op with
  | create salt fields =>
    refine ⟨user, ?_, rfl⟩
    rcases create_cases config.bcrypt salt fields a with hsame | ⟨users, new, hadd, hrows⟩
    · rw [apply, hsame]
      exact h
    · rw [apply, hadd]
      apply Table.find?_eq_some_iff.mpr
      rw [hrows]
      exact ⟨List.mem_append_left _ (Table.mem_of_find? h), Table.key_of_find? h⟩
  | update userId fields =>
    refine ⟨_, find?_get_update userId (patched fields) (fun _ => rfl) (fun _ => rfl)
      (patched fields) h, ?_⟩
    rw [newRights]
    split <;> rfl
  | deactivate userId =>
    refine ⟨_, find?_get_update userId ({· with isActive := false}) (fun _ => rfl) (fun _ => rfl)
      (fun _ => ()) h, ?_⟩
    rw [newRights]
    split <;> rfl
  | changePassword salt userId new =>
    rw [apply, UserService.changePassword]
    cases hfind : a.users.find? userId with
    | none =>
      rw [Effect.bind_error (UserService.get_of_none hfind)]
      exact ⟨user, h, rfl⟩
    | some found =>
      rw [Effect.bind_ok (UserService.get_of_find hfind), UserService.hashPassword]
      cases config.bcrypt.hashpw salt new with
      | error message => exact ⟨user, h, rfl⟩
      | ok hashed =>
        refine ⟨_, find?_users_update userId ({· with hashedPassword := hashed}) (fun _ => rfl)
          (fun _ => rfl) h, ?_⟩
        dsimp only [newRights]
        split <;> rfl
  | getToken email password =>
    refine ⟨user, ?_, rfl⟩
    rcases AuthService.getToken_cases config email password a with ⟨e, hrun⟩ | ⟨r, u, -, -, hrun⟩
    · rw [apply, hrun]
      exact h
    · rw [apply, hrun]
      exact h
  | request token router => exact ⟨user, h, rfl⟩

/-- The clock and the tokens issued are as they were. -/
def SameIssues (a a' : Accounts) : Prop := a'.clock = a.clock ∧ a'.issued = a.issued

theorem SameIssues.refl (a : Accounts) : SameIssues a a := ⟨rfl, rfl⟩

theorem SameIssues.trans {a b c : Accounts} (h : SameIssues a b) (h' : SameIssues b c) :
    SameIssues a c := ⟨h'.1.trans h.1, h'.2.trans h.2⟩

theorem get_keeps (userId : Uuid) : Effect.Keeps SameIssues (UserService.get userId) := by
  intro a
  unfold UserService.get
  cases a.users.find? userId with
  | none => exact SameIssues.refl a
  | some user => exact SameIssues.refl a

theorem hashPassword_keeps (bcrypt : Bcrypt) (salt plain : String) :
    Effect.Keeps SameIssues (UserService.hashPassword bcrypt salt plain) := by
  unfold UserService.hashPassword
  cases bcrypt.hashpw salt plain with
  | ok hashed => exact Effect.Keeps.pure SameIssues.refl hashed
  | error message => exact Effect.Keeps.raise SameIssues.refl _

variable (config a) in
/-- A call issues no token, or one to an active user as stored. -/
theorem issued_apply (op : AccountOp) :
    SameIssues a (op.apply config a) ∨ ∃ user ∈ a.users.rows, user.isActive = true ∧
      op.newRights user = rights user ∧
      op.apply config a = {a with issued := a.issued ++ [⟨user, a.clock⟩]} := by
  cases op with
  | create salt fields =>
    rw [apply]
    rcases create_cases config.bcrypt salt fields a with hsame | ⟨users, new, hadd, -⟩
    · rw [hsame]
      exact Or.inl (SameIssues.refl a)
    · rw [hadd]
      exact Or.inl ⟨rfl, rfl⟩
  | update userId fields =>
    have hkeeps : Effect.Keeps SameIssues (UserService.update userId fields) := by
      apply Effect.Keeps.bind @SameIssues.trans (get_keeps userId)
      exact fun user => Effect.Keeps.change fun a => ⟨rfl, rfl⟩
    exact Or.inl (hkeeps a)
  | deactivate userId =>
    have hkeeps : Effect.Keeps SameIssues (UserService.deactivate userId) := by
      apply Effect.Keeps.bind @SameIssues.trans (get_keeps userId)
      exact fun user => Effect.Keeps.change fun a => ⟨rfl, rfl⟩
    exact Or.inl (hkeeps a)
  | changePassword salt userId new =>
    have hkeeps : Effect.Keeps SameIssues
        (UserService.changePassword config.bcrypt salt userId new) := by
      apply Effect.Keeps.bind @SameIssues.trans (get_keeps userId)
      intro user
      apply Effect.Keeps.bind @SameIssues.trans (hashPassword_keeps config.bcrypt salt new)
      exact fun hashed => Effect.Keeps.change fun a => ⟨rfl, rfl⟩
    exact Or.inl (hkeeps a)
  | getToken email password =>
    rw [apply]
    rcases AuthService.getToken_cases config email password a with
      ⟨e, hrun⟩ | ⟨r, user, hmem, hactive, hrun⟩
    · rw [hrun]
      exact Or.inl (SameIssues.refl a)
    · rw [hrun]
      exact Or.inr ⟨user, hmem, hactive, rfl, rfl⟩
  | request token router => exact Or.inl (SameIssues.refl a)

/-- What an update must leave alone for the user to cover a role still. -/
theorem patched_covers_iff {fields : UserUpdate} {role : UserRole} (hactive : user.isActive = true)
    (hcovers : user.role.Covers role) :
    (rights (patched fields user)).1 = true ∧ (rights (patched fields user)).2.Covers role ↔
      fields.isActive ≠ some false ∧ ∀ new ∈ fields.role, new.Covers role := by
  apply and_congr
  · cases hfield : fields.isActive with
    | none => simp [rights, patched, hfield, hactive]
    | some active => cases active <;> simp [rights, patched, hfield]
  · cases hfield : fields.role with
    | none => simp [rights, patched, hfield, hcovers]
    | some new => simp [rights, patched, hfield]

/-- For tokens that are backed, the condition says that the rights left to their users still
cover them. -/
theorem permitted_iff (op : AccountOp) (hbacked : Accounts.Backed config a) :
    op.Permitted config a ↔ ∀ issue ∈ a.issued, (config.claims issue).Live a.clock →
      ∀ user, a.users.find? issue.user.id = some user →
        (op.newRights user).1 = true ∧ (op.newRights user).2.Covers issue.user.role := by
  have hsame : ∀ issue ∈ a.issued, (config.claims issue).Live a.clock →
      ∀ user, a.users.find? issue.user.id = some user →
        user.isActive = true ∧ user.role.Covers issue.user.role := by
    intro issue hissue hlive user hfind
    obtain ⟨user', hfind', hrights⟩ := hbacked issue hissue hlive
    rw [hfind] at hfind'
    rwa [Option.some.inj hfind']
  cases op with
  | update userId fields =>
    constructor
    · intro h issue hissue hlive user hfind
      obtain ⟨hactive, hcovers⟩ := hsame issue hissue hlive user hfind
      rw [newRights]
      split
      · rename_i hid
        exact (patched_covers_iff hactive hcovers).mpr
          (h issue hissue ((Table.key_of_find? hfind).symm.trans hid) hlive)
      · exact ⟨hactive, hcovers⟩
    · intro h issue hissue hid hlive
      obtain ⟨user, hfind, hactive, hcovers⟩ := hbacked issue hissue hlive
      have hleft := h issue hissue hlive user hfind
      rw [newRights, if_pos ((Table.key_of_find? hfind).trans hid)] at hleft
      exact (patched_covers_iff hactive hcovers).mp hleft
  | deactivate userId =>
    constructor
    · intro h issue hissue hlive user hfind
      have hne : user.id ≠ userId := by
        intro hid
        exact h issue hissue ((Table.key_of_find? hfind).symm.trans hid) hlive
      rw [newRights, if_neg hne]
      exact hsame issue hissue hlive user hfind
    · intro h issue hissue hid hlive
      obtain ⟨user, hfind, -, -⟩ := hbacked issue hissue hlive
      have hactive := (h issue hissue hlive user hfind).1
      rw [newRights, if_pos ((Table.key_of_find? hfind).trans hid)] at hactive
      cases hactive
  | create salt fields => exact iff_of_true trivial hsame
  | changePassword salt userId new => exact iff_of_true trivial hsame
  | getToken email password => exact iff_of_true trivial hsame
  | request token router => exact iff_of_true trivial hsame

/-- Where every live token keeps the rights of its row, the tokens issued before stay backed. -/
theorem backed_of_rights (op : AccountOp) (hbacked : Accounts.Backed config a)
    (h : ∀ issue ∈ a.issued, (config.claims issue).Live a.clock →
      ∀ user, a.users.find? issue.user.id = some user →
        (op.newRights user).1 = true ∧ (op.newRights user).2.Covers issue.user.role) :
    ∀ issue ∈ a.issued, (config.claims issue).Live a.clock →
      ∃ user, (op.apply config a).users.find? issue.user.id = some user ∧
        user.isActive = true ∧ user.role.Covers issue.user.role := by
  intro issue hissue hlive
  obtain ⟨user, hfind, -, -⟩ := hbacked issue hissue hlive
  obtain ⟨user', hfind', hrights⟩ := find?_apply config op hfind
  obtain ⟨hactive, hcovers⟩ := h issue hissue hlive user hfind
  rw [← hrights] at hactive hcovers
  exact ⟨user', hfind', hactive, hcovers⟩

theorem clock_apply (config : AuthConfig) (a : Accounts) (op : AccountOp) :
    (op.apply config a).clock = a.clock := by
  rcases issued_apply config a op with hsame | ⟨new, -, -, -, hnew⟩
  · exact hsame.1
  · rw [hnew]
    rfl

theorem issued_subset (config : AuthConfig) (a : Accounts) (op : AccountOp) :
    a.issued ⊆ (op.apply config a).issued := by
  intro issue hissue
  rcases issued_apply config a op with hsame | ⟨new, -, -, -, hnew⟩
  · rw [hsame.2]
    exact hissue
  · rw [hnew]
    exact List.mem_append_left _ hissue

/-- The step lemma: the calls that keep all tokens backed are those that meet the condition. -/
theorem backed_apply_iff (op : AccountOp) (hbacked : Accounts.Backed config a) :
    Accounts.Backed config (op.apply config a) ↔ op.Permitted config a := by
  rw [permitted_iff op hbacked]
  constructor
  · intro h issue hissue hlive user hfind
    have hlive' : (config.claims issue).Live (op.apply config a).clock := by
      rw [clock_apply]
      exact hlive
    obtain ⟨user', hfind', hactive, hcovers⟩ := h issue (issued_subset config a op hissue) hlive'
    obtain ⟨user'', hfind'', hrights⟩ := find?_apply config op hfind
    rw [hfind'] at hfind''
    rw [← hrights, ← Option.some.inj hfind'']
    exact ⟨hactive, hcovers⟩
  · intro h issue hissue hlive
    have hold := backed_of_rights op hbacked h
    rw [clock_apply] at hlive
    rcases issued_apply config a op with hsame | ⟨new, hnew, hactive, hkept, happend⟩
    · rw [hsame.2] at hissue
      exact hold issue hissue hlive
    · have hmem : issue ∈ a.issued ++ [⟨new, a.clock⟩] := by
        rw [happend] at hissue
        exact hissue
      rcases List.mem_append.mp hmem with hmem | hmem
      · exact hold issue hmem hlive
      · -- the token just issued has the rights of the row
        rw [List.mem_singleton.mp hmem]
        obtain ⟨user', hfind', hrights⟩ := find?_apply config op (Table.find?_of_mem hnew)
        rw [hkept] at hrights
        obtain ⟨hactive', hrole⟩ := Prod.mk.inj hrights
        exact ⟨user', hfind', hactive'.trans hactive, Or.inl hrole⟩

end Rows
end AccountOp

structure AccountStep where
  time : Datetime
  op : AccountOp

def AccountStep.step (config : AuthConfig) (a : Accounts) (s : AccountStep) : Accounts :=
  s.op.apply config (a.at s.time)

def AccountStep.Permitted (config : AuthConfig) (a : Accounts) (s : AccountStep) : Prop :=
  s.op.Permitted config (a.at s.time)

/-- The property of a run: a request of the run is authorised only if the user that its token was
issued to is active at that time and has a stored role that the router allows. -/
def RequestsCurrent (config : AuthConfig) (a : Accounts) (steps : List AccountStep) : Prop :=
  ∀ before time token router after,
    steps = before ++ ⟨time, .request token router⟩ :: after →
    (router.authorise (config.jwt.decode time) token).isOk = true →
      ∀ issue ∈ (before.foldl (AccountStep.step config) a).issued, token = some (config.token issue) →
        ∃ user, (before.foldl (AccountStep.step config) a).users.find? issue.user.id = some user ∧
          user.isActive = true ∧ user.role ∈ router.roles

section Runs
variable (config : AuthConfig) (a : Accounts) (steps : List AccountStep)

/-- In every run that starts without tokens and whose clock does not go back, all tokens are
current in every state reached exactly when every step meets the condition. -/
theorem current_always_iff (hjwt : config.jwt.Correct) (hnone : a.issued = [])
    (hclock : Run.Meets (AccountStep.step config) (fun a s => a.clock ≤ s.time) a steps) :
    (∀ before after, steps = before ++ after →
      Accounts.Current config (before.foldl (AccountStep.step config) a)) ↔
    Run.Meets (AccountStep.step config) (AccountStep.Permitted config) a steps := by
  have hstart : Accounts.Backed config a := by
    intro issue hissue
    rw [hnone] at hissue
    cases hissue
  rw [← Run.always_iff (Accounts.Backed config) ?_ hclock hstart]
  · simp only [Accounts.current_iff_backed hjwt]
  · intro a s ht hbacked
    exact AccountOp.backed_apply_iff s.op (hbacked.at ht)

/-- In every such run whose steps meet the condition, every request is authorised rightly; and the
condition is met exactly when whatever could be requested in a state reached would be. -/
theorem requests_current (hjwt : config.jwt.Correct) (hnone : a.issued = [])
    (hclock : Run.Meets (AccountStep.step config) (fun a s => a.clock ≤ s.time) a steps) :
    (Run.Meets (AccountStep.step config) (AccountStep.Permitted config) a steps →
      RequestsCurrent config a steps) ∧
    ((∀ before after, steps = before ++ after →
      Accounts.Current config (before.foldl (AccountStep.step config) a)) ↔
    Run.Meets (AccountStep.step config) (AccountStep.Permitted config) a steps) := by
  have hiff := current_always_iff config a steps hjwt hnone hclock
  refine ⟨?_, hiff⟩
  intro hsteps before time token router after hsplit hok issue hissue htoken
  have hcurrent := hiff.mpr hsteps (before ++ [⟨time, .request token router⟩]) after
    (by rw [hsplit, List.append_assoc, List.singleton_append])
  rw [List.foldl_append] at hcurrent
  rw [htoken] at hok
  exact hcurrent issue hissue router hok

end Runs

/-- A viewer is created, obtains a token, becomes an operator, and asks for the alerts. -/
def promotion : List AccountStep :=
  [⟨sampleNoon, .create "salt" sampleUser⟩,
    ⟨sampleNoon, .getToken "u@acme.org" "password"⟩,
    ⟨sampleNoon, .update 0 {role := some .operator}⟩,
    ⟨sampleNoon, .request (some (sampleConfig.token ⟨sampleRow, sampleNoon⟩)) .sentinel⟩]

theorem requests_current_sample : RequestsCurrent sampleConfig {world := sampleWorld} promotion := by
  refine (requests_current sampleConfig {world := sampleWorld} promotion sampleJwt_correct rfl ?_).1 ?_
  · exact ⟨le_refl sampleNoon, le_refl sampleNoon, le_refl sampleNoon, le_refl sampleNoon, trivial⟩
  · refine ⟨trivial, trivial, ?_, trivial, trivial⟩
    intro issue hissue _ _
    refine ⟨by decide, ?_⟩
    rintro role hrole
    cases hrole
    rw [List.mem_singleton.mp hissue]
    exact Or.inr (Or.inr ⟨rfl, by decide⟩)

/-- A viewer is created, obtains a token, is deactivated, and asks for the alerts. -/
def dismissal : List AccountStep :=
  [⟨sampleNoon, .create "salt" sampleUser⟩,
    ⟨sampleNoon, .getToken "u@acme.org" "password"⟩,
    ⟨sampleNoon, .deactivate 0⟩,
    ⟨sampleNoon, .request (some (sampleConfig.token ⟨sampleRow, sampleNoon⟩)) .sentinel⟩]

/-- The token of a deactivated user still opens the alerts. -/
theorem deactivated_user_authorised :
    ¬RequestsCurrent sampleConfig {world := sampleWorld} dismissal := by
  intro h
  have hok : (SecuredRouter.sentinel.authorise (sampleConfig.jwt.decode sampleNoon)
      (some (sampleConfig.token ⟨sampleRow, sampleNoon⟩))).isOk = true :=
    (authorise_isOk_iff sampleConfig sampleJwt_correct).mpr ⟨by decide, by decide⟩
  obtain ⟨user, hfind, hactive, -⟩ := h (dismissal.take 3) sampleNoon _ .sentinel [] rfl hok
    ⟨sampleRow, sampleNoon⟩ (List.mem_singleton.mpr rfl) rfl
  have hrow : some user = some {sampleRow with isActive := false} := hfind.symm
  rw [Option.some.inj hrow] at hactive
  cases hactive

end Dox
