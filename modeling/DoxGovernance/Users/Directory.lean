import DoxGovernance.Lib.Simulation
import DoxGovernance.Users.Router
import Mathlib.Logic.Function.Basic

/-!
# The directory of users

The specification of the user and token routes: a directory holds an account for each identifier,
with what the password library reads of the password that was set last. The routes keep a hash
instead, under a salt of their own for each. They answer every run of requests as the directory
does, so no answer depends on a hash or a salt, but for one: a change of the password that draws
the stored hash again has nothing to write, and is answered without an error. A token is given
out exactly for the password that was set last.
-/

set_option autoImplicit false

namespace Dox
open Effect

/-- A hash is good for the passwords that the library reads alike, and for no others. -/
structure Bcrypt.Reads {κ : Type} [DecidableEq κ] (bcrypt : Bcrypt)
    (read : String → Except String κ) : Prop where
  refuses : ∀ {password message}, read password = .error message →
    ∀ salt, bcrypt.hashpw salt password = .error message
  hashes : ∀ {password k}, read password = .ok k → ∀ salt, ∃ hashed,
    bcrypt.hashpw salt password = .ok hashed ∧
      ∀ plain, bcrypt.checkpw plain hashed = (read plain).map fun k' => decide (k' = k)

structure Account (κ : Type) where
  email : String
  tenantId : String
  role : UserRole
  isActive : Bool
  createdAt : Datetime
  secret : κ
deriving DecidableEq

namespace Account
variable {κ : Type}

def opened (fields : UserCreate) (time : Datetime) (secret : κ) : Account κ :=
  ⟨fields.email, fields.tenantId, fields.role, true, time, secret⟩

def patched (update : UserUpdate) (account : Account κ) : Account κ :=
  {account with
    role := update.role.getD account.role
    isActive := update.isActive.getD account.isActive}

/-- The account as an answer shows it. -/
def shown (id : Uuid) (account : Account κ) : UserResponse :=
  ⟨id, account.email, account.tenantId, account.role.value, account.isActive, account.createdAt⟩

def claims (config : AuthConfig) (time : Datetime) (id : Uuid) (account : Account κ) :
    TokenPayload where
  sub := Text.uuid id
  tenantId := account.tenantId
  role := account.role.value
  exp := time.timestampAfter config.accessTokenExpireMinutes

end Account

/-- The accounts by their identifiers. -/
abbrev Directory (κ : Type) := Uuid → Option (Account κ)

namespace Directory
variable {κ : Type} [DecidableEq κ]

def Holds (d : Directory κ) (email : String) : Prop :=
  ∃ id account, d id = some account ∧ account.email = email

def set (d : Directory κ) (id : Uuid) (account : Account κ) : Directory κ :=
  Function.update d id (some account)

def userNotFound : Exc := .httpException 404 "User not found"

/-- The answer to a request about one account, and the directory after it. -/
def About (d : Directory κ) (id : Uuid) (answer : Except Exc UserBody) (d' : Directory κ)
    (found : Account κ → Prop) : Prop :=
  match d id with
  | none => answer = .error userNotFound ∧ d' = d
  | some account => found account

/-- A listing in order of creation, the newest first. -/
structure Lists (d : Directory κ) (tenantId : String) (activeOnly : Bool)
    (rows : List (Uuid × Account κ)) : Prop where
  nodup : rows.Nodup
  mem : ∀ id account, (id, account) ∈ rows ↔ d id = some account ∧ account.tenantId = tenantId ∧
    (activeOnly = true → account.isActive = true)
  sorted : rows.Pairwise fun x y => y.2.createdAt ≤ x.2.createdAt

/-- What a password gets for an account. -/
def tokenFor (config : AuthConfig) (read : String → Except String κ) (time : Datetime)
    (password : String) (id : Uuid) (account : Account κ) : Except Exc UserBody :=
  match read password with
  | .error message => .error (.valueError message)
  | .ok k =>
    if k = account.secret then .ok (.token {
      accessToken := config.jwt.encode (account.claims config time id)
      expiresIn := config.accessTokenExpireMinutes * 60 })
    else .error (.httpException 401 "Invalid credentials")

theorem tokenFor_of_ok {config : AuthConfig} {read : String → Except String κ} {time : Datetime}
    {password : String} {id : Uuid} {account : Account κ} {k : κ} (hread : read password = .ok k) :
    tokenFor config read time password id account = if k = account.secret then .ok (.token {
      accessToken := config.jwt.encode (account.claims config time id)
      expiresIn := config.accessTokenExpireMinutes * 60 })
    else .error (.httpException 401 "Invalid credentials") := by
  rw [tokenFor, hread]

/-- Which answer a request may get, and what the directory is after it. -/
def Allows (config : AuthConfig) (read : String → Except String κ) (d : Directory κ)
    (call : UserCall) (answer : Except Exc UserBody) (d' : Directory κ) : Prop :=
  match call.request with
  | .createUser fields =>
    d.Holds fields.email ∧ d' = d ∧
      answer = .error (.httpException 409 s!"User with email '{fields.email}' already exists") ∨
    ¬d.Holds fields.email ∧ match read fields.password with
      | .error message => answer = .error (.valueError message) ∧ d' = d
      | .ok k => ∃ id, d id = none ∧
        answer = .ok (.user ((Account.opened fields call.time k).shown id)) ∧
        d' = d.set id (.opened fields call.time k)
  | .listUsers tenantId activeOnly query => d' = d ∧ ∃ rows, d.Lists tenantId activeOnly rows ∧
      answer = .ok (.users ⟨(page query.offset query.limit rows).map fun row => row.2.shown row.1,
        (page query.offset query.limit rows).length⟩)
  | .getUserByEmail email => d' = d ∧
      ((∃ id account, d id = some account ∧ account.email = email ∧
        answer = .ok (.user (account.shown id))) ∨
      ¬d.Holds email ∧ answer = .error userNotFound)
  | .getUser id => d.About id answer d' fun account =>
      answer = .ok (.user (account.shown id)) ∧ d' = d
  | .updateUser id update => d.About id answer d' fun account =>
      answer = (if account.patched update = account then .ok (.user (account.shown id))
        else .error missingGreenlet) ∧ d' = d.set id (account.patched update)
  | .deactivateUser id => d.About id answer d' fun account =>
      answer = .ok .noContent ∧ d' = d.set id {account with isActive := false}
  | .changePassword id request => d.About id answer d' fun account =>
      match read request.newPassword with
      | .error message => answer = .error (.valueError message) ∧ d' = d
      | .ok k => (answer = .error missingGreenlet ∨ answer = .ok (.user (account.shown id))) ∧
        d' = d.set id {account with secret := k}
  | .getToken request => d' = d ∧
      ((∃ id account, d id = some account ∧ account.email = request.email ∧
        account.isActive = true ∧
        answer = tokenFor config read call.time request.password id account) ∨
      (∀ id account, d id = some account → account.email = request.email →
        account.isActive = false) ∧ answer = .error (.httpException 401 "Invalid credentials"))

/-! ### The stored users represent a directory -/

def accountOf (user : User) (secret : κ) : Account κ :=
  ⟨user.email, user.tenantId, user.role, user.isActive, user.createdAt, secret⟩

/-- The users with the secrets behind their hashes. -/
structure Represents (bcrypt : Bcrypt) (read : String → Except String κ) (secret : Uuid → κ)
    (users : Constrained User.id User.email) (d : Directory κ) : Prop where
  accounts : ∀ id, d id = (users.find? id).map fun user => accountOf user (secret id)
  checks : ∀ user ∈ users.rows, ∀ plain, bcrypt.checkpw plain user.hashedPassword =
    (read plain).map fun k => decide (k = secret user.id)

section Represents
variable {bcrypt : Bcrypt} {read : String → Except String κ} {secret : Uuid → κ}
  {users : Constrained User.id User.email} {d : Directory κ} {user : User} {id : Uuid}

omit [DecidableEq κ] in
theorem shown_accountOf (user : User) (k : κ) :
    (accountOf user k).shown user.id = UserResponse.ofUser user := rfl

namespace Represents
variable (h : Represents bcrypt read secret users d)
include h

theorem of_find (hfind : users.find? id = some user) : d id = some (accountOf user (secret id)) := by
  rw [h.accounts, hfind, Option.map_some]

theorem of_none (hfind : users.find? id = none) : d id = none := by
  rw [h.accounts, hfind, Option.map_none]

theorem of_mem (hmem : user ∈ users.rows) : d user.id = some (accountOf user (secret user.id)) :=
  h.of_find (Table.find?_of_mem hmem)

theorem account_iff {account : Account κ} : d id = some account ↔
    ∃ user ∈ users.rows, user.id = id ∧ accountOf user (secret id) = account := by
  rw [h.accounts, Option.map_eq_some_iff]
  constructor
  · rintro ⟨user, hfind, hsame⟩
    exact ⟨user, Table.mem_of_find? hfind, Table.key_of_find? hfind, hsame⟩
  · rintro ⟨user, hmem, rfl, hsame⟩
    exact ⟨user, Table.find?_of_mem hmem, hsame⟩

theorem holds_iff {email : String} :
    d.Holds email ↔ ∃ user ∈ users.rows, user.email = email := by
  constructor
  · rintro ⟨id, account, haccount, rfl⟩
    obtain ⟨user, hmem, -, rfl⟩ := h.account_iff.mp haccount
    exact ⟨user, hmem, rfl⟩
  · rintro ⟨user, hmem, rfl⟩
    exact ⟨user.id, _, h.of_mem hmem, rfl⟩

/-- One user is rewritten, with a secret of its own. -/
theorem write (hfind : users.find? id = some user) (f : User → User) (hid : ∀ r, (f r).id = r.id)
    (hemail : ∀ r, (f r).email = r.email) {k : κ}
    (hchecks : ∀ plain, bcrypt.checkpw plain (f user).hashedPassword =
      (read plain).map fun k' => decide (k' = k)) :
    Represents bcrypt read (Function.update secret id k) (users.update id f hid hemail)
      (d.set id (accountOf (f user) k)) where
  accounts := by
    intro j
    have hupdate : (users.update id f hid hemail).find? j =
      if j = id then (users.find? j).map f else users.find? j :=
      Numbered.find?_update users.toNumbered id f hid j
    rw [hupdate, set]
    by_cases hj : j = id
    · subst hj
      rw [Function.update_self, if_pos rfl, hfind, Function.update_self]
      rfl
    · rw [Function.update_of_ne hj, Function.update_of_ne hj, if_neg hj]
      exact h.accounts j
  checks := by
    intro r hr
    have hrows : (users.update id f hid hemail).rows =
      users.rows.map fun x => if x.id = id then f x else x :=
      Numbered.rows_update users.toNumbered id f hid
    rw [hrows] at hr
    obtain ⟨x, hx, rfl⟩ := List.mem_map.mp hr
    by_cases hxid : x.id = id
    · have hsame : x = user := by
        have hfound := Table.find?_of_mem hx
        rw [hxid, hfind] at hfound
        exact (Option.some.inj hfound).symm
      subst hsame
      rw [if_pos hxid, hid, hxid, Function.update_self]
      exact hchecks
    · rw [if_neg hxid, Function.update_of_ne hxid]
      exact h.checks x hx

/-- One user is rewritten under its hash. -/
theorem rewrite (hfind : users.find? id = some user) (f : User → User)
    (hid : ∀ r, (f r).id = r.id) (hemail : ∀ r, (f r).email = r.email)
    (hhash : ∀ r, (f r).hashedPassword = r.hashedPassword) :
    Represents bcrypt read secret (users.update id f hid hemail)
      (d.set id (accountOf (f user) (secret id))) := by
  have hkey := Table.key_of_find? hfind
  have hwrite := h.write hfind f hid hemail (k := secret id) fun plain => by
    rw [hhash, h.checks user (Table.mem_of_find? hfind), hkey]
  rw [Function.update_eq_self] at hwrite
  exact hwrite

theorem insert {users' : Constrained User.id User.email} {mk : Uuid → User}
    (hmk : ∀ n, (mk n).id = n) (hadd : users.add? mk hmk = some users') {k : κ}
    (hchecks : ∀ plain, bcrypt.checkpw plain (mk users.next).hashedPassword =
      (read plain).map fun k' => decide (k' = k)) :
    d users.next = none ∧ Represents bcrypt read (Function.update secret users.next k) users'
      (d.set users.next (accountOf (mk users.next) k)) := by
  have hrows := Constrained.rows_add? hadd
  have hnone : users.find? users.next = none := by
    apply Table.find?_eq_none_iff.mpr
    intro r hr hid
    have hlt := users.below r hr
    omega
  refine ⟨h.of_none hnone, ?_, ?_⟩
  · intro j
    rw [set]
    by_cases hj : j = users.next
    · subst hj
      have hfind : users'.find? users.next = some (mk users.next) := by
        apply Table.find?_eq_some_iff.mpr
        rw [hrows]
        exact ⟨List.mem_append_right _ List.mem_cons_self, hmk _⟩
      rw [Function.update_self, hfind, Function.update_self]
      rfl
    · have hfind : users'.find? j = users.find? j := by
        rw [Table.find?, hrows, List.find?_append, Table.find?]
        have hlast : [mk users.next].find? (fun r => r.id = j) = none := by
          simp [hmk, Ne.symm hj]
        rw [hlast, Option.or_none]
      rw [Function.update_of_ne hj, Function.update_of_ne hj, hfind]
      exact h.accounts j
  · intro r hr
    rw [hrows] at hr
    rcases List.mem_append.mp hr with hold | hnew
    · have hne : r.id ≠ users.next := Nat.ne_of_lt (users.below r hold)
      rw [Function.update_of_ne hne]
      exact h.checks r hold
    · rw [List.mem_singleton.mp hnew, hmk, Function.update_self]
      exact hchecks

end Represents
end Represents

/-! ### The routes answer as the directory does -/

section Routes
variable {config : AuthConfig} {read : String → Except String κ} {secret : Uuid → κ}
  {d : Directory κ} {a : Accounts} {call : UserCall}

def Stands (bcrypt : Bcrypt) (read : String → Except String κ) (a : Accounts) (d : Directory κ) :
    Prop :=
  ∃ secret, Represents bcrypt read secret a.users d

/-- What a call does, up to the fields of the accounts that the directory is not about. -/
def Answers (config : AuthConfig) (read : String → Except String κ) (d : Directory κ)
    (call : UserCall) (run : Except Exc UserBody × Accounts) : Prop :=
  ∃ d', Allows config read d call run.1 d' ∧ Stands config.bcrypt read run.2 d'

theorem find_email (email : String) (h : Represents config.bcrypt read secret a.users d) :
    (∃ user ∈ a.users.rows, (a.users.rows.find? fun user => user.email = email) = some user ∧
      user.email = email) ∨
    (a.users.rows.find? fun user => user.email = email) = none ∧ ¬d.Holds email := by
  cases hfind : a.users.rows.find? fun user => user.email = email with
  | some user =>
    exact Or.inl ⟨user, List.mem_of_find?_eq_some hfind, rfl, by simpa using List.find?_some hfind⟩
  | none =>
    refine Or.inr ⟨rfl, fun hholds => ?_⟩
    obtain ⟨user, hmem, hemail⟩ := h.holds_iff.mp hholds
    have hnot := List.find?_eq_none.mp hfind user hmem
    simp [hemail] at hnot

theorem create_taken {user : User} {fields : UserCreate}
    (hfind : (a.users.rows.find? fun user => user.email = fields.email) = some user)
    (bcrypt : Bcrypt) (salt : String) : UserService.create bcrypt salt fields a =
      (.error (.conflict s!"User with email '{fields.email}' already exists"), a) := by
  rw [UserService.create, UserService.findByEmail, bind_ok (gets_run _ a), hfind]
  rfl

theorem hashPassword_error {bcrypt : Bcrypt} {salt plain message : String}
    (h : bcrypt.hashpw salt plain = .error message) (a : Accounts) :
    UserService.hashPassword bcrypt salt plain a = (.error (.valueError message), a) := by
  simp only [UserService.hashPassword, h, raise_run]

theorem hashPassword_ok {bcrypt : Bcrypt} {salt plain hashed : String}
    (h : bcrypt.hashpw salt plain = .ok hashed) (a : Accounts) :
    UserService.hashPassword bcrypt salt plain a = (.ok hashed, a) := by
  simp only [UserService.hashPassword, h, pure_run]

theorem create_unreadable {bcrypt : Bcrypt} {salt message : String} {fields : UserCreate}
    (hfind : (a.users.rows.find? fun user => user.email = fields.email) = none)
    (hhash : bcrypt.hashpw salt fields.password = .error message) :
    UserService.create bcrypt salt fields a = (.error (.valueError message), a) := by
  rw [UserService.create, UserService.findByEmail, bind_ok (gets_run _ a), hfind]
  exact bind_error (hashPassword_error hhash a)

/-- A user with a new address is stored under the next identifier. -/
theorem create_stores {bcrypt : Bcrypt} {salt hashed : String} {fields : UserCreate}
    (hfind : (a.users.rows.find? fun user => user.email = fields.email) = none)
    (hhash : bcrypt.hashpw salt fields.password = .ok hashed) : ∃ users,
    a.users.add? (UserService.newUser a.clock hashed fields) (fun _ => rfl) = some users ∧
      UserService.create bcrypt salt fields a =
        (.ok (UserService.newUser a.clock hashed fields a.users.next), {a with users}) := by
  have hadd : (a.users.add? (UserService.newUser a.clock hashed fields) fun _ => rfl).isSome := by
    apply Constrained.isSome_add?_iff.mpr
    intro r hr hemail
    have hnot := List.find?_eq_none.mp hfind r hr
    rw [show r.email = fields.email from hemail, decide_eq_true rfl] at hnot
    exact hnot rfl
  obtain ⟨users, hadd⟩ := Option.isSome_iff_exists.mp hadd
  refine ⟨users, hadd, ?_⟩
  rw [UserService.create, UserService.findByEmail, bind_ok (gets_run _ a), hfind]
  refine (bind_ok (hashPassword_ok hhash a)).trans ?_
  rw [UserService.insert, hadd]

theorem createUser_answers (hreads : config.bcrypt.Reads read)
    (h : Represents config.bcrypt read secret a.users d) (salt : String) (scan : Scan User)
    (fields : UserCreate) : Answers config read d ⟨a.clock, salt, scan, .createUser fields⟩
      ((UserRequest.createUser fields).handle config salt scan a) := by
  rcases find_email fields.email h with ⟨user, hmem, hfind, hemail⟩ | ⟨hfind, hfree⟩
  · have hholds : d.Holds fields.email := h.holds_iff.mpr ⟨user, hmem, hemail⟩
    have hrun : (UserRequest.createUser fields).handle config salt scan a =
        (.error (.httpException 409 s!"User with email '{fields.email}' already exists"), a) :=
      bind_error (recover_error (create_taken hfind config.bcrypt salt))
    rw [hrun]
    exact ⟨d, Or.inl ⟨hholds, rfl, rfl⟩, secret, h⟩
  · cases hread : read fields.password with
    | error message =>
      have hhash := hreads.refuses hread salt
      have hrun : (UserRequest.createUser fields).handle config salt scan a =
          (.error (.valueError message), a) :=
        bind_error (recover_error (create_unreadable hfind hhash))
      rw [hrun]
      refine ⟨d, Or.inr ⟨hfree, ?_⟩, secret, h⟩
      rw [hread]
      exact ⟨rfl, rfl⟩
    | ok k =>
      obtain ⟨hashed, hhash, hchecks⟩ := hreads.hashes hread salt
      obtain ⟨users, hadd, hcreate⟩ := create_stores hfind hhash
      have hrun : (UserRequest.createUser fields).handle config salt scan a = _ :=
        bind_ok (recover_ok hcreate)
      rw [hrun]
      obtain ⟨hnone, hinsert⟩ := h.insert (fun _ => rfl) hadd (k := k) hchecks
      refine ⟨_, Or.inr ⟨hfree, ?_⟩, _, hinsert⟩
      rw [hread]
      exact ⟨a.users.next, hnone, rfl, rfl⟩

theorem update_stores {id : Uuid} {user : User} (hfind : a.users.find? id = some user)
    (update : UserUpdate) : UserService.update id update a = (.ok (UserService.patched update user),
      {a with users :=
        a.users.update id (UserService.patched update) (fun _ => rfl) fun _ => rfl}) :=
  bind_ok (UserService.get_of_find hfind)

theorem changePassword_unreadable {bcrypt : Bcrypt} {salt plain message : String} {id : Uuid}
    {user : User} (hfind : a.users.find? id = some user)
    (hhash : bcrypt.hashpw salt plain = .error message) :
    UserService.changePassword bcrypt salt id plain a = (.error (.valueError message), a) := by
  rw [UserService.changePassword, bind_ok (UserService.get_of_find hfind)]
  exact bind_error (hashPassword_error hhash a)

theorem changePassword_stores {bcrypt : Bcrypt} {salt plain hashed : String} {id : Uuid}
    {user : User} (hfind : a.users.find? id = some user)
    (hhash : bcrypt.hashpw salt plain = .ok hashed) :
    UserService.changePassword bcrypt salt id plain a = (.ok {user with hashedPassword := hashed},
      {a with users :=
        a.users.update id ({· with hashedPassword := hashed}) (fun _ => rfl) fun _ => rfl}) := by
  rw [UserService.changePassword, bind_ok (UserService.get_of_find hfind)]
  exact bind_ok (hashPassword_ok hhash a)

theorem orUserNotFound_missing {β : Type} {id : Uuid} (hfind : a.users.find? id = none)
    (step : User → AccountService β) :
    orUserNotFound (UserService.get id >>= step) a = (.error userNotFound, a) :=
  recover_error (bind_error (UserService.get_of_none hfind))

theorem committed_error {before : Option User} {request : AccountService User} {e : Exc}
    {a' : Accounts} (h : request a = (.error e, a')) :
    UserRequest.committed before request a = (.error e, a') := bind_error h

theorem committed_ok {before : Option User} {request : AccountService User} {user : User}
    {a' : Accounts} (h : request a = (.ok user, a')) : UserRequest.committed before request a =
      (if before = some user then .ok (.user (.ofUser user)) else .error missingGreenlet, a') := by
  rw [UserRequest.committed, bind_ok h]
  split <;> rfl

/-- A request about a user that is not stored. -/
theorem answers_missing {request : UserRequest} {id : Uuid}
    (h : Represents config.bcrypt read secret a.users d) (hfind : a.users.find? id = none)
    {found : Except Exc UserBody → Directory κ → Account κ → Prop} {salt : String}
    {scan : Scan User}
    (hallows : ∀ answer d', Allows config read d ⟨a.clock, salt, scan, request⟩ answer d' =
      d.About id answer d' (found answer d'))
    (hrun : request.handle config salt scan a = (.error userNotFound, a)) :
    Answers config read d ⟨a.clock, salt, scan, request⟩ (request.handle config salt scan a) := by
  rw [hrun]
  refine ⟨d, ?_, secret, h⟩
  rw [hallows, About, h.of_none hfind]
  exact ⟨rfl, rfl⟩

/-- A request about a stored user. -/
theorem answers_found {request : UserRequest} {id : Uuid} {user : User}
    (h : Represents config.bcrypt read secret a.users d) (hfind : a.users.find? id = some user)
    {found : Except Exc UserBody → Directory κ → Account κ → Prop} {salt : String}
    {scan : Scan User}
    (hallows : ∀ answer d', Allows config read d ⟨a.clock, salt, scan, request⟩ answer d' =
      d.About id answer d' (found answer d'))
    (hfound : ∃ d', found (request.handle config salt scan a).1 d' (accountOf user (secret id)) ∧
      Stands config.bcrypt read (request.handle config salt scan a).2 d') :
    Answers config read d ⟨a.clock, salt, scan, request⟩ (request.handle config salt scan a) := by
  obtain ⟨d', hd', hstands⟩ := hfound
  refine ⟨d', ?_, hstands⟩
  rw [hallows, About, h.of_find hfind]
  exact hd'

section About
variable (h : Represents config.bcrypt read secret a.users d) (salt : String) (scan : Scan User)
  (id : Uuid)
include h

theorem getUser_answers : Answers config read d ⟨a.clock, salt, scan, .getUser id⟩
    ((UserRequest.getUser id).handle config salt scan a) := by
  cases hfind : a.users.find? id with
  | none =>
    exact answers_missing h hfind (fun _ _ => rfl)
      (bind_error (recover_error (UserService.get_of_none hfind)))
  | some user =>
    have hkey := Table.key_of_find? hfind
    refine answers_found h hfind (fun _ _ => rfl) ?_
    have hrun : (UserRequest.getUser id).handle config salt scan a =
        (.ok (.user (.ofUser user)), a) := bind_ok (recover_ok (UserService.get_of_find hfind))
    rw [hrun, ← shown_accountOf user (secret id), hkey]
    exact ⟨d, ⟨rfl, rfl⟩, secret, h⟩

omit h [DecidableEq κ] in
/-- An update that leaves the account of a user leaves the user. -/
theorem patched_eq_iff (update : UserUpdate) (user : User) (k : κ) :
    user = UserService.patched update user ↔
      (accountOf user k).patched update = accountOf user k := by
  constructor
  · intro hsame
    exact congrArg (accountOf · k) hsame.symm
  · intro hsame
    have hrole : (UserService.patched update user).role = user.role := congrArg Account.role hsame
    have hactive : (UserService.patched update user).isActive = user.isActive :=
      congrArg Account.isActive hsame
    obtain ⟨_, _, _, _, _, _, _⟩ := user
    simp only [UserService.patched] at hrole hactive ⊢
    rw [hrole, hactive]

theorem updateUser_answers (update : UserUpdate) :
    Answers config read d ⟨a.clock, salt, scan, .updateUser id update⟩
      ((UserRequest.updateUser id update).handle config salt scan a) := by
  cases hfind : a.users.find? id with
  | none =>
    exact answers_missing h hfind (fun _ _ => rfl) ((bind_ok (gets_run _ a)).trans
      (committed_error (orUserNotFound_missing hfind _)))
  | some user =>
    have hkey := Table.key_of_find? hfind
    refine answers_found h hfind (fun _ _ => rfl) ?_
    have hrun : (UserRequest.updateUser id update).handle config salt scan a = _ :=
      (bind_ok (gets_run _ a)).trans (committed_ok (recover_ok (update_stores hfind update)))
    have hrewrite := h.rewrite hfind (UserService.patched update) (fun _ => rfl) (fun _ => rfl)
      fun _ => rfl
    rw [hrun]
    refine ⟨_, ⟨?_, rfl⟩, secret, hrewrite⟩
    have hwrites : a.users.find? id = some (UserService.patched update user) ↔
        (accountOf user (secret id)).patched update = accountOf user (secret id) := by
      rw [hfind, Option.some_inj, patched_eq_iff]
    by_cases hsame : a.users.find? id = some (UserService.patched update user)
    · have huser : user = UserService.patched update user :=
        Option.some.inj (hfind.symm.trans hsame)
      rw [if_pos hsame, if_pos (hwrites.mp hsame), ← huser, ← hkey]
      rfl
    · rw [if_neg hsame, if_neg fun h => hsame (hwrites.mpr h)]

theorem deactivateUser_answers : Answers config read d ⟨a.clock, salt, scan, .deactivateUser id⟩
    ((UserRequest.deactivateUser id).handle config salt scan a) := by
  cases hfind : a.users.find? id with
  | none =>
    exact answers_missing h hfind (fun _ _ => rfl) (bind_error (orUserNotFound_missing hfind _))
  | some user =>
    refine answers_found h hfind (fun _ _ => rfl) ?_
    have hrun : (UserRequest.deactivateUser id).handle config salt scan a = _ :=
      bind_ok (recover_ok (bind_ok (UserService.get_of_find hfind)))
    have hrewrite := h.rewrite hfind ({· with isActive := false}) (fun _ => rfl) (fun _ => rfl)
      fun _ => rfl
    rw [hrun]
    exact ⟨_, ⟨rfl, rfl⟩, secret, hrewrite⟩

theorem changePassword_answers (hreads : config.bcrypt.Reads read)
    (request : ChangePasswordRequest) :
    Answers config read d ⟨a.clock, salt, scan, .changePassword id request⟩
      ((UserRequest.changePassword id request).handle config salt scan a) := by
  cases hfind : a.users.find? id with
  | none =>
    exact answers_missing h hfind (fun _ _ => rfl) ((bind_ok (gets_run _ a)).trans
      (committed_error (orUserNotFound_missing hfind _)))
  | some user =>
    have hkey := Table.key_of_find? hfind
    refine answers_found h hfind (fun _ _ => rfl) ?_
    cases hread : read request.newPassword with
    | error message =>
      have hrun : (UserRequest.changePassword id request).handle config salt scan a =
          (.error (.valueError message), a) :=
        (bind_ok (gets_run _ a)).trans (committed_error
          (recover_error (changePassword_unreadable hfind (hreads.refuses hread salt))))
      rw [hrun]
      exact ⟨d, ⟨rfl, rfl⟩, secret, h⟩
    | ok k =>
      obtain ⟨hashed, hhash, hchecks⟩ := hreads.hashes hread salt
      have hrun : (UserRequest.changePassword id request).handle config salt scan a = _ :=
        (bind_ok (gets_run _ a)).trans (committed_ok (recover_ok (changePassword_stores hfind hhash)))
      have hwrite := h.write hfind ({· with hashedPassword := hashed}) (fun _ => rfl)
        (fun _ => rfl) (k := k) hchecks
      rw [hrun]
      refine ⟨_, ⟨?_, rfl⟩, _, hwrite⟩
      split
      · right
        rw [← hkey]
        rfl
      · exact Or.inl rfl

omit h in
theorem getByEmail_missing {email : String}
    (hfind : (a.users.rows.find? fun user => user.email = email) = none) :
    UserService.getByEmail email a = (.error (.notFound s!"User '{email}' not found"), a) := by
  rw [UserService.getByEmail, UserService.findByEmail, bind_ok (gets_run _ a), hfind]
  rfl

theorem getUserByEmail_answers (email : String) :
    Answers config read d ⟨a.clock, salt, scan, .getUserByEmail email⟩
      ((UserRequest.getUserByEmail email).handle config salt scan a) := by
  rcases find_email email h with ⟨user, hmem, hfind, hemail⟩ | ⟨hfind, hfree⟩
  · have hlookup : UserService.findByEmail email a = (.ok (some user), a) := by
      rw [UserService.findByEmail, gets_run, hfind]
    have hrun : (UserRequest.getUserByEmail email).handle config salt scan a =
        (.ok (.user (.ofUser user)), a) := bind_ok (recover_ok (bind_ok hlookup))
    rw [hrun]
    exact ⟨d, ⟨rfl, Or.inl ⟨user.id, _, h.of_mem hmem, hemail, rfl⟩⟩, secret, h⟩
  · have hrun : (UserRequest.getUserByEmail email).handle config salt scan a =
        (.error userNotFound, a) := bind_error (recover_error (getByEmail_missing hfind))
    rw [hrun]
    exact ⟨d, ⟨rfl, Or.inr ⟨hfree, rfl⟩⟩, secret, h⟩

/-- The rows of a listing, as accounts. -/
theorem lists_select (tenantId : String) (activeOnly : Bool) :
    d.Lists tenantId activeOnly ((orderByDesc User.createdAt (a.users.select scan fun user =>
      user.tenantId = tenantId && (!activeOnly || user.isActive))).map
        fun user => (user.id, accountOf user (secret user.id))) where
  nodup := by
    apply List.Nodup.of_map Prod.fst
    rw [List.map_map]
    have hperm := ((perm_orderByDesc User.createdAt _).trans (a.users.perm_select scan fun user =>
      user.tenantId = tenantId && (!activeOnly || user.isActive))).map User.id
    exact hperm.nodup_iff.mpr (a.users.unique.sublist (List.filter_sublist.map User.id))
  mem := by
    intro id account
    rw [h.account_iff, List.mem_map]
    constructor
    · rintro ⟨user, hmem, hrow⟩
      obtain ⟨rfl, rfl⟩ := Prod.mk.inj hrow
      obtain ⟨hstored, hkept⟩ := Table.mem_select.mp ((mem_orderByDesc User.createdAt).mp hmem)
      rw [Bool.and_eq_true, decide_eq_true_iff, Bool.or_eq_true, Bool.not_eq_true'] at hkept
      refine ⟨⟨user, hstored, rfl, rfl⟩, hkept.1, fun hactive => ?_⟩
      exact hkept.2.resolve_left (by rw [hactive]; decide)
    · rintro ⟨⟨user, hstored, rfl, rfl⟩, htenant, hactive⟩
      refine ⟨user, (mem_orderByDesc User.createdAt).mpr (Table.mem_select.mpr ⟨hstored, ?_⟩), rfl⟩
      rw [Bool.and_eq_true, decide_eq_true_iff, Bool.or_eq_true, Bool.not_eq_true']
      refine ⟨htenant, ?_⟩
      cases activeOnly with
      | false => exact Or.inl rfl
      | true => exact Or.inr (hactive rfl)
  sorted := by
    rw [List.pairwise_map]
    exact pairwise_orderByDesc User.createdAt _

theorem listUsers_answers (tenantId : String) (activeOnly : Bool) (query : PageQuery 200) :
    Answers config read d ⟨a.clock, salt, scan, .listUsers tenantId activeOnly query⟩
      ((UserRequest.listUsers tenantId activeOnly query).handle config salt scan a) := by
  refine ⟨d, ⟨rfl, _, lists_select h scan tenantId activeOnly, ?_⟩, secret, h⟩
  simp only [page, ← List.map_drop, ← List.map_take, List.map_map, List.length_map]
  rfl

section Token
omit h
variable {email password : String}

theorem getToken_of_none (hauth : AuthService.authenticate config email password a = (.ok none, a)) :
    AuthService.getToken config email password a =
      (.error (.httpException 401 "Invalid credentials"), a) :=
  bind_ok hauth

theorem getToken_of_some {user : User}
    (hauth : AuthService.authenticate config email password a = (.ok (some user), a)) :
    AuthService.getToken config email password a = (.ok {
      accessToken := config.token ⟨user, a.clock⟩
      expiresIn := config.accessTokenExpireMinutes * 60 },
      {a with issued := a.issued ++ [⟨user, a.clock⟩]}) :=
  bind_ok hauth

end Token

theorem getToken_answers (request : TokenRequest) :
    Answers config read d ⟨a.clock, salt, scan, .getToken request⟩
      ((UserRequest.getToken request).handle config salt scan a) := by
  cases hfind : a.users.rows.find? fun user => user.email = request.email && user.isActive with
  | none =>
    have hauth : AuthService.authenticate config request.email request.password a = (.ok none, a) := by
      simp only [AuthService.authenticate, hfind]
    have hrun : (UserRequest.getToken request).handle config salt scan a =
        (.error (.httpException 401 "Invalid credentials"), a) := bind_error (getToken_of_none hauth)
    rw [hrun]
    refine ⟨d, ⟨rfl, Or.inr ⟨?_, rfl⟩⟩, secret, h⟩
    intro id account haccount hemail
    obtain ⟨user, hmem, -, rfl⟩ := h.account_iff.mp haccount
    have hnot := List.find?_eq_none.mp hfind user hmem
    rw [show user.email = request.email from hemail, decide_eq_true rfl, Bool.true_and,
      Bool.not_eq_true] at hnot
    exact hnot
  | some user =>
    have hmem := List.mem_of_find?_eq_some hfind
    have hfound := List.find?_some hfind
    rw [Bool.and_eq_true, decide_eq_true_iff] at hfound
    have haccount := h.of_mem hmem
    have hcheck := h.checks user hmem request.password
    suffices hrun : ∃ users, (UserRequest.getToken request).handle config salt scan a =
        (tokenFor config read a.clock request.password user.id
          (accountOf user (secret user.id)), users) ∧ users.users = a.users by
      obtain ⟨a', hrun, hsame⟩ := hrun
      rw [hrun]
      refine ⟨d, ⟨rfl, Or.inl ⟨user.id, _, haccount, hfound.1, hfound.2, rfl⟩⟩, secret, ?_⟩
      rw [hsame]
      exact h
    cases hread : read request.password with
    | error message =>
      rw [hread] at hcheck
      rw [tokenFor, hread]
      have hauth : AuthService.authenticate config request.email request.password a =
          (.error (.valueError message), a) := by
        simp only [AuthService.authenticate, hfind, hcheck, Except.map]
      exact ⟨a, bind_error (bind_error hauth), rfl⟩
    | ok k =>
      rw [hread] at hcheck
      have hauth : AuthService.authenticate config request.email request.password a =
          (.ok (if k = secret user.id then some user else none), a) := by
        simp only [AuthService.authenticate, hfind, hcheck, Except.map, decide_eq_true_eq]
      by_cases hk : k = secret user.id
      · rw [if_pos hk] at hauth
        rw [tokenFor_of_ok hread, if_pos (show k = (accountOf user (secret user.id)).secret from hk)]
        exact ⟨_, bind_ok (getToken_of_some hauth), rfl⟩
      · rw [if_neg hk] at hauth
        rw [tokenFor_of_ok hread, if_neg (show k ≠ (accountOf user (secret user.id)).secret from hk)]
        exact ⟨a, bind_error (getToken_of_none hauth), rfl⟩

end About

/-- The step lemma: a request is answered as the directory answers it. -/
theorem run_answers (hreads : config.bcrypt.Reads read) (h : Stands config.bcrypt read a d)
    (call : UserCall) : Answers config read d call (call.run config a) := by
  obtain ⟨secret, hrep⟩ := h
  have hat : Represents config.bcrypt read secret (a.at call.time).users d := hrep
  obtain ⟨time, salt, scan, request⟩ := call
  cases request with
  | createUser fields => exact createUser_answers hreads hat salt scan fields
  | listUsers tenantId activeOnly query => exact listUsers_answers hat salt scan _ _ query
  | getUserByEmail email => exact getUserByEmail_answers hat salt scan email
  | getUser id => exact getUser_answers hat salt scan id
  | updateUser id update => exact updateUser_answers hat salt scan id update
  | deactivateUser id => exact deactivateUser_answers hat salt scan id
  | changePassword id request => exact changePassword_answers hat salt scan id hreads request
  | getToken request => exact getToken_answers hat salt scan request

theorem simulates (hreads : config.bcrypt.Reads read) :
    Simulation.Simulates (Stands config.bcrypt read) (UserCall.run config) (Allows config read) :=
  fun _ _ call h => run_answers hreads h call

theorem stands_empty [Inhabited κ] (bcrypt : Bcrypt) (w : World) :
    Stands bcrypt read {world := w} fun _ => none :=
  ⟨fun _ => default, fun _ => rfl, fun _ hmem => absurd hmem List.not_mem_nil⟩

end Routes

/-- What the accounts are after some calls. -/
def after (config : AuthConfig) (w : World) (calls : List UserCall) : Accounts :=
  calls.foldl (Simulation.step (UserCall.run config)) {world := w}

/-- The calls with what they were answered. -/
def transcript (config : AuthConfig) (w : World) (calls : List UserCall) :
    List (UserCall × Except Exc UserBody) :=
  Simulation.answers (UserCall.run config) {world := w} calls

/-- The run lemma: the answers to any requests are those of a directory that starts empty. -/
theorem transcript_allowed [Inhabited κ] {config : AuthConfig} {read : String → Except String κ}
    (hreads : config.bcrypt.Reads read) (w : World) (calls : List UserCall) :
    ∃ d, Simulation.Runs (Allows config read) (fun _ => none) (transcript config w calls) d ∧
      Stands config.bcrypt read (after config w calls) d :=
  (simulates hreads).run (stands_empty config.bcrypt w) calls

/-! ### A password library for samples -/

/-- Hashes that carry the password behind the salt. -/
def sampleBcrypt : Bcrypt where
  hashpw salt plain := .ok (String.ofList (SampleToken.markField salt ++ plain.toList))
  checkpw plain hashed := .ok (match SampleToken.readField hashed.toList with
    | some (_, tail) => tail = plain.toList
    | none => false)

/-- All of a password is read. -/
def readAll : String → Except String String := .ok

theorem sampleBcrypt_reads : sampleBcrypt.Reads readAll where
  refuses := fun h => nomatch h
  hashes := by
    intro password k hread salt
    cases hread
    refine ⟨_, rfl, fun plain => ?_⟩
    simp only [sampleBcrypt, String.toList_ofList, SampleToken.readField_markField, Except.map]
    exact congrArg Except.ok (decide_eq_decide.mpr (by rw [String.toList_inj, eq_comm]))

def hashedConfig : AuthConfig := {sampleConfig with bcrypt := sampleBcrypt}

def createCall : UserCall := ⟨sampleNoon, "salt", .stored, .createUser sampleUser⟩

theorem newPassword_long : 8 ≤ "newpassword".length := by decide

def changeCall : UserCall :=
  ⟨sampleNoon, "pepper", .stored, .changePassword 0 ⟨"newpassword", newPassword_long⟩⟩

/-- A user is created and changes the password. -/
theorem transcript_allowed_sample : ∃ d, Simulation.Runs (Allows hashedConfig readAll)
      (fun _ => none) (transcript hashedConfig sampleWorld [createCall, changeCall]) d ∧
    Stands hashedConfig.bcrypt readAll (after hashedConfig sampleWorld [createCall, changeCall]) d :=
  transcript_allowed sampleBcrypt_reads sampleWorld [createCall, changeCall]

/-! ### The password that was set last -/

section Password
variable {config : AuthConfig} {read : String → Except String κ} {d d' : Directory κ} {id : Uuid}
  {email : String} {k : κ}

/-- The account has the secret, under the address. -/
def HasSecret (id : Uuid) (email : String) (k : κ) (d : Directory κ) : Prop :=
  ∃ account, d id = some account ∧ account.email = email ∧ account.secret = k

omit [DecidableEq κ] in
theorem hasSecret_set_self {account : Account κ} (hemail : account.email = email)
    (hsecret : account.secret = k) : HasSecret id email k (d.set id account) :=
  ⟨account, Function.update_self _ _ _, hemail, hsecret⟩

omit [DecidableEq κ] in
theorem HasSecret.set_other (h : HasSecret id email k d) {j : Uuid} (hj : id ≠ j)
    (account : Account κ) : HasSecret id email k (d.set j account) := by
  obtain ⟨old, hold, hemail, hsecret⟩ := h
  exact ⟨old, (Function.update_of_ne hj _ _).trans hold, hemail, hsecret⟩

/-- The answer to a change of a password that has been committed, whether its response could be
read or not. -/
def Committed (answer : Except Exc UserBody) : Prop :=
  answer.isOk = true ∨ answer = .error missingGreenlet

/-- The call has set the password of the user. -/
def Sets (id : Uuid) (password : String) (io : UserCall × Except Exc UserBody) : Prop :=
  match io.1.request with
  | .createUser fields => fields.password = password ∧
      ∃ response, io.2 = .ok (.user response) ∧ response.id = id
  | .changePassword j request => j = id ∧ request.newPassword = password ∧ Committed io.2
  | _ => False

/-- A call that sets a password leaves the account with what is read of it. -/
theorem Allows.sets {call : UserCall} {answer : Except Exc UserBody} {password : String}
    (h : Allows config read d call answer d') (hsets : Sets id password (call, answer)) :
    ∃ k email, read password = .ok k ∧ HasSecret id email k d' := by
  obtain ⟨time, salt, scan, request⟩ := call
  cases request with
  | createUser fields =>
    obtain ⟨rfl, response, hresponse, rfl⟩ := hsets
    cases (show answer = .ok (.user response) from hresponse)
    rcases h with ⟨-, -, hanswer⟩ | ⟨-, hread⟩
    · cases hanswer
    · cases hk : read fields.password with
      | error message =>
        rw [hk] at hread
        cases hread.1
      | ok k =>
        rw [hk] at hread
        obtain ⟨id, -, hanswer, rfl⟩ := hread
        cases hanswer
        exact ⟨k, _, rfl, hasSecret_set_self rfl rfl⟩
  | changePassword j request =>
    obtain ⟨rfl, rfl, hcommitted⟩ := hsets
    have habout : d.About j answer d' _ := h
    unfold About at habout
    -- an answer that refuses the change is neither a response nor the error of an expired column
    have hrefused : ∀ e, e ≠ missingGreenlet → answer ≠ .error e := by
      rintro e he rfl
      rcases hcommitted with hok | herror
      · cases hok
      · exact he (Except.error.inj herror)
    cases haccount : d j with
    | none =>
      rw [haccount] at habout
      exact absurd habout.1 (hrefused userNotFound (by decide))
    | some account =>
      rw [haccount] at habout
      cases hk : read request.newPassword with
      | error message =>
        simp only [hk] at habout
        exact absurd habout.1 (hrefused (.valueError message) (by simp [missingGreenlet]))
      | ok k =>
        simp only [hk] at habout
        obtain ⟨-, rfl⟩ := habout
        exact ⟨k, _, rfl, hasSecret_set_self rfl rfl⟩
  | _ => cases hsets

/-- The call has not changed the password of the account. -/
def Spares (id : Uuid) (io : UserCall × Except Exc UserBody) : Prop :=
  ∀ request, io.1.request = .changePassword id request → ¬Committed io.2

omit [DecidableEq κ] in
theorem About.keeps {found : Account κ → Prop} {answer : Except Exc UserBody} {j : Uuid}
    (h : d.About j answer d' found) (hkeep : HasSecret id email k d)
    (hfound : ∀ account, d j = some account → found account → HasSecret id email k d') :
    HasSecret id email k d' := by
  unfold About at h
  cases haccount : d j with
  | none =>
    rw [haccount] at h
    rw [h.2]
    exact hkeep
  | some account =>
    rw [haccount] at h
    exact hfound account haccount h

omit [DecidableEq κ] in
/-- Writing an account under the address and the secret that it has keeps all secrets. -/
theorem HasSecret.rewrite (h : HasSecret id email k d) {j : Uuid} {account new : Account κ}
    (haccount : d j = some account) (hemail : new.email = account.email)
    (hsecret : new.secret = account.secret) : HasSecret id email k (d.set j new) := by
  by_cases hj : id = j
  · subst hj
    obtain ⟨old, hold, hemail', hsecret'⟩ := h
    cases hold.symm.trans haccount
    exact hasSecret_set_self (hemail.trans hemail') (hsecret.trans hsecret')
  · exact h.set_other hj new

theorem Allows.keeps {call : UserCall} {answer : Except Exc UserBody}
    (h : Allows config read d call answer d') (hspares : Spares id (call, answer))
    (hkeep : HasSecret id email k d) : HasSecret id email k d' := by
  obtain ⟨time, salt, scan, request⟩ := call
  cases request with
  | createUser fields =>
    rcases h with ⟨-, rfl, -⟩ | ⟨-, hread⟩
    · exact hkeep
    · cases hk : read fields.password with
      | error message =>
        rw [hk] at hread
        rw [hread.2]
        exact hkeep
      | ok k' =>
        rw [hk] at hread
        obtain ⟨j, hj, -, rfl⟩ := hread
        refine hkeep.set_other ?_ _
        rintro rfl
        obtain ⟨old, hold, -⟩ := hkeep
        cases hold.symm.trans hj
  | listUsers tenantId activeOnly query =>
    rw [h.1]
    exact hkeep
  | getUserByEmail email =>
    rw [h.1]
    exact hkeep
  | getUser j =>
    refine About.keeps h hkeep fun account _ hfound => ?_
    rw [hfound.2]
    exact hkeep
  | updateUser j update =>
    refine About.keeps h hkeep fun account haccount hfound => ?_
    rw [hfound.2]
    exact hkeep.rewrite haccount rfl rfl
  | deactivateUser j =>
    refine About.keeps h hkeep fun account haccount hfound => ?_
    rw [hfound.2]
    exact hkeep.rewrite haccount rfl rfl
  | changePassword j request =>
    refine About.keeps h hkeep fun account haccount hfound => ?_
    cases hk : read request.newPassword with
    | error message =>
      simp only [hk] at hfound
      rw [hfound.2]
      exact hkeep
    | ok k' =>
      simp only [hk] at hfound
      obtain ⟨hanswer, rfl⟩ := hfound
      refine hkeep.set_other ?_ _
      rintro rfl
      apply hspares request rfl
      rcases hanswer with rfl | rfl
      · exact Or.inr rfl
      · exact Or.inl rfl
  | getToken request =>
    rw [h.1]
    exact hkeep

theorem tokenFor_isOk_iff {time : Datetime} {password : String} {account : Account κ} :
    (tokenFor config read time password id account).isOk = true ↔
      read password = .ok account.secret := by
  cases hread : read password with
  | error message =>
    rw [tokenFor, hread]
    exact iff_of_false Bool.false_ne_true (by simp)
  | ok k =>
    rw [tokenFor_of_ok hread]
    by_cases hk : k = account.secret
    · rw [if_pos hk, hk]
      exact iff_of_true rfl rfl
    · rw [if_neg hk]
      exact iff_of_false Bool.false_ne_true fun hsame => hk (Except.ok.inj hsame)

/-- A token is given out for an active user and the secret of the account. -/
theorem Allows.token_iff {a : Accounts} {secret : Uuid → κ}
    (hrep : Represents config.bcrypt read secret a.users d) (hsecret : HasSecret id email k d)
    {call : UserCall} {login : TokenRequest} (hcall : call.request = .getToken login)
    (hemail : login.email = email) {answer : Except Exc UserBody}
    (h : Allows config read d call answer d') : answer.isOk = true ↔
      (∃ user ∈ a.users.rows, user.id = id ∧ user.isActive = true) ∧ read login.password = .ok k := by
  obtain ⟨account, haccount, rfl, rfl⟩ := hsecret
  obtain ⟨user, hmem, rfl, rfl⟩ := hrep.account_iff.mp haccount
  have hactive : (∃ r ∈ a.users.rows, r.id = user.id ∧ r.isActive = true) ↔
      user.isActive = true := by
    constructor
    · rintro ⟨r, hr, hid, hactive⟩
      rwa [← List.inj_on_of_nodup_map a.users.unique hr hmem hid]
    · exact fun hactive => ⟨user, hmem, rfl, hactive⟩
  rw [hactive]
  unfold Allows at h
  rw [hcall] at h
  obtain ⟨-, ⟨id, found, hfound, hsame, hfoundActive, rfl⟩ | ⟨hnone, rfl⟩⟩ := h
  · obtain ⟨r, hr, rfl, rfl⟩ := hrep.account_iff.mp hfound
    have huser : r = user := List.inj_on_of_nodup_map a.users.distinct hr hmem (hsame.trans hemail)
    subst huser
    rw [tokenFor_isOk_iff]
    exact (and_iff_right hfoundActive).symm
  · have hinactive := hnone user.id _ haccount hemail.symm
    refine iff_of_false Bool.false_ne_true fun hboth => ?_
    rw [show user.isActive = false from hinactive] at hboth
    exact Bool.false_ne_true hboth.1

/-- Whatever came before and whatever followed, a token is given out exactly for the password
that was set last, as far as the library reads it, and only while the user is active. -/
theorem token_for_last_password [Inhabited κ] (hreads : config.bcrypt.Reads read) (w : World)
    (before later : List UserCall) (setter : UserCall) {password : String} {user : User}
    (hsets : Sets user.id password (setter, (setter.run config (after config w before)).1))
    (huser : user ∈ (after config w (before ++ [setter])).users.rows)
    (hlater : ∀ io ∈ Simulation.answers (UserCall.run config)
      (after config w (before ++ [setter])) later, Spares user.id io)
    (call : UserCall) {login : TokenRequest} (hcall : call.request = .getToken login)
    (hemail : login.email = user.email) :
    (call.run config (after config w (before ++ [setter] ++ later))).1.isOk = true ↔
      (∃ row ∈ (after config w (before ++ [setter] ++ later)).users.rows,
        row.id = user.id ∧ row.isActive = true) ∧ read login.password = read password := by
  obtain ⟨d₀, -, hstands₀⟩ := transcript_allowed hreads w before
  obtain ⟨d₁, hallows₁, hstands₁⟩ := run_answers hreads hstands₀ setter
  obtain ⟨k, email, hread, hsecret⟩ := hallows₁.sets hsets
  have hafter : after config w (before ++ [setter]) =
      (setter.run config (after config w before)).2 := by
    rw [after, List.foldl_append]
    rfl
  rw [← hafter] at hstands₁
  have haddress : email = user.email := by
    obtain ⟨secret, hrep⟩ := hstands₁
    obtain ⟨account, haccount, rfl, -⟩ := hsecret
    cases (hrep.of_mem huser).symm.trans haccount
    rfl
  rw [haddress] at hsecret
  obtain ⟨d₂, hruns, hstands₂⟩ := (simulates hreads).run hstands₁ later
  have hsecret₂ : HasSecret user.id user.email k d₂ :=
    hruns.invariant (fun _ _ _ _ hstep hspares h => Allows.keeps hstep hspares h) hlater hsecret
  have hfinal : after config w (before ++ [setter] ++ later) =
      later.foldl (Simulation.step (UserCall.run config)) (after config w (before ++ [setter])) :=
    List.foldl_append
  rw [← hfinal] at hstands₂
  obtain ⟨d₃, hallows₃, -⟩ := run_answers hreads hstands₂ call
  obtain ⟨secret, hrep⟩ := hstands₂
  rw [hread]
  exact hallows₃.token_iff hrep hsecret₂ hcall hemail

end Password

theorem newLogin_fits : 1 ≤ "u@acme.org".length ∧ "u@acme.org".length ≤ 255 := by decide

theorem newLogin_nonempty : 1 ≤ "newpassword".length := by decide

def newLogin : TokenRequest := ⟨"u@acme.org", "newpassword", newLogin_fits, newLogin_nonempty⟩

def loginCall : UserCall := ⟨sampleNextNoon, "", .stored, .getToken newLogin⟩

/-- The new password gets a token. -/
theorem token_for_last_password_sample : (loginCall.run hashedConfig
    (after hashedConfig sampleWorld ([createCall] ++ [changeCall] ++ []))).1.isOk = true := by
  have hset : (changeCall.run hashedConfig (after hashedConfig sampleWorld [createCall])).1 =
      .error missingGreenlet := by rfl
  have hsets : Sets 0 "newpassword" (changeCall, .error missingGreenlet) := ⟨rfl, rfl, Or.inr rfl⟩
  refine (token_for_last_password sampleBcrypt_reads sampleWorld [createCall] [] changeCall
    (hset ▸ hsets) List.mem_cons_self (fun io hio => absurd hio List.not_mem_nil) loginCall
    rfl rfl).mpr ⟨?_, rfl⟩
  exact ⟨_, List.mem_cons_self, rfl, rfl⟩

end Directory
end Dox
