import DoxGovernance.Accounts
import DoxGovernance.Lib.Text

/-!
# The user service

Users are created with a unique email address, read, listed, and changed: an update sets the
fields that it names, a deactivation clears the active flag, and a change of password stores a
new hash. The hashing of passwords is a parameter.
-/

set_option autoImplicit false

namespace Dox

/-- The password library: the hash of a password under a salt, and the comparison with a hash. -/
structure Bcrypt where
  hashpw : String → String → Except String String
  checkpw : String → String → Except String Bool

structure UserCreate where
  email : String
  password : String
  tenantId : String
  role : UserRole := .viewer
  emailNonempty : 1 ≤ email.length := by decide
  emailFits : email.length ≤ 255 := by decide
  passwordLong : 8 ≤ password.length := by decide

structure UserUpdate where
  role : Option UserRole := none
  isActive : Option Bool := none

namespace UserService
variable (bcrypt : Bcrypt)

/-- `_get_by_email`. -/
def findByEmail (email : String) : AccountService (Option User) :=
  Effect.gets fun a => a.users.rows.find? fun user => user.email = email

def newUser (now : Datetime) (hashed : String) (create : UserCreate) (id : Uuid) : User where
  id := id
  email := create.email
  hashedPassword := hashed
  tenantId := create.tenantId
  role := create.role
  isActive := true
  createdAt := now

def insert (hashed : String) (create : UserCreate) : AccountService User := fun a =>
  match a.users.add? (newUser a.clock hashed create) fun _ => rfl with
  | some users => (.ok (newUser a.clock hashed create a.users.next), {a with users})
  | none => (.error (.integrityError "uq_users_email"), a)

def hashPassword (salt plain : String) : AccountService String :=
  match bcrypt.hashpw salt plain with
  | .ok hashed => return hashed
  | .error message => Effect.raise (.valueError message)

def create (salt : String) (create : UserCreate) : AccountService User := do
  match ← findByEmail create.email with
  | some _ => Effect.raise (.conflict s!"User with email '{create.email}' already exists")
  | none => insert (← hashPassword bcrypt salt create.password) create

def get (userId : Uuid) : AccountService User := fun a =>
  match a.users.find? userId with
  | some user => (.ok user, a)
  | none => (.error (.notFound s!"User {Text.uuid userId} not found"), a)

def getByEmail (email : String) : AccountService User := do
  match ← findByEmail email with
  | some user => return user
  | none => Effect.raise (.notFound s!"User '{email}' not found")

def listForTenant (scan : Scan User) (tenantId : String) (activeOnly : Bool)
    (limit offset : Nat) : AccountService (List User) :=
  Effect.gets fun a => page offset limit (orderByDesc (·.createdAt)
    (a.users.select scan fun user => user.tenantId = tenantId && (!activeOnly || user.isActive)))

def patched (update : UserUpdate) (user : User) : User :=
  {user with
    role := update.role.getD user.role
    isActive := update.isActive.getD user.isActive}

def update (userId : Uuid) (update : UserUpdate) : AccountService User := do
  let user ← get userId
  Effect.change fun a => (patched update user,
    {a with users := a.users.update userId (patched update) (fun _ => rfl) fun _ => rfl})

def deactivate (userId : Uuid) : AccountService Unit := do
  let _ ← get userId
  Effect.change fun a => ((),
    {a with users := a.users.update userId ({· with isActive := false}) (fun _ => rfl) fun _ => rfl})

def changePassword (salt : String) (userId : Uuid) (newPassword : String) :
    AccountService User := do
  let user ← get userId
  let hashed ← hashPassword bcrypt salt newPassword
  Effect.change fun a => ({user with hashedPassword := hashed},
    {a with users :=
      a.users.update userId ({· with hashedPassword := hashed}) (fun _ => rfl) fun _ => rfl})

theorem get_of_find {userId : Uuid} {user : User} {a : Accounts}
    (h : a.users.find? userId = some user) : get userId a = (.ok user, a) := by
  simp only [get, h]

theorem get_of_none {userId : Uuid} {a : Accounts} (h : a.users.find? userId = none) :
    get userId a = (.error (.notFound s!"User {Text.uuid userId} not found"), a) := by
  simp only [get, h]

end UserService
end Dox
