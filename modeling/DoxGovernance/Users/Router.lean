import DoxGovernance.Auth.Service
import DoxGovernance.Gateway.Listings
import DoxGovernance.Registry.Router

/-!
# The routes of users and tokens

The routes of the user service answer with the columns of a user other than the hash of the
password, and map a missing user to 404 and a taken address to 409. An update and a change of the
password answer with an error once they have changed the row. The route of the tokens answers
with a token.
-/

set_option autoImplicit false

namespace Dox
open Effect

structure ChangePasswordRequest where
  newPassword : String
  newPasswordLong : 8 ≤ newPassword.length

structure TokenRequest where
  email : String
  password : String
  emailFits : 1 ≤ email.length ∧ email.length ≤ 255
  passwordNonempty : 1 ≤ password.length

inductive UserRequest where
  | createUser (create : UserCreate)
  | listUsers (tenantId : String) (activeOnly : Bool) (query : PageQuery 200)
  | getUserByEmail (email : String)
  | getUser (userId : Uuid)
  | updateUser (userId : Uuid) (update : UserUpdate)
  | deactivateUser (userId : Uuid)
  | changePassword (userId : Uuid) (request : ChangePasswordRequest)
  | getToken (request : TokenRequest)

inductive UserBody where
  | user (response : UserResponse)
  | users (listing : Listing UserResponse)
  | token (response : TokenResponse)
  | noContent

/-- `except NotFoundError: raise HTTPException(404, "User not found")`. -/
def orUserNotFound {α : Type} (call : AccountService α) : AccountService α :=
  recover call fun e => raise (notFoundAs "User not found" e)

/-- The user as the routes show it. -/
def UserRequest.shown (call : AccountService User) : AccountService UserBody := do
  return .user (.ofUser (← call))

/-- The user after a commit. An `UPDATE` is sent only when it changes a column; it leaves
`updated_at` expired, which the response reads. -/
def UserRequest.committed (before : Option User) (call : AccountService User) :
    AccountService UserBody := do
  let user ← call
  if before = some user then return .user (.ofUser user) else raise missingGreenlet

def UserRequest.handle (config : AuthConfig) (salt : String) (scan : Scan User) :
    UserRequest → AccountService UserBody
  | createUser create => shown (recover (UserService.create config.bcrypt salt create)
      fun e => raise (conflictAs e))
  | listUsers tenantId activeOnly query => do
    return .users (← Dox.listUsers scan tenantId activeOnly query)
  | getUserByEmail email => shown (orUserNotFound (UserService.getByEmail email))
  | getUser userId => shown (orUserNotFound (UserService.get userId))
  | updateUser userId update => do
    committed (← gets fun a => a.users.find? userId)
      (orUserNotFound (UserService.update userId update))
  | deactivateUser userId => do
    orUserNotFound (UserService.deactivate userId)
    return .noContent
  | changePassword userId request => do
    committed (← gets fun a => a.users.find? userId)
      (orUserNotFound (UserService.changePassword config.bcrypt salt userId request.newPassword))
  | getToken request => do
    return .token (← AuthService.getToken config request.email request.password)

/-- A request with its time, the salt that it would hash with and the order it reads rows in. -/
structure UserCall where
  time : Datetime
  salt : String
  scan : Scan User := .stored
  request : UserRequest

def UserCall.run (config : AuthConfig) (a : Accounts) (call : UserCall) :
    Except Exc UserBody × Accounts :=
  call.request.handle config call.salt call.scan (a.at call.time)

end Dox
