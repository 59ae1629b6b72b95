import DoxGovernance.Auth.Dependencies
import DoxGovernance.Users.Service
import Mathlib.Data.Nat.Digits.Defs

/-!
# Credentials and access tokens

A token is issued to an active user whose password is right. Its claims are the identifier,
the tenant and the role of the row at that moment, and a time of expiry in seconds. Signing
and checking a token is a parameter, together with what it is relied on for.
-/

set_option autoImplicit false

namespace Dox

/-- The token library: `encode` signs claims, and `decode` at an instant checks a token. -/
structure Jwt where
  encode : TokenPayload → String
  decode : Datetime → JwtDecode

/-- The claims have not expired. -/
def TokenPayload.Live (payload : TokenPayload) (t : Datetime) : Prop := t.timegm ≤ payload.exp

instance (payload : TokenPayload) (t : Datetime) : Decidable (payload.Live t) :=
  inferInstanceAs (Decidable (_ ≤ _))

/-- A signed token decodes to its claims until they expire, and to nothing after that. -/
def Jwt.Correct (jwt : Jwt) : Prop :=
  ∀ t payload, jwt.decode t (jwt.encode payload) =
    if payload.Live t then .ok payload else .error "Signature has expired."

structure TokenResponse where
  accessToken : String
  tokenType : String := "bearer"
  expiresIn : Nat

structure AuthConfig where
  bcrypt : Bcrypt
  jwt : Jwt
  accessTokenExpireMinutes : Nat := 30

/-- What `create_access_token` puts into the token. -/
def AuthConfig.claims (config : AuthConfig) (issue : Issue) : TokenPayload where
  sub := Text.uuid issue.user.id
  tenantId := issue.user.tenantId
  role := issue.user.role.value
  exp := issue.time.timestampAfter config.accessTokenExpireMinutes

def AuthConfig.token (config : AuthConfig) (issue : Issue) : String :=
  config.jwt.encode (config.claims issue)

namespace AuthService
variable (config : AuthConfig)

def authenticate (email password : String) : AccountService (Option User) := fun a =>
  match a.users.rows.find? fun user => user.email = email && user.isActive with
  | none => (.ok none, a)
  | some user =>
    match config.bcrypt.checkpw password user.hashedPassword with
    | .error message => (.error (.valueError message), a)
    | .ok verified => (.ok (if verified then some user else none), a)

def createToken (user : User) : AccountService TokenResponse :=
  Effect.change fun a =>
    ({ accessToken := config.token ⟨user, a.clock⟩
       expiresIn := config.accessTokenExpireMinutes * 60 },
      {a with issued := a.issued ++ [⟨user, a.clock⟩]})

/-- `get_token`, the route of the tokens. -/
def getToken (email password : String) : AccountService TokenResponse := do
  match ← authenticate config email password with
  | none => Effect.raise (.httpException 401 "Invalid credentials")
  | some user => createToken config user

/-- A call for a token leaves everything as it is, or issues one to an active user as stored. -/
theorem getToken_cases (email password : String) (a : Accounts) :
    (∃ e, getToken config email password a = (.error e, a)) ∨
      ∃ response, ∃ user ∈ a.users.rows, user.isActive = true ∧
        getToken config email password a =
          (.ok response, {a with issued := a.issued ++ [⟨user, a.clock⟩]}) := by
  cases hfind : a.users.rows.find? fun user => user.email = email && user.isActive with
  | none =>
    have hauth : authenticate config email password a = (.ok none, a) := by
      simp only [authenticate, hfind]
    exact Or.inl ⟨_, Effect.bind_ok hauth⟩
  | some user =>
    cases hcheck : config.bcrypt.checkpw password user.hashedPassword with
    | error message =>
      have hauth : authenticate config email password a = (.error (.valueError message), a) := by
        simp only [authenticate, hfind, hcheck]
      exact Or.inl ⟨_, Effect.bind_error hauth⟩
    | ok verified =>
      have hauth : authenticate config email password a =
          (.ok (if verified then some user else none), a) := by
        simp only [authenticate, hfind, hcheck]
      cases verified with
      | false => exact Or.inl ⟨_, Effect.bind_ok hauth⟩
      | true =>
        have hactive := List.find?_some hfind
        rw [Bool.and_eq_true] at hactive
        exact Or.inr ⟨_, user, List.mem_of_find?_eq_some hfind, hactive.2, Effect.bind_ok hauth⟩

end AuthService

/-! ### The dependencies of `common.auth.deps`, which no router of the gateway uses -/

namespace StoredUser

def getCurrentUser (jwt : JwtDecode) (token : Option String) : AccountService User := fun a =>
  match token with
  | none => (.error (.httpException 403 "Not authenticated"), a)
  | some token =>
    match decodeAccessToken jwt token with
    | .error e => (.error (.httpException 401 e.str), a)
    | .ok payload =>
      match a.users.rows.find? fun user => Text.uuid user.id = payload.sub && user.isActive with
      | some user => (.ok user, a)
      | none => (.error (.httpException 401 "User not found or inactive"), a)

def requireRole (jwt : JwtDecode) (roles : List UserRole) (token : Option String) :
    AccountService User := do
  let user ← getCurrentUser jwt token
  if user.role ∈ roles then return user
  else Effect.raise (.httpException 403 "Insufficient permissions")

/-- Whoever they admit is active with a stored role that is allowed. -/
theorem requireRole_admits {jwt : JwtDecode} {roles : List UserRole} {token : Option String}
    {a a' : Accounts} {user : User} (h : requireRole jwt roles token a = (.ok user, a')) :
    user ∈ a.users.rows ∧ user.isActive = true ∧ user.role ∈ roles := by
  obtain ⟨found, t, hfound, hrole⟩ := Effect.bind_eq_ok.mp h
  have hmem : found ∈ a.users.rows ∧ found.isActive = true := by
    unfold getCurrentUser at hfound
    split at hfound
    · cases hfound
    · split at hfound
      · cases hfound
      · split at hfound
        · rename_i hfind
          cases hfound
          have hactive := List.find?_some hfind
          rw [Bool.and_eq_true] at hactive
          exact ⟨List.mem_of_find?_eq_some hfind, hactive.2⟩
        · cases hfound
  split at hrole
  · cases hrole
    exact ⟨hmem.1, hmem.2, by assumption⟩
  · cases hrole

end StoredUser

/-! ### Libraries for samples -/

namespace SampleToken

/-- A text with every character marked, up to an end mark. -/
def markField (s : String) : List Char := s.toList.flatMap (fun c => ['+', c]) ++ ['.']

def readField : List Char → Option (List Char × List Char)
  | '.' :: rest => some ([], rest)
  | '+' :: c :: rest => (readField rest).map fun (s, tail) => (c :: s, tail)
  | _ => none

theorem readField_markField (s : String) (tail : List Char) :
    readField (markField s ++ tail) = some (s.toList, tail) := by
  unfold markField
  induction s.toList with
  | nil => rfl
  | cons c cs ih =>
    have hcons : (c :: cs).flatMap (fun c => ['+', c]) ++ ['.'] ++ tail =
        '+' :: c :: (cs.flatMap (fun c => ['+', c]) ++ ['.'] ++ tail) := rfl
    rw [hcons, readField, ih, Option.map_some]

def digit (d : Nat) : Char := Char.ofNat (48 + d)

/-- The sign and the decimal digits, the least significant first. -/
def markInt (i : Int) : List Char :=
  (if i < 0 then '-' else '+') :: (Nat.digits 10 i.natAbs).map digit

def readInt : List Char → Int
  | [] => 0
  | sign :: digits =>
    let n : Nat := Nat.ofDigits 10 (digits.map fun c => c.toNat - 48)
    if sign = '-' then -n else n

theorem toNat_digit : ∀ d < 10, (digit d).toNat - 48 = d := by decide

theorem readInt_markInt (i : Int) : readInt (markInt i) = i := by
  have hdigits : ((Nat.digits 10 i.natAbs).map digit).map (fun c => c.toNat - 48) =
      Nat.digits 10 i.natAbs := by
    rw [List.map_map]
    conv_rhs => rw [← List.map_id (Nat.digits 10 i.natAbs)]
    apply List.map_congr_left
    intro d hd
    exact toNat_digit d (Nat.digits_lt_base (by decide) hd)
  unfold readInt markInt
  simp only [hdigits, Nat.ofDigits_digits]
  split
  · rw [if_pos rfl]
    omega
  · rw [if_neg (by decide)]
    omega

def encode (payload : TokenPayload) : String :=
  String.ofList (markField payload.sub ++ (markField payload.tenantId ++
    (markField payload.role ++ markInt payload.exp)))

/-- The claims of a token, when it is one. -/
def read (token : String) : Option TokenPayload := do
  let (sub, rest) ← readField token.toList
  let (tenantId, rest) ← readField rest
  let (role, rest) ← readField rest
  return ⟨String.ofList sub, String.ofList tenantId, String.ofList role, readInt rest⟩

theorem read_encode (payload : TokenPayload) : read (encode payload) = some payload := by
  simp only [read, encode, String.toList_ofList, readField_markField, readInt_markInt,
    Option.bind_eq_bind, Option.bind_some, String.ofList_toList, Option.pure_def]

end SampleToken

/-- Tokens that carry their claims in the open. -/
def sampleJwt : Jwt where
  encode := SampleToken.encode
  decode t token :=
    match SampleToken.read token with
    | none => .error "Not enough segments"
    | some payload => if payload.Live t then .ok payload else .error "Signature has expired."

theorem sampleJwt_correct : sampleJwt.Correct := by
  intro t payload
  simp only [sampleJwt, SampleToken.read_encode]

def sampleConfig : AuthConfig where
  bcrypt :=
    { hashpw salt plain := .ok (salt ++ plain)
      checkpw plain hashed := .ok (plain.toList <:+ hashed.toList) }
  jwt := sampleJwt

def sampleUser : UserCreate where
  email := "u@acme.org"
  password := "password"
  tenantId := "acme"

def sampleRow : User where
  id := 0
  email := "u@acme.org"
  hashedPassword := "saltpassword"
  tenantId := "acme"
  role := .viewer
  isActive := true
  createdAt := sampleNoon

end Dox
