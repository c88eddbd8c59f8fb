import KungFuChess.Gateway.RoomManager
import KungFuChess.Gateway.Usernames
import KungFuChess.Library.ExpiringStore

/-!
# Accounts and sessions

The `/auth` routes of the gateway: registration, login, the current user and logout.
Requests run in threads, so what one of them does to the database and to the session
store in two accesses can have others in between: a registration first looks for the
name and later commits the new row, a login first checks the password and later writes
the session. Each such part is a step.

Names are compared after NFKC normalization and case folding. The Unicode database and
the password hasher are parameters.
-/

set_option autoImplicit false

namespace KungFuChess

open Protocol

/-- What the gateway takes from the language and from the password hasher. -/
structure AuthLibraries (Salt Hash : Type) extends UnicodeData where
  casefold : PythonString → PythonString
  /-- `hash_password`, with the salt the hasher draws. -/
  hashPassword : Salt → PythonString → Hash
  /-- `verify_password`, which is false where the hasher raises. -/
  verifyPassword : Hash → PythonString → Bool

/-! ## Credentials -/

/-- `password_is_valid`. -/
def UnicodeData.passwordIsValid (unicode : UnicodeData) (password : PythonString) :
    Except String PythonString := do
  require (¬ (password.length < 10 ∨ password.length > 128))
    "Password must be between 10 and 128 characters"
  require (unicode.strip password ≠ []) "Password must not be blank"
  return password

/-- A body both validators have passed. -/
structure CredentialsRequest (unicode : UnicodeData) where
  username : PythonString
  password : PythonString
  usernameIsValid : ∃ given, unicode.validateUsername given = .ok username
  passwordIsValid : unicode.passwordIsValid password = .ok password

namespace CredentialsRequest

variable {unicode : UnicodeData}

theorem passwordIsValid_eq {given password : PythonString}
    (accepted : unicode.passwordIsValid given = .ok password) : password = given := by
  obtain ⟨_, _, onward⟩ := Except.bind_eq_ok.mp accepted
  obtain ⟨_, _, returned⟩ := Except.bind_eq_ok.mp onward
  exact (Except.ok.inj returned).symm

/-- The model of the body: each validator runs on its field, and the errors of both are
reported. -/
def validate (unicode : UnicodeData) (username password : PythonString) :
    Except (List (String × String)) (CredentialsRequest unicode) :=
  match name : unicode.validateUsername username, word : unicode.passwordIsValid password with
  | .ok display, .ok accepted =>
      .ok ⟨display, accepted, ⟨username, name⟩, passwordIsValid_eq word ▸ word⟩
  | .error error, .ok _ => .error [("username", error)]
  | .ok _, .error error => .error [("password", error)]
  | .error first, .error second => .error [("username", first), ("password", second)]

theorem validate_eq_ok {username password : PythonString} {credentials : CredentialsRequest unicode}
    (accepted : validate unicode username password = .ok credentials) :
    unicode.validateUsername username = .ok credentials.username ∧
      credentials.password = password := by
  unfold validate at accepted
  split at accepted
  · next display word name valid =>
      cases accepted
      exact ⟨name, passwordIsValid_eq valid⟩
  · cases accepted
  · cases accepted
  · cases accepted

end CredentialsRequest

/-! ## The tables -/

/-- A new `User` before it is committed. -/
structure UserDraft (Hash : Type) where
  username : PythonString
  usernameNormalized : PythonString
  passwordHash : Hash

/-- A row of the table `users`. -/
structure User (Hash : Type) extends UserDraft Hash where
  id : UserId
  rating : Int := 1200

/-- What the routes show of a user. -/
structure UserResponse where
  id : UserId
  username : PythonString
  rating : Int
  deriving DecidableEq

def User.response {Hash : Type} (user : User Hash) : UserResponse :=
  { id := user.id, username := user.username, rating := user.rating }

/-- The settings the routes read. -/
structure AuthSettings where
  sessionTtlSeconds : Nat := 3600
  atLeastAMinute : 60 ≤ sessionTtlSeconds := by decide

/-- The cookie a login sets. -/
structure SessionCookie where
  value : String
  maxAge : Nat
  deriving DecidableEq

inductive AuthResponse where
  | created (user : UserResponse)
  | loggedIn (user : UserResponse) (cookie : SessionCookie)
  | current (user : UserResponse)
  | loggedOut
  | refused (status : Nat) (detail : String)
  /-- The body has errors, by field. -/
  | invalid (errors : List (String × String))
  /-- An exception no handler names. -/
  | internalServerError
  deriving DecidableEq

namespace AuthResponse

def alreadyRegistered : AuthResponse := .refused 409 "Username is already registered"
def invalidCredentials : AuthResponse := .refused 401 "Invalid username or password"
def unavailable : AuthResponse := .refused 503 "Authentication service unavailable"
def notAuthenticated : AuthResponse := .refused 401 "Not authenticated"

end AuthResponse

/-- What becomes of a commit and the refresh after it. -/
inductive CommitOutcome where
  | refreshed
  /-- The database refuses the commit for another reason than a constraint. -/
  | commitFails
  | refreshFails
  deriving DecidableEq

/-- The database, the session store and the requests between their two accesses. -/
structure AuthService (Hash : Type) where
  users : List (User Hash) := []
  sessions : ExpiringStore String UserId := {}
  /-- Registrations that have found no row with their name. -/
  drafts : List (UserDraft Hash) := []
  /-- Logins that have been authenticated. -/
  logins : List (User Hash) := []

/-- One access of a request, or something else that happens to the stores. A request whose
store fails has `fails` set. -/
inductive AuthStep (Salt : Type) where
  | register (username password : PythonString) (salt : Salt) (fails : Bool)
  | commit (place : Nat) (id : UserId) (outcome : CommitOutcome)
  | login (username password : PythonString) (fails : Bool)
  | createSession (place : Nat) (token : String) (fails : Bool)
  | me (token : String) (fails : Bool)
  | logout (token : String) (fails : Bool)
  /-- A match has ended. -/
  | rate (id : UserId) (rating : Int)
  | wait (seconds : Nat)

/-- The key of a session. -/
def sessionKey (token : String) : String := "ctd:session:" ++ token

theorem sessionKey_inj {first second : String} :
    sessionKey first = sessionKey second ↔ first = second := by
  unfold sessionKey
  rw [← String.toList_inj, ← String.toList_inj, String.toList_append, String.toList_append,
    List.append_cancel_left_eq]

namespace AuthLibraries

variable {Salt Hash : Type} (libraries : AuthLibraries Salt Hash)

/-- `normalize_username`. -/
def normalizeUsername (username : PythonString) : PythonString :=
  libraries.casefold (libraries.normalizeNFKC (libraries.strip username))

/-- The row a registration would commit. -/
def draft (credentials : CredentialsRequest libraries.toUnicodeData) (salt : Salt) :
    UserDraft Hash :=
  { username := credentials.username
    usernameNormalized := libraries.normalizeUsername credentials.username
    passwordHash := libraries.hashPassword salt credentials.password }

end AuthLibraries

/-! ## The routes -/

namespace AuthService

variable {Salt Hash : Type} (libraries : AuthLibraries Salt Hash) (settings : AuthSettings)

/-- The row with a normalized name. -/
def findByName (service : AuthService Hash) (normalized : PythonString) : Option (User Hash) :=
  service.users.find? fun user => user.usernameNormalized = normalized

/-- `register_user` up to the row it adds. -/
def register (service : AuthService Hash) (username password : PythonString) (salt : Salt)
    (fails : Bool) : Option AuthResponse × AuthService Hash :=
  match CredentialsRequest.validate libraries.toUnicodeData username password with
  | .error errors => (some (.invalid errors), service)
  | .ok credentials =>
      -- this query stands outside the try block of the function
      if fails then (some .internalServerError, service)
      else if (service.findByName (libraries.normalizeUsername credentials.username)).isSome then
        (some .alreadyRegistered, service)
      else (none, { service with drafts := service.drafts ++ [libraries.draft credentials salt] })

/-- The columns `username` and `username_normalized` hold 32 characters. -/
def Fits (draft : UserDraft Hash) : Prop :=
  draft.username.length ≤ 32 ∧ draft.usernameNormalized.length ≤ 32

instance (draft : UserDraft Hash) : Decidable (Fits draft) :=
  inferInstanceAs (Decidable (_ ∧ _))

/-- A row that the primary key or the unique name keeps a new row from joining. -/
def Clashes (draft : UserDraft Hash) (id : UserId) (user : User Hash) : Prop :=
  user.usernameNormalized = draft.usernameNormalized ∨ user.id = id

instance (draft : UserDraft Hash) (id : UserId) (user : User Hash) :
    Decidable (Clashes draft id user) :=
  inferInstanceAs (Decidable (_ ∨ _))

/-- `register_user` from the commit on. -/
def commit (service : AuthService Hash) (place : Nat) (id : UserId) (outcome : CommitOutcome) :
    Option AuthResponse × AuthService Hash :=
  match service.drafts[place]? with
  | none => (none, service)
  | some draft =>
      let finished := { service with drafts := service.drafts.eraseIdx place }
      let user : User Hash := { draft with id := id }
      if outcome = .commitFails ∨ ¬ Fits draft then (some .unavailable, finished)
      else if service.users.any fun user => Clashes draft id user then
        (some .alreadyRegistered, finished)
      else
        (some (if outcome = .refreshed then .created user.response else .unavailable),
          { finished with users := service.users ++ [user] })

/-- `authenticate_user`, as the route of the login calls it. -/
def login (service : AuthService Hash) (username password : PythonString) (fails : Bool) :
    Option AuthResponse × AuthService Hash :=
  match CredentialsRequest.validate libraries.toUnicodeData username password with
  | .error errors => (some (.invalid errors), service)
  | .ok credentials =>
      if fails then (some .unavailable, service)
      else
        match service.findByName (libraries.normalizeUsername credentials.username) with
        | none => (some .invalidCredentials, service)
        | some user =>
            if libraries.verifyPassword user.passwordHash credentials.password then
              (none, { service with logins := service.logins ++ [user] })
            else (some .invalidCredentials, service)

/-- `create_session`, and the rest of the login. -/
def createSession (service : AuthService Hash) (place : Nat) (token : String) (fails : Bool) :
    Option AuthResponse × AuthService Hash :=
  match service.logins[place]? with
  | none => (none, service)
  | some user =>
      let finished := { service with logins := service.logins.eraseIdx place }
      if fails then (some .unavailable, finished)
      else
        (some (.loggedIn user.response { value := token, maxAge := settings.sessionTtlSeconds }),
          { finished with
            sessions := service.sessions.set (sessionKey token) user.id
              settings.sessionTtlSeconds })

/-- `resolve_session`. -/
def resolveSession (service : AuthService Hash) (token : String) : Option UserId :=
  if token = "" then none else service.sessions.get (sessionKey token)

/-- `get_current_user` and `authenticate_websocket`, where neither store fails. -/
def getCurrentUser (service : AuthService Hash) (token : String) : Option (User Hash) :=
  match service.resolveSession token with
  | none => none
  | some id => service.users.find? fun user => user.id = id

def me (service : AuthService Hash) (token : String) (fails : Bool) : AuthResponse :=
  match if fails then none else service.getCurrentUser token with
  | none => .notAuthenticated
  | some user => .current user.response

/-- `delete_session`, whose failure the route of the logout swallows. -/
def logout (service : AuthService Hash) (token : String) (fails : Bool) : AuthService Hash :=
  if token = "" ∨ fails then service
  else { service with sessions := service.sessions.delete (sessionKey token) }

/-- Gives a user another rating. -/
def rate (service : AuthService Hash) (id : UserId) (rating : Int) : AuthService Hash :=
  { service with
    users := service.users.map fun user =>
      if user.id = id then { user with rating := rating } else user }

/-- One step, with the response it ends in. -/
def answer (service : AuthService Hash) :
    AuthStep Salt → Option AuthResponse × AuthService Hash
  | .register username password salt fails =>
      service.register libraries username password salt fails
  | .commit place id outcome => service.commit place id outcome
  | .login username password fails => service.login libraries username password fails
  | .createSession place token fails => service.createSession settings place token fails
  | .me token fails => (some (service.me token fails), service)
  | .logout token fails => (some .loggedOut, service.logout token fails)
  | .rate id rating => (none, service.rate id rating)
  | .wait seconds => (none, { service with sessions := service.sessions.advance seconds })

def step (service : AuthService Hash) (taken : AuthStep Salt) : AuthService Hash :=
  (service.answer libraries settings taken).2

/-- The service after steps. -/
def after (steps : List (AuthStep Salt)) : AuthService Hash :=
  Trace.run (step libraries settings) {} steps

end AuthService

end KungFuChess
