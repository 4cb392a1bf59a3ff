import ApiScreens.Logging
import ApiScreens.Server.Exchange
import ApiScreens.Settings.Environment

/-! Sessions with a server. A session is refreshed if it can be and else begun again; a request that
finds it expired is sent once more. -/
namespace ApiScreens.Server
open Json (Value)

structure Session where
  access : Option String := none
  refresh : Option String := none
  deriving DecidableEq, Repr

namespace Session

def isAuthenticated (s : Session) : Bool := s.access.isSome

def shownToken : Option String → String
  | some token => "Some(" ++ Text.shown (redact token) ++ ")"
  | none => "None"

def shown (s : Session) : String :=
  "Session \x7b access_token: " ++ shownToken s.access ++ ", refresh_token: " ++
    shownToken s.refresh ++ " \x7d"

def ofReply (r : Reply) : Option Session := do
  let body ← r.json?
  if (body.get? "status").bind Value.string? = some "success" then
    let data ← body.get? "data"
    let access ← (data.get? "accessToken").bind Value.string?
    some ⟨some access, (data.get? "refreshToken").bind Value.string?⟩
  else none

end Session

def loginRequest (base : String) (c : Credentials) : Request :=
  .post (base ++ "/user/auth/login")
    (.object [("username", .string c.username), ("password", .string c.password)])

def refreshRequest (base token : String) : Request :=
  .post (base ++ "/user/auth/refresh") (.object [("refreshToken", .string token)])

def loggedIn : Except FetchError Reply → Except FetchError Session
  | .error e => .error e
  | .ok r =>
      if !r.isSuccess then .error (.unauthenticated ("login answered HTTP " ++ toString r.status))
      else match Session.ofReply r with
        | some s => .ok s
        | none => .error (.unauthenticated "login response carried no access token")

def login (w : Wire) (base : String) (c : Credentials) : Wire × Except FetchError Session :=
  let (w, answer) := w.send (loginRequest base c)
  (w, loggedIn answer)

def refreshed (token : String) : Except FetchError Reply → Option Session
  | .error _ => none
  | .ok r =>
      if r.isSuccess then
        (Session.ofReply r).map fun s => { s with refresh := s.refresh.or (some token) }
      else none

def refresh (w : Wire) (base : String) (s : Session) : Wire × Option Session :=
  match s.refresh with
  | none => (w, none)
  | some token =>
      let (w, answer) := w.send (refreshRequest base token)
      (w, refreshed token answer)

def reauthorize (w : Wire) (base : String) (credentials : Option Credentials) (s : Session) :
    Wire × Except FetchError Session :=
  match refresh w base s with
  | (w, some s) => (w, .ok s)
  | (w, none) =>
      match credentials with
      | none => (w, .error .missingCredentials)
      | some c => login w base c

def retries : Nat := 1

/-- The answer to a request with the token of the session. An answer that says the session has expired
is final only when no repetition is left. -/
def fetchWith (base : String) (credentials : Option Credentials) (url : String) :
    (left : Nat) → Wire → Session → Wire × Session × Except FetchError Reply
  | left, w, s =>
      match w.send (.get url s.access) with
      | (w, .error e) => (w, s, .error e)
      | (w, .ok r) =>
          match left, r.isUnauthorized with
          | left + 1, true =>
              match reauthorize w base credentials s with
              | (w, .ok s) => fetchWith base credentials url left w s
              | (w, .error e) => (w, s, .error e)
          | _, _ => (w, s, .ok r)

def fetch (w : Wire) (base : String) (credentials : Option Credentials) (s : Session)
    (url : String) : Wire × Session × Except FetchError Reply :=
  fetchWith base credentials url retries w s

end ApiScreens.Server
