import ApiScreens.Server.Session

/-! Access to one server: whatever is asked of it, there is a session first. The session lives from one
request to the next. -/
namespace ApiScreens.Server

structure Access where
  base : String
  credentials : Option Credentials
  session : Session := {}
  wire : Wire

namespace Access

def connect (a : Access) : Access × Except FetchError Unit :=
  if a.session.isAuthenticated then (a, .ok ())
  else match a.credentials with
    | none => (a, .error .missingCredentials)
    | some c =>
        match login a.wire a.base c with
        | (w, .ok s) => ({ a with wire := w, session := s }, .ok ())
        | (w, .error e) => ({ a with wire := w }, .error e)

def get (a : Access) (url : String) : Access × Except FetchError Reply :=
  match a.connect with
  | (a, .error e) => (a, .error e)
  | (a, .ok ()) =>
      let (w, s, answer) := fetch a.wire a.base a.credentials a.session url
      ({ a with wire := w, session := s }, answer)

def documentOf (url : String) : Except FetchError Reply → Except FetchError Document
  | .error e => .error e
  | .ok r =>
      if r.isSuccess then (Document.parse r.body url).mapError .document
      else .error (.status url r.status)

def document (a : Access) (url : String) : Access × Except FetchError Document :=
  let (a, answer) := a.get url
  (a, documentOf url answer)

def probe (a : Access) (url : String) : Access × Bool :=
  let (a, answer) := a.get url
  (a, match answer with
    | .ok r => r.isSuccess
    | .error _ => false)

end Access
end ApiScreens.Server
