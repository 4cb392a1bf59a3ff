import ApiScreens.Document.Text
import ApiScreens.Json.Printer

/-! Requests to a documentation server and what comes back. Nothing is assumed of the server: its answers
are any sequence of replies and failures, taken one after another. -/
namespace ApiScreens.Server
open Json (Value)

inductive Request where
  | get (url : String) (bearer : Option String)
  | post (url : String) (body : Value)
  deriving DecidableEq, Repr

structure Reply where
  status : Nat
  body : String
  deriving DecidableEq, Repr

namespace Reply

def isSuccess (r : Reply) : Bool := 200 ≤ r.status && r.status < 300

def isUnauthorized (r : Reply) : Bool := r.status == 401

def json? (r : Reply) : Option Value := Value.parse r.body

end Reply

inductive FetchError where
  | missingCredentials
  | unreachable
  | unauthenticated (reason : String)
  | status (url : String) (code : Nat)
  | document (e : DocumentError)
  deriving DecidableEq, Repr

def FetchError.message : FetchError → String
  | missingCredentials => "credentials are not configured (SWAGGER_USERNAME / SWAGGER_PASSWORD)"
  | unreachable => "the server does not answer"
  | unauthenticated reason => "authentication failed: " ++ reason
  | status url code => url ++ " answered HTTP " ++ toString code
  | document e => e.message

/-- The requests sent so far, and what each is answered: the answer of a number belongs to the request
before which as many were sent. -/
structure Wire where
  answers : Nat → Except FetchError Reply
  sent : List Request := []

def Wire.send (w : Wire) (r : Request) : Wire × Except FetchError Reply :=
  ({ w with sent := w.sent ++ [r] }, w.answers w.sent.length)

end ApiScreens.Server
