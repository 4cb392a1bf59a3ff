import ApiScreens.Document
import ApiScreens.Json.Reader
import ApiScreens.Yaml.Value

/-! API descriptions as text, in JSON or YAML. The first character that is no white space decides:
with a brace or a bracket the text is JSON. -/
namespace ApiScreens
open Json (Value)

inductive DocumentError where
  | malformed (origin : String)
  | withoutPaths (origin : String)
  deriving DecidableEq, Repr

def DocumentError.origin : DocumentError → String
  | .malformed origin | .withoutPaths origin => origin

def DocumentError.reason : DocumentError → String
  | .malformed _ => "it is neither JSON nor YAML"
  | .withoutPaths _ => "document has no `paths` section"

def DocumentError.message (e : DocumentError) : String :=
  "could not decode document from " ++ e.origin ++ ": " ++ e.reason

namespace Document

def isJson (text : String) : Bool :=
  (text.toList.dropWhile Text.isBlank).head?.any fun c => c == '\x7b' || c == '['

def valueOf (text : String) : Option Value :=
  if isJson text then Value.parse text else Yaml.parse text

def parse (text origin : String) : Except DocumentError Document :=
  match valueOf text with
  | none => .error (.malformed origin)
  | some root =>
      if (root.get? "paths").isSome then .ok ⟨root⟩ else .error (.withoutPaths origin)

end Document
end ApiScreens
