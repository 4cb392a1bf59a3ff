import ApiScreens.Settings.Error
import ApiScreens.SortedMap
import ApiScreens.Text.Case
import ApiScreens.Text.Shown
import ApiScreens.Url.Http

/-! The documentation server as the variables of the environment describe it. A variable that holds
nothing but blanks counts as not set; of several with one name the last counts. -/
namespace ApiScreens

structure Credentials where
  username : String
  password : String
  deriving DecidableEq, Repr

def Credentials.shown (c : Credentials) : String :=
  "Credentials \x7b username: " ++ Text.shown c.username ++ ", password: \"<REDACTED>\" \x7d"

structure Environment where
  baseUrl : String
  credentials : Option Credentials
  domains : SortedMap String
  deriving DecidableEq

namespace Environment

abbrev Variables := List (String × String)

def effective (vars : Variables) : Variables := vars.filter fun (_, v) => Text.trim v ≠ ""

def valueOf? (vars : Variables) (name : String) : Option String := (effective vars).reverse.lookup name

def baseVariable : String := "SWAGGER_API_BASE_URL"

def domainOf? (name : String) : Option String :=
  match Text.dropStart? name "SWAGGER_URL_" with
  | some domain => if domain = "" then none else some (Text.lower domain)
  | none => none

def domainsOf (vars : Variables) : SortedMap String :=
  .ofList <| (effective vars).filterMap fun (name, v) => (domainOf? name).map (·, v)

def credentialsOf (vars : Variables) : Option Credentials := do
  some ⟨← valueOf? vars "SWAGGER_USERNAME", ← valueOf? vars "SWAGGER_PASSWORD"⟩

def ofVariables (vars : Variables) : Except SettingsError Environment :=
  match valueOf? vars baseVariable with
  | none => .error (.missingVariable baseVariable)
  | some value =>
      let base := Text.withoutTrailing '/' value
      if Url.isHttp base then .ok ⟨base, credentialsOf vars, domainsOf vars⟩
      else .error (.notHttp baseVariable base)

def select (env : Environment) : Option String → Except SettingsError (List (String × String))
  | some name =>
      match env.domains.get? (Text.lower name) with
      | some url => .ok [(Text.lower name, url)]
      | none => .error (.unknownDomain (Text.upper name))
  | none => if env.domains.entries = [] then .error .noDomains else .ok env.domains.entries

end Environment
end ApiScreens
