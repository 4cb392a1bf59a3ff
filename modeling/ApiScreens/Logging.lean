import ApiScreens.Text.Case

/-! How a run logs, as the variables of the environment say, and how much of a secret a log shows. -/
namespace ApiScreens

inductive LogFormat where
  | pretty | json
  deriving DecidableEq, Repr

def LogFormat.name : LogFormat → String
  | pretty => "pretty"
  | json => "json"

def LogFormat.parse (text : String) : LogFormat := if Text.lower text = "json" then json else pretty

structure LogConfig where
  level : String := "info"
  format : LogFormat := .pretty
  async : Bool := false
  location : Bool := false
  deriving DecidableEq, Repr

namespace LogConfig

def switch (value : Option String) : Bool := value = some "true"

def ofVariables (vars : List (String × String)) : LogConfig :=
  let value (name : String) : Option String := vars.reverse.lookup name
  { level := (value "UISCAFFOLD_LOG_LEVEL").getD "info"
    format := ((value "UISCAFFOLD_LOG_FORMAT").map LogFormat.parse).getD .pretty
    async := switch (value "UISCAFFOLD_LOG_ASYNC")
    location := switch (value "UISCAFFOLD_LOG_INCLUDE_LOCATION") }

end LogConfig

def redact (secret : String) : String :=
  if 8 < secret.length then String.ofList (secret.toList.take 4) ++ "***" else "<REDACTED>"

end ApiScreens
