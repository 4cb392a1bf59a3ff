import ApiScreens.Files.Error

/-! What may be wrong with the settings file or with the variables of the environment. -/
namespace ApiScreens
open Files (FileError)

inductive SettingsError where
  | missingVariable (name : String)
  | notHttp (name value : String)
  | noDomains
  | unknownDomain (name : String)
  | unreadable (path : String) (cause : FileError)
  | malformed (path : String)
  deriving DecidableEq, Repr

namespace SettingsError

def headline : SettingsError → String
  | missingVariable name => "environment variable " ++ name ++ " is not set"
  | notHttp name value => name ++ " is not an http(s) URL: " ++ value
  | noDomains => "no SWAGGER_URL_<DOMAIN> variable is set"
  | unknownDomain name => "SWAGGER_URL_" ++ name ++ " is not set"
  | unreadable path _ => "failed to read settings file " ++ path
  | malformed path => "failed to parse settings file " ++ path

def message (e : SettingsError) : String :=
  match e with
  | unreadable _ cause => e.headline ++ ": " ++ cause.message
  | _ => e.headline

end SettingsError
end ApiScreens
