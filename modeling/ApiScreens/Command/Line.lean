/-! What a command line asks for, and what may be wrong with one. -/
namespace ApiScreens

inductive Command where
  | swagger (domain : Option String) (out : String) (specFile : Option String) (probe : Bool)
  | generate (configs project : String) (force noBackup : Bool) (templates : Option String)
  | charts (config project : String) (force : Bool) (templates : Option String)
  | localeSync (src locales : String)
  | localeKeys (configs locales : String)
  deriving DecidableEq, Repr

structure CommandLine where
  settings : String
  command : Command
  deriving DecidableEq, Repr

inductive UsageError where
  | help | version
  | nothingGiven | commandMissing
  | unknownArgument | unknownCommand
  | invalidValue
  | givenTwice
  | unneededValue
  deriving DecidableEq, Repr

def UsageError.message : UsageError → String
  | help => "help was asked for"
  | version => "the version was asked for"
  | nothingGiven => "a command is needed"
  | commandMissing => "a command is needed behind the options"
  | unknownArgument => "there is no such argument"
  | unknownCommand => "there is no such command"
  | invalidValue => "an option has no value, or an empty one"
  | givenTwice => "an option is given twice"
  | unneededValue => "a switch takes no value"

end ApiScreens
