import ApiScreens.Files.Error

/-! A text on its way to a file, and what may become of it. -/
namespace ApiScreens
open Files (FileError)

structure WriteOptions where
  overwrite : Bool := true
  backup : Bool := true
  deriving DecidableEq, Repr

structure GeneratedFile where
  path : String
  content : String
  options : WriteOptions := {}
  deriving DecidableEq, Repr

inductive WriteOutcome where
  | created (path : String)
  | overwritten (path : String) (backup : Option String)
  | renamed (path written : String)
  deriving DecidableEq, Repr

def WriteOutcome.writtenPath : WriteOutcome → String
  | created path => path
  | overwritten path _ => path
  | renamed _ written => written

inductive WriteStep where
  | createDirectory | backUp | write
  deriving DecidableEq, Repr

structure WriteError where
  step : WriteStep
  path : String
  cause : FileError
  deriving DecidableEq, Repr

def WriteStep.verb : WriteStep → String
  | createDirectory => "create directory"
  | backUp => "back up"
  | write => "write"

def WriteError.message (e : WriteError) : String :=
  "failed to " ++ e.step.verb ++ " " ++ e.path ++ ": " ++ e.cause.message

end ApiScreens
