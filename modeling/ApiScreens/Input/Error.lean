import ApiScreens.Files.Error

/-! What a run cannot do without, and why it could not be read. -/
namespace ApiScreens
open Files (FileError)

inductive Input where
  | solutions | overrides | override
  deriving DecidableEq, Repr

structure InputError where
  input : Input
  path : String
  cause : FileError
  deriving DecidableEq, Repr

def Input.noun : Input → String
  | solutions => "configs directory"
  | overrides => "template directory"
  | override => "template"

def InputError.message (e : InputError) : String :=
  "failed to read " ++ e.input.noun ++ " " ++ e.path ++ ": " ++ e.cause.message

end ApiScreens
