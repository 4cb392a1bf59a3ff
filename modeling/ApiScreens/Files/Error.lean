/-! Why a file or directory could not be used. -/
namespace ApiScreens.Files

inductive FileError where
  | missing
  | alreadyThere
  | notDirectory
  | isDirectory
  | notText
  | notFile
  | nulInPath
  deriving DecidableEq, Repr

def FileError.message : FileError → String
  | missing => "No such file or directory (os error 2)"
  | alreadyThere => "File exists (os error 17)"
  | notDirectory => "Not a directory (os error 20)"
  | isDirectory => "Is a directory (os error 21)"
  | notText => "stream did not contain valid UTF-8"
  | notFile => "the source path is neither a regular file nor a symlink to a regular file"
  | nulInPath => "file name contained an unexpected NUL byte"

end ApiScreens.Files
