import ApiScreens.Text.Piece

/-! Source text of generated files, line by line. Nesting indents by one tab and leaves empty lines
empty; a line may itself hold text with line breaks, which is spliced as it is. -/
namespace ApiScreens.Script

abbrev Lines := List String

def nest (body : Lines) : Lines := body.map fun line => if line = "" then "" else "\t" ++ line

def enclosed (head : String) (body : Lines) (last : String) : Lines := head :: nest body ++ [last]

def block (head : String) (body : Lines) (tail : String) : Lines :=
  enclosed (head ++ "\x7b") body ("\x7d" ++ tail)

def element (name : String) (body : Lines) : Lines :=
  enclosed ("<" ++ name ++ ">") body ("</" ++ name ++ ">")

def leaf (name : String) (attributes : Lines) : Lines := enclosed ("<" ++ name) attributes "/>"

def commas (names : List String) : String := Text.joinWith ", " names

def braced (inner : String) : String := "\x7b " ++ inner ++ " \x7d"

def importNames (names : List String) (source : String) : String :=
  "import " ++ braced (commas names) ++ " from '" ++ source ++ "';"

def importDefault (name source : String) : String := "import " ++ name ++ " from '" ++ source ++ "';"

def exportDefault (name : String) : String := "export default " ++ name ++ ";"

def separated : List Lines → Lines
  | [] => []
  | [group] => group
  | group :: rest => commaAfter group ++ separated rest
where
  commaAfter : Lines → Lines
    | [] => []
    | [line] => [line ++ ","]
    | line :: more => line :: commaAfter more

def text (lines : Lines) : String := Text.joinWith "\n" lines

end ApiScreens.Script
