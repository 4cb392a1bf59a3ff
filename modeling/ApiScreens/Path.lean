import ApiScreens.Text.Piece

/-! Path texts. Two paths are joined as text; parts that name nothing (empty ones and single dots after
the first) do not count as a last component. Nothing here looks at a file tree. -/
namespace ApiScreens.Path
open Text

def isAbsolute (p : String) : Bool := p.toList.head? = some '/'

def append (left right : String) : String :=
  if isAbsolute right || left = "" then right
  else if left.toList.getLast? = some '/' then left ++ right
  else left ++ "/" ++ right

def under (root : String) (parts : List String) : String := parts.foldl append root

def names (piece : List Char) : Bool := piece ≠ [] && piece ≠ ['.']

def significant (p : String) : List Char × List (List Char) :=
  match pieces (· == '/') p.toList with
  | [] => ([], [])
  | first :: rest => (first, trimEnd rest)
where
  trimEnd (rest : List (List Char)) : List (List Char) :=
    (rest.reverse.dropWhile fun piece => !names piece).reverse

def ofPieces (first : List Char) (rest : List (List Char)) : String :=
  if first = [] && rest = [] then "/" else String.ofList (join ['/'] (first :: rest))

def parent (p : String) : Option String :=
  match significant p with
  | (first, []) => if first = [] then none else some ""
  | (first, rest) => some (ofPieces first (significant.trimEnd rest.dropLast))

def fileName (p : String) : Option String :=
  match significant p with
  | (first, rest) =>
    let last := (rest.getLast?).getD first
    if last = [] || last = ['.'] || last = ['.', '.'] then none else some (String.ofList last)

def splitName (name : String) : String × Option String :=
  match name.toList.reverse.dropWhile (· != '.') with
  | [] | [_] => (name, none)
  | _ :: stem =>
      (String.ofList stem.reverse,
       some (String.ofList (name.toList.reverse.takeWhile (· != '.')).reverse))

def stem (p : String) : Option String := (fileName p).map fun name => (splitName name).1

def extension (p : String) : Option String := (fileName p).bind fun name => (splitName name).2

def withFileName (p name : String) : String :=
  match fileName p with
  | none => append p name
  | some _ => append ((parent p).getD "") name

def tagged (p tag : String) : String :=
  let stem := (stem p).getD ""
  withFileName p <| match extension p with
    | some ext => stem ++ tag ++ "." ++ ext
    | none => stem ++ tag

def backup (p timestamp : String) : String := tagged p (".backup." ++ timestamp)

def numbered (p : String) (n : Nat) : String := tagged p ("_" ++ toString n)

end ApiScreens.Path
