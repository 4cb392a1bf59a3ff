import ApiScreens.Text.Class

/-! Cutting and searching lists of characters: pieces between separators, trimmed text, occurrences
of one text in another. Nothing here depends on what the text means. -/
namespace ApiScreens.Text

def pieces (sep : Char → Bool) : List Char → List (List Char)
  | [] => [[]]
  | c :: rest =>
      if sep c then [] :: pieces sep rest
      else match pieces sep rest with
        | [] => [[c]]
        | p :: more => (c :: p) :: more

def join (sep : List Char) : List (List Char) → List Char
  | [] => []
  | [p] => p
  | p :: more => p ++ sep ++ join sep more

def dropEndWhile (drop : Char → Bool) (cs : List Char) : List Char :=
  (cs.reverse.dropWhile drop).reverse

def trimWhere (drop : Char → Bool) (cs : List Char) : List Char :=
  dropEndWhile drop (cs.dropWhile drop)

def after? : (start cs : List Char) → Option (List Char)
  | [], cs => some cs
  | _ :: _, [] => none
  | s :: start, c :: cs => if s = c then after? start cs else none

def occursIn (needle : List Char) : List Char → Bool
  | [] => needle.isEmpty
  | c :: rest => (after? needle (c :: rest)).isSome || occursIn needle rest

def splitOn (sep : Char) (s : String) : List String :=
  (pieces (· == sep) s.toList).map String.ofList

def joinWith (sep : String) (parts : List String) : String :=
  String.ofList (join sep.toList (parts.map String.toList))

def trim (s : String) : String := String.ofList (trimWhere isBlank s.toList)

def has (s needle : String) : Bool := occursIn needle.toList s.toList

def startsWith (s start : String) : Bool := (after? start.toList s.toList).isSome

def endsWith (s last : String) : Bool := (after? last.toList.reverse s.toList.reverse).isSome

def dropStart? (s start : String) : Option String := (after? start.toList s.toList).map String.ofList

def dropEnd? (s last : String) : Option String :=
  (after? last.toList.reverse s.toList.reverse).map fun cs => String.ofList cs.reverse

def withoutTrailing (c : Char) (s : String) : String :=
  String.ofList (dropEndWhile (· == c) s.toList)

def cutAt (c : Char) (s : String) : Option (String × String) :=
  match s.toList.dropWhile (· != c) with
  | [] => none
  | _ :: rest => some (String.ofList (s.toList.takeWhile (· != c)), String.ofList rest)

end ApiScreens.Text
