import ApiScreens.Text.Case
import ApiScreens.Text.Piece

/-! Identifiers of generated code. Every name that one file declares and another imports is made
here, so both sides spell it alike. Only separators split a name; humps that are there stay. -/
namespace ApiScreens.Naming
open Text

def isSeparator (c : Char) : Bool := c == '-' || c == '_' || isBlank c

def segments (name : String) : List (List Char) :=
  (pieces isSeparator name.toList).filter (!·.isEmpty)

def upperFirst : List Char → List Char
  | [] => []
  | c :: rest => upperChar c ++ rest

def lowerFirst : List Char → List Char
  | [] => []
  | c :: rest => lowerChar c ++ rest

def camel (name : String) : String :=
  match segments name with
  | [] => ""
  | first :: rest => String.ofList (lowerFirst first ++ rest.flatMap upperFirst)

def pascal (name : String) : String :=
  String.ofList ((segments name).flatMap upperFirst)

def capitalize (name : String) : String := String.ofList (upperFirst name.toList)

def hook (entity : String) : String := "use" ++ pascal entity

def hookWith (entity suffix : String) : String := "use" ++ pascal entity ++ suffix

def pageBase (solution entity : String) : String := pascal solution ++ pascal entity

def component (solution entity suffix : String) : String := pageBase solution entity ++ suffix

def tabNavigation (module : String) : String := pascal module ++ "TabNavigation"

def routesConst (solution : String) : String := pascal solution ++ "Routes"

def words (name : String) : String :=
  String.ofList <| trimWhere isBlank <|
    name.toList.flatMap fun c => if isUppercase c then [' ', c] else [c]

/-- The least positive number that is free when at most `bound` numbers are taken: if none of
`1 … bound` is free, the next one is. -/
def leastFree (bound : Nat) (isFree : Nat → Bool) : Nat :=
  (((List.range bound).map (· + 1)).find? isFree).getD (bound + 1)

def numbered (name : String) (n : Nat) : String := name ++ "_" ++ toString n

def unique (taken : List String) (name : String) : String :=
  if name ∈ taken then
    numbered name (leastFree taken.length fun n => numbered name n ∉ taken)
  else name

def uniqueAll (taken : List String) : List String → List String
  | [] => []
  | name :: rest =>
      let fresh := unique taken name
      fresh :: uniqueAll (fresh :: taken) rest

end ApiScreens.Naming
