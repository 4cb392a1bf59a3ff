import ApiScreens.Url.Host

/-! Web addresses as far as a configuration must hold one: a text with the scheme `http` or `https` and
a proper host and port. Paths, queries and fragments may hold anything. -/
namespace ApiScreens.Url

def stripped (text : List Char) : List Char :=
  (Text.trimWhere (·.toNat ≤ 0x20) text).filter fun c => c != '\t' && c != '\n' && c != '\r'

def scheme? (text : List Char) : Option (List Char × List Char) :=
  let name := text.takeWhile (· != ':')
  let isNameChar (c : Char) : Bool := c.isAlphanum || c == '+' || c == '-' || c == '.'
  match text.drop name.length with
  | _ :: rest =>
      if name.head?.any Char.isAlpha && name.all isNameChar then
        some (name.map Char.toLower, rest)
      else none
  | [] => none

def isSlash (c : Char) : Bool := c == '/' || c == '\\'

def authority (text : List Char) : List Char :=
  (text.dropWhile isSlash).takeWhile fun c => !isSlash c && c != '?' && c != '#'

def withoutUser (authority : List Char) : List Char :=
  (authority.reverse.takeWhile (· != '@')).reverse

def hostOf (bracketed : Bool) : List Char → List Char
  | [] => []
  | c :: rest =>
      if c == ':' && !bracketed then []
      else c :: hostOf (if c == '[' then true else if c == ']' then false else bracketed) rest

def isPort (text : List Char) : Bool :=
  match text with
  | [] => true
  | _ :: digits =>
      digits.all Number.isDigit && Number.natOfDigits 10 digits ≤ 65535

def isHttp (text : String) : Bool :=
  match scheme? (stripped text.toList) with
  | none => false
  | some (scheme, rest) =>
      (scheme = "http".toList || scheme = "https".toList) &&
        let place := withoutUser (authority rest)
        let host := hostOf false place
        isHost host && isPort (place.drop host.length)

end ApiScreens.Url
