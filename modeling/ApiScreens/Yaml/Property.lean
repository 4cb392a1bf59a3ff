import ApiScreens.Yaml.Cursor
import ApiScreens.Number.Digits

/-! What stands in front of a node or a document: anchors and aliases, tags, and directives. Each reader
takes the place where it begins and gives what it says and the place behind it. -/
namespace ApiScreens.Yaml

def anchorName (c : Cursor) : Option (String × Cursor) :=
  let (name, d) := c.next.takeWhile isNameChar
  let ended := endsWord d.rest || d.peek.any fun x => "?:,]\x7d%@`".toList.contains x
  if name ≠ [] && ended then some (String.ofList name, d) else none

structure TagName where
  handle : String
  suffix : String
  deriving DecidableEq, Repr

def isTagChar (c : Char) : Bool := isNameChar c || ";/?:@&=+$.%!~*'()".toList.contains c

def isUriChar (c : Char) : Bool := isTagChar c || c == ',' || c == '[' || c == ']'

def tagBytes : List Char → Option (List UInt8)
  | [] => some []
  | '%' :: a :: b :: rest => do
      let byte ← Number.ofDigits 16 [a, b]
      (tagBytes rest).map (UInt8.ofNat byte :: ·)
  | '%' :: _ => none
  | c :: rest => (tagBytes rest).map ((String.singleton c).toUTF8.toList ++ ·)

def tagText (chars : List Char) : Option String := do
  let bytes ← tagBytes chars
  String.fromUTF8? ⟨bytes.toArray⟩

def tagHandle (c : Cursor) : List Char × Cursor :=
  let (name, d) := c.next.takeWhile isNameChar
  if d.peek = some '!' then ('!' :: name ++ ['!'], d.next) else ('!' :: name, d)

def shortTag (c : Cursor) : Option (TagName × Cursor) :=
  let (handle, d) := tagHandle c
  let (tail, e) := d.takeWhile isTagChar
  if 1 < handle.length && handle.getLast? = some '!' then
    if tail = [] then none
    else (tagText tail).map fun text => (⟨String.ofList handle, text⟩, e)
  else
    (tagText tail).map fun text =>
      let suffix := String.ofList (handle.drop 1) ++ text
      (if suffix = "" then ⟨"", "!"⟩ else ⟨"!", suffix⟩, e)

def verbatimTag (c : Cursor) : Option (TagName × Cursor) :=
  let (uri, d) := (c.advance 2).takeWhile isUriChar
  if uri ≠ [] && d.peek = some '>' then (tagText uri).map fun text => (⟨"", text⟩, d.next) else none

def tag (flow : Bool) (c : Cursor) : Option (TagName × Cursor) := do
  let (name, d) ← if c.rest.take 2 = ['!', '<'] then verbatimTag c else shortTag c
  if endsWord d.rest || (flow && d.peek = some ',') then some (name, d) else none

inductive Directive where
  | version (major minor : Nat)
  | handle (handle start : String)
  deriving DecidableEq, Repr

def shortNumber (c : Cursor) : Option (Nat × Cursor) :=
  let (digits, d) := c.takeWhile Number.isDigit
  if 9 < digits.length then none else (Number.ofDigits 10 digits).map (·, d)

def versionDirective (c : Cursor) : Option (Directive × Cursor) := do
  let (major, d) ← shortNumber c
  if d.peek = some '.' then
    let (minor, e) ← shortNumber d.next
    some (.version major minor, e)
  else none

def handleDirective (c : Cursor) : Option (Directive × Cursor) :=
  if c.peek ≠ some '!' then none
  else
    let (handle, d) := tagHandle c
    let (uri, e) := (d.dropWhile isBlank).takeWhile isUriChar
    if (handle = ['!'] ∨ handle.getLast? = some '!') && d.peek.any isBlank && uri ≠ [] &&
        endsWord e.rest then
      (tagText uri).map fun start => (.handle (String.ofList handle) start, e)
    else none

def directive (c : Cursor) : Option (Directive × Cursor) := do
  let (name, d) := c.next.takeWhile isNameChar
  if !endsWord d.rest then none
  let value := d.dropWhile isBlank
  let (found, e) ←
    if name = "YAML".toList then versionDirective value
    else if name = "TAG".toList then handleDirective value
    else none
  let e := (e.dropWhile isBlank).dropComment
  if e.atEnd || e.peek.any isBreak then some (found, e.next) else none

end ApiScreens.Yaml
