import ApiScreens.Yaml.Scalar
import ApiScreens.Yaml.Property

/-! The tokens of a stream. Indentation gives tokens of its own, for the start and end of block
collections. Whether a word is a key shows only at the colon behind it: its place is kept as a
candidate, and the key token is put there afterwards. -/
namespace ApiScreens.Yaml

inductive Token where
  | directive (d : Directive)
  | documentStart | documentEnd
  | blockSequence | blockMapping | blockEnd
  | flowSequence | flowSequenceEnd | flowMapping | flowMappingEnd
  | blockEntry | flowEntry
  | key | value
  | alias (name : String)
  | anchor (name : String)
  | tag (name : TagName)
  | scalar (plain : Bool) (text : String)
  deriving DecidableEq, Repr

structure Candidate where
  position : Nat
  place : Cursor
  required : Bool
  deriving Repr

structure Layout where
  cursor : Cursor
  emitted : List Token
  count : Nat
  indent : Int
  outerIndents : List Int
  keyAllowed : Bool
  candidate : Option Candidate
  outerCandidates : List (Option Candidate)
  deriving Repr

namespace Layout

def start (text : List Char) : Layout := ⟨.start text, [], 0, -1, [], true, none, []⟩

def inFlow (l : Layout) : Bool := l.outerCandidates ≠ []

def emit (l : Layout) (t : Token) : Layout :=
  { l with emitted := t :: l.emitted, count := l.count + 1 }

def emitAt (l : Layout) (position : Nat) (t : Token) : Layout :=
  let later := l.count - position
  { l with
    emitted := l.emitted.take later ++ t :: l.emitted.drop later
    count := l.count + 1 }

def leave (column : Int) (indent : Int) : List Int → Nat × Int × List Int
  | [] => (0, indent, [])
  | outer :: rest =>
      if column < indent then
        let (n, i, is) := leave column outer rest
        (n + 1, i, is)
      else (0, indent, outer :: rest)

def unroll (l : Layout) (column : Int) : Layout :=
  if l.inFlow then l
  else
    let (ended, indent, outer) := leave column l.indent l.outerIndents
    { l with
      indent := indent
      outerIndents := outer
      emitted := List.replicate ended .blockEnd ++ l.emitted
      count := l.count + ended }

/-- A block collection begins at `column` if that is further in; its token is put at `position`. -/
def roll (l : Layout) (column : Nat) (position : Nat) (t : Token) : Layout :=
  if !l.inFlow && l.indent < column then
    { l.emitAt position t with indent := column, outerIndents := l.indent :: l.outerIndents }
  else l

def dropCandidate (l : Layout) : Option Layout :=
  if l.candidate.any (·.required) then none else some { l with candidate := none }

def saveCandidate (l : Layout) : Option Layout :=
  if l.keyAllowed then do
    let required := !l.inFlow && l.indent == l.cursor.column
    let l ← l.dropCandidate
    some { l with candidate := some ⟨l.count, l.cursor, required⟩ }
  else some l

def reaches (k : Candidate) (c : Cursor) : Bool :=
  k.place.line == c.line && c.index ≤ k.place.index + 1024

def single (l : Layout) (t : Token) : Layout := { l.emit t with cursor := l.cursor.next }

def documentMark (l : Layout) (t : Token) : Option Layout := do
  let l ← (l.unroll (-1)).dropCandidate
  some { l.emit t with keyAllowed := false, cursor := l.cursor.advance 3 }

def directiveLine (l : Layout) : Option Layout := do
  let l ← (l.unroll (-1)).dropCandidate
  let (d, c) ← directive l.cursor
  some { l.emit (.directive d) with keyAllowed := false, cursor := c }

def openFlow (l : Layout) (t : Token) : Option Layout := do
  let l ← l.saveCandidate
  some { l.single t with
    candidate := none, outerCandidates := l.candidate :: l.outerCandidates, keyAllowed := true }

def closeFlow (l : Layout) (t : Token) : Option Layout := do
  let l ← l.dropCandidate
  let l := match l.outerCandidates with
    | [] => l
    | k :: outer => { l with candidate := k, outerCandidates := outer }
  some { l.single t with keyAllowed := false }

def flowComma (l : Layout) : Option Layout := do
  let l ← l.dropCandidate
  some { l.single .flowEntry with keyAllowed := true }

def blockIndicator (l : Layout) (collection : Token) : Option Layout :=
  if l.inFlow then some l
  else if l.keyAllowed then some (l.roll l.cursor.column l.count collection)
  else none

def blockDash (l : Layout) : Option Layout := do
  let l ← (← l.blockIndicator .blockSequence).dropCandidate
  some { l.single .blockEntry with keyAllowed := true }

def explicitKey (l : Layout) : Option Layout := do
  let l ← (← l.blockIndicator .blockMapping).dropCandidate
  some { l.single .key with keyAllowed := !l.inFlow }

def colon (l : Layout) : Option Layout :=
  match l.candidate.filter (reaches · l.cursor) with
  | some k =>
      let l := (l.emitAt k.position .key).roll k.place.column k.position .blockMapping
      some { l.single .value with candidate := none, keyAllowed := false }
  | none => do
      let l ← (← l.blockIndicator .blockMapping).dropCandidate
      some { l.single .value with keyAllowed := !l.inFlow }

def property (l : Layout) (t : Token) (c : Cursor) : Option Layout := do
  let l ← l.saveCandidate
  some { l.emit t with keyAllowed := false, cursor := c }

def quotedScalar (l : Layout) (double : Bool) : Option Layout := do
  let (text, c) ← quoted double l.cursor
  l.property (.scalar false (String.ofList text)) c

def blockScalar (l : Layout) (literal : Bool) : Option Layout := do
  let l ← l.dropCandidate
  let (text, c) ← block literal l.indent l.cursor
  some { l.emit (.scalar false (String.ofList text)) with keyAllowed := true, cursor := c }

def plainScalar (l : Layout) : Option Layout := do
  let (text, c, crossed) ← plain l.inFlow (l.indent + 1) l.cursor
  let l ← l.property (.scalar true (String.ofList text)) c
  some { l with keyAllowed := crossed }

def beginsPlain (flow : Bool) : List Char → Bool
  | [] => false
  | c :: rest =>
      if c == '-' then !rest.head?.any isBlank
      else if c == '?' || c == ':' then !flow && !endsWord rest
      else !isWhite c && !",[]{}#&*!|>'\"%@`".toList.contains c

def token (l : Layout) (x : Char) (rest : List Char) : Option Layout :=
  let c := l.cursor
  if c.column = 0 && x == '%' then l.directiveLine
  else if c.atDocumentMark then l.documentMark (if x == '-' then .documentStart else .documentEnd)
  else if x == '[' then l.openFlow .flowSequence
  else if x == '\x7b' then l.openFlow .flowMapping
  else if x == ']' then l.closeFlow .flowSequenceEnd
  else if x == '\x7d' then l.closeFlow .flowMappingEnd
  else if x == ',' then l.flowComma
  else if x == '-' && endsWord rest then l.blockDash
  else if x == '?' && (l.inFlow || endsWord rest) then l.explicitKey
  else if x == ':' && (l.inFlow || endsWord rest) then l.colon
  else if x == '*' then (anchorName c).bind fun (name, d) => l.property (.alias name) d
  else if x == '&' then (anchorName c).bind fun (name, d) => l.property (.anchor name) d
  else if x == '!' then (tag l.inFlow c).bind fun (name, d) => l.property (.tag name) d
  else if x == '|' && !l.inFlow then l.blockScalar true
  else if x == '>' && !l.inFlow then l.blockScalar false
  else if x == '\'' then l.quotedScalar false
  else if x == '"' then l.quotedScalar true
  else if beginsPlain l.inFlow c.rest then l.plainScalar
  else none

def dropBlanks (l : Layout) : Cursor :=
  let c := if l.cursor.column = 0 && l.cursor.peek = some byteOrderMark then l.cursor.next else l.cursor
  c.dropWhile fun x => x == ' ' || ((l.inFlow || !l.keyAllowed) && x == '\t')

def finish (l : Layout) : Option (List Token) := do
  let l ← (l.unroll (-1)).dropCandidate
  some l.emitted.reverse

def run : (fuel : Nat) → Layout → Option (List Token)
  | 0, _ => none
  | fuel + 1, l =>
      let c := l.dropBlanks.dropComment
      match c.rest with
      | [] => { l with cursor := c }.finish
      | x :: rest =>
          if isBreak x then
            run fuel { l with cursor := c.next, keyAllowed := l.keyAllowed || !l.inFlow }
          else
            (token ({ l with cursor := c }.unroll c.column) x rest).bind (run fuel)

end Layout

def tokens (text : List Char) : Option (List Token) :=
  if text.all isPrintable then
    let text := unifyBreaks text
    Layout.run (text.length + 1) (.start text)
  else none

end ApiScreens.Yaml
