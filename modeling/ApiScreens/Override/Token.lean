import ApiScreens.Json.Written
import ApiScreens.Text.Piece

/-! The lexical level of page overrides: plain text between outputs and statements, whose marks may
remove the white space beside them. The last line break of a source does not belong to it. -/
namespace ApiScreens.Override
open Text (isBlank isAlphanumeric after?)

inductive Token where
  | name (s : String)
  | text (s : String)
  | number (n : Json.Numeral)
  | symbol (s : String)
  deriving DecidableEq, Repr

inductive Piece where
  | plain (cs : List Char)
  | output (tokens : List Token)
  | statement (tokens : List Token)
  deriving DecidableEq, Repr

def isNameStart (c : Char) : Bool :=
  ('a' ≤ c && c ≤ 'z') || ('A' ≤ c && c ≤ 'Z') || c == '_' || (127 < c.toNat && isAlphanumeric c)

def isNameChar (c : Char) : Bool := isNameStart c || Number.isDigit c

def symbols : List String :=
  ["==", "!=", "<=", ">=", "//", "**", "+", "-", "*", "/", "%", "~", "|", ".", ",", ":", "(", ")",
   "[", "]", "\x7b", "\x7d", "<", ">", "="]

def quotedPart (quote : Char) : List Char → Option (List Char × List Char)
  | [] => none
  | '\\' :: c :: rest => (quotedPart quote rest).map fun (s, r) => ('\\' :: c :: s, r)
  | c :: rest =>
      if c = quote then some ([], rest) else (quotedPart quote rest).map fun (s, r) => (c :: s, r)

def units : List Char → Option (List Json.Unit16)
  | [] => some []
  | '\\' :: 'u' :: a :: b :: c :: d :: rest => do
      let n ← Json.hexUnit a b c d
      (units rest).map (.unit n :: ·)
  | '\\' :: c :: rest => do
      let e ← if c = '\'' then some '\'' else Json.shortEscape c
      (units rest).map (.char e :: ·)
  | '\\' :: [] => none
  | c :: rest => (units rest).map (.char c :: ·)

def textOf (chars : List Char) : Option String :=
  ((units chars).bind Json.joinUnits).map String.ofList

def numberPart (cs : List Char) : List Char × List Char :=
  let whole := cs.takeWhile Number.isDigit
  let rest := cs.dropWhile Number.isDigit
  let (fraction, rest) := match rest with
    | '.' :: d :: more =>
        if Number.isDigit d then ('.' :: (d :: more).takeWhile Number.isDigit, (d :: more).dropWhile Number.isDigit)
        else ([], rest)
    | _ => ([], rest)
  (whole ++ fraction, rest)

def nextToken : List Char → Option (Token × List Char)
  | [] => none
  | c :: rest =>
      if isNameStart c then
        some (.name (String.ofList ((c :: rest).takeWhile isNameChar)), rest.dropWhile isNameChar)
      else if c = '"' || c = '\'' then do
        let (inner, more) ← quotedPart c rest
        some (.text (← textOf inner), more)
      else if Number.isDigit c then do
        let (digits, more) := numberPart (c :: rest)
        let whole := digits.dropWhile (· == '0')
        let literal ← Json.literal? (if whole.head?.all (! Number.isDigit ·) then '0' :: whole else whole)
        some (.number (← literal.numeral), more)
      else
        symbols.findSome? fun s =>
          (after? s.toList (c :: rest)).map fun more => (.symbol s, more)

def codeEnd (close : List Char) (cs : List Char) : Option (Bool × List Char) :=
  match cs with
  | '-' :: rest => (after? close rest).map (true, ·)
  | '+' :: rest => (after? close rest).map (false, ·)
  | _ => (after? close cs).map (false, ·)

def nesting : Token → Int
  | .symbol "(" | .symbol "[" | .symbol "\x7b" => 1
  | .symbol ")" | .symbol "]" | .symbol "\x7d" => -1
  | _ => 0

/-- Tokens up to the closing mark, which counts only outside brackets; each step takes a character at
least, so the length of the source is fuel enough. -/
def codeTokens (close : List Char) : Nat → Int → List Char → Option (List Token × Bool × List Char)
  | 0, _, _ => none
  | fuel + 1, depth, cs =>
      let cs := cs.dropWhile isBlank
      match if depth ≤ 0 then codeEnd close cs else none with
      | some (strip, rest) => some ([], strip, rest)
      | none => do
          let (t, rest) ← nextToken cs
          let (more, strip, rest) ← codeTokens close fuel (depth + nesting t) rest
          some (t :: more, strip, rest)

def commentEnd : List Char → Option (Bool × List Char)
  | [] => none
  | '-' :: '#' :: '}' :: rest => some (true, rest)
  | '#' :: '}' :: rest => some (false, rest)
  | _ :: rest => commentEnd rest

def stripStart (strip : Bool) (cs : List Char) : List Char :=
  if strip then cs.dropWhile isBlank else cs

def plainBefore (strip : Bool) (read : List Char) : List Piece :=
  let kept := if strip then read.dropWhile isBlank else read
  if kept = [] then [] else [.plain kept.reverse]

def openSign : List Char → Bool × List Char
  | '-' :: rest => (true, rest)
  | '+' :: rest => (false, rest)
  | cs => (false, cs)

def cut : Nat → List Char → List Char → Option (List Piece)
  | 0, _, _ => none
  | _ + 1, read, [] => some (plainBefore false read)
  | fuel + 1, read, '{' :: '{' :: rest => do
      let (strip, rest) := openSign rest
      let (tokens, stripAfter, rest) ← codeTokens ['}', '}'] (rest.length + 1) 0 rest
      let more ← cut fuel [] (stripStart stripAfter rest)
      some (plainBefore strip read ++ .output tokens :: more)
  | fuel + 1, read, '{' :: '%' :: rest => do
      let (strip, rest) := openSign rest
      let (tokens, stripAfter, rest) ← codeTokens ['%', '}'] (rest.length + 1) 0 rest
      let more ← cut fuel [] (stripStart stripAfter rest)
      some (plainBefore strip read ++ .statement tokens :: more)
  | fuel + 1, read, '{' :: '#' :: rest => do
      let (strip, rest) := openSign rest
      let (stripAfter, rest) ← commentEnd rest
      let more ← cut fuel [] (stripStart stripAfter rest)
      some (plainBefore strip read ++ more)
  | fuel + 1, read, c :: rest => cut fuel (c :: read) rest

def withoutLastBreak (source : List Char) : List Char :=
  match source.reverse with
  | '\n' :: '\r' :: rest => rest.reverse
  | '\n' :: rest => rest.reverse
  | _ => source

def pieces (source : String) : Option (List Piece) :=
  let cs := withoutLastBreak source.toList
  cut (cs.length + 1) [] cs

end ApiScreens.Override
