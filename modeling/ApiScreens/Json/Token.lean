import ApiScreens.Number.Digits

/-! The lexical level of JSON text. A token keeps the characters it was written with; what they denote
is decided where the token is used. -/
namespace ApiScreens.Json
open Number (isDigit)

inductive Token where
  | openBrace | closeBrace | openBracket | closeBracket | colon | comma
  | word (letters : List Char)
  | number (chars : List Char)
  | text (chars : List Char)
  deriving DecidableEq, Repr

inductive Lexer where
  | between
  | word (read : List Char)
  | number (read : List Char)
  | text (read : List Char)
  | escape (read : List Char)
  deriving DecidableEq, Repr

def isSpace (c : Char) : Bool := c == ' ' || c == '\n' || c == '\t' || c == '\r'

def isWordChar (c : Char) : Bool := 'a' ≤ c && c ≤ 'z'

def startsNumber (c : Char) : Bool := isDigit c || c == '-'

def isNumberChar (c : Char) : Bool :=
  isDigit c || c == '-' || c == '+' || c == '.' || c == 'e' || c == 'E'

def punctuation : Char → Option Token
  | '{' => some .openBrace
  | '}' => some .closeBrace
  | '[' => some .openBracket
  | ']' => some .closeBracket
  | ':' => some .colon
  | ',' => some .comma
  | _ => none

def Lexer.start (c : Char) : Option (Lexer × List Token) :=
  if isSpace c then some (.between, [])
  else if c = '"' then some (.text [], [])
  else if startsNumber c then some (.number [c], [])
  else if isWordChar c then some (.word [c], [])
  else (punctuation c).map fun t => (.between, [t])

def Lexer.step (state : Lexer) (c : Char) : Option (Lexer × List Token) :=
  match state with
  | .between => Lexer.start c
  | .word read =>
      if isWordChar c then some (.word (c :: read), [])
      else (Lexer.start c).map fun (s, ts) => (s, .word read.reverse :: ts)
  | .number read =>
      if isNumberChar c then some (.number (c :: read), [])
      else (Lexer.start c).map fun (s, ts) => (s, .number read.reverse :: ts)
  | .text read =>
      if c = '"' then some (.between, [.text read.reverse])
      else if c = '\\' then some (.escape (c :: read), [])
      else if c.toNat < 32 then none
      else some (.text (c :: read), [])
  | .escape read => if c.toNat < 32 then none else some (.text (c :: read), [])

def Lexer.finish : Lexer → Option (List Token)
  | .between => some []
  | .word read => some [.word read.reverse]
  | .number read => some [.number read.reverse]
  | .text _ | .escape _ => none

def Lexer.run (state : Lexer) : List Char → Option (List Token)
  | [] => state.finish
  | c :: rest => do
      let (next, tokens) ← state.step c
      let more ← Lexer.run next rest
      some (tokens ++ more)

def tokens (text : List Char) : Option (List Token) := Lexer.between.run text

end ApiScreens.Json
