import ApiScreens.Number.Digits

/-! The characters of TOML text: white space, comments, quoted text and keys. Each reader gives what it
read and the rest of the text. -/
namespace ApiScreens.Toml

def isSpace (c : Char) : Bool := c == ' ' || c == '\t'

def isText (c : Char) : Bool := c == '\t' || (0x20 ≤ c.toNat && c.toNat != 0x7f)

def isKeyChar (c : Char) : Bool :=
  Number.isDigit c || ('a' ≤ c && c ≤ 'z') || ('A' ≤ c && c ≤ 'Z') || c == '_' || c == '-'

abbrev Chars := List Char

def skipSpace (cs : Chars) : Chars := cs.dropWhile isSpace

def newline? : Chars → Option Chars
  | '\n' :: rest => some rest
  | '\r' :: '\n' :: rest => some rest
  | _ => none

def skipComment : Chars → Chars
  | '#' :: rest => rest.dropWhile isText
  | cs => cs

def lineEnd (cs : Chars) : Option Chars :=
  match skipComment (skipSpace cs) with
  | [] => some []
  | rest => newline? rest

def skipLines : (fuel : Nat) → Chars → Chars
  | 0, cs => cs
  | fuel + 1, cs =>
      let rest := skipComment (skipSpace cs)
      match newline? rest with
      | some next => skipLines fuel next
      | none => rest

def skipGap (cs : Chars) : Chars := skipLines (cs.length + 1) cs

def escape? : Chars → Option (Char × Nat)
  | 'b' :: _ => some (Char.ofNat 8, 1)
  | 't' :: _ => some ('\t', 1)
  | 'n' :: _ => some ('\n', 1)
  | 'f' :: _ => some (Char.ofNat 12, 1)
  | 'r' :: _ => some ('\r', 1)
  | 'e' :: _ => some (Char.ofNat 27, 1)
  | '"' :: _ => some ('"', 1)
  | '\\' :: _ => some ('\\', 1)
  | 'x' :: rest => (Number.codePoint 2 rest).map (·, 3)
  | 'u' :: rest => (Number.codePoint 4 rest).map (·, 5)
  | 'U' :: rest => (Number.codePoint 8 rest).map (·, 9)
  | _ => none

def lineContinuation (cs : Chars) : Option Nat :=
  let rest := skipSpace cs
  (newline? rest).map fun _ =>
    cs.length - (rest.dropWhile fun c => isSpace c || c == '\n' || c == '\r').length

def basicText : (skip : Nat) → Chars → Option (Chars × Chars)
  | _, [] => none
  | skip + 1, _ :: rest => basicText skip rest
  | 0, c :: rest =>
      if c == '"' then some ([], rest)
      else if c == '\\' then
        match escape? rest with
        | none => none
        | some (e, n) => (basicText n rest).map fun (text, r) => (e :: text, r)
      else if isText c then (basicText 0 rest).map fun (text, r) => (c :: text, r)
      else none

def literalText : Chars → Option (Chars × Chars)
  | [] => none
  | c :: rest =>
      if c == '\'' then some ([], rest)
      else if isText c then (literalText rest).map fun (text, r) => (c :: text, r)
      else none

/-- The quotes that end a text of several lines are three, and up to two before them belong to it. -/
def closingQuotes (quote : Char) (cs : Chars) : Option (Chars × Chars) :=
  let quotes := (cs.takeWhile (· == quote)).length
  if quotes < 3 then none
  else
    let inside := min (quotes - 3) 2
    some (List.replicate inside quote, cs.drop (inside + 3))

def longText (quote : Char) : (skip : Nat) → Chars → Option (Chars × Chars)
  | _, [] => none
  | skip + 1, _ :: rest => longText quote skip rest
  | 0, c :: rest =>
      match closingQuotes quote (c :: rest) with
      | some closed => some closed
      | none =>
          if quote == '"' && c == '\\' then
            match lineContinuation rest, escape? rest with
            | some n, _ => longText quote n rest
            | none, some (e, n) => (longText quote n rest).map fun (text, r) => (e :: text, r)
            | none, none => none
          else if isText c || (newline? (c :: rest)).isSome then
            (longText quote (if c == '\r' then 1 else 0) rest).map fun (text, r) =>
              (if c == '\r' then '\n' :: text else c :: text, r)
          else none

def dropNewline (cs : Chars) : Chars := (newline? cs).getD cs

def quotedText : Chars → Option (Chars × Chars)
  | '"' :: '"' :: '"' :: rest => longText '"' 0 (dropNewline rest)
  | '"' :: rest => basicText 0 rest
  | '\'' :: '\'' :: '\'' :: rest => longText '\'' 0 (dropNewline rest)
  | '\'' :: rest => literalText rest
  | _ => none

def key : Chars → Option (String × Chars)
  | '"' :: rest => (basicText 0 rest).map fun (text, r) => (String.ofList text, r)
  | '\'' :: rest => (literalText rest).map fun (text, r) => (String.ofList text, r)
  | cs =>
      let name := cs.takeWhile isKeyChar
      if name = [] then none else some (String.ofList name, cs.drop name.length)

def dottedKeys : (fuel : Nat) → Chars → Option (List String × Chars)
  | 0, _ => none
  | fuel + 1, cs => do
      let (first, rest) ← key (skipSpace cs)
      match skipSpace rest with
      | '.' :: more =>
          let (others, r) ← dottedKeys fuel more
          some (first :: others, r)
      | rest => some ([first], rest)

def keys (cs : Chars) : Option (List String × Chars) := dottedKeys (cs.length + 1) cs

end ApiScreens.Toml
