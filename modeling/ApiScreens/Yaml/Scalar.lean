import ApiScreens.Yaml.Cursor
import ApiScreens.Number.Digits

/-! Scalars in their four spellings: plain, in single or double quotes, and as a block of lines. Each
reader takes the place where the scalar begins and gives its text and the place behind it. -/
namespace ApiScreens.Yaml

def foldBreaks : List Char → List Char
  | ['\n'] => [' ']
  | '\n' :: more => more
  | breaks => breaks

def foldGap (gap : List Char) : List Char :=
  match gap.filter isBreak with
  | [] => gap
  | breaks => foldBreaks breaks

inductive QuotedPart where
  | char (c : Char)
  | white (c : Char)
  | joined
  deriving DecidableEq, Repr

def escape? : List Char → Option (Char × Nat)
  | [] => none
  | c :: rest =>
      let short (n : Nat) : Option (Char × Nat) := some (Char.ofNat n, 1)
      match c with
      | '0' => short 0
      | 'a' => short 7
      | 'b' => short 8
      | 't' | '\t' => short 9
      | 'n' => short 10
      | 'v' => short 11
      | 'f' => short 12
      | 'r' => short 13
      | 'e' => short 27
      | ' ' | '"' | '/' | '\\' => some (c, 1)
      | 'N' => short 0x85
      | '_' => short 0xa0
      | 'L' => short 0x2028
      | 'P' => short 0x2029
      | 'x' => (Number.codePoint 2 rest).map (·, 3)
      | 'u' => (Number.codePoint 4 rest).map (·, 5)
      | 'U' => (Number.codePoint 8 rest).map (·, 9)
      | _ => none

def quotedPart (double : Bool) (c : Char) (rest : List Char) : Option (QuotedPart × Nat) :=
  if double && c == '\\' then
    match rest with
    | x :: _ => if isBreak x then some (.joined, 1) else (escape? rest).map fun (e, n) => (.char e, n)
    | [] => none
  else if !double && c == '\'' then some (.char c, 1)
  else some (if isWhite c then .white c else .char c, 0)

def closes (double : Bool) (c : Char) (rest : List Char) : Bool :=
  if double then c == '"' else c == '\'' && rest.head? != some '\''

def quotedParts (double : Bool) : (skip : Nat) → (fresh : Bool) → List Char →
    Option (List QuotedPart × Nat)
  | _, _, [] => none
  | skip + 1, _, c :: rest =>
      (quotedParts double skip (isBreak c) rest).map fun (parts, n) => (parts, n + 1)
  | 0, fresh, c :: rest =>
      if (⟨c :: rest, 0, if fresh then 0 else 1, 0⟩ : Cursor).atDocumentMark then none
      else if closes double c rest then some ([], 1)
      else match quotedPart double c rest with
        | none => none
        | some (part, more) =>
            (quotedParts double more (isBreak c) rest).map fun (parts, n) => (part :: parts, n + 1)

def gapText (joined : Bool) (gap : List Char) : List Char :=
  if joined then gap.filter isBreak else foldGap gap

def quotedText (joined : Bool) (gap : List Char) : List QuotedPart → List Char
  | [] => gapText joined gap
  | .white c :: rest => quotedText joined (gap ++ [c]) rest
  | .char c :: rest => gapText joined gap ++ c :: quotedText false [] rest
  | .joined :: rest => gapText joined gap ++ quotedText true [] rest

def quoted (double : Bool) (c : Cursor) : Option (List Char × Cursor) :=
  let inside := c.next
  (quotedParts double 0 false inside.rest).map fun (parts, n) =>
    (quotedText false [] parts, inside.advance n)

def isFlowIndicator (c : Char) : Bool :=
  c == ',' || c == '[' || c == ']' || c == '{' || c == '}'

/-- One word of plain text. It ends before white space, a colon that ends a key and, in a flow
collection, an indicator. There a colon must not touch an indicator or a question mark. -/
def plainWord (flow : Bool) : List Char → Option (List Char)
  | [] => some []
  | c :: rest =>
      if isWhite c then some []
      else if c == ':' && flow && rest.head?.any (fun x => isFlowIndicator x || x == '?') then none
      else if c == ':' && endsWord rest then some []
      else if flow && isFlowIndicator c then some []
      else (plainWord flow rest).map (c :: ·)

def tabInIndentation (indent : Int) : (column : Option Nat) → List Char → Bool
  | _, [] => false
  | column, c :: rest =>
      if isBreak c then tabInIndentation indent (some 0) rest
      else match column with
        | none => tabInIndentation indent none rest
        | some n => (c == '\t' && (n : Int) < indent) || tabInIndentation indent (some (n + 1)) rest

def plainFrom (flow : Bool) (indent : Int) : (fuel : Nat) → (gap : List Char) → Cursor →
    Option (List Char × Cursor × Bool)
  | 0, _, _ => none
  | fuel + 1, gap, c =>
      if c.atDocumentMark || c.peek = some '#' then some ([], c, gap.any isBreak)
      else match plainWord flow c.rest with
        | none => none
        | some [] => some ([], c, gap.any isBreak)
        | some word =>
            let (space, after) := (c.advance word.length).takeWhile isWhite
            let text := foldGap gap ++ word
            if tabInIndentation indent none space then none
            else if space = [] || (!flow && (after.column : Int) < indent) then
              some (text, after, space.any isBreak)
            else (plainFrom flow indent fuel space after).map fun (more, d, crossed) =>
              (text ++ more, d, crossed)

def plain (flow : Bool) (indent : Int) (c : Cursor) : Option (List Char × Cursor × Bool) :=
  plainFrom flow indent (c.rest.length + 1) [] c

inductive Chomping where
  | strip | clip | keep
  deriving DecidableEq, Repr

def Chomping.ofChar : Char → Option Chomping
  | '+' => some .keep
  | '-' => some .strip
  | _ => none

structure BlockHeader where
  chomping : Chomping
  increment : Option Nat
  deriving DecidableEq, Repr

def incrementOf (c : Char) : Option Nat :=
  if '1' ≤ c ∧ c ≤ '9' then some (Number.digitValue c) else none

def BlockHeader.read : List Char → Option BlockHeader
  | [] => some ⟨.clip, none⟩
  | [c] => ((Chomping.ofChar c).map fun k => ⟨k, none⟩).or ((incrementOf c).map fun n => ⟨.clip, some n⟩)
  | [c, d] =>
      match Chomping.ofChar c, incrementOf d, incrementOf c, Chomping.ofChar d with
      | some k, some n, _, _ => some ⟨k, some n⟩
      | _, _, some n, some k => some ⟨k, some n⟩
      | _, _, _, _ => none
  | _ => none

structure BlockLine where
  text : List Char
  ends : List Char
  blank : List Char
  deriving DecidableEq, Repr

def blankLines (width : Option Nat) : (fuel : Nat) → (widest : Nat) → Cursor →
    Option (List Char × Nat × Cursor)
  | 0, _, _ => none
  | fuel + 1, widest, c =>
      let spaces := (c.rest.takeWhile (· == ' ')).length
      let d := c.advance (width.elim spaces fun w => min spaces (w - c.column))
      let widest := max widest d.column
      match d.peek with
      | some x =>
          if x == '\t' && width.all (d.column < ·) then none
          else if isBreak x then
            (blankLines width fuel widest d.next).map fun (breaks, w, e) => (x :: breaks, w, e)
          else some ([], widest, d)
      | none => some ([], widest, d)

def blockLines (width : Nat) : (fuel : Nat) → Cursor → Option (List BlockLine × Cursor)
  | 0, _ => none
  | fuel + 1, c =>
      if c.column = width && !c.atEnd then
        let (text, d) := c.takeWhile fun x => !isBreak x
        match blankLines (some width) (d.rest.length + 1) 0 d.next with
        | none => none
        | some (blank, _, e) =>
            (blockLines width fuel e).map fun (lines, f) => (⟨text, d.peek.toList, blank⟩ :: lines, f)
      else some ([], c)

def BlockLine.isIndented (l : BlockLine) : Bool := l.text.head?.any isBlank

def foldedBreak (l next : BlockLine) : List Char :=
  if l.ends = ['\n'] && !l.isIndented && !next.isIndented then
    if l.blank = [] then [' '] else []
  else l.ends

def blockText (literal : Bool) (chomping : Chomping) : List BlockLine → List Char
  | [] => []
  | [l] => l.text ++ match chomping with
      | .strip => []
      | .clip => l.ends
      | .keep => l.ends ++ l.blank
  | l :: next :: rest =>
      l.text ++ (if literal then l.ends else foldedBreak l next) ++ l.blank ++
        blockText literal chomping (next :: rest)

def block (literal : Bool) (indent : Int) (c : Cursor) : Option (List Char × Cursor) := do
  let (marks, c) := c.next.takeWhile fun x => !isWhite x && x != '#'
  let header ← BlockHeader.read marks
  let c := (c.dropWhile isBlank).dropComment
  if !c.atEnd && !c.peek.any isBreak then none
  let c := c.next
  let fuel := c.rest.length + 1
  let given := header.increment.map fun n => (if 0 ≤ indent then indent.toNat else 0) + n
  let (breaks, widest, d) ← blankLines given fuel 0 c
  let width := given.getD (max widest (max (indent + 1).toNat 1))
  let (lines, e) ← blockLines width fuel d
  match lines with
  | [] => some (if header.chomping = .keep then breaks else [], e)
  | lines => some (breaks ++ blockText literal header.chomping lines, e)

end ApiScreens.Yaml
