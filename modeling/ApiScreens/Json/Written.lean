import ApiScreens.Json.Token
import ApiScreens.Json.Value

/-! A JSON text as it was written: members may repeat, and a leaf may denote no value, such as a number
beyond the finite ones or half of a surrogate pair. Readers decide which of this they admit. -/
namespace ApiScreens.Json
open Number (Binary64 isDigit digitValue natOfDigits ofDigits)

inductive Written where
  | null
  | bool (b : Bool)
  | number (n : Option Numeral)
  | string (s : Option String)
  | array (items : List Written)
  | object (members : List (Option String × Written))
  deriving Repr, Inhabited

def hexUnit (a b c d : Char) : Option Nat := ofDigits 16 [a, b, c, d]

def shortEscape : Char → Option Char
  | '"' => some '"'
  | '\\' => some '\\'
  | '/' => some '/'
  | 'b' => some (Char.ofNat 8)
  | 'f' => some (Char.ofNat 12)
  | 'n' => some '\n'
  | 'r' => some '\r'
  | 't' => some '\t'
  | _ => none

inductive Unit16 where
  | char (c : Char)
  | unit (n : Nat)
  deriving DecidableEq, Repr

def units : List Char → Option (List Unit16)
  | [] => some []
  | '\\' :: 'u' :: a :: b :: c :: d :: rest => do
      let n ← hexUnit a b c d
      (units rest).map (.unit n :: ·)
  | '\\' :: c :: rest => do
      let e ← shortEscape c
      (units rest).map (.char e :: ·)
  | '\\' :: [] => none
  | c :: rest => (units rest).map (.char c :: ·)

/-- The characters denoted: a high and a low surrogate together are one, and neither stands alone. -/
def joinUnits : List Unit16 → Option (List Char)
  | [] => some []
  | .char c :: rest => (joinUnits rest).map (c :: ·)
  | .unit n :: rest =>
      if 0xd800 ≤ n ∧ n < 0xdc00 then
        match rest with
        | .unit m :: more =>
            if 0xdc00 ≤ m ∧ m < 0xe000 then
              (joinUnits more).map (Char.ofNat (0x10000 + (n - 0xd800) * 0x400 + (m - 0xdc00)) :: ·)
            else none
        | _ => none
      else if 0xdc00 ≤ n ∧ n < 0xe000 then none
      else (joinUnits rest).map (Char.ofNat n :: ·)

def Written.ofText (chars : List Char) : Option Written :=
  (units chars).map fun us => .string ((joinUnits us).map String.ofList)

def Written.ofWord (letters : List Char) : Option Written :=
  if letters = "null".toList then some .null
  else if letters = "true".toList then some (.bool true)
  else if letters = "false".toList then some (.bool false)
  else none

structure Literal where
  negative : Bool
  whole : List Char
  fraction : Option (List Char)
  exponent : Option (Bool × List Char)
  deriving DecidableEq, Repr

def literalExponent (negative : Bool) (whole : List Char) (fraction : Option (List Char)) :
    List Char → Option Literal
  | [] => some ⟨negative, whole, fraction, none⟩
  | c :: rest =>
      if c = 'e' ∨ c = 'E' then
        let (below, digits) := match rest with
          | '-' :: ds => (true, ds)
          | '+' :: ds => (false, ds)
          | ds => (false, ds)
        if digits ≠ [] ∧ digits.all isDigit then
          some ⟨negative, whole, fraction, some (below, digits)⟩
        else none
      else none

def literal? (chars : List Char) : Option Literal :=
  let (negative, body) := match chars with
    | '-' :: rest => (true, rest)
    | rest => (false, rest)
  let whole := body.takeWhile isDigit
  let rest := body.dropWhile isDigit
  if whole = [] ∨ (whole.head? = some '0' ∧ 1 < whole.length) then none
  else match rest with
    | '.' :: more =>
        let fraction := more.takeWhile isDigit
        if fraction = [] then none
        else literalExponent negative whole (some fraction) (more.dropWhile isDigit)
    | more => literalExponent negative whole none more

/-- The digits that fit 64 bits, and how many of the others stood before the point. Later digits
change neither the significand nor, behind the point, the exponent. -/
structure Significand where
  value : Nat
  exponent : Int
  full : Bool
  deriving DecidableEq, Repr

def Significand.addWhole (s : Significand) (c : Char) : Significand :=
  if s.full then { s with exponent := s.exponent + 1 }
  else if s.value * 10 + digitValue c < Number.twoTo 64 then { s with value := s.value * 10 + digitValue c }
  else { s with exponent := s.exponent + 1, full := true }

def Significand.addFraction (s : Significand) (c : Char) : Significand :=
  if s.full then s
  else if s.value * 10 + digitValue c < Number.twoTo 64 then
    { s with value := s.value * 10 + digitValue c, exponent := s.exponent - 1 }
  else { s with full := true }

def Literal.significand (l : Literal) : Significand :=
  let whole := l.whole.foldl Significand.addWhole ⟨0, 0, false⟩
  (l.fraction.getD []).foldl Significand.addFraction { whole with full := false }

/-- `significand · 10^exponent` in the fewest roundings by exact powers up to `10^308`: each division
by `10^308` is rounded, and then the last product or quotient. -/
def scaleBy : Nat → Binary64 → Int → Option Binary64
  | 0, _, _ => none
  | fuel + 1, x, e =>
      if e.natAbs ≤ 308 then do
        let power ← Binary64.ofNat (Number.tenTo e.natAbs)
        if 0 ≤ e then x.mul power else x.div power
      else if x.magnitude = 0 then some x
      else if 0 ≤ e then none
      else do
        let power ← Binary64.ofNat (Number.tenTo 308)
        let y ← x.div power
        scaleBy fuel y (e + 308)

def Literal.binary (l : Literal) : Option Binary64 := do
  let s := l.significand
  let x ← Binary64.ofNat s.value
  let (below, size) := match l.exponent with
    | some (below, digits) => (below, natOfDigits 10 digits)
    | none => (false, 0)
  let y ←
    if Number.twoTo 31 ≤ size then
      if s.value = 0 ∨ below then some Binary64.zero else none
    else scaleBy 8 x (if below then s.exponent - size else s.exponent + size)
  some { y with negative := l.negative }

def Literal.numeral (l : Literal) : Option Numeral :=
  let n := natOfDigits 10 l.whole
  if l.fraction.isNone ∧ l.exponent.isNone ∧
      (if l.negative then 0 < n ∧ n ≤ Number.twoTo 63 else n < Number.twoTo 64) then
    some (.integer (if l.negative then -(n : Int) else n))
  else l.binary.map .binary

def Written.ofNumber (chars : List Char) : Option Written :=
  (literal? chars).map fun l => .number l.numeral

inductive Frame where
  | array (done : List Written)
  | object (done : List (Option String × Written)) (key : Option String)
  deriving Repr

inductive Expect where
  | value
  | item
  | firstKey (done : List (Option String × Written))
  | key (done : List (Option String × Written))
  | colon (done : List (Option String × Written)) (key : Option String)
  | next (done : Written ⊕ List (Option String × Written) ⊕ List Written)
  deriving Repr

structure Parser where
  frames : List Frame
  expect : Expect
  deriving Repr

def Parser.deliver (v : Written) : List Frame → Parser
  | [] => ⟨[], .next (.inl v)⟩
  | .array done :: outer => ⟨outer, .next (.inr (.inr (v :: done)))⟩
  | .object done key :: outer => ⟨outer, .next (.inr (.inl ((key, v) :: done)))⟩

def Parser.begin (frames : List Frame) : Token → Option Parser
  | .openBrace => some ⟨frames, .firstKey []⟩
  | .openBracket => some ⟨frames, .item⟩
  | .word letters => (Written.ofWord letters).map (Parser.deliver · frames)
  | .number chars => (Written.ofNumber chars).map (Parser.deliver · frames)
  | .text chars => (Written.ofText chars).map (Parser.deliver · frames)
  | _ => none

def keyOf (chars : List Char) : Option (Option String) :=
  (units chars).map fun us => (joinUnits us).map String.ofList

def Parser.step (p : Parser) (t : Token) : Option Parser :=
  match p.expect, t with
  | .value, t => Parser.begin p.frames t
  | .item, .closeBracket => some (Parser.deliver (.array []) p.frames)
  | .item, t => Parser.begin (.array [] :: p.frames) t
  | .firstKey done, .closeBrace => some (Parser.deliver (.object done.reverse) p.frames)
  | .firstKey done, .text chars => (keyOf chars).map fun k => ⟨p.frames, .colon done k⟩
  | .key done, .text chars => (keyOf chars).map fun k => ⟨p.frames, .colon done k⟩
  | .colon done key, .colon => some ⟨.object done key :: p.frames, .value⟩
  | .next (.inr (.inr done)), .comma => some ⟨.array done :: p.frames, .value⟩
  | .next (.inr (.inr done)), .closeBracket =>
      some (Parser.deliver (.array done.reverse) p.frames)
  | .next (.inr (.inl done)), .comma => some ⟨p.frames, .key done⟩
  | .next (.inr (.inl done)), .closeBrace =>
      some (Parser.deliver (.object done.reverse) p.frames)
  | _, _ => none

def Parser.run (p : Parser) : List Token → Option Parser
  | [] => some p
  | t :: rest => (p.step t).bind (Parser.run · rest)

def Written.ofTokens (ts : List Token) : Option Written :=
  match Parser.run ⟨[], .value⟩ ts with
  | some ⟨[], .next (.inl v)⟩ => some v
  | _ => none

def Written.read (text : List Char) : Option Written := (tokens text).bind Written.ofTokens

end ApiScreens.Json
