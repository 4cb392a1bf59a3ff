import ApiScreens.Json.Value
import ApiScreens.Number.Layout

/-! JSON text: compact, or with one member or item to a line. -/
namespace ApiScreens.Json
open Number (Layout)

/-- Numbers are positional for exponents from -5 to 15 and always show a fraction. -/
def numberLayout : Layout := { plainFrom := -5, plainBelow := 16, signedExponent := true }

def hexDigit (n : Nat) : Char := Char.ofNat (if n < 10 then 48 + n else 87 + n)

def escapeChar (c : Char) : List Char :=
  if c = '"' then ['\\', '"']
  else if c = '\\' then ['\\', '\\']
  else if c = '\n' then ['\\', 'n']
  else if c = '\r' then ['\\', 'r']
  else if c = '\t' then ['\\', 't']
  else if c.toNat = 8 then ['\\', 'b']
  else if c.toNat = 12 then ['\\', 'f']
  else if c.toNat < 32 then ['\\', 'u', '0', '0', hexDigit (c.toNat / 16), hexDigit (c.toNat % 16)]
  else [c]

def quoted (s : String) : List Char := ['"'] ++ s.toList.flatMap escapeChar ++ ['"']

def integerText (n : Int) : List Char :=
  (if n < 0 then ['-'] else []) ++ Number.digitText (Number.decimalDigits n.natAbs)

def Numeral.text : Numeral → List Char
  | .integer n => integerText n
  | .binary x => numberLayout.render x

structure Style where
  indent : Option (List Char)
  deriving DecidableEq, Repr

namespace Style

def compact : Style := ⟨none⟩
def pretty : Style := ⟨some [' ', ' ']⟩
def tabbed : Style := ⟨some ['\t']⟩

def line (style : Style) (level : Nat) : List Char :=
  match style.indent with
  | none => []
  | some unit => '\n' :: (List.replicate level unit).flatten

def colon (style : Style) : List Char :=
  match style.indent with
  | none => [':']
  | some _ => [':', ' ']

end Style

mutual
def Value.write (style : Style) (level : Nat) : Value → List Char
  | .null => "null".toList
  | .bool true => "true".toList
  | .bool false => "false".toList
  | .number n => n.text
  | .string s => quoted s
  | .array [] => ['[', ']']
  | .array (x :: xs) =>
      '[' :: style.line (level + 1) ++ Value.write style (level + 1) x ++
        Value.writeItems style (level + 1) xs ++ style.line level ++ [']']
  | .object [] => ['{', '}']
  | .object ((k, v) :: ms) =>
      '{' :: style.line (level + 1) ++ quoted k ++ style.colon ++ Value.write style (level + 1) v ++
        Value.writeMembers style (level + 1) ms ++ style.line level ++ ['}']
def Value.writeItems (style : Style) (level : Nat) : List Value → List Char
  | [] => []
  | x :: xs =>
      ',' :: style.line level ++ Value.write style level x ++ Value.writeItems style level xs
def Value.writeMembers (style : Style) (level : Nat) : List (String × Value) → List Char
  | [] => []
  | (k, v) :: ms =>
      ',' :: style.line level ++ quoted k ++ style.colon ++ Value.write style level v ++
        Value.writeMembers style level ms
end

def Value.compact (v : Value) : String := String.ofList (v.write Style.compact 0)
def Value.pretty (v : Value) : String := String.ofList (v.write Style.pretty 0)
def Value.tabbed (v : Value) : String := String.ofList (v.write Style.tabbed 0)

end ApiScreens.Json
