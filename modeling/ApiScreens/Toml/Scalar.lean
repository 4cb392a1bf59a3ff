import ApiScreens.Number.Decimal
import ApiScreens.Text.Piece
import ApiScreens.Toml.Table
import ApiScreens.Toml.Text

/-! Values without quotes or brackets: booleans, integers, floating point numbers, dates and times. A
number may have single underscores between its digits and no zero in front of others. -/
namespace ApiScreens.Toml
open Number

def grouped (base : Nat) (cs : Chars) : Option Chars :=
  let groups := Text.pieces (· == '_') cs
  if groups.all fun g => g ≠ [] && g.all (digitValue · < base) then some groups.flatten else none

def wholeDigits (cs : Chars) : Option Chars :=
  (grouped 10 cs).filter fun digits => digits.head? ≠ some '0' || digits.length == 1

def bounded (negative : Bool) (n : Nat) : Option Int :=
  if negative then if n ≤ Number.twoTo 127 then some (-n) else none
  else if n < Number.twoTo 128 then some n else none

def integer? (cs : Chars) : Option Int :=
  let based (base : Nat) (digits : Chars) : Option Int :=
    (grouped base digits).bind fun ds => bounded false (natOfDigits base ds)
  match cs with
  | '0' :: 'x' :: digits => based 16 digits
  | '0' :: 'o' :: digits => based 8 digits
  | '0' :: 'b' :: digits => based 2 digits
  | cs =>
      let (negative, digits) := sign cs
      (wholeDigits digits).bind fun ds => bounded negative (natOfDigits 10 ds)

def isExponent (cs : Chars) : Bool := (grouped 10 (sign cs).2).isSome

def isFloat (cs : Chars) : Bool :=
  let body := (sign cs).2
  let isMark (c : Char) : Bool := c == 'e' || c == 'E'
  let number := body.takeWhile (! isMark ·)
  let exponent := body.dropWhile (! isMark ·)
  let whole := number.takeWhile (· != '.')
  let fraction := number.dropWhile (· != '.')
  (wholeDigits whole).isSome &&
    (fraction = [] || (grouped 10 (fraction.drop 1)).isSome) &&
    (exponent = [] || isExponent (exponent.drop 1)) &&
    (fraction ≠ [] || exponent ≠ [])

def float? (cs : Chars) : Bool :=
  (sign cs).2 = ['i', 'n', 'f'] || (sign cs).2 = ['n', 'a', 'n'] ||
    (isFloat cs && (Binary64.ofText (cs.filter (· != '_'))).isSome)

def digits? (length : Nat) (cs : Chars) : Option (Nat × Chars) :=
  let ds := cs.take length
  if ds.length = length ∧ ds.all isDigit then some (natOfDigits 10 ds, cs.drop length) else none

def daysIn (year month : Nat) : Nat :=
  if month = 2 then
    if year % 4 = 0 ∧ (year % 100 ≠ 0 ∨ year % 400 = 0) then 29 else 28
  else if month = 4 ∨ month = 6 ∨ month = 9 ∨ month = 11 then 30
  else 31

def mark? (c : Char) : Chars → Option Chars
  | x :: rest => if x = c then some rest else none
  | [] => none

def date? (cs : Chars) : Option Chars := do
  let (year, cs) ← digits? 4 cs
  let (month, cs) ← digits? 2 (← mark? '-' cs)
  let (day, cs) ← digits? 2 (← mark? '-' cs)
  if 1 ≤ month ∧ month ≤ 12 ∧ 1 ≤ day ∧ day ≤ daysIn year month then some cs else none

def time? (cs : Chars) : Option Chars := do
  let (hour, cs) ← digits? 2 cs
  let (minute, cs) ← digits? 2 (← mark? ':' cs)
  if 23 < hour ∨ 59 < minute then none
  match mark? ':' cs with
  | none => some cs
  | some cs =>
      let (second, cs) ← digits? 2 cs
      if 60 < second then none
      match mark? '.' cs with
      | none => some cs
      | some cs => if cs.head?.any isDigit then some (cs.dropWhile isDigit) else none

def offset? : Chars → Option Chars
  | [] => some []
  | c :: rest =>
      if c = 'Z' ∨ c = 'z' then some rest
      else if c = '+' ∨ c = '-' then do
        let (hours, cs) ← digits? 2 rest
        let (minutes, cs) ← digits? 2 (← mark? ':' cs)
        if hours * 60 + minutes ≤ 24 * 60 then some cs else none
      else none

def isMoment (cs : Chars) : Bool :=
  match date? cs with
  | none => time? cs = some []
  | some [] => true
  | some (c :: rest) =>
      (c == 'T' || c == 't' || c == ' ') && ((time? rest).bind offset?) = some []

def isWordChar (c : Char) : Bool := isKeyChar c || c == '+' || c == '.' || c == ':'

def wordValue (word : Chars) : Option Value :=
  if word = "true".toList then some (.bool true)
  else if word = "false".toList then some (.bool false)
  else match integer? word with
    | some n => some (.integer n)
    | none => if float? word then some .float else if isMoment word then some .moment else none

def word (cs : Chars) : Option (Value × Chars) :=
  let first := cs.takeWhile isWordChar
  match date? first, cs.drop first.length with
  | some [], ' ' :: c :: rest =>
      if isDigit c then
        let time := (c :: rest).takeWhile isWordChar
        (wordValue (first ++ ' ' :: time)).map (·, (c :: rest).drop time.length)
      else (wordValue first).map (·, ' ' :: c :: rest)
  | _, rest => (wordValue first).map (·, rest)

end ApiScreens.Toml
