import ApiScreens.Number.Binary64
import ApiScreens.Number.Digits

/-! Decimal numerals as text: an optional sign, digits with or without a point, and an optional exponent.
The numeral stands for the binary number nearest to it. -/
namespace ApiScreens.Number

def sign : List Char → Bool × List Char
  | '-' :: rest => (true, rest)
  | '+' :: rest => (false, rest)
  | rest => (false, rest)

def power : List Char → Option Int
  | [] => some 0
  | c :: rest =>
      if c = 'e' ∨ c = 'E' then
        let (below, digits) := sign rest
        (ofDigits 10 digits).map fun n => if below then -(n : Int) else n
      else none

namespace Binary64

def ofText (text : List Char) : Option Binary64 := do
  let (negative, body) := sign text
  let whole := body.takeWhile isDigit
  let rest := body.dropWhile isDigit
  let (fraction, rest) := match rest with
    | '.' :: more => (more.takeWhile isDigit, more.dropWhile isDigit)
    | more => ([], more)
  let digits ← ofDigits 10 (whole ++ fraction)
  let exponent ← power rest
  ofDecimal negative digits (exponent - fraction.length)

end Binary64
end ApiScreens.Number
