import ApiScreens.Number.Shortest

/-! How the digits of a number are laid out: which exponents are written positionally and how the
others carry their exponent. -/
namespace ApiScreens.Number

structure Layout where
  plainFrom : Int
  plainBelow : Int
  signedExponent : Bool
  deriving DecidableEq, Repr

def positional (d : Decimal) : List Char :=
  let text := digitText d.digits
  if d.exponent < 0 then
    ['0', '.'] ++ List.replicate (-d.exponent - 1).toNat '0' ++ text
  else
    let whole := d.exponent.toNat + 1
    if text.length ≤ whole then text ++ List.replicate (whole - text.length) '0' ++ ['.', '0']
    else text.take whole ++ ['.'] ++ text.drop whole

def scientific (signed : Bool) (d : Decimal) : List Char :=
  let text := digitText d.digits
  let mantissa := match text with
    | [] => []
    | [c] => [c]
    | c :: rest => c :: '.' :: rest
  let sign := if d.exponent < 0 then ['-'] else if signed then ['+'] else []
  mantissa ++ ['e'] ++ sign ++ digitText (decimalDigits d.exponent.natAbs)

def Layout.render (layout : Layout) (x : Binary64) : List Char :=
  let d := shortest x
  let sign := if x.negative then ['-'] else []
  if layout.plainFrom ≤ d.exponent && d.exponent < layout.plainBelow then sign ++ positional d
  else sign ++ scientific layout.signedExponent d

end ApiScreens.Number
