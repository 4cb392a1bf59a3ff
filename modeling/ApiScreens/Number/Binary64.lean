import ApiScreens.Number.Power

/-! Binary floating point numbers of 64 bits, as exact rationals of natural numbers. Every operation
is the exact result rounded once to the nearest number, ties to the even significand. Infinities
and not-a-number are no values here: an operation that would give one gives nothing. -/
namespace ApiScreens.Number

structure Binary64 where
  negative : Bool
  magnitude : Nat
  deriving DecidableEq, Repr, Inhabited

namespace Binary64

def leastExponent : Int := -1074

def infinity : Nat := 2047 * twoTo 52

def zero : Binary64 := ⟨false, 0⟩

def parts (x : Binary64) : Nat × Int :=
  let field : Nat := x.magnitude / twoTo 52
  let fraction := x.magnitude % twoTo 52
  if field = 0 then (fraction, leastExponent) else (fraction + twoTo 52, (field : Int) - 1075)

def ratio (m : Nat) (q : Int) : Nat × Nat :=
  if 0 ≤ q then (m * twoTo q.toNat, 1) else (m, twoTo (-q).toNat)

def roundDiv (num den : Nat) : Nat :=
  let low := num / den
  let rest := 2 * (num % den)
  if rest < den then low
  else if den < rest then low + 1
  else if low % 2 = 0 then low else low + 1

def scaled (num den : Nat) (q : Int) : Nat :=
  if 0 ≤ q then roundDiv num (den * twoTo q.toNat) else roundDiv (num * twoTo (-q).toNat) den

/-- Exponent of the last place for the quotient: 53 bits stand before it, or fewer at the bottom. -/
def placeOf (num den : Nat) : Int :=
  let guess : Int := (Nat.log2 num : Int) - (Nat.log2 den : Int) - 52
  let (n, d) := if 0 ≤ guess then (num, den * twoTo guess.toNat) else (num * twoTo (-guess).toNat, den)
  max leastExponent (if n < d * twoTo 52 then guess - 1 else guess)

def nearest (negative : Bool) (num den : Nat) : Option Binary64 :=
  if num = 0 then some ⟨negative, 0⟩
  else
    let q := placeOf num den
    let m := scaled num den q
    let magnitude := if m < twoTo 52 then m else (q + 1075).toNat * twoTo 52 + (m - twoTo 52)
    if magnitude < infinity then some ⟨negative, magnitude⟩ else none

def absRatio (x : Binary64) : Nat × Nat := ratio x.parts.1 x.parts.2

def mul (x y : Binary64) : Option Binary64 :=
  nearest (x.negative != y.negative) (x.absRatio.1 * y.absRatio.1) (x.absRatio.2 * y.absRatio.2)

def div (x y : Binary64) : Option Binary64 :=
  if y.magnitude = 0 then none
  else nearest (x.negative != y.negative)
    (x.absRatio.1 * y.absRatio.2) (x.absRatio.2 * y.absRatio.1)

def neg (x : Binary64) : Binary64 := { x with negative := !x.negative }

def ofNat (n : Nat) : Option Binary64 := nearest false n 1

def ofDecimal (negative : Bool) (digits : Nat) (exponent : Int) : Option Binary64 :=
  if digits = 0 then some ⟨negative, 0⟩
  else if exponent > 400 then none
  else if exponent + ((Nat.log2 digits : Int) + 1) < -1200 then some ⟨negative, 0⟩
  else if 0 ≤ exponent then nearest negative (digits * tenTo exponent.toNat) 1
  else nearest negative digits (tenTo (-exponent).toNat)

end Binary64
end ApiScreens.Number
