import ApiScreens.Number.Binary64

/-! The fewest decimal digits that read back to a binary number, and of those the nearest to it.
Layout is left to the formats that print them. -/
namespace ApiScreens.Number

structure Decimal where
  digits : List Nat
  exponent : Int
  deriving DecidableEq, Repr

def digitsOf : Nat → Nat → List Nat
  | 0, _ => []
  | fuel + 1, n => if n < 10 then [n] else digitsOf fuel (n / 10) ++ [n % 10]

def decimalDigits (n : Nat) : List Nat := digitsOf (n + 1).log2.succ n

namespace Shortest

/-- The numbers that round to `m · 2^q` in quarters of its last place: from `low` to `high`, the ends
included when `m` is even. Below a power of two the neighbours stand closer. -/
structure Interval where
  low : Nat
  high : Nat
  closed : Bool
  deriving DecidableEq, Repr

def interval (m : Nat) (q : Int) : Interval :=
  { low := if m = twoTo 52 && Binary64.leastExponent < q then 4 * m - 1 else 4 * m - 2
    high := 4 * m + 2
    closed := m % 2 = 0 }

def sides (a : Nat) (k : Int) (b : Nat) (q : Int) : Nat × Nat :=
  (4 * a * (if 0 ≤ k then tenTo k.toNat else 1) * (if 0 ≤ q then 1 else twoTo (-q).toNat),
   b * (if 0 ≤ q then twoTo q.toNat else 1) * (if 0 ≤ k then 1 else tenTo (-k).toNat))

def within (i : Interval) (q : Int) (a : Nat) (k : Int) : Bool :=
  let (x, low) := sides a k i.low q
  let (y, high) := sides a k i.high q
  if i.closed then low ≤ x && y ≤ high else low < x && y < high

def leadingExponent (num den : Nat) : Int :=
  if den ≤ num then ((decimalDigits (num / den)).length : Int) - 1
  else
    let gap := (decimalDigits den).length - (decimalDigits num).length
    if den ≤ num * tenTo gap then -(gap : Int) else -(gap + 1 : Int)

def onGrid (i : Interval) (m : Nat) (q k : Int) : Option Nat :=
  let (num, den) := Binary64.ratio m q
  let (n, d) := if 0 ≤ k then (num, den * tenTo k.toNat) else (num * tenTo (-k).toNat, den)
  let below := n / d
  let hits := [below, below + 1].filter (within i q · k)
  match hits with
  | [a, b] => some (if Binary64.roundDiv n d = a then a else b)
  | [a] => some a
  | _ => none

def search (i : Interval) (m : Nat) (q lead : Int) : Nat → Nat → Nat × Int
  | 0, _ => (0, 0)
  | fuel + 1, count =>
      let k := lead - count
      match onGrid i m q k with
      | some a => (a, k)
      | none => search i m q lead fuel (count + 1)

end Shortest

def dropTrailingZeros (digits : List Nat) : List Nat :=
  (digits.reverse.dropWhile (· == 0)).reverse

def shortest (x : Binary64) : Decimal :=
  if x.magnitude = 0 then ⟨[0], 0⟩
  else
    let (m, q) := x.parts
    let (num, den) := Binary64.ratio m q
    let lead := Shortest.leadingExponent num den
    let (a, k) := Shortest.search (Shortest.interval m q) m q lead 18 0
    let digits := decimalDigits a
    ⟨dropTrailingZeros digits, k + (digits.length : Int) - 1⟩

def digitText (digits : List Nat) : List Char := digits.map fun d => Char.ofNat (48 + d)

end ApiScreens.Number
