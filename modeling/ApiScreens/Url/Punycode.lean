import ApiScreens.Number.Digits
import ApiScreens.Number.Power

/-! Punycode: characters beyond ASCII written with letters and digits. The characters come in ascending
order; each group of digits says how far on the next one is, and where it is put. -/
namespace ApiScreens.Url.Punycode

def digit? (c : Char) : Option Nat :=
  if Number.isDigit c then some (c.toNat - 48 + 26)
  else if Number.digitValue c < 36 then some (Number.digitValue c - 10)
  else none

def threshold (k bias : Nat) : Nat := if k ≤ bias then 1 else min 26 (k - bias)

def reduce : (fuel : Nat) → (delta k : Nat) → Nat × Nat
  | 0, delta, k => (delta, k)
  | fuel + 1, delta, k => if 455 < delta then reduce fuel (delta / 35) (k + 36) else (delta, k)

def adapt (delta length : Nat) (first : Bool) : Nat :=
  let halved := if first then delta / 700 else delta / 2
  let (rest, k) := reduce 16 (halved + halved / length) 0
  k + 36 * rest / (rest + 38)

structure State where
  text : List Nat
  code : Nat := 128
  position : Nat := 0
  bias : Nat := 72
  origin : Nat := 0
  weight : Nat := 1
  place : Nat := 36
  deriving Repr

def State.insert (s : State) : Option State :=
  let length := s.text.length + 1
  let code := s.code + s.position / length
  let position := s.position % length
  if code.isValidChar then
    some { text := s.text.take position ++ code :: s.text.drop position
           code := code
           position := position + 1
           origin := position + 1
           bias := adapt (s.position - s.origin) length (s.origin == 0) }
  else none

def State.step (s : State) (d : Nat) : Option State :=
  let s := { s with position := s.position + d * s.weight }
  if Number.twoTo 32 ≤ s.position then none
  else
    let t := threshold s.place s.bias
    if d < t then s.insert
    else some { s with weight := s.weight * (36 - t), place := s.place + 36 }

def State.run (s : State) : List Char → Option (List Nat)
  | [] => if s.weight = 1 then some s.text else none
  | c :: rest => do
      let d ← digit? c
      (← s.step d).run rest

def decode (text : List Char) : Option (List Nat) :=
  let digits := (text.reverse.takeWhile (· != '-')).reverse
  let plain := text.take (text.length - digits.length - 1)
  if digits.length = text.length || plain ≠ [] then
    State.run { text := plain.map Char.toNat } digits
  else none

end ApiScreens.Url.Punycode
