/-! Digits and the numbers they spell in a base of up to 36. -/
namespace ApiScreens.Number

def isDigit (c : Char) : Bool := '0' ≤ c && c ≤ '9'

def digitValue (c : Char) : Nat :=
  if isDigit c then c.toNat - 48
  else if 'a' ≤ c ∧ c ≤ 'z' then c.toNat - 87
  else if 'A' ≤ c ∧ c ≤ 'Z' then c.toNat - 55
  else 36

def natOfDigits (base : Nat) (digits : List Char) : Nat :=
  digits.foldl (fun n c => n * base + digitValue c) 0

def ofDigits (base : Nat) (digits : List Char) : Option Nat :=
  if digits ≠ [] ∧ digits.all (digitValue · < base) then some (natOfDigits base digits) else none

def codePoint (length : Nat) (digits : List Char) : Option Char := do
  let spelled := digits.take length
  let n ← ofDigits 16 spelled
  if spelled.length = length ∧ n.isValidChar then some (Char.ofNat n) else none

end ApiScreens.Number
