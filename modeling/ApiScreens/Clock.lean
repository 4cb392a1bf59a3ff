import ApiScreens.Number.Power
import ApiScreens.Text.Piece

/-! Moments of universal time and how file names spell them. -/
namespace ApiScreens

structure Instant where
  nanoseconds : Nat
  deriving DecidableEq, Repr

structure Day where
  year : Nat
  month : Nat
  day : Nat
  deriving DecidableEq, Repr

/-- The day that is `n` days after the first of 1970. Years are counted from March in eras of 400. -/
def Day.after (n : Nat) : Day :=
  let shifted := n + 719468
  let era := shifted / 146097
  let inEra := shifted % 146097
  let yearOfEra := (inEra - inEra / 1460 + inEra / 36524 - inEra / 146096) / 365
  let inYear := inEra - (365 * yearOfEra + yearOfEra / 4 - yearOfEra / 100)
  let fromMarch := (5 * inYear + 2) / 153
  let month := if fromMarch < 10 then fromMarch + 3 else fromMarch - 9
  { year := yearOfEra + era * 400 + (if month ≤ 2 then 1 else 0)
    month := month
    day := inYear - (153 * fromMarch + 2) / 5 + 1 }

def padded (width n : Nat) : String :=
  let digits := toString n
  String.ofList (List.replicate (width - digits.length) '0') ++ digits

namespace Instant

def second (t : Instant) : Nat := t.nanoseconds / Number.tenTo 9

def fraction (t : Instant) : String :=
  Text.withoutTrailing '0' (padded 9 (t.nanoseconds % Number.tenTo 9))

def stamp (t : Instant) : String :=
  let date := Day.after (t.second / 86400)
  let time := t.second % 86400
  if 9999 < date.year then toString t.second
  else
    padded 4 date.year ++ "-" ++ padded 2 date.month ++ "-" ++ padded 2 date.day ++ "T" ++
      padded 2 (time / 3600) ++ "-" ++ padded 2 (time / 60 % 60) ++ "-" ++ padded 2 (time % 60) ++
      (if t.fraction = "" then "" else "-" ++ t.fraction) ++ "Z"

def duration (start finish : Instant) : String :=
  let hundredths := (finish.nanoseconds - start.nanoseconds + 5 * Number.tenTo 6) / Number.tenTo 7
  toString (hundredths / 100) ++ "." ++ padded 2 (hundredths % 100) ++ "s"

end Instant
end ApiScreens
