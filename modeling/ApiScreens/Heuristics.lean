/-! Numbers and switches that steer what is derived from a schema. They are advice, so no value of
them is refused. -/
namespace ApiScreens

structure Heuristics where
  complexFieldCount : Nat := 5
  longTextMaxLength : Nat := 200
  searchFieldCap : Nat := 3
  textareaMaxLength : Nat := 100
  analyzeTab : Bool := false
  deriving DecidableEq, Repr

end ApiScreens
