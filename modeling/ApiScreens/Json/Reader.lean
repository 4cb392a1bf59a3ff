import ApiScreens.Json.Written

/-! Reading JSON text as a value. A repeated key keeps its first place and its last value; a leaf that
denotes nothing and nesting beyond the limit are refused. -/
namespace ApiScreens.Json

def depthLimit : Nat := 127

mutual
def Written.value? (depth : Nat) : Written → Option Value
  | .null => some .null
  | .bool b => some (.bool b)
  | .number n => n.map .number
  | .string s => s.map .string
  | .array items =>
      if depth = 0 then none else (Written.values? (depth - 1) items).map .array
  | .object members =>
      if depth = 0 then none
      else (Written.pairs? (depth - 1) members).map fun ps => .object (Members.ofPairs ps)
def Written.values? (depth : Nat) : List Written → Option (List Value)
  | [] => some []
  | w :: rest => do
      let v ← Written.value? depth w
      let vs ← Written.values? depth rest
      some (v :: vs)
def Written.pairs? (depth : Nat) : List (Option String × Written) → Option (List (String × Value))
  | [] => some []
  | (key, w) :: rest => do
      let k ← key
      let v ← Written.value? depth w
      let more ← Written.pairs? depth rest
      some ((k, v) :: more)
end

mutual
def Written.ofValue : Value → Written
  | .null => .null
  | .bool b => .bool b
  | .number n => .number (some n)
  | .string s => .string (some s)
  | .array items => .array (Written.ofValues items)
  | .object members => .object (Written.ofMembers members)
def Written.ofValues : List Value → List Written
  | [] => []
  | v :: rest => Written.ofValue v :: Written.ofValues rest
def Written.ofMembers : List (String × Value) → List (Option String × Written)
  | [] => []
  | (k, v) :: rest => (some k, Written.ofValue v) :: Written.ofMembers rest
end

def Value.parse (text : String) : Option Value :=
  (Written.read text.toList).bind (Written.value? depthLimit)

end ApiScreens.Json
