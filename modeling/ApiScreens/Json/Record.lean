import ApiScreens.Json.Reader

/-! Reading records from JSON. A record is an object with named fields or an array of its fields in
order. Unknown members are passed over, a field given twice is refused, and a missing field stands
for its default if it has one. -/
namespace ApiScreens.Json

namespace Written

def string? : Written → Option String
  | .string s => s
  | _ => none

def bool? : Written → Option Bool
  | .bool b => some b
  | _ => none

def natural? (bound : Nat) : Written → Option Nat
  | .number (some (.integer n)) => if 0 ≤ n ∧ n < bound then some n.toNat else none
  | _ => none

def u32? (w : Written) : Option UInt32 := (w.natural? (Number.twoTo 32)).map .ofNat

def u64? (w : Written) : Option UInt64 := (w.natural? (Number.twoTo 64)).map .ofNat

def constant? : Written → Option String
  | .string s => s
  | .object [(key, .null)] => key
  | _ => none

def list? {α : Type} (read : Written → Option α) : Written → Option (List α)
  | .array items => items.mapM read
  | _ => none

def members? : Written → Option (List (String × Written))
  | .object ms => ms.mapM fun (key, w) => key.map (·, w)
  | _ => none

end Written

def given (ms : List (String × Written)) (key : String) : List Written :=
  (ms.filter (·.1 = key)).map (·.2)

def namedFields (names : List String) (ms : List (String × Written)) :
    Option (List (Option Written)) :=
  names.mapM fun name =>
    match given ms name with
    | [] => some none
    | [w] => some (some w)
    | _ => none

def Written.fields (names : List String) : Written → Option (List (Option Written))
  | .array items =>
      if items.length ≤ names.length then
        some (items.map some ++ List.replicate (names.length - items.length) none)
      else none
  | w => w.members?.bind (namedFields names)

def needed {α : Type} (read : Written → Option α) (field : Option Written) : Option α :=
  field.bind read

def defaulted {α : Type} (default : α) (read : Written → Option α) : Option Written → Option α
  | none => some default
  | some w => read w

def nullable {α : Type} (read : Written → Option α) : Option Written → Option (Option α)
  | none => some none
  | some .null => some none
  | some w => (read w).map some

def present (fields : List (String × Option Value)) : Members :=
  fields.filterMap fun (name, v) => v.map (name, ·)

end ApiScreens.Json
