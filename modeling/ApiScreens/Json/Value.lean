import ApiScreens.Number.Binary64

/-! JSON values. Objects keep the order of their members. Reading a document and setting a member
never repeat a key; a list of members as such may. -/
namespace ApiScreens.Json
open Number (Binary64)

/-- An integer is kept apart from a number that was written with a fraction or an exponent. -/
inductive Numeral where
  | integer (n : Int)
  | binary (x : Binary64)
  deriving DecidableEq, Repr

inductive Value where
  | null
  | bool (b : Bool)
  | number (n : Numeral)
  | string (s : String)
  | array (items : List Value)
  | object (members : List (String × Value))
  deriving Repr, Inhabited

abbrev Members := List (String × Value)

mutual
def Value.decEq : (a b : Value) → Decidable (a = b)
  | .null, .null => isTrue rfl
  | .bool a, .bool b => if h : a = b then isTrue (h ▸ rfl) else isFalse fun e => h (by injection e)
  | .number a, .number b => if h : a = b then isTrue (h ▸ rfl) else isFalse fun e => h (by injection e)
  | .string a, .string b => if h : a = b then isTrue (h ▸ rfl) else isFalse fun e => h (by injection e)
  | .array a, .array b => match Value.decEqItems a b with
    | isTrue h => isTrue (h ▸ rfl)
    | isFalse h => isFalse fun e => h (by injection e)
  | .object a, .object b => match Value.decEqMembers a b with
    | isTrue h => isTrue (h ▸ rfl)
    | isFalse h => isFalse fun e => h (by injection e)
  | .null, .bool _ | .null, .number _ | .null, .string _ | .null, .array _ | .null, .object _
  | .bool _, .null | .bool _, .number _ | .bool _, .string _ | .bool _, .array _
  | .bool _, .object _ | .number _, .null | .number _, .bool _ | .number _, .string _
  | .number _, .array _ | .number _, .object _ | .string _, .null | .string _, .bool _
  | .string _, .number _ | .string _, .array _ | .string _, .object _ | .array _, .null
  | .array _, .bool _ | .array _, .number _ | .array _, .string _ | .array _, .object _
  | .object _, .null | .object _, .bool _ | .object _, .number _ | .object _, .string _
  | .object _, .array _ => isFalse fun e => by injection e
def Value.decEqItems : (a b : List Value) → Decidable (a = b)
  | [], [] => isTrue rfl
  | [], _ :: _ | _ :: _, [] => isFalse fun e => by injection e
  | x :: xs, y :: ys => match Value.decEq x y, Value.decEqItems xs ys with
    | isTrue h, isTrue g => isTrue (h ▸ g ▸ rfl)
    | isFalse h, _ => isFalse fun e => h (by injection e)
    | _, isFalse g => isFalse fun e => g (by injection e)
def Value.decEqMembers : (a b : List (String × Value)) → Decidable (a = b)
  | [], [] => isTrue rfl
  | [], _ :: _ | _ :: _, [] => isFalse fun e => by injection e
  | (k, x) :: xs, (l, y) :: ys => match instDecidableEqString k l, Value.decEq x y, Value.decEqMembers xs ys with
    | isTrue f, isTrue h, isTrue g => isTrue (f ▸ h ▸ g ▸ rfl)
    | isFalse h, _, _ => isFalse fun e => h (by injection e with e; injection e)
    | _, isFalse h, _ => isFalse fun e => h (by injection e with e; injection e)
    | _, _, isFalse g => isFalse fun e => g (by injection e)
end

instance : DecidableEq Value := Value.decEq

namespace Members

def get? (ms : Members) (key : String) : Option Value := ms.lookup key

def set (ms : Members) (key : String) (v : Value) : Members :=
  match ms with
  | [] => [(key, v)]
  | (k, w) :: rest => if k = key then (k, v) :: rest else (k, w) :: set rest key v

def ofPairs (pairs : List (String × Value)) : Members :=
  pairs.foldl (fun ms p => set ms p.1 p.2) []

def keys (ms : Members) : List String := ms.map (·.1)

end Members

namespace Value

def members? : Value → Option Members
  | .object ms => some ms
  | _ => none

def items? : Value → Option (List Value)
  | .array xs => some xs
  | _ => none

def string? : Value → Option String
  | .string s => some s
  | _ => none

def bool? : Value → Option Bool
  | .bool b => some b
  | _ => none

def get? (v : Value) (key : String) : Option Value :=
  match v with
  | .object ms => Members.get? ms key
  | _ => none

def natural? : Value → Option Nat
  | .number (.integer n) => if 0 ≤ n ∧ n < Number.twoTo 64 then some n.toNat else none
  | _ => none

def ofNat (n : Nat) : Value := .number (.integer n)

def isObject (v : Value) : Bool := v.members?.isSome

end Value
end ApiScreens.Json
