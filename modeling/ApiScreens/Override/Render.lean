import ApiScreens.Json.Printer
import ApiScreens.Override.Grammar
import ApiScreens.SortedMap
import ApiScreens.Text.Case
import ApiScreens.Text.Shown

/-! What an override prints. A name that the page does not provide may be tested and given a default,
but printing it, asking whether it holds, looping over it or looking inside it fails. -/
namespace ApiScreens.Override
open Json (Value Numeral Members)
open Number (Binary64)

inductive Fault where
  | undefined
  | unknownFilter (name : String)
  | unknownTest (name : String)
  | unsuited
  deriving DecidableEq, Repr

abbrev Datum := Option Value

abbrev Scope := List (String × Datum)

def lookup (scope : Scope) (name : String) : Datum := (scope.lookup name).join

def demand : Datum → Except Fault Value
  | some v => .ok v
  | none => .error .undefined

def numberLayout : Number.Layout := Json.numberLayout

def numeralText : Numeral → String
  | .integer n => String.ofList (Json.integerText n)
  | .binary x => String.ofList (numberLayout.render x)

def boolText (b : Bool) : String := if b then "True" else "False"

mutual
def inner : Value → String
  | .null => "None"
  | .bool b => boolText b
  | .number n => numeralText n
  | .string s => Text.shown s
  | .array items => "[" ++ Text.joinWith ", " (inners items) ++ "]"
  | .object ms =>
      let shown := (SortedMap.ofList (innerMembers ms)).entries
      "\x7b" ++ Text.joinWith ", " (shown.map fun (k, v) => Text.shown k ++ ": " ++ v) ++ "\x7d"
def inners : List Value → List String
  | [] => []
  | v :: rest => inner v :: inners rest
def innerMembers : List (String × Value) → List (String × String)
  | [] => []
  | (k, v) :: rest => (k, inner v) :: innerMembers rest
end

def display : Value → String
  | .string s => s
  | v => inner v

def rational : Numeral → Int × Nat
  | .integer n => (n, 1)
  | .binary x => (if x.negative then -(x.absRatio.1 : Int) else x.absRatio.1, x.absRatio.2)

def binary (num : Int) (den : Nat) : Except Fault Value :=
  match Binary64.nearest (num < 0) num.natAbs den with
  | some x => .ok (.number (.binary x))
  | none => .error .unsuited

def isInteger : Numeral → Bool
  | .integer _ => true
  | .binary _ => false

def sameKind (a b : Numeral) (num : Int) (den : Nat) : Except Fault Value :=
  if isInteger a && isInteger b then .ok (.number (.integer num)) else binary num den

def holds : Value → Bool
  | .null => false
  | .bool b => b
  | .number n => (rational n).1 ≠ 0
  | .string s => s ≠ ""
  | .array items => !items.isEmpty
  | .object ms => !ms.isEmpty

def truth (d : Datum) : Except Fault Bool := (demand d).map holds

def arithmetic (op : Operator) (a b : Numeral) : Except Fault Value :=
  let (m, d) := rational a
  let (n, e) := rational b
  match op with
  | .add => sameKind a b (m * e + n * d) (d * e)
  | .sub => sameKind a b (m * e - n * d) (d * e)
  | .mul => sameKind a b (m * n) (d * e)
  | .div => if n = 0 then .error .unsuited else binary (m * e * n.sign) (d * n.natAbs)
  | .floorDiv =>
      if n = 0 then .error .unsuited
      else sameKind a b ((m * e).fdiv (n * d)) 1
  | .rem =>
      if n = 0 then .error .unsuited
      else if isInteger a && isInteger b then .ok (.number (.integer (m.emod n)))
      else .error .unsuited
  | .pow =>
      if isInteger a && isInteger b && 0 ≤ n && n ≤ 128 then .ok (.number (.integer (Int.pow m n.toNat)))
      else .error .unsuited
  | _ => .error .unsuited

def less : Value → Value → Bool
  | .number a, .number b =>
      (rational a).1 * (rational b).2 < (rational b).1 * (rational a).2
  | .string a, .string b => a < b
  | _, _ => false

def same : Value → Value → Bool
  | .number a, .number b =>
      (rational a).1 * (rational b).2 = (rational b).1 * (rational a).2
  | a, b => a = b

def member (v : Value) : Value → Except Fault Bool
  | .array items => .ok (items.any (same v))
  | .string s => .ok (match v with
    | .string part => Text.has s part
    | _ => false)
  | .object ms => .ok (match v with
    | .string key => (Members.get? ms key).isSome
    | _ => false)
  | _ => .error .unsuited

def operate (op : Operator) (a b : Datum) : Except Fault Value :=
  match op with
  | .eq => .ok (.bool (match a, b with
    | some a, some b => same a b
    | none, none => true
    | _, _ => false))
  | .ne => .ok (.bool (match a, b with
    | some a, some b => !same a b
    | none, none => false
    | _, _ => true))
  | .join => .ok (.string ((a.map display).getD "" ++ (b.map display).getD ""))
  | op => do
      let a ← demand a
      let b ← demand b
      match op, a, b with
      | .lt, a, b => .ok (.bool (less a b))
      | .gt, a, b => .ok (.bool (less b a))
      | .le, a, b => .ok (.bool (less a b || same a b))
      | .ge, a, b => .ok (.bool (less b a || same a b))
      | .member, a, b => (member a b).map .bool
      | .add, .string s, .string t => .ok (.string (s ++ t))
      | .add, .array xs, .array ys => .ok (.array (xs ++ ys))
      | op, .number m, .number n => arithmetic op m n
      | _, _, _ => .error .unsuited

def at? (v : Value) (key : Value) : Datum :=
  match v, key with
  | .object ms, .string k => Members.get? ms k
  | .array items, .number (.integer n) =>
      if 0 ≤ n then items[n.toNat]?
      else if items.length < n.natAbs then none
      else items[items.length - n.natAbs]?
  | _, _ => none

def elements : Value → Except Fault (List Value)
  | .array items => .ok items
  | .string s => .ok (s.toList.map fun c => .string (String.ofList [c]))
  | .object ms => .ok (ms.map fun m => .string m.1)
  | _ => .error .unsuited

def applyFilter (name : String) (d : Datum) (arguments : List Datum) : Except Fault Value :=
  match name, arguments with
  | "upper", [] => (demand d).map fun v => .string (Text.upper (display v))
  | "lower", [] => (demand d).map fun v => .string (Text.lower (display v))
  | "length", [] | "count", [] => do
      match ← demand d with
      | .string s => .ok (.ofNat s.toList.length)
      | v => (elements v).map fun items => .ofNat items.length
  | "join", arguments => do
      let sep ← match arguments with
        | [] => .ok ""
        | [sep] => (demand sep).map display
        | _ => .error .unsuited
      match d with
      | none | some .null => .ok (.string "")
      | some v => (elements v).map fun items => .string (Text.joinWith sep (items.map display))
  | "default", arguments | "d", arguments =>
      match d, arguments with
      | some v, [] | some v, [_] => .ok v
      | none, [] => .ok (.string "")
      | none, [other] => demand other
      | some v, [other, lax] => do
          if (← truth lax) && !holds v then demand other else .ok v
      | none, [other, _] => demand other
      | _, _ => .error .unsuited
  | "upper", _ | "lower", _ | "length", _ | "count", _ => .error .unsuited
  | _, _ => .error (.unknownFilter name)

def applyTest (name : String) (d : Datum) (arguments : List Datum) : Except Fault Bool :=
  match name, arguments with
  | "defined", [] => .ok d.isSome
  | "undefined", [] => .ok d.isNone
  | "none", [] => .ok (d = some .null)
  | "string", [] => .ok (d.bind Value.string?).isSome
  | "boolean", [] => .ok (d.bind Value.bool?).isSome
  | "sequence", [] => .ok (d.bind Value.items?).isSome
  | "mapping", [] => .ok (d.bind Value.members?).isSome
  | "number", [] => .ok (match d with
    | some (.number _) => true
    | _ => false)
  | "odd", [] => .ok (match d with
    | some (.number (.integer n)) => n % 2 ≠ 0
    | _ => false)
  | "even", [] => .ok (match d with
    | some (.number (.integer n)) => n % 2 = 0
    | _ => false)
  | _, _ => .error (.unknownTest name)

mutual
def Expr.eval (scope : Scope) : Expr → Except Fault Datum
  | .variable name => .ok (lookup scope name)
  | .constant v => .ok (some v)
  | .list items => do
      let vs ← evalAll scope items
      (vs.mapM demand).map fun vs => some (.array vs)
  | .attribute e name => do
      let v ← demand (← e.eval scope)
      .ok (at? v (.string name))
  | .index e key => do
      let v ← demand (← e.eval scope)
      let k ← demand (← key.eval scope)
      .ok (at? v k)
  | .negate e => do
      match ← demand (← e.eval scope) with
      | .number (.integer n) => .ok (some (.number (.integer (-n))))
      | .number (.binary x) => .ok (some (.number (.binary x.neg)))
      | _ => .error .unsuited
  | .not e => do
      let b ← truth (← e.eval scope)
      .ok (some (.bool !b))
  | .binary .both a b => do
      let d ← a.eval scope
      if ← truth d then b.eval scope else .ok d
  | .binary .either a b => do
      let d ← a.eval scope
      if ← truth d then .ok d else b.eval scope
  | .binary op a b => do
      let c ← a.eval scope
      let d ← b.eval scope
      (operate op c d).map some
  | .filter e name arguments => do
      let d ← e.eval scope
      let ds ← evalAll scope arguments
      (applyFilter name d ds).map some
  | .test e name arguments => do
      let d ← e.eval scope
      let ds ← evalAll scope arguments
      (applyTest name d ds).map fun b => some (.bool b)
  | .choice condition yes no => do
      if ← truth (← condition.eval scope) then yes.eval scope
      else evalOther scope no
def evalAll (scope : Scope) : List Expr → Except Fault (List Datum)
  | [] => .ok []
  | e :: rest => do
      let d ← e.eval scope
      let ds ← evalAll scope rest
      .ok (d :: ds)
def evalOther (scope : Scope) : Option Expr → Except Fault Datum
  | none => .ok none
  | some e => e.eval scope
end

def loopValue (before after : List Value) : Value :=
  let index := before.length
  let length := before.length + 1 + after.length
  .object <| [("index0", .ofNat index), ("index", .ofNat (index + 1)), ("length", .ofNat length),
    ("revindex", .ofNat (length - index)), ("revindex0", .ofNat (length - index - 1)),
    ("first", .bool (index = 0)), ("last", .bool after.isEmpty)] ++
    (before.head?.map fun p => ("previtem", p)).toList ++
    (after.head?.map fun n => ("nextitem", n)).toList

def bindTargets (targets : List String) (v : Value) : Except Fault Scope :=
  match targets, v with
  | [name], v => .ok [(name, some v)]
  | names, .array items =>
      if names.length = items.length then .ok (names.zip (items.map some)) else .error .unsuited
  | _, _ => .error .unsuited

def keep (scope : Scope) (targets : List String) (only : Option Expr) (v : Value) :
    Except Fault Bool :=
  match only with
  | none => .ok true
  | some condition => do
      let bound ← bindTargets targets v
      truth (← condition.eval (bound ++ scope))

def rounds (round : List Value → Value → List Value → Except Fault String) (before : List Value) :
    List Value → Except Fault (List String)
  | [] => .ok []
  | v :: after => do
      let text ← round before v after
      let texts ← rounds round (v :: before) after
      .ok (text :: texts)

mutual
def Node.run (scope : Scope) : Node → Except Fault (String × Scope)
  | .plain s => .ok (s, scope)
  | .output e => do
      let v ← demand (← e.eval scope)
      .ok (display v, scope)
  | .assign name e => do
      let d ← e.eval scope
      .ok ("", (name, d) :: scope)
  | .branch condition yes no => do
      if ← truth (← condition.eval scope) then runAll scope yes else runAll scope no
  | .each targets source only body otherwise => do
      let items ← elements (← demand (← source.eval scope))
      let kept ← items.filterM (keep scope targets only)
      if kept.isEmpty then do
        let (text, _) ← runAll scope otherwise
        .ok (text, scope)
      else do
        let round := fun before v after => do
          let bound ← bindTargets targets v
          let (text, _) ← runAll (bound ++ ("loop", some (loopValue before after)) :: scope) body
          .ok text
        let texts ← rounds round [] kept
        .ok (String.join texts, scope)
def runAll (scope : Scope) : List Node → Except Fault (String × Scope)
  | [] => .ok ("", scope)
  | node :: rest => do
      let (text, scope) ← node.run scope
      let (more, scope) ← runAll scope rest
      .ok (text ++ more, scope)
end

inductive Failure where
  | invalid
  | fault (f : Fault)
  deriving DecidableEq, Repr

def render (source : String) (context : Members) : Except Failure String :=
  match parse source with
  | none => .error .invalid
  | some nodes =>
    match runAll (context.map fun (name, v) => (name, some v)) nodes with
    | .ok (text, _) => .ok text
    | .error f => .error (.fault f)

end ApiScreens.Override
