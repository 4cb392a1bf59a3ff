import ApiScreens.Yaml.Node
import ApiScreens.Json.Value
import ApiScreens.Number.Decimal

/-! The value of a document. Plain scalars without a tag are read as null, booleans and numbers where
they are spelled so; aliases are replaced by the nodes they name. -/
namespace ApiScreens.Yaml
open Json (Value Numeral Members)
open Number

def isNull (text : String) : Bool := ["null", "Null", "NULL", "~"].contains text

def bool? (text : String) : Option Bool :=
  if ["true", "True", "TRUE"].contains text then some true
  else if ["false", "False", "FALSE"].contains text then some false
  else none

def isPadded (text : List Char) : Bool :=
  match (sign text).2 with
  | '0' :: rest => rest ≠ [] && rest.all isDigit
  | _ => false

def magnitude? (text : List Char) : Option Nat :=
  let based := match text with
    | '0' :: 'x' :: digits => ofDigits 16 digits
    | '0' :: 'o' :: digits => ofDigits 8 digits
    | '0' :: 'b' :: digits => ofDigits 2 digits
    | _ => none
  based.or (if isPadded text then none else ofDigits 10 text)

def integer? (text : List Char) : Option Int := do
  let (negative, digits) := sign text
  let n ← magnitude? digits
  if negative then if n ≤ Number.twoTo 127 then some (-n) else none
  else if n < Number.twoTo 128 then some n else none

def integerValue (n : Int) : Option Value :=
  if -(Number.twoTo 63 : Int) ≤ n ∧ n < Number.twoTo 64 then some (.number (.integer n)) else none

def isUnbounded (text : String) : Bool :=
  [".inf", ".Inf", ".INF", "+.inf", "+.Inf", "+.INF", "-.inf", "-.Inf", "-.INF",
    ".nan", ".NaN", ".NAN"].contains text

def float? (text : String) : Option Value :=
  if isUnbounded text then some .null
  else (Binary64.ofText text.toList).map fun x => .number (.binary x)

def untagged (text : String) : Option Value :=
  if text = "" || isNull text then some .null
  else match bool? text, integer? text.toList with
    | some b, _ => some (.bool b)
    | none, some n => integerValue n
    | none, none =>
        if isPadded text.toList then some (.string text)
        else some ((float? text).getD (.string text))

def coreTag (name : String) : String := "tag:yaml.org,2002:" ++ name

def isLocal (tag : Option String) : Bool := tag.any fun t => t.toList.head? = some '!'

def scalarValue (tag : Option String) (plain : Bool) (text : String) : Option Value :=
  match tag with
  | none => if plain then untagged text else some (.string text)
  | some t =>
      if isLocal tag then none
      else if t = coreTag "bool" then (bool? text).map .bool
      else if t = coreTag "int" then (integer? text.toList).bind integerValue
      else if t = coreTag "float" then float? text
      else if t = coreTag "null" then if isNull text then some .null else none
      else some (.string text)

abbrev NumberedNode := Node Nat

abbrev Numbers := List (String × Nat)

def numberAnchor (names : Numbers) (p : Properties String) : Properties Nat × Numbers :=
  match p.anchor with
  | none => (⟨none, p.tag⟩, names)
  | some name =>
      (⟨some names.length, p.tag⟩, (name, names.length) :: names.filter (·.1 ≠ name))

mutual
def Node.link (names : Numbers) : NamedNode → Option (NumberedNode × Numbers)
  | .alias name => (names.lookup name).map fun n => (.alias n, names)
  | .scalar p plain text =>
      let (q, names) := numberAnchor names p
      some (.scalar q plain text, names)
  | .sequence p items =>
      let (q, names) := numberAnchor names p
      (Node.linkItems names items).map fun (items, names) => (.sequence q items, names)
  | .mapping p entries =>
      let (q, names) := numberAnchor names p
      (Node.linkEntries names entries).map fun (entries, names) => (.mapping q entries, names)
def Node.linkItems (names : Numbers) : List NamedNode → Option (List NumberedNode × Numbers)
  | [] => some ([], names)
  | n :: rest => do
      let (n, names) ← Node.link names n
      let (rest, names) ← Node.linkItems names rest
      some (n :: rest, names)
def Node.linkEntries (names : Numbers) : List (NamedNode × NamedNode) →
    Option (List (NumberedNode × NumberedNode) × Numbers)
  | [] => some ([], names)
  | (k, v) :: rest => do
      let (k, names) ← Node.link names k
      let (v, names) ← Node.link names v
      let (rest, names) ← Node.linkEntries names rest
      some ((k, v) :: rest, names)
end

def anchored (p : Properties Nat) (n : NumberedNode) : List (Nat × NumberedNode) :=
  p.anchor.toList.map (·, n)

mutual
def Node.anchors : NumberedNode → List (Nat × NumberedNode)
  | .alias _ => []
  | .scalar p plain text => anchored p (.scalar p plain text)
  | .sequence p items => anchored p (.sequence p items) ++ Node.anchorsOf items
  | .mapping p entries => anchored p (.mapping p entries) ++ Node.anchorsIn entries
def Node.anchorsOf : List NumberedNode → List (Nat × NumberedNode)
  | [] => []
  | n :: rest => Node.anchors n ++ Node.anchorsOf rest
def Node.anchorsIn : List (NumberedNode × NumberedNode) → List (Nat × NumberedNode)
  | [] => []
  | (k, v) :: rest => Node.anchors k ++ Node.anchors v ++ Node.anchorsIn rest
end

mutual
def Node.events : NumberedNode → Nat
  | .alias _ | .scalar _ _ _ => 1
  | .sequence _ items => 2 + Node.eventsOf items
  | .mapping _ entries => 2 + Node.eventsIn entries
def Node.eventsOf : List NumberedNode → Nat
  | [] => 0
  | n :: rest => Node.events n + Node.eventsOf rest
def Node.eventsIn : List (NumberedNode × NumberedNode) → Nat
  | [] => 0
  | (k, v) :: rest => Node.events k + Node.events v + Node.eventsIn rest
end

def depthLimit : Nat := 128

/-- A computation that follows aliases; its state is how many more it may follow. -/
abbrev Following := StateT Nat Option

def target (nodes : List (Nat × NumberedNode)) : NumberedNode → Following NumberedNode
  | .alias n => do
      match ← get with
      | 0 => failure
      | left + 1 =>
          set left
          (nodes.lookup n : Option NumberedNode)
  | n => pure n

def key (nodes : List (Nat × NumberedNode)) (n : NumberedNode) : Following String := do
  match ← target nodes n with
  | .scalar _ _ text => pure text
  | _ => failure

def value (nodes : List (Nat × NumberedNode)) : (depth : Nat) → NumberedNode → Following Value
  | 0, n => do
      match ← target nodes n with
      | .scalar p plain text => scalarValue p.tag plain text
      | _ => failure
  | depth + 1, n => do
      match ← target nodes n with
      | .scalar p plain text => scalarValue p.tag plain text
      | .sequence p items =>
          if isLocal p.tag then failure else .array <$> items.mapM (value nodes depth)
      | .mapping p entries =>
          if isLocal p.tag then failure
          else
            let pairs ← entries.mapM fun (k, v) => do
              let k ← key nodes k
              let v ← value nodes depth v
              pure (k, v)
            pure (.object (Members.ofPairs pairs))
      | .alias _ => failure

def parse (text : String) : Option Value := do
  match ← document (← tokens text.toList) with
  | none => some .null
  | some n =>
      let (n, _) ← Node.link [] n
      let (v, _) ← (value n.anchors.reverse depthLimit n).run (100 * n.events)
      some v

end ApiScreens.Yaml
