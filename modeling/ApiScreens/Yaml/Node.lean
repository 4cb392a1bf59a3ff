import ApiScreens.Yaml.Token

/-! The node tree that the tokens of a document describe. Anchors stay on their nodes and aliases stay
names; tags are complete, their handles replaced by what they stand for. -/
namespace ApiScreens.Yaml

structure Properties (α : Type) where
  anchor : Option α := none
  tag : Option String := none
  deriving DecidableEq, Repr

inductive Node (α : Type) where
  | alias (target : α)
  | scalar (p : Properties α) (plain : Bool) (text : String)
  | sequence (p : Properties α) (items : List (Node α))
  | mapping (p : Properties α) (entries : List (Node α × Node α))
  deriving Repr

abbrev NamedNode := Node String

def Node.missing {α : Type} (p : Properties α := {}) : Node α := .scalar p true ""

abbrev Handles := List (String × String)

def defaultHandles : Handles := [("!", "!"), ("!!", "tag:yaml.org,2002:")]

def TagName.expand (handles : Handles) (t : TagName) : Option String :=
  if t.handle = "" then some t.suffix else (handles.lookup t.handle).map (· ++ t.suffix)

def properties (handles : Handles) : List Token → Option (Properties String × List Token)
  | .anchor a :: .tag t :: rest => (t.expand handles).map fun tag => (⟨some a, some tag⟩, rest)
  | .tag t :: .anchor a :: rest => (t.expand handles).map fun tag => (⟨some a, some tag⟩, rest)
  | .anchor a :: rest => some (⟨some a, none⟩, rest)
  | .tag t :: rest => (t.expand handles).map fun tag => (⟨none, some tag⟩, rest)
  | rest => some ({}, rest)

inductive Place where
  | flow | block | blockValue
  deriving DecidableEq, Repr

def scalarTag (p : Properties String) : Properties String :=
  if p.tag = some "!" then { p with tag := none } else p

abbrev Reader (α : Type) := List Token → Option (α × List Token)

def isValueEnd : Token → Bool
  | .key | .value | .blockEnd => true
  | _ => false

mutual
def node (handles : Handles) : (fuel : Nat) → Place → Reader NamedNode
  | 0, _, _ => none
  | _ + 1, _, .alias name :: rest => some (.alias name, rest)
  | fuel + 1, place, ts =>
      match properties handles ts with
      | none => none
      | some (p, ts) =>
          match ts with
          | .scalar plain text :: rest =>
              some (.scalar (scalarTag p) plain text, rest)
          | .flowSequence :: rest =>
              (flowItems handles fuel true [] rest).map fun (items, r) => (.sequence p items, r)
          | .flowMapping :: rest =>
              (flowEntries handles fuel true [] rest).map fun (entries, r) => (.mapping p entries, r)
          | .blockEntry :: _ =>
              if place = .blockValue then
                (indentlessItems handles fuel [] ts).map fun (items, r) => (.sequence p items, r)
              else emptyNode p ts
          | .blockSequence :: rest =>
              if place = .flow then emptyNode p ts
              else (blockItems handles fuel [] rest).map fun (items, r) => (.sequence p items, r)
          | .blockMapping :: rest =>
              if place = .flow then emptyNode p ts
              else (blockEntries handles fuel [] rest).map fun (entries, r) => (.mapping p entries, r)
          | ts => emptyNode p ts
def emptyNode (p : Properties String) (ts : List Token) : Option (NamedNode × List Token) :=
  if p = {} then none else some (.missing p, ts)
def blockItems (handles : Handles) : (fuel : Nat) → (done : List NamedNode) → Reader (List NamedNode)
  | fuel + 1, done, .blockEntry :: rest =>
      match rest with
      | .blockEntry :: _ | .blockEnd :: _ => blockItems handles fuel (.missing :: done) rest
      | _ => (node handles fuel .block rest).bind fun (n, r) => blockItems handles fuel (n :: done) r
  | _ + 1, done, .blockEnd :: rest => some (done.reverse, rest)
  | _, _, _ => none
def indentlessItems (handles : Handles) : (fuel : Nat) → (done : List NamedNode) → Reader (List NamedNode)
  | 0, _, _ => none
  | fuel + 1, done, .blockEntry :: rest =>
      if rest.head?.any fun t => t = .blockEntry || isValueEnd t then
        indentlessItems handles fuel (.missing :: done) rest
      else
        (node handles fuel .block rest).bind fun (n, r) => indentlessItems handles fuel (n :: done) r
  | _ + 1, done, ts => some (done.reverse, ts)
def blockPart (handles : Handles) : (fuel : Nat) → Reader NamedNode
  | 0, _ => none
  | fuel + 1, ts =>
      if ts.head?.any isValueEnd then some (.missing, ts) else node handles fuel .blockValue ts
def blockEntries (handles : Handles) : (fuel : Nat) → (done : List (NamedNode × NamedNode)) →
    Reader (List (NamedNode × NamedNode))
  | fuel + 1, done, .key :: rest =>
      match blockPart handles fuel rest with
      | none => none
      | some (k, .value :: r) =>
          (blockPart handles fuel r).bind fun (v, r) => blockEntries handles fuel ((k, v) :: done) r
      | some (k, r) => blockEntries handles fuel ((k, .missing) :: done) r
  | _ + 1, done, .blockEnd :: rest => some (done.reverse, rest)
  | _, _, _ => none
def flowItems (handles : Handles) : (fuel : Nat) → (first : Bool) → (done : List NamedNode) →
    Reader (List NamedNode)
  | 0, _, _, _ => none
  | _ + 1, _, done, .flowSequenceEnd :: rest => some (done.reverse, rest)
  | fuel + 1, first, done, ts =>
      match (if first then some ts else afterComma ts) with
      | none => none
      | some (.flowSequenceEnd :: rest) => some (done.reverse, rest)
      | some (.key :: rest) =>
          match flowPairKey handles fuel rest with
          | none => none
          | some (k, r) =>
              (flowPart handles fuel .flowSequenceEnd r).bind fun (v, r) =>
                flowItems handles fuel false (.mapping {} [(k, v)] :: done) r
      | some ts =>
          (node handles fuel .flow ts).bind fun (n, r) => flowItems handles fuel false (n :: done) r
def afterComma : List Token → Option (List Token)
  | .flowEntry :: rest => some rest
  | _ => none
/-- The key of an entry in a flow sequence. In place of a missing key the next token is dropped. -/
def flowPairKey (handles : Handles) : (fuel : Nat) → Reader NamedNode
  | 0, _ => none
  | fuel + 1, ts =>
      match ts with
      | .value :: rest | .flowEntry :: rest | .flowSequenceEnd :: rest => some (.missing, rest)
      | ts => node handles fuel .flow ts
def flowPart (handles : Handles) : (fuel : Nat) → (last : Token) → Reader NamedNode
  | 0, _, _ => none
  | fuel + 1, last, .value :: rest =>
      if rest.head?.any fun t => t = .flowEntry || t = last then some (.missing, rest)
      else node handles fuel .flow rest
  | _ + 1, _, ts => some (.missing, ts)
def flowEntries (handles : Handles) : (fuel : Nat) → (first : Bool) → (done : List (NamedNode × NamedNode)) →
    Reader (List (NamedNode × NamedNode))
  | 0, _, _, _ => none
  | _ + 1, _, done, .flowMappingEnd :: rest => some (done.reverse, rest)
  | fuel + 1, first, done, ts =>
      match (if first then some ts else afterComma ts) with
      | none => none
      | some (.flowMappingEnd :: rest) => some (done.reverse, rest)
      | some (.key :: rest) =>
          match (if rest.head?.any fun t => t = .value || t = .flowEntry || t = .flowMappingEnd then
              some (Node.missing, rest) else node handles fuel .flow rest) with
          | none => none
          | some (k, r) =>
              (flowPart handles fuel .flowMappingEnd r).bind fun (v, r) =>
                flowEntries handles fuel false ((k, v) :: done) r
      | some ts =>
          (node handles fuel .flow ts).bind fun (k, r) =>
            flowEntries handles fuel false ((k, .missing) :: done) r
end

structure Prologue where
  version : Bool := false
  handles : Handles := []
  deriving Repr

def Prologue.add (p : Prologue) : Directive → Option Prologue
  | .version major minor =>
      if p.version || major ≠ 1 || (minor ≠ 1 && minor ≠ 2) then none
      else some { p with version := true }
  | .handle handle start =>
      if (p.handles.lookup handle).isSome then none
      else some { p with handles := p.handles ++ [(handle, start)] }

def prologue (p : Prologue) : Reader Prologue
  | .directive d :: rest => (p.add d).bind fun q => prologue q rest
  | ts => some (p, ts)

def beginsDocument : Token → Bool
  | .directive _ | .documentStart | .documentEnd => true
  | _ => false

def content (handles : Handles) (fuel : Nat) (ts : List Token) : Option (NamedNode × List Token) :=
  if ts.head?.all beginsDocument then some (.missing, ts) else node handles fuel .block ts

def document (ts : List Token) : Option (Option NamedNode) := do
  let fuel := 3 * ts.length + 3
  if ts = [] then return none
  let (found, rest) ←
    if ts.head?.any fun t => t = .documentStart || t matches .directive _ then
      match ← prologue {} ts with
      | (p, .documentStart :: rest) => content (p.handles ++ defaultHandles) fuel rest
      | _ => none
    else node defaultHandles fuel .block ts
  if rest.all (· = .documentEnd) then some (some found) else none

end ApiScreens.Yaml
