import ApiScreens.Toml.Scalar

/-! Reading TOML text as one table. The text is read line by line: a header moves to its table, and a
key puts a value into the table of the last header. -/
namespace ApiScreens.Toml

def depthLimit : Nat := 80

mutual
def value : (fuel : Nat) → (depth : Nat) → Chars → Option (Value × Chars)
  | 0, _, _ => none
  | fuel + 1, depth, cs =>
      match cs with
      | '[' :: rest =>
          if depth = 0 then none
          else (items fuel (depth - 1) [] (skipGap rest)).map fun (vs, r) => (.array vs, r)
      | '\x7b' :: rest =>
          if depth = 0 then none
          else (entries fuel (depth - 1) [] (skipGap rest)).map fun (t, r) => (.table .inline t, r)
      | c :: rest =>
          if c == '"' || c == '\'' then
            (quotedText (c :: rest)).map fun (text, r) => (.string (String.ofList text), r)
          else word (c :: rest)
      | [] => none
def items : (fuel : Nat) → (depth : Nat) → (done : List Value) → Chars → Option (List Value × Chars)
  | 0, _, _, _ => none
  | _ + 1, _, done, ']' :: rest => some (done.reverse, rest)
  | fuel + 1, depth, done, cs =>
      match value fuel depth cs with
      | none => none
      | some (v, rest) =>
          match skipGap rest with
          | ',' :: more => items fuel depth (v :: done) (skipGap more)
          | ']' :: more => some ((v :: done).reverse, more)
          | _ => none
def entries : (fuel : Nat) → (depth : Nat) → (done : Table) → Chars → Option (Table × Chars)
  | 0, _, _, _ => none
  | _ + 1, _, done, '\x7d' :: rest => some (done, rest)
  | fuel + 1, depth, done, cs =>
      match keys cs with
      | some (path, '=' :: rest) =>
          match value fuel depth (skipSpace rest) with
          | none => none
          | some (v, rest) =>
              match done.assign v path, skipGap rest with
              | some t, ',' :: more => entries fuel depth t (skipGap more)
              | some t, '\x7d' :: more => some (t, more)
              | _, _ => none
      | _ => none
end

def keyValue (cs : Chars) : Option (List String × Value × Chars) :=
  match keys cs with
  | some (path, '=' :: rest) =>
      (value (2 * rest.length + 1) depthLimit (skipSpace rest)).map fun (v, r) => (path, v, r)
  | _ => none

def header (close : Chars) (cs : Chars) : Option (List String × Chars) := do
  let (path, rest) ← keys cs
  if rest.take close.length = close then
    (lineEnd (rest.drop close.length)).map (path, ·)
  else none

structure Progress where
  root : Table
  current : List String
  deriving Repr

def Progress.header (p : Progress) (repeated : Bool) (path : List String) : Option Progress := do
  let key ← path.getLast?
  let root ← if repeated then p.root.beginElement path.dropLast key
    else p.root.beginTable path.dropLast key
  some ⟨root, path⟩

def Progress.assign (p : Progress) (path : List String) (v : Value) : Option Progress :=
  (Table.along (Table.assign v path) p.current p.root).map fun root => { p with root := root }

def Progress.line (p : Progress) (cs : Chars) : Option (Progress × Chars) :=
  match cs with
  | '[' :: '[' :: rest => do
      let (path, rest) ← Toml.header [']', ']'] rest
      (p.header true path).map (·, rest)
  | '[' :: rest => do
      let (path, rest) ← Toml.header [']'] rest
      (p.header false path).map (·, rest)
  | cs => do
      let (path, v, rest) ← keyValue cs
      let rest ← lineEnd rest
      (p.assign path v).map (·, rest)

def lines : (fuel : Nat) → Progress → Chars → Option Table
  | 0, _, _ => none
  | fuel + 1, p, cs =>
      match skipGap cs with
      | [] => some p.root
      | cs => (p.line cs).bind fun (p, rest) => lines fuel p rest

def dropMark : Chars → Chars
  | c :: rest => if c = Char.ofNat 0xfeff then rest else c :: rest
  | [] => []

def parse (text : String) : Option Table :=
  let cs := dropMark text.toList
  lines (cs.length + 1) ⟨[], []⟩ cs

end ApiScreens.Toml
