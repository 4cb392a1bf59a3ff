/-! TOML values, and what may be added to a table. Each table is defined once: by its header, by dotted
keys, or between braces. A longer header or a dotted key may pass through a table before its own
header comes. -/
namespace ApiScreens.Toml

inductive Origin where
  | header
  | path
  | dotted
  | inline
  deriving DecidableEq, Repr

inductive Value where
  | string (s : String)
  | integer (n : Int)
  | float
  | bool (b : Bool)
  | moment
  | array (items : List Value)
  | tables (earlier : List (List (String × Value))) (last : List (String × Value))
  | table (origin : Origin) (entries : List (String × Value))
  deriving Repr, Inhabited

abbrev Table := List (String × Value)

namespace Table

def replace (t : Table) (key : String) (v : Value) : Table :=
  t.map fun (k, w) => if k = key then (k, v) else (k, w)

def add (t : Table) (key : String) (v : Value) : Table := t ++ [(key, v)]

def along (change : Table → Option Table) : List String → Table → Option Table
  | [], t => change t
  | key :: rest, t =>
      match t.lookup key with
      | none => (along change rest []).map fun sub => t.add key (.table .path sub)
      | some (.tables earlier last) =>
          (along change rest last).map fun sub => t.replace key (.tables earlier sub)
      | some (.table .inline _) => none
      | some (.table origin sub) =>
          (along change rest sub).map fun sub => t.replace key (.table origin sub)
      | some _ => none

def beginTable (path : List String) (key : String) (root : Table) : Option Table :=
  along (fun t => match t.lookup key with
    | none => some (t.add key (.table .header []))
    | some (.table .path sub) => some (t.replace key (.table .header sub))
    | some _ => none) path root

def beginElement (path : List String) (key : String) (root : Table) : Option Table :=
  along (fun t => match t.lookup key with
    | none => some (t.add key (.tables [] []))
    | some (.tables earlier last) => some (t.replace key (.tables (earlier ++ [last]) []))
    | some _ => none) path root

/-- A value under dotted keys. They pass through tables without a header, and the last of these must
be one that dotted keys made. -/
def assign (v : Value) : (keys : List String) → Table → Option Table
  | [], _ => none
  | [key], t => if (t.lookup key).isSome then none else some (t.add key v)
  | key :: rest, t =>
      match t.lookup key with
      | none => (assign v rest []).map fun sub => t.add key (.table .dotted sub)
      | some (.table .dotted sub) =>
          (assign v rest sub).map fun sub => t.replace key (.table .dotted sub)
      | some (.table .path sub) =>
          if rest.length = 1 then none
          else (assign v rest sub).map fun sub => t.replace key (.table .path sub)
      | some _ => none

end Table
end ApiScreens.Toml
