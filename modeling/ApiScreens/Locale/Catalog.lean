import ApiScreens.Json.Printer
import ApiScreens.Path
import ApiScreens.SortedMap
import ApiScreens.Text.Piece

/-! Catalogs of texts: one tree for each language. A dotted key leads from the root through objects to a
text. Merging only fills what is empty: whatever holds something stays as it is. -/
namespace ApiScreens.Locale
open Json (Value Members)

structure Catalog where
  root : Members := []
  deriving DecidableEq, Repr

def steps (key : String) : List String := Text.splitOn '.' key

namespace Catalog

def find? (ms : Members) : List String → Option Value
  | [] => none
  | [leaf] => ms.get? leaf
  | step :: rest => match ms.get? step with
    | some (.object inner) => find? inner rest
    | _ => none

def get? (c : Catalog) (key : String) : Option String :=
  (find? c.root (steps key)).bind Value.string?

def isMissing (c : Catalog) (key : String) : Bool := (c.get? key).getD "" = ""

def isVacant : Option Value → Bool
  | none | some .null | some (.string "") => true
  | some _ => false

def fill? (v : String) (ms : Members) : List String → Option Members
  | [] => none
  | [leaf] => if isVacant (ms.get? leaf) then some (ms.set leaf (.string v)) else none
  | step :: rest => match ms.get? step with
    | none => (fill? v [] rest).map fun inner => ms.set step (.object inner)
    | some (.object inner) => (fill? v inner rest).map fun inner => ms.set step (.object inner)
    | some _ => none

def add (c : Catalog) (key v : String) : Catalog × Bool :=
  match fill? v c.root (steps key) with
  | some root => (⟨root⟩, true)
  | none => (c, false)

def mergeEntries (c : Catalog) : List (String × String) → Catalog × Nat
  | [] => (c, 0)
  | (key, v) :: rest =>
      let (c, added) := c.add key v
      let (c, more) := mergeEntries c rest
      (c, (if added then 1 else 0) + more)

def merge (c : Catalog) (texts : SortedMap String) : Catalog × Nat := c.mergeEntries texts.entries

def dotted (around key : String) : String := if around = "" then key else around ++ "." ++ key

mutual
def leaves (key : String) : Value → List (String × String)
  | .object ms => leavesOf key ms
  | .string s => [(key, s)]
  | .null => [(key, Value.null.compact)]
  | .bool b => [(key, (Value.bool b).compact)]
  | .number n => [(key, (Value.number n).compact)]
  | .array items => [(key, (Value.array items).compact)]
def leavesOf (around : String) : List (String × Value) → List (String × String)
  | [] => []
  | (key, v) :: rest => leaves (dotted around key) v ++ leavesOf around rest
end

def flatten (c : Catalog) : SortedMap String := .ofList (leavesOf "" c.root)

def text (c : Catalog) : String := (Value.object c.root).tabbed

def path (directory language : String) : String := Path.under directory [language, "common.json"]

end Catalog
end ApiScreens.Locale
