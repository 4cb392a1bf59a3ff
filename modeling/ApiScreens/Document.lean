import ApiScreens.Json.Value
import ApiScreens.Text.Piece

/-! API descriptions and the references inside them. A reference is followed only within its own
document, only through objects, and only for a bounded number of hops. -/
namespace ApiScreens
open Json (Value Members)

structure Document where
  root : Value
  deriving DecidableEq, Repr

namespace Document

/-- A key of a reference: `~1` stands for a slash and `~0` for a tilde. -/
def unescapeKey : List Char → List Char
  | '~' :: '1' :: rest => '/' :: unescapeKey rest
  | '~' :: '0' :: rest => '~' :: unescapeKey rest
  | c :: rest => c :: unescapeKey rest
  | [] => []

def escapeKey (key : List Char) : List Char :=
  key.flatMap fun c => if c = '~' then ['~', '0'] else if c = '/' then ['~', '1'] else [c]

def descend (v : Value) : List String → Option Value
  | [] => some v
  | key :: rest => (v.get? key).bind (descend · rest)

def referenceKeys (reference : String) : Option (List String) :=
  (Text.after? ['#', '/'] reference.toList).map fun pointer =>
    (Text.pieces (· == '/') pointer).map fun key => String.ofList (unescapeKey key)

def resolveRef (doc : Document) (reference : String) : Option Value :=
  (referenceKeys reference).bind (descend doc.root)

def reference? (schema : Value) : Option String := (schema.get? "$ref").bind Value.string?

def refDepth : Nat := 16

def follow (doc : Document) : (depth : Nat) → Value → Option Value
  | 0, _ => none
  | depth + 1, schema =>
      match reference? schema with
      | none => some schema
      | some reference => (doc.resolveRef reference).bind (follow doc depth)

def resolveSchema (doc : Document) (schema : Value) : Option Value := doc.follow refDepth schema

def paths (doc : Document) : Members := ((doc.root.get? "paths").bind Value.members?).getD []

def operation (doc : Document) (path method : String) : Option Value :=
  descend doc.root ["paths", path, method]

def requestSchema (doc : Document) (operation : Value) : Option Value :=
  (descend operation ["requestBody", "content", "application/json", "schema"]).bind doc.resolveSchema

def responseSchema (operation : Value) : Option Value := do
  let responses ← operation.get? "responses"
  let response ← (responses.get? "200").or (responses.get? "201")
  let content ← response.get? "content"
  let media ← (content.get? "application/json").or (content.get? "*/*")
  media.get? "schema"

def isArraySchema (schema : Value) : Bool :=
  (schema.get? "type").bind Value.string? = some "array"

def property? (schema : Value) (name : String) : Option Value := descend schema ["properties", name]

def itemSchema (doc : Document) (schema : Value) : Option Value :=
  (schema.get? "items").bind doc.resolveSchema

/-- The record inside an envelope: the items of `data.content`, the items of `data`, or `data`. -/
def dataRecord (doc : Document) (data : Value) : Option Value :=
  match property? data "content" with
  | none => if isArraySchema data then doc.itemSchema data else some data
  | some content => do
      let content ← doc.resolveSchema content
      if isArraySchema content then doc.itemSchema content
      else if isArraySchema data then doc.itemSchema data
      else some data

def recordSchema (doc : Document) (operation : Value) : Option Value := do
  let root ← (responseSchema operation).bind doc.resolveSchema
  match property? root "data" with
  | some data => (doc.resolveSchema data).bind doc.dataRecord
  | none => if isArraySchema root then doc.itemSchema root else some root

end Document
end ApiScreens
