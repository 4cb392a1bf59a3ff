import ApiScreens.Document
import ApiScreens.SortedMap

/-! Resources of an API description. Each operation belongs to the resource that its path names first;
an entity is a resource with its operations in document order. -/
namespace ApiScreens
open Json (Value)

inductive Method where
  | get | post | put | delete
  deriving DecidableEq, Repr

namespace Method

def all : List Method := [.get, .post, .put, .delete]

def key : Method → String
  | .get => "get"
  | .post => "post"
  | .put => "put"
  | .delete => "delete"

def name : Method → String
  | .get => "GET"
  | .post => "POST"
  | .put => "PUT"
  | .delete => "DELETE"

end Method

structure Endpoint where
  path : String
  method : Method
  operation : Value
  deriving DecidableEq, Repr

namespace Endpoint

def resourceOf (path : String) : Option String :=
  (Text.splitOn '/' path).find? (· ≠ "")

def resource (e : Endpoint) : Option String := resourceOf e.path

def isParameterFree (e : Endpoint) : Bool := !Text.has e.path "\x7b"

def text (e : Endpoint) (field : String) : Option String :=
  (e.operation.get? field).bind Value.string?

def summary (e : Endpoint) : Option String := e.text "summary"
def operationId (e : Endpoint) : Option String := e.text "operationId"

def tags (e : Endpoint) : List String :=
  (((e.operation.get? "tags").bind Value.items?).getD []).filterMap Value.string?

def lastSegment (reference : String) : String :=
  ((Text.splitOn '/' reference).getLast?).getD ""

def responseNames (e : Endpoint) : List String :=
  (((e.operation.get? "responses").bind Value.members?).getD []).flatMap fun (_, response) =>
    (((response.get? "content").bind Value.members?).getD []).filterMap fun (_, media) =>
      ((media.get? "schema").bind Document.reference?).map lastSegment

def searchSchema (doc : Document) (e : Endpoint) : Option Value := do
  let parameters ← (e.operation.get? "parameters").bind Value.items?
  let parameter ← parameters.find? fun p =>
    (p.get? "name").bind Value.string? = some "searchRequest"
  (parameter.get? "schema").bind doc.resolveSchema

end Endpoint

namespace Document

def itemEndpoints (path : String) (item : Value) : List Endpoint :=
  Method.all.filterMap fun m => (item.get? m.key).map fun operation => ⟨path, m, operation⟩

def endpoints (doc : Document) : List Endpoint :=
  doc.paths.flatMap fun (path, item) => itemEndpoints path item

end Document

structure Entity where
  name : String
  endpoints : List Endpoint
  schemas : List String
  hasDetail : Bool
  searchSchema : Option Value
  deriving DecidableEq, Repr

namespace Entity

def ofEndpoints (doc : Document) (name : String) (es : List Endpoint) : Entity where
  name := name
  endpoints := es
  schemas := sortedDistinct (es.flatMap Endpoint.responseNames)
  hasDetail := es.any fun e => Text.has e.path "/detail"
  searchSchema := es.findSome? fun e =>
    if e.method = .get ∧ Text.has e.path "/master" then e.searchSchema doc else none

def ownPath (n : Entity) : String := "/" ++ n.name

def probeTargets (n : Entity) : List Endpoint :=
  n.endpoints.filter fun e => e.method = .get && e.isParameterFree

def having (n : Entity) (m : Method) : List Endpoint := n.endpoints.filter (·.method = m)

end Entity

namespace Document

def resources (doc : Document) : List String :=
  sortedDistinct (doc.endpoints.filterMap Endpoint.resource)

def entity (doc : Document) (name : String) : Entity :=
  .ofEndpoints doc name (doc.endpoints.filter (·.resource = some name))

def entities (doc : Document) : List Entity := doc.resources.map doc.entity

end Document
end ApiScreens
