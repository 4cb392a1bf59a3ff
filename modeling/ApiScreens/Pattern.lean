import ApiScreens.Entity
import ApiScreens.Heuristics

/-! Which screens an entity gets. The pattern depends on its detail operations, on whether it can be
written, and on how complex the request that creates it is. -/
namespace ApiScreens
open Json (Value)

inductive Pattern where
  | singleOnly
  | singleWithRegister
  | masterDetailSimple
  | masterDetailFull
  deriving DecidableEq, Repr

namespace Pattern

def name : Pattern → String
  | singleOnly => "single-only"
  | singleWithRegister => "single-register"
  | masterDetailSimple => "master-detail-simple"
  | masterDetailFull => "master-detail-full"

def isMasterDetail : Pattern → Bool
  | masterDetailSimple | masterDetailFull => true
  | singleOnly | singleWithRegister => false

end Pattern

namespace Entity

def createEndpoint (n : Entity) : Option Endpoint :=
  (n.having .post).find? fun e => Text.has e.path "/master" || e.path = n.ownPath

def hasCreate (n : Entity) : Bool := n.createEndpoint.isSome

def hasUpdate (n : Entity) : Bool :=
  (n.having .put).any fun e => Text.has e.path "/master" || Text.has e.path n.ownPath

def writable (n : Entity) : Bool := n.hasCreate || n.hasUpdate

end Entity

def isComplexProperty (h : Heuristics) (property : Value) : Bool :=
  let kind := (property.get? "type").bind Value.string?
  kind = some "array" || kind = some "object" ||
    match (property.get? "maxLength").bind Value.natural? with
    | some longest => h.longTextMaxLength < longest
    | none => false

def isComplexSchema (h : Heuristics) (schema : Value) : Bool :=
  match (schema.get? "properties").bind Value.members? with
  | none => false
  | some properties =>
      h.complexFieldCount ≤ properties.length || properties.any fun p => isComplexProperty h p.2

def createsComplex (doc : Document) (h : Heuristics) (n : Entity) : Bool :=
  match n.createEndpoint.bind fun e => doc.requestSchema e.operation with
  | some schema => isComplexSchema h schema
  | none => false

def Pattern.of (doc : Document) (h : Heuristics) (n : Entity) : Pattern :=
  if n.hasDetail then
    if n.writable && createsComplex doc h n then .masterDetailFull else .masterDetailSimple
  else if n.writable then .singleWithRegister
  else .singleOnly

end ApiScreens
