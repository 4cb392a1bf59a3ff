import ApiScreens.Field
import ApiScreens.Proofs.Document.Envelope
import ApiScreens.Proofs.Pattern

/-! Properties of a create request, written in place or by reference. Fields follow the references of properties and
the pattern does not, so that fields are the same either way and the pattern need not be. -/
namespace ApiScreens
open Json (Value Members)
open Document

def Entity.createRequest (doc : Document) (n : Entity) : Option Value :=
  n.createEndpoint.bind fun e => doc.requestSchema e.operation

def Document.respell (doc : Document) (name : String) (schema : Value) : Value :=
  schema.adjust doc.target ["properties", name]

def ComplexWithout (h : Heuristics) (schema : Value) (property : String × Value) : Prop :=
  ∃ properties : Members, schema.get? "properties" = some (.object properties) ∧
    (h.complexFieldCount ≤ properties.length ∨ ∃ p ∈ properties.erase property, isComplexProperty h p.2 = true)

variable {doc : Document} {schema v w : Value} {name : String}

theorem propertySplit (doc : Document) (written : property? schema name = some v) :
    ∃ before after, schema.get? "properties" = some (.object (before ++ (name, v) :: after)) ∧
      (∀ p ∈ before, p.1 ≠ name) ∧
      (doc.respell name schema).get? "properties" = some (.object (before ++ (name, doc.target v) :: after)) := by
  rw [property?, descend] at written
  obtain ⟨table, listed, found⟩ := Option.bind_eq_some_iff.mp written
  rw [descendOne] at found
  cases table with
  | object ms =>
    obtain ⟨before, after, rfl, others, replaced⟩ := Members.setSplit found
    have put : (Value.object (before ++ (name, v) :: after)).adjust doc.target [name] =
        .object (before ++ (name, doc.target v) :: after) := by
      rw [Value.adjust]
      have there : Members.get? (before ++ (name, v) :: after) name = some v := found
      rw [there]
      exact congrArg _ (replaced _)
    exact ⟨before, after, listed, others, by rw [respell, Value.getAdjusted, listed, Option.map_some, put]⟩
  | _ => contradiction

theorem fieldsRespelled (written : property? schema name = some v) (resolves : doc.resolveSchema v = some w) :
    Field.ofSchema doc (doc.respell name schema) = Field.ofSchema doc schema := by
  obtain ⟨before, after, listed, _, respelled⟩ := propertySplit doc written
  have required : Field.requiredNames (doc.respell name schema) = Field.requiredNames schema := by
    rw [Field.requiredNames, respell, Value.getElsewhere (by decide), Field.requiredNames]
  have again : doc.resolveSchema (doc.target v) = doc.resolveSchema v := by
    rw [targetFound resolves, resolves, resolveEnd (resolvedEnds resolves)]
  unfold Field.ofSchema
  rw [respelled, listed, required]
  simp only [Option.bind_some, Value.members?, Option.getD_some, List.filterMap_append, List.filterMap_cons, again]

theorem complexRespelled (doc : Document) (h : Heuristics) (written : property? schema name = some v) :
    isComplexSchema h (doc.respell name schema) = isComplexSchema h schema ↔
      ComplexWithout h schema (name, v) ∨ isComplexProperty h (doc.target v) = isComplexProperty h v := by
  obtain ⟨before, after, listed, others, respelled⟩ := propertySplit doc written
  have rest : (before ++ (name, v) :: after).erase (name, v) = before ++ after := by
    rw [List.erase_append_right _ fun inside => others _ inside rfl, List.erase_cons_head]
  have complex {s u : Value} (fields : s.get? "properties" = some (.object (before ++ (name, u) :: after))) :
      isComplexSchema h s = true ↔ ComplexWithout h schema (name, v) ∨ isComplexProperty h u = true := by
    simp only [isComplexSchema, ComplexWithout, fields, listed, Option.bind_some, Value.members?, Option.some.injEq,
      Value.object.injEq, exists_eq_left', rest, List.length_append, List.length_cons, Bool.or_eq_true,
      decide_eq_true_eq, List.any_append, List.any_cons, List.any_eq_true, List.mem_append, or_and_right, exists_or]
    grind
  rw [Bool.eq_iff_iff, complex respelled, complex listed]
  by_cases without : ComplexWithout h schema (name, v)
  · simp [without]
  · rw [or_iff_right without, or_iff_right without, or_iff_right without]
    exact Bool.eq_iff_iff.symm

def requestPlace : List String := ["requestBody", "content", "application/json", "schema"]

def Document.respelled (doc : Document) (place : List String) (name : String) : Document :=
  ⟨doc.root.adjust doc.target (place ++ ["properties", name])⟩

theorem respellEnds (ends : reference? schema = none) : reference? (doc.respell name schema) = none :=
  (referenceAdjust (by decide)).trans ends

theorem operationRespelled {operation : Value} (held : descend operation requestPlace = some schema)
    (ends : reference? schema = none) :
    doc.requestSchema (operation.adjust doc.target (requestPlace ++ ["properties", name])) =
      some (doc.respell name schema) := by
  have there : descend (operation.adjust doc.target (requestPlace ++ ["properties", name])) requestPlace =
      some (doc.respell name schema) := by
    rw [descendAdjust, held]
    rfl
  rw [requestSchema]
  exact (congrArg (Option.bind · _) there).trans (resolveEnd (respellEnds ends))

theorem componentRespelled {operation : Value} {r : String} {place : List String}
    (refers : (descend operation requestPlace).bind reference? = some r) (keys : referenceKeys r = some place)
    (held : descend doc.root place = some schema) (ends : reference? schema = none) :
    (doc.respelled place name).requestSchema operation = some (doc.respell name schema) := by
  obtain ⟨written, there, refers⟩ := Option.bind_eq_some_iff.mp refers
  have resolves : (doc.respelled place name).resolveRef r = some (doc.respell name schema) := by
    rw [resolveRef, keys, Option.bind_some, respelled, descendAdjust, held]
    rfl
  have found : (doc.respelled place name).resolveSchema written = some (doc.respell name schema) :=
    followExactly.mpr ⟨1, by decide, .hop refers resolves (.here _), respellEnds ends⟩
  rw [requestSchema]
  exact (congrArg (Option.bind · _) there).trans found

theorem createdPattern {h : Heuristics} {n : Entity} (created : n.createRequest doc = some schema) :
    Pattern.of doc h n =
      if n.hasDetail then if isComplexSchema h schema then .masterDetailFull else .masterDetailSimple
      else .singleWithRegister := by
  have complex : createsComplex doc h n = isComplexSchema h schema := by
    rw [createsComplex]
    rw [Entity.createRequest] at created
    rw [created]
  have writable : n.writable = true := by
    obtain ⟨e, create, _⟩ := Option.bind_eq_some_iff.mp created
    simp [Entity.writable, Entity.hasCreate, create]
  rw [patternCases, complex, writable, if_pos (rfl : true = true)]

structure Respelling (doc : Document) (h : Heuristics) (n : Entity) (schema : Value) (name : String) (v w : Value) :
    Prop where
  fields : Field.ofSchema doc (doc.respell name schema) = Field.ofSchema doc schema
  pattern : ∀ (doc' : Document) (n' : Entity), n'.hasDetail = n.hasDetail →
    n'.createRequest doc' = some (doc.respell name schema) →
    (Pattern.of doc' h n' = Pattern.of doc h n ↔
      n.hasDetail = false ∨ ComplexWithout h schema (name, v) ∨ isComplexProperty h w = isComplexProperty h v)
  operation : ∀ operation, descend operation requestPlace = some schema →
    doc.requestSchema (operation.adjust doc.target (requestPlace ++ ["properties", name])) =
      some (doc.respell name schema)
  component : ∀ operation r place, (descend operation requestPlace).bind reference? = some r →
    referenceKeys r = some place → descend doc.root place = some schema →
    (doc.respelled place name).requestSchema operation = some (doc.respell name schema)

/-- A property of the create request that is replaced by what it refers to, in the operation or in the schema that
the operation refers to, changes no field. It leaves the pattern exactly if there are no details, if the request is
complex without the property, or if the property as it is written is as complex as what it refers to. -/
theorem patternRespelled (doc : Document) (h : Heuristics) {n : Entity} (created : n.createRequest doc = some schema)
    (written : property? schema name = some v) (resolves : doc.resolveSchema v = some w) :
    Respelling doc h n schema name v w := by
  have ends : reference? schema = none := by
    obtain ⟨_, _, request⟩ := Option.bind_eq_some_iff.mp created
    obtain ⟨_, _, found⟩ := Option.bind_eq_some_iff.mp request
    exact resolvedEnds found
  refine ⟨fieldsRespelled written resolves, fun doc' n' detail respelled => ?_,
    fun _ held => operationRespelled held ends, fun _ _ _ refers keys held => componentRespelled refers keys held ends⟩
  have complex := complexRespelled doc h written
  rw [targetFound resolves] at complex
  rw [← complex, createdPattern created, createdPattern respelled, detail]
  cases n.hasDetail with
  | false => simp
  | true => cases isComplexSchema h (doc.respell name schema) <;> cases isComplexSchema h schema <;> simp

def orders (lines : Value) : Document :=
  let schemas : Value := .object
    [("Order", .object [("properties", .object [("lines", lines), ("memo", component "Memo")])]),
     ("Lines", .object [("type", .string "array")]), ("Memo", .object [("type", .string "string")])]
  let body : Value := .object [("content", .object [("application/json", .object [("schema", component "Order")])])]
  ⟨.object [("components", .object [("schemas", schemas)]),
    ("paths", .object [("/order/detail", .object [("get", .object [])]),
      ("/order", .object [("post", .object [("requestBody", body)])])])]⟩

theorem nestedReferenceOverlooked :
    let listed : Value := .object [("type", .string "array")]
    let d := orders (component "Lines")
    let e := orders listed
    e = d.respelled ["components", "schemas", "Order"] "lines" ∧ d.resolveSchema (component "Lines") = some listed ∧
      Pattern.of d {} (d.entity "order") = .masterDetailSimple ∧
      Pattern.of e {} (e.entity "order") = .masterDetailFull := by
  decide +kernel

theorem memoRespelled :
    let d := orders (component "Lines")
    let e := d.respelled ["components", "schemas", "Order"] "memo"
    ∃ schema, (d.entity "order").createRequest d = some schema ∧ property? schema "memo" = some (component "Memo") ∧
      d.resolveSchema (component "Memo") = some (.object [("type", .string "string")]) ∧
      (e.entity "order").hasDetail = (d.entity "order").hasDetail ∧
      (e.entity "order").createRequest e = some (d.respell "memo" schema) ∧
      Pattern.of e {} (e.entity "order") = Pattern.of d {} (d.entity "order") := by
  intro d e
  let schema : Value := .object [("properties", .object [("lines", component "Lines"), ("memo", component "Memo")])]
  have created : (d.entity "order").createRequest d = some schema := by decide +kernel
  have written : property? schema "memo" = some (component "Memo") := by decide +kernel
  have resolves : d.resolveSchema (component "Memo") = some (.object [("type", .string "string")]) := by decide +kernel
  have detail : (e.entity "order").hasDetail = (d.entity "order").hasDetail := by decide +kernel
  have again : (e.entity "order").createRequest e = some (d.respell "memo" schema) := by decide +kernel
  have same := ((patternRespelled d {} created written resolves).pattern e (e.entity "order") detail again).mpr
    (.inr (.inr (by decide +kernel)))
  exact ⟨schema, created, written, resolves, detail, again, same⟩

end ApiScreens
