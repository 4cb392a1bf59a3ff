import ApiScreens.Proofs.Document.Chains
import ApiScreens.Proofs.Json.Members
import Mathlib.Data.List.ReduceOption

/-! Envelopes with and without references. Where the record of an answer is can be told from the schema of the answer
alone once the references on the way are replaced by what they refer to, and the record is what is found there. -/
namespace ApiScreens.Document
open Json (Value)
open Json.Value (adjust getAdjust getAdjusted getElsewhere)

def recordInData (data : Value) : List String :=
  if (property? data "content").any isArraySchema then ["properties", "content", "items"]
  else if isArraySchema data then ["items"]
  else []

def dataPlace : List String := ["properties", "data"]

def recordPlace (schema : Value) : List String :=
  match property? schema "data" with
  | some data => dataPlace ++ recordInData data
  | none => if isArraySchema schema then ["items"] else []

def unwrapped (schema : Value) : Option Value := descend schema (recordPlace schema)

def target (doc : Document) (schema : Value) : Value := (doc.resolveSchema schema).getD schema

def contentPlace : List String := ["properties", "content"]

def opened (doc : Document) (schema : Value) : Value :=
  (doc.target schema).adjust (fun data => (doc.target data).adjust doc.target contentPlace) dataPlace

def spelledOut (doc : Document) (schema : Value) : Value :=
  (doc.opened schema).adjust doc.target (recordPlace (doc.opened schema))

def met (doc : Document) (schema : Value) : List Value :=
  let data := property? (doc.target schema) "data"
  let content := data.bind fun v => property? (doc.target v) "content"
  schema :: [data, content, unwrapped (doc.opened schema)].reduceOption

def Resolvable (doc : Document) (schema : Value) : Prop :=
  ∀ v ∈ doc.met schema, reference? v ≠ none → doc.resolveSchema v ≠ none

instance (doc : Document) (schema : Value) : Decidable (doc.Resolvable schema) :=
  inferInstanceAs (Decidable (∀ v ∈ doc.met schema, reference? v ≠ none → doc.resolveSchema v ≠ none))

variable {doc : Document} {f : Value → Value} {v w : Value}

theorem targetFound (found : doc.resolveSchema v = some w) : doc.target v = w := by
  rw [target, found, Option.getD_some]

theorem targetEnd (ends : reference? v = none) : doc.target v = v := targetFound (resolveEnd ends)

theorem arrayAdjust {key : String} {rest : List String} (other : "type" ≠ key) :
    isArraySchema (v.adjust f (key :: rest)) = isArraySchema v := by
  rw [isArraySchema, getElsewhere other, isArraySchema]

theorem referenceAdjust {key : String} {rest : List String} (other : "$ref" ≠ key) :
    reference? (v.adjust f (key :: rest)) = reference? v := by
  rw [reference?, getElsewhere other, reference?]

theorem propertyAdjust {name : String} {rest : List String} :
    property? (v.adjust f ("properties" :: name :: rest)) name = (property? v name).map (adjust f rest) :=
  descendAdjust f ["properties", name] rest v

theorem propertyElsewhere {key name : String} {rest : List String} (other : "properties" ≠ key) :
    property? (v.adjust f (key :: rest)) name = property? v name := by
  unfold property?
  simp only [descend, getElsewhere other]

theorem inDataSettled (settled : recordInData v = [] → f v = v) :
    recordInData (v.adjust f (recordInData v)) = recordInData v := by
  by_cases paged : (property? v "content").any isArraySchema = true
  · have place : recordInData v = ["properties", "content", "items"] := if_pos paged
    have same (w : Value) : isArraySchema (w.adjust f ["items"]) = isArraySchema w := arrayAdjust (by decide)
    rw [place, recordInData, propertyAdjust, Option.any_map]
    simp only [same]
    exact if_pos paged
  · by_cases bare : isArraySchema v = true
    · have place : recordInData v = ["items"] := by rw [recordInData, if_neg paged, if_pos bare]
      rw [place, recordInData, propertyElsewhere (by decide), arrayAdjust (by decide), if_neg paged, if_pos bare]
    · have place : recordInData v = [] := by rw [recordInData, if_neg paged, if_neg bare]
      have unchanged : v.adjust f (recordInData v) = v := by
        rw [place]
        exact settled place
      rw [unchanged]

theorem dataSpelled (content : ∀ c, property? v "content" = some c → doc.resolveSchema c ≠ none) :
    let spelled := v.adjust doc.target contentPlace
    (recordInData spelled ≠ [] → doc.dataRecord v = (descend spelled (recordInData spelled)).bind doc.resolveSchema) ∧
      (recordInData spelled = [] → doc.dataRecord v = some v) := by
  intro spelled
  have paged : property? spelled "content" = (property? v "content").map doc.target := propertyAdjust
  have bare : isArraySchema spelled = isArraySchema v := arrayAdjust (by decide)
  have items : descend spelled ["items"] = v.get? "items" := by
    rw [descendOne]
    exact getElsewhere (by decide)
  have within : descend spelled ["properties", "content", "items"] = (property? spelled "content").bind (·.get? "items") := by
    rw [property?, ← funext fun w => descendOne w "items"]
    exact descendAppend spelled contentPlace ["items"]
  unfold recordInData dataRecord
  rw [bare]
  cases given : property? v "content" with
  | none =>
    rw [given, Option.map_none] at paged
    rw [paged, Option.any_none]
    cases isArraySchema v with
    | true => exact ⟨fun _ => by simp [items, itemSchema], fun none => by simp at none⟩
    | false => exact ⟨fun some => by simp at some, fun _ => rfl⟩
  | some c =>
    obtain ⟨t, resolves⟩ := Option.ne_none_iff_exists'.mp (content c given)
    rw [given, Option.map_some, targetFound resolves] at paged
    rw [paged, Option.bind_some] at within
    rw [paged, Option.any_some]
    cases list : isArraySchema t with
    | true => exact ⟨fun _ => by simp [resolves, list, within, itemSchema], fun none => by simp at none⟩
    | false =>
      cases isArraySchema v with
      | true => exact ⟨fun _ => by simp [resolves, list, items, itemSchema], fun none => by simp at none⟩
      | false => exact ⟨fun some => by simp at some, fun _ => by simp [resolves, list]⟩

section
variable {schema root : Value}

theorem openedData (found : doc.resolveSchema schema = some root) :
    property? (doc.opened schema) "data" =
      (property? root "data").map fun data => (doc.target data).adjust doc.target contentPlace := by
  rw [opened, targetFound found]
  exact propertyAdjust

theorem openedPlain (found : doc.resolveSchema schema = some root) (bare : property? root "data" = none) :
    doc.opened schema = root := by
  rw [opened, targetFound found]
  exact adjustSame fun data there => by
    rw [property?] at bare
    rw [dataPlace, bare] at there
    contradiction

theorem placeSettled {f : Value → Value} {root : Value} (plain : ∀ v, reference? v = none → f v = v)
    (ends : reference? root = none) (inner : ∀ data, property? root "data" = some data → reference? data = none) :
    recordPlace (root.adjust f (recordPlace root)) = recordPlace root := by
  cases given : property? root "data" with
  | some data =>
    have place : recordPlace root = dataPlace ++ recordInData data := by rw [recordPlace, given]
    have moved : property? (root.adjust f (recordPlace root)) "data" = some (data.adjust f (recordInData data)) := by
      rw [place]
      exact propertyAdjust.trans (given ▸ rfl)
    rw [recordPlace, moved, place]
    exact congrArg (dataPlace ++ ·) (inDataSettled fun _ => plain data (inner data given))
  | none =>
    cases list : isArraySchema root with
    | true =>
      have place : recordPlace root = ["items"] := by rw [recordPlace, given, if_pos list]
      rw [place, recordPlace, propertyElsewhere (by decide), given, arrayAdjust (by decide), if_pos list]
    | false =>
      have place : recordPlace root = [] := by simp [recordPlace, given, list]
      have unchanged : root.adjust f (recordPlace root) = root := by
        rw [place]
        exact plain root ends
      rw [unchanged]

theorem itemEnds (found : doc.itemSchema v = some w) : reference? w = none := by
  obtain ⟨items, _, resolves⟩ := Option.bind_eq_some_iff.mp found
  exact resolvedEnds resolves

theorem dataEnds (ends : reference? v = none) (found : doc.dataRecord v = some w) : reference? w = none := by
  have bare (found : (if isArraySchema v then doc.itemSchema v else some v) = some w) : reference? w = none := by
    split at found
    · exact itemEnds found
    · cases found
      exact ends
  unfold dataRecord at found
  split at found
  · exact bare found
  · obtain ⟨content, _, found⟩ := Option.bind_eq_some_iff.mp found
    split at found
    · exact itemEnds found
    · exact bare found

theorem recordEnds {operation : Value} (found : doc.recordSchema operation = some w) : reference? w = none := by
  obtain ⟨root, answer, found⟩ := Option.bind_eq_some_iff.mp found
  obtain ⟨_, _, resolves⟩ := Option.bind_eq_some_iff.mp answer
  split at found
  · obtain ⟨data, there, found⟩ := Option.bind_eq_some_iff.mp found
    exact dataEnds (resolvedEnds there) found
  · split at found
    · exact itemEnds found
    · cases found
      exact resolvedEnds resolves

section
variable {operation : Value} (resolvable : doc.Resolvable schema)
include resolvable

theorem metResolves (inside : v ∈ doc.met schema) : ∃ t, doc.resolveSchema v = some t := by
  cases refers : reference? v with
  | none => exact ⟨v, resolveEnd refers⟩
  | some r => exact Option.ne_none_iff_exists'.mp (resolvable v inside (by simp [refers]))

theorem answerResolves : ∃ root, doc.resolveSchema schema = some root := metResolves resolvable List.mem_cons_self

theorem dataResolves (found : doc.resolveSchema schema = some root) (given : property? root "data" = some v) :
    ∃ data, doc.resolveSchema v = some data := by
  refine metResolves resolvable (List.mem_cons_of_mem _ (List.reduceOption_mem_iff.mpr ?_))
  simp [targetFound found, given]

theorem contentResolves (found : doc.resolveSchema schema = some root) (given : property? root "data" = some v)
    (resolves : doc.resolveSchema v = some w) {content : Value} (paged : property? w "content" = some content) :
    doc.resolveSchema content ≠ none := by
  refine Option.ne_none_iff_exists'.mpr (metResolves resolvable (List.mem_cons_of_mem _ (List.reduceOption_mem_iff.mpr ?_)))
  simp [targetFound found, given, targetFound resolves, paged]

theorem takenResolves (taken : unwrapped (doc.opened schema) = some v) : ∃ record, doc.resolveSchema v = some record :=
  metResolves resolvable (List.mem_cons_of_mem _ (List.reduceOption_mem_iff.mpr (by simp [taken])))

theorem openedSettled : recordPlace (doc.spelledOut schema) = recordPlace (doc.opened schema) := by
  obtain ⟨root, found⟩ := answerResolves resolvable
  refine placeSettled (fun _ => targetEnd) ?_ fun data given => ?_
  · rw [opened, targetFound found]
    exact (referenceAdjust (by decide)).trans (resolvedEnds found)
  · rw [openedData found] at given
    obtain ⟨v, there, rfl⟩ := Option.map_eq_some_iff.mp given
    obtain ⟨data, resolves⟩ := dataResolves resolvable found there
    rw [targetFound resolves]
    exact (referenceAdjust (by decide)).trans (resolvedEnds resolves)

theorem spelledRecord : unwrapped (doc.spelledOut schema) = (unwrapped (doc.opened schema)).map doc.target := by
  have there := descendAdjust doc.target (recordPlace (doc.opened schema)) [] (doc.opened schema)
  rw [List.append_nil] at there
  rw [unwrapped, openedSettled resolvable]
  exact there

theorem recordOpened (answer : responseSchema operation = some schema) :
    (recordPlace (doc.opened schema) ≠ dataPlace →
      doc.recordSchema operation = (unwrapped (doc.opened schema)).bind doc.resolveSchema) ∧
    (recordPlace (doc.opened schema) = dataPlace → ∃ data, doc.recordSchema operation = some data ∧
      unwrapped (doc.opened schema) = some (data.adjust doc.target contentPlace) ∧
      ∀ content, property? data "content" = some content → doc.resolveSchema content ≠ none) := by
  obtain ⟨root, found⟩ := answerResolves resolvable
  cases given : property? root "data" with
  | none =>
    have start : doc.recordSchema operation = if isArraySchema root then doc.itemSchema root else some root := by
      simp [recordSchema, answer, found, given]
    rw [start, openedPlain found given, unwrapped, recordPlace, given]
    cases isArraySchema root with
    | true => exact ⟨fun _ => by simp [itemSchema, descendOne], fun data => absurd data (by decide)⟩
    | false => exact ⟨fun _ => (resolveEnd (resolvedEnds found)).symm, fun data => absurd data (by decide)⟩
  | some v =>
    obtain ⟨data, resolves⟩ := dataResolves resolvable found given
    have content : ∀ c, property? data "content" = some c → doc.resolveSchema c ≠ none := fun _ =>
      contentResolves resolvable found given resolves
    have inner : property? (doc.opened schema) "data" = some (data.adjust doc.target contentPlace) := by
      rw [openedData found, given, Option.map_some, targetFound resolves]
    have place : recordPlace (doc.opened schema) = dataPlace ++ recordInData (data.adjust doc.target contentPlace) := by
      rw [recordPlace, inner]
    have taken : unwrapped (doc.opened schema) =
        descend (data.adjust doc.target contentPlace) (recordInData (data.adjust doc.target contentPlace)) := by
      rw [unwrapped, place, descendAppend]
      exact congrArg (Option.bind · _) inner
    have start : doc.recordSchema operation = doc.dataRecord data := by
      simp [recordSchema, answer, found, given, resolves]
    obtain ⟨below, whole⟩ := dataSpelled content
    rw [start, place, taken]
    refine ⟨fun deeper => below fun top => deeper (by rw [top, List.append_nil]), fun top => ?_⟩
    have empty : recordInData (data.adjust doc.target contentPlace) = [] := by simpa using top
    exact ⟨data, whole empty, by rw [empty, descend], content⟩

end

end

/-- The record of an answer is what the table of places says of the schema with the references replaced. Where that is
the data as a whole, its content is looked at and stays as it is written. -/
structure Unwraps (doc : Document) (operation schema : Value) : Prop where
  place : recordPlace (doc.spelledOut schema) ≠ dataPlace →
    doc.recordSchema operation = unwrapped (doc.spelledOut schema)
  data : recordPlace (doc.spelledOut schema) = dataPlace → ∃ data, doc.recordSchema operation = some data ∧
    unwrapped (doc.spelledOut schema) = some (data.adjust doc.target contentPlace) ∧
    (doc.recordSchema operation = unwrapped (doc.spelledOut schema) ↔
      ∀ content, property? data "content" = some content → reference? content = none)

theorem envelopesUnwrapped (doc : Document) (operation : Value) :
    (∀ record, doc.recordSchema operation = some record → reference? record = none) ∧
      (responseSchema operation = none → doc.recordSchema operation = none) ∧
      ∀ schema, responseSchema operation = some schema → doc.Resolvable schema → doc.Unwraps operation schema := by
  refine ⟨fun _ => recordEnds, fun none => by simp [recordSchema, none], fun schema answer resolvable => ?_⟩
  obtain ⟨below, whole⟩ := recordOpened resolvable answer
  have spelled := spelledRecord resolvable
  have settled := openedSettled resolvable
  constructor
  · intro deeper
    rw [settled] at deeper
    rw [below deeper, spelled]
    cases taken : unwrapped (doc.opened schema) with
    | none => rfl
    | some v =>
      obtain ⟨record, resolves⟩ := takenResolves resolvable taken
      rw [Option.bind_some, Option.map_some, targetFound resolves, resolves]
  · intro top
    rw [settled] at top
    obtain ⟨data, record, taken, resolves⟩ := whole top
    have ends : reference? (data.adjust doc.target contentPlace) = none :=
      (referenceAdjust (by decide)).trans (recordEnds record)
    rw [taken, Option.map_some, targetEnd ends] at spelled
    refine ⟨data, record, spelled, ?_⟩
    rw [record, spelled, Option.some.injEq]
    constructor
    · intro same content paged
      obtain ⟨t, found⟩ := Option.ne_none_iff_exists'.mp (resolves content paged)
      have replaced : property? (data.adjust doc.target contentPlace) "content" = some t := by
        rw [← targetFound found]
        exact propertyAdjust.trans (paged ▸ rfl)
      rw [← same, paged] at replaced
      exact Option.some.inj replaced ▸ resolvedEnds found
    · intro plain
      exact (adjustSame fun content paged => targetEnd (plain content paged)).symm

def component (name : String) : Value := .object [("$ref", .string ("#/components/schemas/" ++ name))]

def answering (schema : Value) : Value :=
  .object [("responses", .object [("200", .object [("content", .object [("*/*", .object [("schema", schema)])])])])]

def orderPages : Document :=
  let having (properties : List (String × Value)) : Value := .object [("properties", .object properties)]
  ⟨.object [("components", .object [("schemas", .object
    [("Answer", having [("data", component "Page")]),
     ("Page", having [("content", component "Orders")]),
     ("Orders", .object [("type", .string "array"), ("items", component "Order")]),
     ("Order", having [("content", component "Text")]),
     ("Text", .object [("type", .string "string")])])])]⟩

theorem orderPagesUnwrapped :
    responseSchema (answering (component "Answer")) = some (component "Answer") ∧
      orderPages.Resolvable (component "Answer") ∧
      orderPages.recordSchema (answering (component "Answer")) = orderPages.resolveRef "#/components/schemas/Order" := by
  have answer : responseSchema (answering (component "Answer")) = some (component "Answer") := by decide +kernel
  have resolvable : orderPages.Resolvable (component "Answer") := by decide +kernel
  refine ⟨answer, resolvable, ?_⟩
  obtain ⟨_, _, unwraps⟩ := envelopesUnwrapped orderPages (answering (component "Answer"))
  rw [(unwraps _ answer resolvable).place (by decide +kernel)]
  decide +kernel

theorem contentStaysReference :
    let schema : Value := .object [("properties", .object [("data", component "Order")])]
    responseSchema (answering schema) = some schema ∧ orderPages.Resolvable schema ∧
      orderPages.recordSchema (answering schema) ≠ unwrapped (orderPages.spelledOut schema) := by
  decide +kernel

end ApiScreens.Document
