import ApiScreens.Document
import ApiScreens.Heuristics
import ApiScreens.Json.Printer
import ApiScreens.Module.Basic
import ApiScreens.Naming

/-! Columns, form inputs and search inputs derived from the properties of a schema. Labels, widths and
masks are guesses by name; which properties appear at all is not. -/
namespace ApiScreens
open Json (Value Members)

inductive FieldKind where
  | string | number | boolean | array | object
  deriving DecidableEq, Repr

namespace FieldKind

def ofType : Option String → FieldKind
  | some "integer" => number
  | some "number" => number
  | some "boolean" => boolean
  | some "array" => array
  | some "object" => object
  | _ => string

def name : FieldKind → String
  | string => "String"
  | number => "Number"
  | boolean => "Boolean"
  | array => "Array"
  | object => "Object"

end FieldKind

structure Field where
  name : String
  kind : FieldKind
  required : Bool
  maxLength : Option Nat
  minLength : Option Nat
  format : Option String
  options : Option (List String)
  example? : Option String
  deriving DecidableEq, Repr

def plainText : Value → String
  | .string s => s
  | v => v.compact

namespace Field

def ofProperty (name : String) (property : Value) (required : Bool) : Field where
  name := name
  kind := .ofType ((property.get? "type").bind Value.string?)
  required := required
  maxLength := (property.get? "maxLength").bind Value.natural?
  minLength := (property.get? "minLength").bind Value.natural?
  format := (property.get? "format").bind Value.string?
  options := ((property.get? "enum").bind Value.items?).map (·.map plainText)
  example? := match property.get? "example" with
    | none | some .null => none
    | some v => some (plainText v)

def requiredNames (schema : Value) : List String :=
  (((schema.get? "required").bind Value.items?).getD []).filterMap Value.string?

def ofSchema (doc : Document) (schema : Value) : List Field :=
  (((schema.get? "properties").bind Value.members?).getD []).filterMap fun (name, property) =>
    (doc.resolveSchema property).map fun resolved =>
      ofProperty name resolved (name ∈ requiredNames schema)

def systemNames : List String :=
  ["createdAt", "updatedAt", "deletedAt", "createdBy", "updatedBy", "deletedBy", "version",
   "revision", "tenantId", "isDelete", "page", "size", "createdAtStart", "createdAtEnd",
   "updatedAtStart", "updatedAtEnd"]

def readOnlyNames : List String := ["id", "createdAt", "updatedAt"]

def isSystem (name : String) : Bool := name ∈ systemNames

def isReadOnly (name : String) : Bool := name ∈ readOnlyNames

def labels : List (String × String) :=
  [("id", "ID"), ("code", "코드"), ("name", "이름"), ("date", "일자"), ("vendorName", "업체명"),
   ("vendorNo", "업체번호"), ("orderCode", "주문코드"), ("orderDate", "주문일자"),
   ("deliveryDate", "납기일자"), ("itemName", "품명"), ("itemNumber", "품번"), ("unitPrice", "단가"),
   ("totalAmount", "총금액")]

def placeholders : List (String × String) :=
  [("email", "example@company.com"), ("phone", "010-0000-0000"), ("tel", "02-0000-0000"),
   ("fax", "02-0000-0000"), ("licenseno", "000-00-00000"), ("businessno", "000-00-00000"),
   ("zipcode", "12345"), ("date", "YYYY-MM-DD")]

def label (name : String) : String := (labels.lookup name).getD (Naming.capitalize name)

def placeholder (name : String) (sample : Option String) : String :=
  match sample with
  | some text => if text = "" then hint else text
  | none => hint
where
  hint : String :=
    match placeholders.find? fun p => Text.has (Text.lower name) p.1 with
    | some (_, text) => text
    | none => label name ++ "을(를) 입력하세요"

def mask (name : String) : Option (String × Bool) :=
  let lower := Text.lower name
  if ["phone", "tel", "mobile"].any (Text.has lower) then some ("000-0000-0000", true)
  else if ["license", "businessno"].any (Text.has lower) then some ("000-00-00000", false)
  else none

def emailPattern : String := "^[^\\s@]+@[^\\s@]+\\.[^\\s@]+$"

def columnSize (f : Field) : UInt32 :=
  let lower := Text.lower f.name
  if f.name = "id" then 80
  else if Text.has lower "date" || Text.has lower "time" then 150
  else if f.name = "status" || f.name = "type" then 100
  else if f.name = "code" then 120
  else match f.maxLength with
    | some longest => if longest = 0 then 150 else .ofNat (min 300 (max 100 (longest * 8)))
    | none => 150

def inputKind (h : Heuristics) (f : Field) : String :=
  let lower := Text.lower f.name
  if f.options.isSome then "select"
  else if f.format = some "date" then "date"
  else if f.format = some "date-time" then "datetime-local"
  else if f.format = some "email" then "email"
  else if f.kind = .number then "number"
  else if Text.has lower "tel" || Text.has lower "phone" then "tel"
  else if f.maxLength.any (h.textareaMaxLength < ·) then "textarea"
  else "text"

def searchKind (f : Field) : String :=
  if f.options.isSome then "select"
  else if f.format = some "date" || f.format = some "date-time" then "date"
  else "text"

def isSearchable (f : Field) : Bool :=
  !isSystem f.name && (f.kind = .string || Text.has f.name "name" || Text.has f.name "code")

def selectOptions (f : Field) : Option (List SelectOption) :=
  f.options.map (·.map fun v => ⟨v, v⟩)

def column (f : Field) : Column where
  accessorKey := f.name
  header := label f.name
  size := f.columnSize
  minSize := if f.name = "id" then some 60 else none

def columns (fields : List Field) : List Column :=
  (fields.filter fun f => f.name = "id" || !isSystem f.name).map column

def formField (h : Heuristics) (f : Field) : FormField where
  name := f.name
  label := label f.name
  kind := f.inputKind h
  placeholder := placeholder f.name f.example?
  required := f.required
  maxLength := f.maxLength.map .ofNat
  minLength := f.minLength.map .ofNat
  mask := (mask f.name).map (·.1)
  maskAutoDetect := (mask f.name).any (·.2)
  pattern := if f.format = some "email" then some emailPattern else none
  options := f.selectOptions
  rows := if f.inputKind h = "textarea" then some 3 else none

def formFields (h : Heuristics) (fields : List Field) : List FormField :=
  (fields.filter fun f => !isSystem f.name && !isReadOnly f.name).map (formField h)

def searchField (f : Field) : SearchField where
  name := f.name
  label := label f.name
  kind := f.searchKind
  placeholder := placeholder f.name none
  options := f.selectOptions

def searchSlot (fields : List Field) : List SearchField :=
  (fields.filter fun f => !isSystem f.name).map searchField

def quickSearch (h : Heuristics) (fields : List Field) : List String :=
  ((fields.filter isSearchable).take h.searchFieldCap).map (·.name)

end Field
end ApiScreens
