import ApiScreens.Json.Printer
import ApiScreens.Module.Json
import ApiScreens.Script.Code
import ApiScreens.Text.Case

/-! Literals that are spliced into generated files: strings, columns with their cell renderers, the keys
of an information grid and form schemas. -/
namespace ApiScreens.Script
open Json (Value Members)

def stringLiteral (s : String) : String := String.ofList (Json.quoted s)

def stringArray (texts : List String) : String := "[" ++ commas (texts.map stringLiteral) ++ "]"

inductive CellKind where
  | date | number | status
  deriving DecidableEq, Repr

def dateEndings : List String := ["date", "time", "at"]
def dateMarkers : List String := ["created", "updated", "modified", "deleted", "expired"]
def numberEndings : List String :=
  ["id", "no", "number", "count", "amount", "price", "cost", "quantity", "size", "length", "width",
   "height"]
def statusEndings : List String := ["status", "state", "type", "category", "level"]

def cellKind (key : String) : Option CellKind :=
  let lower := Text.lower key
  if dateEndings.any (Text.endsWith lower) || dateMarkers.any (Text.has lower) then some .date
  else if numberEndings.any (Text.endsWith lower) && key ≠ "id" then some .number
  else if statusEndings.any (Text.endsWith lower) then some .status
  else none

def CellKind.result : CellKind → String
  | .date => "value ? new Date(value).toLocaleDateString('ko-KR') : '-'"
  | .number => "value ? value.toLocaleString() : '-'"
  | .status => "value || '-'"

def CellKind.renderer (k : CellKind) : String :=
  "({ getValue }: { getValue: () => any }) => " ++
    braced ("const value = getValue(); return " ++ k.result ++ ";")

def defaultColumns : List Column :=
  [⟨"id", "ID", 80, some 60⟩, ⟨"name", "이름", 150, none⟩, ⟨"code", "코드", 120, none⟩,
   ⟨"status", "상태", 100, none⟩]

def natText (n : Nat) : String := String.ofList (Json.integerText n)

def property (name value : String) : String := name ++ ": " ++ value ++ ","

def columnProperties (c : Column) : Lines :=
  [property "accessorKey" (stringLiteral c.accessorKey), property "header" (stringLiteral c.header),
   property "size" (natText c.size.toNat)] ++
  (c.minSize.map fun least => property "minSize" (natText least.toNat)).toList ++
  ((cellKind c.accessorKey).map fun k => property "cell" k.renderer).toList

def columnsLiteral (columns : List Column) : String :=
  let shown := if columns.isEmpty then defaultColumns else columns
  text <| enclosed "[" (separated (shown.map fun c => block "" (columnProperties c) "")) "]"

def gridLimit : Nat := 8

def gridExcluded : List String := ["description", "memo", "content"]

def isGridColumn (c : Column) : Bool :=
  !(["Details", "List", "Array"].any (Text.has c.accessorKey)) && c.accessorKey ∉ gridExcluded

def defaultGrid : List (String × String) :=
  [("id", "ID"), ("code", "코드"), ("name", "이름"), ("status", "상태"), ("createdAt", "등록일시"),
   ("updatedAt", "수정일시"), ("createdBy", "등록자"), ("updatedBy", "수정자")]

def gridHas (keys : List (String × String)) (key : String) : Bool := keys.any (·.1 = key)

def withIdentifier (keys : List (String × String)) : List (String × String) :=
  if !gridHas keys "id" && keys.length < gridLimit then ("id", "ID") :: keys else keys

def withCreation (keys : List (String × String)) : List (String × String) :=
  if !gridHas keys "createdAt" && keys.length < gridLimit then keys ++ [("createdAt", "등록일시")]
  else keys

def gridKeys (columns : List Column) : List (String × String) :=
  if columns.isEmpty then defaultGrid
  else
    let shown := (columns.filter isGridColumn).take gridLimit
    withCreation (withIdentifier (shown.map fun c => (c.accessorKey, c.header)))

def gridLiteral (columns : List Column) : String :=
  (Value.array ((gridKeys columns).map fun (key, label) =>
    .object [("key", .string key), ("label", .string label)])).pretty

def defaultForm : Value := .array
  [.object [("name", .string "name"), ("label", .string "이름"), ("type", .string "text"),
     ("placeholder", .string "이름을 입력하세요"), ("required", .bool true), ("maxLength", .ofNat 100)],
   .object [("name", .string "code"), ("label", .string "코드"), ("type", .string "text"),
     ("placeholder", .string "코드를 입력하세요"), ("required", .bool true), ("maxLength", .ofNat 50)],
   .object [("name", .string "description"), ("label", .string "설명"), ("type", .string "textarea"),
     ("placeholder", .string "설명을 입력하세요"), ("required", .bool false), ("maxLength", .ofNat 500),
     ("rows", .ofNat 3)],
   .object [("name", .string "status"), ("label", .string "상태"), ("type", .string "select"),
     ("placeholder", .string "상태를 선택하세요"), ("required", .bool true),
     ("options", .array
       [.object [("value", .string "active"), ("label", .string "활성")],
        .object [("value", .string "inactive"), ("label", .string "비활성")]])]]

def completeField (f : FormField) : Value :=
  let ms := (f.toJson.members?).getD []
  let label := if f.label = "" then f.name else f.label
  let ms := if f.placeholder = "" then
    Members.set ms "placeholder" (.string (label ++ "을(를) 입력하세요")) else ms
  let ms := Members.set ms "label" (.string label)
  let ms := if f.kind = "textarea" && f.rows.isNone then Members.set ms "rows" (.ofNat 3) else ms
  let ms := if f.kind = "number" && (Members.get? ms "min").isNone then
    Members.set ms "min" (.ofNat 0) else ms
  .object ms

def formLiteral (fields : List FormField) : String :=
  (if fields.isEmpty then defaultForm else .array (fields.map completeField)).pretty

end ApiScreens.Script
