import ApiScreens.Json.Record
import ApiScreens.Module.Basic

/-! Modules as JSON. What is written leaves out absent options and switches that are off, and reading
puts the same defaults back. -/
namespace ApiScreens
open Json (Value Written needed defaulted nullable present)

def textList (texts : List String) : Value := .array (texts.map .string)

def switch (on : Bool) : Option Value := if on then some (.bool true) else none

namespace PageKind

def code : PageKind → String
  | single => "singlePage"
  | masterDetail => "masterDetailPage"

def ofCode : String → Option PageKind
  | "singlePage" => some single
  | "masterDetailPage" => some masterDetail
  | _ => none

def read (w : Written) : Option PageKind := w.constant?.bind ofCode

end PageKind

namespace ActionKind

def code : ActionKind → String
  | create => "create"
  | edit => "edit"

def ofCode : String → Option ActionKind
  | "create" => some create
  | "edit" => some edit
  | _ => none

def read (w : Written) : Option ActionKind := w.constant?.bind ofCode

end ActionKind

namespace ActionMode

def code : ActionMode → String
  | modal => "modal"
  | navigation => "navigation"

def ofCode : String → Option ActionMode
  | "modal" => some modal
  | "navigation" => some navigation
  | _ => none

def read (w : Written) : Option ActionMode := w.constant?.bind ofCode

end ActionMode

namespace SelectOption

def toJson (o : SelectOption) : Value :=
  .object [("label", .string o.label), ("value", .string o.value)]

def read (w : Written) : Option SelectOption := do
  match ← w.fields ["label", "value"] with
  | [label, value] =>
      some
        { label := ← needed Written.string? label
          value := ← needed Written.string? value }
  | _ => none

end SelectOption

namespace Column

def toJson (c : Column) : Value := .object <| present
  [("accessorKey", some (.string c.accessorKey)), ("header", some (.string c.header)),
   ("size", some (.ofNat c.size.toNat)), ("minSize", c.minSize.map fun n => .ofNat n.toNat)]

def read (w : Written) : Option Column := do
  match ← w.fields ["accessorKey", "header", "size", "minSize"] with
  | [key, header, size, minSize] =>
      some
        { accessorKey := ← needed Written.string? key
          header := ← needed Written.string? header
          size := ← needed Written.u32? size
          minSize := ← nullable Written.u32? minSize }
  | _ => none

end Column

namespace FormField

def toJson (f : FormField) : Value := .object <| present
  [("name", some (.string f.name)), ("label", some (.string f.label)),
   ("type", some (.string f.kind)), ("placeholder", some (.string f.placeholder)),
   ("required", some (.bool f.required)),
   ("maxLength", f.maxLength.map fun n => .ofNat n.toNat),
   ("minLength", f.minLength.map fun n => .ofNat n.toNat),
   ("mask", f.mask.map .string), ("maskAutoDetect", switch f.maskAutoDetect),
   ("pattern", f.pattern.map .string),
   ("options", f.options.map fun os => .array (os.map SelectOption.toJson)),
   ("rows", f.rows.map fun n => .ofNat n.toNat)]

def read (w : Written) : Option FormField := do
  match ← w.fields ["name", "label", "type", "placeholder", "required", "maxLength", "minLength",
      "mask", "maskAutoDetect", "pattern", "options", "rows"] with
  | [name, label, kind, placeholder, must, maxLength, minLength, mask, auto, pattern, options,
      rows] =>
      some
        { name := ← needed Written.string? name
          label := ← needed Written.string? label
          kind := ← needed Written.string? kind
          placeholder := ← defaulted "" Written.string? placeholder
          required := ← defaulted false Written.bool? must
          maxLength := ← nullable Written.u64? maxLength
          minLength := ← nullable Written.u64? minLength
          mask := ← nullable Written.string? mask
          maskAutoDetect := ← defaulted false Written.bool? auto
          pattern := ← nullable Written.string? pattern
          options := ← nullable (Written.list? SelectOption.read) options
          rows := ← nullable Written.u32? rows }
  | _ => none

end FormField

namespace SearchField

def toJson (f : SearchField) : Value := .object <| present
  [("name", some (.string f.name)), ("label", some (.string f.label)),
   ("type", some (.string f.kind)), ("placeholder", some (.string f.placeholder)),
   ("options", f.options.map fun os => .array (os.map SelectOption.toJson))]

def read (w : Written) : Option SearchField := do
  match ← w.fields ["name", "label", "type", "placeholder", "options"] with
  | [name, label, kind, placeholder, options] =>
      some
        { name := ← needed Written.string? name
          label := ← needed Written.string? label
          kind := ← needed Written.string? kind
          placeholder := ← defaulted "" Written.string? placeholder
          options := ← nullable (Written.list? SelectOption.read) options }
  | _ => none

end SearchField

namespace TableControl

def toJson (t : TableControl) : Value := .object
  [("title", .string t.title), ("useEdit", .bool t.useEdit), ("useDelete", .bool t.useDelete),
   ("useExport", .bool t.useExport)]

def read (w : Written) : Option TableControl := do
  match ← w.fields ["title", "useEdit", "useDelete", "useExport"] with
  | [title, edit, delete, export_] =>
      some
        { title := ← needed Written.string? title
          useEdit := ← needed Written.bool? edit
          useDelete := ← needed Written.bool? delete
          useExport := ← needed Written.bool? export_ }
  | _ => none

end TableControl

def readSearchFields (w : Written) : Option (List String) := do
  match ← w.fields ["fields"] with
  | [fields] => defaulted [] (Written.list? Written.string?) fields
  | _ => none

namespace TabLayout

def columns (cs : List Column) : Value := .array (cs.map Column.toJson)

def members : TabLayout → Json.Members
  | masterDetail master detail masterHook detailHook =>
      [("masterColumns", columns master), ("detailColumns", columns detail),
       ("masterDataHook", .string masterHook), ("detailDataHook", .string detailHook)]
  | single cs hook => [("columns", columns cs), ("dataHook", .string hook)]

def readMasterDetail (ms : List (String × Written)) : Option TabLayout := do
  match ← Json.namedFields ["masterColumns", "detailColumns", "masterDataHook", "detailDataHook"] ms with
  | [master, detail, masterHook, detailHook] =>
      some (.masterDetail (← needed (Written.list? Column.read) master)
        (← needed (Written.list? Column.read) detail)
        (← needed Written.string? masterHook) (← needed Written.string? detailHook))
  | _ => none

def readSingle (ms : List (String × Written)) : Option TabLayout := do
  match ← Json.namedFields ["columns", "dataHook"] ms with
  | [cs, hook] =>
      some (.single (← defaulted [] (Written.list? Column.read) cs)
        (← defaulted "" Written.string? hook))
  | _ => none

def read (ms : List (String × Written)) : Option TabLayout :=
  (readMasterDetail ms).or (readSingle ms)

end TabLayout

namespace Tab

def fieldNames : List String :=
  ["id", "name", "type", "path", "pageName", "icon", "default", "tableControl", "searchOptions",
   "searchSlotFields"]

def toJson (t : Tab) : Value := .object <|
  [("id", .string t.id), ("name", .string t.name), ("type", .string t.kind.code),
   ("path", .string t.path), ("pageName", .string t.pageName), ("icon", .string t.icon),
   ("default", .bool t.isDefault), ("tableControl", t.tableControl.toJson),
   ("searchOptions", .object [("fields", textList t.searchFields)]),
   ("searchSlotFields", .array (t.searchSlot.map SearchField.toJson))] ++ t.layout.members

/-- Levels that may open inside the members of a tab, given where a tab stands in its solution. -/
def depthLeft : Nat := Json.depthLimit - 5

def read (w : Written) : Option Tab := do
  let ms ← w.members?
  let rest := ms.filter fun m => m.1 ∉ fieldNames
  guard (rest.all fun m => (m.2.value? depthLeft).isSome)
  match ← Json.namedFields fieldNames ms with
  | [id, name, kind, path, pageName, icon, isDefault, control, search, slot] =>
      some
        { id := ← needed Written.string? id
          name := ← needed Written.string? name
          kind := ← needed PageKind.read kind
          path := ← needed Written.string? path
          pageName := ← needed Written.string? pageName
          icon := ← defaulted "" Written.string? icon
          isDefault := ← defaulted false Written.bool? isDefault
          tableControl := ← defaulted {} TableControl.read control
          searchFields := ← defaulted [] readSearchFields search
          searchSlot := ← defaulted [] (Written.list? SearchField.read) slot
          layout := ← TabLayout.read rest }
  | _ => none

end Tab

namespace Action

def toJson (a : Action) : Value := .object <| present
  [("type", some (.string a.kind.code)), ("action", some (.string a.mode.code)),
   ("pageName", some (.string a.pageName)), ("title", some (.string a.title)),
   ("hookName", some (.string a.hookName)),
   ("formFields", some (.array (a.formFields.map FormField.toJson))),
   ("path", a.path.map .string)]

def read (w : Written) : Option Action := do
  match ← w.fields ["type", "action", "pageName", "title", "hookName", "formFields", "path"] with
  | [kind, mode, pageName, title, hookName, formFields, path] =>
      some
        { kind := ← needed ActionKind.read kind
          mode := ← needed ActionMode.read mode
          pageName := ← needed Written.string? pageName
          title := ← defaulted "" Written.string? title
          hookName := ← defaulted "" Written.string? hookName
          formFields := ← defaulted [] (Written.list? FormField.read) formFields
          path := ← nullable Written.string? path }
  | _ => none

end Action

namespace Menu

def toJson (m : Menu) : Value := .object
  [("type", .string m.kind), ("icon", .string m.icon), ("name", .string m.name),
   ("to", .string m.target)]

def read (w : Written) : Option Menu := do
  match ← w.fields ["type", "icon", "name", "to"] with
  | [kind, icon, name, target] =>
      some
        { kind := ← needed Written.string? kind
          icon := ← needed Written.string? icon
          name := ← needed Written.string? name
          target := ← needed Written.string? target }
  | _ => none

end Menu

namespace CustomSelect

def toJson (c : CustomSelect) : Value := .object <| present
  [("valueKey", some (.string c.valueKey)), ("labelKey", some (.string c.labelKey)),
   ("placeholder", c.placeholder.map .string)]

def read (w : Written) : Option CustomSelect := do
  match ← w.fields ["valueKey", "labelKey", "placeholder"] with
  | [valueKey, labelKey, placeholder] =>
      some
        { valueKey := ← defaulted "id" Written.string? valueKey
          labelKey := ← defaulted "name" Written.string? labelKey
          placeholder := ← nullable Written.string? placeholder }
  | _ => none

end CustomSelect

namespace Module

def toJson (m : Module) : Value := .object <| present
  [("name", some (.string m.name)), ("path", some (.string m.path)),
   ("route", some (.string m.route)), ("pageType", some (.string m.pageKind.code)),
   ("tabs", some (.array (m.tabs.map Tab.toJson))),
   ("actions", some (.array (m.actions.map Action.toJson))),
   ("menuOptions", m.menu.map Menu.toJson), ("fieldApi", switch m.fieldApi),
   ("customSelect", m.customSelect.map CustomSelect.toJson)]

def read (w : Written) : Option Module := do
  match ← w.fields ["name", "path", "route", "pageType", "tabs", "actions", "menuOptions",
      "fieldApi", "customSelect"] with
  | [name, path, route, pageKind, tabs, actions, menu, fieldApi, customSelect] =>
      some
        { name := ← needed Written.string? name
          path := ← needed Written.string? path
          route := ← needed Written.string? route
          pageKind := ← defaulted .single PageKind.read pageKind
          tabs := ← defaulted [] (Written.list? Tab.read) tabs
          actions := ← defaulted [] (Written.list? Action.read) actions
          menu := ← nullable Menu.read menu
          fieldApi := ← defaulted false Written.bool? fieldApi
          customSelect := ← nullable CustomSelect.read customSelect }
  | _ => none

end Module

namespace Solution

def toJson (s : Solution) : Value := .object
  [("modules", .object (s.modules.entries.map fun (key, m) => (key, m.toJson)))]

def readModules (w : Written) : Option (SortedMap Module) := do
  let pairs ← (← w.members?).mapM fun (key, m) => (Module.read m).map (key, ·)
  some (.ofList pairs)

def read (w : Written) : Option Solution := do
  match ← w.fields ["modules"] with
  | [modules] => (defaulted .empty readModules modules).map Solution.mk
  | _ => none

def parse (text : String) : Option Solution := (Written.read text.toList).bind read

def ofJson (v : Value) : Option Solution := read (Written.ofValue v)

end Solution
end ApiScreens
