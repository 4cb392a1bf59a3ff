import ApiScreens.Json.Value
import ApiScreens.Override.Render
import ApiScreens.Page.Analysis
import ApiScreens.Page.Data
import ApiScreens.Page.Navigation
import ApiScreens.Page.Register
import ApiScreens.SortedMap

/-! Every kind of generated file with the data that fills it, printed either as built in or by an
override of the same name. An override sees the data of its own file and nothing else. -/
namespace ApiScreens
open Json (Value Members)
open Page

inductive Template where
  | singleTable (p : SingleTable)
  | masterDetail (p : MasterDetail)
  | tabNavigation (p : TabNavigation)
  | registerModal (p : Register)
  | registerFull (p : Register)
  | analysis (p : Analysis)
  | routes (p : Routes)
  | fieldHook (p : FieldHook)
  | fieldService (p : FieldService)
  | select (p : Select)
  | selectIndex (p : SelectIndex)
  deriving DecidableEq, Repr

namespace Template

def name : Template → String
  | singleTable _ => "single_page.tsx"
  | masterDetail _ => "master_detail_page.tsx"
  | tabNavigation _ => "tab_navigation.tsx"
  | registerModal _ => "register_modal.tsx"
  | registerFull _ => "register_full.tsx"
  | analysis _ => "analysis_page.tsx"
  | routes _ => "routes.tsx"
  | fieldHook _ => "field_api_hook.ts"
  | fieldService _ => "field_api_service.ts"
  | select _ => "custom_select.tsx"
  | selectIndex _ => "custom_select_index.ts"

def text (t : Template) : String := Script.text <| match t with
  | singleTable p => p.lines
  | masterDetail p => p.lines
  | tabNavigation p => p.lines
  | registerModal p => p.modalLines
  | registerFull p => p.fullLines
  | analysis p => p.lines
  | routes p => p.lines
  | fieldHook p => p.lines
  | fieldService p => p.lines
  | select p => p.lines
  | selectIndex p => p.lines

def texts (names : List String) : Value := .array (names.map .string)

def registerContext (p : Register) : Members :=
  [("page_name", .string p.pageName), ("data_type", .string p.dataType),
   ("form_schema", .string p.formSchema), ("hook_name", .string p.hookName),
   ("title", .string p.title)]

def context : Template → Members
  | singleTable p =>
      [("page_name", .string p.pageName), ("columns", .string p.columns),
       ("search_fields", .string p.searchFields), ("data_hook", .string p.dataHook),
       ("table_title", .string p.title), ("use_edit", .bool p.useEdit),
       ("use_delete", .bool p.useDelete), ("use_export", .bool p.useExport)]
  | masterDetail p =>
      [("page_name", .string p.pageName), ("master_type", .string p.masterType),
       ("detail_type", .string p.detailType), ("master_columns", .string p.masterColumns),
       ("detail_columns", .string p.detailColumns), ("info_grid_keys", .string p.gridKeys),
       ("master_hook", .string p.masterHook), ("detail_hook", .string p.detailHook),
       ("master_title", .string p.masterTitle), ("detail_title", .string p.detailTitle)]
  | tabNavigation p =>
      [("component_name", .string p.componentName), ("title", .string p.title),
       ("items", .array (p.items.map fun i => .object
         [("id", .string i.id), ("icon", .string i.icon), ("label", .string i.label),
          ("to", .string i.target), ("page_name", .string i.pageName)])),
       ("icons", texts p.icons), ("page_imports", texts p.pageImports),
       ("default_tab", .string p.defaultTab), ("register_mode", .string p.registerMode.name),
       ("register_title", .string p.registerTitle), ("register_page", .string p.registerPage),
       ("register_path", .string p.registerPath)]
  | registerModal p => registerContext p
  | registerFull p => registerContext p
  | analysis p =>
      [("component_name", .string p.componentName), ("domain", .string p.domain),
       ("data_type", .string p.dataType), ("chart_type", .string p.chartType),
       ("time_range", .string p.timeRange), ("chart_title", .string p.chartTitle),
       ("extra_props", texts p.extraProps)]
  | routes p =>
      [("routes_const", .string p.routesConst), ("tab_imports", texts p.tabImports),
       ("page_imports", texts p.pageImports),
       ("routes", .array (p.routes.map fun r => .object
         [("path", .string r.path),
          ("children", .array (r.children.map fun c => .object
            [("path", .string c.path), ("element", .string c.element)]))]))]
  | fieldHook p =>
      [("hook_name", .string p.hookName), ("service_name", .string p.serviceName),
       ("solution", .string p.solution), ("module", .string p.module)]
  | fieldService p => [("solution", .string p.solution), ("module", .string p.module)]
  | select p =>
      [("component_name", .string p.componentName), ("type_name", .string p.typeName),
       ("data_hook", .string p.dataHook), ("value_key", .string p.valueKey),
       ("label_key", .string p.labelKey), ("placeholder", .string p.placeholder)]
  | selectIndex p =>
      [("components", .array (p.components.map fun c => .object
         [("component_name", .string c.componentName), ("type_name", .string c.typeName)]))]

end Template

abbrev Overrides := SortedMap String

structure RenderError where
  template : String
  failure : Override.Failure
  deriving DecidableEq, Repr

def RenderError.message (e : RenderError) : String :=
  match e.failure with
  | .invalid => "invalid override template " ++ e.template
  | .fault _ => "failed to render override " ++ e.template

def Overrides.render (o : Overrides) (t : Template) : Except RenderError String :=
  match o.get? t.name with
  | none => .ok t.text
  | some source => (Override.render source t.context).mapError (RenderError.mk t.name)

end ApiScreens
