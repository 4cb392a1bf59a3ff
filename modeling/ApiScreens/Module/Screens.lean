import ApiScreens.Icon
import ApiScreens.Module.Basic
import ApiScreens.Naming
import ApiScreens.Script.Literal
import ApiScreens.Template

/-! The data that fills the files of one module. Names that one file declares and another imports are
derived the same way in both. -/
namespace ApiScreens
open Page

namespace Module

def typeBase (pageName : String) : String :=
  ((Text.dropEnd? pageName "MasterDetailPage").or (Text.dropEnd? pageName "Page")).getD pageName

def tabTitle (m : Module) (t : Tab) : String :=
  if t.tableControl.title = "" then m.name else t.tableControl.title

def page (m : Module) (t : Tab) : Template :=
  let title := m.tabTitle t
  match t.layout with
  | .masterDetail masterColumns detailColumns masterHook detailHook =>
      .masterDetail
        { pageName := t.pageName
          masterType := typeBase t.pageName ++ "MasterData"
          detailType := typeBase t.pageName ++ "DetailData"
          masterColumns := Script.columnsLiteral masterColumns
          detailColumns := Script.columnsLiteral detailColumns
          gridKeys := Script.gridLiteral masterColumns
          masterHook := masterHook
          detailHook := detailHook
          masterTitle := title
          detailTitle := title ++ " 상세" }
  | .single columns hook =>
      .singleTable
        { pageName := t.pageName
          columns := Script.columnsLiteral columns
          searchFields := Script.stringArray t.searchFields
          dataHook := hook
          title := title
          useEdit := t.tableControl.useEdit
          useDelete := t.tableControl.useDelete
          useExport := t.tableControl.useExport }

def registerTitle (m : Module) (a : Action) : String :=
  if a.title = "" then m.name ++ " 등록" else a.title

def registerPage (m : Module) (key : String) (a : Action) : Template :=
  let data : Register :=
    { pageName := a.pageName
      dataType := (Text.dropEnd? a.pageName "Page").getD a.pageName ++ "Data"
      formSchema := Script.formLiteral a.formFields
      hookName := if a.hookName = "" then Naming.hook key else a.hookName
      title := m.registerTitle a }
  match a.mode with
  | .modal => .registerModal data
  | .navigation => .registerFull data

def tabItems (m : Module) : List TabItem :=
  m.tabs.map fun t => ⟨t.id, Icon.usable t.icon, t.name, t.path, t.pageName⟩

def distinct (names : List String) : List String :=
  names.foldl (fun seen name => if name ∈ seen then seen else seen ++ [name]) []

def withoutRuns : List String → List String
  | a :: b :: rest => if a = b then withoutRuns (b :: rest) else a :: withoutRuns (b :: rest)
  | names => names

def registerMode : Option Action → RegisterMode
  | none => .none
  | some a => match a.mode with
    | .modal => .modal
    | .navigation => .navigation

def dialogPage : Option Action → List String
  | some a => if a.mode = .modal then [a.pageName] else []
  | none => []

def registerPath (m : Module) : Option Action → String
  | some a => if a.mode = .navigation then a.path.getD (m.route ++ "/register") else ""
  | none => ""

def navigation (m : Module) (key : String) : Template :=
  let create := m.createAction
  .tabNavigation
    { componentName := Naming.tabNavigation key
      title := m.name
      items := m.tabItems
      icons := distinct (m.tabItems.map (·.icon))
      pageImports := withoutRuns (m.tabItems.map (·.pageName) ++ dialogPage create)
      defaultTab := (m.defaultTab.map (·.id)).getD ""
      registerMode := registerMode create
      registerTitle := (create.map m.registerTitle).getD ""
      registerPage := (create.map (·.pageName)).getD ""
      registerPath := m.registerPath create }

def fieldHookName (key : String) : String := "use" ++ Naming.pascal key ++ "FieldQuery"

def serviceName (key : String) : String := Naming.camel key ++ "Service"

def fieldHook (solution key : String) : Template :=
  .fieldHook ⟨fieldHookName key, serviceName key, Naming.camel solution, Naming.camel key⟩

def fieldService (solution key : String) : Template :=
  .fieldService ⟨Naming.camel solution, Naming.camel key⟩

def selectHook (t : Tab) : Option String :=
  match t.layout with
  | .single _ hook => if hook = "" then none else some hook
  | .masterDetail _ _ masterHook _ => some masterHook

def selectEntry (key : String) : SelectEntry :=
  ⟨Naming.pascal key ++ "SelectComponent", Naming.camel key ++ "Select"⟩

def select (m : Module) (key : String) (c : CustomSelect) : Template :=
  .select
    { componentName := (selectEntry key).componentName
      typeName := (selectEntry key).typeName
      dataHook := (m.tabs.findSome? selectHook).getD (Naming.hook key)
      valueKey := c.valueKey
      labelKey := c.labelKey
      placeholder := c.placeholder.getD (m.name ++ "을(를) 선택하세요") }

def navigated (a : Option Action) : Option String :=
  (a.filter (·.mode = .navigation)).map (·.pageName)

def actionRoutes (m : Module) : List (String × String) :=
  ((navigated m.createAction).map (("register", ·))).toList ++
  ((navigated m.editAction).map ((":id", ·))).toList

def hasRoutes (m : Module) : Bool := m.route ≠ "" && !m.tabs.isEmpty

def routeBlock (m : Module) (key : String) : RouteBlock where
  path := m.route
  children :=
    m.tabs.map (fun t =>
      ⟨t.id, "<" ++ Naming.tabNavigation key ++ " activetab=\"" ++ t.id ++ "\" />"⟩) ++
    m.actionRoutes.map fun (path, page) => ⟨path, "<" ++ page ++ " />"⟩

end Module

end ApiScreens
