import ApiScreens.Module.Screens
import ApiScreens.Output.File
import ApiScreens.Path

/-! The files of a solution. What is to be made is planned first, item by item; each item then gives its
file or one error, whatever the others do. Nothing here touches a file tree. -/
namespace ApiScreens
open Page

namespace Solution

def routed (s : Solution) : List (String × Module) := s.modules.entries.filter (·.2.hasRoutes)

def routes (solution : String) (s : Solution) : Routes where
  routesConst := Naming.routesConst solution
  tabImports := s.routed.map fun (key, _) => Naming.tabNavigation key
  pageImports := Module.distinct (s.routed.flatMap fun (_, m) => m.actionRoutes.map (·.2))
  routes := s.routed.map fun (key, m) => m.routeBlock key

inductive ItemKind where
  | page | tabNavigation | fieldApi | customSelect | routes
  deriving DecidableEq, Repr

structure Item where
  kind : ItemKind
  label : String
  path : String
  template : Template
  service : Option (String × Template) := none
  entry : Option SelectEntry := none
  deriving DecidableEq, Repr

def pagePath (project : String) (m : Module) (pageName : String) : String :=
  Path.under project ["src/pages", m.path, pageName ++ ".tsx"]

def tabItem (project key : String) (m : Module) (t : Tab) : Item :=
  ⟨.page, key ++ "/" ++ t.pageName, pagePath project m t.pageName, m.page t, none, none⟩

def registerItem (project key : String) (m : Module) (a : Action) : Item :=
  ⟨.page, key ++ "/" ++ a.pageName, pagePath project m a.pageName, m.registerPage key a, none, none⟩

def navigationItem (project solution key : String) (m : Module) : Item :=
  let name := Naming.tabNavigation key
  ⟨.tabNavigation, key ++ "/" ++ name, Path.under project ["src/tabs", solution, name ++ ".tsx"],
    m.navigation key, none, none⟩

def fieldItem (project solution key : String) : Item :=
  let dirs := [Naming.camel solution, Naming.camel key]
  { kind := .fieldApi
    label := key ++ "/fieldApi"
    path := Path.under project (["src/hooks"] ++ dirs ++ [Module.fieldHookName key ++ ".ts"])
    template := Module.fieldHook solution key
    service := some
      (Path.under project ["src/services", Naming.camel solution, Module.serviceName key ++ ".ts"],
       Module.fieldService solution key) }

def selectItem (project key : String) (m : Module) (c : CustomSelect) : Item :=
  let entry := Module.selectEntry key
  { kind := .customSelect
    label := key ++ "/customSelect"
    path := Path.under project ["src/components/customSelect", entry.componentName ++ ".tsx"]
    template := m.select key c
    entry := some entry }

def moduleItems (project solution key : String) (m : Module) : List Item :=
  m.tabs.map (tabItem project key m) ++
  (m.createAction.map (registerItem project key m)).toList ++
  (if m.tabs.isEmpty then [] else [navigationItem project solution key m]) ++
  (if m.fieldApi then [fieldItem project solution key] else []) ++
  (m.customSelect.map (selectItem project key m)).toList

def routesItem (project solution : String) (s : Solution) : Item :=
  ⟨.routes, solution ++ " routes",
    Path.under project ["src/routes", Naming.pascal solution ++ "Route.tsx"],
    .routes (s.routes solution), none, none⟩

def plan (project solution : String) (s : Solution) : List Item :=
  s.modules.entries.flatMap (fun (key, m) => moduleItems project solution key m) ++
  [s.routesItem project solution]

structure Snippet where
  path : String
  code : String
  deriving DecidableEq, Repr

structure Printed where
  item : Item
  content : String
  snippet : Option Snippet
  deriving DecidableEq, Repr

def Item.print (o : Overrides) (i : Item) : Except RenderError Printed := do
  let content ← o.render i.template
  match i.service with
  | none => .ok ⟨i, content, none⟩
  | some (path, template) =>
      let code ← o.render template
      .ok ⟨i, content, some ⟨path, code⟩⟩

structure Emission where
  files : List GeneratedFile
  pages : Nat
  tabNavigations : Nat
  routes : Nat
  errors : List String
  customSelects : List SelectEntry
  snippets : List Snippet
  deriving DecidableEq, Repr

def counted (kind : ItemKind) (printed : List Printed) : Nat :=
  printed.countP (·.item.kind = kind)

def Emission.of (options : WriteOptions) (outcomes : List (Item × Except RenderError Printed)) :
    Emission :=
  let printed := outcomes.filterMap fun (_, r) => r.toOption
  { files := printed.map fun p => ⟨p.item.path, p.content, options⟩
    pages := counted .page printed
    tabNavigations := counted .tabNavigation printed
    routes := counted .routes printed
    errors := outcomes.filterMap fun (i, r) => match r with
      | .ok _ => none
      | .error e => some (i.label ++ ": " ++ e.message)
    customSelects := printed.filterMap (·.item.entry)
    snippets := printed.filterMap (·.snippet) }

def emit (project : String) (o : Overrides) (options : WriteOptions) (solution : String)
    (s : Solution) : Emission :=
  .of options ((s.plan project solution).map fun i => (i, i.print o))

end Solution
end ApiScreens
