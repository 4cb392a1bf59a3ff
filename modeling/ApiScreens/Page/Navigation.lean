import ApiScreens.Page.Table

/-! The tabbed shell of a module and the route table of a solution. -/
namespace ApiScreens.Page
open Script

structure TabItem where
  id : String
  icon : String
  label : String
  target : String
  pageName : String
  deriving DecidableEq, Repr

inductive RegisterMode where
  | modal | navigation | none
  deriving DecidableEq, Repr

def RegisterMode.name : RegisterMode → String
  | modal => "modal"
  | navigation => "navigation"
  | none => "none"

structure TabNavigation where
  componentName : String
  title : String
  items : List TabItem
  icons : List String
  pageImports : List String
  defaultTab : String
  registerMode : RegisterMode
  registerTitle : String
  registerPage : String
  registerPath : String
  deriving DecidableEq, Repr

structure ChildRoute where
  path : String
  element : String
  deriving DecidableEq, Repr

structure RouteBlock where
  path : String
  children : List ChildRoute
  deriving DecidableEq, Repr

structure Routes where
  routesConst : String
  tabImports : List String
  pageImports : List String
  routes : List RouteBlock
  deriving DecidableEq, Repr

namespace TabNavigation

def item (i : TabItem) : Lines :=
  block ""
    ["id: '" ++ i.id ++ "',",
     "icon: <" ++ i.icon ++ " size={16} />,",
     "label: '" ++ i.label ++ "',",
     "to: '" ++ i.target ++ "',",
     "content: <" ++ i.pageName ++ " />,"] ""

def imports (p : TabNavigation) : Lines :=
  [importNames ["TabNavigation"] "@primes/components/common/TabNavigation"] ++
  (match p.registerMode with
    | .modal =>
        [importNames ["useState"] "react",
         importNames ["DraggableDialog", "RadixButton"] "@radix-ui/components"]
    | .navigation =>
        [importNames ["useNavigate"] "react-router-dom",
         importNames ["RadixButton"] "@radix-ui/components"]
    | .none => []) ++
  (match p.registerMode with
    | .none => [importNames [commas p.icons] "lucide-react"]
    | _ => [importNames ["Plus", commas p.icons] "lucide-react"]) ++
  [importNames [commas p.pageImports] "@primes/pages"]

def state (p : TabNavigation) : Lines :=
  match p.registerMode with
  | .navigation => ["const navigate = useNavigate();"]
  | .modal => [stateOf "registerOpen" "setRegisterOpen" "boolean" "false"]
  | .none => []

def handler (p : TabNavigation) : Lines :=
  match p.registerMode with
  | .navigation =>
      block "const handleRegister = () => " ["navigate('" ++ p.registerPath ++ "');"] ";" ++ [""]
  | .modal => block "const handleRegister = () => " ["setRegisterOpen(true);"] ";" ++ [""]
  | .none => []

def dialog (p : TabNavigation) : Lines :=
  match p.registerMode with
  | .modal => leaf "DraggableDialog"
      ["open={registerOpen}",
       "onOpenChange={setRegisterOpen}",
       quotedAttribute "title" p.registerTitle,
       bracedAttribute "content" ("<" ++ p.registerPage ++ " onClose={() => setRegisterOpen(false)} />")]
  | _ => []

def button (p : TabNavigation) : Lines :=
  match p.registerMode with
  | .none => ["null"]
  | _ =>
      enclosed "<RadixButton"
        ["className=\"flex gap-1.5 px-2.5 py-1.5 rounded-lg text-sm items-center border\"",
         "onClick={handleRegister}"] ">" ++
      nest ["<Plus size={16} />", p.registerTitle] ++ ["</RadixButton>"]

def lines (p : TabNavigation) : Lines :=
  p.imports ++
  [""] ++
  block ("interface " ++ p.componentName ++ "Props ") ["activetab?: string;"] "" ++
  [""] ++
  block ("export const " ++ p.componentName ++ ": React.FC<" ++ p.componentName ++
      "Props> = ({ activetab }) => ")
    (p.state ++
     [""] ++
     enclosed "const tabs = [" (separated (p.items.map item)) "];" ++
     [""] ++
     p.handler ++
     enclosed "return ("
       (enclosed "<>"
         (p.dialog ++
          leaf "TabNavigation"
            ([quotedAttribute "title" p.title,
              "tabs={tabs}",
              bracedAttribute "defaultValue" ("activetab ?? '" ++ p.defaultTab ++ "'")] ++
             block "actionButtons=" p.button ""))
         "</>")
       ");")
    ";" ++
  ["", exportDefault p.componentName]

end TabNavigation

namespace Routes

def child (c : ChildRoute) : Lines :=
  block "" ["path: '" ++ c.path ++ "',", "element: " ++ c.element ++ ","] ""

def route (r : RouteBlock) : Lines :=
  block ""
    (["path: '" ++ r.path ++ "',"] ++
     enclosed "children: [" (separated (r.children.map child)) "],") ""

def lines (p : Routes) : Lines :=
  [importDefault "React" "react"] ++
  (if p.tabImports.isEmpty then [] else [importNames p.tabImports "@primes/tabs"]) ++
  p.pageImports.map (fun page => importNames [page] "@primes/pages") ++
  [""] ++
  enclosed ("export const " ++ p.routesConst ++ " = [") (separated (p.routes.map route)) "];"

end Routes
end ApiScreens.Page
