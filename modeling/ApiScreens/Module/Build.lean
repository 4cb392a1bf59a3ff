import ApiScreens.Field
import ApiScreens.Pattern

/-! The screens of an entity: which tabs its pattern asks for, what stands in their tables, and the form
that registers a record. -/
namespace ApiScreens
open Json (Value)

inductive TabRole where
  | relatedList | list | analyze
  deriving DecidableEq, Repr

structure TabTemplate where
  role : TabRole
  id : String
  name : String
  kind : PageKind
  icon : String
  isDefault : Bool
  deriving DecidableEq, Repr

namespace TabTemplate

def list : TabTemplate := ⟨.list, "list", "현황", .single, "TableProperties", true⟩
def relatedList : TabTemplate := ⟨.relatedList, "related-list", "상세 목록", .masterDetail, "Table", true⟩
def overallList : TabTemplate := ⟨.list, "list", "전체 현황", .single, "FileText", false⟩
def analyze : TabTemplate := ⟨.analyze, "analyze", "분석", .single, "ChartPie", false⟩

end TabTemplate

def Pattern.tabs (analyzeTab : Bool) : Pattern → List TabTemplate
  | .singleOnly | .singleWithRegister => [.list]
  | .masterDetailSimple => [.relatedList, .overallList]
  | .masterDetailFull =>
      if analyzeTab then [.relatedList, .overallList, .analyze] else [.relatedList, .overallList]

namespace Entity

def displayNames : List (String × String) :=
  [("order", "주문 관리"), ("estimate", "견적 관리"), ("delivery", "납품 관리"), ("shipment", "출하 관리"),
   ("shipping", "출하 관리"), ("taxinvoice", "세금계산서"), ("statement", "명세서"), ("user", "사용자 관리"),
   ("vendor", "거래처 관리"), ("item", "품목 관리"), ("customer", "고객 관리")]

def icons : List (String × String) :=
  [("order", "ShoppingCart"), ("estimate", "FileText"), ("delivery", "Truck"), ("shipment", "Package"),
   ("shipping", "Package"), ("taxinvoice", "Receipt"), ("statement", "FileText"), ("user", "Users"),
   ("vendor", "Building"), ("item", "Package"), ("customer", "UserCheck")]

def tableKey (name : String) : String :=
  String.ofList ((Text.lower name).toList.filter fun c => c != '-' && c != '_')

def displayName (name : String) : String :=
  (displayNames.lookup (tableKey name)).getD (name ++ " 관리")

def icon (name : String) : String := (icons.lookup (tableKey name)).getD "TableProperties"

/-- A part of a path that marks the listing operation, best first; the empty hint is the own path. -/
def masterHints : List String := ["/master", "/list", "", "/search", "/all"]

def detailHints : List String := ["/detail", "/{id}", "/by-master-id"]

def meetsMaster (n : Entity) (hint : String) (path : String) : Bool :=
  if hint = "" then path = n.ownPath || Text.endsWith path n.ownPath else Text.has path hint

def byHints (n : Entity) (hints : List String) (meets : String → String → Bool)
    (admissible : String → Bool) : Option Endpoint :=
  hints.findSome? fun hint =>
    (n.having .get).find? fun e => meets hint e.path && admissible e.path

def masterEndpoint (n : Entity) : Option Endpoint :=
  n.byHints masterHints n.meetsMaster fun path =>
    !Text.has path "/fields/" && !Text.has path "/{id}" && !Text.has path "/detail"

def detailEndpoint (n : Entity) : Option Endpoint :=
  n.byHints detailHints (fun hint path => Text.has path hint) fun path => !Text.has path "/fields/"

def recordOf (doc : Document) (e : Endpoint) : Option Value :=
  (doc.operation e.path e.method.key).bind doc.recordSchema

def masterSchema (doc : Document) (n : Entity) : Option Value := n.masterEndpoint.bind (recordOf doc)

def detailSchema (doc : Document) (n : Entity) : Option Value := n.detailEndpoint.bind (recordOf doc)

def fieldsOf (doc : Document) (schema : Option Value) : List Field :=
  (schema.map (Field.ofSchema doc)).getD []

end Entity

structure Blueprint where
  doc : Document
  heuristics : Heuristics
  solution : String
  entity : Entity

namespace Blueprint

def title (b : Blueprint) : String := Entity.displayName b.entity.name

def route (b : Blueprint) : String := "/" ++ b.solution ++ "/" ++ b.entity.name

def pageBase (b : Blueprint) : String := Naming.pageBase b.solution b.entity.name

def pattern (b : Blueprint) : Pattern := .of b.doc b.heuristics b.entity

def pageKind (b : Blueprint) : PageKind :=
  if b.pattern.isMasterDetail then .masterDetail else .single

def masterFields (b : Blueprint) : List Field := Entity.fieldsOf b.doc (b.entity.masterSchema b.doc)

def detailFields (b : Blueprint) : List Field := Entity.fieldsOf b.doc (b.entity.detailSchema b.doc)

def searchFields (b : Blueprint) : List Field := Entity.fieldsOf b.doc b.entity.searchSchema

def pageSuffix : TabRole → String
  | .list => "ListPage"
  | .relatedList => "MasterDetailPage"
  | .analyze => "AnalyzePage"

def titleSuffix : TabRole → String
  | .list => " 목록"
  | .relatedList => " 상세"
  | .analyze => " 분석"

def layout (b : Blueprint) : TabRole → TabLayout
  | .relatedList =>
      .masterDetail (Field.columns b.masterFields) (Field.columns b.detailFields)
        (Naming.hookWith b.entity.name "Master") (Naming.hookWith b.entity.name "Detail")
  | .list => .single (Field.columns b.masterFields) (Naming.hook b.entity.name)
  | .analyze => .single [] (Naming.hookWith b.entity.name "Analytics")

def tab (b : Blueprint) (t : TabTemplate) : Tab :=
  let analyze := t.role = .analyze
  { id := t.id
    name := t.name
    kind := t.kind
    path := b.route ++ "/" ++ t.id
    pageName := b.pageBase ++ pageSuffix t.role
    icon := t.icon
    isDefault := t.isDefault
    tableControl :=
      { title := b.title ++ titleSuffix t.role, useEdit := !analyze, useDelete := !analyze,
        useExport := true }
    searchFields := if analyze then [] else Field.quickSearch b.heuristics b.masterFields
    searchSlot := if analyze then [] else Field.searchSlot b.searchFields
    layout := b.layout t.role }

def createAction (b : Blueprint) : Option Action :=
  if b.pattern = .singleOnly then none
  else b.entity.createEndpoint.map fun e =>
    { kind := .create
      mode := if b.pattern.isMasterDetail then .navigation else .modal
      pageName := b.pageBase ++ "RegisterPage"
      title := b.title ++ " 등록"
      hookName := Naming.hook b.entity.name
      formFields :=
        Field.formFields b.heuristics (Entity.fieldsOf b.doc (b.doc.requestSchema e.operation))
      path := if b.pattern.isMasterDetail then some (b.route ++ "/register") else none }

def landing (b : Blueprint) : String := if b.pattern.isMasterDetail then "related-list" else "list"

def menu (b : Blueprint) : Menu where
  kind := "single"
  icon := Entity.icon b.entity.name
  name := "menu." ++ b.solution ++ "_" ++ b.entity.name
  target := b.route ++ "/" ++ b.landing

def build (b : Blueprint) : Module where
  name := b.title
  path := b.solution ++ "/" ++ b.entity.name
  route := b.route
  pageKind := b.pageKind
  tabs := (b.pattern.tabs b.heuristics.analyzeTab).map b.tab
  actions := b.createAction.toList
  menu := some b.menu
  fieldApi := false
  customSelect := none

end Blueprint

namespace Solution

def moduleKeys (entities : List Entity) : List String :=
  Naming.uniqueAll [] (entities.map fun n => Naming.camel n.name)

def ofEntities (doc : Document) (h : Heuristics) (solution : String) (entities : List Entity) :
    Solution where
  modules := .ofList <| (moduleKeys entities).zip <|
    entities.map fun n => (Blueprint.mk doc h solution n).build

def ofDocument (doc : Document) (h : Heuristics) (solution : String) : Solution :=
  ofEntities doc h solution doc.entities

end Solution
end ApiScreens
