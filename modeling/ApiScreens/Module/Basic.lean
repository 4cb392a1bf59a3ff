import ApiScreens.SortedMap

/-! The screens of a solution: its modules, their tabs with tables and searches, their registration
forms and menu entries. These are the values that a configuration file holds. -/
namespace ApiScreens

inductive PageKind where
  | single | masterDetail
  deriving DecidableEq, Repr

inductive ActionKind where
  | create | edit
  deriving DecidableEq, Repr

inductive ActionMode where
  | modal | navigation
  deriving DecidableEq, Repr

structure SelectOption where
  label : String
  value : String
  deriving DecidableEq, Repr

structure Column where
  accessorKey : String
  header : String
  size : UInt32
  minSize : Option UInt32
  deriving DecidableEq, Repr

structure FormField where
  name : String
  label : String
  kind : String
  placeholder : String
  required : Bool
  maxLength : Option UInt64
  minLength : Option UInt64
  mask : Option String
  maskAutoDetect : Bool
  pattern : Option String
  options : Option (List SelectOption)
  rows : Option UInt32
  deriving DecidableEq, Repr

structure SearchField where
  name : String
  label : String
  kind : String
  placeholder : String
  options : Option (List SelectOption)
  deriving DecidableEq, Repr

structure TableControl where
  title : String := ""
  useEdit : Bool := true
  useDelete : Bool := true
  useExport : Bool := true
  deriving DecidableEq, Repr

inductive TabLayout where
  | masterDetail (masterColumns detailColumns : List Column) (masterHook detailHook : String)
  | single (columns : List Column) (hook : String)
  deriving DecidableEq, Repr

structure Tab where
  id : String
  name : String
  kind : PageKind
  path : String
  pageName : String
  icon : String
  isDefault : Bool
  tableControl : TableControl
  searchFields : List String
  searchSlot : List SearchField
  layout : TabLayout
  deriving DecidableEq, Repr

def Tab.isAnalyze (t : Tab) : Bool := t.id = "analyze"

structure Action where
  kind : ActionKind
  mode : ActionMode
  pageName : String
  title : String
  hookName : String
  formFields : List FormField
  path : Option String
  deriving DecidableEq, Repr

structure Menu where
  kind : String
  icon : String
  name : String
  target : String
  deriving DecidableEq, Repr

structure CustomSelect where
  valueKey : String
  labelKey : String
  placeholder : Option String
  deriving DecidableEq, Repr

structure Module where
  name : String
  path : String
  route : String
  pageKind : PageKind
  tabs : List Tab
  actions : List Action
  menu : Option Menu
  fieldApi : Bool
  customSelect : Option CustomSelect
  deriving DecidableEq, Repr

namespace Module

def createAction (m : Module) : Option Action := m.actions.find? (·.kind = .create)

def editAction (m : Module) : Option Action := m.actions.find? (·.kind = .edit)

def defaultTab (m : Module) : Option Tab := (m.tabs.find? (·.isDefault)).or m.tabs.head?

def hasMasterDetailTab (m : Module) : Bool := m.tabs.any (·.kind = .masterDetail)

end Module

structure Solution where
  modules : SortedMap Module
  deriving DecidableEq

end ApiScreens
