import ApiScreens.Page.Table

/-! Hooks that query the values of single fields, and select components over the records of an entity. -/
namespace ApiScreens.Page
open Script

structure FieldHook where
  hookName : String
  serviceName : String
  solution : String
  module : String
  deriving DecidableEq, Repr

structure FieldService where
  solution : String
  module : String
  deriving DecidableEq, Repr

structure Select where
  componentName : String
  typeName : String
  dataHook : String
  valueKey : String
  labelKey : String
  placeholder : String
  deriving DecidableEq, Repr

structure SelectEntry where
  componentName : String
  typeName : String
  deriving DecidableEq, Repr

structure SelectIndex where
  components : List SelectEntry
  deriving DecidableEq, Repr

def FieldHook.lines (p : FieldHook) : Lines :=
  [importNames ["useQuery"] "@tanstack/react-query",
   importNames [p.serviceName] ("@primes/services/" ++ p.solution ++ "/" ++ p.serviceName),
   "",
   "/**",
   " * Distinct values of one " ++ p.module ++ " field, for filters and select inputs.",
   " */"] ++
  block ("export const " ++ p.hookName ++ " = (fieldName: string, enabled = true) => ")
    (block "return useQuery("
      ["queryKey: ['" ++ p.solution ++ "', '" ++ p.module ++ "', 'fields', fieldName],",
       "queryFn: () => " ++ p.serviceName ++ ".getFieldValues(fieldName),",
       "enabled: enabled && !!fieldName,",
       "staleTime: 5 * 60 * 1000,"] ");")
    ";" ++
  ["", exportDefault p.hookName]

def FieldService.lines (p : FieldService) : Lines :=
  nest <|
    ["/**",
     " * Distinct values of a " ++ p.module ++ " field.",
     " */"] ++
    block "getFieldValues: async (fieldName: string): Promise<string[]> => "
      ["const response = await api.get(`/" ++ p.solution ++ "/" ++ p.module ++
         "/fields/${fieldName}`);",
       "return response.data ?? [];"] ","

namespace Select

def lines (p : Select) : Lines :=
  [importNames ["useMemo"] "react",
   importNames ["Combobox"] "@repo/radix-ui/components",
   importNames [p.dataHook] "@primes/hooks",
   ""] ++
  block ("export interface " ++ p.typeName ++ " ") ["value: string;", "label: string;"] "" ++
  [""] ++
  block ("interface " ++ p.componentName ++ "Props ")
    ["value?: string;", "onChange?: (value: string) => void;", "placeholder?: string;",
     "disabled?: boolean;"] "" ++
  [""] ++
  block ("export const " ++ p.componentName ++ ": React.FC<" ++ p.componentName ++ "Props> = (")
    ["value,", "onChange,", "placeholder = '" ++ p.placeholder ++ "',", "disabled = false,"]
    ") => \x7b" ++
  nest
    (["const { list } = " ++ p.dataHook ++ "({ page: 0, size: 1000 });", ""] ++
     block ("const options = useMemo<" ++ p.typeName ++ "[]>(() => ")
       (["const rows = list?.data?.content ?? list?.data ?? [];"] ++
        block "return (Array.isArray(rows) ? rows : []).map((row: Record<string, any>) => ("
          ["value: String(row['" ++ p.valueKey ++ "']),",
           "label: String(row['" ++ p.labelKey ++ "']),"] "));")
       ", [list]);" ++
     [""] ++
     enclosed "return ("
       (leaf "Combobox"
         ["options={options}", "value={value}", "onChange={onChange}", "placeholder={placeholder}",
          "disabled={disabled}"])
       ");") ++
  ["\x7d;", "", exportDefault p.componentName]

end Select

def SelectIndex.lines (p : SelectIndex) : Lines :=
  p.components.flatMap (fun c =>
    ["export " ++ braced c.componentName ++ " from './" ++ c.componentName ++ "';",
     "export type " ++ braced c.typeName ++ " from './" ++ c.componentName ++ "';"]) ++ [""]

end ApiScreens.Page
