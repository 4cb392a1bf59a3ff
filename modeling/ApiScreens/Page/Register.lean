import ApiScreens.Page.Table

/-! Registration forms: one for a dialog over the list, and one on a page with a detail table. -/
namespace ApiScreens.Page
open Script

structure Register where
  pageName : String
  dataType : String
  formSchema : String
  hookName : String
  title : String
  deriving DecidableEq, Repr

namespace Register

def modalLines (p : Register) : Lines :=
  [importNames ["useState"] "react",
   importNames ["DynamicForm", "FormField"] "@primes/components/form/DynamicFormComponent",
   importNames [p.hookName] "@primes/hooks",
   ""] ++
  block ("interface " ++ p.pageName ++ "Props ") ["onClose?: () => void;"] "" ++ [""] ++
  block ("interface " ++ p.dataType ++ " ") ["[key: string]: any;"] "" ++
  ["",
   "const formSchema: FormField[] = " ++ p.formSchema ++ ";",
   ""] ++
  block ("export const " ++ p.pageName ++ ": React.FC<" ++ p.pageName ++
      "Props> = ({ onClose }) => ")
    ([stateOf "isSubmitting" "setIsSubmitting" "boolean" "false",
      "const { create } = " ++ p.hookName ++ "();",
      ""] ++
     block ("const handleSubmit = async (data: " ++ p.dataType ++ ") => ")
       (block "if (isSubmitting) " ["return;"] "" ++
        ["setIsSubmitting(true);"] ++
        block "try " ["await create.mutateAsync(data);", "onClose?.();"] " catch (error) \x7b" ++
        nest ["console.error('" ++ p.title ++ " failed:', error);"] ++
        block "\x7d finally " ["setIsSubmitting(false);"] "")
       ";" ++
     [""] ++
     enclosed "return ("
       (enclosed "<div className=\"max-w-full mx-auto\">"
         ["<DynamicForm fields={formSchema} onSubmit={handleSubmit} />"] "</div>")
       ");")
    ";" ++
  ["", exportDefault p.pageName]

def fullDeclarations (p : Register) : Lines :=
  [importNames ["useState"] "react",
   importNames ["useNavigate"] "react-router-dom",
   importNames ["PageTemplate"] "@primes/templates",
   importNames ["RegisterFormTemplate"] "@primes/templates/RegisterFormTemplate",
   tableImport,
   importNames ["RadixButton"] "@radix-ui/components",
   importNames ["useDataTable", "useDataTableColumns"] "@radix-ui/hook",
   importNames ["ArrowLeft"] "lucide-react",
   importNames [p.hookName] "@primes/hooks",
   ""] ++
  block "export type DetailRow = " ["id: string;", "[key: string]: any;"] ";" ++ [""] ++
  record p.dataType "id?: number;" ++ [""] ++
  enclosed "const detailColumns = ["
    (block "" ["accessorKey: 'id',", "header: 'ID',", "size: 100,", "minSize: 80,"] ",") "];" ++
  ["",
   "const masterFormSchema = " ++ p.formSchema ++ ";",
   ""]

def fullState (p : Register) : Lines :=
  ["const navigate = useNavigate();",
   stateOf "masterId" "setMasterId" "number | null" "null",
   "const { create } = " ++ p.hookName ++ "();",
   "const processedColumns = useDataTableColumns<DetailRow>(detailColumns);"] ++
  enclosed "const { table, toggleRowSelection, selectedRows } = useDataTable("
    ["[],", "processedColumns,", "30,", "1,", "0,", "0,", "() => undefined"] ");" ++
  [""] ++
  block ("const handleSubmit = async (data: " ++ p.dataType ++ ") => ")
    (["const saved = await create.mutateAsync(data);"] ++
     block "if (saved && typeof saved.id === 'number') " ["setMasterId(saved.id);"] "" ++
     ["return saved;"])
    ";" ++
  [""]

def backButton : Lines :=
  enclosed "<div className=\"flex justify-between items-center gap-2 mb-3\">"
    (enclosed "<RadixButton"
      ["className=\"flex gap-2 px-3 py-2 rounded-lg text-sm items-center border\"",
       "onClick={() => navigate(-1)}"] ">" ++
     nest ["<ArrowLeft size={16} className=\"text-muted-foreground\" />", "뒤로가기"] ++
     ["</RadixButton>"])
    "</div>"

def fullPanes (p : Register) : Lines :=
  enclosed "<div className=\"border rounded-lg overflow-auto h-[calc(100vh-210px)]\">"
    (leaf "RegisterFormTemplate"
      [quotedAttribute "title" p.title, "formSchema={masterFormSchema}", "onSubmit={handleSubmit}",
       "onReset={() => setMasterId(null)}"])
    "</div>" ++
  enclosed "<div className=\"border rounded-lg overflow-hidden\">"
    (leaf "DatatableComponent"
      ["columns={processedColumns}", "table={table}", "data={[]}", "tableTitle=\"상세 정보\"",
       "rowCount={0}", "defaultPageSize={30}", "useSearch={masterId !== null}",
       "toggleRowSelection={toggleRowSelection}", "selectedRows={selectedRows}"])
    "</div>"

def fullLines (p : Register) : Lines :=
  p.fullDeclarations ++
  component p.pageName
    (p.fullState ++
     enclosed "return ("
       (enclosed "<div className=\"max-w-full mx-auto p-4 h-full flex flex-col\">"
         (backButton ++
          enclosed "<PageTemplate"
            ["firstChildWidth=\"30%\"", "splitterSizes={[25, 75]}", "splitterMinSize={[310, 550]}",
             "splitterGutterSize={8}"] ">" ++
          nest p.fullPanes ++ ["</PageTemplate>"])
         "</div>")
       ");") ++
  ["", exportDefault p.pageName]

end Register
end ApiScreens.Page
