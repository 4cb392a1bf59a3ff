import ApiScreens.Script.Code

/-! Pages with one data table, and pages with a master table beside its details. -/
namespace ApiScreens.Page
open Script

structure SingleTable where
  pageName : String
  columns : String
  searchFields : String
  dataHook : String
  title : String
  useEdit : Bool
  useDelete : Bool
  useExport : Bool
  deriving DecidableEq, Repr

structure MasterDetail where
  pageName : String
  masterType : String
  detailType : String
  masterColumns : String
  detailColumns : String
  gridKeys : String
  masterHook : String
  detailHook : String
  masterTitle : String
  detailTitle : String
  deriving DecidableEq, Repr

def tableImport : String :=
  importDefault "DatatableComponent" "@primes/components/datatable/DatatableComponent"

def component (name : String) (body : Lines) : Lines :=
  block ("export const " ++ name ++ ": React.FC = () => ") body ";"

def stateOf (name setter type value : String) : String :=
  "const [" ++ name ++ ", " ++ setter ++ "] = useState<" ++ type ++ ">(" ++ value ++ ");"

def record (name key : String) : Lines :=
  block ("interface " ++ name ++ " ") [key, "[key: string]: any;"] ""

def switchText (on : Bool) : String := if on then "true" else "false"

def bracedAttribute (name expression : String) : String := name ++ "=\x7b" ++ expression ++ "\x7d"

def spacedAttribute (name expression : String) : String := name ++ "=" ++ braced expression

def quotedAttribute (name value : String) : String := name ++ "=\"" ++ value ++ "\""

def takeRows (list rows total pages : String) : Lines :=
  block ("if (" ++ list ++ ".data.content) ")
    [rows ++ "(" ++ list ++ ".data.content);",
     total ++ "(" ++ list ++ ".data.totalElements || 0);",
     pages ++ "(" ++ list ++ ".data.totalPages || 0);"]
    (" else if (Array.isArray(" ++ list ++ ".data)) \x7b") ++
  nest
    [rows ++ "(" ++ list ++ ".data);",
     total ++ "(" ++ list ++ ".data.length);",
     pages ++ "(Math.ceil(" ++ list ++ ".data.length / PAGE_SIZE));"] ++
  ["\x7d"]

def whenLoaded (list : String) (body : Lines) : Lines :=
  block "useEffect(() => "
    (block ("if (!" ++ list ++ " || !" ++ list ++ ".data) ") ["return;"] "" ++ body)
    (", [" ++ list ++ "]);")

namespace SingleTable

def columnsName (p : SingleTable) : String := p.pageName ++ "Columns"
def searchName (p : SingleTable) : String := p.pageName ++ "SearchFields"

def lines (p : SingleTable) : Lines :=
  [importNames ["useState", "useEffect", "useCallback"] "react",
   tableImport,
   importNames ["useDataTable"] "@radix-ui/hook",
   importNames [p.dataHook] "@primes/hooks",
   "",
   "const PAGE_SIZE = 30;",
   "",
   "const " ++ p.columnsName ++ " = " ++ p.columns ++ ";",
   "",
   "const " ++ p.searchName ++ ": string[] = " ++ p.searchFields ++ ";",
   ""] ++
  component p.pageName
    ([stateOf "page" "setPage" "number" "0",
      stateOf "totalElements" "setTotalElements" "number" "0",
      stateOf "pageCount" "setPageCount" "number" "0",
      stateOf "rows" "setRows" "Record<string, any>[]" "[]",
      "",
      "const { list } = " ++ p.dataHook ++ "({ page, size: PAGE_SIZE });",
      ""] ++
     block "const onPageChange = useCallback((pagination: { pageIndex: number }) => "
       ["setPage(pagination.pageIndex);"] ", []);" ++
     [""] ++
     enclosed "const { table, toggleRowSelection, selectedRows } = useDataTable("
       ["rows,", p.columnsName ++ ",", "PAGE_SIZE,", "pageCount,", "page,", "totalElements,",
        "onPageChange"] ");" ++
     [""] ++
     whenLoaded "list" (takeRows "list" "setRows" "setTotalElements" "setPageCount") ++
     [""] ++
     enclosed "return ("
       (enclosed "<div className=\"border rounded-lg h-full\">"
         (leaf "DatatableComponent"
           ["table={table}",
            spacedAttribute "columns" p.columnsName,
            "data={rows}",
            quotedAttribute "tableTitle" p.title,
            "rowCount={totalElements}",
            "useSearch={true}",
            spacedAttribute "searchFields" p.searchName,
            spacedAttribute "useEdit" (switchText p.useEdit),
            spacedAttribute "useDelete" (switchText p.useDelete),
            spacedAttribute "useExport" (switchText p.useExport),
            "selectedRows={selectedRows}",
            "toggleRowSelection={toggleRowSelection}",
            "isLoading={list?.isLoading ?? false}"])
         "</div>")
       ");") ++
  ["", exportDefault p.pageName]

end SingleTable

namespace MasterDetail

def masterColumnsName (p : MasterDetail) : String := p.pageName ++ "MasterTableColumns"
def detailColumnsName (p : MasterDetail) : String := p.pageName ++ "DetailTableColumns"

def declarations (p : MasterDetail) : Lines :=
  [importNames ["useState", "useEffect", "useCallback"] "react",
   importNames ["PageTemplate"] "@primes/templates",
   tableImport,
   importNames ["InfoGrid"] "@primes/components/common/InfoGrid",
   importNames ["useDataTable"] "@radix-ui/hook",
   importNames [p.masterHook, p.detailHook] "@primes/hooks",
   ""] ++
  record p.masterType "id: number;" ++ [""] ++
  record p.detailType "id: number;" ++
  ["",
   "const PAGE_SIZE = 30;",
   "",
   "const " ++ p.masterColumnsName ++ " = " ++ p.masterColumns ++ ";",
   "",
   "const " ++ p.detailColumnsName ++ " = " ++ p.detailColumns ++ ";",
   "",
   "const InfoGridKeys = " ++ p.gridKeys ++ ";",
   ""] ++
  block "const infoGridClassNames = "
    ["container: 'rounded shadow-sm',", "item: 'flex gap-2 items-center p-2',",
     "label: 'text-gray-700 text-sm',", "value: 'font-bold text-sm',"] ";" ++
  ["", "const emptyRecord: Record<string, any> = {};", ""]

def state (p : MasterDetail) : Lines :=
  [stateOf "masterPage" "setMasterPage" "number" "0",
   stateOf "masterTotalElements" "setMasterTotalElements" "number" "0",
   stateOf "masterPageCount" "setMasterPageCount" "number" "0",
   stateOf "masterData" "setMasterData" (p.masterType ++ "[]") "[]",
   stateOf "selectedMaster" "setSelectedMaster" (p.masterType ++ " | null") "null",
   "",
   stateOf "detailData" "setDetailData" (p.detailType ++ "[]") "[]",
   stateOf "selectedMasterId" "setSelectedMasterId" "number" "0",
   "",
   "const { list: masterList } = " ++ p.masterHook ++ "({ page: masterPage, size: PAGE_SIZE });"] ++
  block ("const { listByMasterId: detailList } = " ++ p.detailHook ++ "(")
    ["masterId: selectedMasterId,", "page: 0,", "size: PAGE_SIZE,"] ");" ++
  [""] ++
  block "const onMasterPageChange = useCallback((pagination: { pageIndex: number }) => "
    ["setMasterPage(pagination.pageIndex);"] ", []);" ++
  [""]

def tables (p : MasterDetail) : Lines :=
  block "const "
    ["table: masterTable,", "toggleRowSelection: toggleMasterRowSelection,",
     "selectedRows: selectedMasterRows,"] " = useDataTable(" ++
  nest ["masterData,", p.masterColumnsName ++ ",", "PAGE_SIZE,", "masterPageCount,", "masterPage,",
    "masterTotalElements,", "onMasterPageChange"] ++
  [");", ""] ++
  block "const "
    ["table: detailTable,", "toggleRowSelection: toggleDetailRowSelection,",
     "selectedRows: selectedDetailRows,"]
    (" = useDataTable(detailData, " ++ p.detailColumnsName ++
      ", 0, 1, 0, detailData.length, () => undefined);") ++
  [""]

def effects : Lines :=
  whenLoaded "masterList"
    (takeRows "masterList" "setMasterData" "setMasterTotalElements" "setMasterPageCount") ++
  [""] ++
  block "useEffect(() => "
    (block "if (detailList && detailList.data) "
      (block "if (detailList.data.content) " ["setDetailData(detailList.data.content);"]
        " else if (Array.isArray(detailList.data)) \x7b" ++
       nest ["setDetailData(detailList.data);"] ++ ["\x7d"])
      " else if (!selectedMasterId) \x7b" ++
     nest ["setDetailData([]);"] ++ ["\x7d"])
    ", [detailList, selectedMasterId]);" ++
  [""] ++
  block "useEffect(() => "
    (["const [first] = Array.from(selectedMasterRows);",
      "const row = first === undefined ? undefined : masterData[Number(first)];"] ++
     block "if (row && row.id) " ["setSelectedMaster(row);", "setSelectedMasterId(row.id);"]
       " else \x7b" ++
     nest ["setSelectedMaster(null);", "setSelectedMasterId(0);"] ++ ["\x7d"])
    ", [selectedMasterRows, masterData]);" ++
  [""]

def masterPane (p : MasterDetail) : Lines :=
  enclosed "<div className=\"border rounded-lg\">"
    (leaf "DatatableComponent"
      ["table={masterTable}",
       spacedAttribute "columns" p.masterColumnsName,
       "data={masterData}",
       quotedAttribute "tableTitle" p.masterTitle,
       "rowCount={masterTotalElements}",
       "useSearch={true}",
       "selectedRows={selectedMasterRows}",
       "toggleRowSelection={toggleMasterRowSelection}",
       "enableSingleSelect"])
    "</div>"

def detailPane (p : MasterDetail) : Lines :=
  enclosed "<div className=\"flex flex-col gap-2\">"
    (enclosed "<div className=\"border rounded-lg\">"
      (leaf "InfoGrid"
        [quotedAttribute "columns" "grid-cols-1 sm:grid-cols-2 xl:grid-cols-3 h-full",
         "classNames={infoGridClassNames}",
         "data={selectedMaster ?? emptyRecord}",
         "keys={InfoGridKeys}"])
      "</div>" ++
     enclosed "<div className=\"border rounded-lg overflow-hidden\">"
      (leaf "DatatableComponent"
        ["table={detailTable}",
         spacedAttribute "columns" p.detailColumnsName,
         "data={detailData}",
         quotedAttribute "tableTitle" p.detailTitle,
         "rowCount={detailData.length}",
         "useSearch={false}",
         "usePageNation={false}",
         "selectedRows={selectedDetailRows}",
         "toggleRowSelection={toggleDetailRowSelection}",
         "useSummary={true}"])
      "</div>")
    "</div>"

def lines (p : MasterDetail) : Lines :=
  p.declarations ++
  component p.pageName
    (p.state ++ p.tables ++ effects ++
     enclosed "return ("
       (enclosed "<PageTemplate"
         ["firstChildWidth=\"30%\"", "splitterSizes={[30, 70]}", "splitterMinSize={[430, 800]}",
          "splitterGutterSize={6}"] ">" ++
        nest (p.masterPane ++ p.detailPane) ++ ["</PageTemplate>"])
       ");") ++
  ["", exportDefault p.pageName]

end MasterDetail
end ApiScreens.Page
