import ApiScreens.Module.Json
import ApiScreens.Path

/-! All solutions in one object: their names, what the page templates are, and each solution under its
name. A solution of a name that is taken already stands in place of what was there. -/
namespace ApiScreens
open Json (Value Members)

abbrev Solutions := SortedMap Solution

namespace Solutions

def chartKey : String := "analysisPages"

def template (kind description : String) (components : List String) : Value :=
  .object
    [("type", .string kind), ("description", .string description),
     ("components", .array (components.map .string))]

def templates : Value :=
  .object
    [("singlePage", template "singlePage" "단일 테이블 페이지 템플릿" ["Table", "Search", "Actions"]),
     ("masterDetailPage", template "masterDetailPage" "마스터-디테일 페이지 템플릿"
       ["MasterTable", "DetailTable", "Search", "Actions"])]

def merged (s : Solutions) : Members :=
  s.entries.foldl (fun ms (name, solution) => Members.set ms name solution.toJson)
    [("solutions", .array (s.keys.map .string)), ("templates", templates)]

def mergedPath (directory : String) : String :=
  Path.append ((Path.parent directory).getD "") "config.json"

end Solutions
end ApiScreens
