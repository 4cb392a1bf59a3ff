import ApiScreens.Locale.Term
import ApiScreens.Naming
import ApiScreens.Solutions.Merged

/-! The texts that the screens of a module show, under the keys by which generated code asks for them. -/
namespace ApiScreens.Locale

def bareName (name : String) : String :=
  match Text.dropEnd? name " 관리" with
  | some bare => bare
  | none =>
      let last := " management".toList.reverse
      let reversed := name.toList.reverse
      if (reversed.take last.length).map Char.toLower = last then
        String.ofList (reversed.drop last.length).reverse
      else name

def named (name : Phrase) (korean english : String) : Phrase :=
  ⟨name.korean ++ " " ++ korean, name.english ++ " " ++ english⟩

def moduleName (m : Module) : Phrase := ⟨bareName m.name, inEnglish (bareName m.name)⟩

def titleTexts (key : String) (name : Phrase) : List (String × Phrase) :=
  [("tabs.titles." ++ key, name),
   ("tabs.titles." ++ key ++ "Management", named name "관리" "Management")]

def tabTexts (m : Module) : List (String × Phrase) :=
  (m.tabs.filter fun t => t.id ≠ "" && t.name ≠ "").map fun t =>
    ("tabs.labels." ++ t.id, ⟨t.name, inEnglish t.name⟩)

def pageTexts (key : String) (name : Phrase) (m : Module) : List (String × Phrase) :=
  ("pages.titles." ++ key ++ "List", named name "목록" "List") ::
    if m.tabs.any (·.id = "related-list") then
      [("pages.titles." ++ key ++ "Detail", named name "상세 목록" "Detail List")]
    else []

def dialogTexts (key : String) (name : Phrase) (m : Module) : List (String × Phrase) :=
  m.actions.map fun a => match a.kind with
    | .create => ("tabs.dialogs." ++ key ++ "Register", named name "등록" "Register")
    | .edit => ("tabs.dialogs." ++ key ++ "Edit", named name "수정" "Edit")

def selectTexts (key : String) (name : Phrase) (m : Module) : List (String × Phrase) :=
  match m.customSelect with
  | none => []
  | some _ => [("select." ++ key ++ "Placeholder",
      ⟨name.korean ++ "을 선택하세요", "Select " ++ name.english⟩)]

def ownTexts (solution key : String) (name : Phrase) : List (String × Phrase) :=
  [("list", "목록", "List"), ("management", "관리", "Management"),
   ("register", "등록", "Register")].map fun (leaf, korean, english) =>
    ("pages." ++ solution ++ "." ++ key ++ "." ++ leaf, named name korean english)

def moduleTexts (solution key : String) (m : Module) : List (String × Phrase) :=
  let camel := Naming.camel key
  let name := moduleName m
  titleTexts camel name ++ tabTexts m ++ pageTexts camel name m ++ dialogTexts camel name m ++
    selectTexts camel name m ++ ownTexts solution camel name

def solutionTexts (s : Solutions) : Phrases :=
  .ofList <| s.entries.flatMap fun (solution, c) =>
    c.modules.entries.flatMap fun (key, m) => moduleTexts solution key m

end ApiScreens.Locale
