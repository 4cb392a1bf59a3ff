import ApiScreens.Files.Object
import ApiScreens.Locale.Guess
import ApiScreens.Locale.ModuleKeys
import ApiScreens.Locale.Sources
import ApiScreens.Solutions.Directory

/-! Bringing the catalogs of all languages up to date: with the keys that sources use, or with the texts of
the screens of solutions. What a catalog holds already is never replaced, and one that gains nothing is
not written. -/
namespace ApiScreens.Locale
open Files (Tree)

def Catalog.load (t : Tree) (path : String) : Catalog := ⟨t.readObject path⟩

def Catalog.ofLanguage (t : Tree) (directory : String) (l : Language) : Catalog :=
  load t (path directory l.code)

structure SyncReport where
  considered : Nat
  missing : Nat
  added : SortedMap Nat := .empty
  written : List String := []
  errors : Nat := 0
  deriving DecidableEq

def SyncReport.lines (r : SyncReport) : List String :=
  (r.added.entries.map fun (code, n) => "   - " ++ code ++ ": " ++ toString n ++ " added") ++
    if r.errors = 0 then []
    else ["⚠️  " ++ toString r.errors ++ " catalogs could not be written"]

def mergeLanguage (directory : String) (ps : Phrases) (l : Language) (w : Workspace)
    (r : SyncReport) : Workspace × SyncReport :=
  let path := Catalog.path directory l.code
  let (catalog, n) := (Catalog.load w.tree path).merge (textsIn l ps)
  let r := { r with added := r.added.insert l.code n }
  if n = 0 then (w, r)
  else match w.replaceText path catalog.text with
    | (w, .ok _) =>
        (w.print ("✅ [" ++ l.code ++ "] added " ++ toString n ++ " translation keys"),
         { r with written := r.written ++ [path] })
    | (w, .error _) => (w, { r with errors := r.errors + 1 })

def mergeAll (directory : String) (ps : Phrases) (w : Workspace) (r : SyncReport) :
    Workspace × SyncReport :=
  Language.all.foldl (fun (w, r) l => mergeLanguage directory ps l w r) (w, r)

def missingFrom (t : Tree) (directory : String) (keys : List String) : List String :=
  keys.filter (Catalog.ofLanguage t directory .korean).isMissing

def guesses (t : Tree) (sources directory : String) : Phrases :=
  .ofList ((missingFrom t directory (usedKeys t sources)).map fun key => (key, guess key))

def syncSources (w : Workspace) (sources directory : String) : Workspace × SyncReport :=
  let used := usedKeys w.tree sources
  let missing := guesses w.tree sources directory
  let r : SyncReport := { considered := used.length, missing := missing.size }
  let w := w.printAll
    ["🔍 Scanning " ++ sources ++ " for translation keys...",
     "📊 Used translation keys: " ++ toString used.length,
     "❌ Missing translation keys: " ++ toString missing.size]
  if missing.size = 0 then (w.print "✅ All translation keys exist", r)
  else mergeAll directory missing w r

def syncSolutions (w : Workspace) (s : Solutions) (directory : String) : Workspace × SyncReport :=
  let derived := solutionTexts s
  let w := w.print ("🌍 Derived " ++ toString derived.size ++ " translation keys from " ++
    toString s.size ++ " solutions")
  mergeAll directory derived w
    { considered := derived.size
      missing := (missingFrom w.tree directory derived.keys).length }

end ApiScreens.Locale
