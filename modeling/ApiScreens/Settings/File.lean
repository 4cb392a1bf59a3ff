import ApiScreens.Files.Tree
import ApiScreens.Heuristics
import ApiScreens.Output.File
import ApiScreens.Settings.Error
import ApiScreens.Toml.Reader

/-! The settings file. Every key has a default, and so has the whole file. A section is a table or an
array of its values in order; what it does not know is passed over. -/
namespace ApiScreens
open Files (Tree)

structure Settings where
  heuristics : Heuristics := {}
  timeout : Nat := 30000
  output : WriteOptions := {}
  deriving DecidableEq, Repr

namespace Toml.Value

def firstOf (n : Nat) (items : List Value) : List (Option Value) :=
  (List.range n).map fun i => items[i]?

def fields? (names : List String) : Value → Option (List (Option Value))
  | table _ entries => some (names.map fun name => entries.lookup name)
  | moment => some (names.map fun _ => none)
  | array items => some (firstOf names.length items)
  | tables earlier last =>
      some (firstOf names.length ((earlier ++ [last]).map (table .header)))
  | _ => none

def natural? : Value → Option Nat
  | integer n => if 0 ≤ n ∧ n < Number.twoTo 64 then some n.toNat else none
  | _ => none

def bool? : Value → Option Bool
  | bool b => some b
  | _ => none

end Toml.Value

namespace Settings
open Toml (Value)

def field {α : Type} (read : Value → Option α) (default : α) : Option Value → Option α
  | none => some default
  | some v => read v

def heuristicsOf (v : Value) : Option Heuristics := do
  match ← v.fields? ["complex_field_count", "long_text_max_length", "search_field_cap",
      "textarea_max_length", "analyze_tab"] with
  | [complex, long, cap, textarea, analyze] =>
      let d : Heuristics := {}
      some
        { complexFieldCount := ← field Value.natural? d.complexFieldCount complex
          longTextMaxLength := ← field Value.natural? d.longTextMaxLength long
          searchFieldCap := ← field Value.natural? d.searchFieldCap cap
          textareaMaxLength := ← field Value.natural? d.textareaMaxLength textarea
          analyzeTab := ← field Value.bool? d.analyzeTab analyze }
  | _ => none

def timeoutOf (v : Value) : Option Nat := do
  match ← v.fields? ["timeout_ms"] with
  | [timeout] => field Value.natural? ({} : Settings).timeout timeout
  | _ => none

def outputOf (v : Value) : Option WriteOptions := do
  match ← v.fields? ["overwrite", "backup"] with
  | [overwrite, backup] => some ⟨← field Value.bool? true overwrite, ← field Value.bool? true backup⟩
  | _ => none

def parse (text : String) : Option Settings := do
  let root ← Toml.parse text
  some
    { heuristics := ← field heuristicsOf {} (root.lookup "heuristics")
      timeout := ← field timeoutOf ({} : Settings).timeout (root.lookup "http")
      output := ← field outputOf {} (root.lookup "output") }

def load (t : Tree) (path : String) : Except SettingsError Settings :=
  if !t.present path then .ok {}
  else match t.readText path with
    | .error e => .error (.unreadable path e)
    | .ok text =>
        match parse text with
        | some s => .ok s
        | none => .error (.malformed path)

def writeOptions (output : WriteOptions) (force noBackup : Bool) : WriteOptions :=
  ⟨output.overwrite || force, output.backup && !noBackup⟩

end Settings
end ApiScreens
