import ApiScreens.Proofs.Json.Exact
import ApiScreens.Proofs.Output.Replace
import ApiScreens.Solutions.Directory
import ApiScreens.Solutions.Merged

/-! The table of charts in the merged file. Each write puts the table of the file before it in place of whatever
the new members have under its name, so the table stays however often the file is written. -/
namespace ApiScreens
open Files
open Json (Value Members)

namespace Json.Members

theorem setAgain (ms : Members) (key : String) (v : Value) : (ms.set key v).set key v = ms.set key v :=
  setSame (by rw [getSet, if_pos rfl])

end Json.Members

def Files.Tree.HoldsObject (t : Tree) (path : String) (ms : Members) : Prop :=
  ∃ text, t.readText path = .ok text ∧ Value.parse text = some (.object ms)

namespace Solutions

variable {t : Tree} {path : String} {ms m : Members} {charts : Value}

theorem heldCharts (holds : t.HoldsObject path ms) (found : ms.get? chartKey = some charts) :
    keepingCharts t path m = m.set chartKey charts := by
  obtain ⟨text, read, object⟩ := holds
  have same : t.readObject path = ms := by simp [Tree.readObject, read, objectOf, object, Value.members?]
  rw [keepingCharts, same, found]

theorem chartsFit (holds : t.HoldsObject path ms) (found : ms.get? chartKey = some charts) :
    charts.Fits (Json.depthLimit - 1) := by
  obtain ⟨text, _, object⟩ := holds
  exact (Value.fitsMembers (Value.parseFits object)).2 _ (Members.memberGet found)

end Solutions

namespace Workspace
open Solutions

variable {w v u : Workspace} {path : String} {ms m : Members} {maps : List Members} {charts : Value}

theorem writeMergedHolds (holds : w.tree.HoldsObject path ms) (found : ms.get? chartKey = some charts)
    (spelled : charts.Spelled) (back : (Value.object m).ReadsBack) {outcome : WriteOutcome}
    (wrote : (w.writeMerged path m).2 = .ok outcome) :
    (w.writeMerged path m).1.tree.HoldsObject path (m.set chartKey charts) := by
  have done : w.writeMerged path m = ((w.writeMerged path m).1, .ok outcome) := Prod.ext rfl wrote
  have text := Tree.readTextExactly.mpr ⟨_, (replaceDone done).2⟩
  rw [heldCharts holds found] at text
  exact ⟨_, text, Value.setReadsBack back chartKey spelled (chartsFit holds found)⟩

/-- The second workspace is left by successful writes of these members to the path, one after the other. What
happens between them leaves the text of the file as it is. -/
inductive Remerged (path : String) : Workspace → List Members → Workspace → Prop where
  | done (w : Workspace) : Remerged path w [] w
  | write {w u : Workspace} {m : Members} {maps : List Members} {outcome : WriteOutcome}
      (wrote : (w.writeMerged path m).2 = .ok outcome) (rest : Remerged path (w.writeMerged path m).1 maps u) :
      Remerged path w (m :: maps) u
  | other {w v u : Workspace} {maps : List Members} (same : v.tree.readText path = w.tree.readText path)
      (rest : Remerged path v maps u) : Remerged path w maps u

theorem remergedHolds (run : Remerged path w maps u) (holds : w.tree.HoldsObject path ms)
    (found : ms.get? chartKey = some charts) (spelled : charts.Spelled)
    (back : ∀ m ∈ maps, (Value.object m).ReadsBack) :
    u.tree.HoldsObject path (Members.set (maps.getLast?.getD ms) chartKey charts) := by
  induction run generalizing ms with
  | done w => simpa [Members.setSame found] using holds
  | other same rest ih =>
    obtain ⟨text, read, object⟩ := holds
    exact ih ⟨text, same ▸ read, object⟩ found back
  | @write _ _ m maps _ wrote rest ih =>
    obtain ⟨first, others⟩ := List.forall_mem_cons.mp back
    have next := writeMergedHolds holds found spelled first wrote
    have table : (Members.set m chartKey charts).get? chartKey = some charts := by rw [Members.getSet, if_pos rfl]
    have later := ih next table others
    rw [List.getLast?_cons, Option.getD_some]
    cases last : maps.getLast? with
    | none => simpa [last, Members.setAgain] using later
    | some final => simpa [last] using later

theorem chartsSurvive (run : Remerged path w maps u) (holds : w.tree.HoldsObject path ms)
    (found : ms.get? chartKey = some charts) (readable : charts.ReadsBack)
    (back : ∀ m ∈ maps, (Value.object m).ReadsBack) :
    ∃ left, u.tree.HoldsObject path left ∧ left.get? chartKey = some charts ∧
      ∀ key, key ≠ chartKey → left.get? key = Members.get? (maps.getLast?.getD ms) key := by
  have spelled := (Value.readsBackExactly.mp readable).1
  refine ⟨_, remergedHolds run holds found spelled back, ?_, fun key other => ?_⟩
  · rw [Members.getSet, if_pos rfl]
  · rw [Members.getSet, if_neg other]

def pieChart : Value := .object [("sales", .array [.string "pie", .ofNat 3])]

def chartedText : String := "\x7b\"stale\": true, \"analysisPages\": \x7b\"sales\": [\"pie\", 3]\x7d\x7d"

def charted : Workspace :=
  { tree := Tree.ofList [] [(["app"], .directory), (["app", "config.json"], .file (.text chartedText))] }

def alone (name : String) : Members := [("solutions", .array [.string name]), (name, .object [])]

def chartsNamed : Members := alone "analysisPages"

def stockNamed : Members := alone "stock"

theorem pieChartSurvives :
    let ms : Members := [("stale", .bool true), ("analysisPages", pieChart)]
    let path := "app/config.json"
    let u := ((charted.writeMerged path chartsNamed).1.writeMerged path stockNamed).1
    charted.tree.HoldsObject path ms ∧ ms.get? chartKey = some pieChart ∧ pieChart.ReadsBack ∧
      (∀ m ∈ [chartsNamed, stockNamed], (Value.object m).ReadsBack) ∧
      Remerged path charted [chartsNamed, stockNamed] u ∧
      ∃ left, u.tree.HoldsObject path left ∧ left.get? chartKey = some pieChart ∧
        ∀ key, key ≠ chartKey → left.get? key = stockNamed.get? key := by
  intro ms path u
  have holds : charted.tree.HoldsObject path ms := ⟨chartedText, by decide +kernel, by decide +kernel⟩
  have found : ms.get? chartKey = some pieChart := by decide
  have readable : pieChart.ReadsBack := by decide +kernel
  have back : ∀ m ∈ [chartsNamed, stockNamed], (Value.object m).ReadsBack := by decide +kernel
  have first : (charted.writeMerged path chartsNamed).2 = .ok (.overwritten path none) := by decide +kernel
  have second : ((charted.writeMerged path chartsNamed).1.writeMerged path stockNamed).2 =
      .ok (.overwritten path none) := by decide +kernel
  have run : Remerged path charted [chartsNamed, stockNamed] u := .write first (.write second (.done _))
  obtain ⟨left, held, table, others⟩ := chartsSurvive run holds found readable back
  exact ⟨holds, found, readable, back, run, left, held, table, others⟩

end Workspace
end ApiScreens
