import ApiScreens.Proofs.Output.Ending
import ApiScreens.Proofs.Path.Parent

/-! Numbered siblings and backups, as they are searched for. Whatever a tree holds, each search comes to an end, at
a name in the directory of the file at which nothing is. -/
namespace ApiScreens
open Files ApiScreens.Path

namespace Path

def numberedName (name : String) (n : Nat) : String :=
  match splitName name with
  | (stem, some ext) => stem ++ "_" ++ toString n ++ "." ++ ext
  | (stem, none) => stem ++ "_" ++ toString n

variable {p name : String} (named : fileName p = some name)
include named

theorem numberedBeside (n : Nat) :
    parent (numbered p n) = parent p ∧ fileName (numbered p n) = some (numberedName name n) := by
  have whole : '/' ∉ ("_" ++ toString n).toList := by
    simp only [String.toList_append, List.mem_append, not_or]
    exact ⟨by simp, Tree.numberClear n⟩
  have mark : '_' ∈ ("_" ++ toString n).toList := by simp
  refine ⟨parentTagged named whole mark (by decide), ?_⟩
  have found := fileNameAppend (q := around p) (taggedComponent p whole mark (by decide))
  rw [← taggedAround] at found
  rw [numbered, found]
  simp only [stem, ending, extension, named, Option.map_some, Option.bind_some, Option.getD_some, numberedName]
  cases splitName name with
  | mk front back => cases back <;> simp [String.append_assoc]

theorem backupBeside (time : Instant) (n : Nat) :
    parent (backup p (Tree.timed time.stamp n)) = parent p :=
  parentTagged named (Tree.backupTagClear time n) (c := 'b') (by simp) (by decide)

end Path

namespace Workspace
open Files.Tree

theorem backUpBeside {w v : Workspace} {p name b : String} (named : fileName p = some name)
    (done : w.backUp p = (v, .ok b)) : parent b = parent p ∧ b ≠ p ∧ w.tree.present b = false ∧
      ∃ c, w.tree.read p = .ok c ∧ v.tree.read b = .ok c := by
  obtain ⟨absent, l, m, old, source, _, _, copy⟩ := backUpDone done
  obtain ⟨n, _, spelled⟩ := backupSearch w.tree p (w.clock w.readings)
  have target := (w.backUpTarget done).trans spelled
  refine ⟨by rw [target, backupBeside named], ?_, absent, old, by simp [Tree.read, source], by simp [Tree.read, copy]⟩
  rintro rfl
  have here : w.tree.present b = true := presentLocate.mpr ⟨l, _, source⟩
  simp [here] at absent

theorem siblingsFound (w : Workspace) {p name : String} (named : fileName p = some name) :
    (∃ n, Naming.Search (fun n => !w.tree.present (numbered p n)) 1 n ∧ w.tree.numberedPath p = numbered p n ∧
      IsLeast {n | 1 ≤ n ∧ w.tree.present (numbered p n) = false} n ∧
      parent (numbered p n) = parent p ∧ fileName (numbered p n) = some (numberedName name n)) ∧
    (∀ time : Instant, ∃ n, Naming.Search (fun n => !w.tree.present (backup p (timed time.stamp n))) 0 n ∧
      w.tree.backupPath p time.stamp = backup p (timed time.stamp n)) ∧
    ∀ (v : Workspace) (b : String), w.backUp p = (v, .ok b) →
      parent b = parent p ∧ b ≠ p ∧ w.tree.present b = false ∧
        ∃ c, w.tree.read p = .ok c ∧ v.tree.read b = .ok c := by
  refine ⟨?_, backupSearch w.tree p, fun v b done => backUpBeside named done⟩
  obtain ⟨n, search, same⟩ := numberedSearch w.tree p
  obtain ⟨positive, free, least⟩ := Naming.searchExactly.mp search
  refine ⟨n, search, same, ⟨⟨positive, by simpa using free⟩, fun m ⟨start, absent⟩ => ?_⟩, numberedBeside named n⟩
  by_contra below
  have taken := least m start (Nat.lt_of_not_le below)
  simp [absent] at taken

def crowded : Workspace where
  tree := Tree.ofList []
    [(["web"], .directory), (["web", "page.test.tsx"], .file (.text "edited")),
      (["web", "page.test_1.tsx"], .directory), (["web", "page.test_2.tsx"], .file (.text "again")),
      (["web", "page.test_4.tsx"], .file (.text "later"))]

theorem thirdSiblingFound :
    let p := "web/page.test.tsx"
    fileName p = some "page.test.tsx" ∧
      (∃ n, Naming.Search (fun n => !crowded.tree.present (numbered p n)) 1 n ∧
        crowded.tree.numberedPath p = numbered p n ∧ fileName (numbered p n) = some "page.test_3.tsx") ∧
      ∃ v b, crowded.backUp p = (v, .ok b) ∧ parent b = some "web" ∧ crowded.tree.present b = false ∧
        v.tree.read b = .ok (.text "edited") := by
  intro p
  have named : fileName p = some "page.test.tsx" := by decide +kernel
  obtain ⟨⟨n, search, same, _⟩, _, copied⟩ := siblingsFound crowded named
  have third : fileName (crowded.tree.numberedPath p) = some "page.test_3.tsx" := by decide +kernel
  have around : parent p = some "web" := by decide +kernel
  have held : (crowded.tree.read p).toOption = some (.text "edited") := by decide +kernel
  have succeeds : (crowded.backUp p).2.toOption.isSome := by decide +kernel
  refine ⟨named, ⟨n, search, same, same ▸ third⟩, ?_⟩
  cases done : crowded.backUp p with
  | mk v result =>
    rw [done] at succeeds
    cases result with
    | error e => contradiction
    | ok b =>
      obtain ⟨beside, _, absent, c, before, after⟩ := copied v b done
      rw [before] at held
      cases held
      exact ⟨v, b, rfl, beside.trans around, absent, after⟩

end Workspace
end ApiScreens
