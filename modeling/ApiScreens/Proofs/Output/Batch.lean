import ApiScreens.Proofs.Files.SameBut
import ApiScreens.Proofs.Output.Preservation

/-! Batches of files. Each file of a batch is tried once, in order, and the report counts every attempt and names
those that fail. What other files hold makes no difference to a batch. -/
namespace ApiScreens
open Files

theorem keptAndDropped {α β : Type} (f : α → Option β) (l : List α) :
    (l.filterMap f).length + l.countP (fun x => (f x).isNone) = l.length := by
  rw [List.length_filterMap_eq_countP, List.length_eq_countP_add_countP (fun x => (f x).isSome) (l := l)]
  congr 2
  funext x
  cases f x <;> rfl

namespace Workspace
variable {w v : Workspace} {a b : Contents}

def failure (step : Workspace × GeneratedFile) : Option WriteFailure :=
  match (step.1.write step.2).2 with
  | .ok _ => none
  | .error e => some ⟨step.2.path, e⟩

theorem attemptsInOrder (w : Workspace) (files : List GeneratedFile) : (w.attempts files).map (·.2) = files := by
  induction files generalizing w with
  | nil => rfl
  | cons f rest ih => simp only [attempts, List.map_cons, ih]

theorem reportOfAttempts (report : BatchReport) (steps : List (Workspace × GeneratedFile)) :
    steps.foldl (fun report step => report.add step.2.path (step.1.write step.2).2) report =
      report.absorb
        { success := steps.countP fun step => (failure step).isNone
          failed := steps.countP fun step => (failure step).isSome
          total := steps.length
          errors := steps.filterMap failure } := by
  induction steps generalizing report with
  | nil => simp [BatchReport.absorb]
  | cons step rest ih =>
    rw [List.foldl_cons, ih]
    cases outcome : (step.1.write step.2).2 with
    | ok reported =>
      have passed : failure step = none := by rw [failure, outcome]
      simp [BatchReport.add, BatchReport.absorb, passed]
      omega
    | error e =>
      have failed : failure step = some ⟨step.2.path, e⟩ := by rw [failure, outcome]
      simp [BatchReport.add, BatchReport.absorb, failed]
      omega

structure Accounts (w : Workspace) (files : List GeneratedFile) (report : BatchReport) : Prop where
  tried : (w.attempts files).map (·.2) = files
  whole : report.total = files.length
  parts : report.success + report.failed = report.total
  listed : report.errors = (w.attempts files).filterMap failure
  counted : report.failed = report.errors.length

theorem writeAllAccounts (w : Workspace) (files : List GeneratedFile) :
    w.Accounts files (w.writeAll files).2 := by
  have attempted : (w.attempts files).length = files.length := by
    rw [← List.length_map (f := (·.2)), attemptsInOrder]
  simp only [writeAllAttempts, reportOfAttempts, BatchReport.absorb, Nat.zero_add, List.nil_append]
  refine ⟨attemptsInOrder w files, attempted, ?_, rfl, ?_⟩
  · rw [Nat.add_comm, ← List.length_filterMap_eq_countP, keptAndDropped]
  · rw [List.length_filterMap_eq_countP]

structure SameBut (a b : Contents) (w v : Workspace) : Prop where
  tree : Tree.SameBut a b w.tree v.tree
  rest : v = w.withTree v.tree

structure Agree {α : Type} (a b : Contents) (x y : Workspace × α) : Prop where
  result : y.2 = x.2
  same : SameBut a b x.1 y.1

namespace SameBut
variable (same : SameBut a b w v)
include same

theorem withTree {t u : Tree} (trees : Tree.SameBut a b t u) : SameBut a b (w.withTree t) (v.withTree u) :=
  ⟨trees, by rw [same.rest]; rfl⟩

theorem print (line : String) : SameBut a b (w.print line) (v.print line) :=
  ⟨same.tree, by rw [same.rest]; rfl⟩

theorem makeRoom (path : String) : Agree a b (w.makeRoom path) (v.makeRoom path) := by
  unfold Workspace.makeRoom
  cases (Path.parent path).filter (· ≠ "") with
  | none => exact ⟨rfl, same⟩
  | some around =>
    simp only
    have made := same.tree.makeDirectories around
    generalize w.tree.makeDirectories around = x, v.tree.makeDirectories around = y at made
    obtain ⟨t, e⟩ := x
    obtain ⟨u, d⟩ := y
    obtain ⟨rfl, trees⟩ := made
    cases d with
    | none => exact ⟨rfl, same.withTree trees⟩
    | some d => exact ⟨rfl, same.withTree trees⟩

theorem put (path content line : String) (outcome : WriteOutcome) :
    Agree a b (w.put path content line outcome) (v.put path content line outcome) := by
  have both := same.tree.write path (.file (.text content))
  unfold Workspace.put
  generalize w.tree.write path (.text content) = x, v.tree.write path (.text content) = y at both
  cases both with
  | error e => exact ⟨rfl, same⟩
  | ok trees => exact ⟨rfl, (same.withTree trees).print line⟩

theorem backupPath (path stamp : String) : v.tree.backupPath path stamp = w.tree.backupPath path stamp := by
  simp only [Tree.backupPath, same.tree.present, same.tree.size]

theorem backUp (path : String) : Agree a b (w.backUp path) (v.backUp path) := by
  have reading : v.now = ((w.now).1, (w.now).2.withTree v.tree) := by rw [same.rest]; rfl
  have later : SameBut a b (w.now).2 ((w.now).2.withTree v.tree) := ⟨same.tree, rfl⟩
  have target := later.backupPath path (w.now).1.stamp
  have both := later.tree.copy path ((w.now).2.tree.backupPath path (w.now).1.stamp)
  simp only [Workspace.backUp, reading, target]
  generalize (w.now).2.tree.copy path _ = x, ((w.now).2.withTree v.tree).tree.copy path _ = y at both
  cases both with
  | error e => exact ⟨rfl, later⟩
  | ok trees => exact ⟨rfl, (later.withTree trees).print _⟩

theorem overwrite (f : GeneratedFile) (backup : Option String) :
    Agree a b (w.overwrite f backup) (v.overwrite f backup) :=
  same.put _ _ _ _

theorem replace (f : GeneratedFile) : Agree a b (w.replace f) (v.replace f) := by
  unfold Workspace.replace
  split_ifs
  · have copied := same.backUp f.path
    generalize w.backUp f.path = x, v.backUp f.path = y at copied
    obtain ⟨w, result⟩ := x
    obtain ⟨v, other⟩ := y
    obtain ⟨rfl, later⟩ := copied
    cases other with
    | ok target => exact later.overwrite f (some target)
    | error e => exact ⟨rfl, later⟩
  · exact same.overwrite f none

theorem putBeside (f : GeneratedFile) : Agree a b (w.putBeside f) (v.putBeside f) := by
  have beside : v.tree.numberedPath f.path = w.tree.numberedPath f.path := by
    simp only [Tree.numberedPath, same.tree.present, same.tree.size]
  unfold Workspace.putBeside
  rw [beside]
  exact same.put _ _ _ _

theorem write (f : GeneratedFile) : Agree a b (w.write f) (v.write f) := by
  have room := same.makeRoom f.path
  unfold Workspace.write
  generalize w.makeRoom f.path = x, v.makeRoom f.path = y at room
  obtain ⟨w, result⟩ := x
  obtain ⟨v, other⟩ := y
  obtain ⟨rfl, later⟩ := room
  cases other with
  | error e => exact ⟨rfl, later⟩
  | ok done =>
    have present : v.tree.present f.path = w.tree.present f.path := later.tree.present f.path
    simp only [present]
    split_ifs
    · exact later.put _ _ _ _
    · exact later.replace f
    · exact later.putBeside f

theorem writeAll (files : List GeneratedFile) : Agree a b (w.writeAll files) (v.writeAll files) := by
  unfold Workspace.writeAll
  generalize ({} : BatchReport) = report
  induction files generalizing w v report with
  | nil => exact ⟨rfl, same⟩
  | cons f rest ih =>
    obtain ⟨result, later⟩ := same.write f
    rw [List.foldl_cons, List.foldl_cons]
    simp only [result]
    exact ih later _

end SameBut
end Workspace
end ApiScreens
