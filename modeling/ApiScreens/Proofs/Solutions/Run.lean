import ApiScreens.Proofs.Emission.Isolation
import ApiScreens.Proofs.Output.Clean
import ApiScreens.Solutions.Generate

/-! A generation as a sequence of writes. What every write keeps holds at its end, and apart from the merged file
it writes nothing but sources and their siblings. -/
namespace ApiScreens
open Files ApiScreens.Path

namespace Solution
open Files.Tree

theorem underEnds (project : String) (parts : List String) (name : String) {tail : String} {c : Char}
    (last : tail.toList.getLast? = some c) :
    (Path.under project (parts ++ [name ++ tail])).toList.getLast? = some c := by
  have inside : tail.toList ≠ [] := List.ne_nil_of_mem (List.mem_of_getLast? last)
  have named : name ++ tail ≠ "" := fun empty => inside (by simpa using (String.append_eq_empty_iff.mp empty).2)
  rw [Path.under, List.foldl_append, List.foldl_cons, List.foldl_nil, appendEnds _ named, String.toList_append,
    List.getLast?_append_of_ne_nil _ inside, last]

def ItemKind.tail : ItemKind → String
  | .page => ".tsx"
  | .tabNavigation => "TabNavigation.tsx"
  | .fieldApi => "FieldQuery.ts"
  | .customSelect => "SelectComponent.tsx"
  | .routes => "Route.tsx"

theorem selectSpelled (project key : String) (m : Module) (c : CustomSelect) :
    (selectItem project key m c).path =
      Path.under project (["src/components/customSelect"] ++ [Naming.pascal key ++ "SelectComponent.tsx"]) := by
  simp only [selectItem, Module.selectEntry, String.append_assoc, List.cons_append, List.nil_append]
  rfl

theorem planSpelled {s : Solution} {project solution : String} {i : Item} (planned : i ∈ s.plan project solution) :
    ∃ parts name, i.path = Path.under project (parts ++ [name ++ i.kind.tail]) := by
  cases (planParts project solution s i).mp planned with
  | inr last =>
    rw [last]
    exact ⟨["src/routes"], Naming.pascal solution, by
      simp only [routesItem, ItemKind.tail, List.cons_append, List.nil_append]⟩
  | inl part =>
    obtain ⟨key, m, _, part⟩ := part
    cases part with
    | @page t inside =>
      exact ⟨["src/pages", m.path], t.pageName, by
        simp only [tabItem, pagePath, ItemKind.tail, List.cons_append, List.nil_append]⟩
    | @register a creates =>
      exact ⟨["src/pages", m.path], a.pageName, by
        simp only [registerItem, pagePath, ItemKind.tail, List.cons_append, List.nil_append]⟩
    | navigation tabs =>
      exact ⟨["src/tabs", solution], Naming.pascal key, by
        simp only [navigationItem, Naming.tabNavigation, ItemKind.tail, String.append_assoc, List.cons_append,
          List.nil_append]
        rfl⟩
    | fieldApi opted =>
      exact ⟨["src/hooks", Naming.camel solution, Naming.camel key], "use" ++ Naming.pascal key, by
        simp only [fieldItem, Module.fieldHookName, ItemKind.tail, String.append_assoc, List.cons_append,
          List.nil_append]
        rfl⟩
    | select chosen => exact ⟨_, _, selectSpelled project key m _⟩

theorem planEnds {s : Solution} {project solution : String} {i : Item} (planned : i ∈ s.plan project solution) :
    i.path.toList.getLast? = some 'x' ∨ i.path.toList.getLast? = some 's' := by
  obtain ⟨parts, name, spelled⟩ := planSpelled planned
  have last : i.kind.tail.toList.getLast? = some 'x' ∨ i.kind.tail.toList.getLast? = some 's' := by
    cases i.kind <;> decide
  rw [spelled]
  exact last.imp (underEnds project parts name) (underEnds project parts name)

end Solution

namespace Generation
variable (g : Generation)

def mergedPlace (base : Location) : Location := Disk.locationOf base (Solutions.mergedPath g.configs)

theorem mergedPlaceName (base : Location) : ∃ l, g.mergedPlace base = l ++ ["config.json"] :=
  ⟨_, Disk.locationBehind base _ (by decide)⟩

theorem writeAllSteps (w : Workspace) (s : Solutions) : (g.writeAll w s).1 =
    (g.writeMerged (g.writeIndex (g.writeSolutions w s).1 (g.selects s)).1 s).1 := by
  simp only [writeAll]

theorem writeAllKeeps {I : Tree → Prop} {s : Solutions} {w : Workspace}
    (emitted : ∀ e ∈ s.entries, ∀ f ∈ (g.emission e.1 e.2).files, ∀ v : Workspace,
      I v.tree → I (v.write f).1.tree)
    (index : ∀ content, ∀ v : Workspace, I v.tree → I (v.write ⟨g.indexPath, content, g.options⟩).1.tree)
    (merged : ∀ content, ∀ v : Workspace, I v.tree →
      I (v.replaceText (Solutions.mergedPath g.configs) content).1.tree)
    (start : I w.tree) : I (g.writeAll w s).1.tree := by
  have solutions (v : Workspace) (stats : GenerationStats) (here : I v.tree) :
      I (s.entries.foldl (fun r e => g.writeSolution r.1 r.2 e.1 e.2) (v, stats)).1.tree := by
    generalize s.entries = es at emitted
    induction es generalizing v stats with
    | nil => exact here
    | cons e rest ih =>
      exact ih _ _ (Workspace.writeAllKeeps (emitted e List.mem_cons_self) _ here) fun e inside =>
        emitted e (List.mem_cons_of_mem _ inside)
  have second (v : Workspace) (entries : List Page.SelectEntry) (here : I v.tree) :
      I (g.writeIndex v entries).1.tree := by
    unfold writeIndex
    split_ifs
    · exact here
    · split
      · exact here
      · rename_i content _
        refine Workspace.writeAllKeeps (fun f inside u => ?_) v here
        rw [List.mem_singleton.mp inside]
        exact index content u
  have last (v : Workspace) (here : I v.tree) : I (g.writeMerged v s).1.tree := by
    unfold writeMerged Workspace.writeMerged
    have done := merged (Json.Value.object (Solutions.keepingCharts v.tree (Solutions.mergedPath g.configs)
      s.merged)).pretty v here
    generalize v.replaceText _ _ = result at done ⊢
    obtain ⟨u, outcome⟩ := result
    cases outcome <;> exact done
  rw [writeAllSteps]
  exact last _ (second _ _ (solutions w {} start))

def indexFiles (entries : List Page.SelectEntry) : List GeneratedFile :=
  if entries = [] then []
  else match g.overrides.render (.selectIndex ⟨entries⟩) with
    | .error _ => []
    | .ok content => [⟨g.indexPath, content, g.options⟩]

def sources (s : Solutions) : List GeneratedFile := s.entries.flatMap fun e => (g.emission e.1 e.2).files

def mergedFile (content : String) : GeneratedFile := ⟨Solutions.mergedPath g.configs, content, ⟨true, false⟩⟩

theorem writeSolutionsWritten {w : Workspace} {s : Solutions} (clean : (g.writeSolutions w s).2.errors = 0) :
    Workspace.Written w.tree (g.sources s) (g.writeSolutions w s).1.tree := by
  unfold sources
  suffices general : ∀ stats : GenerationStats,
      (s.entries.foldl (fun r e => g.writeSolution r.1 r.2 e.1 e.2) (w, stats)).2.errors = 0 → stats.errors = 0 ∧
      Workspace.Written w.tree (s.entries.flatMap fun e => (g.emission e.1 e.2).files)
        (s.entries.foldl (fun r e => g.writeSolution r.1 r.2 e.1 e.2) (w, stats)).1.tree from (general _ clean).2
  clear clean
  generalize s.entries = es
  induction es generalizing w with
  | nil => exact fun stats clean => ⟨clean, .done _⟩
  | cons e rest ih =>
    intro stats clean
    obtain ⟨counted, more⟩ := ih _ clean
    simp only [GenerationStats.count] at counted
    obtain ⟨before, failed⟩ := Nat.add_eq_zero_iff.mp counted
    have batch := Workspace.writeAllWritten (w := w.printAll (openingLines e.1 (g.emission e.1 e.2))) failed
    exact ⟨(Nat.add_eq_zero_iff.mp before).1, batch.append more⟩

theorem writeIndexWritten {w : Workspace} {entries : List Page.SelectEntry}
    (clean : (g.writeIndex w entries).2 = 0) :
    Workspace.Written w.tree (g.indexFiles entries) (g.writeIndex w entries).1.tree := by
  unfold writeIndex at clean ⊢
  unfold indexFiles
  split_ifs at clean ⊢ with none
  · exact .done _
  · cases rendered : g.overrides.render (.selectIndex ⟨entries⟩) with
    | error e => simp [rendered] at clean
    | ok content =>
      simp only [rendered] at clean ⊢
      exact Workspace.writeAllWritten clean

theorem writeMergedWritten {w : Workspace} {s : Solutions} (clean : (g.writeMerged w s).2 = 0) :
    ∃ content, Workspace.Written w.tree [g.mergedFile content] (g.writeMerged w s).1.tree := by
  unfold writeMerged Workspace.writeMerged Workspace.replaceText at clean ⊢
  refine ⟨(Json.Value.object (Solutions.keepingCharts w.tree (Solutions.mergedPath g.configs) s.merged)).pretty, ?_⟩
  have written {outcome : WriteOutcome} (done : (w.write (g.mergedFile
      (Json.Value.object (Solutions.keepingCharts w.tree (Solutions.mergedPath g.configs) s.merged)).pretty)).2 =
      .ok outcome) := Workspace.Written.step done (.done _)
  unfold mergedFile at written ⊢
  generalize w.write _ = result at clean written ⊢
  obtain ⟨v, outcome⟩ := result
  cases outcome with
  | error e => contradiction
  | ok outcome => exact written rfl

theorem writeAllWritten {w : Workspace} {s : Solutions} (clean : (g.writeAll w s).2.errors = 0) :
    ∃ content, Workspace.Written w.tree (g.sources s ++ g.indexFiles (g.selects s) ++ [g.mergedFile content])
      (g.writeAll w s).1.tree := by
  rw [writeAllSteps]
  simp only [writeAll] at clean
  obtain ⟨rest, last⟩ := Nat.add_eq_zero_iff.mp clean
  obtain ⟨first, second⟩ := Nat.add_eq_zero_iff.mp rest
  obtain ⟨content, merged⟩ := g.writeMergedWritten last
  exact ⟨content, ((g.writeSolutionsWritten first).append (g.writeIndexWritten second)).append merged⟩

end Generation
end ApiScreens
