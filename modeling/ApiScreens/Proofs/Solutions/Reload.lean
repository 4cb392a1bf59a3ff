import ApiScreens.Proofs.Json.Outline
import ApiScreens.Proofs.Json.Record
import ApiScreens.Proofs.Module.RoundTrip
import ApiScreens.Proofs.SortedMap
import ApiScreens.Proofs.Solutions.Merged
import ApiScreens.Proofs.Solutions.Run

/-! A directory of solutions read again after a generation. Sources and their siblings never end as a configuration
does, so the merged file is all that a generation can leave there; it reads as a solution without modules. -/
namespace ApiScreens
open Files ApiScreens.Path
open Json (Members Value Written)

theorem filterMapSame {α : Type} {f : String → Option α} {as bs : List String} (left : as.Pairwise (· < ·))
    (right : bs.Pairwise (· < ·)) (same : ∀ n, (f n).isSome → (n ∈ as ↔ n ∈ bs)) :
    as.filterMap f = bs.filterMap f := by
  have kept (l : List String) : l.filterMap f = (l.filter fun n => (f n).isSome).filterMap f := by
    rw [List.filterMap_filter]
    refine List.filterMap_congr fun n _ => ?_
    cases f n <;> rfl
  have distinct {l : List String} (order : l.Pairwise (· < ·)) : (l.filter fun n => (f n).isSome).Nodup :=
    (order.imp fun below => String.ne_of_lt below).filter _
  have permuted : (as.filter fun n => (f n).isSome).Perm (bs.filter fun n => (f n).isSome) := by
    refine (List.perm_ext_iff_of_nodup (distinct left) (distinct right)).mpr fun n => ?_
    simp only [List.mem_filter]
    exact and_congr_left (same n)
  rw [kept as, kept bs, permuted.eq_of_pairwise
    (fun _ _ _ _ below above => absurd (String.lt_trans below above) (String.lt_irrefl _))
    (left.filter _) (right.filter _)]

theorem getWithout {α : Type} {f : String → Option (String × α)} {skip : String → Bool} {key : String}
    (other : ∀ n p, skip n = true → f n = some p → p.1 ≠ key) (names : List String) :
    (SortedMap.ofList (names.filterMap fun n => if skip n then none else f n)).get? key =
      (SortedMap.ofList (names.filterMap f)).get? key := by
  induction names with
  | nil => rfl
  | cons n rest ih =>
    rw [List.filterMap_cons, List.filterMap_cons]
    cases made : f n with
    | none => simpa using ih
    | some p =>
      cases skipped : skip n with
      | false =>
        simp only [Bool.false_eq_true, if_false, SortedMap.getOfListCons, ih]
      | true =>
        have differs : key ≠ p.1 := Ne.symm (other n p skipped made)
        simp only [if_true, SortedMap.getOfListCons, if_neg differs, Option.or_none, ih]

namespace Solutions
open Files.Tree

def held (t : Tree) (directory name : String) : Option (String × Solution) :=
  (candidate t directory name).bind fun c => match c.content with
    | .ok s => some (c.name, s)
    | .error _ => none

theorem ofDirectoryNames (t : Tree) (directory : String) : ofDirectory t directory =
    match t.names directory with
    | .error e => .error ⟨.solutions, directory, e⟩
    | .ok listed => .ok (.ofList (listed.filterMap (held t directory))) := by
  unfold ofDirectory candidates
  cases t.names directory with
  | error e => rfl
  | ok listed =>
    simp only [Except.map, ofCandidates, List.filterMap_filterMap]
    rfl

theorem heldJson {t : Tree} {directory name : String} {p : String × Solution}
    (found : held t directory name = some p) :
    p.1 = Naming.camel (splitName name).1 ∧ (splitName name).2 = some "json" ∧
      read t (append directory name) = .ok p.2 := by
  unfold held candidate at found
  split at found
  · rename_i stem cut
    rw [Option.bind_some] at found
    cases content : read t (append directory name) with
    | error e => simp [content] at found
    | ok s =>
      simp only [content, Option.some.injEq] at found
      subst found
      simp [cut]
  · contradiction

theorem heldOfRead {t : Tree} {directory name : String} {s : Solution} (json : (splitName name).2 = some "json")
    (found : read t (append directory name) = .ok s) :
    held t directory name = some (Naming.camel (splitName name).1, s) := by
  unfold held candidate
  cases cut : splitName name with
  | mk stem ext =>
    rw [cut] at json
    simp only at json
    subst json
    simp [found]

theorem readSolution {t : Tree} {path : String} {s : Solution} :
    read t path = .ok s ↔ ∃ k text, t.locate path = .ok (.present k (.file (.text text))) ∧
      Solution.parse text = some s := by
  unfold read
  constructor
  · intro found
    cases content : t.readText path with
    | error e => simp [content] at found
    | ok text =>
      obtain ⟨k, here⟩ := readTextExactly.mp content
      refine ⟨k, text, here, ?_⟩
      cases parsed : Solution.parse text with
      | none => simp [content, parsed, Option.elim] at found
      | some r => simpa [content, parsed, Option.elim] using found
  · intro found
    obtain ⟨k, text, here, parsed⟩ := found
    simp [readTextExactly.mpr ⟨k, here⟩, parsed, Option.elim]

theorem readBehind {t : Tree} {directory name : String} {k : Location}
    (around : t.follow directory = .ok (.present k .directory)) (component : Component name) {s : Solution} :
    read t (append directory name) = .ok s ↔ Char.ofNat 0 ∉ name.toList ∧
      ∃ text, t.fileAt (k ++ [name]) = some (.text text) ∧ Solution.parse text = some s := by
  rw [readSolution]
  constructor
  · intro found
    obtain ⟨l, text, here, parsed⟩ := found
    have clear : Char.ofNat 0 ∉ (append directory name).toList := (followWalk (locateFollow here)).2.1
    rw [containsAppend _ _ _ (by decide) (relativeOfWhole component.whole), not_or] at clear
    have child := locateFollow here
    rw [followBehind component clear.2 around, Except.ok.injEq] at child
    have place := congrArg Place.location child
    rw [childLocation] at place
    have there : t.at? l = some (.file (.text text)) := followEntry (locateFollow here)
    rw [show l = k ++ [name] from place.symm] at there
    exact ⟨clear.2, text, fileAtSome.mpr there, parsed⟩
  · intro found
    obtain ⟨clear, text, there, parsed⟩ := found
    have followed := followBehind component clear around
    rw [child, fileAtSome.mp there] at followed
    exact ⟨k ++ [name], text, locateFile.mpr ⟨followed, appendNoSlash component⟩, parsed⟩

theorem heldExactly {t : Tree} {directory name : String} {k : Location}
    (around : t.follow directory = .ok (.present k .directory)) (component : Component name)
    {p : String × Solution} : held t directory name = some p ↔
      (splitName name).2 = some "json" ∧ p.1 = Naming.camel (splitName name).1 ∧ Char.ofNat 0 ∉ name.toList ∧
        ∃ text, t.fileAt (k ++ [name]) = some (.text text) ∧ Solution.parse text = some p.2 := by
  constructor
  · intro found
    obtain ⟨key, json, content⟩ := heldJson found
    exact ⟨json, key, (readBehind around component).mp content⟩
  · intro found
    obtain ⟨json, key, content⟩ := found
    rw [heldOfRead json ((readBehind around component).mpr content), ← key]

theorem heldListed {t : Tree} {directory name : String} {k : Location}
    (around : t.follow directory = .ok (.present k .directory)) (component : Component name)
    (found : (held t directory name).isSome) : name ∈ t.namesAt k := by
  obtain ⟨p, here⟩ := Option.isSome_iff_exists.mp found
  obtain ⟨_, _, _, text, there, _⟩ := (heldExactly around component).mp here
  rw [namesAtMem, fileAtSome.mp there]
  rfl

theorem namesAscending (t : Tree) (k : Location) : (t.namesAt k).Pairwise (· < ·) := sortedDistinctAscending _

theorem namesComponent {t : Tree} (named : t.WellNamed) {k : Location} {name : String}
    (listed : name ∈ t.namesAt k) : Component name := by
  obtain ⟨e, here⟩ := Option.isSome_iff_exists.mp (namesAtMem.mp listed)
  exact named k name e here

end Solutions

structure Generated (place : Location) (t u : Tree) : Prop where
  spares : Tree.Spares (fun k => ¬EndsIn 'n' k ∨ k = place) t u
  named : u.WellNamed

namespace Generated
open Files.Tree Solutions
variable {place : Location} {t u : Tree} {directory : String} {k : Location} (generated : Generated place t u)
include generated

theorem follow (around : t.follow directory = .ok (.present k .directory)) :
    u.follow directory = .ok (.present k .directory) :=
  followAt generated.spares.base generated.spares.directories around
    (generated.spares.directories k (followEntry around))

theorem listed {name : String} (inside : name ∈ t.namesAt k) : name ∈ u.namesAt k := by
  rw [namesAtMem] at inside ⊢
  obtain ⟨e, here⟩ := Option.isSome_iff_exists.mp inside
  cases e with
  | directory => rw [generated.spares.directories _ here]; rfl
  | file c =>
    obtain ⟨d, there⟩ := generated.spares.stay _ c (fileAtSome.mpr here)
    rw [fileAtSome.mp there]
    rfl

theorem held {name : String} (around : t.follow directory = .ok (.present k .directory))
    (component : Component name) (other : k ++ [name] ≠ place) :
    Solutions.held u directory name = Solutions.held t directory name := by
  refine Option.ext fun p => ?_
  rw [heldExactly (generated.follow around) component, heldExactly around component]
  refine and_congr_right fun json => ?_
  obtain ⟨front, shape⟩ := splitNameExtension json
  have ends : EndsIn 'n' (k ++ [name]) := ⟨name, by simp, by simp [shape]⟩
  rw [generated.spares.files (k ++ [name]) (not_or.mpr ⟨not_not.mpr ends, other⟩)]

theorem solutions (named : t.WellNamed) (around : t.follow directory = .ok (.present k .directory))
    (skip : String → Bool) (others : ∀ name, skip name = false → k ++ [name] ≠ place) :
    (u.namesAt k).filterMap (fun n => if skip n then none else Solutions.held u directory n) =
      (t.namesAt k).filterMap fun n => if skip n then none else Solutions.held t directory n := by
  have before : (t.namesAt k).filterMap (fun n => if skip n then none else Solutions.held t directory n) =
      (t.namesAt k).filterMap fun n => if skip n then none else Solutions.held u directory n := by
    refine List.filterMap_congr fun n inside => ?_
    cases skipped : skip n with
    | true => simp only [if_true]
    | false =>
      simp only [Bool.false_eq_true, if_false]
      exact (generated.held around (Solutions.namesComponent named inside) (others n skipped)).symm
  rw [before]
  refine filterMapSame (namesAscending u k) (namesAscending t k) fun n found => ⟨fun inside => ?_, generated.listed⟩
  cases skipped : skip n with
  | true => simp [skipped] at found
  | false =>
    simp only [skipped, Bool.false_eq_true, if_false] at found
    have component := Solutions.namesComponent generated.named inside
    rw [generated.held around component (others n skipped)] at found
    exact heldListed around component found

end Generated

namespace Workspace
open Files.Tree

theorem replaceTextSpares (w : Workspace) (path text : String) :
    Spares (· = Disk.locationOf w.tree.base path) w.tree (w.replaceText path text).1.tree := by
  generalize done : w.replaceText path text = result
  obtain ⟨v, outcome⟩ := result
  cases outcome with
  | ok outcome => exact (replaceDone done).1
  | error e =>
    have effect := w.writeEffect ⟨path, text, ⟨true, false⟩⟩
    have frame := w.writeSpares ⟨path, text, ⟨true, false⟩⟩
    unfold replaceText at done
    rw [done] at effect frame
    cases effect with
    | failed files => exact frame.narrow fun k _ => files k

theorem replaceTextNamed {w : Workspace} (named : w.tree.WellNamed) (path text : String) :
    (w.replaceText path text).1.tree.WellNamed := by
  unfold replaceText
  exact writeNamed named _

end Workspace

namespace Generation
open Files.Tree
variable (g : Generation)

theorem writeAllGenerated {w : Workspace} (named : w.tree.WellNamed) (s : Solutions) :
    Generated (g.mergedPlace w.tree.base) w.tree (g.writeAll w s).1.tree := by
  have marks : Unmarked 'n' := ⟨by decide, by decide, by decide⟩
  have source {f : GeneratedFile} (last : f.path.toList.getLast? = some 'x' ∨ f.path.toList.getLast? = some 's')
      (v : Workspace) (here : Generated (g.mergedPlace w.tree.base) w.tree v.tree) :
      Generated (g.mergedPlace w.tree.base) w.tree (v.write f).1.tree := by
    have other : Spares (fun k => ¬EndsIn 'n' k) v.tree (v.write f).1.tree := by
      cases last with
      | inl page => exact v.writeOther ⟨by decide, by decide⟩ (by decide) marks page
      | inr hook => exact v.writeOther ⟨by decide, by decide⟩ (by decide) marks hook
    exact ⟨here.spares.trans (other.weaken fun _ => .inl), Workspace.writeNamed here.named f⟩
  refine g.writeAllKeeps (I := Generated (g.mergedPlace w.tree.base) w.tree) ?_ ?_ ?_ ⟨.refl _ _, named⟩
  · intro e _ f inside
    obtain ⟨i, planned, path, _⟩ := Solution.emittedItem inside
    refine source ?_
    rw [path]
    exact Solution.planEnds planned
  · intro content
    refine source (.inr ?_)
    rw [indexPath, appendEnds _ (by decide)]
    decide
  · intro content v here
    have place := v.replaceTextSpares (Solutions.mergedPath g.configs) content
    rw [here.spares.base] at place
    exact ⟨here.spares.trans (place.weaken fun _ => .inr), Workspace.replaceTextNamed here.named _ _⟩

end Generation

theorem Json.rereadMembersMap (ms : Members) :
    Value.rereadMembers ms = ms.map fun m => (some m.1, m.2.reread) := by
  induction ms with
  | nil => rfl
  | cons m rest ih =>
    obtain ⟨key, v⟩ := m
    rw [Value.rereadMembers, ih, List.map_cons]

theorem Solution.parseWithout {ms : Members} (absent : "modules" ∉ ms.keys) :
    Solution.parse (Value.object ms).pretty = some ⟨.empty⟩ := by
  have written : Written.read (Value.object ms).pretty.toList =
      some (.object (ms.map fun m => (some m.1, m.2.reread))) := by
    rw [Value.pretty, String.toList_ofList, Json.readWritten Json.Style.prettyBlank, Value.reread,
      Json.rereadMembersMap]
  have members : (Written.object (ms.map fun m => (some m.1, m.2.reread))).members? =
      some (ms.map fun m => (m.1, m.2.reread)) := by
    rw [Written.members?, List.mapM_map]
    exact Json.mapMSome fun _ _ => rfl
  have none : Json.given (ms.map fun m => (m.1, m.2.reread)) "modules" = [] := by
    simp only [Json.given, List.map_eq_nil_iff, List.filter_eq_nil_iff, decide_eq_true_eq]
    intro m inside same
    obtain ⟨n, listed, rfl⟩ := List.mem_map.mp inside
    exact absent (List.mem_map.mpr ⟨n, listed, same⟩)
  rw [Solution.parse, written, Option.bind_some, Solution.read, Written.fields, members]
  · simp [Json.namedFields, none, Json.defaulted]
  · intro items same
    contradiction

theorem Json.Members.keySet {ms : Members} {key name : String} {v : Value} (inside : name ∈ (ms.set key v).keys) :
    name = key ∨ name ∈ ms.keys := by
  obtain ⟨m, listed, rfl⟩ := List.mem_map.mp inside
  cases Json.Members.memberSet listed with
  | inl same => exact .inl (by rw [same])
  | inr before => exact .inr (List.mem_map_of_mem before)

namespace Solutions

theorem keptKey {t : Tree} {path : String} {s : Solutions} {key : String}
    (inside : key ∈ (keepingCharts t path s.merged).keys) :
    key = "solutions" ∨ key = "templates" ∨ key = chartKey ∨ key ∈ s.keys := by
  unfold keepingCharts at inside
  have own (here : key ∈ s.merged.keys) :
      key = "solutions" ∨ key = "templates" ∨ key = chartKey ∨ key ∈ s.keys := by
    cases s.mergedKeys.mp here with
    | inl first => exact .inl first
    | inr more =>
      cases more with
      | inl second => exact .inr (.inl second)
      | inr named => exact .inr (.inr (.inr (SortedMap.hasKey.mp named)))
  split at inside
  · exact own inside
  · cases Json.Members.keySet inside with
    | inl charts => exact .inr (.inr (.inl charts))
    | inr before => exact own before

theorem keptWithout {t : Tree} {path : String} {s : Solutions} (unnamed : ¬s.has "modules") :
    Solution.parse (Value.object (keepingCharts t path s.merged)).pretty = some ⟨.empty⟩ := by
  refine Solution.parseWithout fun inside => ?_
  rw [SortedMap.hasKey] at unnamed
  have other : "modules" ≠ "solutions" ∧ "modules" ≠ "templates" ∧ "modules" ≠ chartKey := by decide
  cases keptKey inside with
  | inl first => exact other.1 first
  | inr more =>
    cases more with
    | inl second => exact other.2.1 second
    | inr more =>
      cases more with
      | inl charts => exact other.2.2 charts
      | inr named => exact unnamed named

end Solutions

namespace Generation
open Files.Tree
variable (g : Generation)

theorem writeMergedDone {v : Workspace} {s : Solutions} (clean : (g.writeMerged v s).2 = 0) :
    (g.writeMerged v s).1.tree.fileAt (g.mergedPlace (g.writeMerged v s).1.tree.base) =
      some (.text
        (Value.object (Solutions.keepingCharts v.tree (Solutions.mergedPath g.configs) s.merged)).pretty) := by
  unfold writeMerged at clean ⊢
  generalize done : v.writeMerged (Solutions.mergedPath g.configs) s.merged = result at clean
  obtain ⟨u, outcome⟩ := result
  cases outcome with
  | error e => simp at clean
  | ok outcome =>
    obtain ⟨spares, text⟩ := Workspace.replaceDone done
    rw [← spares.base] at text
    exact fileAtSome.mpr (followEntry (locateFollow text))

theorem writeAllErrors {w : Workspace} {s : Solutions} (clean : (g.writeAll w s).2.errors = 0) :
    (g.writeMerged (g.writeIndex (g.writeSolutions w s).1 (g.selects s)).1 s).2 = 0 := by
  simp only [writeAll] at clean
  omega

theorem directoryLoaded {t : Tree} {directory : String} {s : Solutions}
    (loaded : Solutions.ofDirectory t directory = .ok s) :
    ∃ k, t.follow directory = .ok (.present k .directory) ∧
      s = .ofList ((t.namesAt k).filterMap (Solutions.held t directory)) := by
  rw [Solutions.ofDirectoryNames, Tree.names] at loaded
  split at loaded
  · contradiction
  · rename_i listed found
    split at found <;> try contradiction
    rename_i k here
    cases found
    cases loaded
    exact ⟨k, locateFollow here, rfl⟩

theorem directoryLoads {t : Tree} {directory : String} {k : Location}
    (around : t.follow directory = .ok (.present k .directory)) : Solutions.ofDirectory t directory =
      .ok (.ofList ((t.namesAt k).filterMap (Solutions.held t directory))) := by
  rw [Solutions.ofDirectoryNames, Tree.names, locateDirectory around]

theorem runRefused {w : Workspace} {e : InputError} (refused : Solutions.ofDirectory w.tree g.configs = .error e) :
    (g.run w).1 = w := by
  unfold Solutions.ofDirectory at refused
  unfold run Workspace.loadSolutions
  cases read : Solutions.candidates w.tree g.configs with
  | error e => rfl
  | ok cs => simp [read, Except.map] at refused

theorem runLoaded {w : Workspace} {s : Solutions} (loaded : Solutions.ofDirectory w.tree g.configs = .ok s) :
    ∃ v : Workspace, v.tree = w.tree ∧ g.run w = ((g.writeAll v s).1, .ok (g.writeAll v s).2) := by
  unfold Solutions.ofDirectory at loaded
  unfold run Workspace.loadSolutions
  cases read : Solutions.candidates w.tree g.configs with
  | error e => simp [read, Except.map] at loaded
  | ok cs =>
    rw [read] at loaded
    cases loaded
    refine ⟨w.printAll (cs.map Solutions.Candidate.line), rfl, ?_⟩
    simp only

def MergesWithin (base : Location) : Prop :=
  g.mergedPlace base = Disk.locationOf base g.configs ++ ["config.json"]

instance (base : Location) : Decidable (g.MergesWithin base) := by unfold MergesWithin; infer_instance

theorem mergedLoaded {w : Workspace} (named : w.tree.WellNamed) {s : Solutions} (within : g.MergesWithin w.tree.base)
    {k : Location} (around : w.tree.follow g.configs = .ok (.present k .directory))
    (clean : (g.writeAll w s).2.errors = 0) (unnamed : ¬s.has "modules") :
    Solutions.held (g.writeAll w s).1.tree g.configs "config.json" = some ("config", ⟨.empty⟩) := by
  have generated := g.writeAllGenerated named s
  have place : k = Disk.locationOf w.tree.base g.configs := Disk.followLocation around
  have text := g.writeMergedDone (g.writeAllErrors clean)
  rw [← writeAllSteps, generated.spares.base, within, ← place] at text
  exact (Solutions.heldExactly (generated.follow around) (by decide)).mpr
    ⟨by decide, by decide, by decide, _, text, Solutions.keptWithout unnamed⟩

section
variable {w : Workspace} (named : w.tree.WellNamed) {before : Solutions}
  (loaded : Solutions.ofDirectory w.tree g.configs = .ok before)
include named loaded

theorem runGenerated : Generated (g.mergedPlace w.tree.base) w.tree (g.run w).1.tree := by
  obtain ⟨v, tree, ran⟩ := g.runLoaded loaded
  rw [← tree] at named
  have generated := g.writeAllGenerated named before
  rw [ran, ← tree]
  generalize g.writeAll v before = result at generated
  exact generated

theorem othersReloaded : ∃ after, Solutions.ofDirectory (g.run w).1.tree g.configs = .ok after ∧
    ∀ name, name ≠ "config" ∨ ¬g.MergesWithin w.tree.base → after.get? name = before.get? name := by
  obtain ⟨k, around, same⟩ := directoryLoaded loaded
  have generated := g.runGenerated named loaded
  have place : k = Disk.locationOf w.tree.base g.configs := Disk.followLocation around
  obtain ⟨l, shape⟩ := g.mergedPlaceName w.tree.base
  refine ⟨_, directoryLoads (generated.follow around), fun name other => ?_⟩
  have rest := generated.solutions named around (fun n => k ++ [n] = g.mergedPlace w.tree.base)
    fun n apart => by simpa using apart
  -- all that is read from the merged file has its key, so leaving it out changes no other
  have own (t : Tree) : ∀ n p, decide (k ++ [n] = g.mergedPlace w.tree.base) = true →
      Solutions.held t g.configs n = some p → p.1 ≠ name := by
    intro n p here found spelled
    have there := of_decide_eq_true here
    have last : n = "config.json" := (List.append_singleton_inj.mp (there.trans shape)).2
    have key := (Solutions.heldJson found).1
    rw [last] at key there
    cases other with
    | inl differs => exact differs (spelled.symm.trans key)
    | inr outside => exact outside (by rw [MergesWithin, ← there, place])
  rw [same, ← getWithout (own _), rest, getWithout (own _)]

theorem mergedReloaded (within : g.MergesWithin w.tree.base) {stats : GenerationStats}
    (done : (g.run w).2 = .ok stats) (clean : stats.errors = 0) (unnamed : ¬before.has "modules")
    {after : Solutions} (again : Solutions.ofDirectory (g.run w).1.tree g.configs = .ok after) :
    after.has "config" := by
  obtain ⟨k, around, _⟩ := directoryLoaded loaded
  have afterwards := (g.runGenerated named loaded).follow around
  obtain ⟨v, tree, ran⟩ := g.runLoaded loaded
  rw [← tree] at named around within
  have found (clean : (g.writeAll v before).2.errors = 0) := g.mergedLoaded named within around clean unnamed
  rw [ran] at done again afterwards
  generalize g.writeAll v before = result at found done again afterwards
  cases done
  have component : Component "config.json" := by decide
  have listed := Solutions.heldListed afterwards component (by rw [found clean]; rfl)
  rw [directoryLoads afterwards] at again
  cases again
  exact SortedMap.hasOfList.mpr (List.mem_map.mpr ⟨_, List.mem_filterMap.mpr ⟨_, listed, found clean⟩, rfl⟩)

end

/-- A generation leaves the solutions of its directory as they are if its merged file is outside. Inside, only
the solution of the name `config` may change, and a clean run leaves one unless a solution is named `modules`. -/
theorem solutionsReloaded {w : Workspace} (named : w.tree.WellNamed) :
    match Solutions.ofDirectory w.tree g.configs with
    | .error e => Solutions.ofDirectory (g.run w).1.tree g.configs = .error e
    | .ok before => ∃ after stats, (g.run w).2 = .ok stats ∧
        Solutions.ofDirectory (g.run w).1.tree g.configs = .ok after ∧
        (¬g.MergesWithin w.tree.base → after = before) ∧
        (∀ name, name ≠ "config" → after.get? name = before.get? name) ∧
        (g.MergesWithin w.tree.base → stats.errors = 0 → ¬before.has "modules" → after.has "config") := by
  cases loaded : Solutions.ofDirectory w.tree g.configs with
  | error e =>
    simp only
    rw [g.runRefused loaded, loaded]
  | ok before =>
    obtain ⟨after, again, others⟩ := g.othersReloaded named loaded
    obtain ⟨v, _, ran⟩ := g.runLoaded loaded
    have done : (g.run w).2 = .ok (g.writeAll v before).2 := by rw [ran]
    exact ⟨after, _, done, again, fun outside => SortedMap.ext fun name => others name (.inr outside),
      fun name differs => others name (.inl differs),
      fun within clean unnamed => g.mergedReloaded named loaded within done clean unnamed again⟩

def salesIn (directory : Location) : Workspace :=
  { tree := Tree.ofList ["web"] [(["web"], .directory), (["web", "configs"], .directory),
      (directory ++ ["sales.json"], .file (.text "\x7b\x7d"))] }

theorem salesReloaded :
    let g : Generation := ⟨"configs", "out", {}, .empty⟩
    let w := salesIn ["web", "configs"]
    let sales : Solutions := .ofList [("sales", ⟨.empty⟩)]
    w.tree.WellNamed ∧ Solutions.ofDirectory w.tree g.configs = .ok sales ∧
      Solutions.ofDirectory (g.run w).1.tree g.configs = .ok sales := by
  intro g w sales
  have named : w.tree.WellNamed := wellNamedEntries (by decide)
  have loaded : Solutions.ofDirectory w.tree g.configs = .ok sales := by decide +kernel
  have outside : ¬g.MergesWithin w.tree.base := by decide
  have reloaded := g.solutionsReloaded named
  rw [loaded] at reloaded
  obtain ⟨after, stats, _, again, same, _⟩ := reloaded
  rw [same outside] at again
  exact ⟨named, loaded, again⟩

theorem mergedFileLoaded :
    let g : Generation := ⟨".", "out", {}, .empty⟩
    let w := salesIn ["web"]
    w.tree.WellNamed ∧ Solutions.ofDirectory w.tree g.configs = .ok (.ofList [("sales", ⟨.empty⟩)]) ∧
      ∃ after, Solutions.ofDirectory (g.run w).1.tree g.configs = .ok after ∧ after.has "config" ∧
        after.get? "sales" = some ⟨.empty⟩ ∧
        Solutions.ofDirectory (g.run w).1.tree g.configs ≠ Solutions.ofDirectory w.tree g.configs := by
  intro g w
  have named : w.tree.WellNamed := wellNamedEntries (by decide)
  have loaded : Solutions.ofDirectory w.tree g.configs = .ok (.ofList [("sales", ⟨.empty⟩)]) := by decide +kernel
  have within : g.MergesWithin w.tree.base := by decide
  have done : (g.run w).2 = .ok { solutions := 1, routes := 1 } := by decide +kernel
  obtain ⟨after, again, others⟩ := g.othersReloaded named loaded
  have merged := g.mergedReloaded named loaded within done rfl (by decide) again
  have sales := others "sales" (.inl (by decide))
  refine ⟨named, loaded, after, again, merged, sales.trans (by decide), fun same => ?_⟩
  cases again.symm.trans (same.trans loaded)
  exact absurd merged (by decide)

end Generation
end ApiScreens
