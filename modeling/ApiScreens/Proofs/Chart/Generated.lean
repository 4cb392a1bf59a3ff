import ApiScreens.Chart.Generate
import ApiScreens.Proofs.Json.Outline
import ApiScreens.Proofs.Output.Batch
import ApiScreens.Proofs.Path.Ending
import ApiScreens.Proofs.SortedMap
import ApiScreens.Proofs.Text.Pieces

/-! Generations of chart pages, whatever the file of their table holds. Every entry that can be read is a page that
is written or a failure that is counted, and an entry that cannot be read makes no difference. -/
namespace ApiScreens
open Files ApiScreens.Path
open Json (Value Members)

theorem valueOnce {α : Type} {pairs : List (String × α)} (distinct : (pairs.map (·.1)).Nodup) {key : String}
    {x y : α} (here : (key, x) ∈ pairs) (there : (key, y) ∈ pairs) : x = y :=
  congrArg Prod.snd (List.inj_on_of_nodup_map distinct here there rfl)

namespace ChartPages
variable {domain dataType : String} {p q : ChartPage} {ms domains others : Members}

structure Entry where
  domain : String
  dataType : String
  page : ChartPage
  deriving DecidableEq, Repr

def Entry.placed (e : Entry) : ChartPage := e.page.placed e.domain e.dataType

def readableIn (domain : String) (ms : Members) : List Entry :=
  ms.filterMap fun (dataType, v) => (ChartPage.read v).map fun p => ⟨domain, dataType, p⟩

def readable (domains : Members) : List Entry :=
  domains.flatMap fun (domain, v) => readableIn domain (v.members?.getD [])

theorem readableInMem {e : Entry} :
    e ∈ readableIn domain ms ↔ e.domain = domain ∧ ∃ v, (e.dataType, v) ∈ ms ∧ ChartPage.read v = some e.page := by
  constructor
  · intro inside
    obtain ⟨⟨dataType, v⟩, listed, made⟩ := List.mem_filterMap.mp inside
    obtain ⟨p, read, rfl⟩ := Option.map_eq_some_iff.mp made
    exact ⟨rfl, v, listed, read⟩
  · rintro ⟨rfl, v, listed, read⟩
    exact List.mem_filterMap.mpr ⟨_, listed, by simp only [read, Option.map_some]⟩

theorem readableMem {e : Entry} :
    e ∈ readable domains ↔ ∃ ms v, (e.domain, .object ms) ∈ domains ∧ (e.dataType, v) ∈ ms ∧
      ChartPage.read v = some e.page := by
  constructor
  · intro inside
    obtain ⟨⟨domain, table⟩, listed, there⟩ := List.mem_flatMap.mp inside
    obtain ⟨same, v, entry, read⟩ := readableInMem.mp there
    cases same
    cases table with
    | object ms => exact ⟨ms, v, listed, entry, read⟩
    | _ => exact absurd entry List.not_mem_nil
  · rintro ⟨ms, v, listed, entry, read⟩
    exact List.mem_flatMap.mpr ⟨_, listed, readableInMem.mpr ⟨rfl, v, entry, read⟩⟩

theorem ofDomainReadable (domain : String) (ms : Members) :
    ofDomain domain ms = .ofList ((readableIn domain ms).map fun e => (e.dataType, e.placed)) := by
  simp only [ofDomain, readableIn, List.map_filterMap, Option.map_map]
  rfl

theorem kindsNodup (domain : String) (distinct : ms.keys.Nodup) :
    ((readableIn domain ms).map fun e => (e.dataType, e.placed)).map (·.1) |>.Nodup := by
  rw [List.map_map]
  refine List.pairwise_map.mpr (List.pairwise_filterMap.mpr ((List.pairwise_map.mp distinct).imp ?_))
  intro a b differs x here y there
  obtain ⟨_, _, rfl⟩ := Option.map_eq_some_iff.mp here
  obtain ⟨_, _, rfl⟩ := Option.map_eq_some_iff.mp there
  exact differs

theorem domainPerm (domain : String) (distinct : ms.keys.Nodup) :
    (ofDomain domain ms).values.Perm ((readableIn domain ms).map Entry.placed) := by
  have pairs := (SortedMap.ofListPerm (kindsNodup domain distinct)).map (·.2)
  rwa [← ofDomainReadable, List.map_map] at pairs

theorem domainEntry (distinct : ms.keys.Nodup) :
    (dataType, q) ∈ (ofDomain domain ms).entries ↔
      ∃ e ∈ readableIn domain ms, e.dataType = dataType ∧ e.placed = q := by
  rw [ofDomainReadable, SortedMap.entryOfList (kindsNodup domain distinct), List.mem_map]
  simp only [Prod.mk.injEq]

def pagesOf (m : String × Value) : Option (String × SortedMap ChartPage) :=
  m.2.members?.bind fun ms => if (ofDomain m.1 ms).size = 0 then none else some (m.1, ofDomain m.1 ms)

theorem pagesOfKey {m : String × Value} {x : String × SortedMap ChartPage} (found : pagesOf m = some x) :
    x.1 = m.1 := by
  obtain ⟨ms, _, made⟩ := Option.bind_eq_some_iff.mp found
  simp only [Option.ite_none_left_eq_some] at made
  cases made.2
  rfl

theorem domainsNodup (distinct : domains.keys.Nodup) : ((domains.filterMap pagesOf).map (·.1)).Nodup := by
  refine List.pairwise_map.mpr (List.pairwise_filterMap.mpr ((List.pairwise_map.mp distinct).imp ?_))
  intro a b differs x here y there
  rwa [pagesOfKey here, pagesOfKey there]

theorem ofTablePages (domains : Members) : ofTable domains = .ofList (domains.filterMap pagesOf) := rfl

section
variable (distinct : (Value.object domains).Distinct)
include distinct

theorem membersDistinct (listed : (domain, .object ms) ∈ domains) : ms.keys.Nodup :=
  (Value.distinctMembers ((Value.distinctMembers distinct).2 _ listed)).1

theorem pagesPerm : (ofTable domains).pages.Perm ((readable domains).map Entry.placed) := by
  have table := SortedMap.ofListPerm (domainsNodup (Value.distinctMembers distinct).1)
  have pages := table.flatMap_right fun x => x.2.values
  rw [← ofTablePages, List.filterMap_eq_flatMap_toList, List.flatMap_assoc] at pages
  have loaded : (ofTable domains).pages = (ofTable domains).entries.flatMap fun x => x.2.values := by
    rw [ChartPages.pages, SortedMap.values, List.flatMap_map]
  rw [loaded, readable, List.map_flatMap]
  refine pages.trans (List.Perm.flatMap_left _ fun m listed => ?_)
  obtain ⟨domain, v⟩ := m
  cases v with
  | object ms =>
    have perm := domainPerm domain (membersDistinct distinct listed)
    by_cases empty : (ofDomain domain ms).size = 0
    · -- a domain without pages has no part in either list
      have none : (ofDomain domain ms).values = [] := by
        rw [SortedMap.values, List.eq_nil_of_length_eq_zero empty, List.map_nil]
      rw [none] at perm
      simpa [pagesOf, Value.members?, empty] using perm
    · simpa [pagesOf, Value.members?, empty] using perm
  | _ => exact .nil

theorem tableEntry {pages : SortedMap ChartPage} :
    (domain, pages) ∈ (ofTable domains).entries ↔
      ∃ ms, (domain, .object ms) ∈ domains ∧ pages = ofDomain domain ms ∧ pages.size ≠ 0 := by
  rw [ofTablePages, SortedMap.entryOfList (domainsNodup (Value.distinctMembers distinct).1), List.mem_filterMap]
  constructor
  · rintro ⟨⟨domain, v⟩, listed, found⟩
    obtain ⟨ms, object, made⟩ := Option.bind_eq_some_iff.mp found
    obtain ⟨some_, same⟩ := Option.ite_none_left_eq_some.mp made
    cases same
    cases v with
    | object ms => cases object; exact ⟨ms, listed, rfl, some_⟩
    | _ => contradiction
  · rintro ⟨ms, listed, rfl, some_⟩
    have size : (ofDomain domain ms).size ≠ 0 := some_
    exact ⟨_, listed, by simp [pagesOf, Value.members?, size]⟩

theorem domainReadable (listed : (domain, .object ms) ∈ domains) {e : Entry} (here : e.domain = domain) :
    e ∈ readable domains ↔ e ∈ readableIn domain ms := by
  rw [readableMem, readableInMem]
  constructor
  · rintro ⟨others, v, there, entry, read⟩
    rw [here] at there
    cases valueOnce (Value.distinctMembers distinct).1 listed there
    exact ⟨here, v, entry, read⟩
  · rintro ⟨_, v, entry, read⟩
    exact ⟨ms, v, by rwa [here], entry, read⟩

theorem tableKept (distinctOthers : (Value.object others).Distinct)
    (same : ∀ e, e ∈ readable domains ↔ e ∈ readable others) {x : String × SortedMap ChartPage}
    (inside : x ∈ (ofTable domains).entries) : x ∈ (ofTable others).entries := by
  obtain ⟨domain, pages⟩ := x
  obtain ⟨ms, listed, rfl, some_⟩ := (tableEntry distinct).mp inside
  obtain ⟨⟨dataType, q⟩, first⟩ := List.exists_mem_of_length_pos (Nat.pos_of_ne_zero some_)
  obtain ⟨e, readable_, _⟩ := (domainEntry (membersDistinct distinct listed)).mp first
  have here := (readableInMem.mp readable_).1
  obtain ⟨ns, _, there, _⟩ := readableMem.mp ((same e).mp ((domainReadable distinct listed here).mpr readable_))
  rw [here] at there
  have shared (e : Entry) : e ∈ readableIn domain ns ↔ e ∈ readableIn domain ms := by
    by_cases here : e.domain = domain
    · rw [← domainReadable distinct listed here, ← domainReadable distinctOthers there here, same e]
    · simp [readableInMem, here]
  have pages : ofDomain domain ns = ofDomain domain ms := by
    refine SortedMap.entriesExt fun ⟨dataType, q⟩ => ?_
    rw [domainEntry (membersDistinct distinct listed), domainEntry (membersDistinct distinctOthers there)]
    simp only [shared]
  exact (tableEntry distinctOthers).mpr ⟨ns, there, pages.symm, some_⟩

theorem ofTableExt (distinctOthers : (Value.object others).Distinct)
    (same : ∀ e, e ∈ readable domains ↔ e ∈ readable others) : ofTable domains = ofTable others :=
  SortedMap.entriesExt fun _ => ⟨tableKept distinct distinctOthers same,
    tableKept distinctOthers distinct fun e => (same e).symm⟩

end

variable {project : String} {o : Overrides} {options : WriteOptions} {t u : Tree} {path : String}

def table (t : Tree) (path : String) : Members :=
  match (t.readObject path).get? Solutions.chartKey with
  | some (.object domains) => domains
  | _ => []

theorem loadTable (t : Tree) (path : String) : load t path = ofTable (table t path) := by
  unfold load table
  cases (t.readObject path).get? Solutions.chartKey with
  | none => rfl
  | some v => cases v <;> rfl

theorem tableDistinct (t : Tree) (path : String) : (Value.object (table t path)).Distinct := by
  unfold table
  split
  · rename_i domains found
    exact Value.memberDistinct (Value.readObjectDistinct t path) found
  · exact Value.emptyDistinct

def entries (t : Tree) (path : String) : List Entry := readable (table t path)

theorem entriesPerm (t : Tree) (path : String) :
    (load t path).pages.Perm ((entries t path).map Entry.placed) := by
  rw [loadTable]
  exact pagesPerm (tableDistinct t path)

theorem loadExt (same : ∀ e, e ∈ entries t path ↔ e ∈ entries u path) : load t path = load u path := by
  rw [loadTable, loadTable]
  exact ofTableExt (tableDistinct t path) (tableDistinct u path) same

def fileOf (project : String) (o : Overrides) (options : WriteOptions) (e : Entry) : Option GeneratedFile :=
  (file project o options e.placed).toOption

theorem emitPerm (t : Tree) (path project : String) (o : Overrides) (options : WriteOptions) :
    ((load t path).emit project o options).1.Perm ((entries t path).filterMap (fileOf project o options)) := by
  have pages := (entriesPerm t path).filterMap fun p => (file project o options p).toOption
  rw [List.filterMap_map] at pages
  rw [emit, List.filterMap_map]
  exact pages

theorem emitFailures (t : Tree) (path project : String) (o : Overrides) (options : WriteOptions) :
    ((load t path).emit project o options).2 =
      (entries t path).countP fun e => (fileOf project o options e).isNone := by
  have pages := (entriesPerm t path).countP_eq fun p => (file project o options p).toOption.isNone
  rw [List.countP_map] at pages
  rw [emit, List.countP_map]
  exact pages

theorem filePathEnds (project : String) (p : ChartPage) :
    ".tsx".toList <:+ (filePath project p).toList ∧
      (".tsx.tsx".toList <:+ (filePath project p).toList ↔ ".tsx.tsx".toList <:+ p.path.toList) := by
  have single : '/' ∉ ".tsx".toList := by decide
  have twice : '/' ∉ ".tsx.tsx".toList := by decide
  simp only [filePath, under, List.foldl_cons, List.foldl_nil, appendSuffix _ single, appendSuffix _ twice]
  split_ifs with ends
  · exact ⟨Text.endsExactly.mp ends, Iff.rfl⟩
  · rw [String.toList_append]
    refine ⟨List.suffix_append _ _, ?_⟩
    -- two extensions would need one before the one that is put behind
    have first : ¬".tsx".toList <:+ p.path.toList := fun has => ends (Text.endsExactly.mpr has)
    have halves : ".tsx.tsx".toList = ".tsx".toList ++ ".tsx".toList := by decide
    rw [halves, List.suffix_append_self_iff]
    exact ⟨fun has => absurd has first, fun has => absurd ((List.suffix_append _ _).trans has) first⟩

theorem fileOfPath {e : Entry} {f : GeneratedFile} (found : fileOf project o options e = some f) :
    f.path = filePath project e.page := by
  unfold fileOf file at found
  cases rendered : o.render (.analysis e.placed.analysis) with
  | error _ =>
    rw [rendered] at found
    contradiction
  | ok content =>
    rw [rendered] at found
    cases found
    rfl

end ChartPages

namespace Workspace
open ChartPages
variable {w v : Workspace} {path : String}

theorem generateChartsWrites (w : Workspace) (path project : String) (o : Overrides) (options : WriteOptions) :
    let emitted := (load w.tree path).emit project o options
    (w.generateCharts path project o options).1.tree = (w.writeAll emitted.1).1.tree ∧
      (w.generateCharts path project o options).2 =
        ⟨(w.writeAll emitted.1).2.success, emitted.2 + (w.writeAll emitted.1).2.failed⟩ := by
  unfold generateCharts
  simp only
  split_ifs with empty
  · have none : (load w.tree path).pages = [] := by
      rw [ChartPages.pages, SortedMap.values, List.eq_nil_of_length_eq_zero empty]
      rfl
    rw [emit, none]
    exact ⟨rfl, rfl⟩
  · generalize (load w.tree path).emit project o options = emitted
    exact ⟨rfl, rfl⟩

theorem SameBut.generateCharts {a b : Contents} (same : SameBut a b w v)
    (pages : load v.tree path = load w.tree path) (project : String) (o : Overrides) (options : WriteOptions) :
    Agree a b (w.generateCharts path project o options) (v.generateCharts path project o options) := by
  unfold Workspace.generateCharts
  rw [pages]
  simp only
  split_ifs
  · exact ⟨rfl, same.print _⟩
  · obtain ⟨result, later⟩ := same.writeAll ((load w.tree path).emit project o options).1
    simp only [result]
    exact ⟨rfl, later.print _⟩

/-- What a generation of chart pages makes of the entries that can be read. The table may be replaced by any
other with the same entries that can be read: the same pages are written, in the same places. -/
structure Charts (w : Workspace) (path project : String) (o : Overrides) (options : WriteOptions)
    (v : Workspace) (report : ChartReport) (files : List GeneratedFile) (batch : BatchReport) : Prop where
  emitted : files.Perm ((entries w.tree path).filterMap (fileOf project o options))
  named : ∀ f ∈ files, ∃ e ∈ entries w.tree path, f.path = filePath project e.page ∧
    ".tsx".toList <:+ f.path.toList ∧ (".tsx.tsx".toList <:+ f.path.toList ↔ ".tsx.tsx".toList <:+ e.page.path.toList)
  wrote : v.tree = (w.writeAll files).1.tree ∧ batch = (w.writeAll files).2
  accounts : w.Accounts files batch
  written : report.written = batch.success
  failed : report.failed =
    (entries w.tree path).countP (fun e => (fileOf project o options e).isNone) + batch.failed
  sum : report.written + report.failed = (entries w.tree path).length
  steady : ∀ old text u, w.tree.read path = .ok old → w.tree.write path (.text text) = .ok u →
    (∀ e, e ∈ entries u path ↔ e ∈ entries w.tree path) →
    load u path = load w.tree path ∧
      ((w.withTree u).generateCharts path project o options).2 = report ∧
      SameBut old (.text text) v ((w.withTree u).generateCharts path project o options).1

theorem chartsGenerated (w : Workspace) (path project : String) (o : Overrides) (options : WriteOptions) :
    ∃ files batch, w.Charts path project o options (w.generateCharts path project o options).1
      (w.generateCharts path project o options).2 files batch := by
  obtain ⟨tree, report⟩ := generateChartsWrites w path project o options
  have emitted := emitPerm w.tree path project o options
  have failed := emitFailures w.tree path project o options
  have accounts := writeAllAccounts w ((load w.tree path).emit project o options).1
  rw [failed] at report
  refine ⟨_, _, emitted, fun f inside => ?_, ⟨tree, rfl⟩, accounts, congrArg ChartReport.written report,
    congrArg ChartReport.failed report, ?_, fun old text u read wrote same => ?_⟩
  · obtain ⟨e, listed, made⟩ := List.mem_filterMap.mp (emitted.mem_iff.mp inside)
    have spelled := fileOfPath made
    rw [spelled]
    exact ⟨e, listed, rfl, filePathEnds project e.page⟩
  · have whole := keptAndDropped (fileOf project o options) (entries w.tree path)
    rw [← emitted.length_eq, ← accounts.whole, ← accounts.parts] at whole
    simp only [report]
    omega
  · have pages : load u path = load w.tree path := loadExt same
    have differ : SameBut old (.text text) w (w.withTree u) := ⟨Tree.rewritten read wrote, rfl⟩
    obtain ⟨result, after⟩ := differ.generateCharts pages project o options
    exact ⟨pages, result, after⟩

end Workspace

namespace ChartPages

def doubledText : String :=
  "\x7b\"analysisPages\": \x7b\"sales\": \x7b\"order\": \x7b\"path\": \"sales/Chart.tsx.tsx\", \"component\": \"Chart\"\x7d\x7d\x7d\x7d"

theorem doubledKept :
    ((load (Tree.ofList [] [(["config.json"], .file (.text doubledText))]) "config.json").emit "app"
      SortedMap.empty {}).1.map (·.path) = ["app/src/pages/sales/Chart.tsx.tsx"] := by
  decide +kernel

end ChartPages
end ApiScreens
