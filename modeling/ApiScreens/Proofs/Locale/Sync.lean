import ApiScreens.Proofs.Locale.Merge
import ApiScreens.Proofs.Locale.Sources

/-! Bringing catalogs up to date twice. -/
namespace ApiScreens.Locale
open Files (Tree)
open Files.Tree (Spares)
open Json (Value Members)

inductive Request where
  | sources (root : String)
  | solutions (s : Solutions)

namespace Request

def run (r : Request) (w : Workspace) (directory : String) : Workspace × SyncReport :=
  match r with
  | sources root => syncSources w root directory
  | solutions s => syncSolutions w s directory

def asked (r : Request) (t : Tree) (directory : String) : Phrases :=
  match r with
  | sources root => guesses t root directory
  | solutions s => solutionTexts s

end Request

def SyncReport.Idle (r : SyncReport) : Prop :=
  (∀ l ∈ Language.all, (r.added.get? l.code).getD 0 = 0) ∧ r.written = []

instance (r : SyncReport) : Decidable r.Idle := by unfold SyncReport.Idle; infer_instance

theorem languageListed (l : Language) : l ∈ Language.all := by cases l <;> decide

def catalogPath (directory : String) (l : Language) : String := Catalog.path directory l.code

theorem languageComponent (l : Language) : Path.Component l.code := by cases l <;> decide

theorem catalogLocation (base : Files.Location) (directory : String) (l : Language) :
    Disk.locationOf base (catalogPath directory l) =
      Disk.locationOf base directory ++ [l.code, "common.json"] := by
  have file : Path.Component "common.json" := by decide
  have path : catalogPath directory l = Path.append (Path.append directory l.code) "common.json" := rfl
  rw [path, Disk.locationBehind base _ file, Disk.locationBehind base _ (languageComponent l)]
  simp

def merged (t : Tree) (directory : String) (ps : Phrases) (l : Language) : Catalog × Nat :=
  (Catalog.ofLanguage t directory l).merge (textsIn l ps)

inductive Brought (directory : String) (ps : Phrases) (l : Language) (t : Tree) (r : SyncReport) :
    Tree → SyncReport → Prop where
  | nothing (none : (merged t directory ps l).2 = 0) :
      Brought directory ps l t r t { r with added := r.added.insert l.code 0 }
  | written {u : Tree} (some : (merged t directory ps l).2 ≠ 0)
      (spares : Spares (· = Disk.locationOf t.base (catalogPath directory l)) t u)
      (text : u.readText (catalogPath directory l) = .ok (merged t directory ps l).1.text) :
      Brought directory ps l t r u
        { r with
          added := r.added.insert l.code (merged t directory ps l).2
          written := r.written ++ [catalogPath directory l] }
  | failed {u : Tree} (some : (merged t directory ps l).2 ≠ 0) :
      Brought directory ps l t r u
        { r with added := r.added.insert l.code (merged t directory ps l).2, errors := r.errors + 1 }

inductive Brings (directory : String) (ps : Phrases) (t : Tree) : Tree → SyncReport → Prop where
  | satisfied {considered missing : Nat} (none : ps.entries = []) :
      Brings directory ps t t { considered, missing }
  | merged {considered missing : Nat} {between u : Tree} {r s : SyncReport}
      (korean : Brought directory ps .korean t { considered, missing } between r)
      (english : Brought directory ps .english between r u s) : Brings directory ps t u s

theorem languageBrings (directory : String) (ps : Phrases) (l : Language) (w : Workspace) (r : SyncReport) :
    Brought directory ps l w.tree r (mergeLanguage directory ps l w r).1.tree
      (mergeLanguage directory ps l w r).2 := by
  unfold mergeLanguage
  dsimp only
  split
  · rename_i none
    rw [none]
    exact .nothing none
  · rename_i some
    split
    · rename_i v outcome done
      obtain ⟨spares, there⟩ := Workspace.replaceDone done
      exact .written some spares (Files.Tree.readTextExactly.mpr ⟨_, there⟩)
    · exact .failed some

theorem allBring (directory : String) (ps : Phrases) (w : Workspace) (considered missing : Nat) :
    Brings directory ps w.tree (mergeAll directory ps w { considered, missing }).1.tree
      (mergeAll directory ps w { considered, missing }).2 := by
  have korean := languageBrings directory ps .korean w { considered, missing }
  have all : mergeAll directory ps w { considered, missing } =
      mergeLanguage directory ps .english (mergeLanguage directory ps .korean w { considered, missing }).1
        (mergeLanguage directory ps .korean w { considered, missing }).2 := rfl
  rw [all]
  generalize mergeLanguage directory ps .korean w { considered, missing } = step at korean
  exact .merged korean (languageBrings directory ps .english step.1 step.2)

theorem runBrings (r : Request) (w : Workspace) (directory : String) :
    Brings directory (r.asked w.tree directory) w.tree (r.run w directory).1.tree
      (r.run w directory).2 := by
  cases r with
  | sources root =>
    simp only [Request.run, Request.asked, syncSources]
    split
    · rename_i none
      exact .satisfied (List.length_eq_zero_iff.mp none)
    · exact allBring directory (guesses w.tree root directory) (w.printAll _) _ _
  | solutions s =>
    simp only [Request.run, Request.asked, syncSolutions]
    exact allBring directory (solutionTexts s) (w.print _) _ _

section
variable {directory : String} {ps : Phrases} {l : Language} {t u : Tree} {r s : SyncReport}

theorem codesApart {l m : Language} (differs : l ≠ m) : l.code ≠ m.code := by
  cases l <;> cases m <;> first | exact absurd rfl differs | decide

theorem textsKeys (l : Language) (ps : Phrases) : (textsIn l ps).entries.map (·.1) = ps.keys := by
  simp [textsIn, SortedMap.map, SortedMap.keys]

theorem mergedIdle : (merged t directory ps l).2 = 0 ↔
    ∀ key ∈ ps.keys, ¬Catalog.Admits (Catalog.ofLanguage t directory l).root (steps key) := by
  rw [merged, Catalog.merge, Catalog.mergeIdle, ← textsKeys l]
  simp only [List.mem_map, forall_exists_index, and_imp, forall_apply_eq_imp_iff₂]

theorem broughtAdded (brought : Brought directory ps l t r u s) :
    s.added.get? l.code = some (merged t directory ps l).2 := by
  cases brought with
  | nothing none => simp [none]
  | written some spares text => simp
  | failed some => simp

theorem broughtOther {m : Language} (brought : Brought directory ps l t r u s) (other : m ≠ l) :
    s.added.get? m.code = r.added.get? m.code := by
  cases brought <;> simp [codesApart other]

theorem broughtNothing (brought : Brought directory ps l t r u s) (none : (merged t directory ps l).2 = 0) :
    u = t ∧ s.written = r.written := by
  cases brought with
  | nothing _ => exact ⟨rfl, rfl⟩
  | written some _ _ => exact absurd none some
  | failed some => exact absurd none some

theorem bringsIdle (brings : Brings directory ps t u s) :
    s.Idle ∧ u = t ↔ ∀ l, (merged t directory ps l).2 = 0 := by
  cases brings with
  | satisfied none =>
    have nothing (l : Language) : (merged t directory ps l).2 = 0 :=
      mergedIdle.mpr fun key listed => by simp [SortedMap.keys, none] at listed
    exact ⟨fun _ => nothing, fun _ => ⟨⟨fun _ _ => rfl, rfl⟩, rfl⟩⟩
  | @merged considered missing between _ r _ korean english =>
    have first : s.added.get? Language.korean.code = some (merged t directory ps .korean).2 := by
      rw [broughtOther english (by decide), broughtAdded korean]
    have second := broughtAdded english
    constructor
    · rintro ⟨⟨added, _⟩, _⟩
      have none : (merged t directory ps .korean).2 = 0 := by
        simpa [first] using added .korean (languageListed _)
      obtain ⟨rfl, _⟩ := broughtNothing korean none
      intro l
      cases l with
      | korean => exact none
      | english => simpa [second] using added .english (languageListed _)
    · intro none
      obtain ⟨rfl, unwritten⟩ := broughtNothing korean (none .korean)
      obtain ⟨rfl, still⟩ := broughtNothing english (none .english)
      refine ⟨⟨fun l _ => ?_, by rw [still, unwritten]⟩, rfl⟩
      cases l with
      | korean => simp [first, none]
      | english => simp [second, none]

end

def Readable (t : Tree) (path : String) : Prop :=
  ∃ text, t.readText path = .ok text ∧ (Value.parse text).isSome = true

instance (t : Tree) (path : String) : Decidable (Readable t path) :=
  match read : t.readText path with
  | .ok text => decidable_of_iff ((Value.parse text).isSome = true)
      ⟨fun parsed => ⟨text, read, parsed⟩, fun ⟨_, same, parsed⟩ => by
        cases read.symm.trans same
        exact parsed⟩
  | .error e => isFalse fun ⟨_, same, _⟩ => by
      rw [read] at same
      contradiction

inductive Kept (directory : String) (ps : Phrases) (l : Language) (t u : Tree) (files : List String) : Prop where
  | same (none : (merged t directory ps l).2 = 0)
      (loaded : Catalog.ofLanguage u directory l = Catalog.ofLanguage t directory l)
  | written (listed : catalogPath directory l ∈ files)
      (text : u.readText (catalogPath directory l) = .ok (merged t directory ps l).1.text)

def IsCatalog (k : Files.Location) : Prop := k.getLast? = some "common.json"

section
variable {directory : String} {ps : Phrases} {l : Language} {t u v : Tree} {r s : SyncReport}
  {files : List String}

theorem readableOfLoad {path : String} (some : (Catalog.load t path).root ≠ []) : Readable t path := by
  unfold Catalog.load Tree.readObject at some
  dsimp only at some
  split at some
  · rename_i text read
    refine ⟨text, read, ?_⟩
    cases parsed : Value.parse text with
    | none => simp [Files.objectOf, parsed] at some
    | some v => rfl
  · exact absurd rfl some

theorem loadSpared {apart : Files.Location → Prop} {path : String} (spares : Spares apart t u)
    (other : ¬apart (Disk.locationOf t.base path)) (some : (Catalog.load t path).root ≠ []) :
    Catalog.load u path = Catalog.load t path := by
  obtain ⟨text, read, _⟩ := readableOfLoad some
  obtain ⟨k, found⟩ := Files.Tree.readTextExactly.mp read
  have here : k = Disk.locationOf t.base path := Disk.followLocation (Files.Tree.locateFollow found)
  have later := Files.Tree.readTextExactly.mpr ⟨k, spares.locateText (here ▸ other) found⟩
  simp only [Catalog.load, Tree.readObject, read, later]

theorem broughtKept (brought : Brought directory ps l t r u s) (done : s.errors = 0) :
    Kept directory ps l t u s.written ∧
      Spares (· = Disk.locationOf t.base (catalogPath directory l)) t u := by
  cases brought with
  | nothing none => exact ⟨.same none rfl, .refl _ _⟩
  | written some spares text => exact ⟨.written (by simp) text, spares⟩
  | failed some => simp at done

theorem broughtBefore (brought : Brought directory ps l t r u s) :
    r.errors ≤ s.errors ∧ r.written ⊆ s.written := by
  cases brought <;> simp

theorem mergedHolds (none : (merged t directory ps l).2 = 0) (some : ps.keys ≠ []) :
    (Catalog.ofLanguage t directory l).root ≠ [] := by
  obtain ⟨key, listed⟩ := List.exists_mem_of_ne_nil _ some
  intro empty
  exact mergedIdle.mp none key listed (empty ▸ Catalog.emptyAdmits key)

theorem keptSpared {m : Language} {more : List String} (some : ps.keys ≠ []) (other : l ≠ m)
    (kept : Kept directory ps l t u files)
    (spares : Spares (· = Disk.locationOf u.base (catalogPath directory m)) u v) (later : files ⊆ more) :
    Kept directory ps l t v more := by
  have apart : ¬Disk.locationOf u.base (catalogPath directory l) =
      Disk.locationOf u.base (catalogPath directory m) := by
    rw [catalogLocation, catalogLocation]
    simpa using codesApart other
  cases kept with
  | same none loaded =>
    have holds := mergedHolds none some
    rw [← loaded] at holds
    exact .same none ((loadSpared spares apart holds).trans loaded)
  | written listed text =>
    obtain ⟨k, found⟩ := Files.Tree.readTextExactly.mp text
    have here := Disk.followLocation (Files.Tree.locateFollow found)
    exact .written (later listed)
      (Files.Tree.readTextExactly.mpr ⟨k, spares.locateText (fun same => apart (here.symm.trans same)) found⟩)

theorem bringsKept (brings : Brings directory ps t u s) (done : s.errors = 0) (some : ps.keys ≠ []) :
    Spares IsCatalog t u ∧
      ∀ l, ∃ before, (l = .korean → before = t) ∧ Kept directory ps l before u s.written := by
  cases brings with
  | satisfied none => exact absurd (by simp [SortedMap.keys, none]) some
  | @merged _ _ between _ r _ korean english =>
    obtain ⟨fewer, later⟩ := broughtBefore english
    obtain ⟨keptKorean, first⟩ := broughtKept korean (by omega)
    obtain ⟨keptEnglish, second⟩ := broughtKept english done
    have catalogs {base : Files.Location} {l : Language} :
        ∀ k, k = Disk.locationOf base (catalogPath directory l) → IsCatalog k := by
      rintro k rfl
      simp [IsCatalog, catalogLocation]
    refine ⟨(first.weaken catalogs).trans (second.weaken catalogs), fun l => ?_⟩
    cases l with
    | korean => exact ⟨t, fun _ => rfl, keptSpared some (by decide) keptKorean second later⟩
    | english => exact ⟨between, fun same => absurd same (by decide), keptEnglish⟩

theorem keptReadable (kept : Kept directory ps l t u files) (some : ps.keys ≠ [])
    (written : ∀ path ∈ files, Readable u path) : Readable u (catalogPath directory l) := by
  cases kept with
  | same none loaded =>
    have holds := mergedHolds none some
    rw [← loaded] at holds
    exact readableOfLoad holds
  | written listed text => exact written _ listed

theorem keptAlike (kept : Kept directory ps l t u files) (readable : Readable u (catalogPath directory l)) :
    Catalog.Alike (Catalog.ofLanguage u directory l) (merged t directory ps l).1 := by
  cases kept with
  | same none loaded =>
    have whole : merged t directory ps l = (Catalog.ofLanguage t directory l, 0) :=
      Catalog.mergeNothing (Catalog.mergeIdle.mp none)
    rw [loaded, whole]
    rfl
  | written listed text =>
    obtain ⟨same, read, parsed⟩ := readable
    cases read.symm.trans text
    have loaded : Catalog.ofLanguage u directory l = ⟨Files.objectOf (merged t directory ps l).1.text⟩ := by
      simp only [Catalog.ofLanguage, Catalog.load, Tree.readObject]
      rw [show u.readText (Catalog.path directory l.code) = _ from text]
    rw [loaded]
    exact Catalog.textAlike (Catalog.mergeDistinct _ (Catalog.loadDistinct _ _)) parsed

end

section
variable {directory key : String} {t u : Tree}

theorem guessListed {root : String} : key ∈ (guesses t root directory).keys ↔
    key ∈ usedKeys t root ∧ (Catalog.ofLanguage t directory .korean).isMissing key = true := by
  rw [guesses, ← SortedMap.hasKey, SortedMap.hasOfList, List.map_map, missingFrom]
  simp

theorem keptText {c : Catalog} (es : List (String × String)) (present : c.isMissing key = false) :
    (c.mergeEntries es).1.isMissing key = false := by
  unfold Catalog.isMissing at *
  cases found : c.get? key with
  | none => simp [found] at present
  | some text =>
    have inside : text ≠ "" := by simpa [found] using present
    have kept : (c.mergeEntries es).1.get? key = some text :=
      Catalog.getText.mpr (Catalog.mergeHeld (Catalog.getText.mp found) (.string inside))
    simpa [kept] using inside

-- What is missing afterwards was missing before, so a run asks for nothing that the one before it did not ask for.
theorem askedAgain (r : Request) (spares : Spares IsCatalog t u) (some : (r.asked t directory).keys ≠ [])
    (alike : Catalog.Alike (Catalog.ofLanguage u directory .korean)
      (merged t directory (r.asked t directory) .korean).1)
    (again : key ∈ (r.asked u directory).keys) : key ∈ (r.asked t directory).keys := by
  cases r with
  | solutions s => exact again
  | sources root =>
    obtain ⟨first, listed⟩ := List.exists_mem_of_ne_nil _ some
    have same : usedKeys u root = usedKeys t root := by
      have used := (guessListed.mp listed).1
      unfold usedKeys at used
      split at used
      · exact usedSame (fun _ catalog => catalog) spares (by assumption)
      · exact absurd used List.not_mem_nil
    obtain ⟨used, missing⟩ := guessListed.mp again
    refine guessListed.mpr ⟨same ▸ used, ?_⟩
    by_contra present
    have kept : (merged t directory (Request.asked (.sources root) t directory) .korean).1.isMissing key =
        false := keptText _ (Bool.of_not_eq_true present)
    unfold Catalog.isMissing at missing kept
    rw [Catalog.alikeText alike key] at missing
    exact absurd missing (by simpa using kept)

theorem againAsked (r : Request) {report : SyncReport} (first : Brings directory (r.asked t directory) t u report)
    (again : key ∈ (r.asked u directory).keys) : (r.asked t directory).keys ≠ [] := by
  intro none
  have nothing (l : Language) : (merged t directory (r.asked t directory) l).2 = 0 :=
    mergedIdle.mpr fun key listed => absurd (none ▸ listed) List.not_mem_nil
  obtain ⟨_, same⟩ := (bringsIdle first).mpr nothing
  rw [same, none] at again
  exact absurd again List.not_mem_nil

theorem againAdmits (r : Request) {report : SyncReport} (first : Brings directory (r.asked t directory) t u report)
    (done : report.errors = 0) (again : key ∈ (r.asked u directory).keys)
    (readable : ∀ l, Readable u (catalogPath directory l)) {l : Language}
    (admits : Catalog.Admits (Catalog.ofLanguage u directory l).root (steps key)) :
    (Catalog.ofLanguage u directory l).get? key = some "" ∧
      ∃ phrase, (key, phrase) ∈ (r.asked t directory).entries ∧ phrase.text l = "" := by
  have some := againAsked r first again
  obtain ⟨spares, each⟩ := bringsKept first done some
  have alike (l : Language) : ∃ before, (l = .korean → before = t) ∧ Catalog.Alike
      (Catalog.ofLanguage u directory l) (merged before directory (r.asked t directory) l).1 := by
    obtain ⟨before, start, kept⟩ := each l
    exact ⟨before, start, keptAlike kept (readable l)⟩
  have listed : key ∈ (r.asked t directory).keys := by
    obtain ⟨before, start, korean⟩ := alike .korean
    rw [start rfl] at korean
    exact askedAgain r spares some korean again
  obtain ⟨before, _, same⟩ := alike l
  obtain ⟨e, entry, rfl⟩ := List.mem_map.mp listed
  have text : (e.1, e.2.text l) ∈ (textsIn l (r.asked t directory)).entries :=
    List.mem_map.mpr ⟨e, entry, rfl⟩
  have distinct := (textsIn l (r.asked t directory)).keysNodup
  have fits := (Catalog.alikeAdmits same _).mp admits
  refine ⟨?_, e.2, entry, Catalog.mergedEmpty distinct text fits⟩
  rw [Catalog.alikeText same]
  exact (Catalog.mergedAdmits distinct text).mp fits

end

/-- A run after one that met no error. It adds and writes nothing exactly if every catalog that it asks for a key
can be read and holds no empty text under that key. So it does if the first run was asked for no empty text
and wrote nothing that cannot be read. -/
theorem idleAgain (r : Request) (w : Workspace) (directory : String) (done : (r.run w directory).2.errors = 0) :
    let first := r.run w directory
    let second := r.run first.1 directory
    (second.2.Idle ∧ second.1.tree = first.1.tree ↔
      ∀ key ∈ (r.asked first.1.tree directory).keys, ∀ l : Language,
        Readable first.1.tree (catalogPath directory l) ∧
          (Catalog.ofLanguage first.1.tree directory l).get? key ≠ some "") ∧
    ((∀ e ∈ (r.asked w.tree directory).entries, ∀ l : Language, e.2.text l ≠ "") →
      (∀ path ∈ first.2.written, Readable first.1.tree path) →
      second.2.Idle ∧ second.1.tree = first.1.tree) := by
  have first := runBrings r w directory
  generalize r.run w directory = run at first done
  obtain ⟨v, report⟩ := run
  dsimp only at first done ⊢
  rw [bringsIdle (runBrings r v directory)]
  simp only [mergedIdle]
  refine ⟨⟨fun blocked key again l => ?_, fun kept l key again admits => ?_⟩,
    fun texts written l key again admits => ?_⟩
  · refine ⟨readableOfLoad fun empty => blocked l key again ?_, fun text => blocked l key again ?_⟩
    · exact (congrArg (Catalog.Admits · (steps key)) empty).mpr (Catalog.emptyAdmits key)
    · exact Catalog.admitsEmptyText text
  · have readable (l : Language) := (kept key again l).1
    exact (kept key again l).2 (againAdmits r first done again readable admits).1
  · have some := againAsked r first again
    have readable (l : Language) : Readable v.tree (catalogPath directory l) := by
      obtain ⟨before, _, kept⟩ := (bringsKept first done some).2 l
      exact keptReadable kept some written
    obtain ⟨_, phrase, entry, empty⟩ := againAdmits r first done again readable admits
    exact texts _ entry l empty

def inSources : Request := .sources "src"

def oneSource (text : String) : Workspace :=
  { tree := Tree.ofList [] [(["src"], .directory), (["src", "a.ts"], .file (.text text))] }

def saving : Workspace := oneSource "t(\"save\")"

theorem saveAddedOnce :
    (inSources.run saving "locales").2.errors = 0 ∧
      (∀ e ∈ (inSources.asked saving.tree "locales").entries, ∀ l : Language, e.2.text l ≠ "") ∧
      (∀ path ∈ (inSources.run saving "locales").2.written,
        Readable (inSources.run saving "locales").1.tree path) ∧
      (inSources.run (inSources.run saving "locales").1 "locales").2.Idle := by
  have done : (inSources.run saving "locales").2.errors = 0 := by decide +kernel
  have asked : (inSources.asked saving.tree "locales").entries = [("save", ⟨"저장", "Save"⟩)] := by decide +kernel
  have texts : ∀ e ∈ (inSources.asked saving.tree "locales").entries, ∀ l : Language, e.2.text l ≠ "" := by
    intro e listed l
    rw [asked] at listed
    cases List.mem_singleton.mp listed
    cases l <;> decide
  have readable : ∀ path ∈ (inSources.run saving "locales").2.written,
      Readable (inSources.run saving "locales").1.tree path := by decide +kernel
  exact ⟨done, texts, readable, ((idleAgain inSources saving "locales" done).2 texts readable).1⟩

-- The last part of this key is empty, and so is the text that is made of it.
def labelling : Workspace := oneSource "t(\"label.\")"

theorem emptyTextsAddedAgain :
    (inSources.run labelling "locales").2.errors = 0 ∧
      ¬(inSources.run (inSources.run labelling "locales").1 "locales").2.Idle := by
  decide +kernel

end ApiScreens.Locale
