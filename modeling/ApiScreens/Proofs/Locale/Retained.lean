import ApiScreens.Proofs.Json.Exact
import ApiScreens.Proofs.Locale.Sync
import ApiScreens.Proofs.Output.Frame

/-! What catalog files lose. A file that holds a JSON object keeps all of it that is not empty. Any other file
counts as an empty catalog, and where texts are asked for it is replaced by one that has nothing else. -/
namespace ApiScreens
open Files
open Json (Value Members)

namespace Files.Tree
variable {t u : Tree} {p : String} {c : Contents}

theorem readExactly : t.read p = .ok c ↔ ∃ k, t.locate p = .ok (.present k (.file c)) := by
  unfold read
  cases t.locate p with
  | error e => simp
  | ok place =>
    cases place with
    | free l => simp
    | present l e => cases e <;> simp

theorem Spares.read {apart : Location → Prop} (spares : Spares apart t u) (other : ¬apart (Disk.locationOf t.base p))
    (held : t.read p = .ok c) : u.read p = .ok c := by
  obtain ⟨k, found⟩ := readExactly.mp held
  have here : k = Disk.locationOf t.base p := Disk.followLocation (locateFollow found)
  exact readExactly.mpr ⟨k, spares.locateText (here ▸ other) found⟩

end Files.Tree

theorem Workspace.replaceFailed {w v : Workspace} {path text : String} {e : WriteError}
    (done : w.replaceText path text = (v, .error e)) : Tree.Spares (fun _ => False) w.tree v.tree := by
  have effect := w.writeEffect ⟨path, text, ⟨true, false⟩⟩
  have frame := w.writeSpares ⟨path, text, ⟨true, false⟩⟩
  unfold replaceText at done
  rw [done] at effect frame
  cases effect with
  | failed files => exact frame.narrow fun k _ => files k

namespace Locale
open Files.Tree (Spares)

def Catalog.ofContents : Contents → Catalog
  | .text s => ⟨objectOf s⟩
  | .raw _ => {}

theorem loadContents {t : Tree} {path : String} {c : Contents} (held : t.read path = .ok c) :
    Catalog.load t path = .ofContents c := by
  unfold Catalog.load Tree.readObject Tree.readText
  rw [held]
  cases c <;> rfl

theorem catalogPathInjective {directory : String} {l m : Language}
    (same : catalogPath directory l = catalogPath directory m) : l = m := by
  have places := congrArg (Disk.locationOf []) same
  rw [catalogLocation, catalogLocation] at places
  by_contra differs
  exact codesApart differs (by simpa using places)

inductive Settled (path : String) (texts : SortedMap String) (c : Contents) (u : Tree) (s : SyncReport) : Prop where
  | unwritten (unlisted : path ∉ s.written) (same : u.read path = .ok c)
      (why : ((Catalog.ofContents c).merge texts).2 = 0 ∨ s.errors ≠ 0)
  | written (listed : path ∈ s.written) (added : ((Catalog.ofContents c).merge texts).2 ≠ 0)
      (text : u.read path = .ok (.text ((Catalog.ofContents c).merge texts).1.text))

section
variable {directory : String} {ps : Phrases} {l m : Language} {w : Workspace} {r : SyncReport} {c : Contents}

theorem languageSpares (directory : String) (ps : Phrases) (l : Language) (w : Workspace) (r : SyncReport) :
    Spares (· = Disk.locationOf w.tree.base (catalogPath directory l)) w.tree
      (mergeLanguage directory ps l w r).1.tree := by
  unfold mergeLanguage
  dsimp only
  split
  · exact .refl _ _
  · split
    · rename_i v outcome done
      exact (Workspace.replaceDone done).1
    · rename_i v e done
      exact (Workspace.replaceFailed done).weaken fun _ never => never.elim

theorem languageWritten (directory : String) (ps : Phrases) (l : Language) (w : Workspace) (r : SyncReport) :
    (mergeLanguage directory ps l w r).2.written = r.written ∨
      (mergeLanguage directory ps l w r).2.written = r.written ++ [catalogPath directory l] := by
  have brought := languageBrings directory ps l w r
  generalize (mergeLanguage directory ps l w r).1.tree = u at brought
  generalize (mergeLanguage directory ps l w r).2 = s at brought
  cases brought with
  | nothing none => exact .inl rfl
  | written some spares text => exact .inr rfl
  | failed some => exact .inl rfl

theorem languageSettles (held : w.tree.read (catalogPath directory l) = .ok c)
    (fresh : catalogPath directory l ∉ r.written) :
    Settled (catalogPath directory l) (textsIn l ps) c (mergeLanguage directory ps l w r).1.tree
      (mergeLanguage directory ps l w r).2 := by
  have loaded : Catalog.load w.tree (Catalog.path directory l.code) = .ofContents c := loadContents held
  unfold mergeLanguage
  dsimp only
  rw [loaded]
  split
  · rename_i none
    exact .unwritten fresh held (.inl none)
  · rename_i some
    split
    · rename_i v outcome done
      have there := (Workspace.replaceDone done).2
      exact .written (by simp [catalogPath]) some (Tree.readExactly.mpr ⟨_, there⟩)
    · rename_i v e done
      exact .unwritten fresh ((Workspace.replaceFailed done).read id held) (.inr (by simp))

theorem settledLater {texts : SortedMap String} (other : l ≠ m)
    (settled : Settled (catalogPath directory l) texts c w.tree r) :
    Settled (catalogPath directory l) texts c (mergeLanguage directory ps m w r).1.tree
      (mergeLanguage directory ps m w r).2 := by
  have apart : ¬Disk.locationOf w.tree.base (catalogPath directory l) =
      Disk.locationOf w.tree.base (catalogPath directory m) := by
    rw [catalogLocation, catalogLocation]
    simpa using codesApart other
  have paths : catalogPath directory l ≠ catalogPath directory m := fun same => other (catalogPathInjective same)
  have spares := languageSpares directory ps m w r
  have errors := (broughtBefore (languageBrings directory ps m w r)).1
  have listed : catalogPath directory l ∈ (mergeLanguage directory ps m w r).2.written ↔
      catalogPath directory l ∈ r.written := by
    rcases languageWritten directory ps m w r with same | more
    · rw [same]
    · simp [more, paths]
  cases settled with
  | unwritten unlisted same why =>
    exact .unwritten (mt listed.mp unlisted) (spares.read apart same) (why.imp_right fun some => by omega)
  | written before added text => exact .written (listed.mpr before) added (spares.read apart text)

end

section
variable {directory : String} {ps : Phrases} {l : Language} {w : Workspace} {c : Contents}

theorem allSettle {considered missing : Nat} (held : w.tree.read (catalogPath directory l) = .ok c) :
    Settled (catalogPath directory l) (textsIn l ps) c
      (mergeAll directory ps w { considered, missing }).1.tree
      (mergeAll directory ps w { considered, missing }).2 := by
  have all : mergeAll directory ps w { considered, missing } =
      mergeLanguage directory ps .english (mergeLanguage directory ps .korean w { considered, missing }).1
        (mergeLanguage directory ps .korean w { considered, missing }).2 := rfl
  rw [all]
  cases l with
  | korean => exact settledLater (by decide) (languageSettles held List.not_mem_nil)
  | english =>
    have first := languageSpares directory ps .korean w { considered, missing }
    have between := first.read (p := catalogPath directory .english) (by simp [catalogLocation, Language.code]) held
    refine languageSettles between ?_
    rcases languageWritten directory ps .korean w { considered, missing } with none | one
    · simp [none]
    · rw [one, List.nil_append, List.mem_singleton]
      exact fun same => absurd (catalogPathInjective same) (by decide)

theorem allSpare (directory : String) (ps : Phrases) (w : Workspace) (considered missing : Nat) :
    Spares (fun k => ∃ l, k = Disk.locationOf w.tree.base (catalogPath directory l)) w.tree
      (mergeAll directory ps w { considered, missing }).1.tree := by
  have first := languageSpares directory ps .korean w { considered, missing }
  have second := languageSpares directory ps .english (mergeLanguage directory ps .korean w { considered, missing }).1
    (mergeLanguage directory ps .korean w { considered, missing }).2
  rw [first.base] at second
  exact (first.weaken fun _ here => ⟨.korean, here⟩).trans (second.weaken fun _ here => ⟨.english, here⟩)

theorem runSpares (r : Request) (w : Workspace) (directory : String) :
    Spares (fun k => ∃ l, k = Disk.locationOf w.tree.base (catalogPath directory l)) w.tree
      (r.run w directory).1.tree := by
  cases r with
  | sources root =>
    simp only [Request.run, syncSources]
    split
    · exact .refl _ _
    · exact allSpare directory (guesses w.tree root directory) (w.printAll _) _ _
  | solutions s =>
    simp only [Request.run, syncSolutions]
    exact allSpare directory (solutionTexts s) (w.print _) _ _

theorem nothingAdded (none : ps.keys = []) (c : Catalog) : (c.merge (textsIn l ps)).2 = 0 := by
  have empty : (textsIn l ps).entries = [] := by
    rw [← List.map_eq_nil_iff (f := Prod.fst), textsKeys, none]
  rw [Catalog.merge, empty]
  rfl

theorem runSettles (r : Request) (held : w.tree.read (catalogPath directory l) = .ok c) :
    Settled (catalogPath directory l) (textsIn l (r.asked w.tree directory)) c (r.run w directory).1.tree
      (r.run w directory).2 := by
  cases r with
  | sources root =>
    simp only [Request.run, Request.asked, syncSources]
    split
    · rename_i none
      have keys : (guesses w.tree root directory).keys = [] := by
        rw [SortedMap.keys, List.length_eq_zero_iff.mp none, List.map_nil]
      exact .unwritten List.not_mem_nil held (.inl (nothingAdded keys _))
    · exact allSettle (w := w.printAll _) held
  | solutions s =>
    simp only [Request.run, Request.asked, syncSolutions]
    exact allSettle (w := w.print _) held

end

def Spells (c : Contents) (ms : Members) : Prop := ∃ text, c = .text text ∧ Value.parse text = some (.object ms)

structure Retains (text : String) (ms : Members) : Prop where
  holds : ∃ tree, (Value.parse text = some tree ∨ text = tree.tabbed) ∧
    ∀ names v, (Value.object ms).at? names = some v → Catalog.Held v → tree.at? names = some v
  reads : ∀ tree, Value.parse text = some tree → ∀ names v, (Value.object ms).at? names = some v →
    Catalog.Held v → v.Spelled → tree.at? names = some v

/-- What a run makes of the catalog file of a language. Only a file that spells no object may lose what it holds. -/
inductive Fate (path : String) (l : Language) (ps : Phrases) (c : Contents) (u : Tree) (s : SyncReport) : Prop where
  | retained {text : String} {ms : Members} (object : Spells c ms) (after : u.read path = .ok (.text text))
      (retains : Retains text ms)
  | ignored (other : ∀ ms, ¬Spells c ms) (unlisted : path ∉ s.written) (same : u.read path = .ok c)
      (why : ps.keys = [] ∨ s.errors ≠ 0)
  | overwritten (other : ∀ ms, ¬Spells c ms) (listed : path ∈ s.written) (asked : ps.keys ≠ [])
      (text : u.read path = .ok (.text (Catalog.merge {} (textsIn l ps)).1.text))

section
variable {path text : String} {l : Language} {ps : Phrases} {ms : Members} {c : Contents} {u : Tree} {s : SyncReport}

theorem retainsItself (object : Value.parse text = some (.object ms)) : Retains text ms where
  holds := ⟨_, .inl object, fun _ _ here _ => here⟩
  reads tree read names v here _ _ := by
    rw [object] at read
    exact Option.some.inj read ▸ here

theorem retainsMerged (object : Value.parse text = some (.object ms)) (texts : SortedMap String) :
    Retains ((Catalog.mk ms).merge texts).1.text ms where
  holds := ⟨_, .inr rfl, fun _ _ here held => Catalog.mergeHeld here held⟩
  reads tree read names v here held spelled := by
    obtain ⟨levels, fits⟩ := Value.atFits (Value.parseFits object) here
    have distinct : (Catalog.mk ms).Distinct := Value.parseDistinct object
    rw [Catalog.text, Value.parse, Value.tabbed, String.toList_ofList, Json.readWritten Value.tabbedBlank,
      Option.bind_some] at read
    exact Value.rereadAt (Catalog.mergeDistinct _ distinct) read (Catalog.mergeHeld here held) spelled fits

theorem spelledContents (object : Spells c ms) : Catalog.ofContents c = ⟨ms⟩ := by
  obtain ⟨text, rfl, read⟩ := object
  simp [Catalog.ofContents, objectOf, read, Value.members?]

theorem otherContents (other : ∀ ms, ¬Spells c ms) : Catalog.ofContents c = {} := by
  cases c with
  | raw bytes => rfl
  | text text =>
    have members : (Value.parse text).bind Value.members? = none := by
      refine Option.eq_none_iff_forall_ne_some.mpr fun ms found => ?_
      obtain ⟨v, read, object⟩ := Option.bind_eq_some_iff.mp found
      cases v with
      | object inner => exact other inner ⟨text, rfl, read⟩
      | _ => contradiction
    simp [Catalog.ofContents, objectOf, members]

theorem settledFate (settled : Settled path (textsIn l ps) c u s) : Fate path l ps c u s := by
  by_cases spelled : ∃ ms, Spells c ms
  · obtain ⟨ms, object⟩ := spelled
    have ⟨text, whole, read⟩ := object
    cases settled with
    | unwritten unlisted same why => exact .retained object (whole ▸ same) (retainsItself read)
    | written listed added after =>
      rw [spelledContents object] at after
      exact .retained object after (retainsMerged read _)
  · have other : ∀ ms, ¬Spells c ms := not_exists.mp spelled
    have loaded := otherContents other
    cases settled with
    | unwritten unlisted same why =>
      refine .ignored other unlisted same (why.imp_left fun none => ?_)
      -- every text fits into an empty catalog
      rw [loaded, Catalog.merge, Catalog.mergeIdle] at none
      rw [← textsKeys l, List.map_eq_nil_iff]
      exact List.eq_nil_iff_forall_not_mem.mpr fun e listed => none e listed (Catalog.emptyAdmits e.1)
    | written listed added after =>
      rw [loaded] at added after
      exact .overwritten other listed (fun none => added (nothingAdded none _)) after

end

theorem catalogsRetained (r : Request) (w : Workspace) (directory : String) :
    (∀ k, (∀ l, k ≠ Disk.locationOf w.tree.base (catalogPath directory l)) →
      (r.run w directory).1.tree.fileAt k = w.tree.fileAt k) ∧
    ∀ l c, w.tree.read (catalogPath directory l) = .ok c →
      Fate (catalogPath directory l) l (r.asked w.tree directory) c (r.run w directory).1.tree
        (r.run w directory).2 :=
  ⟨fun k others => (runSpares r w directory).files k fun ⟨l, here⟩ => others l here,
    fun _ _ held => settledFate (runSettles r held)⟩

def damaged : Workspace :=
  { tree := Tree.ofList []
      [(["src"], .directory), (["src", "a.ts"], .file (.text "t(\"save\")")), (["locales"], .directory),
        (["locales", "ko"], .directory), (["locales", "ko", "common.json"], .file (.text "\x7b broken")),
        (["locales", "en"], .directory),
        (["locales", "en", "common.json"], .file (.text "\x7b\"n\": 0.12345678901231074\x7d"))] }

theorem damagedHandled :
    damaged.tree.read (catalogPath "locales" .korean) = .ok (.text "\x7b broken") ∧
      Fate (catalogPath "locales" .korean) .korean (inSources.asked damaged.tree "locales") (.text "\x7b broken")
        (inSources.run damaged "locales").1.tree (inSources.run damaged "locales").2 := by
  have held : damaged.tree.read (catalogPath "locales" .korean) = .ok (.text "\x7b broken") := by decide +kernel
  exact ⟨held, (catalogsRetained inSources damaged "locales").2 .korean _ held⟩

theorem damagedLost :
    let after := (inSources.run damaged "locales").1.tree
    let number (t : Tree) : Option Value :=
      ((t.readText (catalogPath "locales" .english)).toOption.bind Value.parse).bind (·.at? ["n"])
    (inSources.run damaged "locales").2.errors = 0 ∧
      damaged.tree.readText (catalogPath "locales" .korean) = .ok "\x7b broken" ∧
      (∀ e ∈ after.entries, e.2 ≠ .file (.text "\x7b broken")) ∧
      (number damaged.tree).isSome = true ∧ (number after).isSome = true ∧ number after ≠ number damaged.tree := by
  decide +kernel

end Locale
end ApiScreens
