import ApiScreens.Proofs.Locale.Retained

/-! Which keys have a text after a run. Keys are missing where the Korean catalog lacks them, and those have a text
in every catalog afterwards, unless something is in its way. -/
namespace ApiScreens.Locale
open Files (Tree Contents)
open Json (Value Members)

namespace Catalog

/-- Something at the path is never replaced by a text and is none: a value that is no object in front of its end,
or at its end an object, a number, a truth value or an array. -/
inductive Occupied (ms : Members) (path : List String) : Prop where
  | before {q : List String} {v : Value} (leads : q <+: path) (proper : q ≠ path)
      (found : (Value.object ms).at? q = some v) (leaf : v.isObject = false)
  | here {v : Value} (found : (Value.object ms).at? path = some v) (other : v.string? = none) (held : v ≠ .null)

theorem occupiedBlocks {ms : Members} {path : List String} (occupied : Occupied ms path) : ¬Admits ms path := by
  intro admits
  cases occupied with
  | before leads proper found leaf =>
    rcases admits.way _ leads proper with absent | ⟨inner, object⟩
    · rw [found] at absent
      contradiction
    · rw [found] at object
      cases object
      contradiction
  | here found other held =>
    rcases admits.leaf with absent | null | empty
    · rw [found] at absent
      contradiction
    · rw [found] at null
      exact held (Option.some.inj null)
    · rw [found] at empty
      cases empty
      contradiction

theorem blockedText {c : Catalog} {key : String} (blocked : ¬Admits c.root (steps key)) :
    c.isMissing key = false ∨ Occupied c.root (steps key) := by
  by_contra neither
  obtain ⟨missing, free⟩ := not_or.mp neither
  refine blocked ⟨fun q leads proper => ?_, ?_⟩
  · cases found : (Value.object c.root).at? q with
    | none => exact .inl rfl
    | some v =>
      rcases v.objectOrLeaf with ⟨inner, rfl⟩ | leaf
      · exact .inr ⟨inner, rfl⟩
      · exact absurd (.before leads proper found leaf) free
  · cases found : (Value.object c.root).at? (steps key) with
    | none => exact .inl rfl
    | some v =>
      cases text : v.string? with
      | none =>
        by_cases null : v = .null
        · exact .inr (.inl (by rw [null]))
        · exact absurd (.here found text null) free
      | some s =>
        cases v with
        | string _ =>
          cases text
          have empty : s = "" := by
            simpa [isMissing, getText.mpr found] using missing
          exact .inr (.inr (by rw [empty]))
        | _ => contradiction

theorem alikeMissing {c d : Catalog} (alike : Alike c d) (key : String) : c.isMissing key = d.isMissing key := by
  rw [isMissing, isMissing, alikeText alike]

theorem missingEmpty (key : String) : isMissing {} key = true := by
  have none : Catalog.get? {} key = none := by
    refine Option.eq_none_iff_forall_ne_some.mpr fun s found => ?_
    rw [getText, Value.atEmpty (stepsDeeper key)] at found
    contradiction
  rw [isMissing, none]
  rfl

end Catalog

section
variable {directory path key : String} {ps : Phrases} {texts : SortedMap String} {l : Language} {t u : Tree}
  {s : SyncReport} {files : List String} {c : Contents}

theorem guessOf {root : String} {e : String × Phrase} (listed : e ∈ (guesses t root directory).entries) :
    e.2 = guess e.1 := by
  have found := SortedMap.entryOfGet.mpr listed
  rw [guesses, SortedMap.getOfList] at found
  obtain ⟨pair, there, same⟩ := Option.map_eq_some_iff.mp found
  rw [List.findRev?_eq_find?_reverse] at there
  obtain ⟨used, _, rfl⟩ := List.mem_map.mp (List.mem_reverse.mp (List.mem_of_find?_eq_some there))
  have named : used = e.1 := by simpa using List.find?_some there
  rw [← same, ← named]

theorem keptFits (kept : Kept directory ps l t u files) (readable : Readable u (catalogPath directory l))
    {e : String × Phrase} (listed : e ∈ ps.entries) (text : e.2.text l ≠ "") :
    (Catalog.ofLanguage u directory l).isMissing e.1 = false ∨
      Catalog.Occupied (Catalog.ofLanguage u directory l).root (steps e.1) := by
  have distinct := (textsIn l ps).keysNodup
  have entry : (e.1, e.2.text l) ∈ (textsIn l ps).entries := List.mem_map.mpr ⟨e, listed, rfl⟩
  -- a text that fits afterwards would have fitted into the merged catalog, which has it already
  refine Catalog.blockedText fun admits => text ?_
  exact Catalog.mergedEmpty distinct entry ((Catalog.alikeAdmits (keptAlike kept readable) _).mp admits)

theorem settledPresent (settled : Settled path texts c u s) (written : ∀ p ∈ s.written, Readable u p)
    (distinct : (Catalog.ofContents c).Distinct) (present : (Catalog.ofContents c).isMissing key = false) :
    (Catalog.load u path).isMissing key = false := by
  cases settled with
  | unwritten unlisted same why => rwa [loadContents same]
  | written listed added text =>
    obtain ⟨read, held, parsed⟩ := written path listed
    have there : u.readText path = .ok ((Catalog.ofContents c).merge texts).1.text := by
      rw [Tree.readText, text]
    cases held.symm.trans there
    have alike := Catalog.textAlike (Catalog.mergeDistinct texts.entries distinct) parsed
    rw [loadContents text]
    exact (Catalog.alikeMissing alike key).trans (keptText texts.entries present)

theorem presentContents (present : (Catalog.load t path).isMissing key = false) :
    ∃ c, t.read path = .ok c ∧ Catalog.load t path = .ofContents c := by
  cases held : t.read path with
  | ok c => exact ⟨c, rfl, loadContents held⟩
  | error e =>
    have empty : Catalog.load t path = {} := by simp [Catalog.load, Tree.readObject, Tree.readText, held]
    rw [empty, Catalog.missingEmpty] at present
    contradiction

end

/-- After a run without errors over sources, where every catalog that it wrote can be read. Each used key that a
catalog had a text for has one there still. Each that the Korean catalog lacked has one in every catalog, or
something is in its way there, unless the wording that is made of the key is empty. -/
theorem keysTranslated (w : Workspace) (sources directory : String)
    (done : (syncSources w sources directory).2.errors = 0)
    (written : ∀ path ∈ (syncSources w sources directory).2.written,
      Readable (syncSources w sources directory).1.tree path)
    {key : String} (used : key ∈ usedKeys w.tree sources) (l : Language) :
    let before := Catalog.ofLanguage w.tree directory
    let after := Catalog.ofLanguage (syncSources w sources directory).1.tree directory
    ((before l).isMissing key = false → (after l).isMissing key = false) ∧
      ((before .korean).isMissing key = true → (guess key).text l ≠ "" →
        (after l).isMissing key = false ∨ Catalog.Occupied (after l).root (steps key)) := by
  intro before after
  constructor
  · intro present
    obtain ⟨c, held, loaded⟩ := presentContents present
    have distinct := Catalog.loadDistinct w.tree (catalogPath directory l)
    rw [show Catalog.load w.tree (catalogPath directory l) = .ofContents c from loaded] at distinct
    exact settledPresent (runSettles (.sources sources) held) written distinct (loaded ▸ present)
  · intro missing wording
    have listed : key ∈ (guesses w.tree sources directory).keys := guessListed.mpr ⟨used, missing⟩
    have some := List.ne_nil_of_mem listed
    obtain ⟨e, entry, rfl⟩ := List.mem_map.mp listed
    obtain ⟨_, _, kept⟩ := (bringsKept (runBrings (.sources sources) w directory) done some).2 l
    rw [← guessOf entry] at wording
    exact keptFits kept (keptReadable kept some written) entry wording

theorem saveTranslated :
    (syncSources saving "src" "locales").2.errors = 0 ∧ "save" ∈ usedKeys saving.tree "src" ∧
      (Catalog.ofLanguage saving.tree "locales" .korean).isMissing "save" = true ∧
      ((Catalog.ofLanguage (syncSources saving "src" "locales").1.tree "locales" .english).isMissing "save" = false ∨
        Catalog.Occupied (Catalog.ofLanguage (syncSources saving "src" "locales").1.tree "locales" .english).root
          (steps "save")) := by
  have done : (syncSources saving "src" "locales").2.errors = 0 := by decide +kernel
  have written : ∀ path ∈ (syncSources saving "src" "locales").2.written,
      Readable (syncSources saving "src" "locales").1.tree path := by decide +kernel
  have used : "save" ∈ usedKeys saving.tree "src" := by decide +kernel
  have missing : (Catalog.ofLanguage saving.tree "locales" .korean).isMissing "save" = true := by decide +kernel
  exact ⟨done, used, missing,
    (keysTranslated saving "src" "locales" done written used .english).2 missing (by decide)⟩

def koreanOnly : Workspace :=
  { tree := Tree.ofList []
      [(["src"], .directory), (["src", "a.ts"], .file (.text "t(\"save\")")), (["locales"], .directory),
        (["locales", "ko"], .directory),
        (["locales", "ko", "common.json"], .file (.text "\x7b\"save\": \"저장\"\x7d"))] }

theorem koreanOnlyUntranslated :
    let english := Catalog.ofLanguage (syncSources koreanOnly "src" "locales").1.tree "locales" .english
    (syncSources koreanOnly "src" "locales").2.errors = 0 ∧ "save" ∈ usedKeys koreanOnly.tree "src" ∧
      english.isMissing "save" = true ∧ ¬Catalog.Occupied english.root (steps "save") := by
  intro english
  have fits : Catalog.Admits english.root (steps "save") := by decide +kernel
  exact ⟨by decide +kernel, by decide +kernel, by decide +kernel, fun occupied => Catalog.occupiedBlocks occupied fits⟩

end ApiScreens.Locale
