import ApiScreens.Proofs.Document.Chains
import ApiScreens.Proofs.Json.Members
import ApiScreens.Proofs.Text.Pieces

/-! What references point to. A reference that is written from keys resolves to the value that the keys lead to, object
by object, whatever characters they have; and nothing else resolves. -/
namespace ApiScreens.Document
open Json (Value Members)

inductive Reaches : Value → List String → Value → Prop where
  | here (v : Value) : Reaches v [] v
  | member {ms : Members} {key : String} {rest : List String} {v w : Value} (named : ms.get? key = some v)
      (way : Reaches v rest w) : Reaches (.object ms) (key :: rest) w

inductive Ends : Value → String → Prop where
  | leaf {v : Value} {key : String} (other : v.isObject = false) : Ends v key
  | missing {ms : Members} {key : String} (absent : key ∉ ms.keys) : Ends (.object ms) key

variable {doc : Document} {v w : Value} {keys : List String} {key : String} {r : String}

theorem reachesExactly : descend v keys = some w ↔ Reaches v keys w := by
  constructor
  · intro found
    induction keys generalizing v with
    | nil =>
      cases found
      exact .here _
    | cons key rest ih =>
      obtain ⟨u, named, later⟩ := Option.bind_eq_some_iff.mp found
      cases v with
      | object ms => exact .member named (ih later)
      | _ => contradiction
  · intro way
    induction way with
    | here v => rfl
    | member named _ ih => rw [descend, Value.get?, named, Option.bind_some, ih]

theorem endsExactly : v.get? key = none ↔ Ends v key := by
  constructor
  · intro none
    cases v with
    | object ms =>
      refine .missing fun inside => ?_
      obtain ⟨⟨name, w⟩, listed, rfl⟩ := List.mem_map.mp inside
      have differs := List.lookup_eq_none_iff.mp none _ listed
      simp at differs
    | _ => exact .leaf rfl
  · rintro (other | absent)
    · exact Value.getOther key other
    · exact Members.getAbsent absent

/-- Each tilde before the digit, from the front on, replaced by the image together with the digit. -/
def restored (digit image : Char) : List Char → List Char
  | '~' :: d :: rest => if d = digit then image :: restored digit image rest else '~' :: restored digit image (d :: rest)
  | c :: rest => c :: restored digit image rest
  | [] => []

theorem restoredKeeps {digit image c : Char} {rest : List Char} (plain : c = '~' → rest.head? ≠ some digit) :
    restored digit image (c :: rest) = c :: restored digit image rest := by
  rw [restored.eq_def]
  split
  · rename_i d more same
    obtain ⟨rfl, rfl⟩ := List.cons.inj same
    have differs : d ≠ digit := fun same => plain rfl (same ▸ rfl)
    rw [if_neg differs]
  · rename_i same
    obtain ⟨rfl, rfl⟩ := List.cons.inj same
    rfl
  · contradiction

theorem restoredOther {c : Char} (other : c ≠ '~') (digit image : Char) (rest : List Char) :
    restored digit image (c :: rest) = c :: restored digit image rest :=
  restoredKeeps fun same => absurd same other

theorem restoredTakes (digit image : Char) (rest : List Char) :
    restored digit image ('~' :: digit :: rest) = image :: restored digit image rest := by
  rw [restored, if_pos rfl]

theorem restoredHead {digit image c : Char} {text : List Char} (other : c ≠ image)
    (first : (restored digit image text).head? = some c) : text.head? = some c := by
  cases text with
  | nil => exact first
  | cons d rest =>
    by_cases plain : d = '~' → rest.head? ≠ some digit
    · rw [restoredKeeps plain] at first
      exact first
    · obtain ⟨rfl, next⟩ := Classical.not_imp.mp plain
      obtain ⟨more, rfl⟩ := List.head?_eq_some_iff.mp (Classical.not_not.mp next)
      rw [restoredTakes] at first
      exact absurd (Option.some.inj first).symm other

theorem unescapeRestored (text : List Char) : unescapeKey text = restored '0' '~' (restored '1' '/' text) := by
  induction text using unescapeKey.induct with
  | case1 rest ih =>
    rw [unescapeKey, ih, restoredTakes, restoredOther (by decide)]
  | case2 rest ih =>
    have stays : restored '1' '/' ('~' :: '0' :: rest) = '~' :: '0' :: restored '1' '/' rest := by
      rw [restoredKeeps fun _ => by simp, restoredOther (by decide)]
    rw [unescapeKey, ih, stays, restoredTakes]
  | case3 c rest slash tilde ih =>
    have one : c = '~' → rest.head? ≠ some '1' := fun escape first => by
      obtain ⟨more, shape⟩ := List.head?_eq_some_iff.mp first
      exact slash more escape shape
    have zero : c = '~' → (restored '1' '/' rest).head? ≠ some '0' := fun escape first => by
      obtain ⟨more, shape⟩ := List.head?_eq_some_iff.mp (restoredHead (by decide) first)
      exact tilde more escape shape
    rw [unescapeKey.eq_3 c rest slash tilde, ih, restoredKeeps one, restoredKeeps zero]
  | case4 => rfl

theorem unescapeEscaped (key : List Char) : unescapeKey (escapeKey key) = key := by
  induction key with
  | nil => rfl
  | cons c rest ih =>
    rw [escapeKey] at ih ⊢
    rw [List.flatMap_cons]
    split
    · rename_i tilde
      rw [List.cons_append, List.singleton_append, unescapeKey, ih, tilde]
    · rename_i tilde
      split
      · rename_i slash
        rw [List.cons_append, List.singleton_append, unescapeKey, ih, slash]
      · rw [List.singleton_append, unescapeKey, ih]
        · exact fun _ same => absurd same tilde
        · exact fun _ same => absurd same tilde

theorem escapedClear (key : List Char) : '/' ∉ escapeKey key := by
  intro inside
  obtain ⟨c, _, there⟩ := List.mem_flatMap.mp inside
  split at there
  · simp at there
  · split at there
    · simp at there
    · rename_i slash
      exact slash (List.mem_singleton.mp there).symm

def written (keys : List String) : String :=
  "#/" ++ Text.joinWith "/" (keys.map fun key => String.ofList (escapeKey key.toList))

theorem writtenKeys (some : keys ≠ []) : referenceKeys (written keys) = Option.some keys := by
  have chars : (written keys).toList = ['#', '/'] ++ Text.join ['/'] (keys.map fun key => escapeKey key.toList) := by
    simp [written, Text.joinWith, Function.comp_def]
  have clear : ∀ p ∈ keys.map fun key => escapeKey key.toList, '/' ∉ p := by
    intro p listed
    obtain ⟨key, _, rfl⟩ := List.mem_map.mp listed
    exact escapedClear key.toList
  rw [referenceKeys, chars, Text.afterExactly.mpr rfl, Option.map_some, Text.piecesJoin (by simpa using some) clear,
    List.map_map]
  simp [Function.comp_def, unescapeEscaped]

theorem keysExactly : referenceKeys r = some keys ↔ ∃ pointer, r.toList = '#' :: '/' :: pointer ∧
    keys = (Text.pieces (· == '/') pointer).map fun p => String.ofList (restored '0' '~' (restored '1' '/' p)) := by
  simp only [referenceKeys, Option.map_eq_some_iff, Text.afterExactly, unescapeRestored]
  constructor
  · rintro ⟨pointer, same, rfl⟩
    exact ⟨pointer, same.symm, rfl⟩
  · rintro ⟨pointer, same, rfl⟩
    exact ⟨pointer, same.symm, rfl⟩

theorem resolveExactly : doc.resolveRef r = some v ↔ ∃ keys, referenceKeys r = some keys ∧ Reaches doc.root keys v := by
  simp only [resolveRef, Option.bind_eq_some_iff, reachesExactly]

theorem referencesPoint (doc : Document) :
    (∀ keys, keys ≠ [] → ∀ v, doc.resolveRef (written keys) = some v ↔ Reaches doc.root keys v) ∧
      (∀ keys, keys ≠ [] → (doc.resolveRef (written keys) = none ↔
        ∃ before key after v, keys = before ++ key :: after ∧ Reaches doc.root before v ∧ Ends v key)) ∧
      ∀ r v, doc.resolveRef r = some v ↔ ∃ pointer, r.toList = '#' :: '/' :: pointer ∧
        Reaches doc.root ((Text.pieces (· == '/') pointer).map fun p =>
          String.ofList (restored '0' '~' (restored '1' '/' p))) v := by
  refine ⟨fun keys some v => ?_, fun keys some => ?_, fun r v => ?_⟩
  · rw [resolveRef, writtenKeys some, Option.bind_some, reachesExactly]
  · rw [resolveRef, writtenKeys some, Option.bind_some, descendNone]
    simp only [reachesExactly, endsExactly]
  · simp only [resolveExactly, keysExactly]
    constructor
    · rintro ⟨_, ⟨pointer, begins, rfl⟩, way⟩
      exact ⟨pointer, begins, way⟩
    · rintro ⟨pointer, begins, way⟩
      exact ⟨_, ⟨pointer, begins, rfl⟩, way⟩

def oddKeys : Document :=
  ⟨.object [("a/b", .object [("~1", .object [("", .string "found")]), ("/", .null)])]⟩

theorem oddKeysPoint :
    ["a/b", "~1", ""] ≠ [] ∧ written ["a/b", "~1", ""] = "#/a~1b/~01/" ∧
      oddKeys.resolveRef "#/a~1b/~01/" = some (.string "found") ∧
      ["a/b", "~1", "", "c"] ≠ [] ∧ oddKeys.resolveRef (written ["a/b", "~1", "", "c"]) = none := by
  obtain ⟨found, nothing, _⟩ := referencesPoint oddKeys
  have some : ["a/b", "~1", ""] ≠ [] := by decide
  have more : ["a/b", "~1", "", "c"] ≠ [] := by decide
  have text : written ["a/b", "~1", ""] = "#/a~1b/~01/" := by decide +kernel
  have way : Reaches oddKeys.root ["a/b", "~1", ""] (.string "found") :=
    .member rfl (.member rfl (.member rfl (.here _)))
  refine ⟨some, text, text ▸ (found _ some _).mpr way, more, ?_⟩
  exact (nothing _ more).mpr ⟨["a/b", "~1", ""], "c", [], _, rfl, way, .leaf rfl⟩

end ApiScreens.Document
