import ApiScreens.Locale.Sync
import ApiScreens.Proofs.Json.Outline
import ApiScreens.Proofs.Locale.Fill
import ApiScreens.Proofs.SortedMap
import ApiScreens.Proofs.Text.Pieces

/-! Merging texts into a catalog, one entry after the other. Nothing that the catalog holds is lost, an entry is
added exactly if it fits when its turn comes, and what was merged once is not merged again unless it is
empty. -/
namespace ApiScreens.Locale
open Files (Tree)
open Json (Value Members)

namespace Catalog

theorem findAt {ms : Members} {path : List String} (leads : path ≠ []) :
    find? ms path = (Value.object ms).at? path := by
  induction path generalizing ms with
  | nil => exact absurd rfl leads
  | cons name rest ih =>
    cases rest with
    | nil => simp [find?]
    | cons next rest =>
      rw [Value.atCons]
      unfold find?
      cases held : ms.get? name with
      | none => rfl
      | some w =>
        rcases w.objectOrLeaf with ⟨inner, rfl⟩ | leaf
        · exact ih (by simp)
        · rw [Option.bind_some, Value.atOther leaf (by simp)]
          cases w <;> first | rfl | contradiction

theorem stepsDeeper (key : String) : steps key ≠ [] := Text.splitOnDeeper '.' key

theorem getText {c : Catalog} {key s : String} :
    c.get? key = some s ↔ (Value.object c.root).at? (steps key) = some (.string s) := by
  rw [get?, findAt (stepsDeeper key)]
  cases (Value.object c.root).at? (steps key) with
  | none => simp
  | some w => cases w <;> simp [Value.string?]

instance (ms : Members) (key : String) : Decidable (Admits ms (steps key)) :=
  decidable_of_iff _ (admitsExactly "" (stepsDeeper key)).symm

theorem addAdmitted {c : Catalog} {key : String} (v : String) (admits : Admits c.root (steps key)) :
    ∃ root, c.add key v = (⟨root⟩, true) ∧ Filled v c.root (steps key) root := by
  obtain ⟨root, fills⟩ := admitsFilled v (stepsDeeper key) admits
  exact ⟨root, by rw [add, fillExactly.mpr fills], fills⟩

theorem addBlocked {c : Catalog} {key : String} (v : String) (blocked : ¬Admits c.root (steps key)) :
    c.add key v = (c, false) := by
  rw [admitsExactly v (stepsDeeper key), Option.not_isSome_iff_eq_none] at blocked
  rw [add, blocked]

theorem admitsEmptyText {c : Catalog} {key : String} (empty : c.get? key = some "") :
    Admits c.root (steps key) := by
  have here := getText.mp empty
  refine ⟨fun q leads proper => ?_, .inr (.inr here)⟩
  obtain ⟨rest, whole⟩ := leads
  rw [← whole, Value.atAppend] at here
  obtain ⟨w, found, deeper⟩ := Option.bind_eq_some_iff.mp here
  rcases w.objectOrLeaf with ⟨inner, rfl⟩ | leaf
  · exact .inr ⟨inner, found⟩
  · have more : rest ≠ [] := by
      rintro rfl
      exact proper (by simpa using whole)
    rw [Value.atOther leaf more] at deeper
    contradiction

structure Turn where
  catalog : Catalog
  key : String
  text : String

def turns (c : Catalog) : List (String × String) → List Turn
  | [] => []
  | (key, v) :: rest => ⟨c, key, v⟩ :: turns (c.add key v).1 rest

variable {c : Catalog} {es : List (String × String)}

theorem mergeCons (c : Catalog) (key v : String) (rest : List (String × String)) :
    c.mergeEntries ((key, v) :: rest) =
      (((c.add key v).1.mergeEntries rest).1,
        (if (c.add key v).2 then 1 else 0) + ((c.add key v).1.mergeEntries rest).2) := rfl

theorem mergeKeeps {P : Members → Prop}
    (step : ∀ e ∈ es, ∀ {ms filled}, Filled e.2 ms (steps e.1) filled → P ms → P filled) (start : P c.root) :
    P (c.mergeEntries es).1.root := by
  induction es generalizing c with
  | nil => exact start
  | cons e rest ih =>
    obtain ⟨key, v⟩ := e
    have later : ∀ e ∈ rest, ∀ {ms filled}, Filled e.2 ms (steps e.1) filled → P ms → P filled :=
      fun e inside => step e (List.mem_cons_of_mem _ inside)
    rw [mergeCons]
    by_cases admits : Admits c.root (steps key)
    · obtain ⟨root, added, fills⟩ := addAdmitted v admits
      rw [added]
      exact ih later (step _ List.mem_cons_self fills start)
    · rw [addBlocked v admits]
      exact ih later start

theorem mergeHeld {path : List String} {w : Value} (here : (Value.object c.root).at? path = some w)
    (held : Held w) : (Value.object (c.mergeEntries es).1.root).at? path = some w :=
  mergeKeeps (P := fun ms => (Value.object ms).at? path = some w)
    (fun _ _ _ _ fills before => filledHeld fills before held) here

theorem mergeObject {path : List String} {before : Members}
    (here : (Value.object c.root).at? path = some (.object before)) :
    ∃ after : Members, (Value.object (c.mergeEntries es).1.root).at? path = some (.object after) ∧
      before.keys <+: after.keys := by
  refine mergeKeeps (P := fun ms => ∃ after : Members, (Value.object ms).at? path = some (.object after) ∧
    before.keys <+: after.keys) ?_ ⟨before, here, List.prefix_refl _⟩
  rintro _ _ _ _ fills ⟨between, there, grown⟩
  obtain ⟨after, held, more⟩ := filledObject fills there
  exact ⟨after, held, grown.trans more⟩

theorem mergeBlocks {path : List String} (blocked : ¬Admits c.root path) :
    ¬Admits (c.mergeEntries es).1.root path :=
  mergeKeeps (P := fun ms => ¬Admits ms path) (fun _ _ _ _ fills before => filledBlocks fills before) blocked

-- Other keys have other steps, so that no later entry goes where this one went.
theorem mergeText {key s : String} (others : key ∉ es.map (·.1)) (here : c.get? key = some s) :
    (c.mergeEntries es).1.get? key = some s := by
  rw [getText] at here ⊢
  refine mergeKeeps (P := fun ms => (Value.object ms).at? (steps key) = some (.string s)) ?_ here
  intro e listed _ _ fills before
  refine filledKeeps fills before rfl fun same => others ?_
  exact List.mem_map.mpr ⟨e, listed, (Text.splitOnInjective same).symm⟩

theorem turnAdded (distinct : (es.map (·.1)).Nodup) {t : Turn} (turn : t ∈ c.turns es)
    (admits : Admits t.catalog.root (steps t.key)) : (c.mergeEntries es).1.get? t.key = some t.text := by
  induction es generalizing c with
  | nil => exact absurd turn List.not_mem_nil
  | cons e rest ih =>
    obtain ⟨key, v⟩ := e
    obtain ⟨fresh, more⟩ := List.nodup_cons.mp distinct
    rw [mergeCons]
    rcases List.mem_cons.mp turn with rfl | later
    · obtain ⟨root, added, fills⟩ := addAdmitted v admits
      rw [added]
      exact mergeText fresh (getText.mpr (filledLeaf fills))
    · exact ih more later

theorem turnBlocked {t : Turn} (turn : t ∈ c.turns es) (blocked : ¬Admits t.catalog.root (steps t.key)) :
    ¬Admits (c.mergeEntries es).1.root (steps t.key) := by
  induction es generalizing c with
  | nil => exact absurd turn List.not_mem_nil
  | cons e rest ih =>
    obtain ⟨key, v⟩ := e
    rw [mergeCons]
    rcases List.mem_cons.mp turn with rfl | later
    · rw [addBlocked v blocked]
      exact mergeBlocks blocked
    · exact ih later

theorem turnOf {e : String × String} (listed : e ∈ es) : ∃ t ∈ c.turns es, t.key = e.1 ∧ t.text = e.2 := by
  induction es generalizing c with
  | nil => exact absurd listed List.not_mem_nil
  | cons first rest ih =>
    rcases List.mem_cons.mp listed with rfl | later
    · exact ⟨_, List.mem_cons_self, rfl, rfl⟩
    · obtain ⟨t, turn, same⟩ := ih (c := (c.add first.1 first.2).1) later
      exact ⟨t, List.mem_cons_of_mem _ turn, same⟩

theorem mergeCount (c : Catalog) (es : List (String × String)) :
    (c.mergeEntries es).2 = (c.turns es).countP fun t => Admits t.catalog.root (steps t.key) := by
  induction es generalizing c with
  | nil => rfl
  | cons e rest ih =>
    obtain ⟨key, v⟩ := e
    rw [mergeCons, turns, List.countP_cons, ih, Nat.add_comm]
    by_cases admits : Admits c.root (steps key)
    · obtain ⟨root, added, _⟩ := addAdmitted v admits
      simp [added, admits]
    · simp [addBlocked v admits, admits]

theorem mergeNothing (blocked : ∀ e ∈ es, ¬Admits c.root (steps e.1)) : c.mergeEntries es = (c, 0) := by
  induction es with
  | nil => rfl
  | cons e rest ih =>
    obtain ⟨key, v⟩ := e
    rw [mergeCons, addBlocked v (blocked _ List.mem_cons_self),
      ih fun e inside => blocked e (List.mem_cons_of_mem _ inside)]
    rfl

theorem mergeIdle : (c.mergeEntries es).2 = 0 ↔ ∀ e ∈ es, ¬Admits c.root (steps e.1) := by
  refine ⟨fun none => ?_, fun blocked => by rw [mergeNothing blocked]⟩
  induction es with
  | nil => exact fun _ inside => absurd inside List.not_mem_nil
  | cons e rest ih =>
    obtain ⟨key, v⟩ := e
    rw [mergeCons] at none
    by_cases admits : Admits c.root (steps key)
    · obtain ⟨root, added, _⟩ := addAdmitted v admits
      simp [added] at none
    · rw [addBlocked v admits] at none
      exact List.forall_mem_cons.mpr ⟨admits, ih (by simpa using none)⟩

theorem emptyAdmits (key : String) : Admits [] (steps key) := by
  obtain ⟨filled, fills⟩ := emptyFilled "" (stepsDeeper key)
  exact filledAdmits fills

section
variable (distinct : (es.map (·.1)).Nodup) {e : String × String} (listed : e ∈ es)
include distinct listed

theorem mergedText (admits : Admits (c.mergeEntries es).1.root (steps e.1)) :
    (c.mergeEntries es).1.get? e.1 = some e.2 := by
  obtain ⟨t, turn, key, text⟩ := turnOf (c := c) listed
  by_cases fits : Admits t.catalog.root (steps t.key)
  · have added := turnAdded distinct turn fits
    rwa [key, text] at added
  · exact absurd (key ▸ admits) (turnBlocked turn fits)

theorem mergedEmpty (admits : Admits (c.mergeEntries es).1.root (steps e.1)) : e.2 = "" := by
  have leaf := admits.leaf
  rw [getText.mp (mergedText distinct listed admits)] at leaf
  simpa using leaf

theorem mergedAdmits :
    Admits (c.mergeEntries es).1.root (steps e.1) ↔ (c.mergeEntries es).1.get? e.1 = some "" := by
  refine ⟨fun admits => ?_, admitsEmptyText⟩
  rw [mergedText distinct listed admits, mergedEmpty distinct listed admits]

end

/-- What a merge does. Everything held stays where it is and no object loses a member. An entry counts as added
exactly if it fits at its turn; then its text is what its key leads to in the end, and else its turn changes
nothing. A second merge adds nothing, unless a text is empty. -/
theorem mergeExact (c : Catalog) (texts : SortedMap String) :
    let merged := (c.merge texts).1
    let turns := c.turns texts.entries
    (∀ path w, (Value.object c.root).at? path = some w → Held w →
      (Value.object merged.root).at? path = some w) ∧
    (∀ path before, (Value.object c.root).at? path = some (.object before) →
      ∃ after, (Value.object merged.root).at? path = some (.object after) ∧
        Members.keys before <+: Members.keys after) ∧
    (c.merge texts).2 = turns.countP (fun t => Admits t.catalog.root (steps t.key)) ∧
    (∀ t ∈ turns, Admits t.catalog.root (steps t.key) →
      (t.catalog.add t.key t.text).2 = true ∧ merged.get? t.key = some t.text) ∧
    (∀ t ∈ turns, ¬Admits t.catalog.root (steps t.key) →
      t.catalog.add t.key t.text = (t.catalog, false)) ∧
    ((∀ e ∈ texts.entries, e.2 ≠ "") → merged.merge texts = (merged, 0)) := by
  have distinct := texts.keysNodup
  refine ⟨fun _ _ => mergeHeld, fun _ _ => mergeObject, mergeCount c texts.entries, ?_, ?_, ?_⟩
  · intro t turn admits
    obtain ⟨root, added, _⟩ := addAdmitted t.text admits
    exact ⟨by rw [added], turnAdded distinct turn admits⟩
  · intro t _ blocked
    exact addBlocked t.text blocked
  · intro texted
    exact mergeNothing fun e listed admits => texted e listed (mergedEmpty distinct listed admits)

def greetings : Catalog :=
  ⟨[("a", .object [("b", .string "")]), ("n", .number (.integer 1)), ("z", .string "old")]⟩

def notices : SortedMap String := .ofList [("a.b", "new"), ("n.m", "new"), ("q.r", "new"), ("z", "new")]

theorem noticesMerged :
    (∀ e ∈ notices.entries, e.2 ≠ "") ∧ (greetings.merge notices).2 = 2 ∧
      (greetings.merge notices).1.merge notices = ((greetings.merge notices).1, 0) :=
  ⟨by decide, by decide, (mergeExact greetings notices).2.2.2.2.2 (by decide)⟩

def Distinct (c : Catalog) : Prop := (Value.object c.root).Distinct

def Alike (c d : Catalog) : Prop := (Value.object c.root).outline = (Value.object d.root).outline

theorem loadDistinct (t : Tree) (path : String) : (load t path).Distinct := Value.readObjectDistinct t path

theorem filledDistinct {v : String} {ms filled : Members} {path : List String}
    (fills : Filled v ms path filled) (distinct : (Value.object ms).Distinct) :
    (Value.object filled).Distinct := by
  induction fills with
  | leaf vacant => exact Value.distinctSet _ distinct (.leaf rfl)
  | @within ms inner filled name path held deep ih =>
    have inside := (Value.distinctMembers distinct).2 _ (Members.memberGet held)
    exact Value.distinctSet _ distinct (ih inside)
  | @anew ms filled name path absent deep ih =>
    exact Value.distinctSet _ distinct (ih Value.emptyDistinct)

theorem mergeDistinct {c : Catalog} (es : List (String × String)) (distinct : c.Distinct) :
    (c.mergeEntries es).1.Distinct :=
  mergeKeeps (P := fun ms => (Value.object ms).Distinct) (fun _ _ _ _ fills before => filledDistinct fills before)
    distinct

theorem outlineAt (ms : Members) (path : List String) :
    (Value.object (Value.outlineMembers ms)).at? path = ((Value.object ms).at? path).map Value.outline :=
  Value.atOutline (.object ms) path

theorem outlineAdmits {ms : Members} {path : List String} :
    Admits (Value.outlineMembers ms) path ↔ Admits ms path := by
  have way (q : List String) := outlineAt ms q
  constructor
  · rintro ⟨before, leaf⟩
    refine ⟨fun q leads proper => ?_, ?_⟩
    · have here := before q leads proper
      rwa [way, Option.map_eq_none_iff, Value.outlineObject] at here
    · rwa [way, Option.map_eq_none_iff, Value.outlineNull, Value.outlineText] at leaf
  · rintro ⟨before, leaf⟩
    refine ⟨fun q leads proper => ?_, ?_⟩
    · rw [way, Option.map_eq_none_iff, Value.outlineObject]
      exact before q leads proper
    · rwa [way, Option.map_eq_none_iff, Value.outlineNull, Value.outlineText]

section
variable {c d : Catalog} (alike : Alike c d)
include alike

theorem alikeMembers : Value.outlineMembers c.root = Value.outlineMembers d.root := by
  unfold Alike at alike
  rw [Value.outline, Value.outline] at alike
  exact Value.object.inj alike

theorem alikeAdmits (path : List String) : Admits c.root path ↔ Admits d.root path := by
  rw [← outlineAdmits, alikeMembers alike, outlineAdmits]

theorem alikeText (key : String) : c.get? key = d.get? key := by
  apply Option.ext
  intro s
  rw [getText, getText, ← Value.outlineText, ← outlineAt, alikeMembers alike, outlineAt, Value.outlineText]

end

theorem textAlike {c : Catalog} (distinct : c.Distinct) (read : (Value.parse c.text).isSome = true) :
    Alike ⟨Files.objectOf c.text⟩ c := by
  obtain ⟨v, parsed⟩ := Option.isSome_iff_exists.mp read
  have same := Value.tabbedOutline distinct parsed
  rcases v.objectOrLeaf with ⟨ms, rfl⟩ | leaf
  · have object : Files.objectOf c.text = ms := by
      rw [Files.objectOf, parsed]
      rfl
    rw [Alike, object]
    exact same
  · cases v <;> contradiction

end Catalog
end ApiScreens.Locale
