import ApiScreens.Proofs.Json.Outline
import ApiScreens.Proofs.Locale.Fresh

/-! Two views of a catalog that grew by merging: one joins the names that lead to a text, the other cuts a key and
follows its parts. They agree as long as no key begins with a dot, which only the second view keeps. -/
namespace ApiScreens.Locale
open Json (Value Members)

namespace Catalog

inductive Texts : Value → Prop where
  | leaf (s : String) : Texts (.string s)
  | branch {ms : Members} (distinct : ms.keys.Nodup) (plain : ∀ m ∈ ms, '.' ∉ m.1.toList)
      (inner : ∀ m ∈ ms, Texts m.2) : Texts (.object ms)

def joined (around : String) (path : List String) : String :=
  path.foldl (fun key name => key ++ "." ++ name) around

variable {around k s : String} {v : Value} {ms : Members} {path : List String}

theorem stepsClear {key name : String} (listed : name ∈ steps key) : '.' ∉ name.toList := by
  obtain ⟨piece, cut, rfl⟩ := List.mem_map.mp listed
  intro dot
  have clear := Text.pieceClear cut '.' (by simpa using dot)
  simp at clear

theorem stepsJoined (plain : ∀ name ∈ path, '.' ∉ name.toList) : steps (joined around path) = steps around ++ path := by
  induction path generalizing around with
  | nil => simp [joined]
  | cons name rest ih =>
    obtain ⟨here, more⟩ := List.forall_mem_cons.mp plain
    have later : steps (joined (around ++ "." ++ name) rest) = _ := ih more
    rw [stepsBehind, stepsPlain here, List.append_assoc] at later
    exact later

theorem dottedNonempty {name : String} (nonempty : around ≠ "") : dotted around name = around ++ "." ++ name :=
  if_neg nonempty

theorem behindNonempty (around name : String) : around ++ "." ++ name ≠ "" := by
  intro empty
  have length := congrArg String.length empty
  simp only [String.length_append] at length
  have dot : ".".length = 1 := rfl
  have none : "".length = 0 := rfl
  omega

theorem leavesMem {e : String × String} :
    e ∈ leavesOf around ms ↔ ∃ m ∈ ms, e ∈ leaves (dotted around m.1) m.2 := by
  induction ms with
  | nil => simp [leavesOf]
  | cons m rest ih =>
    obtain ⟨name, w⟩ := m
    simp [leavesOf, ih]

theorem leafListed (nonempty : around ≠ "") (found : v.at? path = some (.string s)) :
    (joined around path, s) ∈ leaves around v := by
  induction path generalizing around v with
  | nil =>
    cases Option.some.inj found
    simp [joined, leaves]
  | cons name rest ih =>
    rcases v.objectOrLeaf with ⟨ms, rfl⟩ | other
    · rw [Value.atCons] at found
      obtain ⟨w, here, deeper⟩ := Option.bind_eq_some_iff.mp found
      have listed := ih (behindNonempty around name) deeper
      rw [leaves, leavesMem]
      exact ⟨_, Members.memberGet here, by rwa [dottedNonempty nonempty]⟩
    · rw [Value.atOther other (by simp)] at found
      contradiction

-- The induction is on how the tree is made, since an object comes between a key and its leaves.
theorem listedLeaf (texts : Texts v) (listed : (k, s) ∈ leaves around v) :
    ∃ path, v.at? path = some (.string s) ∧ (∀ name ∈ path, '.' ∉ name.toList) ∧
      (around ≠ "" → k = joined around path) := by
  induction texts generalizing around with
  | leaf t =>
    simp only [leaves, List.mem_singleton, Prod.mk.injEq] at listed
    obtain ⟨rfl, rfl⟩ := listed
    exact ⟨[], rfl, List.forall_mem_nil _, fun _ => rfl⟩
  | @branch ms distinct plain inner ih =>
    rw [leaves, leavesMem] at listed
    obtain ⟨m, inside, deeper⟩ := listed
    obtain ⟨path, found, names, key⟩ := ih m inside deeper
    refine ⟨m.1 :: path, ?_, List.forall_mem_cons.mpr ⟨plain m inside, names⟩, fun nonempty => ?_⟩
    · rw [Value.atCons, Members.memberFound distinct inside, Option.bind_some, found]
    · rw [dottedNonempty nonempty] at key
      exact key (behindNonempty around m.1)

theorem beyondFirst {key : String} : Beyond "" key ↔ key.toList.head? = some '.' := by
  unfold Beyond
  cases key.toList <;> simp [eq_comm]

theorem listedPlain (texts : Texts v) (plain : ¬Beyond "" around) (listed : (k, s) ∈ leaves around v) :
    ¬Beyond "" k := by
  induction texts generalizing around with
  | leaf t =>
    simp only [leaves, List.mem_singleton, Prod.mk.injEq] at listed
    rwa [listed.1]
  | @branch ms distinct names inner ih =>
    rw [leaves, leavesMem] at listed
    obtain ⟨m, inside, deeper⟩ := listed
    refine ih m inside ?_ deeper
    rw [beyondFirst] at plain ⊢
    unfold dotted
    split
    · exact fun first => names m inside (List.mem_of_head? first)
    · rename_i nonempty
      have shape : around.toList ≠ [] := by simpa using nonempty
      rwa [String.toList_append, String.toList_append, List.append_assoc, List.head?_append_of_ne_nil _ shape]

theorem textsSet {name : String} {w : Value} (texts : Texts (.object ms)) (plain : '.' ∉ name.toList)
    (inner : Texts w) : Texts (.object (ms.set name w)) := by
  cases texts with
  | branch distinct names each =>
    refine .branch (Members.setNodup name w distinct) (fun m inside => ?_) fun m inside => ?_
    · rcases Members.memberSet inside with rfl | before
      · exact plain
      · exact names m before
    · rcases Members.memberSet inside with rfl | before
      · exact inner
      · exact each m before

theorem textsEmpty : Texts (.object []) := .branch List.nodup_nil (by simp) (by simp)

theorem filledTexts {filled : Members} (fills : Filled s ms path filled) (plain : ∀ name ∈ path, '.' ∉ name.toList)
    (texts : Texts (.object ms)) : Texts (.object filled) := by
  induction fills with
  | leaf vacant => exact textsSet texts (plain _ (by simp)) (.leaf s)
  | @within ms inner filled name path held deep ih =>
    obtain ⟨here, more⟩ := List.forall_mem_cons.mp plain
    have inside : Texts (.object inner) := by
      cases texts with
      | branch _ _ each => exact each _ (Members.memberGet held)
    exact textsSet texts here (ih more inside)
  | anew absent deep ih =>
    obtain ⟨here, more⟩ := List.forall_mem_cons.mp plain
    exact textsSet texts here (ih more textsEmpty)

def mergedAll (batches : List (SortedMap String)) : Catalog :=
  batches.foldl (fun c batch => (c.merge batch).1) {}

theorem mergingKeeps {P : Members → Prop} (batches : List (SortedMap String)) (start : P [])
    (step : ∀ batch ∈ batches, ∀ e ∈ batch.entries, ∀ {ms filled}, Filled e.2 ms (steps e.1) filled → P ms → P filled) :
    P (mergedAll batches).root := by
  suffices general : ∀ c : Catalog, P c.root → P (batches.foldl (fun c batch => (c.merge batch).1) c).root from
    general {} start
  induction batches with
  | nil => exact fun _ here => here
  | cons batch rest ih =>
    intro c here
    exact ih (fun other inside => step other (List.mem_cons_of_mem _ inside)) _
      (mergeKeeps (step batch List.mem_cons_self) here)

variable (batches : List (SortedMap String))

theorem mergedTexts : Texts (.object (mergedAll batches).root) :=
  mergingKeeps (P := fun ms => Texts (.object ms)) batches textsEmpty
    fun _ _ _ _ _ _ fills texts => filledTexts fills (fun _ => stepsClear) texts

variable {batches}

theorem mergedSource (found : (mergedAll batches).get? k = some s) : ∃ batch ∈ batches, k ∈ batch.keys := by
  have source := mergingKeeps (P := fun ms => ∀ path t, (Value.object ms).at? path = some (.string t) →
      ∃ batch ∈ batches, ∃ key ∈ batch.keys, steps key = path) batches
    (fun path t there => by cases path <;> simp [Members.get?] at there)
    (fun batch inside e listed ms filled fills before path t there => by
      by_cases same : path = steps e.1
      · exact ⟨batch, inside, e.1, List.mem_map_of_mem listed, same.symm⟩
      by_cases leads : path <+: steps e.1
      · -- what leads to the new text is an object
        obtain ⟨after, object, _⟩ := filledWay fills leads same
        rw [object] at there
        cases there
      · rw [filledElsewhere fills leads] at there
        exact before path t there)
  obtain ⟨batch, inside, key, listed, same⟩ := source _ _ (getText.mp found)
  exact ⟨batch, inside, Text.splitOnInjective same ▸ listed⟩

theorem joinedBeyond (around : String) {path : List String} (more : path ≠ []) : Beyond around (joined around path) := by
  induction path generalizing around with
  | nil => exact absurd rfl more
  | cons name rest ih =>
    have first : Beyond around (around ++ "." ++ name) := beyondRest.mpr ⟨name, rfl⟩
    by_cases ends : rest = []
    · rwa [ends]
    · exact beyondTrans first (ih (around ++ "." ++ name) ends)

theorem textListed {c : Catalog} (plain : ¬Beyond "" k) (found : c.get? k = some s) : (k, s) ∈ leavesOf "" c.root := by
  rw [getText] at found
  obtain ⟨name, path, cut⟩ := List.exists_cons_of_ne_nil (stepsDeeper k)
  have clear : ∀ part ∈ name :: path, '.' ∉ part.toList := fun part listed => stepsClear (cut ▸ listed)
  obtain ⟨here, more⟩ := List.forall_mem_cons.mp clear
  have key : k = joined name path := by
    refine Text.splitOnInjective (c := '.') (show steps k = steps (joined name path) from ?_)
    rw [stepsJoined more, stepsPlain here, cut, List.singleton_append]
  rw [cut, Value.atCons] at found
  obtain ⟨w, member, deeper⟩ := Option.bind_eq_some_iff.mp found
  refine leavesMem.mpr ⟨(name, w), Members.memberGet member, ?_⟩
  rw [dotted, if_pos rfl, key]
  by_cases nameless : name = ""
  · -- only the text right under the empty name has a key without a dot in front
    by_cases ends : path = []
    · rw [ends, Value.atNil] at deeper
      simp [nameless, ends, Option.some.inj deeper, joined, leaves]
    · rw [key, nameless] at plain
      exact absurd (joinedBeyond "" ends) plain
  · exact leafListed nameless deeper

section
variable {c : Catalog} (texts : Texts (.object c.root))
include texts

theorem joinedText {m : String × Value} (inside : m ∈ c.root) (found : m.2.at? path = some (.string s))
    (plain : ∀ name ∈ path, '.' ∉ name.toList) : c.get? (joined m.1 path) = some s := by
  cases texts with
  | branch distinct names _ =>
    rw [getText, stepsJoined plain, stepsPlain (names m inside), List.singleton_append, Value.atCons,
      Members.memberFound distinct inside, Option.bind_some, found]

theorem listedText (listed : (k, s) ∈ leavesOf "" c.root) :
    c.get? k = some s ∨ ∃ rest, c.get? ("." ++ rest) = some s := by
  obtain ⟨m, inside, deeper⟩ := leavesMem.mp listed
  have inner : Texts m.2 := by
    cases texts with
    | branch _ _ each => exact each m inside
  rw [dotted, if_pos rfl] at deeper
  obtain ⟨path, found, plain, key⟩ := listedLeaf inner deeper
  have here := joinedText texts inside found plain
  by_cases nameless : m.1 = ""
  · rw [nameless] at here deeper
    by_cases ends : path = []
    · -- a text right under the empty name
      rw [ends, Value.atNil] at found
      simp only [Option.some.inj found, leaves, List.mem_singleton, Prod.mk.injEq, and_true] at deeper
      rw [ends] at here
      exact .inl (deeper ▸ here)
    · obtain ⟨rest, shape⟩ := beyondRest.mp (joinedBeyond "" ends)
      rw [shape, String.empty_append] at here
      exact .inr ⟨rest, here⟩
  · exact .inl (key nameless ▸ here)

end

theorem flattenListed {c : Catalog} (found : c.flatten.get? k = some s) : (k, s) ∈ leavesOf "" c.root := by
  rw [flatten, SortedMap.getOfList] at found
  obtain ⟨e, last, rfl⟩ := Option.map_eq_some_iff.mp found
  rw [List.findRev?_eq_find?_reverse] at last
  have key : e.1 = k := by simpa using List.find?_some last
  exact key ▸ List.mem_reverse.mp (List.mem_of_find?_eq_some last)

theorem listedFlatten {c : Catalog} (listed : (k, s) ∈ leavesOf "" c.root)
    (only : ∀ t, (k, t) ∈ leavesOf "" c.root → t = s) : c.flatten.get? k = some s := by
  cases found : c.flatten.get? k with
  | none =>
    rw [flatten, SortedMap.getNone, ← SortedMap.hasKey, SortedMap.hasOfList] at found
    exact absurd (List.mem_map_of_mem listed) found
  | some t => rw [only t (flattenListed found)]

theorem viewsAgree (batches : List (SortedMap String)) :
    let c := mergedAll batches
    ((∀ key v, c.flatten.get? key = some v ↔ c.get? key = some v) ↔ ∀ rest, c.get? ("." ++ rest) = none) ∧
      ((∀ batch ∈ batches, ∀ key ∈ batch.keys, ¬Beyond "" key) →
        ∀ key v, c.flatten.get? key = some v ↔ c.get? key = some v) := by
  intro c
  have texts : Texts (.object c.root) := mergedTexts batches
  have dotFirst (rest : String) : Beyond "" ("." ++ rest) := beyondRest.mpr ⟨rest, by simp⟩
  have atRoot : ¬Beyond "" "" := by decide
  have unlisted {rest v : String} : ("." ++ rest, v) ∉ leavesOf "" c.root := fun listed =>
    listedPlain texts atRoot listed (dotFirst rest)
  have agree (undotted : ∀ rest, c.get? ("." ++ rest) = none) (key v : String) :
      c.flatten.get? key = some v ↔ c.get? key = some v := by
    have read {t : String} (listed : (key, t) ∈ leavesOf "" c.root) : c.get? key = some t :=
      (listedText texts listed).resolve_right fun ⟨rest, found⟩ => by simp [undotted rest] at found
    refine ⟨fun found => read (flattenListed found), fun found => ?_⟩
    have plain : ¬Beyond "" key := fun beyond => by
      obtain ⟨rest, rfl⟩ := beyondRest.mp beyond
      simp [undotted rest] at found
    refine listedFlatten (textListed plain found) fun t listed => ?_
    exact Option.some.inj ((read listed).symm.trans found)
  refine ⟨⟨fun both rest => ?_, agree⟩, fun keys => agree fun rest => ?_⟩
  · refine Option.eq_none_iff_forall_ne_some.mpr fun v found => ?_
    exact unlisted (flattenListed ((both _ v).mpr found))
  · refine Option.eq_none_iff_forall_ne_some.mpr fun v found => ?_
    obtain ⟨batch, inside, listed⟩ := mergedSource found
    exact keys batch inside _ listed (dotFirst rest)

theorem dotInFrontLost :
    let c := mergedAll [.ofList [(".a", "x")]]
    c.get? ".a" = some "x" ∧ c.flatten.get? ".a" = none ∧ c.flatten.get? "a" = some "x" ∧ c.get? "a" = none := by
  decide

end Catalog
end ApiScreens.Locale
