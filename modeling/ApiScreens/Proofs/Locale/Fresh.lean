import ApiScreens.Proofs.Locale.Merge

/-! Texts that are merged into an empty catalog. Their keys are the only ones that can be in each other's way: a text
reaches the catalog exactly if its key does not go on behind another one. -/
namespace ApiScreens.Locale
open Catalog
open Json (Value Members)

def Beyond (other key : String) : Prop := (other ++ ".").toList <+: key.toList

instance (other key : String) : Decidable (Beyond other key) := by unfold Beyond; infer_instance

theorem beyondRest {other key : String} : Beyond other key ↔ ∃ rest, key = other ++ "." ++ rest := by
  constructor
  · rintro ⟨rest, whole⟩
    exact ⟨String.ofList rest, String.toList_injective (by simp [← whole])⟩
  · rintro ⟨rest, rfl⟩
    exact ⟨rest.toList, by simp⟩

theorem stepsBehind (around rest : String) : steps (around ++ "." ++ rest) = steps around ++ steps rest := by
  have shape : (around ++ "." ++ rest).toList = around.toList ++ '.' :: rest.toList := by simp
  simp only [steps, Text.splitOn, shape]
  rw [Text.piecesCut _ _ (by simp), List.map_append]

theorem stepsPlain {name : String} (plain : '.' ∉ name.toList) : steps name = [name] := by
  have clear : ∀ c ∈ name.toList, (c == '.') = false := by
    intro c inside
    have differs : c ≠ '.' := fun same => plain (same ▸ inside)
    simpa using differs
  rw [steps, Text.splitOn, Text.piecesWhole clear, List.map_singleton, String.ofList_toList]

theorem beyondSteps {other key : String} (beyond : Beyond other key) :
    steps other <+: steps key ∧ steps other ≠ steps key := by
  obtain ⟨rest, rfl⟩ := beyondRest.mp beyond
  rw [stepsBehind]
  refine ⟨List.prefix_append _ _, fun same => ?_⟩
  have more : steps rest = [] := by simpa using same
  exact stepsDeeper rest more

theorem stepsWay {other key : String} (leads : steps other <+: steps key) : other = key ∨ Beyond other key := by
  obtain ⟨further, whole⟩ := leads
  by_cases ends : further = []
  · rw [ends, List.append_nil] at whole
    exact .inl (Text.splitOnInjective whole)
  · have joined := congrArg (fun ps => Text.join ['.'] (ps.map String.toList)) whole
    have chars (s : String) : Text.join ['.'] ((steps s).map String.toList) = s.toList := by
      simp [steps, Text.splitOn, Function.comp_def, Text.joinPieces]
    simp only [List.map_append, chars] at joined
    rw [Text.joinAppend _ (by simpa using stepsDeeper other) (by simpa using ends), chars] at joined
    exact .inr ⟨_, by simpa using joined⟩

theorem beyondBelow {other key : String} (beyond : Beyond other key) : other < key := by
  obtain ⟨rest, rfl⟩ := beyondRest.mp beyond
  rw [String.lt_iff]
  have longer : ([] : List Char) < '.' :: rest.toList := List.nil_lt_cons _ _
  simpa using List.append_left_lt longer

theorem beyondTrans {a b c : String} (first : Beyond a b) (second : Beyond b c) : Beyond a c :=
  first.trans ((List.prefix_append _ _).trans (by simpa [Beyond] using second))

theorem firstBefore {keys : List String} {other key : String} (listed : other ∈ keys) (beyond : Beyond other key) :
    ∃ first ∈ keys, Beyond first key ∧ ∀ o ∈ keys, ¬Beyond o first := by
  induction size : other.length using Nat.strong_induction_on generalizing other with
  | _ n ih =>
    by_cases free : ∀ o ∈ keys, ¬Beyond o other
    · exact ⟨other, listed, beyond, free⟩
    · obtain ⟨o, inside, before⟩ : ∃ o ∈ keys, Beyond o other := by simpa using free
      have shorter : o.length < n := by
        obtain ⟨rest, rfl⟩ := beyondRest.mp before
        have dot : ".".length = 1 := rfl
        rw [← size, String.length_append, String.length_append]
        omega
      exact ih _ shorter inside (beyondTrans before beyond) rfl

namespace Catalog

theorem filledApart {v : String} {ms filled : Members} {path other : List String} (fills : Filled v ms path filled)
    (admits : Admits ms other) (before : ¬path <+: other) (behind : ¬other <+: path) : Admits filled other where
  way q leads proper := by
    by_cases shared : q <+: path
    · have further : q ≠ path := fun same => before (same ▸ leads)
      obtain ⟨after, object, _⟩ := filledWay fills shared further
      exact .inr ⟨after, object⟩
    · rw [filledElsewhere fills shared]
      exact admits.way q leads proper
  leaf := by
    rw [filledElsewhere fills behind]
    exact admits.leaf

theorem turnSplit {c : Catalog} {es : List (String × String)} {t : Turn} (turn : t ∈ c.turns es) :
    ∃ front back, es = front ++ (t.key, t.text) :: back ∧ t.catalog = (c.mergeEntries front).1 := by
  induction es generalizing c with
  | nil => exact absurd turn List.not_mem_nil
  | cons e rest ih =>
    obtain ⟨key, v⟩ := e
    rcases List.mem_cons.mp turn with rfl | later
    · exact ⟨[], rest, rfl, rfl⟩
    · obtain ⟨front, back, rfl, found⟩ := ih later
      exact ⟨(key, v) :: front, back, rfl, found⟩

section
variable {es : List (String × String)} (ascending : es.Pairwise fun a b => a.1 < b.1)
include ascending

theorem freeAdmits {front back : List (String × String)} {e : String × String} (split : es = front ++ e :: back)
    (free : ∀ o ∈ es, ¬Beyond o.1 e.1) : Admits (mergeEntries {} front).1.root (steps e.1) := by
  subst split
  have earlier : ∀ o ∈ front, o.1 < e.1 := fun o inside =>
    (List.pairwise_append.mp ascending).2.2 o inside e List.mem_cons_self
  refine mergeKeeps (P := fun ms => Admits ms (steps e.1)) (fun o inside _ _ fills admits => ?_) (emptyAdmits e.1)
  refine filledApart fills admits (fun leads => ?_) fun leads => ?_
  · rcases stepsWay leads with same | beyond
    · exact String.ne_of_lt (earlier o inside) same
    · exact free o (List.mem_append_left _ inside) beyond
  · rcases stepsWay leads with same | beyond
    · exact String.ne_of_lt (earlier o inside) same.symm
    · exact String.lt_asymm (earlier o inside) (beyondBelow beyond)

theorem freeText {e : String × String} (listed : e ∈ es) (free : ∀ o ∈ es, ¬Beyond o.1 e.1) :
    (mergeEntries {} es).1.get? e.1 = some e.2 := by
  have distinct : (es.map (·.1)).Nodup :=
    List.pairwise_map.mpr (ascending.imp fun below => String.ne_of_lt below)
  obtain ⟨t, turn, key, text⟩ := turnOf (c := {}) listed
  obtain ⟨front, back, split, catalog⟩ := turnSplit turn
  rw [← key] at free ⊢
  rw [← text]
  refine turnAdded distinct turn ?_
  rw [catalog]
  exact freeAdmits ascending split free

theorem turnAdmits {t : Turn} (turn : t ∈ turns {} es) :
    Admits t.catalog.root (steps t.key) ↔ ∀ o ∈ es, ¬Beyond o.1 t.key := by
  obtain ⟨front, back, split, catalog⟩ := turnSplit turn
  rw [catalog]
  refine ⟨fun admits o inside beyond => ?_, freeAdmits ascending split⟩
  -- the first key that this one goes on behind came earlier, and has its text
  obtain ⟨first, listed, before, free⟩ := firstBefore (List.mem_map_of_mem inside) beyond
  obtain ⟨o, inside, rfl⟩ := List.mem_map.mp listed
  have below := beyondBelow before
  subst split
  obtain ⟨earlier, later, across⟩ := List.pairwise_append.mp ascending
  have inFront : o ∈ front := by
    rcases List.mem_append.mp inside with earlier | rest
    · exact earlier
    rcases List.mem_cons.mp rest with rfl | behind
    · exact absurd below (String.lt_irrefl _)
    · exact absurd below (String.lt_asymm ((List.pairwise_cons.mp later).1 o behind))
  have text : (mergeEntries {} front).1.get? o.1 = some o.2 := freeText earlier inFront fun other there =>
    free other.1 (List.mem_map_of_mem (List.mem_append_left _ there))
  obtain ⟨leads, proper⟩ := beyondSteps before
  rw [getText] at text
  rcases admits.way _ leads proper with absent | ⟨inner, object⟩
  · rw [text] at absent
    contradiction
  · rw [text] at object
    cases object

theorem beyondNone {key : String} (beyond : ∃ o ∈ es, Beyond o.1 key) : (mergeEntries {} es).1.get? key = none := by
  obtain ⟨o, inside, beyond⟩ := beyond
  obtain ⟨first, listed, before, free⟩ := firstBefore (List.mem_map_of_mem inside) beyond
  obtain ⟨e, there, rfl⟩ := List.mem_map.mp listed
  have text := freeText ascending there fun other inside => free other.1 (List.mem_map_of_mem inside)
  obtain ⟨⟨rest, whole⟩, proper⟩ := beyondSteps before
  have more : rest ≠ [] := by
    rintro rfl
    exact proper (by simpa using whole)
  refine Option.eq_none_iff_forall_ne_some.mpr fun s found => ?_
  rw [getText, ← whole, Value.atAppend, getText.mp text, Option.bind_some, Value.atOther rfl more] at found
  contradiction

end

theorem turnsKeys (c : Catalog) (es : List (String × String)) : (c.turns es).map (·.key) = es.map (·.1) := by
  induction es generalizing c with
  | nil => rfl
  | cons e rest ih => rw [turns, List.map_cons, ih, List.map_cons]

theorem mergeFresh (texts : SortedMap String) :
    (∀ e ∈ texts.entries, (merge {} texts).1.get? e.1 =
      if ∀ o ∈ texts.keys, ¬Beyond o e.1 then some e.2 else none) ∧
    (merge {} texts).2 = texts.keys.countP (fun key => ∀ o ∈ texts.keys, ¬Beyond o key) := by
  have entries (key : String) : (∀ o ∈ texts.keys, ¬Beyond o key) ↔ ∀ o ∈ texts.entries, ¬Beyond o.1 key :=
    List.forall_mem_map
  constructor
  · intro e listed
    by_cases free : ∀ o ∈ texts.keys, ¬Beyond o e.1
    · rw [if_pos free]
      exact freeText texts.ascending listed ((entries e.1).mp free)
    · rw [if_neg free]
      rw [entries] at free
      exact beyondNone texts.ascending (by simpa using free)
  · rw [merge, mergeCount, SortedMap.keys, ← turnsKeys {} texts.entries, List.countP_map]
    refine List.countP_congr fun t turn => ?_
    simp only [Function.comp_apply, decide_eq_true_eq]
    rw [turnAdmits texts.ascending turn, turnsKeys]
    exact (entries t.key).symm

end Catalog
end ApiScreens.Locale
