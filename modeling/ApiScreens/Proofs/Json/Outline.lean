import ApiScreens.Files.Object
import ApiScreens.Json.Reader
import ApiScreens.Proofs.Json.RoundTrip
import Mathlib.Data.List.Nodup

/-! What a text that was read holds: no name twice in one object, and no more levels than the reader allows. And
values up to their numbers and arrays: a text reads back as such an outline of what was printed, if it reads back
at all. Numbers may be read as others, and deep nesting is refused. -/
namespace ApiScreens.Json

namespace Members

theorem setFresh {ms : Members} {key : String} (v : Value) (fresh : key ∉ ms.keys) :
    ms.set key v = ms ++ [(key, v)] := by
  induction ms with
  | nil => rfl
  | cons m rest ih =>
    obtain ⟨name, w⟩ := m
    obtain ⟨differs, more⟩ := not_or.mp (mt List.mem_cons.mpr fresh)
    rw [set, if_neg (Ne.symm differs), ih more, List.cons_append]

theorem memberSet {ms : Members} {key : String} {v : Value} {m : String × Value} (inside : m ∈ ms.set key v) :
    m = (key, v) ∨ m ∈ ms := by
  induction ms with
  | nil => exact .inl (List.mem_singleton.mp inside)
  | cons n rest ih =>
    obtain ⟨name, w⟩ := n
    unfold set at inside
    split at inside
    · rename_i same
      subst same
      exact (List.mem_cons.mp inside).imp_right (List.mem_cons_of_mem _)
    · rcases List.mem_cons.mp inside with rfl | later
      · exact .inr List.mem_cons_self
      · exact (ih later).imp_right (List.mem_cons_of_mem _)

theorem setNodup {ms : Members} (key : String) (v : Value) (distinct : ms.keys.Nodup) :
    (ms.set key v).keys.Nodup := by
  induction ms with
  | nil => exact List.nodup_singleton key
  | cons m rest ih =>
    obtain ⟨name, w⟩ := m
    obtain ⟨fresh, more⟩ := List.nodup_cons.mp distinct
    unfold set
    split
    · exact distinct
    · rename_i differs
      refine List.nodup_cons.mpr ⟨fun there => ?_, ih more⟩
      obtain ⟨n, inside, same⟩ := List.mem_map.mp there
      rcases memberSet inside with rfl | before
      · exact differs same.symm
      · exact fresh (List.mem_map.mpr ⟨n, before, same⟩)

theorem pairsWhole {pairs : List (String × Value)} (distinct : (pairs.map (·.1)).Nodup) :
    ofPairs pairs = pairs := by
  suffices general : ∀ ms : Members, (keys (ms ++ pairs)).Nodup →
      pairs.foldl (fun ms p => set ms p.1 p.2) ms = ms ++ pairs by
    simpa [ofPairs] using general [] distinct
  clear distinct
  induction pairs with
  | nil => simp
  | cons p rest ih =>
    intro ms distinct
    have fresh : p.1 ∉ ms.keys := by
      intro there
      rw [keys, List.map_append] at distinct
      exact List.disjoint_of_nodup_append distinct there List.mem_cons_self
    have moved : ms ++ [p] ++ rest = ms ++ p :: rest := by simp
    rw [List.foldl_cons, setFresh _ fresh, ih _ (moved ▸ distinct), moved]

theorem pairsNodup (pairs : List (String × Value)) : (ofPairs pairs).keys.Nodup := by
  suffices general : ∀ ms : Members, ms.keys.Nodup →
      (keys (pairs.foldl (fun ms p => set ms p.1 p.2) ms)).Nodup from general [] List.nodup_nil
  induction pairs with
  | nil => exact fun _ distinct => distinct
  | cons p rest ih => exact fun ms distinct => ih _ (setNodup p.1 p.2 distinct)

theorem memberPairs {pairs : List (String × Value)} {m : String × Value} (inside : m ∈ ofPairs pairs) :
    m ∈ pairs := by
  suffices general : ∀ ms : Members, m ∈ pairs.foldl (fun ms p => set ms p.1 p.2) ms → m ∈ ms ∨ m ∈ pairs from
    (general [] inside).resolve_left List.not_mem_nil
  clear inside
  induction pairs with
  | nil => exact fun _ here => .inl here
  | cons p rest ih =>
    intro ms later
    rcases ih _ later with here | there
    · rcases memberSet here with rfl | before
      · exact .inr List.mem_cons_self
      · exact .inl before
    · exact .inr (List.mem_cons_of_mem _ there)

end Members

namespace Value

inductive Distinct : Value → Prop where
  | leaf {v : Value} (other : v.isObject = false) : Distinct v
  | object {ms : Members} (names : ms.keys.Nodup) (each : ∀ m ∈ ms, Distinct m.2) : Distinct (.object ms)

theorem distinctMembers {ms : Members} (distinct : (object ms).Distinct) :
    ms.keys.Nodup ∧ ∀ m ∈ ms, m.2.Distinct := by
  cases distinct with
  | leaf other => contradiction
  | object names each => exact ⟨names, each⟩

theorem memberDistinct {v w : Value} {key : String} (distinct : v.Distinct) (found : v.get? key = some w) :
    w.Distinct := by
  cases distinct with
  | leaf other =>
    rw [getOther key other] at found
    contradiction
  | object names each => exact each _ (Members.memberGet found)

theorem distinctSet {ms : Members} (name : String) {v : Value} (distinct : (object ms).Distinct)
    (value : v.Distinct) : (object (ms.set name v)).Distinct := by
  obtain ⟨names, each⟩ := distinctMembers distinct
  refine .object (Members.setNodup name v names) fun m inside => ?_
  rcases Members.memberSet inside with rfl | before
  · exact value
  · exact each m before

/-- No object in the value names a member twice, also inside arrays, and at most so many levels open in it. -/
inductive Fits : Nat → Value → Prop where
  | null (depth : Nat) : Fits depth .null
  | bool (depth : Nat) (b : Bool) : Fits depth (.bool b)
  | number (depth : Nat) (n : Numeral) : Fits depth (.number n)
  | string (depth : Nat) (s : String) : Fits depth (.string s)
  | array {depth : Nat} {items : List Value} (each : ∀ x ∈ items, Fits depth x) :
      Fits (depth + 1) (.array items)
  | object {depth : Nat} {members : Members} (names : members.keys.Nodup)
      (each : ∀ m ∈ members, Fits depth m.2) : Fits (depth + 1) (.object members)

theorem fitsMembers {depth : Nat} {ms : Members} (fits : (object ms).Fits depth) :
    ms.keys.Nodup ∧ ∀ m ∈ ms, m.2.Fits (depth - 1) := by
  cases fits with
  | object names each => exact ⟨names, each⟩

theorem fitsDistinct {v : Value} {depth : Nat} (fits : v.Fits depth) : v.Distinct := by
  induction fits with
  | object names each ih => exact .object names ih
  | _ => exact .leaf rfl

mutual
theorem readFits (w : Written) {depth : Nat} {v : Value} (read : w.value? depth = some v) : v.Fits depth := by
  cases w with
  | object members =>
    simp only [Written.value?, Option.ite_none_left_eq_some, Option.map_eq_some_iff] at read
    obtain ⟨opens, pairs, each, rfl⟩ := read
    obtain ⟨depth, rfl⟩ := Nat.exists_eq_succ_of_ne_zero opens
    exact .object (Members.pairsNodup pairs) fun m inside => pairsFit members each m (Members.memberPairs inside)
  | array items =>
    simp only [Written.value?, Option.ite_none_left_eq_some, Option.map_eq_some_iff] at read
    obtain ⟨opens, values, each, rfl⟩ := read
    obtain ⟨depth, rfl⟩ := Nat.exists_eq_succ_of_ne_zero opens
    exact .array (valuesFit items each)
  | null =>
    cases read
    exact .null _
  | bool b =>
    cases read
    exact .bool _ b
  | number n =>
    obtain ⟨n, _, rfl⟩ := Option.map_eq_some_iff.mp read
    exact .number _ n
  | string s =>
    obtain ⟨s, _, rfl⟩ := Option.map_eq_some_iff.mp read
    exact .string _ s
theorem valuesFit (items : List Written) {depth : Nat} {values : List Value}
    (read : Written.values? depth items = some values) : ∀ v ∈ values, v.Fits depth := by
  cases items with
  | nil =>
    cases read
    exact fun _ inside => absurd inside List.not_mem_nil
  | cons w rest =>
    simp only [Written.values?, Option.bind_eq_bind, Option.bind_eq_some_iff, Option.some.injEq] at read
    obtain ⟨v, here, more, later, rfl⟩ := read
    exact List.forall_mem_cons.mpr ⟨readFits w here, valuesFit rest later⟩
theorem pairsFit (members : List (Option String × Written)) {depth : Nat} {pairs : List (String × Value)}
    (read : Written.pairs? depth members = some pairs) : ∀ p ∈ pairs, p.2.Fits depth := by
  cases members with
  | nil =>
    cases read
    exact fun _ inside => absurd inside List.not_mem_nil
  | cons m rest =>
    obtain ⟨key, w⟩ := m
    simp only [Written.pairs?, Option.bind_eq_bind, Option.bind_eq_some_iff, Option.some.injEq] at read
    obtain ⟨name, _, v, here, more, later, rfl⟩ := read
    exact List.forall_mem_cons.mpr ⟨readFits w here, pairsFit rest later⟩
end

theorem parseFits {text : String} {v : Value} (read : parse text = some v) : v.Fits depthLimit := by
  obtain ⟨w, _, value⟩ := Option.bind_eq_some_iff.mp read
  exact readFits w value

theorem parseDistinct {text : String} {v : Value} (read : parse text = some v) : v.Distinct :=
  fitsDistinct (parseFits read)

theorem emptyDistinct : (object []).Distinct :=
  .object List.nodup_nil fun _ inside => absurd inside List.not_mem_nil

theorem readObjectDistinct (t : Files.Tree) (path : String) : (object (t.readObject path)).Distinct := by
  unfold Files.Tree.readObject
  split
  · rename_i text _
    unfold Files.objectOf
    cases read : parse text with
    | none => exact emptyDistinct
    | some v =>
      have distinct := parseDistinct read
      cases v <;> first | exact distinct | exact emptyDistinct
  · exact emptyDistinct

mutual
def outline : Value → Value
  | .null => .null
  | .bool b => .bool b
  | .number _ => .number (.integer 0)
  | .string s => .string s
  | .array _ => .array []
  | .object members => .object (outlineMembers members)
def outlineMembers : List (String × Value) → List (String × Value)
  | [] => []
  | (key, v) :: rest => (key, outline v) :: outlineMembers rest
end

theorem getOutline (v : Value) (name : String) : v.outline.get? name = (v.get? name).map outline := by
  cases v with
  | object ms =>
    simp only [outline, get?]
    induction ms with
    | nil => rfl
    | cons m rest ih =>
      obtain ⟨key, w⟩ := m
      rw [outlineMembers, Members.getCons, Members.getCons, ih]
      split <;> rfl
  | _ => rfl

theorem atOutline (v : Value) (path : List String) : v.outline.at? path = (v.at? path).map outline := by
  induction path generalizing v with
  | nil => rfl
  | cons name rest ih =>
    rw [at?, at?, getOutline]
    cases v.get? name with
    | none => rfl
    | some w => exact ih w

section
variable {held : Option Value}

theorem outlineNull : held.map outline = some .null ↔ held = some .null := by
  cases held with
  | none => simp
  | some v => cases v <;> simp [outline]

theorem outlineText {s : String} : held.map outline = some (.string s) ↔ held = some (.string s) := by
  cases held with
  | none => simp
  | some v => cases v <;> simp [outline]

theorem outlineObject :
    (∃ inner, held.map outline = some (.object inner)) ↔ ∃ inner, held = some (.object inner) := by
  cases held with
  | none => simp
  | some v => cases v <;> simp [outline]

end

theorem pairsNames {ms : Members} {depth : Nat} {pairs : List (String × Value)}
    (read : Written.pairs? depth (rereadMembers ms) = some pairs) : pairs.map (·.1) = ms.keys := by
  induction ms generalizing pairs with
  | nil =>
    cases read
    rfl
  | cons m rest ih =>
    obtain ⟨key, v⟩ := m
    simp only [rereadMembers, Written.pairs?, Option.bind_eq_bind, Option.bind_eq_some_iff,
      Option.some.injEq] at read
    obtain ⟨_, rfl, w, _, more, later, rfl⟩ := read
    rw [List.map_cons, ih later]
    rfl

theorem pairsOutline {members : Members} (each : ∀ m ∈ members, ∀ {depth : Nat} {w : Value},
      m.2.reread.value? depth = some w → w.outline = m.2.outline) {depth : Nat} {pairs : List (String × Value)}
    (read : Written.pairs? depth (rereadMembers members) = some pairs) :
    outlineMembers pairs = outlineMembers members := by
  induction members generalizing pairs with
  | nil =>
    cases read
    rfl
  | cons m rest ih =>
    obtain ⟨key, v⟩ := m
    simp only [rereadMembers, Written.pairs?, Option.bind_eq_bind, Option.bind_eq_some_iff,
      Option.some.injEq] at read
    obtain ⟨name, rfl, w, here, more, later, rfl⟩ := read
    have first := each (key, v) List.mem_cons_self here
    rw [outlineMembers, outlineMembers, first, ih (fun n inside => each n (List.mem_cons_of_mem _ inside)) later]

theorem rereadOutline {v : Value} (distinct : v.Distinct) {depth : Nat} {w : Value}
    (read : v.reread.value? depth = some w) : w.outline = v.outline := by
  induction v using Value.byParts generalizing depth w with
  | object members ih =>
    obtain ⟨names, each⟩ := distinctMembers distinct
    simp only [reread, Written.value?, Option.ite_none_left_eq_some, Option.map_eq_some_iff] at read
    obtain ⟨_, pairs, later, rfl⟩ := read
    have outlines := pairsOutline (fun m inside _ _ => ih m inside (each m inside)) later
    rw [Members.pairsWhole (pairsNames later ▸ names), outline, outline, outlines]
  | array items _ =>
    simp only [reread, Written.value?, Option.ite_none_left_eq_some, Option.map_eq_some_iff] at read
    obtain ⟨_, _, _, rfl⟩ := read
    rfl
  | number n =>
    simp only [reread, Written.value?, Option.map_eq_some_iff] at read
    obtain ⟨_, _, rfl⟩ := read
    rfl
  | _ =>
    simp only [reread, Written.value?, Option.map_some, Option.some.injEq] at read
    rw [← read]

theorem tabbedBlank : Style.tabbed.Blank := by
  intro unit set
  cases set
  exact List.all_eq_true.mp (by decide)

theorem tabbedOutline {v w : Value} (distinct : v.Distinct) (read : parse v.tabbed = some w) :
    w.outline = v.outline := by
  rw [parse, tabbed, String.toList_ofList, readWritten tabbedBlank, Option.bind_some] at read
  exact rereadOutline distinct read

end Value
end ApiScreens.Json
