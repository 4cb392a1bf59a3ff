import ApiScreens.SortedMap
import Mathlib.Data.List.Find
import Mathlib.Data.List.Nodup
import Mathlib.Data.List.Perm.Basic

/-! Sorted maps by their lookups. Two maps with the same lookups are equal, and a map made of pairs holds for
each key the value of its last pair. A key that a list holds once selects one of its members. -/
namespace ApiScreens

theorem lookupListed {α β : Type} [BEq α] [LawfulBEq α] {es : List (α × β)} (distinct : (es.map (·.1)).Nodup)
    {key : α} {v : β} : es.lookup key = some v ↔ (key, v) ∈ es := by
  induction es with
  | nil => simp
  | cons head rest ih =>
    obtain ⟨k, w⟩ := head
    obtain ⟨fresh, more⟩ := List.nodup_cons.mp distinct
    by_cases same : key = k
    · subst same
      have once : (key, v) ∉ rest := fun later => fresh (List.mem_map.mpr ⟨(key, v), later, rfl⟩)
      simp [once, eq_comm]
    · have differs : (key == k) = false := by simpa using same
      simp [List.lookup_cons, differs, same, ih more]

end ApiScreens

namespace ApiScreens.SortedMap
variable {α : Type}

theorem keysNodup (m : SortedMap α) : m.keys.Nodup := by
  unfold keys List.Nodup
  rw [List.pairwise_map]
  exact m.ascending.imp fun below => String.ne_of_lt below

theorem entryOfGet {m : SortedMap α} {key : String} {v : α} :
    m.get? key = some v ↔ (key, v) ∈ m.entries :=
  lookupListed (keysNodup m)

theorem getNone {m : SortedMap α} {key : String} : m.get? key = none ↔ key ∉ m.keys := by
  simp [Option.eq_none_iff_forall_ne_some, entryOfGet, keys]

theorem hasKey {m : SortedMap α} {key : String} : m.has key = true ↔ key ∈ m.keys := by
  rw [has, Option.isSome_iff_ne_none, ne_eq, getNone, not_not]

theorem entriesExt {m n : SortedMap α} (same : ∀ e, e ∈ m.entries ↔ e ∈ n.entries) : m = n := by
  have order {k : SortedMap α} : k.entries.Nodup := List.Nodup.of_map _ (keysNodup k)
  have permuted : m.entries.Perm n.entries := (List.perm_ext_iff_of_nodup order order).mpr same
  have entries : m.entries = n.entries := permuted.eq_of_pairwise
    (fun a b _ _ below above => absurd (String.lt_trans below above) (String.lt_irrefl _))
    m.ascending n.ascending
  cases m
  cases n
  cases entries
  rfl

theorem ext {m n : SortedMap α} (same : ∀ key, m.get? key = n.get? key) : m = n := by
  refine entriesExt fun ⟨key, v⟩ => ?_
  rw [← entryOfGet, ← entryOfGet, same key]

theorem keysExt {β : Type} {m : SortedMap α} {n : SortedMap β} (same : ∀ key, key ∈ m.keys ↔ key ∈ n.keys) :
    m.keys = n.keys := by
  have permuted := (List.perm_ext_iff_of_nodup (keysNodup m) (keysNodup n)).mpr same
  have left : m.keys.Pairwise (· < ·) := List.pairwise_map.mpr m.ascending
  have right : n.keys.Pairwise (· < ·) := List.pairwise_map.mpr n.ascending
  exact permuted.eq_of_pairwise
    (fun _ _ _ _ below above => absurd (String.lt_trans below above) (String.lt_irrefl _)) left right

theorem entryInsert {m : SortedMap α} {key : String} {v : α} {e : String × α} :
    e ∈ (m.insert key v).entries ↔ e = (key, v) ∨ (e ∈ m.entries ∧ e.1 ≠ key) := by
  obtain ⟨entries, ascending⟩ := m
  simp only [insert]
  induction entries with
  | nil => simp [insertEntry]
  | cons head rest ih =>
    obtain ⟨k, w⟩ := head
    obtain ⟨least, order⟩ := List.pairwise_cons.mp ascending
    have later : ∀ x ∈ rest, k < x.1 := least
    unfold insertEntry
    split
    · rename_i below
      have apart : ∀ x ∈ (k, w) :: rest, x.1 ≠ key := by
        intro x inside same
        rcases List.mem_cons.mp inside with rfl | deep
        · exact String.lt_irrefl _ (same ▸ below)
        · exact String.lt_irrefl _ (same ▸ String.lt_trans below (later x deep))
      simp only [List.mem_cons] at apart ⊢
      exact or_congr_right ⟨fun inside => ⟨inside, apart e inside⟩, And.left⟩
    · rename_i notBelow
      split
      · rename_i above
        have apart : k ≠ key := fun same => String.lt_irrefl _ (same ▸ above)
        simp only [List.mem_cons, ih order]
        constructor
        · rintro (rfl | rfl | deep)
          · exact .inr ⟨.inl rfl, apart⟩
          · exact .inl rfl
          · exact .inr ⟨.inr deep.1, deep.2⟩
        · rintro (rfl | ⟨rfl | deep, differs⟩)
          · exact .inr (.inl rfl)
          · exact .inl rfl
          · exact .inr (.inr ⟨deep, differs⟩)
      · rename_i notAbove
        have same : k = key := String.le_antisymm (String.not_lt.mp notBelow) (String.not_lt.mp notAbove)
        subst same
        have apart : ∀ x ∈ rest, x.1 ≠ k := fun x inside same =>
          String.lt_irrefl _ (same ▸ later x inside)
        simp only [List.mem_cons]
        constructor
        · rintro (rfl | deep)
          · exact .inl rfl
          · exact .inr ⟨.inr deep, apart e deep⟩
        · rintro (rfl | ⟨rfl | deep, differs⟩)
          · exact .inl rfl
          · exact absurd rfl differs
          · exact .inr deep

theorem keyInsert {m : SortedMap α} {key k : String} {v : α} :
    k ∈ (m.insert key v).keys ↔ k = key ∨ k ∈ m.keys := by
  constructor
  · intro inside
    obtain ⟨e, there, rfl⟩ := List.mem_map.mp inside
    rcases entryInsert.mp there with rfl | ⟨before, _⟩
    · exact .inl rfl
    · exact .inr (List.mem_map_of_mem before)
  · intro cases
    by_cases same : k = key
    · exact List.mem_map.mpr ⟨(key, v), entryInsert.mpr (.inl rfl), same.symm⟩
    · obtain ⟨e, there, rfl⟩ := List.mem_map.mp (cases.resolve_left same)
      exact List.mem_map_of_mem (entryInsert.mpr (.inr ⟨there, same⟩))

@[simp] theorem getInsert (m : SortedMap α) (key k : String) (v : α) :
    (m.insert key v).get? k = if k = key then some v else m.get? k := by
  apply Option.ext
  intro w
  rw [entryOfGet, entryInsert]
  by_cases same : k = key
  · simp [same, eq_comm]
  · simp [same, entryOfGet]

@[simp] theorem getEmpty (k : String) : (empty : SortedMap α).get? k = none := rfl

theorem getFold (m : SortedMap α) (pairs : List (String × α)) (k : String) :
    (pairs.foldl (fun m p => m.insert p.1 p.2) m).get? k =
      ((pairs.findRev? (·.1 = k)).map (·.2)).or (m.get? k) := by
  induction pairs generalizing m with
  | nil => simp
  | cons p rest ih =>
    simp only [List.foldl_cons, ih, List.findRev?, getInsert]
    cases rest.findRev? (·.1 = k) with
    | some q => simp
    | none =>
      by_cases same : p.1 = k
      · simp [same]
      · simp [same, Ne.symm same]

theorem getOfList (pairs : List (String × α)) (k : String) :
    (ofList pairs).get? k = (pairs.findRev? (·.1 = k)).map (·.2) := by
  simp [ofList, getFold]

theorem getOfListCons (p : String × α) (rest : List (String × α)) (k : String) :
    (ofList (p :: rest)).get? k =
      ((ofList rest).get? k).or (if k = p.1 then some p.2 else none) := by
  rw [getOfList rest, ofList, List.foldl_cons, getFold, getInsert, getEmpty]

theorem hasOfList {pairs : List (String × α)} {k : String} : (ofList pairs).has k ↔ k ∈ pairs.map (·.1) := by
  simp [has, getOfList, Option.isSome_map]

theorem hasOfListMap {pairs : List (String × α)} {key : String → String} {k : String} :
    (ofList (pairs.map fun p => (key p.1, p.2))).has k ↔ ∃ p ∈ pairs, key p.1 = k := by
  rw [hasOfList, List.map_map]
  exact List.mem_map

theorem getOfListMap (pairs : List (String × α)) (f : String → String) {k : String}
    (only : ∀ p ∈ pairs, f p.1 = f k → p.1 = k) :
    (ofList (pairs.map fun p => (f p.1, p.2))).get? (f k) = (ofList pairs).get? k := by
  have same : pairs.reverse.find? (fun p => f p.1 = f k) = pairs.reverse.find? (fun p => p.1 = k) := by
    refine List.find?_congr fun p inside => ?_
    have listed := only p (List.mem_reverse.mp inside)
    exact decide_eq_decide.mpr ⟨listed, fun here => congrArg f here⟩
  rw [getOfList, getOfList, List.findRev?_eq_find?_reverse, List.findRev?_eq_find?_reverse,
    ← List.map_reverse, List.find?_map, Option.map_map]
  simp only [Function.comp_def, same]

theorem entryOfAgreeing {pairs : List (String × α)} (agree : ∀ p ∈ pairs, ∀ q ∈ pairs, p.1 = q.1 → p.2 = q.2)
    {e : String × α} : e ∈ (ofList pairs).entries ↔ e ∈ pairs := by
  obtain ⟨key, v⟩ := e
  rw [← entryOfGet, getOfList, List.findRev?_eq_find?_reverse]
  constructor
  · intro found
    obtain ⟨p, last, same⟩ := Option.map_eq_some_iff.mp found
    have named : p.1 = key := by simpa using List.find?_some last
    have listed := List.mem_reverse.mp (List.mem_of_find?_eq_some last)
    rwa [← named, ← same]
  · intro listed
    cases found : pairs.reverse.find? (·.1 = key) with
    | none =>
      have other := List.find?_eq_none.mp found (key, v) (List.mem_reverse.mpr listed)
      simp at other
    | some p =>
      have named : p.1 = key := by simpa using List.find?_some found
      have inside := List.mem_reverse.mp (List.mem_of_find?_eq_some found)
      rw [Option.map_some, agree p inside (key, v) listed named]

theorem entryOfList {pairs : List (String × α)} (distinct : (pairs.map (·.1)).Nodup) {e : String × α} :
    e ∈ (ofList pairs).entries ↔ e ∈ pairs :=
  entryOfAgreeing fun _ first _ second same => congrArg Prod.snd (List.inj_on_of_nodup_map distinct first second same)

theorem ofListSame {a b : List (String × α)} (agree : ∀ p ∈ a, ∀ q ∈ a, p.1 = q.1 → p.2 = q.2)
    (same : ∀ e, e ∈ b ↔ e ∈ a) : ofList b = ofList a := by
  have agreeToo : ∀ p ∈ b, ∀ q ∈ b, p.1 = q.1 → p.2 = q.2 := fun p first q second =>
    agree p ((same p).mp first) q ((same q).mp second)
  exact entriesExt fun e => by rw [entryOfAgreeing agree, entryOfAgreeing agreeToo, same e]

theorem ofListPerm {pairs : List (String × α)} (distinct : (pairs.map (·.1)).Nodup) :
    (ofList pairs).entries.Perm pairs :=
  (List.perm_ext_iff_of_nodup (List.Nodup.of_map _ (keysNodup _)) (List.Nodup.of_map _ distinct)).mpr
    fun _ => entryOfList distinct

theorem ofListEntries (m : SortedMap α) : ofList m.entries = m :=
  entriesExt fun _ => entryOfList (keysNodup m)

end ApiScreens.SortedMap

namespace ApiScreens

theorem filterOne {α β : Type} [DecidableEq β] {l : List α} (key : α → β) (distinct : (l.map key).Nodup)
    {x : α} (inside : x ∈ l) : l.filter (fun y => key y = key x) = [x] := by
  induction l with
  | nil => exact absurd inside List.not_mem_nil
  | cons y rest ih =>
    obtain ⟨fresh, more⟩ := List.nodup_cons.mp distinct
    rcases List.mem_cons.mp inside with rfl | deep
    · have none : rest.filter (fun z => key z = key x) = [] := by
        refine List.filter_eq_nil_iff.mpr fun z there => ?_
        simp only [decide_eq_true_eq]
        exact fun same => fresh (List.mem_map.mpr ⟨z, there, same⟩)
      simp [none]
    · have other : key y ≠ key x := fun same => fresh (List.mem_map.mpr ⟨x, deep, same.symm⟩)
      simp [other, ih more deep]

theorem sortedDistinctNodup (names : List String) : (sortedDistinct names).Nodup :=
  SortedMap.keysNodup _

theorem sortedDistinctAscending (names : List String) : (sortedDistinct names).Pairwise (· < ·) :=
  List.pairwise_map.mpr (SortedMap.ofList _).ascending

theorem sortedDistinctMem {names : List String} {n : String} : n ∈ sortedDistinct names ↔ n ∈ names := by
  rw [sortedDistinct, ← SortedMap.hasKey, SortedMap.hasOfList, List.map_map]
  simp

theorem sortedDistinctExt {a b : List String} (same : ∀ n, n ∈ a ↔ n ∈ b) :
    sortedDistinct a = sortedDistinct b :=
  SortedMap.keysExt fun n => by
    have left : n ∈ sortedDistinct a ↔ n ∈ a := sortedDistinctMem
    have right : n ∈ sortedDistinct b ↔ n ∈ b := sortedDistinctMem
    exact left.trans ((same n).trans right.symm)

end ApiScreens
