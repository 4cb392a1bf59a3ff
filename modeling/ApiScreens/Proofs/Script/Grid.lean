import ApiScreens.Proofs.Text.Pieces
import ApiScreens.Script.Literal

/-! The keys of an information grid. The first columns that it admits stay as they are; the identifier stands in front
of them and the time of creation behind them, each where it is missing and there is room for it. -/
namespace ApiScreens.Script

structure Admissible (c : Column) : Prop where
  short : c.accessorKey ∉ ["description", "memo", "content"]
  single : ∀ part ∈ ["Details", "List", "Array"], ¬part.toList <:+: c.accessorKey.toList

theorem admissibleExactly {c : Column} : isGridColumn c = true ↔ Admissible c := by
  have parts : (["Details", "List", "Array"].any (Text.has c.accessorKey)) = true ↔
      ∃ part ∈ ["Details", "List", "Array"], part.toList <:+: c.accessorKey.toList := by
    simp only [List.any_eq_true, Text.hasExactly]
  rw [isGridColumn, Bool.and_eq_true, Bool.not_eq_true', ← Bool.not_eq_true, parts, decide_eq_true_eq]
  constructor
  · rintro ⟨none, short⟩
    exact ⟨short, fun part listed inside => none ⟨part, listed, inside⟩⟩
  · rintro ⟨short, single⟩
    exact ⟨fun ⟨part, listed, inside⟩ => single part listed inside, short⟩

instance (c : Column) : Decidable (Admissible c) := decidable_of_iff _ admissibleExactly

def shownColumns (columns : List Column) : List (String × String) :=
  ((columns.filter (Admissible ·)).take 8).map fun c => (c.accessorKey, c.header)

def added (entry : String × String) (entries : List (String × String)) : List (String × String) :=
  if entry.1 ∉ entries.map Prod.fst ∧ entries.length < 8 then [entry] else []

variable {columns : List Column} {entry : String × String} {entries : List (String × String)}

theorem freeExactly (entries : List (String × String)) (key : String) :
    (!gridHas entries key && decide (entries.length < gridLimit)) = true ↔
      key ∉ entries.map Prod.fst ∧ entries.length < 8 := by
  have has : gridHas entries key = true ↔ key ∈ entries.map Prod.fst := by simp [gridHas]
  rw [Bool.and_eq_true, Bool.not_eq_true', ← Bool.not_eq_true, has, decide_eq_true_eq]
  rfl

theorem identifierAdded (entries : List (String × String)) :
    withIdentifier entries = added ("id", "ID") entries ++ entries := by
  simp only [withIdentifier, added, freeExactly]
  split
  · rfl
  · exact (List.nil_append entries).symm

theorem creationAdded (entries : List (String × String)) :
    withCreation entries = entries ++ added ("createdAt", "등록일시") entries := by
  simp only [withCreation, added, freeExactly]
  split
  · rfl
  · exact (List.append_nil entries).symm

theorem addedOnly (entry : String × String) (entries : List (String × String)) : (added entry entries).Sublist [entry] := by
  unfold added
  split
  · exact List.Sublist.refl _
  · exact List.nil_sublist _

theorem addedLength (entry : String × String) (room : entries.length ≤ 8) : (added entry entries).length + entries.length ≤ 8 := by
  unfold added
  split
  · rename_i free
    have left := free.2
    simp only [List.length_singleton]
    omega
  · simpa using room

theorem addedThere (entry : String × String) (room : entries.length < 8) :
    entry.1 ∈ (added entry entries).map Prod.fst ∨ entry.1 ∈ entries.map Prod.fst := by
  by_cases there : entry.1 ∈ entries.map Prod.fst
  · exact .inr there
  · rw [added, if_pos ⟨there, room⟩]
    exact .inl List.mem_cons_self

theorem addedCount (entry : String × String) (entries : List (String × String)) (key : String) :
    ((added entry entries).map Prod.fst).count key + (entries.map Prod.fst).count key ≤
      max 1 ((entries.map Prod.fst).count key) := by
  unfold added
  split
  · rename_i free
    by_cases same : entry.1 = key
    · have none : (entries.map Prod.fst).count key = 0 := List.count_eq_zero.mpr (same ▸ free.1)
      simp [none, same]
    · have other : ([entry].map Prod.fst).count key = 0 := by simp [same]
      omega
  · have none : (([] : List (String × String)).map Prod.fst).count key = 0 := rfl
    omega

theorem gridParts (some : columns ≠ []) : ∃ front back,
    gridKeys columns = front ++ shownColumns columns ++ back ∧
      front = added ("id", "ID") (shownColumns columns) ∧
      back = added ("createdAt", "등록일시") (front ++ shownColumns columns) := by
  have full : columns.isEmpty = false := by simpa using some
  have admitted : columns.filter isGridColumn = columns.filter (Admissible ·) :=
    List.filter_congr fun c _ => by rw [Bool.eq_iff_iff, admissibleExactly, decide_eq_true_eq]
  refine ⟨_, _, ?_, rfl, rfl⟩
  simp only [gridKeys, full, identifierAdded, creationAdded, admitted, gridLimit]
  rfl

theorem shownLength (columns : List Column) : (shownColumns columns).length = min 8 (columns.filter (Admissible ·)).length := by
  rw [shownColumns, List.length_map, List.length_take]

theorem shownNodup (distinct : (columns.map (·.accessorKey)).Nodup) : ((shownColumns columns).map Prod.fst).Nodup := by
  have part : ((columns.filter (Admissible ·)).take 8).Sublist columns :=
    (List.take_sublist _ _).trans List.filter_sublist
  rw [shownColumns, List.map_map]
  exact distinct.sublist (part.map _)

structure Grid (columns : List Column) (entries : List (String × String)) : Prop where
  parts : ∃ front back, entries = front ++ shownColumns columns ++ back ∧ front.Sublist [("id", "ID")] ∧
    back.Sublist [("createdAt", "등록일시")] ∧
    ((front ++ shownColumns columns).length < 8 → "createdAt" ∈ entries.map Prod.fst)
  identified : (columns.filter (Admissible ·)).length < 8 → "id" ∈ entries.map Prod.fst
  once : ∀ key, (entries.map Prod.fst).count key ≤ max 1 (((shownColumns columns).map Prod.fst).count key)

theorem gridFilled (some : columns ≠ []) : Grid columns (gridKeys columns) := by
  obtain ⟨front, back, whole, first, last⟩ := gridParts some
  have room (short : (columns.filter (Admissible ·)).length < 8) : (shownColumns columns).length < 8 := by
    rw [shownLength]
    omega
  rw [whole]
  refine ⟨⟨front, back, rfl, first ▸ addedOnly _ _, last ▸ addedOnly _ _, fun room => ?_⟩, fun short => ?_, fun key => ?_⟩
  · rw [List.map_append, last]
    exact List.mem_append.mpr (addedThere ("createdAt", "등록일시") room).symm
  · have there := addedThere ("id", "ID") (room short)
    rw [← first] at there
    simp only [List.map_append, List.mem_append]
    exact .inl there
  · have early := addedCount ("id", "ID") (shownColumns columns) key
    have late := addedCount ("createdAt", "등록일시") (front ++ shownColumns columns) key
    rw [← first] at early
    rw [← last] at late
    simp only [List.map_append, List.count_append] at late ⊢
    omega

theorem gridBounded (columns : List Column) : (gridKeys columns).length ≤ 8 := by
  by_cases none : columns = []
  · subst none
    decide
  · obtain ⟨front, back, whole, first, last⟩ := gridParts none
    have shown : (shownColumns columns).length ≤ 8 := by
      rw [shownLength]
      omega
    have early := addedLength ("id", "ID") shown
    rw [← first] at early
    have room : (front ++ shownColumns columns).length ≤ 8 := by simpa using early
    have late := addedLength ("createdAt", "등록일시") room
    rw [← last] at late
    rw [whole, List.length_append]
    omega

theorem gridDistinct (distinct : (columns.map (·.accessorKey)).Nodup) : ((gridKeys columns).map Prod.fst).Nodup := by
  by_cases none : columns = []
  · subst none
    decide
  · refine List.nodup_iff_count.mpr fun key => ?_
    have once := (gridFilled none).once key
    have shown := List.nodup_iff_count.mp (shownNodup distinct) key
    omega

theorem gridSelected (columns : List Column) :
    (gridKeys columns).length ≤ 8 ∧
      ((columns.map (·.accessorKey)).Nodup → ((gridKeys columns).map Prod.fst).Nodup) ∧
      (columns ≠ [] → Grid columns (gridKeys columns)) :=
  ⟨gridBounded columns, gridDistinct, gridFilled⟩

theorem sevenColumnsGridded :
    let columns : List Column := ["no", "memo", "lines", "price", "orderDetails", "state", "size", "owner", "place"].map
      fun key => ⟨key, key ++ "!", 100, none⟩
    (columns.map (·.accessorKey)).Nodup ∧ ((gridKeys columns).map Prod.fst).Nodup ∧ columns ≠ [] ∧
      Grid columns (gridKeys columns) ∧
      (gridKeys columns).map Prod.fst = ["id", "no", "lines", "price", "state", "size", "owner", "place"] := by
  intro columns
  obtain ⟨_, distinct, filled⟩ := gridSelected columns
  have keys : (columns.map (·.accessorKey)).Nodup := by decide
  have some : columns ≠ [] := by decide
  exact ⟨keys, distinct keys, some, filled some, by decide +kernel⟩

end ApiScreens.Script
