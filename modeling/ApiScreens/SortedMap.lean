/-! Maps from text keys, kept in ascending key order. Keys compare by code point, which is also the
order of their bytes in UTF-8. The order and the distinctness of keys are part of the type. -/
namespace ApiScreens

structure SortedMap (α : Type) where
  entries : List (String × α)
  ascending : entries.Pairwise fun a b => a.1 < b.1
  deriving DecidableEq

namespace SortedMap
variable {α : Type}

def insertEntry (key : String) (v : α) : List (String × α) → List (String × α)
  | [] => [(key, v)]
  | (k, w) :: rest =>
      if key < k then (key, v) :: (k, w) :: rest
      else if k < key then (k, w) :: insertEntry key v rest
      else (key, v) :: rest

theorem insertEntryKeys {key : String} {v : α} {es : List (String × α)} {e : String × α}
    (h : e ∈ insertEntry key v es) : e.1 = key ∨ e ∈ es := by
  induction es with
  | nil => simp only [insertEntry, List.mem_singleton] at h; exact .inl (by rw [h])
  | cons head rest ih =>
    obtain ⟨k, w⟩ := head
    unfold insertEntry at h
    split at h
    · rcases List.mem_cons.1 h with same | inside
      · exact .inl (by rw [same])
      · exact .inr inside
    · split at h
      · rcases List.mem_cons.1 h with same | inside
        · exact .inr (by rw [same]; exact List.mem_cons_self)
        · exact (ih inside).imp id (List.mem_cons_of_mem _)
      · rcases List.mem_cons.1 h with same | inside
        · exact .inl (by rw [same])
        · exact .inr (List.mem_cons_of_mem _ inside)

theorem insertEntryAscending {key : String} {v : α} {es : List (String × α)}
    (h : es.Pairwise fun a b => a.1 < b.1) :
    (insertEntry key v es).Pairwise fun a b => a.1 < b.1 := by
  induction es with
  | nil => exact List.pairwise_singleton _ _
  | cons head rest ih =>
    obtain ⟨k, w⟩ := head
    obtain ⟨least, order⟩ := List.pairwise_cons.1 h
    unfold insertEntry
    split
    · rename_i below
      refine List.pairwise_cons.2 ⟨fun e inside => ?_, h⟩
      rcases List.mem_cons.1 inside with same | deep
      · subst same; exact below
      · exact String.lt_trans below (least e deep)
    · rename_i notBelow
      split
      · rename_i above
        refine List.pairwise_cons.2 ⟨fun e inside => ?_, ih order⟩
        rcases insertEntryKeys inside with same | deep
        · rw [same]; exact above
        · exact least e deep
      · rename_i notAbove
        have same : k = key :=
          String.le_antisymm (String.not_lt.1 notBelow) (String.not_lt.1 notAbove)
        exact List.pairwise_cons.2 ⟨fun e inside => same ▸ least e inside, order⟩

def empty : SortedMap α := ⟨[], .nil⟩

instance : Inhabited (SortedMap α) := ⟨empty⟩

def insert (m : SortedMap α) (key : String) (v : α) : SortedMap α :=
  ⟨insertEntry key v m.entries, insertEntryAscending m.ascending⟩

def get? (m : SortedMap α) (key : String) : Option α := m.entries.lookup key

def has (m : SortedMap α) (key : String) : Bool := (m.get? key).isSome

def keys (m : SortedMap α) : List String := m.entries.map (·.1)

def values (m : SortedMap α) : List α := m.entries.map (·.2)

def size (m : SortedMap α) : Nat := m.entries.length

def map {β : Type} (f : α → β) (m : SortedMap α) : SortedMap β :=
  ⟨m.entries.map fun e => (e.1, f e.2), m.ascending.map _ fun _ _ h => h⟩

def ofList (pairs : List (String × α)) : SortedMap α :=
  pairs.foldl (fun m p => m.insert p.1 p.2) empty

end SortedMap

def sortedDistinct (names : List String) : List String :=
  (SortedMap.ofList (names.map fun n => (n, ()))).keys

end ApiScreens
