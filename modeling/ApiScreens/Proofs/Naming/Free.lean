import ApiScreens.Naming
import Mathlib.Data.Finset.Card
import Mathlib.Data.List.Nodup
import Mathlib.Order.Bounds.Defs

/-! Numbers for names that are taken. Of more numbered names than taken ones at least one is free, so the
least free number is found within the bound and every smaller one is taken. -/
namespace ApiScreens.Naming

theorem toStringInjective {m n : Nat} (same : toString m = toString n) : m = n := by
  rw [Nat.toString_eq_ofList_toDigits, Nat.toString_eq_ofList_toDigits] at same
  have digits := String.ofList_injective same
  simpa only [Nat.ofDigitChars_ten_toDigits] using congrArg (Nat.ofDigitChars 10 · 0) digits

theorem toStringDigits (n : Nat) : ∀ c ∈ (toString n).toList, c.isDigit := by
  intro c inside
  rw [Nat.toString_eq_ofList_toDigits, String.toList_ofList] at inside
  exact Nat.isDigit_of_mem_toDigits (by decide) (by decide) inside

theorem numberedInjective (name : String) : Function.Injective (numbered name) := by
  intro m n same
  exact toStringInjective ((String.append_right_inj _).mp same)

theorem leastFreeLeast (bound : Nat) (isFree : Nat → Bool) {m : Nat} (positive : 1 ≤ m)
    (below : m < leastFree bound isFree) : isFree m = false := by
  unfold leastFree at below
  have tried (k : Nat) (h : k < bound) : ((List.range bound).map (· + 1))[k]? = some (k + 1) := by
    simp [h]
  cases found : ((List.range bound).map (· + 1)).find? isFree with
  | none =>
    rw [found] at below
    have inside : m ∈ (List.range bound).map (· + 1) :=
      List.mem_map.mpr ⟨m - 1, List.mem_range.mpr (by simp at below; omega), by omega⟩
    simpa using List.find?_eq_none.mp found m inside
  | some n =>
    rw [found] at below
    obtain ⟨_, index, inRange, atIndex, earlier⟩ := List.find?_eq_some_iff_getElem.mp found
    have bounded : index < bound := by simpa using inRange
    have value : n = index + 1 := by simpa using atIndex.symm
    have smaller : m - 1 < index := by simp at below; omega
    have taken := earlier (m - 1) smaller
    have entry : ((List.range bound).map (· + 1))[m - 1] = m := by simp; omega
    rw [entry] at taken
    simpa using taken

theorem someFree {α : Type} (places : List α) (place : Nat → α)
    (injective : Function.Injective place) (isFree : Nat → Bool)
    (occupied : ∀ n, isFree n = false → place n ∈ places) :
    ∃ n, 1 ≤ n ∧ n ≤ places.length + 1 ∧ isFree n = true := by
  by_contra none
  push Not at none
  have all : ∀ n ∈ (List.range (places.length + 1)).map (· + 1), place n ∈ places := by
    intro n inside
    obtain ⟨m, range, rfl⟩ := List.mem_map.mp inside
    have busy := none (m + 1) (by omega) (by have := List.mem_range.mp range; omega)
    exact occupied _ (by simpa using busy)
  have distinct : (((List.range (places.length + 1)).map (· + 1)).map place).Nodup :=
    (List.nodup_range.map fun a b same => by simpa using same).map injective
  have few := (distinct.subperm fun x inside => by
    obtain ⟨n, tried, rfl⟩ := List.mem_map.mp inside
    exact all n tried).length_le
  simp only [List.length_map, List.length_range] at few
  omega

theorem leastFreeFree {α : Type} (places : List α) (place : Nat → α)
    (injective : Function.Injective place) (isFree : Nat → Bool)
    (occupied : ∀ n, isFree n = false → place n ∈ places) :
    isFree (leastFree places.length isFree) = true := by
  obtain ⟨n, positive, bounded, free⟩ := someFree places place injective isFree occupied
  by_contra taken
  have least : leastFree places.length isFree ≤ n := by
    by_contra beyond
    have busy := leastFreeLeast places.length isFree positive (by omega)
    simp [busy] at free
  unfold leastFree at taken least
  cases found : ((List.range places.length).map (· + 1)).find? isFree with
  | some m => simp [found, List.find?_some found] at taken
  | none =>
    rw [found] at taken least
    have last : n = places.length + 1 := by simp at least; omega
    exact taken (by simpa [← last] using free)

inductive Search (isFree : Nat → Bool) : Nat → Nat → Prop where
  | here {n : Nat} (free : isFree n = true) : Search isFree n n
  | further {n m : Nat} (taken : isFree n = false) (more : Search isFree (n + 1) m) : Search isFree n m

theorem searchExactly {isFree : Nat → Bool} {n m : Nat} :
    Search isFree n m ↔ n ≤ m ∧ isFree m = true ∧ ∀ k, n ≤ k → k < m → isFree k = false := by
  constructor
  · intro search
    induction search with
    | here free => exact ⟨Nat.le_refl _, free, fun k least below => absurd below (Nat.not_lt.mpr least)⟩
    | @further n m taken more ih =>
      obtain ⟨bounded, free, earlier⟩ := ih
      refine ⟨by omega, free, fun k least below => ?_⟩
      obtain rfl | later := Nat.eq_or_lt_of_le least
      · exact taken
      · exact earlier k later below
  · rintro ⟨bounded, free, earlier⟩
    induction h : m - n generalizing n with
    | zero =>
      obtain rfl : n = m := by omega
      exact .here free
    | succ d ih =>
      refine .further (earlier n (Nat.le_refl _) (by omega)) (ih (by omega) (fun k least => ?_) (by omega))
      exact earlier k (by omega)

theorem Search.congr {f g : Nat → Bool} {n m : Nat} (search : Search f n m) (same : ∀ k, n ≤ k → g k = f k) :
    Search g n m := by
  induction search with
  | here free => exact .here ((same _ (Nat.le_refl _)).trans free)
  | further taken _ ih =>
    exact .further ((same _ (Nat.le_refl _)).trans taken) (ih fun k later => same k (Nat.le_of_succ_le later))

theorem leastFreePositive (bound : Nat) (isFree : Nat → Bool) : 1 ≤ leastFree bound isFree := by
  unfold leastFree
  cases found : ((List.range bound).map (· + 1)).find? isFree with
  | none => simp
  | some n =>
    obtain ⟨m, _, rfl⟩ := List.mem_map.mp (List.mem_of_find?_eq_some found)
    simp

theorem leastFreeSearch {α : Type} (places : List α) (place : Nat → α) (injective : Function.Injective place)
    (isFree : Nat → Bool) (occupied : ∀ n, isFree n = false → place n ∈ places) :
    Search isFree 1 (leastFree places.length isFree) :=
  searchExactly.mpr ⟨leastFreePositive _ _, leastFreeFree places place injective isFree occupied,
    fun _ positive below => leastFreeLeast _ _ positive below⟩

/-- What a call makes of a name behind earlier results: the name itself if it is new, and else the name with the
number at which the search for a new one ends. -/
inductive Made (earlier : List String) (name : String) : String → Prop where
  | itself (fresh : name ∉ earlier) : Made earlier name name
  | again {n : Nat} (old : name ∈ earlier) (search : Search (fun n => numbered name n ∉ earlier) 1 n) :
      Made earlier name (numbered name n)

theorem Made.congr {earlier other : List String} {name result : String} (made : Made earlier name result)
    (same : ∀ x, x ∈ other ↔ x ∈ earlier) : Made other name result := by
  cases made with
  | itself fresh => exact .itself (by rwa [same])
  | again old search => exact .again ((same name).mpr old) (by simpa only [same] using search)

theorem Made.least {earlier : List String} {name result : String} (made : Made earlier name result) :
    if name ∈ earlier then
      ∃ n, IsLeast {n | 1 ≤ n ∧ numbered name n ∉ earlier} n ∧ result = numbered name n
    else result = name := by
  cases made with
  | itself fresh => rw [if_neg fresh]
  | @again n old search =>
    obtain ⟨positive, free, least⟩ := searchExactly.mp search
    rw [if_pos old]
    refine ⟨n, ⟨⟨positive, by simpa using free⟩, fun m ⟨start, new⟩ => ?_⟩, rfl⟩
    by_contra below
    exact new (by simpa using least m start (Nat.lt_of_not_le below))

theorem uniqueMade (taken : List String) (name : String) : Made taken name (unique taken name) := by
  unfold unique
  split
  · rename_i old
    exact .again old (leastFreeSearch taken (numbered name) (numberedInjective name) _ fun n busy => by
      simpa using busy)
  · rename_i fresh
    exact .itself fresh

theorem uniqueAllMade (taken : List String) {names : List String} {i : Nat} {name : String}
    (listed : names[i]? = some name) : ∃ result, (uniqueAll taken names)[i]? = some result ∧
      Made ((uniqueAll taken names).take i ++ taken) name result := by
  induction names generalizing taken i with
  | nil => simp at listed
  | cons first rest ih =>
    cases i with
    | zero =>
      cases listed
      exact ⟨unique taken name, rfl, uniqueMade taken name⟩
    | succ i =>
      obtain ⟨result, there, made⟩ := ih (unique taken first :: taken) listed
      refine ⟨result, there, made.congr fun x => ?_⟩
      simp only [uniqueAll, List.take_succ_cons, List.cons_append, List.mem_cons, List.mem_append]
      exact or_left_comm

theorem uniqueFresh (taken : List String) (name : String) : unique taken name ∉ taken := by
  unfold unique
  split
  · have free := leastFreeFree taken (numbered name) (numberedInjective name)
      (fun n => numbered name n ∉ taken) (fun n busy => by simpa using busy)
    simpa using free
  · assumption

theorem uniqueAllFresh (taken names : List String) :
    (uniqueAll taken names).Nodup ∧ ∀ key ∈ uniqueAll taken names, key ∉ taken := by
  induction names generalizing taken with
  | nil => simp [uniqueAll]
  | cons name rest ih =>
    obtain ⟨distinct, fresh⟩ := ih (unique taken name :: taken)
    refine ⟨List.nodup_cons.mpr ⟨fun again => ?_, distinct⟩, fun key inside => ?_⟩
    · exact fresh _ again List.mem_cons_self
    · rcases List.mem_cons.mp inside with rfl | later
      · exact uniqueFresh taken name
      · exact fun old => fresh key later (List.mem_cons_of_mem _ old)

theorem uniqueAllLength (taken names : List String) :
    (uniqueAll taken names).length = names.length := by
  induction names generalizing taken with
  | nil => rfl
  | cons name rest ih => simp [uniqueAll, ih]

end ApiScreens.Naming
