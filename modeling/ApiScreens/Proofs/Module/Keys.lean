import ApiScreens.Proofs.Module.Built

/-! The keys of the modules of a solution. Names that come out alike in camel case are told apart by numbers, and
also those that look like a name with its number, so no module takes the place of another. -/
namespace ApiScreens
open Naming

theorem Naming.Made.form {earlier : List String} {name result : String} (made : Made earlier name result) :
    result = name ∨ ∃ n, 1 ≤ n ∧ result = numbered name n := by
  cases made with
  | itself fresh => exact .inl rfl
  | again old search => exact .inr ⟨_, (searchExactly.mp search).1, rfl⟩

namespace Solution

theorem moduleAt {doc : Document} {h : Heuristics} {solution : String} {entities : List Entity} {i : Nat} {n : Entity}
    (listed : entities[i]? = some n) : ∃ key, (moduleKeys entities)[i]? = some key ∧
      Made ((moduleKeys entities).take i) (camel n.name) key ∧
      (ofEntities doc h solution entities).modules.get? key = some (Blueprint.mk doc h solution n).build := by
  have named : (entities.map fun n => camel n.name)[i]? = some (camel n.name) := by simp [listed]
  obtain ⟨key, there, made⟩ := uniqueAllMade [] named
  rw [List.append_nil] at made
  refine ⟨key, there, made, SortedMap.entryOfGet.mpr ((builtPerm doc h solution entities).mem_iff.mpr ?_)⟩
  refine List.mem_of_getElem? (i := i) (List.getElem?_zip_eq_some.mpr ⟨there, ?_⟩)
  simp [listed]

theorem namesToldApart (names : List String) (doc : Document) (h : Heuristics) (solution : String)
    (entities : List Entity) :
    ((uniqueAll [] names).length = names.length ∧ (uniqueAll [] names).Nodup ∧
      ∀ (i : Nat) (name : String), names[i]? = some name →
        let earlier := (uniqueAll [] names).take i
        ∃ result, (uniqueAll [] names)[i]? = some result ∧ Made earlier name result ∧
          if name ∈ earlier then
            ∃ n, IsLeast {n | 1 ≤ n ∧ numbered name n ∉ earlier} n ∧ result = numbered name n
          else result = name) ∧
    ((moduleKeys entities).length = entities.length ∧ (moduleKeys entities).Nodup ∧
      (ofEntities doc h solution entities).modules.keys.Perm (moduleKeys entities) ∧
      ∀ (i : Nat) (n : Entity), entities[i]? = some n → ∃ key, (moduleKeys entities)[i]? = some key ∧
        (key = camel n.name ∨ ∃ count, 1 ≤ count ∧ key = numbered (camel n.name) count) ∧
        (ofEntities doc h solution entities).modules.get? key = some (Blueprint.mk doc h solution n).build) := by
  refine ⟨⟨uniqueAllLength [] names, (uniqueAllFresh [] names).1, fun i name listed => ?_⟩,
    moduleKeysLength entities, moduleKeysNodup entities, builtKeys doc h solution entities, fun i n listed => ?_⟩
  · obtain ⟨result, there, made⟩ := uniqueAllMade [] listed
    rw [List.append_nil] at made
    exact ⟨result, there, made, made.least⟩
  · obtain ⟨key, there, made, built⟩ := moduleAt listed
    exact ⟨key, there, made.form, built⟩

theorem ordersToldApart :
    let names := ["order_1", "order", "order", "order_1"]
    let doc : Document := ⟨.object []⟩
    let entities := [doc.entity "tax-invoice", doc.entity "tax_invoice"]
    (names[3]? = some "order_1" ∧ ∃ result, (uniqueAll [] names)[3]? = some result ∧
      ∃ n, IsLeast {n | 1 ≤ n ∧ numbered "order_1" n ∉ (uniqueAll [] names).take 3} n ∧ result = numbered "order_1" n) ∧
    entities[1]? = some (doc.entity "tax_invoice") ∧ ∃ key, (moduleKeys entities)[1]? = some key ∧
      (ofEntities doc {} "sales" entities).modules.get? key =
        some (Blueprint.mk doc {} "sales" (doc.entity "tax_invoice")).build := by
  intro names doc entities
  obtain ⟨⟨_, _, each⟩, _, _, _, modules⟩ := namesToldApart names doc {} "sales" entities
  obtain ⟨result, there, _, least⟩ := each 3 "order_1" rfl
  obtain ⟨key, keyed, _, built⟩ := modules 1 (doc.entity "tax_invoice") rfl
  have old : "order_1" ∈ (uniqueAll [] names).take 3 := by decide
  rw [if_pos old] at least
  exact ⟨⟨rfl, result, there, least⟩, rfl, key, keyed, built⟩

example : uniqueAll [] ["order_1", "order", "order", "order_1"] = ["order_1", "order", "order_2", "order_1_1"] := by
  decide

end Solution
end ApiScreens
