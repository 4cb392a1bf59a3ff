import ApiScreens.Proofs.Json.Record
import ApiScreens.Proofs.Script.Bracket

/-! Columns and texts read back from their literals. No text that a column holds ends its string, its line or its
object, and the functions that render cells keep their commas and brackets to themselves. -/
namespace ApiScreens.Script

def string? : List Token → Option String
  | [.text s] => some s
  | _ => none

def size? : List Token → Option UInt32
  | [.word digits] => (decimal? digits).bind fun n => if n < UInt32.size then some (.ofNat n) else none
  | _ => none

def member? : List Token → Option (String × List Token)
  | .word name :: .mark ':' :: value => if value = [] then none else some (String.ofList name, value)
  | _ => none

def members? (ts : List Token) : Option (List (String × List Token)) :=
  ((elements? '{' '}' ts).bind (·.mapM member?)).bind fun ms => if (ms.map Prod.fst).Nodup then some ms else none

def column? (ts : List Token) : Option Column := do
  let ms ← members? ts
  let key ← (ms.lookup "accessorKey").bind string?
  let header ← (ms.lookup "header").bind string?
  let size ← (ms.lookup "size").bind size?
  match ms.lookup "minSize" with
  | none => some ⟨key, header, size, none⟩
  | some least => (size? least).map fun n => ⟨key, header, size, some n⟩

def readArray {α : Type} (item : List Token → Option α) (literal : String) : Option (List α) :=
  (tokens? literal.toList).bind fun ts => (elements? '[' ']' ts).bind (·.mapM item)

def readColumns : String → Option (List Column) := readArray column?

def readTexts : String → Option (List String) := readArray string?

def memberTokens (m : String × List Token) : List Token := .word m.1.toList :: .mark ':' :: m.2

def CellKind.tokens (k : CellKind) : List Token := (tokens? k.renderer.toList).getD []

theorem rendererRead (k : CellKind) :
    tokens? k.renderer.toList = some k.tokens ∧ Whole k.tokens ∧ k.tokens ≠ [] := by
  have one : (tokens? k.renderer.toList).any (fun ts => Whole ts ∧ ts ≠ []) = true := by cases k <;> decide +kernel
  unfold CellKind.tokens
  cases read : tokens? k.renderer.toList with
  | none => simp [read] at one
  | some ts => simpa [read] using one

def members (c : Column) : List (String × List Token) :=
  [("accessorKey", [.text c.accessorKey]), ("header", [.text c.header]),
   ("size", [.word (Json.integerText c.size.toNat)])] ++
  (c.minSize.map fun least => ("minSize", [Token.word (Json.integerText least.toNat)])).toList ++
  ((cellKind c.accessorKey).map fun k => ("cell", k.tokens)).toList

def objectTokens (ms : List (String × List Token)) : List Token :=
  .mark '{' :: ((ms.map memberTokens).flatMap (· ++ [.mark ',']) ++ [.mark '}'])

theorem propertyRead (name : String) {value : String} {ts : List Token} (named : tokens? name.toList = some [.word name.toList])
    (read : tokens? value.toList = some ts) :
    Lexed [property name value] (memberTokens (name, ts) ++ [.mark ',']) := by
  have shape : (property name value).toList = name.toList ++ ':' :: ' ' :: (value.toList ++ [',']) := by
    simp [property]
  refine .one ?_
  rw [shape, tokensAppend named (partedCons (by decide) _), tokensMark (by decide), tokensBlank (by decide),
    tokensAppend read (partedCons (by decide) []), tokensAlone (by decide)]
  simp [memberTokens]

theorem numberRead (n : Nat) : tokens? (natText n).toList = some [.word (Json.integerText n)] := by
  rw [natText, String.toList_ofList, tokensDecimal]

theorem propertiesRead (c : Column) :
    Lexed (columnProperties c) (((members c).map memberTokens).flatMap (· ++ [.mark ','])) := by
  have key := propertyRead "accessorKey" (by decide +kernel) (tokensString c.accessorKey)
  have header := propertyRead "header" (by decide +kernel) (tokensString c.header)
  have size := propertyRead "size" (by decide +kernel) (numberRead c.size.toNat)
  have front := (key.append header).append size
  have least : Lexed (c.minSize.map fun least => property "minSize" (natText least.toNat)).toList
      (((c.minSize.map fun least => ("minSize", [Token.word (Json.integerText least.toNat)])).toList.map
        memberTokens).flatMap (· ++ [.mark ','])) := by
    cases c.minSize with
    | none => exact .nil
    | some n => simpa using propertyRead "minSize" (by decide +kernel) (numberRead n.toNat)
  have cell : Lexed ((cellKind c.accessorKey).map fun k => property "cell" k.renderer).toList
      ((((cellKind c.accessorKey).map fun k => ("cell", k.tokens)).toList.map
        memberTokens).flatMap (· ++ [.mark ','])) := by
    cases cellKind c.accessorKey with
    | none => exact .nil
    | some k => simpa using propertyRead "cell" (by decide +kernel) (rendererRead k).1
  simpa [columnProperties, members] using (front.append least).append cell

theorem membersWhole {ms : List (String × List Token)} (each : ∀ m ∈ ms, Whole m.2) :
    ∀ e ∈ ms.map memberTokens, Whole e := by
  intro e listed
  obtain ⟨m, inside, rfl⟩ := List.mem_map.mp listed
  exact ((each m inside).cons rfl (by decide)).cons rfl nofun

theorem objectWhole {ms : List (String × List Token)} (each : ∀ m ∈ ms, Whole m.2) :
    Whole (objectTokens ms) :=
  Whole.bracket rfl (partsTrailing (membersWhole each))

theorem objectRead {ms : List (String × List Token)} (whole : ∀ m ∈ ms, Whole m.2) (filled : ∀ m ∈ ms, m.2 ≠ [])
    (distinct : (ms.map Prod.fst).Nodup) : members? (objectTokens ms) = some ms := by
  have read : (ms.map memberTokens).mapM member? = some ms := by
    have all := Json.mapMSome (f := member? ∘ memberTokens) (g := id) (l := ms) fun m inside => by
      simp [member?, memberTokens, filled m inside]
    simpa [List.mapM_map] using all
  rw [members?, objectTokens, elementsTrailing '{' '}' (membersWhole whole), Option.bind_some, read, Option.bind_some,
    if_pos distinct]

theorem membersEach (c : Column) : ∀ m ∈ members c, Whole m.2 ∧ m.2 ≠ [] := by
  intro m listed
  simp only [members, List.mem_append, List.mem_cons, List.not_mem_nil, or_false, Option.mem_toList,
    Option.map_eq_some_iff] at listed
  rcases listed with ((rfl | rfl | rfl) | ⟨_, _, rfl⟩) | ⟨k, _, rfl⟩
  · exact ⟨rfl, by simp⟩
  · exact ⟨rfl, by simp⟩
  · exact ⟨rfl, by simp⟩
  · exact ⟨rfl, by simp⟩
  · exact (rendererRead k).2

theorem membersDistinct (c : Column) : ((members c).map Prod.fst).Nodup := by
  unfold members
  cases c.minSize <;> cases cellKind c.accessorKey <;> simp

theorem sizeRead (n : UInt32) : size? [.word (Json.integerText n.toNat)] = some n := by
  simp [size?, decimalRead, n.toNat_lt_size]

theorem columnRead (c : Column) : column? (objectTokens (members c)) = some c := by
  have read := objectRead (fun m listed => (membersEach c m listed).1) (fun m listed => (membersEach c m listed).2)
    (membersDistinct c)
  obtain ⟨key, header, size, least⟩ := c
  rw [column?, read]
  cases least <;> cases kind : cellKind key <;> simp [members, kind, List.lookup_cons, string?, sizeRead]

theorem arrayRead {α : Type} {item : List Token → Option α} (spelled : α → List Token) {literal : String}
    {xs : List α} (read : tokens? literal.toList =
      some (.mark '[' :: ([Token.mark ','].intercalate (xs.map spelled) ++ [.mark ']'])))
    (whole : ∀ x ∈ xs, Whole (spelled x)) (filled : ∀ x ∈ xs, spelled x ≠ [])
    (each : ∀ x ∈ xs, item (spelled x) = some x) : readArray item literal = some xs := by
  have all := Json.mapMSome (f := item ∘ spelled) (g := id) (l := xs) fun x listed => each x listed
  rw [readArray, read, Option.bind_some, elementsJoined '[' ']' (by simpa using whole) (by simpa using filled),
    Option.bind_some, List.mapM_map]
  simpa using all

theorem columnsRead {columns : List Column} (some : columns ≠ []) :
    readColumns (columnsLiteral columns) = Option.some columns := by
  have empty : columns.isEmpty = false := by simpa using some
  have bracket {c : Char} (mark : c ∈ marks) : tokens? (String.ofList [c]).toList = Option.some [.mark c] := by
    rw [String.toList_ofList, tokensAlone mark]
  have object (c : Column) : Lexed (block "" (columnProperties c) "") (objectTokens (members c)) :=
    (propertiesRead c).enclosed (bracket (c := '{') (by decide)) (bracket (c := '}') (by decide))
  have array := (Lexed.separated (fun c (_ : c ∈ columns) => object c) fun c _ => List.cons_ne_nil _ _).enclosed
    (bracket (c := '[') (by decide)) (bracket (c := ']') (by decide))
  refine arrayRead (fun c => objectTokens (members c)) ?_
    (fun c _ => objectWhole fun m listed => (membersEach c m listed).1) (fun c _ => List.cons_ne_nil _ _)
    fun c _ => columnRead c
  rw [columnsLiteral, empty]
  exact array.whole

theorem textsRead (texts : List String) : readTexts (stringArray texts) = some texts := by
  refine arrayRead (fun s => [.text s]) ?_ (fun s _ => rfl) (fun s _ => List.cons_ne_nil _ _) fun s _ => rfl
  have shape : (stringArray texts).toList = '[' :: ((commas (texts.map stringLiteral)).toList ++ [']']) := by
    simp [stringArray]
  rw [shape, tokensMark (by decide), tokensAppend (tokensCommas texts) (partedCons (by decide) []),
    tokensAlone (by decide)]
  rfl

theorem literalsReadBack :
    (∀ columns, columns ≠ [] → readColumns (columnsLiteral columns) = some columns) ∧
    (∀ columns others, columns ≠ [] → others ≠ [] →
      columnsLiteral columns = columnsLiteral others → columns = others) ∧
    (∀ texts, readTexts (stringArray texts) = some texts) ∧
    Function.Injective stringArray := by
  refine ⟨fun _ => columnsRead, ?_, textsRead, ?_⟩
  · intro columns others some more same
    have read := columnsRead some
    rw [same, columnsRead more] at read
    exact (Option.some.inj read).symm
  · intro texts others same
    have read := textsRead texts
    rw [same, textsRead others] at read
    exact (Option.some.inj read).symm

theorem feignedReadBack :
    let columns : List Column :=
      [⟨"a\"b\\c\nd", "x\",\n\t\x7d,\n\t\x7b\n\t\taccessorKey: \"y", 80, some 60⟩, ⟨"status", "", 0, none⟩]
    columns ≠ [] ∧ readColumns (columnsLiteral columns) = some columns ∧
      readTexts (stringArray ["\", \"", "\\"]) = some ["\", \"", "\\"] :=
  ⟨List.cons_ne_nil _ _, literalsReadBack.1 _ (List.cons_ne_nil _ _), literalsReadBack.2.2.1 _⟩

end ApiScreens.Script
