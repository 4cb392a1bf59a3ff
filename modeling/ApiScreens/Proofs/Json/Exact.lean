import ApiScreens.Proofs.Json.Outline
import ApiScreens.Proofs.Json.Record

/-! Which values their text brings back whole: those whose numbers are read as what they are, whose objects
name no member twice and whose nesting is within the limit. What is read is always of the last two kinds. -/
namespace ApiScreens.Json

namespace Value

def ReadsBack (v : Value) : Prop := parse v.pretty = some v

instance (v : Value) : Decidable v.ReadsBack := by
  unfold ReadsBack
  infer_instance

theorem spelledMembers {ms : Members} (spelled : (object ms).Spelled) : ∀ m ∈ ms, m.2.Spelled := by
  cases spelled with
  | object each => exact each

theorem fitsRead {v : Value} {depth : Nat} (fits : v.Fits depth) : ((Written.ofValue v).value? depth).isSome := by
  induction fits with
  | array each ih => exact arrayRead ih
  | object names each ih => exact objectRead ih
  | _ => rfl

theorem valuesSame {items : List Value} (each : ∀ x ∈ items, ∀ {depth : Nat} {w : Value},
      (Written.ofValue x).value? depth = some w → w = x) {depth : Nat} {values : List Value}
    (read : Written.values? depth (Written.ofValues items) = some values) : values = items := by
  induction items generalizing values with
  | nil =>
    cases read
    rfl
  | cons x rest ih =>
    simp only [Written.ofValues, Written.values?, Option.bind_eq_bind, Option.bind_eq_some_iff,
      Option.some.injEq] at read
    obtain ⟨v, here, more, later, rfl⟩ := read
    rw [each x List.mem_cons_self here, ih (fun y inside => each y (List.mem_cons_of_mem _ inside)) later]

theorem pairsSame {ms : Members} (each : ∀ m ∈ ms, ∀ {depth : Nat} {w : Value},
      (Written.ofValue m.2).value? depth = some w → w = m.2) {depth : Nat} {pairs : List (String × Value)}
    (read : Written.pairs? depth (Written.ofMembers ms) = some pairs) : pairs = ms := by
  induction ms generalizing pairs with
  | nil =>
    cases read
    rfl
  | cons m rest ih =>
    obtain ⟨key, v⟩ := m
    simp only [Written.ofMembers, Written.pairs?, Option.bind_eq_bind, Option.bind_eq_some_iff,
      Option.some.injEq] at read
    obtain ⟨_, rfl, w, here, more, later, rfl⟩ := read
    rw [each (key, v) List.mem_cons_self here, ih (fun n inside => each n (List.mem_cons_of_mem _ inside)) later]

theorem readSame {v : Value} {levels : Nat} (fits : v.Fits levels) {depth : Nat} {w : Value}
    (read : (Written.ofValue v).value? depth = some w) : w = v := by
  induction fits generalizing depth w with
  | array each ih =>
    simp only [Written.ofValue, Written.value?, Option.ite_none_left_eq_some, Option.map_eq_some_iff] at read
    obtain ⟨_, values, later, rfl⟩ := read
    rw [valuesSame (fun x inside _ _ => ih x inside) later]
  | object names each ih =>
    simp only [Written.ofValue, Written.value?, Option.ite_none_left_eq_some, Option.map_eq_some_iff] at read
    obtain ⟨_, pairs, later, rfl⟩ := read
    have same := pairsSame (fun m inside _ _ => ih m inside) later
    rw [same, Members.pairsWhole names]
  | _ =>
    cases read
    rfl

theorem valuesSpelled {items : List Value} (each : ∀ x ∈ items, ∀ {depth : Nat},
      x.reread.value? depth = some x → x.Spelled) {depth : Nat}
    (read : Written.values? depth (rereadItems items) = some items) : ∀ x ∈ items, x.Spelled := by
  induction items with
  | nil => exact fun _ inside => absurd inside List.not_mem_nil
  | cons x rest ih =>
    simp only [rereadItems, Written.values?, Option.bind_eq_bind, Option.bind_eq_some_iff, Option.some.injEq,
      List.cons.injEq] at read
    obtain ⟨v, here, more, later, rfl, rfl⟩ := read
    exact List.forall_mem_cons.mpr
      ⟨each v List.mem_cons_self here, ih (fun y inside => each y (List.mem_cons_of_mem _ inside)) later⟩

theorem pairsSpelled {ms : Members} (each : ∀ m ∈ ms, ∀ {depth : Nat},
      m.2.reread.value? depth = some m.2 → m.2.Spelled) {depth : Nat}
    (read : Written.pairs? depth (rereadMembers ms) = some ms) : ∀ m ∈ ms, m.2.Spelled := by
  induction ms with
  | nil => exact fun _ inside => absurd inside List.not_mem_nil
  | cons m rest ih =>
    obtain ⟨key, v⟩ := m
    simp only [rereadMembers, Written.pairs?, Option.bind_eq_bind, Option.bind_eq_some_iff, Option.some.injEq,
      List.cons.injEq, Prod.mk.injEq] at read
    obtain ⟨_, rfl, w, here, more, later, ⟨_, rfl⟩, rfl⟩ := read
    exact List.forall_mem_cons.mpr
      ⟨each (_, w) List.mem_cons_self here, ih (fun n inside => each n (List.mem_cons_of_mem _ inside)) later⟩

theorem rereadSame {v : Value} {depth : Nat} (read : v.reread.value? depth = some v) : v.Spelled := by
  induction v using byParts generalizing depth with
  | null => exact .null
  | bool b => exact .bool b
  | string s => exact .string s
  | number n =>
    obtain ⟨m, denotes, same⟩ := Option.map_eq_some_iff.mp read
    cases same
    exact .number (by rw [numberReads, denotes])
  | array items ih =>
    simp only [reread, Written.value?, Option.ite_none_left_eq_some, Option.map_eq_some_iff, array.injEq] at read
    obtain ⟨_, values, later, rfl⟩ := read
    exact .array (valuesSpelled (fun x inside _ => ih x inside) later)
  | object members ih =>
    simp only [reread, Written.value?, Option.ite_none_left_eq_some, Option.map_eq_some_iff, object.injEq] at read
    obtain ⟨_, pairs, later, same⟩ := read
    -- the members are made of the pairs, so their names differ, and so do those of the pairs
    have names : (pairs.map (·.1)).Nodup := by
      rw [pairsNames later, ← same]
      exact Members.pairsNodup pairs
    rw [Members.pairsWhole names] at same
    subst same
    exact .object (pairsSpelled (fun m inside _ => ih m inside) later)

theorem readsBackExactly {v : Value} : v.ReadsBack ↔ v.Spelled ∧ v.Fits depthLimit := by
  constructor
  · intro back
    refine ⟨?_, parseFits back⟩
    unfold ReadsBack at back
    rw [parse, pretty, String.toList_ofList, readWritten Style.prettyBlank, Option.bind_some] at back
    exact rereadSame back
  · rintro ⟨spelled, fits⟩
    obtain ⟨w, read⟩ := Option.isSome_iff_exists.mp (fitsRead fits)
    rw [ReadsBack, parse, readPretty spelled, Option.bind_some, read, readSame fits read]

theorem setReadsBack {ms : Members} {v : Value} (back : (object ms).ReadsBack) (name : String)
    (spelled : v.Spelled) (fits : v.Fits (depthLimit - 1)) : (object (ms.set name v)).ReadsBack := by
  obtain ⟨all, whole⟩ := readsBackExactly.mp back
  obtain ⟨names, each⟩ := fitsMembers whole
  refine readsBackExactly.mpr ⟨.object fun m inside => ?_, .object (Members.setNodup name v names) fun m inside => ?_⟩
  · rcases Members.memberSet inside with rfl | before
    · exact spelled
    · exact spelledMembers all m before
  · rcases Members.memberSet inside with rfl | before
    · exact fits
    · exact each m before

theorem atFits {v w : Value} {depth : Nat} {names : List String} (fits : v.Fits depth) (found : v.at? names = some w) :
    ∃ levels, w.Fits levels := by
  induction names generalizing v depth with
  | nil => exact ⟨depth, Option.some.inj found ▸ fits⟩
  | cons name rest ih =>
    obtain ⟨inner, held, deeper⟩ := Option.bind_eq_some_iff.mp found
    cases v with
    | object ms => exact ih ((fitsMembers fits).2 _ (Members.memberGet held)) deeper
    | _ => contradiction

theorem pairsGet {ms : Members} {depth : Nat} {pairs : List (String × Value)}
    (read : Written.pairs? depth (rereadMembers ms) = some pairs) {name : String} {v : Value}
    (held : ms.get? name = some v) : ∃ w, Members.get? pairs name = some w ∧ v.reread.value? depth = some w := by
  induction ms generalizing pairs with
  | nil => contradiction
  | cons m rest ih =>
    obtain ⟨key, x⟩ := m
    simp only [rereadMembers, Written.pairs?, Option.bind_eq_bind, Option.bind_eq_some_iff,
      Option.some.injEq] at read
    obtain ⟨_, rfl, w, here, more, later, rfl⟩ := read
    rw [Members.getCons] at held ⊢
    split at held
    · rename_i same
      cases held
      exact ⟨w, if_pos same, here⟩
    · rename_i other
      obtain ⟨z, found, back⟩ := ih later held
      exact ⟨z, by rw [if_neg other, found], back⟩

theorem rereadAt {v w x : Value} {depth levels : Nat} {names : List String} (distinct : v.Distinct)
    (read : v.reread.value? depth = some w) (found : v.at? names = some x) (spelled : x.Spelled)
    (fits : x.Fits levels) : w.at? names = some x := by
  induction names generalizing v w depth with
  | nil =>
    cases found
    rw [rereadSpelled spelled] at read
    rw [atNil, readSame fits read]
  | cons name rest ih =>
    obtain ⟨inner, held, deeper⟩ := Option.bind_eq_some_iff.mp found
    cases v with
    | object ms =>
      obtain ⟨unique, each⟩ := distinctMembers distinct
      simp only [reread, Written.value?, Option.ite_none_left_eq_some, Option.map_eq_some_iff] at read
      obtain ⟨_, pairs, later, rfl⟩ := read
      obtain ⟨y, here, back⟩ := pairsGet later held
      rw [Members.pairsWhole (pairsNames later ▸ unique), atCons, here]
      exact ih (each _ (Members.memberGet held)) back deeper
    | _ => contradiction

end Value
end ApiScreens.Json
