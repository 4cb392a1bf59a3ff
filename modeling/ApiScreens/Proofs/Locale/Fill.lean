import ApiScreens.Locale.Catalog
import ApiScreens.Proofs.Json.Members

/-! Filling a leaf of a tree of texts. A leaf is filled exactly if nothing is in its way, and then the tree
differs in that leaf and in the objects that lead to it, none of which loses a member. -/
namespace ApiScreens.Locale
open Json (Value Members)

namespace Catalog

inductive Held : Value → Prop where
  | bool (b : Bool) : Held (.bool b)
  | number (n : Json.Numeral) : Held (.number n)
  | string {s : String} (text : s ≠ "") : Held (.string s)
  | array (items : List Value) : Held (.array items)

/-- Whether a text fits at a path: nothing or an object at every step that leads to it, and nothing, null or an
empty text at its end. -/
structure Admits (ms : Members) (path : List String) : Prop where
  way : ∀ q, q <+: path → q ≠ path →
    (Value.object ms).at? q = none ∨ ∃ inner, (Value.object ms).at? q = some (.object inner)
  leaf : (Value.object ms).at? path = none ∨ (Value.object ms).at? path = some .null ∨
    (Value.object ms).at? path = some (.string "")

inductive Filled (v : String) : Members → List String → Members → Prop where
  | leaf {ms : Members} {name : String} (vacant : isVacant (ms.get? name) = true) :
      Filled v ms [name] (ms.set name (.string v))
  | within {ms inner filled : Members} {name : String} {path : List String}
      (held : ms.get? name = some (.object inner)) (deep : Filled v inner path filled) :
      Filled v ms (name :: path) (ms.set name (.object filled))
  | anew {ms filled : Members} {name : String} {path : List String} (absent : ms.get? name = none)
      (deep : Filled v [] path filled) : Filled v ms (name :: path) (ms.set name (.object filled))

variable {v : String} {ms filled : Members} {path q : List String}

theorem vacantExactly {held : Option Value} :
    isVacant held = true ↔ held = none ∨ held = some .null ∨ held = some (.string "") := by
  cases held with
  | none => simp [isVacant]
  | some w => cases w <;> simp [isVacant]; grind

theorem vacantGone {held : Option Value} (vacant : isVacant held = true) (deeper : q ≠ []) :
    held.bind (Value.at? · q) = none := by
  rcases vacantExactly.mp vacant with rfl | rfl | rfl
  · rfl
  · exact Value.atOther rfl deeper
  · exact Value.atOther rfl deeper

theorem filledDeeper (fills : Filled v ms path filled) : path ≠ [] := by
  cases fills <;> simp

theorem fillFills (filling : fill? v ms path = some filled) : Filled v ms path filled := by
  induction path generalizing ms filled with
  | nil => simp [fill?] at filling
  | cons name rest ih =>
    cases rest with
    | nil =>
      simp only [fill?, Option.ite_none_right_eq_some, Option.some.injEq] at filling
      obtain ⟨vacant, rfl⟩ := filling
      exact .leaf vacant
    | cons next rest =>
      unfold fill? at filling
      split at filling
      · rename_i absent
        obtain ⟨inner, deep, rfl⟩ := Option.map_eq_some_iff.mp filling
        exact .anew absent (ih deep)
      · rename_i inner held
        obtain ⟨inside, deep, rfl⟩ := Option.map_eq_some_iff.mp filling
        exact .within held (ih deep)
      · contradiction

theorem filledFill (fills : Filled v ms path filled) : fill? v ms path = some filled := by
  induction fills with
  | leaf vacant => simp [fill?, vacant]
  | @within ms inner filled name path held deep ih =>
    cases path with
    | nil => exact absurd rfl (filledDeeper deep)
    | cons next rest => simp [fill?, held, ih]
  | @anew ms filled name path absent deep ih =>
    cases path with
    | nil => exact absurd rfl (filledDeeper deep)
    | cons next rest => simp [fill?, absent, ih]

theorem fillExactly : fill? v ms path = some filled ↔ Filled v ms path filled := ⟨fillFills, filledFill⟩

theorem admitsLeaf {name : String} : Admits ms [name] ↔ isVacant (ms.get? name) = true := by
  have here : (Value.object ms).at? [name] = ms.get? name := by simp
  rw [vacantExactly, ← here]
  refine ⟨fun admits => admits.leaf, fun leaf => ⟨fun q leads proper => ?_, leaf⟩⟩
  cases q with
  | nil => exact .inr ⟨ms, rfl⟩
  | cons step rest =>
    obtain ⟨rfl, ends⟩ := List.cons_prefix_cons.mp leads
    exact absurd (by rw [List.prefix_nil.mp ends]) proper

theorem admitsCons {name : String} (more : path ≠ []) :
    Admits ms (name :: path) ↔
      ms.get? name = none ∨ ∃ inner, ms.get? name = some (.object inner) ∧ Admits inner path := by
  constructor
  · rintro ⟨way, leaf⟩
    have first := way [name] (by simp) (by simpa using more)
    simp only [Value.atCons, Value.atNil, Option.bind_fun_some] at first
    refine first.imp id fun ⟨inner, held⟩ => ⟨inner, held, ?_⟩
    rw [Value.atCons, held, Option.bind_some] at leaf
    refine ⟨fun q leads proper => ?_, leaf⟩
    have deeper := way (name :: q) (List.cons_prefix_cons.mpr ⟨rfl, leads⟩) (by simpa using proper)
    rwa [Value.atCons, held, Option.bind_some] at deeper
  · rintro (absent | ⟨inner, held, way, leaf⟩)
    · refine ⟨fun q leads _ => ?_, .inl (by rw [Value.atCons, absent, Option.bind_none])⟩
      cases q with
      | nil => exact .inr ⟨ms, rfl⟩
      | cons step rest =>
        obtain ⟨rfl, _⟩ := List.cons_prefix_cons.mp leads
        exact .inl (by rw [Value.atCons, absent, Option.bind_none])
    · refine ⟨fun q leads proper => ?_, by rwa [Value.atCons, held, Option.bind_some]⟩
      cases q with
      | nil => exact .inr ⟨ms, rfl⟩
      | cons step rest =>
        obtain ⟨rfl, deeper⟩ := List.cons_prefix_cons.mp leads
        rw [Value.atCons, held, Option.bind_some]
        exact way rest deeper fun same => proper (by rw [same])

theorem filledAdmits (fills : Filled v ms path filled) : Admits ms path := by
  induction fills with
  | leaf vacant => exact admitsLeaf.mpr vacant
  | within held deep ih => exact (admitsCons (filledDeeper deep)).mpr (.inr ⟨_, held, ih⟩)
  | anew absent deep ih => exact (admitsCons (filledDeeper deep)).mpr (.inl absent)

theorem emptyFilled (v : String) (leads : path ≠ []) : ∃ filled, Filled v [] path filled := by
  induction path with
  | nil => exact absurd rfl leads
  | cons name rest ih =>
    cases rest with
    | nil => exact ⟨_, .leaf rfl⟩
    | cons next rest =>
      obtain ⟨filled, deep⟩ := ih (by simp)
      exact ⟨_, .anew rfl deep⟩

theorem admitsFilled (v : String) (leads : path ≠ []) (admits : Admits ms path) :
    ∃ filled, Filled v ms path filled := by
  induction path generalizing ms with
  | nil => exact absurd rfl leads
  | cons name rest ih =>
    cases rest with
    | nil => exact ⟨_, .leaf (admitsLeaf.mp admits)⟩
    | cons next rest =>
      rcases (admitsCons (by simp)).mp admits with absent | ⟨inner, held, deeper⟩
      · obtain ⟨filled, deep⟩ := emptyFilled v (List.cons_ne_nil next rest)
        exact ⟨_, .anew absent deep⟩
      · obtain ⟨filled, deep⟩ := ih (by simp) deeper
        exact ⟨_, .within held deep⟩

theorem admitsExactly (v : String) (leads : path ≠ []) :
    Admits ms path ↔ (fill? v ms path).isSome = true := by
  rw [Option.isSome_iff_exists]
  constructor
  · intro admits
    exact (admitsFilled v leads admits).imp fun _ => fillExactly.mpr
  · rintro ⟨filled, filling⟩
    exact filledAdmits (fillExactly.mp filling)

theorem filledLeaf (fills : Filled v ms path filled) :
    (Value.object filled).at? path = some (.string v) := by
  induction fills with
  | leaf vacant => simp [Members.getSet]
  | within held deep ih => simpa [Members.getSet] using ih
  | anew absent deep ih => simpa [Members.getSet] using ih

theorem filledElsewhere (fills : Filled v ms path filled) (apart : ¬q <+: path) :
    (Value.object filled).at? q = (Value.object ms).at? q := by
  induction fills generalizing q with
  | @leaf ms name vacant =>
    cases q with
    | nil => exact absurd List.nil_prefix apart
    | cons step rest =>
      rw [Value.atCons, Value.atCons, Members.getSet]
      split
      · rename_i same
        subst same
        have deeper : rest ≠ [] := fun ends => apart (ends ▸ List.prefix_refl _)
        rw [Option.bind_some, Value.atOther rfl deeper, vacantGone vacant deeper]
      · rfl
  | @within ms inner filled name path held deep ih =>
    cases q with
    | nil => exact absurd List.nil_prefix apart
    | cons step rest =>
      rw [Value.atCons, Value.atCons, Members.getSet]
      split
      · rename_i same
        subst same
        rw [held, Option.bind_some, Option.bind_some]
        exact ih fun leads => apart (List.cons_prefix_cons.mpr ⟨rfl, leads⟩)
      · rfl
  | @anew ms filled name path absent deep ih =>
    cases q with
    | nil => exact absurd List.nil_prefix apart
    | cons step rest =>
      rw [Value.atCons, Value.atCons, Members.getSet]
      split
      · rename_i same
        subst same
        have further : ¬rest <+: path := fun leads => apart (List.cons_prefix_cons.mpr ⟨rfl, leads⟩)
        have deeper : rest ≠ [] := fun ends => further (ends ▸ List.nil_prefix)
        rw [absent, Option.bind_some, Option.bind_none, ih further, Value.atEmpty deeper]
      · rfl

theorem filledWay (fills : Filled v ms path filled) (leads : q <+: path) (proper : q ≠ path) :
    ∃ after : Members, (Value.object filled).at? q = some (.object after) ∧
      ∀ before : Members, (Value.object ms).at? q = some (.object before) → before.keys <+: after.keys := by
  induction fills generalizing q with
  | leaf vacant =>
    cases q with
    | nil => exact ⟨_, rfl, by rintro _ ⟨⟩; exact Members.keysSet ..⟩
    | cons step rest =>
      obtain ⟨rfl, ends⟩ := List.cons_prefix_cons.mp leads
      exact absurd (by rw [List.prefix_nil.mp ends]) proper
  | within held deep ih =>
    cases q with
    | nil => exact ⟨_, rfl, by rintro _ ⟨⟩; exact Members.keysSet ..⟩
    | cons step rest =>
      obtain ⟨rfl, deeper⟩ := List.cons_prefix_cons.mp leads
      have later := ih deeper fun same => proper (by rw [same])
      simpa [Members.getSet, held] using later
  | anew absent deep ih =>
    cases q with
    | nil => exact ⟨_, rfl, by rintro _ ⟨⟩; exact Members.keysSet ..⟩
    | cons step rest =>
      obtain ⟨rfl, deeper⟩ := List.cons_prefix_cons.mp leads
      obtain ⟨after, held, _⟩ := ih deeper fun same => proper (by rw [same])
      exact ⟨after, by simpa [Members.getSet] using held, by simp [absent]⟩

theorem heldExactly {w : Value} : Held w ↔ w.isObject = false ∧ isVacant (some w) = false := by
  constructor
  · rintro (_ | _ | text | _) <;> simp_all [Value.isObject, Value.members?, isVacant]
  · rintro ⟨leaf, occupied⟩
    cases w with
    | null => contradiction
    | bool b => exact .bool b
    | number n => exact .number n
    | string s =>
      refine .string ?_
      rintro rfl
      contradiction
    | array items => exact .array items
    | object inner => contradiction

theorem filledKeeps {w : Value} (fills : Filled v ms path filled) (here : (Value.object ms).at? q = some w)
    (leaf : w.isObject = false) (other : q ≠ path) : (Value.object filled).at? q = some w := by
  by_cases leads : q <+: path
  · rcases (filledAdmits fills).way q leads other with absent | ⟨inner, held⟩
    · rw [absent] at here
      contradiction
    · rw [held] at here
      cases here
      contradiction
  · rw [filledElsewhere fills leads, here]

theorem filledHeld {w : Value} (fills : Filled v ms path filled) (here : (Value.object ms).at? q = some w)
    (held : Held w) : (Value.object filled).at? q = some w := by
  obtain ⟨leaf, occupied⟩ := heldExactly.mp held
  refine filledKeeps fills here leaf ?_
  rintro rfl
  have vacant := vacantExactly.mpr (filledAdmits fills).leaf
  rw [here, occupied] at vacant
  contradiction

theorem filledObject {before : Members} (fills : Filled v ms path filled)
    (here : (Value.object ms).at? q = some (.object before)) :
    ∃ after : Members, (Value.object filled).at? q = some (.object after) ∧ before.keys <+: after.keys := by
  by_cases leads : q <+: path
  · have proper : q ≠ path := by
      rintro rfl
      have vacant := (filledAdmits fills).leaf
      simp [here] at vacant
    obtain ⟨after, held, grown⟩ := filledWay fills leads proper
    exact ⟨after, held, grown before here⟩
  · exact ⟨before, by rw [filledElsewhere fills leads, here], List.prefix_refl _⟩

theorem filledBlocks {other : List String} (fills : Filled v ms path filled) (blocked : ¬Admits ms other) :
    ¬Admits filled other := by
  intro admits
  refine blocked ⟨fun q leads proper => ?_, ?_⟩
  · have opened := admits.way q leads proper
    cases here : (Value.object ms).at? q with
    | none => exact .inl rfl
    | some w =>
      rcases w.objectOrLeaf with ⟨inner, rfl⟩ | leaf
      · exact .inr ⟨inner, rfl⟩
      · by_cases same : q = path
        · subst same
          simp [filledLeaf fills] at opened
        · rw [filledKeeps fills here leaf same] at opened
          rcases opened with absent | ⟨inner, object⟩
          · contradiction
          · cases object
            contradiction
  · have leaf := admits.leaf
    cases here : (Value.object ms).at? other with
    | none => exact .inl rfl
    | some w =>
      rw [← vacantExactly]
      rcases w.objectOrLeaf with ⟨inner, rfl⟩ | kind
      · obtain ⟨after, held, _⟩ := filledObject fills here
        simp [held] at leaf
      · by_contra occupied
        have held := filledHeld fills here (heldExactly.mpr ⟨kind, by simpa using occupied⟩)
        rw [held, ← vacantExactly] at leaf
        exact occupied leaf

end Catalog
end ApiScreens.Locale
