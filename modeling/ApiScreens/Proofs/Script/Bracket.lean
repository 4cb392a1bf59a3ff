import ApiScreens.Proofs.Script.Token

/-! Array and object literals by their tokens. Only the commas that stand in no inner brackets cut, so that an element
may hold brackets, commas and functions of its own; the elements that were joined are found again. -/
namespace ApiScreens.Script

variable {ts us inner behind : List Token} {ps : List (List Token)} {due base : List Char} {c d : Char}

def closer? : Char → Option Char
  | '(' => some ')'
  | '[' => some ']'
  | '{' => some '}'
  | _ => none

def nesting (due : List Char) : Token → Option (List Char)
  | .mark c =>
    match closer? c with
    | some d => some (d :: due)
    | none => if c ∈ [')', ']', '}'] then (if due.head? = some c then some due.tail else none) else some due
  | _ => some due

/-- The parts between the commas that stand in no brackets; nothing if brackets do not match. -/
def parts (due : List Char) : List Token → Option (List (List Token))
  | [] => if due = [] then some [[]] else none
  | t :: rest =>
    if t = .mark ',' ∧ due = [] then (parts [] rest).map ([] :: ·)
    else (nesting due t).bind fun open_ => (parts open_ rest).map (List.modifyHead (t :: ·))

def Whole (ts : List Token) : Prop := parts [] ts = some [ts]

instance : Decidable (Whole ts) := inferInstanceAs (Decidable (_ = _))

def elements? (opening closing : Char) : List Token → Option (List (List Token))
  | .mark o :: rest =>
    if o = opening ∧ rest.getLast? = some (.mark closing) then
      (parts [] rest.dropLast).map fun ps => if ps.getLast? = some [] then ps.dropLast else ps
    else none
  | _ => none

theorem partsStep {t : Token} {open_ : List Char} (inside : ¬(t = .mark ',' ∧ due = []))
    (next : nesting due t = some open_) (rest : List Token) :
    parts due (t :: rest) = (parts open_ rest).map (List.modifyHead (t :: ·)) := by
  rw [parts, if_neg inside, next]
  rfl

theorem partsComma (rest : List Token) : parts [] (.mark ',' :: rest) = (parts [] rest).map ([] :: ·) := by
  simp [parts]

theorem partsNonempty (cut : parts due ts = some ps) : ps ≠ [] := by
  fun_induction parts due ts generalizing ps with
  | case1 =>
    cases cut
    simp
  | case2 => contradiction
  | case3 =>
    obtain ⟨_, _, rfl⟩ := Option.map_eq_some_iff.mp cut
    simp
  | case4 due t rest _ ih =>
    obtain ⟨open_, _, later⟩ := Option.bind_eq_some_iff.mp cut
    obtain ⟨qs, found, rfl⟩ := Option.map_eq_some_iff.mp later
    simpa using ih open_ found

theorem headsJoined (t : Token) (found : Option (List (List Token))) :
    (found.map (List.modifyHead (ts ++ ·))).map (List.modifyHead (t :: ·)) =
      found.map (List.modifyHead (t :: ts ++ ·)) := by
  cases found with
  | none => rfl
  | some ps => cases ps <;> rfl

theorem headsSame (found : Option (List (List Token))) : found = found.map (List.modifyHead ([] ++ ·)) := by
  cases found with
  | none => rfl
  | some ps => cases ps <;> rfl

theorem partsAlone (cut : parts due ts = some [us]) (behind : List Token) :
    ts = us ∧ parts due (ts ++ behind) = (parts [] behind).map (List.modifyHead (ts ++ ·)) := by
  fun_induction parts due ts generalizing us with
  | case1 =>
    cases cut
    exact ⟨rfl, headsSame (parts [] behind)⟩
  | case2 => contradiction
  | case3 =>
    obtain ⟨qs, found, same⟩ := Option.map_eq_some_iff.mp cut
    exact absurd (List.cons.inj same).2 (partsNonempty found)
  | case4 due t rest inside ih =>
    obtain ⟨open_, next, later⟩ := Option.bind_eq_some_iff.mp cut
    obtain ⟨qs, found, same⟩ := Option.map_eq_some_iff.mp later
    -- one part in all means one part behind the first token
    obtain ⟨q, rfl, rfl⟩ : ∃ q, qs = [q] ∧ t :: q = us := by
      cases qs with
      | nil => contradiction
      | cons q more => simpa [and_comm] using same
    obtain ⟨rfl, on⟩ := ih open_ found
    exact ⟨rfl, by rw [List.cons_append, partsStep inside next, on, headsJoined]⟩

theorem nestingUnder {t : Token} {open_ : List Char} (next : nesting due t = some open_) (base : List Char) :
    nesting (due ++ base) t = some (open_ ++ base) := by
  unfold nesting at next ⊢
  split at next
  · split at next
    · cases next
      rfl
    · split at next
      · split at next
        · rename_i first
          cases next
          cases due with
          | nil => contradiction
          | cons d due => simp_all
        · contradiction
      · simp_all
  · cases next
    rfl

theorem partsUnder (cut : parts due ts = some ps) (under : base ≠ []) (behind : List Token) :
    parts (due ++ base) (ts ++ behind) = (parts base behind).map (List.modifyHead (ts ++ ·)) := by
  have below (due : List Char) (t : Token) : ¬(t = .mark ',' ∧ due ++ base = []) := by simp [under]
  fun_induction parts due ts generalizing ps with
  | case1 => exact headsSame (parts base behind)
  | case2 => contradiction
  | case3 due t rest comma ih =>
    obtain ⟨qs, found, _⟩ := Option.map_eq_some_iff.mp cut
    -- a comma that cuts on its own stays inside the bracket that is open below
    have stays : nesting (due ++ base) t = some base := by
      rw [comma.1, comma.2]
      rfl
    rw [List.cons_append, partsStep (below due t) stays]
    exact (congrArg _ (ih found)).trans (headsJoined t _)
  | case4 due t rest _ ih =>
    obtain ⟨open_, next, later⟩ := Option.bind_eq_some_iff.mp cut
    obtain ⟨qs, found, _⟩ := Option.map_eq_some_iff.mp later
    rw [List.cons_append, partsStep (below due t) (nestingUnder next base), ih open_ found, headsJoined]

theorem Whole.goesOn (whole : Whole ts) (behind : List Token) :
    parts [] (ts ++ behind) = (parts [] behind).map (List.modifyHead (ts ++ ·)) :=
  (partsAlone whole behind).2

theorem Whole.cons {t : Token} (plain : nesting [] t = some []) (other : t ≠ .mark ',') (whole : Whole ts) :
    Whole (t :: ts) := by
  rw [Whole, partsStep (fun both => other both.1) plain, whole]
  rfl

theorem Whole.bracket (closes : closer? c = some d) (cut : parts [] inner = some ps) :
    Whole (.mark c :: (inner ++ [.mark d])) := by
  have opens : nesting [] (.mark c) = some [d] := by simp [nesting, closes]
  have notComma : ¬(Token.mark c = .mark ',' ∧ ([] : List Char) = []) := by
    rintro ⟨same, _⟩
    cases same
    contradiction
  have ends : parts [d] [.mark d] = some [[.mark d]] := by
    unfold closer? at closes
    split at closes <;> cases closes <;> rfl
  rw [Whole, partsStep notComma opens]
  have inside : parts [d] (inner ++ [.mark d]) = some [inner ++ [.mark d]] := by
    rw [← List.nil_append [d], partsUnder cut (List.cons_ne_nil d []), ends]
    rfl
  rw [inside]
  rfl

theorem partsJoined {es : List (List Token)} (whole : ∀ e ∈ es, Whole e) (some : es ≠ []) :
    parts [] ([Token.mark ','].intercalate es) = Option.some es := by
  induction es with
  | nil => exact absurd rfl some
  | cons e more ih =>
    have here := whole e List.mem_cons_self
    cases more with
    | nil => exact List.intercalate_singleton.symm ▸ here
    | cons second others =>
      have later := ih (fun f listed => whole f (List.mem_cons_of_mem _ listed)) (by simp)
      rw [List.intercalate_cons_cons, List.append_assoc, here.goesOn, List.singleton_append, partsComma, later]
      simp

theorem partsTrailing {es : List (List Token)} (whole : ∀ e ∈ es, Whole e) :
    parts [] (es.flatMap (· ++ [.mark ','])) = some (es ++ [[]]) := by
  induction es with
  | nil => rfl
  | cons e more ih =>
    have later := ih fun f listed => whole f (List.mem_cons_of_mem _ listed)
    rw [List.flatMap_cons, List.append_assoc, (whole e List.mem_cons_self).goesOn, List.singleton_append, partsComma,
      later]
    simp

theorem elementsOf (opening closing : Char) (cut : parts [] inner = some ps) :
    elements? opening closing (.mark opening :: (inner ++ [.mark closing])) =
      some (if ps.getLast? = some [] then ps.dropLast else ps) := by
  simp [elements?, cut]

theorem elementsJoined (opening closing : Char) {es : List (List Token)} (whole : ∀ e ∈ es, Whole e)
    (filled : ∀ e ∈ es, e ≠ []) :
    elements? opening closing (.mark opening :: ([Token.mark ','].intercalate es ++ [.mark closing])) = some es := by
  by_cases empty : es = []
  · subst empty
    exact elementsOf opening closing (rfl : parts [] [] = some [[]])
  · have last : es.getLast? ≠ some [] := fun same => filled [] (List.mem_of_getLast? same) rfl
    rw [elementsOf opening closing (partsJoined whole empty), if_neg last]

theorem elementsTrailing (opening closing : Char) {es : List (List Token)} (whole : ∀ e ∈ es, Whole e) :
    elements? opening closing (.mark opening :: (es.flatMap (· ++ [.mark ',']) ++ [.mark closing])) = some es := by
  rw [elementsOf opening closing (partsTrailing whole), List.getLast?_concat, if_pos rfl, List.dropLast_concat]

end ApiScreens.Script
