import ApiScreens.Locale.Calls
import ApiScreens.Proofs.Text.Pieces
import Mathlib.Data.List.Infix
import Mathlib.Data.List.TakeWhile

/-! Which keys a text uses. A use is told by its own characters and by the one in front of it. Two uses overlap only
where the closing quote and parenthesis of the first open the second, whose key then begins with `)`; all other uses
are found wherever they stand. -/
namespace ApiScreens.Locale

structure Quoted (opening : Char) (key : List Char) (closing : Char) : Prop where
  opening : isQuote opening = true
  closing : isQuote closing = true
  nonempty : key ≠ []
  clear : ∀ c ∈ key, isQuote c = false

def written (opening : Char) (key : List Char) (closing : Char) : List Char :=
  't' :: '(' :: opening :: (key ++ [closing, ')'])

variable {opening closing : Char} {key text behind : List Char}

theorem quotedExactly {name : String} : quotedKey? text = some (name, behind) ↔
    ∃ opening closing, Quoted opening name.toList closing ∧ text = opening :: (name.toList ++ closing :: behind) := by
  constructor
  · intro found
    cases text with
    | nil => simp [quotedKey?] at found
    | cons opening rest =>
      simp only [quotedKey?, Bool.and_eq_true, decide_eq_true_eq] at found
      split at found
      · rename_i good
        split at found
        · rename_i closing _ later
          obtain ⟨rfl, rfl⟩ := Prod.mk.inj (Option.some.inj found)
          have closes := List.head?_dropWhile_not (fun c => !isQuote c) rest
          rw [later] at closes
          refine ⟨opening, closing, ⟨good.1, by simpa using closes, by simpa using good.2, fun c inside => ?_⟩, ?_⟩
          · have kept : c ∈ rest.takeWhile (!isQuote ·) := by simpa using inside
            simpa using List.mem_takeWhile_imp kept
          · rw [String.toList_ofList, ← later, List.takeWhile_append_dropWhile]
        · contradiction
      · contradiction
  · rintro ⟨opening, closing, quoted, rfl⟩
    have passed : ∀ c ∈ name.toList, (!isQuote c) = true := fun c inside => by simp [quoted.clear c inside]
    have stops : (!isQuote closing) = false := by simp [quoted.closing]
    obtain ⟨key, rest⟩ := Text.markCut passed stops behind
    simp [quotedKey?, key, rest, quoted.opening, quoted.nonempty]

theorem useExactly {name : String} : use? text = some (name, behind) ↔
    ∃ opening closing, Quoted opening name.toList closing ∧ text = written opening name.toList closing ++ behind := by
  constructor
  · intro found
    unfold use? at found
    split at found
    · split at found
      · rename_i key after inner
        obtain ⟨rfl, rfl⟩ := Prod.mk.inj (Option.some.inj found)
        obtain ⟨opening, closing, quoted, rfl⟩ := quotedExactly.mp inner
        exact ⟨opening, closing, quoted, by simp [written]⟩
      · contradiction
    · contradiction
  · rintro ⟨opening, closing, quoted, rfl⟩
    have inner : quotedKey? (opening :: (name.toList ++ closing :: ')' :: behind)) = some (name, ')' :: behind) :=
      quotedExactly.mpr ⟨opening, closing, quoted, rfl⟩
    simp [use?, written, inner]

theorem useWritten (quoted : Quoted opening key closing) (behind : List Char) :
    use? (written opening key closing ++ behind) = some (String.ofList key, behind) :=
  useExactly.mpr ⟨opening, closing, by simpa using quoted, by simp⟩

theorem useBegins {c : Char} {rest : List Char} (differs : c ≠ 't') : use? (c :: rest) = none := by
  simp [use?, differs]

theorem quoteOther {c : Char} (quote : isQuote c = true) : c ≠ 't' ∧ c ≠ '(' := by
  constructor <;> (rintro rfl; exact absurd quote (by decide))

theorem quoteCloses {other front tail after : List Char} {q : Char} (quoted : Quoted opening key closing)
    (starts : key.head? ≠ some ')') (closes : isQuote q = true) (clear : ∀ c ∈ other, isQuote c = false)
    (shape : other ++ [q, ')'] = front ++ 't' :: tail) (rest : '(' :: opening :: (key ++ behind) = tail ++ after) :
    False := by
  rcases List.append_eq_append_iff.mp shape with ⟨ends, _, last⟩ | ⟨deeper, inside, last⟩
  · match ends, last with
    | [], last => exact (quoteOther closes).1 (List.cons.inj last).1
    | [_], last => exact absurd (List.cons.inj (List.cons.inj last).2).1 (by decide)
    | _ :: _ :: [], last => simp at last
    | _ :: _ :: _ :: _, last => simp at last
  · match deeper, last with
    | [], last => exact (quoteOther closes).1 (List.cons.inj last).1.symm
    | [_], last =>
      obtain ⟨_, rfl⟩ := List.cons.inj last
      exact (quoteOther closes).2 (List.cons.inj rest).1.symm
    | [_, _], last =>
      obtain ⟨_, rfl⟩ := List.cons.inj last
      have following := (List.cons.inj (List.cons.inj rest).2).2
      cases key with
      | nil => exact quoted.nonempty rfl
      | cons c more => exact starts (by simpa using (List.cons.inj following).1)
    | _ :: _ :: c :: more, last =>
      obtain ⟨_, rfl⟩ := List.cons.inj last
      have same : opening = c := (List.cons.inj (List.cons.inj rest).2).1
      have quote := clear c (by simp [inside])
      rw [← same, quoted.opening] at quote
      contradiction

theorem useApart {other before after : List Char} {o q : Char} (quoted : Quoted opening key closing)
    (starts : key.head? ≠ some ')') (first : Quoted o other q) (earlier : before ≠ [])
    (same : before ++ (written opening key closing ++ behind) = written o other q ++ after) :
    ∃ between, before = written o other q ++ between := by
  rcases List.append_eq_append_iff.mp same with ⟨tail, shape, rest⟩ | ⟨between, shape, _⟩
  · cases tail with
    | nil => exact ⟨[], by simpa using shape.symm⟩
    | cons head tail =>
      exfalso
      simp only [written, List.cons_append, List.append_assoc, List.cons.injEq] at rest
      obtain ⟨rfl, rest⟩ := rest
      match before, shape with
      | [], _ => exact earlier rfl
      | [_], shape => exact absurd (List.cons.inj (List.cons.inj shape).2).1 (by decide)
      | [_, _], shape =>
        exact (quoteOther first.opening).1 (List.cons.inj (List.cons.inj (List.cons.inj shape).2).2).1
      | _ :: _ :: _ :: _, shape =>
        have inside := (List.cons.inj (List.cons.inj (List.cons.inj shape).2).2).2
        exact quoteCloses quoted starts first.closing first.clear inside rest
  · exact ⟨between, shape⟩

theorem keysUse {name : String} (before : Option Char) (found : use? text = some (name, behind)) :
    keysAfter before text = (if beginsName before then [name] else []) ++ keysAfter (some ')') behind := by
  cases text with
  | nil => simp [use?] at found
  | cons c rest =>
    rw [keysAfter]
    split
    · rename_i key after there
      obtain ⟨rfl, rfl⟩ := Prod.mk.inj (Option.some.inj (there.symm.trans found))
      split <;> rfl
    · rename_i none
      rw [none] at found
      contradiction

theorem keysSkip {c : Char} {rest : List Char} (before : Option Char) (none : use? (c :: rest) = none) :
    keysAfter before (c :: rest) = keysAfter (some c) rest := by
  rw [keysAfter]
  split
  · rename_i found
    rw [none] at found
    contradiction
  · rfl

theorem scanInduction {motive : Option Char → List Char → Prop} (done : ∀ p, motive p [])
    (use : ∀ p {opening key closing} behind, Quoted opening key closing → motive (some ')') behind →
      motive p (written opening key closing ++ behind))
    (skip : ∀ p c rest, use? (c :: rest) = none → motive (some c) rest → motive p (c :: rest))
    (p : Option Char) (text : List Char) : motive p text := by
  induction size : text.length using Nat.strong_induction_on generalizing p text with
  | _ n ih =>
    cases text with
    | nil => exact done p
    | cons c rest =>
      cases found : use? (c :: rest) with
      | none => exact skip p c rest found (ih _ (by simp [← size]) _ _ rfl)
      | some used =>
        obtain ⟨name, behind⟩ := used
        have shorter := useShorter found
        obtain ⟨opening, closing, quoted, shape⟩ := useExactly.mp found
        rw [shape]
        exact use p behind quoted (ih _ (size ▸ shorter) _ _ rfl)

theorem keysWritten (quoted : Quoted opening key closing) (before : Option Char) (behind : List Char) :
    keysAfter before (written opening key closing ++ behind) =
      (if beginsName before then [String.ofList key] else []) ++ keysAfter (some ')') behind :=
  keysUse before (useWritten quoted behind)

theorem writtenLast (opening closing : Char) (key behind : List Char) (before : Option Char) :
    (written opening key closing ++ behind).getLast?.or before = behind.getLast?.or (some ')') := by
  cases behind with
  | nil => simp [written, List.getLast?_cons]
  | cons c rest => simp [List.getLast?_append, List.getLast?_cons]

theorem keysAround (quoted : Quoted opening key closing) (starts : key.head? ≠ some ')') (p : Option Char)
    (before behind : List Char) :
    keysAfter p (before ++ (written opening key closing ++ behind)) = keysAfter p before ++
      (if beginsName (before.getLast?.or p) then [String.ofList key] else []) ++ keysAfter (some ')') behind := by
  induction p, before using scanInduction with
  | done p =>
    rw [List.nil_append, keysWritten quoted, keysAfter]
    rfl
  | use p rest first ih =>
    rw [List.append_assoc, keysWritten first, ih, keysWritten first, writtenLast]
    simp only [List.append_assoc]
  | skip p c rest none ih =>
    have passed : use? (c :: rest ++ (written opening key closing ++ behind)) = Option.none := by
      by_contra some
      obtain ⟨⟨name, after⟩, found⟩ := Option.ne_none_iff_exists'.mp some
      obtain ⟨o, q, first, shape⟩ := useExactly.mp found
      obtain ⟨between, inside⟩ := useApart quoted starts first (by simp) shape
      rw [inside, useWritten first] at none
      contradiction
    rw [List.cons_append] at passed ⊢
    rw [keysSkip p passed, ih, keysSkip p none]
    cases rest <;> simp [List.getLast?_cons]

theorem useQuotes {name : String} (found : use? text = some (name, behind)) : 2 ≤ text.countP isQuote := by
  obtain ⟨opening, closing, quoted, rfl⟩ := useExactly.mp found
  simp [written, List.countP_append, List.countP_cons, quoted.opening, quoted.closing]
  omega

theorem keysFew {few : List Char} (one : few.countP isQuote ≤ 1) (p : Option Char) : keysAfter p few = [] := by
  induction few generalizing p with
  | nil => simp [keysAfter]
  | cons c rest ih =>
    have none : use? (c :: rest) = none := by
      by_contra some
      obtain ⟨⟨name, behind⟩, found⟩ := Option.ne_none_iff_exists'.mp some
      have two := useQuotes found
      omega
    have fewer : rest.countP isQuote ≤ 1 := le_trans (by simp [List.countP_cons]) one
    rw [keysSkip p none, ih fewer]

theorem keysOpen {few : List Char} (quoted : Quoted opening key closing) (part : few <+: key ++ [closing])
    (p : Option Char) : keysAfter p few = [] := by
  have none : key.countP isQuote = 0 := List.countP_eq_zero.mpr fun c inside => by simp [quoted.clear c inside]
  have one : (key ++ [closing]).countP isQuote = 1 := by simp [List.countP_append, none, quoted.closing]
  exact keysFew (one ▸ part.sublist.countP_le) p

theorem keysPending {c : Char} {rest more : List Char} {name : String} (none : use? (c :: rest) = none)
    (later : use? (c :: rest ++ more) = some (name, behind)) (p : Option Char) : keysAfter p rest = [] := by
  obtain ⟨opening, closing, quoted, shape⟩ := useExactly.mp later
  rcases List.append_eq_append_iff.mp shape with ⟨left, whole, _⟩ | ⟨between, whole, _⟩
  · have lacks : left ≠ [] := by
      rintro rfl
      rw [← List.append_nil (c :: rest), ← whole, ← List.append_nil (written _ _ _), useWritten quoted] at none
      contradiction
    have inside := (List.cons.inj whole).2
    match rest, inside with
    | [], _ => rw [keysAfter]
    | [_], inside =>
      obtain ⟨same, _⟩ := List.cons.inj inside
      rw [← same, keysSkip p (useBegins (by decide)), keysAfter]
    | _ :: _ :: few, inside =>
      obtain ⟨same, inside⟩ := List.cons.inj inside
      obtain ⟨opens, inside⟩ := List.cons.inj inside
      rw [← same, ← opens, keysSkip p (useBegins (by decide)), keysSkip _ (useBegins (quoteOther quoted.opening).1)]
      have ends : few ++ left = name.toList ++ [closing, ')'] := inside.symm
      refine keysOpen quoted ⟨left.dropLast, ?_⟩ _
      rw [← List.dropLast_append_of_ne_nil lacks, ends]
      simp
  · rw [whole, useWritten quoted] at none
    contradiction

theorem keysGrow (p : Option Char) (text more : List Char) : keysAfter p text <+: keysAfter p (text ++ more) := by
  induction p, text using scanInduction with
  | done p => simp [keysAfter]
  | use p rest first ih =>
    rw [List.append_assoc, keysWritten first, keysWritten first]
    exact (List.prefix_append_right_inj _).mpr ih
  | skip p c rest none ih =>
    cases later : use? (c :: rest ++ more) with
    | none =>
      rw [List.cons_append] at later ⊢
      rwa [keysSkip p none, keysSkip p later]
    | some used =>
      rw [keysSkip p none, keysPending none later]
      exact List.nil_prefix

theorem keysBegin {before : Option Char} (begins : beginsName before = true) (text : List Char) :
    keysAfter before text = keysAfter none text := by
  cases text with
  | nil => rw [keysAfter, keysAfter]
  | cons c rest =>
    cases found : use? (c :: rest) with
    | none => rw [keysSkip before found, keysSkip none found]
    | some used => rw [keysUse before found, keysUse none found, begins]; rfl

structure Use where
  start : Nat
  key : List Char
  deriving DecidableEq

namespace Use

def stop (u : Use) : Nat := u.start + u.key.length + 5

def In (u : Use) (text : List Char) : Prop :=
  ∃ opening closing, Quoted opening u.key closing ∧ written opening u.key closing <+: text.drop u.start

def alone (text : List Char) (u : Use) : Bool :=
  (text.take u.start).getLast?.all fun c => !Text.isAlphanumeric c && c ∉ ['_', '$', '.']

theorem inExactly {u : Use} : u.In text ↔ ∃ behind, use? (text.drop u.start) = some (String.ofList u.key, behind) := by
  constructor
  · rintro ⟨opening, closing, quoted, behind, shape⟩
    exact ⟨behind, shape ▸ useWritten quoted behind⟩
  · rintro ⟨behind, found⟩
    obtain ⟨opening, closing, quoted, shape⟩ := useExactly.mp found
    rw [String.toList_ofList] at quoted shape
    exact ⟨opening, closing, quoted, behind, shape.symm⟩

theorem inSame {u v : Use} (here : u.In text) (there : v.In text) (starts : u.start = v.start) : u = v := by
  obtain ⟨behind, found⟩ := inExactly.mp here
  obtain ⟨other, again⟩ := inExactly.mp there
  rw [starts, again] at found
  have keys : v.key = u.key := String.ofList_injective (Prod.mk.inj (Option.some.inj found)).1
  cases u
  cases v
  simp_all

theorem aloneBegins (u : Use) : u.alone text = beginsName (text.take u.start).getLast? := by
  simp only [alone, beginsName]
  congr 1
  funext c
  simp [Bool.or_assoc]

end Use

/-- The uses of a text from a place on, taken from the left and none overlapping another: each use in the text is
taken or begins inside of one that is. -/
structure Taken (text : List Char) (place : Nat) (uses : List Use) : Prop where
  each : ∀ u ∈ uses, u.In text ∧ place ≤ u.start
  apart : uses.Pairwise fun u v => u.stop ≤ v.start
  leftmost : ∀ v, v.In text → place ≤ v.start → v ∈ uses ∨ ∃ u ∈ uses, u.start < v.start ∧ v.start < u.stop

def reported (text : List Char) (uses : List Use) : List String :=
  (uses.filter (·.alone text)).map fun u => String.ofList u.key

namespace Taken
variable {place : Nat} {u : Use} {us vs : List Use}

theorem first (taken : Taken text place (u :: us)) {w : Use} (there : w.In text) (onward : place ≤ w.start) :
    u.start ≤ w.start := by
  have behind : ∀ v ∈ u :: us, u.start ≤ v.start := by
    intro v listed
    rcases List.mem_cons.mp listed with rfl | later
    · exact Nat.le_refl _
    · have apart := List.rel_of_pairwise_cons taken.apart later
      unfold Use.stop at apart
      omega
  rcases taken.leftmost w there onward with listed | ⟨v, listed, earlier, _⟩
  · exact behind w listed
  · exact le_trans (behind v listed) (Nat.le_of_lt earlier)

theorem rest (taken : Taken text place (u :: us)) : Taken text u.stop us where
  each v listed :=
    ⟨(taken.each v (List.mem_cons_of_mem _ listed)).1, List.rel_of_pairwise_cons taken.apart listed⟩
  apart := taken.apart.of_cons
  leftmost w there behind := by
    have here := (taken.each u List.mem_cons_self).2
    have later : u.start < w.start := by unfold Use.stop at behind; omega
    rcases taken.leftmost w there (by omega) with listed | ⟨v, listed, earlier, inside⟩
    · rcases List.mem_cons.mp listed with rfl | listed
      · omega
      · exact .inl listed
    · rcases List.mem_cons.mp listed with rfl | listed
      · omega
      · exact .inr ⟨v, listed, earlier, inside⟩

theorem cons (here : u.In text) (onward : place ≤ u.start)
    (first : ∀ w : Use, w.In text → place ≤ w.start → u.start ≤ w.start) (rest : Taken text u.stop us) :
    Taken text place (u :: us) where
  each v listed := by
    rcases List.mem_cons.mp listed with rfl | listed
    · exact ⟨here, onward⟩
    · obtain ⟨there, behind⟩ := rest.each v listed
      exact ⟨there, by unfold Use.stop at behind; omega⟩
  apart := List.pairwise_cons.mpr ⟨fun v listed => (rest.each v listed).2, rest.apart⟩
  leftmost w there behind := by
    have least := first w there behind
    by_cases same : w.start = u.start
    · exact .inl (Use.inSame there here same ▸ List.mem_cons_self)
    · by_cases inside : w.start < u.stop
      · exact .inr ⟨u, List.mem_cons_self, by omega, inside⟩
      · rcases rest.leftmost w there (by omega) with listed | ⟨v, listed, within⟩
        · exact .inl (List.mem_cons_of_mem _ listed)
        · exact .inr ⟨v, List.mem_cons_of_mem _ listed, within⟩

theorem skip (none : ∀ w : Use, w.In text → w.start ≠ place) (taken : Taken text (place + 1) us) :
    Taken text place us where
  each v listed := ⟨(taken.each v listed).1, by have := (taken.each v listed).2; omega⟩
  apart := taken.apart
  leftmost w there behind := taken.leftmost w there (by have := none w there; omega)

theorem only (taken : Taken text place us) (other : Taken text place vs) : us = vs := by
  induction us generalizing place vs with
  | nil =>
    cases vs with
    | nil => rfl
    | cons v vs =>
      obtain ⟨there, behind⟩ := other.each v List.mem_cons_self
      rcases taken.leftmost v there behind with listed | ⟨_, listed, _⟩ <;> exact absurd listed List.not_mem_nil
  | cons u us ih =>
    obtain ⟨here, place⟩ := taken.each u List.mem_cons_self
    cases vs with
    | nil => rcases other.leftmost u here place with listed | ⟨_, listed, _⟩ <;> exact absurd listed List.not_mem_nil
    | cons v vs =>
      obtain ⟨there, behind⟩ := other.each v List.mem_cons_self
      have same : u = v := Use.inSame here there (le_antisymm (taken.first there behind) (other.first here place))
      subst same
      rw [ih taken.rest other.rest]

end Taken

theorem writtenLength (opening closing : Char) (key : List Char) :
    (written opening key closing).length = key.length + 5 := by simp [written]

theorem keysTaken (front text : List Char) : ∃ uses, Taken (front ++ text) front.length uses ∧
    keysAfter front.getLast? text = reported (front ++ text) uses := by
  generalize before : front.getLast? = p
  induction p, text using scanInduction generalizing front with
  | done p =>
    refine ⟨[], ⟨by simp, List.Pairwise.nil, fun w there behind => ?_⟩, by simp [keysAfter, reported]⟩
    obtain ⟨after, found⟩ := Use.inExactly.mp there
    rw [List.append_nil, List.drop_eq_nil_of_le behind] at found
    simp [use?] at found
  | @use p opening key closing rest quoted ih =>
    have last : (front ++ written opening key closing).getLast? = some ')' := by
      rw [List.getLast?_append]
      simpa using writtenLast opening closing key [] front.getLast?
    obtain ⟨us, taken, keys⟩ := ih _ last
    let u : Use := ⟨front.length, key⟩
    have stop : (front ++ written opening key closing).length = u.stop := by
      rw [List.length_append, writtenLength, Use.stop, Nat.add_assoc]
    rw [stop, List.append_assoc] at taken
    rw [List.append_assoc] at keys
    have here : u.In (front ++ (written opening key closing ++ rest)) :=
      ⟨opening, closing, quoted, by simp [u]⟩
    refine ⟨u :: us, .cons here (Nat.le_refl _) (fun _ _ behind => behind) taken, ?_⟩
    have alone : u.alone (front ++ (written opening key closing ++ rest)) = beginsName p := by
      rw [Use.aloneBegins, List.take_left' rfl, before]
    rw [keysWritten quoted, keys, reported, reported, List.filter_cons, alone]
    split <;> rfl
  | skip p c rest none ih =>
    obtain ⟨us, taken, keys⟩ := ih (front ++ [c]) (by simp)
    rw [List.append_assoc, List.singleton_append] at taken keys
    rw [List.length_append, List.length_singleton] at taken
    refine ⟨us, .skip (fun w there here => ?_) taken, by rw [keysSkip p none, keys]⟩
    obtain ⟨after, found⟩ := Use.inExactly.mp there
    rw [here, List.drop_left' rfl, none] at found
    contradiction

theorem Taken.found {place : Nat} {uses : List Use} (taken : Taken text place uses) {u : Use} (here : u.In text)
    (behind : place ≤ u.start) (starts : u.key.head? ≠ some ')') : u ∈ uses := by
  rcases taken.leftmost u here behind with listed | ⟨v, listed, earlier, inside⟩
  · exact listed
  · exfalso
    obtain ⟨opening, closing, quoted, after, shape⟩ := here
    obtain ⟨o, q, first, past, around⟩ := (taken.each v listed).1
    let before := (text.drop v.start).take (u.start - v.start)
    have cut : before ++ text.drop u.start = text.drop v.start := by
      have further : text.drop u.start = (text.drop v.start).drop (u.start - v.start) := by
        rw [List.drop_drop, Nat.add_sub_cancel' (Nat.le_of_lt earlier)]
      rw [further, List.take_append_drop]
    have reach : u.start < text.length := by
      by_contra short
      rw [List.drop_eq_nil_of_le (by omega)] at shape
      simp [written] at shape
    have size : before.length = u.start - v.start := by
      simp only [before, List.length_take, List.length_drop]
      omega
    have some : before ≠ [] := List.ne_nil_of_length_pos (by omega)
    obtain ⟨between, whole⟩ := useApart quoted starts first some (shape ▸ around ▸ cut)
    have longer := congrArg List.length whole
    rw [List.length_append, writtenLength] at longer
    unfold Use.stop at inside
    omega

theorem usesExactly (source : String) :
    (∃ uses, Taken source.toList 0 uses ∧ (∀ others, Taken source.toList 0 others → others = uses) ∧
      keysUsed source = reported source.toList uses ∧
      ∀ u : Use, u.In source.toList → u.key.head? ≠ some ')' → u ∈ uses) ∧
    (∀ (before behind : String) (opening closing : Char) (key : List Char), Quoted opening key closing →
      key.head? ≠ some ')' → source.toList = before.toList ++ (written opening key closing ++ behind.toList) →
      keysUsed source = keysUsed before ++
        (if (Use.mk before.length key).alone source.toList then [String.ofList key] else []) ++ keysUsed behind) ∧
    ∀ more, keysUsed source <+: keysUsed (source ++ more) := by
  refine ⟨?_, fun before behind opening closing key quoted starts shape => ?_, fun more => ?_⟩
  · obtain ⟨uses, taken, keys⟩ := keysTaken [] source.toList
    exact ⟨uses, taken, fun _ other => other.only taken, keys,
      fun _ here starts => taken.found here (Nat.zero_le _) starts⟩
  · have alone : (Use.mk before.length key).alone source.toList = beginsName before.toList.getLast? := by
      rw [Use.aloneBegins, shape, List.take_left' (String.length_toList ..)]
    have start : keysAfter (some ')') behind.toList = keysUsed behind := keysBegin (by decide) behind.toList
    rw [keysUsed, shape, keysAround quoted starts, ← shape, alone, Option.or_none, start]
    rfl
  · rw [keysUsed, keysUsed, String.toList_append]
    exact keysGrow none source.toList more.toList

theorem keyAmongOthers :
    let source := "get('a') t(\"b\") t('t(')c')"
    Quoted '"' ['b'] '"' ∧ (Use.mk 9 ['b']).alone source.toList = true ∧
      keysUsed source = keysUsed "get('a') " ++ ["b"] ++ keysUsed " t('t(')c')" := by
  intro source
  have quoted : Quoted '"' ['b'] '"' := ⟨by decide, by decide, by decide, by simp [isQuote]⟩
  have alone : (Use.mk 9 ['b']).alone source.toList = true := by decide +kernel
  have around := (usesExactly source).2.1 "get('a') " " t('t(')c')" '"' '"' ['b'] quoted (by decide) (by decide)
  refine ⟨quoted, alone, ?_⟩
  rw [around]
  exact congrArg (fun own => keysUsed "get('a') " ++ own ++ keysUsed " t('t(')c')") (if_pos alone)

example : keysUsed "get('a') t(\"b\") t('t(')c')" = ["b", "t("] := by cbv

end ApiScreens.Locale
