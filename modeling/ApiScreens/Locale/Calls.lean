import ApiScreens.Text.Piece

/-! Uses of translations in source texts: the name `t` with one quoted key in parentheses. Uses are taken
from the left and do not overlap. A longer name that ends in `t`, or a member of that name, is passed
over with all its text. -/
namespace ApiScreens.Locale

def isQuote (c : Char) : Bool := c = '"' || c.toNat = 39 || c.toNat = 96

/-- A key between quotes, of any kind each, and the text behind. A key is not empty and holds no quote. -/
def quotedKey? : List Char → Option (String × List Char)
  | [] => none
  | opening :: rest =>
      let key := rest.takeWhile (!isQuote ·)
      if isQuote opening && key ≠ [] then
        match rest.dropWhile (!isQuote ·) with
        | _ :: after => some (String.ofList key, after)
        | [] => none
      else none

def use? : List Char → Option (String × List Char)
  | 't' :: '(' :: rest => match quotedKey? rest with
    | some (key, ')' :: after) => some (key, after)
    | _ => none
  | _ => none

theorem quotedKeyShorter {text after : List Char} {key : String}
    (h : quotedKey? text = some (key, after)) : after.length < text.length := by
  cases text with
  | nil => simp [quotedKey?] at h
  | cons opening rest =>
    simp only [quotedKey?] at h
    split at h
    · split at h
      · rename_i behind same
        have sizes := congrArg List.length same
        have bound : (rest.dropWhile (!isQuote ·)).length ≤ rest.length :=
          (List.dropWhile_sublist _).length_le
        simp only [Option.some.injEq, Prod.mk.injEq] at h
        obtain ⟨_, rfl⟩ := h
        simp only [List.length_cons] at sizes ⊢
        omega
      · contradiction
    · contradiction

theorem useShorter {text after : List Char} {key : String} (h : use? text = some (key, after)) :
    after.length < text.length := by
  unfold use? at h
  split at h
  · rename_i rest
    split at h
    · rename_i found
      have shorter := quotedKeyShorter found
      simp only [Option.some.injEq, Prod.mk.injEq] at h
      obtain ⟨_, rfl⟩ := h
      simp only [List.length_cons] at shorter ⊢
      omega
    · contradiction
  · contradiction

def beginsName (before : Option Char) : Bool :=
  before.all fun c => !(Text.isAlphanumeric c || c = '_' || c = '$' || c = '.')

def keysAfter (before : Option Char) (text : List Char) : List String :=
  match text with
  | [] => []
  | c :: rest =>
      match found : use? (c :: rest) with
      | some (key, after) =>
          have := useShorter found
          if beginsName before then key :: keysAfter (some ')') after
          else keysAfter (some ')') after
      | none => keysAfter (some c) rest
termination_by text.length
decreasing_by
  · exact this
  · exact this
  · exact Nat.lt_succ_self _

def keysUsed (source : String) : List String := keysAfter none source.toList

end ApiScreens.Locale
