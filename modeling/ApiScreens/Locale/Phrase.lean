import ApiScreens.SortedMap

/-! Texts in the languages that generated screens are shown in. -/
namespace ApiScreens.Locale

inductive Language where
  | korean | english
  deriving DecidableEq, Repr

namespace Language

def all : List Language := [korean, english]

def code : Language → String
  | korean => "ko"
  | english => "en"

end Language

structure Phrase where
  korean : String
  english : String
  deriving DecidableEq, Repr

def Phrase.text (p : Phrase) : Language → String
  | .korean => p.korean
  | .english => p.english

abbrev Phrases := SortedMap Phrase

def textsIn (l : Language) (ps : Phrases) : SortedMap String := ps.map (·.text l)

end ApiScreens.Locale
