import ApiScreens.Locale.Catalog
import ApiScreens.Locale.Term
import ApiScreens.Naming

/-! Wordings for keys that no catalog has yet. A term of its own has a fixed wording; any other last part
is spelt in words and dressed by what the whole key names. -/
namespace ApiScreens.Locale

def lastStep (key : String) : String := ((steps key).getLast?).getD key

def dressed (lowered words : String) : Phrase :=
  if Text.has lowered "placeholder" then ⟨words ++ "을 선택하세요", "Select " ++ words⟩
  else if Text.has lowered "title" then ⟨words ++ " 제목", words ++ " Title"⟩
  else if Text.has lowered "label" || Text.has lowered "action" then ⟨words, words⟩
  else ⟨"[번역필요] " ++ words, "[Need Translation] " ++ words⟩

def guess (key : String) : Phrase :=
  (termOf? (lastStep key)).getD (dressed (Text.lower key) (Naming.words (lastStep key)))

end ApiScreens.Locale
