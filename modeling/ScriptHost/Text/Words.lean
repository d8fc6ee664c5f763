import ScriptHost.Text.Ranges

/-!
# Words

White space, and the words of a text, which are what stands between runs of it.
-/

namespace ScriptHost.Text

/-- The characters with the Unicode property of white space. -/
def whiteSpace : Ranges := [
  (0x09, 0x0D), (0x20, 0x20), (0x85, 0x85), (0xA0, 0xA0), (0x1680, 0x1680), (0x2000, 0x200A),
  (0x2028, 0x2029), (0x202F, 0x202F), (0x205F, 0x205F), (0x3000, 0x3000)]

/-- Drops the white space at both ends. -/
def trimmed (cs : List Char) : List Char :=
  ((cs.dropWhile whiteSpace.holds).reverse.dropWhile whiteSpace.holds).reverse

/-- Reads words from characters; `word` is the one being read, last character first. -/
def wordsFrom (word : List Char) : List Char → List String
  | [] => if word.isEmpty then [] else [String.ofList word.reverse]
  | c :: rest =>
    if whiteSpace.holds c then
      if word.isEmpty then wordsFrom [] rest
      else String.ofList word.reverse :: wordsFrom [] rest
    else wordsFrom (c :: word) rest

/-- The words of a text, in order. -/
def words (text : String) : List String := wordsFrom [] text.toList

end ScriptHost.Text
