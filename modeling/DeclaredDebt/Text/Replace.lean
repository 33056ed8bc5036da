/-!
# Replacing a word in a text

`replace word value text` puts `value` in the place of every occurrence of `word`, looking from
left to right and going on behind each occurrence, so that occurrences never overlap and the
inserted text is not searched again.
-/

namespace DeclaredDebt.Text

/-- Replaces while the next `skip` characters belong to an occurrence already replaced. -/
def replaceFrom (word value : List Char) : Nat → List Char → List Char
  | _, [] => []
  | skip + 1, _ :: rest => replaceFrom word value skip rest
  | 0, c :: rest =>
    if word.isPrefixOf (c :: rest) then value ++ replaceFrom word value (word.length - 1) rest
    else c :: replaceFrom word value 0 rest

/-- Puts `value` in the place of every occurrence of a non-empty word. -/
def replace (word value text : List Char) : List Char :=
  replaceFrom word value 0 text

end DeclaredDebt.Text
