import LakeCatalog.Json.Reader

/-!
# Texts of values

The text of a value is read through its characters: neither its bytes nor the string that they
make have to be looked at again.
-/

namespace LakeCatalog.Json

/-- The characters of the text of a value. -/
def chars (j : Json) : List Char := j.spelled.lexemes.flatMap Lexeme.spell

/-- The value of characters. -/
def ofChars? (cs : List Char) : Option Json :=
  ((lex cs).bind Spelled.ofLexemes?).bind fun v => if v.depth ≤ maxDepth then v.value? else none

theorem parse?_render (j : Json) : parse? j.render = ofChars? j.chars := by
  unfold parse? Spelled.parse? ofChars? render Spelled.render
  rw [String.toList_ofList]
  rfl

theorem parseBytes?_toUTF8 (s : String) : parseBytes? s.toUTF8 = parse? s := by
  have hbytes : String.fromUTF8? s.toUTF8 = some s := by
    unfold String.fromUTF8?
    exact dif_pos s.isValidUTF8
  unfold parseBytes?
  rw [hbytes]
  rfl

/-- The bytes of the text of a value are read as its characters are. -/
theorem parseBytes?_render (j : Json) : parseBytes? j.render.toUTF8 = ofChars? j.chars := by
  rw [parseBytes?_toUTF8, parse?_render]

end LakeCatalog.Json
