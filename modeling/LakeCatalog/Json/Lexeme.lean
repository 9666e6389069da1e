import LakeCatalog.Json.Escape

/-!
# The lexemes of JSON

A JSON text is a sequence of lexemes with spaces, tabs and line ends between them.  Numbers and
texts are kept as they are spelled: which spellings are good, and what they stand for, is
decided by whoever reads them.

* `Lexeme.spell` — the text of a lexeme;
* `readLexeme` — the lexeme at the head of a text;
* `lex` — the lexemes of a text, or none where it holds something else.
-/

namespace LakeCatalog.Json

/-- A lexeme. -/
inductive Lexeme where
  | openArr
  | closeArr
  | openObj
  | closeObj
  | comma
  | colon
  | null
  | bool (b : Bool)
  | number (spelling : List Char)
  | text (spelling : List Char)
deriving DecidableEq, Repr

/-- The text of a lexeme. -/
def Lexeme.spell : Lexeme → List Char
  | .openArr => ['[']
  | .closeArr => [']']
  | .openObj => ['\x7b']
  | .closeObj => ['\x7d']
  | .comma => [',']
  | .colon => [':']
  | .null => ['n', 'u', 'l', 'l']
  | .bool true => ['t', 'r', 'u', 'e']
  | .bool false => ['f', 'a', 'l', 's', 'e']
  | .number spelling => spelling
  | .text spelling => '\x22' :: (spelling ++ ['\x22'])

/-! ### Texts -/

/-- What stands before the closing quote, and what follows it.  The character after a backslash
is never the closing quote. -/
def readQuoted : List Char → Option (List Char × List Char)
  | [] => none
  | '\\' :: c :: cs => (readQuoted cs).map fun r => ('\\' :: c :: r.1, r.2)
  | c :: cs =>
    if c = '\x22' then some ([], cs)
    else if c.toNat < 0x20 then none
    else (readQuoted cs).map fun r => (c :: r.1, r.2)

theorem readQuoted_length {cs : List Char} {r : List Char × List Char}
    (h : readQuoted cs = some r) : r.2.length < cs.length := by
  fun_induction readQuoted cs generalizing r with
  | case1 => simp at h
  | case2 c cs ih =>
    obtain ⟨s, hs, rfl⟩ := Option.map_eq_some_iff.1 h
    have := ih hs
    simp
    omega
  | case3 => simp [← Option.some.inj h]
  | case4 => simp at h
  | case5 c cs _ _ _ ih =>
    obtain ⟨s, hs, rfl⟩ := Option.map_eq_some_iff.1 h
    have := ih hs
    simp
    omega

/-! ### Numbers -/

/-- The characters that numbers are made of. -/
def isNumberChar (c : Char) : Bool :=
  Text.isDigit c || c = '-' || c = '+' || c = '.' || c = 'e' || c = 'E'

/-! ### Lexemes -/

/-- What may stand between lexemes. -/
def isSpace (c : Char) : Bool := c = ' ' || c = '\n' || c = '\r' || c = '\t'

/-- What follows the word at the head of a text. -/
def afterWord? (word cs : List Char) : Option (List Char) :=
  if cs.take word.length = word then some (cs.drop word.length) else none

/-- The lexeme of a mark between values. -/
def mark? (c : Char) : Option Lexeme :=
  if c = '[' then some .openArr
  else if c = ']' then some .closeArr
  else if c = '\x7b' then some .openObj
  else if c = '\x7d' then some .closeObj
  else if c = ',' then some .comma
  else if c = ':' then some .colon
  else none

/-- The lexeme at the head of a text that does not begin with a space, and what follows it.  A
number begins with a minus sign or a digit. -/
def readLexeme (c : Char) (cs : List Char) : Option (Lexeme × List Char) :=
  match mark? c with
  | some t => some (t, cs)
  | none =>
    if c = '\x22' then (readQuoted cs).map fun r => (.text r.1, r.2)
    else if c = 'n' then (afterWord? ['u', 'l', 'l'] cs).map fun r => (.null, r)
    else if c = 't' then (afterWord? ['r', 'u', 'e'] cs).map fun r => (.bool true, r)
    else if c = 'f' then (afterWord? ['a', 'l', 's', 'e'] cs).map fun r => (.bool false, r)
    else if c = '-' ∨ Text.isDigit c then
      some (.number (c :: cs.takeWhile isNumberChar), cs.dropWhile isNumberChar)
    else none

theorem afterWord?_length {word cs rest : List Char} (h : afterWord? word cs = some rest) :
    rest.length ≤ cs.length := by
  unfold afterWord? at h
  split at h
  · rw [← Option.some.inj h]
    simp
  · simp at h

theorem readLexeme_length {c : Char} {cs : List Char} {r : Lexeme × List Char}
    (h : readLexeme c cs = some r) : r.2.length < (c :: cs).length := by
  unfold readLexeme at h
  split at h
  · simp [← Option.some.inj h]
  · split at h
    · obtain ⟨s, hs, rfl⟩ := Option.map_eq_some_iff.1 h
      have := readQuoted_length hs
      simp
      omega
    · have hn := (List.dropWhile_sublist isNumberChar (l := cs)).length_le
      repeat' split at h
      all_goals first
        | (obtain ⟨s, hs, rfl⟩ := Option.map_eq_some_iff.1 h
           have := afterWord?_length hs
           simp
           omega)
        | (simp [← Option.some.inj h]
           omega)
        | simp at h

/-- The lexemes of a text. -/
def lex : List Char → Option (List Lexeme)
  | [] => some []
  | c :: cs =>
    if isSpace c then lex cs
    else match h : readLexeme c cs with
      | none => none
      | some (t, rest) =>
        have : rest.length < cs.length + 1 := readLexeme_length h
        (lex rest).map (t :: ·)
termination_by cs => cs.length

end LakeCatalog.Json
