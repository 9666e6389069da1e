import LakeCatalog.Json.Lexeme

/-!
# Lexemes are read back

The text of a lexeme is read back as this lexeme, whatever follows it; behind a number, what
follows must not look like more of the number.

* `unescape?_escape`, `readQuoted_escape` — texts between quotes;
* `NoNumberHead` — what may follow a number;
* `lex_spell` — one lexeme at the head of a text.
-/

namespace LakeCatalog.Json

open Text (lowerDigit isDigit)

/-! ### Texts between quotes -/

/-- The forms in which a character stands between quotes. -/
inductive Escaped (c : Char) : List Char → Prop
  | simple {e : Char} (he : simpleEscape? e = some c) (hu : e ≠ 'u') : Escaped c ['\\', e]
  | coded (hc : c.toNat < 0x20) :
      Escaped c ['\\', 'u', '0', '0', lowerDigit (c.toNat / 16), lowerDigit (c.toNat % 16)]
  | plain (hquote : c ≠ '\x22') (hback : c ≠ '\\') (hc : ¬c.toNat < 0x20) : Escaped c [c]

theorem escaped_escapeChar (c : Char) : Escaped c (escapeChar c) := by
  unfold escapeChar
  by_cases h₁ : c = '\x22'
  · subst h₁
    exact .simple rfl (by decide)
  rw [if_neg h₁]
  by_cases h₂ : c = '\\'
  · subst h₂
    exact .simple rfl (by decide)
  rw [if_neg h₂]
  by_cases h₃ : c = '\x08'
  · subst h₃
    exact .simple rfl (by decide)
  rw [if_neg h₃]
  by_cases h₄ : c = '\x0c'
  · subst h₄
    exact .simple rfl (by decide)
  rw [if_neg h₄]
  by_cases h₅ : c = '\n'
  · subst h₅
    exact .simple rfl (by decide)
  rw [if_neg h₅]
  by_cases h₆ : c = '\r'
  · subst h₆
    exact .simple rfl (by decide)
  rw [if_neg h₆]
  by_cases h₇ : c = '\t'
  · subst h₇
    exact .simple rfl (by decide)
  rw [if_neg h₇]
  by_cases h₈ : c.toNat < 0x20
  · rw [if_pos h₈]
    exact .coded h₈
  · rw [if_neg h₈]
    exact .plain h₁ h₂ h₈

/-- The code of a control character is read back. -/
theorem readUnicode_coded {c : Char} (hc : c.toNat < 0x20) (cs : List Char) :
    readUnicode ('0' :: '0' :: lowerDigit (c.toNat / 16) :: lowerDigit (c.toNat % 16) :: cs)
      = some (c, cs) := by
  have hall : ∀ n < 0x20, readCode '0' '0' (lowerDigit (n / 16)) (lowerDigit (n % 16)) = some n := by
    decide
  unfold readUnicode
  simp only [hall c.toNat hc]
  rw [if_pos (Or.inl (by omega)), Char.ofNat_toNat]

theorem unescape?_escaped {c : Char} {spelling : List Char} (h : Escaped c spelling)
    (cs : List Char) : unescape? (spelling ++ cs) = (unescape? cs).map (c :: ·) := by
  cases h with
  | simple he hu =>
      show unescape? ('\\' :: _ :: cs) = _
      rw [unescape?]
      · rw [he]
      · exact hu
  | coded hc =>
      show unescape? ('\\' :: 'u' :: '0' :: '0' :: _ :: _ :: cs) = _
      rw [unescape?]
      split
      · rename_i hnone
        rw [readUnicode_coded hc] at hnone
        cases hnone
      · rename_i d rest hsome
        rw [readUnicode_coded hc] at hsome
        cases hsome
        rfl
  | plain hquote hback hc =>
      show unescape? (c :: cs) = _
      rw [unescape?]
      · rw [if_neg (by simp [hback, hc])]
      · intro rest h
        exact absurd h hback
      · intro e rest h
        exact absurd h hback

/-- **A text between quotes** is read back. -/
theorem unescape?_escape (cs : List Char) : unescape? (cs.flatMap escapeChar) = some cs := by
  induction cs with
  | nil => rw [List.flatMap_nil, unescape?]
  | cons c cs ih =>
      rw [List.flatMap_cons, unescape?_escaped (escaped_escapeChar c), ih]
      rfl

/-- A character that neither ends a quoted text nor begins an escape. -/
theorem readQuoted_plain {c : Char} (hquote : c ≠ '\x22') (hback : c ≠ '\\')
    (hc : ¬c.toNat < 0x20) (cs : List Char) :
    readQuoted (c :: cs) = (readQuoted cs).map fun r => (c :: r.1, r.2) := by
  rw [readQuoted]
  · rw [if_neg hquote, if_neg hc]
  · intro d rest h
    exact absurd h hback

theorem readQuoted_escaped {c : Char} {spelling : List Char} (h : Escaped c spelling)
    (cs : List Char) :
    readQuoted (spelling ++ cs) = (readQuoted cs).map fun r => (spelling ++ r.1, r.2) := by
  cases h with
  | simple he hu =>
      show readQuoted ('\\' :: _ :: cs) = _
      rw [readQuoted]
      rfl
  | coded hc =>
      have hdigit : ∀ d < 16, lowerDigit d ≠ '\x22' ∧ lowerDigit d ≠ '\\' ∧
          ¬(lowerDigit d).toNat < 0x20 := by decide
      obtain ⟨h₁, h₂, h₃⟩ := hdigit (c.toNat / 16) (by omega)
      obtain ⟨h₁', h₂', h₃'⟩ := hdigit (c.toNat % 16) (by omega)
      show readQuoted ('\\' :: 'u' :: '0' :: '0' :: _ :: _ :: cs) = _
      rw [readQuoted, readQuoted_plain (by decide) (by decide) (by decide),
        readQuoted_plain (by decide) (by decide) (by decide), readQuoted_plain h₁ h₂ h₃,
        readQuoted_plain h₁' h₂' h₃']
      cases readQuoted cs <;> rfl
  | plain hquote hback hc => exact readQuoted_plain hquote hback hc cs

theorem readQuoted_escape (cs rest : List Char) :
    readQuoted (cs.flatMap escapeChar ++ '\x22' :: rest)
      = some (cs.flatMap escapeChar, rest) := by
  induction cs with
  | nil =>
      show readQuoted ('\x22' :: rest) = _
      rw [readQuoted]
      · rfl
      · intro c cs h
        exact absurd h (by decide)
  | cons c cs ih =>
      rw [List.flatMap_cons, List.append_assoc, readQuoted_escaped (escaped_escapeChar c), ih]
      rfl

/-! ### Lexemes -/

/-- What may follow a number. -/
def NoNumberHead (cs : List Char) : Prop := ∀ c ∈ cs.head?, isNumberChar c = false

theorem noNumberHead_cons {c : Char} (h : isNumberChar c = false) (cs : List Char) :
    NoNumberHead (c :: cs) := by
  intro d hd
  rw [List.head?_cons, Option.mem_some_iff] at hd
  rw [← hd]
  exact h

/-- A text that is read as one number. -/
def IsNumberText (cs : List Char) : Prop :=
  ∃ c ds, cs = c :: ds ∧ (c = '-' ∨ isDigit c = true) ∧ ∀ d ∈ ds, isNumberChar d = true

/-- A lexeme whose text is read back. -/
def Lexeme.Readable : Lexeme → Prop
  | .number cs => IsNumberText cs
  | .text cs => ∀ rest, readQuoted (cs ++ '\x22' :: rest) = some (cs, rest)
  | _ => True

/-- What may follow a lexeme. -/
def Lexeme.MayPrecede (t : Lexeme) (rest : List Char) : Prop :=
  match t with
  | .number _ => NoNumberHead rest
  | _ => True

theorem takeWhile_number {ds rest : List Char} (hds : ∀ d ∈ ds, isNumberChar d = true)
    (hrest : NoNumberHead rest) : (ds ++ rest).takeWhile isNumberChar = ds ∧
      (ds ++ rest).dropWhile isNumberChar = rest := by
  rw [List.takeWhile_append_of_pos hds, List.dropWhile_append_of_pos hds]
  cases rest with
  | nil => simp
  | cons c rest =>
      have hc := hrest c (by simp)
      rw [List.takeWhile_cons, List.dropWhile_cons, hc]
      simp

theorem readLexeme_number {c : Char} {ds rest : List Char} (hc : c = '-' ∨ isDigit c = true)
    (hds : ∀ d ∈ ds, isNumberChar d = true) (hrest : NoNumberHead rest) :
    readLexeme c (ds ++ rest) = some (.number (c :: ds), rest) := by
  have hne : ∀ d : Char, ¬(d = '-' ∨ isDigit d = true) → c ≠ d := by
    rintro d hd rfl
    exact hd hc
  obtain ⟨htake, hdrop⟩ := takeWhile_number hds hrest
  unfold readLexeme mark?
  rw [if_neg (hne '[' (by decide)), if_neg (hne ']' (by decide)), if_neg (hne '\x7b' (by decide)),
    if_neg (hne '\x7d' (by decide)), if_neg (hne ',' (by decide)), if_neg (hne ':' (by decide))]
  simp only
  rw [if_neg (hne '\x22' (by decide)), if_neg (hne 'n' (by decide)), if_neg (hne 't' (by decide)),
    if_neg (hne 'f' (by decide)), if_pos hc, htake, hdrop]

theorem isSpace_of_number {c : Char} (hc : c = '-' ∨ isDigit c = true) : isSpace c = false := by
  have hne : ∀ d : Char, ¬(d = '-' ∨ isDigit d = true) → c ≠ d := by
    rintro d hd rfl
    exact hd hc
  unfold isSpace
  simp [hne ' ' (by decide), hne '\n' (by decide), hne '\r' (by decide), hne '\t' (by decide)]

theorem lex_cons {c : Char} {cs rest : List Char} {t : Lexeme} (hspace : isSpace c = false)
    (h : readLexeme c cs = some (t, rest)) : lex (c :: cs) = (lex rest).map (t :: ·) := by
  rw [lex, hspace]
  split
  · contradiction
  · split
    · rename_i hnone
      rw [h] at hnone
      cases hnone
    · rename_i hsome
      rw [h] at hsome
      cases hsome
      rfl

/-- **A lexeme at the head of a text** is read back. -/
theorem lex_spell {t : Lexeme} {rest : List Char} (ht : t.Readable) (hrest : t.MayPrecede rest) :
    lex (t.spell ++ rest) = (lex rest).map (t :: ·) := by
  cases t with
  | openArr => exact lex_cons rfl rfl
  | closeArr => exact lex_cons rfl rfl
  | openObj => exact lex_cons rfl rfl
  | closeObj => exact lex_cons rfl rfl
  | comma => exact lex_cons rfl rfl
  | colon => exact lex_cons rfl rfl
  | null => exact lex_cons rfl rfl
  | bool b => cases b <;> exact lex_cons rfl rfl
  | number cs =>
      obtain ⟨c, ds, rfl, hc, hds⟩ := ht
      exact lex_cons (isSpace_of_number hc) (readLexeme_number hc hds hrest)
  | text cs =>
      have hread : readLexeme '\x22' (cs ++ '\x22' :: rest) = some (.text cs, rest) := by
        show (readQuoted (cs ++ '\x22' :: rest)).map _ = _
        rw [ht rest]
        rfl
      show lex ('\x22' :: ((cs ++ ['\x22']) ++ rest)) = _
      rw [List.append_assoc]
      exact lex_cons rfl hread

end LakeCatalog.Json
