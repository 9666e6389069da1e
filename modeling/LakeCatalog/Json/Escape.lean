import LakeCatalog.Text.Numeral

/-!
# Escapes in JSON texts

Between its quotes a JSON text writes the two marks, control characters and whatever else it
likes as escapes.

* `escapeChar`, `escape` — the form in which texts are written;
* `unescape?` — the text that such a form stands for.
-/

namespace LakeCatalog.Json

open Text (digitValue? lowerDigit)

/-- A character between quotes.  The two marks are escaped with a backslash, control characters
with their letter or their code. -/
def escapeChar (c : Char) : List Char :=
  if c = '\x22' then ['\\', '\x22']
  else if c = '\\' then ['\\', '\\']
  else if c = '\x08' then ['\\', 'b']
  else if c = '\x0c' then ['\\', 'f']
  else if c = '\n' then ['\\', 'n']
  else if c = '\r' then ['\\', 'r']
  else if c = '\t' then ['\\', 't']
  else if c.toNat < 0x20 then
    ['\\', 'u', '0', '0', lowerDigit (c.toNat / 16), lowerDigit (c.toNat % 16)]
  else [c]

/-- A text between quotes. -/
def escape (s : String) : List Char := s.toList.flatMap escapeChar

/-- The number of four hexadecimal digits. -/
def readCode (a b c d : Char) : Option Nat := do
  let a ← digitValue? a
  let b ← digitValue? b
  let c ← digitValue? c
  let d ← digitValue? d
  pure (((a * 16 + b) * 16 + c) * 16 + d)

/-- The character of a letter after a backslash. -/
def simpleEscape? (c : Char) : Option Char :=
  if c = '\x22' ∨ c = '\\' ∨ c = '/' then some c
  else if c = 'b' then some '\x08'
  else if c = 'f' then some '\x0c'
  else if c = 'n' then some '\n'
  else if c = 'r' then some '\r'
  else if c = 't' then some '\t'
  else none

/-- The character of an escape that begins with `\u`, and what follows it.  Half of a surrogate
pair has to be followed by the other half. -/
def readUnicode : List Char → Option (Char × List Char)
  | a :: b :: c :: d :: rest =>
    match readCode a b c d with
    | none => none
    | some n =>
      if n < 0xD800 ∨ 0xDFFF < n then some (Char.ofNat n, rest)
      else if 0xDBFF < n then none
      else match rest with
        | '\\' :: 'u' :: e :: f :: g :: h :: rest =>
          match readCode e f g h with
          | none => none
          | some m =>
            if 0xDC00 ≤ m ∧ m ≤ 0xDFFF then
              some (Char.ofNat (0x10000 + (n - 0xD800) * 0x400 + (m - 0xDC00)), rest)
            else none
        | _ => none
  | _ => none

theorem readUnicode_length {cs : List Char} {r : Char × List Char}
    (h : readUnicode cs = some r) : r.2.length < cs.length := by
  unfold readUnicode at h
  split at h
  · split at h
    · simp at h
    · split at h
      · rw [← Option.some.inj h]
        simp
        omega
      · split at h
        · simp at h
        · split at h
          · split at h
            · simp at h
            · split at h
              · rw [← Option.some.inj h]
                simp
                omega
              · simp at h
          · simp at h
  · simp at h

/-- The characters that stand between two quotes.  A control character has to be escaped. -/
def unescape? : List Char → Option (List Char)
  | [] => some []
  | '\\' :: 'u' :: cs =>
    match h : readUnicode cs with
    | none => none
    | some (d, rest) =>
      have : rest.length < cs.length := readUnicode_length h
      (unescape? rest).map (d :: ·)
  | '\\' :: e :: cs =>
    match simpleEscape? e with
    | none => none
    | some d => (unescape? cs).map (d :: ·)
  | c :: cs => if c = '\\' ∨ c.toNat < 0x20 then none else (unescape? cs).map (c :: ·)
termination_by cs => cs.length
decreasing_by all_goals simp_all; try omega

end LakeCatalog.Json
