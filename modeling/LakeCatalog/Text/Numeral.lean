/-!
# Numerals

Whole numbers as texts of digits.  Ids, sizes and continuation tokens are written in base ten;
addresses and configuration files also bring base two, eight and sixteen.

* `read?` — the number that a non-empty text of digits of a base stands for;
* `write` — the decimal digits of a number, without leading zeros;
* `read?_write` — what is written reads back;
* `readBelow?` — a number below a bound, with an optional plus sign in front.
-/

namespace LakeCatalog.Text

/-- The value of a digit of base ten or sixteen, in either case of letters. -/
def digitValue? (c : Char) : Option Nat :=
  if '0' ≤ c ∧ c ≤ '9' then some (c.toNat - 48)
  else if 'a' ≤ c ∧ c ≤ 'f' then some (c.toNat - 87)
  else if 'A' ≤ c ∧ c ≤ 'F' then some (c.toNat - 55)
  else none

/-- The small digit of a value below sixteen. -/
def lowerDigit (d : Nat) : Char := if d < 10 then Char.ofNat (48 + d) else Char.ofNat (87 + d)

/-- The capital digit of a value below sixteen. -/
def upperDigit (d : Nat) : Char := if d < 10 then Char.ofNat (48 + d) else Char.ofNat (55 + d)

theorem digitValue?_lowerDigit {d : Nat} (h : d < 16) : digitValue? (lowerDigit d) = some d := by
  have all : ∀ e ∈ List.range 16, digitValue? (lowerDigit e) = some e := by decide
  exact all d (List.mem_range.2 h)

theorem digitValue?_upperDigit {d : Nat} (h : d < 16) : digitValue? (upperDigit d) = some d := by
  have all : ∀ e ∈ List.range 16, digitValue? (upperDigit e) = some e := by decide
  exact all d (List.mem_range.2 h)

/-- Whether the character is a decimal digit. -/
def isDigit (c : Char) : Bool := '0' ≤ c && c ≤ '9'

/-- Whether the character is a letter of the ASCII alphabet. -/
def isLetter (c : Char) : Bool := ('a' ≤ c && c ≤ 'z') || ('A' ≤ c && c ≤ 'Z')

/-- The small letter of an ASCII capital; any other character is kept. -/
def lower (c : Char) : Char := if 'A' ≤ c ∧ c ≤ 'Z' then Char.ofNat (c.toNat + 32) else c

namespace Numeral

/-- The value of further digits after a number that has been read. -/
def readAfter (base : Nat) : Nat → List Char → Option Nat
  | n, [] => some n
  | n, c :: cs => do
    let d ← digitValue? c
    if d < base then readAfter base (n * base + d) cs else none

/-- The number that a non-empty text of digits stands for. -/
def read? (base : Nat) : List Char → Option Nat
  | [] => none
  | cs => readAfter base 0 cs

/-- The decimal digits of a number. -/
def write (n : Nat) : List Char :=
  if n < 10 then [lowerDigit n] else write (n / 10) ++ [lowerDigit (n % 10)]

theorem write_ne_nil (n : Nat) : write n ≠ [] := by
  rw [write]
  split <;> simp

theorem readAfter_append (base n : Nat) (cs ds : List Char) :
    readAfter base n (cs ++ ds) = (readAfter base n cs).bind (readAfter base · ds) := by
  induction cs generalizing n with
  | nil => rfl
  | cons c cs ih =>
    simp only [List.cons_append, readAfter]
    cases digitValue? c with
    | none => rfl
    | some d =>
      by_cases h : d < base
      · simpa [h] using ih (n * base + d)
      · simp [h]

theorem readAfter_write (n : Nat) : readAfter 10 0 (write n) = some n := by
  induction n using Nat.strongRecOn with
  | _ n ih =>
    rw [write]
    split
    · next h => simp [readAfter, digitValue?_lowerDigit (d := n) (by omega), h]
    · next h =>
      have hd : n % 10 < 10 := Nat.mod_lt _ (by decide)
      rw [readAfter_append, ih (n / 10) (by omega)]
      simp [readAfter, digitValue?_lowerDigit (d := n % 10) (by omega), hd]
      omega

/-- What is written reads back. -/
theorem read?_write (n : Nat) : read? 10 (write n) = some n := by
  have := readAfter_write n
  cases h : write n with
  | nil => exact absurd h (write_ne_nil n)
  | cons c cs => simpa [read?, h] using this

/-- Every character of a written number is a decimal digit. -/
theorem isDigit_of_mem_write {n : Nat} {c : Char} (h : c ∈ write n) : isDigit c = true := by
  have all : ∀ e ∈ List.range 10, isDigit (lowerDigit e) = true := by decide
  induction n using Nat.strongRecOn with
  | _ n ih =>
    rw [write] at h
    split at h
    · next hn =>
      rw [List.mem_singleton.1 h]
      exact all n (List.mem_range.2 hn)
    · next hn =>
      rcases List.mem_append.1 h with h | h
      · exact ih (n / 10) (by omega) h
      · rw [List.mem_singleton.1 h]
        exact all _ (List.mem_range.2 (Nat.mod_lt _ (by decide)))

/-- A number below `bound` in base ten; a plus sign may stand in front of the digits. -/
def readBelow? (bound : Nat) (cs : List Char) : Option Nat := do
  let n ← match cs with
    | '+' :: rest => read? 10 rest
    | _ => read? 10 cs
  if n < bound then some n else none

theorem readBelow?_write {n bound : Nat} (h : n < bound) :
    readBelow? bound (write n) = some n := by
  have hr := read?_write n
  cases hw : write n with
  | nil => exact absurd hw (write_ne_nil n)
  | cons c cs =>
    have hc : isDigit c = true := isDigit_of_mem_write (n := n) (by simp [hw])
    have : c ≠ '+' := by
      rintro rfl
      exact absurd hc (by decide)
    rw [hw] at hr
    unfold readBelow?
    split
    · next rest he =>
      injection he with he
      exact absurd he this
    · simp [hr, h]

/-- The decimal text of a number. -/
def text (n : Nat) : String := String.ofList (write n)

/-- The decimal text of an integer. -/
def intText (i : Int) : String :=
  if i < 0 then "-" ++ text i.natAbs else text i.natAbs

/-- The digits of a number in base sixteen, small letters, without leading zeros. -/
def writeHex (n : Nat) : List Char :=
  if n < 16 then [lowerDigit n] else writeHex (n / 16) ++ [lowerDigit (n % 16)]

end Numeral

end LakeCatalog.Text
