/-!
# Coded labels

A label beyond ASCII can be written in ASCII: first its characters of ASCII and a hyphen, then,
as numbers of variable length in base thirty-six, where the others go and what they are.

* `decode?` — the characters of a coded label.
-/

namespace LakeCatalog.Url.Domain.Punycode

/-- The value of a digit in base thirty-six: letters first. -/
def digitValue? (c : Char) : Option Nat :=
  if 'a' ≤ c ∧ c ≤ 'z' then some (c.toNat - 97)
  else if '0' ≤ c ∧ c ≤ '9' then some (c.toNat - 48 + 26)
  else none

/-- The digits of this position that are too small to continue a number. -/
def threshold (position bias : Nat) : Nat :=
  if position ≤ bias then 1 else if bias + 26 ≤ position then 26 else position - bias

/-- Divides until the value is small, counting the steps in units of the base. -/
def shrink (delta position : Nat) : Nat × Nat :=
  if 455 < delta then shrink (delta / 35) (position + 36) else (delta, position)
termination_by delta
decreasing_by omega

/-- The bias after a number has been read. -/
def adapt (delta count : Nat) (first : Bool) : Nat :=
  let d := if first then delta / 700 else delta / 2
  let r := shrink (d + d / count) 0
  r.2 + 36 * r.1 / (r.1 + 38)

/-- Numbers have to fit 32 bits. -/
def bound : Nat := 0x100000000

/-- One number of variable length: its value added to `value`, and what follows. -/
def readNumber (bias : Nat) : List Char → Nat → Nat → Nat → Option (Nat × List Char)
  | [], _, _, _ => none
  | c :: cs, position, weight, value => do
    let d ← digitValue? c
    let t := threshold position bias
    if bound ≤ value + d * weight then none
    else if d < t then some (value + d * weight, cs)
    else if bound ≤ weight * (36 - t) then none
    else readNumber bias cs (position + 36) (weight * (36 - t)) (value + d * weight)

theorem readNumber_length {bias : Nat} {cs : List Char} {p w v : Nat} {r : Nat × List Char}
    (h : readNumber bias cs p w v = some r) : r.2.length < cs.length := by
  induction cs generalizing p w v with
  | nil => simp [readNumber] at h
  | cons c cs ih =>
    unfold readNumber at h
    obtain ⟨d, -, h⟩ := Option.bind_eq_some_iff.1 h
    simp only at h
    split at h
    · simp at h
    · split at h
      · simp [← Option.some.inj h]
      · split at h
        · simp at h
        · have := ih h
          simp
          omega

/-- Inserts the characters whose positions and values the digits give. -/
def insertAll (bias n i : Nat) (out : List Char) : List Char → Option (List Char)
  | [] => some out
  | c :: cs =>
    match h : readNumber bias (c :: cs) 36 1 i with
    | none => none
    | some (j, rest) =>
      have : rest.length < cs.length + 1 := readNumber_length h
      let count := out.length + 1
      let n := n + j / count
      if n < 0xD800 ∨ (0xDFFF < n ∧ n < 0x110000) then
        insertAll (adapt (j - i) count (i = 0)) n (j % count + 1)
          (out.insertIdx (j % count) (Char.ofNat n)) rest
      else none
termination_by cs => cs.length

/-- The characters of a coded label, given without its mark.  A hyphen before all digits does
not end anything. -/
def decode? (cs : List Char) : Option (List Char) :=
  let digits := (cs.reverse.takeWhile (· ≠ '-')).reverse
  let head := (cs.take (cs.length - digits.length)).dropLast
  if head = [] then insertAll 72 128 0 [] cs else insertAll 72 128 0 head digits

end LakeCatalog.Url.Domain.Punycode
