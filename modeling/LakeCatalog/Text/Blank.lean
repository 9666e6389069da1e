/-!
# Blanks

The characters with the Unicode property `White_Space`, and the removal of blanks at the ends
of a text.  A parameter in a type name may be surrounded by any of them.
-/

namespace LakeCatalog.Text

/-- Whether the character is white space. -/
def isBlank (c : Char) : Bool :=
  let n := c.toNat
  (9 ≤ n && n ≤ 13) || n == 0x20 || n == 0x85 || n == 0xA0 || n == 0x1680
    || (0x2000 ≤ n && n ≤ 0x200A) || n == 0x2028 || n == 0x2029 || n == 0x202F || n == 0x205F
    || n == 0x3000

/-- The text without the characters at its end that `p` accepts. -/
def dropRightWhile (p : Char → Bool) (cs : List Char) : List Char :=
  (cs.reverse.dropWhile p).reverse

/-- The text without blanks at its ends. -/
def trim (cs : List Char) : List Char := dropRightWhile isBlank (cs.dropWhile isBlank)

/-- The text without the separators at its end. -/
def trimRight (sep : Char) (s : String) : String :=
  String.ofList (dropRightWhile (· = sep) s.toList)

/-- Only characters that `p` accepts are taken off, and what is left does not end in one. -/
theorem dropRightWhile_append_of_forall {p : Char → Bool} {cs ds : List Char}
    (h : ∀ c ∈ ds, p c = true) : dropRightWhile p (cs ++ ds) = dropRightWhile p cs := by
  have : ∀ c ∈ ds.reverse, p c = true := fun c hc => h c (List.mem_reverse.1 hc)
  unfold dropRightWhile
  rw [List.reverse_append, List.dropWhile_append_of_pos this]

theorem getLast?_dropRightWhile {p : Char → Bool} {cs : List Char} {c : Char}
    (h : (dropRightWhile p cs).getLast? = some c) : p c = false := by
  unfold dropRightWhile at h
  rw [List.getLast?_reverse] at h
  cases hd : cs.reverse.dropWhile p with
  | nil => simp [hd] at h
  | cons a as =>
    have ha : c = a := by simpa [hd] using h.symm
    have := List.head?_dropWhile_not p cs.reverse
    rw [hd] at this
    simpa [ha] using this

end LakeCatalog.Text
