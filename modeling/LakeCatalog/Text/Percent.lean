import LakeCatalog.Text.Numeral

/-!
# Percent encoding

A byte that may not stand for itself in an address is written as a percent sign and two
capital hexadecimal digits.

* `encode keep` — the text with every character outside `keep` written byte by byte;
* `decode` — the bytes of a text in which every complete `%XX` stands for its byte; an
  incomplete one stands for itself.
-/

namespace LakeCatalog.Text.Percent

/-- The UTF-8 bytes of a text. -/
def utf8 (cs : List Char) : List UInt8 := cs.flatMap String.utf8EncodeChar

/-- A byte as percent sign and two digits. -/
def encodeByte (b : UInt8) : List Char :=
  ['%', upperDigit (b.toNat / 16), upperDigit (b.toNat % 16)]

/-- A character as the written forms of its bytes. -/
def encodeChar (c : Char) : List Char := (String.utf8EncodeChar c).flatMap encodeByte

/-- The text with every character that `keep` refuses written byte by byte. -/
def encode (keep : Char → Bool) (cs : List Char) : List Char :=
  cs.flatMap fun c => if keep c then [c] else encodeChar c

/-- The bytes that a text stands for. -/
def decode : List UInt8 → List UInt8
  | 37 :: a :: b :: rest =>
    match digitValue? (Char.ofNat a.toNat), digitValue? (Char.ofNat b.toNat) with
    | some h, some l => UInt8.ofNat (16 * h + l) :: decode rest
    | _, _ => 37 :: decode (a :: b :: rest)
  | b :: rest => b :: decode rest
  | [] => []

theorem encode_append (keep : Char → Bool) (cs ds : List Char) :
    encode keep (cs ++ ds) = encode keep cs ++ encode keep ds :=
  List.flatMap_append

/-- A text of kept characters stands for itself. -/
theorem encode_of_forall_keep {keep : Char → Bool} {cs : List Char}
    (h : ∀ c ∈ cs, keep c = true) : encode keep cs = cs := by
  induction cs with
  | nil => rfl
  | cons c cs ih =>
    have hc : keep c = true := h c (by simp)
    have hcs := ih fun d hd => h d (by simp [hd])
    unfold encode at hcs ⊢
    simp [hc, hcs]

end LakeCatalog.Text.Percent
