import LakeCatalog.Proofs.JsonLexemes
import LakeCatalog.Json.Reader

/-!
# Whole numbers are read back

The text of a whole number of 64 bits follows the grammar of the format and stands for this number:
it has neither a point nor an exponent, and only zero begins with a zero.

* `intText_spelling` — the sign and the digits of a whole number;
* `isNumberText_intText`, `numberValue?_intText` — its text as a lexeme, and as a value.
-/

namespace LakeCatalog.Json

open Text (lowerDigit isDigit)
open Text.Numeral (write intText)
open Decimal (Spelling)

/-! ### Digits -/

/-- Only zero begins with a zero. -/
theorem head?_write_ne_zero {n : Nat} (h : 0 < n) : (write n).head? ≠ some '0' := by
  have hdigit : ∀ d < 10, 0 < d → lowerDigit d ≠ '0' := by decide
  induction n using Nat.strongRecOn with
  | _ n ih =>
      rw [write]
      by_cases hn : n < 10
      · rw [if_pos hn, List.head?_cons, ne_eq, Option.some.injEq]
        exact hdigit n hn h
      · have hrest := ih (n / 10) (by omega) (by omega)
        rw [if_neg hn]
        cases hw : write (n / 10) with
        | nil => exact absurd hw (Text.Numeral.write_ne_nil _)
        | cons c cs =>
            rw [hw] at hrest
            exact hrest

theorem write_zero : write 0 = ['0'] := by
  rw [write]
  rfl

theorem digits_write (n : Nat) :
    Spelling.digits (write n) = write n ∧ Spelling.afterDigits (write n) = [] := by
  have hall : ∀ c ∈ write n, isDigit c = true := fun _ hc => Text.Numeral.isDigit_of_mem_write hc
  constructor
  · unfold Spelling.digits
    rw [← List.append_nil (write n), List.takeWhile_append_of_pos hall]
    rfl
  · unfold Spelling.afterDigits
    rw [← List.append_nil (write n), List.dropWhile_append_of_pos hall]
    rfl

/-- Digits do not begin with a sign. -/
theorem minus_write (n : Nat) : Spelling.minus (write n) = (false, write n) := by
  cases hw : write n with
  | nil => rfl
  | cons c cs =>
      have hc : isDigit c = true := Text.Numeral.isDigit_of_mem_write (n := n) (by simp [hw])
      unfold Spelling.minus
      split
      · rename_i heq
        cases heq
        exact absurd hc (by decide)
      · rfl

theorem ofText?_write (n : Nat) : Spelling.ofText? (write n) = some ⟨false, write n, none, none⟩ := by
  obtain ⟨hdigits, hafter⟩ := digits_write n
  unfold Spelling.ofText?
  simp only [minus_write, hdigits, hafter]
  rfl

theorem ofText?_minus (n : Nat) :
    Spelling.ofText? ('-' :: write n) = some ⟨true, write n, none, none⟩ := by
  obtain ⟨hdigits, hafter⟩ := digits_write n
  unfold Spelling.ofText?
  have hminus : Spelling.minus ('-' :: write n) = (true, write n) := rfl
  simp only [hminus, hdigits, hafter]
  rfl

/-- The text of a whole number: its sign and its digits. -/
theorem intText_spelling (i : Int) : (intText i).toList
    = if i < 0 then '-' :: write i.natAbs else write i.natAbs := by
  unfold intText Text.Numeral.text
  by_cases hi : i < 0
  · rw [if_pos hi, if_pos hi, String.toList_append, String.toList_ofList, String.toList_ofList]
    rfl
  · rw [if_neg hi, if_neg hi, String.toList_ofList]

/-! ### Numbers -/

theorem isNumberText_intText (i : Int) : IsNumberText (intText i).toList := by
  have hnumber : ∀ {n : Nat}, ∀ c ∈ write n, isNumberChar c = true := by
    intro n c hc
    unfold isNumberChar
    rw [Text.Numeral.isDigit_of_mem_write hc]
    rfl
  rw [intText_spelling]
  by_cases hi : i < 0
  · rw [if_pos hi]
    exact ⟨'-', _, rfl, Or.inl rfl, hnumber⟩
  · rw [if_neg hi]
    cases hw : write i.natAbs with
    | nil => exact absurd hw (Text.Numeral.write_ne_nil _)
    | cons c cs =>
        refine ⟨c, cs, rfl, Or.inr ?_, ?_⟩
        · exact Text.Numeral.isDigit_of_mem_write (n := i.natAbs) (by simp [hw])
        · intro d hd
          exact hnumber (n := i.natAbs) d (by simp [hw, hd])

theorem isStandard_write (negative : Bool) (n : Nat) :
    isStandard ⟨negative, write n, none, none⟩ = true := by
  unfold isStandard Spelling.isNumber Spelling.places Spelling.hasPower
  cases hw : write n with
  | nil => exact absurd hw (Text.Numeral.write_ne_nil n)
  | cons c cs =>
      have hzero : cs = [] ∨ c ≠ '0' := by
        by_cases hn : n = 0
        · left
          rw [hn, write_zero] at hw
          cases hw
          rfl
        · right
          have hhead := head?_write_ne_zero (Nat.pos_of_ne_zero hn)
          rw [hw, List.head?_cons] at hhead
          intro hc
          exact hhead (congrArg some hc)
      rcases hzero with rfl | hc
      · simp
      · simp [hc]

theorem integer_write (negative : Bool) (n : Nat) :
    Spelling.integer ⟨negative, write n, none, none⟩ = if negative then -(n : Int) else n := by
  have hvalue : Spelling.digitsValue (write n) = n := by
    unfold Spelling.digitsValue
    rw [Text.Numeral.read?_write]
    rfl
  unfold Spelling.integer
  simp only [hvalue]

/-- **A whole number** of 64 bits is read back. -/
theorem numberValue?_intText {i : Int} (h : IsWord i) :
    numberValue? (intText i).toList = some (.int i) := by
  have hread : ∀ negative : Bool,
      Spelling.ofText? (intText i).toList = some ⟨negative, write i.natAbs, none, none⟩ →
      (if negative then -(i.natAbs : Int) else i.natAbs) = i →
      ¬(negative = true ∧ i = 0) → numberValue? (intText i).toList = some (.int i) := by
    intro negative htext hinteger hzero
    unfold numberValue?
    rw [htext]
    show (if isStandard _ = true then _ else _) = _
    rw [if_pos (isStandard_write negative _), integer_write, hinteger]
    exact if_pos ⟨rfl, h, hzero⟩
  by_cases hi : i < 0
  · have htext := ofText?_minus i.natAbs
    refine hread true ?_ ?_ ?_
    · rw [intText_spelling, if_pos hi]
      exact htext
    · rw [if_pos rfl]
      omega
    · omega
  · have htext := ofText?_write i.natAbs
    refine hread false ?_ ?_ ?_
    · rw [intText_spelling, if_neg hi]
      exact htext
    · rw [if_neg (by decide)]
      omega
    · rintro ⟨hfalse, -⟩
      cases hfalse

end LakeCatalog.Json
