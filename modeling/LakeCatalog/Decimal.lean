import LakeCatalog.Text.Numeral

/-!
# Decimal numbers

A number with a fraction or an exponent is kept with its exact value.  Where a reader works in
double precision, what counts is the nearest number with 53 binary digits: whether it is finite,
and whether it is whole.

* `Decimal`, `Decimal.Spelling` — a number, and the parts of the text that spells it;
* `Double.nearest` — the number in double precision next to a ratio;
* `Decimal.isFinite`, `Decimal.whole?` — what becomes of a decimal in double precision.
-/

namespace LakeCatalog

/-! ### Double precision -/

/-- The number `significand * 2 ^ exponent`. -/
structure Double where
  significand : Nat
  exponent : Int
deriving DecidableEq, Repr

namespace Double

/-- The power of two with an exponent that is not negative, and one for any other. -/
def power (exponent : Int) : Nat := Nat.pow 2 exponent.toNat

/-- The whole number next to a ratio; a half goes to the even neighbour. -/
def roundDiv (num den : Nat) : Nat :=
  let rest := num % den
  if den < 2 * rest ∨ (2 * rest = den ∧ num / den % 2 = 1) then num / den + 1 else num / den

/-- The exponent of the greatest power of two that a positive ratio reaches. -/
def binade (num den : Nat) : Int :=
  let guess : Int := (Nat.log2 num : Int) - Nat.log2 den
  if num * power (-guess) < den * power guess then guess - 1 else guess

/-- The number in double precision next to a positive ratio, were its exponent not bounded
above.  It has 53 binary digits, or fewer where that would take an exponent below the least. -/
def nearest (num den : Nat) : Double :=
  let exponent := max (binade num den - 52) (-1074)
  ⟨roundDiv (num * power (-exponent)) (den * power exponent), exponent⟩

/-- Whether the number is below a bound. -/
def isBelow (d : Double) (bound : Nat) : Bool :=
  d.significand * power d.exponent < bound * power (-d.exponent)

/-- The bound of all finite numbers. -/
def limit : Nat := Nat.pow 2 1024

/-- The number itself, if it is whole. -/
def whole? (d : Double) : Option Nat :=
  let unit := power (-d.exponent)
  let n := d.significand * power d.exponent
  if n % unit = 0 then some (n / unit) else none

end Double

/-! ### Decimals -/

/-- The number `± mantissa * 10 ^ exponent`. -/
structure Decimal where
  negative : Bool
  mantissa : Nat
  exponent : Int
deriving DecidableEq, Repr, Inhabited

namespace Decimal

/-- The number of decimal digits. -/
def digitCount (n : Nat) : Nat := if n < 10 then 1 else digitCount (n / 10) + 1

/-- The nearest number in double precision without its sign, or none where that is infinite.
The number of digits settles the numbers that are far too great or too small, so no huge power
of ten is ever formed. -/
def toDouble? (d : Decimal) : Option Double :=
  let size : Int := digitCount d.mantissa + d.exponent
  if d.mantissa = 0 ∨ size < -330 then some ⟨0, 0⟩
  else if 310 < size then none
  else
    let r := Double.nearest (d.mantissa * Nat.pow 10 d.exponent.toNat)
      (Nat.pow 10 (-d.exponent).toNat)
    if r.isBelow Double.limit then some r else none

/-- Whether the number is finite in double precision. -/
def isFinite (d : Decimal) : Bool := d.toDouble?.isSome

/-- The whole number that the decimal becomes in double precision, if it becomes one. -/
def whole? (d : Decimal) : Option Int :=
  (d.toDouble?.bind Double.whole?).map fun n => if d.negative then -(n : Int) else n

/-! ### Spellings -/

/-- The parts of a text that spells a number: the digits before the point, those after it, and
the digits of an exponent with its sign.  Any of the lists may be empty. -/
structure Spelling where
  negative : Bool
  whole : List Char
  fraction : Option (List Char) := none
  exponent : Option (Bool × List Char) := none
deriving DecidableEq, Repr

namespace Spelling

/-- The digits at the head of a text. -/
def digits (cs : List Char) : List Char := cs.takeWhile Text.isDigit

/-- What follows the digits at the head of a text. -/
def afterDigits (cs : List Char) : List Char := cs.dropWhile Text.isDigit

/-- Whether a minus sign stands at the head of a text, and what follows it. -/
def minus : List Char → Bool × List Char
  | '-' :: cs => (true, cs)
  | cs => (false, cs)

/-- The digits after the point, if there is one, and what follows. -/
def splitFraction : List Char → Option (List Char) × List Char
  | '.' :: cs => (some (digits cs), afterDigits cs)
  | cs => (none, cs)

/-- The exponent, if there is one, and what follows. -/
def splitExponent : List Char → Option (Bool × List Char) × List Char
  | [] => (none, [])
  | c :: cs =>
    if c = 'e' ∨ c = 'E' then
      let sign := match cs with
        | '+' :: ds => (false, ds)
        | ds => minus ds
      (some (sign.1, digits sign.2), afterDigits sign.2)
    else (none, c :: cs)

/-- The parts of a whole text. -/
def ofText? (cs : List Char) : Option Spelling :=
  let sign := minus cs
  let fraction := splitFraction (afterDigits sign.2)
  let exponent := splitExponent fraction.2
  if exponent.2 = [] then some ⟨sign.1, digits sign.2, fraction.1, exponent.1⟩ else none

/-- The value of digits that have been checked. -/
def digitsValue (cs : List Char) : Nat := (Text.Numeral.read? 10 cs).getD 0

/-- The digits after the point. -/
def places (s : Spelling) : List Char := s.fraction.getD []

/-- The value of the exponent, zero where there is none. -/
def power (s : Spelling) : Int :=
  match s.exponent with
  | none => 0
  | some (true, ds) => -(digitsValue ds : Int)
  | some (false, ds) => digitsValue ds

/-- Whether the exponent has digits, if there is one. -/
def hasPower (s : Spelling) : Bool := s.exponent.all fun e => !e.2.isEmpty

/-- Whether the text spells a number: there is a digit before the point or after it. -/
def isNumber (s : Spelling) : Bool := !(s.whole ++ s.places).isEmpty && s.hasPower

/-- Whether the text has neither a point nor an exponent. -/
def isPlain (s : Spelling) : Bool := s.fraction.isNone && s.exponent.isNone

/-- The whole number that the digits before the point spell, with its sign. -/
def integer (s : Spelling) : Int :=
  if s.negative then -(digitsValue s.whole : Int) else digitsValue s.whole

/-- The number that the text spells. -/
def value (s : Spelling) : Decimal :=
  ⟨s.negative, digitsValue (s.whole ++ s.places), s.power - s.places.length⟩

end Spelling

end Decimal

end LakeCatalog
