import LakeCatalog.Text.Direction
import LakeCatalog.Text.Joining

/-!
# Labels of names

A name is made of labels.  A label with characters beyond ASCII must not begin with a mark, and
the two characters that only say whether letters are joined may stand only where that makes a
difference.  In a name with parts from right to left each label has to be readable in one
direction.

* `isValid` — the rules for a label by itself;
* `hasDirection` — the rule for a label of a name with parts from right to left.
-/

namespace LakeCatalog.Url.Domain.Label

open Text (Direction)

/-! ### Labels by themselves -/

/-- The character that keeps letters from being joined. -/
def nonJoiner : Char := '\u200C'

/-- The character that joins letters. -/
def joiner : Char := '\u200D'

/-- Whether the first character that is not transparent has a property. -/
def firstOpaque (p : Char → Bool) (cs : List Char) : Bool :=
  (cs.dropWhile Text.isTransparent).head?.any p

/-- Whether a joiner or a non-joiner may stand between characters, of which those before it are
given last first.  Both may stand after a mark that takes away a vowel, and a non-joiner may
stand between letters that would be joined. -/
def mayStand (c : Char) (before after : List Char) : Bool :=
  before.head?.any (fun b => Text.combiningClass b = Text.viramaClass)
    || (c = nonJoiner && firstOpaque Text.joinsAfter before
      && firstOpaque Text.joinsBefore after)

/-- Whether all joiners and non-joiners may stand where they do; the characters before are given
last first. -/
def joinersMayStand (before : List Char) : List Char → Bool
  | [] => true
  | c :: cs =>
    ((c ≠ joiner && c ≠ nonJoiner) || mayStand c before cs) && joinersMayStand (c :: before) cs

/-- Labels with characters beyond ASCII may have this length. -/
def maxLength : Nat := 1000

/-- Whether a label may stand in a name. -/
def isValid (cs : List Char) : Bool :=
  cs.all (fun c => c.toNat < 0x80)
    || (cs.length ≤ maxLength && !cs.head?.any Text.isMark && joinersMayStand [] cs)

/-! ### Directions -/

/-- The directions without the marks at the end, last first. -/
def withoutLastMarks (ds : List Direction) : List Direction :=
  ds.reverse.dropWhile (· = .mark)

/-- Whether a label from left to right ends with a letter or a digit and holds nothing from right
to left.  What comes after the first letter is given last first. -/
def isLeft : List Direction → Bool
  | [] => true
  | d :: ds => (d = .left || d = .europeanDigit) && ds.all fun d => !d.isRight

/-- Whether a label from right to left ends with a letter or a digit, holds nothing from left to
right, and has digits of one kind only.  What comes after the first letter is given last
first. -/
def isRight : List Direction → Bool
  | [] => true
  | d :: ds =>
    (d = .right || d = .europeanDigit || d = .arabicDigit) && ds.all (· ≠ .left)
      && !((d :: ds).contains .europeanDigit && (d :: ds).contains .arabicDigit)

/-- Whether a label can be read in one direction, that of its first letter. -/
def hasDirection (cs : List Char) : Bool :=
  match cs.map Direction.of with
  | [] => true
  | .left :: ds => isLeft (withoutLastMarks ds)
  | .right :: ds => isRight (withoutLastMarks ds)
  | _ => false

end LakeCatalog.Url.Domain.Label
