import LakeCatalog.Text.Percent
import LakeCatalog.Text.Segments

/-!
# Paths of URLs

A path is a list of segments in which dots are instructions: `.` stays where it is and `..`
goes back one segment.  Dots may be percent encoded.  A segment that looks like a drive letter
is never gone back over, and in a URL of the file scheme the first segment gets a colon if it
has that look.

Tabs and line ends do not count in a URL.  They are kept in the segments that are resolved, for
there is one place where they can be told from nothing: in a URL of the file scheme a break after
a drive letter ends the first segment.

* `Path` — the segments, or the text of a path that has none (`mailto:x`);
* `Path.resolve` — follows the dots;
* `Path.serialize` — the text of a path.
-/

namespace LakeCatalog.Url

open Text (splitOn joinWith isLetter)

/-- A path in its percent-encoded form. -/
inductive Path where
  | opaque_ (text : List Char)
  | rooted (segments : List (List Char))
deriving DecidableEq, Repr

/-- Characters that stand for themselves in a path. -/
def isPathChar (c : Char) : Bool :=
  0x20 < c.toNat && c.toNat < 0x7F &&
    !(['\x22', '<', '>', '\x60', '#', '?', '\x7b', '\x7d'].contains c)

/-- Characters that stand for themselves in a path without segments. -/
def isOpaqueChar (c : Char) : Bool := 0x20 ≤ c.toNat && c.toNat < 0x7F

/-- Tabs and line ends. -/
def isBreak (c : Char) : Bool := c = '\t' || c = '\n' || c = '\r'

/-- A text without its breaks. -/
def dropBreaks (cs : List Char) : List Char := cs.filter (!isBreak ·)

/-- A plain or encoded dot at the head of a segment, and what follows. -/
def afterDot? : List Char → Option (List Char)
  | '.' :: cs => some cs
  | '%' :: '2' :: e :: cs => if e = 'e' ∨ e = 'E' then some cs else none
  | _ => none

/-- The instruction to stay. -/
def isSingleDot (s : List Char) : Bool := afterDot? s = some []

/-- The instruction to go back. -/
def isDoubleDot (s : List Char) : Bool := (afterDot? s).bind afterDot? = some []

/-- A letter and a colon or bar, alone or before a backslash. -/
def startsWithDrive : List Char → Bool
  | [a, b] => isLetter a && (b = ':' || b = '|')
  | a :: b :: c :: _ => isLetter a && (b = ':' || b = '|') && c = '\\'
  | _ => false

/-- A letter and a colon or bar. -/
def isDrive (s : List Char) : Bool := s.length = 2 && startsWithDrive s

/-- A drive letter that a break parts from what follows, and what follows. -/
def cutDrive? (s : List Char) : Option (List Char × List Char) :=
  match s.dropWhile isBreak with
  | [] => none
  | a :: cs =>
    match cs.dropWhile isBreak with
    | ':' :: b :: rest =>
      if isLetter a && isBreak b && dropBreaks rest ≠ [] then some ([a, ':'], dropBreaks rest)
      else none
    | _ => none

namespace Path

/-- The segments so far, last first, without the last one, unless it looks like a drive. -/
def back : List (List Char) → List (List Char)
  | [] => []
  | s :: done => if startsWithDrive s then s :: done else done

/-- The segments so far, last first, with one more. -/
def push (done : List (List Char)) (s : List Char) : List (List Char) :=
  Text.Percent.encode isPathChar (dropBreaks s) :: done

/-- The first segment of a file path, last first.  It may be a drive, which is written with a
colon, and a drive that a break parts from more text is a segment of its own. -/
def first (s : List Char) : List (List Char) :=
  match cutDrive? s with
  | some (drive, rest) => push [drive] rest
  | none => if isDrive (dropBreaks s) then [(dropBreaks s).take 1 ++ [':']] else push [] s

/-- Follows the dots of a list of segments; `done` holds the segments so far, last first.  A
path that ends in dots ends in a slash. -/
def resolve (file : Bool) : List (List Char) → List (List Char) → List (List Char)
  | done, [] => done.reverse
  | done, s :: ss =>
    if isDoubleDot (dropBreaks s) then
      resolve file (if ss = [] then [] :: back done else back done) ss
    else if isSingleDot (dropBreaks s) then resolve file (if ss = [] then [] :: done else done) ss
    else resolve file (if file ∧ done = [] then first s else push done s) ss

/-- The text of a path. -/
def serialize : Path → List Char
  | .opaque_ t => t
  | .rooted [] => []
  | .rooted ss => '/' :: joinWith '/' ss

/-- The segments of a path that are not empty; a path without segments is cut at its slashes. -/
def parts (p : Path) : List (List Char) := (splitOn '/' p.serialize).filter (· ≠ [])

end Path

end LakeCatalog.Url
