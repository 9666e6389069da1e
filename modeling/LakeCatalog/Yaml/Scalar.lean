import LakeCatalog.Yaml.Token

/-!
# Scalars in YAML

A scalar is a text that may be written in five ways.  Three of them fold lines: a single line
end becomes a space, and of several the first is dropped.  A block scalar keeps its lines or
folds them, and its last line ends are kept or dropped as its header says.

Each reader gets the place where the scalar begins and returns its text and the place behind
it; it fails on a malformed scalar.  The number that counts down is the number of characters
that are left, so it never runs out.
-/

namespace LakeCatalog.Yaml

open Text (digitValue?)

/-! ### Folding -/

/-- Blanks and line ends between two parts of a scalar: blanks of the first line, the first line
end, and further line ends. -/
structure Fold where
  blanks : List Char := []
  first : Option (List Char) := none
  more : List Char := []

/-- What stands for a fold in the text of a scalar. -/
def Fold.text (f : Fold) : List Char :=
  match f.first with
  | none => f.blanks
  | some first =>
    if first = ['\n'] then if f.more = [] then [' '] else f.more
    else first ++ f.more

/-- Reads blanks and line ends.  Where an indentation is asked for, a tab at the beginning of a
further line must not come before it. -/
def readFold (least : Option Nat) : Nat → Fold → Place → Option (Fold × Place)
  | 0, _, _ => none
  | n + 1, f, p =>
    match p.ahead 0 with
    | none => some (f, p)
    | some c =>
      if isBlank c then
        if f.first.isSome ∧ c = '\t' ∧ least.any (p.column < ·) then none
        else readFold least n (if f.first.isNone then { f with blanks := f.blanks ++ [c] } else f)
          (p.skip 1)
      else if isBreak c then
        readFold least n (if f.first.isNone then { f with first := some p.lineBreak, blanks := [] }
          else { f with more := f.more ++ p.lineBreak }) p.skipBreak
      else some (f, p)

/-! ### Plain scalars -/

/-- Whether a character ends a plain scalar.  In flow collections the marks of collections do. -/
def endsPlain (inFlow : Bool) (c : Char) (next : Option Char) : Bool :=
  (c = ':' && isGap next) || (inFlow && [',', '[', ']', '\x7b', '\x7d'].contains c)

/-- Whether a colon stands where it can neither end a plain scalar nor belong to it. -/
def isStrayColon (inFlow : Bool) (c : Char) (next : Option Char) : Bool :=
  inFlow && c = ':' && next.any [',', '?', '[', ']', '\x7b', '\x7d'].contains

/-- Reads characters of a plain scalar up to a gap or its end. -/
def readPlainWord (inFlow : Bool) : List Char → Option (List Char)
  | [] => some []
  | c :: cs =>
    if isGap (some c) then some []
    else if isStrayColon inFlow c cs.head? then none
    else if endsPlain inFlow c cs.head? then some []
    else (readPlainWord inFlow cs).map (c :: ·)

/-- Reads a plain scalar whose lines are indented by at least `least`; the fold in front of the
next part counts only if there is one.  Tells whether the scalar was ended by a line end. -/
def readPlain (inFlow : Bool) (least : Nat) :
    Nat → List Char → Fold → Place → Option (List Char × Bool × Place)
  | 0, _, _, _ => none
  | n + 1, text, f, p => do
    let stop := some (text, f.first.isSome, p)
    if p.atDocumentMark ∨ p.ahead 0 = some '#' then stop
    else
      let word ← readPlainWord inFlow p.rest
      let text := if word = [] then text else text ++ f.text ++ word
      let f := if word = [] then f else {}
      let p := p.skip word.length
      if p.rest ≠ [] ∧ isGap (p.ahead 0) then
        let (f, p) ← readFold (some least) (p.rest.length + 1) f p
        if !inFlow ∧ p.column < least then some (text, f.first.isSome, p)
        else readPlain inFlow least n text f p
      else some (text, f.first.isSome, p)

/-! ### Quoted scalars -/

/-- The character of a letter after a backslash. -/
def simpleEscape? (c : Char) : Option Char :=
  match c with
  | '0' => some '\x00'
  | 'a' => some '\x07'
  | 'b' => some '\x08'
  | 't' => some '\t'
  | '\t' => some '\t'
  | 'n' => some '\n'
  | 'v' => some '\x0b'
  | 'f' => some '\x0c'
  | 'r' => some '\r'
  | 'e' => some '\x1b'
  | ' ' => some ' '
  | '/' => some '/'
  | 'N' => some '\u0085'
  | '_' => some '\u00a0'
  | 'L' => some '\u2028'
  | 'P' => some '\u2029'
  | _ => if c = '\x22' ∨ c = '\\' then some c else none

/-- The number of digits of an escape by code point. -/
def codeLength? (c : Char) : Option Nat :=
  if c = 'x' then some 2 else if c = 'u' then some 4 else if c = 'U' then some 8 else none

/-- The character of an escape, given the text after the backslash, and the length of the
escape. -/
def readEscape (cs : List Char) : Option (Char × Nat) :=
  match cs with
  | [] => none
  | c :: rest =>
    match codeLength? c with
    | none => (simpleEscape? c).map (·, 1)
    | some n => do
      let digits := rest.take n
      if digits.length < n then none
      else
        let code ← Text.Numeral.read? 16 digits
        if (0xD800 ≤ code ∧ code ≤ 0xDFFF) ∨ 0x10FFFF < code then none
        else some (Char.ofNat code, n + 1)

/-- Reads characters between quotes up to a gap, the closing quote, or an escaped line end; the
number is how many characters were read, and the mark tells whether a line end is escaped. -/
def readQuotedWord (single : Bool) : Nat → List Char → Option (List Char × Nat × Bool)
  | 0, _ => none
  | _ + 1, [] => some ([], 0, false)
  | n + 1, c :: cs =>
    if isGap (some c) then some ([], 0, false)
    else if single ∧ c = '\x27' then
      if cs.head? = some '\x27' then
        (readQuotedWord single n (cs.drop 1)).map fun r => (c :: r.1, r.2.1 + 2, r.2.2)
      else some ([], 0, false)
    else if !single ∧ c = '\x22' then some ([], 0, false)
    else if !single ∧ c = '\\' then
      if cs.head?.any isBreak then some ([], 1, true)
      else do
        let (d, k) ← readEscape cs
        let r ← readQuotedWord single n (cs.drop k)
        pure (d :: r.1, r.2.1 + k + 1, r.2.2)
    else (readQuotedWord single n cs).map fun r => (c :: r.1, r.2.1 + 1, r.2.2)

/-- Reads the rest of a quoted scalar after its opening quote. -/
def readQuoted (single : Bool) : Nat → List Char → Place → Option (List Char × Place)
  | 0, _, _ => none
  | n + 1, text, p => do
    if p.atDocumentMark ∨ p.rest = [] then none
    else
      let (word, k, escapedEnd) ← readQuotedWord single (p.rest.length + 1) p.rest
      let text := text ++ word
      let p := p.skip k
      if p.ahead 0 = some (if single then '\x27' else '\x22') then some (text, p.skip 1)
      else
        let (start, p) : Fold × Place :=
          if escapedEnd then ({ first := some [] }, p.skipBreak) else ({}, p)
        let (f, p) ← readFold none (p.rest.length + 1) start p
        readQuoted single n (text ++ f.text) p

/-! ### Block scalars -/

/-- What becomes of the line ends at the end of a block scalar. -/
inductive Chomping where
  | strip
  | clip
  | keep
deriving DecidableEq, Repr

/-- The chomping that a mark asks for. -/
def chomping? (c : Option Char) : Option Chomping :=
  if c = some '+' then some .keep else if c = some '-' then some .strip else none

/-- The indentation that a digit asks for; zero is refused. -/
def increment? (c : Option Char) : Option (Option Nat) :=
  match c with
  | some c =>
    if Text.isDigit c then if c = '0' then none else some (digitValue? c) else some none
  | none => some none

/-- Reads the header of a block scalar: a chomping mark and an indentation, in either order. -/
def readBlockHeader (p : Place) : Option (Chomping × Option Nat × Place) :=
  match chomping? (p.ahead 0) with
  | some chomp => do
    let p := p.skip 1
    let increment ← increment? (p.ahead 0)
    pure (chomp, increment, if increment.isSome then p.skip 1 else p)
  | none => do
    let increment ← increment? (p.ahead 0)
    if increment.isNone then pure (.clip, none, p)
    else
      let p := p.skip 1
      match chomping? (p.ahead 0) with
      | some chomp => pure (chomp, increment, p.skip 1)
      | none => pure (.clip, increment, p)

/-- Reads indentation and empty lines; without a known indentation all spaces count as such, and
the deepest line is remembered. -/
def readBlockBreaks (indent : Option Nat) :
    Nat → List Char → Nat → Place → Option (List Char × Nat × Place)
  | 0, _, _, _ => none
  | n + 1, breaks, deepest, p =>
    let spaces := (p.span (· = ' ')).length
    let p := p.skip (match indent with
      | none => spaces
      | some i => min spaces (i - p.column))
    let deepest := max deepest p.column
    if indent.all (p.column < ·) ∧ p.ahead 0 = some '\t' then none
    else if p.lineBreak = [] then some (breaks, deepest, p)
    else readBlockBreaks indent n (breaks ++ p.lineBreak) deepest p.skipBreak

/-- The text of a block scalar so far, and what its reader has to remember: the last line end,
further line ends, and whether the last line began with a blank. -/
structure BlockText where
  text : List Char := []
  leading : List Char := []
  trailing : List Char := []
  afterBlank : Bool := false

/-- Reads the lines of a block scalar. -/
def readBlockLines (literal : Bool) (indent : Nat) :
    Nat → BlockText → Place → Option (BlockText × Place)
  | 0, _, _ => none
  | n + 1, b, p =>
    if p.column ≠ indent ∨ p.rest = [] then some (b, p)
    else do
      let blank := (p.ahead 0).any isBlank
      let joint :=
        if !literal ∧ b.leading.head? = some '\n' ∧ !b.afterBlank ∧ !blank then
          if b.trailing = [] then [' '] else []
        else b.leading
      let line := p.span fun c => !isBreak c
      let p := p.skip line.length
      let (trailing, _, p') ←
        readBlockBreaks (some indent) (p.rest.length + 1) [] 0 p.skipBreak
      readBlockLines literal indent n
        ⟨b.text ++ joint ++ b.trailing ++ line, p.lineBreak, trailing, blank⟩ p'

/-- Reads a block scalar after its mark, within a block of some indentation. -/
def readBlock (literal : Bool) (outer : Int) (p : Place) : Option (List Char × Place) := do
  let (chomp, increment, p) ← readBlockHeader p
  let p := p.skipWhile isBlank
  let p := if p.ahead 0 = some '#' then p.skipWhile fun c => !isBreak c else p
  if !isLineEnd (p.ahead 0) then none
  else
    let p := p.skipBreak
    let given := increment.map fun i => if 0 ≤ outer then outer.toNat + i else i
    let (breaks, deepest, p) ← readBlockBreaks given (p.rest.length + 1) [] 0 p
    let indent := given.getD (max deepest (max (outer + 1).toNat 1))
    let (b, p) ← readBlockLines literal indent (p.rest.length + 1) { trailing := breaks } p
    let tail := match chomp with
      | .strip => []
      | .clip => b.leading
      | .keep => b.leading ++ b.trailing
    pure (b.text ++ tail, p)

end LakeCatalog.Yaml
