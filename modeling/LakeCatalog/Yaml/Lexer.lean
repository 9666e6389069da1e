import LakeCatalog.Yaml.Scalar

/-!
# From a YAML text to its tokens

Blocks are told by their indentation, and a key is told only by the value mark after it.  So the
lexer keeps the indentations of the open blocks, and for each open flow collection the last
token that could begin a key.  When a value mark comes, the key mark, and for a new block
mapping its start, are put in front of that token.

* `Lexer` — what the lexer has to remember;
* `Lexer.step` — reads one token;
* `Token.lex?` — the tokens of a text, or nothing if it is malformed.
-/

namespace LakeCatalog.Yaml

/-- A token that can begin a key: how many tokens came before it, where it stands, and whether
it has to be a key because it stands at the indentation of a block mapping. -/
structure PossibleKey where
  position : Nat
  place : Place
  required : Bool

/-- The tokens of the text so far, last first, and what the lexer has to remember: the
indentation of the innermost block and of those around it, whether a key may begin here, and
the possible key of the innermost flow collection and of those around it. -/
structure Lexer where
  place : Place
  tokens : List Token := []
  indent : Int := -1
  outerIndents : List Int := []
  keyAllowed : Bool := true
  possibleKey : Option PossibleKey := none
  outerKeys : List (Option PossibleKey) := []

namespace Lexer

/-- Whether a flow collection is open. -/
def inFlow (l : Lexer) : Bool := !l.outerKeys.isEmpty

/-- Adds a token. -/
def emit (t : Token) (l : Lexer) : Lexer := { l with tokens := t :: l.tokens }

/-- Puts a token behind the first so many. -/
def insert (position : Nat) (t : Token) (l : Lexer) : Lexer :=
  let behind := l.tokens.length - position
  { l with tokens := l.tokens.take behind ++ t :: l.tokens.drop behind }

/-- Adds a token of so many characters. -/
def emitSkip (t : Token) (n : Nat) (l : Lexer) : Lexer :=
  { l.emit t with place := l.place.skip n }

/-! ### Indentation -/

/-- Ends the blocks that are indented deeper than a column. -/
def unrollTo (column : Int) (tokens : List Token) : Int → List Int → List Token × Int × List Int
  | indent, [] => if column < indent then (.blockEnd :: tokens, -1, []) else (tokens, indent, [])
  | indent, outer :: rest =>
    if column < indent then unrollTo column (.blockEnd :: tokens) outer rest
    else (tokens, indent, outer :: rest)

/-- Ends the blocks that are indented deeper than a column.  In a flow collection indentation
has no meaning. -/
def unroll (column : Int) (l : Lexer) : Lexer :=
  if l.inFlow then l
  else
    let (tokens, indent, outer) := unrollTo column l.tokens l.indent l.outerIndents
    { l with tokens := tokens, indent := indent, outerIndents := outer }

/-- Begins a block at a column, if it is deeper than the innermost one. -/
def roll (column : Nat) (position : Nat) (t : Token) (l : Lexer) : Lexer :=
  if l.inFlow ∨ (column : Int) ≤ l.indent then l
  else { l.insert position t with indent := column, outerIndents := l.indent :: l.outerIndents }

/-- Begins a block here, if one may begin. -/
def rollHere (t : Token) (l : Lexer) : Option Lexer :=
  if l.inFlow then some l
  else if l.keyAllowed then some (l.roll l.place.column l.tokens.length t)
  else none

/-! ### Possible keys -/

/-- Forgets the possible key of the innermost collection, unless it has to be a key. -/
def dropKey (l : Lexer) : Option Lexer :=
  if l.possibleKey.any (·.required) then none else some { l with possibleKey := none }

/-- Remembers that the next token can begin a key. -/
def saveKey (l : Lexer) : Option Lexer :=
  if l.keyAllowed then do
    let l ← l.dropKey
    pure { l with possibleKey := some ⟨l.tokens.length, l.place,
      !l.inFlow && l.indent = (l.place.column : Int)⟩ }
  else some l

/-- A key has to end in its line and within this many bytes. -/
def maxKeyLength : Nat := 1024

/-- Forgets a possible key that is too far back, unless it has to be a key. -/
def dropStale (p : Place) (k : Option PossibleKey) : Option (Option PossibleKey) :=
  if k.any fun k => k.place.line < p.line || k.place.index + maxKeyLength < p.index then
    if k.any (·.required) then none else some none
  else some k

/-- Forgets all possible keys that are too far back. -/
def dropStaleKeys (l : Lexer) : Option Lexer := do
  let key ← dropStale l.place l.possibleKey
  let outer ← l.outerKeys.mapM (dropStale l.place)
  pure { l with possibleKey := key, outerKeys := outer }

/-- Skips blanks, comments and line ends.  After a line end a key may begin, and where a key may
begin a tab is not skipped.  A byte order mark is skipped at the beginning of the text. -/
def skipGaps : Nat → Lexer → Lexer
  | 0, l => l
  | n + 1, l =>
    let p := l.place
    let p := if p.column = 0 ∧ p.ahead 0 = some '\ufeff' then p.skip 1 else p
    let p := p.skipWhile fun c => c = ' ' || (c = '\t' && (l.inFlow || !l.keyAllowed))
    let p := if p.ahead 0 = some '#' then p.skipWhile fun c => !isBreak c else p
    if p.lineBreak = [] then { l with place := p }
    else skipGaps n { l with place := p.skipBreak, keyAllowed := l.keyAllowed || !l.inFlow }

/-! ### Directives -/

/-- Reads a number of at most nine digits. -/
def readVersionNumber (p : Place) : Option (Nat × Place) := do
  let digits := p.span Text.isDigit
  if 9 < digits.length then none
  else
    let n ← Text.Numeral.read? 10 digits
    pure (n, p.skip digits.length)

/-- The width in bytes of the code point that a byte begins. -/
def codeWidth? (byte : Nat) : Option Nat :=
  if byte < 0x80 then some 1
  else if byte < 0xC0 then none
  else if byte < 0xE0 then some 2
  else if byte < 0xF0 then some 3
  else if byte < 0xF8 then some 4
  else none

/-- Reads a percent sign and two hexadecimal digits. -/
def readEscapedByte (p : Place) : Option (Nat × Place) :=
  match p.rest with
  | '%' :: a :: b :: _ => (Text.Numeral.read? 16 [a, b]).map (·, p.skip 3)
  | _ => none

/-- Reads the escaped bytes of a code point after its first one. -/
def readEscapedTail : Nat → Nat → Place → Option (Nat × Place)
  | 0, code, p => some (code, p)
  | n + 1, code, p => do
    let (byte, p) ← readEscapedByte p
    if byte / 64 = 2 then readEscapedTail n (code * 64 + byte % 64) p else none

/-- Reads the escaped bytes of one code point. -/
def readEscapedChar (p : Place) : Option (Char × Place) := do
  let (byte, p) ← readEscapedByte p
  let width ← codeWidth? byte
  let lead := if width = 1 then byte else byte % Nat.pow 2 (7 - width)
  let (code, p) ← readEscapedTail (width - 1) lead p
  pure (if h : code.isValidChar then Char.ofNatAux code h else '\ufffd', p)

/-- A character of a tag.  The marks of flow sequences belong to it only between angle brackets
and in directives. -/
def isTagChar (verbatim : Bool) (c : Char) : Bool :=
  isWordChar c || ";/?:@&=+$.!~*\x27()".toList.contains c || (verbatim && ",[]".toList.contains c)

/-- Reads the characters of a tag, with escaped ones. -/
def readTagText (verbatim : Bool) : Nat → Place → Option (List Char × Place)
  | 0, p => some ([], p)
  | n + 1, p =>
    match p.ahead 0 with
    | none => some ([], p)
    | some c =>
      if isTagChar verbatim c then
        (readTagText verbatim n (p.skip 1)).map fun r => (c :: r.1, r.2)
      else if c = '%' then do
        let (d, p) ← readEscapedChar p
        let r ← readTagText verbatim n p
        pure (d :: r.1, r.2)
      else some ([], p)

/-- Reads a nonempty tag; an escaped null character ends it. -/
def readTagName (verbatim : Bool) (p : Place) : Option (List Char × Place) := do
  let (text, p) ← readTagText verbatim p.rest.length p
  if text = [] then none else pure (text.takeWhile (· ≠ '\x00'), p)

/-- Reads a handle: an exclamation mark, and if there is one, a word and a further mark. -/
def readHandle (p : Place) : Option (List Char × Place) :=
  if p.ahead 0 = some '!' then
    let word := (p.skip 1).span isWordChar
    let p := p.skip (word.length + 1)
    if p.ahead 0 = some '!' then some ('!' :: (word ++ ['!']), p.skip 1)
    else some ('!' :: word, p)
  else none

/-- Reads the values of a version directive. -/
def readVersion (p : Place) : Option (Token × Place) := do
  let (major, p) ← readVersionNumber (p.skipWhile isBlank)
  if p.ahead 0 ≠ some '.' then none
  else
    let (minor, p) ← readVersionNumber (p.skip 1)
    pure (.version major minor, p)

/-- Reads the values of a tag directive. -/
def readTagAlias (p : Place) : Option (Token × Place) := do
  let (handle, p) ← readHandle (p.skipWhile isBlank)
  if handle.getLast? ≠ some '!' ∨ !(p.ahead 0).any isBlank then none
  else
    let (head, p) ← readTagName true (p.skipWhile isBlank)
    if isGap (p.ahead 0) then pure (.tagAlias handle head, p) else none

/-- Reads a directive after its mark. -/
def readDirective (p : Place) : Option (Token × Place) := do
  let name := p.span isWordChar
  let p := p.skip name.length
  if !isGap (p.ahead 0) then none
  else
    let (t, p) ←
      if name = ['Y', 'A', 'M', 'L'] then readVersion p
      else if name = ['T', 'A', 'G'] then readTagAlias p
      else none
    let p := p.skipWhile isBlank
    let p := if p.ahead 0 = some '#' then p.skipWhile fun c => !isBreak c else p
    if isLineEnd (p.ahead 0) then pure (t, p.skipBreak) else none

/-! ### Names and tags -/

/-- Reads the name of an anchor after its mark. -/
def readAnchorName (p : Place) : Option (List Char × Place) :=
  let name := p.span isWordChar
  let p := p.skip name.length
  if name ≠ [] ∧ (isGap (p.ahead 0) ∨ (p.ahead 0).any "?:,]\x7d%@\x60".toList.contains) then
    some (name, p)
  else none

/-- Reads a tag between angle brackets, with a handle, or without one. -/
def readTag (inFlow : Bool) (p : Place) : Option (Token × Place) := do
  let (t, p) ←
    if p.ahead 1 = some '<' then do
      let (name, p) ← readTagName true (p.skip 2)
      if p.ahead 0 = some '>' then pure (Token.tag [] name, p.skip 1) else none
    else do
      let (handle, p) ← readHandle p
      if 1 < handle.length ∧ handle.getLast? = some '!' then
        let (name, p) ← readTagName false p
        pure (.tag handle name, p)
      else
        let (text, p) ← readTagText false p.rest.length p
        let name := (handle.drop 1 ++ text).takeWhile (· ≠ '\x00')
        pure (if name = [] then .tag [] ['!'] else .tag ['!'] name, p)
  if isGap (p.ahead 0) ∨ (inFlow ∧ p.ahead 0 = some ',') then pure (t, p) else none

/-! ### Steps -/

/-- Ends all blocks, for a mark between documents. -/
def endBlocks (l : Lexer) : Option Lexer := do
  let l ← (l.unroll (-1)).dropKey
  pure { l with keyAllowed := false }

/-- Begins a flow collection. -/
def openFlow (t : Token) (l : Lexer) : Option Lexer := do
  let l ← l.saveKey
  pure { l.emitSkip t 1 with
    keyAllowed := true, possibleKey := none, outerKeys := l.possibleKey :: l.outerKeys }

/-- Ends a flow collection. -/
def closeFlow (t : Token) (l : Lexer) : Option Lexer := do
  let l ← l.dropKey
  let l := { l.emitSkip t 1 with keyAllowed := false }
  pure (match l.outerKeys with
    | [] => l
    | k :: ks => { l with possibleKey := k, outerKeys := ks })

/-- Reads the mark of an entry in a block sequence. -/
def blockEntry (l : Lexer) : Option Lexer := do
  let l ← (← l.rollHere .blockSequenceStart).dropKey
  pure { l.emitSkip .blockEntry 1 with keyAllowed := true }

/-- Reads the mark of a key. -/
def keyMark (l : Lexer) : Option Lexer := do
  let l ← (← l.rollHere .blockMappingStart).dropKey
  pure { l.emitSkip .key 1 with keyAllowed := !l.inFlow }

/-- Reads the mark of a value.  What could be a key before it now is one. -/
def valueMark (l : Lexer) : Option Lexer :=
  match l.possibleKey with
  | some k =>
    let l := (l.insert k.position .key).roll k.place.column k.position .blockMappingStart
    some { l.emitSkip .value 1 with keyAllowed := false, possibleKey := none }
  | none => do
    let l ← l.rollHere .blockMappingStart
    pure { l.emitSkip .value 1 with keyAllowed := !l.inFlow }

/-- Adds a token that can begin a key. -/
def emitAtom (read : Place → Option (Token × Place)) (l : Lexer) : Option Lexer := do
  let l ← l.saveKey
  let (t, p) ← read l.place
  pure { l.emit t with place := p, keyAllowed := false }

/-- Reads a block scalar. -/
def blockScalar (literal : Bool) (l : Lexer) : Option Lexer := do
  let l ← l.dropKey
  let (text, p) ← readBlock literal l.indent (l.place.skip 1)
  pure { l.emit (.scalar text (if literal then .literal else .folded)) with
    place := p, keyAllowed := true }

/-- Reads a quoted scalar. -/
def quotedScalar (single : Bool) : Lexer → Option Lexer :=
  emitAtom fun p => do
    let (text, p) ← readQuoted single (p.rest.length + 1) [] (p.skip 1)
    pure (.scalar text .quoted, p)

/-- Reads a plain scalar.  If a line end ended it, a key may begin after it. -/
def plainScalar (l : Lexer) : Option Lexer := do
  let l ← l.saveKey
  let (text, lineEnded, p) ←
    readPlain l.inFlow (l.indent + 1).toNat (l.place.rest.length + 1) [] {} l.place
  pure { l.emit (.scalar text .plain) with place := p, keyAllowed := lineEnded }

/-- Whether a plain scalar can begin with a character, given the next one. -/
def beginsPlain (inFlow : Bool) (c : Char) (next : Option Char) : Bool :=
  !("-?:,[]\x7b\x7d#&*!|>\x27\x22%@\x60".toList.contains c || isGap (some c))
    || (c = '-' && !next.any isBlank)
    || (!inFlow && (c = '?' || c = ':') && !isGap next)

/-- Reads the token that begins with a character. -/
def readToken (c : Char) (l : Lexer) : Option Lexer :=
  let p := l.place
  if p.column = 0 ∧ c = '%' then do
    let l ← l.endBlocks
    let (t, p) ← readDirective (p.skip 1)
    pure { l.emit t with place := p }
  else if p.atDocumentMark then do
    let l ← l.endBlocks
    pure (l.emitSkip (if c = '-' then .documentStart else .documentEnd) 3)
  else if c = '[' then l.openFlow .flowSequenceStart
  else if c = '\x7b' then l.openFlow .flowMappingStart
  else if c = ']' then l.closeFlow .flowSequenceEnd
  else if c = '\x7d' then l.closeFlow .flowMappingEnd
  else if c = ',' then do
    let l ← l.dropKey
    pure { l.emitSkip .flowEntry 1 with keyAllowed := true }
  else if c = '-' ∧ isGap (p.ahead 1) then l.blockEntry
  else if c = '?' ∧ (l.inFlow ∨ isGap (p.ahead 1)) then l.keyMark
  else if c = ':' ∧ (l.inFlow ∨ isGap (p.ahead 1)) then l.valueMark
  else if c = '*' then
    l.emitAtom fun p => (readAnchorName (p.skip 1)).map fun r => (.aliasTo r.1, r.2)
  else if c = '&' then
    l.emitAtom fun p => (readAnchorName (p.skip 1)).map fun r => (.anchor r.1, r.2)
  else if c = '!' then l.emitAtom (readTag l.inFlow)
  else if c = '|' ∧ !l.inFlow then l.blockScalar true
  else if c = '>' ∧ !l.inFlow then l.blockScalar false
  else if c = '\x27' then l.quotedScalar true
  else if c = '\x22' then l.quotedScalar false
  else if beginsPlain l.inFlow c (p.ahead 1) then l.plainScalar
  else none

/-- Reads the tokens up to the end of the text. -/
def run : Nat → Lexer → Option (List Token)
  | 0, _ => none
  | n + 1, l => do
    let l ← (l.skipGaps (l.place.rest.length + 1)).dropStaleKeys
    let l := l.unroll l.place.column
    match l.place.ahead 0 with
    | some c => run n (← l.readToken c)
    | none =>
      let l ← l.endBlocks
      pure (Token.streamEnd :: l.tokens).reverse

end Lexer

/-- The tokens of a text, or nothing if a part of it can be no token.  Every step reads a
character, so that their number bounds the steps. -/
def Token.lex? (text : String) : Option (List Token) := do
  let cs ← clean? text.toList
  Lexer.run (cs.length + 1) { place := { rest := cs } }

end LakeCatalog.Yaml
