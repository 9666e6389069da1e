import LakeCatalog.Text.Numeral
import LakeCatalog.Text.Segments

/-!
# Numeric host addresses

The host of a URL may be a number instead of a name: an IPv4 address of one to four parts in
base ten, eight or sixteen, or an IPv6 address between brackets.  Only whether a text is such
an address matters here, so the two readers answer with the number or with nothing.
-/

namespace LakeCatalog.Url

open Text (splitOn digitValue? isDigit)

/-! ### IPv4 -/

/-- One part of an address: a leading `0x` asks for base sixteen, another leading zero for base
eight. -/
def ipv4Part? : List Char → Option Nat
  | [] => none
  | '0' :: 'x' :: cs | '0' :: 'X' :: cs => if cs = [] then some 0 else Text.Numeral.read? 16 cs
  | ['0'] => some 0
  | '0' :: cs => Text.Numeral.read? 8 cs
  | cs => Text.Numeral.read? 10 cs

/-- The parts of a dotted text; an empty part at the very end does not count. -/
def dottedParts (cs : List Char) : List (List Char) :=
  let parts := splitOn '.' cs
  if parts.getLast? = some [] then parts.dropLast else parts

/-- Whether the last part is a number, so that the whole has to be an address. -/
def endsInNumber (cs : List Char) : Bool :=
  match (dottedParts cs).getLast? with
  | none => false
  | some p => (p ≠ [] && p.all isDigit) || (ipv4Part? p).isSome

/-- The number of an address: every part but the last is a byte, and the last fills what is
left. -/
def ipv4? (cs : List Char) : Option Nat := do
  let parts ← (dottedParts cs).mapM ipv4Part?
  let last ← parts.getLast?
  let bytes := parts.dropLast
  if bytes.length ≤ 3 ∧ (∀ b ∈ bytes, b < 256) ∧ last < Nat.pow 256 (4 - bytes.length) then
    some (bytes.foldr (fun b n => n / 256 + b * 0x1000000) 0 + last)
  else none

/-! ### IPv6 -/

/-- The pieces of an address around at most one `::`. -/
structure Ipv6Halves where
  before : List (List Char)
  after : Option (List (List Char))

/-- Cuts a text at its first `::`. -/
def cutAtGap : List Char → Option (List Char × List Char)
  | ':' :: ':' :: cs => some ([], cs)
  | c :: cs => (cutAtGap cs).map fun r => (c :: r.1, r.2)
  | [] => none

/-- The pieces of a text; the empty text has none. -/
def pieces (cs : List Char) : List (List Char) := if cs = [] then [] else splitOn ':' cs

/-- One to four hexadecimal digits. -/
def isIpv6Piece (p : List Char) : Bool :=
  p ≠ [] && p.length ≤ 4 && p.all fun c => (digitValue? c).isSome

/-- One to three decimal digits of a byte, without a leading zero. -/
def isDottedByte (p : List Char) : Bool :=
  p.all isDigit && (p = ['0'] || (p ≠ [] && p.head? ≠ some '0'))
    && (Text.Numeral.readBelow? 256 p).isSome

/-- How many sixteen-bit pieces a list of texts stands for, if they are well formed.  The last
piece of a whole address may be a dotted quadruple, which counts for two. -/
def pieceCount? (last : Bool) : List (List Char) → Option Nat
  | [] => some 0
  | [p] =>
    if isIpv6Piece p then some 1
    else
      let bytes := splitOn '.' p
      if last ∧ bytes.length = 4 ∧ bytes.all isDottedByte then some 2 else none
  | p :: q :: ps => if isIpv6Piece p then (pieceCount? last (q :: ps)).map (· + 1) else none

/-- Whether the text between brackets is an address: eight pieces, or fewer around one gap. -/
def isIpv6 (cs : List Char) : Bool :=
  match cutAtGap cs with
  | none => pieceCount? true (pieces cs) = some 8
  | some (before, after) =>
    match pieceCount? false (pieces before), pieceCount? true (pieces after) with
    | some a, some b => a + b ≤ 7
    | _, _ => false

end LakeCatalog.Url
