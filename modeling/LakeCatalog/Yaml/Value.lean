import LakeCatalog.Json.Basic
import LakeCatalog.Yaml.Node

/-!
# Values of YAML

A plain scalar can be read in two ways: as the text that it is, or as a value whose kind its
spelling tells, such as a number or null.  Which way counts is decided by whoever reads it.

* `Plain` — the spellings of null, truth values and numbers;
* `Value`, `Value.ofScalar?` — values, and the value of a scalar;
* `Document.text?`, `Document.members?`, … — nodes read as texts;
* `Document.value?` — a node read as a value, with all that is in it.

Reading follows aliases, and may do so only so often: a hundred times for each mark of the
document.  So a short text cannot stand for a value of great size.
-/

namespace LakeCatalog.Yaml

/-! ### Spellings -/

namespace Plain

/-- Whether a text spells null.  An empty plain scalar is null as well, but is no spelling. -/
def isNull (s : String) : Bool := ["null", "Null", "NULL", "~"].contains s

/-- The truth value of a spelling. -/
def bool? (s : String) : Option Bool :=
  if ["true", "True", "TRUE"].contains s then some true
  else if ["false", "False", "FALSE"].contains s then some false
  else none

/-- Whether a text consists of digits after a leading zero, with or without a sign.  Such a text
is no number. -/
def isPadded (cs : List Char) : Bool :=
  let digits := match cs with
    | '-' :: rest => rest
    | '+' :: rest => rest
    | _ => cs
  match digits with
  | '0' :: c :: rest => (c :: rest).all Text.isDigit
  | _ => false

/-- The number that digits stand for, whose base may be given in front of them. -/
def magnitude? (cs : List Char) : Option Nat :=
  match cs with
  | '0' :: 'x' :: rest => Text.Numeral.read? 16 rest
  | '0' :: 'o' :: rest => Text.Numeral.read? 8 rest
  | '0' :: 'b' :: rest => Text.Numeral.read? 2 rest
  | _ => if isPadded cs then none else Text.Numeral.read? 10 cs

/-- The number without a minus sign that a text spells. -/
def natural? : List Char → Option Nat
  | '+' :: cs => magnitude? cs
  | cs => magnitude? cs

/-- What the number with a minus sign that a text spells is the negative of. -/
def negative? : List Char → Option Nat
  | '-' :: cs => magnitude? cs
  | _ => none

/-- The whole number that a text spells. -/
def integer? (cs : List Char) : Option Int :=
  match natural? cs with
  | some n => some n
  | none => (negative? cs).map fun n => -(n : Int)

/-- The exponent that stands at the end of a number, if there is one. -/
def exponent? : List Char → Option Int
  | [] => some 0
  | e :: cs =>
    if e = 'e' ∨ e = 'E' then
      match cs with
      | '-' :: ds => (Text.Numeral.read? 10 ds).map fun n => -(n : Int)
      | '+' :: ds => (Text.Numeral.read? 10 ds).map fun n => (n : Int)
      | ds => (Text.Numeral.read? 10 ds).map fun n => (n : Int)
    else none

/-- The decimal number that a text without a sign spells.  There has to be a digit before or
after the point. -/
def decimal? (cs : List Char) : Option Decimal := do
  let whole := cs.takeWhile Text.isDigit
  let rest := cs.dropWhile Text.isDigit
  let (places, rest) := match rest with
    | '.' :: ds => (ds.takeWhile Text.isDigit, ds.dropWhile Text.isDigit)
    | _ => ([], rest)
  let mantissa ← Text.Numeral.read? 10 (whole ++ places)
  let exponent ← exponent? rest
  pure ⟨false, mantissa, exponent - places.length⟩

/-- Whether a text spells a number in double precision: infinity, no number at all, or a decimal
number that is not rounded to infinity. -/
def isReal (cs : List Char) : Bool :=
  let s := String.ofList cs
  let unsigned := match cs with
    | '+' :: rest => rest
    | _ => cs
  let magnitude := match cs with
    | '+' :: rest => rest
    | '-' :: rest => rest
    | _ => cs
  [".inf", ".Inf", ".INF"].contains (String.ofList unsigned)
    || ["-.inf", "-.Inf", "-.INF", ".nan", ".NaN", ".NAN"].contains s
    || (decimal? magnitude).any (·.isFinite)

end Plain

/-! ### Values -/

/-- A value.  Whole numbers are kept apart by their sign, and a number with a fraction is kept
as it is spelled. -/
inductive Value where
  | null
  | bool (b : Bool)
  | natural (n : Nat)
  | negative (n : Nat)
  | real (spelling : String)
  | text (s : String)
  | list (items : List Value)
  | map (entries : List (Value × Value))

namespace Value

/-- The whole number of a spelling.  It has to fit 64 bits, and one that needs not more than 128
bits is refused; a greater one is no whole number. -/
def integer? (cs : List Char) : Option (Option Value) :=
  match Plain.natural? cs, Plain.negative? cs with
  | some n, _ =>
    if n < Nat.pow 2 64 then some (some (natural n))
    else if n < Nat.pow 2 128 then some none
    else none
  | none, some n =>
    if n ≤ Nat.pow 2 63 then some (some (negative n))
    else if n ≤ Nat.pow 2 127 then some none
    else none
  | none, none => none

/-- The value of a plain scalar. -/
def ofPlain? (s : String) : Option Value :=
  if s = "" ∨ Plain.isNull s then some null
  else match Plain.bool? s with
    | some b => some (bool b)
    | none =>
      match integer? s.toList with
      | some v => v
      | none =>
        if !Plain.isPadded s.toList ∧ Plain.isReal s.toList then some (real s)
        else some (text s)

/-- The beginning of the tags that have a meaning in every document. -/
def commonTag (name : String) : String := "tag:yaml.org,2002:" ++ name

/-- The value of a scalar.  A tag for a truth value, a number or null has to fit the spelling;
any other tag that is known everywhere makes it a text, and a tag of an application is
refused. -/
def ofScalar? (tag : Option String) (s : String) (style : Style) : Option Value :=
  match tag with
  | none => if style = .plain then ofPlain? s else some (text s)
  | some t =>
    if t = commonTag "bool" then (Plain.bool? s).map bool
    else if t = commonTag "int" then (integer? s.toList).join
    else if t = commonTag "float" then
      if Plain.isReal s.toList then some (real s) else none
    else if t = commonTag "null" then if Plain.isNull s then some null else none
    else if t.startsWith "!" then none
    else some (text s)

end Value

/-! ### Reading nodes -/

/-- A reader of nodes.  The number tells how many more aliases may be followed. -/
abbrev Following := StateT Nat Option

namespace Document

variable (d : Document)

/-- How many aliases may be followed in a document. -/
def maxAliases : Nat := 100 * d.root.size

/-- The result of a reader of the whole document. -/
def read? {α : Type} (f : Node → Following α) : Option α := (f d.root).run' d.maxAliases

/-- The node that an alias stands for, or the node itself. -/
def follow : Node → Following Node
  | .aliasTo anchor => do
    match ← get, d.target? anchor with
    | left + 1, some n => set left; pure n
    | _, _ => failure
  | n => pure n

/-- The text of a scalar, however it is written. -/
def text? (n : Node) : Following String := do
  match ← d.follow n with
  | .scalar _ s _ => pure s
  | _ => failure

/-- Reads a node for which null may stand.  Null is a plain scalar that is empty or spells it; a
tag for null has to fit the spelling, and any other tag rules null out. -/
def nullable {α : Type} (f : Node → Following α) (n : Node) : Following (Option α) := do
  let n ← d.follow n
  let isNull ← match n with
    | .scalar none s .plain => pure (s = "" || Plain.isNull s)
    | .scalar (some t) s .plain =>
      if t = Value.commonTag "null" then if Plain.isNull s then pure true else failure
      else pure false
    | _ => pure false
  if isNull then pure none else some <$> f n

/-- The number of 32 bits that a plain scalar spells.  A literal block counts as well, if its
tag says that it is a number. -/
def int32? (n : Node) : Following Int32 := do
  match ← d.follow n with
  | .scalar tag s style =>
    let spelled := style = .plain || (style = .literal && tag = some (Value.commonTag "int"))
    match Plain.integer? s.toList with
    | some i =>
      if spelled ∧ -0x80000000 ≤ i ∧ i < 0x80000000 then pure (Int32.ofInt i) else failure
    | none => failure
  | _ => failure

/-- The entries of a mapping by the texts of their keys.  An empty plain scalar stands for a
mapping without entries. -/
def members? (n : Node) : Following (List (String × Node)) := do
  match ← d.follow n with
  | .mapping _ es => es.mapM fun e => return (← d.text? e.1, e.2)
  | .scalar _ s style => if s = "" ∧ style = .plain then pure [] else failure
  | _ => failure

/-- Whether a tag belongs to an application. -/
def isOwnTag (tag : Option String) : Bool := tag.any (·.startsWith "!")

/-- The value of a node, in which collections are nested at most so deep. -/
def value? : Nat → Node → Following Value
  | depth, n => do
    match ← d.follow n with
    | .scalar tag s style =>
      match Value.ofScalar? tag s style with
      | some v => pure v
      | none => failure
    | .sequence tag items =>
      match depth with
      | 0 => failure
      | depth + 1 =>
        if isOwnTag tag then failure
        return .list (← items.mapM fun n => value? depth n)
    | .mapping tag es =>
      match depth with
      | 0 => failure
      | depth + 1 =>
        if isOwnTag tag then failure
        return .map (← es.mapM fun e => return (← value? depth e.1, ← value? depth e.2))
    | .aliasTo _ => failure

end Document

end LakeCatalog.Yaml
