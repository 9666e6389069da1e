import LakeCatalog.Decimal

/-!
# JSON values

Metadata files, requests to a remote metastore and its answers are JSON texts.  A value keeps
the members of an object in the order of the text, repeated names included: whether a repeated
name is an error is decided by whoever reads the object.

Numbers come in two kinds.  An `Int` stands for a whole number that fits 64 bits, signed or
unsigned; every other number (with a fraction or an exponent, beyond 64 bits, or the negative
zero) is a `Decimal`, which keeps its exact value.
-/

namespace LakeCatalog

/-- A JSON value. -/
inductive Json where
  | null
  | bool (b : Bool)
  | int (i : Int)
  | decimal (d : Decimal)
  | str (s : String)
  | arr (items : List Json)
  | obj (members : List (String × Json))
deriving Repr, Inhabited

namespace Json

/-- Whether a whole number is kept as such: it fits 64 bits, signed or unsigned. -/
def IsWord (i : Int) : Prop := -0x8000000000000000 ≤ i ∧ i < 0x10000000000000000

instance : DecidablePred IsWord := fun _ => inferInstanceAs (Decidable (_ ∧ _))

/-- The value itself, or null. -/
def ofOption {α : Type} (f : α → Json) : Option α → Json
  | some a => f a
  | none => .null

/-- A list of texts. -/
def ofStrings (ss : List String) : Json := .arr (ss.map .str)

/-- An object without the members that are absent. -/
def record (members : List (Option (String × Json))) : Json := .obj (members.filterMap id)

end Json

end LakeCatalog
