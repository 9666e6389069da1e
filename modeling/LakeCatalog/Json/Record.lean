import LakeCatalog.Json.Basic
import LakeCatalog.SortedMap

/-!
# Reading records from JSON

An object with a fixed set of members is read member by member.  A member that is read must not
stand twice; a member that nobody asks for is ignored.  Some records may also be written as a list
of the values of all their members, in their order.

* `members?`, `record?` — the members of an object, and of a record in either form;
* `required`, `defaulted` — a member that has to be there, or may be missing;
* `nullable` — a value for which null may stand;
* `int32?`, `text?`, `word?`, `listOf?`, `textMap?`, … — readers of single values.
-/

namespace LakeCatalog.Json

variable {α β : Type}

/-! ### Members -/

/-- The values of all members with a name. -/
def valuesOf (ms : List (String × β)) (k : String) : List β :=
  ms.filterMap fun m => if m.1 = k then some m.2 else none

/-- The value of a member that stands exactly once. -/
def required (ms : List (String × β)) (k : String) (f : β → Option α) : Option α :=
  match valuesOf ms k with
  | [b] => f b
  | _ => none

/-- The value of a member that stands at most once; a missing member has the value `d`. -/
def defaulted (ms : List (String × β)) (k : String) (d : α) (f : β → Option α) : Option α :=
  match valuesOf ms k with
  | [] => some d
  | [b] => f b
  | _ => none

/-- Reads null as the absence of a value. -/
def nullable (f : Json → Option α) : Json → Option (Option α)
  | .null => some none
  | j => (f j).map some

/-- A member that may be missing or null. -/
def optional (ms : List (String × Json)) (k : String) (f : Json → Option α) :
    Option (Option α) :=
  defaulted ms k none (nullable f)

/-- The members of an object. -/
def members? : Json → Option (List (String × Json))
  | .obj ms => some ms
  | _ => none

/-- Items under the names of the members that they stand for.  The items for the last names may
be missing. -/
def nameItems? (names lastNames : List String) (items : List β) : Option (List (String × β)) :=
  if names.length ≤ items.length ∧ items.length ≤ names.length + lastNames.length then
    some ((names ++ lastNames).zip items)
  else none

/-- The members of a record that is an object or a list. -/
def recordWith? (names lastNames : List String) : Json → Option (List (String × Json))
  | .obj ms => some ms
  | .arr js => nameItems? names lastNames js
  | _ => none

/-- The members of a record that is an object, or a list with an item for each of its names. -/
def record? (names : List String) : Json → Option (List (String × Json)) := recordWith? names []

/-! ### Values -/

/-- A text. -/
def text? : Json → Option String
  | .str s => some s
  | _ => none

/-- One of several words: a text, or an object whose only member has that name and no value. -/
def word? : Json → Option String
  | .str s => some s
  | .obj [(s, .null)] => some s
  | _ => none

/-- A truth value. -/
def bool? : Json → Option Bool
  | .bool b => some b
  | _ => none

/-- A whole number of 32 bits. -/
def int32? : Json → Option Int32
  | .int i => if -0x80000000 ≤ i ∧ i < 0x80000000 then some (Int32.ofInt i) else none
  | _ => none

/-- A whole number of 64 bits. -/
def int64? : Json → Option Int64
  | .int i =>
    if -0x8000000000000000 ≤ i ∧ i < 0x8000000000000000 then some (Int64.ofInt i) else none
  | _ => none

/-- A list whose items are all read. -/
def listOf? (f : Json → Option α) : Json → Option (List α)
  | .arr js => js.mapM f
  | _ => none

/-- An object whose members are all texts; of two members with one name the later counts. -/
def textMap? : Json → Option (SortedMap String String)
  | .obj ms => (ms.mapM fun m => (text? m.2).map (m.1, ·)).map SortedMap.ofList
  | _ => none

/-! ### Writing -/

/-- A number of 32 bits. -/
def ofInt32 (i : Int32) : Json := .int i.toInt

/-- A number of 64 bits. -/
def ofInt64 (i : Int64) : Json := .int i.toInt

/-- An object of texts. -/
def ofTextMap (m : SortedMap String String) : Json :=
  .obj (m.entries.map fun e => (e.1, .str e.2))

theorem int32?_ofInt32 (i : Int32) : int32? (ofInt32 i) = some i := by
  have := i.le_toInt
  have := i.toInt_lt
  simp only [ofInt32, int32?, Int32.ofInt_toInt]
  exact if_pos ⟨by omega, by omega⟩

theorem int64?_ofInt64 (i : Int64) : int64? (ofInt64 i) = some i := by
  have := i.le_toInt
  have := i.toInt_lt
  simp only [ofInt64, int64?, Int64.ofInt_toInt]
  exact if_pos ⟨by omega, by omega⟩

end LakeCatalog.Json
