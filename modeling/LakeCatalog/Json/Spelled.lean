import LakeCatalog.Json.Lexeme

/-!
# Values as they are spelled

A reader walks over the lexemes of a text once.  It keeps the containers that are still open,
innermost first, and an expectation of what may come next; each lexeme takes it to the next
state or is refused (`step`).  A text is read when exactly one value is complete at its end.

What is read is a value whose numbers, texts and names are still spelled as in the text.

* `Spelled` — such a value, and `Spelled.lexemes`, its lexemes;
* `Spelled.ofLexemes?`, `Spelled.parse?` — the value of lexemes, and of a text;
* `Spelled.depth` — how deep its containers are nested.
-/

namespace LakeCatalog.Json

/-- A value as it is spelled. -/
inductive Spelled where
  | null
  | bool (b : Bool)
  | number (spelling : List Char)
  | text (spelling : List Char)
  | arr (items : List Spelled)
  | obj (members : List (List Char × Spelled))

/-- An open container: the items or members that are complete, last first, and for an object
the name whose value is awaited. -/
inductive Frame where
  | items (done : List Spelled)
  | members (done : List (List Char × Spelled)) (key : List Char)

/-- What has been read, and what may come next. -/
inductive Reading where
  | value (open_ : List Frame)
  | firstItem (open_ : List Frame)
  | firstKey (open_ : List Frame)
  | key (done : List (List Char × Spelled)) (open_ : List Frame)
  | colon (done : List (List Char × Spelled)) (name : List Char) (open_ : List Frame)
  | after (open_ : List Frame)
  | finished (v : Spelled)

namespace Reading

/-- A value is complete: it is the whole text, or goes to the innermost container. -/
def complete (v : Spelled) : List Frame → Reading
  | [] => .finished v
  | .items done :: fs => .after (.items (v :: done) :: fs)
  | .members done k :: fs => .after (.members ((k, v) :: done) k :: fs)

/-- The value that the lexeme is by itself. -/
def scalar? : Lexeme → Option Spelled
  | .null => some .null
  | .bool b => some (.bool b)
  | .number cs => some (.number cs)
  | .text cs => some (.text cs)
  | _ => none

/-- The state after a lexeme that begins a value. -/
def begin_ (fs : List Frame) (t : Lexeme) : Option Reading :=
  match t with
  | .openArr => some (.firstItem fs)
  | .openObj => some (.firstKey fs)
  | _ => (scalar? t).map (complete · fs)

/-- The state after one more lexeme. -/
def step : Reading → Lexeme → Option Reading
  | .value fs, t => begin_ fs t
  | .firstItem fs, .closeArr => some (complete (.arr []) fs)
  | .firstItem fs, t => begin_ (.items [] :: fs) t
  | .firstKey fs, .closeObj => some (complete (.obj []) fs)
  | .firstKey fs, .text k => some (.colon [] k fs)
  | .key done fs, .text k => some (.colon done k fs)
  | .colon done k fs, .colon => some (.value (.members done k :: fs))
  | .after (.items done :: fs), .comma => some (.value (.items done :: fs))
  | .after (.items done :: fs), .closeArr => some (complete (.arr done.reverse) fs)
  | .after (.members done _ :: fs), .comma => some (.key done fs)
  | .after (.members done _ :: fs), .closeObj => some (complete (.obj done.reverse) fs)
  | _, _ => none

/-- The state after some lexemes. -/
def run (r : Reading) : List Lexeme → Option Reading
  | [] => some r
  | t :: ts => (r.step t).bind (run · ts)

end Reading

namespace Spelled

/-- The value whose lexemes these are. -/
def ofLexemes? (ts : List Lexeme) : Option Spelled :=
  match (Reading.value []).run ts with
  | some (.finished v) => some v
  | _ => none

/-- The value of a text. -/
def parse? (s : String) : Option Spelled := (lex s.toList).bind ofLexemes?

mutual

/-- How many containers stand around the innermost value, at most. -/
def depth : Spelled → Nat
  | .arr vs => depthOfItems vs + 1
  | .obj ms => depthOfMembers ms + 1
  | _ => 0

/-- The greatest depth of some items. -/
def depthOfItems : List Spelled → Nat
  | [] => 0
  | v :: vs => max (depth v) (depthOfItems vs)

/-- The greatest depth of the values of some members. -/
def depthOfMembers : List (List Char × Spelled) → Nat
  | [] => 0
  | (_, v) :: ms => max (depth v) (depthOfMembers ms)

end

/-! ### Writing -/

mutual

/-- The lexemes of a value. -/
def lexemes : Spelled → List Lexeme
  | .null => [.null]
  | .bool b => [.bool b]
  | .number cs => [.number cs]
  | .text cs => [.text cs]
  | .arr vs => .openArr :: (lexemesOfItems vs ++ [.closeArr])
  | .obj ms => .openObj :: (lexemesOfMembers ms ++ [.closeObj])

/-- The lexemes of items with commas between them. -/
def lexemesOfItems : List Spelled → List Lexeme
  | [] => []
  | v :: vs =>
    lexemes v ++ (match vs with
      | [] => []
      | _ :: _ => .comma :: lexemesOfItems vs)

/-- The lexemes of members with commas between them. -/
def lexemesOfMembers : List (List Char × Spelled) → List Lexeme
  | [] => []
  | (k, v) :: ms =>
    .text k :: .colon :: (lexemes v ++ (match ms with
      | [] => []
      | _ :: _ => .comma :: lexemesOfMembers ms))

end

/-- The text of a value, without spaces. -/
def render (v : Spelled) : String := String.ofList (v.lexemes.flatMap Lexeme.spell)

end Spelled

end LakeCatalog.Json
