import LakeCatalog.Text.Segments

/-!
# Names of namespaces and tables

Namespaces are flat: a namespace has a name of one segment, and a table is named by its
namespace and one more segment.  A segment is a text that is not empty and holds no dot, so a
name and its dotted text determine each other.

* `NamespaceName`, `TableName` — names that carry the proof that their segments are good;
* `ofSegments` — a name from a list of segments, or the reason why there is none;
* `parse` — a name from its dotted text;
* `parse_toText` — the text of a name is read back as this name.
-/

namespace LakeCatalog

/-- Not empty and without a dot: what may stand between the dots of a name. -/
def IsSegment (s : String) : Prop := s ≠ "" ∧ '.' ∉ s.toList

instance : DecidablePred IsSegment := fun s => inferInstanceAs (Decidable (s ≠ "" ∧ _))

/-- The namespaces of examples have this name. -/
theorem isSegment_db : IsSegment "db" := by decide

/-- The segments of a dotted text. -/
def segments (s : String) : List String :=
  (Text.splitOn '.' s.toList).map String.ofList

/-- The dotted text of some segments. -/
def dotted (ss : List String) : String :=
  String.ofList (Text.joinWith '.' (ss.map String.toList))

/-- Joining the segments of a text gives the text. -/
theorem dotted_segments (s : String) : dotted (segments s) = s := by
  unfold dotted segments
  rw [List.map_map]
  have : String.toList ∘ String.ofList = id := funext fun cs => String.toList_ofList
  rw [this, List.map_id, Text.joinWith_splitOn, String.ofList_toList]

/-- Segments without dots come back from their dotted text. -/
theorem segments_dotted {ss : List String} (hne : ss ≠ []) (h : ∀ s ∈ ss, '.' ∉ s.toList) :
    segments (dotted ss) = ss := by
  unfold dotted segments
  rw [String.toList_ofList, Text.splitOn_joinWith (by simpa using hne), List.map_map]
  · have : String.ofList ∘ String.toList = id := funext fun s => String.ofList_toList
    rw [this, List.map_id]
  · intro cs hcs
    obtain ⟨s, hs, rfl⟩ := List.mem_map.1 hcs
    exact h s hs

/-- Why some segments are no name. -/
inductive NameFault where
  | emptyNamespace
  | emptyPart
  | notTwoParts
  | hierarchical
deriving DecidableEq, Repr

/-- The reason in words. -/
def NameFault.reason : NameFault → String
  | .emptyNamespace => "namespace must not be empty"
  | .emptyPart => "namespace and table name must not be empty"
  | .notTwoParts => "expected <namespace>.<table>"
  | .hierarchical => "hierarchical namespaces are not supported"

/-- A rejected name: the dotted text that was given, and what is wrong with it. -/
structure NameError where
  identifier : String
  fault : NameFault
deriving DecidableEq, Repr

/-- The name of a namespace. -/
structure NamespaceName where
  text : String
  isSegment : IsSegment text
deriving DecidableEq

/-- The name of a table: the namespace that owns it and its own segment. -/
structure TableName where
  space : NamespaceName
  table : String
  isSegment : IsSegment table
deriving DecidableEq

namespace NamespaceName

/-- The namespace that a list of segments names. -/
def ofSegments (ss : List String) : Except NameError NamespaceName :=
  match ss with
  | [s] =>
    if h : IsSegment s then .ok ⟨s, h⟩
    else if s = "" then .error ⟨dotted ss, .emptyNamespace⟩
    else .error ⟨dotted ss, .hierarchical⟩
  | [] => .error ⟨dotted ss, .emptyNamespace⟩
  | _ => .error ⟨dotted ss, .hierarchical⟩

/-- The namespace of exactly this name. -/
def ofText (s : String) : Except NameError NamespaceName := ofSegments [s]

/-- The namespace that a dotted text names. -/
def parse (s : String) : Except NameError NamespaceName := ofSegments (segments s)

instance : ToString NamespaceName := ⟨text⟩

theorem ofSegments_singleton (n : NamespaceName) : ofSegments [n.text] = .ok n := by
  simp [ofSegments, n.isSegment]

/-- The text of a name is read back as this name. -/
theorem parse_text (n : NamespaceName) : parse n.text = .ok n := by
  have h : segments n.text = [n.text] := by
    have := @segments_dotted [n.text] (by simp) (by simpa using n.isSegment.2)
    simpa [dotted, Text.joinWith] using this
  rw [parse, h, ofSegments_singleton]

end NamespaceName

namespace TableName

/-- The table that a list of segments names.  Emptiness of either segment is reported before a
dot in either. -/
def ofSegments (ss : List String) : Except NameError TableName :=
  match ss with
  | [s, t] =>
    if h : IsSegment s ∧ IsSegment t then .ok ⟨⟨s, h.1⟩, t, h.2⟩
    else if s = "" ∨ t = "" then .error ⟨dotted ss, .emptyPart⟩
    else .error ⟨dotted ss, .hierarchical⟩
  | [] | [_] => .error ⟨dotted ss, .notTwoParts⟩
  | _ => .error ⟨dotted ss, .hierarchical⟩

/-- The table with this segment in the namespace with that one. -/
def ofParts (space table : String) : Except NameError TableName := ofSegments [space, table]

/-- The table that a dotted text names. -/
def parse (s : String) : Except NameError TableName := ofSegments (segments s)

/-- The dotted text of a table name. -/
def toText (n : TableName) : String := n.space.text ++ "." ++ n.table

instance : ToString TableName := ⟨toText⟩

theorem ofSegments_pair (n : TableName) : ofSegments [n.space.text, n.table] = .ok n := by
  simp [ofSegments, n.isSegment, n.space.isSegment]

theorem dotted_pair (n : TableName) : dotted [n.space.text, n.table] = n.toText := by
  apply String.toList_injective
  simp [dotted, Text.joinWith, toText, String.toList_append]

/-- The text of a name is read back as this name. -/
theorem parse_toText (n : TableName) : parse n.toText = .ok n := by
  have h := @segments_dotted [n.space.text, n.table] (by simp)
    (by simpa using ⟨n.space.isSegment.2, n.isSegment.2⟩)
  rw [dotted_pair] at h
  rw [parse, h, ofSegments_pair]

end TableName

end LakeCatalog
