import LakeCatalog.Url.Basic

/-!
# Object paths

An object store addresses its objects by paths, and a location is a URL of which only the path
counts: scheme, host, query and fragment play no part.  The path of an object has one part for
each segment of the URL path that is not empty.  A part is percent encoded once more, so that
segments and parts determine each other, and the two dot segments, which would be instructions
to a file system, are encoded as well.
-/

namespace LakeCatalog

/-- Why a location names no object. -/
inductive LocationFault where
  | notUrl (fault : Url.Fault)
  | noObject
deriving DecidableEq, Repr

namespace ObjectPath

/-- Characters that stand for themselves in a part. -/
def isPlain (c : Char) : Bool :=
  0x20 ≤ c.toNat && c.toNat < 0x7F &&
    !(['\\', '\x7b', '^', '\x7d', '%', '\x60', ']', '\x22', '>', '[', '~', '<', '#', '|', '*',
      '?'].contains c)

/-- The part for a segment. -/
def encodeSegment (s : List Char) : List Char :=
  if s = ['.'] ∨ s = ['.', '.'] then s.flatMap Text.Percent.encodeChar
  else Text.Percent.encode isPlain s

/-- The path with a part for each segment. -/
def ofSegments (ss : List (List Char)) : String :=
  String.ofList (Text.joinWith '/' (ss.map encodeSegment))

/-- The segments of a location that count. -/
def segments (location : String) : Except Url.Fault (List (List Char)) :=
  (Url.parse location).map fun u => u.path.parts

/-- The path of the object at a location. -/
def ofLocation (location : String) : Except LocationFault String :=
  match segments location with
  | .error fault => .error (.notUrl fault)
  | .ok [] => .error .noObject
  | .ok ss => .ok (ofSegments ss)

end ObjectPath

end LakeCatalog
