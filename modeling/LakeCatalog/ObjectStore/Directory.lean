import LakeCatalog.OrderedMap
import LakeCatalog.Text.Percent
import LakeCatalog.Text.Segments

/-!
# Objects in a directory

An object store may keep its objects as files below a root directory: the parts of an object
path are the names on the way to its file, and directories on the way are made as needed.

* `FileTree` — directories and files by their names, from the root of the file system;
* `FileTree.resolve?` — the directory or file that a path text leads to, following `.` and `..`;
* `Directory` — a file tree with a root in it, and the operations on objects.
-/

namespace LakeCatalog

/-- Directories, and files with their content.  A node is named by the names on the way to it. -/
structure FileTree where
  directories : List (List String)
  files : List (List String × ByteArray)

namespace FileTree

/-- Whether there is a directory of this name.  The root is always there. -/
def isDirectory (t : FileTree) (p : List String) : Bool := p = [] || t.directories.contains p

/-- The content of a file. -/
def content? (t : FileTree) (p : List String) : Option ByteArray :=
  (t.files.find? fun f => f.1 = p).map (·.2)

/-- Whether there is a file of this name. -/
def isFile (t : FileTree) (p : List String) : Bool := (t.content? p).isSome

/-- The longest name of a directory or file, in bytes. -/
def maxNameLength : Nat := 255

/-- The longest text of a path, in bytes. -/
def maxPathLength : Nat := 4095

/-- Whether a name is longer than a file system allows. -/
def isLongName (n : String) : Bool := maxNameLength < n.utf8ByteSize

/-- The tree with directories of these names, each in the one before it and the first in `here`,
and whether all of them are there.  The first name that is too long or belongs to a file ends
the work; the directories before it stay. -/
def makeDirectoriesFrom (t : FileTree) (here : List String) : List String → FileTree × Bool
  | [] => (t, true)
  | n :: ns =>
    let there := here ++ [n]
    if isLongName n ∨ t.isFile there then (t, false)
    else if t.isDirectory there then t.makeDirectoriesFrom there ns
    else { t with directories := t.directories ++ [there] }.makeDirectoriesFrom there ns

/-- The tree with a directory and all directories on the way to it, and whether all of them are
there. -/
def makeDirectories (t : FileTree) (p : List String) : FileTree × Bool :=
  t.makeDirectoriesFrom [] p

/-- The tree with a file of this content. -/
def setFile (t : FileTree) (p : List String) (data : ByteArray) : FileTree :=
  { t with files := t.files.filter (fun f => f.1 ≠ p) ++ [(p, data)] }

/-- The names in the text of a path. -/
def namesOf (path : String) : List String :=
  (Text.splitOn '/' path.toList).map String.ofList

/-- The text of a path from the root. -/
def pathText (p : List String) : String :=
  String.ofList ('/' :: Text.joinWith '/' (p.map String.toList))

end FileTree

/-- Why a way of names leads nowhere: a name on it is not there, a file stands where a directory
is needed, or a name is too long. -/
inductive WayFault where
  | missing
  | notDirectory
  | longName
deriving DecidableEq, Repr

namespace FileTree

/-- Walks down some names; every node on the way has to be a directory.  What is wrong with the
first bad name counts. -/
def walk (t : FileTree) : List String → List String → Except WayFault (List String)
  | here, [] => .ok here
  | here, n :: ns =>
    if !t.isDirectory here then .error .notDirectory
    else if n = "" ∨ n = "." then t.walk here ns
    else if n = ".." then t.walk here.dropLast ns
    else if isLongName n then .error .longName
    else
      let there := here ++ [n]
      if t.isDirectory there ∨ t.isFile there then t.walk there ns else .error .missing

/-- The node that the text of a path leads to from the root. -/
def resolve (t : FileTree) (path : String) : Except WayFault (List String) :=
  if maxPathLength < path.utf8ByteSize then .error .longName else t.walk [] (namesOf path)

end FileTree

/-- Why an operation on an object failed. -/
inductive StoreError where
  | notFound (path : String)
  | generic (store : String)
deriving DecidableEq, Repr

/-- An object store in a directory. -/
structure Directory where
  root : List String
  tree : FileTree

namespace Directory

/-- What the store calls itself in errors. -/
def storeName : String := "LocalFileSystem"

/-- New content is first written to a file whose name is longer by so many bytes. -/
def draftMarkLength : Nat := 2

/-- The store in a directory that has to exist. -/
def open? (t : FileTree) (path : String) : Except StoreError Directory :=
  match t.resolve path with
  | .ok root => .ok ⟨root, t⟩
  | .error _ => .error (.generic storeName)

/-- Characters of a file name that stand for themselves in a URL. -/
def isUrlChar (c : Char) : Bool :=
  0x20 < c.toNat && c.toNat < 0x7F &&
    !(['\x22', '<', '>', '\x60', '#', '?', '\x7b', '\x7d', '%', '/', '\\'].contains c)

/-- The URL of the root. -/
def rootUrl (d : Directory) : String :=
  "file:///" ++
    String.ofList (Text.joinWith '/' (d.root.map fun n => Text.Percent.encode isUrlChar n.toList))

/-- The names on the way to an object. -/
def fileOf (d : Directory) (path : String) : List String := d.root ++ FileTree.namesOf path

/-- The content of an object.  A directory holds none. -/
def get (d : Directory) (path : String) : Except StoreError ByteArray :=
  let file := d.fileOf path
  match d.tree.content? file with
  | some data => .ok data
  | none =>
    let text := FileTree.pathText file
    match d.tree.resolve text with
    | .ok _ | .error .missing => .error (.notFound text)
    | .error _ => .error (.generic storeName)

/-- Whether the file with the first form of new content can be made, in a directory that is
there. -/
def hasRoom (file : List String) : Bool :=
  file.getLast?.all fun n => n.utf8ByteSize + draftMarkLength ≤ FileTree.maxNameLength

/-- Writes the content of an object, and returns the store after it.  Directories that were made
on the way stay when the file cannot be written. -/
def put (d : Directory) (path : String) (data : ByteArray) :
    Except StoreError Unit × Directory :=
  let file := d.fileOf path
  let refused := Except.error (.generic storeName)
  if FileTree.maxPathLength < (FileTree.pathText file).utf8ByteSize + draftMarkLength then
    (refused, d)
  else
    let (tree, made) := d.tree.makeDirectories file.dropLast
    if made ∧ hasRoom file ∧ !tree.isDirectory file then
      (.ok (), { d with tree := tree.setFile file data })
    else (refused, { d with tree })

/-- All objects with their content, by path. -/
def objects (d : Directory) : List (String × ByteArray) :=
  d.tree.files.filterMap fun f =>
    if f.1.take d.root.length = d.root ∧ d.root.length < f.1.length then
      some (String.ofList
        (Text.joinWith '/' ((f.1.drop d.root.length).map String.toList)), f.2)
    else none

end Directory

end LakeCatalog
