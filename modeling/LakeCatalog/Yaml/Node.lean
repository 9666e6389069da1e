import LakeCatalog.Yaml.Lexer

/-!
# Documents of YAML

A document is a tree of scalars, sequences and mappings.  An alias in it stands for the node
that was given a name by an anchor.

* `Node`, `Document` — the trees, and a tree with its anchored nodes;
* `Node.size` — the number of marks that a tree has: one for a leaf, and two for a collection;
* `Document.ofTokens?`, `Document.parse?` — the only document of a text.

A text without a document, or with more than one, is refused.  So is an alias without an anchor
before it, and a tag whose handle has no meaning.
-/

namespace LakeCatalog.Yaml

/-- A tree.  An alias holds the number of its anchor. -/
inductive Node where
  | scalar (tag : Option String) (text : String) (style : Style)
  | sequence (tag : Option String) (items : List Node)
  | mapping (tag : Option String) (entries : List (Node × Node))
  | aliasTo (anchor : Nat)

namespace Node

mutual

/-- One for a scalar or an alias, and two for a collection besides its parts. -/
def size : Node → Nat
  | scalar _ _ _ => 1
  | aliasTo _ => 1
  | sequence _ items => sizeItems items + 2
  | mapping _ entries => sizeEntries entries + 2

/-- The sizes of the items of a sequence together. -/
def sizeItems : List Node → Nat
  | [] => 0
  | n :: ns => size n + sizeItems ns

/-- The sizes of the entries of a mapping together. -/
def sizeEntries : List (Node × Node) → Nat
  | [] => 0
  | e :: es => size e.1 + size e.2 + sizeEntries es

end

/-- What stands where a node is missing. -/
def empty : Node := .scalar none "" .plain

end Node

/-- A tree, and the nodes that have an anchor, each with the number of its anchor. -/
structure Document where
  root : Node
  anchored : List (Nat × Node)

/-- The node of an anchor. -/
def Document.target? (d : Document) (anchor : Nat) : Option Node := d.anchored.lookup anchor

/-! ### Reading -/

/-- The tokens that are left, and what the reader has to remember: the meaning of handles, the
number of each anchor that has been named, and the anchored nodes, last first.  A node that is
not complete has its place among them. -/
structure Cursor where
  tokens : List Token
  handles : List (String × String) := []
  anchors : List (String × Nat) := []
  anchored : List (Nat × Option Node) := []

/-- A reader of tokens. -/
abbrev Reader := StateT Cursor Option

namespace Reader

/-- The next token. -/
def peek : Reader Token := return (← get).tokens.head?.getD .streamEnd

/-- Passes over the next token. -/
def advance : Reader Unit := modify fun c => { c with tokens := c.tokens.drop 1 }

/-- The node of an alias.  The last anchor of its name before it counts. -/
def aliasTo (name : List Char) : Reader Node := do
  match (← get).anchors.lookup (String.ofList name) with
  | some anchor => pure (.aliasTo anchor)
  | none => failure

/-- Reads an anchor, if there is one. -/
def anchor? : Reader (Option String) := do
  match ← peek with
  | .anchor name => advance; pure (some (String.ofList name))
  | _ => pure none

/-- Reads a tag, if there is one.  A handle stands for the beginning of a tag. -/
def tag? : Reader (Option String) := do
  match ← peek with
  | .tag handle suffix =>
    advance
    if handle = [] then pure (some (String.ofList suffix))
    else match (← get).handles.lookup (String.ofList handle) with
      | some head => pure (some (head ++ String.ofList suffix))
      | none => failure
  | _ => pure none

/-- Reads an anchor and a tag in either order, if there are any. -/
def properties : Reader (Option String × Option String) := do
  match ← anchor? with
  | some name => pure (some name, ← tag?)
  | none =>
    let tag ← tag?
    pure (← anchor?, tag)

/-- Gives an anchor the number of names that are known, and a place for its node. -/
def reserve (name : String) : Reader Unit :=
  modify fun c =>
    let number := c.anchors.length
    { c with
      anchors := (name, number) :: c.anchors.filter (·.1 ≠ name)
      anchored := (number, none) :: c.anchored }

/-- Puts a node in the place that was reserved when so many nodes were anchored. -/
def fill (before : Nat) (n : Node) : Reader Unit :=
  modify fun c =>
    { c with anchored := c.anchored.modify (c.anchored.length - before - 1) fun e => (e.1, some n) }

/-- Whether a token stands where an item of a sequence without indentation is missing. -/
def endsItem : Token → Bool
  | .blockEntry | .key | .value | .blockEnd => true
  | _ => false

/-- Whether a token stands where a key or value of a block mapping is missing. -/
def endsEntry : Token → Bool
  | .key | .value | .blockEnd => true
  | _ => false

/-- Whether a token stands where a key or value between braces is missing. -/
def endsFlowEntry : Token → Bool
  | .value | .flowEntry | .flowMappingEnd => true
  | _ => false

/-- Whether a token stands where a key or value of a single entry between brackets is
missing. -/
def endsFlowItem : Token → Bool
  | .value | .flowEntry | .flowSequenceEnd => true
  | _ => false

/-- The node that stands for a missing one after an anchor or tag. -/
def missing (tag : Option String) (marked : Bool) : Reader Node :=
  if marked then pure (.scalar tag "" .plain) else failure

mutual

/-- Reads a node with its anchor and tag.  A block can be read only where one may stand, and a
sequence without indentation only in a block mapping. -/
def node : Nat → Bool → Bool → Reader Node
  | 0, _, _ => failure
  | n + 1, block, indentless => do
    match ← peek with
    | .aliasTo name => advance; aliasTo name
    | _ =>
      let (name, tag) ← properties
      let before := (← get).anchored.length
      if let some name := name then reserve name
      let node ← content n block indentless tag (name.isSome || tag.isSome)
      if name.isSome then fill before node
      pure node

/-- Reads a node after its anchor and tag.  After one of them a scalar may be missing. -/
def content : Nat → Bool → Bool → Option String → Bool → Reader Node
  | 0, _, _, _, _ => failure
  | n + 1, block, indentless, tag, marked => do
    match ← peek with
    | .scalar text style =>
      advance
      pure (.scalar tag (String.ofList text) style)
    | .flowSequenceStart => advance; return .sequence tag (← flowItems n true)
    | .flowMappingStart => advance; return .mapping tag (← flowEntries n true)
    | .blockSequenceStart =>
      if block then advance; return .sequence tag (← blockItems n)
      else missing tag marked
    | .blockMappingStart =>
      if block then advance; return .mapping tag (← blockEntries n)
      else missing tag marked
    | .blockEntry =>
      if indentless then return .sequence tag (← indentlessItems n)
      else missing tag marked
    | _ => missing tag marked

/-- Reads a node that may be missing, as the next token tells. -/
def nodeUnless (ends : Token → Bool) : Nat → Bool → Bool → Reader Node
  | 0, _, _ => failure
  | n + 1, block, indentless => do
    if ends (← peek) then pure .empty else node n block indentless

/-- Reads the items of a block sequence, and its end. -/
def blockItems : Nat → Reader (List Node)
  | 0 => failure
  | n + 1 => do
    match ← peek with
    | .blockEntry =>
      advance
      let item ← nodeUnless (fun t => t = .blockEntry || t = .blockEnd) n true false
      return item :: (← blockItems n)
    | .blockEnd => advance; pure []
    | _ => failure

/-- Reads the items of a sequence without indentation. -/
def indentlessItems : Nat → Reader (List Node)
  | 0 => failure
  | n + 1 => do
    match ← peek with
    | .blockEntry =>
      advance
      let item ← nodeUnless endsItem n true false
      return item :: (← indentlessItems n)
    | _ => pure []

/-- Reads the entries of a block mapping, and its end. -/
def blockEntries : Nat → Reader (List (Node × Node))
  | 0 => failure
  | n + 1 => do
    match ← peek with
    | .key =>
      advance
      let key ← nodeUnless endsEntry n true true
      let value ← blockValue n
      return (key, value) :: (← blockEntries n)
    | .blockEnd => advance; pure []
    | _ => failure

/-- Reads a value of a block mapping with its mark, if there is one. -/
def blockValue : Nat → Reader Node
  | 0 => failure
  | n + 1 => do
    if (← peek) = .value then
      advance
      nodeUnless endsEntry n true true
    else pure .empty

/-- Reads the items between brackets, and the bracket that closes them. -/
def flowItems : Nat → Bool → Reader (List Node)
  | 0, _ => failure
  | n + 1, first => do
    if (← peek) = .flowSequenceEnd then advance; pure []
    else
      if !first then
        if (← peek) = .flowEntry then advance else failure
      match ← peek with
      | .flowSequenceEnd => advance; pure []
      | .key =>
        advance
        let entry ← singleEntry n
        return .mapping none [entry] :: (← flowItems n false)
      | _ =>
        let item ← node n false false
        return item :: (← flowItems n false)

/-- Reads an entry of a mapping that stands for itself between brackets.  Where its key is
missing, the next token is passed over. -/
def singleEntry : Nat → Reader (Node × Node)
  | 0 => failure
  | n + 1 => do
    let key ← if endsFlowItem (← peek) then (do advance; pure .empty) else node n false false
    if (← peek) = .value then
      advance
      let value ← nodeUnless (fun t => t = .flowEntry || t = .flowSequenceEnd) n false false
      pure (key, value)
    else pure (key, .empty)

/-- Reads the entries between braces, and the brace that closes them. -/
def flowEntries : Nat → Bool → Reader (List (Node × Node))
  | 0, _ => failure
  | n + 1, first => do
    if (← peek) = .flowMappingEnd then advance; pure []
    else
      if !first then
        if (← peek) = .flowEntry then advance else failure
      match ← peek with
      | .flowMappingEnd => advance; pure []
      | .key =>
        advance
        let key ← nodeUnless endsFlowEntry n false false
        if (← peek) = .value then
          advance
          let value ← nodeUnless (fun t => t = .flowEntry || t = .flowMappingEnd) n false false
          return (key, value) :: (← flowEntries n false)
        else return (key, .empty) :: (← flowEntries n false)
      | _ =>
        let key ← node n false false
        return (key, .empty) :: (← flowEntries n false)

end

/-! ### Documents -/

/-- The handles that have a meaning in every document. -/
def commonHandles : List (String × String) := [("!", "!"), ("!!", "tag:yaml.org,2002:")]

/-- Reads the directives before a document.  There is at most one version, and at most one
meaning of a handle. -/
def directives : Nat → Bool → Reader Unit
  | 0, _ => failure
  | n + 1, versioned => do
    match ← peek with
    | .version major minor =>
      if versioned ∨ major ≠ 1 ∨ (minor ≠ 1 ∧ minor ≠ 2) then failure
      advance
      directives n true
    | .tagAlias handle head =>
      let handle := String.ofList handle
      if ((← get).handles.lookup handle).isSome then failure
      advance
      modify fun c => { c with handles := c.handles ++ [(handle, String.ofList head)] }
      directives n versioned
    | _ => modify fun c => { c with handles := c.handles ++ commonHandles }

/-- Whether a token stands where the root of a document is missing. -/
def endsDocument : Token → Bool
  | .version _ _ | .tagAlias _ _ | .documentStart | .documentEnd | .streamEnd => true
  | _ => false

/-- Reads a document.  Only after directives and a mark its root may be missing. -/
def root (n : Nat) : Reader Node := do
  let explicit := endsDocument (← peek)
  directives n false
  if explicit then
    if (← peek) = .documentStart then advance else failure
    nodeUnless endsDocument n true false
  else node n true false

end Reader

/-- The only document of a sequence of tokens.  Between two tokens a reader calls itself at most
four times. -/
def Document.ofTokens? (tokens : List Token) : Option Document := do
  let (root, c) ← (Reader.root (4 * tokens.length + 4)).run { tokens := tokens }
  if c.tokens.dropWhile (· = .documentEnd) = [.streamEnd] then
    pure ⟨root, c.anchored.filterMap fun e => e.2.map (e.1, ·)⟩
  else none

/-- The only document of a text. -/
def Document.parse? (text : String) : Option Document := do
  Document.ofTokens? (← Token.lex? text)

end LakeCatalog.Yaml
