import LakeCatalog.Url.Host
import LakeCatalog.Url.Path

/-!
# URLs

The location of an object is a URL, and a few settings have to be URLs.  `Url.parse` follows the
parsing rules of the URL standard for a text without a base address: blanks at the ends do not
count, nor do tabs and line ends anywhere; the scheme decides about the shape of what follows;
and an address is checked even though only scheme and path are kept.

Schemes come in three kinds: the file scheme, the other well-known ones, for which slashes and
backslashes are the same and an address is required, and all others.
-/

namespace LakeCatalog

/-- What is kept of a URL. -/
structure Url where
  scheme : List Char
  path : Url.Path
deriving DecidableEq, Repr

namespace Url

open Text (splitOn isLetter isDigit lower)

/-- The kinds of schemes. -/
inductive Kind where
  | file
  | special
  | other
deriving DecidableEq, Repr

/-- The kind of a scheme. -/
def kindOf (scheme : List Char) : Kind :=
  if scheme = "file".toList then .file
  else if (["http", "https", "ws", "wss", "ftp"].map String.toList).contains scheme then .special
  else .other

/-- The text without controls and blanks at its ends. -/
def trim (cs : List Char) : List Char :=
  let outer (c : Char) : Bool := c.toNat ≤ 0x20
  ((cs.dropWhile outer).reverse.dropWhile outer).reverse

/-- A character of a scheme after the first. -/
def isSchemeChar (c : Char) : Bool :=
  isLetter c || isDigit c || c = '+' || c = '-' || c = '.'

/-- The scheme in small letters, and what follows its colon. -/
def splitScheme? (cs : List Char) : Option (List Char × List Char) :=
  match cs, cs.dropWhile isSchemeChar with
  | c :: _, ':' :: rest =>
    if isLetter c then some ((cs.takeWhile isSchemeChar).map lower, rest) else none
  | _, _ => none

/-- Slashes, and for well-known schemes backslashes. -/
def isSlash (kind : Kind) (c : Char) : Bool := c = '/' || (c = '\\' && kind ≠ .other)

/-- The characters that end an address. -/
def endsAddress (kind : Kind) (c : Char) : Bool := isSlash kind c || c = '?' || c = '#'

/-- The text up to the query or fragment. -/
def beforeQuery (cs : List Char) : List Char := cs.takeWhile fun c => !(c = '?' || c = '#')

/-- The raw segments of the text of a path; a slash at its head does not count. -/
def rawSegments (kind : Kind) (cs : List Char) : List (List Char) :=
  let plain := (cs.dropWhile isBreak).map fun c => if isSlash kind c then '/' else c
  match plain with
  | '/' :: rest => splitOn '/' rest
  | _ => splitOn '/' plain

/-! ### Addresses -/

/-- What precedes the last at-sign of an address, and what follows it. -/
def splitCredentials (address : List Char) : Option (List Char × List Char) :=
  let tail := address.reverse.takeWhile (· ≠ '@')
  if tail.length = address.length then none
  else some (address.take (address.length - tail.length - 1), tail.reverse)

/-- Whether credentials hold a user name or a password. -/
def hasCredentials (credentials : List Char) : Bool :=
  !(credentials = [] || credentials = [':'])

/-- The host of an address, and what follows it: colons between brackets belong to the host. -/
def splitHost (inBrackets : Bool) : List Char → List Char × List Char
  | [] => ([], [])
  | c :: cs =>
    if c = ':' ∧ ¬inBrackets then ([], c :: cs)
    else
      let r := splitHost (c = '[' || (c ≠ ']' && inBrackets)) cs
      (c :: r.1, r.2)

/-- Checks the digits after the colon behind a host, and returns what follows them. -/
def checkPort (after : Char → Bool) (cs : List Char) : Except Fault (List Char) :=
  let rest := cs.dropWhile isDigit
  let digits := cs.takeWhile isDigit
  if digits ≠ [] ∧ Text.Numeral.readBelow? 65536 digits = none then .error .portNumber
  else match rest with
    | [] => .ok []
    | c :: _ => if after c then .ok rest else .error .portNumber

/-- Checks the address at the head of a text, and returns what follows it. -/
def checkAddress (kind : Kind) (cs : List Char) : Except Fault (List Char) := do
  let address := cs.takeWhile fun c => !endsAddress kind c
  let after := cs.dropWhile fun c => !endsAddress kind c
  let (credentials, hostAndPort) := (splitCredentials address).getD ([], address)
  if (splitCredentials address).isSome ∧ credentials = [] ∧ hostAndPort = [] ∧ after ≠ [] then
    throw .emptyHost
  let (host, digits) := splitHost false hostAndPort
  if kind = .other then
    checkOpaque host
    if host = [] ∧ digits ≠ [] then throw .emptyHost
  else
    if host = [] then throw .emptyHost
    let _ ← checkDomain host
  let rest ← match digits with
    | ':' :: p => checkPort (fun c => c = '/' || c = '\\' || c = '?' || c = '#') (p ++ after)
    | _ => pure after
  if host = [] ∧ hasCredentials credentials then throw .emptyHost
  pure rest

/-- The path that follows an address.  Well-known schemes always have one. -/
def pathAfterAddress (kind : Kind) (cs : List Char) : Path :=
  let text := beforeQuery cs
  if kind = .other ∧ text = [] then .rooted []
  else .rooted (Path.resolve false [] (rawSegments kind text))

/-! ### Schemes -/

/-- A text after the colon of an unknown scheme. -/
def parseOther (cs : List Char) : Except Fault Path :=
  match cs with
  | '/' :: '/' :: rest => (checkAddress .other rest).map (pathAfterAddress .other)
  | '/' :: _ => .ok (.rooted (Path.resolve false [] (rawSegments .other (beforeQuery cs))))
  | _ => .ok (.opaque_ (Text.Percent.encode isOpaqueChar (beforeQuery cs)))

/-- A text after the colon of a well-known scheme: all slashes before the address are skipped. -/
def parseSpecial (cs : List Char) : Except Fault Path :=
  (checkAddress .special (cs.dropWhile (isSlash .special))).map (pathAfterAddress .special)

/-- The path of a file: empty segments in front are dropped. -/
def filePath (done : List (List Char)) (cs : List Char) : Path :=
  match (Path.resolve true done (rawSegments .file (beforeQuery cs))).dropWhile (· = []) with
  | [] => .rooted [[]]
  | ss => .rooted ss

/-- What follows two slashes at the head of a text. -/
def afterSlashes? (kind : Kind) (cs : List Char) : Option (List Char) :=
  match cs.dropWhile isBreak with
  | [] => none
  | a :: cs =>
    match cs.dropWhile isBreak with
    | [] => none
    | b :: rest => if isSlash kind a ∧ isSlash kind b then some rest else none

/-- A text after the colon of the file scheme, with its breaks.  After two slashes comes a host,
unless what is there is a drive; the host may be empty or name this machine. -/
def parseFile (cs : List Char) : Except Fault Path :=
  match afterSlashes? .file cs with
  | none => .ok (filePath [] cs)
  | some rest =>
    let host := dropBreaks (rest.takeWhile fun c => !endsAddress .file c)
    let after := rest.dropWhile fun c => !endsAddress .file c
    if isDrive host then .ok (filePath [] rest)
    else if host = [] then .ok (filePath [[]] after)
    else do
      let name ← checkDomain host
      pure (filePath (if name = "localhost".toList then [[]] else []) after)

/-- The URL of a text. -/
def parse (s : String) : Except Fault Url :=
  let text := trim s.toList
  match splitScheme? (dropBreaks text) with
  | none => .error .relative
  | some (scheme, rest) =>
    let path := match kindOf scheme with
      | .file => parseFile ((text.dropWhile (· ≠ ':')).drop 1)
      | .special => parseSpecial rest
      | .other => parseOther rest
    path.map (⟨scheme, ·⟩)

/-- Whether a text is a URL. -/
def isUrl (s : String) : Bool := (parse s).isOk

end Url

end LakeCatalog
