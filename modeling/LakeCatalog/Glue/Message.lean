import LakeCatalog.Glue.Shape
import LakeCatalog.Metastore.Call

/-!
# Messages to and from a remote metastore

A call becomes a request: the name of an operation and a JSON body.  The answer is a status and
a text, from which the reply to the call is read.

* `requestOf` — the request of a call;
* `tableToGlue`, `tableOfGlue` — the form of a record in a request, and the record in an
  answer;
* `replyTo` — the reply that an answer gives.

Members are left out of a request when they are absent.  Which empty lists and maps are sent
differs from member to member: parameters of a database and the columns and bucket columns of a
descriptor always are, all other parameters only when there are any.
-/

namespace LakeCatalog.Glue

open Json (Spelled)
open Metastore (Call Failure Signal Outcome)

/-- What the messages of this client have in common. -/
structure Client where
  catalogId : Option String := none
  pageSize : Option Int32 := none
deriving DecidableEq

/-- What is sent: an operation, and the members of the body. -/
structure Request where
  operation : String
  body : List (String × Json)

/-- What comes back. -/
structure Response where
  status : Nat := 200
  text : String := ""
  errorType : Option String := none
deriving DecidableEq, Inhabited

/-! ### Requests -/

/-- A member with a text, if there is one. -/
def textMember (name : String) (s : Option String) : Option (String × Json) :=
  s.map fun s => (name, .str s)

/-- A member with texts by name, unless there are none. -/
def parametersMember (p : Properties) : Option (String × Json) :=
  if p.isEmpty then none else some ("Parameters", .ofTextMap p)

/-- A column in a request. -/
def columnToGlue (c : Column) : Json :=
  Json.record [some ("Name", .str c.name), textMember "Type" c.columnType,
    textMember "Comment" c.comment, parametersMember c.parameters]

/-- A row layout in a request. -/
def serdeToGlue (s : SerdeInfo) : Json :=
  Json.record [textMember "Name" s.name, textMember "SerializationLibrary" s.serializationLibrary,
    parametersMember s.parameters]

/-- A member with a truth value, which is left out when it is false. -/
def flagMember (name : String) (b : Bool) : Option (String × Json) :=
  if b then some (name, .bool true) else none

/-- A descriptor in a request. -/
def descriptorToGlue (d : StorageDescriptor) : Json :=
  Json.record [some ("Columns", .arr (d.columns.map columnToGlue)),
    textMember "Location" d.location, textMember "InputFormat" d.inputFormat,
    textMember "OutputFormat" d.outputFormat, flagMember "Compressed" d.compressed,
    if d.numberOfBuckets = 0 then none else some ("NumberOfBuckets", .ofInt32 d.numberOfBuckets),
    d.serdeInfo.map fun s => ("SerdeInfo", serdeToGlue s),
    some ("BucketColumns", .ofStrings d.bucketColumns), parametersMember d.parameters,
    flagMember "StoredAsSubDirectories" d.storedAsSubDirectories]

/-- A table in a request; its database is named beside it. -/
def tableToGlue (t : TableRecord) : Json :=
  Json.record [some ("Name", .str t.name), textMember "Description" t.description,
    textMember "Owner" t.owner, textMember "TableType" t.tableType,
    parametersMember t.parameters,
    t.storageDescriptor.map fun d => ("StorageDescriptor", descriptorToGlue d)]

/-- A database in a request. -/
def databaseToGlue (d : DatabaseRecord) : Json :=
  Json.record [some ("Name", .str d.name), textMember "Description" d.description,
    textMember "LocationUri" d.locationUri, some ("Parameters", .ofTextMap d.parameters)]

/-- The request of a call. -/
def requestOf (client : Client) (c : Call) : Request :=
  let catalog := textMember "CatalogId" client.catalogId
  let size := client.pageSize.map fun n => ("MaxResults", Json.ofInt32 n)
  let (operation, members) := match c with
    | .getTable database name =>
      ("GetTable", [some ("DatabaseName", .str database), some ("Name", .str name)])
    | .createTable database table =>
      ("CreateTable", [some ("DatabaseName", .str database),
        some ("TableInput", tableToGlue table)])
    | .deleteTable database name =>
      ("DeleteTable", [some ("DatabaseName", .str database), some ("Name", .str name)])
    | .getTables database token =>
      ("GetTables", [some ("DatabaseName", .str database), textMember "NextToken" token, size])
    | .createDatabase database =>
      ("CreateDatabase", [some ("DatabaseInput", databaseToGlue database)])
    | .getDatabase name => ("GetDatabase", [some ("Name", .str name)])
    | .updateDatabase name database =>
      ("UpdateDatabase", [some ("Name", .str name),
        some ("DatabaseInput", databaseToGlue database)])
    | .deleteDatabase name => ("DeleteDatabase", [some ("Name", .str name)])
    | .getDatabases token => ("GetDatabases", [textMember "NextToken" token, size])
  ⟨operation, (catalog :: members).filterMap id⟩

/-! ### Records in answers -/

/-- The value of the last member with a name, unless it is null. -/
def lastMember (ms : List (String × Json)) (name : String) : Option Json :=
  match Entries.lookup name ms.reverse with
  | some .null | none => none
  | some j => some j

/-- The text of a member. -/
def textOf (ms : List (String × Json)) (name : String) : Option String :=
  (lastMember ms name).bind Json.text?

/-- The items of a member. -/
def itemsOf (ms : List (String × Json)) (name : String) : List Json :=
  match lastMember ms name with
  | some (.arr js) => js
  | _ => []

/-- The members of a member. -/
def recordOf (ms : List (String × Json)) (name : String) : Option (List (String × Json)) :=
  (lastMember ms name).bind Json.members?

/-- The parameters of a record. -/
def parametersOf (ms : List (String × Json)) : Properties :=
  ((lastMember ms "Parameters").bind Json.textMap?).getD .empty

/-- The truth value of a member, false when it is missing. -/
def flagOf (ms : List (String × Json)) (name : String) : Bool :=
  ((lastMember ms name).bind Json.bool?).getD false

/-- The column in an answer. -/
def columnOfGlue (j : Json) : Column :=
  let ms := j.members?.getD []
  { name := (textOf ms "Name").getD "", columnType := textOf ms "Type",
    comment := textOf ms "Comment", parameters := parametersOf ms }

/-- The row layout in an answer. -/
def serdeOfGlue (ms : List (String × Json)) : SerdeInfo :=
  { name := textOf ms "Name", serializationLibrary := textOf ms "SerializationLibrary",
    parameters := parametersOf ms }

/-- The descriptor in an answer. -/
def descriptorOfGlue (ms : List (String × Json)) : StorageDescriptor :=
  { location := textOf ms "Location", inputFormat := textOf ms "InputFormat",
    outputFormat := textOf ms "OutputFormat", compressed := flagOf ms "Compressed",
    numberOfBuckets :=
      ((lastMember ms "NumberOfBuckets").bind Json.int32?).getD 0,
    columns := (itemsOf ms "Columns").map columnOfGlue,
    bucketColumns := (itemsOf ms "BucketColumns").filterMap Json.text?,
    serdeInfo := (recordOf ms "SerdeInfo").map serdeOfGlue,
    parameters := parametersOf ms,
    storedAsSubDirectories := flagOf ms "StoredAsSubDirectories" }

/-- The table in an answer. -/
def tableOfGlue (j : Json) : TableRecord :=
  let ms := j.members?.getD []
  { name := (textOf ms "Name").getD "", databaseName := textOf ms "DatabaseName",
    tableType := textOf ms "TableType", owner := textOf ms "Owner",
    description := textOf ms "Description", parameters := parametersOf ms,
    storageDescriptor := (recordOf ms "StorageDescriptor").map descriptorOfGlue }

/-- The database in an answer. -/
def databaseOfGlue (j : Json) : DatabaseRecord :=
  let ms := j.members?.getD []
  { name := (textOf ms "Name").getD "", description := textOf ms "Description",
    locationUri := textOf ms "LocationUri", parameters := parametersOf ms }

/-! ### Answers -/

/-- What stands for the words of the transport. -/
def transportText : String := "<sdk>"

/-- A failure that the transport describes. -/
def transportFailure (s : Signal) : Failure := ⟨s, transportText⟩

/-- An answer that lacks the record it should hold. -/
def missing (what : String) : Failure := ⟨.service, "Glue response has no " ++ what⟩

/-- The body of an answer; the empty text stands for an object without members. -/
def bodyOf (r : Response) : Option Spelled :=
  if r.text = "" then some (.obj []) else Spelled.parse? r.text

/-- The members of the body of an answer of the given shape. -/
def answerOf (r : Response) (shape : List (String × Shape)) : Outcome (List (String × Json)) :=
  match (bodyOf r).bind (decodeRecord? shape) with
  | some ms => .ok ms
  | none => .error (transportFailure .service)

/-- The code of an error without the address after it and the name space before it. -/
def bareCode (code : String) : String :=
  let cs := code.toList.takeWhile (· ≠ ':')
  match cs.dropWhile (· ≠ '#') with
  | [] => String.ofList cs
  | _ :: rest => String.ofList rest

/-- The members of an error whose texts are read whatever its kind. -/
def errorTexts : List String := ["code", "__type", "message", "Message", "errorMessage"]

/-- The text that a member has, for the names of which it is read.  The names have to be spelled
without escapes. -/
def errorText? (m : List Char × Spelled) : Option (String × List Char) :=
  match errorTexts.find? (·.toList = m.1), m.2 with
  | some name, .text cs => some (name, cs)
  | _, _ => none

/-- The code in the members of an error: the last text under the one name, or else under the
other.  There is none to be read when a text that counts has a bad escape or a member cannot be
passed over. -/
def codeOfMembers? (ms : List (List Char × Spelled)) : Option (Option String) :=
  if membersAreSkippable maxSkippedDepth ms then do
    let texts ← (ms.filterMap errorText?).mapM fun m => (Json.textValue? m.2).map (m.1, ·)
    let last := texts.reverse
    pure ((Entries.lookup "code" last).or (Entries.lookup "__type" last))
  else none

/-- The code that the body of an error names, if it names one.  Only an object is read to its
end; of anything else the beginning is enough. -/
def bodyCode? (text : String) : Option (Option String) :=
  match text.toList.dropWhile Json.isSpace with
  | [] => some none
  | c :: cs =>
    match Json.readLexeme c cs with
    | some (.openObj, _) =>
      match Spelled.parse? text with
      | some (.obj ms) => codeOfMembers? ms
      | _ => none
    | some (.number cs, _) => (number? cs).map fun _ => none
    | some (.openArr, _) | some (.null, _) | some (.bool _, _) | some (.text _, _) => some none
    | _ => none

/-- Whether the operation of a call knows an error of this kind, whose body is then read. -/
def knows (c : Call) (s : Signal) : Bool :=
  match s, c with
  | .alreadyExists, .createTable .. | .alreadyExists, .createDatabase ..
  | .alreadyExists, .updateDatabase .. => true
  | .alreadyExists, _ => false
  | .entityNotFound, .createDatabase .. => false
  | _, _ => true

/-- The body of an error that an operation knows. -/
def errorShape : Signal → List (String × Shape)
  | .entityNotFound | .invalidInput => [("Message", .string), ("FromFederationSource", .boolean)]
  | _ => [("Message", .string)]

/-- The kinds of errors with a meaning, by their codes. -/
def signals : List (String × Signal) :=
  [("EntityNotFoundException", .entityNotFound), ("AlreadyExistsException", .alreadyExists),
    ("InvalidInputException", .invalidInput)]

/-- How a call failed whose answer has an error status. -/
def failureOf (c : Call) (r : Response) : Failure :=
  let signal := do
    let code ← bodyCode? r.text
    let code ← r.errorType.or code
    let s ← Entries.lookup (bareCode code) signals
    if knows c s then (bodyOf r).bind (decodeRecord? (errorShape s)) |>.map fun _ => s
    else some s
  transportFailure (signal.getD .service)

/-- A page in an answer. -/
def pageOf {α : Type} (record : Json → α) (items : String) (ms : List (String × Json)) :
    Page α :=
  ⟨(itemsOf ms items).map record, textOf ms "NextToken"⟩

/-- The reply of an answer with a good status.  Of operations that only change something the
body is not looked at. -/
def successOf (c : Call) (r : Response) : c.Reply :=
  match c with
  | .getTable .. =>
    (answerOf r [("Table", .table)]).bind fun ms =>
      match recordOf ms "Table" with
      | some t => .ok (tableOfGlue (.obj t))
      | none => .error (missing "table")
  | .createTable .. => .ok ()
  | .deleteTable .. => .ok ()
  | .getTables .. =>
    (answerOf r [("TableList", .list .table), ("NextToken", .string)]).map
      (pageOf tableOfGlue "TableList")
  | .createDatabase .. => .ok ()
  | .getDatabase .. =>
    (answerOf r [("Database", databaseShape)]).bind fun ms =>
      match recordOf ms "Database" with
      | some d => .ok (databaseOfGlue (.obj d))
      | none => .error (missing "database")
  | .updateDatabase .. => .ok ()
  | .deleteDatabase .. => .ok ()
  | .getDatabases .. =>
    (answerOf r [("DatabaseList", .list databaseShape), ("NextToken", .string)]).map
      (pageOf databaseOfGlue "DatabaseList")

/-- The reply that an answer gives to a call; without an answer the transport has failed. -/
def replyTo (c : Call) (r : Option Response) : c.Reply :=
  match r with
  | none => c.failed (transportFailure .service)
  | some r =>
    if 200 ≤ r.status ∧ r.status < 300 then successOf c r else c.failed (failureOf c r)

end LakeCatalog.Glue
