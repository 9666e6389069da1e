import LakeCatalog.Proofs.GlueRecords
import LakeCatalog.Proofs.SiteCalls

/-!
# A remote metastore gives back what it was given

A client is connected to a remote metastore, of which nothing is known but that it keeps what it
accepts and answers with the members that it was sent.  Through this client, a record that was stored
is looked up again as it was; a metastore in memory answers the same.

* `Remote`, `Remote.call` — a remote metastore, and a call of a client to it;
* `requestFields`, `tells_request` — what a request tells;
* `Holds`, `answerOf_of_holds` — an answer that holds a record, perhaps with members that were not
  sent;
* `Remote.Verbatim` — what is relied on of a remote metastore;
* `Lossless` — records are looked up as they were stored;
* `Remote.lossless` — this is so through a client of a remote metastore, and in memory;
* `shelf` — a remote metastore that keeps to this.
-/

namespace LakeCatalog.Metastore

/-- Records are looked up as they were stored; a table has the database beside it. -/
structure Lossless {σ : Type} (answer : σ → (c : Call) → c.Reply × σ) : Prop where
  table : ∀ s database t, (answer s (.createTable database t)).1 = .ok () →
    (answer (answer s (.createTable database t)).2 (.getTable database t.name)).1
      = .ok { t with databaseName := some database }
  created : ∀ s d, (answer s (.createDatabase d)).1 = .ok () →
    (answer (answer s (.createDatabase d)).2 (.getDatabase d.name)).1 = .ok d
  updated : ∀ s name d, (answer s (.updateDatabase name d)).1 = .ok () →
    (answer (answer s (.updateDatabase name d)).2 (.getDatabase name)).1 = .ok d

/-! ### In memory -/

namespace Memory

variable {m m' : Memory}

theorem changed_fst {result : Outcome Memory} (h : (m.changed result).1 = .ok ()) :
    ∃ m', result = .ok m' ∧ (m.changed result).2 = m' := by
  cases result with
  | ok m' => exact ⟨m', rfl, rfl⟩
  | error f => cases h

/-- What begins with the check of a name and succeeds has a good name. -/
theorem checkName_of_ok {α : Type} {kind name : String} {rest : Unit → Outcome α} {a : α}
    (h : (checkName kind name >>= rest) = .ok a) : checkName kind name = .ok () := by
  cases hc : checkName kind name with
  | ok _ => rfl
  | error f =>
      rw [hc] at h
      cases h

theorem getDatabase_setDatabase_self {name : String} (d : DatabaseState)
    (hname : checkName "Database" name = .ok ()) :
    (m.setDatabase name d).getDatabase name = .ok d.record := by
  have hd : (m.setDatabase name d).databases.get? name = some d := by
    rw [get?_setDatabase, if_pos rfl]
  unfold getDatabase
  rw [hname, database_of_get? hd]
  rfl

theorem getTable_setDatabase_self {database name : String} {d : DatabaseState} {t : TableRecord}
    (hname : checkName "Table" name = .ok ()) (ht : d.tables.get? name = some t) :
    (m.setDatabase database d).getTable database name = .ok t := by
  have hd : (m.setDatabase database d).databases.get? database = some d := by
    rw [get?_setDatabase, if_pos rfl]
  unfold getTable
  rw [hname, database_of_get? hd]
  simp only [bind, Except.bind, ht]
  rfl

theorem lossless_respond : Lossless respond where
  table := by
    intro m database t hok
    obtain ⟨m', hcreate, hm'⟩ := changed_fst hok
    obtain ⟨d, -, hset⟩ := createTable_ok hcreate
    show (m.changed (m.createTable database t)).2.getTable database t.name = _
    rw [hm', hset]
    exact getTable_setDatabase_self (checkName_of_ok hcreate)
      (OrderedMap.get?_insert_self _ _ _)
  created := by
    intro m d hok
    obtain ⟨m', hcreate, hm'⟩ := changed_fst hok
    obtain ⟨-, hset⟩ := createDatabase_ok hcreate
    show (m.changed (m.createDatabase d)).2.getDatabase d.name = _
    rw [hm', hset]
    exact getDatabase_setDatabase_self _ (checkName_of_ok hcreate)
  updated := by
    intro m name d hok
    obtain ⟨m', hupdate, hm'⟩ := changed_fst hok
    obtain ⟨e, -, hset⟩ := updateDatabase_ok hupdate
    show (m.changed (m.updateDatabase name d)).2.getDatabase name = _
    rw [hm', hset]
    exact getDatabase_setDatabase_self _ (checkName_of_ok hupdate)

end Memory

end LakeCatalog.Metastore

namespace LakeCatalog.Glue

open Json (Spelled)
open Metastore (Call Memory)

/-- A remote metastore: it answers a request, or does not, and goes on from there. -/
def Remote (σ : Type) : Type := Request → σ → Option Response × σ

/-- Whether a request was accepted. -/
def Response.Good (r : Response) : Prop := 200 ≤ r.status ∧ r.status < 300

/-- A call of a client, with the state of the remote metastore after it. -/
def Remote.call {σ : Type} (remote : Remote σ) (client : Client) (s : σ) (c : Call) :
    c.Reply × σ :=
  (replyTo c (remote (requestOf client c) s).1, (remote (requestOf client c) s).2)

/-! ### Requests -/

/-- The fields of a request. -/
def requestFields (client : Client) (c : Call) : List (String × Option Json) :=
  ("CatalogId", client.catalogId.map .str) ::
    match c with
    | .getTable database name =>
      [("DatabaseName", some (.str database)), ("Name", some (.str name))]
    | .createTable database table =>
      [("DatabaseName", some (.str database)), ("TableInput", some (tableToGlue table))]
    | .deleteTable database name =>
      [("DatabaseName", some (.str database)), ("Name", some (.str name))]
    | .getTables database token =>
      [("DatabaseName", some (.str database)), ("NextToken", token.map .str),
        ("MaxResults", client.pageSize.map .ofInt32)]
    | .createDatabase database => [("DatabaseInput", some (databaseToGlue database))]
    | .getDatabase name => [("Name", some (.str name))]
    | .updateDatabase name database =>
      [("Name", some (.str name)), ("DatabaseInput", some (databaseToGlue database))]
    | .deleteDatabase name => [("Name", some (.str name))]
    | .getDatabases token =>
      [("NextToken", token.map .str), ("MaxResults", client.pageSize.map .ofInt32)]

theorem body_requestOf (client : Client) (c : Call) :
    (requestOf client c).body = present (requestFields client c) := by
  obtain ⟨catalogId, pageSize⟩ := client
  cases c with
  | getTables database token => cases catalogId <;> cases token <;> cases pageSize <;> rfl
  | getDatabases token => cases catalogId <;> cases token <;> cases pageSize <;> rfl
  | _ => cases catalogId <;> rfl

/-- What a request tells under a name. -/
theorem tells_request (client : Client) (c : Call) (name : String) :
    Tells (requestOf client c).body name (Entries.lookup name (requestFields client c)).join := by
  have hnodup : ((requestFields client c).map (·.1)).Nodup := by
    cases c <;> simp [requestFields]
  rw [body_requestOf]
  exact tells_present hnodup name

/-! ### Answers -/

/-- An answer holds a record: under its key stand the given members, and perhaps others that a
record of its shape may have besides those of some names. -/
def Holds (r : Response) (key : String) (shape : Shape) (names : List String)
    (ms : List (String × Json)) : Prop :=
  ∃ k ws members, bodyOf r = some (.obj [(k, .obj ws)]) ∧ Json.textValue? k = some key ∧
    shape.members? = some (.known members) ∧ Carries (maxDepth - 2) members names ms ws

section Holds

variable {r : Response} {key : String} {shape : Shape} {names : List String}
  {ms : List (String × Json)}

/-- **An answer that holds a record** is accepted, and tells it under the names. -/
theorem Holds.answerOf (h : Holds r key shape names ms)
    (hms : ∀ members, shape.members? = some (.known members) →
      HasShape (maxDepth - 1) (.structure members) (.obj ms)) :
    ∃ js, answerOf r [(key, shape)] = .ok [(key, .obj js)] ∧
      ∀ m, m.1 ∈ names → (m ∈ js ↔ m ∈ ms) := by
  obtain ⟨k, ws, members, hbody, hkey, hmembers, hcarries⟩ := h
  obtain ⟨js, hjs, hsame⟩ := decodeMembers_of_carries (hms members hmembers) hcarries
  refine ⟨js, ?_, hsame⟩
  have hrecord : decode (maxDepth - 1) shape (.obj ws) = some (.obj js) := by
    unfold decode
    simp only [hmembers]
    exact congrArg (Option.map Json.obj) hjs
  have hknown : Entries.lookup key [(key, shape)] = some shape := if_pos rfl
  have hdecode : decodeMembers (maxDepth - 1) (.known [(key, shape)]) [(k, .obj ws)]
      = some [(key, .obj js)] := decodeMembers_known_cons hkey hknown hrecord rfl
  unfold Glue.answerOf
  have hwhole : (some (Spelled.obj [(k, .obj ws)])).bind (decodeRecord? [(key, shape)])
      = some [(key, .obj js)] := hdecode
  rw [hbody]
  simp only [hwhole]

theorem recordOf_single (js : List (String × Json)) : recordOf [(key, .obj js)] key = some js := by
  simp [recordOf, lastMember, Entries.lookup, Json.members?]

end Holds

/-- A table in an answer is the one that was sent. -/
theorem successOf_getTable {r : Response} {database : String} {t : TableRecord}
    (h : Holds r "Table" .table tableNames (present (answeredFields database t)))
    (a b : String) :
    successOf (.getTable a b) r = .ok { t with databaseName := some database } := by
  obtain ⟨js, hjs, hsame⟩ := h.answerOf fun members hmembers => by
    cases hmembers
    exact hasShape_table database t
  have hnodup : ((answeredFields database t).map (·.1)).Nodup := by
    simp [answeredFields, tableFields]
  have hread : tableOfGlue (.obj js) = { t with databaseName := some database } :=
    tableOfGlue_of_tells fun name hname =>
      (tells_present hnodup name).congr fun j => hsame (name, j) hname
  show (answerOf r [("Table", .table)]).bind _ = _
  rw [hjs]
  simp only [Except.bind, recordOf_single, hread]

/-- A database in an answer is the one that was sent. -/
theorem successOf_getDatabase {r : Response} {d : DatabaseRecord}
    (h : Holds r "Database" databaseShape databaseNames (present (databaseFields d)))
    (a : String) : successOf (.getDatabase a) r = .ok d := by
  obtain ⟨js, hjs, hsame⟩ := h.answerOf fun members hmembers => by
    cases hmembers
    exact hasShape_database d
  have hnodup : ((databaseFields d).map (·.1)).Nodup := by simp [databaseFields]
  have hread : databaseOfGlue (.obj js) = d :=
    databaseOfGlue_of_tells fun name hname =>
      (tells_present hnodup name).congr fun j => hsame (name, j) hname
  show (answerOf r [("Database", databaseShape)]).bind _ = _
  rw [hjs]
  simp only [Except.bind, recordOf_single, hread]

/-! ### What is relied on -/

/-- Two requests name the same catalog, or none. -/
def SameCatalog (q q' : Request) : Prop :=
  ∃ catalogId : Option String, Tells q.body "CatalogId" (catalogId.map .str) ∧
    Tells q'.body "CatalogId" (catalogId.map .str)

/-- A request says a value under a name. -/
def Request.Says (q : Request) (name : String) (j : Json) : Prop := Tells q.body name (some j)

theorem Request.Says.recordOf {q : Request} {name : String} {ms : List (String × Json)}
    (h : q.Says name (.obj ms)) : Glue.recordOf q.body name = some ms := by
  have htells : Tells q.body name ((some ms).map fun ms => .obj (id ms)) := h
  exact htells.recordOf

theorem Request.Says.textOf {q : Request} {name s : String} (h : q.Says name (.str s)) :
    Glue.textOf q.body name = some s := by
  have htells : Tells q.body name ((some s).map .str) := h
  exact htells.textOf

/-- Once a request was accepted, another one is answered with a record. -/
def Remote.GivesBack {σ : Type} (remote : Remote σ) (put get : Request) (key : String)
    (shape : Shape) (names : List String) (ms : List (String × Json)) : Prop :=
  ∀ s r, (remote put s).1 = some r → r.Good →
    ∃ r', (remote get (remote put s).2).1 = some r' ∧ r'.Good ∧ Holds r' key shape names ms

/-- A remote metastore keeps what it accepts, and answers with the members that it was sent.  Under
the names that are read it adds none but the name of the database, beside a table. -/
structure Remote.Verbatim {σ : Type} (remote : Remote σ) : Prop where
  table : ∀ put get : Request, put.operation = "CreateTable" → get.operation = "GetTable" →
    SameCatalog put get → ∀ database name input,
    put.Says "DatabaseName" (.str database) → get.Says "DatabaseName" (.str database) →
    put.Says "TableInput" (.obj input) → Tells input "Name" (some (.str name)) →
    get.Says "Name" (.str name) →
    remote.GivesBack put get "Table" .table tableNames (("DatabaseName", .str database) :: input)
  created : ∀ put get : Request, put.operation = "CreateDatabase" →
    get.operation = "GetDatabase" → SameCatalog put get → ∀ name input,
    put.Says "DatabaseInput" (.obj input) → Tells input "Name" (some (.str name)) →
    get.Says "Name" (.str name) →
    remote.GivesBack put get "Database" databaseShape databaseNames input
  updated : ∀ put get : Request, put.operation = "UpdateDatabase" →
    get.operation = "GetDatabase" → SameCatalog put get → ∀ name input,
    put.Says "Name" (.str name) → put.Says "DatabaseInput" (.obj input) →
    get.Says "Name" (.str name) →
    remote.GivesBack put get "Database" databaseShape databaseNames input

variable {σ : Type} {remote : Remote σ} {client : Client} {s : σ}

/-- Of operations that only change something, success means that the request was accepted. -/
theorem Remote.exists_good {c : Call} {a : c.Answer}
    (h : (remote.call client s c).1 = .ok a) :
    ∃ r, (remote (requestOf client c) s).1 = some r ∧ r.Good := by
  have hreply : replyTo c (remote (requestOf client c) s).1 = .ok a := h
  unfold replyTo at hreply
  cases hr : (remote (requestOf client c) s).1 with
  | none =>
      rw [hr] at hreply
      cases hreply
  | some r =>
      rw [hr] at hreply
      by_cases hgood : 200 ≤ r.status ∧ r.status < 300
      · exact ⟨r, rfl, hgood⟩
      · simp only [if_neg hgood] at hreply
        cases hreply

theorem Remote.call_of_good {c : Call} {r : Response}
    (hr : (remote (requestOf client c) s).1 = some r) (hgood : r.Good) :
    (remote.call client s c).1 = successOf c r := by
  show replyTo c (remote (requestOf client c) s).1 = _
  rw [hr]
  exact if_pos hgood

/-- What is given back is what the call that asks for it replies. -/
theorem Remote.GivesBack.reply {put get : Call} {key : String} {shape : Shape}
    {names : List String} {ms : List (String × Json)} {a : put.Answer} {x : get.Answer}
    (h : remote.GivesBack (requestOf client put) (requestOf client get) key shape names ms)
    (hok : (remote.call client s put).1 = .ok a)
    (hread : ∀ r, Holds r key shape names ms → successOf get r = .ok x) :
    (remote.call client (remote.call client s put).2 get).1 = .ok x := by
  obtain ⟨r, hr, hgood⟩ := Remote.exists_good hok
  obtain ⟨r', hr', hgood', hholds⟩ := h s r hr hgood
  rw [← hread r' hholds]
  exact Remote.call_of_good hr' hgood'

theorem sameCatalog (client : Client) (c c' : Call) :
    SameCatalog (requestOf client c) (requestOf client c') :=
  ⟨client.catalogId, tells_request client c "CatalogId", tells_request client c' "CatalogId"⟩

/-- What a request that brings a table says of it. -/
theorem says_tableInput (client : Client) (database : String) (t : TableRecord) :
    (requestOf client (.createTable database t)).Says "TableInput"
      (.obj (present (tableFields t))) := by
  rw [← tableToGlue_eq]
  exact tells_request client (.createTable database t) "TableInput"

/-- What a request that brings a database says of it. -/
theorem says_databaseInput {c : Call} {d : DatabaseRecord}
    (h : (Entries.lookup "DatabaseInput" (requestFields client c)).join
      = some (databaseToGlue d)) :
    (requestOf client c).Says "DatabaseInput" (.obj (present (databaseFields d))) := by
  rw [← databaseToGlue_eq]
  unfold Request.Says
  rw [← h]
  exact tells_request client c "DatabaseInput"

theorem Remote.Verbatim.lossless_call (h : remote.Verbatim) (client : Client) :
    Metastore.Lossless (remote.call client) where
  table := by
    intro s database t hok
    have hnodup : ((tableFields t).map (·.1)).Nodup := by simp [tableFields]
    have hgives := h.table (requestOf client (.createTable database t))
      (requestOf client (.getTable database t.name)) rfl rfl (sameCatalog client _ _)
      database t.name (present (tableFields t)) (tells_request client _ "DatabaseName")
      (tells_request client _ "DatabaseName") (says_tableInput client database t)
      (tells_present hnodup "Name")
      (tells_request client _ "Name")
    exact hgives.reply hok fun r hholds => successOf_getTable hholds database t.name
  created := by
    intro s d hok
    have hnodup : ((databaseFields d).map (·.1)).Nodup := by simp [databaseFields]
    have hgives := h.created (requestOf client (.createDatabase d))
      (requestOf client (.getDatabase d.name)) rfl rfl (sameCatalog client _ _)
      d.name (present (databaseFields d)) (says_databaseInput rfl) (tells_present hnodup "Name")
      (tells_request client _ "Name")
    exact hgives.reply hok fun r hholds => successOf_getDatabase hholds d.name
  updated := by
    intro s name d hok
    have hgives := h.updated (requestOf client (.updateDatabase name d))
      (requestOf client (.getDatabase name)) rfl rfl (sameCatalog client _ _)
      name (present (databaseFields d)) (tells_request client _ "Name") (says_databaseInput rfl)
      (tells_request client _ "Name")
    exact hgives.reply hok fun r hholds => successOf_getDatabase hholds name

/-- **Nothing is lost** between a client and a remote metastore that keeps what it accepts: a record
that was stored is looked up as it was, in every field.  In memory the answers are the same. -/
theorem Remote.lossless (h : remote.Verbatim) (client : Client) :
    Metastore.Lossless (remote.call client) ∧ Metastore.Lossless Memory.respond :=
  ⟨h.lossless_call client, Memory.lossless_respond⟩

/-! ### A remote metastore that keeps what it accepts -/

/-- Where a record is kept: its kind, and the names of its catalog, its database and itself. -/
structure Place where
  key : String
  catalogId : Option String
  database : Option String
  name : Option String
deriving DecidableEq

/-- The record that a request brings, with the place that is meant for it. -/
def Request.brought? (q : Request) : Option (Place × List (String × Json)) :=
  let catalogId := textOf q.body "CatalogId"
  let database := textOf q.body "DatabaseName"
  match q.operation with
  | "CreateTable" => (recordOf q.body "TableInput").map fun input =>
      (⟨"Table", catalogId, database, textOf input "Name"⟩,
        ("DatabaseName", .str (database.getD "")) :: input)
  | "CreateDatabase" => (recordOf q.body "DatabaseInput").map fun input =>
      (⟨"Database", catalogId, none, textOf input "Name"⟩, input)
  | "UpdateDatabase" => (recordOf q.body "DatabaseInput").map fun input =>
      (⟨"Database", catalogId, none, textOf q.body "Name"⟩, input)
  | _ => none

/-- The place that a request asks about. -/
def Request.asked? (q : Request) : Option Place :=
  let catalogId := textOf q.body "CatalogId"
  let name := textOf q.body "Name"
  match q.operation with
  | "GetTable" => some ⟨"Table", catalogId, textOf q.body "DatabaseName", name⟩
  | "GetDatabase" => some ⟨"Database", catalogId, none, name⟩
  | _ => none

/-- The text of an answer with a record, which has the time of its creation besides. -/
def stamped (key : String) (ms : List (String × Json)) : Json :=
  .obj [(key, .obj (("CreateTime", .int 1700000000) :: ms))]

/-- A remote metastore that keeps the last record for each place, as far as it can spell it.  Only a
record that is there can be replaced. -/
def shelf : Remote (Place → Option (List (String × Json))) := fun q s =>
  match q.brought?, q.asked? with
  | some (place, ms), _ =>
    if (stamped place.key ms).Whole ∧ (q.operation = "UpdateDatabase" ↔ (s place).isSome) then
      (some {}, fun p => if p = place then some ms else s p)
    else (some { status := 400, errorType := some "InvalidInputException" }, s)
  | none, some place =>
    match s place with
    | some ms => (some { text := (stamped place.key ms).render }, s)
    | none => (some { status := 400, errorType := some "EntityNotFoundException" }, s)
  | none, none => (none, s)

theorem bodyOf_render {j : Json} (h : j.Whole) :
    bodyOf { text := j.render } = some j.spelled := by
  have hparse : Spelled.parse? j.render = some j.spelled := by
    show (Json.lex (String.ofList j.chars).toList).bind _ = _
    rw [String.toList_ofList, Json.lex_chars h, Option.bind_some, Json.ofLexemes?_lexemes]
  have hne : j.render ≠ "" := by
    intro hempty
    have hnone : Spelled.parse? "" = none := by
      show (Json.lex []).bind _ = _
      rw [Json.lex]
      rfl
    rw [hempty, hnone] at hparse
    cases hparse
  unfold bodyOf
  rw [if_neg hne, hparse]

theorem spelledMembers_eq_map (ms : List (String × Json)) :
    Json.spelledMembers ms = ms.map fun m => (Json.escape m.1, m.2.spelled) := by
  induction ms with
  | nil => rfl
  | cons m ms ih => rw [List.map_cons, ← ih]; rfl

/-- What is answered holds the record, since the time beside it may be there too. -/
theorem holds_stamped {key : String} {shape : Shape} {names : List String}
    {ms : List (String × Json)} {members : List (String × Shape)}
    (hwhole : (stamped key ms).Whole) (hmembers : shape.members? = some (.known members))
    (htime : Entries.lookup "CreateTime" members = some .timestamp)
    (hnames : "CreateTime" ∉ names) :
    Holds { text := (stamped key ms).render } key shape names ms := by
  have hstands : ∀ m ∈ ms, Stands (Json.escape m.1, m.2.spelled) m := by
    intro m hm
    exact ⟨Json.textValue?_escape m.1,
      Json.value?_spelled m.2 (Json.wholeMembers_iff.1 hwhole.1.2 m hm)⟩
  have htimestamp : StandsApart (maxDepth - 2) members names
      (Json.escape "CreateTime", (Json.int 1700000000).spelled) := by
    refine ⟨"CreateTime", Json.textValue?_escape "CreateTime", hnames, ?_⟩
    rw [htime]
    decide +kernel
  refine ⟨Json.escape key, Json.spelledMembers (("CreateTime", .int 1700000000) :: ms), members,
    bodyOf_render hwhole, Json.textValue?_escape key, hmembers, ?_, ?_⟩
  · intro m hm
    rw [spelledMembers_eq_map]
    exact ⟨_, List.mem_cons_of_mem _ (List.mem_map_of_mem hm), hstands m hm⟩
  · intro w hw
    rw [spelledMembers_eq_map, List.map_cons, List.mem_cons] at hw
    rcases hw with rfl | hw
    · exact .inr htimestamp
    · obtain ⟨m, hm, rfl⟩ := List.mem_map.1 hw
      exact .inl ⟨m, hm, hstands m hm⟩

theorem shelf_givesBack {put get : Request} {place : Place} {ms : List (String × Json)}
    {shape : Shape} {names : List String} {members : List (String × Shape)}
    (hbrought : put.brought? = some (place, ms)) (hnone : get.brought? = none)
    (hasked : get.asked? = some place) (hmembers : shape.members? = some (.known members))
    (htime : Entries.lookup "CreateTime" members = some .timestamp)
    (hnames : "CreateTime" ∉ names) : shelf.GivesBack put get place.key shape names ms := by
  intro s r hr hgood
  by_cases hkept : (stamped place.key ms).Whole ∧
      (put.operation = "UpdateDatabase" ↔ (s place).isSome)
  · have hput : (shelf put s).2 = fun p => if p = place then some ms else s p := by
      simp only [shelf, hbrought, if_pos hkept]
    rw [hput]
    refine ⟨{ text := (stamped place.key ms).render }, ?_, ⟨Nat.le_refl 200, (by decide : 200 < 300)⟩,
      holds_stamped hkept.1 hmembers htime hnames⟩
    simp [shelf, hnone, hasked]
  · simp only [shelf, hbrought, if_neg hkept, Option.some.injEq] at hr
    subst hr
    exact absurd hgood.2 (by decide)

/-- A database that was brought is given back. -/
theorem shelf_givesBack_database {put get : Request} {catalogId : Option String} {name : String}
    {ms : List (String × Json)}
    (hbrought : put.brought? = some (⟨"Database", catalogId, none, some name⟩, ms))
    (hget : get.operation = "GetDatabase")
    (hcatalogId : Tells get.body "CatalogId" (catalogId.map .str))
    (hname : get.Says "Name" (.str name)) :
    shelf.GivesBack put get "Database" databaseShape databaseNames ms := by
  have hnone : get.brought? = none := by simp [Request.brought?, hget]
  have hasked : get.asked? = some ⟨"Database", catalogId, none, some name⟩ := by
    simp [Request.asked?, hget, hname.textOf, hcatalogId.textOf]
  exact shelf_givesBack hbrought hnone hasked rfl rfl (by decide)

theorem shelf_verbatim : shelf.Verbatim where
  table := by
    intro put get hput hget hcatalog database name input hdatabase hdatabase' hinput hname hname'
    obtain ⟨catalogId, hcatalogId, hcatalogId'⟩ := hcatalog
    have htext : textOf input "Name" = some name := hname.textOf
    have hbrought : put.brought? = some (⟨"Table", catalogId, some database, some name⟩,
        ("DatabaseName", .str database) :: input) := by
      simp [Request.brought?, hput, hinput.recordOf, hdatabase.textOf, htext, hcatalogId.textOf]
    have hnone : get.brought? = none := by simp [Request.brought?, hget]
    have hasked : get.asked? = some ⟨"Table", catalogId, some database, some name⟩ := by
      simp [Request.asked?, hget, hdatabase'.textOf, hname'.textOf, hcatalogId'.textOf]
    exact shelf_givesBack hbrought hnone hasked rfl rfl (by decide)
  created := by
    intro put get hput hget hcatalog name input hinput hname hname'
    obtain ⟨catalogId, hcatalogId, hcatalogId'⟩ := hcatalog
    have htext : textOf input "Name" = some name := hname.textOf
    have hbrought : put.brought? = some (⟨"Database", catalogId, none, some name⟩, input) := by
      simp [Request.brought?, hput, hinput.recordOf, htext, hcatalogId.textOf]
    exact shelf_givesBack_database hbrought hget hcatalogId' hname'
  updated := by
    intro put get hput hget hcatalog name input hname hinput hname'
    obtain ⟨catalogId, hcatalogId, hcatalogId'⟩ := hcatalog
    have hbrought : put.brought? = some (⟨"Database", catalogId, none, some name⟩, input) := by
      simp [Request.brought?, hput, hinput.recordOf, hname.textOf, hcatalogId.textOf]
    exact shelf_givesBack_database hbrought hget hcatalogId' hname'

/-- A table with an empty text, an empty list and no parameters in its descriptor. -/
def bareTable : TableRecord :=
  { name := "t1", owner := some "", parameters := .ofList [("table_type", "ICEBERG"), ("note", "")],
    storageDescriptor := some { columns := [{ name := "id", columnType := some "int" }],
                                serdeInfo := some {} } }

theorem shelf_lossless :
    shelf.Verbatim ∧ (shelf.call {} (fun _ => none) (.createTable "db" bareTable)).1 = .ok () ∧
      Metastore.Lossless (shelf.call {}) ∧ Metastore.Lossless Memory.respond :=
  ⟨shelf_verbatim, rfl, Remote.lossless shelf_verbatim {}⟩

end LakeCatalog.Glue
