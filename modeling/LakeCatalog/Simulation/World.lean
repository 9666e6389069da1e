import LakeCatalog.Backend
import LakeCatalog.Glue.Message
import LakeCatalog.Metastore.Memory
import LakeCatalog.Simulation.Rule

/-!
# A world to run the catalog in

A backend with a state: a metastore in memory behind a script of interruptions, or the client
of a remote metastore whose answers are given in advance, together with an object store behind a
script of its own.  Everything that is asked is recorded.

* `World` — the state;
* `World.answer` — the backend as a handler of the catalog's questions;
* `World.run` — runs an action, and returns its outcome, the record and the next world.
-/

namespace LakeCatalog

open Metastore (Call Memory)

namespace Simulation

/-- Something that was asked of a backend. -/
inductive Event where
  | call (c : Call)
  | request (r : Glue.Request)
  | put (path : String)
  | get (path : String)

/-- The metastore of a world. -/
inductive Server where
  | memory (m : Memory) (script : List (Rule CallPattern CallEffect))
  | remote (client : Glue.Client) (responses : List Glue.Response)

namespace Server

/-- What a call leaves in the record. -/
def event (s : Server) (c : Call) : Event :=
  match s with
  | .memory .. => .call c
  | .remote client _ => .request (Glue.requestOf client c)

/-- The reply to a call, and the metastore after it.  A call that a rule catches never reaches
the metastore behind it. -/
def reply (s : Server) (c : Call) : c.Reply × Server :=
  match s with
  | .memory m script =>
    let (effect, script) := fire (fun p => p.fits c) script
    match effect.bind fun e => e.reply? c with
    | some reply => (reply, .memory m script)
    | none =>
      let (reply, m) := m.respond c
      (reply, .memory m script)
  | .remote client responses => (Glue.replyTo c responses.head?, .remote client responses.tail)

end Server

/-- A world. -/
structure World where
  server : Server := .memory {} []
  objects : ObjectStore := .empty
  storeScript : List (Rule StorePattern Unit) := []
  /-- What was asked, last first. -/
  record : List Event := []

namespace World

/-- The failure of an operation on an object that a rule catches. -/
def injected : StoreError := .generic "Fake"

/-- Answers a question. -/
def answer : Handler Backend World
  | .metastore c, w =>
    let (reply, server) := w.server.reply c
    (reply, { w with server, record := w.server.event c :: w.record })
  | .put path data, w =>
    let (effect, storeScript) := fire (fun p => p.fits true path) w.storeScript
    let w := { w with storeScript, record := .put path :: w.record }
    match effect with
    | some () => (.error injected, w)
    | none =>
      let (result, objects) := w.objects.put path data
      (result, { w with objects })
  | .get path, w =>
    let (effect, storeScript) := fire (fun p => p.fits false path) w.storeScript
    let w := { w with storeScript, record := .get path :: w.record }
    match effect with
    | some () => (.error injected, w)
    | none => (w.objects.get path, w)

/-- Runs a program, and returns what was asked, first things first, and the world after it. -/
def run {α : Type} (w : World) (p : Program Backend α) : Option α × List Event × World :=
  let (result, w') := p.run answer { w with record := [] }
  (result, w'.record.reverse, w')

end World

end Simulation

end LakeCatalog
