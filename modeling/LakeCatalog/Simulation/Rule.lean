import LakeCatalog.Metastore.Call

/-!
# Scripted interruptions

To see how the catalog deals with failures, calls to a backend may be intercepted.  A script is
a list of rules that are tried in order on each call.  A rule that fits may have to be passed
over a number of times before it fires, and may fire only a number of times; the first rule
that remains decides what happens instead of the call.
-/

namespace LakeCatalog.Simulation

open Metastore (Call Failure)

/-- A rule: which calls it fits, how often it is passed over, how often it fires at most, and
what happens when it does. -/
structure Rule (π ε : Type) where
  pattern : π
  skip : Nat := 0
  times : Option Nat := none
  effect : ε

/-- The effect of the first rule that fires, and the script after the call. -/
def fire {π ε : Type} (fits : π → Bool) : List (Rule π ε) → Option ε × List (Rule π ε)
  | [] => (none, [])
  | r :: rs =>
    let passedOver (r : Rule π ε) :=
      let rest := fire fits rs
      (rest.1, r :: rest.2)
    if !fits r.pattern then passedOver r
    else if 0 < r.skip then passedOver { r with skip := r.skip - 1 }
    else match r.times with
      | none => (some r.effect, r :: rs)
      | some 0 => passedOver r
      | some (n + 1) => (some r.effect, { r with times := some n } :: rs)

/-- Which calls to a metastore a rule fits: an operation, and what is given of its arguments.  A
pattern may ask for a token or for the lack of one. -/
structure CallPattern where
  operation : String
  database : Option String := none
  name : Option String := none
  token : Option (Option String) := none

/-- The arguments of a call that a pattern may ask for: the database, the name, and the token. -/
def argumentsOf : Call → Option String × Option String × Option String
  | .getTable database name => (some database, some name, none)
  | .createTable database table => (some database, some table.name, none)
  | .deleteTable database name => (some database, some name, none)
  | .getTables database token => (some database, none, token)
  | .createDatabase database => (some database.name, none, none)
  | .getDatabase name => (some name, none, none)
  | .updateDatabase name _ => (some name, none, none)
  | .deleteDatabase name => (some name, none, none)
  | .getDatabases token => (none, none, token)

/-- Whether a pattern that asks for something gets it. -/
def asksFor {α : Type} [DecidableEq α] (wanted given : Option α) : Bool :=
  wanted = none || wanted = given

/-- Whether a pattern fits a call. -/
def CallPattern.fits (p : CallPattern) (c : Call) : Bool :=
  let (database, name, token) := argumentsOf c
  p.operation = c.operation && asksFor p.database database && asksFor p.name name
    && asksFor p.token (some token)

/-- What happens instead of a call to a metastore. -/
inductive CallEffect where
  | fail (f : Failure)
  | tables (page : Page TableRecord)
  | databases (page : Page DatabaseRecord)

/-- The reply that an effect gives to a call.  A page is a reply to a listing of its kind
only. -/
def CallEffect.reply? : CallEffect → (c : Call) → Option c.Reply
  | .fail f, c => some (c.failed f)
  | .tables page, .getTables .. => some (.ok page)
  | .databases page, .getDatabases .. => some (.ok page)
  | _, _ => none

/-- Which operations on objects a rule fits. -/
structure StorePattern where
  isPut : Bool
  path : Option String := none

/-- Whether a pattern fits an operation on an object. -/
def StorePattern.fits (p : StorePattern) (isPut : Bool) (path : String) : Bool :=
  p.isPut = isPut && asksFor p.path (some path)

end LakeCatalog.Simulation
