/-
BlockConfig.Command — what can be done with a configuration from the
outside, and what doing it prints.

`Command.run` takes a store and gives an `Outcome`: what is printed, the
events, the store afterwards, and the failure if there was one. A command
that fails prints nothing. Neither the results nor the store afterwards
depend on the verbosity; only notes do.

The scripts that complete command lines come from outside. They are a
parameter, `script`, of which nothing is assumed.
-/
import BlockConfig.Failure
import BlockConfig.Printed
import BlockConfig.Shell
import BlockConfig.Store
import BlockConfig.Text.Json
import BlockConfig.Text.Listing

namespace BlockConfig

/-- The commands. A `json` of `true` asks for results as JSON. -/
inductive Command
  | get (key : String) (default : Option String)
  | has (key : String)
  | keys
  | dump (json : Bool)
  | subblock (name : String) (json : Bool)
  /-- Take a value away, and print the entries that remain. -/
  | unset (key : String) (json : Bool)
  /-- Write further values over the store, and print the result. -/
  | merge (values : List (String × String)) (json : Bool)
  /-- Print the script that completes command lines in a shell. -/
  | completion (shell : Shell)
deriving DecidableEq

structure Outcome where
  printed : Printed := {}
  events : List Event := []
  store : Store
  failure : Option Failure := none
deriving DecidableEq

/-- The entries of a store, as results. -/
def Store.printed (s : Store) (json : Bool) (v : Verbosity) : Printed :=
  if json then .ofLine (Json.pretty s.entries.toList)
  else if s.entries.isEmpty then .ofNote v "(empty)"
  else .ofLine (Listing.entries s.entries.toList)

namespace Command

/-- Print the value of a key, or a default. Without a default, a missing
value is a failure. -/
def runGet (s : Store) (key : String) (default : Option String) : Outcome :=
  match default with
  | some default => { printed := .ofLine (s.getD key default), store := s }
  | none =>
    match s.get key with
    | .ok value => { printed := .ofLine value, store := s }
    | .error e => { store := s, failure := some (.reading e) }

def runKeys (s : Store) (v : Verbosity) : Outcome :=
  { printed := if s.keys.isEmpty then .ofNote v "(no keys)" else .ofLine (Listing.lines s.keys)
    store := s }

def runSubblock (s : Store) (name : String) (json : Bool) (v : Verbosity) : Outcome :=
  let copy := s.subblock name
  let absent := if copy.isEmpty then Printed.ofNote v s!"No values under '{name}'" else {}
  { printed := absent ++ copy.printed json v
    events := [s.subblockEvent name]
    store := s }

/-- Take a value away, and print the entries that remain. -/
def runUnset (s : Store) (key : String) (json : Bool) (v : Verbosity) : Outcome :=
  match s.unset key with
  | ⟨events, .ok (value, next)⟩ =>
    { printed := .ofNote v s!"Removed {key} (was {value})" ++ next.printed json v
      events
      store := next }
  | ⟨events, .error e⟩ => { events, store := s, failure := some (.unsetting key e) }

/-- Collect further values in a store of their own, then merge that store
in one step. -/
def mergeValues (s : Store) (values : List (String × String)) :
    Traced Failure (Store × Nat) := do
  let given ← (Store.ofEntries values).onError .collecting
  let next ← (s.merge given).onError .merging
  return (next, given.size)

/-- Write further values over the store, and print the result. -/
def runMerge (s : Store) (values : List (String × String)) (json : Bool) (v : Verbosity) :
    Outcome :=
  match mergeValues s values with
  | ⟨events, .ok (next, count)⟩ =>
    { printed := .ofNote v s!"Merged {count} value(s)" ++ next.printed json v
      events
      store := next }
  | ⟨events, .error f⟩ => { events, store := s, failure := some f }

/-- Carry out a command, with the completion script of each shell. -/
def run (script : Shell → String) (c : Command) (v : Verbosity) (s : Store) : Outcome :=
  match c with
  | .get key default => runGet s key default
  | .has key => { printed := .ofLine (if s.has key then "true" else "false"), store := s }
  | .keys => runKeys s v
  | .dump json => { printed := s.printed json v, store := s }
  | .subblock name json => runSubblock s name json v
  | .unset key json => runUnset s key json v
  | .merge values json => runMerge s values json v
  | .completion shell => { printed := { stdout := script shell }, store := s }

end Command

end BlockConfig
