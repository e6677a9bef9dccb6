/-
BlockConfig.Program — the program as a function of its command line, of
the completion scripts that it has, and of the log filter that the
surroundings give it.

`Invocation.run` builds the store, carries out the command and gathers
what is to be seen of it: exit code, results, log entries, and notes with
the error line. `respond` reads the command line first.

Log entries and notes share the standard error, entries first. An entry is
known there by its first line only, which begins with a time; an entry that
carries a line end has further lines, which cannot be told from notes.
`Ending.log` and `Ending.stderr` are the standard error as a reader sees
it: the first lines of the entries, and all the other lines.
-/
import BlockConfig.CommandLine.Scan
import BlockConfig.Log.Filter
import BlockConfig.Text.Lines

namespace BlockConfig

open CommandLine

/-- The name of the environment variable that holds a log filter. -/
def logVariable : String := "PIPECONF_LOG"

/-- What a run leaves to be seen. -/
structure Ending where
  exitCode : Nat
  stdout : String
  /-- The log entries, each a line or several. -/
  entries : List String
  /-- The notes, and the error line if there is one. -/
  notes : String
deriving DecidableEq

namespace Ending

/-- The first lines of the log entries. -/
def log (e : Ending) : List String := e.entries.map Lines.first

/-- The standard error without the first lines of the log entries. -/
def stderr (e : Ending) : String := String.join (e.entries.map Lines.others) ++ e.notes

end Ending

namespace CommandLine.Invocation

/-- Build the store, then carry out the command. If the building fails,
nothing is printed and no command is carried out; the outcome then shows
the empty store. -/
def outcome (script : Shell → String) (i : Invocation) : Outcome :=
  match i.globals.settings.build with
  | ⟨events, .error f⟩ => { events, store := .empty, failure := some f }
  | ⟨events, .ok store⟩ =>
    let o := i.command.run script i.globals.verbosity store
    { o with events := events ++ o.events }

/-- Carry out an invocation, under a log filter if one was given. -/
def run (script : Shell → String) (i : Invocation) (filter : Option String) : Ending :=
  let o := i.outcome script
  let error : Printed := match o.failure with
    | some f => .ofError f.message
    | none => {}
  { exitCode := if o.failure.isSome then 1 else 0
    stdout := o.printed.stdout
    entries := (LogFilter.choose filter i.globals.verbosity).entries o.events
    notes := (o.printed ++ error).stderr }

end CommandLine.Invocation

/-- Answer a command line. -/
def respond (script : Shell → String) (words : List String) (filter : Option String) :
    Except Reply Ending :=
  (Invocation.ofWords words).map fun i => i.run script filter

end BlockConfig
