/-
BlockConfig.Verbosity — how much is said besides results.

Results go to the standard output and are the same at every verbosity.
Notes for the user go to the standard error and are left out when quiet.
Each verbosity has a log filter of its own, used when none is given.
-/

namespace BlockConfig

/-- How much is said. -/
inductive Verbosity
  | quiet
  | normal
  | debug
deriving DecidableEq

namespace Verbosity

/-- The verbosity that two switches ask for; quiet wins. -/
def ofSwitches (quiet debug : Bool) : Verbosity :=
  if quiet then .quiet else if debug then .debug else .normal

/-- The text of the log filter used when none is given. -/
def logDirective : Verbosity → String
  | .quiet => "error"
  | .normal => "warn"
  | .debug => "pipeconf=debug"

/-- A note, as the list of lines it comes to. -/
def note (v : Verbosity) (message : String) : List String :=
  if v = .quiet then [] else [message]

end Verbosity

end BlockConfig
