/-
BlockConfig.Shell — the shells that completion is offered for.
-/

namespace BlockConfig

/-- A shell. -/
inductive Shell
  | bash
  | zsh
  | fish
  | powerShell
deriving DecidableEq

namespace Shell

/-- The name of a shell on the command line. -/
def name : Shell → String
  | .bash => "bash"
  | .zsh => "zsh"
  | .fish => "fish"
  | .powerShell => "power-shell"

/-- The shell with a name. Case matters. -/
def ofName? (word : String) : Option Shell :=
  [bash, zsh, fish, powerShell].find? fun s => s.name = word

theorem ofName?_name (s : Shell) : ofName? s.name = some s := by
  cases s <;> decide

end Shell

end BlockConfig
