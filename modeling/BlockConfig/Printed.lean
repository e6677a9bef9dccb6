/-
BlockConfig.Printed — what is printed: results and notes.

Results are one text for the standard output. Notes are lines for the
standard error; a note depends on the verbosity, an error line does not.
-/
import BlockConfig.Verbosity

namespace BlockConfig

/-- What is printed: the text of the results, and lines of notes. -/
structure Printed where
  stdout : String := ""
  notes : List String := []
deriving DecidableEq

namespace Printed

/-- The lines of notes, each with its line end. -/
def stderr (p : Printed) : String := String.join (p.notes.map (· ++ "\n"))

/-- A note and nothing else. -/
def ofNote (v : Verbosity) (message : String) : Printed := { notes := v.note message }

/-- A line of results and nothing else. -/
def ofLine (line : String) : Printed := { stdout := line ++ "\n" }

/-- The line that tells of an error; it is said at every verbosity. -/
def errorLine (message : String) : String := "error: " ++ message

/-- An error line and nothing else. -/
def ofError (message : String) : Printed := { notes := [errorLine message] }

/-- One after the other. -/
def append (p q : Printed) : Printed := ⟨p.stdout ++ q.stdout, p.notes ++ q.notes⟩

instance : Append Printed := ⟨append⟩

@[simp] theorem stdout_append (p q : Printed) : (p ++ q).stdout = p.stdout ++ q.stdout := rfl

@[simp] theorem notes_append (p q : Printed) : (p ++ q).notes = p.notes ++ q.notes := rfl

end Printed

end BlockConfig
