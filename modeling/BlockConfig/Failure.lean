/-
BlockConfig.Failure — a refusal together with what was being done.

A `ConfigError` says what is wrong with a key. A `Failure` says in
addition which task met it, because the key that the user wrote and the
key that the storage knows need not be the same. The message is the task,
a colon, and the error.
-/
import BlockConfig.Error

namespace BlockConfig

/-- An error, and the task that met it. -/
inductive Failure
  /-- Setting a key that the user named so. -/
  | setting (key : String) (cause : ConfigError)
  /-- Locking a key that the user named so. -/
  | locking (key : String) (cause : ConfigError)
  /-- Reading a value; the error speaks for itself. -/
  | reading (cause : ConfigError)
  /-- Unsetting a key that the user named so. -/
  | unsetting (key : String) (cause : ConfigError)
  /-- Collecting the values to be merged. -/
  | collecting (cause : ConfigError)
  /-- Merging the collected values. -/
  | merging (cause : ConfigError)
deriving DecidableEq

namespace Failure

def cause : Failure → ConfigError
  | .setting _ e | .locking _ e | .reading e | .unsetting _ e | .collecting e | .merging e => e

/-- The wording of the task, unless the error speaks for itself. -/
def task? : Failure → Option String
  | .setting key _ => some s!"Failed to set '{key}'"
  | .locking key _ => some s!"Failed to lock '{key}'"
  | .reading _ => none
  | .unsetting key _ => some s!"Failed to unset '{key}'"
  | .collecting _ => some "Invalid merge value"
  | .merging _ => some "Failed to merge configuration"

/-- What is said first: the task, or else the error. -/
def headline (f : Failure) : String := f.task?.getD f.cause.message

def message (f : Failure) : String :=
  match f.task? with
  | some task => task ++ ": " ++ f.cause.message
  | none => f.cause.message

end Failure

end BlockConfig
