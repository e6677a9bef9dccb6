/-
BlockConfig.Settings — what a configuration is built from.

Values are set one after another, so the last value for a key stays; then
keys are made read-only, so a lock never stands in the way of a value that
is listed with it; then the store is looked at through a block, if one is
named. The first refusal ends the building.
-/
import BlockConfig.Failure
import BlockConfig.Store

namespace BlockConfig

/-- Values to be set, keys to be locked after that, and a block. -/
structure Settings where
  values : List (String × String) := []
  locks : List String := []
  block : Option String := none
deriving DecidableEq

namespace Store

def setValues (s : Store) : List (String × String) → Traced Failure Store
  | [] => .report [] s
  | pair :: rest => do
    let next ← (s.set pair.1 pair.2).onError (.setting pair.1)
    next.setValues rest

def lockKeys (s : Store) : List String → Traced Failure Store
  | [] => .report [] s
  | key :: rest => do
    let next ← (s.lock key).onError (.locking key)
    next.lockKeys rest

/-- Look at a block, if one is named. The empty name looks at the whole,
and is reported like any other. -/
def focus (s : Store) : Option String → Traced Failure Store
  | none => .report [] s
  | some name => .report [s.viewEvent name] (s.view name)

end Store

/-- Build the store that the settings describe. -/
def Settings.build (x : Settings) : Traced Failure Store := do
  let filled ← Store.empty.setValues x.values
  let locked ← filled.lockKeys x.locks
  Traced.report [.built x.values.length x.locks.length] ()
  locked.focus x.block

end BlockConfig
