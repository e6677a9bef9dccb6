/-
BlockConfig.Error — why an operation on a configuration is refused.

There are three causes: a key without a value, a key marked read-only,
and a text that is no key. Each carries the key as the storage knows it,
scope included, so an error met through a block names the same key as one
met from the outside.

`ConfigError.message` is the only place where the wording stands, and
`Key.check` is the only place where a malformed key becomes an error.
-/
import BlockConfig.Key

namespace BlockConfig

/-- What was attempted on a read-only key. -/
inductive Mutation
  | set
  | unset
deriving DecidableEq

def Mutation.word : Mutation → String
  | .set => "set"
  | .unset => "unset"

/-- Why an operation was refused, with the full key concerned. -/
inductive ConfigError
  | keyNotFound (key : String)
  | readOnly (key : String) (attempt : Mutation)
  | invalidKey (key : String) (fault : KeyFault)
deriving DecidableEq

namespace ConfigError

def key : ConfigError → String
  | .keyNotFound key | .readOnly key _ | .invalidKey key _ => key

def message : ConfigError → String
  | .keyNotFound key => s!"no such configuration value: '{key}'"
  | .readOnly key attempt =>
    s!"cannot {attempt.word} read-only configuration value: '{key}'"
  | .invalidKey key fault => s!"invalid configuration key '{key}': {fault.reason}"

end ConfigError

/-- Accept a text as a key, or report it as malformed. -/
def Key.check (key : String) : Except ConfigError Unit :=
  match Key.fault? key with
  | some fault => .error (.invalidKey key fault)
  | none => .ok ()

theorem Key.check_eq_ok_iff {key : String} : Key.check key = .ok () ↔ Key.Valid key := by
  unfold Key.check Key.Valid
  cases Key.fault? key <;> simp

end BlockConfig
