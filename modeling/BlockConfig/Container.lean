/-
BlockConfig.Container — a store in the words of a container.

For callers that treat a configuration as a map: membership, insertion of
any value that has a text form, removal, length, and a loop over the keys.
Each is the operation of the store under its other name; insertion renders
the value first.
-/
import BlockConfig.Store
import BlockConfig.Value

namespace BlockConfig

namespace Store

def contains (s : Store) (key : String) : Bool := s.has key

/-- Give a key the text of a value. -/
def insert (s : Store) (key : String) (value : Value) : Traced ConfigError Store :=
  s.set key value.render

def remove (s : Store) (key : String) : Traced ConfigError (String × Store) := s.unset key

def length (s : Store) : Nat := s.size

/-- A loop over a store goes through the keys that it shows at the start. -/
instance instForIn {m : Type → Type} [Monad m] : ForIn m Store String where
  forIn s start visit := forIn s.keys start visit

end Store

end BlockConfig
