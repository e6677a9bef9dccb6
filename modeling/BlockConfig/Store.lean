/-
BlockConfig.Store — a configuration: its storage, and the scope it is
looked at through.

* A `Storage` holds entries and locks under full keys.
* A `Store` is a storage together with a scope. Every key that a caller
  gives is taken relative to the scope; every key that a caller is shown
  has the scope taken off.

A store is a value. An operation that changes it returns the changed
store, and an operation that is refused returns no store at all, so a
refusal cannot have changed anything. Which stores share one storage is
the matter of `BlockConfig.Session`.

The rules, each in one place:

* `Storage.checkSet` — a write needs a key that is well formed and not
  read-only, asked in this order. `set` and `merge` both go through it.
* `Storage.unset` — read-only is asked before presence, so a read-only key
  without a value is reported as read-only.
* `Storage.setAll` — every incoming key is checked before the first value
  is written.
-/
import BlockConfig.Error
import BlockConfig.Event
import BlockConfig.Table

namespace BlockConfig

/-! ## 1. Storages -/

/-- Entries and read-only keys, both under full keys. A read-only key need
not have a value. -/
structure Storage where
  entries : Table String := .empty
  locks : KeySet := .empty
deriving DecidableEq

namespace Storage

def isLocked (s : Storage) (key : String) : Bool := s.locks.contains key

/-- Whether a key may be written: it is well formed, and not read-only. -/
def checkSet (s : Storage) (key : String) : Except ConfigError Unit :=
  match Key.check key with
  | .error e => .error e
  | .ok () => if s.isLocked key then .error (.readOnly key .set) else .ok ()

def set (s : Storage) (key value : String) : Except ConfigError Storage :=
  match s.checkSet key with
  | .error e => .error e
  | .ok () => .ok { s with entries := s.entries.insert key value }

def unset (s : Storage) (key : String) : Except ConfigError (String × Storage) :=
  if s.isLocked key then .error (.readOnly key .unset)
  else
    match s.entries.get? key with
    | none => .error (.keyNotFound key)
    | some value => .ok (value, { s with entries := s.entries.erase key })

/-- Make a key read-only, whether or not it has a value. -/
def lock (s : Storage) (key : String) : Except ConfigError Storage :=
  match Key.check key with
  | .error e => .error e
  | .ok () => .ok { s with locks := s.locks.insert key () }

/-- Whether all of some pairs may be written; the first refusal counts. -/
def checkSetAll (s : Storage) : List (String × String) → Except ConfigError Unit
  | [] => .ok ()
  | pair :: rest =>
    match s.checkSet pair.1 with
    | .error e => .error e
    | .ok () => s.checkSetAll rest

/-- Write all of some pairs, or none. -/
def setAll (s : Storage) (pairs : List (String × String)) : Except ConfigError Storage :=
  match s.checkSetAll pairs with
  | .error e => .error e
  | .ok () => .ok { s with entries := s.entries.insertAll pairs }

end Storage

/-! ## 2. Stores -/

/-- A storage looked at through a scope. The whole has the empty scope. -/
structure Store where
  storage : Storage := {}
  scope : String := ""
deriving DecidableEq

namespace Store

def empty : Store := {}

/-- The full form of a key given to this store. -/
def qualify (s : Store) (key : String) : String := s.scope ++ key

/-- The block this store looks at, unless it looks at the whole. -/
def block? (s : Store) : Option String := Key.blockOf? s.scope

/-! ### Reading -/

def has (s : Store) (key : String) : Bool := s.storage.entries.contains (s.qualify key)

def get (s : Store) (key : String) : Except ConfigError String :=
  match s.storage.entries.get? (s.qualify key) with
  | some value => .ok value
  | none => .error (.keyNotFound (s.qualify key))

def getD (s : Store) (key default : String) : String :=
  (s.storage.entries.get? (s.qualify key)).getD default

def isReadOnly (s : Store) (key : String) : Bool := s.storage.isLocked (s.qualify key)

/-- The entries in scope, under relative keys. -/
def entries (s : Store) : Table String := s.storage.entries.under s.scope

/-- The read-only keys in scope, as relative keys. -/
def locks (s : Store) : KeySet := s.storage.locks.under s.scope

def keys (s : Store) : List String := s.entries.keys

def size (s : Store) : Nat := s.entries.size

def isEmpty (s : Store) : Bool := s.size == 0

/-- Whether two stores show the same entries. Locks and scopes do not
count. -/
def showsSame (s t : Store) : Bool := s.entries = t.entries

/-! ### Changing -/

def set (s : Store) (key value : String) : Traced ConfigError Store :=
  match s.storage.set (s.qualify key) value with
  | .error e => .fail e
  | .ok storage => .report [.valueSet (s.qualify key) value] { s with storage }

def unset (s : Store) (key : String) : Traced ConfigError (String × Store) :=
  match s.storage.unset (s.qualify key) with
  | .error e => .fail e
  | .ok (value, storage) => .report [.valueUnset (s.qualify key)] (value, { s with storage })

/-- Make a key read-only. Doing so again changes and reports nothing. -/
def lock (s : Store) (key : String) : Traced ConfigError Store :=
  match s.storage.lock (s.qualify key) with
  | .error e => .fail e
  | .ok storage =>
    .report (if s.isReadOnly key then [] else [.keyLocked (s.qualify key)]) { s with storage }

/-- The entries of another store as they would be written here: full keys,
in ascending order. -/
def incoming (s source : Store) : List (String × String) :=
  source.entries.toList.map fun p => (s.qualify p.1, p.2)

/-- Write every entry that another store shows. All of them are checked
before the first is written. -/
def merge (s source : Store) : Traced ConfigError Store :=
  match s.storage.setAll (s.incoming source) with
  | .error e => .fail e
  | .ok storage =>
    .report [.merging (s.incoming source).length s.scope] { s with storage }

/-- Set keys one after another, as far as that goes. -/
def setEach (s : Store) : List (String × String) → Traced ConfigError Store
  | [] => .report [] s
  | pair :: rest => do
    let next ← s.set pair.1 pair.2
    next.setEach rest

/-- The store of some pairs, set one after another. -/
def ofEntries (pairs : List (String × String)) : Traced ConfigError Store :=
  empty.setEach pairs

/-! ### Deriving -/

/-- The same storage, looked at through the scope of a block. The name is
not examined; a name that is no key opens a scope in which nothing can be
written. -/
def view (s : Store) (name : String) : Store :=
  { s with scope := s.scope ++ Key.scopeOf name }

/-- A storage of its own that holds what the view of a block shows, locks on
keys without a value included. -/
def subblock (s : Store) (name : String) : Store :=
  { storage := { entries := (s.view name).entries, locks := (s.view name).locks } }

def snapshot (s : Store) : Store := s.subblock ""

def viewEvent (s : Store) (name : String) : Event := .viewed (s.view name).scope

def subblockEvent (s : Store) (name : String) : Event :=
  .copied name (s.view name).entries.size (s.view name).locks.size

end Store

end BlockConfig
