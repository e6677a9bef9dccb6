/-
BlockConfig.Session — handles that share storages, and runs of calls
through them.

A `Store` is a value and knows nothing of other stores. Here storages have
numbers, and a handle is the number of a storage with a scope. Two handles
share what they read and write exactly when they name the same storage.

* `Session.adopt` puts a new storage into the session and makes a handle
  onto the whole of it. Copies and snapshots do this.
* `Session.attach` makes a handle onto a storage that is there already.
  Views do this, and nothing else does.

Handles have numbers in the order in which they were made. A released
handle keeps its number and answers no more; its storage stays for the
other handles.

`Session.step` carries out one `Call`: it finds the store a handle looks
at, lets the store answer, and puts the changed storage back. A call that
is refused puts nothing back. `Session.run` carries out one call after
another.
-/
import BlockConfig.Container
import BlockConfig.Text.Inspect
import BlockConfig.Text.Json

namespace BlockConfig

/-! ## 1. Sessions -/

/-- A storage, by its number, and the scope it is looked at through. -/
structure Handle where
  storage : Nat
  scope : String
deriving DecidableEq

/-- The handle onto a block of what a handle looks at. -/
def Handle.view (handle : Handle) (name : String) : Handle :=
  { handle with scope := handle.scope ++ Key.scopeOf name }

/-- The storages, and the handles onto them that were not released. -/
structure Session where
  storages : List Storage := []
  handles : List (Option Handle) := []
deriving DecidableEq

namespace Session

def handle? (s : Session) (h : Nat) : Option Handle := (s.handles[h]?).join

/-- What a handle looks at now. -/
def store? (s : Session) (h : Nat) : Option Store :=
  match s.handle? h with
  | none => none
  | some handle => (s.storages[handle.storage]?).map fun storage => ⟨storage, handle.scope⟩

def nextHandle (s : Session) : Nat := s.handles.length

/-- A new storage, with a handle onto what the store shows of it. -/
def adopt (s : Session) (store : Store) : Session :=
  { storages := s.storages ++ [store.storage]
    handles := s.handles ++ [some ⟨s.storages.length, store.scope⟩] }

def attach (s : Session) (handle : Handle) : Session :=
  { s with handles := s.handles ++ [some handle] }

/-- Put back the storage that a handle looks at. -/
def putBack (s : Session) (h : Nat) (storage : Storage) : Session :=
  match s.handle? h with
  | none => s
  | some handle => { s with storages := s.storages.set handle.storage storage }

def release (s : Session) (h : Nat) : Session :=
  { s with handles := s.handles.set h none }

/-- Whether two handles read and write the same storage. -/
def shares (s : Session) (h other : Nat) : Bool :=
  match s.handle? h, s.handle? other with
  | some a, some b => a.storage = b.storage
  | _, _ => false

end Session

/-! ## 2. Calls and answers -/

inductive Query
  | has (key : String)
  | contains (key : String)
  | get (key : String)
  | getD (key default : String)
  | isReadOnly (key : String)
  | keys
  | size
  | length
  | isEmpty
  | entries
  | block
  | json
  | jsonPretty
  | inspect
  | inspectPretty

inductive Edit
  | set (key value : String)
  | insert (key : String) (value : Value)
  | unset (key : String)
  | remove (key : String)
  | lock (key : String)

/-- A call through numbered handles. -/
inductive Call
  | create
  /-- A new storage with some pairs, set one after another. -/
  | createFrom (pairs : List (String × String))
  | subblock (h : Nat) (name : String)
  | view (h : Nat) (name : String)
  | snapshot (h : Nat)
  | edit (h : Nat) (e : Edit)
  /-- Write what another handle shows. -/
  | merge (h source : Nat)
  | ask (h : Nat) (q : Query)
  | showsSame (h other : Nat)
  | shares (h other : Nat)
  | release (h : Nat)

/-- What a call gives back. -/
inductive Answer
  /-- It is done, and there is nothing to say. -/
  | done
  | failed (e : ConfigError)
  | handle (h : Nat)
  | text (s : String)
  | flag (b : Bool)
  | count (n : Nat)
  | keys (ks : List String)
  | entries (pairs : List (String × String))
  | block (name : Option String)
  /-- No handle has this number, or not any more. -/
  | noHandle
deriving DecidableEq

def Store.answer (s : Store) : Query → Answer
  | .has key => .flag (s.has key)
  | .contains key => .flag (s.contains key)
  | .get key =>
    match s.get key with
    | .ok value => .text value
    | .error e => .failed e
  | .getD key default => .text (s.getD key default)
  | .isReadOnly key => .flag (s.isReadOnly key)
  | .keys => .keys s.keys
  | .size => .count s.size
  | .length => .count s.length
  | .isEmpty => .flag s.isEmpty
  | .entries => .entries s.entries.toList
  | .block => .block s.block?
  | .json => .text (Json.compact s.entries.toList)
  | .jsonPretty => .text (Json.pretty s.entries.toList)
  | .inspect => .text (Inspect.compact s)
  | .inspectPretty => .text (Inspect.pretty s)

def Store.edit (s : Store) : Edit → Traced ConfigError (Answer × Store)
  | .set key value => (s.set key value).onValue fun next => (.done, next)
  | .insert key value => (s.insert key value).onValue fun next => (.done, next)
  | .unset key => (s.unset key).onValue fun (value, next) => (.text value, next)
  | .remove key => (s.remove key).onValue fun (value, next) => (.text value, next)
  | .lock key => (s.lock key).onValue fun next => (.done, next)

/-! ## 3. Steps and runs -/

/-- What a call leaves: the session after it, its answer, and the events
it reported. -/
structure Step where
  session : Session
  answer : Answer
  events : List Event := []

namespace Session

/-- Ask the store that a handle looks at. -/
def asking (s : Session) (h : Nat) (f : Store → Answer) : Step :=
  match s.store? h with
  | none => ⟨s, .noHandle, []⟩
  | some store => ⟨s, f store, []⟩

/-- Change the store that a handle looks at. -/
def editing (s : Session) (h : Nat)
    (f : Store → Traced ConfigError (Answer × Store)) : Step :=
  match s.store? h with
  | none => ⟨s, .noHandle, []⟩
  | some store =>
    match f store with
    | ⟨events, .ok (answer, next)⟩ => ⟨s.putBack h next.storage, answer, events⟩
    | ⟨events, .error e⟩ => ⟨s, .failed e, events⟩

/-- Copy a block of what a handle looks at into a storage of its own. -/
def copy (s : Session) (h : Nat) (name : String) : Step :=
  match s.store? h with
  | none => ⟨s, .noHandle, []⟩
  | some store =>
    ⟨s.adopt (store.subblock name), .handle s.nextHandle, [store.subblockEvent name]⟩

/-- Make a handle onto a block of what a handle looks at. -/
def view (s : Session) (h : Nat) (name : String) : Step :=
  match s.handle? h with
  | none => ⟨s, .noHandle, []⟩
  | some handle =>
    ⟨s.attach (handle.view name), .handle s.nextHandle, [.viewed (handle.view name).scope]⟩

def step (s : Session) : Call → Step
  | .create => ⟨s.adopt .empty, .handle s.nextHandle, []⟩
  | .createFrom pairs =>
    match Store.ofEntries pairs with
    | ⟨events, .ok store⟩ => ⟨s.adopt store, .handle s.nextHandle, events⟩
    | ⟨events, .error e⟩ => ⟨s, .failed e, events⟩
  | .subblock h name => s.copy h name
  | .view h name => s.view h name
  | .snapshot h => s.copy h ""
  | .edit h e => s.editing h fun store => store.edit e
  | .merge h source =>
    match s.store? source with
    | none => ⟨s, .noHandle, []⟩
    | some given => s.editing h fun store =>
        (store.merge given).onValue fun next => (.done, next)
  | .ask h q => s.asking h fun store => store.answer q
  | .showsSame h other =>
    match s.store? other with
    | none => ⟨s, .noHandle, []⟩
    | some shown => s.asking h fun store => .flag (store.showsSame shown)
  | .shares h other => ⟨s, .flag (s.shares h other), []⟩
  | .release h => ⟨s.release h, .done, []⟩

def run (s : Session) : List Call → Session × List Answer
  | [] => (s, [])
  | call :: rest =>
    let first := s.step call
    let later := first.session.run rest
    (later.1, first.answer :: later.2)

def trail (s : Session) : List Call → List Event
  | [] => []
  | call :: rest => (s.step call).events ++ (s.step call).session.trail rest

end Session

end BlockConfig
