/-
BlockConfig.Proofs.Path.Tree — a configuration by paths.

This is the plain reading of what a session of handles does. A `Tree` is
a finite map from paths to values together with a finite set of read-only
paths. A `Place` is a tree and a block of it, and a `Forest` is some trees
with numbered places in them. Nothing here knows of scopes as leading
texts, of one sorted list, or of stretches of it.

* Copying a block takes the entries and locks strictly below it and makes
  their paths relative (`Tree.block`).
* A view appends the block to the place.
* A merge takes the entries below one place and puts them below another,
  unless one of the targets is read-only (`Tree.merge`).

Callers speak in texts. A text that is no path is not there, not
read-only, and cannot be written. Listings are in the order of the texts
(`PathMap.listing`), and errors name the text of the full path.

`Forest.step` answers the same calls as `Session.step`. Names of blocks
that are neither empty nor keys open no block here.
-/
import Mathlib.Data.Finmap
import Mathlib.Data.Finset.Sort
import BlockConfig.Proofs.Path.Basic
import BlockConfig.Session

namespace BlockConfig

/-! ## 1. Values at paths -/

abbrev PathMap := Finmap fun _ : Path => String

namespace PathMap

/-- The part strictly below a block, under relative paths. -/
def below (b : Block) (m : PathMap) : PathMap :=
  Finmap.keysLookupEquiv.symm
    ⟨(m.keys.filterMap (Path.below? b) (Path.below?_injective b), fun p => m.lookup (p.under b)), by
      intro p
      simp only [Finmap.lookup_isSome, Finset.mem_filterMap, Finmap.mem_keys,
        Path.below?_eq_some_iff]
      exact ⟨fun hp => ⟨_, hp, rfl⟩, fun ⟨_, hq, hp⟩ => hp ▸ hq⟩⟩

/-- All of it moved below a block. -/
def above (b : Block) (m : PathMap) : PathMap :=
  Finmap.keysLookupEquiv.symm
    ⟨(m.keys.map ⟨Path.under b, Path.under_injective b⟩, fun p => (p.below? b).bind m.lookup), by
      intro p
      simp only [Finset.mem_map, Finmap.mem_keys, Function.Embedding.coeFn_mk]
      constructor
      · intro hp
        obtain ⟨v, hv⟩ := Option.isSome_iff_exists.1 hp
        obtain ⟨q, hq, hqv⟩ := Option.bind_eq_some_iff.1 hv
        exact ⟨q, Finmap.mem_of_lookup_eq_some hqv, Path.below?_eq_some_iff.1 hq⟩
      · rintro ⟨q, hq, rfl⟩
        rwa [Path.below?_under, Option.bind_some, Finmap.lookup_isSome]⟩

/-- The entries in the order of the texts of their paths. -/
def listing (m : PathMap) : List (String × String) :=
  m.keys.sort.filterMap fun p => (m.lookup p).map fun value => (p.text, value)

@[simp] theorem lookup_below (b : Block) (m : PathMap) (p : Path) :
    (below b m).lookup p = m.lookup (p.under b) :=
  Finmap.keysLookupEquiv_symm_apply_lookup _ p

@[simp] theorem lookup_above (b : Block) (m : PathMap) (p : Path) :
    (above b m).lookup p = (p.below? b).bind m.lookup :=
  Finmap.keysLookupEquiv_symm_apply_lookup _ p

theorem lookup_insert (m : PathMap) (p : Path) (value : String) :
    (m.insert p value).lookup = Function.update m.lookup p (some value) := by
  funext q
  by_cases hq : q = p
  · rw [hq, Function.update_self, Finmap.lookup_insert]
  · rw [Function.update_of_ne hq, Finmap.lookup_insert_of_ne m hq]

theorem lookup_erase (m : PathMap) (p : Path) :
    (m.erase p).lookup = Function.update m.lookup p none := by
  funext q
  by_cases hq : q = p
  · rw [hq, Function.update_self, Finmap.lookup_erase]
  · rw [Function.update_of_ne hq, Finmap.lookup_erase_ne hq]

theorem lookup_union (m n : PathMap) (p : Path) :
    (m ∪ n).lookup p = (m.lookup p).or (n.lookup p) := by
  by_cases hp : p ∈ m
  · rw [Finmap.lookup_union_left hp]
    obtain ⟨v, hv⟩ := Finmap.mem_iff.1 hp
    rw [hv, Option.some_or]
  · rw [Finmap.lookup_union_right hp, Finmap.lookup_eq_none.2 hp, Option.none_or]

end PathMap

/-! ## 2. Trees -/

/-- Values and read-only marks at paths. -/
structure Tree where
  entries : PathMap := ∅
  locks : Finset Path := ∅

namespace Tree

/-! ### Reading below a block -/

def get? (t : Tree) (b : Block) (key : String) : Option String :=
  (Path.ofText? key).bind fun p => t.entries.lookup (p.under b)

def isLocked (t : Tree) (b : Block) (key : String) : Bool :=
  (Path.ofText? key).any fun p => p.under b ∈ t.locks

/-- The entries strictly below a block. -/
def shown (t : Tree) (b : Block) : PathMap := PathMap.below b t.entries

/-- A tree of its own with what is strictly below a block. -/
def block (t : Tree) (b : Block) : Tree where
  entries := t.shown b
  locks := t.locks.filterMap (Path.below? b) (Path.below?_injective b)

/-- What is seen of a tree below a block. -/
def answer (t : Tree) (b : Block) : Query → Answer
  | .has key | .contains key => .flag (t.get? b key).isSome
  | .get key =>
    match t.get? b key with
    | some value => .text value
    | none => .failed (.keyNotFound (Block.scope b ++ key))
  | .getD key default => .text ((t.get? b key).getD default)
  | .isReadOnly key => .flag (t.isLocked b key)
  | .keys => .keys ((t.shown b).listing.map Prod.fst)
  | .size | .length => .count (t.shown b).keys.card
  | .isEmpty => .flag ((t.shown b).keys.card == 0)
  | .entries => .entries (t.shown b).listing
  | .block => .block (if b = [] then none else some (Block.name b))
  | .json => .text (Json.compact (t.shown b).listing)
  | .jsonPretty => .text (Json.pretty (t.shown b).listing)
  | .inspect => .text (Inspect.line (Block.scope b) (t.shown b).listing)
  | .inspectPretty => .text (Inspect.lines (Block.scope b) (t.shown b).listing)

/-! ### Changing below a block -/

/-- The error for a text that is no path. Only the whole can be asked for
the empty key. -/
def malformed (b : Block) (key : String) : ConfigError :=
  .invalidKey (Block.scope b ++ key) (if b = [] ∧ key = "" then .empty else .emptySegment)

def set (t : Tree) (b : Block) (key value : String) : Except ConfigError Tree :=
  match Path.ofText? key with
  | none => .error (malformed b key)
  | some p =>
    if p.under b ∈ t.locks then .error (.readOnly (p.under b).text .set)
    else .ok { t with entries := t.entries.insert (p.under b) value }

def unset (t : Tree) (b : Block) (key : String) : Except ConfigError (String × Tree) :=
  match Path.ofText? key with
  | none => .error (.keyNotFound (Block.scope b ++ key))
  | some p =>
    if p.under b ∈ t.locks then .error (.readOnly (p.under b).text .unset)
    else
      match t.entries.lookup (p.under b) with
      | none => .error (.keyNotFound (p.under b).text)
      | some value => .ok (value, { t with entries := t.entries.erase (p.under b) })

def lock (t : Tree) (b : Block) (key : String) : Except ConfigError Tree :=
  match Path.ofText? key with
  | none => .error (malformed b key)
  | some p => .ok { t with locks := insert (p.under b) t.locks }

/-- Put entries below a block, in front of what is there. If some of the
targets are read-only, the first of them is reported. -/
def merge (t : Tree) (b : Block) (given : PathMap) : Except ConfigError Tree :=
  match given.keys.sort.find? fun p => p.under b ∈ t.locks with
  | some p => .error (.readOnly (p.under b).text .set)
  | none => .ok { t with entries := PathMap.above b given ∪ t.entries }

def edit (t : Tree) (b : Block) : Edit → Except ConfigError (Answer × Tree)
  | .set key value => (t.set b key value).map fun u => (.done, u)
  | .insert key value => (t.set b key value.render).map fun u => (.done, u)
  | .unset key | .remove key => (t.unset b key).map fun p => (.text p.1, p.2)
  | .lock key => (t.lock b key).map fun u => (.done, u)

/-- Set pairs one after another, as far as that goes. -/
def setEach (t : Tree) : List (String × String) → Except ConfigError Tree
  | [] => .ok t
  | pair :: rest =>
    match t.set [] pair.1 pair.2 with
    | .error e => .error e
    | .ok u => u.setEach rest

end Tree

/-! ## 3. Forests -/

/-- A tree, by its number, and a block of it. -/
structure Place where
  tree : Nat
  block : Block

/-- Trees, and the places in them that were not released. -/
structure Forest where
  trees : List Tree := []
  places : List (Option Place) := []

namespace Forest

def place? (f : Forest) (h : Nat) : Option Place := (f.places[h]?).join

/-- The tree and the block that a handle stands for. -/
def find? (f : Forest) (h : Nat) : Option (Tree × Block) :=
  (f.place? h).bind fun place => (f.trees[place.tree]?).map fun t => (t, place.block)

/-- A new tree, with a place that is the whole of it. -/
def plant (f : Forest) (t : Tree) : Forest where
  trees := f.trees ++ [t]
  places := f.places ++ [some ⟨f.trees.length, []⟩]

/-- Copy a block of a block into a tree of its own. -/
def copy (f : Forest) (h : Nat) (name : String) : Forest × Answer :=
  match f.find? h, Block.ofName? name with
  | some (t, b), some c => (f.plant (t.block (b ++ c)), .handle f.places.length)
  | _, _ => (f, .noHandle)

def view (f : Forest) (h : Nat) (name : String) : Forest × Answer :=
  match f.place? h, Block.ofName? name with
  | some place, some c =>
    ({ f with places := f.places ++ [some ⟨place.tree, place.block ++ c⟩] },
      .handle f.places.length)
  | _, _ => (f, .noHandle)

def asking (f : Forest) (h : Nat) (ask : Tree → Block → Answer) : Forest × Answer :=
  match f.find? h with
  | none => (f, .noHandle)
  | some (t, b) => (f, ask t b)

/-- Put a tree back where a handle found it. -/
def putBack (f : Forest) (h : Nat) (t : Tree) : Forest :=
  match f.place? h with
  | none => f
  | some place => { f with trees := f.trees.set place.tree t }

/-- Change the tree of a place. A refusal changes nothing. -/
def editing (f : Forest) (h : Nat)
    (change : Tree → Block → Except ConfigError (Answer × Tree)) : Forest × Answer :=
  match f.find? h with
  | none => (f, .noHandle)
  | some (t, b) =>
    match change t b with
    | .error e => (f, .failed e)
    | .ok (answer, u) => (f.putBack h u, answer)

def shares (f : Forest) (h other : Nat) : Bool :=
  match f.place? h, f.place? other with
  | some a, some b => a.tree = b.tree
  | _, _ => false

def step (f : Forest) : Call → Forest × Answer
  | .create => (f.plant {}, .handle f.places.length)
  | .createFrom pairs =>
    match Tree.setEach {} pairs with
    | .error e => (f, .failed e)
    | .ok t => (f.plant t, .handle f.places.length)
  | .subblock h name => f.copy h name
  | .snapshot h => f.copy h ""
  | .view h name => f.view h name
  | .edit h e => f.editing h fun t b => t.edit b e
  | .merge h source =>
    match f.find? source with
    | none => (f, .noHandle)
    | some (given, c) =>
      f.editing h fun t b => (t.merge b (given.shown c)).map fun u => (.done, u)
  | .ask h q => f.asking h fun t b => t.answer b q
  | .showsSame h other =>
    match f.find? other with
    | none => (f, .noHandle)
    | some (u, c) => f.asking h fun t b => .flag (t.shown b = u.shown c)
  | .shares h other => (f, .flag (f.shares h other))
  | .release h => ({ f with places := f.places.set h none }, .done)

def run (f : Forest) : List Call → Forest × List Answer
  | [] => (f, [])
  | call :: rest =>
    let first := f.step call
    let later := first.1.run rest
    (later.1, first.2 :: later.2)

end Forest

end BlockConfig
