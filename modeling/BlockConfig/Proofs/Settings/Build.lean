/-
BlockConfig.Proofs.Settings.Build — what a configuration is after building.

`Settings.build` sets pairs one after another, then locks keys one after
another. `result_build` says what this comes to without going through the
steps. The settings are refused for the first value key that is malformed,
or else for the first lock key that is (`Key.refusal?`). Otherwise the
result is `Settings.store`: the last value of each key, all locks, seen
through the block.

Locks do not get in the way, because there are none while values are set.
So a pair is refused for its key alone, and this is what the inductions
along the lists carry.

The last section tells the same for a reader who knows the lists only
(`build_last_wins`), and adds what does not matter: the order of values for
different keys, and the order and number of locks (`Reordered`).
-/
import BlockConfig.Proofs.Key.Grammar
import BlockConfig.Proofs.Table.Lookup
import BlockConfig.Settings
import BlockConfig.Store.Lemmas

namespace BlockConfig

/-! ## 1. The first malformed key -/

namespace Key

/-- The refusal of the first text that is no key. -/
def refusal? (keys : List String) : Option ConfigError :=
  keys.findSome? fun key => (fault? key).map (.invalidKey key)

theorem check_eq_error_iff {key : String} {e : ConfigError} :
    check key = .error e ↔ (fault? key).map (.invalidKey key) = some e := by
  unfold check
  cases fault? key <;> simp

/-- A refused check names the key. -/
theorem key_of_check {key : String} {e : ConfigError} (h : check key = .error e) :
    e.key = key := by
  obtain ⟨fault, -, rfl⟩ := Option.map_eq_some_iff.1 (check_eq_error_iff.1 h)
  rfl

@[simp] theorem refusal?_nil : refusal? [] = none := rfl

theorem refusal?_cons_of_error {key : String} {e : ConfigError} (h : check key = .error e)
    (keys : List String) : refusal? (key :: keys) = some e := by
  rw [refusal?, List.findSome?_cons, check_eq_error_iff.1 h]

theorem refusal?_cons_of_valid {key : String} (h : Valid key) (keys : List String) :
    refusal? (key :: keys) = refusal? keys := by
  rw [refusal?, List.findSome?_cons, show fault? key = none from h]
  rfl

theorem refusal?_eq_none_iff {keys : List String} :
    refusal? keys = none ↔ ∀ key ∈ keys, Valid key := by
  simp [refusal?, Valid]

/-- The first of the texts that is no key, and what is wrong with it. -/
def FirstMalformed (keys : List String) (key : String) (fault : KeyFault) : Prop :=
  ∃ before after, keys = before ++ key :: after ∧ (∀ k ∈ before, Valid k)
    ∧ fault? key = some fault

theorem refusal?_eq_some_iff {keys : List String} {e : ConfigError} :
    refusal? keys = some e ↔
      ∃ key fault, FirstMalformed keys key fault ∧ e = .invalidKey key fault := by
  rw [refusal?, List.findSome?_eq_some_iff]
  constructor
  · rintro ⟨before, key, after, rfl, hkey, hbefore⟩
    obtain ⟨fault, hfault, rfl⟩ := Option.map_eq_some_iff.1 hkey
    exact ⟨key, fault, ⟨before, after, rfl, fun k hk => Option.map_eq_none_iff.1 (hbefore k hk),
      hfault⟩, rfl⟩
  · rintro ⟨key, fault, ⟨before, after, rfl, hbefore, hfault⟩, rfl⟩
    exact ⟨before, key, after, rfl, Option.map_eq_some_iff.2 ⟨fault, hfault, rfl⟩,
      fun k hk => Option.map_eq_none_iff.2 (hbefore k hk)⟩

/-- What is true of a refusal is true of the first malformed key. -/
theorem exists_refusal?_iff {keys : List String} {P : ConfigError → Prop} :
    (∃ e, refusal? keys = some e ∧ P e) ↔
      ∃ key fault, FirstMalformed keys key fault ∧ P (.invalidKey key fault) := by
  constructor
  · rintro ⟨e, he, hP⟩
    obtain ⟨key, fault, hfirst, rfl⟩ := refusal?_eq_some_iff.1 he
    exact ⟨key, fault, hfirst, hP⟩
  · rintro ⟨key, fault, hfirst, hP⟩
    exact ⟨_, refusal?_eq_some_iff.2 ⟨key, fault, hfirst, rfl⟩, hP⟩

/-- Keys are refused for one of them. -/
theorem exists_of_refusal? {keys : List String} {e : ConfigError} (h : refusal? keys = some e) :
    e.key ∈ keys ∧ ¬ Valid e.key := by
  obtain ⟨key, hmem, hkey⟩ := List.exists_of_findSome?_eq_some h
  obtain ⟨fault, hfault, rfl⟩ := Option.map_eq_some_iff.1 hkey
  refine ⟨hmem, fun hvalid => ?_⟩
  rw [show fault? key = none from hvalid] at hfault
  cases hfault

end Key

/-! ## 2. Setting and locking one after another -/

namespace Store

/-- The store of some pairs and nothing else. -/
def ofPairs (pairs : List (String × String)) : Store := { storage := { entries := .ofList pairs } }

/-- The store of some pairs shows the last value for each key. -/
theorem get?_entries_ofPairs {values : List (String × String)}
    (hvalid : ∀ key ∈ values.map Prod.fst, Key.Valid key) (key : String) :
    (ofPairs values).entries.get? key = Pairs.lookup key values.reverse := by
  have hempty : (Table.ofList values).get? "" = none := by
    rw [Table.get?_ofList, Pairs.lookup_eq_none_iff, List.map_reverse, List.mem_reverse]
    exact fun hmem => (hvalid "" hmem).ne_empty rfl
  rw [ofPairs, entries_of_root hempty, Table.get?_ofList]

theorem mem_keys_ofPairs {values : List (String × String)}
    (hvalid : ∀ key ∈ values.map Prod.fst, Key.Valid key) {key : String} :
    key ∈ (ofPairs values).keys ↔ key ∈ values.map Prod.fst := by
  rw [keys, Table.mem_keys_iff, Table.contains_eq, get?_entries_ofPairs hvalid,
    Pairs.isSome_lookup_iff, List.map_reverse, List.mem_reverse]

theorem result_set_of_unlocked {s : Store} (hscope : s.scope = "")
    (hlocks : s.storage.locks = .empty) (key value : String) :
    (s.set key value).result
      = (Key.check key).map fun _ =>
          { s with storage.entries := s.storage.entries.insert key value } := by
  have hunlocked : s.storage.isLocked key = false := by
    rw [Storage.isLocked, hlocks]
    rfl
  rw [result_set, hscope, String.empty_append, Storage.set, Storage.checkSet]
  cases Key.check key with
  | error e => rfl
  | ok u => simp [hunlocked, Except.map]

theorem result_setEach {s : Store} (hscope : s.scope = "") (hlocks : s.storage.locks = .empty)
    (pairs : List (String × String)) :
    (s.setEach pairs).result
      = match Key.refusal? (pairs.map Prod.fst) with
        | some e => .error e
        | none => .ok { s with storage.entries := s.storage.entries.insertAll pairs } := by
  induction pairs generalizing s with
  | nil => rfl
  | cons p rest ih =>
    rw [setEach, Traced.bind_eq, Traced.result_andThen, result_set_of_unlocked hscope hlocks,
      List.map_cons]
    cases hp : Key.check p.1 with
    | error e =>
      rw [Key.refusal?_cons_of_error hp]
      rfl
    | ok u =>
      rw [Key.refusal?_cons_of_valid (Key.check_eq_ok_iff.1 hp)]
      exact ih hscope hlocks

theorem result_ofEntries (pairs : List (String × String)) :
    (ofEntries pairs).result
      = match Key.refusal? (pairs.map Prod.fst) with
        | some e => .error e
        | none => .ok (ofPairs pairs) :=
  result_setEach rfl rfl pairs

theorem result_setValues {s : Store} (hscope : s.scope = "") (hlocks : s.storage.locks = .empty)
    (pairs : List (String × String)) :
    (s.setValues pairs).result
      = match Key.refusal? (pairs.map Prod.fst) with
        | some e => .error (.setting e.key e)
        | none => .ok { s with storage.entries := s.storage.entries.insertAll pairs } := by
  induction pairs generalizing s with
  | nil => rfl
  | cons p rest ih =>
    rw [setValues, Traced.bind_eq, Traced.result_andThen, Traced.onError,
      result_set_of_unlocked hscope hlocks, List.map_cons]
    cases hp : Key.check p.1 with
    | error e =>
      rw [Key.refusal?_cons_of_error hp]
      show Except.error (Failure.setting p.1 e) = .error (.setting e.key e)
      rw [Key.key_of_check hp]
    | ok u =>
      rw [Key.refusal?_cons_of_valid (Key.check_eq_ok_iff.1 hp)]
      exact ih hscope hlocks

theorem result_lockKeys {s : Store} (hscope : s.scope = "") (keys : List String) :
    (s.lockKeys keys).result
      = match Key.refusal? keys with
        | some e => .error (.locking e.key e)
        | none => .ok { s with
            storage.locks := s.storage.locks.insertAll (keys.map fun key => (key, ())) } := by
  induction keys generalizing s with
  | nil => rfl
  | cons key rest ih =>
    rw [lockKeys, Traced.bind_eq, Traced.result_andThen, Traced.onError, result_lock, hscope,
      String.empty_append, Storage.lock]
    cases hkey : Key.check key with
    | error e =>
      rw [Key.refusal?_cons_of_error hkey]
      show Except.error (Failure.locking key e) = .error (.locking e.key e)
      rw [Key.key_of_check hkey]
    | ok u =>
      rw [Key.refusal?_cons_of_valid (Key.check_eq_ok_iff.1 hkey)]
      exact ih rfl

end Store

/-! ## 3. Building -/

namespace Settings

/-- The keys that values are listed for. -/
def keys (x : Settings) : List String := x.values.map Prod.fst

/-- The full form of a key under the block. -/
def full (x : Settings) (key : String) : String := Key.scopeOf (x.block.getD "") ++ key

/-- All keys that are listed are keys. -/
structure WellFormed (x : Settings) : Prop where
  keys : ∀ key ∈ x.keys, Key.Valid key
  locks : ∀ key ∈ x.locks, Key.Valid key

/-- The store that well-formed settings describe. -/
def store (x : Settings) : Store :=
  { storage :=
      { entries := .ofList x.values
        locks := .ofList (x.locks.map fun key => (key, ())) }
    scope := Key.scopeOf (x.block.getD "") }

theorem result_focus (s : Store) (block : Option String) :
    (s.focus block).result = .ok (s.view (block.getD "")) := by
  cases block with
  | some name => rfl
  | none =>
    have hview : s.view "" = s := by simp [Store.view]
    exact congrArg Except.ok hview.symm

theorem result_build (x : Settings) :
    x.build.result
      = match Key.refusal? x.keys, Key.refusal? x.locks with
        | some e, _ => .error (.setting e.key e)
        | none, some e => .error (.locking e.key e)
        | none, none => .ok x.store := by
  simp only [build, Traced.bind_eq, Traced.result_andThen]
  rw [Store.result_setValues rfl rfl]
  cases hv : Key.refusal? x.keys with
  | some e =>
    rw [keys] at hv
    rw [hv]
    rfl
  | none =>
    rw [keys] at hv
    rw [hv]
    simp only [Except.bind]
    rw [Store.result_lockKeys rfl]
    cases Key.refusal? x.locks with
    | some e => rfl
    | none =>
      simp only [Traced.result_report, result_focus, Store.view, store]
      rfl

theorem wellFormed_iff {x : Settings} :
    x.WellFormed ↔ Key.refusal? x.keys = none ∧ Key.refusal? x.locks = none := by
  rw [Key.refusal?_eq_none_iff, Key.refusal?_eq_none_iff]
  exact ⟨fun h => ⟨h.keys, h.locks⟩, fun h => ⟨h.1, h.2⟩⟩

/-- Settings can be built exactly when all listed keys are keys. -/
theorem result_build_eq_ok_iff {x : Settings} {s : Store} :
    x.build.result = .ok s ↔ x.WellFormed ∧ s = x.store := by
  rw [result_build, wellFormed_iff]
  cases Key.refusal? x.keys with
  | some e => simp
  | none => cases Key.refusal? x.locks <;> simp [eq_comm]

theorem result_build_eq_error_iff {x : Settings} {f : Failure} :
    x.build.result = .error f ↔
      (∃ e, Key.refusal? x.keys = some e ∧ f = .setting e.key e)
        ∨ Key.refusal? x.keys = none
          ∧ ∃ e, Key.refusal? x.locks = some e ∧ f = .locking e.key e := by
  rw [result_build]
  cases Key.refusal? x.keys with
  | some e => simp [eq_comm]
  | none => cases Key.refusal? x.locks <;> simp [eq_comm]

/-! ### What the store holds -/

theorem qualify_store (x : Settings) (key : String) : x.store.qualify key = x.full key := rfl

theorem get?_store_eq_none_iff {x : Settings} {key : String} :
    x.store.storage.entries.get? key = none ↔ key ∉ x.keys := by
  rw [keys, ← Table.contains_ofList, Table.contains_eq]
  simp [store]

theorem isLocked_store_iff {x : Settings} {key : String} :
    x.store.storage.isLocked key = true ↔ key ∈ x.locks := by
  rw [Storage.isLocked, store, Table.contains_ofList]
  simp

/-! ## 4. The last value wins, and then the locks -/

/-- The same values for each key in the same order, the same locks in any
order and number, and the same block. Values for different keys may have
changed places. -/
structure Reordered (x y : Settings) : Prop where
  values : ∀ key, y.values.filter (·.1 = key) = x.values.filter (·.1 = key)
  locks : ∀ key, key ∈ y.locks ↔ key ∈ x.locks
  block : y.block = x.block

namespace Reordered

variable {x y : Settings}

theorem mem_keys_iff (h : Reordered x y) {key : String} : key ∈ y.keys ↔ key ∈ x.keys := by
  have hasked : ∀ z : Settings, key ∈ z.keys ↔ z.values.filter (·.1 = key) ≠ [] := by
    intro z
    simp [keys]
  rw [hasked y, hasked x, h.values key]

theorem wellFormed (h : Reordered x y) (hx : x.WellFormed) : y.WellFormed :=
  ⟨fun key hkey => hx.keys key (h.mem_keys_iff.1 hkey),
    fun key hkey => hx.locks key ((h.locks key).1 hkey)⟩

theorem store_eq (h : Reordered x y) : y.store = x.store := by
  have hentries : Table.ofList y.values = Table.ofList x.values := by
    refine Table.ext_get? fun key => ?_
    rw [Table.get?_ofList, Table.get?_ofList, Pairs.lookup_reverse_congr (h.values key)]
  have hlocks : Table.ofList (y.locks.map fun key => (key, ()))
      = Table.ofList (x.locks.map fun key => (key, ())) := by
    refine Table.ext_contains fun key => ?_
    rw [Table.contains_ofList, Table.contains_ofList]
    simpa using h.locks key
  rw [store, store, hentries, hlocks, h.block]

end Reordered

/-- Building succeeds exactly when all listed keys are well formed, whether
or not a key with a value is locked as well. Then the entries are the listed
keys with the last value of each, the locks are the listed locks, and the
scope is that of the view of the block. Otherwise the first malformed key
among the values is reported, or else the first among the locks. -/
theorem build_last_wins (x : Settings) :
    ((∃ s, x.build.result = .ok s)
      ↔ (∀ key ∈ x.keys, Key.Valid key) ∧ ∀ key ∈ x.locks, Key.Valid key)
    ∧ (∀ s, x.build.result = .ok s →
        (∀ key, s.storage.entries.contains key = true ↔ key ∈ x.keys)
        ∧ (∀ key value, s.storage.entries.get? key = some value
            ↔ Pairs.LastValue x.values key value)
        ∧ (∀ key, s.storage.isLocked key = true ↔ key ∈ x.locks)
        ∧ s.scope = (match x.block with
            | none => Store.empty
            | some name => Store.empty.view name).scope)
    ∧ (∀ f, x.build.result = .error f ↔
        (∃ key fault, Key.FirstMalformed x.keys key fault
          ∧ f = .setting key (.invalidKey key fault))
        ∨ (∀ key ∈ x.keys, Key.Valid key)
          ∧ ∃ key fault, Key.FirstMalformed x.locks key fault
            ∧ f = .locking key (.invalidKey key fault))
    ∧ (∀ key cause, (Failure.setting key cause).headline = s!"Failed to set '{key}'"
        ∧ (Failure.locking key cause).headline = s!"Failed to lock '{key}'")
    ∧ ∀ y, Reordered x y → ∀ s, x.build.result = .ok s → y.build.result = .ok s := by
  refine ⟨?_, fun s hs => ?_, fun f => ?_, fun _ _ => ⟨rfl, rfl⟩, fun y hy s hs => ?_⟩
  · constructor
    · rintro ⟨s, hs⟩
      obtain ⟨hx, -⟩ := result_build_eq_ok_iff.1 hs
      exact ⟨hx.keys, hx.locks⟩
    · rintro ⟨hkeys, hlocks⟩
      exact ⟨x.store, result_build_eq_ok_iff.2 ⟨⟨hkeys, hlocks⟩, rfl⟩⟩
  · obtain ⟨-, rfl⟩ := result_build_eq_ok_iff.1 hs
    refine ⟨fun key => Table.contains_ofList, fun key value => Table.get?_ofList_eq_some_iff,
      fun key => isLocked_store_iff, ?_⟩
    cases hblock : x.block with
    | none => simp [store, hblock, Store.empty]
    | some name => simp [store, hblock, Store.empty, Store.view]
  · rw [result_build_eq_error_iff, Key.exists_refusal?_iff, Key.exists_refusal?_iff,
      Key.refusal?_eq_none_iff]
    exact Iff.rfl
  · obtain ⟨hx, rfl⟩ := result_build_eq_ok_iff.1 hs
    exact result_build_eq_ok_iff.2 ⟨hy.wellFormed hx, hy.store_eq.symm⟩

/-- A key with two values and a key that is locked as well, then the same
with values and locks in another order, then a lock that is no key before
another one. -/
theorem build_of_locked_value :
    let x : Settings :=
      { values := [("a", "1"), ("b:c", "2"), ("a", "3")], locks := ["b:c", "z"], block := some "b" }
    let y : Settings :=
      { x with values := [("b:c", "2"), ("a", "1"), ("a", "3")], locks := ["z", "b:c", "z"] }
    let bad : Settings := { x with locks := ["b:c", "z:", ":"] }
    Reordered x y
      ∧ (∃ s, x.build.result = .ok s ∧ y.build.result = .ok s
          ∧ s.storage.entries.get? "a" = some "3" ∧ s.storage.entries.get? "b:c" = some "2"
          ∧ s.storage.isLocked "b:c" = true ∧ s.scope = "b:")
      ∧ bad.build.result = .error (.locking "z:" (.invalidKey "z:" .emptySegment)) := by
  intro x y bad
  have hreordered : Reordered x y := by
    refine ⟨fun key => ?_, fun key => by grind, rfl⟩
    by_cases ha : "a" = key
    · subst ha
      rfl
    · by_cases hb : "b:c" = key <;> simp [x, y, ha, hb]
  obtain ⟨hok, hholds, -, -, hsame⟩ := build_last_wins x
  obtain ⟨s, hs⟩ := hok.2 ⟨by decide, by decide⟩
  obtain ⟨-, hvalue, hlocked, hscope⟩ := hholds s hs
  refine ⟨hreordered, ⟨s, hs, hsame y hreordered s hs, ?_, ?_, ?_, ?_⟩, ?_⟩
  · exact (hvalue "a" "3").2 ⟨[("a", "1"), ("b:c", "2")], [], rfl, by decide⟩
  · exact (hvalue "b:c" "2").2 ⟨[("a", "1")], [("a", "3")], rfl, by decide⟩
  · exact (hlocked "b:c").2 (by decide)
  · exact hscope.trans (by decide)
  · obtain ⟨-, -, herror, -, -⟩ := build_last_wins bad
    refine (herror _).2 (.inr ⟨by decide, "z:", .emptySegment, ?_, rfl⟩)
    exact ⟨["b:c"], [":"], rfl, by decide, by decide⟩

end Settings

end BlockConfig
