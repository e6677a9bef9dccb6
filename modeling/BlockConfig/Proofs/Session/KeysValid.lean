/-
BlockConfig.Proofs.Session.KeysValid — nothing malformed is ever stored.

Writing and locking check their key. Taking values away, looking through
a block and copying a block check nothing, and block names may be any
text. Still every key in every storage is well formed, because of how
scopes look: a scope is empty or ends with the separator
(`WellFormed.scopes`), and what follows a separator in a key is a key
(`Key.valid_scopeOf_append`). So a copy cannot cut a key in the middle of
a segment, whatever name it was given.

`wellFormed_of_reachable` is the invariant. `reachable_keys_valid` adds
what a caller sees of it: through every handle, also one with a malformed
scope, a text that is no key is absent. The same fact about scopes
carries this half, read the other way: a malformed text stays malformed
when a scope is put in front of it.
-/
import BlockConfig.Proofs.Key.Names
import BlockConfig.Proofs.Session.Moves
import BlockConfig.Proofs.Store.Mirror

namespace BlockConfig

/-! ## 1. Storages -/

/-- Whatever has a value or is read-only is a key. -/
structure Storage.KeysValid (s : Storage) : Prop where
  entries : ∀ key, s.entries.contains key = true → Key.Valid key
  locks : ∀ key, s.isLocked key = true → Key.Valid key

namespace Storage

theorem keysValid_empty : KeysValid {} := by
  constructor <;> intro key h <;> cases h

/-- What is no key has no value and no lock. -/
theorem KeysValid.absent {s : Storage} (h : s.KeysValid) {key : String}
    (hkey : ¬ Key.Valid key) : s.entries.get? key = none ∧ s.locks.get? key = none := by
  have hentry := mt (h.entries key) hkey
  have hlock := mt (h.locks key) hkey
  rw [Table.contains_eq, Bool.not_eq_true, Option.isSome_eq_false_iff,
    Option.isNone_iff_eq_none] at hentry
  rw [isLocked, Table.contains_eq, Bool.not_eq_true, Option.isSome_eq_false_iff,
    Option.isNone_iff_eq_none] at hlock
  exact ⟨hentry, hlock⟩

/-- Every accepted change keeps the keys well formed. -/
theorem Change.keysValid {s t : Storage} (hc : s.Change t) (h : s.KeysValid) :
    t.KeysValid := by
  cases hc with
  | @set key value _ hset =>
    obtain ⟨⟨hkey, -⟩, rfl⟩ := set_eq_ok_iff.1 hset
    refine ⟨fun k hk => ?_, h.locks⟩
    rw [Table.contains_insert, Bool.or_eq_true, decide_eq_true_eq] at hk
    rcases hk with rfl | hk
    · exact hkey
    · exact h.entries k hk
  | @unset key value _ hunset =>
    obtain ⟨-, -, rfl⟩ := unset_eq_ok_iff.1 hunset
    refine ⟨fun k hk => ?_, h.locks⟩
    rw [Table.contains_eq, Table.get?_erase] at hk
    by_cases hkk : k = key
    · rw [if_pos hkk] at hk
      cases hk
    · rw [if_neg hkk] at hk
      exact h.entries k hk
  | @lock key _ hlock =>
    obtain ⟨hkey, rfl⟩ := lock_eq_ok_iff.1 hlock
    refine ⟨h.entries, fun k hk => ?_⟩
    rw [isLocked, Table.contains_insert, Bool.or_eq_true, decide_eq_true_eq] at hk
    rcases hk with rfl | hk
    · exact hkey
    · exact h.locks k hk
  | @setAll pairs _ hall =>
    obtain ⟨hpairs, rfl⟩ := setAll_eq_ok_iff.1 hall
    refine ⟨fun k hk => ?_, h.locks⟩
    by_cases hmem : k ∈ pairs.map Prod.fst
    · obtain ⟨p, hp, rfl⟩ := List.mem_map.1 hmem
      exact (hpairs p hp).1
    · rw [Table.contains_eq, Table.get?_insertAll_of_not_mem hmem] at hk
      exact h.entries k hk

end Storage

/-- Taking the scope of a block off leaves keys. -/
theorem Table.valid_of_contains_under {α : Type} {t : Table α} {name key : String}
    (ht : ∀ k, t.contains k = true → Key.Valid k)
    (h : (t.under (Key.scopeOf name)).contains key = true) : Key.Valid key := by
  rw [contains_eq, get?_under] at h
  by_cases hkey : key = ""
  · rw [if_pos hkey] at h
    cases h
  · rw [if_neg hkey] at h
    exact (Key.valid_scopeOf_append.1 (ht _ h)).2

/-! ## 2. Sessions -/

namespace Session

/-- Storages hold keys only, and every scope is the scope of some name. -/
structure WellFormed (s : Session) : Prop where
  storages : ∀ storage ∈ s.storages, storage.KeysValid
  scopes : ∀ handle, some handle ∈ s.handles → ∃ name, handle.scope = Key.scopeOf name

theorem mem_handles_of_handle? {s : Session} {h : Nat} {handle : Handle}
    (hh : s.handle? h = some handle) : some handle ∈ s.handles :=
  List.mem_of_getElem? (Option.join_eq_some_iff.1 hh)

theorem WellFormed.scope_of_store? {s : Session} (hw : s.WellFormed) {h : Nat} {store : Store}
    (hs : s.store? h = some store) : ∃ name, store.scope = Key.scopeOf name := by
  obtain ⟨i, hh, -⟩ := store?_eq_some_iff.1 hs
  exact hw.scopes _ (mem_handles_of_handle? hh)

theorem WellFormed.keysValid_of_store? {s : Session} (hw : s.WellFormed) {h : Nat}
    {store : Store} (hs : s.store? h = some store) : store.storage.KeysValid := by
  obtain ⟨i, -, hi⟩ := store?_eq_some_iff.1 hs
  exact hw.storages _ (List.mem_of_getElem? hi)

/-- What a handle shows are keys, whatever its scope is. -/
theorem WellFormed.valid_of_mem_keys {s : Session} (hw : s.WellFormed) {h : Nat} {store : Store}
    (hs : s.store? h = some store) {key : String} (hkey : key ∈ store.keys) : Key.Valid key := by
  obtain ⟨name, hscope⟩ := hw.scope_of_store? hs
  rw [Store.keys, Table.mem_keys_iff, Store.entries, hscope] at hkey
  exact Table.valid_of_contains_under (hw.keysValid_of_store? hs).entries hkey

/-- A new store looks at the whole of its storage, and that holds keys
only. -/
theorem WellFormed.of_offers {s : Session} (hw : s.WellFormed) {store : Store}
    (ho : s.Offers store) : store.storage.KeysValid ∧ store.scope = "" := by
  cases ho with
  | built pairs h =>
    exact Store.setEach_induction (fun _ _ hs hc => hc.keysValid hs) h Storage.keysValid_empty
  | @copied h store name hs =>
    obtain ⟨outer, hscope⟩ := hw.scope_of_store? hs
    have hview : (store.view name).scope = Key.scopeOf (Key.nest outer name) := by
      rw [Store.view, hscope, Key.scopeOf_nest]
    have hkeys := hw.keysValid_of_store? hs
    refine ⟨⟨fun key hk => ?_, fun key hk => ?_⟩, rfl⟩
    · rw [Store.subblock, Store.entries, hview] at hk
      exact Table.valid_of_contains_under hkeys.entries hk
    · rw [Storage.isLocked, Store.subblock, Store.locks, hview] at hk
      exact Table.valid_of_contains_under hkeys.locks hk

theorem WellFormed.attach {s : Session} (hw : s.WellFormed) (name : String) {handle : Handle}
    (hscope : handle.scope = Key.scopeOf name) : (s.attach handle).WellFormed := by
  refine ⟨hw.storages, fun other ho => ?_⟩
  rcases List.mem_append.1 ho with ho | ho
  · exact hw.scopes other ho
  · obtain rfl : other = handle := by simpa using ho
    exact ⟨name, hscope⟩

theorem WellFormed.moves {s t : Session} (hw : s.WellFormed) (hm : s.Moves t) :
    t.WellFormed := by
  cases hm with
  | stay => exact hw
  | @adopt store ho =>
    obtain ⟨hkeys, hscope⟩ := hw.of_offers ho
    have hgrown : WellFormed { s with storages := s.storages ++ [store.storage] } := by
      refine ⟨fun storage hs => ?_, hw.scopes⟩
      rcases List.mem_append.1 hs with hs | hs
      · exact hw.storages storage hs
      · obtain rfl : storage = store.storage := by simpa using hs
        exact hkeys
    exact hgrown.attach "" hscope
  | @attach h handle name hh =>
    obtain ⟨outer, hscope⟩ := hw.scopes handle (mem_handles_of_handle? hh)
    refine hw.attach (Key.nest outer name) ?_
    rw [Handle.view, hscope, Key.scopeOf_nest]
  | @write h i scope storage next hh hi hc =>
    refine ⟨fun other ho => ?_, hw.scopes⟩
    rcases List.mem_or_eq_of_mem_set ho with ho | rfl
    · exact hw.storages other ho
    · exact hc.keysValid (hw.storages storage (List.mem_of_getElem? hi))
  | release h =>
    refine ⟨hw.storages, fun handle hh => ?_⟩
    rcases List.mem_or_eq_of_mem_set hh with hh | hh
    · exact hw.scopes handle hh
    · cases hh

theorem wellFormed_of_reachable {s : Session} (hr : s.Reachable) : s.WellFormed :=
  hr.induction ⟨fun _ h => absurd h List.not_mem_nil, fun _ h => absurd h List.not_mem_nil⟩
    fun _ _ hw hm => hw.moves hm

/-! ## 3. What is no key is absent -/

/-- Under the scope of a block a malformed text has no value and no lock. -/
theorem WellFormed.absent {s : Session} (hw : s.WellFormed) {h : Nat} {store : Store}
    (hs : s.store? h = some store) {key : String} (hkey : ¬ Key.Valid key) :
    store.storage.entries.get? (store.qualify key) = none
      ∧ store.storage.isLocked (store.qualify key) = false := by
  obtain ⟨name, hscope⟩ := hw.scope_of_store? hs
  have hkeys := hw.keysValid_of_store? hs
  have hfull : ¬ Key.Valid (store.qualify key) := by
    rw [Store.qualify, hscope, Key.valid_scopeOf_append]
    exact fun hv => hkey hv.2
  obtain ⟨hentry, hlock⟩ := hkeys.absent hfull
  exact ⟨hentry, congrArg Option.isSome hlock⟩

/-- What a copy holds is what the origin has below the scope, locks
included. Nothing is stored at the scope itself, because it is no key. -/
theorem WellFormed.mirrors_subblock {s : Session} (hw : s.WellFormed) {h : Nat} {store : Store}
    (hs : s.store? h = some store) (name : String) :
    (store.subblock name).storage.Mirrors "" (store.scope ++ Key.scopeOf name) store.storage := by
  obtain ⟨outer, hscope⟩ := hw.scope_of_store? hs
  have hnone : ¬ Key.Valid (store.scope ++ Key.scopeOf name) := by
    rw [hscope, ← Key.scopeOf_nest]
    exact Key.not_valid_scopeOf _
  obtain ⟨hentry, hlock⟩ := (hw.keysValid_of_store? hs).absent hnone
  exact ⟨Table.mirrors_under hentry, Table.mirrors_under hlock⟩

theorem not_mem_keys_of_absent {store : Store} {key : String}
    (h : store.storage.entries.get? (store.qualify key) = none) : key ∉ store.keys := by
  rw [Store.keys, Table.mem_keys_iff, Table.contains_eq, Store.get?_entries, h]
  simp

/-- In every session that calls lead to, all stored and all read-only keys
are well formed. And whatever is no key is absent through every handle:
it is not there, not read-only, not found by reading or unsetting, not
listed, and not met by a loop over the store, which goes through the
listed keys. -/
theorem reachable_keys_valid {s : Session} (hr : s.Reachable) :
    (∀ storage ∈ s.storages,
      (∀ key ∈ storage.entries.keys, Key.Valid key) ∧ ∀ key ∈ storage.locks.keys, Key.Valid key)
    ∧ ∀ (h : Nat) (store : Store), s.store? h = some store → ∀ key, ¬ Key.Valid key →
        (s.step (.ask h (.has key))).answer = .flag false
        ∧ (s.step (.ask h (.isReadOnly key))).answer = .flag false
        ∧ (s.step (.ask h (.get key))).answer = .failed (.keyNotFound (store.scope ++ key))
        ∧ (s.step (.edit h (.unset key))).answer = .failed (.keyNotFound (store.scope ++ key))
        ∧ (∃ keys, (s.step (.ask h .keys)).answer = .keys keys ∧ key ∉ keys
            ∧ ∀ {m : Type → Type} [Monad m] {β : Type} (start : β)
                (visit : String → β → m (ForInStep β)),
                forIn store start visit = forIn keys start visit)
        ∧ ∃ pairs, (s.step (.ask h .entries)).answer = .entries pairs
            ∧ ∀ value, (key, value) ∉ pairs := by
  have hw := wellFormed_of_reachable hr
  refine ⟨fun storage hs => ⟨fun key hk => ?_, fun key hk => ?_⟩, fun h store hs key hkey => ?_⟩
  · exact (hw.storages storage hs).entries key (Table.mem_keys_iff.1 hk)
  · exact (hw.storages storage hs).locks key (Table.mem_keys_iff.1 hk)
  obtain ⟨hentry, hlock⟩ := hw.absent hs hkey
  have hask : ∀ q, (s.step (.ask h q)).answer = store.answer q := fun q => by
    simp only [step, asking, hs]
  refine ⟨?_, ?_, ?_, ?_,
    ⟨store.keys, hask .keys, not_mem_keys_of_absent hentry, fun _ _ => rfl⟩,
    store.entries.toList, hask .entries, fun value hm => ?_⟩
  · rw [hask, Store.answer, Store.has, Table.contains_eq, hentry]
    rfl
  · rw [hask, Store.answer, Store.isReadOnly, hlock]
  · rw [hask, Store.answer, Store.get, hentry]
    rfl
  · refine (step_edit_of_error hs ?_).2
    rw [Storage.edit, Storage.unset]
    rw [Store.qualify] at hentry hlock
    rw [hlock, hentry]
    rfl
  · exact not_mem_keys_of_absent hentry (List.mem_map.2 ⟨_, hm, rfl⟩)

/-- The block `a:` is malformed; next to it are a value and a lock of the
block `a`. -/
theorem unset_below_malformed_block :
    let s := (Session.run {} [.createFrom [("a:b", "1")], .edit 0 (.lock "a:c"), .view 0 "a:",
      .subblock 0 "a"]).1
    s.Reachable
      ∧ s.store? 1 = some ⟨⟨.ofList [("a:b", "1")], .ofList [("a:c", ())]⟩, "a::"⟩
      ∧ ¬ Key.Valid ":b"
      ∧ (s.step (.edit 1 (.unset ":b"))).answer = .failed (.keyNotFound ("a::" ++ ":b")) := by
  intro s
  have hr : s.Reachable := ⟨_, rfl⟩
  have hs : s.store? 1 = some ⟨⟨.ofList [("a:b", "1")], .ofList [("a:c", ())]⟩, "a::"⟩ := by
    decide
  have hkey : ¬ Key.Valid ":b" := by decide
  exact ⟨hr, hs, hkey, ((reachable_keys_valid hr).2 1 _ hs ":b" hkey).2.2.2.1⟩

end Session

end BlockConfig
