/-
BlockConfig.Store.Lemmas — what the operations of a storage and of a store
do, one statement for each.

Each change is described by when it succeeds and by what it leaves: the
`_eq_ok_iff` statements. Reading is described through the full key: a
store shows a relative key exactly when the storage holds the full one
(`get?_entries`, `isReadOnly_eq`). A change through a store is the change
of its storage at the full key (the `result_` statements). Later work rests
on these and does not unfold the operations.
-/
import BlockConfig.Store
import BlockConfig.Table.Under

namespace BlockConfig

/-! ## 1. Storages -/

namespace Storage

/-- A key may be written when it is well formed and not read-only. -/
theorem checkSet_eq_ok_iff {s : Storage} {key : String} :
    s.checkSet key = .ok () ↔ Key.Valid key ∧ s.isLocked key = false := by
  unfold checkSet
  cases hc : Key.check key with
  | error e =>
    have hv : ¬ Key.Valid key := by
      rw [← Key.check_eq_ok_iff, hc]
      simp
    simp [hv]
  | ok u =>
    have hv : Key.Valid key := Key.check_eq_ok_iff.1 hc
    cases hl : s.isLocked key <;> simp [hv]

theorem set_eq_ok_iff {s t : Storage} {key value : String} :
    s.set key value = .ok t ↔
      (Key.Valid key ∧ s.isLocked key = false)
        ∧ t = { s with entries := s.entries.insert key value } := by
  rw [← checkSet_eq_ok_iff]
  unfold set
  cases s.checkSet key with
  | error e => simp
  | ok u => simp [eq_comm]

theorem unset_eq_ok_iff {s t : Storage} {key value : String} :
    s.unset key = .ok (value, t) ↔
      s.isLocked key = false ∧ s.entries.get? key = some value
        ∧ t = { s with entries := s.entries.erase key } := by
  unfold unset
  cases s.isLocked key with
  | true => simp
  | false =>
    cases s.entries.get? key with
    | none => simp
    | some v => simp [eq_comm]

theorem lock_eq_ok_iff {s t : Storage} {key : String} :
    s.lock key = .ok t ↔ Key.Valid key ∧ t = { s with locks := s.locks.insert key () } := by
  rw [← Key.check_eq_ok_iff]
  unfold lock
  cases Key.check key with
  | error e => simp
  | ok u => simp [eq_comm]

theorem checkSetAll_eq_ok_iff {s : Storage} {pairs : List (String × String)} :
    s.checkSetAll pairs = .ok () ↔ ∀ p ∈ pairs, Key.Valid p.1 ∧ s.isLocked p.1 = false := by
  induction pairs with
  | nil => simp [checkSetAll]
  | cons p rest ih =>
    rw [checkSetAll, List.forall_mem_cons, ← checkSet_eq_ok_iff, ← ih]
    cases s.checkSet p.1 with
    | error e => simp
    | ok u => simp

theorem setAll_eq_ok_iff {s t : Storage} {pairs : List (String × String)} :
    s.setAll pairs = .ok t ↔
      (∀ p ∈ pairs, Key.Valid p.1 ∧ s.isLocked p.1 = false)
        ∧ t = { s with entries := s.entries.insertAll pairs } := by
  rw [← checkSetAll_eq_ok_iff]
  unfold setAll
  cases s.checkSetAll pairs with
  | error e => simp
  | ok u => simp [eq_comm]

end Storage

/-! ## 2. Stores -/

namespace Store

/-- A relative key shows the value of the full key. -/
theorem get?_entries (s : Store) (key : String) :
    s.entries.get? key = if key = "" then none else s.storage.entries.get? (s.qualify key) :=
  s.storage.entries.get?_under s.scope key

/-- The whole is shown as it is stored, if the empty text has no value. -/
theorem entries_of_root {entries : Table String} {locks : KeySet} (h : entries.get? "" = none) :
    (⟨⟨entries, locks⟩, ""⟩ : Store).entries = entries := by
  refine Table.ext_get? fun key => ?_
  rw [get?_entries, qualify, String.empty_append]
  by_cases hkey : key = ""
  · rw [if_pos hkey, hkey, h]
  · rw [if_neg hkey]

/-- The keys that a merge writes are the shown ones, qualified. -/
theorem keys_incoming (s source : Store) :
    (s.incoming source).map Prod.fst = source.keys.map s.qualify := by
  simp [incoming, keys, Table.keys]

theorem isReadOnly_eq (s : Store) (key : String) :
    s.isReadOnly key = (s.storage.locks.get? (s.qualify key)).isSome := rfl

theorem result_set (s : Store) (key value : String) :
    (s.set key value).result
      = (s.storage.set (s.scope ++ key) value).map fun t => { s with storage := t } := by
  unfold set qualify
  cases s.storage.set (s.scope ++ key) value <;> rfl

theorem result_unset (s : Store) (key : String) :
    (s.unset key).result
      = (s.storage.unset (s.scope ++ key)).map fun p => (p.1, { s with storage := p.2 }) := by
  unfold unset qualify
  cases s.storage.unset (s.scope ++ key) <;> rfl

theorem result_lock (s : Store) (key : String) :
    (s.lock key).result
      = (s.storage.lock (s.scope ++ key)).map fun t => { s with storage := t } := by
  unfold lock qualify
  cases s.storage.lock (s.scope ++ key) <;> rfl

theorem result_merge (s source : Store) :
    (s.merge source).result
      = (s.storage.setAll (s.incoming source)).map fun t => { s with storage := t } := by
  unfold merge
  cases s.storage.setAll (s.incoming source) <;> rfl

/-- Views of views are views: their scopes follow one another. -/
theorem view_view (s : Store) (outer inner : String) :
    (s.view outer).view inner = s.view (Key.nest outer inner) := by
  simp only [view, Key.scopeOf_nest, String.append_assoc]

/-- A copy shows what the view of the same block shows. -/
theorem entries_subblock (s : Store) (name : String) :
    (s.subblock name).entries = (s.view name).entries := by
  have h : ((s.view name).entries).under "" = (s.view name).entries :=
    (s.view name).storage.entries.under_under (s.view name).scope "" |>.trans (by
      rw [String.append_empty]
      rfl)
  exact h

end Store

end BlockConfig
