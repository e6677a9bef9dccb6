/-
BlockConfig.Proofs.Store.Writes — which refusal a write meets, and what
many writes leave.

The `_eq_ok_iff` statements of `BlockConfig.Store.Lemmas` say when a
change succeeds. Here is the other side. A malformed key is refused for its
fault, whatever the storage holds. For keys that are well formed nothing
but a lock can stand in the way, and of several pairs the first one with a
locked key is reported (`Storage.setAll_of_valid`). Of pairs in
ascending order that is the least of the refused keys
(`Storage.checkSetAll_eq_error_iff`). Whether a write is refused depends on
the locks alone (`Storage.checkSetAll_congr`).

What a merge leaves is told by look-ups: the given entries below the
scope, in front of what was there (`Store.overlaid_setAll`), which is also
what shows then (`Store.get?_entries_of_overlaid`). This settles the storage
that is left (`Overlaid.unique`), and two merges below one scope are told as
one (`Overlaid.trans`).
-/
import BlockConfig.Store.Lemmas
import BlockConfig.Proofs.Table.Lookup

namespace BlockConfig

/-! ## 1. Storages -/

namespace Storage

theorem checkSet_of_fault? {s : Storage} {key : String} {fault : KeyFault}
    (h : Key.fault? key = some fault) : s.checkSet key = .error (.invalidKey key fault) := by
  simp [checkSet, Key.check, h]

theorem lock_of_fault? {s : Storage} {key : String} {fault : KeyFault}
    (h : Key.fault? key = some fault) : s.lock key = .error (.invalidKey key fault) := by
  simp [lock, Key.check, h]

/-- If the first key is malformed, it is the one that is reported. -/
theorem checkSetAll_cons_of_fault? {s : Storage} {pair : String × String} {fault : KeyFault}
    (h : Key.fault? pair.1 = some fault) (rest : List (String × String)) :
    s.checkSetAll (pair :: rest) = .error (.invalidKey pair.1 fault) := by
  rw [checkSetAll, checkSet_of_fault? h]

theorem checkSet_of_valid {s : Storage} {key : String} (hkey : Key.Valid key) :
    s.checkSet key = if s.isLocked key then .error (.readOnly key .set) else .ok () := by
  rw [checkSet, Key.check_eq_ok_iff.2 hkey]

theorem set_of_locked {s : Storage} {key : String} (hkey : Key.Valid key)
    (hl : s.isLocked key = true) (value : String) :
    s.set key value = .error (.readOnly key .set) := by
  rw [set, checkSet_of_valid hkey, if_pos hl]

/-- Unsetting asks for the lock before anything else. -/
theorem unset_of_locked {s : Storage} {key : String} (hl : s.isLocked key = true) :
    s.unset key = .error (.readOnly key .unset) := by
  rw [unset, if_pos hl]

theorem checkSetAll_of_valid {s : Storage} {pairs : List (String × String)}
    (hkeys : ∀ key ∈ pairs.map Prod.fst, Key.Valid key) :
    s.checkSetAll pairs
      = match (pairs.map Prod.fst).find? s.isLocked with
        | some key => .error (.readOnly key .set)
        | none => .ok () := by
  induction pairs with
  | nil => rfl
  | cons p rest ih =>
    rw [List.map_cons, List.forall_mem_cons] at hkeys
    rw [checkSetAll, checkSet_of_valid hkeys.1]
    cases hl : s.isLocked p.1 with
    | true => simp [hl]
    | false => simpa [hl] using ih hkeys.2

/-- All or nothing: the first locked key is reported, or else all pairs
are written. -/
theorem setAll_of_valid {s : Storage} {pairs : List (String × String)}
    (hkeys : ∀ key ∈ pairs.map Prod.fst, Key.Valid key) :
    s.setAll pairs
      = match (pairs.map Prod.fst).find? s.isLocked with
        | some key => .error (.readOnly key .set)
        | none => .ok { s with entries := s.entries.insertAll pairs } := by
  rw [setAll, checkSetAll_of_valid hkeys]
  cases (pairs.map Prod.fst).find? s.isLocked <;> rfl

/-- Of ascending keys the least one that is refused is reported. -/
theorem checkSetAll_eq_error_iff {s : Storage} {pairs : List (String × String)}
    (hsorted : Pairs.Sorted pairs) {e : ConfigError} :
    s.checkSetAll pairs = .error e ↔
      ∃ key ∈ pairs.map Prod.fst, s.checkSet key = .error e
        ∧ ∀ other ∈ pairs.map Prod.fst, s.checkSet other ≠ .ok () → ¬ other < key := by
  induction pairs with
  | nil => simp [checkSetAll]
  | cons p rest ih =>
    obtain ⟨hfirst, hrest⟩ := List.pairwise_cons.1 hsorted
    have hlater : ∀ key ∈ rest.map Prod.fst, p.1 < key := by
      intro key hkey
      obtain ⟨q, hq, rfl⟩ := List.mem_map.1 hkey
      exact hfirst q hq
    rw [List.map_cons, checkSetAll]
    cases hp : s.checkSet p.1 with
    | error err =>
      constructor
      · intro herr
        refine ⟨p.1, List.mem_cons_self, hp.trans herr, fun other ho _ hlt => ?_⟩
        rcases List.mem_cons.1 ho with rfl | ho
        · exact String.lt_irrefl _ hlt
        · exact String.lt_irrefl _ (String.lt_trans (hlater other ho) hlt)
      · rintro ⟨key, hmem, hkey, hleast⟩
        rcases List.mem_cons.1 hmem with rfl | hmem
        · exact hp.symm.trans hkey
        · exact absurd (hlater key hmem) (hleast p.1 List.mem_cons_self (by simp [hp]))
    | ok u =>
      refine (ih hrest).trans ⟨?_, ?_⟩
      · rintro ⟨key, hmem, hkey, hleast⟩
        refine ⟨key, List.mem_cons_of_mem _ hmem, hkey, fun other ho hrefused => ?_⟩
        rcases List.mem_cons.1 ho with rfl | ho
        · exact absurd hp hrefused
        · exact hleast other ho hrefused
      · rintro ⟨key, hmem, hkey, hleast⟩
        rcases List.mem_cons.1 hmem with rfl | hmem
        · rw [hp] at hkey
          cases hkey
        · exact ⟨key, hmem, hkey, fun other ho => hleast other (List.mem_cons_of_mem _ ho)⟩

theorem isLocked_congr {s t : Storage} (h : s.locks = t.locks) (key : String) :
    s.isLocked key = t.isLocked key := by
  rw [isLocked, isLocked, h]

theorem checkSet_congr {s t : Storage} (h : s.locks = t.locks) (key : String) :
    s.checkSet key = t.checkSet key := by
  rw [checkSet, checkSet, isLocked_congr h]

/-- Whether pairs may be written depends on the locks only. -/
theorem checkSetAll_congr {s t : Storage} (h : s.locks = t.locks)
    (pairs : List (String × String)) : s.checkSetAll pairs = t.checkSetAll pairs := by
  induction pairs with
  | nil => rfl
  | cons p rest ih => rw [checkSetAll, checkSetAll, checkSet_congr h, ih]

/-- One storage is another with the entries of a table written below a
scope, in front of what was there, and with the locks as they were. -/
structure Overlaid (before after : Storage) (scope : String) (given : Table String) : Prop where
  locks : after.locks = before.locks
  entries : ∀ key, after.entries.get? key
    = ((Key.within? scope key).bind given.get?).or (before.entries.get? key)

variable {before after later : Storage} {scope : String} {given further joined : Table String}

/-- Below a scope what is written shows in front of what was there. -/
theorem Overlaid.get?_append (h : before.Overlaid after scope given)
    (hempty : given.get? "" = none) (key : String) :
    after.entries.get? (scope ++ key)
      = (given.get? key).or (before.entries.get? (scope ++ key)) := by
  rw [h.entries]
  by_cases hkey : key = ""
  · have hnone : Key.within? scope (scope ++ key) = none := by
      refine Option.eq_none_iff_forall_ne_some.2 fun rest hrest => ?_
      obtain ⟨heq, hne⟩ := Key.within?_eq_some_iff.1 hrest
      exact hne ((String.append_right_inj scope).1 heq ▸ hkey)
    rw [hnone, hkey, hempty]
    rfl
  · rw [Key.within?_eq_some_iff.2 ⟨rfl, hkey⟩]
    rfl

/-- What is written settles what is left. -/
theorem Overlaid.unique (h : before.Overlaid after scope given)
    (h' : before.Overlaid later scope given) : later = after := by
  have hentries : later.entries = after.entries :=
    Table.ext_get? fun key => (h'.entries key).trans (h.entries key).symm
  have hlocks : later.locks = after.locks := h'.locks.trans h.locks.symm
  cases later
  cases after
  simp only [Storage.mk.injEq]
  exact ⟨hentries, hlocks⟩

/-- Two tables written one after the other are one table, in which the later
one shows in front. -/
theorem Overlaid.trans (h : before.Overlaid after scope given)
    (h' : after.Overlaid later scope further)
    (hjoined : ∀ key, joined.get? key = (further.get? key).or (given.get? key)) :
    before.Overlaid later scope joined := by
  refine ⟨h'.locks.trans h.locks, fun key => ?_⟩
  rw [h'.entries, h.entries]
  cases Key.within? scope key with
  | none => rfl
  | some rest => rw [Option.bind_some, Option.bind_some, Option.bind_some, hjoined, Option.or_assoc]

end Storage

/-! ## 2. Stores -/

/-- No key is shown as the empty text. -/
theorem Store.ne_empty_of_mem_keys {s : Store} {key : String} (h : key ∈ s.keys) : key ≠ "" := by
  rintro rfl
  rw [keys, Table.mem_keys_iff, Table.contains_eq, entries, Table.get?_under_empty] at h
  cases h

/-- A scope in front of all keys keeps their order. -/
theorem Store.sorted_incoming (s given : Store) : Pairs.Sorted (s.incoming given) :=
  List.pairwise_map.2 (given.entries.sorted.imp fun hlt => append_lt_append_iff.2 hlt)

/-- What is shown has distinct keys, and so has what a merge writes. -/
theorem Store.nodup_incoming (s given : Store) : ((s.incoming given).map Prod.fst).Nodup := by
  rw [keys_incoming]
  refine List.pairwise_map.2 (given.entries.sorted.nodup_keys.imp fun hne heq => hne ?_)
  exact String.append_right_inj s.scope |>.1 heq

theorem Store.overlaid_setAll {s given : Store} {next : Storage}
    (h : s.storage.setAll (s.incoming given) = .ok next) :
    s.storage.Overlaid next s.scope given.entries := by
  obtain ⟨-, rfl⟩ := Storage.setAll_eq_ok_iff.1 h
  refine ⟨rfl, fun key => ?_⟩
  rw [Table.get?_insertAll (s.nodup_incoming given)]
  exact congrArg (Option.or · _)
    (Pairs.lookup_map_append (given.storage.entries.get?_under_empty given.scope))

/-- After a merge the source shows in front of what was shown. -/
theorem Store.get?_entries_of_overlaid {s given : Store} {next : Storage}
    (h : s.storage.Overlaid next s.scope given.entries) (key : String) :
    (⟨next, s.scope⟩ : Store).entries.get? key
      = (given.entries.get? key).or (s.entries.get? key) := by
  rw [get?_entries ⟨next, s.scope⟩, get?_entries s]
  by_cases hkey : key = ""
  · subst hkey
    rw [if_pos rfl, if_pos rfl, entries, Table.get?_under_empty]
    rfl
  · rw [if_neg hkey, if_neg hkey]
    exact h.get?_append (Table.get?_under_empty ..) key

theorem Store.mem_keys_of_overlaid {s given : Store} {next : Storage}
    (h : s.storage.Overlaid next s.scope given.entries) (key : String) :
    key ∈ (⟨next, s.scope⟩ : Store).keys ↔ key ∈ given.keys ∨ key ∈ s.keys := by
  simp only [keys, Table.mem_keys_iff, Table.contains_eq, get?_entries_of_overlaid h,
    Option.isSome_or, Bool.or_eq_true]

end BlockConfig
