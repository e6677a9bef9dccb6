/-
BlockConfig.Proofs.Session.ReadOnly — read-only is for ever, and for every
way to a key.

A lock is on a full key of a storage. It does not matter through which
handle it was set, nor through which handle a later call comes:
`locked_key_frozen` says that after any calls the key is still locked,
that its entry is what it was when the lock was seen (a value, or none),
and that every attempt to write or to unset it is refused, through every
scope that the full key can be written with.

* One accepted change leaves the entry of a locked key alone
  (`Storage.Change.frozen`). For several pairs at once that is because
  none of them may have a locked key.
* No move of a session takes a storage away or exchanges it for another
  (`Frozen.moves`), so the entry stays along every run.
* A locked key is well formed, because all locked keys are. This is why a
  write to it is refused as read-only and not as malformed.
-/
import BlockConfig.Proofs.Session.KeysValid
import BlockConfig.Proofs.Store.Writes

namespace BlockConfig

/-! ## 1. One change -/

/-- A change leaves every locked key locked, and its entry as it is. -/
theorem Storage.Change.frozen {s t : Storage} (hc : s.Change t) {key : String}
    (hl : s.isLocked key = true) :
    t.isLocked key = true ∧ t.entries.get? key = s.entries.get? key := by
  cases hc with
  | @set other value _ h =>
    obtain ⟨⟨-, hother⟩, rfl⟩ := set_eq_ok_iff.1 h
    have hne : key ≠ other := by
      rintro rfl
      rw [hl] at hother
      cases hother
    exact ⟨hl, by rw [Table.get?_insert, if_neg hne]⟩
  | @unset other value _ h =>
    obtain ⟨hother, -, rfl⟩ := unset_eq_ok_iff.1 h
    have hne : key ≠ other := by
      rintro rfl
      rw [hl] at hother
      cases hother
    exact ⟨hl, by rw [Table.get?_erase, if_neg hne]⟩
  | @lock other _ h =>
    obtain ⟨-, rfl⟩ := lock_eq_ok_iff.1 h
    refine ⟨?_, rfl⟩
    rw [isLocked] at hl ⊢
    rw [Table.contains_insert, hl, Bool.or_true]
  | @setAll pairs _ h =>
    obtain ⟨hpairs, rfl⟩ := setAll_eq_ok_iff.1 h
    have hnot : key ∉ pairs.map Prod.fst := by
      intro hm
      obtain ⟨p, hp, rfl⟩ := List.mem_map.1 hm
      have hother := (hpairs p hp).2
      rw [hl] at hother
      cases hother
    exact ⟨hl, Table.get?_insertAll_of_not_mem hnot _⟩

namespace Session

/-! ## 2. Runs -/

/-- In the storage with this number the key is read-only, with this
entry. -/
def Frozen (s : Session) (i : Nat) (key : String) (entry : Option String) : Prop :=
  ∃ storage, s.storages[i]? = some storage ∧ storage.isLocked key = true
    ∧ storage.entries.get? key = entry

theorem Frozen.moves {s t : Session} {i : Nat} {key : String} {entry : Option String}
    (hf : s.Frozen i key entry) (hm : s.Moves t) : t.Frozen i key entry := by
  obtain ⟨storage, hi, hl, he⟩ := hf
  cases hm with
  | stay => exact ⟨storage, hi, hl, he⟩
  | @adopt store ho =>
    refine ⟨storage, ?_, hl, he⟩
    rw [adopt, List.getElem?_append_left (List.getElem?_eq_some_iff.1 hi).1, hi]
  | attach name hh => exact ⟨storage, hi, hl, he⟩
  | @write h j scope old next hh hj hc =>
    by_cases hji : j = i
    · subst hji
      obtain rfl : old = storage := Option.some.inj (hj.symm.trans hi)
      obtain ⟨hl', he'⟩ := hc.frozen hl
      refine ⟨next, ?_, hl', he'.trans he⟩
      rw [List.getElem?_set_self (List.getElem?_eq_some_iff.1 hi).1]
    · refine ⟨storage, ?_, hl, he⟩
      rw [List.getElem?_set_ne hji, hi]
  | release h => exact ⟨storage, hi, hl, he⟩

theorem Frozen.run {s : Session} {i : Nat} {key : String} {entry : Option String}
    (hf : s.Frozen i key entry) (calls : List Call) : (s.run calls).1.Frozen i key entry :=
  run_preserves (P := fun s => s.Frozen i key entry) (fun _ _ hf hm => hf.moves hm) calls hf

/-! ## 3. Refusals -/

/-- Every attempt on a key of a storage is refused as read-only, through
whatever handle and scope it comes. A merge names a locked key among
those that it would write. -/
structure Refuses (s : Session) (i : Nat) (key : String) : Prop where
  set : ∀ h scope k value, s.handle? h = some ⟨i, scope⟩ → scope ++ k = key →
    (s.step (.edit h (.set k value))).answer = .failed (.readOnly key .set)
  insert : ∀ h scope k value, s.handle? h = some ⟨i, scope⟩ → scope ++ k = key →
    (s.step (.edit h (.insert k value))).answer = .failed (.readOnly key .set)
  unset : ∀ h scope k, s.handle? h = some ⟨i, scope⟩ → scope ++ k = key →
    (s.step (.edit h (.unset k))).answer = .failed (.readOnly key .unset)
  remove : ∀ h scope k, s.handle? h = some ⟨i, scope⟩ → scope ++ k = key →
    (s.step (.edit h (.remove k))).answer = .failed (.readOnly key .unset)
  merge : ∀ h scope source given, s.handle? h = some ⟨i, scope⟩ →
    s.store? source = some given → (∀ k ∈ given.keys, Key.Valid (scope ++ k)) →
    (∃ k ∈ given.keys, scope ++ k = key) →
    ∃ k ∈ given.keys,
      (s.step (.merge h source)).answer = .failed (.readOnly (scope ++ k) .set)

theorem Frozen.refuses {s : Session} (hw : s.WellFormed) {i : Nat} {key : String}
    {entry : Option String} (hf : s.Frozen i key entry) : s.Refuses i key := by
  obtain ⟨storage, hi, hl, -⟩ := hf
  have hkey : Key.Valid key := (hw.storages storage (List.mem_of_getElem? hi)).locks key hl
  constructor
  case set =>
    rintro h scope k value hh rfl
    refine (step_edit_of_error (store?_of_handle? hh hi) ?_).2
    rw [Storage.edit, Storage.set_of_locked hkey hl]
    rfl
  case insert =>
    rintro h scope k value hh rfl
    refine (step_edit_of_error (store?_of_handle? hh hi) ?_).2
    rw [Storage.edit, Storage.set_of_locked hkey hl]
    rfl
  case unset =>
    rintro h scope k hh rfl
    refine (step_edit_of_error (store?_of_handle? hh hi) ?_).2
    rw [Storage.edit, Storage.unset_of_locked hl]
    rfl
  case remove =>
    rintro h scope k hh rfl
    refine (step_edit_of_error (store?_of_handle? hh hi) ?_).2
    rw [Storage.edit, Storage.unset_of_locked hl]
    rfl
  case merge =>
    rintro h scope source given hh hg hvalid ⟨k, hk, rfl⟩
    have hs := store?_of_handle? hh hi
    let store : Store := ⟨storage, scope⟩
    have hkeys := store.keys_incoming given
    have hvalid' : ∀ key ∈ (store.incoming given).map Prod.fst, Key.Valid key := by
      rw [hkeys]
      exact List.forall_mem_map.2 hvalid
    -- The locked key is among the incoming ones, so the search finds one.
    have hfound : ((given.keys.map store.qualify).find? storage.isLocked).isSome = true :=
      List.find?_isSome.2 ⟨_, List.mem_map_of_mem hk, hl⟩
    obtain ⟨key, hkey⟩ := Option.isSome_iff_exists.1 hfound
    obtain ⟨k', hk', rfl⟩ := List.mem_map.1 (List.mem_of_find?_eq_some hkey)
    refine ⟨k', hk', (step_merge_of_error hs hg ?_).2⟩
    rw [Storage.setAll_of_valid hvalid', hkeys, hkey]
    rfl

/-- Once a key of a storage is read-only, it stays so after any calls, its
entry is what it was, and every attempt to write or unset it is
refused. -/
theorem locked_key_frozen {s : Session} (hr : s.Reachable) {i : Nat} {storage : Storage}
    (hs : s.storages[i]? = some storage) {key : String} (hl : storage.isLocked key = true)
    (calls : List Call) :
    ∃ later, (s.run calls).1.storages[i]? = some later
      ∧ later.isLocked key = true
      ∧ later.entries.get? key = storage.entries.get? key
      ∧ (s.run calls).1.Refuses i key := by
  have hf := Frozen.run ⟨storage, hs, hl, rfl⟩ calls
  have hrefuses := hf.refuses (wellFormed_of_reachable (hr.run calls))
  obtain ⟨later, hi, hl', he⟩ := hf
  exact ⟨later, hi, hl', he, hrefuses⟩

/-- The lock is set through a view of a view, on a key without a value; the
write comes through the root. -/
theorem locked_through_nested_view :
    let s := (Session.run {} [.createFrom [("a:x", "1")], .view 0 "a", .view 1 "b",
      .edit 2 (.lock "k")]).1
    let t := (s.run [.edit 0 (.set "a:b:k" "2"), .release 2, .merge 1 0]).1
    s.Reachable
      ∧ s.storages[0]? = some ⟨.ofList [("a:x", "1")], .ofList [("a:b:k", ())]⟩
      ∧ t.handle? 1 = some ⟨0, "a:"⟩
      ∧ (t.step (.edit 1 (.unset "b:k"))).answer = .failed (.readOnly "a:b:k" .unset) := by
  intro s t
  have hr : s.Reachable := ⟨_, rfl⟩
  have hs : s.storages[0]? = some ⟨.ofList [("a:x", "1")], .ofList [("a:b:k", ())]⟩ := by decide
  have hl : Storage.isLocked ⟨.ofList [("a:x", "1")], .ofList [("a:b:k", ())]⟩ "a:b:k" = true := by
    decide
  have hh : t.handle? 1 = some ⟨0, "a:"⟩ := by decide
  obtain ⟨later, -, -, -, hrefuses⟩ := locked_key_frozen hr hs hl
    [.edit 0 (.set "a:b:k" "2"), .release 2, .merge 1 0]
  exact ⟨hr, hs, hh, hrefuses.unset 1 "a:" "b:k" hh (by decide)⟩

end Session

end BlockConfig
