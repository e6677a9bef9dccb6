/-
BlockConfig.Proofs.Session.Restore — emptying what a handle shows, and
putting back what was saved of it.

To drain a handle is to unset, one by one, the keys that it listed before
the first of them was unset. `drain_restores` says what this leaves: the
read-only keys, each with its value, and everything outside the scope. It
says further that a snapshot is a backup. Whatever was set, unset or merged
through the handle since, to drain the handle and to merge the snapshot into
it gives back the session that there was, if no key with a value was
read-only when the snapshot was taken.

Three relations between a storage before and after carry this, one for each
stage. Changes through a scope leave the locks, the locked entries and the
entries outside (`Storage.Revised`). Draining takes away exactly the
unlocked ones of some keys (`Storage.Drained`). A merge writes what the
source shows in front of the rest (`Storage.Overlaid`). A key that was
absent and read-only stays absent through the first stage, the second takes
away all that was added, and so the third has nothing to overlook
(`Store.eq_of_overlaid`).
-/
import BlockConfig.Proofs.Session.Listing
import BlockConfig.Proofs.Session.Merge
import BlockConfig.Proofs.Session.ReadOnly
import BlockConfig.Proofs.Session.Sharing

namespace BlockConfig

/-! ## 1. Draining -/

namespace Storage

/-- One storage is another without the entries of some keys, as far as these
are not read-only. -/
structure Drained (before after : Storage) (keys : List String) : Prop where
  locks : after.locks = before.locks
  entries : ∀ key, after.entries.get? key
    = if key ∈ keys ∧ before.isLocked key = false then none else before.entries.get? key

/-- What unsetting a full key is answered with. -/
def parting (s : Storage) (key : String) : Answer :=
  if s.isLocked key then .failed (.readOnly key .unset)
  else .ofEntry key (s.entries.get? key)

variable {s t u : Storage} {key : String} {keys : List String}

theorem drained_nil (s : Storage) : s.Drained s [] := ⟨rfl, fun key => by simp⟩

theorem Drained.cons (h : s.Drained t [key]) (hrest : t.Drained u keys) :
    s.Drained u (key :: keys) := by
  refine ⟨hrest.locks.trans h.locks, fun k => ?_⟩
  rw [hrest.entries, h.entries, isLocked_congr h.locks]
  by_cases hkey : k = key <;> by_cases hk : k ∈ keys <;> cases s.isLocked k <;> simp [hkey, hk]

/-- Elsewhere the answers are as they were. -/
theorem Drained.parting_eq (h : s.Drained t [key]) {other : String} (hne : other ≠ key) :
    t.parting other = s.parting other := by
  have hentry : t.entries.get? other = s.entries.get? other := by
    rw [h.entries]
    simp [hne]
  rw [parting, parting, isLocked_congr h.locks, hentry]

/-- An unset that finds nothing to take away, or may not, leaves the storage
without that entry just as well. -/
theorem drained_of_unset_error {e : ConfigError} (h : s.unset key = .error e) :
    s.parting key = .failed e ∧ s.Drained s [key] := by
  unfold unset at h
  cases hl : s.isLocked key with
  | true =>
    rw [hl, if_pos rfl] at h
    obtain rfl := Except.error.inj h
    refine ⟨by simp [parting, hl], rfl, fun k => ?_⟩
    by_cases hk : k = key <;> simp [hk, hl]
  | false =>
    cases he : s.entries.get? key with
    | some value => simp [hl, he] at h
    | none =>
      simp only [hl, he, Bool.false_eq_true, if_false] at h
      obtain rfl := Except.error.inj h
      refine ⟨by simp [parting, hl, he, Answer.ofEntry], rfl, fun k => ?_⟩
      by_cases hk : k = key <;> simp [hk, he]

theorem drained_of_unset_ok {value : String} (h : s.unset key = .ok (value, t)) :
    s.parting key = .text value ∧ s.Drained t [key] := by
  obtain ⟨hl, he, rfl⟩ := unset_eq_ok_iff.1 h
  refine ⟨by simp [parting, hl, he, Answer.ofEntry], rfl, fun k => ?_⟩
  rw [Table.get?_erase]
  by_cases hk : k = key <;> simp [hk, hl]

end Storage

namespace Session

/-- The calls that unset the keys that a handle lists now, in their order. -/
def drainCalls (s : Session) (h : Nat) : List Call :=
  match (s.step (.ask h .keys)).answer with
  | .keys keys => keys.map fun key => .edit h (.unset key)
  | _ => []

def drain (s : Session) (h : Nat) : Session × List Answer := s.run (s.drainCalls h)

variable {s : Session} {h : Nat} {store : Store}

theorem step_unset (hs : s.store? h = some store) (key : String) :
    ∃ next, store.storage.Drained next [store.qualify key]
      ∧ (s.step (.edit h (.unset key))).session = s.putBack h next
      ∧ (s.step (.edit h (.unset key))).answer = store.storage.parting (store.qualify key) := by
  cases hu : store.storage.unset (store.scope ++ key) with
  | error e =>
    obtain ⟨hparting, hdrained⟩ := Storage.drained_of_unset_error hu
    have he : store.storage.edit store.scope (.unset key) = .error e := by
      rw [Storage.edit, hu]
      rfl
    obtain ⟨hsession, hanswer⟩ := step_edit_of_error hs he
    exact ⟨_, hdrained, hsession.trans (putBack_self hs).symm, hanswer.trans hparting.symm⟩
  | ok p =>
    obtain ⟨hparting, hdrained⟩ := Storage.drained_of_unset_ok hu
    have he : store.storage.edit store.scope (.unset key) = .ok (.text p.1, p.2) := by
      rw [Storage.edit, hu]
      rfl
    obtain ⟨hsession, hanswer⟩ := step_edit_of_ok hs he
    exact ⟨p.2, hdrained, hsession, hanswer.trans hparting.symm⟩

/-- Keys that are unset one after another. A key is not met twice, so each
answer can be told from the storage before the first. -/
theorem run_unset {keys : List String} (hs : s.store? h = some store) (hkeys : keys.Nodup) :
    ∃ next, store.storage.Drained next (keys.map store.qualify)
      ∧ (s.run (keys.map fun key => .edit h (.unset key))).1 = s.putBack h next
      ∧ (s.run (keys.map fun key => .edit h (.unset key))).2
        = keys.map fun key => store.storage.parting (store.qualify key) := by
  induction keys generalizing s store with
  | nil => exact ⟨store.storage, store.storage.drained_nil, (putBack_self hs).symm, rfl⟩
  | cons key rest ih =>
    obtain ⟨hkey, hrest⟩ := List.nodup_cons.1 hkeys
    obtain ⟨next, hfirst, hsession, hanswer⟩ := step_unset hs key
    obtain ⟨last, hlater, hrun, hanswers⟩ := ih (store?_putBack hs next) hrest
    refine ⟨last, hfirst.cons hlater, ?_, ?_⟩
    · rw [List.map_cons, run, hsession, hrun, putBack_putBack hs]
    · rw [List.map_cons, run, hanswer, hsession, hanswers, List.map_cons]
      refine congrArg _ (List.map_congr_left fun k hk => ?_)
      refine hfirst.parting_eq fun heq => hkey ?_
      obtain rfl := String.append_right_inj store.scope |>.1 heq
      exact hk

theorem drain_eq (hs : s.store? h = some store) :
    ∃ next, store.storage.Drained next (store.keys.map store.qualify)
      ∧ (s.drain h).1 = s.putBack h next
      ∧ (s.drain h).2 = store.keys.map fun key => store.storage.parting (store.qualify key) := by
  have hcalls : s.drainCalls h = store.keys.map fun key => .edit h (.unset key) := by
    rw [drainCalls, answer_ask hs, Store.answer]
  rw [drain, hcalls]
  exact run_unset hs store.entries.sorted.nodup_keys

end Session

/-! ## 2. What draining leaves -/

namespace Store

variable {s : Store} {after : Storage}

/-- Below the scope the read-only entries are left. That nothing is stored
at the scope itself has to be known: it would not be listed, and not be
drained either. -/
theorem get?_drained (hshown : ∀ key, s.entries.get? key = s.storage.entries.get? (s.qualify key))
    (h : s.storage.Drained after (s.keys.map s.qualify)) (key : String) :
    after.entries.get? (s.qualify key)
      = if s.isReadOnly key then s.storage.entries.get? (s.qualify key) else none := by
  rw [h.entries]
  cases hl : s.isReadOnly key with
  | true =>
    have hlocked : s.storage.isLocked (s.qualify key) = true := hl
    simp [hlocked]
  | false =>
    have hunlocked : s.storage.isLocked (s.qualify key) = false := hl
    by_cases hkey : key ∈ s.keys
    · rw [if_pos ⟨List.mem_map_of_mem hkey, hunlocked⟩]
      rfl
    · have hnone : s.storage.entries.get? (s.qualify key) = none := by
        rw [← hshown]
        exact Pairs.lookup_eq_none_iff.2 hkey
      simp [hnone]

theorem get?_drained_of_not_leads (h : s.storage.Drained after (s.keys.map s.qualify))
    {key : String} (hkey : ¬ Key.Leads s.scope key) :
    after.entries.get? key = s.storage.entries.get? key := by
  have hnot : key ∉ s.keys.map s.qualify := by
    intro hmem
    obtain ⟨rest, -, rfl⟩ := List.mem_map.1 hmem
    exact hkey ⟨rest, rfl⟩
  rw [h.entries, if_neg fun hboth => hnot hboth.1]

theorem entries_drained
    (hshown : ∀ key, s.entries.get? key = s.storage.entries.get? (s.qualify key))
    (h : s.storage.Drained after (s.keys.map s.qualify)) :
    ({ s with storage := after } : Store).entries.toList
      = s.entries.toList.filter fun p => s.isReadOnly p.1 := by
  refine Pairs.eq_of_lookup_eq (Table.sorted _) (s.entries.sorted.sublist List.filter_sublist)
    fun key => ?_
  rw [Pairs.lookup_filter_key]
  refine (get?_entries _ key).trans ?_
  by_cases hkey : key = ""
  · subst hkey
    have hnone : Pairs.lookup "" s.entries.toList = none := Table.get?_under_empty ..
    simp [hnone]
  · rw [if_neg hkey]
    refine (get?_drained hshown h key).trans ?_
    rw [← hshown]
    rfl

end Store

/-! ## 3. Changes through a scope -/

/-- The changes through a handle that lock nothing. -/
inductive Call.Revises (h : Nat) : Call → Prop
  | edit {e : Edit} (he : ∀ key, e ≠ .lock key) : Revises h (.edit h e)
  | merge (source : Nat) : Revises h (.merge h source)

namespace Storage

/-- What changes through a scope that lock nothing can make of a storage. -/
structure Revised (scope : String) (before after : Storage) : Prop where
  locks : after.locks = before.locks
  outside : ∀ key, ¬ Key.Leads scope key → after.entries.get? key = before.entries.get? key
  locked : ∀ key, before.isLocked key = true → after.entries.get? key = before.entries.get? key

variable {s t u : Storage} {scope : String}

theorem Revised.refl (scope : String) (s : Storage) : s.Revised scope s :=
  ⟨rfl, fun _ _ => rfl, fun _ _ => rfl⟩

theorem Revised.trans (h : Revised scope s t) (h' : Revised scope t u) : Revised scope s u where
  locks := h'.locks.trans h.locks
  outside key hkey := (h'.outside key hkey).trans (h.outside key hkey)
  locked key hl := by
    have hl' : t.isLocked key = true := by rw [isLocked_congr h.locks, hl]
    exact (h'.locked key hl').trans (h.locked key hl)

/-- One change that is accepted, if it leaves the locks and what the scope
does not lead. -/
theorem Change.revised (hc : s.Change t) (hlocks : t.locks = s.locks)
    (hagree : s.AgreeWhere (fun key => ¬ Key.Leads scope key) t) : Revised scope s t where
  locks := hlocks
  outside key hkey := (hagree key hkey).1.symm
  locked _ hl := (hc.frozen hl).2

theorem locks_of_edit {e : Edit} {answer : Answer} (h : s.edit scope e = .ok (answer, t))
    (he : ∀ key, e ≠ .lock key) : t.locks = s.locks := by
  cases e with
  | set key value | insert key value =>
    obtain ⟨u, hu, hp⟩ := map_eq_ok_iff.1 h
    obtain ⟨-, rfl⟩ := set_eq_ok_iff.1 hu
    cases hp
    rfl
  | unset key | remove key =>
    obtain ⟨⟨value, u⟩, hu, hp⟩ := map_eq_ok_iff.1 h
    obtain ⟨-, -, rfl⟩ := unset_eq_ok_iff.1 hu
    cases hp
    rfl
  | lock key => exact absurd rfl (he key)

theorem revised_of_edit {e : Edit} {answer : Answer} (h : s.edit scope e = .ok (answer, t))
    (he : ∀ key, e ≠ .lock key) : Revised scope s t := by
  refine (change_of_edit h).revised (locks_of_edit h he) ?_
  exact (agree_of_edit h).imp fun key hkey heq => hkey ⟨e.key, heq⟩

theorem revised_of_merge {given : Store}
    (h : s.setAll ((⟨s, scope⟩ : Store).incoming given) = .ok t) : Revised scope s t := by
  have hmerge : ((⟨s, scope⟩ : Store).merge given).result = .ok ⟨t, scope⟩ := by
    rw [Store.result_merge, h]
    rfl
  refine (Change.setAll h).revised ?_ (Store.agree_of_merge hmerge)
  obtain ⟨-, rfl⟩ := setAll_eq_ok_iff.1 h
  rfl

end Storage

namespace Session

variable {s : Session} {h : Nat} {store : Store}

theorem step_revises (hs : s.store? h = some store) {call : Call} (hc : call.Revises h) :
    ∃ next, store.storage.Revised store.scope next
      ∧ (s.step call).session = s.putBack h next := by
  cases hc with
  | @edit e he =>
    cases hedit : store.storage.edit store.scope e with
    | error err =>
      refine ⟨store.storage, .refl _ _, ?_⟩
      rw [(step_edit_of_error hs hedit).1, putBack_self hs]
    | ok p => exact ⟨p.2, Storage.revised_of_edit hedit he, (step_edit_of_ok hs hedit).1⟩
  | merge source =>
    cases hg : s.store? source with
    | none =>
      refine ⟨store.storage, .refl _ _, ?_⟩
      rw [step_merge_of_none hg, putBack_self hs]
    | some given =>
      cases hall : store.storage.setAll (store.incoming given) with
      | error err =>
        refine ⟨store.storage, .refl _ _, ?_⟩
        rw [(step_merge_of_error hs hg hall).1, putBack_self hs]
      | ok next => exact ⟨next, Storage.revised_of_merge hall, (step_merge_of_ok hs hg hall).1⟩

theorem run_revises (hs : s.store? h = some store) {calls : List Call}
    (hcalls : ∀ call ∈ calls, call.Revises h) :
    ∃ next, store.storage.Revised store.scope next ∧ (s.run calls).1 = s.putBack h next := by
  induction calls generalizing s store with
  | nil => exact ⟨store.storage, .refl _ _, (putBack_self hs).symm⟩
  | cons call rest ih =>
    obtain ⟨hfirst, hrest⟩ := List.forall_mem_cons.1 hcalls
    obtain ⟨next, hstep, hsession⟩ := step_revises hs hfirst
    obtain ⟨last, hlater, hrun⟩ := ih (store?_putBack hs next) hrest
    refine ⟨last, hstep.trans hlater, ?_⟩
    rw [run, hsession, hrun, putBack_putBack hs]

end Session

/-! ## 4. Putting back what was saved -/

theorem Storage.Overlaid.get?_of_not_leads {before after : Storage} {scope key : String}
    {given : Table String} (h : before.Overlaid after scope given)
    (hkey : ¬ Key.Leads scope key) : after.entries.get? key = before.entries.get? key := by
  have hnone : Key.within? scope key = none :=
    Option.eq_none_iff_forall_ne_some.2 fun rest hrest =>
      hkey ⟨rest, (Key.within?_eq_some_iff.1 hrest).1⟩
  rw [h.entries, hnone]
  rfl

/-- Changed through the scope, drained, and overlaid with what was shown at
the start: that is the storage of the start. -/
theorem Store.eq_of_overlaid {s t : Store} {drained restored : Storage}
    (hs : ∀ key, s.entries.get? key = s.storage.entries.get? (s.qualify key))
    (ht : ∀ key, t.entries.get? key = t.storage.entries.get? (t.qualify key))
    (hscope : t.scope = s.scope) (hrevised : s.storage.Revised s.scope t.storage)
    (hdrained : t.storage.Drained drained (t.keys.map t.qualify))
    (hrestored : drained.Overlaid restored s.scope s.entries) : restored = s.storage := by
  have hentries : restored.entries = s.storage.entries := by
    refine Table.ext_get? fun key => ?_
    by_cases hkey : Key.Leads s.scope key
    · obtain ⟨rest, rfl⟩ := hkey
      have hleft : drained.entries.get? (s.scope ++ rest)
          = if t.isReadOnly rest then t.storage.entries.get? (s.scope ++ rest) else none := by
        have hget := get?_drained ht hdrained rest
        rwa [qualify, hscope] at hget
      rw [hrestored.get?_append (Table.get?_under_empty ..), hs, hleft]
      cases hbefore : s.storage.entries.get? (s.qualify rest) with
      | some value => exact hbefore.symm
      | none =>
        -- A read-only key without a value cannot have been given one.
        have hnone : s.storage.entries.get? (s.scope ++ rest) = none := hbefore
        rw [hnone, Option.none_or]
        split
        · next hl =>
          have hlocked : s.storage.isLocked (s.scope ++ rest) = true := by
            rwa [isReadOnly, qualify, hscope, Storage.isLocked_congr hrevised.locks] at hl
          rw [hrevised.locked _ hlocked, hnone]
        · rfl
    · rw [hrestored.get?_of_not_leads hkey,
        get?_drained_of_not_leads hdrained (hscope.symm ▸ hkey), hrevised.outside key hkey]
  have hlocks : restored.locks = s.storage.locks :=
    hrestored.locks.trans (hdrained.locks.trans hrevised.locks)
  cases restored
  exact congrArg₂ Storage.mk hentries hlocks

namespace Session

variable {s : Session} {h : Nat} {store : Store}

/-- To drain a handle gives back the values that it showed, but for the
read-only ones. These are refused and left, and so is everything outside
the scope. -/
structure Drains (s : Session) (h : Nat) (store : Store) : Prop where
  answers : (s.drain h).2 = store.entries.toList.map fun p =>
    if store.isReadOnly p.1 then .failed (.readOnly (store.scope ++ p.1) .unset) else .text p.2
  entries : ((s.drain h).1.step (.ask h .entries)).answer
    = .entries (store.entries.toList.filter fun p => store.isReadOnly p.1)
  storage : ∃ i next, s.handle? h = some ⟨i, store.scope⟩
    ∧ (s.drain h).1 = { s with storages := s.storages.set i next }
    ∧ next.locks = store.storage.locks
    ∧ ∀ key, ¬ Key.Leads store.scope key →
        next.entries.get? key = store.storage.entries.get? key

theorem WellFormed.drains (hw : s.WellFormed) (hs : s.store? h = some store) :
    s.Drains h store := by
  obtain ⟨next, hdrained, hsession, hanswers⟩ := drain_eq hs
  have hshown := hw.get?_entries hs
  constructor
  case answers =>
    rw [hanswers, Store.keys, Table.keys, List.map_map]
    refine List.map_congr_left fun p hp => ?_
    have hvalue : store.storage.entries.get? (store.qualify p.1) = some p.2 := by
      rw [← hshown]
      exact Table.mem_toList_iff.1 hp
    rw [Function.comp_apply, Storage.parting, hvalue]
    rfl
  case entries =>
    rw [hsession, answer_ask (store?_putBack hs next), Store.answer,
      Store.entries_drained hshown hdrained]
  case storage =>
    obtain ⟨i, hh, -⟩ := store?_eq_some_iff.1 hs
    refine ⟨i, next, hh, hsession.trans (putBack_of_handle? hh next), hdrained.locks, ?_⟩
    exact fun key hkey => Store.get?_drained_of_not_leads hdrained hkey

/-- What is shown can be written again, in every storage with the same
locks, if none of it is read-only. -/
theorem WellFormed.setAll_incoming (hw : s.WellFormed) (hs : s.store? h = some store)
    (hunlocked : ∀ key ∈ store.keys, store.isReadOnly key = false) {given : Store}
    (hgiven : given.entries = store.entries) {other : Storage}
    (hlocks : other.locks = store.storage.locks) :
    ∃ next, other.setAll (store.incoming given) = .ok next := by
  refine ⟨_, Storage.setAll_eq_ok_iff.2 ⟨fun p hp => ?_, rfl⟩⟩
  have hkey : p.1 ∈ (store.incoming given).map Prod.fst := List.mem_map_of_mem hp
  rw [Store.keys_incoming, Store.keys, hgiven] at hkey
  obtain ⟨key, hmem, heq⟩ := List.mem_map.1 hkey
  rw [← heq, Storage.isLocked_congr hlocks]
  refine ⟨(hw.keysValid_of_store? hs).entries _ ?_, hunlocked key hmem⟩
  rw [Table.contains_eq, ← hw.get?_entries hs, ← Table.contains_eq]
  exact Table.mem_keys_iff.1 hmem

/-- A snapshot shows what the handle shows. -/
theorem entries_snapshot (store : Store) : store.snapshot.entries = store.entries := by
  rw [Store.snapshot, Store.entries_subblock, Store.view, Key.scopeOf_empty, String.append_empty]

/-- To drain a handle takes away the entries that are not read-only, and
nothing else. If nothing that a handle shows is read-only, then a snapshot
of it, merged into the drained handle, restores the session of the
snapshot, whatever was set, unset or merged through the handle in between. -/
theorem drain_restores (hr : s.Reachable) (hs : s.store? h = some store) :
    s.Drains h store
    ∧ ((∀ key ∈ store.keys, store.isReadOnly key = false) →
        let saved := (s.step (.snapshot h)).session
        (s.step (.snapshot h)).answer = .handle s.nextHandle
        ∧ saved.store? h = some store
        ∧ ∀ calls : List Call, (∀ call ∈ calls, call.Revises h) →
            let drained := ((saved.run calls).1.drain h).1
            (drained.step (.merge h s.nextHandle)).answer = .done
            ∧ (drained.step (.merge h s.nextHandle)).session = saved) := by
  refine ⟨(wellFormed_of_reachable hr).drains hs, fun hunlocked => ?_⟩
  intro saved
  have hcopy : s.step (.snapshot h)
      = ⟨s.adopt store.snapshot, .handle s.nextHandle, [store.subblockEvent ""]⟩ :=
    copy_of_store? hs ""
  have hsaved : saved = s.adopt store.snapshot := congrArg Step.session hcopy
  have hstore : saved.store? h = some store := hsaved ▸ store?_adopt_of_some hs _
  refine ⟨congrArg Step.answer hcopy, hstore, fun calls hcalls => ?_⟩
  intro drained
  have hw : saved.WellFormed := wellFormed_of_reachable (hr.run [.snapshot h])
  -- The calls and the draining change the storage of the handle only.
  obtain ⟨x, hrevised, hrun⟩ := run_revises hstore hcalls
  have hx : (saved.run calls).1.store? h = some { store with storage := x } :=
    hrun ▸ store?_putBack hstore x
  have hwx : (saved.run calls).1.WellFormed :=
    wellFormed_of_reachable ((hr.run [.snapshot h]).run calls)
  obtain ⟨y, hdrained, hdrain, -⟩ := drain_eq hx
  have hput : drained = saved.putBack h y := by
    rw [show drained = _ from hdrain, hrun, putBack_putBack hstore]
  have hy : drained.store? h = some { store with storage := y } :=
    hput ▸ store?_putBack hstore y
  -- So the snapshot is still there, in a storage of its own.
  have hgiven : drained.store? s.nextHandle = some store.snapshot := by
    obtain ⟨i, hh, hi⟩ := store?_eq_some_iff.1 hs
    have hne : i ≠ s.storages.length := Nat.ne_of_lt (List.getElem?_eq_some_iff.1 hi).1
    rw [hput, hsaved, store?_putBack_of_ne (handle?_adopt_of_some hh _)
      (handle?_attach_nextHandle s _) hne, store?_adopt]
  have hlocks : y.locks = store.storage.locks := hdrained.locks.trans hrevised.locks
  obtain ⟨z, hz⟩ := hw.setAll_incoming hstore hunlocked (entries_snapshot store) hlocks
  obtain ⟨hsession, hanswer⟩ := step_merge_of_ok hy hgiven hz
  have hrestored : y.Overlaid z store.scope store.snapshot.entries :=
    Store.overlaid_setAll (s := { store with storage := y }) hz
  rw [entries_snapshot] at hrestored
  have hback : z = store.storage :=
    Store.eq_of_overlaid (hw.get?_entries hstore) (hwx.get?_entries hx) rfl hrevised hdrained
      hrestored
  refine ⟨hanswer, ?_⟩
  rw [hsession, hput, putBack_putBack hstore, hback, putBack_self hstore]

/-- The block `a` has a lock on a key without a value, and beside it stands
a read-only key. Through the view of the block values are set, taken away
and merged in, and some calls are refused. -/
theorem restored_block :
    let s := (Session.run {} [.createFrom [("a:x", "1"), ("a:y", "2"), ("ab", "3")],
      .edit 0 (.lock "ab"), .edit 0 (.lock "a:z"), .view 0 "a",
      .createFrom [("x", "9"), ("z", "8")], .createFrom [("w", "7"), ("y", "6")]]).1
    let storage : Storage := ⟨.ofList [("a:x", "1"), ("a:y", "2"), ("ab", "3")],
      .ofList [("a:z", ()), ("ab", ())]⟩
    let calls : List Call := [.edit 1 (.set "x" "5"), .edit 1 (.unset "y"), .merge 1 2,
      .merge 1 3, .edit 1 (.set "" "0"), .merge 1 4]
    let saved := (s.step (.snapshot 1)).session
    let drained := ((saved.run calls).1.drain 1).1
    s.Reachable ∧ s.store? 0 = some ⟨storage, ""⟩ ∧ s.store? 1 = some ⟨storage, "a:"⟩
      ∧ (s.drain 0).2 = [.text "1", .text "2", .failed (.readOnly "ab" .unset)]
      ∧ (saved.run calls).2 = [.done, .text "2", .failed (.readOnly "a:z" .set), .done,
          .failed (.invalidKey "a:" .emptySegment), .done]
      ∧ (∀ key ∈ (⟨storage, "a:"⟩ : Store).keys, (⟨storage, "a:"⟩ : Store).isReadOnly key = false)
      ∧ (∀ call ∈ calls, call.Revises 1)
      ∧ (drained.step (.merge 1 4)).session = saved := by
  intro s storage calls saved drained
  have hr : s.Reachable := ⟨_, rfl⟩
  have hroot : s.store? 0 = some ⟨storage, ""⟩ := by decide
  have hblock : s.store? 1 = some ⟨storage, "a:"⟩ := by decide
  have hunlocked : ∀ key ∈ (⟨storage, "a:"⟩ : Store).keys,
      (⟨storage, "a:"⟩ : Store).isReadOnly key = false := by decide
  have hcalls : ∀ call ∈ calls, call.Revises 1 := by
    simp only [calls, List.forall_mem_cons, List.not_mem_nil, false_imp_iff, implies_true, and_true]
    exact ⟨.edit (by simp), .edit (by simp), .merge 2, .merge 3, .edit (by simp), .merge 4⟩
  refine ⟨hr, hroot, hblock, ?_, by decide, hunlocked, hcalls, ?_⟩
  · exact (drain_restores hr hroot).1.answers
  · exact ((drain_restores hr hblock).2 hunlocked |>.2.2 calls hcalls).2

end Session

end BlockConfig
